-- The program: arguments, environment and the files of the machine come in,
-- texts and an exit status go out.
import NodeSettings.CommandLine.Run

namespace NodeSettings.Main

open Files (FileAccess FileError WriteError)

/-! ## The files of the machine -/

/-- The number of an error. Some calls give it with a minus, as a word of 32 bits. -/
def numberOf (code : UInt32) : Nat := min code.toNat (0x100000000 - code.toNat)

def errorOf : IO.Error → FileError
  | .alreadyExists _ code text | .noFileOrDirectory _ code text | .invalidArgument _ code text
  | .permissionDenied _ code text | .resourceExhausted _ code text
  | .inappropriateType _ code text | .noSuchThing _ code text | .interrupted _ code text
  | .otherError code text | .resourceBusy code text | .resourceVanished code text
  | .unsupportedOperation code text | .hardwareFault code text
  | .unsatisfiedConstraints code text | .illegalOperation code text | .protocolError code text
  | .timeExpired code text => .ofNumber (numberOf code) text
  | e => .other (toString e)

/-- A call with its error as a value. Paths with a NUL character never reach the system. -/
def attempt {α : Type} (path : String) (call : IO α) : IO (Except FileError α) := do
  if path.toList.contains '\x00' then return .error .nulByte
  match ← call.toBaseIO with
  | .ok a => return .ok a
  | .error e => return .error (errorOf e)

/-- Opens a file and writes to it. -/
def writeFile (path : String) (mode : IO.FS.Mode) (content : ByteArray) :
    IO (Except WriteError Unit) := do
  match ← attempt path (IO.FS.Handle.mk path mode) with
  | .error e => return .error (.opening e)
  | .ok handle =>
    match ← attempt path (do handle.write content; handle.flush) with
    | .error e => return .error (.writing e)
    | .ok () => return .ok ()

instance : FileAccess IO where
  read path := attempt path (IO.FS.readBinFile path)
  isThere path := do ((← IO.currentDir) / path).pathExists
  isDirectory path := do ((← IO.currentDir) / path).isDir
  makeDirectory path := attempt path (IO.FS.createDir path)
  createNew path content := writeFile path .writeNew content
  write path content := writeFile path .write content
  removeFile path := attempt path (IO.FS.removeFile path)

/-! ## The rest of the machine -/

def hostName : IO (Except FileError String) := do
  match ← attempt "" (IO.FS.readFile "/proc/sys/kernel/hostname") with
  | .ok name => return .ok (String.ofList (name.toList.filter (· != '\n')))
  | .error e => return .error e

def environment : IO CommandLine.Environment := do
  return {
    repository := ← IO.getEnv "CP_PATH"
    standalone := ← IO.getEnv "CP_STANDALONE"
    home := ← IO.getEnv "HOME"
    verbosity := ← IO.getEnv "RUST_LOG" }

end NodeSettings.Main

def main (args : List String) : IO UInt32 := do
  let report ← NodeSettings.CommandLine.answer (← NodeSettings.Main.environment) args
    NodeSettings.Main.hostName
  for line in report.lines do
    let (first, more) := NodeSettings.CommandLine.shown line
    for text in first :: more do
      IO.eprintln text
  IO.print report.output
  IO.eprint report.errors
  return report.exit
