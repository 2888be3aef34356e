-- Running a command: what goes to standard output, what to the error
-- output, the log lines that are asked for, and the exit status.
import NodeSettings.CommandLine.Arguments
import NodeSettings.Repository.Rewrite
import NodeSettings.Repository.Store
import NodeSettings.Text.Escaped

namespace NodeSettings.CommandLine

open Files (FileAccess FileError)
open Repository (Fault Level LogLine Store)

/-! ## How much is logged -/

/-- The log lines that are shown: none, or those up to a level. -/
abbrev Verbosity := Option Level

def Verbosity.ofText (s : Option String) : Verbosity :=
  match s.map fun s => String.ofList (Text.lowercase s.toList) with
  | none | some "info" | some "3" => some .info
  | some "" | some "error" | some "1" => some .error
  | some "warn" | some "2" => some .warn
  | some "debug" | some "4" | some "trace" | some "5" => some .debug
  | some _ => none

def Level.rank : Level → Nat
  | .error => 1
  | .warn => 2
  | .info => 3
  | .debug => 4

def Verbosity.shows (v : Verbosity) (l : LogLine) : Bool :=
  match v with
  | none => false
  | some level => Level.rank l.level ≤ Level.rank level

/-! ## How a log line is shown -/

/-- Characters below 128 that can steer a terminal. -/
def terminalControls : List Char := ['\x07', '\x08', '\x0c', '\x1b', '\x7f']

/-- A character of a log line. What can steer a terminal is spelled out; tabs and the ends of lines
are not. -/
def shownChar (c : Char) : List Char :=
  if terminalControls.contains c then
    ['\\', 'x'] ++ Decimal.leftPad 2 (Text.hexText c.toNat)
  else if '\x80' ≤ c && c ≤ '\u009f' then
    ['\\', 'u', '\x7b'] ++ Text.hexText c.toNat ++ ['\x7d']
  else [c]

/-- A log line as it is shown, and the lines that its text goes on in. -/
def shown (l : LogLine) : String × List String :=
  match (l.message.toList.flatMap shownChar).splitOn '\n' with
  | first :: more => (String.ofList first, more.map String.ofList)
  | [] => ("", [])

/-! ## Reports -/

structure Report where
  exit : UInt32 := 0
  output : String := ""
  errors : String := ""
  lines : List LogLine := []
deriving DecidableEq

/-- The error output without the log lines. It starts with what log lines go on in. -/
def Report.remarks (r : Report) : String :=
  String.join (r.lines.flatMap fun l => (shown l).2.map (· ++ "\n")) ++ r.errors

/-- A text whose further lines are indented below its first one. -/
def indented (s : String) : String := (s.replace "\n" "\n       ")

/-- What a failed command prints: what it tried, then the fault, then what is behind it. -/
def failureText (context : String) (f : Fault) : String :=
  "Error: " ++ context ++ "\n\nCaused by:\n    0: " ++ indented f.message ++
    "\n    1: " ++ indented f.cause ++ "\n"

def failure (context : String) (f : Fault) (lines : List LogLine) : Report :=
  { exit := 1, errors := failureText context f, lines }

def version : String := "node-config 0.1.0\n"

def usage : String := "Usage: node-config [--repo DIR] [--standalone] COMMAND\n
Commands:
  init [--multi-address A] [--node-name N] [--port P]
  validate
  show
  rpc [NAME]\n"

/-! ## Commands -/

variable {m : Type → Type} [Monad m] [FileAccess m]

/-- Loads a store and shows something of it. A missing field is logged as an error. -/
def withStore (i : Invocation) (display : Store → String) : m Report := do
  let (result, lines) ← (Repository.load i.repository i.mode : Repository.Action m Store).outcome
  match result with
  | .ok s => return { output := display s, lines }
  | .error f =>
    let missing := f.missing?.toList.map fun p =>
      LogLine.mk .error ("required field " ++ p.dotted ++ " not given")
    return failure ("failed to load config from " ++ i.repository) f (lines ++ missing)

def Invocation.run (i : Invocation) (host : m (Except FileError String)) : m Report :=
  match i.command with
  | .init o => do
    let (result, lines) ← (Repository.setUp i.repository o host).outcome
    match result with
    | .ok c =>
      let ready := "repository " ++ i.repository ++ " ready (node " ++ c.api.nodeName ++ ")"
      return { lines := lines ++ [⟨.info, ready⟩] }
    | .error f => return failure ("failed to initialise repository " ++ i.repository) f lines
  | .validate => withStore i fun s => "config is valid for " ++ s.mode.name ++ " mode\n"
  | .display => withStore i fun s => s.settings.encode
  | .endpoint name => withStore i fun s => s.settings.endpoint name ++ "\n"

/-- The answer to a command line, with the log lines that the environment asks for. -/
def answer (env : Environment) (args : List String) (host : m (Except FileError String)) :
    m Report :=
  match Request.ofArguments env args with
  | .misuse => return { exit := 2, errors := usage }
  | .help => return { output := usage }
  | .version => return { output := version }
  | .run i => do
    let report ← i.run host
    return { report with lines := report.lines.filter (Verbosity.ofText env.verbosity).shows }

end NodeSettings.CommandLine
