-- The calls on files that the repository needs, wherever the files are.
-- The pure disk is one place; the operating system is another.
import NodeSettings.Files.Calls

namespace NodeSettings.Files

class FileAccess (m : Type → Type) where
  read : String → m (Except FileError ByteArray)
  isThere : String → m Bool
  isDirectory : String → m Bool
  makeDirectory : String → m (Except FileError Unit)
  createNew : String → ByteArray → m (Except WriteError Unit)
  write : String → ByteArray → m (Except WriteError Unit)
  removeFile : String → m (Except FileError Unit)

/-- A call on the disk that changes it if it succeeds. -/
def Disk.change {ε : Type} (call : Disk → Except ε Disk) : StateM Disk (Except ε Unit) := fun d =>
  match call d with
  | .ok d' => (.ok (), d')
  | .error e => (.error e, d)

theorem Disk.change_ok {ε : Type} {call : Disk → Except ε Disk} {d d' : Disk}
    (h : call d = .ok d') : Disk.change call d = (.ok (), d') := by
  unfold Disk.change
  rw [h]

theorem Disk.change_error {ε : Type} {call : Disk → Except ε Disk} {d : Disk} {e : ε}
    (h : call d = .error e) : Disk.change call d = (.error e, d) := by
  unfold Disk.change
  rw [h]

instance : FileAccess (StateM Disk) where
  read path := fun d => (d.read path, d)
  isThere path := fun d => (d.isThere path, d)
  isDirectory path := fun d => (d.isDirectory path, d)
  makeDirectory path := Disk.change (·.makeDirectory path)
  createNew path content := Disk.change (·.createNew path content)
  write path content := Disk.change (·.write path content)
  removeFile path := Disk.change (·.removeFile path)

/-! ## Directories with those above them -/

variable {m : Type → Type} [Monad m] [FileAccess m]

/-- Makes the first directory of a list in which each lies in the next one. Where the way to it is
missing, the next one comes first. What is a directory already is fine. -/
def makeFirst : List String → m (Except FileError Unit)
  | [] => pure (.ok ())
  | path :: outer => do
    match ← FileAccess.makeDirectory path with
    | .ok () => pure (.ok ())
    | .error .notFound =>
      match ← makeFirst outer with
      | .error e => pure (.error e)
      | .ok () =>
        match ← FileAccess.makeDirectory path with
        | .ok () => pure (.ok ())
        | .error e => if ← FileAccess.isDirectory path then pure (.ok ()) else pure (.error e)
    | .error e => if ← FileAccess.isDirectory path then pure (.ok ()) else pure (.error e)

/-- Makes a directory and whatever is missing above it. -/
def makeDirectories (path : String) : m (Except FileError Unit) :=
  if path.isEmpty then pure (.ok ()) else makeFirst (path :: above path)

/-- Writes a file and makes the directories above it first. -/
def writeWithDirectories (path : String) (content : ByteArray) : m (Except WriteError Unit) := do
  match ← makeFirst (above path) with
  | .error e => pure (.error (.opening e))
  | .ok () => FileAccess.write path content

end NodeSettings.Files
