-- The calls on files, as functions on a disk. A call fails only because of
-- its path and the tree, or because a device has no room; then the disk
-- stays as it was.
import NodeSettings.Files.Walk

namespace NodeSettings.Files

/-- Why a file was not written: it could not be opened, or it did not take the content. -/
inductive WriteError
  | opening (e : FileError)
  | writing (e : FileError)
deriving DecidableEq

namespace Disk

/-! ## Looking -/

/-- What a path leads to, links followed. -/
def target (d : Disk) (path : String) : Except FileError Entry := do
  match ← d.place true path with
  | .directory _ => .ok .directory
  | .named parent name =>
    match d.get? (parent ++ [name]) with
    | some e => .ok e
    | none => .error .notFound

def isThere (d : Disk) (path : String) : Bool := (d.target path).isOk

def isDirectory (d : Disk) (path : String) : Bool :=
  match d.target path with
  | .ok .directory => true
  | _ => false

/-- The whole content of a file. The full device would give bytes without end. -/
def read (d : Disk) (path : String) : Except FileError ByteArray := do
  match ← d.target path with
  | .file content => .ok content
  | .directory => .error .isDirectory
  | .device .null => .ok .empty
  | .device .full => .error (.other "the file has no end")
  | .link _ => .error .tooManyLinks

/-! ## Changing -/

/-- Makes one directory. -/
def makeDirectory (d : Disk) (path : String) : Except FileError Disk := do
  match ← d.place false (withoutSlash path) with
  | .directory _ => .error .alreadyThere
  | .named parent name =>
    match d.get? (parent ++ [name]) with
    | some _ => .error .alreadyThere
    | none => .ok (d.put (parent ++ [name]) .directory)

/-- Writes a file that must not be there yet, not even as a link. -/
def createNew (d : Disk) (path : String) (content : ByteArray) : Except WriteError Disk :=
  match d.place false path with
  | .error e => .error (.opening e)
  | .ok (.directory _) => .error (.opening .isDirectory)
  | .ok (.named parent name) =>
    match d.get? (parent ++ [name]) with
    | some _ => .error (.opening .alreadyThere)
    | none => .ok (d.put (parent ++ [name]) (.file content))

/-- Writes a file, new or in place of the old content; a link is followed to where it leads. A path
with a slash at its end can only be a directory. -/
def write (d : Disk) (path : String) (content : ByteArray) : Except WriteError Disk :=
  match d.place true (withoutSlash path) with
  | .error e => .error (.opening e)
  | .ok (.directory _) => .error (.opening .isDirectory)
  | .ok (.named parent name) =>
    if endsInSlash path then .error (.opening .isDirectory)
    else match d.get? (parent ++ [name]) with
    | some .directory => .error (.opening .isDirectory)
    | some (.device .null) => .ok d
    | some (.device .full) => .error (.writing .noSpace)
    | _ => .ok (d.put (parent ++ [name]) (.file content))

/-- Takes the entry of a file away; of a link the link itself. -/
def removeFile (d : Disk) (path : String) : Except FileError Disk := do
  match ← d.place false path with
  | .directory _ => .error .isDirectory
  | .named parent name =>
    match d.get? (parent ++ [name]) with
    | some .directory => .error .isDirectory
    | some _ => .ok (d.erase (parent ++ [name]))
    | none => .error .notFound

/-- Takes an entry away, a directory with all that is in it. -/
def removeAll (d : Disk) (path : String) : Except FileError Disk := do
  match ← d.place false path with
  | .directory l => .ok (d.eraseBelow l)
  | .named parent name =>
    match d.get? (parent ++ [name]) with
    | some .directory => .ok (d.eraseBelow (parent ++ [name]))
    | some _ => .ok (d.erase (parent ++ [name]))
    | none => .error .notFound

def makeLink (d : Disk) (path target : String) : Except FileError Disk := do
  if target.isEmpty then .error .notFound
  match ← d.place false path with
  | .directory _ => .error .alreadyThere
  | .named parent name =>
    match d.get? (parent ++ [name]) with
    | some _ => .error .alreadyThere
    | none => .ok (d.put (parent ++ [name]) (.link target))

end Disk

end NodeSettings.Files
