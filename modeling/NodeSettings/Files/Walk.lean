-- Following a path through the tree to the place it names. Links on the
-- way are followed, up to a fixed number of them; the last step may also
-- stay on a link.
import NodeSettings.Files.Disk
import NodeSettings.Files.FileError
import NodeSettings.Files.Route

namespace NodeSettings.Files

/-! ## Limits -/

/-- The bytes that one name may have. -/
def maxNameBytes : Nat := 255

/-- The bytes that a whole path may have. -/
def maxPathBytes : Nat := 4095

/-- The links that may be followed on one way. -/
def maxLinks : Nat := 40

/-! ## Places -/

/-- Where a way ends: at a directory that it names by a dot, or at a name in a directory, whether
there is an entry of that name or not. -/
inductive Place
  | directory (l : Location)
  | named (parent : Location) (name : String)

/-- Goes the steps from the directory `dir`. Where a link is followed, `jump` goes the rest of the
way: the steps of the link and those behind it, from the directory that the link starts from. A link
at the end is followed only if `follow` says so. -/
def walkWith (d : Disk) (follow : Bool) (jump : Location → List String → Except FileError Place) :
    (dir : Location) → (steps : List String) → Except FileError Place
  | dir, [] => .ok (.directory dir)
  | dir, name :: rest =>
    if name = "." then walkWith d follow jump dir rest
    else if name = ".." then walkWith d follow jump dir.dropLast rest
    else if maxNameBytes < name.utf8ByteSize then .error .nameTooLong
    else match d.get? (dir ++ [name]) with
      | some (.link target) =>
        if rest.isEmpty && !follow then .ok (.named dir name)
        else
          let route := Route.ofText target
          jump (if route.absolute then [] else dir) (route.steps ++ rest)
      | found =>
        if rest.isEmpty then .ok (.named dir name)
        else match found with
          | some .directory => walkWith d follow jump (dir ++ [name]) rest
          | some _ => .error .notDirectory
          | none => .error .notFound

/-- Goes the steps and follows at most so many links. -/
def walk (d : Disk) (follow : Bool) : (links : Nat) → (dir : Location) → (steps : List String) →
    Except FileError Place
  | 0 => walkWith d follow fun _ _ => .error .tooManyLinks
  | links + 1 => walkWith d follow (walk d follow links)

/-- The place that a path names. -/
def Disk.place (d : Disk) (follow : Bool) (path : String) : Except FileError Place :=
  if path.toList.contains '\x00' then .error .nulByte
  else if path.isEmpty then .error .notFound
  else if maxPathBytes < path.utf8ByteSize then .error .nameTooLong
  else
    let route := Route.ofText path
    walk d follow maxLinks (if route.absolute then [] else d.working) route.steps

end NodeSettings.Files
