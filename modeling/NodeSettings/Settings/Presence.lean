-- Which keys a document defines, whatever their values: the paths of all
-- keys in nested tables. Arrays are not looked into. From two such sets
-- comes the report of unknown keys.
import NodeSettings.Toml.Value

namespace NodeSettings

open Toml (Value Table)

abbrev Path := List String

/-! ## Defined paths -/

mutual

/-- The paths below a value. -/
def pathsBelow : Value → List Path
  | .table es => pathsOf es
  | _ => []

/-- The paths of a table, each key before the keys below it. -/
def pathsOf : List (String × Value) → List Path
  | [] => []
  | (k, v) :: es => [k] :: (pathsBelow v).map (k :: ·) ++ pathsOf es

end

/-- The paths that a document defines. -/
structure Presence where
  paths : List Path
deriving DecidableEq

namespace Presence

def ofTable (t : Table) : Presence := ⟨pathsOf t⟩

def empty : Presence := ⟨[]⟩

def defines (p : Presence) (path : Path) : Bool := p.paths.contains path

def size (p : Presence) : Nat := p.paths.length

/-! ## Unknown keys -/

/-- The paths of `seen` that `known` lacks, without those below one that is already in `kept`. -/
def outermost (known : Presence) (kept : List Path) : (seen : List Path) → List Path
  | [] => kept
  | path :: seen =>
    if known.defines path || kept.any (·.isPrefixOf path) then outermost known kept seen
    else outermost known (kept ++ [path]) seen

/-- The unknown paths, outermost ones only. -/
def unknownPaths (p known : Presence) : List Path := outermost known [] p.paths

def dotted (path : Path) : String := ".".intercalate path

/-- The unknown keys by their dotted names. -/
def unknown (p known : Presence) : List String := (p.unknownPaths known).map dotted

end Presence

end NodeSettings
