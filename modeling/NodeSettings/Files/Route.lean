-- Paths as texts, and the steps that a path tells to take. Joining never
-- normalizes anything; the directories above a path are its text without
-- the last names.
namespace NodeSettings.Files

/-! ## Joining -/

def endsInSlash (path : String) : Bool := path.toList.getLast? == some '/'

def isAbsolute (path : String) : Bool := path.toList.head? == some '/'

/-- The path of `name` in `root`: one slash between them, unless the root is empty or ends in one.
-/
def join (root name : String) : String :=
  if root.isEmpty || endsInSlash root then root ++ name else root ++ "/" ++ name

/-! ## Steps -/

/-- The parts between slashes. -/
def splitSlashes : List Char → List (List Char)
  | [] => [[]]
  | c :: cs =>
    if c == '/' then [] :: splitSlashes cs
    else match splitSlashes cs with
      | part :: parts => (c :: part) :: parts
      | [] => [[c]]

/-- Where to start, and what to step through. -/
structure Route where
  absolute : Bool
  steps : List String
deriving DecidableEq

/-- The steps of a path. Doubled slashes count once, and a slash at the end is a step to the
directory itself, so that what stands before it has to be one. -/
def Route.ofText (path : String) : Route :=
  let names := (splitSlashes path.toList).filter (!·.isEmpty)
  let slash := !names.isEmpty && endsInSlash path
  ⟨isAbsolute path, names.map String.ofList ++ if slash then ["."] else []⟩

/-- A path without its slashes at the end, unless it is the path of the top. -/
def withoutSlash (path : String) : String :=
  match (path.toList.reverse.dropWhile (· == '/')).reverse with
  | [] => path
  | kept => String.ofList kept

/-! ## Directories above -/

/-- The names of a path that count for the directories above it: single dots do not, except at the
front. -/
def countedNames (path : String) : List String :=
  match ((splitSlashes path.toList).filter (!·.isEmpty)).map String.ofList with
  | [] => []
  | name :: names =>
    (if name == "." && isAbsolute path then [] else [name]) ++ names.filter (· != ".")

/-- All but the last name, all but the last two, and so on. -/
def shorter (names : List String) : List (List String) :=
  (List.range names.length).reverse.map names.take

/-- The directories above a path, innermost first. The empty path is not one of them. -/
def above (path : String) : List String :=
  if isAbsolute path then (shorter (countedNames path)).map fun ns => "/" ++ "/".intercalate ns
  else ((shorter (countedNames path)).filter (!·.isEmpty)).map ("/".intercalate ·)

end NodeSettings.Files
