-- Reading a document into its statements: assignments, table headers, and
-- headers of array elements. Arrays and inline tables may stand in each
-- other, and keys may have dots, both up to a fixed depth.
import NodeSettings.Toml.Numeral
import NodeSettings.Toml.Tree

namespace NodeSettings.Toml

/-- Arrays and inline tables stand in at most so many others, and so many dots are in a key. -/
def maxDepth : Nat := 79

/-! ## Keys -/

def isBareKeyChar (c : Char) : Bool := c.isAlphanum || c == '_' || c == '-'

/-- One segment of a key: bare, or quoted on one line. -/
def segment? (cs : List Char) : Option (String × List Char) :=
  match readLine? cs with
  | some found => some found
  | none =>
    match cs.takeWhile isBareKeyChar with
    | [] => none
    | bare => some (String.ofList bare, cs.dropWhile isBareKeyChar)

/-- Up to `room` segments with dots between them; spaces around each do not count. -/
def segments? : (room : Nat) → Reader (List String)
  | 0, _ => none
  | room + 1, cs => do
    let (s, rest) ← segment? (skipSpace cs)
    match skipSpace rest with
    | '.' :: rest => do
      let (more, rest) ← segments? room rest
      return (s :: more, rest)
    | rest => return ([s], rest)

def KeyPath.ofList? : List String → Option KeyPath
  | [] => none
  | s :: segments => some ⟨(s :: segments).dropLast, (s :: segments).getLast (by simp)⟩

def key? : Reader KeyPath := fun cs => do
  let (segments, rest) ← segments? maxDepth cs
  return (← KeyPath.ofList? segments, rest)

/-! ## Values -/

/-- The items of an array and its closing bracket, read from behind the opening one. A comma may
stand before the bracket. Every item takes something from the text, and the comparison of lengths
shows it. -/
def items (item : Reader Node) (cs : List Char) : Option (List Node × List Char) :=
  match skipGap false cs with
  | none => none
  | some (']' :: rest) => some ([], rest)
  | some start => do
    let (n, rest) ← item start
    match skipGap false rest with
    | some (']' :: rest) => return ([n], rest)
    | some (',' :: rest) =>
      if rest.length < cs.length then do
        let (ns, rest) ← items item rest
        return (n :: ns, rest)
      else none
    | _ => none
termination_by cs.length

/-- A key, an equals sign, and a value. -/
def pair? (value : Reader Node) : Reader (KeyPath × Node) := fun cs => do
  let (path, rest) ← key? cs
  let (n, rest) ← value (skipSpace (← expect '=' rest))
  return ((path, n), rest)

/-- The pairs of an inline table that has some, up to its closing brace. -/
def pairs (value : Reader Node) (cs : List Char) :
    Option (List (KeyPath × Node) × List Char) := do
  let (p, rest) ← pair? value cs
  match skipSpace rest with
  | '\x7d' :: rest => return ([p], rest)
  | ',' :: rest =>
    if rest.length < cs.length then do
      let (ps, rest) ← pairs value rest
      return (p :: ps, rest)
    else none
  | _ => none
termination_by cs.length

/-- An inline table, read from behind its opening brace. -/
def inline? (value : Reader Node) (cs : List Char) : Option (Node × List Char) :=
  match skipSpace cs with
  | '\x7d' :: rest => some (.inline [], rest)
  | start => do
    let (ps, rest) ← pairs value start
    return (← Node.ofPairs? ps, rest)

/-- A value with at most `room` arrays and inline tables around its innermost parts. -/
def value? (room : Nat) (cs : List Char) : Option (Node × List Char) :=
  match cs with
  | '[' :: rest =>
    match room with
    | 0 => none
    | room + 1 => (items (value? room) rest).map fun (ns, rest) => (.list ns, rest)
  | '\x7b' :: rest =>
    match room with
    | 0 => none
    | room + 1 => inline? (value? room) rest
  | 't' :: 'r' :: 'u' :: 'e' :: rest => some (.leaf (.flag true), rest)
  | 'f' :: 'a' :: 'l' :: 's' :: 'e' :: rest => some (.leaf (.flag false), rest)
  | _ =>
    match readText? cs with
    | some (s, rest) => some (.leaf (.text s), rest)
    | none => (readNumeral cs).map fun (s, rest) => (.leaf s, rest)

/-! ## Statements -/

/-- A header in square brackets, or in two of each for an array element. -/
def header? : Reader Statement
  | '[' :: '[' :: cs => do
    let (path, rest) ← key? cs
    return (.element path, ← expect ']' (← expect ']' rest))
  | '[' :: cs => do
    let (path, rest) ← key? cs
    return (.header path, ← expect ']' rest)
  | _ => none

def statement? (cs : List Char) : Option (Statement × List Char) := do
  let (s, rest) ← match cs with
    | '[' :: _ => header? cs
    | _ => (pair? (value? maxDepth) cs).map fun ((path, n), rest) => (.assign path n, rest)
  return (s, ← lineEnd? rest)

/-- All statements up to the end of the text. Lines may be empty or hold only a comment. -/
def statements? (cs : List Char) : Option (List Statement) :=
  match lineEnd? cs with
  | some [] => some []
  | some rest => if rest.length < cs.length then statements? rest else none
  | none => do
    let (s, rest) ← statement? (skipSpace cs)
    if rest.length < cs.length then do
      let more ← statements? rest
      return s :: more
    else none
termination_by cs.length

end NodeSettings.Toml
