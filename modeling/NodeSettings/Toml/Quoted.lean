-- Reading quoted texts: the two kinds of quote, each on one line or, three
-- times repeated, over several. Double quotes take escapes, single quotes
-- take every character as it stands.
import NodeSettings.Toml.Gap
import NodeSettings.Toml.Moment

namespace NodeSettings.Toml

/-! ## Escapes -/

def hexDigit? (c : Char) : Option Nat :=
  if c.isDigit then some (c.toNat - '0'.toNat)
  else if 'a' ≤ c && c ≤ 'f' then some (c.toNat - 'a'.toNat + 10)
  else if 'A' ≤ c && c ≤ 'F' then some (c.toNat - 'A'.toNat + 10)
  else none

/-- The character with the code that the digits write, if there is one. -/
def charOfHex? (digits : List Char) : Option Char := do
  let code ← digits.foldlM (fun n c => do return n * 16 + (← hexDigit? c)) 0
  if code.isValidChar then some (Char.ofNat code) else none

/-- An escape, read from behind its backslash. -/
def escape? : Reader Char
  | 'b' :: cs => some ('\x08', cs)
  | 't' :: cs => some ('\t', cs)
  | 'n' :: cs => some ('\n', cs)
  | 'f' :: cs => some ('\x0c', cs)
  | 'r' :: cs => some ('\r', cs)
  | '"' :: cs => some ('"', cs)
  | '\\' :: cs => some ('\\', cs)
  | 'u' :: c₁ :: c₂ :: c₃ :: c₄ :: cs => (charOfHex? [c₁, c₂, c₃, c₄]).map (·, cs)
  | 'U' :: c₁ :: c₂ :: c₃ :: c₄ :: c₅ :: c₆ :: c₇ :: c₈ :: cs =>
    (charOfHex? [c₁, c₂, c₃, c₄, c₅, c₆, c₇, c₈]).map (·, cs)
  | _ => none

theorem escape?_length {cs rest : List Char} {c : Char} (h : escape? cs = some (c, rest)) :
    rest.length < cs.length := by
  unfold escape? at h
  split at h
  case h_8 | h_9 =>
    obtain ⟨_, _, h⟩ := Option.map_eq_some_iff.1 h
    cases h
    simp only [List.length_cons]
    omega
  case h_10 => cases h
  all_goals
    cases h
    exact Nat.lt_succ_self _

/-! ## One line -/

/-- Characters that stand for themselves in a quoted text: all but the controls, a tab is fine. -/
def isPlain (c : Char) : Bool := c == '\t' || (' ' ≤ c && c != '\x7f')

/-- Puts characters in front of what a reader found. -/
def prepend (front : List Char) (found : Option (List Char × List Char)) :
    Option (List Char × List Char) :=
  found.map fun (cs, rest) => (front ++ cs, rest)

/-- The text up to the closing double quote, read from behind the opening one. -/
def readQuoted : List Char → Option (List Char × List Char)
  | [] => none
  | '"' :: cs => some ([], cs)
  | '\\' :: cs =>
    match _h : escape? cs with
    | some (c, rest) => prepend [c] (readQuoted rest)
    | none => none
  | c :: cs => if isPlain c then prepend [c] (readQuoted cs) else none
termination_by cs => cs.length
decreasing_by
  · have := escape?_length _h; simp only [List.length_cons]; omega
  · simp

/-- The text up to the closing single quote, read from behind the opening one. -/
def readLiteral : List Char → Option (List Char × List Char)
  | [] => none
  | '\'' :: cs => some ([], cs)
  | c :: cs => if isPlain c then prepend [c] (readLiteral cs) else none

/-! ## Several lines -/

/-- Drops a line end right behind the opening quotes. -/
def dropLineBreak (cs : List Char) : List Char := (lineBreak? cs).getD cs

/-- Drops blanks and line ends, up to the first other character. -/
def dropBlankLines : List Char → List Char
  | '\r' :: '\n' :: cs => dropBlankLines cs
  | c :: cs => if isSpace c || c == '\n' then dropBlankLines cs else c :: cs
  | [] => []

/-- Behind a backslash at the end of a line: what follows the blanks and line ends. -/
def joinLines? (cs : List Char) : Option (List Char) :=
  (lineBreak? (skipSpace cs)).map dropBlankLines

/-- Closing quotes stand three in a row; up to two more right before them belong to the text. They
are read from behind the third. -/
def closing (quote : Char) : List Char → List Char × List Char
  | c :: d :: cs =>
    if c == quote then if d == quote then ([quote, quote], cs) else ([quote], d :: cs)
    else ([], c :: d :: cs)
  | [c] => if c == quote then ([quote], []) else ([], [c])
  | [] => ([], [])

theorem dropBlankLines_length (cs : List Char) : (dropBlankLines cs).length ≤ cs.length := by
  fun_induction dropBlankLines cs <;> simp_all <;> omega

theorem joinLines?_length {cs rest : List Char} (h : joinLines? cs = some rest) :
    rest.length < cs.length := by
  obtain ⟨line, hline, rfl⟩ := Option.map_eq_some_iff.1 h
  have h₁ := dropBlankLines_length line
  have h₂ := lineBreak?_length hline
  have h₃ := length_dropWhile_le isSpace cs
  unfold skipSpace at h₂
  omega

/-- The text up to three closing double quotes. A backslash before a line end joins the lines. -/
def readQuotedLines : List Char → Option (List Char × List Char)
  | [] => none
  | '"' :: '"' :: '"' :: cs => some (closing '"' cs)
  | '"' :: cs => prepend ['"'] (readQuotedLines cs)
  | '\\' :: cs =>
    match _h : joinLines? cs with
    | some rest => readQuotedLines rest
    | none =>
      match _h' : escape? cs with
      | some (c, rest) => prepend [c] (readQuotedLines rest)
      | none => none
  | '\n' :: cs => prepend ['\n'] (readQuotedLines cs)
  | '\r' :: '\n' :: cs => prepend ['\n'] (readQuotedLines cs)
  | c :: cs => if isPlain c then prepend [c] (readQuotedLines cs) else none
termination_by cs => cs.length
decreasing_by
  · simp
  · have := joinLines?_length _h; simp only [List.length_cons]; omega
  · have := escape?_length _h'; simp only [List.length_cons]; omega
  · simp
  · simp only [List.length_cons]; omega
  · simp

/-- The text up to three closing single quotes. -/
def readLiteralLines : List Char → Option (List Char × List Char)
  | [] => none
  | '\'' :: '\'' :: '\'' :: cs => some (closing '\'' cs)
  | '\n' :: cs => prepend ['\n'] (readLiteralLines cs)
  | '\r' :: '\n' :: cs => prepend ['\n'] (readLiteralLines cs)
  | c :: cs => if isPlain c then prepend [c] (readLiteralLines cs) else none

/-! ## All of them -/

/-- A quoted text on one line, as it may also stand for a key. -/
def readLine? : Reader String
  | '"' :: cs => (readQuoted cs).map fun (s, rest) => (String.ofList s, rest)
  | '\'' :: cs => (readLiteral cs).map fun (s, rest) => (String.ofList s, rest)
  | _ => none

/-- A quoted text of any kind. Three quotes open one over several lines. -/
def readText? : Reader String
  | '"' :: '"' :: '"' :: cs =>
    (readQuotedLines (dropLineBreak cs)).map fun (s, rest) => (String.ofList s, rest)
  | '\'' :: '\'' :: '\'' :: cs =>
    (readLiteralLines (dropLineBreak cs)).map fun (s, rest) => (String.ofList s, rest)
  | cs => readLine? cs

end NodeSettings.Toml
