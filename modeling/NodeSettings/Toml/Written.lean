-- Writing a text as a quoted one. Of five forms the first is taken that
-- keeps the text readable: double quotes, single quotes, three of either,
-- and double quotes with escapes where nothing else will do.
namespace NodeSettings.Toml

/-! ## What is in a text -/

/-- Characters that only an escape can write; tabs and line feeds are not among them. -/
def isControl (c : Char) : Bool := (c < ' ' && c != '\t' && c != '\n') || c == '\x7f'

/-- The length of the longest run of `c`, counting on from a run of `n` just before the text. -/
def longestRun (c : Char) : (n : Nat) → List Char → Nat
  | n, [] => n
  | n, d :: cs => if d == c then longestRun c (n + 1) cs else max n (longestRun c 0 cs)

inductive Form
  | quoted
  | literal
  | quotedLines
  | literalLines
deriving DecidableEq

def formOf (cs : List Char) : Form :=
  let control := cs.any isControl
  let lines := cs.contains '\n'
  let backslash := cs.contains '\\'
  if !control && !backslash && !cs.contains '"' && !lines then .quoted
  else if !control && !cs.contains '\'' && !lines then .literal
  else if !control && !backslash && longestRun '"' 0 cs ≤ 2 then .quotedLines
  else if !control && longestRun '\'' 0 cs ≤ 2 then .literalLines
  else if lines then .quotedLines
  else .quoted

/-! ## Escapes -/

def upperHexDigit (n : Nat) : Char := if n < 10 then Char.ofNat (48 + n) else Char.ofNat (55 + n)

/-- How a character other than a double quote is written between double quotes. -/
def writeChar (lines : Bool) (c : Char) : List Char :=
  if c == '\x08' then ['\\', 'b']
  else if c == '\t' then ['\\', 't']
  else if c == '\n' then if lines then ['\n'] else ['\\', 'n']
  else if c == '\x0c' then ['\\', 'f']
  else if c == '\r' then ['\\', 'r']
  else if c == '\\' then ['\\', '\\']
  else if isControl c then
    ['\\', 'u', '0', '0', upperHexDigit (c.toNat / 16), upperHexDigit (c.toNat % 16)]
  else [c]

/-- The inside of a double-quoted text on one line. -/
def writeQuoted : List Char → List Char
  | [] => []
  | c :: cs => (if c == '"' then ['\\', '"'] else writeChar false c) ++ writeQuoted cs

/-- The inside of a double-quoted text over several lines, after a run of `n` bare quotes: every
third quote of a run is escaped. -/
def writeQuotedLines : (n : Nat) → List Char → List Char
  | _, [] => []
  | n, c :: cs =>
    if c == '"' then
      if n < 2 then '"' :: writeQuotedLines (n + 1) cs
      else '\\' :: '"' :: writeQuotedLines 0 cs
    else writeChar true c ++ writeQuotedLines 0 cs

/-! ## The whole text -/

/-- A text with a line feed starts on a line of its own. -/
def firstLine (cs : List Char) : List Char := if cs.contains '\n' then ['\n'] else []

def writeText (cs : List Char) : List Char :=
  match formOf cs with
  | .quoted => '"' :: writeQuoted cs ++ ['"']
  | .literal => '\'' :: cs ++ ['\'']
  | .quotedLines => ['"', '"', '"'] ++ firstLine cs ++ writeQuotedLines 0 cs ++ ['"', '"', '"']
  | .literalLines => ['\'', '\'', '\''] ++ firstLine cs ++ cs ++ ['\'', '\'', '\'']

end NodeSettings.Toml
