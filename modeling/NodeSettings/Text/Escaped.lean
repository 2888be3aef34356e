-- Texts as they stand in messages: between double quotes, with escapes for
-- the quote, the backslash, and every character that would not be seen.
import NodeSettings.Text.HiddenTable

namespace NodeSettings.Text

def isHidden (c : Char) : Bool := inRanges hiddenRanges c

/-- Lower-case hexadecimal digits, none in front that is zero. -/
def hexText (n : Nat) : List Char := Nat.toDigits 16 n

def escapeChar (c : Char) : List Char :=
  if c == '\x00' then ['\\', '0']
  else if c == '\t' then ['\\', 't']
  else if c == '\r' then ['\\', 'r']
  else if c == '\n' then ['\\', 'n']
  else if c == '"' || c == '\\' then ['\\', c]
  else if isHidden c then ['\\', 'u', '\x7b'] ++ hexText c.toNat ++ ['\x7d']
  else [c]

def escaped (s : String) : String := String.ofList (['"'] ++ s.toList.flatMap escapeChar ++ ['"'])

end NodeSettings.Text
