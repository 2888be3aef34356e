-- The canonical text of settings: every section under its header and every
-- key on a line of its own, in the order of the schema.
import NodeSettings.Decimal.Shortest
import NodeSettings.Settings.Schema
import NodeSettings.Toml.Written

namespace NodeSettings

/-- The text of a value. The word `nan` has no sign. -/
def Kind.write : (k : Kind) → k.Content → List Char
  | .port, n => Nat.toDigits 10 n.toNat
  | .text, s => Toml.writeText s.toList
  | .flag, b => if b then ['t', 'r', 'u', 'e'] else ['f', 'a', 'l', 's', 'e']
  | .amount, x => x.plain ['n', 'a', 'n']

namespace Settings

def keyLine (c : Settings) (k : Key) : List Char :=
  k.name.toList ++ [' ', '=', ' '] ++ k.kind.write (c.get k) ++ ['\n']

def sectionText (c : Settings) (s : Section) : List Char :=
  '[' :: s.name.toList ++ [']', '\n'] ++ s.keys.flatMap c.keyLine

/-- An empty line stands between two sections. -/
def encodeChars (c : Settings) : List Char :=
  ['\n'].intercalate (Section.all.map c.sectionText)

def encode (c : Settings) : String := String.ofList c.encodeChars

end Settings

end NodeSettings
