-- White space in the sense of Unicode, and texts that hold nothing else.
-- Trimming drops it from both ends and leaves the middle alone.
import NodeSettings.Text.Range

namespace NodeSettings.Text

def blankRanges : List Range := [
  (0x9, 0xD), (0x20, 0x20), (0x85, 0x85), (0xA0, 0xA0), (0x1680, 0x1680), (0x2000, 0x200A),
  (0x2028, 0x2029), (0x202F, 0x202F), (0x205F, 0x205F), (0x3000, 0x3000)
]

def isBlankChar (c : Char) : Bool := inRanges blankRanges c

/-- Only white space, or nothing at all. -/
def isBlank (s : String) : Bool := s.toList.all isBlankChar

def trimStart (cs : List Char) : List Char := cs.dropWhile isBlankChar

def trimEnd (cs : List Char) : List Char := (trimStart cs.reverse).reverse

def trim (cs : List Char) : List Char := trimEnd (trimStart cs)

/-! ## Laws -/

theorem trimStart_eq_nil_iff (cs : List Char) : trimStart cs = [] ↔ cs.all isBlankChar = true := by
  induction cs with
  | nil => simp [trimStart]
  | cons c cs ih =>
    cases h : isBlankChar c <;> simp_all [trimStart, List.dropWhile]

end NodeSettings.Text
