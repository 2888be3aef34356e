-- Character classes as lists of code point ranges.
namespace NodeSettings.Text

/-- The code points from the first number to the second, both included. -/
abbrev Range := Nat × Nat

def Range.covers (r : Range) (n : Nat) : Bool := r.1 ≤ n && n ≤ r.2

def inRanges (rs : List Range) (c : Char) : Bool := rs.any (·.covers c.toNat)

end NodeSettings.Text
