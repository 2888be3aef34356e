-- The decimal text of a binary number: the coarsest decimal grid that has
-- a point which reads back as the number, and of such points the nearest
-- one. Texts are plain, without an exponent.
import NodeSettings.Decimal.Nearest

namespace NodeSettings.Decimal

/-! ## The grid search -/

/-- The points of the grid `10 ^ exponent` next to the number, the nearer one first. Of two equally
near ones the larger comes first. -/
def neighbours (code : Nat) (exponent : Int) : List Scaled :=
  let num := Binary64.units code * Nat.pow 10 (-exponent).toNat
  let den := stepsInOne * Nat.pow 10 exponent.toNat
  let below : Scaled := ⟨num / den, exponent⟩
  let above : Scaled := ⟨num / den + 1, exponent⟩
  if 2 * (num % den) < den then [below, above] else [above, below]

/-- The number itself: on the grid `10 ^ -1074` every finite number is a point. -/
def exact (code : Nat) : Scaled := ⟨Binary64.units code * Nat.pow 5 1074, -1074⟩

/-- Tries the grids `10 ^ (left - 1074)`, `10 ^ (left - 1075)`, ... and ends at the exact one. -/
def searchGrids (code : Nat) : Nat → Scaled
  | 0 => exact code
  | left + 1 =>
    ((neighbours code (left + 1 - 1074)).find? (·.code == code)).getD (searchGrids code left)

/-- The digits in front of the point. -/
def wholeDigits (code : Nat) : Nat := (Nat.toDigits 10 (Binary64.units code / stepsInOne)).length

/-- The decimal number with the fewest digits that reads back as `code`. The grids start just above
the number. -/
def shortest (code : Nat) : Scaled := searchGrids code (1074 + wholeDigits code)

/-! ## Plain texts -/

def leftPad (width : Nat) (cs : List Char) : List Char :=
  List.replicate (width - cs.length) '0' ++ cs

/-- All digits in place, with a point and at least one digit behind it. -/
def Scaled.plain (d : Scaled) : List Char :=
  if 0 ≤ d.exponent then Nat.toDigits 10 (d.digits * Nat.pow 10 d.exponent.toNat) ++ ['.', '0']
  else
    let places := (-d.exponent).toNat
    let one := Nat.pow 10 places
    Nat.toDigits 10 (d.digits / one) ++ '.' :: leftPad places (Nat.toDigits 10 (d.digits % one))

/-- A number in plain digits, and the word `nan` for what is no number. -/
def Binary64.plain (nan : List Char) (x : Binary64) : List Char :=
  if x.isNaN then nan
  else (if x.negative then ['-'] else []) ++
    if x.isFinite then (shortest x.code).plain else ['i', 'n', 'f']

end NodeSettings.Decimal
