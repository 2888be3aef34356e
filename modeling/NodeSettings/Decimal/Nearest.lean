-- From a decimal number to the nearest 64-bit binary one. A tie goes to
-- the even code, and what lies too far out becomes infinity. The work is
-- done on natural numbers alone, so it is exact.
import NodeSettings.Decimal.Binary64

namespace NodeSettings.Decimal

/-! ## Rounding -/

/-- The whole number nearest to `num / den`; of two equally near ones the even one. -/
def roundEven (num den : Nat) : Nat :=
  let q := num / den
  let r := num % den
  if 2 * r < den then q
  else if den < 2 * r then q + 1
  else q + q % 2

/-- The code nearest to `num / den`. The step doubles with each binade, and a significand that
rounds up to the next power of two runs over into the exponent by itself. -/
def nearestCode (num den : Nat) : Nat :=
  let scaled := num * stepsInOne
  let binade := Nat.log2 (scaled / den) - 52
  min infinityCode (roundEven scaled (den * Nat.pow 2 binade) + binade * binadeSize)

theorem nearestCode_le (num den : Nat) : nearestCode num den ≤ infinityCode :=
  Nat.min_le_left ..

theorem nearestCode_lt (num den : Nat) : nearestCode num den < signBit :=
  Nat.lt_of_le_of_lt (nearestCode_le num den) (by decide)

/-! ## Decimal numbers -/

/-- The number `digits * 10 ^ exponent`. -/
structure Scaled where
  digits : Nat
  exponent : Int
deriving DecidableEq

namespace Scaled

/-- The exponent that the leading digit would have, plus one. -/
def reach (d : Scaled) : Int := (Nat.toDigits 10 d.digits).length + d.exponent

/-- The nearest code. Numbers with a reach beyond all codes, or below all of them, are settled
without the power of ten, which may be huge. -/
def code (d : Scaled) : Nat :=
  if d.digits = 0 then 0
  else if 310 < d.reach then infinityCode
  else if d.reach < -330 then 0
  else if 0 ≤ d.exponent then nearestCode (d.digits * Nat.pow 10 d.exponent.toNat) 1
  else nearestCode d.digits (Nat.pow 10 (-d.exponent).toNat)

theorem code_lt (d : Scaled) : d.code < signBit := by
  unfold code
  repeat' split
  all_goals first | exact nearestCode_lt .. | decide

def toBinary (negative : Bool) (d : Scaled) : Binary64 := ⟨negative, d.code, d.code_lt⟩

end Scaled

/-- The nearest number to an integer. -/
def Binary64.ofInt (n : Int) : Binary64 := Scaled.toBinary (n < 0) ⟨n.natAbs, 0⟩

end NodeSettings.Decimal
