-- The 64-bit binary floating point numbers, kept as a sign and the other
-- 63 bits. All of them count: both zeros, both infinities, and each of the
-- words that are no number. A finite one is a whole number of the smallest
-- steps, 2^-1074, and that whole number is what the arithmetic here uses.
namespace NodeSettings.Decimal

/-- The bit of the sign, 2^63. -/
def signBit : Nat := 0x8000000000000000

/-- The codes of one binade, 2^52 of them. -/
def binadeSize : Nat := 0x10000000000000

/-- The steps in the number one, 2^1074 of them. -/
def stepsInOne : Nat := Nat.pow 2 1074

/-- The code of infinity: all eleven exponent bits set. -/
def infinityCode : Nat := 2047 * binadeSize

/-- The code of the plain word that is no number. -/
def nanCode : Nat := infinityCode + binadeSize / 2

structure Binary64 where
  negative : Bool
  code : Nat
  code_lt : code < signBit := by decide
deriving DecidableEq

namespace Binary64

def zero : Binary64 := ⟨false, 0, by decide⟩

def infinity (negative : Bool) : Binary64 := ⟨negative, infinityCode, by decide⟩

def nan (negative : Bool) : Binary64 := ⟨negative, nanCode, by decide⟩

instance : Inhabited Binary64 := ⟨zero⟩

def isNaN (x : Binary64) : Bool := infinityCode < x.code

def isFinite (x : Binary64) : Bool := x.code < infinityCode

/-! ## Words of 64 bits -/

def ofWord (w : UInt64) : Binary64 :=
  ⟨signBit ≤ w.toNat, w.toNat % signBit, Nat.mod_lt _ (by decide)⟩

def toWord (x : Binary64) : UInt64 :=
  UInt64.ofNat (x.code + if x.negative then signBit else 0)

theorem toNat_toWord (x : Binary64) :
    x.toWord.toNat = x.code + if x.negative then signBit else 0 := by
  have h := x.code_lt
  have hs : signBit = 9223372036854775808 := rfl
  rw [toWord, UInt64.toNat_ofNat']
  apply Nat.mod_eq_of_lt
  split <;> omega

@[simp] theorem ofWord_toWord (x : Binary64) : ofWord x.toWord = x := by
  obtain ⟨negative, code, h⟩ := x
  have hmod : code % signBit = code := Nat.mod_eq_of_lt h
  simp only [ofWord, toNat_toWord, mk.injEq]
  cases negative
  · exact ⟨decide_eq_false (by simpa using h), by simpa using hmod⟩
  · exact ⟨decide_eq_true (by simp), by simpa using hmod⟩

/-! ## Equality -/

/-- The plain NaN in place of any other; every other number as it is. -/
def canonical (x : Binary64) : Binary64 := if x.isNaN then nan false else x

/-- Equality as arithmetic has it: the two zeros are equal and a NaN equals nothing. -/
def sameValue (x y : Binary64) : Bool :=
  !x.isNaN && !y.isNaN && (x == y || (x.code == 0 && y.code == 0))

/-! ## Values -/

/-- A finite code in steps: below the first normal number, and one binade further, the
code itself; from there on each binade doubles the step. -/
def units (code : Nat) : Nat :=
  if code < binadeSize then code
  else (binadeSize + code % binadeSize) * Nat.pow 2 (code / binadeSize - 1)

end Binary64

end NodeSettings.Decimal
