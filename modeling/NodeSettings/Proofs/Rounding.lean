-- The laws of rounding to binary. The nearest code depends on the value of a
-- fraction alone, so a decimal number may have any number of zeros behind
-- it. Every finite code is the nearest one to its own value.
import Mathlib
import NodeSettings.Decimal.Nearest

namespace NodeSettings.Decimal

/-! ## Fractions in other terms -/

theorem roundEven_mul_right (num den : Nat) {k : Nat} (hk : 0 < k) :
    roundEven (num * k) (den * k) = roundEven num den := by
  unfold roundEven
  dsimp only
  have hr : 2 * (num % den * k) = 2 * (num % den) * k := by rw [Nat.mul_assoc]
  rw [Nat.mul_div_mul_right _ _ hk, Nat.mul_mod_mul_right, hr]
  simp only [Nat.mul_lt_mul_right hk]

theorem roundEven_self (q : Nat) {den : Nat} (h : 0 < den) : roundEven (q * den) den = q := by
  simp [roundEven, h]

theorem nearestCode_mul_right (num den : Nat) {k : Nat} (hk : 0 < k) :
    nearestCode (num * k) (den * k) = nearestCode num den := by
  unfold nearestCode
  dsimp only
  rw [Nat.mul_right_comm num k stepsInOne, Nat.mul_div_mul_right _ _ hk,
    Nat.mul_right_comm den k, roundEven_mul_right _ _ hk]

/-! ## Codes as numbers of steps -/

theorem binadeSize_eq : binadeSize = 2 ^ 52 := by decide

theorem stepsInOne_pos : 0 < stepsInOne := by decide +kernel

theorem units_of_lt {code : Nat} (h : code < binadeSize) : Binary64.units code = code := by
  rw [Binary64.units, if_pos h]

theorem units_of_le {code : Nat} (h : binadeSize ≤ code) : Binary64.units code =
    (binadeSize + code % binadeSize) * 2 ^ (code / binadeSize - 1) := by
  rw [Binary64.units, if_neg (by omega), Nat.pow_eq]

/-- The binade that `nearestCode` finds for the value of a code. -/
theorem log2_units (code : Nat) :
    Nat.log2 (Binary64.units code) - 52 = code / binadeSize - 1 := by
  by_cases h : code < binadeSize
  · rw [units_of_lt h, Nat.div_eq_of_lt h]
    by_cases h0 : code = 0
    · simp [h0]
    · have := (Nat.log2_lt h0).2 (by rwa [binadeSize_eq] at h)
      omega
  · rw [units_of_le (by omega)]
    have hf : code % binadeSize < binadeSize := Nat.mod_lt _ (by decide)
    generalize code / binadeSize - 1 = p
    have hp : 0 < 2 ^ p := Nat.two_pow_pos p
    rw [binadeSize_eq] at *
    have hlog : Nat.log2 ((2 ^ 52 + code % 2 ^ 52) * 2 ^ p) = 52 + p := by
      rw [Nat.log2_eq_iff (Nat.mul_pos (by omega) hp).ne']
      constructor
      · rw [pow_add]
        exact Nat.mul_le_mul_right _ (by omega)
      · rw [Nat.add_right_comm, pow_add]
        exact Nat.mul_lt_mul_of_pos_right (by omega) hp
    omega

/-- The significand of a code and its binade give the code back. -/
theorem roundEven_units (code : Nat) :
    roundEven (Binary64.units code * stepsInOne)
      (stepsInOne * Nat.pow 2 (code / binadeSize - 1)) +
      (code / binadeSize - 1) * binadeSize = code := by
  have hs := stepsInOne_pos
  by_cases h : code < binadeSize
  · rw [units_of_lt h, Nat.div_eq_of_lt h, Nat.pow_eq, pow_zero, Nat.mul_one, roundEven_self _ hs]
    omega
  · have hq : 1 ≤ code / binadeSize := (Nat.one_le_div_iff (by decide)).2 (by omega)
    obtain ⟨q, hq⟩ := Nat.exists_eq_add_of_le hq
    rw [units_of_le (by omega), hq, Nat.add_sub_cancel_left, Nat.pow_eq, Nat.mul_assoc,
      Nat.mul_comm _ stepsInOne, roundEven_self _ (Nat.mul_pos hs (Nat.two_pow_pos q))]
    calc binadeSize + code % binadeSize + q * binadeSize
        = binadeSize * (1 + q) + code % binadeSize := by ring
      _ = code := by rw [← hq, Nat.div_add_mod]

/-- Every finite code is the nearest one to its own number of steps, whatever the unit. -/
theorem nearestCode_units {code den : Nat} (h : code < infinityCode) (hd : 0 < den) :
    nearestCode (Binary64.units code * den) (stepsInOne * den) = code := by
  have hone : nearestCode (Binary64.units code) stepsInOne = code := by
    unfold nearestCode
    dsimp only
    rw [Nat.mul_div_cancel _ stepsInOne_pos, log2_units, roundEven_units]
    omega
  rw [nearestCode_mul_right _ _ hd, hone]

end NodeSettings.Decimal
