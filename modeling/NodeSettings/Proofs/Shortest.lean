-- The shortest digits of a number read back as that number. The search
-- only stops at a decimal number with the right code, and the exact number
-- at its end has it too. Zeros behind the digits do not change the code.
import NodeSettings.Decimal.Shortest
import NodeSettings.Proofs.Rounding

namespace NodeSettings.Decimal

/-! ## Zeros behind the digits -/

theorem length_toDigits_mul_ten {n : Nat} (h : 0 < n) :
    (Nat.toDigits 10 (n * 10)).length = (Nat.toDigits 10 n).length + 1 := by
  have hd := Nat.toDigits_append_toDigits (b := 10) (d := 0) (by decide) h (by decide)
  rw [Nat.add_zero, Nat.mul_comm] at hd
  rw [← hd, List.length_append]
  rfl

namespace Scaled

theorem reach_tenfold {n : Nat} (h : 0 < n) (e : Int) : reach ⟨n * 10, e - 1⟩ = reach ⟨n, e⟩ := by
  unfold reach
  dsimp only
  rw [length_toDigits_mul_ten h]
  omega

/-- One more zero, and the last digit one place further down. -/
theorem code_tenfold (n : Nat) (e : Int) : code ⟨n * 10, e - 1⟩ = code ⟨n, e⟩ := by
  by_cases h0 : n = 0
  · simp [code, h0]
  · have hn : n * 10 ≠ 0 := by omega
    unfold code
    rw [reach_tenfold (by omega)]
    dsimp only
    rw [if_neg h0, if_neg hn]
    split
    · rfl
    · split
      · rfl
      · simp only [Nat.pow_eq]
        by_cases he : 0 ≤ e - 1
        · have hp : e.toNat = (e - 1).toNat + 1 := by omega
          rw [if_pos he, if_pos (by omega), hp, pow_succ', Nat.mul_assoc]
        · by_cases he' : 0 ≤ e
          · obtain rfl : e = 0 := by omega
            have := nearestCode_mul_right n 1 (k := 10) (by decide)
            simpa using this
          · have hp : (-(e - 1)).toNat = (-e).toNat + 1 := by omega
            rw [if_neg he, if_neg he', hp, pow_succ, nearestCode_mul_right _ _ (by decide)]

theorem code_zeros (n : Nat) (e : Int) (j : Nat) : code ⟨n * 10 ^ j, e - j⟩ = code ⟨n, e⟩ := by
  induction j with
  | zero => simp
  | succ j ih =>
    rw [← ih, ← code_tenfold (n * 10 ^ j), pow_succ, Nat.mul_assoc]
    congr 2
    omega

end Scaled

/-! ## The exact number -/

theorem units_pos {code : Nat} (h : code ≠ 0) : 0 < Binary64.units code := by
  by_cases hb : code < binadeSize
  · rw [units_of_lt hb]
    omega
  · rw [units_of_le (by omega)]
    exact Nat.mul_pos (Nat.add_pos_left (by decide) _) (Nat.two_pow_pos _)

/-- The largest finite number is below 2^1024. -/
theorem units_lt {code : Nat} (h : code < infinityCode) :
    Binary64.units code < 2 ^ 2098 := by
  by_cases hb : code < binadeSize
  · rw [units_of_lt hb]
    exact hb.trans (by decide +kernel)
  · have hf : code % binadeSize < binadeSize := Nat.mod_lt _ (by decide)
    have hq : code / binadeSize ≤ 2046 := by
      rw [Nat.div_le_iff_le_mul_add_pred (by decide)]
      unfold infinityCode at h
      omega
    have he : code / binadeSize - 1 ≤ 2045 := by omega
    have hp := Nat.pow_le_pow_right (n := 2) (by decide) he
    rw [units_of_le (by omega)]
    calc (binadeSize + code % binadeSize) * 2 ^ (code / binadeSize - 1)
        < (2 * binadeSize) * 2 ^ (code / binadeSize - 1) :=
          Nat.mul_lt_mul_of_pos_right (by omega) (Nat.two_pow_pos _)
      _ ≤ (2 * binadeSize) * 2 ^ 2045 := Nat.mul_le_mul_left _ hp
      _ = 2 ^ 2098 := by decide +kernel

/-- The digits of the exact number are neither too many nor too few to be looked at. -/
theorem reach_exact {code : Nat} (h : code < infinityCode) (h0 : code ≠ 0) :
    (exact code).reach ≤ 310 ∧ -330 ≤ (exact code).reach := by
  have hu := units_pos h0
  have hlt := units_lt h
  unfold exact Scaled.reach
  dsimp only
  have hpos : 0 < Nat.pow 5 1074 := by decide +kernel
  have hlow : 10 ^ 743 ≤ Nat.pow 5 1074 := by decide +kernel
  have hhigh : 2 ^ 2098 * Nat.pow 5 1074 ≤ 10 ^ 1384 := by decide +kernel
  generalize Binary64.units code = u at *
  generalize Nat.pow 5 1074 = p at *
  have hmax : (Nat.toDigits 10 (u * p)).length ≤ 1384 := by
    rw [Nat.length_toDigits_le_iff (by decide) (by decide)]
    calc u * p < 2 ^ 2098 * p := Nat.mul_lt_mul_of_pos_right hlt hpos
      _ ≤ 10 ^ 1384 := hhigh
  have hmin : ¬ (Nat.toDigits 10 (u * p)).length ≤ 743 := by
    rw [Nat.length_toDigits_le_iff (by decide) (by decide), Nat.not_lt]
    calc 10 ^ 743 ≤ p := hlow
      _ ≤ u * p := Nat.le_mul_of_pos_left p hu
  omega

theorem exact_code {code : Nat} (h : code < infinityCode) : (exact code).code = code := by
  by_cases h0 : code = 0
  · subst h0
    decide +kernel
  · obtain ⟨hmax, hmin⟩ := reach_exact h h0
    have hpow : 0 < Nat.pow 5 1074 := by decide +kernel
    have hd : (exact code).digits ≠ 0 := (Nat.mul_pos (units_pos h0) hpow).ne'
    have hexponent : (-(exact code).exponent).toNat = 1074 := rfl
    have hten : Nat.pow 10 (-(exact code).exponent).toNat = stepsInOne * Nat.pow 5 1074 := by
      rw [hexponent]
      decide +kernel
    have hneg : ¬ 0 ≤ (exact code).exponent := Int.not_le.2 (by change (-1074 : Int) < 0; decide)
    unfold Scaled.code
    rw [if_neg hd, if_neg (by omega), if_neg (by omega), if_neg hneg, hten]
    exact nearestCode_units h hpow

/-! ## The search -/

theorem searchGrids_code {code : Nat} (h : code < infinityCode) (left : Nat) :
    (searchGrids code left).code = code := by
  induction left with
  | zero =>
    rw [searchGrids]
    exact exact_code h
  | succ left ih =>
    rw [searchGrids]
    cases hd : (neighbours code (left + 1 - 1074)).find? (·.code == code) with
    | none => exact ih
    | some d => simpa using List.find?_some hd

theorem shortest_code {code : Nat} (h : code < infinityCode) : (shortest code).code = code :=
  searchGrids_code h _

end NodeSettings.Decimal
