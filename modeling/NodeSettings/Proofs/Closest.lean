-- The nearest code has its name rightly: no other finite number comes closer to
-- a fraction, and if one comes as close the code is even.
import NodeSettings.Proofs.Shortest

namespace NodeSettings.Decimal

/-! ## The nearest multiple -/

/-- The nearest multiple is half a unit away at most, and just half a unit only if it is even. -/
theorem roundEven_error (num : Nat) {den : Nat} (hd : 0 < den) :
    2 * |(num : ℤ) - roundEven num den * den| ≤ den ∧
      (2 * |(num : ℤ) - roundEven num den * den| = den → roundEven num den % 2 = 0) := by
  have hnum : (num : ℤ) = (num / den : ℕ) * den + (num % den : ℕ) := by
    exact_mod_cast (Nat.div_add_mod' num den).symm
  have hr := Nat.mod_lt num hd
  have hparity := Nat.mod_two_eq_zero_or_one (num / den)
  have hbelow : |(num : ℤ) - (num / den : ℕ) * den| = (num % den : ℕ) := by
    rw [abs_of_nonneg (by omega)]
    omega
  have habove : |(num : ℤ) - (num / den + 1 : ℕ) * den| = den - (num % den : ℕ) := by
    rw [Nat.cast_add, add_mul, Nat.cast_one, one_mul, abs_of_nonpos (by omega)]
    omega
  unfold roundEven
  dsimp only
  split
  · rw [hbelow]
    omega
  split
  · rw [habove]
    omega
  · rcases hparity with heven | hodd
    · rw [heven, Nat.add_zero, hbelow]
      omega
    · rw [hodd, habove]
      omega

theorem roundEven_bounds (num den : Nat) :
    num / den ≤ roundEven num den ∧ roundEven num den ≤ num / den + 1 := by
  unfold roundEven
  dsimp only
  split
  · omega
  split <;> omega

theorem distance_multiples {den : ℤ} {q q' : Nat} (h : q ≠ q') (hd : 0 < den) (num : ℤ) :
    den ≤ |num - q * den| + |num - q' * den| := by
  have hone : (1 : ℤ) ≤ |(q' : ℤ) - q| := Int.one_le_abs (by omega)
  calc den = 1 * den := (one_mul den).symm
    _ ≤ |(q' : ℤ) - q| * den := mul_le_mul_of_nonneg_right hone hd.le
    _ = |(num - q * den) - (num - q' * den)| := by
      rw [← abs_of_pos hd, ← abs_mul, abs_of_pos hd]
      congr 1
      ring
    _ ≤ |num - q * den| + |num - q' * den| := abs_sub _ _

theorem roundEven_nearest (num : Nat) {den : Nat} (hd : 0 < den) (q : Nat) :
    |(num : ℤ) - roundEven num den * den| ≤ |(num : ℤ) - q * den| ∧
      (q ≠ roundEven num den →
        |(num : ℤ) - q * den| = |(num : ℤ) - roundEven num den * den| →
        roundEven num den % 2 = 0) := by
  obtain ⟨herror, heven⟩ := roundEven_error num hd
  by_cases hq : q = roundEven num den
  · subst hq
    exact ⟨le_refl _, fun hne => absurd rfl hne⟩
  · have hapart := distance_multiples hq (Int.natCast_pos.2 hd) num
    refine ⟨by omega, fun _ htie => heven (by omega)⟩

/-! ## The nearest code -/

/-- A significand and a binade make the code of a number with so many steps. -/
theorem units_significand {q b : Nat} (hlow : b ≠ 0 → binadeSize ≤ q) (hhigh : q ≤ 2 * binadeSize) :
    Binary64.units (q + b * binadeSize) = q * 2 ^ b := by
  have hpos : 0 < binadeSize := by decide
  by_cases hsmall : q < binadeSize
  · obtain rfl : b = 0 := by
      by_contra hb
      have := hlow hb
      omega
    rw [Nat.zero_mul, Nat.add_zero, pow_zero, Nat.mul_one, units_of_lt hsmall]
  rw [units_of_le (by omega)]
  by_cases hlast : q = 2 * binadeSize
  · -- The significand has run over into the next binade.
    have hcode : q + b * binadeSize = (b + 2) * binadeSize := by rw [hlast]; ring
    rw [hcode, Nat.mul_mod_left, Nat.mul_div_cancel _ hpos, hlast, Nat.add_zero]
    have hexponent : b + 2 - 1 = b + 1 := rfl
    rw [hexponent, pow_succ]
    ring
  · obtain ⟨f, rfl⟩ := Nat.exists_eq_add_of_le (Nat.not_lt.1 hsmall)
    have hf : f < binadeSize := by omega
    have hcode : binadeSize + f + b * binadeSize = f + (b + 1) * binadeSize := by ring
    rw [hcode, Nat.add_mul_mod_self_right, Nat.mod_eq_of_lt hf, Nat.add_mul_div_right _ _ hpos,
      Nat.div_eq_of_lt hf, Nat.zero_add, Nat.add_sub_cancel]

/-- The steps of any code are a whole number of units of a binade, or fewer than the binade starts
with. -/
theorem units_cases (code b : Nat) :
    (∃ q, Binary64.units code = q * 2 ^ b) ∨
      b ≠ 0 ∧ Binary64.units code < binadeSize * 2 ^ b := by
  have hf : code % binadeSize < binadeSize := Nat.mod_lt _ (by decide)
  by_cases hsmall : code < binadeSize
  · rw [units_of_lt hsmall]
    by_cases hb : b = 0
    · exact .inl ⟨code, by simp [hb]⟩
    · exact .inr ⟨hb, hsmall.trans_le (Nat.le_mul_of_pos_right _ (Nat.two_pow_pos b))⟩
  rw [units_of_le (by omega)]
  by_cases hb : b ≤ code / binadeSize - 1
  · obtain ⟨j, hj⟩ := Nat.exists_eq_add_of_le hb
    refine .inl ⟨(binadeSize + code % binadeSize) * 2 ^ j, ?_⟩
    rw [hj, pow_add]
    ring
  · obtain ⟨j, hj⟩ := Nat.exists_eq_add_of_lt (Nat.not_le.1 hb)
    refine .inr ⟨by omega, ?_⟩
    calc (binadeSize + code % binadeSize) * 2 ^ (code / binadeSize - 1)
        < (2 * binadeSize) * 2 ^ (code / binadeSize - 1) :=
          Nat.mul_lt_mul_of_pos_right (by omega) (Nat.two_pow_pos _)
      _ = binadeSize * 2 ^ (code / binadeSize - 1 + 1) := by ring
      _ ≤ binadeSize * 2 ^ b :=
          Nat.mul_le_mul_left _ (Nat.pow_le_pow_right (by decide) (by omega))

/-- The binade that `nearestCode` looks in, for a fraction in steps. -/
def binadeOf (scaled den : Nat) : Nat := Nat.log2 (scaled / den) - 52

/-- The significand of the nearest code, which may have run over into the next binade. -/
def significandOf (scaled den : Nat) : Nat := roundEven scaled (den * 2 ^ binadeOf scaled den)

theorem nearestCode_eq (num den : Nat) : nearestCode num den = min infinityCode
    (significandOf (num * stepsInOne) den + binadeOf (num * stepsInOne) den * binadeSize) :=
  rfl

section

variable (scaled : Nat) {den : Nat} (hd : 0 < den)

include hd

/-- The fraction lies in its binade. The first binade has no lower end. -/
theorem binadeOf_bounds :
    (binadeOf scaled den ≠ 0 → binadeSize * (den * 2 ^ binadeOf scaled den) ≤ scaled) ∧
      scaled < 2 * binadeSize * (den * 2 ^ binadeOf scaled den) := by
  unfold binadeOf
  constructor
  · intro hne
    have hzero : scaled / den ≠ 0 := by
      intro hzero
      rw [hzero, Nat.log2_zero] at hne
      exact hne rfl
    have hlog := Nat.log2_self_le hzero
    rw [Nat.le_div_iff_mul_le hd] at hlog
    obtain ⟨b, hb⟩ := Nat.exists_eq_add_of_le (Nat.lt_of_sub_ne_zero hne).le
    rw [hb] at hlog ⊢
    calc binadeSize * (den * 2 ^ (52 + b - 52)) = 2 ^ (52 + b) * den := by
          rw [binadeSize_eq, Nat.add_sub_cancel_left]
          ring
      _ ≤ scaled := hlog
  · calc scaled < 2 ^ (Nat.log2 (scaled / den) + 1) * den :=
          (Nat.div_lt_iff_lt_mul hd).1 Nat.lt_log2_self
      _ ≤ 2 ^ (53 + (Nat.log2 (scaled / den) - 52)) * den :=
          Nat.mul_le_mul_right _ (Nat.pow_le_pow_right (by decide) (by omega))
      _ = 2 * binadeSize * (den * 2 ^ (Nat.log2 (scaled / den) - 52)) := by
          rw [binadeSize_eq]
          ring

theorem significandOf_bounds :
    (binadeOf scaled den ≠ 0 → binadeSize ≤ significandOf scaled den) ∧
      significandOf scaled den ≤ 2 * binadeSize := by
  obtain ⟨hlow, hhigh⟩ := binadeOf_bounds scaled hd
  have hunit : 0 < den * 2 ^ binadeOf scaled den := Nat.mul_pos hd (Nat.two_pow_pos _)
  have hlt := (Nat.div_lt_iff_lt_mul hunit).2 hhigh
  obtain ⟨hdown, hup⟩ := roundEven_bounds scaled (den * 2 ^ binadeOf scaled den)
  unfold significandOf
  refine ⟨fun hne => ?_, by omega⟩
  exact ((Nat.le_div_iff_mul_le hunit).2 (hlow hne)).trans hdown

theorem significandOf_nearest (q : Nat) :
    |(scaled : ℤ) - significandOf scaled den * (den * 2 ^ binadeOf scaled den : ℕ)| ≤
        |(scaled : ℤ) - q * (den * 2 ^ binadeOf scaled den : ℕ)| ∧
      (q ≠ significandOf scaled den →
        |(scaled : ℤ) - q * (den * 2 ^ binadeOf scaled den : ℕ)| =
          |(scaled : ℤ) - significandOf scaled den * (den * 2 ^ binadeOf scaled den : ℕ)| →
        significandOf scaled den % 2 = 0) :=
  roundEven_nearest scaled (Nat.mul_pos hd (Nat.two_pow_pos _)) q

end

/-- No code has a value nearer to a fraction than the nearest one, unless that is infinity. Another
code comes as near only to an even one. -/
theorem nearestCode_nearest {num den : Nat} (hd : 0 < den) (h : nearestCode num den < infinityCode)
    (code : Nat) :
    |((num * stepsInOne : ℕ) : ℤ) - (Binary64.units (nearestCode num den) * den : ℕ)| ≤
        |((num * stepsInOne : ℕ) : ℤ) - (Binary64.units code * den : ℕ)| ∧
      (Binary64.units code ≠ Binary64.units (nearestCode num den) →
        |((num * stepsInOne : ℕ) : ℤ) - (Binary64.units code * den : ℕ)| =
          |((num * stepsInOne : ℕ) : ℤ) - (Binary64.units (nearestCode num den) * den : ℕ)| →
        nearestCode num den % 2 = 0) := by
  rw [nearestCode_eq] at h ⊢
  rw [min_eq_right (by omega)]
  obtain ⟨hlow, -⟩ := binadeOf_bounds (num * stepsInOne) hd
  obtain ⟨hqlow, hqhigh⟩ := significandOf_bounds (num * stepsInOne) hd
  have hnearest := significandOf_nearest (num * stepsInOne) hd
  rw [units_significand hqlow hqhigh]
  generalize num * stepsInOne = scaled at *
  generalize significandOf scaled den = s at *
  generalize binadeOf scaled den = b at *
  have hparity : (s + b * binadeSize) % 2 = s % 2 := by
    unfold binadeSize
    omega
  have hmultiple : ∀ q : Nat, ((q * 2 ^ b * den : ℕ) : ℤ) = q * (den * 2 ^ b : ℕ) := by
    intro q
    push_cast
    ring
  rw [hparity, hmultiple s]
  rcases units_cases code b with ⟨q, hq⟩ | ⟨hb, hsmall⟩
  · rw [hq, hmultiple q]
    obtain ⟨hle, heven⟩ := hnearest q
    refine ⟨hle, fun hne htie => heven ?_ htie⟩
    rintro rfl
    exact hne rfl
  · -- Below its binade a number is farther away than the binade's start, which is not nearer.
    have hin : (binadeSize : ℤ) * (den * 2 ^ b : ℕ) ≤ scaled := by exact_mod_cast hlow hb
    have hbelow : ((Binary64.units code * den : ℕ) : ℤ) < binadeSize * (den * 2 ^ b : ℕ) := by
      have hnat := Nat.mul_lt_mul_of_pos_right hsmall hd
      rw [Nat.mul_assoc, Nat.mul_comm (2 ^ b)] at hnat
      exact_mod_cast hnat
    have hstart := (hnearest binadeSize).1.trans_eq (abs_of_nonneg (by omega))
    have hgap : |(scaled : ℤ) - (Binary64.units code * den : ℕ)| =
        scaled - (Binary64.units code * den : ℕ) := abs_of_nonneg (by omega)
    rw [hgap]
    omega

/-! ## The nearest number to an integer -/

namespace Binary64

/-- The value of a finite number in steps. -/
def steps (x : Binary64) : ℤ := if x.negative then -(units x.code : ℤ) else units x.code

/-- No finite number is nearer to the integer than `x`, and another one is as near only if the code
of `x` is even. -/
structure NearestTo (n : ℤ) (x : Binary64) : Prop where
  finite : x.isFinite = true
  nearest : ∀ y : Binary64, y.isFinite = true →
    |n * stepsInOne - x.steps| ≤ |n * stepsInOne - y.steps|
  even : ∀ y : Binary64, y.isFinite = true → y.steps ≠ x.steps →
    |n * stepsInOne - y.steps| = |n * stepsInOne - x.steps| → x.code % 2 = 0

/-- From an integer the way to a number is its distance or their sum, depending on the signs. -/
theorem distance_eq (n : ℤ) (x : Binary64) : |n * stepsInOne - x.steps| =
    if x.negative = decide (n < 0) then |((n.natAbs * stepsInOne : ℕ) : ℤ) - units x.code|
    else (n.natAbs * stepsInOne : ℕ) + units x.code := by
  have hs : (0 : ℤ) ≤ stepsInOne := Int.natCast_nonneg _
  have hu : (0 : ℤ) ≤ units x.code := Int.natCast_nonneg _
  rw [Nat.cast_mul]
  by_cases hn : n < 0
  · have habs : (n.natAbs : ℤ) = -n := by omega
    have hscaled := mul_nonneg (neg_nonneg.2 hn.le) hs
    rw [habs, decide_eq_true hn]
    cases hx : x.negative with
    | true =>
      have hsteps : x.steps = -(units x.code : ℤ) := if_pos hx
      rw [if_pos rfl, hsteps, ← abs_neg]
      congr 1
      ring
    | false =>
      have hsteps : x.steps = units x.code := if_neg (by simp [hx])
      rw [if_neg (by simp), hsteps, abs_of_nonpos (by linarith)]
      ring
  · have habs : (n.natAbs : ℤ) = n := by omega
    have hscaled := mul_nonneg (not_lt.1 hn) hs
    rw [habs, decide_eq_false hn]
    cases hx : x.negative with
    | true =>
      have hsteps : x.steps = -(units x.code : ℤ) := if_pos hx
      rw [if_neg (by simp), hsteps, abs_of_nonneg (by linarith)]
      ring
    | false =>
      have hsteps : x.steps = units x.code := if_neg (by simp [hx])
      rw [if_pos rfl, hsteps]

theorem nearestCode_lt_infinity {n : Nat} (h : n < 2 ^ 1023) : nearestCode n 1 < infinityCode := by
  have hscaled : n * stepsInOne < 2 ^ 2097 := by
    calc n * stepsInOne < 2 ^ 1023 * stepsInOne := Nat.mul_lt_mul_of_pos_right h stepsInOne_pos
      _ = 2 ^ 2097 := by decide +kernel
  have hbinade : binadeOf (n * stepsInOne) 1 ≤ 2044 := by
    unfold binadeOf
    rw [Nat.div_one]
    by_cases hzero : n * stepsInOne = 0
    · rw [hzero, Nat.log2_zero]
      omega
    · have hlog := (Nat.log2_lt hzero).2 hscaled
      omega
  have hsignificand := (significandOf_bounds (n * stepsInOne) Nat.one_pos).2
  rw [nearestCode_eq]
  unfold infinityCode binadeSize at *
  omega

theorem code_ofInt {n : ℤ} (h : n.natAbs < 2 ^ 1023) :
    (ofInt n).code = nearestCode n.natAbs 1 := by
  change Scaled.code ⟨n.natAbs, 0⟩ = _
  have hlength : (Nat.toDigits 10 n.natAbs).length ≤ 310 := by
    rw [Nat.length_toDigits_le_iff (by decide) (by decide)]
    exact h.trans (by decide +kernel)
  have hreach : (Scaled.mk n.natAbs 0).reach = (Nat.toDigits 10 n.natAbs).length := by
    simp [Scaled.reach]
  unfold Scaled.code
  rw [hreach]
  split
  · rename_i hzero
    rw [show n.natAbs = 0 from hzero]
    decide +kernel
  · rw [if_neg (by omega), if_neg (by omega), if_pos (by simp)]
    simp

theorem nearestTo_ofInt {n : ℤ} (h : n.natAbs < 2 ^ 1023) : NearestTo n (ofInt n) := by
  have hcode := code_ofInt h
  have hfinite := nearestCode_lt_infinity h
  have hnearest : ∀ code, _ := nearestCode_nearest Nat.one_pos hfinite
  have hsign : (ofInt n).negative = decide (n < 0) := rfl
  simp only [Nat.mul_one, ← hcode] at hnearest hfinite
  have hdistance := distance_eq n (ofInt n)
  rw [if_pos hsign] at hdistance
  obtain ⟨hzero, hzerotie⟩ := hnearest 0
  have hnone : units 0 = 0 := rfl
  rw [hnone, Nat.cast_zero, sub_zero, abs_of_nonneg (Int.natCast_nonneg _)] at hzero hzerotie
  refine ⟨by simpa [isFinite] using hfinite, fun y _ => ?_, fun y _ hne htie => ?_⟩
  · rw [hdistance, distance_eq n y]
    split
    · exact (hnearest y.code).1
    · -- On the other side of zero, no number is nearer than zero itself.
      omega
  · rw [hdistance, distance_eq n y] at htie
    split at htie
    · rename_i hsame
      refine (hnearest y.code).2 (fun hunits => hne ?_) htie
      unfold steps
      rw [hsame, hsign, hunits]
    · refine hzerotie (fun hunits => hne ?_) (by omega)
      have hy : units y.code = 0 := by omega
      simp [steps, hy, ← hunits]

end Binary64

end NodeSettings.Decimal
