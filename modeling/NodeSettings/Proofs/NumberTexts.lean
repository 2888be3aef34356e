-- Numbers as they are written come back when they are read. A written
-- number is plain digits with at most one point, so it is no date and no
-- time, and what reads it stops at the end of its line.
import NodeSettings.Proofs.Shortest
import NodeSettings.Toml.Statements

namespace NodeSettings.Toml

open Decimal (Binary64 Scaled)

/-! ## Runs of digits -/

theorem hexDigit?_of_isDigit {c : Char} (h : c.isDigit = true) :
    hexDigit? c = some (c.toNat - '0'.toNat) := by
  rw [hexDigit?, if_pos h]

theorem natOfDigits_eq {ds : List Char} (h : ∀ c ∈ ds, c.isDigit = true) :
    natOfDigits 10 ds = Nat.ofDigitChars 10 ds 0 := by
  unfold natOfDigits Nat.ofDigitChars
  apply List.foldl_ext
  intro n c hc
  rw [hexDigit?_of_isDigit (h c hc), Option.getD_some, Nat.mul_comm]

theorem isDigit_toDigits (n : Nat) : ∀ c ∈ Nat.toDigits 10 n, c.isDigit = true :=
  fun _ hc => Nat.isDigit_of_mem_toDigits (by decide) (by decide) hc

theorem toDigits_cons (n : Nat) : ∃ d ds, Nat.toDigits 10 n = d :: ds ∧ d.isDigit = true := by
  obtain ⟨d, ds, hds⟩ := List.exists_cons_of_ne_nil (Nat.toDigits_ne_nil (n := n) (b := 10))
  exact ⟨d, ds, hds, isDigit_toDigits n d (by simp [hds])⟩

theorem natOfDigits_toDigits (n : Nat) : natOfDigits 10 (Nat.toDigits 10 n) = n := by
  rw [natOfDigits_eq (isDigit_toDigits n), Nat.ofDigitChars_ten_toDigits]

theorem moreDigits_append {ds : List Char} (h : ∀ c ∈ ds, c.isDigit = true) {c : Char}
    (rest : List Char) (hc : c.isDigit = false) (hu : c ≠ '_') :
    moreDigits Char.isDigit (ds ++ c :: rest) = (ds, c :: rest) := by
  induction ds with
  | nil =>
    rw [List.nil_append, moreDigits.eq_def]
    split <;> simp_all
  | cons d ds ih =>
    have hd : d.isDigit = true := h d List.mem_cons_self
    have hne : d ≠ '_' := by rintro rfl; exact absurd hd (by decide)
    rw [List.cons_append, moreDigits, if_pos hd, ih fun x hx => h x (List.mem_cons_of_mem _ hx)]
    · rintro _ _ rfl
      exact absurd rfl hne

theorem digits?_append {ds : List Char} (hne : ds ≠ []) (h : ∀ c ∈ ds, c.isDigit = true)
    {c : Char} (rest : List Char) (hc : c.isDigit = false) (hu : c ≠ '_') :
    digits? Char.isDigit (ds ++ c :: rest) = some (ds, c :: rest) := by
  obtain ⟨d, ds, rfl⟩ := List.exists_cons_of_ne_nil hne
  have hd : d.isDigit = true := h d List.mem_cons_self
  rw [List.cons_append, digits?, if_pos hd,
    moreDigits_append (fun x hx => h x (List.mem_cons_of_mem _ hx)) rest hc hu]

/-- A zero stands in front of no other digit. -/
theorem head?_toDigits {n : Nat} (h : 0 < n) : (Nat.toDigits 10 n).head? ≠ some '0' := by
  induction n using Nat.strong_induction_on with
  | _ n ih =>
    rw [Nat.toDigits_eq_if (by decide)]
    split
    · rename_i hlt
      interval_cases n <;> decide
    · rw [List.head?_append_of_ne_nil _ Nat.toDigits_ne_nil]
      exact ih (n / 10) (by omega) (by omega)

theorem whole?_toDigits (n : Nat) {c : Char} (rest : List Char) (hc : c.isDigit = false)
    (hu : c ≠ '_') :
    whole? (Nat.toDigits 10 n ++ c :: rest) = some (Nat.toDigits 10 n, c :: rest) := by
  by_cases h0 : n = 0
  · subst h0
    rfl
  · have hhead := head?_toDigits (n := n) (by omega)
    rw [whole?.eq_def]
    split
    · rename_i cs heq
      obtain ⟨d, ds, hds, -⟩ := toDigits_cons n
      rw [hds] at hhead heq
      simp only [List.cons_append, List.cons.injEq] at heq
      simp [heq.1] at hhead
    · exact digits?_append Nat.toDigits_ne_nil (isDigit_toDigits n) rest hc hu

/-! ## No dates and no times -/

theorem twoDigits_eq_some {cs rest : List Char} {n : Nat} (h : twoDigits cs = some (n, rest)) :
    ∃ a b, a.isDigit = true ∧ b.isDigit = true ∧ cs = a :: b :: rest := by
  unfold twoDigits at h
  split at h
  · rename_i a b cs
    simp only [digit?] at h
    split at h <;> rename_i ha <;> split at h <;> rename_i hb <;> simp_all
  · cases h

theorem expect_eq_some {c : Char} {cs rest : List Char} (h : expect c cs = some rest) :
    cs = c :: rest := by
  unfold expect at h
  split at h
  · rename_i d cs
    by_cases hd : d = c <;> simp_all
  · cases h

theorem fourDigits_eq_some {cs rest : List Char} {n : Nat} (h : fourDigits cs = some (n, rest)) :
    ∃ ds, ds ≠ [] ∧ (∀ c ∈ ds, c.isDigit = true) ∧ cs = ds ++ rest := by
  unfold fourDigits at h
  split at h
  · rename_i a b cs
    obtain ⟨⟨high, _⟩, hhigh, h⟩ := Option.bind_eq_some_iff.1 h
    obtain ⟨⟨low, cs'⟩, hlow, hend⟩ := Option.bind_eq_some_iff.1 h
    obtain rfl : cs' = rest := congrArg Prod.snd (Option.some.inj hend)
    obtain ⟨_, _, ha, hb, heq⟩ := twoDigits_eq_some hhigh
    obtain ⟨c, d, hc, hd, rfl⟩ := twoDigits_eq_some hlow
    cases heq
    exact ⟨[a, b, c, d], by simp, by simp [ha, hb, hc, hd], rfl⟩
  · cases h

/-- What a text begins with: some digits, and then the character `c`. -/
def DigitsThen (c : Char) (cs : List Char) : Prop :=
  ∃ ds rest, ds ≠ [] ∧ (∀ d ∈ ds, d.isDigit = true) ∧ cs = ds ++ c :: rest

theorem digitsThen_of_date {cs rest : List Char} {d : Date} (h : Date.read cs = some (d, rest)) :
    DigitsThen '-' cs := by
  obtain ⟨⟨year, cs₁⟩, hyear, h⟩ := Option.bind_eq_some_iff.1 h
  obtain ⟨cs₂, hdash, h⟩ := Option.bind_eq_some_iff.1 h
  obtain ⟨ds, hne, hds, rfl⟩ := fourDigits_eq_some hyear
  obtain rfl := expect_eq_some hdash
  exact ⟨ds, cs₂, hne, hds, rfl⟩

theorem digitsThen_of_time {cs rest : List Char} {t : Time} (h : Time.read cs = some (t, rest)) :
    DigitsThen ':' cs := by
  obtain ⟨⟨hour, cs₁⟩, hhour, h⟩ := Option.bind_eq_some_iff.1 h
  obtain ⟨cs₂, hcolon, h⟩ := Option.bind_eq_some_iff.1 h
  obtain ⟨a, b, ha, hb, rfl⟩ := twoDigits_eq_some hhour
  obtain rfl := expect_eq_some hcolon
  exact ⟨[a, b], cs₂, by simp, by simp [ha, hb], rfl⟩

/-- Dates and times begin with digits, and a hyphen or a colon behind them. -/
theorem Moment.read_eq_none {cs : List Char} (hdate : ¬ DigitsThen '-' cs)
    (htime : ¬ DigitsThen ':' cs) : Moment.read cs = none := by
  unfold Moment.read
  cases hd : Date.read cs with
  | some r => exact absurd (digitsThen_of_date hd) hdate
  | none =>
    cases ht : Time.read cs with
    | some r => exact absurd (digitsThen_of_time ht) htime
    | none => rfl

theorem not_digitsThen_of_head {a c : Char} {cs : List Char} (h : a.isDigit = false) :
    ¬ DigitsThen c (a :: cs) := by
  rintro ⟨ds, rest, hne, hds, heq⟩
  obtain ⟨d, ds, rfl⟩ := List.exists_cons_of_ne_nil hne
  cases heq
  simp [hds] at h

/-- Only one character comes right behind a run of digits. -/
theorem not_digitsThen_append {ds : List Char} (h : ∀ d ∈ ds, d.isDigit = true) {a c : Char}
    (rest : List Char) (ha : a.isDigit = false) (hc : c.isDigit = false) (hne : c ≠ a) :
    ¬ DigitsThen c (ds ++ a :: rest) := by
  rintro ⟨ds', rest', _, hds', heq⟩
  have h₁ : (ds ++ a :: rest).dropWhile Char.isDigit = a :: rest := by
    rw [List.dropWhile_append_of_pos h, List.dropWhile_cons_of_neg (by simp [ha])]
  have h₂ : (ds' ++ c :: rest').dropWhile Char.isDigit = c :: rest' := by
    rw [List.dropWhile_append_of_pos hds', List.dropWhile_cons_of_neg (by simp [hc])]
  rw [heq, h₂] at h₁
  cases h₁
  exact hne rfl

/-- Digits with neither of these two behind them are no moment. -/
theorem moment_toDigits (n : Nat) {c : Char} (rest : List Char) (hc : c.isDigit = false)
    (hdash : c ≠ '-') (hcolon : c ≠ ':') :
    Moment.read (Nat.toDigits 10 n ++ c :: rest) = none := by
  apply Moment.read_eq_none
  · exact not_digitsThen_append (isDigit_toDigits n) rest hc rfl hdash.symm
  · exact not_digitsThen_append (isDigit_toDigits n) rest hc rfl hcolon.symm

/-! ## Integers -/

theorem readSign_digits {n : Nat} {cs : List Char} :
    readSign (Nat.toDigits 10 n ++ cs) = (false, Nat.toDigits 10 n ++ cs) := by
  obtain ⟨d, ds, hds, hd⟩ := toDigits_cons n
  rw [hds, List.cons_append]
  unfold readSign
  split
  · rename_i heq
    cases heq
    exact absurd hd (by decide)
  · rename_i heq
    cases heq
    exact absurd hd (by decide)
  · rfl

/-- A zero in front is the whole number, so no base can follow it. -/
theorem eq_of_toDigits_zero {n : Nat} {c d : Char} {rest cs : List Char}
    (h : Nat.toDigits 10 n ++ c :: rest = '0' :: d :: cs) : d = c := by
  by_cases h0 : n = 0
  · subst h0
    cases h
    rfl
  · have hhead := head?_toDigits (n := n) (by omega)
    have happend : (Nat.toDigits 10 n ++ c :: rest).head? = (Nat.toDigits 10 n).head? :=
      List.head?_append_of_ne_nil _ Nat.toDigits_ne_nil
    rw [← happend, h] at hhead
    exact absurd rfl hhead

theorem inRange_of_lt {n : Nat} (h : n < 0x8000000000000000) : inRange n = some (n : Int) := by
  have hlow : (-0x8000000000000000 : Int) ≤ n := by omega
  have hhigh : (n : Int) < 0x8000000000000000 := by omega
  simp [inRange, hlow, hhigh]

theorem readInteger_toDigits {n : Nat} (h : n < 0x8000000000000000) (rest : List Char) :
    readInteger (Nat.toDigits 10 n ++ '\n' :: rest) = some (.integer n, '\n' :: rest) := by
  rw [readInteger.eq_def]
  split
  · rename_i heq
    exact absurd (eq_of_toDigits_zero heq) (by decide)
  · rename_i heq
    exact absurd (eq_of_toDigits_zero heq) (by decide)
  · rename_i heq
    exact absurd (eq_of_toDigits_zero heq) (by decide)
  · have hrange : inRange (signed false (natOfDigits 10 (Nat.toDigits 10 n))) = some (n : Int) := by
      rw [natOfDigits_toDigits]
      exact inRange_of_lt h
    have hwhole := whole?_toDigits n rest (c := '\n') rfl (by simp)
    simp only [readSign_digits]
    refine Option.bind_eq_some_iff.2 ⟨_, hwhole, ?_⟩
    exact Option.bind_eq_some_iff.2 ⟨_, hrange, rfl⟩

theorem decimal?_toDigits (n : Nat) (rest : List Char) :
    decimal? (Nat.toDigits 10 n ++ '\n' :: rest) = none := by
  unfold decimal?
  simp only [readSign_digits, whole?_toDigits n rest (c := '\n') rfl (by simp)]
  rfl

theorem special?_toDigits (n : Nat) (rest : List Char) :
    special? (Nat.toDigits 10 n ++ rest) = none := by
  unfold special?
  simp only [readSign_digits]
  obtain ⟨d, ds, hds, hd⟩ := toDigits_cons n
  rw [hds, List.cons_append]
  split
  · rename_i heq
    obtain ⟨rfl, _⟩ := List.cons.inj heq
    exact absurd hd (by decide)
  · rename_i heq
    obtain ⟨rfl, _⟩ := List.cons.inj heq
    exact absurd hd (by decide)
  · rfl

theorem readNumeral_toDigits {n : Nat} (h : n < 0x8000000000000000) (rest : List Char) :
    readNumeral (Nat.toDigits 10 n ++ '\n' :: rest) = some (.integer n, '\n' :: rest) := by
  have hmoment : Moment.read (Nat.toDigits 10 n ++ '\n' :: rest) = none :=
    moment_toDigits n rest rfl (by simp) (by simp)
  unfold readNumeral
  rw [hmoment, decimal?_toDigits, special?_toDigits, readInteger_toDigits h]
  rfl

/-! ## Decimal numbers -/

theorem isDigit_append {ds ds' : List Char} (h : ∀ c ∈ ds, c.isDigit = true)
    (h' : ∀ c ∈ ds', c.isDigit = true) : ∀ c ∈ ds ++ ds', c.isDigit = true := by
  intro c hc
  rcases List.mem_append.1 hc with hc | hc
  · exact h c hc
  · exact h' c hc

theorem natOfDigits_append {ds ds' : List Char} (h : ∀ c ∈ ds, c.isDigit = true)
    (h' : ∀ c ∈ ds', c.isDigit = true) :
    natOfDigits 10 (ds ++ ds') = natOfDigits 10 ds * 10 ^ ds'.length + natOfDigits 10 ds' := by
  rw [natOfDigits_eq (isDigit_append h h'), natOfDigits_eq h, natOfDigits_eq h',
    Nat.ofDigitChars_append, Nat.ofDigitChars_eq_ofDigitChars_zero, Nat.mul_comm]

/-- The digits of a number below `10 ^ places`, with zeros in front. -/
theorem leftPad_toDigits {r places : Nat} (hp : 0 < places) (h : r < 10 ^ places) :
    (Decimal.leftPad places (Nat.toDigits 10 r)).length = places ∧
      (∀ c ∈ Decimal.leftPad places (Nat.toDigits 10 r), c.isDigit = true) ∧
      natOfDigits 10 (Decimal.leftPad places (Nat.toDigits 10 r)) = r := by
  have hlen := (Nat.length_toDigits_le_iff (b := 10) (by decide) hp).2 h
  have hzeros : ∀ c ∈ List.replicate (places - (Nat.toDigits 10 r).length) '0',
      c.isDigit = true := by
    intro c hc
    rw [List.eq_of_mem_replicate hc]
    rfl
  unfold Decimal.leftPad
  refine ⟨?_, isDigit_append hzeros (isDigit_toDigits r), ?_⟩
  · rw [List.length_append, List.length_replicate]
    omega
  · rw [natOfDigits_append hzeros (isDigit_toDigits r), natOfDigits_toDigits,
      natOfDigits_eq hzeros, Nat.ofDigitChars_replicate_zero, Nat.mul_zero, Nat.zero_mul,
      Nat.zero_add]

/-- A plain text is a whole part, a point and a fraction. All its digits in one row, with the point
in its place, have the code of the number. -/
theorem plain_parts (d : Scaled) : ∃ whole fraction,
    d.plain = Nat.toDigits 10 whole ++ '.' :: fraction ∧ fraction ≠ [] ∧
      (∀ c ∈ fraction, c.isDigit = true) ∧
      Scaled.code ⟨natOfDigits 10 (Nat.toDigits 10 whole ++ fraction), 0 - fraction.length⟩ =
        d.code := by
  obtain ⟨n, e⟩ := d
  unfold Scaled.plain
  dsimp only
  split
  · rename_i he
    have hzero : ∀ c ∈ ['0'], c.isDigit = true := by simp
    have hcode := Scaled.code_zeros n e e.toNat
    rw [Int.toNat_of_nonneg he, Int.sub_self] at hcode
    rw [Nat.pow_eq]
    refine ⟨n * 10 ^ e.toNat, ['0'], by simp, by decide, hzero, ?_⟩
    rw [natOfDigits_append (isDigit_toDigits _) hzero, natOfDigits_toDigits, ← hcode]
    exact Scaled.code_tenfold _ _
  · rename_i he
    rw [Nat.pow_eq]
    obtain ⟨p, hp⟩ := Int.eq_ofNat_of_zero_le (a := -e) (by omega)
    have hr : n % 10 ^ p < 10 ^ p := Nat.mod_lt _ (by positivity)
    obtain ⟨hlen, hdigits, hval⟩ := leftPad_toDigits (by omega) hr
    rw [hp, Int.toNat_natCast]
    refine ⟨n / 10 ^ p, _, rfl, List.ne_nil_of_length_pos (by omega), hdigits, ?_⟩
    rw [natOfDigits_append (isDigit_toDigits _) hdigits, natOfDigits_toDigits, hlen, hval,
      Nat.mul_comm, Nat.div_add_mod]
    congr 2
    omega

theorem tail?_fraction {fraction : List Char} (hne : fraction ≠ [])
    (h : ∀ c ∈ fraction, c.isDigit = true) (rest : List Char) :
    tail? ('.' :: (fraction ++ '\n' :: rest)) = some ((fraction, 0), '\n' :: rest) := by
  have hdigits := digits?_append hne h rest (c := '\n') rfl (by simp)
  exact Option.bind_eq_some_iff.2 ⟨_, hdigits, rfl⟩

/-- The sign of a number in front of its digits. -/
def signText (negative : Bool) : List Char := if negative then ['-'] else []

theorem readSign_signText (negative : Bool) (n : Nat) (cs : List Char) :
    readSign (signText negative ++ (Nat.toDigits 10 n ++ cs)) =
      (negative, Nat.toDigits 10 n ++ cs) := by
  cases negative with
  | false => exact readSign_digits
  | true => rfl

theorem decimal?_plain (negative : Bool) {d : Scaled} (h : d.code < Decimal.infinityCode)
    (rest : List Char) :
    decimal? (signText negative ++ (d.plain ++ '\n' :: rest)) =
      some (.number (d.toBinary negative), '\n' :: rest) := by
  obtain ⟨whole, fraction, hplain, hne, hdigits, hcode⟩ := plain_parts d
  have hwhole := whole?_toDigits whole (fraction ++ '\n' :: rest) (c := '.') rfl (by simp)
  have hbinary : Scaled.toBinary negative
      ⟨natOfDigits 10 (Nat.toDigits 10 whole ++ fraction), 0 - fraction.length⟩ =
        d.toBinary negative := by
    simp only [Scaled.toBinary, hcode]
  have hfinite : d.toBinary negative ≠ Binary64.infinity false := by
    intro heq
    have := congrArg Binary64.code heq
    simp only [Scaled.toBinary, Binary64.infinity] at this
    omega
  unfold decimal?
  rw [hplain, List.append_assoc, List.cons_append, readSign_signText]
  refine Option.bind_eq_some_iff.2 ⟨_, hwhole, ?_⟩
  refine Option.bind_eq_some_iff.2 ⟨_, tail?_fraction hne hdigits rest, ?_⟩
  dsimp only
  rw [hbinary, if_neg hfinite]

/-! ## Amounts -/

theorem moment_signText_plain (negative : Bool) (d : Scaled) (rest : List Char) :
    Moment.read (signText negative ++ (d.plain ++ rest)) = none := by
  obtain ⟨whole, fraction, hplain, -, -, -⟩ := plain_parts d
  rw [hplain, List.append_assoc, List.cons_append]
  cases negative with
  | true =>
    apply Moment.read_eq_none
    · exact not_digitsThen_of_head rfl
    · exact not_digitsThen_of_head rfl
  | false => exact moment_toDigits whole _ rfl (by simp) (by simp)

/-- An amount comes back as it was, and what is no number as the plain word for that. -/
theorem readNumeral_amount (x : Binary64) (rest : List Char) :
    readNumeral (x.plain ['n', 'a', 'n'] ++ '\n' :: rest) =
      some (.number x.canonical, '\n' :: rest) := by
  have hlt := x.code_lt
  unfold Binary64.plain Binary64.canonical
  by_cases hnan : x.isNaN = true
  · rw [if_pos hnan, if_pos hnan]
    rfl
  · rw [if_neg hnan, if_neg hnan, List.append_assoc]
    by_cases hfin : x.isFinite = true
    · have hcode : x.code < Decimal.infinityCode := by simpa [Binary64.isFinite] using hfin
      have hshort := Decimal.shortest_code hcode
      have hx : (Decimal.shortest x.code).toBinary x.negative = x := by
        simp only [Scaled.toBinary, hshort]
      have hdec := decimal?_plain x.negative (d := Decimal.shortest x.code) (by omega) rest
      have hmom := moment_signText_plain x.negative (Decimal.shortest x.code) ('\n' :: rest)
      rw [if_pos hfin]
      unfold signText at hdec hmom
      unfold readNumeral
      rw [hmom, hdec, hx]
      rfl
    · have hcode : x.code = Decimal.infinityCode := by
        simp only [Binary64.isFinite, Binary64.isNaN, decide_eq_true_eq] at hfin hnan
        omega
      obtain ⟨negative, code, hc⟩ := x
      cases hcode
      rw [if_neg hfin]
      cases negative <;> rfl

end NodeSettings.Toml
