-- Texts as they are written come back when they are read, whatever is in
-- them. Each character is written as itself or as an escape, and either is
-- undone by one step of the reader; only runs of quotes need a look ahead.
import Mathlib
import NodeSettings.Toml.Quoted
import NodeSettings.Toml.Written

namespace NodeSettings.Toml

/-! ## Single characters -/

theorem toNat_lt_of_isControl {c : Char} (h : isControl c = true) : c.toNat < 128 := by
  simp only [isControl, Bool.or_eq_true, Bool.and_eq_true, decide_eq_true_eq, beq_iff_eq] at h
  rcases h with ⟨⟨h, -⟩, -⟩ | rfl
  · have : c.toNat < 32 := h
    omega
  · decide

theorem isPlain_of_not_isControl {c : Char} (h : isControl c = false) (hn : c ≠ '\n') :
    isPlain c = true := by
  by_cases ht : c = '\t'
  · subst ht
    decide
  · simp_all [isControl, isPlain]

theorem ne_of_isPlain {c d : Char} (h : isPlain c = true) (hd : isPlain d = false) : c ≠ d := by
  rintro rfl
  rw [h] at hd
  cases hd

/-- Two hexadecimal digits behind two zeros give every character below 128. -/
theorem charOfHex?_written : ∀ n < 128,
    charOfHex? ['0', '0', upperHexDigit (n / 16), upperHexDigit (n % 16)] =
      some (Char.ofNat n) := by
  decide +kernel

/-- What stands behind the backslash of an escape that gives `c`, and is no line end. -/
def Escapes (c : Char) (code : List Char) : Prop :=
  ∀ rest, escape? (code ++ rest) = some (c, rest) ∧ joinLines? (code ++ rest) = none

theorem escapes_hex {c : Char} (h : isControl c = true) :
    Escapes c ['u', '0', '0', upperHexDigit (c.toNat / 16), upperHexDigit (c.toNat % 16)] := by
  intro rest
  have hhex := charOfHex?_written c.toNat (toNat_lt_of_isControl h)
  rw [Char.ofNat_toNat] at hhex
  refine ⟨?_, rfl⟩
  change (charOfHex? _).map _ = _
  rw [hhex]
  rfl

theorem escapes_quote : Escapes '"' ['"'] := fun _ => ⟨rfl, rfl⟩

/-- A character is written as an escape that gives it back, or as it stands. -/
theorem writeChar_cases (lines : Bool) (c : Char) :
    (∃ code, writeChar lines c = '\\' :: code ∧ Escapes c code) ∨
      (writeChar lines c = [c] ∧ c ≠ '\\' ∧ c ≠ '\r' ∧
        (isPlain c = true ∨ lines = true ∧ c = '\n')) := by
  unfold writeChar
  split
  · rename_i h
    obtain rfl := eq_of_beq h
    exact .inl ⟨['b'], rfl, fun _ => ⟨rfl, rfl⟩⟩
  split
  · rename_i h
    obtain rfl := eq_of_beq h
    exact .inl ⟨['t'], rfl, fun _ => ⟨rfl, rfl⟩⟩
  split
  · rename_i h
    obtain rfl := eq_of_beq h
    cases lines with
    | false => exact .inl ⟨['n'], rfl, fun _ => ⟨rfl, rfl⟩⟩
    | true => exact .inr ⟨rfl, by simp, by simp, .inr ⟨rfl, rfl⟩⟩
  split
  · rename_i h
    obtain rfl := eq_of_beq h
    exact .inl ⟨['f'], rfl, fun _ => ⟨rfl, rfl⟩⟩
  split
  · rename_i h
    obtain rfl := eq_of_beq h
    exact .inl ⟨['r'], rfl, fun _ => ⟨rfl, rfl⟩⟩
  split
  · rename_i h
    obtain rfl := eq_of_beq h
    exact .inl ⟨['\\'], rfl, fun _ => ⟨rfl, rfl⟩⟩
  split
  · rename_i h
    exact .inl ⟨_, rfl, escapes_hex h⟩
  · rename_i hn _ hr hb hc
    refine .inr ⟨rfl, by simpa using hb, by simpa using hr, .inl ?_⟩
    exact isPlain_of_not_isControl (by simpa using hc) (by simpa using hn)

/-! ## One line -/

theorem readQuoted_escape {c : Char} {code : List Char} (h : Escapes c code) (rest : List Char) :
    readQuoted ('\\' :: (code ++ rest)) = prepend [c] (readQuoted rest) := by
  rw [readQuoted]
  split
  · rename_i heq
    rw [(h rest).1] at heq
    cases heq
    rfl
  · rename_i heq
    rw [(h rest).1] at heq
    cases heq

theorem readQuoted_plain {c : Char} (h : isPlain c = true) (hq : c ≠ '"') (hb : c ≠ '\\')
    (rest : List Char) : readQuoted (c :: rest) = prepend [c] (readQuoted rest) := by
  rw [readQuoted, if_pos h]
  · intro heq
    exact hq heq
  · intro heq
    exact hb heq

theorem readQuoted_writeQuoted (cs rest : List Char) :
    readQuoted (writeQuoted cs ++ '"' :: rest) = some (cs, rest) := by
  induction cs with
  | nil => rw [writeQuoted, List.nil_append, readQuoted]
  | cons c cs ih =>
    rw [writeQuoted]
    split
    · rename_i h
      obtain rfl := eq_of_beq h
      have hstep := readQuoted_escape escapes_quote
        (writeQuoted cs ++ '"' :: rest)
      simp only [List.cons_append, List.nil_append] at hstep ⊢
      rw [hstep, ih]
      rfl
    · rename_i h
      have hq : c ≠ '"' := by simpa using h
      rcases writeChar_cases false c with ⟨code, hw, hcode⟩ | ⟨hw, hb, -, hplain⟩
      · rw [hw, List.cons_append, List.cons_append, List.append_assoc, readQuoted_escape hcode, ih]
        rfl
      · have hp : isPlain c = true := by simpa using hplain
        rw [hw, List.append_assoc, List.singleton_append, readQuoted_plain hp hq hb, ih]
        rfl

theorem readLiteral_append {cs : List Char} (hplain : ∀ c ∈ cs, isPlain c = true)
    (hq : '\'' ∉ cs) (rest : List Char) :
    readLiteral (cs ++ '\'' :: rest) = some (cs, rest) := by
  induction cs with
  | nil => rfl
  | cons c cs ih =>
    have hc : c ≠ '\'' := by
      rintro rfl
      exact hq List.mem_cons_self
    rw [List.cons_append, readLiteral, if_pos (hplain c List.mem_cons_self),
      ih (fun d hd => hplain d (List.mem_cons_of_mem _ hd)) fun h => hq (List.mem_cons_of_mem _ h)]
    · rfl
    · intro heq
      exact hc heq

/-! ## Several lines -/

/-- Two more quotes, so that a quote in front of them would close the text. -/
def TwoQuotes (quote : Char) (cs : List Char) : Prop := ∃ rest, cs = quote :: quote :: rest

theorem not_twoQuotes_of_ne {quote c : Char} {cs : List Char} (h : c ≠ quote) :
    ¬ TwoQuotes quote (c :: cs) := by
  rintro ⟨_, heq⟩
  exact h (List.cons.inj heq).1

theorem not_twoQuotes_of_second {quote c d : Char} {cs : List Char} (h : d ≠ quote) :
    ¬ TwoQuotes quote (c :: d :: cs) := by
  rintro ⟨_, heq⟩
  exact h (List.cons.inj (List.cons.inj heq).2).1

theorem readQuotedLines_escape {c : Char} {code : List Char} (h : Escapes c code)
    (rest : List Char) :
    readQuotedLines ('\\' :: (code ++ rest)) = prepend [c] (readQuotedLines rest) := by
  rw [readQuotedLines]
  split
  · rename_i heq
    rw [(h rest).2] at heq
    cases heq
  split
  · rename_i heq
    rw [(h rest).1] at heq
    cases heq
    rfl
  · rename_i heq
    rw [(h rest).1] at heq
    cases heq

theorem readQuotedLines_char {c : Char} (h : isPlain c = true ∨ c = '\n') (hq : c ≠ '"')
    (hb : c ≠ '\\') (rest : List Char) :
    readQuotedLines (c :: rest) = prepend [c] (readQuotedLines rest) := by
  rcases h with h | rfl
  · have hn : c ≠ '\n' := ne_of_isPlain h rfl
    have hr : c ≠ '\r' := ne_of_isPlain h rfl
    rw [readQuotedLines, if_pos h]
    · intro _ heq
      exact absurd heq hq
    · intro heq
      exact hq heq
    · intro heq
      exact hb heq
    · intro heq
      exact hn heq
    · intro _ heq
      exact absurd heq hr
  · rw [readQuotedLines]

theorem readQuotedLines_quote {rest : List Char} (h : ¬ TwoQuotes '"' rest) :
    readQuotedLines ('"' :: rest) = prepend ['"'] (readQuotedLines rest) := by
  rw [readQuotedLines]
  intro more heq
  exact h ⟨more, heq⟩

theorem writeQuotedLines_quote {n : Nat} (h : n < 2) (cs : List Char) :
    writeQuotedLines n ('"' :: cs) = '"' :: writeQuotedLines (n + 1) cs := by
  simp [writeQuotedLines, h]

/-- Nothing but a bare quote is written with a quote in front. -/
theorem writeQuotedLines_head {n : Nat} {c : Char} (h : 2 ≤ n ∨ c ≠ '"') (cs : List Char) :
    ∃ d ds, writeQuotedLines n (c :: cs) = d :: ds ∧ d ≠ '"' := by
  rw [writeQuotedLines]
  split
  · rename_i hq
    have hn : ¬ n < 2 := by
      rcases h with h | h
      · omega
      · exact absurd (eq_of_beq hq) h
    rw [if_neg hn]
    exact ⟨_, _, rfl, by simp⟩
  · rename_i hq
    rcases writeChar_cases true c with ⟨code, hw, -⟩ | ⟨hw, -⟩
    · exact ⟨_, _, by rw [hw, List.cons_append], by simp⟩
    · exact ⟨c, _, by rw [hw, List.singleton_append], by simpa using hq⟩

/-- Behind a bare quote come two more only if they belong to the end. -/
theorem not_twoQuotes_writeQuotedLines {n : Nat} (hn : 1 ≤ n) {cs : List Char} (hne : cs ≠ [])
    (hone : n = 1 → cs ≠ ['"']) (rest : List Char) :
    ¬ TwoQuotes '"' (writeQuotedLines n cs ++ rest) := by
  obtain ⟨c, cs, rfl⟩ := List.exists_cons_of_ne_nil hne
  by_cases hc : 2 ≤ n ∨ c ≠ '"'
  · obtain ⟨d, ds, hw, hd⟩ := writeQuotedLines_head hc cs
    rw [hw, List.cons_append]
    exact not_twoQuotes_of_ne hd
  · obtain ⟨hlt, rfl⟩ : n = 1 ∧ c = '"' := by
      rw [not_or, not_not] at hc
      exact ⟨by omega, hc.2⟩
    subst hlt
    have hcs : cs ≠ [] := by
      rintro rfl
      exact hone rfl rfl
    obtain ⟨c', cs, rfl⟩ := List.exists_cons_of_ne_nil hcs
    obtain ⟨d, ds, hw, hd⟩ := writeQuotedLines_head (n := 2) (c := c') (.inl (Nat.le_refl 2)) cs
    rw [writeQuotedLines_quote (by decide), hw, List.cons_append, List.cons_append]
    exact not_twoQuotes_of_second hd

theorem closing_eq (quote : Char) {rest : List Char} (h : rest.head? ≠ some quote) :
    closing quote rest = ([], rest) := by
  unfold closing
  split <;> simp_all

theorem closing_one (quote : Char) {rest : List Char} (h : rest.head? ≠ some quote) :
    closing quote (quote :: rest) = ([quote], rest) := by
  cases rest <;> simp_all [closing]

theorem closing_two (quote : Char) (rest : List Char) :
    closing quote (quote :: quote :: rest) = ([quote, quote], rest) := by
  simp [closing]

theorem readQuotedLines_writeQuotedLines (cs : List Char) (n : Nat) {rest : List Char}
    (hrest : rest.head? ≠ some '"') :
    readQuotedLines (writeQuotedLines n cs ++ '"' :: '"' :: '"' :: rest) = some (cs, rest) := by
  induction cs generalizing n with
  | nil => rw [writeQuotedLines, List.nil_append, readQuotedLines, closing_eq _ hrest]
  | cons c cs ih =>
    rw [writeQuotedLines]
    split
    · rename_i hq
      obtain rfl := eq_of_beq hq
      split
      · rename_i hn
        by_cases hnil : cs = []
        · subst hnil
          rw [writeQuotedLines, List.cons_append, List.nil_append, readQuotedLines,
            closing_one _ hrest]
        · by_cases hone : n + 1 = 1 ∧ cs = ['"']
          · obtain ⟨hn, rfl⟩ := hone
            obtain rfl : n = 0 := by omega
            change readQuotedLines ('"' :: '"' :: '"' :: '"' :: '"' :: rest) = _
            rw [readQuotedLines, closing_two]
          · have htwo := not_twoQuotes_writeQuotedLines (n := n + 1) (by omega) hnil
              (fun h h' => hone ⟨h, h'⟩) ('"' :: '"' :: '"' :: rest)
            rw [List.cons_append, readQuotedLines_quote htwo, ih]
            rfl
      · have hstep := readQuotedLines_escape escapes_quote
          (writeQuotedLines 0 cs ++ '"' :: '"' :: '"' :: rest)
        simp only [List.cons_append, List.nil_append] at hstep ⊢
        rw [hstep, ih]
        rfl
    · rename_i hq
      have hne : c ≠ '"' := by simpa using hq
      rcases writeChar_cases true c with ⟨code, hw, hcode⟩ | ⟨hw, hb, -, hplain⟩
      · rw [hw, List.cons_append, List.cons_append, List.append_assoc,
          readQuotedLines_escape hcode, ih]
        rfl
      · rw [hw, List.append_assoc, List.singleton_append,
          readQuotedLines_char (hplain.imp id And.right) hne hb, ih]
        rfl

/-! ## Several lines without escapes -/

theorem readLiteralLines_char {c : Char} (h : isPlain c = true ∨ c = '\n') (hq : c ≠ '\'')
    (rest : List Char) :
    readLiteralLines (c :: rest) = prepend [c] (readLiteralLines rest) := by
  rcases h with h | rfl
  · have hn : c ≠ '\n' := ne_of_isPlain h rfl
    have hr : c ≠ '\r' := ne_of_isPlain h rfl
    rw [readLiteralLines, if_pos h]
    · intro _ heq
      exact absurd heq hq
    · intro heq
      exact hn heq
    · intro _ heq
      exact absurd heq hr
  · rw [readLiteralLines]

theorem readLiteralLines_quote {rest : List Char} (h : ¬ TwoQuotes '\'' rest) :
    readLiteralLines ('\'' :: rest) = prepend ['\''] (readLiteralLines rest) := by
  have hplain : isPlain '\'' = true := rfl
  rw [readLiteralLines, if_pos hplain]
  · intro more _ heq
    exact h ⟨more, heq⟩
  · intro heq
    simp at heq
  · intro _ heq
    simp at heq

/-- A run of quotes, and the longest one with it, is no shorter than what was counted. -/
theorem le_longestRun (quote : Char) (n : Nat) (cs : List Char) : n ≤ longestRun quote n cs := by
  induction cs generalizing n with
  | nil => exact Nat.le_refl n
  | cons c cs ih =>
    rw [longestRun]
    split
    · exact Nat.le_of_succ_le (ih (n + 1))
    · exact Nat.le_max_left ..

theorem longestRun_tail {quote c : Char} {n : Nat} {cs : List Char}
    (h : longestRun quote n (c :: cs) ≤ 2) : ∃ m, longestRun quote m cs ≤ 2 := by
  rw [longestRun] at h
  split at h
  · exact ⟨n + 1, h⟩
  · exact ⟨0, (Nat.le_max_right ..).trans h⟩

theorem readLiteralLines_append {cs : List Char} {n : Nat}
    (hplain : ∀ c ∈ cs, isPlain c = true ∨ c = '\n') (hrun : longestRun '\'' n cs ≤ 2)
    {rest : List Char} (hrest : rest.head? ≠ some '\'') :
    readLiteralLines (cs ++ '\'' :: '\'' :: '\'' :: rest) = some (cs, rest) := by
  induction cs generalizing n with
  | nil => rw [List.nil_append, readLiteralLines, closing_eq _ hrest]
  | cons c cs ih =>
    obtain ⟨m, hm⟩ := longestRun_tail hrun
    have ih := ih (fun d hd => hplain d (List.mem_cons_of_mem _ hd)) hm
    by_cases hq : c = '\''
    · subst hq
      by_cases htwo : TwoQuotes '\'' (cs ++ '\'' :: '\'' :: '\'' :: rest)
      · -- Three quotes in the text itself would be too many, so these reach into the end.
        obtain ⟨more, hmore⟩ := htwo
        rcases cs with _ | ⟨c, cs⟩
        · rw [List.cons_append, List.nil_append, readLiteralLines, closing_one _ hrest]
        rcases cs with _ | ⟨d, cs⟩
        · obtain rfl : c = '\'' := (List.cons.inj hmore).1
          change readLiteralLines ('\'' :: '\'' :: '\'' :: '\'' :: '\'' :: rest) = _
          rw [readLiteralLines, closing_two]
        · obtain rfl : c = '\'' := (List.cons.inj hmore).1
          obtain rfl : d = '\'' := (List.cons.inj (List.cons.inj hmore).2).1
          have := le_longestRun '\'' (n + 1 + 1 + 1) cs
          simp only [longestRun, beq_self_eq_true, if_true] at hrun
          omega
      · rw [List.cons_append, readLiteralLines_quote htwo, ih]
        rfl
    · rw [List.cons_append, readLiteralLines_char (hplain c List.mem_cons_self) hq, ih]
      rfl

/-! ## The whole text -/

/-- The literal forms are only taken for texts that need no escape. -/
theorem formOf_literal {cs : List Char} (h : formOf cs = .literal) :
    (∀ c ∈ cs, isPlain c = true) ∧ '\'' ∉ cs := by
  unfold formOf at h
  dsimp only at h
  split at h
  · cases h
  split at h
  · rename_i hc
    simp only [Bool.and_eq_true, Bool.not_eq_true', List.any_eq_false, List.contains_eq_mem,
      decide_eq_false_iff_not] at hc
    obtain ⟨⟨hcontrol, hq⟩, hn⟩ := hc
    refine ⟨?_, hq⟩
    intro c hcs
    apply isPlain_of_not_isControl
    · simpa using hcontrol c hcs
    · rintro rfl
      exact hn hcs
  · split at h
    · cases h
    split at h
    · cases h
    split at h <;> cases h

theorem formOf_literalLines {cs : List Char} (h : formOf cs = .literalLines) :
    (∀ c ∈ cs, isPlain c = true ∨ c = '\n') ∧ longestRun '\'' 0 cs ≤ 2 := by
  unfold formOf at h
  dsimp only at h
  split at h
  · cases h
  split at h
  · cases h
  split at h
  · cases h
  split at h
  · rename_i hc
    simp only [Bool.and_eq_true, Bool.not_eq_true', List.any_eq_false, decide_eq_true_eq] at hc
    refine ⟨?_, hc.2⟩
    intro c hcs
    by_cases hn : c = '\n'
    · exact .inr hn
    · exact .inl (isPlain_of_not_isControl (by simpa using hc.1 c hcs) hn)
  · split at h <;> cases h

/-- Right behind three opening quotes, a text without line feeds does not begin with a line end. -/
theorem dropLineBreak_firstLine (cs text : List Char) (h : '\n' ∉ cs → lineBreak? text = none) :
    dropLineBreak (firstLine cs ++ text) = text := by
  unfold firstLine
  by_cases hn : '\n' ∈ cs
  · rw [if_pos (by simpa using hn)]
    rfl
  · rw [if_neg (by simpa using hn), List.nil_append, dropLineBreak, h hn]
    rfl

theorem lineBreak?_eq_none {c : Char} {cs : List Char} (hn : c ≠ '\n') (hr : c ≠ '\r') :
    lineBreak? (c :: cs) = none := by
  unfold lineBreak?
  split
  · rename_i heq
    exact absurd (List.cons.inj heq).1 hn
  · rename_i heq
    exact absurd (List.cons.inj heq).1 hr
  · rfl

theorem lineBreak?_writeQuotedLines {cs : List Char} (h : '\n' ∉ cs) (rest : List Char) :
    lineBreak? (writeQuotedLines 0 cs ++ '"' :: rest) = none := by
  cases cs with
  | nil => rfl
  | cons c cs =>
    have hn : c ≠ '\n' := by
      rintro rfl
      exact h List.mem_cons_self
    by_cases hq : c = '"'
    · subst hq
      rw [writeQuotedLines_quote (by decide)]
      rfl
    · rw [writeQuotedLines, if_neg (by simpa using hq)]
      rcases writeChar_cases true c with ⟨code, hw, -⟩ | ⟨hw, -, hr, -⟩
      · rw [hw]
        rfl
      · rw [hw]
        exact lineBreak?_eq_none hn hr

theorem lineBreak?_plain {cs : List Char} (hplain : ∀ c ∈ cs, isPlain c = true ∨ c = '\n')
    (h : '\n' ∉ cs) (rest : List Char) : lineBreak? (cs ++ '\'' :: rest) = none := by
  cases cs with
  | nil => rfl
  | cons c cs =>
    have hn : c ≠ '\n' := by
      rintro rfl
      exact h List.mem_cons_self
    have hr : c ≠ '\r' := by
      rcases hplain c List.mem_cons_self with hc | rfl
      · exact ne_of_isPlain hc rfl
      · simp
    exact lineBreak?_eq_none hn hr

theorem not_twoQuotes_end {quote : Char} {rest : List Char} (h : rest.head? ≠ some quote) :
    ¬ TwoQuotes quote (quote :: rest) := by
  rintro ⟨more, heq⟩
  obtain ⟨_, rfl⟩ := List.cons.inj heq
  exact h rfl

theorem not_twoQuotes_writeQuoted (cs : List Char) {rest : List Char}
    (h : rest.head? ≠ some '"') : ¬ TwoQuotes '"' (writeQuoted cs ++ '"' :: rest) := by
  cases cs with
  | nil => exact not_twoQuotes_end h
  | cons c cs =>
    rw [writeQuoted]
    split
    · exact not_twoQuotes_of_ne (by simp)
    · rename_i hq
      rcases writeChar_cases false c with ⟨code, hw, -⟩ | ⟨hw, -⟩
      · rw [hw]
        exact not_twoQuotes_of_ne (by simp)
      · rw [hw]
        exact not_twoQuotes_of_ne (by simpa using hq)

theorem not_twoQuotes_literal {cs : List Char} (hq : '\'' ∉ cs) {rest : List Char}
    (h : rest.head? ≠ some '\'') : ¬ TwoQuotes '\'' (cs ++ '\'' :: rest) := by
  cases cs with
  | nil => exact not_twoQuotes_end h
  | cons c cs =>
    refine not_twoQuotes_of_ne ?_
    rintro rfl
    exact hq List.mem_cons_self

/-- Without two more quotes behind the first, a text is on one line. -/
theorem readText?_quoted {cs : List Char} (h : ¬ TwoQuotes '"' cs) :
    readText? ('"' :: cs) = (readQuoted cs).map fun (s, rest) => (String.ofList s, rest) := by
  unfold readText?
  split
  · rename_i heq
    exact absurd ⟨_, (List.cons.inj heq).2⟩ h
  · rename_i heq
    simp at heq
  · rfl

theorem readText?_literal {cs : List Char} (h : ¬ TwoQuotes '\'' cs) :
    readText? ('\'' :: cs) = (readLiteral cs).map fun (s, rest) => (String.ofList s, rest) := by
  unfold readText?
  split
  · rename_i heq
    simp at heq
  · rename_i heq
    exact absurd ⟨_, (List.cons.inj heq).2⟩ h
  · rfl

/-- Every text comes back as it was, if no quote comes right behind it. -/
theorem readText?_writeText (cs : List Char) {rest : List Char} (hd : rest.head? ≠ some '"')
    (hs : rest.head? ≠ some '\'') :
    readText? (writeText cs ++ rest) = some (String.ofList cs, rest) := by
  unfold writeText
  split
  · simp only [List.append_assoc, List.cons_append, List.nil_append]
    rw [readText?_quoted (not_twoQuotes_writeQuoted cs hd), readQuoted_writeQuoted]
    rfl
  · rename_i hform
    obtain ⟨hplain, hq⟩ := formOf_literal hform
    simp only [List.append_assoc, List.cons_append, List.nil_append]
    rw [readText?_literal (not_twoQuotes_literal hq hs), readLiteral_append hplain hq]
    rfl
  · have hdrop := dropLineBreak_firstLine cs
      (writeQuotedLines 0 cs ++ '"' :: '"' :: '"' :: rest)
      fun hn => lineBreak?_writeQuotedLines hn _
    simp only [List.append_assoc, List.cons_append, List.nil_append, readText?]
    rw [hdrop, readQuotedLines_writeQuotedLines _ _ hd]
    rfl
  · rename_i hform
    obtain ⟨hplain, hrun⟩ := formOf_literalLines hform
    have hdrop := dropLineBreak_firstLine cs (cs ++ '\'' :: '\'' :: '\'' :: rest)
      fun hn => lineBreak?_plain hplain hn _
    simp only [List.append_assoc, List.cons_append, List.nil_append, readText?]
    rw [hdrop, readLiteralLines_append hplain hrun hs]
    rfl

end NodeSettings.Toml
