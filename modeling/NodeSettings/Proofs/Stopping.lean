-- Where readers stop. A number is read up to the first character that is no
-- part of it, so it is the same number in front of a space, a line end, or a
-- mark between values.
import NodeSettings.Proofs.WrittenLines

namespace NodeSettings.Toml

variable {α β : Type} {rest : List Char}

/-! ## Where a value ends -/

/-- The characters that may stand right behind a value. No value goes on with one of them. -/
def valueEnds : List Char := [' ', '\t', '\n', '\r', ',', '\x7d', '#']

theorem isDigit_valueEnds : ∀ c ∈ valueEnds, c.isDigit = false := by
  simp [valueEnds]

/-- A text that begins with no part of a value. -/
def Stops (rest : List Char) : Prop := ∀ c ∈ rest.head?, c ∈ valueEnds

theorem Stops.head {c : Char} {cs : List Char} (h : Stops (c :: cs)) : c ∈ valueEnds := h c rfl

theorem stops_cons {c : Char} (h : c ∈ valueEnds) (cs : List Char) : Stops (c :: cs) := by
  intro d hd
  cases hd
  exact h

/-- What a reader found, with more text behind it. -/
def withRest (rest : List Char) (found : α × List Char) : α × List Char :=
  (found.1, found.2 ++ rest)

/-- The reader finds the same in every text that goes on with `rest`. -/
def Ignores (read : Reader α) (rest : List Char) : Prop :=
  ∀ cs, read (cs ++ rest) = (read cs).map (withRest rest)

theorem bind_withRest {f : α × List Char → Option (β × List Char)} (x : Option (α × List Char))
    (hf : ∀ a cs, f (a, cs ++ rest) = (f (a, cs)).map (withRest rest)) :
    (x.map (withRest rest)).bind f = (x.bind f).map (withRest rest) := by
  cases x with
  | none => rfl
  | some found => exact hf found.1 found.2

/-! ## Digits and signs -/

section

variable {isDigit : Char → Bool}

theorem moreDigits_cons {c : Char} (h : c ≠ '_') (cs : List Char) :
    moreDigits isDigit (c :: cs) =
      if isDigit c then (c :: (moreDigits isDigit cs).1, (moreDigits isDigit cs).2)
      else ([], c :: cs) := by
  rw [moreDigits.eq_def]
  split
  · rename_i heq
    exact absurd (List.cons.inj heq).1 h
  · rename_i heq
    obtain ⟨rfl, rfl⟩ := List.cons.inj heq
    rfl
  · rename_i heq
    cases heq

theorem moreDigits_stops (h : Stops rest) (he : ∀ c ∈ valueEnds, isDigit c = false) :
    moreDigits isDigit rest = ([], rest) := by
  cases rest with
  | nil => rfl
  | cons c cs =>
    have hc : c ≠ '_' := by
      rintro rfl
      exact absurd h.head (by decide)
    rw [moreDigits_cons hc, he c h.head]
    rfl

theorem moreDigits_withRest (h : Stops rest) (hu : isDigit '_' = false)
    (he : ∀ c ∈ valueEnds, isDigit c = false) (cs : List Char) :
    moreDigits isDigit (cs ++ rest) = withRest rest (moreDigits isDigit cs) := by
  fun_induction moreDigits isDigit cs with
  | case1 c cs hc more left hmore ih => simp [moreDigits, hc, ih, hmore, withRest]
  | case2 c cs hc => simp [moreDigits, hc, withRest]
  | case3 c cs hno hc more left hmore ih =>
    have hne : c ≠ '_' := by
      rintro rfl
      rw [hu] at hc
      cases hc
    rw [List.cons_append, moreDigits_cons hne, if_pos hc, ih, hmore]
    rfl
  | case4 c cs hno hc =>
    by_cases hne : c = '_'
    · -- A lone underscore: there is no digit behind it in `rest` either.
      subst hne
      have hcs : cs = [] := by
        cases cs with
        | nil => rfl
        | cons d ds => exact (hno d ds rfl rfl).elim
      subst hcs
      cases rest with
      | nil => simp [moreDigits, hu, withRest]
      | cons d ds => simp [moreDigits, he d h.head, withRest]
    · rw [List.cons_append, moreDigits_cons hne, if_neg hc]
      rfl
  | case5 => exact moreDigits_stops h he

theorem ignores_digits (h : Stops rest) (hu : isDigit '_' = false)
    (he : ∀ c ∈ valueEnds, isDigit c = false) : Ignores (digits? isDigit) rest := by
  intro cs
  cases cs with
  | nil =>
    cases rest with
    | nil => rfl
    | cons c cs => simp [digits?, he c h.head]
  | cons c cs =>
    rw [List.cons_append, digits?, digits?, moreDigits_withRest h hu he]
    split <;> rfl

end

theorem ignores_decimals (h : Stops rest) : Ignores (digits? Char.isDigit) rest :=
  ignores_digits h (by decide) isDigit_valueEnds

theorem ignores_whole (h : Stops rest) : Ignores whole? rest := by
  have hdigits := ignores_decimals h
  intro cs
  rw [whole?.eq_def cs]
  split
  · rfl
  · rename_i hno
    rw [← hdigits cs, whole?.eq_def]
    split
    · rename_i left heq
      cases cs with
      | nil =>
        rw [List.nil_append] at heq
        subst heq
        exact absurd h.head (by decide)
      | cons c cs =>
        obtain ⟨rfl, rfl⟩ := List.cons.inj heq
        exact (hno cs rfl).elim
    · rfl

theorem readSign_of_ne {c : Char} (hminus : c ≠ '-') (hplus : c ≠ '+') (cs : List Char) :
    readSign (c :: cs) = (false, c :: cs) := by
  rw [readSign.eq_def]
  split
  · rename_i heq
    exact absurd (List.cons.inj heq).1 hminus
  · rename_i heq
    exact absurd (List.cons.inj heq).1 hplus
  · rfl

/-- A sign is no part of what may come behind a value. -/
theorem readSign_withRest (h : Stops rest) (cs : List Char) :
    readSign (cs ++ rest) = withRest rest (readSign cs) := by
  cases cs with
  | nil =>
    cases rest with
    | nil => rfl
    | cons c cs =>
      rw [List.nil_append, readSign_of_ne (ne_of_mem_of_not_mem h.head (by decide))
        (ne_of_mem_of_not_mem h.head (by decide))]
      rfl
  | cons c cs =>
    by_cases hminus : c = '-'
    · subst hminus
      rfl
    by_cases hplus : c = '+'
    · subst hplus
      rfl
    rw [List.cons_append, readSign_of_ne hminus hplus, readSign_of_ne hminus hplus]
    rfl

/-! ## Numbers -/

/-- Two readers, the second of which is asked where the first finds nothing. -/
theorem Ignores.or {first second : Reader α} (h : Ignores first rest) (h' : Ignores second rest) :
    Ignores (fun cs => (first cs).or (second cs)) rest := by
  intro cs
  dsimp only
  rw [h cs, h' cs]
  cases first cs <;> rfl

theorem ignores_based {base : Nat} {isDigit : Char → Bool} (h : Stops rest)
    (hu : isDigit '_' = false) (he : ∀ c ∈ valueEnds, isDigit c = false) :
    Ignores (readBased base isDigit) rest := by
  intro cs
  unfold readBased
  rw [ignores_digits h hu he]
  refine bind_withRest _ ?_
  intro digits left
  cases hrange : inRange (natOfDigits base digits) <;> simp [hrange, withRest]

theorem ignores_exponent (h : Stops rest) : Ignores exponent? rest := by
  have hdigits := ignores_decimals h
  intro cs
  cases cs with
  | nil =>
    cases rest with
    | nil => rfl
    | cons c cs =>
      have he : c ≠ 'e' := ne_of_mem_of_not_mem h.head (by decide)
      have hE : c ≠ 'E' := ne_of_mem_of_not_mem h.head (by decide)
      simp [exponent?, he, hE]
  | cons c cs =>
    rw [List.cons_append, exponent?, exponent?, readSign_withRest h]
    split
    · dsimp only [withRest]
      rw [hdigits]
      exact bind_withRest _ fun digits left => rfl
    · rfl

theorem tail?_of_ne {cs : List Char} (h : cs.head? ≠ some '.') :
    tail? cs = (exponent? cs).map fun (e, left) => (([], e), left) := by
  rw [tail?.eq_def]
  split
  · exact absurd rfl h
  · rfl

theorem Stops.head_ne {c : Char} (h : Stops rest) (hc : c ∉ valueEnds) : rest.head? ≠ some c :=
  fun hhead => hc (h c hhead)

theorem ignores_tail (h : Stops rest) : Ignores tail? rest := by
  have hdigits := ignores_decimals h
  intro cs
  by_cases hdot : cs.head? = some '.'
  · obtain ⟨cs, rfl⟩ : ∃ ds, cs = '.' :: ds := by
      cases cs with
      | nil => cases hdot
      | cons c ds => exact ⟨ds, by simpa using hdot⟩
    rw [List.cons_append, tail?, tail?, hdigits]
    refine bind_withRest _ ?_
    intro fraction left
    dsimp only
    rw [ignores_exponent h]
    cases exponent? left <;> rfl
  · have hdot' : (cs ++ rest).head? ≠ some '.' := by
      cases cs with
      | nil => exact h.head_ne (by decide)
      | cons c ds => exact hdot
    rw [tail?_of_ne hdot, tail?_of_ne hdot', ignores_exponent h]
    cases exponent? cs <;> rfl

theorem ignores_decimal (h : Stops rest) : Ignores decimal? rest := by
  intro cs
  unfold decimal?
  rw [readSign_withRest h]
  dsimp only [withRest]
  rw [ignores_whole h]
  refine bind_withRest _ ?_
  intro whole left
  dsimp only
  rw [ignores_tail h]
  refine bind_withRest _ ?_
  intro found left
  dsimp only
  split <;> rfl

theorem ignores_special (h : Stops rest) : Ignores special? rest := by
  intro cs
  unfold special?
  rw [readSign_withRest h]
  dsimp only [withRest]
  obtain ⟨negative, cs⟩ := readSign cs
  dsimp only
  -- A word that breaks off is not completed by `rest`.
  have hi := h.head_ne (c := 'i') (by decide)
  have hn := h.head_ne (c := 'n') (by decide)
  have hf := h.head_ne (c := 'f') (by decide)
  have ha := h.head_ne (c := 'a') (by decide)
  rcases cs with _ | ⟨a, _ | ⟨b, _ | ⟨c, cs⟩⟩⟩ <;> grind [withRest]

/-- The letters that say which digits an integer has. -/
def baseMarks : List Char := ['x', 'o', 'b']

theorem not_mem_valueEnds_of_mark : ∀ mark ∈ baseMarks, mark ∉ valueEnds := by
  simp [baseMarks, valueEnds]

/-- An integer in decimal digits. -/
def readPlainInteger : Reader Scalar := fun cs => do
  let (negative, cs) := readSign cs
  let (digits, rest) ← whole? cs
  return (.integer (← inRange (signed negative (natOfDigits 10 digits))), rest)

theorem readInteger_plain {cs : List Char}
    (h : ∀ mark ∈ baseMarks, ∀ left, cs ≠ '0' :: mark :: left) :
    readInteger cs = readPlainInteger cs := by
  rw [readInteger.eq_def]
  split
  · exact (h 'x' (by decide) _ rfl).elim
  · exact (h 'o' (by decide) _ rfl).elim
  · exact (h 'b' (by decide) _ rfl).elim
  · rfl

theorem ignores_plainInteger (h : Stops rest) : Ignores readPlainInteger rest := by
  intro cs
  unfold readPlainInteger
  rw [readSign_withRest h]
  dsimp only [withRest]
  rw [ignores_whole h]
  refine bind_withRest _ ?_
  intro digits left
  dsimp only
  cases inRange (signed (readSign cs).1 (natOfDigits 10 digits)) <;> rfl

theorem ignores_integer (h : Stops rest) : Ignores readInteger rest := by
  intro cs
  by_cases hmark : ∃ mark ∈ baseMarks, ∃ left, cs = '0' :: mark :: left
  · obtain ⟨mark, hmem, left, rfl⟩ := hmark
    simp only [baseMarks, List.mem_cons, List.not_mem_nil, or_false] at hmem
    rcases hmem with rfl | rfl | rfl
    · exact ignores_based h (by decide) (by simp [valueEnds, isHex, hexDigit?]) left
    · exact ignores_based h (by decide) (by simp [valueEnds, isOctal]) left
    · exact ignores_based h (by decide) (by simp [valueEnds, isBinary]) left
  · push Not at hmark
    have hmark' : ∀ mark ∈ baseMarks, ∀ left, cs ++ rest ≠ '0' :: mark :: left := by
      intro mark hmem left heq
      rcases cs with _ | ⟨a, _ | ⟨b, cs⟩⟩
      · rw [List.nil_append] at heq
        subst heq
        exact absurd h.head (by decide)
      · rw [List.singleton_append] at heq
        obtain ⟨-, rfl⟩ := List.cons.inj heq
        exact not_mem_valueEnds_of_mark mark hmem h.head
      · rw [List.cons_append, List.cons_append] at heq
        obtain ⟨rfl, hleft⟩ := List.cons.inj heq
        obtain ⟨rfl, -⟩ := List.cons.inj hleft
        exact hmark b hmem cs rfl
    rw [readInteger_plain hmark, readInteger_plain hmark', ignores_plainInteger h]

/-! ## Numbers are no dates -/

/-- A number of any form. -/
def readNumber : Reader Scalar := fun cs => (decimal? cs).or ((special? cs).or (readInteger cs))

theorem ignores_number (h : Stops rest) : Ignores readNumber rest :=
  (ignores_decimal h).or ((ignores_special h).or (ignores_integer h))

theorem whole?_digitsThen {c : Char} {cs : List Char} (h : DigitsThen c cs)
    (hc : c.isDigit = false) (hu : c ≠ '_') : ∃ digits ds left,
      (∀ d ∈ ds, d.isDigit = true) ∧ whole? cs = some (digits, ds ++ c :: left) := by
  obtain ⟨ds, left, hne, hds, rfl⟩ := h
  obtain ⟨d, ds, rfl⟩ := List.exists_cons_of_ne_nil hne
  by_cases hzero : d = '0'
  · subst hzero
    exact ⟨['0'], ds, left, fun d hd => hds d (List.mem_cons_of_mem _ hd), rfl⟩
  · refine ⟨d :: ds, [], left, by simp, ?_⟩
    rw [whole?.eq_def]
    split
    · rename_i heq
      exact absurd (List.cons.inj heq).1 hzero
    · exact digits?_append hne hds left hc hu

/-- The two characters of which one stands behind the first digits of a date or a time. -/
def momentMarks : List Char := ['-', ':']

/-- What is no digit and no such mark does not stand right behind a digit there. -/
theorem ne_of_digitsThen {c e : Char} {ds left cs : List Char}
    (hds : ∀ d ∈ ds, d.isDigit = true) (he : e.isDigit = false) (hne : e ≠ c) :
    ds ++ c :: left ≠ e :: cs := by
  intro heq
  cases ds with
  | nil => exact hne (List.cons.inj heq).1.symm
  | cons d ds =>
    obtain ⟨rfl, -⟩ := List.cons.inj heq
    rw [hds d List.mem_cons_self] at he
    cases he

theorem tail?_digitsThen {c : Char} {ds : List Char} (hds : ∀ d ∈ ds, d.isDigit = true)
    (hc : c ∈ momentMarks) (left : List Char) : tail? (ds ++ c :: left) = none := by
  have hne : ∀ e, e.isDigit = false → e ∉ momentMarks → ∀ cs, ds ++ c :: left ≠ e :: cs :=
    fun e he hmark cs => ne_of_digitsThen hds he fun h => hmark (h ▸ hc)
  obtain ⟨e, cs, heq⟩ := List.exists_cons_of_ne_nil (l := ds ++ c :: left) (by simp)
  have hdot : e ≠ '.' := by
    rintro rfl
    exact hne '.' (by decide) (by decide) cs heq
  have hlower : e ≠ 'e' := by
    rintro rfl
    exact hne 'e' (by decide) (by decide) cs heq
  have hupper : e ≠ 'E' := by
    rintro rfl
    exact hne 'E' (by decide) (by decide) cs heq
  rw [heq, tail?_of_ne (by simpa using hdot)]
  simp [exponent?, hlower, hupper]

theorem readPlainInteger_rest {cs digits left left' : List Char} {s : Scalar}
    (hwhole : whole? (readSign cs).2 = some (digits, left))
    (h : readPlainInteger cs = some (s, left')) : left' = left := by
  obtain ⟨⟨digits', left₁⟩, hw, hread⟩ := Option.bind_eq_some_iff.1 h
  obtain ⟨n, -, hn⟩ := Option.bind_eq_some_iff.1 hread
  cases hwhole.symm.trans hw
  exact (congrArg Prod.snd (Option.some.inj hn)).symm

/-- No number is read past such a mark. -/
theorem readNumber_digitsThen {c : Char} {cs : List Char} (hc : c ∈ momentMarks)
    (h : DigitsThen c cs) (s : Scalar) : readNumber cs ≠ some (s, []) := by
  have hdigit : c.isDigit = false := by
    simp only [momentMarks, List.mem_cons, List.not_mem_nil, or_false] at hc
    rcases hc with rfl | rfl <;> decide
  obtain ⟨digits, ds, left, hds, hwhole⟩ :=
    whole?_digitsThen h hdigit (ne_of_mem_of_not_mem hc (by decide))
  obtain ⟨ds', left', hne, hds', hcs⟩ := h
  obtain ⟨d, ds', rfl⟩ := List.exists_cons_of_ne_nil hne
  have hd : d.isDigit = true := hds' d List.mem_cons_self
  have hother : ∀ e, e.isDigit = false → d ≠ e := by
    rintro e he rfl
    rw [hd] at he
    cases he
  have hsign : readSign cs = (false, cs) := by
    rw [hcs]
    exact readSign_of_ne (hother '-' (by decide)) (hother '+' (by decide)) _
  have hdecimal : decimal? cs = none := by
    simp only [decimal?, hsign, hwhole, Option.bind_eq_bind, Option.bind_some,
      tail?_digitsThen hds hc left, Option.bind_none]
  have hspecial : special? cs = none := by
    unfold special?
    rw [hsign, hcs]
    dsimp only
    split
    · rename_i heq
      exact absurd (List.cons.inj heq).1 (hother 'i' (by decide))
    · rename_i heq
      exact absurd (List.cons.inj heq).1 (hother 'n' (by decide))
    · rfl
  have hplain : readInteger cs = readPlainInteger cs := by
    apply readInteger_plain
    intro mark hmark more heq
    rw [hcs] at heq
    simp only [baseMarks, List.mem_cons, List.not_mem_nil, or_false] at hmark
    refine ne_of_digitsThen (fun d hd => hds' d (List.mem_cons_of_mem _ hd)) ?_ ?_
      (List.cons.inj heq).2
    · rcases hmark with rfl | rfl | rfl <;> decide
    · rintro rfl
      rcases hmark with rfl | rfl | rfl <;> exact absurd hc (by decide)
  intro hs
  unfold readNumber at hs
  rw [hdecimal, hspecial, Option.none_or, Option.none_or, hplain] at hs
  have hwhole' : whole? (readSign cs).2 = some (digits, ds ++ c :: left) := by
    rw [hsign]
    exact hwhole
  have hrest := readPlainInteger_rest hwhole' hs
  simp at hrest

theorem digitsThen_of_append {c : Char} {cs : List Char} (h : Stops rest) (hc : c ∉ valueEnds)
    (hd : DigitsThen c (cs ++ rest)) : DigitsThen c cs := by
  obtain ⟨ds, left, hne, hds, heq⟩ := hd
  rcases List.append_eq_append_iff.1 heq with ⟨more, rfl, hmore⟩ | ⟨more, rfl, hmore⟩
  · cases more with
    | nil =>
      rw [List.nil_append] at hmore
      subst hmore
      exact absurd h.head hc
    | cons d more =>
      rw [List.cons_append] at hmore
      subst hmore
      have hdigit := hds d (by simp)
      rw [isDigit_valueEnds d h.head] at hdigit
      cases hdigit
  · cases more with
    | nil =>
      rw [List.nil_append] at hmore
      subst hmore
      exact absurd h.head hc
    | cons d more =>
      obtain ⟨rfl, -⟩ := List.cons.inj hmore
      exact ⟨ds, more, hne, hds, rfl⟩

/-- A number that is read whole on its own is read as the same in front of what cannot go on with
it. -/
theorem readNumeral_whole {cs : List Char} {s : Scalar} (h : Stops rest)
    (hs : readNumeral cs = some (s, [])) (hm : ∀ m, s ≠ .moment m) :
    readNumeral (cs ++ rest) = some (s, rest) := by
  have hnumber : readNumber cs = some (s, []) := by
    unfold readNumeral at hs
    split at hs
    · cases hs
      exact absurd rfl (hm _)
    · exact hs
  have hmoment : Moment.read (cs ++ rest) = none := by
    apply Moment.read_eq_none
    · intro hd
      exact readNumber_digitsThen (by decide) (digitsThen_of_append h (by decide) hd) s hnumber
    · intro hd
      exact readNumber_digitsThen (by decide) (digitsThen_of_append h (by decide) hd) s hnumber
  unfold readNumeral
  rw [hmoment]
  refine (ignores_number h cs).trans ?_
  rw [hnumber]
  rfl

/-- What begins like no number is none. -/
theorem readNumeral_of_ne {c : Char} (hdigit : c.isDigit = false)
    (h : c ∉ ['-', '+', 'i', 'n']) (cs : List Char) : readNumeral (c :: cs) = none := by
  simp only [List.mem_cons, List.not_mem_nil, or_false, not_or] at h
  obtain ⟨hminus, hplus, hi, hn⟩ := h
  have hzero : c ≠ '0' := by
    rintro rfl
    cases hdigit
  have hsign := readSign_of_ne hminus hplus cs
  have hwhole : whole? (c :: cs) = none := by
    rw [whole?, digits?, hdigit]
    · rfl
    · intro more heq
      exact hzero (List.cons.inj heq).1
  have hmoment : Moment.read (c :: cs) = none :=
    Moment.read_eq_none (not_digitsThen_of_head hdigit) (not_digitsThen_of_head hdigit)
  have hdecimal : decimal? (c :: cs) = none := by
    simp only [decimal?, hsign, hwhole, Option.bind_eq_bind, Option.bind_none]
  have hspecial : special? (c :: cs) = none := by
    unfold special?
    rw [hsign]
    dsimp only
    split
    · rename_i heq
      exact absurd (List.cons.inj heq).1 hi
    · rename_i heq
      exact absurd (List.cons.inj heq).1 hn
    · rfl
  have hinteger : readInteger (c :: cs) = none := by
    rw [readInteger_plain fun mark _ left heq => hzero (List.cons.inj heq).1]
    simp only [readPlainInteger, hsign, hwhole, Option.bind_eq_bind, Option.bind_none]
  unfold readNumeral
  rw [hmoment, hdecimal, hspecial, hinteger]
  rfl

end NodeSettings.Toml
