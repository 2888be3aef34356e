-- Names and values as they stand in a document. Each is read as the same
-- wherever it ends, if it is read whole on its own: a quoted text says itself
-- where it ends, and the others stop in front of what may come behind them.
import NodeSettings.Proofs.Stopping

namespace NodeSettings.Toml

variable {rest : List Char}

/-! ## Quoted texts -/

/-- An escape says itself where it ends. -/
theorem escape?_withRest {c : Char} {cs left : List Char} (h : escape? cs = some (c, left))
    (rest : List Char) : escape? (cs ++ rest) = some (c, left ++ rest) := by
  unfold escape? at h
  split at h
  case h_8 | h_9 =>
    obtain ⟨d, hd, h⟩ := Option.map_eq_some_iff.1 h
    cases h
    simp [escape?, hd]
  case h_10 => cases h
  all_goals
    cases h
    rfl

theorem prepend_eq_some {front cs left : List Char} {found : Option (List Char × List Char)}
    (h : prepend front found = some (cs, left)) :
    ∃ ds, found = some (ds, left) ∧ cs = front ++ ds := by
  obtain ⟨⟨ds, left'⟩, hfound, h⟩ := Option.map_eq_some_iff.1 h
  cases h
  exact ⟨ds, hfound, rfl⟩

theorem readQuoted_of_escape {c : Char} {cs more : List Char} (h : escape? cs = some (c, more)) :
    readQuoted ('\\' :: cs) = prepend [c] (readQuoted more) := by
  rw [readQuoted]
  split
  · rename_i heq
    rw [h] at heq
    cases heq
    rfl
  · rename_i heq
    rw [h] at heq
    cases heq

/-- So does a quoted text on one line. -/
theorem readQuoted_withRest {cs text left : List Char} (h : readQuoted cs = some (text, left))
    (rest : List Char) : readQuoted (cs ++ rest) = some (text, left ++ rest) := by
  induction cs using readQuoted.induct generalizing text with
  | case1 => simp [readQuoted] at h
  | case2 cs =>
    rw [readQuoted] at h
    cases h
    rw [List.cons_append, readQuoted]
  | case3 cs c more hescape ih =>
    rw [readQuoted_of_escape hescape] at h
    obtain ⟨text, hmore, rfl⟩ := prepend_eq_some h
    rw [List.cons_append, readQuoted_of_escape (escape?_withRest hescape rest), ih hmore]
    rfl
  | case4 cs hescape =>
    rw [readQuoted] at h
    split at h
    · rename_i heq
      rw [hescape] at heq
      cases heq
    · cases h
  | case5 c cs hq hb hplain ih =>
    rw [readQuoted_plain hplain hq hb] at h
    obtain ⟨text, hmore, rfl⟩ := prepend_eq_some h
    rw [List.cons_append, readQuoted_plain hplain hq hb, ih hmore]
    rfl
  | case6 c cs hq hb hplain =>
    rw [readQuoted, if_neg hplain] at h
    · cases h
    · exact hq
    · exact hb

theorem readLiteral_withRest {cs text left : List Char} (h : readLiteral cs = some (text, left))
    (rest : List Char) : readLiteral (cs ++ rest) = some (text, left ++ rest) := by
  fun_induction readLiteral cs generalizing text with
  | case1 => cases h
  | case2 cs =>
    cases h
    rfl
  | case3 c cs hq hplain ih =>
    obtain ⟨text, hmore, rfl⟩ := prepend_eq_some h
    rw [List.cons_append, readLiteral, if_pos hplain, ih hmore]
    · rfl
    · exact hq
  | case4 => cases h

theorem readLine?_withRest {cs left : List Char} {s : String} (h : readLine? cs = some (s, left))
    (rest : List Char) : readLine? (cs ++ rest) = some (s, left ++ rest) := by
  unfold readLine? at h
  split at h
  · obtain ⟨⟨text, more⟩, hread, h⟩ := Option.map_eq_some_iff.1 h
    cases h
    rw [List.cons_append, readLine?, readQuoted_withRest hread rest]
    rfl
  · obtain ⟨⟨text, more⟩, hread, h⟩ := Option.map_eq_some_iff.1 h
    cases h
    rw [List.cons_append, readLine?, readLiteral_withRest hread rest]
    rfl
  · cases h

/-! ## Quoted texts over several lines -/

theorem closing_whole {quote : Char} {cs text : List Char} (h : closing quote cs = (text, []))
    (hrest : rest.head? ≠ some quote) : closing quote (cs ++ rest) = (text, rest) := by
  unfold closing at h
  split at h
  · rename_i c d cs
    split at h
    · rename_i hc
      obtain rfl := eq_of_beq hc
      split at h
      · rename_i hd
        obtain rfl := eq_of_beq hd
        cases h
        exact closing_two _ rest
      · cases h
    · cases h
  · split at h
    · rename_i hc
      obtain rfl := eq_of_beq hc
      cases h
      exact closing_one _ hrest
    · cases h
  · cases h
    exact closing_eq _ hrest

theorem not_twoQuotes_append {quote : Char} {cs : List Char} (h : ¬ TwoQuotes quote cs)
    (hrest : rest.head? ≠ some quote) : ¬ TwoQuotes quote (cs ++ rest) := by
  rintro ⟨more, heq⟩
  rcases cs with _ | ⟨c, _ | ⟨d, cs⟩⟩
  · rw [List.nil_append] at heq
    exact hrest (by rw [heq]; rfl)
  · rw [List.singleton_append] at heq
    obtain ⟨-, hmore⟩ := List.cons.inj heq
    exact hrest (by rw [hmore]; rfl)
  · obtain ⟨rfl, hmore⟩ := List.cons.inj heq
    obtain ⟨rfl, -⟩ := List.cons.inj hmore
    exact h ⟨cs, rfl⟩

theorem dropBlankLines_withRest {cs : List Char} (hnil : dropBlankLines cs ≠ [])
    (hreturn : dropBlankLines cs ≠ ['\r']) (rest : List Char) :
    dropBlankLines (cs ++ rest) = dropBlankLines cs ++ rest := by
  fun_induction dropBlankLines cs with
  | case1 cs ih => exact ih hnil hreturn
  | case2 c cs hno hblank ih =>
    rw [List.cons_append, dropBlankLines, if_pos hblank]
    · exact ih hnil hreturn
    · rintro more rfl -
      exact absurd hblank (by decide)
  | case3 c cs hno hblank =>
    rw [List.cons_append, dropBlankLines, if_neg hblank]
    rintro more rfl heq
    cases cs with
    | nil => exact hreturn rfl
    | cons d ds =>
      obtain ⟨rfl, -⟩ := List.cons.inj heq
      exact hno ds rfl rfl
  | case4 => exact absurd rfl hnil

theorem lineBreak?_withRest {cs more : List Char} (h : lineBreak? cs = some more)
    (rest : List Char) : lineBreak? (cs ++ rest) = some (more ++ rest) := by
  unfold lineBreak? at h
  split at h
  · cases h
    rfl
  · cases h
    rfl
  · cases h

theorem joinLines?_withRest {cs more : List Char} (h : joinLines? cs = some more) (hnil : more ≠ [])
    (hreturn : more ≠ ['\r']) (rest : List Char) :
    joinLines? (cs ++ rest) = some (more ++ rest) := by
  obtain ⟨line, hline, rfl⟩ := Option.map_eq_some_iff.1 h
  have hskip : skipSpace (cs ++ rest) = skipSpace cs ++ rest := by
    have hline' : skipSpace cs ≠ [] := by
      intro heq
      rw [heq] at hline
      cases hline
    unfold skipSpace at hline' ⊢
    rw [List.dropWhile_append, if_neg (by simpa using hline')]
  unfold joinLines?
  rw [hskip, lineBreak?_withRest hline rest, Option.map_some, dropBlankLines_withRest hnil hreturn]

/-- A backslash in front of an escape joins no lines. -/
theorem joinLines?_of_escape {c : Char} {cs more : List Char} (h : escape? cs = some (c, more)) :
    joinLines? cs = none := by
  unfold escape? at h
  split at h
  case h_10 => cases h
  all_goals rfl

theorem readQuotedLines_join {cs more : List Char} (h : joinLines? cs = some more) :
    readQuotedLines ('\\' :: cs) = readQuotedLines more := by
  rw [readQuotedLines]
  split
  · rename_i heq
    rw [h] at heq
    cases heq
    rfl
  · rename_i heq
    rw [h] at heq
    cases heq

theorem readQuotedLines_of_escape {c : Char} {cs more : List Char}
    (h : escape? cs = some (c, more)) :
    readQuotedLines ('\\' :: cs) = prepend [c] (readQuotedLines more) := by
  rw [readQuotedLines]
  split
  · rename_i heq
    rw [joinLines?_of_escape h] at heq
    cases heq
  split
  · rename_i heq
    rw [h] at heq
    cases heq
    rfl
  · rename_i heq
    rw [h] at heq
    cases heq

/-- A text over several lines that is read whole ends at its closing quotes, if no quote comes
behind them. -/
theorem readQuotedLines_whole {cs text : List Char} (h : readQuotedLines cs = some (text, []))
    (hrest : rest.head? ≠ some '"') : readQuotedLines (cs ++ rest) = some (text, rest) := by
  induction cs using readQuotedLines.induct generalizing text with
  | case1 => simp [readQuotedLines] at h
  | case2 cs =>
    rw [readQuotedLines, Option.some.injEq] at h
    rw [List.cons_append, List.cons_append, List.cons_append, readQuotedLines,
      closing_whole h hrest]
  | case3 cs hno ih =>
    have htwo : ¬ TwoQuotes '"' cs := by
      rintro ⟨more, heq⟩
      exact hno more heq
    rw [readQuotedLines_quote htwo] at h
    obtain ⟨text, hmore, rfl⟩ := prepend_eq_some h
    rw [List.cons_append, readQuotedLines_quote (not_twoQuotes_append htwo hrest), ih hmore]
    rfl
  | case4 cs more hjoin ih =>
    rw [readQuotedLines_join hjoin] at h
    have hnil : more ≠ [] := by
      rintro rfl
      simp [readQuotedLines] at h
    have hreturn : more ≠ ['\r'] := by
      rintro rfl
      simp [readQuotedLines, isPlain] at h
    rw [List.cons_append, readQuotedLines_join (joinLines?_withRest hjoin hnil hreturn rest), ih h]
  | case5 cs hjoin c more hescape ih =>
    rw [readQuotedLines_of_escape hescape] at h
    obtain ⟨text, hmore, rfl⟩ := prepend_eq_some h
    rw [List.cons_append, readQuotedLines_of_escape (escape?_withRest hescape rest), ih hmore]
    rfl
  | case6 cs hjoin hescape =>
    rw [readQuotedLines] at h
    split at h
    · rename_i heq
      rw [hjoin] at heq
      cases heq
    split at h
    · rename_i heq
      rw [hescape] at heq
      cases heq
    · cases h
  | case7 cs ih =>
    rw [readQuotedLines] at h
    obtain ⟨text, hmore, rfl⟩ := prepend_eq_some h
    rw [List.cons_append, readQuotedLines, ih hmore]
    rfl
  | case8 cs ih =>
    rw [readQuotedLines] at h
    obtain ⟨text, hmore, rfl⟩ := prepend_eq_some h
    rw [List.cons_append, List.cons_append, readQuotedLines, ih hmore]
    rfl
  | case9 c cs hq hq' hb hn hr hplain ih =>
    rw [readQuotedLines_char (.inl hplain) hq' hb] at h
    obtain ⟨text, hmore, rfl⟩ := prepend_eq_some h
    rw [List.cons_append, readQuotedLines_char (.inl hplain) hq' hb, ih hmore]
    rfl
  | case10 c cs hq hq' hb hn hr hplain =>
    rw [readQuotedLines, if_neg hplain] at h
    · cases h
    all_goals assumption

theorem readLiteralLines_whole {cs text : List Char} (h : readLiteralLines cs = some (text, []))
    (hrest : rest.head? ≠ some '\'') : readLiteralLines (cs ++ rest) = some (text, rest) := by
  fun_induction readLiteralLines cs generalizing text with
  | case1 => cases h
  | case2 cs =>
    rw [Option.some.injEq] at h
    rw [List.cons_append, List.cons_append, List.cons_append, readLiteralLines,
      closing_whole h hrest]
  | case3 cs ih =>
    obtain ⟨text, hmore, rfl⟩ := prepend_eq_some h
    rw [List.cons_append, readLiteralLines, ih hmore]
    rfl
  | case4 cs ih =>
    obtain ⟨text, hmore, rfl⟩ := prepend_eq_some h
    rw [List.cons_append, List.cons_append, readLiteralLines, ih hmore]
    rfl
  | case5 c cs hq hn hr hplain ih =>
    obtain ⟨text, hmore, rfl⟩ := prepend_eq_some h
    by_cases hquote : c = '\''
    · subst hquote
      have htwo : ¬ TwoQuotes '\'' cs := by
        rintro ⟨more, heq⟩
        exact hq more rfl heq
      rw [List.cons_append, readLiteralLines_quote (not_twoQuotes_append htwo hrest), ih hmore]
      rfl
    · rw [List.cons_append, readLiteralLines_char (.inl hplain) hquote, ih hmore]
      rfl
  | case6 => cases h

theorem lineBreak?_withRest_eq_none {cs : List Char} (h : lineBreak? cs = none) (hnil : cs ≠ [])
    (hreturn : cs ≠ ['\r']) (rest : List Char) : lineBreak? (cs ++ rest) = none := by
  obtain ⟨c, cs, rfl⟩ := List.exists_cons_of_ne_nil hnil
  by_cases hn : c = '\n'
  · subst hn
    cases h
  by_cases hr : c = '\r'
  · subst hr
    obtain ⟨d, cs, rfl⟩ := List.exists_cons_of_ne_nil fun heq => hreturn (congrArg _ heq)
    have hd : d ≠ '\n' := by
      rintro rfl
      cases h
    unfold lineBreak?
    split
    · rename_i heq
      cases heq
    · rename_i heq
      exact absurd (List.cons.inj (List.cons.inj heq).2).1 hd
    · rfl
  · rw [List.cons_append]
    exact lineBreak?_eq_none hn hr

/-- The line end that is dropped behind opening quotes is the same one. -/
theorem dropLineBreak_withRest {cs : List Char} (hnil : cs ≠ []) (hreturn : cs ≠ ['\r'])
    (rest : List Char) : dropLineBreak (cs ++ rest) = dropLineBreak cs ++ rest := by
  unfold dropLineBreak
  cases hline : lineBreak? cs with
  | some more =>
    rw [lineBreak?_withRest hline rest]
    rfl
  | none =>
    rw [lineBreak?_withRest_eq_none hline hnil hreturn]
    rfl

/-- Three quotes in a row do not come about where a text ends. -/
theorem not_threeQuotes_append {quote : Char} {cs : List Char}
    (h : ∀ more, cs ≠ quote :: quote :: quote :: more) (hrest : rest.head? ≠ some quote) :
    ∀ more, cs ++ rest ≠ quote :: quote :: quote :: more := by
  intro more heq
  cases cs with
  | nil =>
    rw [List.nil_append] at heq
    exact hrest (by rw [heq]; rfl)
  | cons c cs =>
    obtain ⟨rfl, hmore⟩ := List.cons.inj heq
    refine not_twoQuotes_append ?_ hrest ⟨more, hmore⟩
    rintro ⟨left, rfl⟩
    exact h left rfl

/-- A text of any kind, read whole. -/
theorem readText?_whole {cs : List Char} {s : String} (h : Stops rest)
    (hs : readText? cs = some (s, [])) : readText? (cs ++ rest) = some (s, rest) := by
  have hdouble := h.head_ne (c := '"') (by decide)
  have hsingle := h.head_ne (c := '\'') (by decide)
  unfold readText? at hs
  split at hs
  · rename_i cs
    obtain ⟨⟨text, left⟩, hread, hs⟩ := Option.map_eq_some_iff.1 hs
    cases hs
    have hnil : cs ≠ [] := by
      rintro rfl
      simp [dropLineBreak, lineBreak?, readQuotedLines] at hread
    have hreturn : cs ≠ ['\r'] := by
      rintro rfl
      simp [dropLineBreak, lineBreak?, readQuotedLines, isPlain] at hread
    rw [List.cons_append, List.cons_append, List.cons_append, readText?,
      dropLineBreak_withRest hnil hreturn, readQuotedLines_whole hread hdouble]
    rfl
  · rename_i cs
    obtain ⟨⟨text, left⟩, hread, hs⟩ := Option.map_eq_some_iff.1 hs
    cases hs
    have hnil : cs ≠ [] := by
      rintro rfl
      simp [dropLineBreak, lineBreak?, readLiteralLines] at hread
    have hreturn : cs ≠ ['\r'] := by
      rintro rfl
      simp [dropLineBreak, lineBreak?, readLiteralLines, isPlain] at hread
    rw [List.cons_append, List.cons_append, List.cons_append, readText?,
      dropLineBreak_withRest hnil hreturn, readLiteralLines_whole hread hsingle]
    rfl
  · rename_i hno hno'
    rw [readText?.eq_def]
    split
    · rename_i heq
      exact absurd heq (not_threeQuotes_append (fun more heq => hno more heq) hdouble _)
    · rename_i heq
      exact absurd heq (not_threeQuotes_append (fun more heq => hno' more heq) hsingle _)
    · exact readLine?_withRest hs rest

/-! ## Values -/

/-- A scalar in one spelling, which is read whole on its own. Dates and times are left out: a date
goes on where a time comes behind it. -/
structure Spelling where
  text : List Char
  scalar : Scalar
  reads : value? 0 text = some (.leaf scalar, [])
  timeless : ∀ m, scalar ≠ .moment m

theorem ne_of_readNumeral {c d : Char} {cs : List Char} {found : Scalar × List Char}
    (h : readNumeral (c :: cs) = some found) (hdigit : d.isDigit = false)
    (hsign : d ∉ ['-', '+', 'i', 'n']) : c ≠ d := by
  rintro rfl
  rw [readNumeral_of_ne hdigit hsign] at h
  cases h

/-- A spelling is read as the same wherever it ends. -/
theorem Spelling.reads_before (v : Spelling) (room : Nat) (h : Stops rest) :
    value? room (v.text ++ rest) = some (.leaf v.scalar, rest) := by
  obtain ⟨text, s, hreads, htimeless⟩ := v
  dsimp only
  rw [value?.eq_def] at hreads
  split at hreads
  · cases hreads
  · cases hreads
  · cases hreads
    rw [value?.eq_def]
    rfl
  · cases hreads
    rw [value?.eq_def]
    rfl
  rename_i hlist htable htrue hfalse
  cases text with
  | nil => cases hreads
  | cons c cs =>
    -- The first character says what is read: a quoted text, or else a number.
    have hfirst : ∀ d, d ≠ '"' → d ≠ '\'' → d.isDigit = false → d ∉ ['-', '+', 'i', 'n'] →
        c ≠ d := by
      rintro d hd hs hdigit hsign rfl
      rw [readText?_of_ne hd hs, readNumeral_of_ne hdigit hsign] at hreads
      cases hreads
    have hother : c ∉ ['[', '\x7b', 't', 'f'] := by
      intro hmem
      simp only [List.mem_cons, List.not_mem_nil, or_false] at hmem
      rcases hmem with rfl | rfl | rfl | rfl
      · exact hlist cs rfl
      · exact htable cs rfl
      · exact hfirst 't' (by decide) (by decide) (by decide) (by decide) rfl
      · exact hfirst 'f' (by decide) (by decide) (by decide) (by decide) rfl
    rw [List.cons_append, value?_scalar hother, ← List.cons_append]
    cases htext : readText? (c :: cs) with
    | some found =>
      obtain ⟨found, left⟩ := found
      rw [htext] at hreads
      cases hreads
      rw [readText?_whole h htext]
    | none =>
      rw [htext] at hreads
      obtain ⟨⟨found, left⟩, hnumeral, hreads⟩ := Option.map_eq_some_iff.1 hreads
      cases hreads
      have hnone : readText? (c :: cs ++ rest) = none :=
        readText?_of_ne (ne_of_readNumeral hnumeral (by decide) (by decide))
          (ne_of_readNumeral hnumeral (by decide) (by decide)) _
      rw [hnone, readNumeral_whole h hnumeral htimeless]
      rfl

/-! ## Names -/

/-- A name in one spelling: bare or quoted, and read whole on its own. -/
structure Name where
  text : List Char
  name : String
  reads : segment? text = some (name, [])

/-- A name is read as the same in front of what no bare name goes on with. -/
theorem Name.reads_before (n : Name) {c : Char} (hc : isBareKeyChar c = false) (rest : List Char) :
    segment? (n.text ++ c :: rest) = some (n.name, c :: rest) := by
  obtain ⟨text, name, hreads⟩ := n
  dsimp only
  unfold segment? at hreads
  cases hline : readLine? text with
  | some found =>
    rw [hline] at hreads
    cases hreads
    unfold segment?
    rw [readLine?_withRest hline]
    rfl
  | none =>
    rw [hline] at hreads
    dsimp only at hreads
    split at hreads
    · cases hreads
    rename_i bare hbare
    rw [Option.some.injEq, Prod.mk.injEq] at hreads
    obtain ⟨rfl, hleft⟩ := hreads
    have hall : text.takeWhile isBareKeyChar = text := by
      have hsplit := List.takeWhile_append_dropWhile (p := isBareKeyChar) (l := text)
      rwa [hleft, List.append_nil] at hsplit
    rw [hall] at hbare ⊢
    have hname : Bare (String.ofList text) := by
      refine ⟨by simpa using hbare, ?_⟩
      intro d hd
      rw [String.toList_ofList, ← hall] at hd
      exact List.mem_takeWhile_imp hd
    have hread := segment?_bare hname hc rest
    rwa [String.toList_ofList] at hread

end NodeSettings.Toml
