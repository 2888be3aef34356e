-- The lines of a written document: headers, and keys with a value of one
-- line end. Each is read as the one statement that it was written for.
import NodeSettings.Proofs.NumberTexts
import NodeSettings.Proofs.QuotedTexts

namespace NodeSettings.Toml

open Decimal (Binary64)

/-! ## Names -/

/-- A name that needs no quotes as a key. -/
structure Bare (name : String) : Prop where
  nonempty : name.toList ≠ []
  chars : ∀ c ∈ name.toList, isBareKeyChar c = true

theorem Bare.exists_cons {name : String} (h : Bare name) :
    ∃ c cs, name.toList = c :: cs ∧ isBareKeyChar c = true := by
  obtain ⟨c, cs, hcs⟩ := List.exists_cons_of_ne_nil h.nonempty
  exact ⟨c, cs, hcs, h.chars c (by simp [hcs])⟩

/-- Whatever is no part of a bare key differs from all that is. -/
theorem ne_of_bare {c d : Char} (h : isBareKeyChar c = true) (hd : isBareKeyChar d = false) :
    c ≠ d := by
  rintro rfl
  rw [h] at hd
  cases hd

theorem skipSpace_cons {c : Char} (h : isSpace c = false) (cs : List Char) :
    skipSpace (c :: cs) = c :: cs := by
  simp [skipSpace, h]

theorem isSpace_of_bare {c : Char} (h : isBareKeyChar c = true) : isSpace c = false := by
  have h₁ : c ≠ ' ' := ne_of_bare h rfl
  have h₂ : c ≠ '\t' := ne_of_bare h rfl
  simp [isSpace, h₁, h₂]

theorem Bare.skipSpace_append {name : String} (h : Bare name) (rest : List Char) :
    skipSpace (name.toList ++ rest) = name.toList ++ rest := by
  obtain ⟨c, cs, hcs, hc⟩ := h.exists_cons
  rw [hcs, List.cons_append, skipSpace_cons (isSpace_of_bare hc)]

theorem readLine?_of_ne {c : Char} (hd : c ≠ '"') (hs : c ≠ '\'') (cs : List Char) :
    readLine? (c :: cs) = none := by
  unfold readLine?
  split
  · rename_i heq
    exact absurd (List.cons.inj heq).1 hd
  · rename_i heq
    exact absurd (List.cons.inj heq).1 hs
  · rfl

theorem readText?_of_ne {c : Char} (hd : c ≠ '"') (hs : c ≠ '\'') (cs : List Char) :
    readText? (c :: cs) = none := by
  unfold readText?
  split
  · rename_i heq
    exact absurd (List.cons.inj heq).1 hd
  · rename_i heq
    exact absurd (List.cons.inj heq).1 hs
  · rw [readLine?_of_ne hd hs]

theorem segment?_bare {name : String} (h : Bare name) {c : Char} (hc : isBareKeyChar c = false)
    (rest : List Char) : segment? (name.toList ++ c :: rest) = some (name, c :: rest) := by
  have hline : readLine? (name.toList ++ c :: rest) = none := by
    obtain ⟨d, cs, hcs, hd⟩ := h.exists_cons
    rw [hcs, List.cons_append]
    exact readLine?_of_ne (ne_of_bare hd rfl) (ne_of_bare hd rfl) _
  have htake : (name.toList ++ c :: rest).takeWhile isBareKeyChar = name.toList := by
    rw [List.takeWhile_append_of_pos h.chars, List.takeWhile_cons_of_neg (by simp [hc]),
      List.append_nil]
  have hdrop : (name.toList ++ c :: rest).dropWhile isBareKeyChar = c :: rest := by
    rw [List.dropWhile_append_of_pos h.chars, List.dropWhile_cons_of_neg (by simp [hc])]
  unfold segment?
  rw [hline, htake, hdrop]
  dsimp only
  split
  · rename_i heq
    exact absurd heq h.nonempty
  · rw [String.ofList_toList]

/-- A bare key with no dot behind it. -/
theorem key?_bare {name : String} (h : Bare name) {c : Char} (hc : isBareKeyChar c = false)
    {cs rest : List Char} (hrest : skipSpace (c :: cs) = rest) (hdot : rest.head? ≠ some '.') :
    key? (name.toList ++ c :: cs) = some (⟨[], name⟩, rest) := by
  have hsegments : segments? maxDepth (name.toList ++ c :: cs) = some ([name], rest) := by
    unfold maxDepth
    rw [segments?, h.skipSpace_append]
    refine Option.bind_eq_some_iff.2 ⟨_, segment?_bare h hc cs, ?_⟩
    dsimp only
    rw [hrest]
    split
    · rename_i heq
      exact absurd rfl hdot
    · rfl
  unfold key?
  rw [hsegments]
  rfl

/-! ## Values -/

/-- A text that is read as a value up to the end of its line. -/
structure Spells (text : List Char) (s : Scalar) : Prop where
  start : ∃ c cs, text = c :: cs ∧ isSpace c = false
  reads : ∀ room rest, value? room (text ++ '\n' :: rest) = some (.leaf s, '\n' :: rest)

theorem value?_scalar {c : Char} (h : c ∉ ['[', '\x7b', 't', 'f']) (room : Nat)
    (cs : List Char) : value? room (c :: cs) =
      match readText? (c :: cs) with
      | some (s, rest) => some (.leaf (.text s), rest)
      | none => (readNumeral (c :: cs)).map fun (s, rest) => (.leaf s, rest) := by
  simp only [List.mem_cons, List.not_mem_nil, or_false, not_or] at h
  obtain ⟨h₁, h₂, h₃, h₄⟩ := h
  rw [value?.eq_def]
  split
  · rename_i heq
    exact absurd (List.cons.inj heq).1 h₁
  · rename_i heq
    exact absurd (List.cons.inj heq).1 h₂
  · rename_i heq
    exact absurd (List.cons.inj heq).1 h₃
  · rename_i heq
    exact absurd (List.cons.inj heq).1 h₄
  · rfl

theorem writeText_start (cs : List Char) :
    ∃ c ds, writeText cs = c :: ds ∧ (c = '"' ∨ c = '\'') := by
  unfold writeText
  split
  · exact ⟨'"', _, rfl, .inl rfl⟩
  · exact ⟨'\'', _, rfl, .inr rfl⟩
  · exact ⟨'"', _, rfl, .inl rfl⟩
  · exact ⟨'\'', _, rfl, .inr rfl⟩

theorem spells_writeText (cs : List Char) : Spells (writeText cs) (.text (String.ofList cs)) := by
  obtain ⟨c, ds, hcs, hc⟩ := writeText_start cs
  refine ⟨⟨c, ds, hcs, ?_⟩, ?_⟩
  · rcases hc with rfl | rfl <;> decide
  · intro room rest
    have hread : readText? (writeText cs ++ '\n' :: rest) = some (String.ofList cs, '\n' :: rest) :=
      readText?_writeText cs (by simp) (by simp)
    have hother : c ∉ ['[', '\x7b', 't', 'f'] := by
      rcases hc with rfl | rfl <;> simp
    rw [hcs, List.cons_append] at hread ⊢
    rw [value?_scalar hother, hread]

theorem spells_flag (b : Bool) :
    Spells (if b then ['t', 'r', 'u', 'e'] else ['f', 'a', 'l', 's', 'e']) (.flag b) := by
  cases b with
  | false =>
    refine ⟨⟨_, _, rfl, rfl⟩, ?_⟩
    intro room rest
    rw [value?.eq_def]
    rfl
  | true =>
    refine ⟨⟨_, _, rfl, rfl⟩, ?_⟩
    intro room rest
    rw [value?.eq_def]
    rfl

/-- The characters that a written number can begin with. -/
def beginsNumber (c : Char) : Bool := c.isDigit || c == '-' || c == 'i' || c == 'n'

/-- What begins a number begins no other value. -/
theorem spells_of_readNumeral {text : List Char} {s : Scalar}
    (hstart : ∃ c cs, text = c :: cs ∧ beginsNumber c = true)
    (hread : ∀ rest, readNumeral (text ++ '\n' :: rest) = some (s, '\n' :: rest)) :
    Spells text s := by
  obtain ⟨c, cs, rfl, hc⟩ := hstart
  have hother : c ∉ ['[', '\x7b', 't', 'f'] := by
    intro hmem
    simp only [List.mem_cons, List.not_mem_nil, or_false] at hmem
    rcases hmem with rfl | rfl | rfl | rfl <;> simp [beginsNumber] at hc
  refine ⟨⟨c, cs, rfl, ?_⟩, ?_⟩
  · have h₁ : c ≠ ' ' := by rintro rfl; simp [beginsNumber] at hc
    have h₂ : c ≠ '\t' := by rintro rfl; simp [beginsNumber] at hc
    simp [isSpace, h₁, h₂]
  · intro room rest
    have h₁ : c ≠ '"' := by rintro rfl; simp [beginsNumber] at hc
    have h₂ : c ≠ '\'' := by rintro rfl; simp [beginsNumber] at hc
    have hr := hread rest
    rw [List.cons_append] at hr ⊢
    rw [value?_scalar hother, readText?_of_ne h₁ h₂, hr]
    rfl

theorem spells_toDigits {n : Nat} (h : n < 0x8000000000000000) :
    Spells (Nat.toDigits 10 n) (.integer n) := by
  refine spells_of_readNumeral ?_ (readNumeral_toDigits h)
  obtain ⟨d, ds, hds, hd⟩ := toDigits_cons n
  exact ⟨d, ds, hds, by simp [beginsNumber, hd]⟩

theorem spells_amount (x : Binary64) :
    Spells (x.plain ['n', 'a', 'n']) (.number x.canonical) := by
  refine spells_of_readNumeral ?_ (readNumeral_amount x)
  unfold Binary64.plain
  by_cases hnan : x.isNaN = true
  · rw [if_pos hnan]
    exact ⟨_, _, rfl, by decide⟩
  rw [if_neg hnan]
  cases x.negative with
  | true => exact ⟨'-', _, rfl, by decide⟩
  | false =>
    by_cases hfin : x.isFinite = true
    · obtain ⟨whole, fraction, hplain, -⟩ := plain_parts (Decimal.shortest x.code)
      obtain ⟨d, ds, hds, hd⟩ := toDigits_cons whole
      rw [if_pos hfin, hplain, hds]
      exact ⟨d, _, rfl, by simp [beginsNumber, hd]⟩
    · rw [if_neg hfin]
      exact ⟨_, _, rfl, by decide⟩

/-! ## Statements -/

/-- What a line with a statement begins with. -/
structure Opens (c : Char) : Prop where
  not_space : isSpace c = false
  not_comment : c ≠ '#'
  not_feed : c ≠ '\n'
  not_return : c ≠ '\r'

theorem opens_of_bare {c : Char} (h : isBareKeyChar c = true) : Opens c :=
  ⟨isSpace_of_bare h, ne_of_bare h rfl, ne_of_bare h rfl, ne_of_bare h rfl⟩

theorem lineEnd?_of_opens {c : Char} (h : Opens c) (cs : List Char) :
    lineEnd? (c :: cs) = none := by
  have hcomment : skipComment (c :: cs) = c :: cs := by
    unfold skipComment
    split
    · rename_i heq
      exact absurd (List.cons.inj heq).1 h.not_comment
    · rfl
  unfold lineEnd?
  rw [skipSpace_cons h.not_space, hcomment]
  exact lineBreak?_eq_none h.not_feed h.not_return

/-- A statement at the front of a text comes before those behind it. -/
theorem statements?_of_statement {c : Char} {cs rest : List Char} {s : Statement} (h : Opens c)
    (hs : statement? (c :: cs) = some (s, rest)) (hlen : rest.length < (c :: cs).length) :
    statements? (c :: cs) = (statements? rest).map (s :: ·) := by
  rw [statements?, lineEnd?_of_opens h cs, skipSpace_cons h.not_space]
  dsimp only
  rw [hs]
  simp only [Option.bind_eq_bind, Option.bind_some, if_pos hlen]
  cases statements? rest <;> rfl

theorem statements?_nil : statements? [] = some [] := by
  rw [statements?]
  rfl

theorem statements?_emptyLine (rest : List Char) : statements? ('\n' :: rest) = statements? rest := by
  have hend : lineEnd? ('\n' :: rest) = some rest := rfl
  rw [statements?, hend]
  cases rest with
  | nil => exact statements?_nil.symm
  | cons c cs =>
    dsimp only
    rw [if_pos (by simp)]

theorem statements?_header {name : String} (h : Bare name) (rest : List Char) :
    statements? ('[' :: (name.toList ++ ']' :: '\n' :: rest)) =
      (statements? rest).map (.header ⟨[], name⟩ :: ·) := by
  have hkey : key? (name.toList ++ ']' :: '\n' :: rest) =
      some (⟨[], name⟩, ']' :: '\n' :: rest) := key?_bare h (by decide) rfl (by simp)
  have hheader : header? ('[' :: (name.toList ++ ']' :: '\n' :: rest)) =
      some (.header ⟨[], name⟩, '\n' :: rest) := by
    obtain ⟨c, cs, hcs, hc⟩ := h.exists_cons
    rw [hcs, List.cons_append] at hkey ⊢
    unfold header?
    split
    · rename_i heq
      exact absurd (List.cons.inj (List.cons.inj heq).2).1 (ne_of_bare hc rfl)
    · rename_i heq
      obtain ⟨-, rfl⟩ := List.cons.inj heq
      rw [hkey]
      rfl
    · rename_i hno
      exact absurd rfl (hno _)
  have hopens : Opens '[' := ⟨rfl, by simp, by simp, by simp⟩
  refine statements?_of_statement hopens ?_ (by simp; omega)
  unfold statement?
  dsimp only
  rw [hheader]
  rfl

/-- A key, its value, and the end of the line. -/
theorem statements?_assign {name : String} (h : Bare name) {text : List Char} {s : Scalar}
    (hs : Spells text s) (rest : List Char) :
    statements? (name.toList ++ ' ' :: '=' :: ' ' :: (text ++ '\n' :: rest)) =
      (statements? rest).map (.assign ⟨[], name⟩ (.leaf s) :: ·) := by
  obtain ⟨c, cs, hcs, hc⟩ := h.exists_cons
  obtain ⟨d, ds, hds, hd⟩ := hs.start
  have hkey : key? (name.toList ++ ' ' :: '=' :: ' ' :: (text ++ '\n' :: rest)) =
      some (⟨[], name⟩, '=' :: ' ' :: (text ++ '\n' :: rest)) :=
    key?_bare h (by decide) rfl (by simp)
  have hskip : skipSpace (' ' :: (text ++ '\n' :: rest)) = text ++ '\n' :: rest := by
    rw [hds, List.cons_append]
    exact skipSpace_cons hd _
  have hpair : pair? (value? maxDepth) (name.toList ++ ' ' :: '=' :: ' ' :: (text ++ '\n' :: rest)) =
      some ((⟨[], name⟩, .leaf s), '\n' :: rest) := by
    refine Option.bind_eq_some_iff.2 ⟨_, hkey, ?_⟩
    refine Option.bind_eq_some_iff.2 ⟨_, rfl, ?_⟩
    refine Option.bind_eq_some_iff.2 ⟨(.leaf s, '\n' :: rest), ?_, rfl⟩
    rw [hskip]
    exact hs.reads maxDepth rest
  rw [hcs, List.cons_append] at hpair ⊢
  refine statements?_of_statement (opens_of_bare hc) ?_ (by simp; omega)
  unfold statement?
  split
  · rename_i heq
    exact absurd (List.cons.inj heq).1 (ne_of_bare hc rfl)
  · rw [hpair]
    rfl

end NodeSettings.Toml
