-- A document may be rearranged: two layouts of the same assignment give the
-- same settings and the same keys, or the same misfit. The exception is a
-- section that should be a date or a time in one of them alone.
import NodeSettings.Proofs.Layouts
import NodeSettings.Proofs.RoundTrip

namespace NodeSettings

namespace Toml

/-! ## Documents of the same assignment -/

/-- What parts assign. -/
def Assignment.ofParts (parts : List Part) : Assignment where
  sections := (parts.map Part.name).toFinset
  value := assignedTo parts

theorem Compatible.writes {parts : List Part} (h : Compatible parts) :
    Writes parts (.ofParts parts) where
  toCompatible := h
  sections name := by simp [Assignment.ofParts]
  values _ _ := rfl

/-- Parts that assign the same in some order, and in the same sections, write the same. -/
theorem Writes.of_perm {parts parts' : List Part} {a : Assignment} (h : Writes parts a)
    (hc : Compatible parts')
    (hsections : (parts'.map Part.name).toFinset = (parts.map Part.name).toFinset)
    (hperm : (parts'.flatMap Part.assigned).Perm (parts.flatMap Part.assigned)) :
    Writes parts' a where
  toCompatible := hc
  sections name := by
    have hmem : name ∈ (parts'.map Part.name).toFinset ↔ name ∈ (parts.map Part.name).toFinset := by
      rw [hsections]
    rw [h.sections]
    simpa using hmem.symm
  values name key := by
    rw [← h.values]
    unfold assignedTo
    refine Option.ext fun s => ?_
    rw [Sorted.lookup_iff_mem hc.once, Sorted.lookup_iff_mem h.once, hperm.mem_iff]

theorem firstKey_ne {parts : List Part} {key : String}
    (h : ∀ p ∈ parts, ∀ e ∈ p.entries, e.1 ≠ key) (name : String) :
    firstKey parts name ≠ some key := by
  intro hfirst
  obtain ⟨e, he, rfl⟩ := Option.map_eq_some_iff.1 hfirst
  obtain ⟨p, hp, he⟩ := List.mem_flatMap.1 (List.mem_of_find?_eq_some he)
  obtain ⟨e, hmem, rfl⟩ := List.mem_map.1 he
  exact h p hp e hmem rfl

end Toml

namespace Settings

open Toml (Assignment Writes Layout firstKey momentKey)

theorem decode_cases {text : String} {t : Toml.Table} (h : Toml.readTable text = some t) :
    (∃ c, ofTable t = .ok c ∧ decode text = .ok (c, .ofTable t)) ∨
      ∃ m, ofTable t = .error m ∧ decode text = .error (.misfit m) := by
  unfold decode
  rw [h]
  dsimp only
  cases ofTable t with
  | ok c => exact .inl ⟨c, rfl, rfl⟩
  | error m => exact .inr ⟨m, rfl, rfl⟩

/-- Two documents that write the same assignment are decoded alike, if they agree on the sections
that begin with the key of dates and times. Where no section does, there are settings or a misfit,
and they come from a table of what is assigned. -/
theorem layout_makes_no_difference {a : Assignment} {l l' : Layout} (h : Writes l.parts a)
    (h' : Writes l'.parts a)
    (hfirst : ∀ name, firstKey l.parts name = some momentKey ↔
      firstKey l'.parts name = some momentKey) :
    decode l.text = decode l'.text ∧ ((∀ name, firstKey l.parts name ≠ some momentKey) →
      ∃ t, Toml.readTable l.text = some t ∧ a.Fills t ∧
        ((∃ c, ofTable t = .ok c ∧ decode l.text = .ok (c, .ofTable t)) ∨
          ∃ m, ofTable t = .error m ∧ decode l.text = .error (.misfit m))) := by
  have hread := Toml.readTable_layout h.toCompatible
  have hread' := Toml.readTable_layout h'.toCompatible
  have htable := h.tableOf_eq h' (Toml.inOrder_parts l) (Toml.inOrder_parts l') hfirst
  refine ⟨?_, fun hnone => ?_⟩
  · unfold decode
    rw [hread, hread', htable]
  · obtain ⟨t, ht, hfills⟩ := h.tableOf_fills (Toml.inOrder_parts l) hnone
    have htext : Toml.readTable l.text = some t := hread.trans ht
    exact ⟨t, htext, hfills, decode_cases htext⟩

/-! ## Two documents -/

section

open Toml (Name Spelling LineEnd Ending Heading Entry Compatible)

theorem readable_mark : ∀ cs ∈ some ['!'], ∀ c ∈ cs, Toml.isCommentChar c = true := by
  rintro cs ⟨⟩ c hc
  rw [List.mem_singleton.1 hc]
  decide

/-- A line feed with a carriage return in front, and then a line with a comment. -/
def remark : Ending :=
  ⟨{ LineEnd.feed with carriageReturn := true }, [⟨.none, some ['!'], false, readable_mark⟩]⟩

def logHeading : Heading := .bare ⟨['L', 'O', 'G'], "LOG", rfl⟩

def otherHeading : Heading := .bare ⟨['X'], "X", rfl⟩

def certificate : Entry :=
  .bare ⟨['C', 'r', 't', 'F', 'i', 'l', 'e'], "CrtFile", rfl⟩
    ⟨['\'', 'a', '\''], .text "a", rfl, by simp⟩

def privateKey : Entry :=
  .bare ⟨['K', 'e', 'y', 'F', 'i', 'l', 'e'], "KeyFile", rfl⟩
    ⟨['\'', 'b', '\''], .text "b", rfl, by simp⟩

/-- Two sections under their headers, the second one empty. -/
def headed : Layout where
  opening := []
  top := []
  blocks := [⟨.none, logHeading, .feed, [(certificate, .feed), (privateKey, .feed)]⟩,
    ⟨.none, otherHeading, .feed, []⟩]

/-- The same two, but the empty one as an inline table, and then the keys of the other one with
dotted names, the last one first. -/
def dotted : Layout where
  opening := []
  top := [.inline otherHeading .none .none [] remark, .dotted logHeading privateKey remark,
    .dotted logHeading certificate .feed]
  blocks := []

theorem compatible_headed : Compatible headed.parts :=
  ⟨by decide, by decide⟩

theorem writes_dotted : Writes dotted.parts (.ofParts headed.parts) :=
  compatible_headed.writes.of_perm ⟨by decide, by decide⟩ (by decide) (.swap _ _ _)

theorem readTable_headed : Toml.readTable headed.text =
    some [("LOG", .table [("CrtFile", .scalar (.text "a")), ("KeyFile", .scalar (.text "b"))]),
      ("X", .table [])] :=
  (Toml.readTable_layout compatible_headed).trans rfl

/-- The first document has headers, the second one dotted names and an inline table. -/
theorem headed_and_dotted_are_decoded_alike :
    Writes headed.parts (.ofParts headed.parts) ∧ Writes dotted.parts (.ofParts headed.parts) ∧
      headed.text ≠ dotted.text ∧ decode dotted.text = decode headed.text ∧
      decode headed.text = .ok ({ log := { crtFile := "a", keyFile := "b" } },
        ⟨[["LOG"], ["LOG", "CrtFile"], ["LOG", "KeyFile"], ["X"]]⟩) := by
  have hheaded : ∀ name, firstKey headed.parts name ≠ some momentKey :=
    Toml.firstKey_ne (by decide)
  have hdotted : ∀ name, firstKey dotted.parts name ≠ some momentKey :=
    Toml.firstKey_ne (by decide)
  have hsame := layout_makes_no_difference compatible_headed.writes writes_dotted
    fun name => iff_of_false (hheaded name) (hdotted name)
  refine ⟨compatible_headed.writes, writes_dotted, by decide +kernel, hsame.1.symm, ?_⟩
  exact decode_of_readTable readTable_headed rfl

/-! ## A date that is lost

The reading makes a date of a whole section that begins with the key of dates and times. Behind
another key it is a key as any other. -/

def day : Entry :=
  .bare ⟨'"' :: momentKey.toList ++ ['"'], momentKey, by cbv⟩
    ⟨['\'', '1', '9', '7', '9', '-', '0', '5', '-', '2', '7', '\''], .text "1979-05-27", rfl,
      by simp⟩

def number : Entry :=
  .bare ⟨['y'], "y", rfl⟩ ⟨['1'], .integer 1, rfl, by simp⟩

def dayFirst : Layout := ⟨[], [.inline otherHeading .none .none [day, number] .feed], []⟩

def dayLast : Layout := ⟨[], [.inline otherHeading .none .none [number, day] .feed], []⟩

theorem compatible_dayFirst : Compatible dayFirst.parts :=
  ⟨by decide, by decide⟩

theorem writes_dayLast : Writes dayLast.parts (.ofParts dayFirst.parts) :=
  compatible_dayFirst.writes.of_perm ⟨by decide, by decide⟩ (by decide) (.swap _ _ _)

theorem decode_dayFirst : decode dayFirst.text = .ok ({}, ⟨[["X"]]⟩) := by
  have htable : Toml.readTable dayFirst.text =
      some [("X", .scalar (.moment (.date ⟨1979, 5, 27⟩)))] :=
    (Toml.readTable_layout compatible_dayFirst).trans rfl
  exact decode_of_readTable htable rfl

theorem decode_dayLast : decode dayLast.text =
    .ok ({}, ⟨[["X"], ["X", momentKey], ["X", "y"]]⟩) := by
  have htable : Toml.readTable dayLast.text = some [("X",
      .table [(momentKey, .scalar (.text "1979-05-27")), ("y", .scalar (.integer 1))])] :=
    (Toml.readTable_layout writes_dayLast.toCompatible).trans rfl
  exact decode_of_readTable htable rfl

/-- So the order of keys makes a difference where one of them is this key. -/
theorem a_date_is_lost_behind_another_key :
    Writes dayFirst.parts (.ofParts dayFirst.parts) ∧
      Writes dayLast.parts (.ofParts dayFirst.parts) ∧
      decode dayFirst.text ≠ decode dayLast.text := by
  refine ⟨compatible_dayFirst.writes, writes_dayLast, ?_⟩
  rw [decode_dayFirst, decode_dayLast]
  simp

end

end Settings

end NodeSettings
