-- What a dotted name tells of a reported path. Segments are joined as they
-- are, so that a quoted key at the top may go by the name of a key in a
-- section. No other two paths have one name.
import NodeSettings.Proofs.Ignoring
import NodeSettings.Proofs.Reporting

namespace NodeSettings

open Toml (Table)

/-- Nothing that a key can hold is a table. -/
theorem Kind.not_admits_table (k : Kind) (es : Table) : ¬ k.Admits (.table es) := by
  cases k <;> simp [Kind.Admits]

namespace Presence

variable {path path' : Path}

/-! ## Names of one and of two segments -/

theorem dotted_one (name : String) : dotted [name] = name := by
  rw [← String.toList_inj, dotted, String.toList_intercalate]
  simp

theorem toList_dotted_two (s name : String) :
    (dotted [s, name]).toList = s.toList ++ '.' :: name.toList := by
  rw [dotted, String.toList_intercalate]
  simp

/-- A text is cut at its first dot in one way only. -/
theorem cut_at_dot {a b rest rest' : List Char} (ha : '.' ∉ a) (hb : '.' ∉ b)
    (h : a ++ '.' :: rest = b ++ '.' :: rest') : a = b ∧ rest = rest' := by
  induction a generalizing b with
  | nil =>
    cases b with
    | nil => exact ⟨rfl, List.tail_eq_of_cons_eq h⟩
    | cons c b => exact absurd (List.head_eq_of_cons_eq h ▸ List.mem_cons_self) hb
  | cons c a ih =>
    cases b with
    | nil => exact absurd (List.head_eq_of_cons_eq h ▸ List.mem_cons_self) ha
    | cons c' b =>
      obtain ⟨rfl, htail⟩ := List.cons_eq_cons.1 h
      obtain ⟨rfl, hrest⟩ :=
        ih (List.not_mem_of_not_mem_cons ha) (List.not_mem_of_not_mem_cons hb) htail
      exact ⟨rfl, hrest⟩

theorem no_dot_in_section (s : Section) : '.' ∉ s.name.toList := by
  cases s <;> decide

theorem dotted_two_ne_section (s name : String) (s' : Section) : dotted [s, name] ≠ s'.name := by
  intro h
  have hdot : '.' ∈ (dotted [s, name]).toList := by simp [toList_dotted_two]
  rw [h] at hdot
  exact no_dot_in_section s' hdot

theorem eq_of_dotted_two {s s' : Section} {name name' : String}
    (h : dotted [s.name, name] = dotted [s'.name, name']) : [s.name, name] = [s'.name, name'] := by
  rw [← String.toList_inj, toList_dotted_two, toList_dotted_two] at h
  obtain ⟨hs, hname⟩ := cut_at_dot (no_dot_in_section s) (no_dot_in_section s') h
  rw [String.toList_inj.1 hs, String.toList_inj.1 hname]

/-! ## Paths at the top and in sections -/

/-- A key at the top or one in a section. -/
inductive Shallow : Path → Prop
  | top (name : String) : Shallow [name]
  | inside (s : Section) (name : String) : Shallow [s.name, name]

/-- The first path is a key at the top whose name is that of the second one, which is in a section.
Such a key is quoted, since there is a dot in it. -/
def QuotedFor (path inside : Path) : Prop :=
  ∃ (s : Section) (name : String), inside = [s.name, name] ∧ path = [dotted inside]

theorem QuotedFor.dotted_eq {inside : Path} (h : QuotedFor path inside) :
    dotted path = dotted inside := by
  obtain ⟨s, name, -, rfl⟩ := h
  exact dotted_one _

/-- Two shallow paths of one name are the same, or one is quoted for the other. -/
theorem Shallow.eq_or_quotedFor (h : Shallow path) (h' : Shallow path')
    (heq : dotted path = dotted path') :
    path = path' ∨ QuotedFor path path' ∨ QuotedFor path' path := by
  cases h with
  | top name =>
    rw [dotted_one] at heq
    cases h' with
    | top name' => exact .inl (by rw [heq, dotted_one])
    | inside s' name' => exact .inr (.inl ⟨s', name', rfl, by rw [heq]⟩)
  | inside s name =>
    cases h' with
    | top name' =>
      rw [dotted_one] at heq
      exact .inr (.inr ⟨s, name, rfl, by rw [heq]⟩)
    | inside s' name' => exact .inl (eq_of_dotted_two heq)

/-! ## Known and reported paths -/

/-- The known paths are the sections and their keys. -/
theorem known_cases (h : knownKeys.defines path = true) :
    (∃ s : Section, path = [s.name]) ∨ ∃ k : Key, path = [k.home.name, k.name] := by
  have hall : ∀ path ∈ knownKeys.paths, path ∈ Section.all.map (fun s => [s.name]) ∨
      path ∈ Key.all.map fun k => [k.home.name, k.name] := by decide
  rcases hall path (defines_iff_mem.1 h) with hpath | hpath
  · obtain ⟨s, -, rfl⟩ := List.mem_map.1 hpath
    exact .inl ⟨s, rfl⟩
  · obtain ⟨k, -, rfl⟩ := List.mem_map.1 hpath
    exact .inr ⟨k, rfl⟩

/-- In a table that gives settings there is nothing below a key. -/
theorem not_below_key {t : Table} {c : Settings} (ht : t.Sorted) (hc : Settings.ofTable t = .ok c)
    (k : Key) (name : String) : (ofTable t).defines [k.home.name, k.name, name] = false := by
  rw [← Bool.not_eq_true, defines_ofTable ht]
  intro h
  obtain ⟨es, hes, h⟩ := (Table.contains_inside (by simp)).1 h
  obtain ⟨es', hes', -⟩ := (Table.contains_inside (by simp)).1 h
  have hmem := ht.get?_iff.1 hes
  have hfits := Settings.ofTable_ok_iff.1 ⟨c, hc⟩ k.home _ hmem
  have hmem' := (ht.inner hmem).get?_iff.1 hes'
  cases hfits with
  | table hadmits => exact Kind.not_admits_table _ _ (hadmits k _ rfl hmem')

theorem shallow_of_known (h : knownKeys.defines path = true) : Shallow path := by
  rcases known_cases h with ⟨s, rfl⟩ | ⟨k, rfl⟩
  · exact .top _
  · exact .inside _ _

/-- No known path is quoted for another one. -/
theorem not_quotedFor_of_known (h : knownKeys.defines path = true) : ¬ QuotedFor path path' := by
  rintro ⟨s, name, rfl, hpath⟩
  rcases known_cases h with ⟨s', rfl⟩ | ⟨k, rfl⟩
  · exact dotted_two_ne_section _ _ s' (List.head_eq_of_cons_eq hpath).symm
  · exact List.cons_ne_nil _ _ (List.tail_eq_of_cons_eq hpath)

/-- What is reported of a table that gives settings is shallow: the way to it is known, and leads
into a section at most. -/
theorem Outermost.shallow {t : Table} {c : Settings} (ht : t.Sorted)
    (hc : Settings.ofTable t = .ok c) (h : Outermost (ofTable t) knownKeys path) :
    Shallow path := by
  have hp : (ofTable t).Recorded := .table ht
  have hne := hp.ne_nil h.unknown.1
  have hpath := List.dropLast_concat_getLast hne
  rcases h.parent hp with hone | hparent
  · obtain ⟨name, rfl⟩ := List.length_eq_one_iff.1 hone
    exact .top name
  rcases known_cases hparent with ⟨s, hs⟩ | ⟨k, hk⟩
  · rw [hs] at hpath
    rw [← hpath]
    exact .inside s _
  · rw [hk] at hpath
    have hdefined := h.unknown.1
    rw [← hpath, List.cons_append, List.cons_append, List.nil_append, not_below_key ht hc]
      at hdefined
    cases hdefined

/-! ## What a reported name tells -/

/-- A reported path goes by the name of a known one just if it is a key at the top that is quoted
for it, and two of them go by one name just if one is quoted for the other. So all other names tell
which key was ignored. -/
theorem only_quoted_keys_share_a_name {text : String} {c : Settings} {p : Presence}
    (h : Settings.decode text = .ok (c, p)) :
    ∃ paths : List Path, p.unknown knownKeys = paths.map dotted ∧
      (∀ path, path ∈ paths ↔ Outermost p knownKeys path) ∧
      (∀ path ∈ paths, ∀ known, knownKeys.defines known = true →
        (dotted path = dotted known ↔ QuotedFor path known)) ∧
      ∀ path ∈ paths, ∀ path' ∈ paths, path ≠ path' →
        (dotted path = dotted path' ↔ QuotedFor path path' ∨ QuotedFor path' path) := by
  obtain ⟨t, ht, hc, rfl⟩ := Repository.decode_ok_iff.1 h
  have hsorted := Toml.sorted_readTable ht
  have hreported : ∀ path, path ∈ (ofTable t).unknownPaths knownKeys ↔
      Outermost (ofTable t) knownKeys path :=
    fun path => (Recorded.table hsorted).mem_unknownPaths_iff
  have hshallow : ∀ path ∈ (ofTable t).unknownPaths knownKeys, Shallow path :=
    fun path hpath => ((hreported path).1 hpath).shallow hsorted hc
  refine ⟨(ofTable t).unknownPaths knownKeys, rfl, hreported, ?_, ?_⟩
  · intro path hpath known hknown
    refine ⟨fun hname => ?_, QuotedFor.dotted_eq⟩
    rcases (hshallow path hpath).eq_or_quotedFor (shallow_of_known hknown) hname with
      rfl | hquoted | hquoted
    · have hunknown := ((hreported path).1 hpath).unknown.2
      rw [hknown] at hunknown
      cases hunknown
    · exact hquoted
    · exact absurd hquoted (not_quotedFor_of_known hknown)
  · intro path hpath path' hpath' hne
    constructor
    · intro hname
      exact ((hshallow path hpath).eq_or_quotedFor (hshallow path' hpath') hname).resolve_left hne
    · rintro (hquoted | hquoted)
      · exact hquoted.dotted_eq
      · exact hquoted.dotted_eq.symm

/-! ## Quoted keys -/

section

open Toml (Layout Heading Compatible)
open Settings (logHeading number)

def quotedCertificate : Heading :=
  .bare ⟨['"', 'L', 'O', 'G', '.', 'C', 'r', 't', 'F', 'i', 'l', 'e', '"'], "LOG.CrtFile", by cbv⟩

def quotedNumber : Heading :=
  .bare ⟨['"', 'L', 'O', 'G', '.', 'y', '"'], "LOG.y", by cbv⟩

/-- A known section with an unknown key, and two unknown sections whose quoted names have dots. -/
def quotedLayout : Layout where
  opening := []
  top := []
  blocks := [⟨.none, logHeading, .feed, [(number, .feed)]⟩, ⟨.none, quotedCertificate, .feed, []⟩,
    ⟨.none, quotedNumber, .feed, []⟩]

def quotedDocument : String := "[LOG]\ny=1\n[\"LOG.CrtFile\"]\n[\"LOG.y\"]\n"

def quotedPaths : Presence := ⟨[["LOG"], ["LOG", "y"], ["LOG.CrtFile"], ["LOG.y"]]⟩

theorem decode_quoted : Settings.decode quotedDocument = .ok ({}, quotedPaths) := by
  have htext : quotedLayout.text = quotedDocument := by decide +kernel
  have hcompatible : Compatible quotedLayout.parts := ⟨by decide, by decide⟩
  have htable : Toml.readTable quotedLayout.text = some [
      ("LOG", .table [("y", .scalar (.integer 1))]), ("LOG.CrtFile", .table []),
      ("LOG.y", .table [])] :=
    (Toml.readTable_layout hcompatible).trans rfl
  rw [htext] at htable
  exact Settings.decode_of_readTable htable rfl

theorem unknownPaths_quoted :
    quotedPaths.unknownPaths knownKeys = [["LOG", "y"], ["LOG.CrtFile"], ["LOG.y"]] := by decide

theorem outermost_quoted : Outermost quotedPaths knownKeys path ↔
    path ∈ [["LOG", "y"], ["LOG.CrtFile"], ["LOG.y"]] := by
  have hp : quotedPaths.Recorded := by
    obtain ⟨t, ht, -, heq⟩ := Repository.decode_ok_iff.1 decode_quoted
    rw [heq]
    exact .table (Toml.sorted_readTable ht)
  rw [← unknownPaths_quoted]
  exact hp.mem_unknownPaths_iff.symm

/-- The unknown key in the section is reported, and not by the name of a known one. -/
theorem a_key_in_a_section_has_no_known_name :
    ∃ p, Settings.decode quotedDocument = .ok ({}, p) ∧ "LOG.y" ∈ p.unknown knownKeys ∧
      ∀ known, knownKeys.defines known = true → "LOG.y" ≠ dotted known := by
  obtain ⟨paths, hreport, hpaths, hknown, -⟩ := only_quoted_keys_share_a_name decode_quoted
  have hmem : ["LOG", "y"] ∈ paths := (hpaths _).2 (outermost_quoted.2 (by decide))
  refine ⟨_, decode_quoted, ?_, ?_⟩
  · rw [hreport]
    exact List.mem_map_of_mem hmem
  · intro known hdefines hname
    obtain ⟨_, _, _, hpath⟩ := (hknown _ hmem known hdefines).1 hname
    exact List.cons_ne_nil _ _ (List.tail_eq_of_cons_eq hpath)

/-- A quoted key is reported by the name of a known one, and two keys by the same name. -/
theorem quoted_keys_go_by_other_names : ∃ p, Settings.decode quotedDocument = .ok ({}, p) ∧
    (∃ name ∈ p.unknown knownKeys, ∃ known, knownKeys.defines known = true ∧ name = dotted known) ∧
    ∃ path path', Outermost p knownKeys path ∧ Outermost p knownKeys path' ∧ path ≠ path' ∧
      dotted path = dotted path' := by
  refine ⟨_, decode_quoted, ⟨"LOG.CrtFile", ?_, ["LOG", "CrtFile"], by decide, rfl⟩,
    ["LOG", "y"], ["LOG.y"], ?_, ?_, by decide, rfl⟩
  · rw [unknown, unknownPaths_quoted]
    decide
  · exact outermost_quoted.2 (by decide)
  · exact outermost_quoted.2 (by decide)

end

end Presence

end NodeSettings
