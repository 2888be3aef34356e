-- What a table contains, told by looking keys up from one table to the next.
-- The recorded paths of a document are just these, and its unknown ones are
-- reported if there are any.
import Mathlib
import NodeSettings.Settings.Required

namespace NodeSettings

open Toml (Value Table)

/-! ## Entries and their keys -/

namespace Sorted

variable {κ α : Type} [BEq κ] [LawfulBEq κ]

/-- Where no key comes twice, every entry is the one that is found under its key. -/
theorem lookup_iff_mem {key : κ} {a : α} {es : List (κ × α)} (hn : (es.map (·.1)).Nodup) :
    es.lookup key = some a ↔ (key, a) ∈ es := by
  rw [List.lookup_eq_some_iff]
  constructor
  · rintro ⟨before, after, rfl, -⟩
    simp
  · intro h
    obtain ⟨before, after, rfl⟩ := List.append_of_mem h
    refine ⟨before, after, rfl, ?_⟩
    intro e he
    rw [List.map_append, List.map_cons, List.nodup_middle, List.nodup_cons] at hn
    rw [bne_iff_ne]
    rintro rfl
    exact hn.1 (List.mem_append_left _ (List.mem_map_of_mem (f := (·.1)) he))

variable [LT κ] [Std.Irrefl (α := κ) (· < ·)]

omit [BEq κ] [LawfulBEq κ] in
theorem nodup_of_increasing {es : List (κ × α)} (h : Increasing es) : (es.map (·.1)).Nodup := by
  refine List.Pairwise.imp ?_ h
  rintro a b hlt rfl
  exact Std.Irrefl.irrefl (r := (· < ·)) _ hlt

end Sorted

/-! ## Entries put back -/

namespace Sorted

variable {κ α : Type} [LT κ] [DecidableLT κ] [BEq κ] [LawfulBEq κ]

omit [DecidableLT κ] in
theorem split_of_lookup {key : κ} {a : α} {es : List (κ × α)} (hs : Increasing es)
    (h : es.lookup key = some a) : ∃ before after, es = before ++ (key, a) :: after ∧
      (∀ e ∈ before, e.1 < key) ∧ ∀ e ∈ after, key < e.1 := by
  obtain ⟨before, after, rfl, -⟩ := List.lookup_eq_some_iff.1 h
  unfold Increasing at hs
  rw [List.map_append, List.map_cons, List.pairwise_append, List.pairwise_cons] at hs
  obtain ⟨-, ⟨habove, -⟩, hbelow⟩ := hs
  refine ⟨before, after, rfl, fun e he => ?_, fun e he => habove _ (List.mem_map_of_mem he)⟩
  exact hbelow _ (List.mem_map_of_mem he) _ List.mem_cons_self

variable [Std.Asymm (α := κ) (· < ·)]

omit [DecidableLT κ] in
theorem beq_of_lt {k key : κ} (h : k < key) : (key == k) = false ∧ (k == key) = false := by
  have hne : k ≠ key := by
    rintro rfl
    exact Std.Asymm.asymm (r := (· < ·)) _ _ h h
  exact ⟨by simpa using hne.symm, by simpa using hne⟩

/-- An entry that is taken away and put back is at its old place. -/
theorem put_remove {key : κ} {a : α} {es : List (κ × α)} (hs : Increasing es)
    (h : es.lookup key = some a) : put key a (remove key es) = es := by
  obtain ⟨before, after, rfl, hbefore, hafter⟩ := split_of_lookup hs h
  have hremove : remove key (before ++ (key, a) :: after) = before ++ after := by
    unfold remove
    rw [List.filter_append, List.filter_cons_of_neg (by simp), List.filter_eq_self.2,
      List.filter_eq_self.2]
    · intro e he
      simp [(beq_of_lt (hafter e he)).1]
    · intro e he
      simp [(beq_of_lt (hbefore e he)).2]
  rw [hremove]
  clear h hs hremove
  induction before with
  | nil =>
    cases after with
    | nil => rfl
    | cons e after =>
      have hlt := hafter e List.mem_cons_self
      simp [put, (beq_of_lt hlt).2, hlt]
  | cons e before ih =>
    have hlt := hbefore e List.mem_cons_self
    have hnot : ¬ key < e.1 := Std.Asymm.asymm (r := (· < ·)) _ _ hlt
    rw [List.cons_append, put, if_neg (by simp [(beq_of_lt hlt).1]), if_neg hnot,
      ih fun e' he' => hbefore e' (List.mem_cons_of_mem _ he')]
    rfl

end Sorted

/-! ## Contained paths -/

/-- Every step of the path leads to a key, and all but the last of them into a table. -/
inductive Toml.Table.Contains : Table → Path → Prop
  | key {t : Table} {k : String} {v : Value} : t.get? k = some v → Contains t [k]
  | inside {t es : Table} {k : String} {path : Path} :
      t.get? k = some (.table es) → Contains es path → Contains t (k :: path)

namespace Toml.Table

theorem Contains.ne_nil {t : Table} {path : Path} (h : t.Contains path) : path ≠ [] := by
  cases h <;> simp

theorem contains_key {t : Table} {k : String} : t.Contains [k] ↔ ∃ v, t.get? k = some v := by
  constructor
  · intro h
    cases h with
    | key h => exact ⟨_, h⟩
    | inside _ h => exact absurd rfl h.ne_nil
  · rintro ⟨v, h⟩
    exact .key h

theorem contains_inside {t : Table} {k : String} {path : Path} (hne : path ≠ []) :
    t.Contains (k :: path) ↔ ∃ es : Table, t.get? k = some (.table es) ∧ es.Contains path := by
  constructor
  · intro h
    cases h with
    | key _ => exact absurd rfl hne
    | inside h hpath => exact ⟨_, h, hpath⟩
  · rintro ⟨es, h, hpath⟩
    exact .inside h hpath

theorem Sorted.get?_iff {t : Table} (h : t.Sorted) {k : String} {v : Value} :
    t.get? k = some v ↔ (k, v) ∈ t :=
  NodeSettings.Sorted.lookup_iff_mem (NodeSettings.Sorted.nodup_of_increasing h.1)

theorem Sorted.inner {t es : Table} (h : t.Sorted) {k : String} (hk : (k, .table es) ∈ t) :
    es.Sorted :=
  entriesSorted_iff.1 h.2 _ hk

end Toml.Table

/-! ## Recorded paths -/

theorem mem_pathsOf_cons {t : Table} {k : String} {path : Path} :
    k :: path ∈ pathsOf t ↔ ∃ v, (k, v) ∈ t ∧ (path = [] ∨ path ∈ pathsBelow v) := by
  induction t with
  | nil => simp [pathsOf]
  | cons e t ih =>
    obtain ⟨k', v'⟩ := e
    rw [pathsOf, List.mem_append, List.mem_cons, List.mem_map, ih]
    simp only [List.cons.injEq, List.mem_cons, Prod.mk.injEq]
    constructor
    · rintro ((⟨rfl, rfl⟩ | ⟨q, hq, rfl, rfl⟩) | ⟨v, hv, hpath⟩)
      · exact ⟨v', .inl ⟨rfl, rfl⟩, .inl rfl⟩
      · exact ⟨v', .inl ⟨rfl, rfl⟩, .inr hq⟩
      · exact ⟨v, .inr hv, hpath⟩
    · rintro ⟨v, ⟨rfl, rfl⟩ | hv, hpath⟩
      · refine .inl (hpath.imp (fun h => ⟨rfl, h⟩) fun h => ⟨path, h, rfl, rfl⟩)
      · exact .inr ⟨v, hv, hpath⟩

theorem nil_not_mem_pathsOf (t : Table) : [] ∉ pathsOf t := by
  induction t with
  | nil => simp [pathsOf]
  | cons e t ih => simp [pathsOf, ih]

theorem mem_pathsBelow {v : Value} {path : Path} :
    path ∈ pathsBelow v ↔ ∃ es : Table, v = .table es ∧ path ∈ pathsOf es := by
  cases v <;> simp [pathsBelow]

/-- The recorded paths of a sorted table are those that it contains. -/
theorem mem_pathsOf_iff {t : Table} (h : t.Sorted) {path : Path} :
    path ∈ pathsOf t ↔ t.Contains path := by
  induction path generalizing t with
  | nil =>
    constructor
    · intro hmem
      exact absurd hmem (nil_not_mem_pathsOf t)
    · intro hc
      exact absurd rfl hc.ne_nil
  | cons k path ih =>
    rw [mem_pathsOf_cons]
    by_cases hne : path = []
    · subst hne
      simp only [true_or, and_true, Toml.Table.contains_key, h.get?_iff]
    · simp only [hne, false_or, mem_pathsBelow, Toml.Table.contains_inside hne, h.get?_iff]
      constructor
      · rintro ⟨v, hv, es, rfl, hpath⟩
        exact ⟨es, hv, (ih (h.inner hv)).1 hpath⟩
      · rintro ⟨es, hes, hpath⟩
        exact ⟨_, hes, es, rfl, (ih (h.inner hes)).2 hpath⟩

namespace Presence

theorem defines_ofTable {t : Table} (h : t.Sorted) {path : Path} :
    (ofTable t).defines path = true ↔ t.Contains path := by
  unfold defines ofTable
  rw [List.contains_iff_mem]
  exact mem_pathsOf_iff h

/-! ## Unknown paths -/

/-- What is unknown is reported, or lies below something that is. -/
theorem exists_outermost {known : Presence} {kept seen : List Path} {path : Path}
    (h : (∃ q ∈ kept, q <+: path) ∨ path ∈ seen ∧ known.defines path = false) :
    ∃ q ∈ outermost known kept seen, q <+: path := by
  induction seen generalizing kept with
  | nil => exact h.resolve_right (by simp)
  | cons first seen ih =>
    rw [outermost]
    split
    · rename_i hskip
      rcases h with h | ⟨h, hunknown⟩
      · exact ih (.inl h)
      rcases List.mem_cons.1 h with rfl | h
      · rw [hunknown, Bool.false_or, List.any_eq_true] at hskip
        obtain ⟨q, hq, hprefix⟩ := hskip
        exact ih (.inl ⟨q, hq, List.isPrefixOf_iff_prefix.1 hprefix⟩)
      · exact ih (.inr ⟨h, hunknown⟩)
    · rcases h with ⟨q, hq, hprefix⟩ | ⟨h, hunknown⟩
      · exact ih (.inl ⟨q, List.mem_append_left _ hq, hprefix⟩)
      rcases List.mem_cons.1 h with rfl | h
      · exact ih (.inl ⟨path, by simp, List.prefix_rfl⟩)
      · exact ih (.inr ⟨h, hunknown⟩)

theorem outermost_of_defined {known : Presence} {seen : List Path}
    (h : ∀ path ∈ seen, known.defines path = true) (kept : List Path) :
    outermost known kept seen = kept := by
  induction seen with
  | nil => rfl
  | cons path seen ih =>
    rw [outermost, h path List.mem_cons_self, Bool.true_or, if_pos rfl]
    apply ih
    intro path' hpath'
    exact h path' (List.mem_cons_of_mem _ hpath')

/-- Nothing is reported where every path is known. -/
theorem unknown_eq_nil_iff {p known : Presence} :
    p.unknown known = [] ↔ ∀ path, p.defines path = true → known.defines path = true := by
  unfold unknown unknownPaths defines
  rw [List.map_eq_nil_iff]
  constructor
  · intro h path hpath
    rw [← Bool.not_eq_false]
    intro hunknown
    obtain ⟨q, hq, -⟩ : ∃ q ∈ outermost known [] p.paths, q <+: path :=
      exists_outermost (.inr ⟨List.contains_iff_mem.1 hpath, hunknown⟩)
    rw [h] at hq
    simp at hq
  · intro h
    exact outermost_of_defined (fun path hpath => h path (List.contains_iff_mem.2 hpath)) []

end Presence

end NodeSettings
