-- What is recorded of a table: its keys and those of the tables in it, each by
-- its path, in byte order and as many as there are entries. The paths may be
-- collected along one path that changes in place: it comes back from every
-- table as it went in.
import NodeSettings.Proofs.ByteOrder
import NodeSettings.Proofs.Reporting
import NodeSettings.Proofs.WrittenTable

namespace NodeSettings

open Toml (Value Table)

/-! ## Tables in tables -/

namespace Toml

mutual

/-- The tables of a value: itself and those in it. Arrays are not looked into. -/
def tablesOf : Value → List Table
  | .table es => es :: tablesIn es
  | _ => []

def tablesIn : List (String × Value) → List Table
  | [] => []
  | (_, v) :: es => tablesOf v ++ tablesIn es

end

namespace Table

/-- The entries of a table and of all tables in it. -/
def entryCount (t : Table) : Nat := ((t :: tablesIn t).map List.length).sum

/-- The table that a path leads to, key by key. -/
def tableAt? (t : Table) : Path → Option Table
  | [] => some t
  | k :: path =>
    match t.get? k with
    | some (.table es) => tableAt? es path
    | _ => none

theorem tableAt?_cons {t es : Table} {k : String} (h : t.get? k = some (.table es)) (path : Path) :
    t.tableAt? (k :: path) = es.tableAt? path := by
  rw [tableAt?, h]

theorem tableAt?_cons_eq_none {t : Table} {k : String}
    (h : ∀ es, t.get? k ≠ some (.table es)) (path : Path) : t.tableAt? (k :: path) = none := by
  rw [tableAt?]
  split
  · rename_i es hes
    exact absurd hes (h es)
  · rfl

/-- What comes behind a path starts from the table that it leads to. -/
theorem tableAt?_append (t : Table) (path more : Path) :
    t.tableAt? (path ++ more) = (t.tableAt? path).bind (·.tableAt? more) := by
  induction path generalizing t with
  | nil => rfl
  | cons k path ih =>
    rw [List.cons_append]
    by_cases h : ∃ es, t.get? k = some (.table es)
    · obtain ⟨es, hes⟩ := h
      rw [tableAt?_cons hes, tableAt?_cons hes, ih]
    · have hnone : ∀ es, t.get? k ≠ some (.table es) := fun es hes => h ⟨es, hes⟩
      rw [tableAt?_cons_eq_none hnone, tableAt?_cons_eq_none hnone]
      rfl

/-- All but the last segment lead to a table, and this has the last one as a key. -/
theorem contains_concat {t : Table} {outer : Path} {key : String} :
    t.Contains (outer ++ [key]) ↔
      ∃ es v, t.tableAt? outer = some es ∧ Table.get? es key = some v := by
  induction outer generalizing t with
  | nil =>
    rw [List.nil_append, contains_key]
    simp [tableAt?]
  | cons k outer ih =>
    rw [List.cons_append, contains_inside (by simp)]
    constructor
    · rintro ⟨inner, hk, hcontains⟩
      rw [tableAt?_cons hk]
      exact ih.1 hcontains
    · rintro ⟨es, v, hat, hv⟩
      by_cases h : ∃ inner, t.get? k = some (.table inner)
      · obtain ⟨inner, hk⟩ := h
        rw [tableAt?_cons hk] at hat
        exact ⟨inner, hk, ih.2 ⟨es, v, hat, hv⟩⟩
      · rw [tableAt?_cons_eq_none fun es hes => h ⟨es, hes⟩] at hat
        cases hat

/-- Where something else than a table stands under a key, no path goes on. -/
theorem not_contains_behind {t es : Table} {outer rest : Path} {key : String}
    (hat : t.tableAt? outer = some es) (hkey : ∀ inner, es.get? key ≠ some (.table inner))
    (hrest : rest ≠ []) : ¬ t.Contains (outer ++ key :: rest) := by
  intro hcontains
  obtain ⟨more, last, rfl⟩ := (List.eq_nil_or_concat rest).resolve_left hrest
  rw [List.concat_eq_append, ← List.cons_append, ← List.append_assoc, contains_concat] at hcontains
  obtain ⟨_, _, hbehind, -⟩ := hcontains
  rw [tableAt?_append, hat, Option.bind_some, tableAt?_cons_eq_none hkey] at hbehind
  cases hbehind

/-- A contained path in its own words: every part in front of it leads to a table, and the last
segment is a key of the last table. -/
theorem contains_iff {t : Table} {path : Path} : t.Contains path ↔ path ≠ [] ∧
    (∀ above, above <+: path → above ≠ path → ∃ es, t.tableAt? above = some es) ∧
    ∀ outer key, path = outer ++ [key] →
      ∃ es v, t.tableAt? outer = some es ∧ Table.get? es key = some v := by
  constructor
  · intro h
    refine ⟨h.ne_nil, ?_, ?_⟩
    · intro above habove hne
      obtain ⟨outer, key, rfl⟩ := (List.eq_nil_or_concat path).resolve_left h.ne_nil
      rw [List.concat_eq_append] at h habove hne
      obtain ⟨rest, rfl⟩ := (List.prefix_concat_iff.1 habove).resolve_left hne
      obtain ⟨es, -, hat, -⟩ := contains_concat.1 h
      rw [tableAt?_append] at hat
      obtain ⟨es', hes', -⟩ := Option.bind_eq_some_iff.1 hat
      exact ⟨es', hes'⟩
    · rintro outer key rfl
      exact contains_concat.1 h
  · rintro ⟨hne, -, hlast⟩
    obtain ⟨outer, key, rfl⟩ := (List.eq_nil_or_concat path).resolve_left hne
    rw [List.concat_eq_append] at hlast ⊢
    exact contains_concat.2 (hlast outer key rfl)

end Table

end Toml

/-! ## As many as there are entries -/

open Toml (tablesOf tablesIn)

mutual

theorem length_pathsBelow (v : Value) :
    (pathsBelow v).length = ((tablesOf v).map List.length).sum := by
  cases v with
  | scalar s => rfl
  | list items => rfl
  | table es =>
    rw [pathsBelow, tablesOf, length_pathsOf]
    rfl

theorem length_pathsOf (t : List (String × Value)) :
    (pathsOf t).length = t.length + ((tablesIn t).map List.length).sum := by
  cases t with
  | nil => rfl
  | cons e es =>
    obtain ⟨k, v⟩ := e
    have hbelow := length_pathsBelow v
    have hrest := length_pathsOf es
    rw [pathsOf, tablesIn]
    simp only [List.length_append, List.length_cons, List.length_map, List.map_append,
      List.sum_append, hbelow, hrest]
    omega

end

/-! ## Collecting along one path -/

/-- The path of the table that is being looked at, and the paths found so far in their order. -/
structure Collection where
  here : Path := []
  found : List (Path × Unit) := []

namespace Collection

def enter (key : String) (c : Collection) : Collection := { c with here := c.here ++ [key] }

def record (c : Collection) : Collection := { c with found := Sorted.put c.here () c.found }

def leave (c : Collection) : Collection := { c with here := c.here.dropLast }

/-- With these paths below the present one. -/
def add (c : Collection) (paths : List Path) : Collection :=
  { c with found := paths.foldl (fun found path => Sorted.put (c.here ++ path) () found) c.found }

theorem add_append (c : Collection) (paths more : List Path) :
    c.add (paths ++ more) = (c.add paths).add more := by
  unfold add
  rw [List.foldl_append]

/-- A key, what is below it, and back again. -/
theorem leave_add_record_enter (c : Collection) (key : String) (paths : List Path) :
    ((c.enter key).record.add paths).leave = c.add ([key] :: paths.map (key :: ·)) := by
  unfold enter record add leave
  simp [List.foldl_map]

end Collection

mutual

/-- Collects the keys of a value that is a table. -/
def collectBelow : Value → StateM Collection Unit
  | .table es => collect es
  | _ => pure ()

/-- Collects the keys of a table and of the tables in it. -/
def collect : List (String × Value) → StateM Collection Unit
  | [] => pure ()
  | (k, v) :: es => do
    modify (·.enter k)
    modify (·.record)
    collectBelow v
    modify (·.leave)
    collect es

end

mutual

theorem run_collectBelow (v : Value) (c : Collection) :
    (collectBelow v).run c = ((), c.add (pathsBelow v)) := by
  cases v with
  | scalar s => rfl
  | list items => rfl
  | table es => exact run_collect es c

theorem run_collect (t : List (String × Value)) (c : Collection) :
    (collect t).run c = ((), c.add (pathsOf t)) := by
  cases t with
  | nil => rfl
  | cons e es =>
    obtain ⟨k, v⟩ := e
    have hbelow := run_collectBelow v (c.enter k).record
    rw [collect, pathsOf, Collection.add_append, ← Collection.leave_add_record_enter]
    simp only [StateT.run_bind, StateT.run_modify, pure_bind, hbelow]
    exact run_collect es _

end

namespace Presence

/-- Paths that are found in their order are listed as they were found. -/
theorem found_add {paths : List Path} (h : paths.Pairwise (· < ·)) :
    (({} : Collection).add paths).found = paths.map fun path => (path, ()) := by
  have hnodup : paths.Nodup := by
    refine h.imp ?_
    rintro path _ hlt rfl
    exact Std.Irrefl.irrefl (r := (· < ·)) _ hlt
  have hperm := Sorted.perm_foldl_put (fun path : Path => [] ++ path) (fun _ => ()) paths []
    (by simpa using hnodup)
  have hfound := Sorted.increasing_foldl_put (fun path : Path => [] ++ path) (fun _ => ()) paths []
    .nil
  have hpaths : Sorted.Increasing (paths.map fun path => (path, ())) := by
    unfold Sorted.Increasing
    simpa [Function.comp_def] using h
  exact Sorted.eq_of_perm hfound hpaths hperm

theorem mem_paths_iff {t : Table} (ht : t.Sorted) {path : Path} :
    path ∈ (ofTable t).paths ↔ t.Contains path :=
  mem_pathsOf_iff ht

/-- A path is recorded just if it leads through tables to a key, so that nothing in an array is, and
with a path everything that leads to it. Each path is recorded once, in byte order, and there are
as many as entries. Collecting them takes the path that it goes along back to where it was, and
finds the same ones. -/
theorem the_keys_of_all_tables_are_recorded {t : Table} (ht : t.Sorted) :
    (∀ path, path ∈ (ofTable t).paths ↔ path ≠ [] ∧
      (∀ above, above <+: path → above ≠ path → ∃ es, t.tableAt? above = some es) ∧
      ∀ outer key, path = outer ++ [key] →
        ∃ es v, t.tableAt? outer = some es ∧ Toml.Table.get? es key = some v) ∧
    (∀ outer key es items rest, t.tableAt? outer = some es →
      Toml.Table.get? es key = some (.list items) →
      outer ++ key :: rest ∈ (ofTable t).paths → rest = []) ∧
    (∀ path ∈ (ofTable t).paths, ∀ above, above <+: path → above ≠ [] →
      above ∈ (ofTable t).paths) ∧
    ((ofTable t).paths.map (·.map Text.bytes)).Pairwise (· < ·) ∧
    (ofTable t).size = t.entryCount ∧
    (∀ (es : Table) (c : Collection), ((collect es).run c).2.here = c.here) ∧
    ((collect t).run {}).2.found.map (·.1) = (ofTable t).paths := by
  have hpairwise : (pathsOf t).Pairwise (· < ·) := pairwise_pathsOf t ht.1 ht.2
  refine ⟨?_, ?_, ?_, ?_, ?_, ?_, ?_⟩
  · intro path
    rw [mem_paths_iff ht]
    exact Toml.Table.contains_iff
  · intro outer key es items rest hat hkey hmem
    by_contra hrest
    refine Toml.Table.not_contains_behind hat ?_ hrest ((mem_paths_iff ht).1 hmem)
    intro inner hinner
    rw [hkey] at hinner
    cases hinner
  · intro path hmem above hleads hne
    exact (mem_paths_iff ht).2 (((mem_paths_iff ht).1 hmem).above hleads hne)
  · exact List.pairwise_map.2 (hpairwise.imp Text.map_bytes_lt)
  · unfold Toml.Table.entryCount
    rw [List.map_cons, List.sum_cons]
    exact length_pathsOf t
  · intro es c
    rw [run_collect]
    rfl
  · rw [run_collect, found_add hpairwise, List.map_map]
    exact List.map_id _

def listedTable : Table := [
  ("A", .list [.table [("x", .scalar (.flag true))]]),
  ("B", .table [("", .scalar (.integer 1)), ("x", .table [])])]

/-- The table in the array counts for nothing, the empty one has only its own key. -/
theorem a_table_in_an_array_is_not_recorded : listedTable.Sorted ∧
    (ofTable listedTable).size = 4 ∧ ["B", "x"] ∈ (ofTable listedTable).paths ∧
    ["A", "x"] ∉ (ofTable listedTable).paths := by
  have hsorted : listedTable.Sorted := by decide
  obtain ⟨-, harrays, habove, -, hcount, -⟩ := the_keys_of_all_tables_are_recorded hsorted
  refine ⟨hsorted, hcount, by decide, ?_⟩
  intro hmem
  exact absurd (harrays [] "A" _ _ ["x"] rfl rfl hmem) (by simp)

end Presence

end NodeSettings
