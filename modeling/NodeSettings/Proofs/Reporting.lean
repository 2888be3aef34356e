-- Which unknown paths are reported: the outermost ones, in the order of their
-- segments. What is unknown below another unknown path is left out.
import NodeSettings.Proofs.Contents

namespace NodeSettings

open Toml (Value Table)

/-! ## The order of recorded paths -/

mutual

theorem pairwise_pathsBelow : ∀ {v : Value}, v.Sorted → (pathsBelow v).Pairwise (· < ·)
  | .scalar _, _ => .nil
  | .list _, _ => .nil
  | .table es, h => pairwise_pathsOf es h.1 h.2

/-- A path comes before what is below it, and that before the next key. -/
theorem pairwise_pathsOf : ∀ es : List (String × Value), Sorted.Increasing es →
    Toml.EntriesSorted es → (pathsOf es).Pairwise (· < ·)
  | [], _, _ => .nil
  | (k, v) :: es, hincreasing, hsorted => by
    obtain ⟨habove, hincreasing⟩ := List.pairwise_cons.1 hincreasing
    have hbelow := pairwise_pathsBelow hsorted.1
    have hrest := pairwise_pathsOf es hincreasing hsorted.2
    have hlater : ∀ q, ∀ path ∈ pathsOf es, k :: q < path := by
      intro q path hpath
      obtain _ | ⟨k', q'⟩ := path
      · exact absurd hpath (nil_not_mem_pathsOf es)
      obtain ⟨v', hmem, -⟩ := mem_pathsOf_cons.1 hpath
      exact List.cons_lt_cons_iff.2 (.inl (habove k' (List.mem_map_of_mem hmem)))
    rw [pathsOf, List.cons_append, List.pairwise_cons, List.pairwise_append, List.pairwise_map]
    refine ⟨?_, ?_, hrest, ?_⟩
    · intro path hpath
      rcases List.mem_append.1 hpath with hpath | hpath
      · obtain ⟨q, hq, rfl⟩ := List.mem_map.1 hpath
        obtain ⟨es', rfl, hq⟩ := mem_pathsBelow.1 hq
        refine List.cons_lt_cons_iff.2 (.inr ⟨rfl, ?_⟩)
        cases q with
        | nil => exact absurd hq (nil_not_mem_pathsOf es')
        | cons s q => exact List.nil_lt_cons s q
      · exact hlater [] path hpath
    · exact hbelow.imp fun h => List.cons_lt_cons_iff.2 (.inr ⟨rfl, h⟩)
    · intro path hpath path' hpath'
      obtain ⟨q, -, rfl⟩ := List.mem_map.1 hpath
      exact hlater q path' hpath'

end

namespace Toml.Table

/-- What leads to a contained path is contained. -/
theorem Contains.above {t : Table} {path above : Path} (h : t.Contains path)
    (hleads : above <+: path) (hne : above ≠ []) : t.Contains above := by
  induction h generalizing above with
  | @key t k v hk =>
    obtain _ | ⟨s, above⟩ := above
    · exact absurd rfl hne
    obtain ⟨rfl, hrest⟩ := List.cons_prefix_cons.1 hleads
    rw [List.prefix_nil.1 hrest]
    exact .key hk
  | @inside t es k path hk hpath ih =>
    obtain _ | ⟨s, above⟩ := above
    · exact absurd rfl hne
    obtain ⟨rfl, hrest⟩ := List.cons_prefix_cons.1 hleads
    by_cases habove : above = []
    · rw [habove]
      exact .key hk
    · exact .inside hk (ih hrest habove)

end Toml.Table

namespace Presence

/-! ## What is recorded -/

/-- The paths of a table, or of no document at all. -/
inductive Recorded : Presence → Prop
  | empty : Recorded .empty
  | table {t : Table} : t.Sorted → Recorded (.ofTable t)

variable {p known : Presence} {path above : Path}

theorem defines_iff_mem : p.defines path = true ↔ path ∈ p.paths := List.contains_iff_mem

namespace Recorded

theorem pairwise (hp : p.Recorded) : p.paths.Pairwise (· < ·) := by
  cases hp with
  | empty => exact .nil
  | table ht => exact pairwise_pathsOf _ ht.1 ht.2

theorem ne_nil (hp : p.Recorded) (h : p.defines path = true) : path ≠ [] := by
  cases hp with
  | empty => cases h
  | table ht => exact ((defines_ofTable ht).1 h).ne_nil

theorem defines_above (hp : p.Recorded) (h : p.defines path = true) (hleads : above <+: path)
    (hne : above ≠ []) : p.defines above = true := by
  cases hp with
  | empty => cases h
  | table ht => exact (defines_ofTable ht).2 (((defines_ofTable ht).1 h).above hleads hne)

end Recorded

/-! ## What is reported -/

/-- The path is there and not known. -/
def Unknown (p known : Presence) (path : Path) : Prop :=
  p.defines path = true ∧ known.defines path = false

/-- The path is unknown, and nothing that leads to it is. -/
structure Outermost (p known : Presence) (path : Path) : Prop where
  unknown : p.Unknown known path
  outer : ∀ above, above <+: path → above ≠ path → ¬ p.Unknown known above

/-- What is kept on the way is what was kept before, then unknown paths in the order in which they
are seen, and none that is below an earlier one. -/
theorem outermost_eq_append {kept seen : List Path}
    (hkept : kept.Pairwise fun above path => ¬ above <+: path) :
    ∃ more, outermost known kept seen = kept ++ more ∧ more.Sublist seen ∧
      (∀ path ∈ more, known.defines path = false) ∧
      (kept ++ more).Pairwise fun above path => ¬ above <+: path := by
  induction seen generalizing kept with
  | nil => exact ⟨[], (List.append_nil kept).symm, .slnil, by simp, by simpa using hkept⟩
  | cons path seen ih =>
    rw [outermost]
    split
    · obtain ⟨more, heq, hsub, hunknown, hpairwise⟩ := ih hkept
      exact ⟨more, heq, hsub.cons _, hunknown, hpairwise⟩
    rename_i hnew
    rw [Bool.or_eq_true, not_or, Bool.not_eq_true, List.any_eq_true] at hnew
    obtain ⟨hpath, hfree⟩ := hnew
    have hkept' : (kept ++ [path]).Pairwise fun above path => ¬ above <+: path := by
      rw [List.pairwise_append]
      refine ⟨hkept, List.pairwise_singleton _ _, ?_⟩
      intro above habove path' hpath' hleads
      rw [List.mem_singleton.1 hpath'] at hleads
      exact hfree ⟨above, habove, List.isPrefixOf_iff_prefix.2 hleads⟩
    obtain ⟨more, heq, hsub, hunknown, hpairwise⟩ := ih hkept'
    rw [List.append_assoc, List.singleton_append] at heq hpairwise
    exact ⟨path :: more, heq, hsub.cons_cons _, List.forall_mem_cons.2 ⟨hpath, hunknown⟩, hpairwise⟩

theorem unknownPaths_spec (p known : Presence) : (p.unknownPaths known).Sublist p.paths ∧
    (∀ path ∈ p.unknownPaths known, p.Unknown known path) ∧
    (p.unknownPaths known).Pairwise fun above path => ¬ above <+: path := by
  obtain ⟨more, heq, hsub, hunknown, hpairwise⟩ :=
    @outermost_eq_append known [] p.paths .nil
  have hpaths : p.unknownPaths known = more := heq
  rw [hpaths]
  exact ⟨hsub, fun path hpath => ⟨defines_iff_mem.2 (hsub.subset hpath), hunknown path hpath⟩,
    hpairwise⟩

theorem exists_reported (h : p.Unknown known path) :
    ∃ above ∈ p.unknownPaths known, above <+: path :=
  exists_outermost (.inr ⟨defines_iff_mem.1 h.1, h.2⟩)

theorem Recorded.pairwise_unknownPaths (hp : p.Recorded) :
    (p.unknownPaths known).Pairwise (· < ·) :=
  hp.pairwise.sublist (unknownPaths_spec p known).1

/-- Neither of the paths is below the other. -/
def Apart (path path' : Path) : Prop :=
  (path <+: path' → path = path') ∧ (path' <+: path → path' = path)

instance : Std.Symm Apart := ⟨fun _ _ h => ⟨h.2, h.1⟩⟩

theorem apart_self (path : Path) : Apart path path := ⟨fun _ => rfl, fun _ => rfl⟩

/-- No reported path is below another one. It is not below an earlier one by the way the report is
made, nor below a later one, since that would have been seen first. -/
theorem Recorded.pairwise_apart (hp : p.Recorded) : (p.unknownPaths known).Pairwise Apart := by
  refine (hp.pairwise_unknownPaths.and (unknownPaths_spec p known).2.2).imp ?_
  rintro path path' ⟨hlt, hfree⟩
  exact ⟨fun h => absurd h hfree, fun h => absurd hlt h.le⟩

theorem Recorded.eq_of_above (hp : p.Recorded) (habove : above ∈ p.unknownPaths known)
    (hpath : path ∈ p.unknownPaths known) (hleads : above <+: path) : above = path :=
  (hp.pairwise_apart.forall_of_forall (fun path _ => apart_self path) habove hpath).1 hleads

theorem Recorded.mem_unknownPaths_iff (hp : p.Recorded) :
    path ∈ p.unknownPaths known ↔ Outermost p known path := by
  have hunknown := (unknownPaths_spec p known).2.1
  constructor
  · intro hpath
    refine ⟨hunknown path hpath, ?_⟩
    intro above hleads hne habove
    -- What is reported for the path above is also above this one, so it is this one.
    obtain ⟨q, hq, hqabove⟩ := exists_reported habove
    have heq := hp.eq_of_above hq hpath (hqabove.trans hleads)
    rw [heq] at hqabove
    exact hne (hleads.eq_of_length_le hqabove.length_le)
  · intro h
    obtain ⟨q, hq, hleads⟩ := exists_reported h.unknown
    by_cases heq : q = path
    · rwa [← heq]
    · exact absurd (hunknown q hq) (h.outer q hleads heq)

/-- What leads to an outermost path is known. -/
theorem Outermost.parent (hp : p.Recorded) (h : Outermost p known path) :
    path.length = 1 ∨ known.defines path.dropLast = true := by
  have hne := hp.ne_nil h.unknown.1
  rcases Nat.lt_or_ge 1 path.length with hlong | hshort
  · refine .inr ?_
    have hparent : path.dropLast ≠ [] := by
      rw [← List.length_pos_iff, List.length_dropLast]
      omega
    have hproper : path.dropLast ≠ path := by
      intro heq
      have hlength := congrArg List.length heq
      rw [List.length_dropLast] at hlength
      omega
    have hleads : path.dropLast <+: path := List.dropLast_prefix path
    have hdefined := hp.defines_above h.unknown.1 hleads hparent
    have houter := h.outer _ hleads hproper
    rw [← Bool.not_eq_false]
    exact fun hunknown => houter ⟨hdefined, hunknown⟩
  · have hpos := List.length_pos_iff.2 hne
    exact .inl (by omega)

/-- The report of unknown keys has the outermost unknown paths in increasing order, so that none
comes twice, each by its dotted name. Every unknown path is at or below just one of them, and what
leads to a reported path is known. Nothing is reported just if every path is known. -/
theorem the_outermost_unknown_paths_are_reported (hp : p.Recorded) (known : Presence) :
    ∃ paths : List Path, p.unknown known = paths.map dotted ∧ paths.Pairwise (· < ·) ∧
      (∀ path, path ∈ paths ↔ Outermost p known path) ∧
      (∀ path, p.Unknown known path → ∃! above, above ∈ paths ∧ above <+: path) ∧
      (∀ path ∈ paths, path.length = 1 ∨ known.defines path.dropLast = true) ∧
      (p.unknown known = [] ↔ ∀ path, p.defines path = true → known.defines path = true) := by
  refine ⟨p.unknownPaths known, rfl, hp.pairwise_unknownPaths, fun path => hp.mem_unknownPaths_iff,
    ?_, fun path hpath => (hp.mem_unknownPaths_iff.1 hpath).parent hp, unknown_eq_nil_iff⟩
  intro path hpath
  obtain ⟨above, habove, hleads⟩ := exists_reported hpath
  refine ⟨above, ⟨habove, hleads⟩, ?_⟩
  rintro above' ⟨habove', hleads'⟩
  rcases List.prefix_or_prefix_of_prefix hleads' hleads with h | h
  · exact hp.eq_of_above habove' habove h
  · exact (hp.eq_of_above habove habove' h).symm

def nestedTable : Table := [
  ("A", .table [
    ("x", .scalar (.flag true)),
    ("y", .table [("x", .list []), ("z", .scalar (.integer 1))])]),
  ("AB", .table [("x", .table [])]),
  ("B", .scalar (.text "A.x"))]

/-- What is below the known `A` is reported key by key, `AB` as a whole. -/
theorem nested_keys_are_reported_as_one : nestedTable.Sorted ∧ ∃ paths : List Path,
    (ofTable nestedTable).unknown (ofTable [("A", .scalar (.integer 1)), ("B", .table [])]) =
      paths.map dotted ∧
    paths.map dotted = ["A.x", "A.y", "AB"] ∧ paths.Pairwise (· < ·) ∧
    ∀ path, (ofTable nestedTable).Unknown
        (ofTable [("A", .scalar (.integer 1)), ("B", .table [])]) path →
      ∃! above, above ∈ paths ∧ above <+: path := by
  have hsorted : nestedTable.Sorted := by decide
  obtain ⟨paths, hreport, hincreasing, -, hunique, -⟩ :=
    the_outermost_unknown_paths_are_reported (.table hsorted)
      (ofTable [("A", .scalar (.integer 1)), ("B", .table [])])
  refine ⟨hsorted, paths, hreport, ?_, hincreasing, hunique⟩
  rw [← hreport]
  decide

end Presence

end NodeSettings
