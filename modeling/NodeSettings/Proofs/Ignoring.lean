-- What settings make of a table is told by its known part alone: the known
-- keys of known sections. Two documents with one known part load alike.
import NodeSettings.Proofs.Fitting
import NodeSettings.Proofs.Loading

namespace NodeSettings

open Toml (Value Table)

/-! ## A part of some entries -/

namespace Sorted

variable {κ α : Type}

/-- The entries that are kept, each with what is kept of its value. -/
def restrict (keep : κ → α → Option α) (es : List (κ × α)) : List (κ × α) :=
  es.filterMap fun e => (keep e.1 e.2).map (e.1, ·)

variable {keep : κ → α → Option α}

theorem mem_restrict {key : κ} {b : α} {es : List (κ × α)} :
    (key, b) ∈ restrict keep es ↔ ∃ a, (key, a) ∈ es ∧ keep key a = some b := by
  unfold restrict
  rw [List.mem_filterMap]
  constructor
  · rintro ⟨⟨k, a⟩, hmem, hkeep⟩
    obtain ⟨b', hkeep, hpair⟩ := Option.map_eq_some_iff.1 hkeep
    cases hpair
    exact ⟨a, hmem, hkeep⟩
  · rintro ⟨a, hmem, hkeep⟩
    exact ⟨(key, a), hmem, by simp [hkeep]⟩

/-- A run over entries is one over a part of them, if it passes over those that are not kept and
looks at no more of the others than is kept. -/
theorem foldlM_restrict {ε σ : Type} {step : σ → κ × α → Except ε σ}
    (h : ∀ c k a, step c (k, a) = (match keep k a with
      | none => .ok c
      | some b => step c (k, b)))
    (es : List (κ × α)) (c : σ) : (restrict keep es).foldlM step c = es.foldlM step c := by
  induction es generalizing c with
  | nil => rfl
  | cons e es ih =>
    obtain ⟨k, a⟩ := e
    unfold restrict at ih ⊢
    rw [List.filterMap_cons, List.foldlM_cons, h c k a]
    dsimp only
    cases keep k a with
    | none => exact ih c
    | some b =>
      rw [Option.map_some, List.foldlM_cons]
      simp only [ih]

variable [LT κ]

theorem increasing_restrict {es : List (κ × α)} (h : Increasing es) :
    Increasing (restrict keep es) := by
  unfold Increasing restrict at *
  rw [List.map_filterMap]
  refine List.Pairwise.sublist ?_ h
  induction es with
  | nil => exact .slnil
  | cons e es ih =>
    rw [List.filterMap_cons, List.map_cons]
    cases keep e.1 e.2 with
    | none => exact (ih (List.Pairwise.of_cons h)).cons _
    | some b => exact (ih (List.Pairwise.of_cons h)).cons_cons _

variable [Std.Irrefl (α := κ) (· < ·)] [BEq κ] [LawfulBEq κ]

theorem lookup_restrict {key : κ} {es : List (κ × α)} (h : Increasing es) :
    (restrict keep es).lookup key = (es.lookup key).bind (keep key) := by
  refine Option.ext fun b => ?_
  rw [lookup_iff_mem (nodup_of_increasing (increasing_restrict h)), mem_restrict,
    Option.bind_eq_some_iff]
  simp only [lookup_iff_mem (nodup_of_increasing h)]

/-- Entries in the order of their keys are told by looking keys up. -/
theorem ext_lookup [Std.Asymm (α := κ) (· < ·)] {es es' : List (κ × α)} (h : Increasing es)
    (h' : Increasing es') (hlookup : ∀ key, es.lookup key = es'.lookup key) : es = es' := by
  have hn := nodup_of_increasing h
  have hn' := nodup_of_increasing h'
  refine eq_of_perm h h' ?_
  rw [List.perm_ext_iff_of_nodup (List.Nodup.of_map _ hn) (List.Nodup.of_map _ hn')]
  rintro ⟨key, a⟩
  rw [← lookup_iff_mem hn, ← lookup_iff_mem hn', hlookup]

end Sorted

/-! ## The known part -/

/-- The entry of a section if it is under one of its keys. -/
def Section.keepKey (s : Section) (name : String) (v : Value) : Option Value :=
  (s.key? name).map fun _ => v

/-- What a section may look at: the known keys of a table, and all of any other value. -/
def Section.knownPart (s : Section) : Value → Value
  | .table es => .table (Sorted.restrict s.keepKey es)
  | v => v

/-- The known part of an entry if it is a section. -/
def keepSection (name : String) (v : Value) : Option Value :=
  (Section.ofName? name).map fun s => s.knownPart v

def knownPart (t : Table) : Table := Sorted.restrict keepSection t

namespace Settings

theorem takeEntries_knownPart (s : Section) (c : Settings) (es : Table) :
    takeEntries s c (Sorted.restrict s.keepKey es) = takeEntries s c es := by
  rw [takeEntries_eq_foldlM, takeEntries_eq_foldlM]
  refine Sorted.foldlM_restrict (fun c name v => ?_) es c
  unfold Section.keepKey takeEntry
  cases hkey : s.key? name <;> simp [hkey]

theorem takeSection_knownPart (s : Section) (c : Settings) (v : Value) :
    c.takeSection s (s.knownPart v) = c.takeSection s v := by
  cases v with
  | scalar a => rfl
  | list vs => rfl
  | table es => exact takeEntries_knownPart s c es

/-- Settings are told by the known part of their table. -/
theorem ofTable_knownPart (t : Table) : ofTable (knownPart t) = ofTable t := by
  unfold ofTable
  rw [takeSections_eq_foldlM, takeSections_eq_foldlM]
  refine Sorted.foldlM_restrict (fun c name v => ?_) t ({} : Settings)
  unfold keepSection takeNamed
  cases hsection : Section.ofName? name with
  | none => rfl
  | some s => simp [hsection, takeSection_knownPart]

end Settings

/-! ## Tables with one known part -/

/-- What two tables have for a section: the same, or tables with the same under each of its keys. -/
inductive Section.Same (s : Section) : Option Value → Option Value → Prop
  | value (v : Option Value) : Same s v v
  | tables {es es' : Table} : (∀ k : Key, k.home = s → es.get? k.name = es'.get? k.name) →
      Same s (some (.table es)) (some (.table es'))

/-- The tables differ only in what is under unknown names and, in sections, under unknown keys. -/
def SameKnown (t t' : Table) : Prop := ∀ s : Section, s.Same (t.get? s.name) (t'.get? s.name)

variable {t t' : Table}

theorem Section.Same.knownPart {s : Section} {v v' : Option Value} (h : s.Same v v')
    (hv : ∀ w, v = some w → w.Sorted) (hv' : ∀ w, v' = some w → w.Sorted) :
    v.map s.knownPart = v'.map s.knownPart := by
  cases h with
  | value => rfl
  | @tables es es' hkeys =>
    have hes := (hv _ rfl).1
    have hes' := (hv' _ rfl).1
    have hpart : Sorted.restrict s.keepKey es = Sorted.restrict s.keepKey es' := by
      refine Sorted.ext_lookup (Sorted.increasing_restrict hes) (Sorted.increasing_restrict hes')
        fun name => ?_
      rw [Sorted.lookup_restrict hes, Sorted.lookup_restrict hes']
      unfold Section.keepKey
      cases hkey : s.key? name with
      | none => simp
      | some k =>
        obtain ⟨hhome, rfl⟩ := Section.key?_eq_some_iff.1 hkey
        exact congrArg (Option.bind · _) (hkeys k hhome)
    exact congrArg (fun part => some (Value.table part)) hpart

theorem sorted_of_get? (ht : t.Sorted) {name : String} {v : Value} (h : t.get? name = some v) :
    v.Sorted :=
  Toml.entriesSorted_iff.1 ht.2 _ (ht.get?_iff.1 h)

theorem SameKnown.knownPart (h : SameKnown t t') (ht : t.Sorted) (ht' : t'.Sorted) :
    knownPart t = knownPart t' := by
  unfold NodeSettings.knownPart
  refine Sorted.ext_lookup (Sorted.increasing_restrict ht.1) (Sorted.increasing_restrict ht'.1)
    fun name => ?_
  rw [Sorted.lookup_restrict ht.1, Sorted.lookup_restrict ht'.1]
  unfold keepSection
  cases hsection : Section.ofName? name with
  | none => simp
  | some s =>
    obtain rfl := Section.ofName?_eq_some_iff.1 hsection
    have hsame := (h s).knownPart (fun _ hw => sorted_of_get? ht hw)
      (fun _ hw => sorted_of_get? ht' hw)
    simpa [Table.get?, Option.map_eq_bind] using hsame

theorem SameKnown.ofTable (h : SameKnown t t') (ht : t.Sorted) (ht' : t'.Sorted) :
    Settings.ofTable t = Settings.ofTable t' := by
  rw [← Settings.ofTable_knownPart t, ← Settings.ofTable_knownPart t', h.knownPart ht ht']

/-! ## Required fields -/

theorem Section.Same.symm {s : Section} {v v' : Option Value} (h : s.Same v v') : s.Same v' v := by
  cases h with
  | value => exact .value v
  | tables hkeys => exact .tables fun k hk => (hkeys k hk).symm

theorem SameKnown.symm (h : SameKnown t t') : SameKnown t' t := fun s => (h s).symm

theorem SameKnown.contains_section (h : SameKnown t t') {s : Section} (hs : t.Contains [s.name]) :
    t'.Contains [s.name] := by
  rw [Table.contains_key] at hs ⊢
  obtain ⟨v, hv⟩ := hs
  have hsame := h s
  rw [hv] at hsame
  cases hv' : t'.get? s.name with
  | none =>
    rw [hv'] at hsame
    cases hsame
  | some v' => exact ⟨v', rfl⟩

theorem SameKnown.contains_key (h : SameKnown t t') {k : Key}
    (hk : t.Contains [k.home.name, k.name]) : t'.Contains [k.home.name, k.name] := by
  rw [Table.contains_inside (by simp)] at hk ⊢
  obtain ⟨es, hes, hk⟩ := hk
  have hsame := h k.home
  rw [hes] at hsame
  generalize hv' : t'.get? k.home.name = v' at hsame
  cases hsame with
  | value => exact ⟨es, rfl, hk⟩
  | tables hkeys =>
    refine ⟨_, rfl, ?_⟩
    rw [Table.contains_key] at hk ⊢
    rwa [← hkeys k rfl]

/-- Every required field is a section or one of its keys. -/
theorem Mode.required_cases (mode : Mode) {f : FieldPath} (hf : f ∈ mode.required) :
    (∃ s : Section, f.segments = [s.name]) ∨ ∃ k : Key, f.segments = [k.home.name, k.name] := by
  unfold FieldPath.segments
  cases hkey : f.key? with
  | none =>
    have hknown : ∀ f ∈ mode.required, (Section.ofName? f.head).isSome := by
      cases mode <;> decide
    obtain ⟨s, hs⟩ := Option.isSome_iff_exists.1 (hknown f hf)
    exact .inl ⟨s, by rw [Section.ofName?_eq_some_iff.1 hs]⟩
  | some name =>
    obtain ⟨k, hhead, rfl⟩ := Mode.required_known mode f hf name hkey
    exact .inr ⟨k, by rw [hhead]⟩

theorem SameKnown.contains (h : SameKnown t t') (mode : Mode) {f : FieldPath}
    (hf : f ∈ mode.required) : t.Contains f.segments ↔ t'.Contains f.segments := by
  rcases Mode.required_cases mode hf with ⟨s, hs⟩ | ⟨k, hk⟩
  · rw [hs]
    exact ⟨h.contains_section, h.symm.contains_section⟩
  · rw [hk]
    exact ⟨h.contains_key, h.symm.contains_key⟩

theorem SameKnown.missing? (h : SameKnown t t') (ht : t.Sorted) (ht' : t'.Sorted) (mode : Mode) :
    (Presence.ofTable t).missing? mode = (Presence.ofTable t').missing? mode := by
  unfold Presence.missing?
  rw [List.find?_congr]
  intro f hf
  have hcontains := h.contains mode hf
  rw [← Presence.defines_ofTable ht, ← Presence.defines_ofTable ht', ← Bool.eq_iff_iff] at hcontains
  rw [hcontains]

/-! ## Loading -/

namespace Repository

open Files (Disk)

/-- The file under a path is a document with this table. -/
def IsDocument (d : Disk) (path : String) (t : Table) : Prop :=
  ∃ text, textAt d path = .ok text ∧ Toml.readTable text = some t

/-- Loading two files has ended alike: with the same settings, the same misfit or the same missing
field. -/
inductive Alike : Except Fault Store → Except Fault Store → Prop
  | loaded {root root' : String} {mode : Mode} {c : Settings} {p p' : Presence} :
      Alike (.ok ⟨root, mode, c, p⟩) (.ok ⟨root', mode, c, p'⟩)
  | misfit {path path' : String} {m : Misfit} :
      Alike (.error (.parse path (.misfit m))) (.error (.parse path' (.misfit m)))
  | missing {path path' : String} {missing : MissingField} :
      Alike (.error (.validation path missing)) (.error (.validation path' missing))

/-- What loading makes of a document is told by its table. -/
theorem storeAt_document {d : Disk} {root : String} {t : Table} (mode : Mode)
    (h : IsDocument d (settingsPath root) t) : storeAt d root mode =
      match Settings.ofTable t with
      | .error m => .error (.parse (settingsPath root) (.misfit m))
      | .ok c =>
        match (Presence.ofTable t).missing? mode with
        | some missing => .error (.validation (settingsPath root) missing)
        | none => .ok ⟨root, mode, c, .ofTable t⟩ := by
  obtain ⟨text, htext, ht⟩ := h
  unfold storeAt
  rw [settingsAt_eq, htext]
  unfold Settings.decode
  simp only [ht]
  cases Settings.ofTable t <;> rfl

theorem alike_of_sameKnown {t t' : Table} (h : SameKnown t t') (ht : t.Sorted) (ht' : t'.Sorted)
    {d d' : Disk} {root root' : String} (mode : Mode) (hd : IsDocument d (settingsPath root) t)
    (hd' : IsDocument d' (settingsPath root') t') :
    Alike (storeAt d root mode) (storeAt d' root' mode) := by
  rw [storeAt_document mode hd, storeAt_document mode hd', h.ofTable ht ht', h.missing? ht ht' mode]
  cases Settings.ofTable t' with
  | error m => exact .misfit
  | ok c =>
    dsimp only
    cases (Presence.ofTable t').missing? mode with
    | some missing => exact .missing
    | none => exact .loaded

/-- What is under unknown names and unknown keys makes no difference: not to the settings of a table
or to its first misfit, not to the first missing field in any mode, and so not to loading. -/
theorem unknown_keys_make_no_difference {t t' : Table} (ht : t.Sorted) (ht' : t'.Sorted)
    (h : SameKnown t t') :
    Settings.ofTable t = Settings.ofTable t' ∧
    (∀ mode, (Presence.ofTable t).missing? mode = (Presence.ofTable t').missing? mode) ∧
    ∀ d d' root root' mode, IsDocument d (settingsPath root) t →
      IsDocument d' (settingsPath root') t' →
      ∃ outcome lines outcome' lines',
        (load (m := StateM Disk) root mode).outcome.run d = ((outcome, lines), d) ∧
        (load (m := StateM Disk) root' mode).outcome.run d' = ((outcome', lines'), d') ∧
        Alike outcome outcome' := by
  refine ⟨h.ofTable ht ht', h.missing? ht ht', ?_⟩
  intro d d' root root' mode hd hd'
  exact ⟨_, _, _, _, (ends_load_storeAt root mode d).outcome_eq,
    (ends_load_storeAt root' mode d').outcome_eq, alike_of_sameKnown h ht ht' mode hd hd'⟩

/-! ## Two documents -/

/-- A repository with nothing but this document. -/
def holding (text : String) : Disk where
  entries := [
    (["repo"], .directory),
    (["repo", "config.toml"], .file text.toUTF8)]
  working := []
  increasing := by
    change List.Pairwise (· < ·) [["repo"], ["repo", "config.toml"]]
    decide

theorem textAt_holding (text : String) :
    textAt (holding text) (settingsPath "repo") = .ok text := by
  have hread : (holding text).read (settingsPath "repo") = .ok text.toUTF8 := rfl
  unfold textAt
  rw [hread]
  simp only [fromUTF8?_toUTF8]

section

open Toml (Layout Compatible)
open Settings (logHeading otherHeading certificate number)

def certificateTable : Table := [("LOG", .table [("CrtFile", .scalar (.text "a"))])]

/-- A second key in the section, and the known one once more in a section of no settings. -/
def paddedTable : Table := [
  ("LOG", .table [("CrtFile", .scalar (.text "a")), ("y", .scalar (.integer 1))]),
  ("X", .table [("CrtFile", .scalar (.text "a"))])]

def certificateLayout : Layout := ⟨[], [.dotted logHeading certificate .feed], []⟩

def paddedLayout : Layout where
  opening := []
  top := []
  blocks := [⟨.none, logHeading, .feed, [(certificate, .feed), (number, .feed)]⟩,
    ⟨.none, otherHeading, .feed, [(certificate, .feed)]⟩]

theorem readTable_certificate : Toml.readTable certificateLayout.text = some certificateTable := by
  have hcompatible : Compatible certificateLayout.parts := ⟨by decide, by decide⟩
  exact (Toml.readTable_layout hcompatible).trans rfl

theorem readTable_padded : Toml.readTable paddedLayout.text = some paddedTable := by
  have hcompatible : Compatible paddedLayout.parts := ⟨by decide, by decide⟩
  exact (Toml.readTable_layout hcompatible).trans rfl

theorem sameKnown_padded : SameKnown certificateTable paddedTable := by
  intro s
  cases s
  case log =>
    refine .tables fun k hk => ?_
    cases k <;> cases hk <;> rfl
  all_goals exact .value none

theorem a_padded_document_loads_alike :
    certificateTable.Sorted ∧ paddedTable.Sorted ∧ SameKnown certificateTable paddedTable ∧
    Settings.ofTable certificateTable = Settings.ofTable paddedTable ∧
    (∀ mode, (Presence.ofTable certificateTable).missing? mode =
      (Presence.ofTable paddedTable).missing? mode) ∧
    ∃ d d' outcome lines outcome' lines',
      IsDocument d (settingsPath "repo") certificateTable ∧
      IsDocument d' (settingsPath "repo") paddedTable ∧
      (load (m := StateM Disk) "repo" .standalone).outcome.run d = ((outcome, lines), d) ∧
      (load (m := StateM Disk) "repo" .standalone).outcome.run d' = ((outcome', lines'), d') ∧
      Alike outcome outcome' := by
  have hshort : IsDocument (holding certificateLayout.text) (settingsPath "repo")
      certificateTable :=
    ⟨_, textAt_holding _, readTable_certificate⟩
  have hpadded : IsDocument (holding paddedLayout.text) (settingsPath "repo") paddedTable :=
    ⟨_, textAt_holding _, readTable_padded⟩
  have hsorted := Toml.sorted_readTable readTable_certificate
  have hsorted' := Toml.sorted_readTable readTable_padded
  obtain ⟨htable, hmissing, hload⟩ :=
    unknown_keys_make_no_difference hsorted hsorted' sameKnown_padded
  obtain ⟨_, _, _, _, hrun, hrun', halike⟩ := hload _ _ _ _ .standalone hshort hpadded
  exact ⟨hsorted, hsorted', sameKnown_padded, htable, hmissing, _, _, _, _, _, _, hshort, hpadded,
    hrun, hrun', halike⟩

end

end Repository

end NodeSettings
