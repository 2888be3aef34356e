-- What loading a repository gives, told by its settings file alone: whether
-- the file is a text, the text a document of settings, and whether that has
-- all that the mode requires. The first of these that fails is reported.
import NodeSettings.Proofs.Lasting

namespace NodeSettings.Repository

open Files (Disk FileError)
open Toml (Table)

variable {root path : String} {mode : Mode} {d : Disk}

/-! ## What is in the file -/

/-- The file under a path as a text, or why it is none. -/
def textAt (d : Disk) (path : String) : Except FileError String :=
  match d.read path with
  | .error e => .error e
  | .ok bytes =>
    match String.fromUTF8? bytes with
    | none => .error .notText
    | some text => .ok text

theorem settingsAt_eq (d : Disk) (path : String) : settingsAt d path =
    match textAt d path with
    | .error e => .error (.io "read" path e)
    | .ok text =>
      match Settings.decode text with
      | .error e => .error (.parse path e)
      | .ok found => .ok found := by
  unfold settingsAt textAt
  cases d.read path with
  | error e => rfl
  | ok bytes =>
    dsimp only
    cases String.fromUTF8? bytes <;> rfl

/-- The file under a path is a document with this table, and the table gives these settings. -/
structure Reads (d : Disk) (path : String) (t : Table) (c : Settings) : Prop where
  document : ∃ text, textAt d path = .ok text ∧ Toml.readTable text = some t
  fits : Settings.ofTable t = .ok c

theorem Reads.sorted {t : Table} {c : Settings} (h : Reads d path t c) : t.Sorted := by
  obtain ⟨text, -, ht⟩ := h.document
  exact Toml.sorted_readTable ht

theorem Reads.unique {t t' : Table} {c c' : Settings} (h : Reads d path t c)
    (h' : Reads d path t' c') : t = t' ∧ c = c' := by
  obtain ⟨⟨text, htext, ht⟩, hc⟩ := h
  obtain ⟨⟨text', htext', ht'⟩, hc'⟩ := h'
  rw [htext] at htext'
  cases htext'
  rw [ht] at ht'
  cases ht'
  rw [hc] at hc'
  cases hc'
  exact ⟨rfl, rfl⟩

theorem decode_ok_iff {text : String} {c : Settings} {p : Presence} :
    Settings.decode text = .ok (c, p) ↔
      ∃ t, Toml.readTable text = some t ∧ Settings.ofTable t = .ok c ∧ p = .ofTable t := by
  constructor
  · intro h
    unfold Settings.decode at h
    cases ht : Toml.readTable text with
    | none => simp [ht] at h
    | some t =>
      cases hc : Settings.ofTable t with
      | error m => simp [ht, hc] at h
      | ok c' =>
        simp only [ht, hc, Except.ok.injEq, Prod.mk.injEq] at h
        obtain ⟨rfl, rfl⟩ := h
        exact ⟨t, rfl, hc, rfl⟩
  · rintro ⟨t, ht, hc, rfl⟩
    exact Settings.decode_of_readTable ht hc

/-- Settings that are read come from a table. -/
theorem settingsAt_ok_iff {c : Settings} {p : Presence} :
    settingsAt d path = .ok (c, p) ↔ ∃ t, Reads d path t c ∧ p = .ofTable t := by
  constructor
  · intro h
    rw [settingsAt_eq] at h
    split at h
    · cases h
    rename_i text htext
    split at h
    · cases h
    rename_i found hdecode
    cases h
    obtain ⟨t, ht, hc, rfl⟩ := decode_ok_iff.1 hdecode
    exact ⟨t, ⟨⟨text, htext, ht⟩, hc⟩, rfl⟩
  · rintro ⟨t, ⟨⟨text, htext, ht⟩, hc⟩, rfl⟩
    rw [settingsAt_eq, htext]
    simp only [Settings.decode_of_readTable ht hc]

/-! ## The first missing field -/

/-- The first field that the mode requires and that the table does not contain. -/
def FirstMissing (t : Table) (mode : Mode) (f : FieldPath) : Prop :=
  ∃ before after, mode.required = before ++ f :: after ∧
    (∀ g ∈ before, t.Contains g.segments) ∧ ¬ t.Contains f.segments

theorem missing?_eq_none {t : Table} (ht : t.Sorted) :
    (Presence.ofTable t).missing? mode = none ↔ ∀ f ∈ mode.required, t.Contains f.segments := by
  rw [Presence.missing?_eq_none_iff]
  simp only [Presence.defines_ofTable ht]

theorem missing?_eq_some {t : Table} (ht : t.Sorted) {missing : MissingField} :
    (Presence.ofTable t).missing? mode = some missing ↔
      missing.mode = mode ∧ FirstMissing t mode missing.path := by
  unfold Presence.missing?
  rw [Option.map_eq_some_iff]
  simp only [List.find?_eq_some_iff_append, Bool.not_eq_true', Bool.not_not,
    Presence.defines_ofTable ht, ← Bool.not_eq_true]
  constructor
  · rintro ⟨f, ⟨hmissing, before, after, hrequired, hbefore⟩, rfl⟩
    exact ⟨rfl, before, after, hrequired, hbefore, hmissing⟩
  · obtain ⟨f, mode'⟩ := missing
    rintro ⟨rfl, before, after, hrequired, hbefore, hmissing⟩
    exact ⟨f, ⟨hmissing, before, after, hrequired, hbefore⟩, rfl⟩

/-- No whole section is checked after a key. -/
theorem pairwise_required (mode : Mode) :
    mode.required.Pairwise fun f g => f.key? ≠ none → g.key? ≠ none := by
  cases mode <;> decide

/-- When a key is reported, all whole sections have been found. -/
theorem FirstMissing.sections {t : Table} {f g : FieldPath} (h : FirstMissing t mode f)
    (hf : f.key? ≠ none) (hg : g ∈ mode.required) (hsection : g.key? = none) :
    t.Contains g.segments := by
  obtain ⟨before, after, hrequired, hbefore, -⟩ := h
  have hpairwise := pairwise_required mode
  rw [hrequired, List.pairwise_append, List.pairwise_cons] at hpairwise
  obtain ⟨-, ⟨hafter, -⟩, -⟩ := hpairwise
  rw [hrequired, List.mem_append, List.mem_cons] at hg
  rcases hg with hg | rfl | hg
  · exact hbefore g hg
  · exact absurd hsection hf
  · exact absurd hsection (hafter g hg hf)

/-! ## The store of a file -/

/-- What loading gives, without the log. -/
def storeAt (d : Disk) (root : String) (mode : Mode) : Except Fault Store :=
  match settingsAt d (settingsPath root) with
  | .error e => .error e
  | .ok (c, p) =>
    match p.missing? mode with
    | some missing => .error (.validation (settingsPath root) missing)
    | none => .ok ⟨root, mode, c, p⟩

theorem storeAt_io_iff : (∃ e, storeAt d root mode = .error (.io "read" (settingsPath root) e)) ↔
    ¬ ∃ text, textAt d (settingsPath root) = .ok text := by
  unfold storeAt
  rw [settingsAt_eq]
  cases textAt d (settingsPath root) with
  | error e => simp
  | ok text =>
    dsimp only
    cases Settings.decode text with
    | error e => simp
    | ok found => cases hm : found.2.missing? mode <;> simp [hm]

theorem storeAt_parse_iff :
    (∃ e, storeAt d root mode = .error (.parse (settingsPath root) e)) ↔
      (∃ text, textAt d (settingsPath root) = .ok text) ∧
        ¬ ∃ t c, Reads d (settingsPath root) t c := by
  have hreads : (∃ t c, Reads d (settingsPath root) t c) ↔
      ∃ found, settingsAt d (settingsPath root) = .ok found := by
    constructor
    · rintro ⟨t, c, h⟩
      exact ⟨_, settingsAt_ok_iff.2 ⟨t, h, rfl⟩⟩
    · rintro ⟨⟨c, p⟩, h⟩
      obtain ⟨t, h, -⟩ := settingsAt_ok_iff.1 h
      exact ⟨t, c, h⟩
  rw [hreads]
  unfold storeAt
  rw [settingsAt_eq]
  cases textAt d (settingsPath root) with
  | error e => simp
  | ok text =>
    dsimp only
    cases Settings.decode text with
    | error e => simp
    | ok found => cases hm : found.2.missing? mode <;> simp [hm]

/-- Settings that are not read are no matter of missing fields. -/
theorem settingsAt_ne_validation (missing : MissingField) :
    settingsAt d path ≠ .error (.validation path missing) := by
  rw [settingsAt_eq]
  cases textAt d path with
  | error e => simp
  | ok text => cases hdecode : Settings.decode text <;> simp [hdecode]

theorem storeAt_validation_iff {missing : MissingField} :
    storeAt d root mode = .error (.validation (settingsPath root) missing) ↔
      ∃ t c, Reads d (settingsPath root) t c ∧ missing.mode = mode ∧
        FirstMissing t mode missing.path := by
  constructor
  · intro h
    unfold storeAt at h
    split at h
    · rename_i e hat
      cases h
      exact absurd hat (settingsAt_ne_validation missing)
    rename_i c p hat
    obtain ⟨t, hreads, rfl⟩ := settingsAt_ok_iff.1 hat
    split at h
    · rename_i missing' hmissing
      cases h
      exact ⟨t, c, hreads, (missing?_eq_some hreads.sorted).1 hmissing⟩
    · cases h
  · rintro ⟨t, c, hreads, hmissing⟩
    have hat := settingsAt_ok_iff.2 ⟨t, hreads, rfl⟩
    simp only [storeAt, hat, (missing?_eq_some hreads.sorted).2 hmissing]

theorem storeAt_ok_iff {s : Store} : storeAt d root mode = .ok s ↔
    ∃ t c, Reads d (settingsPath root) t c ∧ (∀ f ∈ mode.required, t.Contains f.segments) ∧
      s = ⟨root, mode, c, .ofTable t⟩ := by
  constructor
  · intro h
    unfold storeAt at h
    split at h
    · cases h
    rename_i c p hat
    obtain ⟨t, hreads, rfl⟩ := settingsAt_ok_iff.1 hat
    split at h
    · cases h
    · rename_i hmissing
      cases h
      exact ⟨t, c, hreads, (missing?_eq_none hreads.sorted).1 hmissing, rfl⟩
  · rintro ⟨t, c, hreads, hall, rfl⟩
    have hat := settingsAt_ok_iff.2 ⟨t, hreads, rfl⟩
    simp only [storeAt, hat, (missing?_eq_none hreads.sorted).2 hall]

theorem store_of_reads {s : Store} {t : Table} {c : Settings} (hs : storeAt d root mode = .ok s)
    (hreads : Reads d (settingsPath root) t c) : s = ⟨root, mode, c, .ofTable t⟩ := by
  obtain ⟨t', c', hreads', -, rfl⟩ := storeAt_ok_iff.1 hs
  obtain ⟨rfl, rfl⟩ := hreads.unique hreads'
  rfl

/-- What a node on its own requires is required of one with every service, too. -/
theorem required_standalone_subset :
    ∀ f ∈ Mode.standalone.required, f ∈ Mode.integrated.required := by
  decide

theorem storeAt_standalone {s : Store} (hs : storeAt d root .integrated = .ok s) :
    storeAt d root .standalone = .ok { s with mode := .standalone } := by
  obtain ⟨t, c, hreads, hall, rfl⟩ := storeAt_ok_iff.1 hs
  exact storeAt_ok_iff.2
    ⟨t, c, hreads, fun f hf => hall f (required_standalone_subset f hf), rfl⟩

/-! ## Warnings -/

/-- The warnings among log lines. -/
def warnings (lines : List LogLine) : List LogLine := lines.filter fun l => l.level == .warn

/-- The warning about the unknown keys of a store. -/
def warningOf (s : Store) : LogLine :=
  ⟨.warn, "ignoring unknown keys in " ++ s.path ++ ": " ++ ", ".intercalate s.unknownKeys⟩

/-- What loading adds to the log. -/
def linesAt (d : Disk) (root : String) (mode : Mode) : List LogLine :=
  readingLines (settingsPath root) (settingsAt d (settingsPath root)) ++
    match storeAt d root mode with
    | .ok s => loadingLines root mode s.presence
    | .error _ => []

/-- Loading leaves the disk alone and gives the store of the file. -/
theorem ends_load_storeAt (root : String) (mode : Mode) (d : Disk) :
    Ends (load root mode) d (storeAt d root mode) (linesAt d root mode) d := by
  unfold linesAt storeAt
  cases hat : settingsAt d (settingsPath root) with
  | error e => exact ends_load_unreadable hat
  | ok found =>
    obtain ⟨c, p⟩ := found
    cases hmissing : p.missing? mode with
    | some missing =>
      simp only [hmissing]
      exact ends_load_invalid hat hmissing
    | none =>
      simp only [hmissing]
      exact ends_load hat hmissing

theorem warnings_readingLines (path : String) (found : Except Fault (Settings × Presence)) :
    warnings (readingLines path found) = [] := by
  cases found <;> rfl

/-- Only a store with unknown keys is warned about. -/
theorem warnings_linesAt (d : Disk) (root : String) (mode : Mode) :
    warnings (linesAt d root mode) = match storeAt d root mode with
      | .ok s => if s.unknownKeys = [] then [] else [warningOf s]
      | .error _ => [] := by
  have hsplit : ∀ lines lines', warnings (lines ++ lines') = warnings lines ++ warnings lines' :=
    fun lines lines' => List.filter_append lines lines'
  unfold linesAt
  rw [hsplit, warnings_readingLines, List.nil_append]
  cases hs : storeAt d root mode with
  | error e => rfl
  | ok s =>
    obtain ⟨t, c, -, -, rfl⟩ := storeAt_ok_iff.1 hs
    unfold warningOf Store.unknownKeys Store.path loadingLines
    cases (Presence.ofTable t).unknown knownKeys <;> simp [warnings]

/-- A table with a path that settings do not know. -/
theorem unknown_ne_nil_iff {t : Table} (ht : t.Sorted) :
    (Presence.ofTable t).unknown knownKeys ≠ [] ↔
      ∃ path, t.Contains path ∧ knownKeys.defines path = false := by
  rw [ne_eq, Presence.unknown_eq_nil_iff, not_forall]
  simp only [Presence.defines_ofTable ht, Classical.not_imp, Bool.not_eq_true]

/-! ## The law of loading -/

/-- Loading leaves the disk alone and reports the first thing that is wrong: a file that is no text,
a text that is no document of settings, a required field that the document does not contain. Whole
sections are looked for before keys. If nothing is wrong it gives what is in the file, with one
warning if that has more than settings know. What loads with every service loads on its own. -/
theorem loading_reports_the_first_thing_that_is_wrong (root : String) (mode : Mode) (d : Disk) :
    ∃ outcome lines, (load (m := StateM Disk) root mode).outcome.run d = ((outcome, lines), d) ∧
      ((∃ e, outcome = .error (.io "read" (settingsPath root) e)) ↔
        ¬ ∃ text, textAt d (settingsPath root) = .ok text) ∧
      ((∃ e, outcome = .error (.parse (settingsPath root) e)) ↔
        (∃ text, textAt d (settingsPath root) = .ok text) ∧
          ¬ ∃ t c, Reads d (settingsPath root) t c) ∧
      (∀ missing, outcome = .error (.validation (settingsPath root) missing) ↔
        ∃ t c, Reads d (settingsPath root) t c ∧ missing.mode = mode ∧
          FirstMissing t mode missing.path) ∧
      (∀ s, outcome = .ok s ↔
        ∃ t c, Reads d (settingsPath root) t c ∧
          (∀ f ∈ mode.required, t.Contains f.segments) ∧ s = ⟨root, mode, c, .ofTable t⟩) ∧
      (∀ s t c, outcome = .ok s → Reads d (settingsPath root) t c →
        (∃ path, t.Contains path ∧ knownKeys.defines path = false) →
        warnings lines = [warningOf s]) ∧
      (warnings lines ≠ [] → ∃ s t c, outcome = .ok s ∧ Reads d (settingsPath root) t c ∧
        ∃ path, t.Contains path ∧ knownKeys.defines path = false) ∧
      (∀ missing t c, outcome = .error (.validation (settingsPath root) missing) →
        missing.path.key? ≠ none → Reads d (settingsPath root) t c →
        ∀ f ∈ mode.required, f.key? = none → t.Contains f.segments) ∧
      ∀ s lines', (load (m := StateM Disk) root .integrated).outcome.run d =
          ((.ok s, lines'), d) →
        ∃ s' lines', (load (m := StateM Disk) root .standalone).outcome.run d =
            ((.ok s', lines'), d) ∧
          s'.settings = s.settings ∧ s'.unknownKeys = s.unknownKeys := by
  have hwarnings := warnings_linesAt d root mode
  refine ⟨_, _, (ends_load_storeAt root mode d).outcome_eq, storeAt_io_iff, storeAt_parse_iff,
    fun missing => storeAt_validation_iff, fun s => storeAt_ok_iff, ?_, ?_, ?_, ?_⟩
  · intro s t c hs hreads hunknown
    rw [hs] at hwarnings
    refine hwarnings.trans (if_neg ?_)
    rw [store_of_reads hs hreads]
    exact (unknown_ne_nil_iff hreads.sorted).2 hunknown
  · intro hwarned
    cases hs : storeAt d root mode with
    | error e =>
      rw [hs] at hwarnings
      exact absurd hwarnings hwarned
    | ok s =>
      obtain ⟨t, c, hreads, -, rfl⟩ := storeAt_ok_iff.1 hs
      refine ⟨_, t, c, rfl, hreads, (unknown_ne_nil_iff hreads.sorted).1 ?_⟩
      intro hknown
      rw [hs] at hwarnings
      exact hwarned (hwarnings.trans (if_pos hknown))
  · intro missing t c hs hkey hreads f hf hsection
    obtain ⟨t', c', hreads', -, hfirst⟩ := storeAt_validation_iff.1 hs
    obtain ⟨rfl, rfl⟩ := hreads.unique hreads'
    exact hfirst.sections hkey hf hsection
  · intro s lines' hrun
    have hstandalone := ends_load_storeAt root .standalone d
    rw [storeAt_standalone ((ends_load_storeAt root .integrated d).unique hrun).1.symm]
      at hstandalone
    exact ⟨_, _, hstandalone.outcome_eq, rfl, rfl⟩

end NodeSettings.Repository
