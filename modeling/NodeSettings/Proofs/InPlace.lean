-- The laws of changing settings in place: a change that ends well touches one
-- file and at most three keys, one that fails touches nothing, and what was
-- written loads in every mode.
import NodeSettings.Proofs.Contents
import NodeSettings.Proofs.Runs

namespace NodeSettings.Repository

open Files (Disk FileAccess FileError)

/-! ## The settings file -/

theorem endsIn_settingsPath (root : String) : Files.EndsIn (settingsPath root) settingsName :=
  Files.endsIn_join root ⟨by decide, by decide, by decide⟩ (by decide) (by decide)

/-- The settings file of `root` stands in `parent`. On `d'` it is a file with the text of `c`,
whatever it was on `d`, and all else is as it was there. -/
structure Replaced (d d' : Disk) (root : String) (c : Settings) (parent : Files.Location) :
    Prop where
  before : d.place false (settingsPath root) = .ok (.named parent settingsName)
  after : ∀ follow, d'.place follow (settingsPath root) = .ok (.named parent settingsName)
  file : d'.get? (parent ++ [settingsName]) = some (.file c.encode.toUTF8)
  others : ∀ l, l ≠ parent ++ [settingsName] → d'.get? l = d.get? l
  working : d'.working = d.working

/-! ## The name of the node -/

/-- The name that an override asks for: its own, or that of the host if it is blank. -/
def nameFor (o : Override) (answer : Except FileError String) : Except FileError String :=
  if Text.isBlank o.nodeName then answer else .ok o.nodeName

/-- What an override makes of settings with that name, or without one. -/
def applied (o : Override) (c : Settings) :
    Except FileError String → Settings × Except FileError Unit
  | .ok name => (o.settings name c, .ok ())
  | .error e => (c, .error e)

theorem apply_eq (o : Override) (answer : Disk → Except FileError String) (c : Settings)
    (d : Disk) : o.apply (asking answer) c d = (applied o c (nameFor o (answer d)), d) := by
  unfold nameFor Override.apply
  by_cases hblank : Text.isBlank o.nodeName = true
  · rw [if_pos hblank, if_pos hblank, asking_bind]
    cases answer d with
    | ok name => rfl
    | error e => rfl
  · rw [if_neg hblank, if_neg hblank]
    rfl

/-! ## How a change ends -/

section

variable {root : String} {o : Override} {answer : Disk → Except FileError String} {d : Disk}

theorem ends_apply {host : Except FileError String} (c : Settings) (h : nameFor o (answer d) = host) :
    Ends (liftM (o.apply (asking answer) c)) d (.ok (applied o c host)) [] d := by
  refine Ends.call ?_
  rw [apply_eq, h]

theorem ends_rewrite_unreadable {e : Fault} (h : settingsAt d (settingsPath root) = .error e) :
    ∃ lines, Ends (rewrite root o (asking answer)) d (.error e) lines d :=
  ⟨_, (Ends.readSettings h).bind_error⟩

theorem ends_rewrite_nameless {c : Settings} {p : Presence} {e : FileError}
    (h : settingsAt d (settingsPath root) = .ok (c, p)) (hname : nameFor o (answer d) = .error e) :
    ∃ lines, Ends (rewrite root o (asking answer)) d (.error (.hostName e)) lines d :=
  ⟨_, (Ends.readSettings h).bind ((ends_apply c hname).bind (Ends.throw _))⟩

/-- Once the settings are read and the name is known, nothing can go wrong any more. -/
theorem ends_rewrite_replace {c : Settings} {p : Presence} {name : String}
    (h : settingsAt d (settingsPath root) = .ok (c, p)) (hname : nameFor o (answer d) = .ok name) :
    ∃ lines parent, d.place false (settingsPath root) = .ok (.named parent settingsName) ∧
      Ends (rewrite root o (asking answer)) d (.ok (o.settings name c)) lines
        (d.replace (parent ++ [settingsName]) (o.settings name c).encode.toUTF8) ∧
      ∀ follow, (d.replace (parent ++ [settingsName]) (o.settings name c).encode.toUTF8).place
        follow (settingsPath root) = .ok (.named parent settingsName) := by
  obtain ⟨bytes, text, hbytes, -, -⟩ := settingsAt_ok.1 h
  obtain ⟨parent, hplace, hremove, hwrite, hafter⟩ := Files.replace_of_read
    (endsIn_settingsPath root) hbytes (o.settings name c).encode.toUTF8
  have hremoved : (FileAccess.removeFile (settingsPath root) : StateM Disk _) d =
      (.ok (), d.erase (parent ++ [settingsName])) :=
    Disk.change_ok hremove
  exact ⟨_, parent, hplace, (Ends.readSettings h).bind ((ends_apply c hname).bind
    ((Ends.onFile_ok hremoved).bind ((Ends.writeSettings hwrite).bind
      ((Ends.note _ _).bind (Ends.pure _))))), hafter⟩

theorem ends_rewrite_written {c : Settings} {p : Presence} {name : String}
    (h : settingsAt d (settingsPath root) = .ok (c, p)) (hname : nameFor o (answer d) = .ok name) :
    ∃ lines d' parent, Ends (rewrite root o (asking answer)) d (.ok (o.settings name c)) lines d' ∧
      Replaced d d' root (o.settings name c) parent := by
  obtain ⟨lines, parent, hplace, hends, hafter⟩ := ends_rewrite_replace h hname
  refine ⟨lines, _, parent, hends, hplace, hafter, Files.get?_replace_same _ _ _ _, ?_, rfl⟩
  intro l hl
  exact Files.get?_replace_other _ _ hl

/-- A change fails and leaves the disk alone, or it has settings and a name and ends well. -/
theorem rewrite_ends (root : String) (o : Override) (answer : Disk → Except FileError String)
    (d : Disk) :
    (∃ e lines, Ends (rewrite root o (asking answer)) d (.error e) lines d) ∨
      ∃ c p name lines d' parent, settingsAt d (settingsPath root) = .ok (c, p) ∧
        nameFor o (answer d) = .ok name ∧
        Ends (rewrite root o (asking answer)) d (.ok (o.settings name c)) lines d' ∧
        Replaced d d' root (o.settings name c) parent := by
  cases hread : settingsAt d (settingsPath root) with
  | error e => exact .inl ⟨e, ends_rewrite_unreadable hread⟩
  | ok found =>
    obtain ⟨c, p⟩ := found
    cases hname : nameFor o (answer d) with
    | error e => exact .inl ⟨_, ends_rewrite_nameless hread hname⟩
    | ok name =>
      obtain ⟨lines, d', parent, hends, hreplaced⟩ := ends_rewrite_written hread hname
      exact .inr ⟨c, p, name, lines, d', parent, rfl, rfl, hends, hreplaced⟩

/-- What must have been the case for a change to end well. -/
theorem rewrite_ok {log log' : List LogLine} {d' : Disk} {c' : Settings}
    (h : runOn (rewrite root o (asking answer)) log d = ((.ok c', log'), d')) :
    ∃ c p name parent, settingsAt d (settingsPath root) = .ok (c, p) ∧
      nameFor o (answer d) = .ok name ∧ c' = o.settings name c ∧ Replaced d d' root c' parent := by
  rcases rewrite_ends root o answer d with ⟨e, lines, hends⟩ |
    ⟨c, p, name, lines, d₁, parent, hread, hname, hends, hreplaced⟩
  · obtain ⟨hc, -⟩ := hends.unique h
    cases hc
  · obtain ⟨hc, rfl⟩ := hends.unique h
    cases hc
    exact ⟨c, p, name, parent, hread, hname, rfl, hreplaced⟩

end

/-! ## Loading what was written -/

theorem fromUTF8?_toUTF8 (s : String) : String.fromUTF8? s.toUTF8 = some s := by
  unfold String.fromUTF8?
  exact dif_pos s.isValidUTF8

theorem settingsAt_of_read_encode {d : Disk} {path : String} {c : Settings}
    (h : d.read path = .ok c.encode.toUTF8) : settingsAt d path = .ok (c.canonical, knownKeys) :=
  settingsAt_ok.2 ⟨_, _, h, fromUTF8?_toUTF8 _, Settings.decode_encode c⟩

theorem Replaced.settingsAt_eq {d d' : Disk} {root : String} {c : Settings}
    {parent : Files.Location} (h : Replaced d d' root c parent) :
    settingsAt d' (settingsPath root) = .ok (c.canonical, knownKeys) :=
  settingsAt_of_read_encode (Files.read_file (h.after true) h.file)

theorem missing?_knownKeys (mode : Mode) : knownKeys.missing? mode = none := by
  cases mode <;> decide

theorem unknown_self (p : Presence) : p.unknown p = [] :=
  Presence.unknown_eq_nil_iff.2 fun _ h => h

/-- What loading adds to the log behind the line of reading. -/
def loadingLines (root : String) (mode : Mode) (p : Presence) : List LogLine :=
  (if (p.unknown knownKeys).isEmpty then []
    else [⟨.warn, "ignoring unknown keys in " ++ settingsPath root ++ ": " ++
      ", ".intercalate (p.unknown knownKeys)⟩]) ++
  [⟨.info, "loaded " ++ mode.name ++ " node config from " ++ settingsPath root⟩]

theorem ends_load {root : String} {mode : Mode} {d : Disk} {c : Settings} {p : Presence}
    (h : settingsAt d (settingsPath root) = .ok (c, p)) (hm : p.missing? mode = none) :
    Ends (load root mode) d (.ok ⟨root, mode, c, p⟩)
      (readingLines (settingsPath root) (.ok (c, p)) ++ loadingLines root mode p) d := by
  have hdone : ∀ text, Ends (do note .info text; return (⟨root, mode, c, p⟩ : Store)) d
      (.ok ⟨root, mode, c, p⟩) [⟨.info, text⟩] d :=
    fun text => (Ends.note .info text).bind (Ends.pure _)
  refine (Ends.readSettings h).bind ?_
  unfold loadingLines
  -- The warning is there only for unknown keys.
  cases hknown : (p.unknown knownKeys).isEmpty with
  | true =>
    simp only [hm, hknown]
    exact hdone _
  | false =>
    simp only [hm, hknown]
    exact (Ends.note .warn _).bind (hdone _)

/-- The action gives the store of `root` in this mode with exactly these settings, all known keys
defined and no others, and leaves the disk alone. -/
def LoadsAs (a : Action (StateM Disk) Store) (d : Disk) (root : String) (mode : Mode)
    (c : Settings) : Prop :=
  ∃ s lines, a.outcome.run d = ((.ok s, lines), d) ∧ s.root = root ∧ s.mode = mode ∧
    s.settings = c ∧ s.presence = knownKeys ∧ s.unknownKeys = []

theorem Replaced.loadsAs {d d' : Disk} {root : String} {c : Settings} {parent : Files.Location}
    (h : Replaced d d' root c parent) (mode : Mode) :
    LoadsAs (load root mode) d' root mode c.canonical := by
  have hload := ends_load h.settingsAt_eq (missing?_knownKeys mode)
  exact ⟨_, _, hload.outcome_eq, rfl, rfl, rfl, rfl, unknown_self knownKeys⟩

/-! ## A small repository -/

/-- An empty file has all settings at their zero values. -/
theorem settingsAt_of_read_empty {d : Disk} {path : String} (h : d.read path = .ok .empty) :
    settingsAt d path = .ok ({}, .empty) := by
  have htable : Toml.readTable "" = some [] := by
    unfold Toml.readTable
    exact Option.bind_eq_some_iff.2 ⟨_, Toml.statements?_nil, rfl⟩
  exact settingsAt_ok.2 ⟨.empty, "", h, rfl, Settings.decode_of_readTable htable rfl⟩

/-- Settings that are read through a link, from an empty file. -/
def linkedSettings : Disk where
  entries := [
    (["old.toml"], .file .empty),
    (["repo"], .directory),
    (["repo", "config.toml"], .link "../old.toml")]
  working := []
  increasing := by decide

theorem settingsAt_linkedSettings :
    settingsAt linkedSettings (settingsPath "repo") = .ok ({}, .empty) :=
  settingsAt_of_read_empty rfl

/-! ## The laws -/

section

variable {root : String} {o : Override} {answer : Disk → Except FileError String} {d d' : Disk}
  {c' : Settings} {lines : List LogLine}

/-- A change that ends well has read settings and written them anew, with the name, the port and the
address that were asked for and every other key as it was. Nothing else on the disk has changed. -/
theorem a_change_touches_one_file_and_at_most_three_keys
    (h : (rewrite root o (asking answer)).outcome.run d = ((.ok c', lines), d')) :
    ∃ bytes text c p parent, d.read (settingsPath root) = .ok bytes ∧
      String.fromUTF8? bytes = some text ∧ Settings.decode text = .ok (c, p) ∧
      (if Text.isBlank o.nodeName then answer d = .ok c'.api.nodeName
        else c'.api.nodeName = o.nodeName) ∧
      c'.api.port = (if o.port = 0 then c.api.port else o.port) ∧
      c'.api.multiAddress =
        (if Text.isBlank o.multiAddress = false ∧
            addressForm o.multiAddress ≠ addressForm c.api.multiAddress
          then o.multiAddress else c.api.multiAddress) ∧
      (∀ k : Key, k ≠ .nodeName → k ≠ .port → k ≠ .multiAddress → c'.get k = c.get k) ∧
      Replaced d d' root c' parent := by
  obtain ⟨c, p, name, parent, hread, hname, rfl, hreplaced⟩ := rewrite_ok h
  obtain ⟨bytes, text, hbytes, htext, hdecode⟩ := settingsAt_ok.1 hread
  refine ⟨bytes, text, c, p, parent, hbytes, htext, hdecode, ?_, rfl, ?_, ?_, hreplaced⟩
  · unfold nameFor at hname
    by_cases hblank : Text.isBlank o.nodeName = true
    · rw [if_pos hblank] at hname ⊢
      exact hname
    · rw [if_neg hblank] at hname ⊢
      cases hname
      rfl
  · simp only [Override.settings, addressChanges, Bool.and_eq_true, Bool.not_eq_true', bne_iff_ne]
  · intro k hname hport haddress
    cases k with
    | nodeName => exact absurd rfl hname
    | port => exact absurd rfl hport
    | multiAddress => exact absurd rfl haddress
    | _ => rfl

end

/-- The link gives way to a file, and what it led to stays as it was. -/
theorem a_link_is_replaced_and_not_followed : ∃ c' lines d',
    (rewrite "repo" { nodeName := "box" } (asking fun _ => .error .notFound)).outcome.run
      linkedSettings = ((.ok c', lines), d') ∧
    c'.api.nodeName = "box" ∧
    d'.get? ["repo", "config.toml"] = some (.file c'.encode.toUTF8) ∧
    d'.get? ["old.toml"] = some (.file .empty) := by
  have hname : nameFor { nodeName := "box" } (.error .notFound) = .ok "box" := rfl
  obtain ⟨lines, d', -, hends, -⟩ : ∃ lines d' parent,
      Ends (rewrite "repo" { nodeName := "box" } (asking fun _ => .error .notFound)) linkedSettings
        (.ok (Override.settings { nodeName := "box" } "box" {})) lines d' ∧
      Replaced linkedSettings d' "repo" _ parent :=
    ends_rewrite_written settingsAt_linkedSettings hname
  obtain ⟨_, _, _, _, parent, -, -, -, hname, -, -, -, hreplaced⟩ :=
    a_change_touches_one_file_and_at_most_three_keys hends.outcome_eq
  obtain rfl : parent = ["repo"] := by
    have hbefore := hreplaced.before
    have hplace : linkedSettings.place false (settingsPath "repo") =
        .ok (.named ["repo"] settingsName) := rfl
    rw [hplace] at hbefore
    cases hbefore
    rfl
  exact ⟨_, lines, d', hends.outcome_eq, hname, hreplaced.file, hreplaced.others _ (by decide)⟩

/-- A change that fails leaves the disk as it was, and it can only fail while the settings are read
or the host is asked: after that, taking the file away and writing it anew succeed. -/
theorem a_failed_change_leaves_the_disk_as_it_was (root : String) (o : Override)
    (answer : Disk → Except FileError String) (d : Disk) :
    (∀ e lines d', (rewrite root o (asking answer)).outcome.run d = ((.error e, lines), d') →
      d' = d) ∧
    ∀ c p c' log,
      (readSettings (m := StateM Disk) (settingsPath root)).outcome.run d = ((.ok (c, p), log), d) →
      (o.apply (asking answer) c).run d = ((c', .ok ()), d) →
      ∃ lines d', (rewrite root o (asking answer)).outcome.run d = ((.ok c', lines), d') := by
  refine ⟨?_, ?_⟩
  · intro e lines d' h
    rcases rewrite_ends root o answer d with ⟨e', _, hends⟩ |
      ⟨c, p, name, _, d₁, parent, -, -, hends, -⟩
    · exact (hends.unique h).2
    · obtain ⟨hc, -⟩ := hends.unique h
      cases hc
  · intro c p c' log hread happly
    have hat := ((ends_readSettings d (settingsPath root)).unique hread).1.symm
    have hrun := (apply_eq o answer c d).symm.trans happly
    cases hname : nameFor o (answer d) with
    | error e =>
      rw [hname] at hrun
      cases hrun
    | ok name =>
      rw [hname] at hrun
      cases hrun
      obtain ⟨lines, d', _, hends, -⟩ := ends_rewrite_written hat hname
      exact ⟨lines, d', hends.outcome_eq⟩

/-- A host without a name is no reason to touch a file. -/
theorem a_nameless_host_changes_no_file :
    (∃ e lines d', (rewrite "repo" {} (asking fun _ => .error .notFound)).outcome.run
      linkedSettings = ((.error e, lines), d') ∧ d' = linkedSettings) ∧
    ∃ c' lines d', (rewrite "repo" {} (asking fun _ => .ok "box")).outcome.run
      linkedSettings = ((.ok c', lines), d') := by
  have hfails : nameFor {} (.error .notFound) = .error .notFound := rfl
  have hname : nameFor {} (.ok "box") = .ok "box" := rfl
  obtain ⟨lines, hends⟩ : ∃ lines, Ends (rewrite "repo" {} (asking fun _ => .error .notFound))
      linkedSettings (.error (.hostName .notFound)) lines linkedSettings :=
    ends_rewrite_nameless settingsAt_linkedSettings hfails
  refine ⟨⟨_, lines, _, hends.outcome_eq, ?_⟩, Override.settings {} "box" {}, ?_⟩
  · exact (a_failed_change_leaves_the_disk_as_it_was "repo" {} _ linkedSettings).1 _ _ _
      hends.outcome_eq
  · exact (a_failed_change_leaves_the_disk_as_it_was "repo" {} _ linkedSettings).2 _ _ _ _
      (Ends.readSettings settingsAt_linkedSettings).outcome_eq (apply_eq {} _ {} linkedSettings)

/-- Settings in either mode load after a change or a setup as they were written, whatever the file
before defined. -/
theorem what_a_change_wrote_loads_in_every_mode {root : String} {o : Override}
    {answer : Disk → Except FileError String} {d d' : Disk} {c' : Settings} {lines : List LogLine}
    (h : (rewrite root o (asking answer)).outcome.run d = ((.ok c', lines), d') ∨
      (setUp root o (asking answer)).outcome.run d = ((.ok c', lines), d')) :
    (∀ mode, LoadsAs (load root mode) d' root mode c'.canonical) ∧
      ∀ s : Store, s.root = root → LoadsAs s.reload d' root s.mode c'.canonical := by
  obtain ⟨d₁, log, log', hrun⟩ : ∃ d₁ log log',
      runOn (rewrite root o (asking answer)) log d₁ = ((.ok c', log'), d') := by
    rcases h with h | h
    · exact ⟨d, [], lines, h⟩
    · obtain ⟨_, log, d₁, -, hrun⟩ := runOn_bind_ok h
      exact ⟨d₁, log, lines, hrun⟩
  obtain ⟨c, p, name, parent, -, -, -, hreplaced⟩ := rewrite_ok hrun
  refine ⟨hreplaced.loadsAs, ?_⟩
  rintro s rfl
  exact hreplaced.loadsAs s.mode

/-- An empty file has every section once it was changed. -/
theorem an_empty_file_loads_after_a_change : ∃ c' lines d',
    (rewrite "repo" {} (asking fun _ => .ok "box")).outcome.run linkedSettings =
      ((.ok c', lines), d') ∧ ∀ mode, LoadsAs (load "repo" mode) d' "repo" mode c'.canonical := by
  have hname : nameFor {} (.ok "box") = .ok "box" := rfl
  obtain ⟨lines, d', -, hends, -⟩ : ∃ lines d' parent,
      Ends (rewrite "repo" {} (asking fun _ => .ok "box")) linkedSettings
        (.ok (Override.settings {} "box" {})) lines d' ∧
      Replaced linkedSettings d' "repo" _ parent :=
    ends_rewrite_written settingsAt_linkedSettings hname
  exact ⟨_, lines, d', hends.outcome_eq,
    (what_a_change_wrote_loads_in_every_mode (.inl hends.outcome_eq)).1⟩

end NodeSettings.Repository
