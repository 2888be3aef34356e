-- What a repository keeps once it is laid out. No call takes the layout
-- apart, so that laying out and setting up may be repeated at any time.
import NodeSettings.Proofs.LayingOut
import NodeSettings.Proofs.Overrides

namespace NodeSettings.Repository

open Files (Disk FileError Location Entry HasEntry join)

variable {root : String} {d d' : Disk} {o : Override} {answer : Disk → Except FileError String}

/-! ## Calls on a laid out repository -/

/-- The settings file is no part of any way, so changing it takes nothing else away. -/
theorem LaidOut.replaced {c c' : Settings} {p : Presence} {parent : Location} (h : LaidOut root d)
    (hread : settingsAt d (settingsPath root) = .ok (c, p)) (hr : Replaced d d' root c' parent) :
    LaidOut root d' := by
  obtain ⟨bytes, _, hbytes, -, -⟩ := settingsAt_ok.1 hread
  obtain ⟨left, parent', hleads, hblocks, -⟩ :=
    Files.leads_of_read (endsIn_settingsPath root) hbytes
  obtain rfl := Files.parent_unique hr.before hleads.place_last
  have hcarries := hblocks.carries hr.others hr.working
  refine ⟨Files.isDirectory_carried h.data hcarries, Files.isDirectory_carried h.cache hcarries,
    ?_, ?_, .inl ?_⟩
  · obtain ⟨l, e, hnames, hentry⟩ := h.cacheFile
    -- The two files have different names, so this one is not the one that was replaced.
    have hne : l ≠ parent' ++ [settingsName] := by
      rintro rfl
      have hlast := hnames.getLast? (endsIn_cachePath root)
      rw [List.getLast?_concat] at hlast
      exact absurd hlast (by decide)
    exact ⟨l, e, hnames.carried hcarries, (hr.others l hne).trans hentry⟩
  · exact ⟨_, _, ⟨parent', settingsName, hr.after false, rfl⟩, hr.file⟩
  · unfold Disk.isThere Disk.target
    rw [hr.after true]
    simp [bind, Except.bind, hr.file, Except.isOk, Except.toBool]

theorem ends_setUp {outcome : Except Fault Settings} {lines : List LogLine} (h : LaidOut root d)
    (hr : Ends (rewrite root o (asking answer)) d outcome lines d') :
    ∃ lines, Ends (setUp root o (asking answer)) d outcome lines d' := by
  obtain ⟨_, hlay⟩ := ends_layOut_again h
  exact ⟨_, hlay.bind hr⟩

/-- A change ends somehow, and the layout stays. -/
theorem LaidOut.rewrite (h : LaidOut root d) (o : Override)
    (answer : Disk → Except FileError String) : ∃ outcome lines d',
      Ends (Repository.rewrite root o (asking answer)) d outcome lines d' ∧ LaidOut root d' := by
  rcases rewrite_ends root o answer d with ⟨e, lines, hends⟩ |
    ⟨c, p, name, lines, d', parent, hread, -, hends, hreplaced⟩
  · exact ⟨_, lines, d, hends, h⟩
  · exact ⟨_, lines, d', hends, h.replaced hread hreplaced⟩

theorem ends_load_unreadable {mode : Mode} {e : Fault}
    (h : settingsAt d (settingsPath root) = .error e) : Ends (load root mode) d (.error e) [] d :=
  (Ends.readSettings h).bind_error

theorem ends_load_invalid {mode : Mode} {c : Settings} {p : Presence} {missing : MissingField}
    (h : settingsAt d (settingsPath root) = .ok (c, p)) (hm : p.missing? mode = some missing) :
    Ends (load root mode) d (.error (.validation (settingsPath root) missing))
      (readingLines (settingsPath root) (.ok (c, p)) ++ []) d := by
  refine (Ends.readSettings h).bind ?_
  simp only [hm]
  exact Ends.throw _

/-- Loading leaves the disk alone, however it ends. -/
theorem load_ends (root : String) (mode : Mode) (d : Disk) :
    ∃ outcome lines, Ends (load root mode) d outcome lines d := by
  cases hat : settingsAt d (settingsPath root) with
  | error e => exact ⟨_, _, ends_load_unreadable hat⟩
  | ok found =>
    obtain ⟨c, p⟩ := found
    cases hmissing : p.missing? mode with
    | none => exact ⟨_, _, ends_load hat hmissing⟩
    | some missing => exact ⟨_, _, ends_load_invalid hat hmissing⟩

/-! ## Any number of calls -/

/-- What may be done with the repository in `root`, with all that the caller gives. -/
inductive Operation (root : String)
  | layOut
  | rewrite (o : Override) (answer : Disk → Except FileError String)
  | setUp (o : Override) (answer : Disk → Except FileError String)
  | load (mode : Mode)
  | reload (s : Store) (here : s.root = root)

namespace Operation

/-- The disk afterwards, whatever the call gave. -/
def run : Operation root → Disk → Disk
  | .layOut, d => ((Repository.layOut (m := StateM Disk) root).outcome.run d).2
  | .rewrite o answer, d => ((Repository.rewrite root o (asking answer)).outcome.run d).2
  | .setUp o answer, d => ((Repository.setUp root o (asking answer)).outcome.run d).2
  | .load mode, d => ((Repository.load (m := StateM Disk) root mode).outcome.run d).2
  | .reload s _, d => ((s.reload (m := StateM Disk)).outcome.run d).2

def runAll (ops : List (Operation root)) (d : Disk) : Disk := ops.foldl (fun d op => op.run d) d

end Operation

theorem LaidOut.run (h : LaidOut root d) (op : Operation root) : LaidOut root (op.run d) := by
  cases op with
  | layOut =>
    obtain ⟨_, hends⟩ := ends_layOut_again h
    rw [Operation.run, hends.outcome_eq]
    exact h
  | rewrite o answer =>
    obtain ⟨_, _, d', hends, hlaid⟩ := h.rewrite o answer
    rw [Operation.run, hends.outcome_eq]
    exact hlaid
  | setUp o answer =>
    obtain ⟨_, _, d', hrewrite, hlaid⟩ := h.rewrite o answer
    obtain ⟨_, hends⟩ := ends_setUp h hrewrite
    rw [Operation.run, hends.outcome_eq]
    exact hlaid
  | load mode =>
    obtain ⟨_, _, hends⟩ := load_ends root mode d
    rw [Operation.run, hends.outcome_eq]
    exact h
  | reload s here =>
    obtain ⟨_, _, hends⟩ := load_ends s.root s.mode d
    rw [Operation.run, Store.reload, hends.outcome_eq]
    exact h

theorem LaidOut.runAll (h : LaidOut root d) (ops : List (Operation root)) :
    LaidOut root (Operation.runAll ops d) := by
  unfold Operation.runAll
  induction ops generalizing d with
  | nil => exact h
  | cons op ops ih => exact ih (h.run op)

theorem laidOut_of_layOut {log log' : List LogLine}
    (h : runOn (layOut root) log d = ((.ok (), log'), d')) : LaidOut root d' := by
  obtain ⟨outcome, _, d₁, hends, -, hpost, -⟩ := builds_layOut root d
  obtain ⟨hok, rfl⟩ := hends.unique h
  exact hpost () hok.symm

/-- Once a repository is laid out it stays so: after any calls on it, whatever they gave, laying it
out again ends well and changes nothing. -/
theorem a_repository_once_laid_out_stays_laid_out {lines : List LogLine}
    (h : (layOut (m := StateM Disk) root).outcome.run d = ((.ok (), lines), d'))
    (ops : List (Operation root)) : ∃ lines',
      (layOut (m := StateM Disk) root).outcome.run (Operation.runAll ops d') =
        ((.ok (), lines'), Operation.runAll ops d') := by
  have hlaid := (laidOut_of_layOut h).runAll ops
  obtain ⟨lines', hends⟩ := ends_layOut_again hlaid
  exact ⟨lines', hends.outcome_eq⟩

/-! ## A small repository that is laid out -/

/-- A repository made by hand: its settings are a link to an empty file, and its cache configuration
a link that leads nowhere. -/
def laidOutByHand : Disk where
  entries := [
    (["old.toml"], .file .empty),
    (["repo"], .directory),
    (["repo", "config.toml"], .link "../old.toml"),
    (["repo", "store_data"], .directory),
    (["repo", "store_data", "conf"], .directory),
    (["repo", "store_data", "conf", "redis.conf"], .link "nowhere"),
    (["repo", "store_data", "data"], .directory)]
  working := []
  increasing := by decide

theorem laidOut_laidOutByHand : LaidOut "repo" laidOutByHand where
  data := rfl
  cache := rfl
  cacheFile := ⟨["repo", "store_data", "conf", "redis.conf"], .link "nowhere",
    ⟨["repo", "store_data", "conf"], "redis.conf", rfl, rfl⟩, rfl⟩
  settings := ⟨⟨["repo", "config.toml"], .link "../old.toml", ⟨["repo"], "config.toml", rfl, rfl⟩,
    rfl⟩, .inl rfl⟩

/-- Its links are no reason to lay anything out anew, not even after a change and a failed setup. -/
theorem links_stay_where_a_layout_is_complete : ∃ lines lines' d',
    (layOut (m := StateM Disk) "repo").outcome.run laidOutByHand =
      ((.ok (), lines), laidOutByHand) ∧
    d' = Operation.runAll ([.rewrite { nodeName := "box" } fun _ => .ok "",
      .setUp {} fun _ => .error .notFound, .load .integrated] : List (Operation "repo"))
        laidOutByHand ∧
    (layOut (m := StateM Disk) "repo").outcome.run d' = ((.ok (), lines'), d') := by
  obtain ⟨lines, hends⟩ := ends_layOut_again laidOut_laidOutByHand
  obtain ⟨lines', hagain⟩ := a_repository_once_laid_out_stays_laid_out hends.outcome_eq _
  exact ⟨lines, lines', _, hends.outcome_eq, rfl, hagain⟩

/-! ## Setting up again -/

/-- The same change with the same name once more writes the text that is there, so that the disk is
as before. -/
theorem ends_rewrite_again {c : Settings} {name : String} {parent : Location}
    (hr : Replaced d d' root (o.settings name c) parent) (hname : nameFor o (answer d') = .ok name) :
    ∃ lines, Ends (rewrite root o (asking answer)) d' (.ok (o.settings name c).canonical) lines d' := by
  obtain ⟨lines, parent', hplace, hends, -⟩ := ends_rewrite_replace hr.settingsAt_eq hname
  obtain rfl := Files.parent_unique (hr.after false) hplace
  have hsame : o.settings name (o.settings name c).canonical = (o.settings name c).canonical := by
    rw [Override.settings_canonical, Override.settings_settings]
  rw [hsame, Settings.encode_canonical, Files.replace_self hr.file] at hends
  exact ⟨lines, hends⟩

/-- The same overrides come to the same name, if a host that is asked gives it again. -/
theorem nameFor_again {host host' : Except FileError String} {name : String}
    (h : nameFor o host = .ok name) (hhost : Text.isBlank o.nodeName = true → host' = .ok name) :
    nameFor o host' = .ok name := by
  unfold nameFor at h ⊢
  by_cases hblank : Text.isBlank o.nodeName = true
  · rw [if_pos hblank]
    exact hhost hblank
  · rw [if_neg hblank] at h ⊢
    exact h

/-- A setup that ends well leaves a complete layout and the settings of a change. -/
theorem setUp_ok {log log' : List LogLine} {c' : Settings}
    (h : runOn (setUp root o (asking answer)) log d = ((.ok c', log'), d')) :
    LaidOut root d' ∧ ∃ d₁ c name parent, nameFor o (answer d₁) = .ok name ∧
      c' = o.settings name c ∧ Replaced d₁ d' root c' parent := by
  obtain ⟨_, log₁, d₁, hlay, hrewrite⟩ := runOn_bind_ok h
  obtain ⟨c, p, name, parent, hread, hname, hc, hreplaced⟩ := rewrite_ok hrewrite
  exact ⟨(laidOut_of_layOut hlay).replaced hread hreplaced, d₁, c, name, parent, hname, hc,
    hreplaced⟩

/-- A setup that fails for want of a host name has laid the repository out, and no more. -/
theorem setUp_nameless {log log' : List LogLine} {cause : FileError}
    (h : runOn (setUp root o (asking answer)) log d = ((.error (.hostName cause), log'), d')) :
    LaidOut root d' ∧ ∃ lines, Ends (layOut root) d (.ok ()) lines d' := by
  obtain ⟨outcome, lines, d₁, hlay, -, hpost, hhost⟩ := builds_layOut root d
  cases outcome with
  | error e =>
    -- A layout may fail, but never for want of a name.
    have hfails : Ends (setUp root o (asking answer)) d (.error e) lines d₁ := hlay.bind_error
    obtain ⟨he, -⟩ := hfails.unique h
    cases he
    exact absurd rfl (hhost cause)
  | ok u =>
    rcases rewrite_ends root o answer d₁ with ⟨e, _, hends⟩ | ⟨_, _, _, _, _, _, -, -, hends, -⟩
    · obtain ⟨-, rfl⟩ := (hlay.bind hends).unique h
      exact ⟨hpost () rfl, lines, hlay⟩
    · obtain ⟨hc, -⟩ := (hlay.bind hends).unique h
      cases hc

/-- Setting up may be repeated. With the same overrides and the same name it changes nothing more,
and one that failed for want of a host name makes no difference to the next one. -/
theorem setting_up_may_be_repeated (root : String) (o : Override)
    (answer : Disk → Except FileError String) (d : Disk) :
    (∀ c' lines d', (setUp root o (asking answer)).outcome.run d = ((.ok c', lines), d') →
      ∀ answer' : Disk → Except FileError String,
        (Text.isBlank o.nodeName = true → answer' d' = .ok c'.api.nodeName) →
        ∃ lines', (setUp root o (asking answer')).outcome.run d' =
          ((.ok c'.canonical, lines'), d')) ∧
    ∀ cause lines d',
      (setUp root o (asking answer)).outcome.run d = ((.error (.hostName cause), lines), d') →
      ∀ (o' : Override) (answer' : Disk → Except FileError String), ∃ outcome lines₁ lines₂ d₂,
        (setUp root o' (asking answer')).outcome.run d' = ((outcome, lines₁), d₂) ∧
        (setUp root o' (asking answer')).outcome.run d = ((outcome, lines₂), d₂) := by
  refine ⟨?_, ?_⟩
  · intro c' lines d' h answer' hanswer
    obtain ⟨hlaid, _, c, name, parent, hname, rfl, hreplaced⟩ := setUp_ok h
    obtain ⟨_, hrewrite⟩ := ends_rewrite_again hreplaced (nameFor_again hname hanswer)
    obtain ⟨lines', hagain⟩ := ends_setUp hlaid hrewrite
    exact ⟨lines', hagain.outcome_eq⟩
  · intro cause lines d' h o' answer'
    obtain ⟨hlaid, _, hlay⟩ := setUp_nameless h
    obtain ⟨outcome, _, d₂, hrewrite, -⟩ := hlaid.rewrite o' answer'
    obtain ⟨_, hagain⟩ := ends_setUp hlaid hrewrite
    have hfirst : Ends (setUp root o' (asking answer')) d outcome _ d₂ := hlay.bind hrewrite
    exact ⟨outcome, _, _, d₂, hagain.outcome_eq, hfirst.outcome_eq⟩

theorem settingsAt_laidOutByHand :
    settingsAt laidOutByHand (settingsPath "repo") = .ok ({}, .empty) :=
  settingsAt_of_read_empty rfl

/-- A setup with a name may be made again, and one without a name may be mended. -/
theorem a_failed_setup_may_be_mended :
    (∃ c lines d' lines',
      (setUp "repo" { nodeName := "box" } (asking fun _ => .error .notFound)).outcome.run
        laidOutByHand = ((.ok c, lines), d') ∧
      (setUp "repo" { nodeName := "box" } (asking fun _ => .error .notFound)).outcome.run d' =
        ((.ok c.canonical, lines'), d')) ∧
    ∃ lines d' outcome lines₁ lines₂ d₂,
      (setUp "repo" {} (asking fun _ => .error .notFound)).outcome.run laidOutByHand =
        ((.error (.hostName .notFound), lines), d') ∧
      (setUp "repo" {} (asking fun _ => .ok "box")).outcome.run d' = ((outcome, lines₁), d₂) ∧
      (setUp "repo" {} (asking fun _ => .ok "box")).outcome.run laidOutByHand =
        ((outcome, lines₂), d₂) := by
  have hname : nameFor { nodeName := "box" } (.error .notFound) = .ok "box" := rfl
  have hnameless : nameFor {} (.error .notFound) = .error .notFound := rfl
  refine ⟨?_, ?_⟩
  · obtain ⟨_, d', _, hrewrite, -⟩ : ∃ lines d' parent,
        Ends (rewrite "repo" { nodeName := "box" } (asking fun _ => .error .notFound)) laidOutByHand
          (.ok (Override.settings { nodeName := "box" } "box" {})) lines d' ∧
        Replaced laidOutByHand d' "repo" _ parent :=
      ends_rewrite_written settingsAt_laidOutByHand hname
    obtain ⟨lines, hends⟩ := ends_setUp laidOut_laidOutByHand hrewrite
    obtain ⟨lines', hagain⟩ := (setting_up_may_be_repeated "repo" { nodeName := "box" } _
      laidOutByHand).1 _ _ _ hends.outcome_eq _ fun hblank => absurd hblank (by decide)
    exact ⟨_, lines, d', lines', hends.outcome_eq, hagain⟩
  · obtain ⟨_, hrewrite⟩ : ∃ lines, Ends (rewrite "repo" {} (asking fun _ => .error .notFound))
        laidOutByHand (.error (.hostName .notFound)) lines laidOutByHand :=
      ends_rewrite_nameless settingsAt_laidOutByHand hnameless
    obtain ⟨lines, hends⟩ := ends_setUp laidOut_laidOutByHand hrewrite
    obtain ⟨outcome, lines₁, lines₂, d₂, hagain, hfirst⟩ := (setting_up_may_be_repeated "repo" {} _
      laidOutByHand).2 _ _ _ hends.outcome_eq {} fun _ => .ok "box"
    exact ⟨lines, _, outcome, lines₁, lines₂, d₂, hends.outcome_eq, hagain, hfirst⟩

end NodeSettings.Repository
