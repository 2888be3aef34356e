-- The commands that only look. They leave the disk alone and succeed exactly
-- where loading does, and a repository that was set up is displayed as its
-- settings file has it.
import NodeSettings.CommandLine.Run
import NodeSettings.Proofs.Loading

namespace NodeSettings.CommandLine

open Files (Disk FileError)
open Repository

variable {root : String} {mode : Mode} {d d' : Disk} {command : Command}
  {display : Store → String}

/-! ## Commands that only look -/

/-- All commands but the one that sets up. -/
def Command.Looks (command : Command) : Prop :=
  ∀ o, command ≠ .init o

/-- What a command that only looks shows of a store. -/
def Command.view : Command → Store → String
  | .init _, _ => ""
  | .validate, s => "config is valid for " ++ s.mode.name ++ " mode\n"
  | .display, s => s.settings.encode
  | .endpoint name, s => s.settings.endpoint name ++ "\n"

/-- The log line about a required field that is not there. -/
def notGiven (text : String) : LogLine :=
  ⟨.error, "required field " ++ text ++ " not given"⟩

/-- The log lines that a failed command adds to those of loading. -/
def missingLines (f : Fault) : List LogLine :=
  f.missing?.toList.map fun p => notGiven p.dotted

/-- The report on what loading gave. -/
def reportOn (root : String) (display : Store → String) (lines : List LogLine) :
    Except Fault Store → Report
  | .ok s => { output := display s, lines }
  | .error f => failure ("failed to load config from " ++ root) f (lines ++ missingLines f)

theorem withStore_run (i : Invocation) (display : Store → String) (d : Disk) :
    (withStore (m := StateM Disk) i display).run d =
      (reportOn i.repository display (linesAt d i.repository i.mode)
        (storeAt d i.repository i.mode), d) := by
  have hload := (ends_load_storeAt i.repository i.mode d).outcome_eq
  unfold withStore
  rw [StateT.run_bind, hload]
  dsimp only [bind, pure]
  cases storeAt d i.repository i.mode <;> rfl

/-- A command that only looks reports what loading gives, and leaves the disk alone. -/
theorem look_run (h : command.Looks) (root : String) (mode : Mode) (d : Disk)
    (host : StateM Disk (Except FileError String)) :
    (Invocation.run ⟨root, mode, command⟩ host).run d =
      (reportOn root command.view (linesAt d root mode) (storeAt d root mode), d) := by
  cases command with
  | init o => exact absurd rfl (h o)
  | validate => exact withStore_run _ _ d
  | display => exact withStore_run _ _ d
  | endpoint name => exact withStore_run _ _ d

/-! ## Exit status and output -/

theorem exit_reportOn {lines : List LogLine} {loaded : Except Fault Store} :
    (reportOn root display lines loaded).exit = 0 ↔ ∃ s, loaded = .ok s := by
  cases loaded with
  | ok s => simp [reportOn]
  | error f => simp [reportOn, failure]

/-- A command that fails puts nothing out. -/
theorem reportOn_error {lines : List LogLine} {loaded : Except Fault Store}
    (h : ¬ ∃ s, loaded = .ok s) : (reportOn root display lines loaded).exit = 1 ∧
      (reportOn root display lines loaded).output = "" := by
  cases loaded with
  | ok s => exact absurd ⟨s, rfl⟩ h
  | error f => exact ⟨rfl, rfl⟩

/-! ## Errors in the log -/

/-- Loading itself logs no error. -/
theorem level_of_mem_linesAt {l : LogLine} (h : l ∈ linesAt d root mode) : l.level ≠ .error := by
  unfold linesAt at h
  rcases List.mem_append.1 h with h | h
  · cases hat : settingsAt d (settingsPath root) with
    | error e =>
      rw [hat] at h
      cases h
    | ok found =>
      rw [hat] at h
      obtain rfl := List.mem_singleton.1 h
      nofun
  · split at h
    · unfold loadingLines at h
      rcases List.mem_append.1 h with h | h
      · split at h
        · cases h
        · obtain rfl := List.mem_singleton.1 h
          nofun
      · obtain rfl := List.mem_singleton.1 h
        nofun
    · cases h

/-- Errors are shown at every level. -/
theorem shows_notGiven (level : Level) (text : String) :
    Verbosity.shows (some level) (notGiven text) = true := by
  cases level <;> rfl

theorem notGiven_injective {text text' : String} (h : notGiven text = notGiven text') :
    text = text' := by
  unfold notGiven at h
  rw [LogLine.mk.injEq] at h
  have hlists := congrArg String.toList h.2
  simp only [String.toList_append, List.append_cancel_right_eq, List.append_cancel_left_eq] at hlists
  exact String.toList_injective hlists

/-- The field that a fault is about is a required one, in the mode of the command. -/
theorem storeAt_validation {path : String} {missing : MissingField}
    (h : storeAt d root mode = .error (.validation path missing)) :
    missing.path ∈ mode.required ∧ missing.mode = mode := by
  have hpath : path = settingsPath root := by
    unfold storeAt at h
    split at h
    · rename_i e hat
      cases h
      rw [settingsAt_eq] at hat
      split at hat
      · cases hat
      · split at hat <;> cases hat
    · split at h
      · cases h
        rfl
      · cases h
  subst hpath
  obtain ⟨t, c, -, hmode, before, after, hrequired, -⟩ := storeAt_validation_iff.1 h
  rw [hrequired]
  exact ⟨by simp, hmode⟩

/-- The line about a required field is there exactly if loading failed for want of that field. -/
theorem mem_lines_reportOn {loaded : Except Fault Store} (level : Level) (text : String)
    (hloaded : storeAt d root mode = loaded) :
    notGiven text ∈ (reportOn root display (linesAt d root mode) loaded).lines.filter
        (Verbosity.shows (some level)) ↔
      ∃ path missing, loaded = .error (.validation path missing) ∧ missing.path.dotted = text := by
  have hother : notGiven text ∉ linesAt d root mode := fun h => level_of_mem_linesAt h rfl
  rw [List.mem_filter, and_iff_left (shows_notGiven level text)]
  cases loaded with
  | ok s =>
    refine iff_of_false hother ?_
    rintro ⟨path, missing, h, -⟩
    cases h
  | error f =>
    have hlines : notGiven text ∈ (reportOn root display (linesAt d root mode) (.error f)).lines ↔
        notGiven text ∈ missingLines f := by
      unfold reportOn failure
      rw [List.mem_append, or_iff_right hother]
    rw [hlines]
    constructor
    · intro h
      obtain ⟨p, hp, hline⟩ := List.mem_map.1 h
      cases f with
      | validation path missing =>
        obtain rfl := List.mem_singleton.1 hp
        exact ⟨path, missing, rfl, notGiven_injective hline⟩
      | _ => cases hp
    · rintro ⟨path, missing, h, rfl⟩
      cases h
      exact List.mem_singleton.2 rfl

/-- Different required fields have different names. -/
theorem dotted_injective {f g : FieldPath} (hf : f ∈ mode.required) (hg : g ∈ mode.required)
    (h : f.dotted = g.dotted) : f = g := by
  have hall : ∀ mode : Mode, ∀ f ∈ mode.required, ∀ g ∈ mode.required,
      f.dotted = g.dotted → f = g := by
    intro mode
    cases mode <;> decide
  exact hall mode f hf g hg h

theorem validation_iff_dotted {f : FieldPath} (hf : f ∈ mode.required) :
    (∃ path missing, storeAt d root mode = .error (.validation path missing) ∧
        missing.path.dotted = f.dotted) ↔
      ∃ path, storeAt d root mode = .error (.validation path ⟨f, mode⟩) := by
  constructor
  · rintro ⟨path, ⟨g, mode'⟩, h, hname⟩
    obtain ⟨hg, hmode⟩ := storeAt_validation h
    obtain rfl : mode' = mode := hmode
    obtain rfl := dotted_injective hg hf hname
    exact ⟨path, h⟩
  · rintro ⟨path, h⟩
    exact ⟨path, ⟨f, mode⟩, h, rfl⟩

/-! ## Settings as they are displayed -/

/-- The settings file holds this text. Every command that only looks succeeds, in either mode, and
displaying gives the text. -/
structure Displays (root : String) (d : Disk) (text : String) : Prop where
  file : d.read (settingsPath root) = .ok text.toUTF8
  succeeds : ∀ (mode : Mode) (command : Command) (host : StateM Disk (Except FileError String)),
    command.Looks → ((Invocation.run ⟨root, mode, command⟩ host).run d).1.exit = 0
  output : ∀ (mode : Mode) (host : StateM Disk (Except FileError String)),
    ((Invocation.run ⟨root, mode, .display⟩ host).run d).1.output = text

theorem looks_display : Command.display.Looks := nofun

/-- A file with the text of some settings is displayed as it is. -/
theorem displays_encode {c : Settings} (h : d.read (settingsPath root) = .ok c.encode.toUTF8) :
    Displays root d c.encode := by
  have hat : settingsAt d (settingsPath root) = .ok (c.canonical, knownKeys) :=
    settingsAt_ok.2 ⟨_, _, h, fromUTF8?_toUTF8 _, Settings.decode_encode c⟩
  have hstore : ∀ mode, storeAt d root mode = .ok ⟨root, mode, c.canonical, knownKeys⟩ := by
    intro mode
    simp only [storeAt, hat, missing?_knownKeys mode]
  refine ⟨h, ?_, ?_⟩
  · intro mode command host hlooks
    rw [look_run hlooks, hstore]
    rfl
  · intro mode host
    rw [look_run looks_display, hstore]
    exact Settings.encode_canonical c

/-- What a displaying command puts out is the text of the settings it has loaded. -/
theorem output_of_display {report : Report} {host : StateM Disk (Except FileError String)}
    (h : (Invocation.run ⟨root, mode, .display⟩ host).run d = (report, d'))
    (hexit : report.exit = 0) : ∃ c p, settingsAt d (settingsPath root) = .ok (c, p) ∧
      report.output = c.encode := by
  rw [look_run looks_display] at h
  obtain ⟨rfl, rfl⟩ := Prod.mk.inj h
  obtain ⟨s, hs⟩ := exit_reportOn.1 hexit
  obtain ⟨t, c, hreads, -, rfl⟩ := storeAt_ok_iff.1 hs
  refine ⟨c, _, settingsAt_ok_iff.2 ⟨t, hreads, rfl⟩, ?_⟩
  rw [hs]
  rfl

/-- A setup that succeeds has written the text of settings. -/
theorem read_of_init {report : Report} {o : Override} {answer : Disk → Except FileError String}
    (h : (Invocation.run ⟨root, mode, .init o⟩ (asking answer)).run d = (report, d'))
    (hexit : report.exit = 0) : ∃ c : Settings,
      d'.read (settingsPath root) = .ok c.encode.toUTF8 := by
  rcases hrun : (setUp root o (asking answer)).outcome.run d with ⟨⟨outcome, lines⟩, d₁⟩
  unfold Invocation.run at h
  rw [StateT.run_bind, hrun] at h
  cases outcome with
  | error f =>
    obtain ⟨rfl, -⟩ := Prod.mk.inj h
    exact absurd hexit (by simp [failure])
  | ok c =>
    obtain ⟨-, rfl⟩ := Prod.mk.inj h
    obtain ⟨-, _, c₀, name, parent, -, -, hreplaced⟩ := setUp_ok hrun
    exact ⟨c, Files.read_file (hreplaced.after true) hreplaced.file⟩

/-! ## The laws of looking -/

/-- A command that only looks leaves the disk alone. It succeeds exactly if loading does, and fails
with nothing put out; the log has an error about a required field exactly if loading failed for want
of it. What is displayed may take the place of the settings file: then every command succeeds in
either mode, and the same text is displayed again. After a setup that succeeds the settings file is
displayed as it is. -/
theorem looking_shows_what_is_loaded_and_changes_nothing (root : String) :
    (∀ (d : Disk) (mode : Mode) (command : Command) (host : StateM Disk (Except FileError String)),
      command.Looks → ∃ report loaded lines,
        (Invocation.run ⟨root, mode, command⟩ host).run d = (report, d) ∧
        (load (m := StateM Disk) root mode).outcome.run d = ((loaded, lines), d) ∧
        (report.exit = 0 ↔ ∃ s, loaded = .ok s) ∧
        ((¬ ∃ s, loaded = .ok s) → report.exit = 1 ∧ report.output = "") ∧
        ∀ level,
          (∀ text, notGiven text ∈ report.lines.filter (Verbosity.shows (some level)) ↔
            ∃ path missing, loaded = .error (.validation path missing) ∧
              missing.path.dotted = text) ∧
          ∀ f ∈ mode.required,
            (notGiven f.dotted ∈ report.lines.filter (Verbosity.shows (some level)) ↔
              ∃ path, loaded = .error (.validation path ⟨f, mode⟩))) ∧
    (∀ (d : Disk) (mode : Mode) (host : StateM Disk (Except FileError String)) (report : Report),
      (Invocation.run ⟨root, mode, .display⟩ host).run d = (report, d) → report.exit = 0 →
        (∃ c d₁ d' parent, report.output = c.encode ∧
          d.removeFile (settingsPath root) = .ok d₁ ∧
          d₁.write (settingsPath root) report.output.toUTF8 = .ok d' ∧
          Replaced d d' root c parent) ∧
        ∀ d' : Disk, d'.read (settingsPath root) = .ok report.output.toUTF8 →
          Displays root d' report.output) ∧
    ∀ (d d' : Disk) (mode : Mode) (o : Override) (answer : Disk → Except FileError String)
      (report : Report),
      (Invocation.run ⟨root, mode, .init o⟩ (asking answer)).run d = (report, d') →
      report.exit = 0 → ∃ text, Displays root d' text := by
  refine ⟨?_, ?_, ?_⟩
  · intro d mode command host hlooks
    refine ⟨_, _, _, look_run hlooks root mode d host, (ends_load_storeAt root mode d).outcome_eq,
      exit_reportOn, reportOn_error, ?_⟩
    intro level
    refine ⟨fun text => mem_lines_reportOn level text rfl, ?_⟩
    intro f hf
    rw [mem_lines_reportOn level f.dotted rfl, validation_iff_dotted hf]
  · intro d mode host report hrun hexit
    obtain ⟨c, p, hat, houtput⟩ := output_of_display hrun hexit
    obtain ⟨bytes, text, hbytes, -, -⟩ := settingsAt_ok.1 hat
    rw [houtput]
    refine ⟨?_, fun d' hread => displays_encode hread⟩
    obtain ⟨parent, hbefore, hremove, hwrite, hafter⟩ :=
      Files.replace_of_read (endsIn_settingsPath root) hbytes c.encode.toUTF8
    refine ⟨c, _, _, parent, rfl, hremove, hwrite, hbefore, hafter,
      Files.get?_replace_same _ _ _ _, ?_, rfl⟩
    intro l hl
    exact Files.get?_replace_other _ _ hl
  · intro d d' mode o answer report hrun hexit
    obtain ⟨c, hread⟩ := read_of_init hrun hexit
    exact ⟨c.encode, displays_encode hread⟩

/-- A repository made by hand is set up, and then displayed as its settings file has it. -/
theorem a_repository_made_by_hand_is_displayed : ∃ report d' text,
    (Invocation.run ⟨"repo", .integrated, .init { nodeName := "box" }⟩
      (asking fun _ => .error .notFound)).run laidOutByHand = (report, d') ∧
    report.exit = 0 ∧ Displays "repo" d' text := by
  have hname : nameFor { nodeName := "box" } (.error .notFound) = .ok "box" := rfl
  obtain ⟨_, d', _, hrewrite, -⟩ : ∃ lines d' parent,
      Ends (rewrite "repo" { nodeName := "box" } (asking fun _ => .error .notFound)) laidOutByHand
        (.ok (Override.settings { nodeName := "box" } "box" {})) lines d' ∧
      Replaced laidOutByHand d' "repo" _ parent :=
    ends_rewrite_written settingsAt_laidOutByHand hname
  obtain ⟨lines, hends⟩ := ends_setUp laidOut_laidOutByHand hrewrite
  obtain ⟨report, hrun, hexit⟩ : ∃ report,
      (Invocation.run ⟨"repo", .integrated, .init { nodeName := "box" }⟩
        (asking fun _ => .error .notFound)).run laidOutByHand = (report, d') ∧ report.exit = 0 := by
    unfold Invocation.run
    rw [StateT.run_bind, hends.outcome_eq]
    exact ⟨_, rfl, rfl⟩
  obtain ⟨text, hdisplays⟩ := (looking_shows_what_is_loaded_and_changes_nothing "repo").2.2
    _ _ _ _ _ _ hrun hexit
  exact ⟨report, d', text, hrun, hexit, hdisplays⟩

end NodeSettings.CommandLine
