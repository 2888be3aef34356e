-- How an action ends on a disk: with an outcome, lines added to the log, and
-- a disk. Each call of an action has its law here, and a whole action is put
-- together from the laws of its calls.
import NodeSettings.Proofs.Replacing
import NodeSettings.Proofs.RoundTrip
import NodeSettings.Repository.Rewrite
import NodeSettings.Repository.Store

namespace NodeSettings.Repository

open Files (Disk FileAccess FileError)

variable {α β : Type}

/-- What an action does on a disk, with these lines in the log. -/
def runOn (a : Action (StateM Disk) α) (log : List LogLine) (d : Disk) :
    (Except Fault α × List LogLine) × Disk :=
  StateT.run (ExceptT.run a) log d

theorem runOn_bind (a : Action (StateM Disk) α) (f : α → Action (StateM Disk) β)
    (log : List LogLine) (d : Disk) : runOn (a >>= f) log d =
      match runOn a log d with
      | ((.ok x, log'), d') => runOn (f x) log' d'
      | ((.error e, log'), d') => ((.error e, log'), d') := by
  change ExceptT.bindCont f (runOn a log d).1.1 (runOn a log d).1.2 (runOn a log d).2 = _
  obtain ⟨⟨outcome, log'⟩, d'⟩ := runOn a log d
  cases outcome <;> rfl

/-- Only what has ended well goes on. -/
theorem runOn_bind_ok {a : Action (StateM Disk) α} {f : α → Action (StateM Disk) β}
    {log log' : List LogLine} {d d' : Disk} {y : β}
    (h : runOn (a >>= f) log d = ((.ok y, log'), d')) : ∃ x log₁ d₁,
      runOn a log d = ((.ok x, log₁), d₁) ∧ runOn (f x) log₁ d₁ = ((.ok y, log'), d') := by
  rw [runOn_bind] at h
  rcases hrun : runOn a log d with ⟨⟨outcome, log₁⟩, d₁⟩
  rw [hrun] at h
  cases outcome with
  | ok x => exact ⟨x, log₁, d₁, rfl, h⟩
  | error e => cases h

/-- The action ends on `d` with this outcome, adds these lines to any log, and leaves `d'`. -/
def Ends (a : Action (StateM Disk) α) (d : Disk) (outcome : Except Fault α)
    (lines : List LogLine) (d' : Disk) : Prop :=
  ∀ log, runOn a log d = ((outcome, log ++ lines), d')

/-- The name of the host from a source that may look at the disk and leaves it alone. -/
def asking (answer : Disk → Except FileError String) : StateM Disk (Except FileError String) :=
  fun d => (answer d, d)

theorem asking_bind (answer : Disk → Except FileError String)
    (f : Except FileError String → StateM Disk α) (d : Disk) :
    (asking answer >>= f) d = f (answer d) d :=
  rfl

namespace Ends

variable {a : Action (StateM Disk) α} {f : α → Action (StateM Disk) β} {d d₁ d' : Disk}
  {lines lines' : List LogLine}

theorem outcome_eq {outcome : Except Fault α} (h : Ends a d outcome lines d') :
    a.outcome.run d = ((outcome, lines), d') :=
  h []

/-- An action ends in one way only. -/
theorem unique {outcome x : Except Fault α} {log log' : List LogLine}
    (h : Ends a d outcome lines d') (hrun : runOn a log d = ((x, log'), d₁)) :
    x = outcome ∧ d₁ = d' := by
  rw [h log] at hrun
  cases hrun
  exact ⟨rfl, rfl⟩

protected theorem pure (x : α) : Ends (pure x) d (.ok x) [] d := by
  intro log
  rw [List.append_nil]
  rfl

protected theorem throw (e : Fault) : Ends (throw e : Action (StateM Disk) α) d (.error e) [] d := by
  intro log
  rw [List.append_nil]
  rfl

protected theorem bind {x : α} {outcome : Except Fault β} (h : Ends a d (.ok x) lines d₁)
    (hf : Ends (f x) d₁ outcome lines' d') : Ends (a >>= f) d outcome (lines ++ lines') d' := by
  intro log
  rw [runOn_bind, h log, ← List.append_assoc]
  exact hf (log ++ lines)

theorem bind_error {e : Fault} (h : Ends a d (.error e) lines d') :
    Ends (a >>= f) d (.error e) lines d' := by
  intro log
  rw [runOn_bind, h log]

theorem note (level : Level) (text : String) :
    Ends (Repository.note level text) d (.ok ()) [⟨level, text⟩] d := by
  intro log
  rfl

/-- A call that the action goes on from in any case. -/
theorem call {c : StateM Disk α} {x : α} (h : c d = (x, d')) :
    Ends (liftM c : Action (StateM Disk) α) d (.ok x) [] d' := by
  intro log
  have hrun : runOn (liftM c : Action (StateM Disk) α) log d = ((.ok (c d).1, log), (c d).2) := rfl
  rw [hrun, h, List.append_nil]

/-- An outcome that is known already. -/
theorem given (outcome : Except Fault α) :
    Ends (ExceptT.mk (pure outcome) : Action (StateM Disk) α) d outcome [] d := by
  intro log
  rw [List.append_nil]
  rfl

theorem onFile_ok {action path : String} {c : StateM Disk (Except FileError α)} {x : α}
    (h : c d = (.ok x, d')) : Ends (onFile action path c) d (.ok x) [] d' :=
  (Ends.call h).bind (Ends.pure x)

theorem onFile_error {action path : String} {c : StateM Disk (Except FileError α)} {e : FileError}
    (h : c d = (.error e, d')) :
    Ends (onFile action path c : Action (StateM Disk) α) d (.error (.io action path e)) [] d' :=
  (Ends.call h).bind (Ends.throw _)

end Ends

/-! ## Reading settings -/

/-- What the file under a path gives, without the log. -/
def settingsAt (d : Disk) (path : String) : Except Fault (Settings × Presence) :=
  match d.read path with
  | .error e => .error (.io "read" path e)
  | .ok bytes =>
    match String.fromUTF8? bytes with
    | none => .error (.io "read" path .notText)
    | some text =>
      match Settings.decode text with
      | .error e => .error (.parse path e)
      | .ok found => .ok found

theorem settingsAt_ok {d : Disk} {path : String} {c : Settings} {p : Presence} :
    settingsAt d path = .ok (c, p) ↔ ∃ bytes text, d.read path = .ok bytes ∧
      String.fromUTF8? bytes = some text ∧ Settings.decode text = .ok (c, p) := by
  constructor
  · intro h
    unfold settingsAt at h
    split at h
    · cases h
    rename_i bytes hread
    split at h
    · cases h
    rename_i text htext
    split at h
    · cases h
    rename_i found hdecode
    cases h
    exact ⟨bytes, text, hread, htext, hdecode⟩
  · rintro ⟨bytes, text, hread, htext, hdecode⟩
    simp only [settingsAt, hread, htext, hdecode]

/-- What reading settings adds to the log. -/
def readingLines (path : String) : Except Fault (Settings × Presence) → List LogLine
  | .ok (_, p) => [⟨.debug, "decoded " ++ toString p.size ++ " keys from " ++ path⟩]
  | .error _ => []

/-- Reading settings leaves the disk alone. -/
theorem ends_readSettings (d : Disk) (path : String) :
    Ends (readSettings path) d (settingsAt d path) (readingLines path (settingsAt d path)) d := by
  cases hread : d.read path with
  | error e =>
    have hcall : (FileAccess.read path : StateM Disk _) d = (.error e, d) := by
      rw [← hread]
      rfl
    have hat : settingsAt d path = .error (.io "read" path e) := by
      simp only [settingsAt, hread]
    rw [hat]
    exact (Ends.onFile_error hcall).bind_error
  | ok bytes =>
    have hcall : (FileAccess.read path : StateM Disk _) d = (.ok bytes, d) := by
      rw [← hread]
      rfl
    cases htext : String.fromUTF8? bytes with
    | none =>
      have hat : settingsAt d path = .error (.io "read" path .notText) := by
        simp only [settingsAt, hread, htext]
      rw [hat]
      refine (Ends.onFile_ok hcall).bind ?_
      rw [htext]
      exact Ends.throw _
    | some text =>
      cases hdecode : Settings.decode text with
      | error e =>
        have hat : settingsAt d path = .error (.parse path e) := by
          simp only [settingsAt, hread, htext, hdecode]
        rw [hat]
        refine (Ends.onFile_ok hcall).bind ?_
        simp only [htext, hdecode]
        exact Ends.throw _
      | ok found =>
        have hat : settingsAt d path = .ok found := by
          simp only [settingsAt, hread, htext, hdecode]
        rw [hat]
        refine (Ends.onFile_ok hcall).bind ?_
        simp only [htext, hdecode]
        exact (Ends.note _ _).bind (Ends.pure found)

theorem Ends.readSettings {d : Disk} {path : String} {found : Except Fault (Settings × Presence)}
    (h : settingsAt d path = found) :
    Ends (Repository.readSettings path) d found (readingLines path found) d := by
  rw [← h]
  exact ends_readSettings d path

/-! ## Writing settings -/

theorem Ends.writeSettings {d d' : Disk} {path : String} {c : Settings}
    (h : d.write path c.encode.toUTF8 = .ok d') :
    Ends (Repository.writeSettings path c) d (.ok ()) [] d' := by
  have hcall : (FileAccess.write path c.encode.toUTF8 : StateM Disk _) d = (.ok (), d') :=
    Disk.change_ok h
  exact (Ends.call hcall).bind (Ends.pure ())

end NodeSettings.Repository
