-- Writing settings to a path, links followed. The file that the path leads to
-- then holds their text and nothing else, it is read back as it was written,
-- and all other entries are as they were. What a device makes of a text is
-- its own affair.
import NodeSettings.Proofs.Runs
import NodeSettings.Proofs.InPlace
import NodeSettings.Proofs.Names

namespace NodeSettings

namespace Files

/-! ## Ways to a name -/

/-- The steps lead from `dir` to a name in the directory `parent`. A link at the end is followed, so
that the name itself is no link. -/
inductive Arrives (d : Disk) : (links : Nat) → (dir : Location) → (steps : List String) →
    (parent : Location) → (name : String) → Prop
  | last {links left : Nat} {dir parent : Location} {steps : List String} {name : String} :
    Reaches d links dir steps left parent → IsName name →
    (∀ target, d.get? (parent ++ [name]) ≠ some (.link target)) →
    Arrives d links dir (steps ++ [name]) parent name
  | link {links left : Nat} {dir goal parent : Location} {steps : List String}
      {last target name : String} :
    Reaches d links dir steps (left + 1) goal → IsName last →
    d.get? (goal ++ [last]) = some (.link target) →
    Arrives d left (startOf target goal) (Route.ofText target).steps parent name →
    Arrives d links dir (steps ++ [last]) parent name

namespace Arrives

variable {d : Disk} {links : Nat} {dir parent : Location} {steps : List String} {name : String}

theorem not_link (h : Arrives d links dir steps parent name) (target : String) :
    d.get? (parent ++ [name]) ≠ some (.link target) := by
  induction h with
  | last _ _ hentry => exact hentry target
  | link _ _ _ _ ih => exact ih

theorem walk_eq (h : Arrives d links dir steps parent name) :
    walk d true links dir steps = .ok (.named parent name) := by
  induction h with
  | last hr hn hentry => rw [hr.walk_append true (by simp), walk_last hn (.inr hentry)]
  | link hr hn hentry _ ih =>
    rw [hr.walk_append true (by simp), walk_link hn hentry (.inr rfl), List.append_nil, ih]

theorem of_walk (h : walk d true links dir steps = .ok (.named parent name)) :
    Arrives d links dir steps parent name := by
  -- On the links first, as a link at the end puts its own steps in place of the last one.
  induction links using Nat.strong_induction_on generalizing dir steps with
  | h links ih =>
    rcases List.eq_nil_or_concat steps with rfl | ⟨before, last, rfl⟩
    · simp at h
    rw [List.concat_eq_append] at h ⊢
    obtain ⟨mid, goal, hr⟩ := Reaches.of_walk (by simp) h
    rw [hr.walk_append true (by simp)] at h
    by_cases hd : last = "."
    · rw [hd, walk_dot, walk_nil] at h
      cases h
    by_cases hds : last = ".."
    · rw [hds, walk_dots, walk_nil] at h
      cases h
    have hn := isName_of_walk hd hds h
    by_cases hlink : ∃ target, d.get? (goal ++ [last]) = some (.link target)
    · obtain ⟨target, hentry⟩ := hlink
      cases mid with
      | zero =>
        rw [walk_link_spent hn hentry] at h
        cases h
      | succ left =>
        rw [walk_link hn hentry (.inr rfl), List.append_nil] at h
        exact .link hr hn hentry (ih left hr.left_le h)
    · have hentry : ∀ target, d.get? (goal ++ [last]) ≠ some (.link target) :=
        fun target hentry => hlink ⟨target, hentry⟩
      rw [walk_last hn (.inr hentry)] at h
      cases h
      exact .last hr hn hentry

/-- A change of what is at the end leaves the way as it was, unless a directory goes or a link
comes. -/
theorem frame {d' : Disk} (h : Arrives d links dir steps parent name)
    (hdirectory : d.get? (parent ++ [name]) ≠ some .directory)
    (hlink : ∀ target, d'.get? (parent ++ [name]) ≠ some (.link target))
    (hsame : ∀ l, l ≠ parent ++ [name] → d'.get? l = d.get? l) :
    Arrives d' links dir steps parent name := by
  have hblocks : Blocks d parent name :=
    ⟨hdirectory, fun target hentry => absurd hentry (h.not_link target)⟩
  induction h with
  | last hr hn _ => exact .last (hr.frame hblocks hsame) hn hlink
  | link hr hn hentry hrest ih =>
    refine .link (hr.frame hblocks hsame) hn ?_ (ih hdirectory hlink hsame hblocks)
    rw [hsame _ ?_, hentry]
    intro heq
    exact hrest.not_link _ (heq ▸ hentry)

end Arrives

/-- The path leads to this place, links followed, whether there is an entry or not. -/
def LeadsTo (d : Disk) (path : String) (l : Location) : Prop :=
  ∃ parent name, d.place true path = .ok (.named parent name) ∧ l = parent ++ [name]

namespace LeadsTo

variable {d d' : Disk} {path : String} {l : Location}

theorem ne_nil (h : LeadsTo d path l) : l ≠ [] := by
  obtain ⟨parent, name, -, rfl⟩ := h
  simp

theorem not_link (h : LeadsTo d path l) (target : String) : d.get? l ≠ some (.link target) := by
  obtain ⟨parent, name, hplace, rfl⟩ := h
  exact (Arrives.of_walk (place_ok.1 hplace).2).not_link target

theorem frame (h : LeadsTo d path l) (hdirectory : d.get? l ≠ some .directory)
    (hlink : ∀ target, d'.get? l ≠ some (.link target))
    (hsame : ∀ l', l' ≠ l → d'.get? l' = d.get? l') (hworking : d'.working = d.working) :
    LeadsTo d' path l := by
  obtain ⟨parent, name, hplace, rfl⟩ := h
  obtain ⟨hpath, hwalk⟩ := place_ok.1 hplace
  refine ⟨parent, name, place_ok.2 ⟨hpath, ?_⟩, rfl⟩
  rw [hworking]
  exact ((Arrives.of_walk hwalk).frame hdirectory hlink hsame).walk_eq

theorem unique {l' : Location} (h : LeadsTo d path l) (h' : LeadsTo d path l') : l' = l := by
  obtain ⟨parent, name, hplace, rfl⟩ := h
  obtain ⟨parent', name', hplace', rfl⟩ := h'
  rw [hplace] at hplace'
  cases hplace'
  rfl

theorem read_file {bytes : ByteArray} (h : LeadsTo d path l) (he : d.get? l = some (.file bytes)) :
    d.read path = .ok bytes := by
  obtain ⟨parent, name, hplace, rfl⟩ := h
  exact Files.read_file hplace he

end LeadsTo

def LeadsToDevice (d : Disk) (path : String) : Prop :=
  ∃ l device, LeadsTo d path l ∧ d.get? l = some (.device device)

/-! ## What a write does -/

/-- A write that ends well has put the content where the path leads to, in place of a file or of
nothing, if there is no device. -/
theorem write_ok {d d' : Disk} {path : String} {content : ByteArray}
    (hdevice : ¬ LeadsToDevice d path) (h : d.write path content = .ok d') :
    ∃ l, LeadsTo d path l ∧ (d.get? l = none ∨ ∃ old, d.get? l = some (.file old)) ∧
      d' = d.put l (.file content) := by
  unfold Disk.write at h
  split at h
  · cases h
  · cases h
  rename_i parent name hplace
  split at h
  · cases h
  rename_i hslash
  rw [withoutSlash_eq_self (by simpa using hslash)] at hplace
  have hleads : LeadsTo d path (parent ++ [name]) := ⟨parent, name, hplace, rfl⟩
  refine ⟨_, hleads, ?_⟩
  cases hentry : d.get? (parent ++ [name]) with
  | none =>
    rw [hentry] at h
    cases h
    exact ⟨.inl rfl, rfl⟩
  | some e =>
    rw [hentry] at h
    cases e with
    | directory => cases h
    | file old =>
      cases h
      exact ⟨.inr ⟨old, rfl⟩, rfl⟩
    | link target => exact absurd hentry (hleads.not_link target)
    | device device => exact absurd ⟨_, device, hleads, hentry⟩ hdevice

end Files

namespace Repository

open Files (Disk FileAccess LeadsTo LeadsToDevice Location WriteError)

/-! ## How writing settings ends -/

theorem ends_writeSettings_fails {d : Disk} {path : String} {c : Settings} {e : WriteError}
    (h : d.write path c.encode.toUTF8 = .error e) :
    ∃ fault, Ends (writeSettings (m := StateM Disk) path c) d (.error fault) [] d := by
  have hcall : (FileAccess.write path c.encode.toUTF8 : StateM Disk _) d = (.error e, d) :=
    Disk.change_error h
  cases e with
  | opening e => exact ⟨_, (Ends.call hcall).bind (Ends.throw _)⟩
  | writing e => exact ⟨_, (Ends.call hcall).bind (Ends.throw _)⟩

/-- The path leads to `l`, where there was a file or nothing. On `d'` it is a file with the text of
`c`, and all else is as it was on `d`. -/
structure Written (d d' : Disk) (path : String) (c : Settings) (l : Location) : Prop where
  before : LeadsTo d path l
  plain : d.get? l = none ∨ ∃ old, d.get? l = some (.file old)
  after : LeadsTo d' path l
  file : d'.get? l = some (.file c.encode.toUTF8)
  others : ∀ l', l' ≠ l → d'.get? l' = d.get? l'
  working : d'.working = d.working

theorem written_put {d : Disk} {path : String} {l : Location} (c : Settings)
    (h : LeadsTo d path l) (hplain : d.get? l = none ∨ ∃ old, d.get? l = some (.file old)) :
    Written d (d.put l (.file c.encode.toUTF8)) path c l := by
  have hfile := Disk.get?_put_same d (.file c.encode.toUTF8) h.ne_nil
  have hothers : ∀ l', l' ≠ l → (d.put l (.file c.encode.toUTF8)).get? l' = d.get? l' :=
    fun l' hl' => Disk.get?_put_other d _ hl'
  refine ⟨h, hplain, h.frame ?_ ?_ hothers rfl, hfile, hothers, rfl⟩
  · rcases hplain with hnone | ⟨old, hold⟩
    · simp [hnone]
    · simp [hold]
  · intro target hlink
    rw [hfile] at hlink
    cases hlink

theorem Written.settingsAt_eq {d d' : Disk} {path : String} {c : Settings} {l : Location}
    (h : Written d d' path c l) : settingsAt d' path = .ok (c.canonical, knownKeys) :=
  settingsAt_of_read_encode (h.after.read_file h.file)

/-! ## The law -/

/-- If the path leads to no device, settings that were written are in the file that it leads to and
are read back from there, and nothing else has changed: a file has no second name. A write that
fails changes nothing, wherever the path leads to. -/
theorem what_was_written_is_read_back (path : String) (c : Settings) (d : Disk) :
    (¬ LeadsToDevice d path → ∀ lines d',
      (writeSettings (m := StateM Disk) path c).outcome.run d = ((.ok (), lines), d') →
        ∃ l, Written d d' path c l ∧ ∃ log, (readSettings (m := StateM Disk) path).outcome.run d' =
          ((.ok (c.canonical, knownKeys), log), d')) ∧
    ∀ e lines d', (writeSettings (m := StateM Disk) path c).outcome.run d =
      ((.error e, lines), d') → d' = d := by
  cases hwrite : d.write path c.encode.toUTF8 with
  | error cause =>
    obtain ⟨fault, hends⟩ := ends_writeSettings_fails hwrite
    refine ⟨fun _ lines d' h => ?_, fun e lines d' h => (hends.unique h).2⟩
    obtain ⟨hok, -⟩ := hends.unique h
    cases hok
  | ok d₁ =>
    have hends := Ends.writeSettings hwrite
    refine ⟨fun hdevice lines d' h => ?_, fun e lines d' h => ?_⟩
    · obtain ⟨-, rfl⟩ := hends.unique h
      obtain ⟨l, hleads, hplain, rfl⟩ := Files.write_ok hdevice hwrite
      have hwritten := written_put c hleads hplain
      exact ⟨l, hwritten, _, (Ends.readSettings hwritten.settingsAt_eq).outcome_eq⟩
    · obtain ⟨hok, -⟩ := hends.unique h
      cases hok

/-- A link that leads to no file yet. -/
def danglingSettings : Disk where
  entries := [
    (["repo"], .directory),
    (["repo", "config.toml"], .link "real.toml")]
  working := []
  increasing := by decide

/-- The link stays, and the file that it leads to is made. A directory is not written. -/
theorem a_link_is_written_through :
    ¬ LeadsToDevice danglingSettings (settingsPath "repo") ∧
    (∃ lines d', (writeSettings (m := StateM Disk) (settingsPath "repo") {}).outcome.run
        danglingSettings = ((.ok (), lines), d') ∧
      d'.get? ["repo", "real.toml"] = some (.file ({} : Settings).encode.toUTF8) ∧
      d'.get? ["repo", "config.toml"] = some (.link "real.toml") ∧
      ∃ log, (readSettings (m := StateM Disk) (settingsPath "repo")).outcome.run d' =
        ((.ok (({} : Settings).canonical, knownKeys), log), d')) ∧
    ∃ e lines d', (writeSettings (m := StateM Disk) "repo" {}).outcome.run danglingSettings =
        ((.error e, lines), d') ∧ d' = danglingSettings := by
  have hleads : LeadsTo danglingSettings (settingsPath "repo") ["repo", "real.toml"] :=
    ⟨["repo"], "real.toml", rfl, rfl⟩
  have hdevice : ¬ LeadsToDevice danglingSettings (settingsPath "repo") := by
    rintro ⟨l, device, hl, hentry⟩
    rw [hleads.unique hl] at hentry
    cases hentry
  have hwrite : ∀ content, danglingSettings.write (settingsPath "repo") content =
      .ok (danglingSettings.put ["repo", "real.toml"] (.file content)) := fun _ => rfl
  have hrefused : ∀ content, danglingSettings.write "repo" content =
      .error (.opening .isDirectory) := fun _ => rfl
  have hrun := (Ends.writeSettings (c := {}) (hwrite _)).outcome_eq
  obtain ⟨fault, hfails⟩ := ends_writeSettings_fails (c := {}) (hrefused _)
  refine ⟨hdevice, ⟨_, _, hrun, ?_⟩, fault, _, _, hfails.outcome_eq,
    (what_was_written_is_read_back "repo" {} danglingSettings).2 _ _ _ hfails.outcome_eq⟩
  obtain ⟨l, hwritten, hread⟩ :=
    (what_was_written_is_read_back (settingsPath "repo") {} danglingSettings).1 hdevice _ _ hrun
  obtain rfl := hleads.unique hwritten.before
  exact ⟨hwritten.file, hwritten.others _ (by decide), hread⟩

end Repository

end NodeSettings
