-- Disks that grow. Making a directory or a new file keeps every entry that
-- was there, so what a path led to it still leads to, and a second call finds
-- what the first one made.
import NodeSettings.Files.Access
import NodeSettings.Proofs.Names

namespace NodeSettings.Files

/-! ## Growth -/

/-- Every entry of `d` is on `d'` as it was. -/
structure Grows (d d' : Disk) : Prop where
  kept : ∀ l e, d.get? l = some e → d'.get? l = some e
  working : d'.working = d.working

namespace Grows

variable {d d₁ d' : Disk}

protected theorem refl (d : Disk) : Grows d d := ⟨fun _ _ he => he, rfl⟩

protected theorem trans (h : Grows d d₁) (h' : Grows d₁ d') : Grows d d' :=
  ⟨fun l e he => h'.kept l e (h.kept l e he), h'.working.trans h.working⟩

theorem put {l : Location} (h : d.get? l = none) (e : Entry) : Grows d (d.put l e) := by
  refine ⟨fun l' e' he => ?_, rfl⟩
  have hne : l' ≠ l := by
    rintro rfl
    rw [h] at he
    cases he
  rw [Disk.get?_put_other _ _ hne, he]

theorem carries (h : Grows d d') : Carries d d' := by
  refine ⟨fun hr => ?_, h.working⟩
  induction hr with
  | here => exact .here
  | dot _ ih => exact .dot ih
  | dots _ ih => exact .dots ih
  | directory hn hentry _ ih => exact .directory hn (h.kept _ _ hentry) ih
  | link hn hentry _ ih => exact .link hn (h.kept _ _ hentry) ih

end Grows

theorem HasEntry.lasts {d d' : Disk} {path : String} (hg : Grows d d') (h : HasEntry d path) :
    HasEntry d' path := by
  obtain ⟨l, e, hnames, hentry⟩ := h
  exact ⟨l, e, hnames.carried hg.carries, hg.kept l e hentry⟩

theorem isDirectory_lasts {d d' : Disk} {path : String} (hg : Grows d d')
    (h : d.isDirectory path = true) : d'.isDirectory path = true :=
  isDirectory_carried h hg.carries

/-! ## Calls that add entries -/

/-- Every entry of `d` is on `d'` as it was, and what is new there is allowed on `d'`. -/
structure Adds (allowed : Disk → Location → Entry → Prop) (d d' : Disk) : Prop extends
    Grows d d' where
  new : ∀ l e, d.get? l = none → d'.get? l = some e → allowed d' l e

namespace Adds

variable {allowed allowed' : Disk → Location → Entry → Prop} {d d₁ d' : Disk}

protected theorem refl (d : Disk) : Adds allowed d d :=
  ⟨.refl d, fun l e hnone he => by rw [hnone] at he; cases he⟩

/-- What was allowed on the way has to be allowed still. -/
protected theorem trans (hlasts : ∀ {d d' l e}, Grows d d' → allowed d l e → allowed d' l e)
    (h : Adds allowed d d₁) (h' : Adds allowed d₁ d') : Adds allowed d d' := by
  refine ⟨h.toGrows.trans h'.toGrows, fun l e hnone he => ?_⟩
  cases hmid : d₁.get? l with
  | none => exact h'.new l e hmid he
  | some e₁ =>
    rw [h'.kept l e₁ hmid] at he
    cases he
    exact hlasts h'.toGrows (h.new l _ hnone hmid)

theorem imp (h : Adds allowed d d') (hi : ∀ {l e}, allowed d' l e → allowed' d' l e) :
    Adds allowed' d d' :=
  ⟨h.toGrows, fun l e hnone he => hi (h.new l e hnone he)⟩

theorem put {l : Location} {e : Entry} (hl : l ≠ []) (hnone : d.get? l = none)
    (h : allowed (d.put l e) l e) : Adds allowed d (d.put l e) := by
  refine ⟨.put hnone e, fun l' e' hnone' he' => ?_⟩
  by_cases hl' : l' = l
  · subst hl'
    rw [Disk.get?_put_same d e hl] at he'
    cases he'
    exact h
  · rw [Disk.get?_put_other d e hl', hnone'] at he'
    cases he'

end Adds

theorem makeDirectory_ok {d d' : Disk} {path : String} (h : d.makeDirectory path = .ok d') :
    ∃ l, Names d (withoutSlash path) l ∧ d.get? l = none ∧ d' = d.put l .directory := by
  unfold Disk.makeDirectory at h
  cases hplace : d.place false (withoutSlash path) with
  | error e => simp [hplace, bind, Except.bind] at h
  | ok place =>
    rw [hplace] at h
    cases place with
    | directory l => cases h
    | named parent name =>
      simp only [bind, Except.bind] at h
      cases hentry : d.get? (parent ++ [name]) with
      | some e => simp [hentry] at h
      | none =>
        rw [hentry] at h
        cases h
        exact ⟨_, ⟨parent, name, hplace, rfl⟩, hentry, rfl⟩

theorem makeDirectory_there {d : Disk} {path : String} {l : Location} {e : Entry}
    (hw : withoutSlash path = path) (h : Names d path l) (he : d.get? l = some e) :
    d.makeDirectory path = .error .alreadyThere := by
  obtain ⟨parent, name, hplace, rfl⟩ := h
  unfold Disk.makeDirectory
  rw [hw, hplace]
  simp [bind, Except.bind, he]

theorem createNew_there {d : Disk} {path : String} {l : Location} {e : Entry} (content : ByteArray)
    (h : Names d path l) (he : d.get? l = some e) :
    d.createNew path content = .error (.opening .alreadyThere) := by
  obtain ⟨parent, name, hplace, rfl⟩ := h
  unfold Disk.createNew
  simp only [hplace, he]

/-- Making a new file finds a free place, or an entry there, or no place at all. -/
theorem createNew_cases (d : Disk) (path : String) (content : ByteArray) :
    (∃ l, Names d path l ∧ d.get? l = none ∧
      d.createNew path content = .ok (d.put l (.file content))) ∨
    (∃ l e, Names d path l ∧ d.get? l = some e ∧
      d.createNew path content = .error (.opening .alreadyThere)) ∨
    ∃ e, e ≠ .alreadyThere ∧ d.createNew path content = .error (.opening e) := by
  unfold Disk.createNew
  cases hplace : d.place false path with
  | error e =>
    refine .inr (.inr ⟨e, ?_, rfl⟩)
    rintro rfl
    exact place_ne_alreadyThere d false path hplace
  | ok place =>
    cases place with
    | directory l => exact .inr (.inr ⟨_, by decide, rfl⟩)
    | named parent name =>
      have hnames : Names d path (parent ++ [name]) := ⟨parent, name, hplace, rfl⟩
      cases hentry : d.get? (parent ++ [name]) with
      | none => exact .inl ⟨_, hnames, hentry, by simp only [hentry]⟩
      | some e =>
        have hthere := createNew_there content hnames hentry
        unfold Disk.createNew at hthere
        simp only [hplace] at hthere
        exact .inr (.inl ⟨_, e, hnames, hentry, hthere⟩)

/-! ## Directories with those above them -/

/-- Makes a directory, or finds that it is one. -/
def Disk.ensureDirectory (d : Disk) (path : String) : Except FileError Unit × Disk :=
  match d.makeDirectory path with
  | .ok d' => (.ok (), d')
  | .error e => if d.isDirectory path then (.ok (), d) else (.error e, d)

theorem run_bind {α β : Type} (c : StateM Disk α) (f : α → StateM Disk β) (d : Disk) :
    (c >>= f) d = f (c d).1 (c d).2 :=
  rfl

theorem ensureDirectory_error {d : Disk} {path : String} {e : FileError}
    (h : d.makeDirectory path = .error e) : d.ensureDirectory path =
      (do if ← FileAccess.isDirectory path then pure (.ok ()) else pure (.error e) :
        StateM Disk (Except FileError Unit)) d := by
  rw [run_bind]
  change _ = (if d.isDirectory path = true then _ else _ : StateM Disk _) d
  unfold Disk.ensureDirectory
  rw [h]
  dsimp only
  split <;> rfl

theorem run_makeDirectory_ok {path : String} {d d' : Disk} (h : d.makeDirectory path = .ok d') :
    (FileAccess.makeDirectory path : StateM Disk _) d = (.ok (), d') :=
  Disk.change_ok h

theorem run_makeDirectory_error {path : String} {d : Disk} {e : FileError}
    (h : d.makeDirectory path = .error e) :
    (FileAccess.makeDirectory path : StateM Disk _) d = (.error e, d) :=
  Disk.change_error h

theorem ensureDirectory_ok {d d' : Disk} {path : String} (h : d.makeDirectory path = .ok d') :
    d.ensureDirectory path = (.ok (), d') := by
  unfold Disk.ensureDirectory
  rw [h]

theorem makeFirst_found {path : String} {d : Disk} (outer : List String)
    (h : d.makeDirectory path ≠ .error .notFound) :
    (makeFirst (path :: outer) : StateM Disk _) d = d.ensureDirectory path := by
  rw [makeFirst, run_bind]
  cases hcall : d.makeDirectory path with
  | ok d' =>
    rw [run_makeDirectory_ok hcall, ensureDirectory_ok hcall]
    rfl
  | error e =>
    rw [run_makeDirectory_error hcall, ensureDirectory_error hcall]
    cases e
    case notFound => exact absurd hcall h
    all_goals rfl

theorem makeFirst_missing {path : String} {d : Disk} (outer : List String)
    (h : d.makeDirectory path = .error .notFound) :
    (makeFirst (path :: outer) : StateM Disk _) d =
      match (makeFirst outer : StateM Disk _) d with
      | (.error e, d') => (.error e, d')
      | (.ok (), d') => d'.ensureDirectory path := by
  rw [makeFirst, run_bind, run_makeDirectory_error h]
  dsimp only
  rw [run_bind]
  rcases (makeFirst outer : StateM Disk _) d with ⟨r, d'⟩
  cases r with
  | error e => rfl
  | ok u =>
    dsimp only
    rw [run_bind]
    cases hcall : d'.makeDirectory path with
    | ok d'' =>
      rw [run_makeDirectory_ok hcall, ensureDirectory_ok hcall]
      rfl
    | error e => rw [run_makeDirectory_error hcall, ensureDirectory_error hcall]

/-- What a list of paths to directories may add. -/
def DirectoryOf (paths : List String) (d : Disk) (l : Location) (e : Entry) : Prop :=
  e = .directory ∧ ∃ path ∈ paths, Names d (withoutSlash path) l

theorem DirectoryOf.lasts {paths : List String} {d d' : Disk} {l : Location} {e : Entry}
    (hg : Grows d d') (h : DirectoryOf paths d l e) : DirectoryOf paths d' l e := by
  obtain ⟨he, path, hpath, hnames⟩ := h
  exact ⟨he, path, hpath, hnames.carried hg.carries⟩

theorem DirectoryOf.subset {paths paths' : List String} {d : Disk} {l : Location} {e : Entry}
    (hs : paths ⊆ paths') (h : DirectoryOf paths d l e) : DirectoryOf paths' d l e := by
  obtain ⟨he, path, hpath, hnames⟩ := h
  exact ⟨he, path, hs hpath, hnames⟩

theorem adds_makeDirectory {d d' : Disk} {path : String} (h : d.makeDirectory path = .ok d') :
    Adds (DirectoryOf [path]) d d' := by
  obtain ⟨l, hnames, hnone, rfl⟩ := makeDirectory_ok h
  refine .put hnames.ne_nil hnone ⟨rfl, path, List.mem_singleton_self _, ?_⟩
  exact hnames.carried (Grows.put hnone _).carries

theorem isDirectory_makeDirectory {d d' : Disk} {path : String} (hw : withoutSlash path = path)
    (h : d.makeDirectory path = .ok d') : d'.isDirectory path = true := by
  obtain ⟨l, ⟨parent, name, hplace, rfl⟩, hnone, rfl⟩ := makeDirectory_ok h
  rw [hw] at hplace
  obtain ⟨hpath, hwalk⟩ := place_ok.1 hplace
  obtain ⟨hn, before, left, hsteps, hr⟩ := walk_named hwalk
  have hnew : (d.put (parent ++ [name]) .directory).get? (parent ++ [name]) = some .directory :=
    Disk.get?_put_same _ _ (by simp)
  refine isDirectory_iff.2 ⟨hpath, left, parent ++ [name], ?_⟩
  rw [hsteps]
  exact ((Grows.put hnone _).carries.reaches hr).append (.directory hn hnew .here)

theorem adds_ensureDirectory (d : Disk) (path : String) :
    Adds (DirectoryOf [path]) d (d.ensureDirectory path).2 := by
  unfold Disk.ensureDirectory
  cases hcall : d.makeDirectory path with
  | ok d' => exact adds_makeDirectory hcall
  | error e =>
    dsimp only
    split
    · exact .refl d
    · exact .refl d

theorem isDirectory_ensureDirectory {d : Disk} {path : String} (hw : withoutSlash path = path)
    (h : (d.ensureDirectory path).1 = .ok ()) : (d.ensureDirectory path).2.isDirectory path = true := by
  cases hcall : d.makeDirectory path with
  | ok d' =>
    rw [ensureDirectory_ok hcall]
    exact isDirectory_makeDirectory hw hcall
  | error e =>
    unfold Disk.ensureDirectory at h ⊢
    rw [hcall] at h ⊢
    dsimp only at h ⊢
    split at h
    · rename_i hdir
      rw [if_pos hdir]
      exact hdir
    · cases h

/-- Directories are all that is added, whether the call ends well or not. -/
theorem adds_makeFirst (paths : List String) (d : Disk) :
    Adds (DirectoryOf paths) d ((makeFirst paths : StateM Disk _) d).2 := by
  induction paths generalizing d with
  | nil => exact .refl d
  | cons path outer ih =>
    have hone : ∀ d : Disk, Adds (DirectoryOf (path :: outer)) d (d.ensureDirectory path).2 :=
      fun d => (adds_ensureDirectory d path).imp (.subset (by simp))
    by_cases hcall : d.makeDirectory path = .error .notFound
    · have houter : Adds (DirectoryOf (path :: outer)) d ((makeFirst outer : StateM Disk _) d).2 :=
        (ih d).imp (.subset (List.subset_cons_self path outer))
      rw [makeFirst_missing outer hcall]
      rcases hrun : (makeFirst outer : StateM Disk _) d with ⟨r, d'⟩
      rw [hrun] at houter
      cases r with
      | error e => exact houter
      | ok u => exact houter.trans DirectoryOf.lasts (hone d')
    · rw [makeFirst_found outer hcall]
      exact hone d

theorem isDirectory_makeFirst {path : String} (outer : List String) {d : Disk}
    (hw : withoutSlash path = path)
    (h : ((makeFirst (path :: outer) : StateM Disk _) d).1 = .ok ()) :
    ((makeFirst (path :: outer) : StateM Disk _) d).2.isDirectory path = true := by
  by_cases hcall : d.makeDirectory path = .error .notFound
  · rw [makeFirst_missing outer hcall] at h ⊢
    rcases hrun : (makeFirst outer : StateM Disk _) d with ⟨r, d'⟩
    rw [hrun] at h
    cases r with
    | error e => cases h
    | ok u => exact isDirectory_ensureDirectory hw h
  · rw [makeFirst_found outer hcall] at h ⊢
    exact isDirectory_ensureDirectory hw h

/-- A directory that is there already is left alone, and nothing above it is looked at. -/
theorem makeFirst_there {path name : String} (he : EndsIn path name) {d : Disk}
    (h : d.isDirectory path = true) (outer : List String) :
    (makeFirst (path :: outer) : StateM Disk _) d = (.ok (), d) := by
  obtain ⟨l, e, hnames, hentry⟩ := hasEntry_of_target he (target_of_isDirectory h)
  have hthere := makeDirectory_there he.withoutSlash hnames hentry
  rw [makeFirst_found outer (by simp [hthere])]
  unfold Disk.ensureDirectory
  rw [hthere]
  simp only [h, if_true]

end NodeSettings.Files
