-- The laws of laying a repository out: nothing that was there is lost, only
-- the parts of the layout are new, and a layout that is complete stays as it
-- is when it is made again.
import NodeSettings.Proofs.Growing
import NodeSettings.Proofs.InPlace

namespace NodeSettings.Repository

open Files (Disk FileAccess FileError Location Entry EndsIn Names HasEntry Grows Adds join)

/-! ## The paths -/

theorem endsIn_dataDirectory (root : String) : EndsIn (join root dataDirectory) "data" := by
  have hname : dataDirectory = "store_data" ++ "/" ++ "data" := by decide
  rw [hname]
  exact Files.endsIn_join_append root _ ⟨by decide, by decide, by decide⟩ (by decide) (by decide)

theorem endsIn_cacheDirectory (root : String) : EndsIn (join root cacheDirectory) "conf" := by
  have hname : cacheDirectory = "store_data" ++ "/" ++ "conf" := by decide
  rw [hname]
  exact Files.endsIn_join_append root _ ⟨by decide, by decide, by decide⟩ (by decide) (by decide)

theorem endsIn_cachePath (root : String) : EndsIn (cachePath root) cacheName :=
  Files.endsIn_join _ ⟨by decide, by decide, by decide⟩ (by decide) (by decide)

/-! ## What may be new -/

/-- What laying out may add: directories on the ways to the two directories of a repository, and its
two files, the one with the cache configuration and the other with the canonical text of the
template. -/
inductive Part (root : String) (d : Disk) : Location → Entry → Prop
  | directory {name path : String} {l : Location} :
    name = dataDirectory ∨ name = cacheDirectory →
    path ∈ join root name :: Files.above (join root name) →
    Names d (Files.withoutSlash path) l → Part root d l .directory
  | cache {l : Location} :
    Names d (cachePath root) l → Part root d l (.file cacheConfiguration.toUTF8)
  | settings {l : Location} {c : Settings} {p : Presence} :
    Settings.decode template = .ok (c, p) → Names d (settingsPath root) l →
    Part root d l (.file c.encode.toUTF8)

theorem Part.lasts {root : String} {d d' : Disk} {l : Location} {e : Entry} (hg : Grows d d')
    (h : Part root d l e) : Part root d' l e := by
  cases h with
  | directory hname hpath h => exact .directory hname hpath (h.carried hg.carries)
  | cache h => exact .cache (h.carried hg.carries)
  | settings hc h => exact .settings hc (h.carried hg.carries)

/-! ## Actions that build -/

variable {α β : Type} {root : String}

/-- On every disk the action adds parts of the layout and nothing else. If it ends well, `post`
holds afterwards; it never fails for want of a host name. -/
def Builds (root : String) (a : Action (StateM Disk) α) (post : Disk → Prop) : Prop :=
  ∀ d, ∃ outcome lines d', Ends a d outcome lines d' ∧ Adds (Part root) d d' ∧
    (∀ x, outcome = .ok x → post d') ∧ ∀ e, outcome ≠ .error (.hostName e)

theorem Builds.bind {a : Action (StateM Disk) α} {f : α → Action (StateM Disk) β}
    {post post' : Disk → Prop} (ha : Builds root a post) (hf : ∀ x, Builds root (f x) post')
    (hlasts : ∀ {d d'}, Grows d d' → post d → post d') :
    Builds root (a >>= f) fun d => post d ∧ post' d := by
  intro d
  obtain ⟨outcome, lines, d₁, hends, hadds, hpost, hhost⟩ := ha d
  cases outcome with
  | error e =>
    refine ⟨.error e, lines, d₁, hends.bind_error, hadds, ?_, ?_⟩
    · intro x hx
      cases hx
    · intro e' he'
      cases he'
      exact hhost e' rfl
  | ok x =>
    obtain ⟨outcome', lines', d', hends', hadds', hpost', hhost'⟩ := hf x d₁
    refine ⟨outcome', lines ++ lines', d', hends.bind hends', hadds.trans Part.lasts hadds', ?_,
      hhost'⟩
    intro y hy
    exact ⟨hlasts hadds'.toGrows (hpost x rfl), hpost' y hy⟩

/-! ## The steps -/

theorem makeDirectories_eq {path name : String} (he : EndsIn path name) :
    (Files.makeDirectories path : StateM Disk _) = Files.makeFirst (path :: Files.above path) := by
  unfold Files.makeDirectories
  rw [he.isEmpty, if_neg (by simp)]

theorem builds_makeInside {name last : String}
    (hname : name = dataDirectory ∨ name = cacheDirectory) (he : EndsIn (join root name) last) :
    Builds root (makeInside root name) fun d => d.isDirectory (join root name) = true := by
  intro d
  have hadds := Files.adds_makeFirst (join root name :: Files.above (join root name)) d
  have hdir := Files.isDirectory_makeFirst (Files.above (join root name)) (d := d) he.withoutSlash
  rw [← makeDirectories_eq he] at hadds hdir
  rcases hrun : (Files.makeDirectories (join root name) : StateM Disk _) d with ⟨r, d'⟩
  rw [hrun] at hadds hdir
  have hparts : Adds (Part root) d d' := by
    refine hadds.imp ?_
    rintro l e ⟨rfl, path, hpath, hnames⟩
    exact .directory hname hpath hnames
  cases r with
  | error e => exact ⟨_, _, d', Ends.onFile_error hrun, hparts, by simp, by simp⟩
  | ok u => exact ⟨_, _, d', Ends.onFile_ok hrun, hparts, fun _ _ => hdir rfl, by simp⟩

theorem ends_makeInside_there {d : Disk} {name last : String} (he : EndsIn (join root name) last)
    (h : d.isDirectory (join root name) = true) : Ends (makeInside root name) d (.ok ()) [] d := by
  refine Ends.onFile_ok ?_
  rw [makeDirectories_eq he]
  exact Files.makeFirst_there he h _

section

variable {d d' : Disk} {path text : String}

theorem ends_writeIfAbsent_new (h : d.createNew path text.toUTF8 = .ok d') :
    ∃ lines, Ends (writeIfAbsent path text) d (.ok ()) lines d' := by
  have hcall : (FileAccess.createNew path text.toUTF8 : StateM Disk _) d = (.ok (), d') :=
    Disk.change_ok h
  exact ⟨_, (Ends.call hcall).bind ((Ends.pure ()).bind (Ends.note _ _))⟩

theorem ends_writeIfAbsent_kept
    (h : d.createNew path text.toUTF8 = .error (.opening .alreadyThere)) :
    ∃ lines, Ends (writeIfAbsent path text) d (.ok ()) lines d := by
  have hcall : (FileAccess.createNew path text.toUTF8 : StateM Disk _) d =
      (.error (.opening .alreadyThere), d) :=
    Disk.change_error h
  exact ⟨_, (Ends.call hcall).bind (Ends.note _ _)⟩

theorem ends_writeIfAbsent_fails {e : FileError} (he : e ≠ .alreadyThere)
    (h : d.createNew path text.toUTF8 = .error (.opening e)) :
    ∃ lines, Ends (writeIfAbsent path text) d (.error (.io "create" path e)) lines d := by
  have hcall : (FileAccess.createNew path text.toUTF8 : StateM Disk _) d =
      (.error (.opening e), d) :=
    Disk.change_error h
  cases e
  case alreadyThere => exact absurd rfl he
  all_goals exact ⟨_, (Ends.call hcall).bind (Ends.throw _).bind_error⟩

theorem ends_writeIfAbsent_there (text : String) (h : HasEntry d path) :
    ∃ lines, Ends (writeIfAbsent path text) d (.ok ()) lines d := by
  obtain ⟨l, e, hnames, hentry⟩ := h
  exact ends_writeIfAbsent_kept (Files.createNew_there _ hnames hentry)

theorem builds_writeIfAbsent {path text : String}
    (hpart : ∀ {d l}, Names d path l → Part root d l (.file text.toUTF8)) :
    Builds root (writeIfAbsent path text) fun d => HasEntry d path := by
  intro d
  rcases Files.createNew_cases d path text.toUTF8 with ⟨l, hnames, hnone, hcreate⟩ |
    ⟨l, e, hnames, hentry, hcreate⟩ | ⟨e, he, hcreate⟩
  · obtain ⟨lines, hends⟩ := ends_writeIfAbsent_new hcreate
    have hgrown := hnames.carried (Grows.put hnone (.file text.toUTF8)).carries
    refine ⟨_, lines, _, hends, .put hnames.ne_nil hnone (hpart hgrown), fun _ _ => ?_, by simp⟩
    exact ⟨l, _, hgrown, Disk.get?_put_same d _ hnames.ne_nil⟩
  · obtain ⟨lines, hends⟩ := ends_writeIfAbsent_kept hcreate
    exact ⟨_, lines, d, hends, .refl d, fun _ _ => ⟨l, e, hnames, hentry⟩, by simp⟩
  · obtain ⟨lines, hends⟩ := ends_writeIfAbsent_fails he hcreate
    exact ⟨_, lines, d, hends, .refl d, by simp, by simp⟩

end

/-! ## The settings file -/

/-- There is a settings file, whatever it is. A link that leads nowhere counts as well, if the
template can be read: it is tried, and found to be in the way. -/
def HasSettings (d : Disk) (root : String) : Prop :=
  HasEntry d (settingsPath root) ∧
    (d.isThere (settingsPath root) = true ∨ ∃ c, defaultSettings = .ok c)

/-- The last step of laying out. -/
def layOutSettings (root : String) : Action (StateM Disk) Unit := do
  if ← (liftM (FileAccess.isThere (settingsPath root) : StateM Disk Bool) :
      Action (StateM Disk) Bool) then noteKept (settingsPath root)
  else
    let c ← (ExceptT.mk (pure defaultSettings) : Action (StateM Disk) Settings)
    writeIfAbsent (settingsPath root) c.encode

theorem layOut_eq (root : String) : (layOut root : Action (StateM Disk) Unit) = (do
    makeInside root dataDirectory
    makeInside root cacheDirectory
    writeIfAbsent (cachePath root) cacheConfiguration
    layOutSettings root) :=
  rfl

theorem hasEntry_of_isThere {d : Disk} {path name : String} (he : EndsIn path name)
    (h : d.isThere path = true) : HasEntry d path := by
  unfold Disk.isThere at h
  cases htarget : d.target path with
  | error e => rw [htarget] at h; cases h
  | ok e => exact Files.hasEntry_of_target he htarget

theorem settingsOf_ok {name text : String} {c : Settings} (h : settingsOf name text = .ok c) :
    ∃ p, Settings.decode text = .ok (c, p) := by
  unfold settingsOf at h
  split at h
  · rename_i c' p hdecode
    cases h
    exact ⟨p, hdecode⟩
  · cases h

theorem settingsOf_error {name text : String} {e : Fault} (h : settingsOf name text = .error e)
    (cause : FileError) : e ≠ .hostName cause := by
  unfold settingsOf at h
  split at h
  · cases h
  · cases h
    simp

section

variable {d : Disk}

theorem ends_isThere {b : Bool} (h : d.isThere (settingsPath root) = b) :
    Ends (liftM (FileAccess.isThere (settingsPath root) : StateM Disk Bool) :
      Action (StateM Disk) Bool) d (.ok b) [] d := by
  refine Ends.call ?_
  rw [← h]
  rfl

theorem ends_layOutSettings_there (h : d.isThere (settingsPath root) = true) :
    ∃ lines, Ends (layOutSettings root) d (.ok ()) lines d :=
  ⟨_, (ends_isThere h).bind (Ends.note _ _)⟩

theorem ends_layOutSettings_template {e : Fault} (h : d.isThere (settingsPath root) = false)
    (he : defaultSettings = .error e) :
    ∃ lines, Ends (layOutSettings root) d (.error e) lines d := by
  have hgiven : Ends (ExceptT.mk (pure defaultSettings)) d (.error e) [] d := by
    rw [← he]
    exact Ends.given _
  exact ⟨_, (ends_isThere h).bind hgiven.bind_error⟩

theorem ends_layOutSettings_absent {c : Settings} {outcome : Except Fault Unit}
    {lines : List LogLine} {d' : Disk} (h : d.isThere (settingsPath root) = false)
    (hc : defaultSettings = .ok c)
    (hw : Ends (writeIfAbsent (settingsPath root) c.encode) d outcome lines d') :
    ∃ lines, Ends (layOutSettings root) d outcome lines d' := by
  have hgiven : Ends (ExceptT.mk (pure defaultSettings)) d (.ok c) [] d := by
    rw [← hc]
    exact Ends.given _
  exact ⟨_, (ends_isThere h).bind (hgiven.bind hw)⟩

end

theorem builds_layOutSettings (root : String) :
    Builds root (layOutSettings root) fun d => HasSettings d root := by
  intro d
  cases hthere : d.isThere (settingsPath root) with
  | true =>
    obtain ⟨lines, hends⟩ := ends_layOutSettings_there hthere
    refine ⟨_, lines, d, hends, .refl d, fun _ _ => ⟨?_, .inl hthere⟩, by simp⟩
    exact hasEntry_of_isThere (endsIn_settingsPath root) hthere
  | false =>
    cases hdefault : defaultSettings with
    | error e =>
      obtain ⟨lines, hends⟩ := ends_layOutSettings_template hthere hdefault
      refine ⟨_, lines, d, hends, .refl d, by simp, fun cause he => ?_⟩
      cases he
      exact settingsOf_error hdefault cause rfl
    | ok c =>
      obtain ⟨p, hdecode⟩ := settingsOf_ok hdefault
      obtain ⟨outcome, _, d', hwrite, hadds, hpost, hhost⟩ :=
        builds_writeIfAbsent (fun hnames => .settings hdecode hnames) d
      obtain ⟨lines, hends⟩ := ends_layOutSettings_absent hthere hdefault hwrite
      exact ⟨outcome, lines, d', hends, hadds,
        fun x hx => ⟨hpost x hx, .inr ⟨c, hdefault⟩⟩, hhost⟩

theorem ends_layOutSettings_again {d : Disk} (h : HasSettings d root) :
    ∃ lines, Ends (layOutSettings root) d (.ok ()) lines d := by
  obtain ⟨hentry, hsettled⟩ := h
  cases hthere : d.isThere (settingsPath root) with
  | true => exact ends_layOutSettings_there hthere
  | false =>
    obtain ⟨c, hc⟩ := hsettled.resolve_left (by simp [hthere])
    obtain ⟨_, hwrite⟩ := ends_writeIfAbsent_there c.encode hentry
    exact ends_layOutSettings_absent hthere hc hwrite

/-! ## The whole layout -/

/-- Both directories are there, and an entry under each of the two file names. -/
structure LaidOut (root : String) (d : Disk) : Prop where
  data : d.isDirectory (join root dataDirectory) = true
  cache : d.isDirectory (join root cacheDirectory) = true
  cacheFile : HasEntry d (cachePath root)
  settings : HasSettings d root

theorem builds_layOut (root : String) : Builds root (layOut root) (LaidOut root) := by
  rw [layOut_eq]
  intro d
  have hdata := builds_makeInside (.inl rfl) (endsIn_dataDirectory root)
  have hcache := builds_makeInside (.inr rfl) (endsIn_cacheDirectory root)
  have hfile : Builds root (writeIfAbsent (cachePath root) cacheConfiguration)
      fun d => HasEntry d (cachePath root) :=
    builds_writeIfAbsent fun hnames => .cache hnames
  have hall := hdata.bind (fun _ => hcache.bind (fun _ => hfile.bind
    (fun _ => builds_layOutSettings root) HasEntry.lasts) Files.isDirectory_lasts)
    Files.isDirectory_lasts
  obtain ⟨outcome, lines, d', hends, hadds, hpost, hhost⟩ := hall d
  refine ⟨outcome, lines, d', hends, hadds, fun x hx => ?_, hhost⟩
  obtain ⟨hdata', hcache', hfile', hsettings'⟩ := hpost x hx
  exact ⟨hdata', hcache', hfile', hsettings'⟩

/-- A repository that is laid out stays as it is when it is laid out again. -/
theorem ends_layOut_again {d : Disk} (h : LaidOut root d) :
    ∃ lines, Ends (layOut root) d (.ok ()) lines d := by
  rw [layOut_eq]
  obtain ⟨_, hfile⟩ := ends_writeIfAbsent_there cacheConfiguration h.cacheFile
  obtain ⟨_, hsettings⟩ := ends_layOutSettings_again h.settings
  exact ⟨_, (ends_makeInside_there (endsIn_dataDirectory root) h.data).bind
    ((ends_makeInside_there (endsIn_cacheDirectory root) h.cache).bind
      (hfile.bind hsettings))⟩

/-! ## The law -/

/-- Laying out loses nothing, whether it ends well or not: every entry stays as it is, and a new one
is a part of the layout. Where it ends well, the layout is complete. -/
theorem laying_out_only_adds_what_is_missing (root : String) (d : Disk) : ∃ outcome lines d',
    (layOut root : Action (StateM Disk) Unit).outcome.run d = ((outcome, lines), d') ∧
    (∀ l e, d.get? l = some e → d'.get? l = some e) ∧
    (∀ l e, d.get? l = none → d'.get? l = some e → Part root d' l e) ∧
    (outcome = .ok () → d'.isDirectory (join root dataDirectory) = true ∧
      d'.isDirectory (join root cacheDirectory) = true ∧
      HasEntry d' (cachePath root) ∧ HasEntry d' (settingsPath root)) := by
  obtain ⟨outcome, lines, d', hends, hadds, hpost, -⟩ := builds_layOut root d
  refine ⟨outcome, lines, d', hends.outcome_eq, hadds.kept, hadds.new, fun hok => ?_⟩
  have hlaid := hpost () hok
  exact ⟨hlaid.data, hlaid.cache, hlaid.cacheFile, hlaid.settings.1⟩

end NodeSettings.Repository
