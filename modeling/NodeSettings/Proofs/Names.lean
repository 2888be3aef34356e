-- What a path names, and whether it leads to a directory. Both stay as they
-- are on every disk on which the same ways lead on.
import NodeSettings.Proofs.Replacing

namespace NodeSettings.Files

/-! ## Disks on which the same ways lead on -/

/-- Whatever leads to a directory on `d` leads there on `d'` as well. -/
structure Carries (d d' : Disk) : Prop where
  reaches : ∀ {links left : Nat} {dir goal : Location} {steps : List String},
    Reaches d links dir steps left goal → Reaches d' links dir steps left goal
  working : d'.working = d.working

/-- A change at an entry that no way gets past carries every way over. -/
theorem Blocks.carries {d d' : Disk} {parent : Location} {name : String}
    (hb : Blocks d parent name) (hsame : ∀ l, l ≠ parent ++ [name] → d'.get? l = d.get? l)
    (hw : d'.working = d.working) : Carries d d' :=
  ⟨fun hr => hr.frame hb hsame, hw⟩

/-! ## What a path names -/

theorem isName_of_walk {d : Disk} {follow : Bool} {links : Nat} {dir : Location} {name : String}
    {rest : List String} {place : Place} (hd : name ≠ ".") (hds : name ≠ "..")
    (h : walk d follow links dir (name :: rest) = .ok place) : IsName name := by
  refine ⟨hd, hds, Nat.not_lt.1 fun hlong => ?_⟩
  cases links <;> simp [walk, walkWith, hd, hds, hlong] at h

/-- A way that stays on a link at its end and ends at a name has that name as its last step. -/
theorem walk_named {d : Disk} {links : Nat} {dir parent : Location} {steps : List String}
    {name : String} (h : walk d false links dir steps = .ok (.named parent name)) :
    IsName name ∧ ∃ before left, steps = before ++ [name] ∧
      Reaches d links dir before left parent := by
  rcases List.eq_nil_or_concat steps with rfl | ⟨before, last, rfl⟩
  · simp at h
  rw [List.concat_eq_append] at h ⊢
  obtain ⟨left, goal, hr⟩ := Reaches.of_walk (by simp) h
  rw [hr.walk_append false (by simp)] at h
  by_cases hd : last = "."
  · rw [hd, walk_dot, walk_nil] at h
    cases h
  by_cases hds : last = ".."
  · rw [hds, walk_dots, walk_nil] at h
    cases h
  have hn := isName_of_walk hd hds h
  rw [walk_last hn (.inl rfl)] at h
  cases h
  exact ⟨hn, before, left, rfl, hr⟩

/-- A path has one place only. -/
theorem parent_unique {d : Disk} {follow : Bool} {path name : String} {parent parent' : Location}
    (h : d.place follow path = .ok (.named parent name))
    (h' : d.place follow path = .ok (.named parent' name)) : parent' = parent := by
  rw [h] at h'
  cases h'
  rfl

/-- The path ends at a name, and this is the place of that name, whether there is an entry or not.
A link at the end is not followed. -/
def Names (d : Disk) (path : String) (l : Location) : Prop :=
  ∃ parent name, d.place false path = .ok (.named parent name) ∧ l = parent ++ [name]

namespace Names

variable {d d' : Disk} {path : String} {l : Location}

theorem ne_nil (h : Names d path l) : l ≠ [] := by
  obtain ⟨parent, name, -, rfl⟩ := h
  simp

theorem carried (h : Names d path l) (hc : Carries d d') : Names d' path l := by
  obtain ⟨parent, name, hplace, rfl⟩ := h
  obtain ⟨hpath, hwalk⟩ := place_ok.1 hplace
  obtain ⟨hn, before, left, hsteps, hr⟩ := walk_named hwalk
  refine ⟨parent, name, place_ok.2 ⟨hpath, ?_⟩, rfl⟩
  rw [hsteps, hc.working, (hc.reaches hr).walk_append false (by simp), walk_last hn (.inl rfl)]

/-- The last step is the name of the entry. -/
theorem getLast? (h : Names d path l) {name : String} (he : EndsIn path name) :
    l.getLast? = some name := by
  obtain ⟨parent, last, hplace, rfl⟩ := h
  obtain ⟨left, parent', hleads⟩ := Leads.of_place he hplace
  rw [hleads.place_last] at hplace
  cases hplace
  simp

end Names

/-- There is an entry of that name, whatever it is. -/
def HasEntry (d : Disk) (path : String) : Prop := ∃ l e, Names d path l ∧ d.get? l = some e

/-! ## Paths to directories -/

theorem Reaches.append {d : Disk} {links mid left : Nat} {dir place goal : Location}
    {steps more : List String} (h : Reaches d links dir steps mid place)
    (h' : Reaches d mid place more left goal) : Reaches d links dir (steps ++ more) left goal := by
  induction h with
  | here => exact h'
  | dot _ ih => exact .dot (ih h')
  | dots _ ih => exact .dots (ih h')
  | directory hn hentry _ ih => exact .directory hn hentry (ih h')
  | link hn hentry _ ih =>
    refine .link hn hentry ?_
    rw [List.append_eq, ← List.append_assoc]
    exact ih h'

/-- Links are only used up. -/
theorem Reaches.left_le {d : Disk} {links left : Nat} {dir goal : Location} {steps : List String}
    (h : Reaches d links dir steps left goal) : left ≤ links := by
  induction h with
  | here => exact Nat.le_refl _
  | dot _ ih => exact ih
  | dots _ ih => exact ih
  | directory _ _ _ ih => exact ih
  | link _ _ _ ih => exact Nat.le_succ_of_le ih

/-- The place is a directory. -/
def Place.IsDirectory (d : Disk) : Place → Prop
  | .directory _ => True
  | .named parent name => d.get? (parent ++ [name]) = some .directory

theorem Reaches.walk_followed {d : Disk} {links left : Nat} {dir goal : Location}
    {steps : List String} (h : Reaches d links dir steps left goal) :
    ∃ place, walk d true links dir steps = .ok place ∧ place.IsDirectory d := by
  induction h with
  | here => exact ⟨_, walk_nil, trivial⟩
  | dot _ ih => rwa [walk_dot]
  | dots _ ih => rwa [walk_dots]
  | @directory _ _ dir _ name steps hn hentry _ ih =>
    cases steps with
    | nil => exact ⟨_, walk_last hn (.inr fun target => by simp [hentry]), hentry⟩
    | cons _ _ => rwa [walk_directory hn hentry (by simp)]
  | link hn hentry _ ih => rwa [walk_link hn hentry (.inr rfl)]

theorem Reaches.of_walk_followed {d : Disk} {links : Nat} {dir : Location} {steps : List String}
    {place : Place} (h : walk d true links dir steps = .ok place) (hp : place.IsDirectory d) :
    ∃ left goal, Reaches d links dir steps left goal := by
  -- On the links first, as a link at the end puts its own steps in place of the last one.
  induction links using Nat.strong_induction_on generalizing dir steps with
  | h links ih =>
    rcases List.eq_nil_or_concat steps with rfl | ⟨before, last, rfl⟩
    · exact ⟨_, _, .here⟩
    rw [List.concat_eq_append] at h ⊢
    obtain ⟨mid, goal, hr⟩ := Reaches.of_walk (by simp) h
    rw [hr.walk_append true (by simp)] at h
    suffices hlast : ∃ left goal', Reaches d mid goal [last] left goal' by
      obtain ⟨left, goal', hr'⟩ := hlast
      exact ⟨left, goal', hr.append hr'⟩
    by_cases hd : last = "."
    · subst hd
      exact ⟨_, _, .dot .here⟩
    by_cases hds : last = ".."
    · subst hds
      exact ⟨_, _, .dots .here⟩
    have hn := isName_of_walk hd hds h
    by_cases hlink : ∃ target, d.get? (goal ++ [last]) = some (.link target)
    · obtain ⟨target, hentry⟩ := hlink
      cases mid with
      | zero =>
        rw [walk_link_spent hn hentry] at h
        cases h
      | succ n =>
        rw [walk_link hn hentry (.inr rfl)] at h
        obtain ⟨left, goal', hr'⟩ := ih n hr.left_le h
        exact ⟨left, goal', .link hn hentry hr'⟩
    · rw [walk_last hn (.inr fun target hentry => hlink ⟨target, hentry⟩)] at h
      cases h
      exact ⟨_, _, .directory hn hp .here⟩

theorem isDirectory_iff {d : Disk} {path : String} : d.isDirectory path = true ↔ IsPath path ∧
    ∃ left goal, Reaches d maxLinks (startOf path d.working) (Route.ofText path).steps left goal := by
  constructor
  · intro h
    have hplace : ∃ place, d.place true path = .ok place ∧ place.IsDirectory d := by
      unfold Disk.isDirectory Disk.target at h
      cases hplace : d.place true path with
      | error e => simp [hplace, bind, Except.bind] at h
      | ok place =>
        refine ⟨place, rfl, ?_⟩
        cases place with
        | directory l => trivial
        | named parent name =>
          simp only [hplace, bind, Except.bind] at h
          cases hentry : d.get? (parent ++ [name]) with
          | none => simp [hentry] at h
          | some e => cases e <;> simp [hentry] at h; exact hentry
    obtain ⟨place, hplace, hp⟩ := hplace
    obtain ⟨hpath, hwalk⟩ := place_ok.1 hplace
    exact ⟨hpath, Reaches.of_walk_followed hwalk hp⟩
  · rintro ⟨hpath, left, goal, hr⟩
    obtain ⟨place, hwalk, hp⟩ := hr.walk_followed
    have hplace := place_ok.2 ⟨hpath, hwalk⟩
    unfold Disk.isDirectory Disk.target
    rw [hplace]
    cases place with
    | directory l => rfl
    | named parent name =>
      have hentry : d.get? (parent ++ [name]) = some .directory := hp
      simp [bind, Except.bind, hentry]

theorem isDirectory_carried {d d' : Disk} {path : String} (h : d.isDirectory path = true)
    (hc : Carries d d') : d'.isDirectory path = true := by
  obtain ⟨hpath, left, goal, hr⟩ := isDirectory_iff.1 h
  refine isDirectory_iff.2 ⟨hpath, left, goal, ?_⟩
  rw [hc.working]
  exact hc.reaches hr

/-- A path that leads to anything and ends in a name has an entry: what it leads to, or a link
to that. -/
theorem hasEntry_of_target {d : Disk} {path name : String} {e : Entry} (he : EndsIn path name)
    (h : d.target path = .ok e) : HasEntry d path := by
  unfold Disk.target at h
  cases hplace : d.place true path with
  | error _ => simp [hplace, bind, Except.bind] at h
  | ok place =>
    obtain ⟨left, parent, hleads⟩ := Leads.of_place he hplace
    refine ⟨parent ++ [name], ?_⟩
    cases hentry : d.get? (parent ++ [name]) with
    | some e' => exact ⟨e', ⟨parent, name, hleads.place_last, rfl⟩, rfl⟩
    | none =>
      rw [hleads.place_followed (by simp [hentry]) true] at h
      simp [bind, Except.bind, hentry] at h

theorem target_of_isDirectory {d : Disk} {path : String} (h : d.isDirectory path = true) :
    d.target path = .ok .directory := by
  unfold Disk.isDirectory at h
  split at h
  · assumption
  · cases h

/-- A way never fails because something is there. -/
theorem walk_ne_alreadyThere (d : Disk) (follow : Bool) (links : Nat) (dir : Location)
    (steps : List String) : walk d follow links dir steps ≠ .error .alreadyThere := by
  have hwith : ∀ jump : Location → List String → Except FileError Place,
      (∀ dir steps, jump dir steps ≠ .error .alreadyThere) →
      ∀ dir steps, walkWith d follow jump dir steps ≠ .error .alreadyThere := by
    intro jump hjump dir steps
    fun_induction walkWith d follow jump dir steps <;> simp_all
  induction links generalizing dir steps with
  | zero => exact hwith _ (fun _ _ => by simp) dir steps
  | succ links ih => exact hwith _ ih dir steps

theorem place_ne_alreadyThere (d : Disk) (follow : Bool) (path : String) :
    d.place follow path ≠ .error .alreadyThere := by
  unfold Disk.place
  split
  · simp
  split
  · simp
  split
  · simp
  exact walk_ne_alreadyThere _ _ _ _ _

end NodeSettings.Files
