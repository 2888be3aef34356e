-- Ways through the tree. A way that arrives at a directory takes the same
-- steps whether a link at its end is followed or not, and it stays the same
-- when an entry changes that no way gets past.
import Mathlib
import NodeSettings.Files.Calls

namespace NodeSettings.Files

/-! ## One step of a way -/

/-- A step to an entry of its own: neither a dot nor two, and not too long. -/
structure IsName (name : String) : Prop where
  not_dot : name ≠ "."
  not_dots : name ≠ ".."
  short : name.utf8ByteSize ≤ maxNameBytes

/-- Where a link or a path starts that is met in `dir`. -/
def startOf (text : String) (dir : Location) : Location :=
  if (Route.ofText text).absolute then [] else dir

section

variable {d : Disk} {follow : Bool} {links : Nat} {dir : Location} {name : String}
  {rest : List String}

@[simp] theorem walk_nil : walk d follow links dir [] = .ok (.directory dir) := by
  cases links <;> rfl

theorem walk_dot : walk d follow links dir ("." :: rest) = walk d follow links dir rest := by
  cases links <;> simp [walk, walkWith]

theorem walk_dots :
    walk d follow links dir (".." :: rest) = walk d follow links dir.dropLast rest := by
  cases links <;> simp [walk, walkWith]

theorem walk_directory (hn : IsName name) (h : d.get? (dir ++ [name]) = some .directory)
    (hr : rest ≠ []) :
    walk d follow links dir (name :: rest) = walk d follow links (dir ++ [name]) rest := by
  have hlong : ¬ maxNameBytes < name.utf8ByteSize := Nat.not_lt.2 hn.short
  cases links <;> simp [walk, walkWith, hn.not_dot, hn.not_dots, hlong, h, hr]

theorem walk_link {target : String} (hn : IsName name)
    (h : d.get? (dir ++ [name]) = some (.link target)) (hr : rest ≠ [] ∨ follow = true) :
    walk d follow (links + 1) dir (name :: rest) =
      walk d follow links (startOf target dir) ((Route.ofText target).steps ++ rest) := by
  have hlong : ¬ maxNameBytes < name.utf8ByteSize := Nat.not_lt.2 hn.short
  have hgoes : (rest.isEmpty && !follow) = false := by
    rcases hr with hr | hr
    · simp [hr]
    · simp [hr]
  rw [walk, walkWith, if_neg hn.not_dot, if_neg hn.not_dots, if_neg hlong, h]
  simp only [hgoes, Bool.false_eq_true, if_false]
  rfl

/-- The last step stays where it is, unless it follows a link. -/
theorem walk_last (hn : IsName name)
    (h : follow = false ∨ ∀ target, d.get? (dir ++ [name]) ≠ some (.link target)) :
    walk d follow links dir [name] = .ok (.named dir name) := by
  have hlong : ¬ maxNameBytes < name.utf8ByteSize := Nat.not_lt.2 hn.short
  cases hentry : d.get? (dir ++ [name]) with
  | none => cases links <;> simp [walk, walkWith, hn.not_dot, hn.not_dots, hlong, hentry]
  | some e =>
    cases e with
    | link target =>
      have hf : follow = false := h.resolve_right fun hno => hno target hentry
      cases links <;> simp [walk, walkWith, hn.not_dot, hn.not_dots, hlong, hentry, hf]
    | directory => cases links <;> simp [walk, walkWith, hn.not_dot, hn.not_dots, hlong, hentry]
    | file _ => cases links <;> simp [walk, walkWith, hn.not_dot, hn.not_dots, hlong, hentry]
    | device _ => cases links <;> simp [walk, walkWith, hn.not_dot, hn.not_dots, hlong, hentry]

theorem walk_link_spent {target : String} (hn : IsName name)
    (h : d.get? (dir ++ [name]) = some (.link target)) :
    walk d true 0 dir (name :: rest) = .error .tooManyLinks := by
  have hlong : ¬ maxNameBytes < name.utf8ByteSize := Nat.not_lt.2 hn.short
  simp [walk, walkWith, hn.not_dot, hn.not_dots, hlong, h]

/-- A way goes on behind a name only if a directory is there or a link, and one more link may be
followed. -/
theorem walk_cons_ok {place : Place} (hd : name ≠ ".") (hds : name ≠ "..") (hr : rest ≠ [])
    (h : walk d follow links dir (name :: rest) = .ok place) : IsName name ∧
      (d.get? (dir ++ [name]) = some .directory ∨
        ∃ target n, links = n + 1 ∧ d.get? (dir ++ [name]) = some (.link target)) := by
  by_cases hlong : maxNameBytes < name.utf8ByteSize
  · cases links <;> simp [walk, walkWith, hd, hds, hlong] at h
  refine ⟨⟨hd, hds, Nat.not_lt.1 hlong⟩, ?_⟩
  cases hentry : d.get? (dir ++ [name]) with
  | none => cases links <;> simp [walk, walkWith, hd, hds, hlong, hentry, hr] at h
  | some e =>
    cases e with
    | directory => exact .inl rfl
    | link target =>
      cases links with
      | zero => simp [walk, walkWith, hd, hds, hlong, hentry, hr] at h
      | succ n => exact .inr ⟨target, n, rfl, rfl⟩
    | file _ => cases links <;> simp [walk, walkWith, hd, hds, hlong, hentry, hr] at h
    | device _ => cases links <;> simp [walk, walkWith, hd, hds, hlong, hentry, hr] at h

end

/-! ## Ways to a directory -/

/-- The steps lead from `dir` to the directory `goal`, and so many links are left. -/
inductive Reaches (d : Disk) : (links : Nat) → (dir : Location) → (steps : List String) →
    (left : Nat) → (goal : Location) → Prop
  | here {links : Nat} {dir : Location} : Reaches d links dir [] links dir
  | dot {links left : Nat} {dir goal : Location} {steps : List String} :
    Reaches d links dir steps left goal → Reaches d links dir ("." :: steps) left goal
  | dots {links left : Nat} {dir goal : Location} {steps : List String} :
    Reaches d links dir.dropLast steps left goal → Reaches d links dir (".." :: steps) left goal
  | directory {links left : Nat} {dir goal : Location} {name : String} {steps : List String} :
    IsName name → d.get? (dir ++ [name]) = some .directory →
    Reaches d links (dir ++ [name]) steps left goal → Reaches d links dir (name :: steps) left goal
  | link {links left : Nat} {dir goal : Location} {name target : String} {steps : List String} :
    IsName name → d.get? (dir ++ [name]) = some (.link target) →
    Reaches d links (startOf target dir) ((Route.ofText target).steps ++ steps) left goal →
    Reaches d (links + 1) dir (name :: steps) left goal

namespace Reaches

variable {d : Disk} {links left : Nat} {dir goal : Location} {steps : List String}

/-- What comes behind the steps starts from where they lead. -/
theorem walk_append (h : Reaches d links dir steps left goal) (follow : Bool) {more : List String}
    (hm : more ≠ []) : walk d follow links dir (steps ++ more) = walk d follow left goal more := by
  induction h with
  | here => rfl
  | dot _ ih => rw [List.cons_append, walk_dot, ih]
  | dots _ ih => rw [List.cons_append, walk_dots, ih]
  | directory hn hentry _ ih =>
    rw [List.cons_append, walk_directory hn hentry (by simp [hm]), ih]
  | link hn hentry _ ih =>
    rw [List.cons_append, walk_link hn hentry (.inl (by simp [hm])), ← List.append_assoc, ih]

/-- A way that goes on has led to a directory so far. -/
theorem of_walk {follow : Bool} {more : List String} (hm : more ≠ []) {place : Place}
    (h : walk d follow links dir (steps ++ more) = .ok place) :
    ∃ left goal, Reaches d links dir steps left goal := by
  -- On the links first: a link puts new steps in front, but leaves fewer links.
  induction links using Nat.strong_induction_on generalizing dir steps with
  | h links ihLinks =>
    induction steps generalizing dir with
    | nil => exact ⟨links, dir, .here⟩
    | cons name steps ih =>
      rw [List.cons_append] at h
      by_cases hd : name = "."
      · subst hd
        rw [walk_dot] at h
        obtain ⟨left, goal, hr⟩ := ih h
        exact ⟨left, goal, .dot hr⟩
      by_cases hds : name = ".."
      · subst hds
        rw [walk_dots] at h
        obtain ⟨left, goal, hr⟩ := ih h
        exact ⟨left, goal, .dots hr⟩
      obtain ⟨hn, hentry | ⟨target, n, rfl, hentry⟩⟩ := walk_cons_ok hd hds (by simp [hm]) h
      · rw [walk_directory hn hentry (by simp [hm])] at h
        obtain ⟨left, goal, hr⟩ := ih h
        exact ⟨left, goal, .directory hn hentry hr⟩
      · rw [walk_link hn hentry (.inl (by simp [hm])), ← List.append_assoc] at h
        obtain ⟨left, goal, hr⟩ := ihLinks n (Nat.lt_succ_self n) h
        exact ⟨left, goal, .link hn hentry hr⟩

/-- A way through more steps has come through the first ones. -/
theorem prefix_of_append {more : List String} (h : Reaches d links dir (steps ++ more) left goal) :
    ∃ mid place, Reaches d links dir steps mid place := by
  generalize hall : steps ++ more = all at h
  induction h generalizing steps with
  | here =>
    obtain ⟨rfl, -⟩ := List.append_eq_nil_iff.1 hall
    exact ⟨_, _, .here⟩
  | dot h ih =>
    rcases List.append_eq_cons_iff.1 hall with ⟨rfl, -⟩ | ⟨steps, rfl, hrest⟩
    · exact ⟨_, _, .here⟩
    · obtain ⟨mid, place, hr⟩ := ih hrest.symm
      exact ⟨mid, place, .dot hr⟩
  | dots h ih =>
    rcases List.append_eq_cons_iff.1 hall with ⟨rfl, -⟩ | ⟨steps, rfl, hrest⟩
    · exact ⟨_, _, .here⟩
    · obtain ⟨mid, place, hr⟩ := ih hrest.symm
      exact ⟨mid, place, .dots hr⟩
  | directory hn hentry h ih =>
    rcases List.append_eq_cons_iff.1 hall with ⟨rfl, -⟩ | ⟨steps, rfl, hrest⟩
    · exact ⟨_, _, .here⟩
    · obtain ⟨mid, place, hr⟩ := ih hrest.symm
      exact ⟨mid, place, .directory hn hentry hr⟩
  | link hn hentry h ih =>
    rcases List.append_eq_cons_iff.1 hall with ⟨rfl, -⟩ | ⟨steps, rfl, hrest⟩
    · exact ⟨_, _, .here⟩
    · obtain ⟨mid, place, hr⟩ := ih (by rw [hrest, List.append_assoc])
      exact ⟨mid, place, .link hn hentry hr⟩

/-- Steps that lead to a directory do not lead to a file as well. -/
theorem directory_of_walk (h : Reaches d links dir steps left goal) {n : Nat} {parent : Location}
    {name : String} (hw : walk d true n dir steps = .ok (.named parent name)) :
    d.get? (parent ++ [name]) = some .directory := by
  induction h generalizing n with
  | here => simp at hw
  | dot _ ih => exact ih (by rwa [walk_dot] at hw)
  | dots _ ih => exact ih (by rwa [walk_dots] at hw)
  | @directory _ _ dir _ step steps hn hentry _ ih =>
    cases steps with
    | nil =>
      rw [walk_last hn (.inr fun target => by simp [hentry])] at hw
      cases hw
      exact hentry
    | cons _ _ => exact ih (by rwa [walk_directory hn hentry (by simp)] at hw)
  | link hn hentry _ ih =>
    cases n with
    | zero => rw [walk_link_spent hn hentry] at hw; cases hw
    | succ n => exact ih (by rwa [walk_link hn hentry (.inr rfl)] at hw)

end Reaches

/-! ## Entries that no way gets past -/

/-- The entry is no directory, and no link to one. -/
structure Blocks (d : Disk) (parent : Location) (name : String) : Prop where
  not_directory : d.get? (parent ++ [name]) ≠ some .directory
  not_link : ∀ target, d.get? (parent ++ [name]) = some (.link target) → ∀ links left goal,
    ¬ Reaches d links (startOf target parent) (Route.ofText target).steps left goal

/-- What leads to a file is no directory, and no link to one. -/
theorem blocks_of_walk {d : Disk} {links : Nat} {parent l : Location} {name last : String}
    (hn : IsName name) (h : walk d true links parent [name] = .ok (.named l last))
    (hfile : d.get? (l ++ [last]) ≠ some .directory) : Blocks d parent name := by
  refine ⟨?_, ?_⟩
  · intro hentry
    rw [walk_last hn (.inr fun target => by simp [hentry])] at h
    cases h
    exact hfile hentry
  · intro target hentry n left goal hr
    cases links with
    | zero => rw [walk_link_spent hn hentry] at h; cases h
    | succ links =>
      rw [walk_link hn hentry (.inr rfl), List.append_nil] at h
      exact hfile (hr.directory_of_walk h)

/-- A change at such an entry leaves every way as it was. -/
theorem Reaches.frame {d d' : Disk} {links left : Nat} {dir goal parent : Location}
    {steps : List String} {name : String} (h : Reaches d links dir steps left goal)
    (hb : Blocks d parent name) (hsame : ∀ l, l ≠ parent ++ [name] → d'.get? l = d.get? l) :
    Reaches d' links dir steps left goal := by
  induction h with
  | here => exact .here
  | dot _ ih => exact .dot ih
  | dots _ ih => exact .dots ih
  | directory hn hentry _ ih =>
    refine .directory hn ?_ ih
    rw [hsame _ (by rintro heq; exact hb.not_directory (heq ▸ hentry)), hentry]
  | @link _ _ dir _ last target _ hn hentry h ih =>
    refine .link hn ?_ ih
    rw [hsame _ ?_, hentry]
    intro heq
    obtain ⟨rfl, -⟩ := List.append_inj' heq rfl
    obtain ⟨mid, place, hr⟩ := h.prefix_of_append
    exact hb.not_link target (heq ▸ hentry) _ _ _ hr

end NodeSettings.Files
