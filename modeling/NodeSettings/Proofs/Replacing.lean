-- A file that can be read can be taken away and written anew under the same
-- path. Then the path leads to the new file, and all other entries are as
-- they were.
import NodeSettings.Proofs.Contents
import NodeSettings.Proofs.Ways

namespace NodeSettings

namespace Files

/-! ## The text of a path -/

theorem splitSlashes_ne_nil (cs : List Char) : splitSlashes cs ≠ [] := by
  cases cs with
  | nil => simp [splitSlashes]
  | cons c cs =>
    unfold splitSlashes
    split
    · simp
    · split <;> simp

theorem splitSlashes_append (xs ys : List Char) :
    splitSlashes (xs ++ '/' :: ys) = splitSlashes xs ++ splitSlashes ys := by
  induction xs with
  | nil => simp [splitSlashes]
  | cons c cs ih =>
    rw [List.cons_append, splitSlashes, splitSlashes, ih]
    split
    · rfl
    · cases hparts : splitSlashes cs with
      | nil => exact absurd hparts (splitSlashes_ne_nil cs)
      | cons part parts => rfl

theorem splitSlashes_of_noSlash {cs : List Char} (h : '/' ∉ cs) : splitSlashes cs = [cs] := by
  induction cs with
  | nil => rfl
  | cons c cs ih =>
    rw [List.mem_cons, not_or] at h
    have hc : (c == '/') = false := by simpa using Ne.symm h.1
    rw [splitSlashes, hc, ih h.2]
    rfl

/-- A name stands at the end of a joined path, behind a slash if there is something in front. -/
theorem toList_join (root name : String) : ∃ front, (join root name).toList = front ++ name.toList ∧
    (front = [] ∨ ∃ cs, front = cs ++ ['/']) := by
  unfold join
  by_cases hempty : root.toList = []
  · refine ⟨[], ?_, .inl rfl⟩
    have hroot : root.isEmpty = true := by
      simpa [String.isEmpty_iff] using String.toList_eq_nil_iff.1 hempty
    rw [hroot]
    simp [hempty]
  have hroot : root.isEmpty = false := by
    simpa [String.isEmpty_iff] using fun h => hempty (String.toList_eq_nil_iff.2 h)
  by_cases hslash : endsInSlash root = true
  · obtain ⟨cs, hcs⟩ : ∃ cs, root.toList = cs ++ ['/'] := by
      unfold endsInSlash at hslash
      exact List.getLast?_eq_some_iff.1 (by simpa using hslash)
    refine ⟨root.toList, ?_, .inr ⟨cs, hcs⟩⟩
    simp [hslash]
  · refine ⟨root.toList ++ ['/'], ?_, .inr ⟨_, rfl⟩⟩
    simp [hroot, hslash]

/-- Nothing is taken away where no slash is at the end. -/
theorem withoutSlash_eq_self {path : String} (h : endsInSlash path = false) :
    withoutSlash path = path := by
  have hkept : (path.toList.reverse.dropWhile (· == '/')).reverse = path.toList := by
    rcases List.eq_nil_or_concat path.toList with hnil | ⟨front, last, hlast⟩
    · rw [hnil]
      rfl
    · rw [List.concat_eq_append] at hlast
      have hend : last ≠ '/' := by
        unfold endsInSlash at h
        simpa [hlast] using h
      rw [hlast, List.reverse_concat, List.dropWhile_cons_of_neg (by simpa using hend),
        ← List.reverse_concat, List.reverse_reverse]
  unfold withoutSlash
  rw [hkept]
  split
  · rfl
  · exact String.ofList_toList

/-- A path that names something by its last step. -/
structure EndsIn (path name : String) : Prop where
  isName : IsName name
  steps : ∃ steps, (Route.ofText path).steps = steps ++ [name]
  endsInSlash : endsInSlash path = false
  withoutSlash : withoutSlash path = path

theorem EndsIn.isEmpty {path name : String} (h : EndsIn path name) : path.isEmpty = false := by
  obtain ⟨steps, hsteps⟩ := h.steps
  rw [← Bool.not_eq_true, String.isEmpty_iff]
  rintro rfl
  have hnone : (Route.ofText "").steps = [] := by decide
  rw [hnone] at hsteps
  simp at hsteps

/-- The name may stand alone or behind a slash. -/
theorem endsIn_of_toList {path name : String} {front : List Char}
    (hpath : path.toList = front ++ name.toList) (hfront : front = [] ∨ ∃ cs, front = cs ++ ['/'])
    (hn : IsName name) (hne : name.toList ≠ []) (hslash : '/' ∉ name.toList) :
    EndsIn path name := by
  obtain ⟨init, last, hlast⟩ := (List.eq_nil_or_concat name.toList).resolve_left hne
  have hend : last ≠ '/' := by
    rintro rfl
    exact hslash (by simp [hlast])
  have hwhole : path.toList = front ++ init ++ [last] := by
    rw [hpath, hlast, List.concat_eq_append, List.append_assoc]
  have hends : endsInSlash path = false := by
    unfold endsInSlash
    rw [hwhole, List.getLast?_concat]
    simpa using hend
  refine ⟨hn, ?_, hends, withoutSlash_eq_self hends⟩
  obtain ⟨parts, hparts⟩ : ∃ parts, splitSlashes path.toList =
        parts ++ [name.toList] := by
    rw [hpath]
    rcases hfront with rfl | ⟨cs, rfl⟩
    · exact ⟨[], by rw [List.nil_append, splitSlashes_of_noSlash hslash, List.nil_append]⟩
    · refine ⟨splitSlashes cs, ?_⟩
      rw [List.append_assoc, List.singleton_append, splitSlashes_append,
        splitSlashes_of_noSlash hslash]
  refine ⟨(parts.filter (!·.isEmpty)).map String.ofList, ?_⟩
  unfold Route.ofText
  rw [hparts, hends]
  simp [List.filter_append, hne]

theorem endsIn_join (root : String) {name : String} (hn : IsName name) (hne : name.toList ≠ [])
    (hslash : '/' ∉ name.toList) : EndsIn (join root name) name := by
  obtain ⟨front, hpath, hfront⟩ := toList_join root name
  exact endsIn_of_toList hpath hfront hn hne hslash

/-- The same where the name stands behind others in what is joined. -/
theorem endsIn_join_append (root before : String) {name : String} (hn : IsName name)
    (hne : name.toList ≠ []) (hslash : '/' ∉ name.toList) :
    EndsIn (join root (before ++ "/" ++ name)) name := by
  obtain ⟨front, hpath, -⟩ := toList_join root (before ++ "/" ++ name)
  have hwhole : (join root (before ++ "/" ++ name)).toList =
      front ++ before.toList ++ ['/'] ++ name.toList := by
    rw [hpath]
    simp
  exact endsIn_of_toList hwhole (.inr ⟨_, rfl⟩) hn hne hslash

/-! ## The directory of a path -/

/-- A text that can be a path at all. -/
structure IsPath (path : String) : Prop where
  noNul : path.toList.contains '\x00' = false
  nonempty : path.isEmpty = false
  short : path.utf8ByteSize ≤ maxPathBytes

theorem place_of_isPath {d : Disk} {follow : Bool} {path : String} (h : IsPath path) :
    d.place follow path =
      walk d follow maxLinks (startOf path d.working) (Route.ofText path).steps := by
  unfold Disk.place
  rw [h.noNul, h.nonempty, if_neg (by simp), if_neg (by simp), if_neg (Nat.not_lt.2 h.short)]
  rfl

theorem place_ok {d : Disk} {follow : Bool} {path : String} {place : Place} :
    d.place follow path = .ok place ↔ IsPath path ∧
      walk d follow maxLinks (startOf path d.working) (Route.ofText path).steps = .ok place := by
  constructor
  · intro h
    have hpath : IsPath path := by
      unfold Disk.place at h
      split at h
      · cases h
      rename_i hnul
      split at h
      · cases h
      rename_i hempty
      split at h
      · cases h
      rename_i hlong
      exact ⟨by simpa using hnul, by simpa using hempty, Nat.not_lt.1 hlong⟩
    exact ⟨hpath, (place_of_isPath hpath).symm.trans h⟩
  · rintro ⟨hpath, hwalk⟩
    exact (place_of_isPath hpath).trans hwalk

/-- The path arrives at the directory `parent`, with `name` as its last step and so many links
left. -/
structure Leads (d : Disk) (path : String) (left : Nat) (parent : Location) (name : String) :
    Prop where
  endsIn : EndsIn path name
  noNul : path.toList.contains '\x00' = false
  nonempty : path.isEmpty = false
  short : path.utf8ByteSize ≤ maxPathBytes
  reaches : ∃ steps, (Route.ofText path).steps = steps ++ [name] ∧
    Reaches d maxLinks (startOf path d.working) steps left parent

namespace Leads

variable {d d' : Disk} {path name : String} {left : Nat} {parent : Location}

theorem isPath (h : Leads d path left parent name) : IsPath path := ⟨h.noNul, h.nonempty, h.short⟩

theorem place_eq (h : Leads d path left parent name) (follow : Bool) :
    d.place follow path = walk d follow left parent [name] := by
  obtain ⟨steps, hsteps, hr⟩ := h.reaches
  rw [place_of_isPath h.isPath, hsteps]
  exact hr.walk_append follow (by simp)

/-- A path that leads anywhere leads to a directory before its last step. -/
theorem of_place {follow : Bool} {place : Place} (he : EndsIn path name)
    (h : d.place follow path = .ok place) : ∃ left parent, Leads d path left parent name := by
  obtain ⟨steps, hsteps⟩ := he.steps
  obtain ⟨hpath, hwalk⟩ := place_ok.1 h
  rw [hsteps] at hwalk
  obtain ⟨left, parent, hr⟩ := Reaches.of_walk (by simp) hwalk
  exact ⟨left, parent, he, hpath.noNul, hpath.nonempty, hpath.short, steps, hsteps, hr⟩

theorem place_last (h : Leads d path left parent name) : d.place false path =
    .ok (.named parent name) := by
  rw [h.place_eq, walk_last h.endsIn.isName (.inl rfl)]

theorem place_followed (h : Leads d path left parent name)
    (hl : ∀ target, d.get? (parent ++ [name]) ≠ some (.link target)) (follow : Bool) :
    d.place follow path = .ok (.named parent name) := by
  rw [h.place_eq, walk_last h.endsIn.isName (.inr hl)]

theorem frame (h : Leads d path left parent name) {l : Location} {last : String}
    (hb : Blocks d l last) (hsame : ∀ l', l' ≠ l ++ [last] → d'.get? l' = d.get? l')
    (hw : d'.working = d.working) : Leads d' path left parent name := by
  obtain ⟨steps, hsteps, hr⟩ := h.reaches
  refine ⟨h.endsIn, h.noNul, h.nonempty, h.short, steps, hsteps, ?_⟩
  rw [hw]
  exact hr.frame hb hsame

end Leads

/-! ## Reading -/

/-- What is read stands somewhere as a file, or is the empty device. -/
theorem read_ok {d : Disk} {path : String} {bytes : ByteArray} (h : d.read path = .ok bytes) :
    ∃ l last, d.place true path = .ok (.named l last) ∧
      (d.get? (l ++ [last]) = some (.file bytes) ∨
        d.get? (l ++ [last]) = some (.device .null) ∧ bytes = .empty) := by
  unfold Disk.read Disk.target at h
  cases hplace : d.place true path with
  | error e => rw [hplace] at h; cases h
  | ok place =>
    rw [hplace] at h
    cases place with
    | directory l => cases h
    | named l last =>
      refine ⟨l, last, rfl, ?_⟩
      cases hentry : d.get? (l ++ [last]) with
      | none => simp [hentry, bind, Except.bind] at h
      | some e =>
        simp only [hentry, bind, Except.bind] at h
        split at h
        · cases h
          exact .inl rfl
        · cases h
        · cases h
          exact .inr ⟨rfl, rfl⟩
        · cases h
        · cases h

theorem read_file {d : Disk} {path : String} {l : Location} {last : String} {bytes : ByteArray}
    (hp : d.place true path = .ok (.named l last)) (he : d.get? (l ++ [last]) = some (.file bytes)) :
    d.read path = .ok bytes := by
  unfold Disk.read Disk.target
  rw [hp]
  simp [he, bind, Except.bind]

/-- The entry of a path that can be read is there, and no way gets past it. -/
theorem leads_of_read {d : Disk} {path name : String} {bytes : ByteArray} (he : EndsIn path name)
    (h : d.read path = .ok bytes) : ∃ left parent, Leads d path left parent name ∧
      Blocks d parent name ∧ ∃ e, d.get? (parent ++ [name]) = some e := by
  obtain ⟨l, last, hplace, hfile⟩ := read_ok h
  obtain ⟨left, parent, hleads⟩ := Leads.of_place he hplace
  have hwalk := hplace
  rw [hleads.place_eq] at hwalk
  have hnot : d.get? (l ++ [last]) ≠ some .directory := by
    rcases hfile with hfile | ⟨hfile, -⟩ <;> simp [hfile]
  refine ⟨left, parent, hleads, blocks_of_walk he.isName hwalk hnot, ?_⟩
  cases hentry : d.get? (parent ++ [name]) with
  | some e => exact ⟨e, rfl⟩
  | none =>
    rw [walk_last he.isName (.inr fun target => by simp [hentry])] at hwalk
    cases hwalk
    rcases hfile with hfile | ⟨hfile, -⟩ <;> simp [hentry] at hfile

/-! ## Taking away and writing anew -/

/-- The disk with a new file in place of an entry. -/
def Disk.replace (d : Disk) (l : Location) (content : ByteArray) : Disk :=
  (d.erase l).put l (.file content)

theorem get?_replace_same (d : Disk) (parent : Location) (name : String) (content : ByteArray) :
    (d.replace (parent ++ [name]) content).get? (parent ++ [name]) = some (.file content) :=
  Disk.get?_put_same _ _ (by simp)

theorem get?_replace_other (d : Disk) {l l' : Location} (content : ByteArray) (h : l' ≠ l) :
    (d.replace l content).get? l' = d.get? l' := by
  unfold Disk.replace
  rw [Disk.get?_put_other _ _ h, Disk.get?_erase_other _ h]

/-- Writing a file anew with what it holds changes nothing. -/
theorem replace_self {d : Disk} {l : Location} {content : ByteArray}
    (h : d.get? l = some (.file content)) : d.replace l content = d := by
  have hlookup : d.entries.lookup l = some (.file content) := by
    unfold Disk.get? at h
    split at h
    · cases h
    · exact h
  obtain ⟨entries, working, increasing⟩ := d
  simp only [Disk.replace, Disk.put, Disk.erase, Sorted.put_remove increasing hlookup]

section

variable {d : Disk} {path name : String} {left : Nat} {parent : Location}

theorem removeFile_of_leads (h : Leads d path left parent name) (hb : Blocks d parent name)
    {e : Entry} (he : d.get? (parent ++ [name]) = some e) :
    d.removeFile path = .ok (d.erase (parent ++ [name])) := by
  unfold Disk.removeFile
  rw [h.place_last]
  have hnot : e ≠ .directory := by
    rintro rfl
    exact hb.not_directory he
  simp only [bind, Except.bind, he]

theorem write_of_leads (h : Leads d path left parent name) (hn : d.get? (parent ++ [name]) = none)
    (content : ByteArray) :
    d.write path content = .ok (d.put (parent ++ [name]) (.file content)) := by
  unfold Disk.write
  rw [h.endsIn.withoutSlash, h.place_followed (by simp [hn]), h.endsIn.endsInSlash]
  simp [hn]

/-- A file that can be read can be replaced under its path, and then the path leads to the new
one. -/
theorem replace_of_read {bytes : ByteArray} (he : EndsIn path name) (h : d.read path = .ok bytes)
    (content : ByteArray) : ∃ parent,
      d.place false path = .ok (.named parent name) ∧
      d.removeFile path = .ok (d.erase (parent ++ [name])) ∧
      (d.erase (parent ++ [name])).write path content =
        .ok (d.replace (parent ++ [name]) content) ∧
      ∀ follow, (d.replace (parent ++ [name]) content).place follow path =
        .ok (.named parent name) := by
  obtain ⟨left, parent, hleads, hblocks, e, hentry⟩ := leads_of_read he h
  have herased : Leads (d.erase (parent ++ [name])) path left parent name :=
    hleads.frame hblocks (fun l' hl' => Disk.get?_erase_other _ hl') rfl
  have hreplaced : Leads (d.replace (parent ++ [name]) content) path left parent name :=
    hleads.frame hblocks (fun l' hl' => get?_replace_other _ _ hl') rfl
  refine ⟨parent, hleads.place_last, removeFile_of_leads hleads hblocks hentry,
    write_of_leads herased (Disk.get?_erase_same _ (by simp)) content, fun follow => ?_⟩
  exact hreplaced.place_followed (by simp [get?_replace_same]) follow

end

end Files

end NodeSettings
