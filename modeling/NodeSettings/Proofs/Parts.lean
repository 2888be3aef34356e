-- The parts in which a document writes its sections, and the table that they
-- make. It is told by what they assign: neither their order nor the way in
-- which a section is written makes a difference.
import NodeSettings.Proofs.Contents
import NodeSettings.Proofs.WrittenTable

namespace NodeSettings.Toml

/-! ## Places put under a key -/

namespace Children

@[simp] theorem lookup_put_same (key : String) (n : Node) (cs : Children) :
    (put key n cs).lookup key = some n := by
  induction cs with
  | nil => simp [put]
  | cons c cs ih =>
    obtain ⟨k, m⟩ := c
    rw [put]
    cases hk : key == k with
    | true => simp
    | false => simpa [List.lookup_cons, hk] using ih

theorem lookup_put_other {key k : String} (n : Node) (cs : Children) (h : k ≠ key) :
    (put key n cs).lookup k = cs.lookup k := by
  have hne : (k == key) = false := by simpa using h
  induction cs with
  | nil => simp [put, List.lookup_cons, hne]
  | cons c cs ih =>
    obtain ⟨k', m⟩ := c
    rw [put]
    cases hk : key == k' with
    | true =>
      obtain rfl := eq_of_beq hk
      simp [List.lookup_cons, hne]
    | false => simp [List.lookup_cons, ih]

theorem mem_keys_put {key k : String} {n : Node} {cs : Children}
    (h : k ∈ (put key n cs).map (·.1)) : k = key ∨ k ∈ cs.map (·.1) := by
  induction cs with
  | nil => simpa [put] using h
  | cons c cs ih =>
    obtain ⟨k', m⟩ := c
    rw [put] at h
    split at h
    · simp only [List.map_cons, List.mem_cons] at h ⊢
      exact h.imp_right .inr
    · simp only [List.map_cons, List.mem_cons] at h ⊢
      rcases h with rfl | h
      · exact .inr (.inl rfl)
      · exact (ih h).imp_right .inr

theorem nodup_put (key : String) (n : Node) {cs : Children} (h : (cs.map (·.1)).Nodup) :
    ((put key n cs).map (·.1)).Nodup := by
  induction cs with
  | nil => simp [put]
  | cons c cs ih =>
    obtain ⟨k, m⟩ := c
    rw [List.map_cons, List.nodup_cons] at h
    rw [put]
    split
    · rename_i hk
      obtain rfl := eq_of_beq hk
      exact List.nodup_cons.2 h
    · rename_i hk
      refine List.nodup_cons.2 ⟨fun hmem => ?_, ih h.2⟩
      rcases mem_keys_put hmem with rfl | hmem
      · exact hk (beq_self_eq_true _)
      · exact h.1 hmem

end Children

/-! ## Finished entries by their keys -/

theorem lookup_cons_other {α : Type} {key k : String} (a : α) (es : List (String × α))
    (h : k ≠ key) : List.lookup k ((key, a) :: es) = es.lookup k := by
  have hne : (k == key) = false := by simpa using h
  rw [List.lookup_cons, hne]

/-- Entries without a double key are finished if all their values are, and hold them sorted. -/
theorem entries?_eq_some_iff {cs : Children} (hn : (cs.map (·.1)).Nodup) {t : Table} :
    entries? cs = some t ↔
      Sorted.Increasing t ∧ ∀ k, (cs.lookup k).map Node.value? = (t.lookup k).map some := by
  induction cs generalizing t with
  | nil =>
    constructor
    · intro h
      obtain rfl := Option.some.inj h
      exact ⟨.nil, fun k => rfl⟩
    · rintro ⟨-, h⟩
      cases t with
      | nil => rfl
      | cons e t =>
        have hfirst := h e.1
        simp at hfirst
  | cons c cs ih =>
    obtain ⟨key, n⟩ := c
    rw [List.map_cons, List.nodup_cons] at hn
    obtain ⟨hkey, hn⟩ := hn
    have hnone : cs.lookup key = none := by
      refine List.lookup_eq_none_iff.2 fun e he => ?_
      rw [bne_iff_ne]
      rintro rfl
      exact hkey (List.mem_map_of_mem (f := (·.1)) he)
    constructor
    · intro h
      obtain ⟨v, hv, h⟩ := Option.bind_eq_some_iff.1 h
      obtain ⟨es, hes, h⟩ := Option.bind_eq_some_iff.1 h
      obtain rfl := Option.some.inj h
      obtain ⟨hsorted, hlookup⟩ := (ih hn).1 hes
      refine ⟨Sorted.increasing_put key v hsorted, fun k => ?_⟩
      by_cases hk : k = key
      · subst hk
        simp [hv]
      · rw [lookup_cons_other n cs hk, Sorted.lookup_put_other v es hk, hlookup]
    · rintro ⟨hsorted, hlookup⟩
      obtain ⟨v, hfound, hv⟩ : ∃ v, t.lookup key = some v ∧ n.value? = some v := by
        have hfirst := hlookup key
        rw [List.lookup_cons_self] at hfirst
        obtain ⟨v, hfound, hv⟩ := Option.map_eq_some_iff.1 hfirst.symm
        exact ⟨v, hfound, hv.symm⟩
      have hes : entries? cs = some (Sorted.remove key t) := by
        refine (ih hn).2 ⟨Sorted.increasing_remove key hsorted, fun k => ?_⟩
        by_cases hk : k = key
        · subst hk
          rw [hnone, Sorted.lookup_remove_same]
          rfl
        · rw [Sorted.lookup_remove_other t hk, ← hlookup, lookup_cons_other n cs hk]
      rw [entries?, hv, hes]
      exact congrArg some (Sorted.put_remove hsorted hfound)

/-- So entries that have the same values under the same keys come out the same. -/
theorem entries?_congr {cs cs' : Children} (hn : (cs.map (·.1)).Nodup)
    (hn' : (cs'.map (·.1)).Nodup)
    (h : ∀ k, (cs.lookup k).map Node.value? = (cs'.lookup k).map Node.value?) :
    entries? cs = entries? cs' := by
  refine Option.ext fun t => ?_
  rw [entries?_eq_some_iff hn, entries?_eq_some_iff hn']
  simp only [h]

theorem entries?_isSome {cs : Children} (h : ∀ e ∈ cs, e.2.value?.isSome) :
    (entries? cs).isSome := by
  induction cs with
  | nil => rfl
  | cons c cs ih =>
    obtain ⟨key, n⟩ := c
    obtain ⟨v, hv⟩ := Option.isSome_iff_exists.1 (h _ List.mem_cons_self)
    obtain ⟨es, hes⟩ := Option.isSome_iff_exists.1 (ih fun e he => h e (List.mem_cons_of_mem _ he))
    rw [entries?, hv, hes]
    rfl

/-! ## Entries of scalars -/

/-- The places of a table hold these scalars, each under its key, and one key came first. -/
structure Children.Lists (cs : Children) (value : String → Option Scalar)
    (first : Option String) : Prop where
  nodup : (cs.map (·.1)).Nodup
  found : ∀ k, cs.lookup k = (value k).map .leaf
  first : cs.head?.map (·.1) = first

/-- What should be a date or a time is found under its key, if that came first. -/
theorem Children.momentNode?_eq (cs : Children) : cs.momentNode? =
    if cs.head?.map (·.1) = some momentKey then cs.lookup momentKey else none := by
  cases cs with
  | nil => rfl
  | cons c cs =>
    obtain ⟨k, n⟩ := c
    rw [momentNode?, List.head?_cons, Option.map_some]
    by_cases hk : k = momentKey
    · subst hk
      simp
    · simp [hk]

theorem Children.head?_put (key : String) (n : Node) (cs : Children) :
    (Children.put key n cs).head?.map (·.1) = (cs.head?.map (·.1)).or (some key) := by
  cases cs with
  | nil => rfl
  | cons c cs =>
    obtain ⟨k, m⟩ := c
    rw [put]
    split
    · rename_i hk
      rw [eq_of_beq hk]
      rfl
    · rfl

namespace Children.Lists

variable {cs cs' : Children} {value : String → Option Scalar} {first first' : Option String}

theorem put (h : cs.Lists value first) {key : String} {s : Scalar}
    {value' : String → Option Scalar} (hsame : value' key = some s)
    (hother : ∀ k, k ≠ key → value' k = value k) :
    (Children.put key (.leaf s) cs).Lists value' (first.or (some key)) := by
  refine ⟨nodup_put key _ h.nodup, fun k => ?_, ?_⟩
  · by_cases hk : k = key
    · subst hk
      rw [lookup_put_same, hsame]
      rfl
    · rw [lookup_put_other _ _ hk, hother k hk, h.found]
  · rw [head?_put, h.first]

theorem entries?_eq (h : cs.Lists value first) (h' : cs'.Lists value first') :
    entries? cs = entries? cs' := by
  refine entries?_congr h.nodup h'.nodup fun k => ?_
  rw [h.found, h'.found]

/-- Scalars are finished values. -/
theorem entries?_isSome (h : cs.Lists value first) : (entries? cs).isSome := by
  refine Toml.entries?_isSome fun c hc => ?_
  have hfound := h.found c.1
  rw [(Sorted.lookup_iff_mem h.nodup).2 hc] at hfound
  obtain ⟨s, -, hs⟩ := Option.map_eq_some_iff.1 hfound.symm
  rw [← hs]
  rfl

/-- They are finished under the same keys. -/
theorem entries?_eq_some (h : cs.Lists value first) :
    ∃ es : Table, entries? cs = some es ∧ ∀ key, es.get? key = (value key).map .scalar := by
  obtain ⟨es, hes⟩ := Option.isSome_iff_exists.1 h.entries?_isSome
  obtain ⟨-, hlookup⟩ := (entries?_eq_some_iff h.nodup).1 hes
  refine ⟨es, hes, fun key => ?_⟩
  have hkey := hlookup key
  rw [h.found] at hkey
  refine Option.map_injective (Option.some_injective _) (hkey.symm.trans ?_)
  cases value key <;> rfl

theorem momentNode?_eq (h : cs.Lists value first) : cs.momentNode? =
    if first = some momentKey then (value momentKey).map .leaf else none := by
  rw [Children.momentNode?_eq, h.first, h.found]

/-- The value of a table of scalars does not depend on the order of its keys, except that a key that
comes first may make a date or a time of it. -/
theorem value?_eq (h : cs.Lists value first) (h' : cs'.Lists value first')
    (hfirst : first = some momentKey ↔ first' = some momentKey) :
    Children.value? cs (entries? cs) = Children.value? cs' (entries? cs') := by
  unfold Children.value?
  rw [h.momentNode?_eq, h'.momentNode?_eq, h.entries?_eq h']
  simp only [hfirst]

end Children.Lists

/-! ## Parts of a document -/

/-- What one part of a document writes: one key of a section under its dotted name, a section as an
inline table, or a section under its header. -/
inductive Part
  | dotted (name : String) (entry : String × Scalar)
  | inline (name : String) (entries : List (String × Scalar))
  | block (name : String) (entries : List (String × Scalar))

/-- Places for entries, in their order. -/
def leaves (entries : List (String × Scalar)) : Children :=
  entries.map fun e => (e.1, .leaf e.2)

namespace Part

/-- The section that the part belongs to. -/
def name : Part → String
  | .dotted name _ => name
  | .inline name _ => name
  | .block name _ => name

def entries : Part → List (String × Scalar)
  | .dotted _ entry => [entry]
  | .inline _ entries => entries
  | .block _ entries => entries

def isDotted : Part → Bool
  | .dotted _ _ => true
  | _ => false

def isBlock : Part → Bool
  | .block _ _ => true
  | _ => false

def statements : Part → List Statement
  | .dotted name entry => [.assign ⟨[name], entry.1⟩ (.leaf entry.2)]
  | .inline name entries => [.assign ⟨[], name⟩ (.inline (leaves entries))]
  | .block name entries =>
    .header ⟨[], name⟩ :: entries.map fun e => .assign ⟨[], e.1⟩ (.leaf e.2)

/-- What the part assigns, with the name of its section. -/
def assigned (p : Part) : List ((String × String) × Scalar) :=
  p.entries.map fun e => ((p.name, e.1), e.2)

end Part

/-- What parts assign under a key of a section. -/
def assignedTo (parts : List Part) (name key : String) : Option Scalar :=
  (parts.flatMap Part.assigned).lookup (name, key)

/-- The first key that parts assign in a section. -/
def firstKey (parts : List Part) (name : String) : Option String :=
  ((parts.flatMap Part.assigned).find? (·.1.1 == name)).map (·.1.2)

/-- Parts may stand together: a section with more than one part is written with dotted names, and
no key of it is assigned twice. -/
structure Compatible (parts : List Part) : Prop where
  inOneWay : parts.Pairwise fun p q => p.name = q.name → p.isDotted ∧ q.isDotted
  once : ((parts.flatMap Part.assigned).map (·.1)).Nodup

theorem assignedTo_eq_none {parts : List Part} {name : String}
    (h : ∀ p ∈ parts, p.name ≠ name) (key : String) : assignedTo parts name key = none := by
  refine List.lookup_eq_none_iff.2 fun e he => ?_
  obtain ⟨p, hp, he⟩ := List.mem_flatMap.1 he
  obtain ⟨e, -, rfl⟩ := List.mem_map.1 he
  rw [bne_iff_ne]
  intro heq
  exact h p hp (congrArg Prod.fst heq).symm

theorem lookup_assigned (p : Part) (name key : String) :
    p.assigned.lookup (name, key) = if name = p.name then p.entries.lookup key else none := by
  unfold Part.assigned
  by_cases hname : name = p.name
  · subst hname
    rw [if_pos rfl]
    induction p.entries with
    | nil => rfl
    | cons e es ih =>
      have hkey : ((p.name, key) == (p.name, e.1)) = (key == e.1) := by
        rw [Bool.eq_iff_iff]
        simp
      rw [List.map_cons, List.lookup_cons, List.lookup_cons, hkey, ih]
  · rw [if_neg hname, List.lookup_eq_none_iff]
    intro e he
    obtain ⟨e, -, rfl⟩ := List.mem_map.1 he
    rw [bne_iff_ne]
    intro heq
    exact hname (congrArg Prod.fst heq)

theorem assignedTo_concat (parts : List Part) (p : Part) (name key : String) :
    assignedTo (parts ++ [p]) name key =
      (assignedTo parts name key).or (if name = p.name then p.entries.lookup key else none) := by
  unfold assignedTo
  rw [List.flatMap_append, List.flatMap_singleton, List.lookup_append, lookup_assigned]

/-- A part assigns nothing in other sections. -/
theorem assignedTo_concat_other (parts : List Part) {p : Part} {name : String}
    (h : name ≠ p.name) : assignedTo (parts ++ [p]) name = assignedTo parts name := by
  funext key
  rw [assignedTo_concat, if_neg h, Option.or_none]

theorem firstKey_eq_none {parts : List Part} {name : String} (h : ∀ p ∈ parts, p.name ≠ name) :
    firstKey parts name = none := by
  unfold firstKey
  rw [List.find?_eq_none.2, Option.map_none]
  intro e he
  obtain ⟨p, hp, he⟩ := List.mem_flatMap.1 he
  obtain ⟨e, -, rfl⟩ := List.mem_map.1 he
  simpa using h p hp

theorem firstKey_concat (parts : List Part) (p : Part) : firstKey (parts ++ [p]) p.name =
    (firstKey parts p.name).or (p.entries.head?.map (·.1)) := by
  have hfind : (p.assigned.find? (·.1.1 == p.name)).map (·.1.2) = p.entries.head?.map (·.1) := by
    unfold Part.assigned
    cases p.entries <;> simp
  unfold firstKey
  rw [List.flatMap_append, List.flatMap_singleton, List.find?_append, Option.map_or, hfind]

theorem firstKey_concat_other (parts : List Part) {p : Part} {name : String} (h : name ≠ p.name) :
    firstKey (parts ++ [p]) name = firstKey parts name := by
  have hfind : p.assigned.find? (·.1.1 == name) = none := by
    refine List.find?_eq_none.2 fun e he => ?_
    obtain ⟨e, -, rfl⟩ := List.mem_map.1 he
    simpa using h.symm
  unfold firstKey
  rw [List.flatMap_append, List.flatMap_singleton, List.find?_append, hfind, Option.or_none]

/-- The places at the top after these parts: one for each section, which holds what was assigned in
it. -/
structure Holds (root : Children) (parts : List Part) : Prop where
  nodup : (root.map (·.1)).Nodup
  absent : ∀ name, (∀ p ∈ parts, p.name ≠ name) → root.lookup name = none
  present : ∀ p ∈ parts, ∃ (n : Node) (cs : Children), root.lookup p.name = some n ∧
    n.value? = Children.value? cs (entries? cs) ∧
      cs.Lists (assignedTo parts p.name) (firstKey parts p.name)
  dotted : ∀ p ∈ parts, p.isDotted = true → ∃ cs : Children,
    root.lookup p.name = some (.table .dottedKey cs) ∧
      cs.Lists (assignedTo parts p.name) (firstKey parts p.name)

theorem holds_nil : Holds [] [] :=
  ⟨List.nodup_nil, fun _ _ => rfl, by simp, by simp⟩

section

variable {root : Children} {parts : List Part} {p : Part}

/-- The next part changes the place of its own section, or makes it. -/
theorem Holds.put (h : Holds root parts) {n : Node} {cs : Children}
    (hn : n.value? = Children.value? cs (entries? cs))
    (hcs : cs.Lists (assignedTo (parts ++ [p]) p.name) (firstKey (parts ++ [p]) p.name))
    (hd : ∀ q ∈ parts ++ [p], q.name = p.name → q.isDotted = true → n = .table .dottedKey cs) :
    Holds (Children.put p.name n root) (parts ++ [p]) := by
  have hother : ∀ q ∈ parts ++ [p], q.name ≠ p.name →
      q ∈ parts ∧ (Children.put p.name n root).lookup q.name = root.lookup q.name ∧
        assignedTo (parts ++ [p]) q.name = assignedTo parts q.name ∧
          firstKey (parts ++ [p]) q.name = firstKey parts q.name := by
    intro q hq hname
    refine ⟨?_, Children.lookup_put_other n root hname, assignedTo_concat_other parts hname,
      firstKey_concat_other parts hname⟩
    rcases List.mem_append.1 hq with hq | hq
    · exact hq
    · rw [List.mem_singleton.1 hq] at hname
      exact absurd rfl hname
  refine ⟨Children.nodup_put p.name n h.nodup, ?_, ?_, ?_⟩
  · intro name hname
    rw [Children.lookup_put_other n root (hname p (by simp)).symm]
    exact h.absent name fun q hq => hname q (List.mem_append_left _ hq)
  · intro q hq
    by_cases hname : q.name = p.name
    · rw [hname, Children.lookup_put_same]
      exact ⟨n, cs, rfl, hn, hcs⟩
    · obtain ⟨hq, hlookup, hassigned, hfirst⟩ := hother q hq hname
      rw [hlookup, hassigned, hfirst]
      exact h.present q hq
  · intro q hq hdotted
    by_cases hname : q.name = p.name
    · rw [hname, Children.lookup_put_same, hd q hq hname hdotted]
      exact ⟨cs, rfl, hcs⟩
    · obtain ⟨hq, hlookup, hassigned, hfirst⟩ := hother q hq hname
      rw [hlookup, hassigned, hfirst]
      exact h.dotted q hq hdotted

theorem lists_leaves {entries : List (String × Scalar)} (h : (entries.map (·.1)).Nodup) :
    (leaves entries).Lists (fun key => entries.lookup key) (entries.head?.map (·.1)) := by
  unfold leaves
  refine ⟨by simpa [Function.comp_def] using h, fun key => ?_, by cases entries <;> rfl⟩
  clear h
  induction entries with
  | nil => rfl
  | cons e es ih =>
    rw [List.map_cons, List.lookup_cons, List.lookup_cons, ih]
    cases key == e.1 <;> rfl

/-- The keys of the last part are different, and none of them was assigned before. -/
theorem Compatible.last (h : Compatible (parts ++ [p])) : (p.entries.map (·.1)).Nodup ∧
    ∀ key ∈ p.entries.map (·.1), assignedTo parts p.name key = none := by
  have honce := h.once
  have hkeys : p.assigned.map (·.1) = (p.entries.map (·.1)).map fun key => (p.name, key) := by
    simp [Part.assigned]
  rw [List.flatMap_append, List.flatMap_singleton, List.map_append, List.nodup_append,
    hkeys] at honce
  obtain ⟨-, hnodup, hbefore⟩ := honce
  refine ⟨hnodup.of_map, fun key hkey => List.lookup_eq_none_iff.2 fun e he => ?_⟩
  rw [bne_iff_ne]
  intro heq
  exact hbefore e.1 (List.mem_map_of_mem he) (p.name, key) (List.mem_map_of_mem hkey) heq.symm

/-- In a section that comes up for the first time there is what the part assigns. -/
theorem lists_new (h : Compatible (parts ++ [p])) (hnew : ∀ q ∈ parts, q.name ≠ p.name) :
    (leaves p.entries).Lists (assignedTo (parts ++ [p]) p.name)
      (firstKey (parts ++ [p]) p.name) := by
  have hvalue : assignedTo (parts ++ [p]) p.name = fun key => p.entries.lookup key := by
    funext key
    rw [assignedTo_concat, assignedTo_eq_none hnew, if_pos rfl, Option.none_or]
  rw [hvalue, firstKey_concat, firstKey_eq_none hnew, Option.none_or]
  exact lists_leaves h.last.1

/-- Where the draft stands after a part. -/
def Part.under (p : Part) (current : List String) : List String :=
  if p.isBlock then [p.name] else current

theorem step_new (h : Holds root parts) (hc : Compatible (parts ++ [p]))
    (hnew : ∀ q ∈ parts, q.name ≠ p.name) {current : List String}
    (hcurrent : p.isBlock = false → current = []) : ∃ root',
      p.statements.foldlM Draft.step ⟨root, current⟩ = some ⟨root', p.under current⟩ ∧
        Holds root' (parts ++ [p]) := by
  have hlookup := h.absent p.name hnew
  have hlists := lists_new hc hnew
  have honly : ∀ q ∈ parts ++ [p], q.name = p.name → q = p := by
    intro q hq hname
    rcases List.mem_append.1 hq with hq | hq
    · exact absurd hname (hnew q hq)
    · exact List.mem_singleton.1 hq
  cases p with
  | dotted name entry =>
    obtain rfl := hcurrent rfl
    have hnone : root.lookup name = none := hlookup
    refine ⟨Children.put name (.table .dottedKey (leaves [entry])) root, ?_, ?_⟩
    · simp only [Part.statements, List.foldlM_cons, List.foldlM_nil, Draft.step, Children.within,
        Children.assign, hnone]
      rfl
    · exact h.put (p := .dotted name entry) rfl hlists fun _ _ _ _ => rfl
  | inline name entries =>
    obtain rfl := hcurrent rfl
    have hnone : root.lookup name = none := hlookup
    refine ⟨Children.put name (.inline (leaves entries)) root, ?_, ?_⟩
    · simp only [Part.statements, List.foldlM_cons, List.foldlM_nil, Draft.step, Children.within,
        Children.assign, hnone]
      rfl
    · refine h.put (p := .inline name entries) rfl hlists fun q hq hname hdotted => ?_
      rw [honly q hq hname] at hdotted
      cases hdotted
  | block name entries =>
    have hnone : root.lookup name = none := hlookup
    refine ⟨Children.put name (.table .header (leaves entries)) root, ?_, ?_⟩
    · have hkeys : (entries.map (·.1)).Nodup := hc.last.1
      rw [Part.statements, List.foldlM_cons, step_header hnone, Children.put_new _ hnone]
      exact foldlM_assign (·.1) (fun e => .leaf e.2) hnone entries [] (by simpa using hkeys)
    · refine h.put (p := .block name entries) rfl hlists fun q hq hname hdotted => ?_
      rw [honly q hq hname] at hdotted
      cases hdotted

/-- A further part of a section adds one key to the table that dotted names have made. -/
theorem step_more (h : Holds root parts) (hc : Compatible (parts ++ [p])) {q : Part}
    (hq : q ∈ parts) (hname : q.name = p.name) : ∃ root',
      p.statements.foldlM Draft.step ⟨root, []⟩ = some ⟨root', []⟩ ∧ Holds root' (parts ++ [p]) ∧
        p.isBlock = false := by
  obtain ⟨hqdotted, hpdotted⟩ :=
    (List.pairwise_append.1 hc.inOneWay).2.2 q hq p (List.mem_singleton_self p) hname
  obtain ⟨cs, hlookup, hlists⟩ := h.dotted q hq hqdotted
  rw [hname] at hlookup hlists
  cases p with
  | inline name entries => cases hpdotted
  | block name entries => cases hpdotted
  | dotted name entry =>
    have hfound : root.lookup name = some (.table .dottedKey cs) := hlookup
    have hfresh : assignedTo parts name entry.1 = none := hc.last.2 entry.1 (by simp [Part.entries])
    have hnone : cs.lookup entry.1 = none := by
      rw [hlists.found, Part.name, hfresh]
      rfl
    have hlists' : (Children.put entry.1 (.leaf entry.2) cs).Lists
        (assignedTo (parts ++ [.dotted name entry]) name)
        (firstKey (parts ++ [.dotted name entry]) name) := by
      have hfirst : firstKey (parts ++ [.dotted name entry]) name =
          (firstKey parts name).or (some entry.1) := firstKey_concat parts (.dotted name entry)
      rw [hfirst]
      refine hlists.put ?_ ?_
      · rw [assignedTo_concat, hfresh, Option.none_or, Part.name, if_pos rfl, Part.entries,
          List.lookup_cons_self]
      · intro k hk
        rw [assignedTo_concat, Part.name, if_pos rfl, Part.entries, lookup_cons_other _ _ hk]
        exact Option.or_none
    refine ⟨Children.put name (.table .dottedKey (Children.put entry.1 (.leaf entry.2) cs)) root,
      ?_, h.put (p := .dotted name entry) rfl hlists' fun _ _ _ _ => rfl, rfl⟩
    simp only [Part.statements, List.foldlM_cons, List.foldlM_nil, Draft.step, Children.within,
      Children.assign, hfound, hnone]
    rfl

theorem step_part (h : Holds root parts) (hc : Compatible (parts ++ [p])) {current : List String}
    (hcurrent : p.isBlock = false → current = []) : ∃ root',
      p.statements.foldlM Draft.step ⟨root, current⟩ = some ⟨root', p.under current⟩ ∧
        Holds root' (parts ++ [p]) := by
  by_cases hnew : ∀ q ∈ parts, q.name ≠ p.name
  · exact step_new h hc hnew hcurrent
  · push Not at hnew
    obtain ⟨q, hq, hname⟩ := hnew
    obtain ⟨root', hstep, hholds, hblock⟩ := step_more h hc hq hname
    obtain rfl := hcurrent hblock
    refine ⟨root', ?_, hholds⟩
    rw [hstep, Part.under, hblock]
    rfl

end

theorem Compatible.front {parts more : List Part} (h : Compatible (parts ++ more)) :
    Compatible parts := by
  refine ⟨(List.pairwise_append.1 h.inOneWay).1, ?_⟩
  have honce := h.once
  rw [List.flatMap_append, List.map_append] at honce
  exact (List.nodup_append.1 honce).1

/-- No part assigns a key twice. -/
theorem Compatible.keys_nodup {parts : List Part} (h : Compatible parts) {p : Part}
    (hp : p ∈ parts) : (p.entries.map (·.1)).Nodup := by
  obtain ⟨before, after, rfl⟩ := List.append_of_mem hp
  rw [List.append_cons] at h
  exact h.front.last.1

/-- Parts under headers come behind all others, as they must in a document. -/
def InOrder (parts : List Part) : Prop :=
  parts.Pairwise fun p q => p.isBlock = true → q.isBlock = true

theorem foldlM_parts {root : Children} {parts : List Part} (h : Holds root parts)
    (more : List Part) (hc : Compatible (parts ++ more)) (horder : InOrder more)
    {current : List String} (hcurrent : current = [] ∨ ∀ p ∈ more, p.isBlock = true) :
    ∃ root' last, (more.flatMap Part.statements).foldlM Draft.step ⟨root, current⟩ =
      some ⟨root', last⟩ ∧ Holds root' (parts ++ more) := by
  induction more generalizing root parts current with
  | nil => exact ⟨root, current, rfl, by rwa [List.append_nil]⟩
  | cons p more ih =>
    rw [List.append_cons] at hc
    obtain ⟨hlater, horder⟩ := List.pairwise_cons.1 horder
    have hhere : p.isBlock = false → current = [] := by
      intro hblock
      rcases hcurrent with hcurrent | hall
      · exact hcurrent
      · rw [hall p List.mem_cons_self] at hblock
        cases hblock
    obtain ⟨root₁, hstep, hholds⟩ := step_part h hc.front hhere
    have hnext : p.under current = [] ∨ ∀ q ∈ more, q.isBlock = true := by
      cases hblock : p.isBlock with
      | true => exact .inr fun q hq => hlater q hq hblock
      | false =>
        rw [Part.under, hblock]
        exact .inl (hhere hblock)
    obtain ⟨root', last, hfold, hholds'⟩ := ih hholds hc horder hnext
    refine ⟨root', last, ?_, ?_⟩
    · rw [List.flatMap_cons, List.foldlM_append, hstep]
      exact hfold
    · rwa [List.append_cons]

/-- The statements of parts make one table, which is told by what the parts assign. -/
theorem tableOf_parts {parts : List Part} (hc : Compatible parts) (horder : InOrder parts) :
    ∃ root, Holds root parts ∧ tableOf (parts.flatMap Part.statements) = entries? root := by
  obtain ⟨root, last, hfold, hholds⟩ := foldlM_parts holds_nil parts hc horder (.inl rfl)
  refine ⟨root, hholds, ?_⟩
  unfold tableOf
  rw [hfold]
  rfl

/-! ## Assignments -/

/-- Scalars for keys in sections, some of which may have no key at all. -/
structure Assignment where
  sections : Finset String
  value : String → String → Option Scalar

/-- The parts write the assignment: each of its sections in one way, and each of its keys once. -/
structure Writes (parts : List Part) (a : Assignment) : Prop extends Compatible parts where
  sections : ∀ name, name ∈ a.sections ↔ ∃ p ∈ parts, p.name = name
  values : ∀ name key, assignedTo parts name key = a.value name key

/-- Two ways to write an assignment make the same table, if they agree on the sections that begin
with the key of dates and times. -/
theorem Writes.tableOf_eq {parts parts' : List Part} {a : Assignment} (h : Writes parts a)
    (h' : Writes parts' a) (horder : InOrder parts) (horder' : InOrder parts')
    (hfirst : ∀ name, firstKey parts name = some momentKey ↔
      firstKey parts' name = some momentKey) :
    tableOf (parts.flatMap Part.statements) = tableOf (parts'.flatMap Part.statements) := by
  obtain ⟨root, hroot, htable⟩ := tableOf_parts h.toCompatible horder
  obtain ⟨root', hroot', htable'⟩ := tableOf_parts h'.toCompatible horder'
  rw [htable, htable']
  refine entries?_congr hroot.nodup hroot'.nodup fun name => ?_
  have hsame : assignedTo parts name = assignedTo parts' name := by
    funext key
    rw [h.values, h'.values]
  by_cases hname : name ∈ a.sections
  · obtain ⟨p, hp, rfl⟩ := (h.sections name).1 hname
    obtain ⟨p', hp', hp'name⟩ := (h'.sections p.name).1 hname
    obtain ⟨n, cs, hlookup, hvalue, hlists⟩ := hroot.present p hp
    obtain ⟨n', cs', hlookup', hvalue', hlists'⟩ := hroot'.present p' hp'
    rw [hp'name, ← hsame] at hlists'
    rw [hp'name] at hlookup'
    rw [hlookup, hlookup', Option.map_some, Option.map_some, hvalue, hvalue',
      hlists.value?_eq hlists' (hfirst p.name)]
  · have hnone : ∀ p ∈ parts, p.name ≠ name := fun p hp hpname =>
      hname ((h.sections name).2 ⟨p, hp, hpname⟩)
    have hnone' : ∀ p ∈ parts', p.name ≠ name := fun p hp hpname =>
      hname ((h'.sections name).2 ⟨p, hp, hpname⟩)
    rw [hroot.absent name hnone, hroot'.absent name hnone']

/-- The table has the sections of the assignment, with its scalars under their keys, and no more. -/
structure Assignment.Fills (a : Assignment) (t : Table) : Prop where
  absent : ∀ name, name ∉ a.sections → t.get? name = none
  present : ∀ name ∈ a.sections, ∃ es : Table, t.get? name = some (.table es) ∧
    ∀ key, es.get? key = (a.value name key).map .scalar

/-- Where no section begins with the key of dates and times, the parts make a table of what is
assigned. -/
theorem Writes.tableOf_fills {parts : List Part} {a : Assignment} (h : Writes parts a)
    (horder : InOrder parts) (hfirst : ∀ name, firstKey parts name ≠ some momentKey) :
    ∃ t, tableOf (parts.flatMap Part.statements) = some t ∧ a.Fills t := by
  obtain ⟨root, hroot, htable⟩ := tableOf_parts h.toCompatible horder
  have hsection : ∀ p ∈ parts, ∃ (n : Node) (es : Table), root.lookup p.name = some n ∧
      n.value? = some (.table es) ∧ ∀ key, es.get? key = (a.value p.name key).map .scalar := by
    intro p hp
    obtain ⟨n, cs, hlookup, hvalue, hlists⟩ := hroot.present p hp
    obtain ⟨es, hes, hkeys⟩ := hlists.entries?_eq_some
    refine ⟨n, es, hlookup, ?_, fun key => by rw [hkeys, h.values]⟩
    rw [hvalue, Children.value?, hlists.momentNode?_eq, if_neg (hfirst p.name), hes]
    rfl
  obtain ⟨t, ht⟩ : ∃ t, entries? root = some t := by
    refine Option.isSome_iff_exists.1 (entries?_isSome fun e he => ?_)
    have hlookup := (Sorted.lookup_iff_mem hroot.nodup).2 he
    obtain ⟨p, hp, hname⟩ : ∃ p ∈ parts, p.name = e.1 := by
      by_contra hnone
      push Not at hnone
      rw [hroot.absent e.1 hnone] at hlookup
      cases hlookup
    obtain ⟨n, es, hn, hvalue, -⟩ := hsection p hp
    rw [hname, hlookup] at hn
    obtain rfl := Option.some.inj hn
    rw [hvalue]
    rfl
  obtain ⟨-, hlookup⟩ := (entries?_eq_some_iff hroot.nodup).1 ht
  refine ⟨t, htable.trans ht, ?_, ?_⟩
  · intro name hname
    have hkey := hlookup name
    rw [hroot.absent name fun p hp hp' => hname ((h.sections name).2 ⟨p, hp, hp'⟩)] at hkey
    exact Option.map_eq_none_iff.1 hkey.symm
  · intro name hname
    obtain ⟨p, hp, rfl⟩ := (h.sections name).1 hname
    obtain ⟨n, es, hn, hvalue, hkeys⟩ := hsection p hp
    have hkey := hlookup p.name
    rw [hn, Option.map_some, hvalue] at hkey
    refine ⟨es, ?_, hkeys⟩
    exact Option.map_injective (Option.some_injective _) hkey.symm

end NodeSettings.Toml
