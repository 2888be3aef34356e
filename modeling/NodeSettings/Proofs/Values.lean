-- What stands under a key of settings that were read: the value that the
-- document has for the key, converted to its kind, or else the zero of that
-- kind. A key that is defined is never filled in.
import NodeSettings.Proofs.Loading

namespace NodeSettings

open Toml (Value Table)

/-! ## Kinds -/

/-- What a key holds that was not given. -/
def Kind.zero : (k : Kind) → k.Content
  | .port => 0
  | .text => ""
  | .flag => false
  | .amount => .zero

theorem Settings.get_default (k : Key) : ({} : Settings).get k = k.kind.zero := by
  cases k <;> rfl

/-- The content that a value stands for. A date or a time is taken as its text, and an integer as
the nearest amount. -/
inductive Kind.Gives : (k : Kind) → Value → k.Content → Prop
  | port (n : UInt16) : Gives .port (.scalar (.integer n.toNat)) n
  | text (s : String) : Gives .text (.scalar (.text s)) s
  | moment (m : Toml.Moment) : Gives .text (.scalar (.moment m)) (String.ofList m.text)
  | flag (b : Bool) : Gives .flag (.scalar (.flag b)) b
  | amount (x : Decimal.Binary64) : Gives .amount (.scalar (.number x)) x
  | whole (n : Int) : Gives .amount (.scalar (.integer n)) (.ofInt n)

theorem Kind.gives_of_take {k : Kind} {v : Value} {a : k.Content} (h : k.take v = .ok a) :
    k.Gives v a := by
  unfold Kind.take at h
  split at h
  · rename_i n
    split at h
    · rename_i hrange
      simp only [Bool.and_eq_true, decide_eq_true_eq] at hrange
      cases h
      have hport := Gives.port (UInt16.ofNat n.toNat)
      have hlt : n.toNat < UInt16.size := (Int.toNat_lt hrange.1).2 hrange.2
      rw [UInt16.toNat_ofNat_of_lt' hlt, Int.toNat_of_nonneg hrange.1] at hport
      exact hport
    · cases h
  · cases h
    exact .text _
  · cases h
    exact .moment _
  · cases h
    exact .flag _
  · cases h
    exact .amount _
  · cases h
    exact .whole _
  · cases h

/-! ## Entries by their keys -/

namespace Toml.Table

theorem get?_cons_self (name : String) (v : Value) (es : Table) :
    Table.get? ((name, v) :: es) name = some v := by
  simp [get?]

theorem get?_cons_ne {name name' : String} {v : Value} {es : Table} (h : name' ≠ name) :
    Table.get? ((name, v) :: es) name' = es.get? name' := by
  have hne : (name' == name) = false := by simpa using h
  simp [get?, List.lookup_cons, hne]

theorem get?_eq_none {name : String} {es : Table} (h : name ∉ es.map (·.1)) :
    es.get? name = none := by
  unfold get?
  rw [List.lookup_eq_none_iff]
  intro e he
  rw [bne_iff_ne]
  rintro rfl
  exact h (List.mem_map_of_mem he)

end Toml.Table

/-! ## Sections and keys by their names -/

theorem Section.ofName?_eq_some_iff {name : String} {s : Section} :
    Section.ofName? name = some s ↔ s.name = name := by
  constructor
  · intro h
    simpa using List.find?_some h
  · rintro rfl
    exact Section.ofName?_name s

theorem Section.key?_eq_some_iff {s : Section} {name : String} {k : Key} :
    s.key? name = some k ↔ k.home = s ∧ k.name = name := by
  constructor
  · intro h
    exact ⟨Section.mem_keys_iff.1 (List.mem_of_find?_eq_some h), by simpa using List.find?_some h⟩
  · rintro ⟨rfl, rfl⟩
    exact Section.key?_name k

theorem Section.nodup_keys (s : Section) : s.keys.Nodup := by
  cases s <;> decide

namespace Settings

/-! ## What reading leaves under a key -/

theorem bind_eq_ok {ε α β : Type} {x : Except ε α} {f : α → Except ε β} {b : β} :
    (x >>= f) = .ok b ↔ ∃ a, x = .ok a ∧ f a = .ok b := by
  cases x <;> simp [bind, Except.bind]

/-- The key holds what was found for it, or what it held before if there was nothing. -/
def Taken (k : Key) (found : Option Value) (before after : Settings) : Prop :=
  match found with
  | some v => k.kind.take v = .ok (after.get k)
  | none => after.get k = before.get k

theorem Taken.rfl {k : Key} {c : Settings} : Taken k none c c := Eq.refl _

theorem Taken.after_none {k : Key} {found : Option Value} {c c₁ c' : Settings}
    (h₁ : Taken k none c c₁) (h₂ : Taken k found c₁ c') : Taken k found c c' := by
  cases found with
  | none => exact h₂.trans h₁
  | some v => exact h₂

theorem Taken.before_none {k : Key} {found : Option Value} {c c₁ c' : Settings}
    (h₁ : Taken k found c c₁) (h₂ : Taken k none c₁ c') : Taken k found c c' := by
  cases found with
  | none => exact h₂.trans h₁
  | some v => exact h₁.trans (congrArg _ h₂.symm)

theorem takeKey_taken {c c' : Settings} {k : Key} {named : Option Key} {v : Value}
    (h : c.takeKey k named v = .ok c') :
    Taken k (some v) c c' ∧ ∀ k', k' ≠ k → Taken k' none c c' := by
  unfold takeKey at h
  split at h
  · rename_i a htake
    cases h
    refine ⟨?_, fun k' hk' => get_put_other c a hk'⟩
    unfold Taken
    rw [get_put_same]
    exact htake
  · cases h

/-- Of the entries of a section, a key of it gets the one under its name. -/
theorem takeEntries_taken {s : Section} {es : Table} {c c' : Settings}
    (h : takeEntries s c es = .ok c') (hn : (es.map (·.1)).Nodup) (k : Key) :
    Taken k (if k.home = s then Table.get? es k.name else none) c c' := by
  induction es generalizing c with
  | nil =>
    cases h
    simpa [Table.get?] using Taken.rfl
  | cons e es ih =>
    obtain ⟨name, v⟩ := e
    obtain ⟨hname, hnodup⟩ := List.nodup_cons.1 hn
    -- Unless the entry is the one of `k`, it makes no difference to what is found.
    have hother : s.key? name ≠ some k →
        (if k.home = s then Table.get? ((name, v) :: es) k.name else none) =
          if k.home = s then Table.get? es k.name else none := by
      intro hne
      split
      · rename_i hhome
        refine Table.get?_cons_ne ?_
        rintro rfl
        exact hne (Section.key?_eq_some_iff.2 ⟨hhome, rfl⟩)
      · rfl
    rw [takeEntries] at h
    cases hkey : s.key? name with
    | none =>
      rw [hkey] at h
      rw [hother (by simp [hkey])]
      exact ih h hnodup
    | some k₁ =>
      rw [hkey] at h
      obtain ⟨c₁, hc₁, hes⟩ := bind_eq_ok.1 h
      obtain ⟨htaken, hkept⟩ := takeKey_taken hc₁
      by_cases hk : k = k₁
      · subst hk
        obtain ⟨hhome, rfl⟩ := Section.key?_eq_some_iff.1 hkey
        have hrest := ih hes hnodup
        rw [if_pos hhome] at hrest ⊢
        rw [Table.get?_eq_none hname] at hrest
        rw [Table.get?_cons_self]
        exact htaken.before_none hrest
      · rw [hother (by simpa [hkey] using Ne.symm hk)]
        exact (hkept k hk).after_none (ih hes hnodup)

/-- Of the items of a section, a key gets the one at its own place. -/
theorem takeItems_taken {ks : List Key} {vs : List Value} {c c' : Settings}
    (h : takeItems c ks vs = .ok c') (hn : ks.Nodup) (k : Key) :
    Taken k (if k ∈ ks then vs[ks.idxOf k]? else none) c c' := by
  induction ks generalizing vs c with
  | nil =>
    cases h
    simpa using Taken.rfl
  | cons k₁ ks ih =>
    obtain ⟨hk₁, hnodup⟩ := List.nodup_cons.1 hn
    cases vs with
    | nil =>
      cases h
      simpa using Taken.rfl
    | cons v vs =>
      obtain ⟨c₁, hc₁, hvs⟩ := bind_eq_ok.1 h
      obtain ⟨htaken, hkept⟩ := takeKey_taken hc₁
      have hrest := ih hvs hnodup
      by_cases hk : k = k₁
      · subst hk
        rw [if_neg hk₁] at hrest
        simpa using htaken.before_none hrest
      · have hfound : (if k ∈ k₁ :: ks then (v :: vs)[(k₁ :: ks).idxOf k]? else none) =
            if k ∈ ks then vs[ks.idxOf k]? else none := by
          rw [List.idxOf_cons_ne _ (Ne.symm hk)]
          simp [hk]
        rw [hfound]
        exact (hkept k hk).after_none hrest

/-- The value that stands for a key in a section: under its name in a table, at its place in an
array. -/
def under? (k : Key) : Value → Option Value
  | .table es => Table.get? es k.name
  | .list vs => vs[k.home.keys.idxOf k]?
  | .scalar _ => none

theorem takeSection_taken {s : Section} {v : Value} {c c' : Settings}
    (h : c.takeSection s v = .ok c') (hv : v.Sorted) (k : Key) :
    Taken k (if k.home = s then under? k v else none) c c' := by
  cases v with
  | scalar a => cases h
  | table es => exact takeEntries_taken h (Sorted.nodup_of_increasing hv.1) k
  | list vs =>
    obtain ⟨c₁, hitems, h⟩ := bind_eq_ok.1 h
    split at h
    · cases h
      have htaken := takeItems_taken hitems s.nodup_keys k
      simp only [Section.mem_keys_iff] at htaken
      by_cases hhome : k.home = s
      · subst hhome
        simpa [under?] using htaken
      · simpa [hhome] using htaken
    · cases h

/-- The value that stands for a key in a whole document. -/
def valueFor? (t : Table) (k : Key) : Option Value := (t.get? k.home.name).bind (under? k)

theorem takeSections_taken {t : Table} {c c' : Settings} (h : takeSections c t = .ok c')
    (ht : t.Sorted) (k : Key) : Taken k (valueFor? t k) c c' := by
  obtain ⟨hincreasing, hinner⟩ := ht
  have hn := Sorted.nodup_of_increasing hincreasing
  rw [Toml.entriesSorted_iff] at hinner
  clear hincreasing
  induction t generalizing c with
  | nil =>
    cases h
    exact Taken.rfl
  | cons e t ih =>
    obtain ⟨name, v⟩ := e
    obtain ⟨hname, hnodup⟩ := List.nodup_cons.1 hn
    have hrest := fun e he => hinner e (List.mem_cons_of_mem _ he)
    rw [takeSections] at h
    cases hsection : Section.ofName? name with
    | none =>
      rw [hsection] at h
      have hne : k.home.name ≠ name := by
        rintro rfl
        simp at hsection
      unfold valueFor?
      rw [Table.get?_cons_ne hne]
      exact ih h hrest hnodup
    | some s =>
      rw [hsection] at h
      obtain ⟨c₁, hc₁, hmore⟩ := bind_eq_ok.1 h
      obtain rfl := Section.ofName?_eq_some_iff.1 hsection
      have htaken := takeSection_taken hc₁ (hinner _ List.mem_cons_self) k
      have hmore := ih hmore hrest hnodup
      unfold valueFor? at hmore ⊢
      by_cases hhome : k.home = s
      · subst hhome
        rw [if_pos rfl] at htaken
        rw [Table.get?_eq_none hname] at hmore
        rw [Table.get?_cons_self]
        exact htaken.before_none hmore
      · rw [if_neg hhome] at htaken
        have hne : k.home.name ≠ s.name := by
          intro heq
          have hsame := Section.ofName?_name k.home
          rw [heq, Section.ofName?_name] at hsame
          exact hhome (Option.some.inj hsame).symm
        rw [Table.get?_cons_ne hne]
        exact htaken.after_none hmore

/-- Every section of a table that gives settings is taken. -/
theorem takeSection_of_takeSections {t : Table} {c c' : Settings} {s : Section} {v : Value}
    (h : takeSections c t = .ok c') (hmem : (s.name, v) ∈ t) :
    ∃ c₀ c₁, takeSection c₀ s v = .ok c₁ := by
  induction t generalizing c with
  | nil => simp at hmem
  | cons e t ih =>
    obtain ⟨name, w⟩ := e
    rw [takeSections] at h
    rcases List.mem_cons.1 hmem with heq | hmem
    · cases heq
      rw [Section.ofName?_name] at h
      obtain ⟨c₁, hc₁, -⟩ := bind_eq_ok.1 h
      exact ⟨c, c₁, hc₁⟩
    · split at h
      · exact ih h hmem
      · obtain ⟨c₁, -, hmore⟩ := bind_eq_ok.1 h
        exact ih hmore hmem

/-- A key of settings holds what stands for it in their table, or else the zero of its kind. -/
theorem get_of_ofTable {t : Table} {c : Settings} (h : ofTable t = .ok c) (ht : t.Sorted)
    (k : Key) :
    match valueFor? t k with
    | some v => k.kind.Gives v (c.get k)
    | none => c.get k = k.kind.zero := by
  have htaken := takeSections_taken h ht k
  unfold Taken at htaken
  cases hfound : valueFor? t k with
  | some v =>
    rw [hfound] at htaken
    exact Kind.gives_of_take htaken
  | none =>
    rw [hfound] at htaken
    exact htaken.trans (get_default k)

end Settings

/-! ## Presence and values -/

/-- What a table has for a key, what is recorded of it, and what the settings hold there. -/
structure Agrees (t : Table) (p : Presence) (c : Settings) (k : Key) : Prop where
  defined : p.defines [k.home.name, k.name] = true ↔
    ∃ es : Table, t.get? k.home.name = some (.table es) ∧ ∃ v, es.get? k.name = some v
  given : ∀ (es : Table) v, t.get? k.home.name = some (.table es) → es.get? k.name = some v →
    k.kind.Gives v (c.get k)
  left_out : ∀ es : Table, t.get? k.home.name = some (.table es) → es.get? k.name = none →
    c.get k = k.kind.zero
  absent : t.get? k.home.name = none → c.get k = k.kind.zero
  array : ∀ vs, t.get? k.home.name = some (.list vs) → p.defines [k.home.name] = true ∧
    ∀ path, path ≠ [] → p.defines (k.home.name :: path) = false
  item : ∀ (vs : List Value) (i : Nat) v, t.get? k.home.name = some (.list vs) → k.home.keys[i]? = some k →
    vs[i]? = some v → k.kind.Gives v (c.get k)
  no_item : ∀ (vs : List Value) (i : Nat), t.get? k.home.name = some (.list vs) → k.home.keys[i]? = some k →
    vs[i]? = none → c.get k = k.kind.zero
  shape : ∀ a, t.get? k.home.name ≠ some (.scalar a)

theorem Key.idxOf_keys {k : Key} {i : Nat} (h : k.home.keys[i]? = some k) :
    k.home.keys.idxOf k = i := by
  obtain ⟨hi, hk⟩ := List.getElem?_eq_some_iff.1 h
  have hindex := List.get_idxOf k.home.nodup_keys ⟨i, hi⟩
  rwa [List.get_eq_getElem, hk] at hindex

theorem agrees_of_ofTable {t : Table} {c : Settings} (h : Settings.ofTable t = .ok c)
    (ht : t.Sorted) (k : Key) : Agrees t (.ofTable t) c k := by
  have hget := Settings.get_of_ofTable h ht k
  unfold Settings.valueFor? at hget
  constructor
  case defined =>
    rw [Presence.defines_ofTable ht, Table.contains_inside (by simp)]
    simp only [Table.contains_key]
  case given =>
    intro es v hsection hv
    simpa [hsection, Settings.under?, hv] using hget
  case left_out =>
    intro es hsection hnone
    simpa [hsection, Settings.under?, hnone] using hget
  case absent =>
    intro hnone
    simpa [hnone] using hget
  case array =>
    intro vs hsection
    refine ⟨?_, ?_⟩
    · rw [Presence.defines_ofTable ht, Table.contains_key]
      exact ⟨_, hsection⟩
    · intro path hpath
      rw [← Bool.not_eq_true, Presence.defines_ofTable ht, Table.contains_inside hpath, hsection]
      simp
  case item =>
    intro vs i v hsection hi hv
    simpa [hsection, Settings.under?, Key.idxOf_keys hi, hv] using hget
  case no_item =>
    intro vs i hsection hi hnone
    simpa [hsection, Settings.under?, Key.idxOf_keys hi, hnone] using hget
  case shape =>
    intro a hsection
    obtain ⟨_, _, htake⟩ := Settings.takeSection_of_takeSections h (ht.get?_iff.1 hsection)
    cases htake

/-- Every key that is required is one that settings have. -/
theorem Mode.required_known (mode : Mode) : ∀ f ∈ mode.required, ∀ name, f.key? = some name →
    ∃ k : Key, k.home.name = f.head ∧ k.name = name := by
  have hknown : ∀ f ∈ mode.required, f.key?.all fun name =>
      Key.all.any fun k => k.home.name == f.head && k.name == name := by
    cases mode <;> decide
  intro f hf name hname
  have hany := hknown f hf
  rw [hname, Option.all_some, List.any_eq_true] at hany
  obtain ⟨k, -, hk⟩ := hany
  simp only [Bool.and_eq_true, beq_iff_eq] at hk
  exact ⟨k, hk⟩

namespace Repository

open Files (Disk)

/-- What a document has for a key, what is recorded of it, and what the settings hold under it agree.
So a loaded store has been given every key that its mode requires; none of them was filled in. -/
theorem keys_hold_what_was_given_for_them :
    (∀ text c p, Settings.decode text = .ok (c, p) →
      ∃ t, Toml.readTable text = some t ∧ ∀ k, Agrees t p c k) ∧
    ∀ root mode d s lines d',
      (load (m := StateM Disk) root mode).outcome.run d = ((.ok s, lines), d') →
      ∃ t, Reads d (settingsPath root) t s.settings ∧
        ∀ f ∈ mode.required, ∀ name, f.key? = some name → ∃ (k : Key) (es : Table) (v : Value),
          k.home.name = f.head ∧ k.name = name ∧ t.get? f.head = some (.table es) ∧
          es.get? name = some v ∧ k.kind.Gives v (s.settings.get k) := by
  refine ⟨?_, ?_⟩
  · intro text c p h
    obtain ⟨t, ht, hc, rfl⟩ := decode_ok_iff.1 h
    exact ⟨t, ht, agrees_of_ofTable hc (Toml.sorted_readTable ht)⟩
  · intro root mode d s lines d' h
    have hs := ((ends_load_storeAt root mode d).unique h).1.symm
    obtain ⟨t, c, hreads, hall, rfl⟩ := storeAt_ok_iff.1 hs
    refine ⟨t, hreads, ?_⟩
    intro f hf name hname
    obtain ⟨k, hhead, hkey⟩ := Mode.required_known mode f hf name hname
    have hcontains := hall f hf
    unfold FieldPath.segments at hcontains
    rw [hname] at hcontains
    obtain ⟨es, hsection, hinner⟩ := (Table.contains_inside (by simp)).1 hcontains
    obtain ⟨v, hv⟩ := Table.contains_key.1 hinner
    refine ⟨k, es, v, hhead, hkey, hsection, hv, ?_⟩
    subst hkey
    rw [← hhead] at hsection
    exact (agrees_of_ofTable hreads.fits hreads.sorted k).given es v hsection hv

theorem readTable_listed :
    Toml.readTable "LOG = ['a']" = some [("LOG", .list [.scalar (.text "a")])] := by
  cbv

theorem decode_listed : Settings.decode "LOG = ['a']" =
    .ok ({ log := { crtFile := "a" } }, ⟨[["LOG"]]⟩) :=
  Settings.decode_of_readTable readTable_listed rfl

/-- An item of an array is given to its key, but the key is not defined by it. In a store, a flag that
is off is so because the document says it. -/
theorem an_item_is_given_and_a_flag_is_written :
    (∃ t, Toml.readTable "LOG = ['a']" = some t ∧
      Kind.text.Gives (.scalar (.text "a")) "a" ∧
      ¬ ∃ es : Table, t.get? "LOG" = some (.table es) ∧ ∃ v, es.get? "CrtFile" = some v) ∧
    ∃ d s lines t, (load (m := StateM Disk) "repo" .standalone).outcome.run d =
        ((.ok s, lines), d) ∧ s.settings.ubi.ubiTask = false ∧
      Reads d (settingsPath "repo") t s.settings ∧
      ∃ (es : Table) (v : Value), t.get? "UBI" = some (.table es) ∧ es.get? "UbiTask" = some v := by
  refine ⟨?_, ?_⟩
  · obtain ⟨t, ht, hagrees⟩ := keys_hold_what_was_given_for_them.1 _ _ _ decode_listed
    have htable : t.get? "LOG" = some (.list [.scalar (.text "a")]) := by
      rw [readTable_listed] at ht
      cases ht
      rfl
    refine ⟨t, ht, (hagrees .crtFile).item _ 0 _ htable rfl rfl, ?_⟩
    intro hdefined
    exact absurd ((hagrees .crtFile).defined.2 hdefined) (by decide)
  · have hname : nameFor {} (.ok "box") = .ok "box" := rfl
    obtain ⟨_, d', _, -, hreplaced⟩ : ∃ lines d' parent,
        Ends (rewrite "repo" {} (asking fun _ => .ok "box")) linkedSettings
          (.ok (Override.settings {} "box" {})) lines d' ∧
        Replaced linkedSettings d' "repo" _ parent :=
      ends_rewrite_written settingsAt_linkedSettings hname
    obtain ⟨s, lines, hload, -, -, hsettings, -⟩ := hreplaced.loadsAs .standalone
    obtain ⟨t, hreads, hrequired⟩ := keys_hold_what_was_given_for_them.2 _ _ _ _ _ _ hload
    obtain ⟨k, es, v, hhead, hname, hsection, hv, -⟩ :=
      hrequired ⟨"UBI", "UbiTask"⟩ (by decide) _ rfl
    refine ⟨d', s, lines, t, hload, ?_, hreads, es, v, hsection, hv⟩
    rw [hsettings]
    rfl

end Repository

end NodeSettings
