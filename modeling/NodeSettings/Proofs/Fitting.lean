-- Which tables give settings, and what is reported of the others: of all that
-- does not fit, the first section by its name, and in that its first key.
import NodeSettings.Proofs.Closest
import NodeSettings.Proofs.Rearranging
import NodeSettings.Proofs.Values

namespace NodeSettings

open Toml (Value Table)

/-! ## Runs that end with the first failure -/

section

variable {ε σ β : Type} {step : σ → β → Except ε σ} {fits : β → Prop}

/-- If the state has no say in which steps fail, a run is through when no step of it fails. -/
theorem foldlM_ok_iff (h : ∀ a b, (∃ a', step a b = .ok a') ↔ fits b) (bs : List β) (a : σ) :
    (∃ a', bs.foldlM step a = .ok a') ↔ ∀ b ∈ bs, fits b := by
  induction bs generalizing a with
  | nil => simp [pure, Except.pure]
  | cons b bs ih =>
    simp only [List.foldlM_cons, Settings.bind_eq_ok, List.forall_mem_cons]
    constructor
    · rintro ⟨a', a₁, hb, hbs⟩
      exact ⟨(h a b).1 ⟨a₁, hb⟩, (ih a₁).1 ⟨a', hbs⟩⟩
    · rintro ⟨hb, hbs⟩
      obtain ⟨a₁, ha₁⟩ := (h a b).2 hb
      obtain ⟨a', ha'⟩ := (ih a₁).2 hbs
      exact ⟨a', a₁, ha₁, ha'⟩

theorem foldlM_error (h : ∀ a b, (∃ a', step a b = .ok a') ↔ fits b) {bs : List β} {a : σ} {e : ε}
    (hrun : bs.foldlM step a = .error e) :
    ∃ before b after a', bs = before ++ b :: after ∧ (∀ b' ∈ before, fits b') ∧
      step a' b = .error e := by
  induction bs generalizing a with
  | nil => cases hrun
  | cons b bs ih =>
    rw [List.foldlM_cons] at hrun
    cases hb : step a b with
    | error e' =>
      rw [hb] at hrun
      cases hrun
      exact ⟨[], b, bs, a, rfl, by simp, hb⟩
    | ok a₁ =>
      rw [hb] at hrun
      obtain ⟨before, b', after, a', rfl, hbefore, herror⟩ := ih hrun
      refine ⟨b :: before, b', after, a', rfl, ?_, herror⟩
      exact List.forall_mem_cons.2 ⟨(h a b).1 ⟨a₁, hb⟩, hbefore⟩

end

/-- Over entries in the order of their keys, the step that fails is the one of the least key. -/
theorem foldlM_error_least {ε σ α : Type} {step : σ → String × α → Except ε σ}
    {fits : String × α → Prop} (h : ∀ a e, (∃ a', step a e = .ok a') ↔ fits e)
    {es : List (String × α)} {a : σ} {e : ε} (hs : Sorted.Increasing es)
    (hrun : es.foldlM step a = .error e) :
    ∃ first a', first ∈ es ∧ step a' first = .error e ∧ ∀ e' ∈ es, e'.1 < first.1 → fits e' := by
  obtain ⟨before, first, after, a', rfl, hbefore, herror⟩ := foldlM_error h hrun
  refine ⟨first, a', by simp, herror, ?_⟩
  intro e' he' hlt
  unfold Sorted.Increasing at hs
  rw [List.map_append, List.map_cons, List.pairwise_append, List.pairwise_cons] at hs
  obtain ⟨-, ⟨hafter, -⟩, -⟩ := hs
  rcases List.mem_append.1 he' with he' | he'
  · exact hbefore e' he'
  rcases List.mem_cons.1 he' with rfl | he'
  · exact absurd hlt (Std.Irrefl.irrefl (r := (· < ·)) _)
  · exact absurd hlt (Std.Asymm.asymm (r := (· < ·)) _ _ (hafter _ (List.mem_map_of_mem he')))

/-! ## Values of a kind -/

/-- The values that a key of the kind can hold. -/
def Kind.Admits : Kind → Value → Prop
  | .port, v => ∃ n : Int, 0 ≤ n ∧ n ≤ 65535 ∧ v = .scalar (.integer n)
  | .text, v => (∃ s, v = .scalar (.text s)) ∨ ∃ m, v = .scalar (.moment m)
  | .flag, v => ∃ b, v = .scalar (.flag b)
  | .amount, v => (∃ x, v = .scalar (.number x)) ∨ ∃ n, v = .scalar (.integer n)

theorem Kind.Gives.admits {k : Kind} {v : Value} {a : k.Content} (h : k.Gives v a) :
    k.Admits v := by
  cases h with
  | port n =>
    have hn := UInt16.toNat_lt n
    exact ⟨n.toNat, by omega, by omega, rfl⟩
  | text s => exact .inl ⟨s, rfl⟩
  | moment m => exact .inr ⟨m, rfl⟩
  | flag b => exact ⟨b, rfl⟩
  | amount x => exact .inl ⟨x, rfl⟩
  | whole n => exact .inr ⟨n, rfl⟩

theorem Kind.take_of_admits {k : Kind} {v : Value} (h : k.Admits v) : ∃ a, k.take v = .ok a := by
  cases k with
  | port =>
    obtain ⟨n, hlow, hhigh, rfl⟩ := h
    have hrange : (0 ≤ n && n < 65536) = true := by
      simp only [Bool.and_eq_true, decide_eq_true_eq]
      omega
    exact ⟨_, if_pos hrange⟩
  | text =>
    obtain ⟨s, rfl⟩ | ⟨m, rfl⟩ := h
    · exact ⟨_, rfl⟩
    · exact ⟨_, rfl⟩
  | flag =>
    obtain ⟨b, rfl⟩ := h
    exact ⟨_, rfl⟩
  | amount =>
    obtain ⟨x, rfl⟩ | ⟨n, rfl⟩ := h
    · exact ⟨_, rfl⟩
    · exact ⟨_, rfl⟩

theorem Kind.take_ok_iff {k : Kind} {v : Value} : (∃ a, k.take v = .ok a) ↔ k.Admits v :=
  ⟨fun ⟨_, h⟩ => (gives_of_take h).admits, take_of_admits⟩

/-! ## Sections that fit -/

/-- What a section may be: a table in which each of its keys that is there holds a value of its
kind, or an array of such values in the order of the keys, and no more of them than there are keys.
-/
inductive Section.Fits (s : Section) : Value → Prop
  | table {es : Table} : (∀ (k : Key) v, k.home = s → (k.name, v) ∈ es → k.kind.Admits v) →
      Fits s (.table es)
  | list {vs : List Value} : vs.length ≤ s.keys.length →
      (∀ (i : Nat) (k : Key) v, s.keys[i]? = some k → vs[i]? = some v → k.kind.Admits v) →
      Fits s (.list vs)

/-- What is reported of a section that does not fit: in a table its first key by name that does not,
and else no key. -/
inductive Section.Offends (s : Section) : Value → Option Key → Prop
  | key {es : Table} {k : Key} {v : Value} : k.home = s → (k.name, v) ∈ es → ¬ k.kind.Admits v →
      (∀ (k' : Key) w, k'.home = s → k'.name < k.name → (k'.name, w) ∈ es → k'.kind.Admits w) →
      Offends s (.table es) (some k)
  | whole {v : Value} : (∀ es, v ≠ .table es) → ¬ s.Fits v → Offends s v none

namespace Settings

/-! ## Reading as a run over entries -/

def takeEntry (s : Section) (c : Settings) (e : String × Value) : Except Misfit Settings :=
  match s.key? e.1 with
  | none => .ok c
  | some k => c.takeKey k (some k) e.2

def takeItem (c : Settings) (e : Key × Value) : Except Misfit Settings := c.takeKey e.1 none e.2

def takeNamed (c : Settings) (e : String × Value) : Except Misfit Settings :=
  match Section.ofName? e.1 with
  | none => .ok c
  | some s => c.takeSection s e.2

theorem takeEntries_eq_foldlM (s : Section) (c : Settings) (es : Table) :
    takeEntries s c es = es.foldlM (takeEntry s) c := by
  induction es generalizing c with
  | nil => rfl
  | cons e es ih =>
    obtain ⟨name, v⟩ := e
    rw [takeEntries, List.foldlM_cons, takeEntry]
    dsimp only
    cases s.key? name with
    | none => exact ih c
    | some k => simp only [ih]

theorem takeSections_eq_foldlM (c : Settings) (t : Table) :
    takeSections c t = t.foldlM takeNamed c := by
  induction t generalizing c with
  | nil => rfl
  | cons e t ih =>
    obtain ⟨name, v⟩ := e
    rw [takeSections, List.foldlM_cons, takeNamed]
    dsimp only
    cases Section.ofName? name with
    | none => exact ih c
    | some s => simp only [ih]

theorem takeItems_eq_foldlM (c : Settings) (ks : List Key) (vs : List Value) :
    takeItems c ks vs = (ks.zip vs).foldlM takeItem c := by
  induction ks generalizing c vs with
  | nil => rfl
  | cons k ks ih =>
    cases vs with
    | nil => rfl
    | cons v vs =>
      rw [takeItems, List.zip_cons_cons, List.foldlM_cons, takeItem]
      simp only [ih]

/-! ## What is taken -/

variable {c : Settings} {s : Section}

theorem takeKey_ok_iff {k : Key} {named : Option Key} {v : Value} :
    (∃ c', c.takeKey k named v = .ok c') ↔ k.kind.Admits v := by
  rw [← Kind.take_ok_iff]
  unfold takeKey
  cases k.kind.take v <;> simp

theorem takeKey_error {k : Key} {named : Option Key} {v : Value} {m : Misfit}
    (h : c.takeKey k named v = .error m) :
    m.part = k.home ∧ m.key? = named ∧ ¬ k.kind.Admits v := by
  refine ⟨?_, ?_, fun hadmits => ?_⟩
  · unfold takeKey at h
    split at h <;> cases h
    rfl
  · unfold takeKey at h
    split at h <;> cases h
    rfl
  · obtain ⟨c', hc'⟩ := takeKey_ok_iff.2 hadmits
    rw [hc'] at h
    cases h

theorem takeEntry_ok_iff (c : Settings) (e : String × Value) :
    (∃ c', takeEntry s c e = .ok c') ↔ ∀ k, s.key? e.1 = some k → k.kind.Admits e.2 := by
  unfold takeEntry
  cases s.key? e.1 with
  | none => simp
  | some k => simp [takeKey_ok_iff]

theorem takeItem_ok_iff (c : Settings) (e : Key × Value) :
    (∃ c', takeItem c e = .ok c') ↔ e.1.kind.Admits e.2 :=
  takeKey_ok_iff

theorem takeItems_ok_iff (vs : List Value) : (∃ c', takeItems c s.keys vs = .ok c') ↔
    ∀ (i : Nat) (k : Key) v, s.keys[i]? = some k → vs[i]? = some v → k.kind.Admits v := by
  rw [takeItems_eq_foldlM, foldlM_ok_iff takeItem_ok_iff]
  constructor
  · intro h i k v hk hv
    exact h (k, v) (List.mem_iff_getElem?.2 ⟨i, List.getElem?_zip_eq_some.2 ⟨hk, hv⟩⟩)
  · intro h e he
    obtain ⟨i, hi⟩ := List.mem_iff_getElem?.1 he
    obtain ⟨hk, hv⟩ := List.getElem?_zip_eq_some.1 hi
    exact h i e.1 e.2 hk hv

theorem takeSection_ok_iff (c : Settings) (s : Section) (v : Value) :
    (∃ c', c.takeSection s v = .ok c') ↔ s.Fits v := by
  cases v with
  | scalar a =>
    constructor
    · rintro ⟨c', h⟩
      cases h
    · intro h
      cases h
  | table es =>
    rw [takeSection, takeEntries_eq_foldlM, foldlM_ok_iff takeEntry_ok_iff]
    constructor
    · intro h
      refine .table fun k v hhome hmem => h _ hmem k ?_
      exact Section.key?_eq_some_iff.2 ⟨hhome, rfl⟩
    · rintro ⟨h⟩ e he k hk
      obtain ⟨hhome, hname⟩ := Section.key?_eq_some_iff.1 hk
      exact h k e.2 hhome (hname ▸ he)
  | list vs =>
    rw [takeSection]
    constructor
    · rintro ⟨c', h⟩
      obtain ⟨c₁, hitems, h⟩ := bind_eq_ok.1 h
      split at h
      · rename_i hlength
        exact .list hlength ((takeItems_ok_iff vs).1 ⟨c₁, hitems⟩)
      · cases h
    · intro h
      cases h with
      | list hlength hitems =>
        obtain ⟨c₁, hc₁⟩ := (takeItems_ok_iff (c := c) vs).2 hitems
        rw [hc₁]
        exact ⟨c₁, if_pos hlength⟩

theorem takeNamed_ok_iff (c : Settings) (e : String × Value) :
    (∃ c', takeNamed c e = .ok c') ↔ ∀ s, Section.ofName? e.1 = some s → s.Fits e.2 := by
  unfold takeNamed
  cases Section.ofName? e.1 with
  | none => simp
  | some s => simp [takeSection_ok_iff]

/-! ## What is not taken -/

theorem takeEntries_error {c : Settings} {es : Table} {m : Misfit} (hs : Sorted.Increasing es)
    (h : takeEntries s c es = .error m) : m.part = s ∧ s.Offends (.table es) m.key? := by
  rw [takeEntries_eq_foldlM] at h
  obtain ⟨⟨name, v⟩, c₁, hmem, herror, hbelow⟩ := foldlM_error_least takeEntry_ok_iff hs h
  unfold takeEntry at herror
  cases hkey : s.key? name with
  | none =>
    rw [hkey] at herror
    cases herror
  | some k =>
    rw [hkey] at herror
    obtain ⟨rfl, rfl⟩ := Section.key?_eq_some_iff.1 hkey
    obtain ⟨hpart, hnamed, hnot⟩ := takeKey_error herror
    rw [hnamed]
    refine ⟨hpart, .key rfl hmem hnot ?_⟩
    intro k' w hhome hlt hmem'
    exact hbelow _ hmem' hlt k' (Section.key?_eq_some_iff.2 ⟨hhome, rfl⟩)

theorem takeItems_error {vs : List Value} {m : Misfit} (h : takeItems c s.keys vs = .error m) :
    m.part = s ∧ m.key? = none := by
  rw [takeItems_eq_foldlM] at h
  obtain ⟨before, ⟨k, v⟩, after, c₁, hzip, -, herror⟩ := foldlM_error takeItem_ok_iff h
  obtain ⟨hpart, hnamed, -⟩ := takeKey_error herror
  have hmem : (k, v) ∈ s.keys.zip vs := by simp [hzip]
  rw [hpart, Section.mem_keys_iff.1 (List.of_mem_zip hmem).1]
  exact ⟨rfl, hnamed⟩

theorem takeSection_error {v : Value} {m : Misfit} (hv : v.Sorted)
    (h : c.takeSection s v = .error m) : m.part = s ∧ s.Offends v m.key? := by
  have hnot : ¬ s.Fits v := by
    intro hfits
    obtain ⟨c', hc'⟩ := (takeSection_ok_iff c s v).2 hfits
    rw [hc'] at h
    cases h
  cases v with
  | scalar a =>
    cases h
    exact ⟨rfl, .whole (by simp) hnot⟩
  | table es => exact takeEntries_error hv.1 h
  | list vs =>
    -- A misfit in an array is reported for the section, and so is an item too many.
    suffices hwhole : m.part = s ∧ m.key? = none by
      rw [hwhole.2]
      exact ⟨hwhole.1, .whole (by simp) hnot⟩
    rw [takeSection] at h
    cases hitems : takeItems c s.keys vs with
    | error m' =>
      rw [hitems] at h
      cases h
      exact takeItems_error hitems
    | ok c₁ =>
      rw [hitems] at h
      by_cases hlength : vs.length ≤ s.keys.length
      · exact nomatch (if_pos hlength).symm.trans h
      · cases (if_neg hlength).symm.trans h
        exact ⟨rfl, rfl⟩

end Settings

/-- The misfit is in the first section by name that does not fit, and where that is a table at its
first key that does not. -/
structure FirstMisfit (t : Table) (m : Misfit) : Prop where
  offends : ∃ v, (m.part.name, v) ∈ t ∧ m.part.Offends v m.key?
  below : ∀ (s : Section) v, s.name < m.part.name → (s.name, v) ∈ t → s.Fits v

namespace Settings

theorem ofTable_ok_iff {t : Table} :
    (∃ c, ofTable t = .ok c) ↔ ∀ (s : Section) v, (s.name, v) ∈ t → s.Fits v := by
  unfold ofTable
  rw [takeSections_eq_foldlM, foldlM_ok_iff takeNamed_ok_iff]
  constructor
  · intro h s v hmem
    exact h _ hmem s (Section.ofName?_name s)
  · intro h e he s hs
    exact h s e.2 ((Section.ofName?_eq_some_iff.1 hs).symm ▸ he)

theorem firstMisfit_of_ofTable {t : Table} {m : Misfit} (ht : t.Sorted)
    (h : ofTable t = .error m) : FirstMisfit t m := by
  unfold ofTable at h
  rw [takeSections_eq_foldlM] at h
  obtain ⟨⟨name, v⟩, c, hmem, herror, hbelow⟩ := foldlM_error_least takeNamed_ok_iff ht.1 h
  unfold takeNamed at herror
  cases hsection : Section.ofName? name with
  | none =>
    rw [hsection] at herror
    cases herror
  | some s =>
    rw [hsection] at herror
    obtain rfl := Section.ofName?_eq_some_iff.1 hsection
    obtain ⟨rfl, hoffends⟩ := takeSection_error (Toml.entriesSorted_iff.1 ht.2 _ hmem) herror
    refine ⟨⟨v, hmem, hoffends⟩, ?_⟩
    intro s w hlt hmem'
    exact hbelow _ hmem' hlt s (Section.ofName?_name s)

theorem Kind.eq_ofInt_of_gives {n : Int} {x : Decimal.Binary64}
    (h : Kind.amount.Gives (.scalar (.integer n)) x) : x = .ofInt n := by
  generalize hv : Value.scalar (.integer n) = v at h
  cases h with
  | amount y => cases hv
  | whole m => cases hv; rfl

/-- The settings hold what their table gives, numbers as they are: no port is wrapped, and an
integer becomes the nearest amount. -/
structure Holds (t : Table) (c : Settings) : Prop where
  given : ∀ k v, valueFor? t k = some v → k.kind.Gives v (c.get k)
  port : ∀ n, valueFor? t .port = some (.scalar (.integer n)) → (c.api.port.toNat : ℤ) = n
  threshold : ∀ n : ℤ, n.natAbs < 2 ^ 1023 →
    valueFor? t .balanceThreshold = some (.scalar (.integer n)) →
    c.hub.balanceThreshold.NearestTo n

theorem holds_of_ofTable {t : Table} {c : Settings} (ht : t.Sorted) (h : ofTable t = .ok c) :
    Holds t c := by
  have hgiven : ∀ k v, valueFor? t k = some v → k.kind.Gives v (c.get k) := by
    intro k v hv
    have hget := get_of_ofTable h ht k
    rwa [hv] at hget
  refine ⟨hgiven, fun n hn => ?_, fun n hsmall hn => ?_⟩
  · have hport : Kind.port.Gives (.scalar (.integer n)) c.api.port := hgiven .port _ hn
    cases hport
    rfl
  · have hwhole : c.hub.balanceThreshold = .ofInt n :=
      Kind.eq_ofInt_of_gives (hgiven .balanceThreshold _ hn)
    rw [hwhole]
    exact Decimal.Binary64.nearestTo_ofInt hsmall

/-- A table gives settings if all sections in it fit, whatever else is in it, and then they hold
what it gives. Otherwise the message names the first section by name that does not fit, and where
that is a table its first key that does not. A document is told by its table alone. -/
theorem the_first_misfit_by_name_is_reported {t : Table} (ht : t.Sorted) :
    ((∃ c, ofTable t = .ok c) ↔ ∀ (s : Section) v, (s.name, v) ∈ t → s.Fits v) ∧
    (∀ c, ofTable t = .ok c → Holds t c) ∧
    (∀ m, ofTable t = .error m → FirstMisfit t m ∧ m.message =
      m.cause.message ++ "\nin `" ++ (match m.key? with
        | none => m.part.name
        | some k => m.part.name ++ "." ++ k.name) ++ "`\n") ∧
    ∀ text, Toml.readTable text = some t → decode text = match ofTable t with
      | .ok c => .ok (c, .ofTable t)
      | .error m => .error (.misfit m) := by
  refine ⟨ofTable_ok_iff, fun c hc => holds_of_ofTable ht hc, fun m hm => ?_, fun text htext => ?_⟩
  · exact ⟨firstMisfit_of_ofTable ht hm, rfl⟩
  · rcases decode_cases htext with ⟨c, hc, hdecode⟩ | ⟨m, hm, hdecode⟩
    · simp only [hdecode, hc]
    · simp only [hdecode, hm]

/-- Nothing but the port is as it should be. -/
def manyMisfits : Table := [
  ("API", .table [("Port", .scalar (.integer 65535))]),
  ("HUB", .table [
    ("AccessToken", .scalar (.integer 1)), ("Other", .list []), ("VerifySign", .table [])]),
  ("LOG", .list [.scalar (.text "a"), .scalar (.text "b"), .scalar (.text "c")]),
  ("Other", .table []),
  ("UBI", .scalar (.flag true))]

theorem the_first_of_many_misfits_is_named : ∃ m, manyMisfits.Sorted ∧
    ofTable manyMisfits = .error m ∧ FirstMisfit manyMisfits m ∧ m.message =
      "invalid type: integer `1`, expected a string\nin `HUB.AccessToken`\n" := by
  have hsorted : manyMisfits.Sorted := by decide
  have hm : ofTable manyMisfits =
      .error ⟨.hub, some .hubAccessToken, .wrongKind (.scalar (.integer 1)) "a string"⟩ := by
    have hapi : Section.ofName? "API" = some .api := by decide
    have hhub : Section.ofName? "HUB" = some .hub := by decide
    have htaken : ∀ c : Settings, c.takeSection .api (.table [("Port", .scalar (.integer 65535))]) =
        .ok (c.put .port (65535 : UInt16)) := fun _ => rfl
    have hleft : ∀ c : Settings, c.takeSection .hub (.table
        [("AccessToken", .scalar (.integer 1)), ("Other", .list []), ("VerifySign", .table [])]) =
        .error ⟨.hub, some .hubAccessToken, .wrongKind (.scalar (.integer 1)) "a string"⟩ :=
      fun _ => rfl
    simp only [ofTable, manyMisfits, takeSections, hapi, hhub, htaken, hleft, bind, Except.bind]
  obtain ⟨hfirst, hmessage⟩ := (the_first_misfit_by_name_is_reported hsorted).2.2.1 _ hm
  refine ⟨_, hsorted, hm, hfirst, hmessage.trans ?_⟩
  rfl

end Settings

end NodeSettings
