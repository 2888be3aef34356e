-- Applying an override: how often the host is asked for its name, what is
-- left when it has none, and which addresses count as new. Blanks at the ends
-- and the case of ASCII letters do not make an address a new one.
import NodeSettings.Proofs.Overrides

namespace NodeSettings

namespace Text

/-! ## The case of ASCII letters -/

theorem toLower_cases (c : Char) : c.toLower = c ∨ ∃ n < 26, c = Char.ofNat (65 + n) := by
  by_cases h : 'A'.val ≤ c.val ∧ c.val ≤ 'Z'.val
  · have hlow : 65 ≤ c.toNat := h.1
    have hhigh : c.toNat ≤ 90 := h.2
    refine .inr ⟨c.toNat - 65, by omega, ?_⟩
    rw [Nat.add_sub_cancel' hlow, Char.ofNat_toNat]
  · exact .inl (dif_neg h)

/-- What agrees on the capitals and their partners does not see the case of ASCII letters. -/
theorem eq_toLower {β : Type} (f : Char → β)
    (h : ∀ n < 26, f (Char.ofNat (65 + n)).toLower = f (Char.ofNat (65 + n))) (c : Char) :
    f c.toLower = f c := by
  rcases toLower_cases c with hc | ⟨n, hn, rfl⟩
  · rw [hc]
  · exact h n hn

theorem isBlankChar_toLower : isBlankChar ∘ Char.toLower = isBlankChar :=
  funext (eq_toLower isBlankChar (by decide))

theorem isCased_toLower (c : Char) : isCased c.toLower = isCased c :=
  eq_toLower isCased (by decide +kernel) c

theorem isCaseIgnorable_toLower : isCaseIgnorable ∘ Char.toLower = isCaseIgnorable :=
  funext (eq_toLower isCaseIgnorable (by decide +kernel))

theorem lowerChar_toLower (c : Char) : lowerChar c.toLower = lowerChar c :=
  eq_toLower lowerChar (by decide +kernel) c

theorem meetsCased_map (cs : List Char) : meetsCased (cs.map Char.toLower) = meetsCased cs := by
  unfold meetsCased
  rw [List.dropWhile_map, isCaseIgnorable_toLower, List.head?_map]
  cases (cs.dropWhile isCaseIgnorable).head? with
  | none => rfl
  | some c => exact isCased_toLower c

theorem sigma_map (before after : List Char) :
    sigma (before.map Char.toLower) (after.map Char.toLower) = sigma before after := by
  unfold sigma
  rw [meetsCased_map, meetsCased_map]

theorem lowerAfter_map (before cs : List Char) :
    lowerAfter (before.map Char.toLower) (cs.map Char.toLower) = lowerAfter before cs := by
  -- A sigma looks at what comes before it, which grows along the text.
  induction cs generalizing before with
  | nil => rfl
  | cons c cs ih =>
    have hrest := ih (c :: before)
    have hsigma : (c.toLower == 'Σ') = (c == 'Σ') := eq_toLower (· == 'Σ') (by decide) c
    have hdotted : (c.toLower == 'İ') = (c == 'İ') := eq_toLower (· == 'İ') (by decide) c
    rw [List.map_cons] at hrest
    rw [List.map_cons, lowerAfter, lowerAfter, hsigma, hdotted, sigma_map, lowerChar_toLower, hrest]

/-- Lower-casing does not see the case of ASCII letters. -/
theorem lowercase_map (cs : List Char) : lowercase (cs.map Char.toLower) = lowercase cs :=
  lowerAfter_map [] cs

theorem trimStart_map (cs : List Char) :
    trimStart (cs.map Char.toLower) = (trimStart cs).map Char.toLower := by
  unfold trimStart
  rw [List.dropWhile_map, isBlankChar_toLower]

theorem trim_map (cs : List Char) : trim (cs.map Char.toLower) = (trim cs).map Char.toLower := by
  unfold trim trimEnd
  rw [trimStart_map, ← List.map_reverse, trimStart_map, List.map_reverse]

/-! ## Blanks at the ends -/

theorem trimStart_append_left {before : List Char} (h : before.all isBlankChar = true)
    (cs : List Char) : trimStart (before ++ cs) = trimStart cs :=
  List.dropWhile_append_of_pos (List.all_eq_true.1 h)

theorem trimEnd_append_right {after : List Char} (h : after.all isBlankChar = true)
    (cs : List Char) : trimEnd (cs ++ after) = trimEnd cs := by
  unfold trimEnd
  rw [List.reverse_append, trimStart_append_left (by rwa [List.all_reverse])]

theorem trim_append_right {after : List Char} (h : after.all isBlankChar = true)
    (cs : List Char) : trim (cs ++ after) = trim cs := by
  unfold trim
  -- Where the text is all blank, the blanks behind it go with those in front.
  cases hcs : trimStart cs with
  | nil =>
    have hall : (cs ++ after).all isBlankChar = true := by
      rw [List.all_append, (trimStart_eq_nil_iff cs).1 hcs, h, Bool.and_self]
    rw [(trimStart_eq_nil_iff _).2 hall]
  | cons c rest =>
    have hstart : trimStart (cs ++ after) = c :: rest ++ after := by
      unfold trimStart at hcs ⊢
      rw [List.dropWhile_append, hcs]
      rfl
    rw [hstart, trimEnd_append_right h]

theorem trim_padded {before after : List Char} (hbefore : before.all isBlankChar = true)
    (hafter : after.all isBlankChar = true) (cs : List Char) :
    trim (before ++ cs ++ after) = trim cs := by
  rw [trim_append_right hafter]
  unfold trim
  rw [trimStart_append_left hbefore]

/-! ## Variants of a text -/

/-- Texts that differ in blanks at their ends and in the case of ASCII letters. -/
inductive Variant : List Char → List Char → Prop
  | padded {before after : List Char} (cs : List Char) : before.all isBlankChar = true →
      after.all isBlankChar = true → Variant (before ++ cs ++ after) cs
  | recased {cs cs' : List Char} : cs.map Char.toLower = cs'.map Char.toLower → Variant cs cs'
  | symm {cs cs' : List Char} : Variant cs cs' → Variant cs' cs
  | trans {cs cs' cs'' : List Char} : Variant cs cs' → Variant cs' cs'' → Variant cs cs''

namespace Variant

variable {cs cs' : List Char}

theorem lowercase_trim (h : Variant cs cs') : lowercase (trim cs) = lowercase (trim cs') := by
  induction h with
  | padded cs hbefore hafter => rw [trim_padded hbefore hafter]
  | @recased cs cs' hcase => rw [← lowercase_map, ← trim_map, hcase, trim_map, lowercase_map]
  | symm _ ih => exact ih.symm
  | trans _ _ ih ih' => exact ih.trans ih'

theorem all_blank (h : Variant cs cs') : cs.all isBlankChar = cs'.all isBlankChar := by
  induction h with
  | padded cs hbefore hafter =>
    rw [List.all_append, List.all_append, hbefore, hafter, Bool.true_and, Bool.and_true]
  | @recased cs cs' hcase =>
    rw [← isBlankChar_toLower, ← List.all_map, hcase, List.all_map]
  | symm _ ih => exact ih.symm
  | trans _ _ ih ih' => exact ih.trans ih'

end Variant

end Text

/-! ## Addresses that count as new -/

theorem addressChanges_variant {current current' requested requested' : String}
    (hcurrent : Text.Variant current.toList current'.toList)
    (hrequested : Text.Variant requested.toList requested'.toList) :
    addressChanges current requested = addressChanges current' requested' := by
  unfold addressChanges addressForm Text.isBlank
  rw [hcurrent.lowercase_trim, hrequested.lowercase_trim, hrequested.all_blank]

namespace Override

/-- What a successful override makes of settings: the name, the port and the address that were asked
for, the address only if it counts as new and then as it is, and all else as it was. -/
structure Settles (o : Override) (name : String) (c c' : Settings) : Prop where
  nodeName : c'.api.nodeName = name
  port : c'.api.port = if o.port = 0 then c.api.port else o.port
  address : c'.api.multiAddress ≠ c.api.multiAddress ↔
    Text.isBlank o.multiAddress = false ∧
      addressForm o.multiAddress ≠ addressForm c.api.multiAddress
  verbatim : c'.api.multiAddress ≠ c.api.multiAddress → c'.api.multiAddress = o.multiAddress
  others : ∀ k : Key, k ≠ .nodeName → k ≠ .port → k ≠ .multiAddress → c'.get k = c.get k

variable (o : Override) (name : String) (c : Settings)

theorem multiAddress_settings_ne_iff :
    (o.settings name c).api.multiAddress ≠ c.api.multiAddress ↔
      addressChanges c.api.multiAddress o.multiAddress = true := by
  by_cases h : addressChanges c.api.multiAddress o.multiAddress = true
  · have htaken : (o.settings name c).api.multiAddress = o.multiAddress := if_pos h
    rw [htaken]
    refine iff_of_true (fun heq => ?_) h
    exact (addressChanges_iff.1 h).2 (congrArg addressForm heq)
  · have hkept : (o.settings name c).api.multiAddress = c.api.multiAddress := if_neg h
    exact iff_of_false (not_not_intro hkept) h

theorem settles_settings : o.Settles name c (o.settings name c) where
  nodeName := rfl
  port := rfl
  address := (multiAddress_settings_ne_iff o name c).trans addressChanges_iff
  verbatim h := if_pos ((multiAddress_settings_ne_iff o name c).1 h)
  others _ hname hport haddress := get_settings o name c hname hport haddress

/-! ## Asking the host -/

section

variable {σ ε : Type} {o : Override} {host : StateM σ (Except ε String)} {name : String} {e : ε}

theorem apply_named (h : Text.isBlank o.nodeName = false) (host : StateM σ (Except ε String))
    (c : Settings) (s : σ) : (o.apply host c).run s = ((o.settings o.nodeName c, .ok ()), s) := by
  unfold apply
  rw [if_neg (by simp [h])]
  rfl

theorem apply_answer (h : Text.isBlank o.nodeName = true) (c : Settings) {s : σ}
    (hs : (host.run s).1 = .ok name) :
    (o.apply host c).run s = ((o.settings name c, .ok ()), (host.run s).2) := by
  unfold apply
  rw [if_pos h, StateT.run_bind]
  generalize host.run s = r at hs
  obtain ⟨answer, s'⟩ := r
  cases hs
  rfl

theorem apply_error (h : Text.isBlank o.nodeName = true) (c : Settings) {s : σ}
    (hs : (host.run s).1 = .error e) :
    (o.apply host c).run s = ((c, .error e), (host.run s).2) := by
  unfold apply
  rw [if_pos h, StateT.run_bind]
  generalize host.run s = r at hs
  obtain ⟨answer, s'⟩ := r
  cases hs
  rfl

/-- The host with a count of how often it was asked. -/
def counted (host : StateM σ (Except ε String)) : StateM (σ × ℕ) (Except ε String) := fun s =>
  let (answer, s') := host.run s.1
  (answer, (s', s.2 + 1))

/-- The name that an override gives: its own, or that of the host. -/
def NameFrom (o : Override) (answer : Except ε String) (name : String) : Prop :=
  if Text.isBlank o.nodeName then answer = .ok name else name = o.nodeName

theorem apply_of_nameFrom {s : σ} (h : o.NameFrom (host.run s).1 name) (c : Settings) :
    ((o.apply host c).run s).1 = (o.settings name c, .ok ()) := by
  unfold NameFrom at h
  cases hblank : Text.isBlank o.nodeName with
  | false =>
    rw [hblank] at h
    rw [apply_named hblank, h]
  | true =>
    rw [hblank] at h
    rw [apply_answer hblank c h]

/-- An override that succeeds has a name. -/
theorem apply_ok {c c' : Settings} {s s' : σ}
    (h : (o.apply host c).run s = ((c', .ok ()), s')) : ∃ name, o.Settles name c c' := by
  cases hblank : Text.isBlank o.nodeName with
  | false =>
    rw [apply_named hblank] at h
    cases h
    exact ⟨_, settles_settings o _ c⟩
  | true =>
    cases hs : (host.run s).1 with
    | error e =>
      rw [apply_error hblank c hs] at h
      cases h
    | ok name =>
      rw [apply_answer hblank c hs] at h
      cases h
      exact ⟨_, settles_settings o _ c⟩

end

/-! ## The law of applying -/

/-- What holds once an override has succeeded: the same again changes nothing, whatever host gives
the name, and the address is replaced just if it is by every other override that succeeds and asks
for a variant of it where a variant of the old one stands. -/
structure Settled (o : Override) (name : String) (c c' : Settings) : Prop
    extends o.Settles name c c' where
  again : ∀ (σ ε : Type) (host : StateM σ (Except ε String)) s, o.NameFrom (host.run s).1 name →
    ((o.apply host c').run s).1 = (c', .ok ())
  variants : ∀ (σ ε : Type) (o' : Override) (host : StateM σ (Except ε String)) d d' s s',
    Text.Variant c.api.multiAddress.toList d.api.multiAddress.toList →
    Text.Variant o.multiAddress.toList o'.multiAddress.toList →
    (o'.apply host d).run s = ((d', .ok ()), s') →
    (d'.api.multiAddress ≠ d.api.multiAddress ↔ c'.api.multiAddress ≠ c.api.multiAddress)

theorem settled_settings (o : Override) (name : String) (c : Settings) :
    o.Settled name c (o.settings name c) where
  toSettles := settles_settings o name c
  again σ ε host s hname := by rw [apply_of_nameFrom hname, settings_settings]
  variants σ ε o' host d d' s s' hcurrent hrequested hrun := by
    obtain ⟨name', hsettles⟩ := apply_ok hrun
    rw [hsettles.address, (settles_settings o name c).address, ← addressChanges_iff,
      ← addressChanges_iff, addressChanges_variant hcurrent hrequested]

/-- The host is asked once if the requested name is blank, and else not at all. If it is asked and
fails, that is the error and the settings are as they were. In any other case the override succeeds
and has settled the three keys that it is about. -/
theorem the_host_is_asked_once_for_a_blank_name {σ ε : Type} (o : Override)
    (host : StateM σ (Except ε String)) (c : Settings) (s : σ) (n : ℕ) :
    ∃ c' outcome, (o.apply (counted host) c).run (s, n) = ((c', outcome),
        if Text.isBlank o.nodeName then ((host.run s).2, n + 1) else (s, n)) ∧
      (∀ e, outcome = .error e ↔ Text.isBlank o.nodeName = true ∧ (host.run s).1 = .error e) ∧
      (∀ e, outcome = .error e → c' = c) ∧
      (outcome = .ok () → ∃ name, o.NameFrom (host.run s).1 name ∧ o.Settled name c c') := by
  cases hblank : Text.isBlank o.nodeName with
  | false =>
    refine ⟨_, _, apply_named hblank _ c (s, n), by simp, by simp, fun _ => ?_⟩
    exact ⟨o.nodeName, by simp [NameFrom, hblank], settled_settings o _ c⟩
  | true =>
    cases hs : (host.run s).1 with
    | error e =>
      have hasked : ((counted host).run (s, n)).1 = .error e := hs
      exact ⟨_, _, apply_error hblank c hasked, by simp, by simp, by simp⟩
    | ok name =>
      have hasked : ((counted host).run (s, n)).1 = .ok name := hs
      refine ⟨_, _, apply_answer hblank c hasked, by simp, by simp, fun _ => ?_⟩
      exact ⟨name, by simp [NameFrom, hblank], settled_settings o name c⟩

def paddedOverride : Override := { multiAddress := "\t/IP4/ΟΔΟΣ " }

/-- The address is asked for between blanks and with other letters, and so the old one stays. -/
theorem a_padded_address_is_not_a_new_one : ∃ c' : Settings,
    (paddedOverride.apply (counted (fun s : Unit => ((.ok "box" : Except Unit String), s)))
      { api := { multiAddress := "/ip4/ΟΔΟΣ" } }).run ((), 0) = ((c', .ok ()), ((), 1)) ∧
    c'.api.nodeName = "box" ∧ c'.api.multiAddress = "/ip4/ΟΔΟΣ" := by
  obtain ⟨c', outcome, hrun, herror, -, hsettled⟩ := the_host_is_asked_once_for_a_blank_name
    paddedOverride (fun s : Unit => ((.ok "box" : Except Unit String), s))
    { api := { multiAddress := "/ip4/ΟΔΟΣ" } } () 0
  cases outcome with
  | error e =>
    obtain ⟨-, hfails⟩ := (herror e).1 rfl
    cases hfails
  | ok =>
    obtain ⟨name, hname, hsettled⟩ := hsettled rfl
    have hsame : addressForm paddedOverride.multiAddress = addressForm "/ip4/ΟΔΟΣ" := by
      decide +kernel
    cases hname
    refine ⟨c', hrun, hsettled.nodeName, ?_⟩
    by_contra hreplaced
    exact (hsettled.address.1 hreplaced).2 hsame

end Override

end NodeSettings
