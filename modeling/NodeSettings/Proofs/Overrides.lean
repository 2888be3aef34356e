-- Overrides one after another: asking for the same thing again changes
-- nothing, and of many requested addresses the one that counts is the first
-- of those at the end that compare as one.
import NodeSettings.Proofs.RoundTrip
import NodeSettings.Settings.Override

namespace NodeSettings

/-! ## The same override again -/

theorem addressChanges_iff {current requested : String} :
    addressChanges current requested = true ↔
      Text.isBlank requested = false ∧ addressForm requested ≠ addressForm current := by
  simp only [addressChanges, Bool.and_eq_true, Bool.not_eq_true', bne_iff_ne]

namespace Override

variable (o : Override) (name : String) (c : Settings)

/-- An address that was taken over compares as itself. -/
theorem addressChanges_settings :
    addressChanges (o.settings name c).api.multiAddress o.multiAddress = false := by
  by_cases h : addressChanges c.api.multiAddress o.multiAddress = true
  · have htaken : (o.settings name c).api.multiAddress = o.multiAddress := if_pos h
    rw [htaken]
    simp [addressChanges]
  · have hkept : (o.settings name c).api.multiAddress = c.api.multiAddress := if_neg h
    rw [hkept]
    simpa using h

theorem settings_settings : o.settings name (o.settings name c) = o.settings name c := by
  have haddress := addressChanges_settings o name c
  have hport : (if o.port = 0 then (o.settings name c).api.port else o.port) =
      (o.settings name c).api.port := by
    by_cases h : o.port = 0 <;> simp [settings, h]
  rw [settings, haddress, hport]
  rfl

/-- Keys that no override is about. -/
theorem get_settings {k : Key} (hname : k ≠ .nodeName) (hport : k ≠ .port)
    (haddress : k ≠ .multiAddress) : (o.settings name c).get k = c.get k := by
  cases k with
  | nodeName => exact absurd rfl hname
  | port => exact absurd rfl hport
  | multiAddress => exact absurd rfl haddress
  | _ => rfl

theorem settings_canonical :
    o.settings name c.canonical = (o.settings name c).canonical :=
  rfl

end Override

/-! ## Addresses that compare as one -/

def CompareAsOne (as : List String) : Prop := ∀ a ∈ as, ∀ b ∈ as, addressForm a = addressForm b

/-- The longest end of a list of addresses that all compare as one. -/
structure LastRun (as run : List String) : Prop where
  suffix : run <:+ as
  uniform : CompareAsOne run
  longest : ∀ other, other <:+ as → CompareAsOne other → other.length ≤ run.length

namespace LastRun

variable {as run : List String} {first a : String}

theorem single (a : String) : LastRun [a] [a] := by
  refine ⟨List.suffix_rfl, ?_, fun other hother _ => hother.length_le⟩
  intro x hx y hy
  rw [List.mem_singleton.1 hx, List.mem_singleton.1 hy]

/-- An address that compares like the run makes it longer. -/
theorem append_same (h : LastRun as run) (hfirst : first ∈ run)
    (ha : addressForm a = addressForm first) : LastRun (as ++ [a]) (run ++ [a]) := by
  have hall : ∀ x ∈ run ++ [a], addressForm x = addressForm first := by
    intro x hx
    rcases List.mem_append.1 hx with hx | hx
    · exact h.uniform x hx first hfirst
    · rw [List.mem_singleton.1 hx, ha]
  refine ⟨?_, fun x hx y hy => (hall x hx).trans (hall y hy).symm, ?_⟩
  · obtain ⟨before, hbefore⟩ := h.suffix
    exact ⟨before, by rw [← hbefore, List.append_assoc]⟩
  · intro other hother huniform
    rcases List.suffix_concat_iff.1 hother with rfl | ⟨init, rfl, hinit⟩
    · simp
    · have hlength := h.longest init hinit fun x hx y hy =>
        huniform x (List.mem_append_left _ hx) y (List.mem_append_left _ hy)
      simpa using hlength

/-- An address that compares otherwise starts a run of its own. -/
theorem append_other (h : LastRun as run) (hfirst : first ∈ run)
    (ha : addressForm a ≠ addressForm first) : LastRun (as ++ [a]) [a] := by
  refine ⟨List.suffix_append _ _, (single a).uniform, fun other hother huniform => ?_⟩
  rcases List.suffix_concat_iff.1 hother with rfl | ⟨init, rfl, hinit⟩
  · simp
  suffices hnil : init = [] by simp [hnil]
  by_contra hne
  obtain ⟨x, hx⟩ := List.exists_mem_of_ne_nil init hne
  have hlast : a ∈ init ++ [a] := by simp
  -- The two ends of the list overlap, so that a member of one is in the other.
  rcases List.suffix_or_suffix_of_suffix hinit h.suffix with hin | hin
  · have hsame := huniform a hlast x (List.mem_append_left _ hx)
    exact ha (hsame.trans (h.uniform x (hin.mem hx) first hfirst))
  · exact ha (huniform a hlast first (List.mem_append_left _ (hin.mem hfirst)))

end LastRun

end NodeSettings
