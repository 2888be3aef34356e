-- Changes one after another. Some may fail; what the settings hold in the end
-- is what those that ended well asked for, however many there were.
import NodeSettings.Proofs.InPlace
import NodeSettings.Proofs.Overrides

namespace NodeSettings.Repository

open Decimal (Binary64)
open Files (Disk FileError)

/-! ## Any number of changes -/

/-- What is asked of a change: the overrides, and a source for the name of the host. -/
structure Request where
  override : Override
  answer : Disk → Except FileError String

/-- A change that was tried, with the name that the host gave then, and what came of it. -/
structure Change where
  override : Override
  host : Except FileError String
  outcome : Except Fault Settings

structure History where
  changes : List Change
  disk : Disk

namespace History

/-- One more request, whatever came of those before. -/
def next (root : String) (h : History) (r : Request) : History :=
  let ended := (rewrite root r.override (asking r.answer)).outcome.run h.disk
  ⟨h.changes ++ [⟨r.override, r.answer h.disk, ended.1.1⟩], ended.2⟩

/-- The changes that ended well, the first one first. -/
def succeeded (h : History) : List Change := h.changes.filter (·.outcome.isOk)

section

variable {root : String} {h : History} {r : Request} {lines : List LogLine} {d' : Disk}

theorem next_failed {e : Fault}
    (hends : Ends (rewrite root r.override (asking r.answer)) h.disk (.error e) lines d') :
    (h.next root r).succeeded = h.succeeded ∧ (h.next root r).disk = d' := by
  unfold next succeeded
  rw [hends.outcome_eq]
  simp [Except.isOk, Except.toBool]

theorem next_succeeded {c : Settings}
    (hends : Ends (rewrite root r.override (asking r.answer)) h.disk (.ok c) lines d') :
    (h.next root r).succeeded = h.succeeded ++ [⟨r.override, r.answer h.disk, .ok c⟩] ∧
      (h.next root r).disk = d' := by
  unfold next succeeded
  rw [hends.outcome_eq]
  simp [Except.isOk, Except.toBool]

end

end History

def changeAll (root : String) (requests : List Request) (d : Disk) : History :=
  requests.foldl (History.next root) ⟨[], d⟩

theorem changeAll_concat (root : String) (requests : List Request) (r : Request) (d : Disk) :
    changeAll root (requests ++ [r]) d = (changeAll root requests d).next root r := by
  simp only [changeAll, List.foldl_append, List.foldl_cons, List.foldl_nil]

/-! ## What they ask for -/

def requestedPorts (changes : List Change) : List UInt16 :=
  (changes.map (·.override.port)).filter (· ≠ 0)

/-- The addresses that were asked for. A blank one asks for nothing. -/
def requestedAddresses (changes : List Change) : List String :=
  (changes.map (·.override.multiAddress)).filter (!Text.isBlank ·)

/-- The settings `c` are those of `c₀` after these changes: they have the last port that was asked
for, the name of the last change, and the address that came first of those at the end that compare as
one. -/
structure Follows (c₀ : Settings) (changes : List Change) (c : Settings) : Prop where
  port : c.api.port = (requestedPorts changes).getLastD c₀.api.port
  name : ∀ last, changes.getLast? = some last → nameFor last.override last.host = .ok c.api.nodeName
  address : ∃ run, LastRun (c₀.api.multiAddress :: requestedAddresses changes) run ∧
    run.head? = some c.api.multiAddress
  others : ∀ k : Key, k ≠ .nodeName → k ≠ .port → k ≠ .multiAddress →
    c.canonical.get k = c₀.canonical.get k

namespace Follows

variable {c₀ c : Settings} {changes : List Change} {change : Change} {name : String}

theorem nil (c₀ : Settings) : Follows c₀ [] c₀ where
  port := rfl
  name := by simp
  address := ⟨_, .single _, rfl⟩
  others := fun _ _ _ _ => rfl

theorem port_concat (h : Follows c₀ changes c) : (change.override.settings name c).api.port =
    (requestedPorts (changes ++ [change])).getLastD c₀.api.port := by
  by_cases hport : change.override.port = 0
  · have hlist : requestedPorts (changes ++ [change]) = requestedPorts changes := by
      simp [requestedPorts, hport]
    have hkept : (change.override.settings name c).api.port = c.api.port := if_pos hport
    rw [hlist, hkept, h.port]
  · have hlist : requestedPorts (changes ++ [change]) =
        requestedPorts changes ++ [change.override.port] := by
      simp [requestedPorts, hport]
    have htaken : (change.override.settings name c).api.port = change.override.port := if_neg hport
    rw [hlist, htaken, List.getLastD_concat]

theorem address_concat (h : Follows c₀ changes c) :
    ∃ run, LastRun (c₀.api.multiAddress :: requestedAddresses (changes ++ [change])) run ∧
      run.head? = some (change.override.settings name c).api.multiAddress := by
  obtain ⟨run, hrun, hhead⟩ := h.address
  have hfirst : c.api.multiAddress ∈ run := List.mem_of_mem_head? hhead
  by_cases hblank : Text.isBlank change.override.multiAddress = true
  · -- A blank address is not in the list, and leaves the old one.
    refine ⟨run, ?_, ?_⟩
    · simpa [requestedAddresses, hblank] using hrun
    · simpa [Override.settings, addressChanges, hblank] using hhead
  have hlist : c₀.api.multiAddress :: requestedAddresses (changes ++ [change]) =
      (c₀.api.multiAddress :: requestedAddresses changes) ++ [change.override.multiAddress] := by
    simp [requestedAddresses, hblank]
  rw [hlist]
  -- The old address stands for its whole run: the new one makes it longer, or starts another.
  by_cases hform : addressForm change.override.multiAddress = addressForm c.api.multiAddress
  · refine ⟨_, hrun.append_same hfirst hform, ?_⟩
    have hkept : (change.override.settings name c).api.multiAddress = c.api.multiAddress :=
      if_neg fun hchanges => (addressChanges_iff.1 hchanges).2 hform
    rw [hkept, List.head?_append, hhead]
    rfl
  · refine ⟨_, hrun.append_other hfirst hform, ?_⟩
    have htaken : (change.override.settings name c).api.multiAddress =
        change.override.multiAddress :=
      if_pos (addressChanges_iff.2 ⟨by simpa using hblank, hform⟩)
    rw [htaken]
    rfl

/-- One more change that ends well. -/
theorem concat (h : Follows c₀ changes c)
    (hname : nameFor change.override change.host = .ok name) :
    Follows c₀ (changes ++ [change]) (change.override.settings name c).canonical where
  port := h.port_concat
  name := by
    intro last hlast
    rw [List.getLast?_concat] at hlast
    cases hlast
    exact hname
  address := h.address_concat
  others := by
    intro k hname hport haddress
    rw [← h.others k hname hport haddress, Settings.canonical_canonical,
      Settings.get_canonical, Settings.get_canonical, Override.get_settings _ _ _ hname hport haddress]

end Follows

/-! ## The run of changes -/

/-- What a history has done to the settings `c₀` on `d`. -/
structure Accounted (root : String) (d : Disk) (c₀ : Settings) (h : History) : Prop where
  untouched : h.succeeded = [] → h.disk = d
  settings : ∃ c p, settingsAt h.disk (settingsPath root) = .ok (c, p) ∧
    Follows c₀ h.succeeded c ∧ (h.succeeded ≠ [] → c.canonical = c ∧ p = knownKeys)

namespace Accounted

variable {root : String} {d : Disk} {c₀ : Settings} {p : Presence} {h : History}

theorem start (hread : settingsAt d (settingsPath root) = .ok (c₀, p)) :
    Accounted root d c₀ ⟨[], d⟩ where
  untouched := fun _ => rfl
  settings := ⟨c₀, p, hread, .nil c₀, fun hne => absurd rfl hne⟩

/-- A request that fails leaves all as it is, and one that is granted is the last one from then
on. -/
theorem next (ha : Accounted root d c₀ h) (r : Request) : Accounted root d c₀ (h.next root r) := by
  rcases rewrite_ends root r.override r.answer h.disk with ⟨e, lines, hends⟩ |
    ⟨c, p, name, lines, d', parent, hread, hname, hends, hreplaced⟩
  · obtain ⟨hsame, hdisk⟩ := History.next_failed hends
    refine ⟨?_, ?_⟩
    · rw [hsame, hdisk]
      exact ha.untouched
    · rw [hsame, hdisk]
      exact ha.settings
  · obtain ⟨c₁, _, hread', hfollows, -⟩ := ha.settings
    rw [hread] at hread'
    cases hread'
    obtain ⟨hmore, hdisk⟩ := History.next_succeeded hends
    refine ⟨fun hnil => ?_, (r.override.settings name c).canonical, knownKeys, ?_, ?_,
      fun _ => ⟨Settings.canonical_canonical _, rfl⟩⟩
    · rw [hmore] at hnil
      simp at hnil
    · rw [hdisk]
      exact hreplaced.settingsAt_eq
    · rw [hmore]
      exact hfollows.concat hname

theorem changeAll (hread : settingsAt d (settingsPath root) = .ok (c₀, p))
    (requests : List Request) : Accounted root d c₀ (changeAll root requests d) := by
  -- One more request comes last, where the law looks.
  induction requests using List.reverseRecOn with
  | nil => exact .start hread
  | append_singleton requests r ih =>
    rw [changeAll_concat]
    exact ih.next r

end Accounted

/-- After any number of changes to settings that could be read: if none ended well, the disk is as
it was. Otherwise the settings have the last port that was asked for, the name that the last change
gave, and the address that came first of those at the end that compare as one. All other keys are as
they were, except that a word that is no number is the plain one. -/
theorem changes_leave_what_was_asked_for_last {root : String} {d : Disk} {c₀ : Settings}
    {p : Presence} (h : settingsAt d (settingsPath root) = .ok (c₀, p)) (requests : List Request) :
    ((changeAll root requests d).succeeded = [] → (changeAll root requests d).disk = d) ∧
    ∀ last, (changeAll root requests d).succeeded.getLast? = some last → ∃ c run,
      settingsAt (changeAll root requests d).disk (settingsPath root) = .ok (c, knownKeys) ∧
      c.api.port =
        (requestedPorts (changeAll root requests d).succeeded).getLastD c₀.api.port ∧
      nameFor last.override last.host = .ok c.api.nodeName ∧
      LastRun (c₀.api.multiAddress ::
        requestedAddresses (changeAll root requests d).succeeded) run ∧
      run.head? = some c.api.multiAddress ∧
      (∀ k : Key, k ≠ .nodeName → k ≠ .port → k ≠ .multiAddress → k ≠ .balanceThreshold →
        c.get k = c₀.get k) ∧
      c.hub.balanceThreshold =
        (if c₀.hub.balanceThreshold.isNaN then .nan false else c₀.hub.balanceThreshold) := by
  have hall := Accounted.changeAll h requests
  refine ⟨hall.untouched, fun last hlast => ?_⟩
  have hne : (Repository.changeAll root requests d).succeeded ≠ [] := by
    intro hnil
    simp [hnil] at hlast
  obtain ⟨c, p', hread, hfollows, hsettled⟩ := hall.settings
  obtain ⟨hcanonical, rfl⟩ := hsettled hne
  obtain ⟨run, hrun, hhead⟩ := hfollows.address
  refine ⟨c, run, hread, hfollows.port, hfollows.name last hlast, hrun, hhead, ?_, ?_⟩
  · intro k hname hport haddress hthreshold
    have hsame := hfollows.others k hname hport haddress
    rw [hcanonical, Settings.get_canonical_other hthreshold] at hsame
    exact hsame
  · have hsame := hfollows.others .balanceThreshold (by decide) (by decide) (by decide)
    rw [hcanonical] at hsame
    exact hsame

/-- The first request fails and counts for nothing; the second one is granted. -/
def twoRequests : List Request := [
  ⟨{ port := 1 }, fun _ => .error .notFound⟩,
  ⟨{ port := 9085 }, fun _ => .ok "box"⟩]

theorem a_failed_change_counts_for_nothing : ∃ c,
    settingsAt (changeAll "repo" twoRequests linkedSettings).disk (settingsPath "repo") =
      .ok (c, knownKeys) ∧ c.api.nodeName = "box" ∧ c.api.port = 9085 := by
  have hfails : nameFor { port := 1 } (.error .notFound) = .error .notFound := rfl
  have hname : nameFor { port := 9085 } (.ok "box") = .ok "box" := rfl
  obtain ⟨_, hfirst⟩ : ∃ lines, Ends (rewrite "repo" { port := 1 } (asking fun _ => .error .notFound))
      linkedSettings (.error (.hostName .notFound)) lines linkedSettings :=
    ends_rewrite_nameless settingsAt_linkedSettings hfails
  obtain ⟨_, d', _, hsecond, -⟩ : ∃ lines d' parent,
      Ends (rewrite "repo" { port := 9085 } (asking fun _ => .ok "box")) linkedSettings
        (.ok (Override.settings { port := 9085 } "box" {})) lines d' ∧
      Replaced linkedSettings d' "repo" _ parent :=
    ends_rewrite_written settingsAt_linkedSettings hname
  obtain ⟨hnone, hsame⟩ := History.next_failed (h := ⟨[], linkedSettings⟩)
    (r := ⟨{ port := 1 }, fun _ => .error .notFound⟩) hfirst
  rw [← hsame] at hsecond
  obtain ⟨hone, -⟩ := History.next_succeeded (r := ⟨{ port := 9085 }, fun _ => .ok "box"⟩) hsecond
  rw [hnone] at hone
  have hmade : (changeAll "repo" twoRequests linkedSettings).succeeded = [_] := hone
  obtain ⟨c, _, hread, hport, hnode, -⟩ :=
    (changes_leave_what_was_asked_for_last settingsAt_linkedSettings twoRequests).2 _
      (by rw [hmade]; rfl)
  rw [hmade] at hport
  have hbox : Except.ok "box" = Except.ok c.api.nodeName := hname.symm.trans hnode
  exact ⟨c, hread, (Except.ok.inj hbox).symm, hport⟩

/-! ## The sign of a word that is no number -/

/-- The threshold is a word that is no number, with a sign. -/
def signedThreshold : Disk where
  entries := [
    (["repo"], .directory),
    (["repo", "config.toml"], .file "[HUB]\nBalanceThreshold = -nan\n".toUTF8)]
  working := []
  increasing := by decide

theorem readTable_signedThreshold :
    Toml.readTable "[HUB]\nBalanceThreshold = -nan\n" =
      some [("HUB", .table [("BalanceThreshold", .scalar (.number (.nan true)))])] := by
  have hspells : Toml.Spells ['-', 'n', 'a', 'n'] (.number (.nan true)) :=
    Toml.spells_of_readNumeral ⟨_, _, rfl, by decide⟩ fun _ => rfl
  have hheader := Toml.statements?_header Section.hub.bare_name
  have hassign := Toml.statements?_assign Key.balanceThreshold.bare_name hspells []
  rw [Toml.statements?_nil] at hassign
  have htext : Toml.dropByteOrderMark "[HUB]\nBalanceThreshold = -nan\n".toList =
      '[' :: (Section.hub.name.toList ++ ']' :: '\n' ::
        (Key.balanceThreshold.name.toList ++ ' ' :: '=' :: ' ' ::
          (['-', 'n', 'a', 'n'] ++ ['\n']))) := by decide
  unfold Toml.readTable
  rw [htext, hheader, hassign]
  rfl

theorem settingsAt_signedThreshold : ∃ p, settingsAt signedThreshold (settingsPath "repo") =
    .ok ({ hub := { balanceThreshold := .nan true } }, p) := by
  have hread : signedThreshold.read (settingsPath "repo") =
      .ok "[HUB]\nBalanceThreshold = -nan\n".toUTF8 := rfl
  exact ⟨_, settingsAt_ok.2 ⟨_, _, hread, fromUTF8?_toUTF8 _,
    Settings.decode_of_readTable readTable_signedThreshold rfl⟩⟩

/-- One request for a name. It takes the sign away, although it is not about the threshold. -/
def oneRequest : List Request := [⟨{ nodeName := "box" }, fun _ => .error .notFound⟩]

theorem a_change_takes_the_sign_of_a_nan : ∃ c₀ p c,
    settingsAt signedThreshold (settingsPath "repo") = .ok (c₀, p) ∧
    (changeAll "repo" oneRequest signedThreshold).succeeded ≠ [] ∧
    settingsAt (changeAll "repo" oneRequest signedThreshold).disk (settingsPath "repo") =
      .ok (c, knownKeys) ∧
    c.hub.balanceThreshold ≠ c₀.hub.balanceThreshold := by
  have hname : nameFor { nodeName := "box" } (.error .notFound) = .ok "box" := rfl
  obtain ⟨p, hread⟩ := settingsAt_signedThreshold
  obtain ⟨_, d', _, hends, hreplaced⟩ : ∃ lines d' parent,
      Ends (rewrite "repo" { nodeName := "box" } (asking fun _ => .error .notFound)) signedThreshold
        (.ok (Override.settings { nodeName := "box" } "box"
          { hub := { balanceThreshold := .nan true } })) lines d' ∧
      Replaced signedThreshold d' "repo" _ parent :=
    ends_rewrite_written hread hname
  obtain ⟨hone, hdisk⟩ := History.next_succeeded (h := ⟨[], signedThreshold⟩)
    (r := ⟨{ nodeName := "box" }, fun _ => .error .notFound⟩) hends
  have hmade : (changeAll "repo" oneRequest signedThreshold).succeeded = [_] := hone
  have hafter := hreplaced.settingsAt_eq
  rw [← hdisk] at hafter
  have hsign : (Binary64.nan true).canonical ≠ .nan true := by decide +kernel
  exact ⟨_, p, _, hread, by simp [hmade], hafter, hsign⟩

end NodeSettings.Repository
