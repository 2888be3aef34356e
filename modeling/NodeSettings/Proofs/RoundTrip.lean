-- Settings come back from their written text with every key, and the text
-- defines the known keys and nothing else.
import NodeSettings.Proofs.WrittenTable

namespace NodeSettings

open Decimal (Binary64)
open Toml (Value Table)

/-! ## Settings from their table -/

theorem Kind.take_scalar (k : Kind) (a : k.Content) : k.take (.scalar (k.scalar a)) = .ok a := by
  cases k with
  | port =>
    have hlt : a.toNat < 65536 := UInt16.toNat_lt a
    have hrange : ((0 : Int) ≤ a.toNat && ((a.toNat : Int) < 65536)) = true := by
      simp only [Bool.and_eq_true, decide_eq_true_eq]
      omega
    unfold Kind.scalar
    dsimp only
    rw [Kind.take, if_pos hrange, Int.toNat_natCast, UInt16.ofNat_toNat]
  | text => rfl
  | flag => rfl
  | amount => rfl

namespace Settings

theorem takeKey_valueOf (c d : Settings) (k : Key) (named : Option Key) :
    d.takeKey k named (c.valueOf k) = .ok (d.put k (c.get k)) := by
  unfold takeKey
  rw [valueOf_eq, Kind.take_scalar]

/-- Settings with the same content under every key are the same. -/
theorem ext_get {c d : Settings} (h : ∀ k, c.get k = d.get k) : c = d := by
  obtain ⟨⟨_⟩, ⟨_⟩, ⟨_⟩, ⟨_⟩, ⟨_⟩, ⟨_⟩, ⟨_⟩, ⟨_⟩⟩ := c
  obtain ⟨⟨_⟩, ⟨_⟩, ⟨_⟩, ⟨_⟩, ⟨_⟩, ⟨_⟩, ⟨_⟩, ⟨_⟩⟩ := d
  simp only [mk.injEq, Api.mk.injEq, Ubi.mk.injEq, Log.mk.injEq, Hub.mk.injEq, Mcs.mk.injEq,
    Registry.mk.injEq, Rpc.mk.injEq, Contract.mk.injEq]
  exact ⟨⟨h .port, h .multiAddress, h .domain, h .nodeName, h .redisUrl, h .redisPassword,
      h .walletWhiteList⟩,
    ⟨h .ubiTask, h .ubiEnginePk, h .ubiUrl⟩, ⟨h .crtFile, h .keyFile⟩,
    ⟨h .walletAddress, h .serverUrl, h .hubAccessToken, h .balanceThreshold, h .orchestratorPk,
      h .verifySign⟩,
    ⟨h .apiKey, h .mcsAccessToken, h .bucketName, h .network, h .fileCachePath⟩,
    ⟨h .serverAddress, h .userName, h .password⟩, ⟨h .testnet, h .mainnet⟩,
    ⟨h .token, h .collateral⟩⟩

/-- Putting what `c` has under a key brings settings closer to `c` there, and nowhere away from
it. -/
theorem get_put_agrees {c d : Settings} {k k' : Key} (h : k' = k ∨ d.get k' = c.get k') :
    (d.put k (c.get k)).get k' = c.get k' := by
  by_cases hk : k' = k
  · subst hk
    exact get_put_same _ _ _
  · rw [get_put_other _ _ hk]
    exact h.resolve_left hk

/-- The keys of one section, taken from entries that `c` has written. -/
theorem takeEntries_of_written (c : Settings) (s : Section) (es : Table) (d : Settings)
    (h : ∀ e ∈ es, ∃ k, k.home = s ∧ e = (k.name, c.valueOf k)) :
    ∃ d', takeEntries s d es = .ok d' ∧ ∀ k : Key,
      (k.home = s ∧ k.name ∈ es.map (·.1)) ∨ d.get k = c.get k → d'.get k = c.get k := by
  induction es generalizing d with
  | nil =>
    refine ⟨d, rfl, ?_⟩
    intro k hk
    rcases hk with ⟨-, hk⟩ | hk
    · simp at hk
    · exact hk
  | cons e es ih =>
    obtain ⟨k, rfl, rfl⟩ := h e List.mem_cons_self
    obtain ⟨d', htake, hd'⟩ := ih (d.put k (c.get k)) fun e he => h e (List.mem_cons_of_mem _ he)
    refine ⟨d', ?_, ?_⟩
    · rw [takeEntries, Section.key?_name]
      dsimp only
      rw [takeKey_valueOf]
      exact htake
    · intro k' hk'
      apply hd'
      rcases hk' with ⟨hhome, hk'⟩ | hk'
      · rw [List.map_cons, List.mem_cons] at hk'
        rcases hk' with hname | hk'
        · have hsame : k.home.key? k'.name = some k' := by
            rw [← hhome]
            exact Section.key?_name k'
          rw [hname, Section.key?_name] at hsame
          exact .inr (get_put_agrees (.inl (Option.some.inj hsame).symm))
        · exact .inl ⟨hhome, hk'⟩
      · exact .inr (get_put_agrees (.inr hk'))

theorem perm_sectionTable (c : Settings) (s : Section) :
    (c.sectionTable s).Perm (s.keys.map fun k => (k.name, c.valueOf k)) :=
  Sorted.perm_foldl_put Key.name c.valueOf s.keys [] (by simpa using s.nodup_keyNames)

theorem perm_toTable (c : Settings) :
    c.toTable.Perm (Section.all.map fun s => (s.name, .table (c.sectionTable s))) :=
  Sorted.perm_foldl_put Section.name (fun s => Value.table (c.sectionTable s)) Section.all []
    (by simpa using Section.nodup_names)

theorem takeSection_written (c d : Settings) (s : Section) :
    ∃ d', d.takeSection s (.table (c.sectionTable s)) = .ok d' ∧ ∀ k : Key,
      k.home = s ∨ d.get k = c.get k → d'.get k = c.get k := by
  have hperm := perm_sectionTable c s
  obtain ⟨d', htake, hd'⟩ := takeEntries_of_written c s (c.sectionTable s) d fun e he => by
    obtain ⟨k, hk, rfl⟩ := List.mem_map.1 (hperm.mem_iff.1 he)
    exact ⟨k, Section.mem_keys_iff.1 hk, rfl⟩
  refine ⟨d', htake, ?_⟩
  intro k hk
  apply hd'
  refine hk.imp_left fun hhome => ⟨hhome, ?_⟩
  refine (hperm.map _).mem_iff.2 ?_
  rw [List.map_map]
  exact List.mem_map.2 ⟨k, Section.mem_keys_iff.2 hhome, rfl⟩

/-- All sections, taken from entries that `c` has written. -/
theorem takeSections_of_written (c : Settings) (es : Table) (d : Settings)
    (h : ∀ e ∈ es, ∃ s : Section, e = (s.name, .table (c.sectionTable s))) :
    ∃ d', takeSections d es = .ok d' ∧ ∀ k : Key,
      k.home.name ∈ es.map (·.1) ∨ d.get k = c.get k → d'.get k = c.get k := by
  induction es generalizing d with
  | nil =>
    refine ⟨d, rfl, ?_⟩
    intro k hk
    rcases hk with hk | hk
    · simp at hk
    · exact hk
  | cons e es ih =>
    obtain ⟨s, rfl⟩ := h e List.mem_cons_self
    obtain ⟨d₁, hsection, hd₁⟩ := takeSection_written c d s
    obtain ⟨d', htake, hd'⟩ := ih d₁ fun e he => h e (List.mem_cons_of_mem _ he)
    refine ⟨d', ?_, ?_⟩
    · rw [takeSections, Section.ofName?_name]
      dsimp only
      rw [hsection]
      exact htake
    · intro k hk
      apply hd'
      rcases hk with hk | hk
      · rw [List.map_cons, List.mem_cons] at hk
        rcases hk with hname | hk
        · have hsame := Section.ofName?_name k.home
          rw [hname, Section.ofName?_name] at hsame
          exact .inr (hd₁ k (.inl (Option.some.inj hsame).symm))
        · exact .inl hk
      · exact .inr (hd₁ k (.inr hk))

/-- The table of settings gives the settings back. -/
theorem ofTable_toTable (c : Settings) : ofTable c.toTable = .ok c := by
  have hperm := perm_toTable c
  obtain ⟨d, htake, hd⟩ := takeSections_of_written c c.toTable {} fun e he => by
    obtain ⟨s, -, rfl⟩ := List.mem_map.1 (hperm.mem_iff.1 he)
    exact ⟨s, rfl⟩
  have hall : ∀ k, d.get k = c.get k := by
    intro k
    refine hd k (.inl ((hperm.map _).mem_iff.2 ?_))
    rw [List.map_map]
    exact List.mem_map.2 ⟨k.home, by cases k <;> decide, rfl⟩
  unfold ofTable
  rw [htake, ext_get hall]

end Settings

/-! ## The defined paths -/

theorem pathsOf_eq_flatMap (t : Table) : pathsOf t =
    (t.map fun e => (e.1, pathsBelow e.2)).flatMap fun e => [e.1] :: e.2.map (e.1 :: ·) := by
  induction t with
  | nil => rfl
  | cons e t ih =>
    obtain ⟨k, v⟩ := e
    rw [pathsOf, ih]
    simp

namespace Settings

theorem pathsBelow_valueOf (c : Settings) (k : Key) : pathsBelow (c.valueOf k) = [] := by
  rw [valueOf_eq, pathsBelow]
  intro es h
  cases h

/-- The paths of a section do not depend on the content. -/
theorem pathsOf_sectionTable (c d : Settings) (s : Section) :
    pathsOf (c.sectionTable s) = pathsOf (d.sectionTable s) := by
  unfold sectionTable
  rw [pathsOf_eq_flatMap, pathsOf_eq_flatMap, Sorted.map_foldl_put, Sorted.map_foldl_put]
  simp only [pathsBelow_valueOf]

theorem pathsOf_toTable (c d : Settings) : pathsOf c.toTable = pathsOf d.toTable := by
  rw [toTable_eq, toTable_eq, pathsOf_eq_flatMap, pathsOf_eq_flatMap, Sorted.map_foldl_put,
    Sorted.map_foldl_put]
  simp only [pathsBelow, pathsOf_sectionTable c d]

theorem presence_toTable (c : Settings) : Presence.ofTable c.toTable = knownKeys := by
  unfold knownKeys Presence.ofTable
  rw [pathsOf_toTable c {}]

/-! ## Texts -/

theorem decode_of_readTable {text : String} {t : Table} {c : Settings}
    (ht : Toml.readTable text = some t) (hc : ofTable t = .ok c) :
    decode text = .ok (c, .ofTable t) := by
  unfold decode
  rw [ht]
  dsimp only
  rw [hc]

/-- What was written is read back, and defines the known keys. -/
theorem decode_encode (c : Settings) : decode c.encode = .ok (c.canonical, knownKeys) := by
  rw [← presence_toTable c.canonical]
  exact decode_of_readTable (readTable_encode c) (ofTable_toTable c.canonical)

theorem isNaN_nan (negative : Bool) : (Binary64.nan negative).isNaN = true := by
  cases negative <;> decide +kernel

theorem plain_canonical (nan : List Char) (x : Binary64) :
    x.canonical.plain nan = x.plain nan := by
  unfold Binary64.canonical
  by_cases h : x.isNaN = true
  · unfold Binary64.plain
    rw [if_pos h, if_pos h, if_pos (isNaN_nan false)]
  · rw [if_neg h]

theorem get_canonical_other {c : Settings} {k : Key} (hk : k ≠ .balanceThreshold) :
    c.canonical.get k = c.get k := by
  cases k <;> first | rfl | exact absurd rfl hk

theorem canonical_canonical (c : Settings) : c.canonical.canonical = c.canonical := by
  have hthreshold : c.hub.balanceThreshold.canonical.canonical =
      c.hub.balanceThreshold.canonical := by
    unfold Binary64.canonical
    by_cases h : c.hub.balanceThreshold.isNaN = true
    · rw [if_pos h, if_pos (isNaN_nan false)]
    · rw [if_neg h, if_neg h]
  unfold canonical
  rw [hthreshold]

theorem write_canonical (k : Kind) (a : k.Content) : k.write (k.canonical a) = k.write a := by
  cases k with
  | amount => exact plain_canonical _ a
  | port => rfl
  | text => rfl
  | flag => rfl

theorem encode_canonical (c : Settings) : c.canonical.encode = c.encode := by
  have hline : c.canonical.keyLine = c.keyLine := by
    funext k
    unfold keyLine
    rw [get_canonical, write_canonical]
  unfold encode encodeChars sectionText
  rw [hline]

/-- Every text, number, flag and port is read back as it was written, whatever it holds; an amount
that is no number comes back as the plain one. -/
theorem settings_are_read_back_as_they_were_written (c : Settings) :
    ∃ c', decode c.encode = .ok (c', knownKeys) ∧
      (∀ k : Key, k ≠ .balanceThreshold → c'.get k = c.get k) ∧
      c'.hub.balanceThreshold =
        (if c.hub.balanceThreshold.isNaN then .nan false else c.hub.balanceThreshold) ∧
      c'.encode = c.encode := by
  refine ⟨c.canonical, decode_encode c, ?_, rfl, encode_canonical c⟩
  intro k hk
  exact get_canonical_other hk

end Settings

end NodeSettings
