-- What the statements of a written document make: a table for each section
-- with a place for each of its keys, sorted by their names.
import NodeSettings.Proofs.WrittenLines
import NodeSettings.Settings.Codec

namespace NodeSettings

/-! ## Entries put one after another -/

namespace Sorted

variable {κ α β γ : Type} [LT κ] [DecidableLT κ] [BEq κ] [LawfulBEq κ]

theorem perm_put {key : κ} (a : α) {es : List (κ × α)} (h : key ∉ es.map (·.1)) :
    (put key a es).Perm ((key, a) :: es) := by
  induction es with
  | nil => exact .refl _
  | cons e es ih =>
    obtain ⟨k, b⟩ := e
    rw [List.map_cons, List.mem_cons, not_or] at h
    have hk : (key == k) = false := by simpa using h.1
    rw [put, hk]
    simp only [Bool.false_eq_true, if_false]
    split
    · exact .refl _
    · exact ((ih h.2).cons _).trans (.swap _ _ _)

/-- Where no key comes twice, all entries are there in the end. -/
theorem perm_foldl_put (key : β → κ) (val : β → α) (bs : List β) (es : List (κ × α))
    (h : (es.map (·.1) ++ bs.map key).Nodup) :
    (bs.foldl (fun es b => put (key b) (val b) es) es).Perm
      (es ++ bs.map fun b => (key b, val b)) := by
  induction bs generalizing es with
  | nil => simp
  | cons b bs ih =>
    rw [List.map_cons, List.nodup_middle, List.nodup_cons] at h
    obtain ⟨hb, hes⟩ := h
    rw [List.mem_append, not_or] at hb
    have hput := perm_put (val b) hb.1
    have hnodup : ((put (key b) (val b) es).map (·.1) ++ bs.map key).Nodup := by
      refine (((hput.map _).append_right _).nodup_iff).2 ?_
      rw [List.map_cons, List.cons_append, List.nodup_cons, List.mem_append, not_or]
      exact ⟨hb, hes⟩
    rw [List.foldl_cons, List.map_cons]
    refine (ih _ hnodup).trans ((hput.append_right _).trans ?_)
    rw [List.cons_append]
    exact List.perm_middle.symm

omit [LawfulBEq κ] in
theorem map_put (f : α → γ) (key : κ) (a : α) (es : List (κ × α)) :
    (put key a es).map (fun e => (e.1, f e.2)) = put key (f a) (es.map fun e => (e.1, f e.2)) := by
  induction es with
  | nil => rfl
  | cons e es ih =>
    rw [List.map_cons, put, put]
    split
    · rfl
    · split
      · rfl
      · rw [List.map_cons, ih]

omit [LawfulBEq κ] in
theorem map_foldl_put (f : α → γ) (key : β → κ) (val : β → α) (bs : List β) (es : List (κ × α)) :
    (bs.foldl (fun es b => put (key b) (val b) es) es).map (fun e => (e.1, f e.2)) =
      bs.foldl (fun es b => put (key b) (f (val b)) es) (es.map fun e => (e.1, f e.2)) := by
  induction bs generalizing es with
  | nil => rfl
  | cons b bs ih => rw [List.foldl_cons, List.foldl_cons, ih, map_put]

omit [DecidableLT κ] [BEq κ] [LawfulBEq κ] in
/-- Entries have one order by their keys. -/
theorem eq_of_perm [Std.Asymm (α := κ) (· < ·)] {es es' : List (κ × α)} (h : Increasing es)
    (h' : Increasing es') (hperm : es.Perm es') : es = es' := by
  unfold Increasing at h h'
  rw [List.pairwise_map] at h h'
  exact hperm.eq_of_pairwise
    (fun a b _ _ hab hba => absurd hba (Std.Asymm.asymm (r := (· < ·)) _ _ hab)) h h'

variable [Trans (α := κ) (β := κ) (γ := κ) (· < ·) (· < ·) (· < ·)]
  [Std.Trichotomous (α := κ) (· < ·)]

theorem increasing_foldl_put (key : β → κ) (val : β → α) (bs : List β) (es : List (κ × α))
    (h : Increasing es) : Increasing (bs.foldl (fun es b => put (key b) (val b) es) es) := by
  induction bs generalizing es with
  | nil => exact h
  | cons b bs ih => exact ih _ (increasing_put _ _ h)

/-- Entries under different keys may be put in either order. -/
theorem foldr_put_eq_foldl_put [Std.Asymm (α := κ) (· < ·)] (key : β → κ) (val : β → α)
    {bs : List β} (h : (bs.map key).Nodup) :
    bs.foldr (fun b es => put (key b) (val b) es) [] =
      bs.foldl (fun es b => put (key b) (val b) es) [] := by
  rw [List.foldr_eq_foldl_reverse]
  have hleft := perm_foldl_put key val bs.reverse [] (by simpa using h)
  have hright := perm_foldl_put key val bs [] (by simpa using h)
  rw [List.nil_append] at hleft hright
  have hperm := (hleft.trans ((List.reverse_perm bs).map _)).trans hright.symm
  exact eq_of_perm (increasing_foldl_put key val bs.reverse [] .nil)
    (increasing_foldl_put key val bs [] .nil) hperm

end Sorted

namespace Toml

/-! ## Tables from statements -/

namespace Children

theorem put_new {key : String} (n : Node) {cs : Children} (h : cs.lookup key = none) :
    put key n cs = cs ++ [(key, n)] := by
  induction cs with
  | nil => rfl
  | cons c cs ih =>
    obtain ⟨k, m⟩ := c
    rw [List.lookup_cons] at h
    cases hk : key == k with
    | true => simp [hk] at h
    | false =>
      rw [hk] at h
      rw [put, hk, List.cons_append, ← ih h]
      rfl

theorem put_last {key : String} (n m : Node) {cs : Children} (h : cs.lookup key = none) :
    put key n (cs ++ [(key, m)]) = cs ++ [(key, n)] := by
  induction cs with
  | nil => simp [put]
  | cons c cs ih =>
    obtain ⟨k, m'⟩ := c
    rw [List.lookup_cons] at h
    cases hk : key == k with
    | true => simp [hk] at h
    | false =>
      rw [hk] at h
      rw [List.cons_append, put, hk, ih h]
      rfl

theorem lookup_last {key : String} (n : Node) {cs : Children} (h : cs.lookup key = none) :
    (cs ++ [(key, n)]).lookup key = some n := by
  rw [List.lookup_append, h]
  simp

/-- A key that comes twice in no list of keys is new. -/
theorem lookup_eq_none {key : String} {keys : List String} {cs : Children}
    (h : (cs.map (·.1) ++ key :: keys).Nodup) : cs.lookup key = none := by
  rw [List.nodup_middle, List.nodup_cons, List.mem_append, not_or] at h
  rw [List.lookup_eq_none_iff]
  intro e he
  simp only [bne_iff_ne, ne_eq]
  rintro rfl
  exact h.1.1 (List.mem_map_of_mem he)

end Children

/-- The header of a new table. -/
theorem step_header {name : String} {before : Children} (h : before.lookup name = none)
    (current : List String) : Draft.step ⟨before, current⟩ (.header ⟨[], name⟩) =
      some ⟨before ++ [(name, .table .header [])], [name]⟩ := by
  unfold Draft.step
  simp only [Children.within, Children.openTable, h, Children.put_new _ h]
  rfl

/-- A new key in the table that was opened last. -/
theorem step_assign {name key : String} {before inner : Children} (n : Node)
    (h : before.lookup name = none) (hk : inner.lookup key = none) :
    Draft.step ⟨before ++ [(name, .table .header inner)], [name]⟩ (.assign ⟨[], key⟩ n) =
      some ⟨before ++ [(name, .table .header (inner ++ [(key, n)]))], [name]⟩ := by
  unfold Draft.step
  simp only [Children.within, Children.assign, Children.lookup_last _ h, hk,
    Children.put_new _ hk]
  simp only [Option.bind_eq_bind, Option.bind_some, Option.pure_def, Children.put_last _ _ h]

variable {β : Type}

/-- Keys of different names, all in the table that was opened last. -/
theorem foldlM_assign (key : β → String) (node : β → Node) {name : String} {before : Children}
    (h : before.lookup name = none) (bs : List β) (inner : Children)
    (hk : (inner.map (·.1) ++ bs.map key).Nodup) :
    (bs.map fun b => Statement.assign ⟨[], key b⟩ (node b)).foldlM Draft.step
        ⟨before ++ [(name, .table .header inner)], [name]⟩ =
      some ⟨before ++ [(name, .table .header (inner ++ bs.map fun b => (key b, node b)))],
        [name]⟩ := by
  induction bs generalizing inner with
  | nil => simp
  | cons b bs ih =>
    rw [List.map_cons, List.foldlM_cons, step_assign _ h (Children.lookup_eq_none hk)]
    have hnext : ((inner ++ [(key b, node b)]).map (·.1) ++ bs.map key).Nodup := by
      simpa using hk
    refine (ih _ hnext).trans ?_
    simp

/-! ## Finished entries -/

theorem entries?_map (key : β → String) (node : β → Node) (val : β → Value) {bs : List β}
    (h : ∀ b ∈ bs, (node b).value? = some (val b)) :
    entries? (bs.map fun b => (key b, node b)) =
      some (bs.foldr (fun b es => Sorted.put (key b) (val b) es) []) := by
  induction bs with
  | nil => rfl
  | cons b bs ih =>
    have hbs := ih fun b' hb' => h b' (List.mem_cons_of_mem _ hb')
    rw [List.map_cons, entries?, h b List.mem_cons_self, hbs]
    rfl

/-- Entries of different names come out in the same order, whatever order they stood in. -/
theorem entries?_of_nodup (key : β → String) (node : β → Node) (val : β → Value) {bs : List β}
    (h : ∀ b ∈ bs, (node b).value? = some (val b)) (hn : (bs.map key).Nodup) :
    entries? (bs.map fun b => (key b, node b)) =
      some (bs.foldl (fun es b => Sorted.put (key b) (val b) es) []) := by
  rw [entries?_map key node val h, Sorted.foldr_put_eq_foldl_put key val hn]

end Toml

open Toml (Scalar Node Statement Spells Bare statements? entries?)

/-! ## Settings as statements -/

/-- What a value is as it is written. -/
def Kind.scalar : (k : Kind) → k.Content → Scalar
  | .port, n => .integer n.toNat
  | .text, s => .text s
  | .flag, b => .flag b
  | .amount, x => .number x

/-- A value as it comes back: a word that is no number loses its sign and its payload. -/
def Kind.canonical : (k : Kind) → k.Content → k.Content
  | .amount, x => x.canonical
  | .port, n => n
  | .text, s => s
  | .flag, b => b

namespace Settings

def canonical (c : Settings) : Settings :=
  { c with hub.balanceThreshold := c.hub.balanceThreshold.canonical }

theorem get_canonical (c : Settings) (k : Key) :
    c.canonical.get k = k.kind.canonical (c.get k) := by
  cases k <;> rfl

theorem valueOf_eq (c : Settings) (k : Key) :
    c.valueOf k = .scalar (k.kind.scalar (c.get k)) := by
  cases k <;> rfl

def keyNode (c : Settings) (k : Key) : Node := .leaf (k.kind.scalar (c.get k))

def keyStatement (c : Settings) (k : Key) : Statement := .assign ⟨[], k.name⟩ (c.keyNode k)

def sectionStatements (c : Settings) (s : Section) : List Statement :=
  .header ⟨[], s.name⟩ :: s.keys.map c.keyStatement

end Settings

theorem Section.bare_name (s : Section) : Bare s.name := by
  refine ⟨?_, ?_⟩
  · cases s <;> simp [Section.name]
  · cases s <;> simp [Section.name, Toml.isBareKeyChar]

theorem Key.bare_name (k : Key) : Bare k.name := by
  refine ⟨?_, ?_⟩
  · cases k <;> simp [Key.name]
  · cases k <;> simp [Key.name, Toml.isBareKeyChar]

/-- Each kind is written in a way that is read back. -/
theorem Kind.spells_write (k : Kind) (a : k.Content) :
    Spells (k.write a) (k.scalar (k.canonical a)) := by
  cases k with
  | port =>
    have hlt : a.toNat < 65536 := UInt16.toNat_lt a
    exact Toml.spells_toDigits (by omega)
  | text =>
    have h := Toml.spells_writeText a.toList
    rwa [String.ofList_toList] at h
  | flag => exact Toml.spells_flag a
  | amount => exact Toml.spells_amount a

namespace Settings

theorem statements?_keyLine (c : Settings) (k : Key) (rest : List Char) :
    statements? (c.keyLine k ++ rest) =
      (statements? rest).map (c.canonical.keyStatement k :: ·) := by
  have h := Toml.statements?_assign k.bare_name (Kind.spells_write k.kind (c.get k)) rest
  rw [← get_canonical] at h
  unfold keyLine keyStatement keyNode
  simpa using h

theorem statements?_keyLines (c : Settings) (ks : List Key) (rest : List Char) :
    statements? (ks.flatMap c.keyLine ++ rest) =
      (statements? rest).map (ks.map c.canonical.keyStatement ++ ·) := by
  induction ks with
  | nil => simp
  | cons k ks ih =>
    rw [List.flatMap_cons, List.append_assoc, statements?_keyLine, ih]
    cases statements? rest <;> rfl

theorem statements?_section (c : Settings) (s : Section) (rest : List Char) :
    statements? (c.sectionText s ++ rest) =
      (statements? rest).map (c.canonical.sectionStatements s ++ ·) := by
  have h := Toml.statements?_header s.bare_name (s.keys.flatMap c.keyLine ++ rest)
  rw [statements?_keyLines] at h
  unfold sectionText sectionStatements
  have hcat : '[' :: s.name.toList ++ [']', '\n'] ++ s.keys.flatMap c.keyLine ++ rest =
      '[' :: (s.name.toList ++ ']' :: '\n' :: (s.keys.flatMap c.keyLine ++ rest)) := by
    simp
  rw [hcat, h]
  cases statements? rest <;> rfl

theorem statements?_sections (c : Settings) (ss : List Section) :
    statements? (['\n'].intercalate (ss.map c.sectionText)) =
      some (ss.flatMap c.canonical.sectionStatements) := by
  induction ss with
  | nil => exact Toml.statements?_nil
  | cons s ss ih =>
    cases ss with
    | nil =>
      have h := statements?_section c s []
      rw [List.append_nil, Toml.statements?_nil] at h
      simpa using h
    | cons s' ss =>
      have hcat : ['\n'].intercalate ((s :: s' :: ss).map c.sectionText) =
          c.sectionText s ++ '\n' :: ['\n'].intercalate ((s' :: ss).map c.sectionText) := by
        simp [List.intercalate]
      rw [hcat, statements?_section, Toml.statements?_emptyLine, ih]
      rfl

end Settings

/-! ## The table of a written document -/

theorem Section.nodup_names : (Section.all.map Section.name).Nodup := by
  decide

theorem Section.nodup_keyNames (s : Section) : (s.keys.map Key.name).Nodup := by
  cases s <;> decide

theorem Key.name_ne_momentKey (k : Key) : k.name ≠ Toml.momentKey := by
  cases k <;> decide

namespace Settings

/-- The table of one section. -/
def sectionTable (c : Settings) (s : Section) : Toml.Table :=
  s.keys.foldl (fun es k => Sorted.put k.name (c.valueOf k) es) []

def sectionNode (c : Settings) (s : Section) : Node :=
  .table .header (s.keys.map fun k => (k.name, c.keyNode k))

theorem toTable_eq (c : Settings) : c.toTable =
    Section.all.foldl (fun t s => Sorted.put s.name (.table (c.sectionTable s)) t) [] :=
  rfl

theorem foldlM_section (c : Settings) (s : Section) {before : Toml.Children}
    (h : before.lookup s.name = none) (current : List String) :
    (c.sectionStatements s).foldlM Toml.Draft.step ⟨before, current⟩ =
      some ⟨before ++ [(s.name, c.sectionNode s)], [s.name]⟩ := by
  unfold sectionStatements
  rw [List.foldlM_cons, Toml.step_header h]
  exact Toml.foldlM_assign Key.name c.keyNode h s.keys [] (by simpa using s.nodup_keyNames)

/-- Sections of different names stand one behind the other. -/
theorem foldlM_sections (c : Settings) (ss : List Section) (before : Toml.Children)
    (h : (before.map (·.1) ++ ss.map Section.name).Nodup) (current : List String) :
    ∃ last, (ss.flatMap c.sectionStatements).foldlM Toml.Draft.step ⟨before, current⟩ =
      some ⟨before ++ ss.map fun s => (s.name, c.sectionNode s), last⟩ := by
  induction ss generalizing before current with
  | nil => exact ⟨current, by simp⟩
  | cons s ss ih =>
    have hnext : ((before ++ [(s.name, c.sectionNode s)]).map (·.1) ++
        ss.map Section.name).Nodup := by
      simpa using h
    obtain ⟨last, hlast⟩ := ih _ hnext [s.name]
    refine ⟨last, ?_⟩
    rw [List.flatMap_cons, List.foldlM_append, foldlM_section c s (Toml.Children.lookup_eq_none h)]
    refine hlast.trans ?_
    simp

/-- No key of a section makes a date or a time of it. -/
theorem momentNode?_section (c : Settings) (ks : List Key) :
    Toml.Children.momentNode? (ks.map fun k => (k.name, c.keyNode k)) = none := by
  cases ks with
  | nil => rfl
  | cons k ks =>
    rw [List.map_cons, Toml.Children.momentNode?, if_neg]
    simpa using k.name_ne_momentKey

theorem value?_section (c : Settings) (s : Section) :
    (c.sectionNode s).value? = some (.table (c.sectionTable s)) := by
  have hentries : entries? (s.keys.map fun k => (k.name, c.keyNode k)) =
      some (c.sectionTable s) := by
    apply Toml.entries?_of_nodup Key.name c.keyNode c.valueOf
    · intro k _
      rw [valueOf_eq]
      rfl
    · exact s.nodup_keyNames
  unfold sectionNode
  rw [Node.value?, Toml.Children.value?, momentNode?_section, hentries]
  rfl

/-- A written document begins with a header, not with a byte order mark. -/
theorem dropByteOrderMark_encodeChars (c : Settings) :
    Toml.dropByteOrderMark c.encodeChars = c.encodeChars := by
  obtain ⟨cs, hcs⟩ : ∃ cs, c.encodeChars = '[' :: cs := ⟨_, rfl⟩
  rw [hcs]
  rfl

theorem tableOf_sections (c : Settings) :
    Toml.tableOf (Section.all.flatMap c.sectionStatements) = some c.toTable := by
  obtain ⟨last, hlast⟩ := foldlM_sections c Section.all []
    (by simpa using Section.nodup_names) []
  have hentries := Toml.entries?_of_nodup Section.name c.sectionNode
    (fun s => .table (c.sectionTable s)) (fun s _ => value?_section c s) Section.nodup_names
  unfold Toml.tableOf
  rw [hlast, Option.bind_eq_bind, Option.bind_some, List.nil_append]
  exact hentries

/-- A written document is read as the table of its settings. -/
theorem readTable_encode (c : Settings) :
    Toml.readTable c.encode = some c.canonical.toTable := by
  unfold Toml.readTable encode
  rw [String.toList_ofList, dropByteOrderMark_encodeChars]
  unfold encodeChars
  rw [statements?_sections, Option.bind_eq_bind, Option.bind_some]
  exact tableOf_sections c.canonical

end Settings

end NodeSettings
