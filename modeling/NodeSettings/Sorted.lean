-- Lists of entries in the order of their keys. Putting an entry keeps the
-- order, and looking a key up finds what was put last.
namespace NodeSettings.Sorted

variable {κ α : Type} [LT κ] [DecidableLT κ] [BEq κ]

/-- Puts an entry at its place in the order of keys, instead of the one that was there. -/
def put (key : κ) (a : α) : List (κ × α) → List (κ × α)
  | [] => [(key, a)]
  | (k, b) :: es =>
    if key == k then (key, a) :: es
    else if key < k then (key, a) :: (k, b) :: es
    else (k, b) :: put key a es

/-- Takes all entries under a key away. -/
def remove (key : κ) (es : List (κ × α)) : List (κ × α) := es.filter fun e => !(e.1 == key)

/-- Keys in strictly increasing order, so that none stands twice. -/
def Increasing (es : List (κ × α)) : Prop := (es.map (·.1)).Pairwise (· < ·)

instance (es : List (κ × α)) : Decidable (Increasing es) :=
  inferInstanceAs (Decidable (List.Pairwise _ _))

/-! ## Laws -/

variable [LawfulBEq κ]

@[simp] theorem lookup_put_same (key : κ) (a : α) (es : List (κ × α)) :
    (put key a es).lookup key = some a := by
  induction es with
  | nil => simp [put]
  | cons e es ih =>
    obtain ⟨k, b⟩ := e
    rw [put]
    split
    · simp
    · split
      · simp
      · rename_i h _
        simpa [List.lookup_cons, h] using ih

theorem lookup_put_other {key k : κ} (a : α) (es : List (κ × α)) (h : k ≠ key) :
    (put key a es).lookup k = es.lookup k := by
  have hk : (k == key) = false := by simpa using h
  induction es with
  | nil => simp [put, List.lookup_cons, hk]
  | cons e es ih =>
    obtain ⟨k', b⟩ := e
    rw [put]
    split
    · rename_i he
      have := eq_of_beq he
      subst this
      simp [List.lookup_cons, hk]
    · split
      · simp [List.lookup_cons, hk]
      · simp [List.lookup_cons, ih]

omit [LT κ] [DecidableLT κ] in
@[simp] theorem lookup_remove_same (key : κ) (es : List (κ × α)) :
    (remove key es).lookup key = none := by
  induction es with
  | nil => rfl
  | cons e es ih =>
    obtain ⟨k, b⟩ := e
    by_cases h : k = key
    · simpa [remove, h] using ih
    · have h' : (key == k) = false := by simpa using Ne.symm h
      simpa [remove, h, List.lookup_cons, h'] using ih

omit [LT κ] [DecidableLT κ] in
theorem lookup_remove_other {key k : κ} (es : List (κ × α)) (h : k ≠ key) :
    (remove key es).lookup k = es.lookup k := by
  induction es with
  | nil => rfl
  | cons e es ih =>
    obtain ⟨k', b⟩ := e
    by_cases h' : k' = key
    · have : (k == key) = false := by simpa using h
      simpa [remove, h', List.lookup_cons, this] using ih
    · by_cases h'' : k = k'
      · simp [remove, h', h'']
      · have : (k == k') = false := by simpa using h''
        simpa [remove, h', List.lookup_cons, this] using ih

/-! ## The order -/

omit [LawfulBEq κ] in
theorem mem_put {key : κ} {a : α} {es : List (κ × α)} {e : κ × α} (h : e ∈ put key a es) :
    e = (key, a) ∨ e ∈ es := by
  induction es with
  | nil => simpa [put] using h
  | cons e' es ih =>
    rw [put] at h
    split at h
    · simp only [List.mem_cons] at h ⊢
      exact h.imp id .inr
    · split at h
      · simpa using h
      · rcases List.mem_cons.1 h with h | h
        · exact .inr (by simp [h])
        · exact (ih h).imp id (List.mem_cons_of_mem _)

theorem increasing_put [Trans (α := κ) (β := κ) (γ := κ) (· < ·) (· < ·) (· < ·)]
    [Std.Trichotomous (α := κ) (· < ·)] (key : κ) (a : α) {es : List (κ × α)}
    (h : Increasing es) : Increasing (put key a es) := by
  unfold Increasing at *
  rw [List.pairwise_map] at *
  induction es with
  | nil => simp [put]
  | cons e es ih =>
    obtain ⟨above, rest⟩ := List.pairwise_cons.1 h
    rw [put]
    split
    · rename_i he
      have := eq_of_beq he
      subst this
      exact List.pairwise_cons.2 ⟨above, rest⟩
    · split
      · rename_i hlt
        refine List.pairwise_cons.2 ⟨fun e' he' => ?_, h⟩
        rcases List.mem_cons.1 he' with rfl | he'
        · exact hlt
        · exact Trans.trans hlt (above e' he')
      · rename_i hne hnlt
        refine List.pairwise_cons.2 ⟨fun e' he' => ?_, ih rest⟩
        rcases mem_put he' with rfl | he'
        · refine Classical.byContradiction fun hn => hne ?_
          have := Std.Trichotomous.trichotomous (r := (· < ·)) _ _ hnlt hn
          simp [this]
        · exact above e' he'

omit [DecidableLT κ] [BEq κ] [LawfulBEq κ] in
theorem increasing_filter (p : κ × α → Bool) {es : List (κ × α)} (h : Increasing es) :
    Increasing (es.filter p) :=
  List.Pairwise.sublist (List.Sublist.map _ List.filter_sublist) h

omit [DecidableLT κ] [LawfulBEq κ] in
theorem increasing_remove (key : κ) {es : List (κ × α)} (h : Increasing es) :
    Increasing (remove key es) :=
  increasing_filter _ h

end NodeSettings.Sorted
