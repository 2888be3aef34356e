-- The order of texts is that of their bytes: of two characters the smaller one
-- has the smaller bytes, and it does so at a place that both have.
import Mathlib

namespace NodeSettings.Text

/-! ## Bytes -/

/-- The bytes of a text in UTF-8. -/
def bytes (s : String) : List UInt8 := s.toUTF8.data.toList

theorem bytes_eq (s : String) : bytes s = s.toList.flatMap String.utf8EncodeChar := by
  have hencode : s.toUTF8 = s.toList.utf8Encode := String.utf8Encode_toList.symm
  unfold bytes
  rw [hencode, List.utf8Encode, List.toList_data_toByteArray]

/-- The lists differ at a place that both have, and there the first is smaller. -/
def Below : List UInt8 → List UInt8 → Prop
  | x :: xs, y :: ys => x < y ∨ x = y ∧ Below xs ys
  | _, _ => False

/-- What comes behind such a place does not count. -/
theorem Below.append_lt {xs ys : List UInt8} (h : Below xs ys) (us vs : List UInt8) :
    xs ++ us < ys ++ vs := by
  induction xs, ys using Below.induct with
  | case1 x xs y ys ih =>
    rw [List.cons_append, List.cons_append, List.cons_lt_cons_iff]
    exact h.imp_right fun h => ⟨h.1, ih h.2⟩
  | case2 => exact absurd h (by simp [Below])

theorem ofNat_lt_iff {m n : Nat} (hm : m < 256) (hn : n < 256) :
    UInt8.ofNat m < UInt8.ofNat n ↔ m < n := by
  rw [UInt8.lt_iff_toNat_lt, UInt8.toNat_ofNat_of_lt' hm, UInt8.toNat_ofNat_of_lt' hn]

theorem ofNat_eq_iff {m n : Nat} (hm : m < 256) (hn : n < 256) :
    UInt8.ofNat m = UInt8.ofNat n ↔ m = n := by
  rw [← UInt8.toNat_inj, UInt8.toNat_ofNat_of_lt' hm, UInt8.toNat_ofNat_of_lt' hn]

/-- Of two numbers the smaller one has the smaller quotient, or the same and the smaller rest. -/
theorem div_lt_or {m n : Nat} (h : m < n) (k : Nat) :
    m / k < n / k ∨ m / k = n / k ∧ m % k < n % k := by
  rcases Nat.lt_or_eq_of_le (Nat.div_le_div_right (c := k) h.le) with hlt | heq
  · exact .inl hlt
  · refine .inr ⟨heq, ?_⟩
    have hm := Nat.div_add_mod m k
    have hn := Nat.div_add_mod n k
    rw [heq] at hm
    omega

theorem below_utf8EncodeChar {a b : Char} (h : a < b) :
    Below (String.utf8EncodeChar a) (String.utf8EncodeChar b) := by
  have hlt : a.val.toNat < b.val.toNat := UInt32.lt_iff_toNat_lt.1 (Char.lt_def.1 h)
  have hvalid : b.val.toNat < 55296 ∨ 57343 < b.val.toNat ∧ b.val.toNat < 1114112 := b.valid
  have hdigits : ∀ k, k / 4096 = k / 64 / 64 ∧ k / 262144 = k / 64 / 64 / 64 := by
    intro k
    omega
  unfold String.utf8EncodeChar
  generalize a.val.toNat = m at hlt
  generalize b.val.toNat = n at hlt hvalid
  dsimp only
  -- The digits to the base 64, from the first on that tells the numbers apart.
  have hone := div_lt_or hlt 64
  have htwo : m / 64 < n / 64 → m / 64 / 64 < n / 64 / 64 ∨
      m / 64 / 64 = n / 64 / 64 ∧ m / 64 % 64 < n / 64 % 64 := fun h => div_lt_or h 64
  have hthree : m / 64 / 64 < n / 64 / 64 → m / 64 / 64 / 64 < n / 64 / 64 / 64 ∨
      m / 64 / 64 / 64 = n / 64 / 64 / 64 ∧ m / 64 / 64 % 64 < n / 64 / 64 % 64 :=
    fun h => div_lt_or h 64
  split_ifs <;> simp (disch := omega) only [Below, ofNat_lt_iff, ofNat_eq_iff, hdigits] <;> omega

/-! ## Texts -/

theorem flatMap_utf8EncodeChar_lt {cs ds : List Char} (h : cs < ds) :
    cs.flatMap String.utf8EncodeChar < ds.flatMap String.utf8EncodeChar := by
  induction cs generalizing ds with
  | nil =>
    cases ds with
    | nil => exact absurd h (List.not_lt_nil [])
    | cons d ds =>
      obtain ⟨x, xs, hx⟩ := List.exists_cons_of_ne_nil (String.utf8EncodeChar_ne_nil (c := d))
      rw [List.flatMap_cons, hx]
      exact List.nil_lt_cons x _
  | cons c cs ih =>
    cases ds with
    | nil => exact absurd h (List.not_lt_nil _)
    | cons d ds =>
      rw [List.flatMap_cons, List.flatMap_cons]
      rcases List.cons_lt_cons_iff.1 h with hlt | ⟨rfl, hlt⟩
      · exact (below_utf8EncodeChar hlt).append_lt _ _
      · exact List.append_left_lt (ih hlt)

/-- Texts are in the order of their bytes. -/
theorem bytes_lt {s t : String} (h : s < t) : bytes s < bytes t := by
  rw [bytes_eq, bytes_eq]
  exact flatMap_utf8EncodeChar_lt (String.lt_iff_toList_lt.1 h)

/-- Lists of texts are compared text by text. -/
theorem map_bytes_lt {ss ts : List String} (h : ss < ts) : ss.map bytes < ts.map bytes := by
  induction ss generalizing ts with
  | nil =>
    cases ts with
    | nil => exact absurd h (List.not_lt_nil [])
    | cons t ts => exact List.nil_lt_cons _ _
  | cons s ss ih =>
    cases ts with
    | nil => exact absurd h (List.not_lt_nil _)
    | cons t ts =>
      rw [List.map_cons, List.map_cons, List.cons_lt_cons_iff]
      rcases List.cons_lt_cons_iff.1 h with hlt | ⟨rfl, hlt⟩
      · exact .inl (bytes_lt hlt)
      · exact .inr ⟨rfl, ih hlt⟩

end NodeSettings.Text
