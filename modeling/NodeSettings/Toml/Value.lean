-- The values a document can hold, and tables as lists of entries. A table
-- that was read has its keys in strictly increasing byte order.
import NodeSettings.Decimal.Binary64
import NodeSettings.Sorted
import NodeSettings.Toml.Moment

namespace NodeSettings.Toml

open Decimal (Binary64)

/-- A value without parts. -/
inductive Scalar
  | text (s : String)
  | integer (n : Int)
  | number (x : Binary64)
  | flag (b : Bool)
  | moment (m : Moment)

inductive Value
  | scalar (s : Scalar)
  | list (items : List Value)
  | table (entries : List (String × Value))

instance : Inhabited Value := ⟨.scalar (.flag false)⟩

abbrev Table := List (String × Value)

/-! ## Entries -/

/-- The value under `key`, if the table has that key. -/
def Table.get? (t : Table) (key : String) : Option Value := t.lookup key

/-! ## Sorted tables -/

mutual

/-- Every table inside the value has its keys in order. -/
def Value.Sorted : Value → Prop
  | .list items => ListSorted items
  | .table entries => Sorted.Increasing entries ∧ EntriesSorted entries
  | _ => True

def ListSorted : List Value → Prop
  | [] => True
  | v :: vs => v.Sorted ∧ ListSorted vs

def EntriesSorted : List (String × Value) → Prop
  | [] => True
  | (_, v) :: es => v.Sorted ∧ EntriesSorted es

end

/-- The table and every table inside it have their keys in order. -/
def Table.Sorted (t : Table) : Prop := Sorted.Increasing t ∧ EntriesSorted t

mutual

def decideSorted : (v : Value) → Decidable v.Sorted
  | .scalar _ => .isTrue trivial
  | .list vs => decideListSorted vs
  | .table es =>
    have := decideEntriesSorted es
    inferInstanceAs (Decidable (_ ∧ _))

def decideListSorted : (vs : List Value) → Decidable (ListSorted vs)
  | [] => .isTrue trivial
  | v :: vs =>
    have := decideSorted v
    have := decideListSorted vs
    inferInstanceAs (Decidable (_ ∧ _))

def decideEntriesSorted : (es : List (String × Value)) → Decidable (EntriesSorted es)
  | [] => .isTrue trivial
  | (_, v) :: es =>
    have := decideSorted v
    have := decideEntriesSorted es
    inferInstanceAs (Decidable (_ ∧ _))

end

instance (t : Table) : Decidable t.Sorted :=
  have := decideEntriesSorted t
  inferInstanceAs (Decidable (_ ∧ _))

theorem listSorted_iff {vs : List Value} : ListSorted vs ↔ ∀ v ∈ vs, v.Sorted := by
  induction vs with
  | nil => simp [ListSorted]
  | cons v vs ih => simp [ListSorted, ih]

theorem entriesSorted_iff {es : List (String × Value)} :
    EntriesSorted es ↔ ∀ e ∈ es, e.2.Sorted := by
  induction es with
  | nil => simp [EntriesSorted]
  | cons e es ih =>
    obtain ⟨k, v⟩ := e
    simp [EntriesSorted, ih]

theorem Table.sorted_nil : Table.Sorted [] := ⟨.nil, trivial⟩

/-- Putting a sorted value into a sorted table leaves it sorted. -/
theorem Table.sorted_put {t : Table} {v : Value} (key : String) (hv : v.Sorted) (ht : t.Sorted) :
    Table.Sorted (Sorted.put key v t) := by
  refine ⟨Sorted.increasing_put key v ht.1, entriesSorted_iff.2 fun e he => ?_⟩
  rcases Sorted.mem_put he with rfl | he
  · exact hv
  · exact entriesSorted_iff.1 ht.2 e he

end NodeSettings.Toml
