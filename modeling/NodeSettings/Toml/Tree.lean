-- How statements build a table. A table remembers what has made it, since
-- that decides who may still add to it: a header, only a longer header, or
-- a dotted key. What may not be added to makes the document invalid. Keys
-- keep the order they came up in until the document is complete; a finished
-- table has them sorted.
import NodeSettings.Toml.Value

namespace NodeSettings.Toml

/-- What has made a table. -/
inductive Origin
  | header
  | longerHeader
  | dottedKey
deriving DecidableEq

/-- A place in an unfinished document. Arrays and inline tables are whole at once; in an array of
tables only the last one is still open, and the others are kept newest first. -/
inductive Node
  | leaf (s : Scalar)
  | list (items : List Node)
  | inline (children : List (String × Node))
  | table (origin : Origin) (children : List (String × Node))
  | tables (closed : List Node) (last : List (String × Node))

/-- The places in a table, in the order in which their keys have come up. -/
abbrev Children := List (String × Node)

namespace Children

/-- Puts a place where its key stands already, else behind all others. -/
def put (key : String) (n : Node) : Children → Children
  | [] => [(key, n)]
  | (k, m) :: cs => if key == k then (key, n) :: cs else (k, m) :: put key n cs

/-! ## Assignments -/

/-- Assigns `n` to the dotted key `path.key`. On the way a dotted key may pass tables that no header
has made; the table that gets the key must be made by dotted keys, or be the one that the statement
stands in. -/
def assign (key : String) (n : Node) : (path : List String) → Children → Option Children
  | [], cs =>
    match cs.lookup key with
    | some _ => none
    | none => some (put key n cs)
  | p :: ps, cs =>
    match cs.lookup p with
    | none => do return put p (.table .dottedKey (← assign key n ps [])) cs
    | some (.table origin inner) =>
      if origin == .header || (ps.isEmpty && origin != .dottedKey) then none
      else do return put p (.table origin (← assign key n ps inner)) cs
    | some (.tables closed last) =>
      if ps.isEmpty then none
      else do return put p (.tables closed (← assign key n ps last)) cs
    | some _ => none

/-! ## Headers -/

/-- Changes the table at `path`, making the tables on the way that are missing. In an array of
tables the way goes on in the last one. -/
def within (f : Children → Option Children) : (path : List String) → Children → Option Children
  | [], cs => f cs
  | p :: ps, cs =>
    match cs.lookup p with
    | none => do return put p (.table .longerHeader (← within f ps [])) cs
    | some (.table origin inner) => do return put p (.table origin (← within f ps inner)) cs
    | some (.tables closed last) => do return put p (.tables closed (← within f ps last)) cs
    | some _ => none

/-- The header of a table makes it, or completes one that only longer headers have made. Either way
the table comes behind what stands beside it. -/
def openTable (key : String) (cs : Children) : Option Children :=
  match cs.lookup key with
  | none => some (put key (.table .header []) cs)
  | some (.table .longerHeader inner) =>
    some (put key (.table .header inner) (Sorted.remove key cs))
  | some _ => none

/-- The header of an element starts an array of tables or adds the next table to it. -/
def openElement (key : String) (cs : Children) : Option Children :=
  match cs.lookup key with
  | none => some (put key (.tables [] []) cs)
  | some (.tables closed last) =>
    some (put key (.tables (.table .header last :: closed) []) cs)
  | some _ => none

end Children

/-! ## Inline tables -/

/-- A key with the segments in front of it. -/
structure KeyPath where
  outer : List String
  last : String
deriving DecidableEq

/-- The table that the pairs of an inline table make, as if they stood under one header. -/
def Node.ofPairs? (pairs : List (KeyPath × Node)) : Option Node := do
  let children ← pairs.foldlM (fun cs (path, n) => Children.assign path.last n path.outer cs) []
  return .inline children

/-! ## Finished values -/

/-- A table with this key in front of all others stands for a date or a time. -/
def momentKey : String := "$__toml_private_datetime"

/-- What stands under `momentKey`, if that is the first key. -/
def Children.momentNode? : Children → Option Node
  | (key, n) :: _ => if key == momentKey then some n else none
  | [] => none

/-- The date or time that a place spells out. -/
def Node.moment? : Node → Option Moment
  | .leaf (.text s) => Moment.ofText? s.toList
  | _ => none

/-- The value of a table inside the document, where `entries` are its finished entries. These do not
count in a table that stands for a date or a time. -/
def Children.value? (cs : Children) (entries : Option Table) : Option Value :=
  match cs.momentNode? with
  | some n => n.moment?.map fun m => .scalar (.moment m)
  | none => entries.map .table

mutual

/-- The value that has grown at a place, unless a table in it should be a date or a time and is
not. -/
def Node.value? : Node → Option Value
  | .leaf s => some (.scalar s)
  | .list items => (values? items).map .list
  | .inline children => Children.value? children (entries? children)
  | .table _ children => Children.value? children (entries? children)
  | .tables closed last => do
    let newest ← Children.value? last (entries? last)
    return .list ((newest :: (← values? closed)).reverse)

def values? : List Node → Option (List Value)
  | [] => some []
  | n :: ns => do return (← n.value?) :: (← values? ns)

/-- The entries in the order of their keys. -/
def entries? : List (String × Node) → Option Table
  | [] => some []
  | (k, n) :: cs => do return Sorted.put k (← n.value?) (← entries? cs)

end

/-! ## The order of finished tables -/

theorem Children.sorted_value? {cs : Children} {entries : Option Table} {v : Value}
    (h : cs.value? entries = some v) (he : ∀ t, entries = some t → t.Sorted) : v.Sorted := by
  rw [Children.value?] at h
  split at h
  · obtain ⟨m, _, rfl⟩ := Option.map_eq_some_iff.1 h
    trivial
  · obtain ⟨t, ht, rfl⟩ := Option.map_eq_some_iff.1 h
    exact he t ht

mutual

theorem Node.sorted_value? (n : Node) {v : Value} (h : n.value? = some v) : v.Sorted := by
  cases n with
  | leaf s =>
    obtain rfl := Option.some.inj h
    trivial
  | list items =>
    obtain ⟨vs, hvs, rfl⟩ := Option.map_eq_some_iff.1 h
    exact sorted_values? items hvs
  | inline children => exact Children.sorted_value? h fun t ht => sorted_entries? children ht
  | table origin children => exact Children.sorted_value? h fun t ht => sorted_entries? children ht
  | tables closed last =>
    obtain ⟨newest, hn, h⟩ := Option.bind_eq_some_iff.1 h
    obtain ⟨vs, hvs, h⟩ := Option.bind_eq_some_iff.1 h
    obtain rfl := Option.some.inj h
    have above := listSorted_iff.1 (sorted_values? closed hvs)
    have first := Children.sorted_value? hn fun t ht => sorted_entries? last ht
    refine listSorted_iff.2 fun v hv => ?_
    rcases List.mem_cons.1 (List.mem_reverse.1 hv) with rfl | hv
    · exact first
    · exact above v hv

theorem sorted_values? (ns : List Node) {vs : List Value} (h : values? ns = some vs) :
    ListSorted vs := by
  cases ns with
  | nil =>
    obtain rfl := Option.some.inj h
    trivial
  | cons n ns =>
    obtain ⟨v, hv, h⟩ := Option.bind_eq_some_iff.1 h
    obtain ⟨vs, hvs, h⟩ := Option.bind_eq_some_iff.1 h
    obtain rfl := Option.some.inj h
    exact ⟨n.sorted_value? hv, sorted_values? ns hvs⟩

theorem sorted_entries? (cs : List (String × Node)) {t : Table} (h : entries? cs = some t) :
    t.Sorted := by
  cases cs with
  | nil =>
    obtain rfl := Option.some.inj h
    exact Table.sorted_nil
  | cons c cs =>
    obtain ⟨k, n⟩ := c
    obtain ⟨v, hv, h⟩ := Option.bind_eq_some_iff.1 h
    obtain ⟨es, hes, h⟩ := Option.bind_eq_some_iff.1 h
    obtain rfl := Option.some.inj h
    exact Table.sorted_put k (n.sorted_value? hv) (sorted_entries? cs hes)

end

/-! ## Documents -/

inductive Statement
  | assign (path : KeyPath) (n : Node)
  | header (path : KeyPath)
  | element (path : KeyPath)

/-- The document so far, and the path of the header that the next assignment stands under. -/
structure Draft where
  root : Children := []
  current : List String := []

def Draft.step (d : Draft) : Statement → Option Draft
  | .assign path n => do
    let add := Children.assign path.last n path.outer
    return { d with root := ← Children.within add d.current d.root }
  | .header path => do
    return ⟨← Children.within (Children.openTable path.last) path.outer d.root,
      path.outer ++ [path.last]⟩
  | .element path => do
    return ⟨← Children.within (Children.openElement path.last) path.outer d.root,
      path.outer ++ [path.last]⟩

/-- The table of a whole document, if no statement comes into the way of another. At the top no key
has a meaning of its own. -/
def tableOf (statements : List Statement) : Option Table := do
  let draft ← statements.foldlM Draft.step {}
  entries? draft.root

theorem sorted_tableOf {statements : List Statement} {t : Table}
    (h : tableOf statements = some t) : t.Sorted := by
  obtain ⟨draft, _, h⟩ := Option.bind_eq_some_iff.1 h
  exact sorted_entries? draft.root h

end NodeSettings.Toml
