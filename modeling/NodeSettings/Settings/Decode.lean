-- From a table to settings. Sections and keys are looked at in the order
-- of the table, unknown ones are passed over, and the first misfit ends
-- the reading.
import NodeSettings.Decimal.Shortest
import NodeSettings.Settings.Schema
import NodeSettings.Text.Escaped
import NodeSettings.Toml.Value

namespace NodeSettings

open Toml (Value Table)

/-! ## Misfits -/

/-- Why a value cannot be taken. -/
inductive Cause
  | wrongKind (found : Value) (expected : String)
  | outOfRange (n : Int)
  | tooMany (count : Nat)

/-- A value that cannot be taken, and where it stands. There is no key if it stands for the section
itself or is an element of a section that is written as an array. -/
structure Misfit where
  part : Section
  key? : Option Key
  cause : Cause

/-- What a message expects a value of the kind to be. -/
def Kind.expected : Kind → String
  | .port => "u16"
  | .text => "a string"
  | .flag => "a boolean"
  | .amount => "f64"

/-! ## Values -/

/-- The content that a value gives: a port is an integer of 16 bits, an amount may be written as an
integer, and a date or time counts as its text. -/
def Kind.take : (k : Kind) → Value → Except Cause k.Content
  | .port, .scalar (.integer n) =>
    if 0 ≤ n && n < 65536 then .ok (UInt16.ofNat n.toNat) else .error (.outOfRange n)
  | .text, .scalar (.text s) => .ok s
  | .text, .scalar (.moment m) => .ok (String.ofList m.text)
  | .flag, .scalar (.flag b) => .ok b
  | .amount, .scalar (.number x) => .ok x
  | .amount, .scalar (.integer n) => .ok (.ofInt n)
  | k, v => .error (.wrongKind v k.expected)

/-! ## Sections -/

namespace Settings

def takeKey (c : Settings) (k : Key) (named : Option Key) (v : Value) : Except Misfit Settings :=
  match k.kind.take v with
  | .ok a => .ok (c.put k a)
  | .error cause => .error ⟨k.home, named, cause⟩

/-- A section written as a table: entry by entry. -/
def takeEntries (s : Section) : Settings → Table → Except Misfit Settings
  | c, [] => .ok c
  | c, (name, v) :: es =>
    match s.key? name with
    | none => takeEntries s c es
    | some k => do takeEntries s (← c.takeKey k (some k) v) es

/-- A section written as an array: the items fill the keys in order, and a missing one leaves its
key alone. -/
def takeItems : Settings → List Key → List Value → Except Misfit Settings
  | c, k :: ks, v :: vs => do takeItems (← c.takeKey k none v) ks vs
  | c, _, _ => .ok c

def takeSection (c : Settings) (s : Section) : Value → Except Misfit Settings
  | .table es => takeEntries s c es
  | .list vs => do
    let c ← takeItems c s.keys vs
    if vs.length ≤ s.keys.length then .ok c else .error ⟨s, none, .tooMany vs.length⟩
  | v => .error ⟨s, none, .wrongKind v s.shape⟩

def takeSections : Settings → Table → Except Misfit Settings
  | c, [] => .ok c
  | c, (name, v) :: es =>
    match Section.ofName? name with
    | none => takeSections c es
    | some s => do takeSections (← c.takeSection s v) es

def ofTable (t : Table) : Except Misfit Settings := takeSections {} t

end Settings

/-! ## Messages -/

/-- What a message calls a value. -/
def describe : Value → String
  | .scalar (.text s) => "string " ++ Text.escaped s
  | .scalar (.integer n) => "integer `" ++ toString n ++ "`"
  | .scalar (.number x) => "floating point `" ++ String.ofList (x.plain ['N', 'a', 'N']) ++ "`"
  | .scalar (.flag b) => "boolean `" ++ (if b then "true" else "false") ++ "`"
  | .scalar (.moment m) => "string " ++ Text.escaped (String.ofList m.text)
  | .list _ => "sequence"
  | .table _ => "map"

def Cause.message : Cause → String
  | .wrongKind found expected => "invalid type: " ++ describe found ++ ", expected " ++ expected
  | .outOfRange n => "invalid value: integer `" ++ toString n ++ "`, expected u16"
  | .tooMany count =>
    "invalid length " ++ toString count ++ ", expected fewer elements in array"

def Misfit.place (m : Misfit) : String :=
  match m.key? with
  | none => m.part.name
  | some k => m.part.name ++ "." ++ k.name

def Misfit.message (m : Misfit) : String :=
  m.cause.message ++ "\nin `" ++ m.place ++ "`\n"

end NodeSettings
