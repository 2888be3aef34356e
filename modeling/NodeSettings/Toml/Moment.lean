-- Dates and times as values: a date, a time of day, both, or both with an
-- offset from universal time. Reading checks the calendar; writing gives
-- the one canonical text.
namespace NodeSettings.Toml

/-! ## Parts -/

structure Date where
  year : Nat
  month : Nat
  day : Nat
deriving DecidableEq

structure Time where
  hour : Nat
  minute : Nat
  second : Nat
  nanosecond : Nat
deriving DecidableEq

/-- Universal time itself, or so many minutes ahead of it. -/
inductive Offset
  | universal
  | ahead (minutes : Int)
deriving DecidableEq

inductive Moment
  | date (d : Date)
  | time (t : Time)
  | local (d : Date) (t : Time)
  | instant (d : Date) (t : Time) (o : Offset)
deriving DecidableEq

/-! ## Reading -/

/-- What a reader found and the text after it. -/
abbrev Reader (α : Type) := List Char → Option (α × List Char)

def digit? (c : Char) : Option Nat := if c.isDigit then some (c.toNat - '0'.toNat) else none

def twoDigits : Reader Nat
  | a :: b :: cs => do return ((← digit? a) * 10 + (← digit? b), cs)
  | _ => none

def fourDigits : Reader Nat
  | a :: b :: cs => do
    let (high, _) ← twoDigits [a, b]
    let (low, cs) ← twoDigits cs
    return (high * 100 + low, cs)
  | _ => none

def expect (c : Char) : List Char → Option (List Char)
  | d :: cs => if d == c then some cs else none
  | [] => none

def isLeapYear (year : Nat) : Bool := year % 4 == 0 && (year % 100 != 0 || year % 400 == 0)

def daysIn (year month : Nat) : Nat :=
  if month == 2 then if isLeapYear year then 29 else 28
  else if month == 4 || month == 6 || month == 9 || month == 11 then 30
  else 31

def Date.read : Reader Date := fun cs => do
  let (year, cs) ← fourDigits cs
  let (month, cs) ← twoDigits (← expect '-' cs)
  let (day, cs) ← twoDigits (← expect '-' cs)
  if 1 ≤ month && month ≤ 12 && 1 ≤ day && day ≤ daysIn year month then
    some (⟨year, month, day⟩, cs)
  else none

/-- The first nine digits of a fraction as nanoseconds, missing ones counting as zero. -/
def nanoseconds (digits : List Char) : Nat :=
  ((digits ++ List.replicate 9 '0').take 9).foldl (fun n c => n * 10 + (c.toNat - '0'.toNat)) 0

/-- A fraction of a second, if there is one; a point needs a digit after it. -/
def readFraction : Reader Nat
  | '.' :: cs =>
    match cs.takeWhile Char.isDigit with
    | [] => none
    | digits => some (nanoseconds digits, cs.dropWhile Char.isDigit)
  | cs => some (0, cs)

/-- Seconds go up to 60, for leap seconds. -/
def Time.read : Reader Time := fun cs => do
  let (hour, cs) ← twoDigits cs
  let (minute, cs) ← twoDigits (← expect ':' cs)
  let (second, cs) ← twoDigits (← expect ':' cs)
  let (nanosecond, cs) ← readFraction cs
  if hour ≤ 23 && minute ≤ 59 && second ≤ 60 then some (⟨hour, minute, second, nanosecond⟩, cs)
  else none

/-- The minutes of an offset text such as `07:00`. -/
def readHoursMinutes : Reader Nat := fun cs => do
  let (hours, cs) ← twoDigits cs
  let (minutes, cs) ← twoDigits (← expect ':' cs)
  if hours ≤ 23 && minutes ≤ 59 then some (hours * 60 + minutes, cs) else none

/-- An offset, if there is one. A sign has to be followed by one. -/
def Offset.read : Reader (Option Offset)
  | 'Z' :: cs | 'z' :: cs => some (some .universal, cs)
  | '+' :: cs => (readHoursMinutes cs).map fun (m, cs) => (some (.ahead m), cs)
  | '-' :: cs => (readHoursMinutes cs).map fun (m, cs) => (some (.ahead (-m)), cs)
  | cs => some (none, cs)

/-- The mark between a date and a time: a blank counts only if a time follows. -/
def timeMark : List Char → Option (List Char)
  | 'T' :: cs | 't' :: cs | ' ' :: cs => some cs
  | _ => none

def Moment.read : Reader Moment := fun cs =>
  match Date.read cs with
  | none => (Time.read cs).map fun (t, cs) => (.time t, cs)
  | some (d, cs) =>
    match (timeMark cs).bind Time.read with
    | none => some (.date d, cs)
    | some (t, cs) =>
      match Offset.read cs with
      | none => none
      | some (none, cs) => some (.local d t, cs)
      | some (some o, cs) => some (.instant d t o, cs)

/-- The date or time that a whole text spells out. -/
def Moment.ofText? (cs : List Char) : Option Moment :=
  match Moment.read cs with
  | some (m, []) => some m
  | _ => none

/-! ## Writing -/

/-- The last `width` decimal digits. -/
def fixedDigits : (width : Nat) → Nat → List Char
  | 0, _ => []
  | width + 1, n => fixedDigits width (n / 10) ++ [Nat.digitChar (n % 10)]

def Date.text (d : Date) : List Char :=
  fixedDigits 4 d.year ++ '-' :: fixedDigits 2 d.month ++ '-' :: fixedDigits 2 d.day

/-- A fraction without the zeros at its end, and nothing at all for zero. -/
def fractionText (nanosecond : Nat) : List Char :=
  if nanosecond = 0 then []
  else '.' :: ((fixedDigits 9 nanosecond).reverse.dropWhile (· == '0')).reverse

def Time.text (t : Time) : List Char :=
  fixedDigits 2 t.hour ++ ':' :: fixedDigits 2 t.minute ++ ':' :: fixedDigits 2 t.second ++
    fractionText t.nanosecond

def Offset.text : Offset → List Char
  | .universal => ['Z']
  | .ahead minutes =>
    (if minutes < 0 then '-' else '+') ::
      fixedDigits 2 (minutes.natAbs / 60) ++ ':' :: fixedDigits 2 (minutes.natAbs % 60)

def Moment.text : Moment → List Char
  | .date d => d.text
  | .time t => t.text
  | .local d t => d.text ++ 'T' :: t.text
  | .instant d t o => d.text ++ 'T' :: t.text ++ o.text

end NodeSettings.Toml
