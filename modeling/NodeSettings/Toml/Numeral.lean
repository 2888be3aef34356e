-- Reading numbers. Digits may have single underscores between them, an
-- integer has 64 bits, and a decimal number becomes the nearest binary one,
-- unless that is positive infinity.
import NodeSettings.Decimal.Nearest
import NodeSettings.Toml.Quoted
import NodeSettings.Toml.Value

namespace NodeSettings.Toml

open Decimal (Binary64 Scaled)

/-! ## Digits -/

/-- The digits that follow a digit, each of them with an underscore before it or none. -/
def moreDigits (isDigit : Char → Bool) : List Char → List Char × List Char
  | '_' :: c :: cs =>
    if isDigit c then
      let (more, rest) := moreDigits isDigit cs
      (c :: more, rest)
    else ([], '_' :: c :: cs)
  | c :: cs =>
    if isDigit c then
      let (more, rest) := moreDigits isDigit cs
      (c :: more, rest)
    else ([], c :: cs)
  | [] => ([], [])

/-- At least one digit. -/
def digits? (isDigit : Char → Bool) : Reader (List Char)
  | c :: cs =>
    if isDigit c then
      let (more, rest) := moreDigits isDigit cs
      some (c :: more, rest)
    else none
  | [] => none

/-- A whole part: a zero stands alone. -/
def whole? : Reader (List Char)
  | '0' :: cs => some (['0'], cs)
  | cs => digits? Char.isDigit cs

def natOfDigits (base : Nat) (digits : List Char) : Nat :=
  digits.foldl (fun n c => n * base + (hexDigit? c).getD 0) 0

/-- A sign, if there is one, and whether it is a minus. -/
def readSign : List Char → Bool × List Char
  | '-' :: cs => (true, cs)
  | '+' :: cs => (false, cs)
  | cs => (false, cs)

def signed (negative : Bool) (n : Nat) : Int := if negative then -n else n

/-! ## Integers -/

def isOctal (c : Char) : Bool := '0' ≤ c && c ≤ '7'

def isBinary (c : Char) : Bool := c == '0' || c == '1'

def isHex (c : Char) : Bool := (hexDigit? c).isSome

/-- Only what 64 bits with a sign can hold is an integer. -/
def inRange (n : Int) : Option Int :=
  if -0x8000000000000000 ≤ n && n < 0x8000000000000000 then some n else none

def readBased (base : Nat) (isDigit : Char → Bool) : Reader Scalar := fun cs => do
  let (digits, rest) ← digits? isDigit cs
  return (.integer (← inRange (natOfDigits base digits)), rest)

def readInteger : Reader Scalar
  | '0' :: 'x' :: cs => readBased 16 isHex cs
  | '0' :: 'o' :: cs => readBased 8 isOctal cs
  | '0' :: 'b' :: cs => readBased 2 isBinary cs
  | cs => do
    let (negative, cs) := readSign cs
    let (digits, rest) ← whole? cs
    return (.integer (← inRange (signed negative (natOfDigits 10 digits))), rest)

/-! ## Decimal numbers -/

def exponent? : Reader Int
  | c :: cs =>
    if c == 'e' || c == 'E' then do
      let (negative, cs) := readSign cs
      let (digits, rest) ← digits? Char.isDigit cs
      return (signed negative (natOfDigits 10 digits), rest)
    else none
  | [] => none

/-- Behind the whole part: an exponent, or a fraction and then an exponent if there is one. -/
def tail? : Reader (List Char × Int)
  | '.' :: cs => do
    let (fraction, rest) ← digits? Char.isDigit cs
    match exponent? rest with
    | some (e, rest) => return ((fraction, e), rest)
    | none => return ((fraction, 0), rest)
  | cs => (exponent? cs).map fun (e, rest) => (([], e), rest)

def decimal? : Reader Scalar := fun cs => do
  let (negative, cs) := readSign cs
  let (whole, cs) ← whole? cs
  let ((fraction, e), rest) ← tail? cs
  let d : Scaled := ⟨natOfDigits 10 (whole ++ fraction), e - fraction.length⟩
  let x := d.toBinary negative
  if x = Binary64.infinity false then none else some (.number x, rest)

def special? : Reader Scalar := fun cs =>
  let (negative, cs) := readSign cs
  match cs with
  | 'i' :: 'n' :: 'f' :: rest => some (.number (.infinity negative), rest)
  | 'n' :: 'a' :: 'n' :: rest => some (.number (.nan negative), rest)
  | _ => none

/-- What begins like a number: a date or time, a decimal number, or else an integer. -/
def readNumeral : Reader Scalar := fun cs =>
  match Moment.read cs with
  | some (m, rest) => some (.moment m, rest)
  | none => (decimal? cs).or ((special? cs).or (readInteger cs))

end NodeSettings.Toml
