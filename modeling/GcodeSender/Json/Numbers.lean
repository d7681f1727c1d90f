import GcodeSender.Decimal.Reader

/-!
# `GcodeSender.Json.Numbers`: numbers

A number is an optional minus sign, digits without a leading zero, and
optionally a point with digits and an exponent with digits. As a
natural number only plain digits in range will do. As a double every
number will do that is in range.

A double is formed from the leading digits, as many as fit into 64
bits, and a power of ten, by one multiplication or division. Digits
beyond them only count their places. The result may differ from the
nearest double in the last bit.
-/

set_option autoImplicit false

namespace GcodeSender.Json

/-- At least one digit, and what follows. -/
def takeDigits? (cs : List Char) : Option (List Char × List Char) :=
  match Decimal.spanDigits cs with
  | (ds@(_ :: _), rest) => some (ds, rest)
  | ([], _) => none

/-- The digits of a whole number: a single zero, or no zero first. -/
def takeWhole? : List Char → Option (List Char × List Char)
  | '0' :: c :: rest => if c.isDigit then none else some (['0'], c :: rest)
  | cs => takeDigits? cs

/-- The parts of a number. -/
structure Number where
  negative : Bool
  whole : List Char
  /-- The digits behind the point, if there is one. -/
  places : Option (List Char)
  /-- The sign of the exponent, true for minus, and its digits. -/
  exponent : Option (Bool × List Char)
deriving DecidableEq, Repr

/-- The point and the digits behind it, if the text begins with one. -/
def takePlaces? : List Char → Option (Option (List Char) × List Char)
  | '.' :: cs => (takeDigits? cs).map fun (ds, rest) => (some ds, rest)
  | cs => some (none, cs)

/-- The exponent, if the text begins with one. -/
def takeExponent? : List Char → Option (Option (Bool × List Char) × List Char)
  | [] => some (none, [])
  | c :: cs =>
    if c = 'e' ∨ c = 'E' then
      let (negative, cs) := Decimal.spanSign cs
      (takeDigits? cs).map fun (ds, rest) => (some (negative, ds), rest)
    else some (none, c :: cs)

/-- Reads a number and what follows it. -/
def takeNumber? (cs : List Char) : Option (Number × List Char) := do
  let (negative, cs) := match cs with
    | '-' :: cs => (true, cs)
    | cs => (false, cs)
  let (whole, cs) ← takeWhole? cs
  let (places, cs) ← takePlaces? cs
  let (exponent, cs) ← takeExponent? cs
  some (⟨negative, whole, places, exponent⟩, cs)

/-- The number with the given spelling. -/
def Number.ofSpelling? (spelling : List Char) : Option Number :=
  match takeNumber? spelling with
  | some (n, []) => some n
  | _ => none

/-- The natural number that plain digits denote. -/
def Number.natural? (n : Number) : Option Nat :=
  if n.negative || n.places.isSome || n.exponent.isSome then none
  else some (Decimal.digitsValue 0 n.whole)

/-- The largest number that fits into 64 bits. -/
def maxSignificand : Nat := (1 <<< 64) - 1

/-- Takes digits into the significand while it fits into 64 bits: the
significand, and the digits that are left. -/
def takeSignificand : Nat → List Char → Nat × List Char
  | n, [] => (n, [])
  | n, d :: ds =>
    let next := 10 * n + (d.toNat - '0'.toNat)
    if next ≤ maxSignificand then takeSignificand next ds else (n, d :: ds)

/-- The largest power of ten that is a double. -/
def maxPower : Nat := 308

/-- The double nearest to a power of ten. -/
def powerOfTen (n : Nat) : Float := Decimal.nearestDecimal false 1 n

/-- Divides by `10 ^ places`, by the largest power that is a double as
long as that is smaller. The index bounds the divisions. -/
def divideByPower : Nat → Float → Nat → Float
  | 0, x, _ => x
  | n + 1, x, places =>
    if places ≤ maxPower then x / powerOfTen places
    else if x == 0 then x
    else divideByPower n (x / powerOfTen maxPower) (places - maxPower)

/-- `significand * 10 ^ power`, unless it is beyond the finite range. -/
def scale? (significand : Nat) (power : Int) : Option Float :=
  let x := Decimal.nearest false significand 1
  if power < 0 then
    let places := (-power).toNat
    some (divideByPower (places / maxPower + 1) x places)
  else if power.toNat ≤ maxPower then
    -- the second rounding, after that of the significand
    let y := x * powerOfTen power.toNat
    if y.isInf then none else some y
  else if significand = 0 then some x
  else none

/-- The largest exponent that is calculated with. -/
def maxExponent : Nat := (1 <<< 31) - 1

/-- An exponent within the range in which exponents are added. -/
def clampPower (power : Int) : Int := max (-(maxExponent + 1 : Int)) (min power maxExponent)

/-- The magnitude of a number as a double, unless it is out of range. -/
def Number.magnitude? (n : Number) : Option Float :=
  let (significand, skipped) := takeSignificand 0 n.whole
  let (significand, unused) := takeSignificand significand (n.places.getD [])
  let used := (n.places.getD []).length - unused.length
  let power : Int := skipped.length - used
  match n.exponent with
  | none => scale? significand power
  | some (negative, ds) =>
    let e := Decimal.digitsValue 0 ds
    -- a zero stays zero and a fraction this small becomes zero; all else is out of range
    if maxExponent < e then if significand = 0 || negative then some 0 else none
    else scale? significand (clampPower (if negative then power - e else power + e))

/-- The number as a double, unless it is out of range. -/
def Number.float? (n : Number) : Option Float :=
  n.magnitude?.map fun x => if n.negative then -x else x

end GcodeSender.Json
