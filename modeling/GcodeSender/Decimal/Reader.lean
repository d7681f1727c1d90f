import GcodeSender.Decimal.Binary64
import GcodeSender.Text.Case

/-!
# `GcodeSender.Decimal.Reader`: reading a number

A number is an optional sign followed by `inf`, `infinity` or `nan` in
any case, or by digits with an optional point and an optional
exponent. At least one digit must stand before the exponent; it may
stand on either side of the point. The result is the double nearest to
the number written.
-/

set_option autoImplicit false

namespace GcodeSender.Decimal

/-- Why a text is not a number. -/
inductive NumberFault where
  | empty
  | invalid
deriving DecidableEq, Repr

/-- The fault in words. -/
def NumberFault.message : NumberFault → String
  | .empty => "cannot parse float from empty string"
  | .invalid => "invalid float literal"

/-- The number that a sequence of digits denotes, continuing from
`start`. -/
def digitsValue (start : Nat) (ds : List Char) : Nat :=
  ds.foldl (fun n d => 10 * n + (d.toNat - '0'.toNat)) start

/-- The leading digits of a text and what follows them. -/
def spanDigits (cs : List Char) : List Char × List Char :=
  (cs.takeWhile Char.isDigit, cs.dropWhile Char.isDigit)

/-- A sign in front of a text, true for minus, and what follows it. -/
def spanSign : List Char → Bool × List Char
  | '-' :: cs => (true, cs)
  | '+' :: cs => (false, cs)
  | cs => (false, cs)

/-- The exponent part that ends a number; nothing stands for zero. -/
def readExponent? : List Char → Option Int
  | [] => some 0
  | c :: cs =>
    if c = 'e' ∨ c = 'E' then
      let (negative, cs) := spanSign cs
      match spanDigits cs with
      | (ds@(_ :: _), []) =>
        let n : Int := digitsValue 0 ds
        some (if negative then -n else n)
      | _ => none
    else none

/-- Digits, a point with more digits, and an exponent: the digits read
as one number and the power of ten it is multiplied by. -/
def readScientific? (cs : List Char) : Option (Nat × Int) :=
  let (whole, cs) := spanDigits cs
  let (places, cs) := match cs with
    | '.' :: cs => spanDigits cs
    | cs => ([], cs)
  if whole = [] ∧ places = [] then none
  else (readExponent? cs).map fun e => (digitsValue (digitsValue 0 whole) places, e - places.length)

/-- The double that an unsigned number denotes. -/
def readMagnitude? (negative : Bool) (cs : List Char) : Option Float :=
  if Text.sameIgnoringCase cs "inf".toList || Text.sameIgnoringCase cs "infinity".toList then
    some (Float.ofBits (UInt64.ofNat ((if negative then 1 <<< 63 else 0) + infinityBits)))
  else if Text.sameIgnoringCase cs "nan".toList then
    some (Float.ofBits (UInt64.ofNat (infinityBits + (1 <<< 51))))
  else (readScientific? cs).map fun (digits, power) => nearestDecimal negative digits power

/-- Reads a whole text as a number. -/
def read (cs : List Char) : Except NumberFault Float :=
  if cs = [] then .error .empty
  else
    let (negative, cs) := spanSign cs
    match readMagnitude? negative cs with
    | some x => .ok x
    | none => .error .invalid

end GcodeSender.Decimal
