/-!
# `GcodeSender.Decimal.Binary64`: doubles as exact numbers

Coordinates, feed rates and step lengths are double-precision numbers.
Everything the library writes or reads of them is decided on their
exact value, a natural number times a power of two, so that no
rounding other than the stated one takes place.

* `Reading.ofFloat` takes a double apart.
* `nearest` is the double nearest to a fraction, ties to even.
-/

set_option autoImplicit false

namespace GcodeSender.Decimal

/-- What a double stands for. -/
inductive Reading where
  | nan
  | infinite (negative : Bool)
  /-- The number `mantissa * 2 ^ exponent`, negated if `negative`. Zero
  has a sign too. -/
  | finite (negative : Bool) (mantissa : Nat) (exponent : Int)
deriving DecidableEq, Repr

/-- The exponent of the subnormal numbers, the smallest there is. -/
def minExponent : Int := -1074

/-- Takes the 64 bits of a double apart: a sign bit, eleven bits of
biased exponent, and 52 bits of mantissa below a leading one that is
only absent where the exponent field is zero. -/
def Reading.ofBits (bits : Nat) : Reading :=
  let negative := bits / (1 <<< 63) % 2 = 1
  let field : Nat := bits / (1 <<< 52) % (1 <<< 11)
  let fraction := bits % (1 <<< 52)
  if field = 2047 then
    if fraction = 0 then .infinite negative else .nan
  else if field = 0 then .finite negative fraction minExponent
  else .finite negative ((1 <<< 52) + fraction) ((field : Int) + minExponent - 1)

def Reading.ofFloat (x : Float) : Reading := .ofBits x.toBits.toNat

/-- `num / den` rounded to the nearest natural number, a half to the
even one. -/
def roundDiv (num den : Nat) : Nat :=
  let q := num / den
  let twice := 2 * (num % den)
  if twice < den then q
  else if den < twice then q + 1
  else if q % 2 = 0 then q else q + 1

/-- `num / den` as a fraction of natural numbers after it has been
multiplied by `base ^ power`. -/
def scaleBy (base : Nat) (power : Int) (num den : Nat) : Nat × Nat :=
  if 0 ≤ power then (num * Nat.pow base power.toNat, den)
  else (num, den * Nat.pow base (-power).toNat)

/-- The bits of positive infinity, above those of every finite double. -/
def infinityBits : Nat := 2047 * (1 <<< 52)

/-- The bits of the double nearest to `num / den`, ties to even, and
those of infinity beyond the finite range. -/
def nearestBits (num den : Nat) : Nat :=
  if num = 0 then 0
  else
    -- `num / den` lies strictly between `2 ^ (size - 1)` and `2 ^ (size + 1)`
    let size : Int := (num.log2 : Int) - (den.log2 : Int)
    let mantissaAt (q : Int) : Nat × Nat := scaleBy 2 (-q) num den
    let wide := max (size - 52) minExponent
    let (n, d) := mantissaAt wide
    let q := if n / d < 1 <<< 52 then max (wide - 1) minExponent else wide
    let (n, d) := mantissaAt q
    -- a mantissa that rounds up to `2 ^ 53` carries into the exponent field
    min ((q - minExponent).toNat * (1 <<< 52) + roundDiv n d) infinityBits

/-- The double nearest to `num / den`, negated if `negative`. -/
def nearest (negative : Bool) (num den : Nat) : Float :=
  let sign := if negative then 1 <<< 63 else 0
  Float.ofBits (UInt64.ofNat (sign + nearestBits num den))

/-- The double nearest to `digits * 10 ^ power`. The first two cases are
far outside the range of doubles and spare the work of the exact one:
`10 ^ p` is at least `2 ^ (3 * p)`. -/
def nearestDecimal (negative : Bool) (digits : Nat) (power : Int) : Float :=
  if digits = 0 then nearest negative 0 1
  else if 1100 ≤ 3 * power then nearest negative (1 <<< 1100) 1
  else if 3 * power + digits.log2 + 1 ≤ -1100 then nearest negative 0 1
  else
    let (num, den) := scaleBy 10 power digits 1
    nearest negative num den

example : nearestBits 1 1 = 0x3ff0000000000000 := by decide
example : nearestBits 1 10 = 0x3fb999999999999a := by decide +kernel

end GcodeSender.Decimal
