import GcodeSender.Decimal.Binary64

/-!
# `GcodeSender.Decimal.Shortest`: the fewest digits that read back

A double is written with the fewest significant digits from which the
same double is read back, and of those with the digits nearest to it. Two
candidates may be equally near: the larger one is taken, or the even
one.

The numbers that read back as `m * 2 ^ e` fill the interval between
the midpoints to its two neighbours, whose ends belong to it when `m`
is even. For each digit count in turn, the two points of that decimal
grid next to the number are tried: if any point of the grid lies in
the interval, one of these two does.

`FloatStyle` holds the decisions that are not arithmetic: which of two
equally near candidates is taken, which numbers are written with an
exponent, and whether a whole number keeps a fraction.
-/

set_option autoImplicit false

namespace GcodeSender.Decimal

/-- The decimal number `digits * 10 ^ power`. -/
structure Scientific where
  digits : Nat
  power : Int
deriving DecidableEq, Repr

/-- The numbers that read back as a given double, all over one
denominator. -/
structure RoundingInterval where
  low : Nat
  value : Nat
  high : Nat
  den : Nat
  /-- Whether the two ends belong to it. -/
  closed : Bool

/-- The rounding interval of `m * 2 ^ e`. Below a power of two the
neighbours lie half as far apart, except at the smallest exponent. -/
def RoundingInterval.of (m : Nat) (e : Int) : RoundingInterval :=
  let below := if m = 1 <<< 52 ∧ minExponent < e then 1 else 2
  let (unit, den) := scaleBy 2 (e - 2) 1 1
  { low := (4 * m - below) * unit
    value := 4 * m * unit
    high := (4 * m + 2) * unit
    den
    closed := m % 2 = 0 }

/-- Whether `digits * 10 ^ power` lies in the interval. -/
def RoundingInterval.holds (i : RoundingInterval) (s : Scientific) : Bool :=
  let (num, den) := scaleBy 10 s.power s.digits 1
  -- compare `num / den` with the ends, which are fractions over `i.den`
  let x := num * i.den
  if i.closed then i.low * den ≤ x && x ≤ i.high * den
  else i.low * den < x && x < i.high * den

/-- The exponent `p` with `10 ^ p ≤ num / den < 10 ^ (p + 1)`. The first
guess, from the binary sizes, is off by one at most. -/
def decimalExponent (num den : Nat) : Int :=
  let guess := ((num.log2 : Int) - (den.log2 : Int)) * 1233 / 4096
  let reaches (p : Int) : Bool :=
    let (n, d) := scaleBy 10 (-p) num den
    d ≤ n
  if reaches (guess + 1) then guess + 1 else if reaches guess then guess else guess - 1

/-- What is taken halfway between two neighbouring numbers. -/
inductive Tie where
  | larger
  | even
deriving DecidableEq, Repr

/-- `num / den` rounded to the nearest natural number, a half as `tie`
says. -/
def Tie.round (tie : Tie) (num den : Nat) : Nat :=
  match tie with
  | .larger => if den ≤ 2 * (num % den) then num / den + 1 else num / den
  | .even => roundDiv num den

/-- The point nearest to the number on the grid of step `10 ^ power`. -/
def RoundingInterval.nearest (i : RoundingInterval) (tie : Tie) (power : Int) : Scientific :=
  let (num, den) := scaleBy 10 (-power) i.value i.den
  ⟨tie.round num den, power⟩

/-- The candidate on the grid of step `10 ^ power`, if it has one: of
the two points next to the number, the one in the interval, and of two
in the interval the nearer. -/
def RoundingInterval.candidate? (i : RoundingInterval) (tie : Tie) (power : Int) :
    Option Scientific :=
  let (num, den) := scaleBy 10 (-power) i.value i.den
  let below : Scientific := ⟨num / den, power⟩
  let above : Scientific := ⟨num / den + 1, power⟩
  if i.holds below then some (if i.holds above then i.nearest tie power else below)
  else if i.holds above then some above
  else none

/-- Tries the grids with more and more digits, `count` of them, the
coarsest with step `10 ^ power`. -/
def RoundingInterval.search (i : RoundingInterval) (tie : Tie) : Nat → Int → Scientific
  | 0, power => i.nearest tie power
  | count + 1, power => (i.candidate? tie power).getD (i.search tie count (power - 1))

/-- The same number without zeros at the end of its digits, of which
`count` at most are dropped. A grid yields such a number only where
the larger candidate is the next power of ten. -/
def Scientific.dropZeros : Nat → Scientific → Scientific
  | 0, s => s
  | count + 1, s =>
    if s.digits % 10 = 0 then dropZeros count ⟨s.digits / 10, s.power + 1⟩ else s

/-- The shortest decimal number that reads back as `m * 2 ^ e`. The
nearest one of seventeen digits always does. -/
def shortest (tie : Tie) (m : Nat) (e : Int) : Scientific :=
  if m = 0 then ⟨0, 0⟩
  else
    let i := RoundingInterval.of m e
    (i.search tie 16 (decimalExponent i.value i.den)).dropZeros 17

/-- How a double is spelled. -/
structure FloatStyle where
  /-- Which of two equally near candidates is taken. -/
  tie : Tie
  /-- A whole number keeps the fraction `.0`. -/
  keepsFraction : Bool
  /-- The exponents of ten, of the first digit, between which a number is
  written without an exponent; everywhere if absent. -/
  positional : Option (Int × Int)

/-- The digits of a natural number. -/
def digitChars (n : Nat) : List Char := Nat.toDigits 10 n

/-- `digits * 10 ^ power` without an exponent. -/
def positionalText (style : FloatStyle) (s : Scientific) : List Char :=
  let ds := digitChars s.digits
  if 0 ≤ s.power then
    ds ++ List.replicate s.power.toNat '0' ++ if style.keepsFraction then ['.', '0'] else []
  else
    let places := (-s.power).toNat
    let padded := List.replicate (places + 1 - ds.length) '0' ++ ds
    let whole := padded.length - places
    padded.take whole ++ '.' :: padded.drop whole

/-- `digits * 10 ^ power` with one digit before the point and a signed
exponent. -/
def exponentText (s : Scientific) (first : Int) : List Char :=
  let fraction := match digitChars s.digits with
    | [] => []
    | [d] => [d]
    | d :: ds => d :: '.' :: ds
  fraction ++ 'e' :: (if 0 ≤ first then '+' else '-') :: digitChars first.natAbs

/-- A double in the given style. The sign of zero is written. -/
def FloatStyle.spell (style : FloatStyle) (x : Float) : List Char :=
  let signed (negative : Bool) (cs : List Char) : List Char := if negative then '-' :: cs else cs
  match Reading.ofFloat x with
  | .nan => ['N', 'a', 'N']
  | .infinite negative => signed negative ['i', 'n', 'f']
  | .finite negative m e =>
    let s := shortest style.tie m e
    let first : Int := (digitChars s.digits).length - 1 + s.power
    let plain := match style.positional with
      | none => true
      | some (least, most) => s.digits = 0 || (least ≤ first && first ≤ most)
    signed negative (if plain then positionalText style s else exponentText s first)

/-- Plain decimal notation: never an exponent, no fraction on a whole
number, and of two candidates the larger. -/
def plainStyle : FloatStyle := ⟨.larger, false, none⟩

/-- A double in plain decimal notation. -/
def plain (x : Float) : String := String.ofList (plainStyle.spell x)

end GcodeSender.Decimal
