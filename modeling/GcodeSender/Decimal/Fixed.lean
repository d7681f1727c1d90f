import GcodeSender.Decimal.Shortest

/-!
# `GcodeSender.Decimal.Fixed`: a fixed number of places

Positions are shown with three places and percentages with one. The
exact value of the double is rounded, and a half goes to the even
neighbour. A number that rounds to zero keeps its sign.
-/

set_option autoImplicit false

namespace GcodeSender.Decimal

/-- `num / den` with the given number of places, at least one. -/
def fixedText (places num den : Nat) : List Char :=
  let ds := digitChars (roundDiv (num * Nat.pow 10 places) den)
  let padded := List.replicate (places + 1 - ds.length) '0' ++ ds
  let whole := padded.length - places
  padded.take whole ++ '.' :: padded.drop whole

/-- A double with the given number of places, at least one. -/
def fixed (places : Nat) (x : Float) : String :=
  let signed (negative : Bool) (cs : List Char) : String :=
    String.ofList (if negative then '-' :: cs else cs)
  match Reading.ofFloat x with
  | .nan => "NaN"
  | .infinite negative => signed negative ['i', 'n', 'f']
  | .finite negative m e =>
    let (num, den) := scaleBy 2 e m 1
    signed negative (fixedText places num den)

end GcodeSender.Decimal
