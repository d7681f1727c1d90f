/-!
# `GcodeSender.Text.Ranges`: tables of code points

A class of characters is a table of ranges in ascending order, so that
a search ends at the first range above what is searched for.
-/

set_option autoImplicit false

namespace GcodeSender.Text

/-- Whether a number lies in one of some ranges, their ends included. -/
def inRanges (n : Nat) : List (Nat × Nat) → Bool
  | [] => false
  | (lo, hi) :: rest => if n < lo then false else n ≤ hi || inRanges n rest

/-- Ranges in ascending order, with a gap between any two. -/
def isAscending : List (Nat × Nat) → Bool
  | [] => true
  | [(lo, hi)] => lo ≤ hi
  | (lo, hi) :: (lo', hi') :: rest => lo ≤ hi && hi + 1 < lo' && isAscending ((lo', hi') :: rest)

end GcodeSender.Text
