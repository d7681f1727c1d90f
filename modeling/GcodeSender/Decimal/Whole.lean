/-!
# `GcodeSender.Decimal.Whole`: whole numbers within a range

A whole number is written with an optional sign and decimal digits, of
which there may be any number. It is read from left to right, and the
first thing that is wrong decides what is reported: a number that has
left the range does not come back into it.
-/

set_option autoImplicit false

namespace GcodeSender.Decimal

/-- Why a text is no whole number of the range. -/
inductive WholeFault where
  | empty
  | badDigit
  | tooLarge
  | tooSmall
deriving DecidableEq, Repr

def WholeFault.message : WholeFault → String
  | .empty => "cannot parse integer from empty string"
  | .badDigit => "invalid digit found in string"
  | .tooLarge => "number too large to fit in target type"
  | .tooSmall => "number too small to fit in target type"

/-- Reads digits after a number that is already read, counting away from
zero by `unit`, which is one or minus one. -/
def readWholeDigits (lo hi unit : Int) : Int → List Char → Except WholeFault Int
  | n, [] => .ok n
  | n, c :: rest =>
    if c.isDigit then
      let next := 10 * n + unit * ((c.toNat - 48 : Nat) : Int)
      if hi < next then .error .tooLarge
      else if next < lo then .error .tooSmall
      else readWholeDigits lo hi unit next rest
    else .error .badDigit

/-- Reads a whole number from `lo` to `hi`. -/
def readWhole (lo hi : Int) : List Char → Except WholeFault Int
  | [] => .error .empty
  | ['+'] => .error .badDigit
  | ['-'] => .error .badDigit
  | '+' :: digits => readWholeDigits lo hi 1 0 digits
  | '-' :: digits => readWholeDigits lo hi (-1) 0 digits
  | digits => readWholeDigits lo hi 1 0 digits

example : readWhole (-128) 127 "-128".toList = .ok (-128) := rfl
example : readWhole (-128) 127 "1280x".toList = .error .tooLarge := rfl

end GcodeSender.Decimal
