import GcodeSender.Text.Split

/-!
# `GcodeSender.Text.Case`: comparing without regard to ASCII case

Keywords such as `error:` and `reset` are recognised in any mixture of
cases. Only the letters `A` to `Z` have a second case here: firmware
and operators type ASCII, and a letter outside it never equals
another.
-/

set_option autoImplicit false

namespace GcodeSender.Text

/-- The text with `A` to `Z` replaced by `a` to `z`. -/
def lower (cs : List Char) : List Char := cs.map Char.toLower

/-- Equality up to the case of ASCII letters. -/
def sameIgnoringCase (a b : List Char) : Bool := lower a == lower b

/-- What follows `word` in a text that begins with it in any case. -/
def dropWord? (word cs : List Char) : Option (List Char) :=
  if sameIgnoringCase (cs.take word.length) word then some (cs.drop word.length) else none

end GcodeSender.Text
