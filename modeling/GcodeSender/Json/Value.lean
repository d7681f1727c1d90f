import GcodeSender.Text.Blank

/-!
# `GcodeSender.Json.Value`: JSON values

A value as it was written. A number is kept in its spelling, because
whether it is in range depends on what it is wanted for. A string with
an unpaired surrogate is no text; it may stand where nobody asks for
it.
-/

set_option autoImplicit false

namespace GcodeSender.Json

inductive Value where
  | null
  | truth (b : Bool)
  | number (spelling : List Char)
  /-- The text, if the string is one. -/
  | string (text : Option String)
  | array (elements : List Value)
  | object (members : List (Option String × Value))
deriving Repr

/-- The string value of a text. -/
def Value.text (s : String) : Value := .string (some s)

/-- The object value with the given members. -/
def Value.record (members : List (String × Value)) : Value :=
  .object (members.map fun (key, v) => (some key, v))

end GcodeSender.Json
