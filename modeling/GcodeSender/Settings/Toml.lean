import GcodeSender.Decimal.Shortest
import GcodeSender.Settings.Library
import GcodeSender.Toml.Reader

/-!
# `GcodeSender.Settings.Toml`: configurations in TOML

A section is a table, or an array with the fields in their order;
unknown entries are passed over. Integers have a sign in TOML, so a
document with a number from `2 ^ 63` up cannot be written.
`Toml.library` is all of this as a library for configurations.
-/

set_option autoImplicit false

namespace GcodeSender.Toml

/-- The fields that an array gives by their order. -/
def inOrder (names : List String) (elements : List Value) : List (Option Value) :=
  (elements.map some ++ List.replicate names.length none).take names.length

/-- A date stands for a section in which nothing is given. -/
def Value.fields? (names : List String) : Value → Option (List (Option Value))
  | .table _ entries | .braced entries => some (names.map fun name => entries.lookup name)
  | .array elements | .tables elements => some (inOrder names elements)
  | .date => some (names.map fun _ => none)
  | .string _ | .integer _ | .float _ | .truth _ => none

def Value.natural? : Value → Option Nat
  | .integer n => if 0 ≤ n then some n.toNat else none
  | .string _ | .float _ | .truth _ | .date | .array _ | .braced _ | .table _ _ | .tables _ => none

def Value.real? : Value → Option Float
  | .float x => some x
  | .integer n => some (Decimal.nearest (n < 0) n.natAbs 1)
  | .string _ | .truth _ | .date | .array _ | .braced _ | .table _ _ | .tables _ => none

def Value.text? : Value → Option String
  | .string s => some s
  | .integer _ | .float _ | .truth _ | .date | .array _ | .braced _ | .table _ _ | .tables _ => none

def Value.truth? : Value → Option Bool
  | .truth b => some b
  | .string _ | .integer _ | .float _ | .date | .array _ | .braced _ | .table _ _ | .tables _ =>
    none

instance : Settings.Document Value where
  fields? := Value.fields?
  text? := Value.text?
  natural? := Value.natural?
  real? := Value.real?
  truth? := Value.truth?

/-- Doubles keep a fraction and never have an exponent. -/
def floatStyle : Decimal.FloatStyle := ⟨.larger, true, none⟩

/-- An integer that can be written. -/
def writeNat? (n : Nat) : Option (List Char) :=
  if n < 1 <<< 63 then some (Decimal.digitChars n) else none

/-- A line with a key and its value. -/
def entryLine (key : String) (value : List Char) : List Char :=
  key.toList ++ " = ".toList ++ value ++ ['\n']

/-- A line with a header. -/
def headerLine (key : String) : List Char := '[' :: key.toList ++ "]\n".toList

def Value.table? : Value → Option (List (String × Value))
  | .table _ entries | .braced entries => some entries
  | .string _ | .integer _ | .float _ | .truth _ | .date | .array _ | .tables _ => none

/-- A datum as it is spelled, if it has a form. -/
def spelling? : Settings.Datum → Option (List Char)
  | .text s => some (quote s.toList)
  | .natural n => writeNat? n.toNat
  | .real x => some (floatStyle.spell x)
  | .truth b => some (if b then "true".toList else "false".toList)

/-- The lines of the fields of a section. -/
def fieldLines? : List (String × Settings.Datum) → Option (List Char)
  | [] => some []
  | (key, d) :: fields => do
    let value ← spelling? d
    let rest ← fieldLines? fields
    some (entryLine key value ++ rest)

/-- The lines of a document, with an empty line between its sections. -/
def lines? : Settings.Outline → Option (List Char)
  | [] => some []
  | [(name, fields)] => do
    let lines ← fieldLines? fields
    some (headerLine name ++ lines)
  | (name, fields) :: sections => do
    let lines ← fieldLines? fields
    let rest ← lines? sections
    some (headerLine name ++ lines ++ '\n' :: rest)

/-- TOML has a form for a document without large integers. -/
def library : Settings.Library where
  Value := Value
  readings := inferInstance
  table? := Value.table?
  read? text := read? text.toList
  complaint _ := ""
  write? o := (lines? o).map String.ofList
  objection _ := ""
  regained? x :=
    match scalarValue? (floatStyle.spell x) with
    | some (.float y, []) => some y
    | _ => none

end GcodeSender.Toml
