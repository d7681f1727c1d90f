import GcodeSender.Json.Reader
import GcodeSender.Json.Writer
import GcodeSender.Settings.Library

/-!
# `GcodeSender.Settings.Json`: configurations in JSON

A section is an object, or an array with the fields in their order, of
which the last ones may be missing. Unknown members are passed over; a
known one may not be given twice.
-/

set_option autoImplicit false

namespace GcodeSender.Json

/-- The keys of an object, unless one of them is no text. -/
def keys? (members : List (Option String × Value)) : Option (List String) :=
  members.mapM (·.1)

/-- Whether no known name is given twice. -/
def givenOnce (names keys : List String) : Bool :=
  names.all fun name => keys.count name ≤ 1

/-- The value of a member. -/
def member? (members : List (Option String × Value)) (name : String) : Option Value :=
  members.lookup (some name)

/-- The fields that an array gives by their order. -/
def inOrder (names : List String) (elements : List Value) : List (Option Value) :=
  (elements.map some ++ List.replicate names.length none).take names.length

def Value.fields? (names : List String) : Value → Option (List (Option Value))
  | .object members =>
    match keys? members with
    | some keys => if givenOnce names keys then some (names.map (member? members)) else none
    | none => none
  | .array elements =>
    if elements.length ≤ names.length then some (inOrder names elements) else none
  | .null | .truth _ | .number _ | .string _ => none

def Value.natural? : Value → Option Nat
  | .number spelling =>
    match (Number.ofSpelling? spelling).bind Number.natural? with
    | some n => if n < 1 <<< 64 then some n else none
    | none => none
  | .null | .truth _ | .string _ | .array _ | .object _ => none

def Value.real? : Value → Option Float
  | .number spelling => (Number.ofSpelling? spelling).bind Number.float?
  | .null | .truth _ | .string _ | .array _ | .object _ => none

def Value.text? : Value → Option String
  | .string text => text
  | .null | .truth _ | .number _ | .array _ | .object _ => none

def Value.truth? : Value → Option Bool
  | .truth b => some b
  | .null | .number _ | .string _ | .array _ | .object _ => none

instance : Settings.Document Value where
  fields? := Value.fields?
  text? := Value.text?
  natural? := Value.natural?
  real? := Value.real?
  truth? := Value.truth?

/-- The members of an object, if each of their keys is a text. -/
def entries? : List (Option String × Value) → Option (List (String × Value))
  | [] => some []
  | (key, v) :: members => do
    let key ← key
    let entries ← entries? members
    some ((key, v) :: entries)

def Value.table? : Value → Option (List (String × Value))
  | .object members => entries? members
  | .null | .truth _ | .number _ | .string _ | .array _ => none

/-- A datum as a value. -/
def Value.ofDatum : Settings.Datum → Value
  | .text s => .text s
  | .natural n => .ofNat n.toNat
  | .real x => .ofFloat x
  | .truth b => .truth b

/-- An outline as a value. -/
def Value.ofOutline (o : Settings.Outline) : Value :=
  .record (o.map fun (name, fields) =>
    (name, .record (fields.map fun (key, d) => (key, .ofDatum d))))

/-- JSON has a form for every document. -/
def library : Settings.Library where
  Value := Value
  readings := inferInstance
  table? := Value.table?
  read? text := read? text.toList
  complaint _ := ""
  write? o := some (String.ofList (Value.ofOutline o).write)
  objection _ := ""
  regained? x := (Value.ofFloat x).real?

end GcodeSender.Json
