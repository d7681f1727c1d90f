import GcodeSender.Machine.Position
import GcodeSender.Machine.Status

/-!
# `GcodeSender.Machine.StatusReport`: status reports

A controller answers a status query with a line of the form
`<state|field|field…>`. `StatusReport.ofLine?` reads one and
`StatusReport.frame` writes one, so that a report and its line carry
the same information.

Reading fails only where the frame or the state tag is missing: such a
line is plain text. A position field that cannot be read is recorded
in `fieldErrors` and the rest of the report stands.
-/

set_option autoImplicit false

namespace GcodeSender.Machine

/-- Feed rate and spindle speed. -/
structure FeedSpindle where
  /-- The current feed rate in units per minute. -/
  feed : Float
  /-- The current spindle speed in revolutions per minute. -/
  spindle : Float

/-- Reads a feed rate and a spindle speed with a comma between them.
Unlike coordinates they need not be finite. -/
def FeedSpindle.read? (cs : List Char) : Option FeedSpindle :=
  match Text.cutOnce? ',' cs with
  | none => none
  | some (feed, spindle) =>
    match Decimal.read (Text.trim feed), Decimal.read (Text.trim spindle) with
    | .ok feed, .ok spindle => some ⟨feed, spindle⟩
    | _, _ => none

/-- A position field that cannot be read. -/
structure FieldError where
  /-- The field as it stands in the report. -/
  field : String
  fault : PositionFault
deriving DecidableEq, Repr

/-- What a field of a report is about. -/
inductive Field where
  | workPosition (payload : List Char)
  | machinePosition (payload : List Char)
  | feedSpindle (payload : List Char)
  | other
deriving DecidableEq, Repr

/-- The kind of a field, by how it begins. -/
def Field.of (field : List Char) : Field :=
  match Text.dropLeading? "WPos:".toList field with
  | some payload => .workPosition payload
  | none =>
    match Text.dropLeading? "MPos:".toList field with
    | some payload => .machinePosition payload
    | none =>
      match Text.dropLeading? "FS:".toList field with
      | some payload => .feedSpindle payload
      | none => .other

/-- A status report. -/
structure StatusReport where
  /-- The state tag, such as `Idle`, `Run` or `Hold:0`. -/
  state : String
  /-- The line with its frame, without blanks around it. -/
  raw : String
  /-- Every field after the state tag, as it stands in the report. -/
  fields : List String
  workPosition : Option Position
  machinePosition : Option Position
  feedSpindle : Option FeedSpindle
  /-- The position fields that cannot be read, in their order. -/
  fieldErrors : List FieldError

/-- The status that a report carries. -/
def StatusReport.status (r : StatusReport) : Status := ⟨r.state, r.raw⟩

/-- A report that holds its state tag and no field yet. -/
def StatusReport.start (state raw : List Char) : StatusReport :=
  { state := String.ofList state, raw := String.ofList raw, fields := []
    workPosition := none, machinePosition := none, feedSpindle := none, fieldErrors := [] }

/-- A later position replaces an earlier one and a bad one leaves it;
a later feed and spindle field replaces an earlier one even if it
cannot be read. -/
def StatusReport.add (r : StatusReport) (field : List Char) : StatusReport :=
  let r := { r with fields := r.fields ++ [String.ofList field] }
  let reject (fault : PositionFault) : StatusReport :=
    { r with fieldErrors := r.fieldErrors ++ [⟨String.ofList field, fault⟩] }
  match Field.of field with
  | .workPosition payload =>
    match Position.read payload with
    | .ok p => { r with workPosition := some p }
    | .error fault => reject fault
  | .machinePosition payload =>
    match Position.read payload with
    | .ok p => { r with machinePosition := some p }
    | .error fault => reject fault
  -- no field error here: a bad field takes away what an earlier one gave
  | .feedSpindle payload => { r with feedSpindle := FeedSpindle.read? payload }
  | .other => r

/-- The text between `<` and `>`, if that is how the text begins and
ends. -/
def inFrame? : List Char → Option (List Char)
  | '<' :: rest => if rest.getLast? = some '>' then some rest.dropLast else none
  | _ => none

/-- Whether a line is framed as a status report. It need not carry a
state tag. -/
def isFramed (line : List Char) : Bool := (inFrame? (Text.trim line)).isSome

/-- Reads the characters of a line as a status report. -/
def StatusReport.ofChars? (line : List Char) : Option StatusReport :=
  let raw := Text.trim line
  match inFrame? raw with
  | none => none
  | some inner =>
    let state := Text.trim (Text.cut '|' inner).1
    if state = [] then none
    else some ((Text.cut '|' inner).2.foldl StatusReport.add (.start state raw))

/-- Reads a line as a status report. -/
def StatusReport.ofLine? (line : String) : Option StatusReport :=
  StatusReport.ofChars? line.toList

/-- The line of a report with the given first segment and fields. -/
def StatusReport.frame (tag : List Char) (fields : List (List Char)) : List Char :=
  '<' :: Text.joined '|' tag fields ++ ['>']

/-- The state tag alone. -/
def stateOfLine? (line : String) : Option String := (StatusReport.ofLine? line).map (·.state)

/-- The work position alone. -/
def workPositionOfLine? (line : String) : Option Position :=
  (StatusReport.ofLine? line).bind (·.workPosition)

end GcodeSender.Machine
