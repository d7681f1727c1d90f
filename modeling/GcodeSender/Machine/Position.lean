import GcodeSender.Decimal.Fixed
import GcodeSender.Decimal.Reader
import GcodeSender.Text.Blank

/-!
# `GcodeSender.Machine.Position`: axes and positions

A position is three finite coordinates in the controller's units. It
is read from the first three parts of a comma-separated text; further
parts belong to further axes and are not read. `PositionFault` names
the first axis that cannot be read and why.
-/

set_option autoImplicit false

namespace GcodeSender.Machine

/-- A machine axis. -/
inductive Axis where
  | x
  | y
  | z
deriving DecidableEq, Repr

/-- The axis as a word address. -/
def Axis.letter : Axis → Char
  | .x => 'X'
  | .y => 'Y'
  | .z => 'Z'

/-- The axis as it is named in messages. -/
def Axis.name (a : Axis) : String := String.singleton a.letter.toLower

/-- A point in controller units. -/
structure Position where
  x : Float
  y : Float
  z : Float

/-- The position with three places on each axis. -/
def Position.display (p : Position) : String :=
  "X:" ++ Decimal.fixed 3 p.x ++ " Y:" ++ Decimal.fixed 3 p.y ++ " Z:" ++ Decimal.fixed 3 p.z

/-- Why a text is not a position. The parts are given as they stand in
the text, blanks included. -/
inductive PositionFault where
  | missing (axis : Axis)
  | invalid (axis : Axis) (part : String) (cause : Decimal.NumberFault)
  | nonFinite (axis : Axis) (part : String)
deriving DecidableEq, Repr

/-- The fault in words. -/
def PositionFault.message : PositionFault → String
  | .missing axis => "missing " ++ axis.name ++ " coordinate"
  | .invalid axis part cause =>
    "invalid " ++ axis.name ++ " coordinate '" ++ part ++ "': " ++ cause.message
  | .nonFinite axis part => "non-finite " ++ axis.name ++ " coordinate '" ++ part ++ "'"

/-- One coordinate, read from its part of the text. -/
def readCoordinate (axis : Axis) (part : List Char) : Except PositionFault Float :=
  match Decimal.read (Text.trim part) with
  | .error cause => .error (.invalid axis (String.ofList part) cause)
  | .ok value =>
    if value.isFinite then .ok value else .error (.nonFinite axis (String.ofList part))

/-- Reads a position from the parts of its text, axis by axis, so that
the first axis at fault decides the error. -/
def Position.ofParts : List (List Char) → Except PositionFault Position
  | [] => .error (.missing .x)
  | px :: rest =>
    match readCoordinate .x px with
    | .error fault => .error fault
    | .ok x =>
      match rest with
      | [] => .error (.missing .y)
      | py :: rest =>
        match readCoordinate .y py with
        | .error fault => .error fault
        | .ok y =>
          match rest with
          | [] => .error (.missing .z)
          | pz :: _ =>
            match readCoordinate .z pz with
            | .error fault => .error fault
            | .ok z => .ok ⟨x, y, z⟩

/-- Reads a position from its text. -/
def Position.read (cs : List Char) : Except PositionFault Position :=
  Position.ofParts (Text.pieces ',' cs)

end GcodeSender.Machine
