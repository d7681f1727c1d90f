import GcodeSender.Machine.Position

/-!
# `GcodeSender.Machine.Jog`: jog steps

A jog step moves one axis a fixed distance. An operator asks for it
with a shorthand such as `X+`; on the wire it is either a jog command
of the controller's own language or, for a manual trainer, the
shorthand itself.
-/

set_option autoImplicit false

namespace GcodeSender.Machine

/-- The direction of travel. -/
inductive Direction where
  | positive
  | negative
deriving DecidableEq, Repr

/-- The direction as it is typed. -/
def Direction.sign : Direction → Char
  | .positive => '+'
  | .negative => '-'

/-- How a jog step is put on the wire. -/
inductive JogStyle where
  /-- A jog command with distance and feed rate: `$J=G91 X1 F500`. -/
  | grbl
  /-- The shorthand of a manual jog trainer: `X+`. -/
  | manual
deriving DecidableEq, Repr

/-- One incremental jog step. -/
structure Jog where
  axis : Axis
  direction : Direction
  /-- The length of the step in machine units. -/
  step : Float
  /-- The feed rate in units per minute. -/
  feed : Float

/-- The axis that a letter of either case names. -/
def Axis.ofLetter? (c : Char) : Option Axis :=
  match c.toUpper with
  | 'X' => some .x
  | 'Y' => some .y
  | 'Z' => some .z
  | _ => none

/-- The direction that a sign names. -/
def Direction.ofSign? (c : Char) : Option Direction :=
  match c with
  | '+' => some .positive
  | '-' => some .negative
  | _ => none

/-- The shorthand for a jog: an axis letter and a sign. -/
def shorthand (axis : Axis) (direction : Direction) : List Char := [axis.letter, direction.sign]

/-- Reads a shorthand; nothing else may stand beside it. -/
def Jog.ofShorthand? (text : String) (step feed : Float) : Option Jog :=
  match Text.trim text.toList with
  | [letter, sign] =>
    match Axis.ofLetter? letter, Direction.ofSign? sign with
    | some axis, some direction => some ⟨axis, direction, step, feed⟩
    | _, _ => none
  | _ => none

/-- The line that asks the controller for the step. -/
def Jog.line (j : Jog) : JogStyle → String
  | .grbl =>
    let sign := match j.direction with
      | .positive => ""
      | .negative => "-"
    "$J=G91 " ++ String.singleton j.axis.letter ++ sign ++ Decimal.plain j.step
      ++ " F" ++ Decimal.plain j.feed
  | .manual => String.ofList (shorthand j.axis j.direction)

end GcodeSender.Machine
