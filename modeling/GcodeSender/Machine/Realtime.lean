import GcodeSender.Text.Blank
import GcodeSender.Text.Case

/-!
# `GcodeSender.Machine.Realtime`: single-byte commands

Four commands are single bytes that the controller acts on at once,
outside its line buffer and without an answer.
-/

set_option autoImplicit false

namespace GcodeSender.Machine

/-- The command line that runs the homing cycle. -/
def homeLine : String := "$H"

/-- The command line that clears an alarm lock. -/
def unlockLine : String := "$X"

/-- A command that the controller acts on at once. -/
inductive Realtime where
  | feedHold
  | cycleStart
  | statusQuery
  | softReset
deriving DecidableEq, Repr

/-- The byte on the wire. -/
def Realtime.byte : Realtime → UInt8
  | .feedHold => 0x21
  | .cycleStart => 0x7e
  | .statusQuery => 0x3f
  | .softReset => 0x18

/-- The command in words. -/
def Realtime.display : Realtime → String
  | .feedHold => "Feed hold (!)"
  | .cycleStart => "Cycle start (~)"
  | .statusQuery => "Status query (?)"
  | .softReset => "Soft reset (Ctrl-X)"

/-- The command that has the given byte. -/
def Realtime.ofByte? (b : UInt8) : Option Realtime :=
  if b = 0x21 then some .feedHold
  else if b = 0x7e then some .cycleStart
  else if b = 0x3f then some .statusQuery
  else if b = 0x18 then some .softReset
  else none

/-- The command that an operator types: its own character, or the word
`reset` in any case. -/
def Realtime.ofText? (text : String) : Option Realtime :=
  match Text.trim text.toList with
  | ['!'] => some .feedHold
  | ['~'] => some .cycleStart
  | ['?'] => some .statusQuery
  | ['\x18'] => some .softReset
  | cs => if Text.sameIgnoringCase cs "reset".toList then some .softReset else none

end GcodeSender.Machine
