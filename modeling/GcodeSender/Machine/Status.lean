/-!
# `GcodeSender.Machine.Status`: what the controller last reported

The state tag of a report together with the report itself. The tag may
carry a sub-state behind a colon (`Hold:0`, `Door:1`), so a state is
recognised by how its tag begins.
-/

set_option autoImplicit false

namespace GcodeSender.Machine

/-- The most recent machine status. -/
structure Status where
  /-- The state tag, such as `Idle` or `Hold:0`. -/
  state : String
  /-- The report as it was received. -/
  raw : String
deriving DecidableEq, Repr

/-- The controller is locked by an alarm. -/
def Status.isAlarm (s : Status) : Bool := "Alarm".toList.isPrefixOf s.state.toList

/-- The controller is in feed hold. -/
def Status.isHold (s : Status) : Bool := "Hold".toList.isPrefixOf s.state.toList

end GcodeSender.Machine
