import GcodeSender.Link.ConnectionState
import GcodeSender.Link.Slot
import GcodeSender.Machine.Position
import GcodeSender.Machine.Status

/-!
# `GcodeSender.Link`: the connection to one controller

What the link remembers: its state, the port, the last status and
position on the present connection, the slot for answers, whether a
job owns it, and the thread that reads.
-/

set_option autoImplicit false

namespace GcodeSender

namespace Link

/-- The thread that reads from the controller. -/
structure Reader where
  /-- The beginning of a line whose end has not been read. -/
  pending : List UInt8 := []
  /-- Some of `pending` was read since the last timeout. -/
  fresh : Bool := false
  /-- It is to end before it reads again. -/
  stopping : Bool := false
  /-- It has reported a fault and waits for a write to return before it
  takes the connection down. -/
  closing : Bool := false
deriving DecidableEq, Repr

end Link

/-- The connection to one controller. -/
structure Link where
  state : Link.ConnectionState := .disconnected
  /-- The port of the present or the last connection. -/
  port : Option String := none
  status : Option Machine.Status := none
  position : Option Machine.Position := none
  /-- A transport is held. -/
  isOpen : Bool := false
  slot : Link.Slot := {}
  /-- A job owns the link. -/
  claimed : Bool := false
  reader : Option Link.Reader := none

namespace Link

/-- The port as it is named in messages. -/
def label (l : Link) : String := l.port.getD "port"

/-- A line can be written. -/
def canSend (l : Link) : Bool := l.isOpen && l.state.isConnected

/-- Takes the link for a job, unless another has it. A wait that an
earlier job has called off is allowed again. -/
def claim (l : Link) : Bool × Link :=
  if l.claimed then (false, l)
  else (true, { l with claimed := true, slot := l.slot.resetCancel })

/-- Gives the link back. -/
def release (l : Link) : Link := { l with claimed := false }

/-- Drops the transport and ends every wait. -/
def shut (l : Link) : Link := { l with isOpen := false, slot := l.slot.close }

/-- A new connection: what is remembered of the last one is forgotten. -/
def establish (l : Link) (port : String) : Link :=
  { l with isOpen := true, port := some port, status := none, position := none
           slot := l.slot.reopen }

end Link

end GcodeSender
