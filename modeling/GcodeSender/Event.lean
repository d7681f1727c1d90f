import GcodeSender.Job.Progress
import GcodeSender.Machine.Position

/-!
# `GcodeSender.Event`: what an observer is told

The link and the jobs report to an observer as they work: changes of
status, positions, log lines, progress and failures. An observer that
keeps only log lines still learns of failures, through
`Event.logText?`; one that may stop listening has a `Mailbox`.
-/

set_option autoImplicit false

namespace GcodeSender

/-- The kind of a failure. -/
inductive ErrorKind where
  /-- Opening, reading or writing the transport failed. -/
  | transport
  /-- The controller sent something that cannot be read. -/
  | decode
  /-- The controller rejected a line of a job. -/
  | protocol
  /-- A request does not fit the present state. -/
  | usage
deriving DecidableEq, Repr

def ErrorKind.display : ErrorKind → String
  | .transport => "transport"
  | .decode => "decode"
  | .protocol => "protocol"
  | .usage => "usage"

/-- One notification of an observer. -/
inductive Event where
  /-- The connection or the machine changed its status. -/
  | status (state raw : String)
  | position (p : Machine.Position)
  | log (text : String)
  | progress (p : Job.Progress)
  | error (kind : ErrorKind) (message : String)

/-- The event in words. -/
def Event.display : Event → String
  | .status state raw => "Status: " ++ state ++ " (" ++ raw ++ ")"
  | .position p => "Position: " ++ p.display
  | .log text => text
  | .progress p => "Progress: " ++ p.display
  | .error kind message => "Error (" ++ kind.display ++ "): " ++ message

/-- The event as an observer of log lines alone sees it: failures are
put into a log line, and the rest is not shown. -/
def Event.logText? : Event → Option String
  | .log text => some text
  | .error kind message => some ("[" ++ kind.display ++ "] " ++ message)
  | .status _ _ | .position _ | .progress _ => none

/-- Events on their way to a listener that may go away. -/
structure Mailbox where
  /-- The events not yet taken, oldest first. -/
  waiting : List Event := []
  /-- Whether the listener is still there. -/
  listening : Bool := true

/-- Hands an event over. Without a listener it is discarded. -/
def Mailbox.send (m : Mailbox) (e : Event) : Mailbox :=
  if m.listening then { m with waiting := m.waiting ++ [e] } else m

/-- The listener takes every waiting event. -/
def Mailbox.drain (m : Mailbox) : List Event × Mailbox := (m.waiting, { m with waiting := [] })

/-- The listener goes away, and what waits for it is lost. -/
def Mailbox.close (_ : Mailbox) : Mailbox := { waiting := [], listening := false }

end GcodeSender
