import GcodeSender.Session.Reading

/-!
# `GcodeSender.Session.Writing`: sending lines and commands

A line is counted as owed its answer before it is written, because the
answer may arrive before the write returns. A write that fails takes
the connection down.
-/

set_option autoImplicit false

namespace GcodeSender.Session

/-- How a write goes. -/
inductive Written where
  | returned (result : Except LinkError Unit)
  /-- It has not returned, and `rest` is not taken. -/
  | hanging (rest : List UInt8)

/-- A write that cannot be made without a connection. -/
def refuseWrite (s : Session) (t : Thread) (shown : String) : Session :=
  let message := "[Not connected] Cannot send: " ++ shown
  (s.log t .warn message).emit t (.log message)

/-- A write has succeeded. -/
def confirmWrite (s : Session) (t : Thread) (shown : String) : Session :=
  (s.log t .debug ("Sent: " ++ shown)).emit t (.log ("Sent: " ++ shown))

/-- A write has failed. Whatever the observer does about it, the connection is then
taken down. -/
def failWrite (s : Session) (t : Thread) (reason : String) : Session :=
  let message := "Serial error: " ++ reason
  let s := s.log t .error ("Write failed on " ++ s.link.label ++ ": " ++ reason)
  let s := (s.emit t (.error .transport message)).reportStatus t "Error" message
  (s.become t .faulted).teardown t

/-- What follows a delivery. -/
def afterDelivery (s : Session) (t : Thread) (shown : String) : Bench.Delivery → Written × Session
  | .delivered => (.returned (.ok ()), s.confirmWrite t shown)
  | .failed reason => (.returned (.error (.io reason)), s.failWrite t reason)
  | .hanging rest => (.hanging rest, s)

/-- Writes some bytes that are shown as the given text. A line is owed
an answer, a single-byte command is not. -/
def write (s : Session) (t : Thread) (bytes : List UInt8) (shown : String) (isLine : Bool) :
    Written × Session :=
  if s.link.canSend then
    let s := if isLine then { s with link.slot := s.link.slot.noteSent } else s
    let (delivery, device) := s.device.transmit (t = .streamer) bytes
    { s with device }.afterDelivery t shown delivery
  else (.returned (.error .notConnected), s.refuseWrite t shown)

/-- The bytes of a line on the wire. -/
def wireLine (line : String) : List UInt8 := Text.encode (line.toList ++ ['\n'])

/-- Writes a line. -/
def writeLine (s : Session) (t : Thread) (line : String) : Written × Session :=
  s.write t (wireLine line) line true

/-- The result of a write by a thread that is not held up. -/
def Written.result : Written → Except LinkError Unit
  | .returned r => r
  | .hanging _ => .ok ()

/-- Sends a line from a thread that is not a job's. -/
def sendLine (s : Session) (t : Thread) (line : String) : Except LinkError Unit × Session :=
  let (written, s) := s.writeLine t line
  (written.result, s)

/-- Sends a single-byte command. -/
def sendRealtime (s : Session) (t : Thread) (c : Machine.Realtime) :
    Except LinkError Unit × Session :=
  let (written, s) := s.write t [c.byte] c.display false
  (written.result, s)

end GcodeSender.Session
