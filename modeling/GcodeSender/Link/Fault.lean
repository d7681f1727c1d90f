/-!
# `GcodeSender.Link.Fault`: how reading and writing fail

A failed read or write has a kind and a text. Three kinds are passing:
the reader tries again after them. All others end the connection, and
their text is the reason that is reported.
-/

set_option autoImplicit false

namespace GcodeSender.Link

/-- The kind of a failure. -/
inductive FaultKind where
  | interrupted
  | timedOut
  | wouldBlock
  | notFound
  | permissionDenied
  | connectionRefused
  | connectionReset
  | connectionAborted
  | notConnected
  | addressInUse
  | addressNotAvailable
  | brokenPipe
  | alreadyExists
  | invalidInput
  | invalidData
  | writeZero
  | unsupported
  | unexpectedEnd
  | outOfMemory
  | other
deriving DecidableEq, Repr

/-- The text of a failure that has none of its own. -/
def FaultKind.text : FaultKind → String
  | .interrupted => "operation interrupted"
  | .timedOut => "timed out"
  | .wouldBlock => "operation would block"
  | .notFound => "entity not found"
  | .permissionDenied => "permission denied"
  | .connectionRefused => "connection refused"
  | .connectionReset => "connection reset"
  | .connectionAborted => "connection aborted"
  | .notConnected => "not connected"
  | .addressInUse => "address in use"
  | .addressNotAvailable => "address not available"
  | .brokenPipe => "broken pipe"
  | .alreadyExists => "entity already exists"
  | .invalidInput => "invalid input parameter"
  | .invalidData => "invalid data"
  | .writeZero => "write zero"
  | .unsupported => "unsupported"
  | .unexpectedEnd => "unexpected end of file"
  | .outOfMemory => "out of memory"
  | .other => "other error"

/-- A failed read or write. -/
structure Fault where
  kind : FaultKind
  text : String
deriving DecidableEq, Repr

/-- A failure with the usual text of its kind. -/
def Fault.usual (kind : FaultKind) : Fault := ⟨kind, kind.text⟩

/-- A wait for input has ended without any. -/
def Fault.isTimeout (f : Fault) : Bool := f.kind = .timedOut || f.kind = .wouldBlock

/-- The same call is simply made again. -/
def Fault.isInterrupt (f : Fault) : Bool := f.kind = .interrupted

/-- A write that takes no byte fails with this text. -/
def noProgressText : String := "failed to write whole buffer"

/-- The reason of a connection whose input has ended. -/
def endOfStreamText : String := "end of stream"

end GcodeSender.Link
