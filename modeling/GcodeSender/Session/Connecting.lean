import GcodeSender.Session.Settling

/-!
# `GcodeSender.Session.Connecting`: connecting and disconnecting

Connecting to the port in use does nothing, and connecting to another
takes the old connection down first; a job that is cut off by that
ends before the new port is opened. `Session.within` connects, does
something, and disconnects whatever came of it.
-/

set_option autoImplicit false

namespace GcodeSender.Session

/-- A failure to open the transport, as it is reported for the port. -/
def asOpenFailure (port : String) : LinkError → LinkError
  | .openFailed p reason => .openFailed p reason
  | e => .openFailed port e.message

/-- Connecting has failed. -/
def failConnect (s : Session) (t : Thread) (e : LinkError) : Except LinkError Unit × Session :=
  let message := "Failed to connect: " ++ e.message
  (.error e, ((s.become t .faulted).log t .error message).emit t (.status "Error" message))

/-- A transport that cannot be opened is logged by the port itself. -/
def logOpenFailure (s : Session) (t : Thread) : LinkError → Session
  | .openFailed port reason =>
    s.tell t (.record { level := .warn, origin := .serial
                        message := "Failed to open serial port " ++ port ++ ": " ++ reason })
  | .notConnected | .enumerationFailed _ | .io _ => s

/-- The transport is open and can be read: the connection is there. -/
def establish (s : Session) (t : Thread) (port : String) : Session :=
  { s with link := s.link.establish port }.become t .connected

/-- The reader of the connection has its thread. -/
def beginReading (s : Session) (t : Thread) (port : String) (baud : UInt32) : Session :=
  let s := { s with link.reader := some {} }.log .reader .debug
    ("Reader started on " ++ s.link.label)
  let connected := "Connected to " ++ port
  (s.log t .info (connected ++ " at " ++ toString baud.toNat ++ " baud")).emit t
    (.status "Connected" connected)

/-- The connection is there and is to be read. Where the host has no thread for its reader, it
is given up again. -/
def startReader (s : Session) (t : Thread) (port : String) (baud : UInt32) :
    Except LinkError Unit × Session :=
  let s := s.establish t port
  match s.device.spawn with
  | (.ok (), device) => (.ok (), { s with device }.beginReading t port baud)
  | (.error reason, device) =>
    { s with device, link := s.link.shut }.failConnect t (.openFailed port reason)

/-- Discards what the transport has sent before. That this fails is only logged. -/
def discardInput (s : Session) (t : Thread) (port : String) : Session :=
  let (discarded, device) := s.device.discard
  let s := { s with device }
  match discarded with
  | .error f => s.log t .warn ("Could not discard input on " ++ port ++ ": " ++ f.text)
  | .ok () => s

/-- Makes a second handle to the transport, for the reader, and starts that. -/
def openReader (s : Session) (t : Thread) (port : String) (baud : UInt32) :
    Except LinkError Unit × Session :=
  match s.device.clone with
  | (.error f, device) => { s with device }.failConnect t (.openFailed port f.text)
  | (.ok (), device) => { s with device }.startReader t port baud

/-- Opens the transport, discards what it has sent before, and starts the
reader. -/
def openPort (s : Session) (t : Thread) (port : String) (baud : UInt32) :
    Except LinkError Unit × Session :=
  let s := s.become t .connecting
  let s := s.log t .info ("Connecting to " ++ port ++ " at " ++ toString baud.toNat ++ " baud")
  match s.device.connect port baud with
  | (.error e, device) =>
    ({ s with device }.logOpenFailure t e).failConnect t (asOpenFailure port e)
  | (.ok (), device) => ({ s with device }.discardInput t port).openReader t port baud

/-- Connects to a port. -/
def connect (s : Session) (t : Thread) (port : String) (baud : UInt32) :
    Except LinkError Unit × Session :=
  if s.link.state.isConnected then
    if s.link.port = some port then (.ok (), s.log t .debug ("Already connected to " ++ port))
    -- a job on the old connection finds it closed and ends before the new one is opened
    else (s.teardown t).settle.openPort t port baud
  else (s.stopReader t).openPort t port baud

/-- Ends the connection. -/
def disconnect (s : Session) (t : Thread) : Session := s.teardown t

/-- Connects, does something that may fail, and disconnects in the end,
whatever came of it. -/
def within {ε α : Type} (s : Session) (t : Thread) (port : String) (baud : UInt32)
    (ofLink : LinkError → ε) (body : Session → Except ε α × Session) : Except ε α × Session :=
  match s.connect t port baud with
  | (.error e, s) => (.error (ofLink e), s.disconnect t)
  | (.ok (), s) =>
    let (result, s) := body s
    (result, s.disconnect t)

/-- Sends lines until one fails, and lets the threads come to rest after
each. -/
def sendEach (s : Session) (t : Thread) : List String → Except LinkError Unit × Session
  | [] => (.ok (), s)
  | line :: rest =>
    match s.sendLine t line with
    | (.error e, s) => (.error e, s.settle)
    | (.ok (), s) => s.settle.sendEach t rest

/-- The ports that the host offers. A failure to list them is logged. -/
def listPorts (s : Session) (t : Thread) : Except LinkError (List Port) × Session :=
  match s.device.ports with
  | .error (.enumerationFailed reason) =>
    (s.device.ports, s.tell t (.record
      { level := .error, origin := .serial
        message := "Failed to enumerate serial ports: " ++ reason }))
  | .error _ | .ok _ => (s.device.ports, s)

end GcodeSender.Session
