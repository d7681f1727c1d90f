import GcodeSender.Event

/-!
# `GcodeSender.Log.Record`: log records

A record has a level, the part of the program that wrote it, a message
and named fields. `consoleRecord` is how an event is shown on the
console: routine traffic is only for debugging unless the operator
asks for it.
-/

set_option autoImplicit false

namespace GcodeSender.Log

/-- The levels of urgency, from the least urgent up. -/
inductive Level where
  | trace
  | debug
  | info
  | warn
  | error
deriving DecidableEq, Repr

def Level.display : Level → String
  | .trace => "TRACE"
  | .debug => "DEBUG"
  | .info => "INFO"
  | .warn => "WARN"
  | .error => "ERROR"

/-- The rank of a level, so that levels can be compared. -/
def Level.rank : Level → Nat
  | .trace => 0
  | .debug => 1
  | .info => 2
  | .warn => 3
  | .error => 4

/-- The part of the program that writes a record. -/
inductive Origin where
  | program
  | console
  | command
  | link
  | serial
  | streamer
  | loader
deriving DecidableEq, Repr

/-- The path under which a part's records appear, and by which a filter
selects them. -/
def Origin.path : Origin → String
  | .program => "grblstream"
  | .console => "grblstream::console"
  | .command => "grblstream::cli"
  | .link => "grblstream_communication::communication::link"
  | .serial => "grblstream_communication::communication::serial"
  | .streamer => "grblstream_communication::streaming::streamer"
  | .loader => "grblstream_communication::streaming::program"

/-- The value of a field. -/
inductive FieldValue where
  /-- A text, shown in quotes. -/
  | text (s : String)
  /-- A name, shown as it is. -/
  | name (s : String)
  | number (n : Nat)
deriving DecidableEq, Repr

/-- The value without quotes. -/
def FieldValue.plain : FieldValue → String
  | .text s => s
  | .name s => s
  | .number n => toString n

/-- One log record. -/
structure Record where
  level : Level
  origin : Origin
  message : String
  fields : List (String × FieldValue) := []
deriving DecidableEq, Repr

/-- Whether a log line is routine traffic rather than a notable event. -/
def isTraffic (text : String) : Bool :=
  "GRBL: ".toList.isPrefixOf text.toList || "Sent: ".toList.isPrefixOf text.toList

/-- An event as it is shown on the console. -/
def consoleRecord (verbose : Bool) : Event → Record
  | .status state raw => ⟨.info, .console, raw, [("state", .text state)]⟩
  | .position p => ⟨.debug, .console, "Position " ++ p.display, []⟩
  | .log text => ⟨if isTraffic text && !verbose then .debug else .info, .console, text, []⟩
  | .progress p =>
    ⟨.info, .console, "Progress: " ++ p.display,
      [("lines_sent", .number p.acknowledged), ("total_lines", .number p.total)]⟩
  | .error .decode message =>
    ⟨.warn, .console, message, [("kind", .name ErrorKind.decode.display)]⟩
  | .error kind message => ⟨.error, .console, message, [("kind", .name kind.display)]⟩

end GcodeSender.Log
