import GcodeSender.Json.Writer
import GcodeSender.Log.Record
import GcodeSender.Note
import GcodeSender.Text.Quoted

/-!
# `GcodeSender.Log.Line`: log records as text

Everything that threads report ends up in the log: events in the form
that the console gives them, and records as they are. A record's fields
follow its message, or are members of a JSON object beside it. In a
message, the control characters with which a text could take hold of a
terminal are written as numbers.
-/

set_option autoImplicit false

namespace GcodeSender

/-- The name of a thread in the log. -/
def Thread.name : Thread → String
  | .caller => "main"
  | .reader => "grbl-reader"
  | .streamer => "gcode-streamer"
  | .control => "stdin-control"

/-- The record of a report. -/
def Note.toRecord (verbose : Bool) : Note → Log.Record
  | .event e => Log.consoleRecord verbose e
  | .record r => r

namespace Log

/-- A field's value in a line of text. -/
def FieldValue.display : FieldValue → String
  | .text s => Text.inQuotes s
  | .name s => s
  | .number n => toString n

/-- A character of a message as it stands in a line of text. -/
def messageChar (c : Char) : List Char :=
  if c = '\x07' || c = '\x08' || c = '\x0c' || c = '\x1b' || c = '\x7f' then
    ['\\', 'x', Nat.digitChar (c.toNat / 16), Nat.digitChar (c.toNat % 16)]
  else if 0x80 ≤ c.toNat && c.toNat ≤ 0x9f then Text.numbered c
  else [c]

/-- The message with the fields behind it. -/
def Record.line (r : Record) : String :=
  String.ofList (r.message.toList.flatMap messageChar)
    ++ String.join (r.fields.map fun (name, value) => ", " ++ name ++ ": " ++ value.display)

/-- Whether a record is meant for the operator: it is from the console or
from the command that runs. -/
def Record.isForOperator (r : Record) : Bool := r.origin = .console || r.origin = .command

/-- A field's value in JSON. -/
def FieldValue.toJson : FieldValue → Json.Value
  | .text s => .string (some s)
  | .name s => .string (some s)
  | .number n => .ofNat n

/-- A record in JSON. -/
def Record.toJson (r : Record) (thread : Thread) : Json.Value :=
  let fields := ("message", .string (some r.message)) :: r.fields.map fun (k, v) => (k, v.toJson)
  .object [(some "level", .string (some r.level.display)),
    (some "fields", .object (fields.map fun (k, v) => (some k, v))),
    (some "target", .string (some r.origin.path)),
    (some "threadName", .string (some thread.name))]

/-- A record as a line of the log. -/
def Record.write (json : Bool) (thread : Thread) (r : Record) : String :=
  if json then String.ofList (r.toJson thread).writeInLine
  else "  " ++ r.level.display ++ " " ++ thread.name ++ " " ++ r.origin.path ++ ": " ++ r.line

end Log

end GcodeSender
