import GcodeSender.Log.Record

/-!
# `GcodeSender.Note`: what threads report

Each thread of the program reports through two channels: events for
the observer and records for the log. A `Note` is one such report, and
a journal is the list of the notes of all threads, each under the
thread that made it.
-/

set_option autoImplicit false

namespace GcodeSender

/-- The threads of the program. -/
inductive Thread where
  /-- The thread that works for the operator. -/
  | caller
  /-- The thread that reads from the controller. -/
  | reader
  /-- The thread of a job. -/
  | streamer
  /-- The thread that reads what the operator types during a job. -/
  | control
deriving DecidableEq, Repr

/-- One report. -/
inductive Note where
  | event (e : Event)
  | record (r : Log.Record)

def Note.event? : Note → Option Event
  | .event e => some e
  | .record _ => none

/-- A report under the thread that made it. -/
structure Entry where
  thread : Thread
  note : Note

end GcodeSender
