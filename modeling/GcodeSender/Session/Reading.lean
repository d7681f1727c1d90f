import GcodeSender.Machine.Response
import GcodeSender.Session.Basic

/-!
# `GcodeSender.Session.Reading`: what the reader does

The reader takes what the device has sent one read at a time, at most
up to the end of a line, and keeps the beginning of a line until its
end arrives. A whole line is reported, and either changes the cached
status and position or is offered to the slot as an answer.

A passing fault leaves everything as it is; any other ends the
connection. At the end of the stream, what was just read without the
end of its line is still handled as a line.
-/

set_option autoImplicit false

namespace GcodeSender.Session

/-- A field of a status report that cannot be read is logged and
reported. -/
def reportFieldError (s : Session) (e : Machine.FieldError) : Session :=
  (s.log .reader .warn ("Bad status field '" ++ e.field ++ "': " ++ e.fault.message)).emit .reader
    (.error .decode ("Could not parse position '" ++ e.field ++ "': " ++ e.fault.message))

/-- A status report replaces the cached status, and the cached position
if it has one; then it is reported. -/
def handleReport (s : Session) (r : Machine.StatusReport) : Session :=
  let s := { s with link.status := some r.status
                    link.position := r.workPosition.or s.link.position }
  let s := s.reportStatus .reader r.state r.raw
  let s := match r.workPosition with
    | some p => s.emit .reader (.position p)
    | none => s
  r.fieldErrors.foldl reportFieldError s

/-- An answer is offered to the slot. -/
def handleAnswer (s : Session) (line : String) : Session :=
  let (taken, slot) := s.link.slot.offer line
  let s := { s with link.slot := slot }
  if taken then s else s.log .reader .debug ("Unsolicited response: " ++ line)

/-- Whether a line is the answer to a line that was sent. -/
def isAnswer (line : String) : Bool :=
  match Machine.Response.ofLine? line with
  | some r => r.answersCommand
  | none => false

/-- A line without blanks around it. -/
def handleText (s : Session) (line : String) : Session :=
  let s := (s.log .reader .trace ("GRBL: " ++ line)).emit .reader (.log ("GRBL: " ++ line))
  match Machine.StatusReport.ofLine? line with
  | some r => s.handleReport r
  | none => if isAnswer line then s.handleAnswer line else s

/-- A line as it was received. A blank line is passed over. -/
def handleLine (s : Session) (bytes : List UInt8) : Session :=
  match Text.decode bytes with
  | .ok cs =>
    let line := Text.trim cs
    if line = [] then s else s.handleText (String.ofList line)
  | .error fault =>
    let size := "(" ++ toString bytes.length ++ " bytes): "
    (s.log .reader .warn ("Dropped undecodable line " ++ size ++ fault.message)).emit
      .reader (.error .decode ("Could not decode line: " ++ fault.message))

/-- The reader has found the transport broken: it says so. -/
def reportFault (s : Session) (reason : String) : Session :=
  let message := "Serial error: " ++ reason
  let s := s.log .reader .error (message ++ " (" ++ s.link.label ++ ")")
  let s := (s.emit .reader (.error .transport message)).reportStatus .reader "Error" message
  s.become .reader .faulted

/-- The reader takes the broken connection down and ends. -/
def closeAfterFault (s : Session) : Session :=
  let s := { s with link := s.link.shut }.becomeDisconnected .reader fun s =>
    s.reportStatus .reader "Disconnected" s.farewell
  s.endReader

/-- The transport is broken. While a write has not returned, the
connection cannot be taken down yet. -/
def fault (s : Session) (reason : String) : Session :=
  let s := s.reportFault reason
  if s.isHanging then
    match s.link.reader with
    | some r => { s with link.reader := some { r with closing := true } }
    | none => s
  else s.closeAfterFault

/-- Before it reads again, the reader ends if it was told to. -/
def endIfStopping (s : Session) : Session :=
  match s.link.reader with
  | some r => if r.stopping then s.endReader else s
  | none => s

/-- The reader has the end of a line: it handles the line and begins the
next. -/
def completeLine (s : Session) (r : Link.Reader) (chunk : List UInt8) : Session :=
  let next : Link.Reader := { r with pending := [], fresh := false }
  ({ s with link.reader := some next }.handleLine (r.pending ++ chunk)).endIfStopping

/-- What one read takes of some bytes, and what it leaves: at most up to
the first line feed. -/
def spanLine (bytes : List UInt8) : List UInt8 × List UInt8 :=
  let n := (bytes.takeWhile (· ≠ 10)).length + 1
  (bytes.take n, bytes.drop n)

/-- One read by the reader, with what remains queued already in place. -/
def readItem (s : Session) (r : Link.Reader) : Bench.Item → Session
  | .bytes content =>
    let chunk := (spanLine content).1
    if chunk.getLast? = some 10 then s.completeLine r chunk
    else
      { s with link.reader := some { r with pending := r.pending ++ chunk
                                            fresh := r.fresh || !chunk.isEmpty } }
  | .fault f =>
    -- an interrupted read is made again as part of the same call
    if f.isInterrupt then s
    else if f.isTimeout then { s with link.reader := some { r with fresh := false } }
    else s.fault f.text
  -- a call that has read something ends with that; the next one finds the end anew
  | .ending => if r.fresh then s.completeLine r [] else s.fault Link.endOfStreamText

/-- What remains queued after one read of an item. -/
def leftOver : Bench.Item → List Bench.Item
  | .bytes content =>
    match (spanLine content).2 with
    | [] => []
    | rest@(_ :: _) => [.bytes rest]
  | .fault _ | .ending => []

/-- One read, if the reader can read. -/
def read? (s : Session) : Option Session :=
  match s.link.reader, s.device.inbound with
  | some r, item :: rest =>
    if r.closing then none
    else some ({ s with device.inbound := leftOver item ++ rest }.readItem r item)
  | _, _ => none

/-- The reader has nothing to read and waits in vain. -/
def timeOut (s : Session) : Session :=
  match s.link.reader with
  | some r => { s with link.reader := some { r with fresh := false } }
  | none => s

end GcodeSender.Session
