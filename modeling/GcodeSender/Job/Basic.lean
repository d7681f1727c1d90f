import GcodeSender.Error
import GcodeSender.Job.Snapshot
import GcodeSender.Link.Slot
import GcodeSender.Machine.Response
import GcodeSender.Note
import GcodeSender.Program

/-!
# `GcodeSender.Job`: streaming a program

A job sends its program line by line and waits for each line's answer
before it sends the next. It works on a thread of its own, which is
modelled as an automaton: `Stage` says where the thread stands, and
`Job.move` what it does next. A move either concerns the job alone or
asks something of the link; `Job.armed`, `Job.sent`, `Job.answered`
and `Job.released` say how the thread goes on with the link's reply.

The automaton does not say which link it runs on. The same job runs on
a real link and on a scripted one.
-/

set_option autoImplicit false

namespace GcodeSender

namespace Job

/-- Where the thread of a job stands. -/
inductive Stage where
  /-- There is no thread. -/
  | gone
  /-- It is free to send the next line. -/
  | deciding
  /-- It is about to announce that it wants the line's answer. -/
  | arming (line : String)
  /-- It is about to write the line. -/
  | sending (line : String)
  /-- Its write has not returned; these bytes are still to be taken. -/
  | hanging (line : String) (rest : List UInt8)
  /-- It waits for the line's answer. -/
  | awaiting (line : String)
  /-- Its line was accepted and is about to be counted. -/
  | crediting
  /-- Its line has failed and the failure is about to be reported. -/
  | failing (kind : ErrorKind) (message : String)
  /-- A failure was reported while the job was paused; the job ends when
  it is resumed or stopped. -/
  | parked
  /-- It is about to give the link back. -/
  | releasing
  /-- It has given the link back and is about to end. -/
  | retiring
deriving DecidableEq, Repr

end Job

/-- A job with its program and its thread. The fields of an old job
remain until the next one is started. -/
structure Job where
  snapshot : Job.Snapshot := {}
  lines : List String := []
  stage : Job.Stage := .gone
deriving DecidableEq, Repr

namespace Job

/-- The job's thread has not ended. -/
def isAlive (j : Job) : Bool := j.stage ≠ .gone

/-- The job's thread is in a write that has not returned. -/
def isHanging (j : Job) : Bool :=
  match j.stage with
  | .hanging _ _ => true
  | _ => false

def isActive (j : Job) : Bool := j.snapshot.isActive

/-- The number of the line at the cursor, from one. -/
def lineNumber (j : Job) : Nat := j.snapshot.cursor + 1

/-- A log record of a job. -/
def record (level : Log.Level) (message : String) : Note :=
  .record { level, origin := .streamer, message }

/-- A change of a job as it is reported: a log record, and a log line
for the observer. -/
def announce (message shown : String) : List Note := [record .info message, .event (.log shown)]

/-- What the thread of a job does next. -/
inductive Move where
  /-- Nothing, until another thread does something. -/
  | rest
  /-- A step that concerns the job alone. -/
  | own (next : Job) (notes : List Note)
  /-- Asks the link to keep the next line's answer for it. -/
  | arm
  /-- Asks the link to write a line. -/
  | send (line : String)
  /-- Asks the link for the answer. -/
  | await
  /-- Gives the link back. -/
  | release

/-- The line was counted: the progress is reported. -/
def progressNotes (s : Snapshot) : List Note :=
  [.event (.progress s.progress), .event (.log ("Progress: " ++ s.progress.display))]

/-- The job has failed. -/
def failureNotes (kind : ErrorKind) (message : String) : List Note :=
  [record .error ("Job halted: " ++ message), .event (.error kind message)]

/-- The job is complete. -/
def finishNotes (total : Nat) : List Note :=
  announce ("Job finished (" ++ toString total ++ " lines)") "Job finished"

/-- The next move of the job's thread. -/
def move (j : Job) : Move :=
  match j.stage with
  | .gone => .rest
  | .deciding =>
    match j.snapshot.decide with
    | .wait => .rest
    | .leave => .own { j with stage := .releasing } []
    | .finish s => .own { j with snapshot := s, stage := .releasing } (finishNotes s.total)
    | .send =>
      match j.lines[j.snapshot.cursor]? with
      | some line => .own { j with stage := .arming line } []
      -- no line is missing below the total
      | none => .own { j with stage := .releasing } []
  | .arming _ => .arm
  | .sending line => .send line
  | .hanging _ _ => .rest
  | .awaiting _ => .await
  | .crediting =>
    match j.snapshot.credit? with
    | some s => .own { j with snapshot := s, stage := .deciding } (progressNotes s)
    -- stopped while the answer was on its way: the line is not counted
    | none => .own { j with stage := .releasing } []
  | .failing kind message =>
    if j.snapshot.state = .paused then
      .own { j with stage := .parked } (failureNotes kind message)
    else if j.snapshot.state = .running then
      .own { j with snapshot := j.snapshot.fail, stage := .releasing } (failureNotes kind message)
    -- stopped in the meantime: the failure is nobody's concern
    else .own { j with stage := .releasing } []
  | .parked =>
    if j.snapshot.state = .paused then .rest
    else .own { j with snapshot := j.snapshot.fail, stage := .releasing } []
  | .releasing => .release
  | .retiring => .own { j with stage := .gone } []

/-- The link keeps the next line's answer for the job. -/
def armed (j : Job) : Job :=
  match j.stage with
  | .arming line => { j with stage := .sending line }
  | _ => j

/-- The message where line number `n` cannot be written. -/
def sendFailure (n : Nat) (e : LinkError) : String :=
  "Send failed on line " ++ toString n ++ ": " ++ e.message

/-- The link has written the line, or has failed to. -/
def sent (j : Job) (line : String) : Except LinkError Unit → Job
  | .ok () => { j with stage := .awaiting line }
  | .error e => { j with stage := .failing .transport (sendFailure j.lineNumber e) }

/-- The line whose answer the thread waits for. -/
def awaited (j : Job) : String :=
  match j.stage with
  | .awaiting line => line
  | _ => ""

/-- The wait for the answer has ended. -/
def answered (j : Job) : Link.Outcome → Job
  | .answer a =>
    if Machine.isAccepted a then { j with stage := .crediting }
    else
      let e := JobError.rejected j.lineNumber j.awaited a
      { j with stage := .failing .protocol e.message }
  | .closed => { j with stage := .failing .transport (JobError.linkClosed j.lineNumber).message }
  | .cancelled => { j with stage := .releasing }

/-- The link was given back. -/
def released (j : Job) : Job := { j with stage := .retiring }

/-- Why a job cannot be started over this one, if the link is connected
or not. -/
def refusal? (j : Job) (p : Program) (connected : Bool) : Option Refusal :=
  if j.isActive then some .alreadyRunning
  else if p.lines = [] then some .emptyProgram
  else if !connected then some .notConnected
  else none

/-- A start that is refused. -/
def refusalNotes (e : JobError) : List Note :=
  [record .warn e.message, .event (.error .usage e.message)]

/-- The job that sends a program. -/
def launch (name : String) (p : Program) : Job :=
  ⟨Snapshot.launch name p.length, p.lines, .deciding⟩

def launchNotes (name : String) (total : Nat) : List Note :=
  announce ("Starting job " ++ name ++ " (" ++ toString total ++ " lines)")
    ("Streaming " ++ toString total ++ " lines")

/-- The job was started, and has no thread. Whatever has become of it meanwhile, it has
failed. -/
def abandoned (j : Job) : Job :=
  { j with snapshot := { j.snapshot with state := .errored }, stage := .gone }

/-- Pauses the job, which then sends no further line. -/
def pause (j : Job) : Job × List Note :=
  match j.snapshot.pause? with
  | some s => ({ j with snapshot := s }, announce "Job paused" "Paused")
  | none => (j, [])

/-- Resumes the job. -/
def resume (j : Job) : Job × List Note :=
  match j.snapshot.resume? with
  | some s => ({ j with snapshot := s }, announce "Job resumed" "Resumed")
  | none => (j, [])

/-- Ends the job from outside. Where the result holds notes, the link's
present wait is to be called off before they are reported. -/
def requestStop (j : Job) : Job × List Note :=
  match j.snapshot.stop? with
  | some s => ({ j with snapshot := s }, announce "Job stopped" "Stopped")
  | none => (j, [])

/-- A bound on the moves that the thread makes on the way to its next
line. -/
def Stage.rank : Stage → Nat
  | .gone => 0
  | .retiring => 1
  | .releasing => 2
  | .parked => 3
  | .failing _ _ => 4
  | .crediting => 5
  | .awaiting _ => 6
  | .hanging _ _ => 7
  | .sending _ => 8
  | .arming _ => 9
  | .deciding => 10

/-- A bound on the moves that the thread still makes: every line that is
counted takes it back to where it decides. -/
def work (j : Job) : Nat := 6 * (j.snapshot.total - j.snapshot.cursor) + j.stage.rank

end Job

end GcodeSender
