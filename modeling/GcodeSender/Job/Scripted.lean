import GcodeSender.Job.Basic

/-!
# `GcodeSender.Job.Scripted`: a job on a scripted link

A scripted link gives its answers and its failures in the order of two
lists and keeps a trace of what the job asks of it. Nothing else
happens on such a link, so the job runs to its end in one go.
-/

set_option autoImplicit false

namespace GcodeSender.Job

/-- An entry of the trace: a call of the link, or an event. -/
inductive Trace where
  | claim
  | expect
  | send (line : String)
  | wait
  | release
  | cancel
  | event (e : Event)

/-- A job and the script of its link. -/
structure Scripted where
  connected : Bool := true
  claimed : Bool := false
  /-- How the waits end, in order. After the last one the link is
  closed. -/
  outcomes : List Link.Outcome := []
  /-- How the writes end, in order. After the last one all succeed. -/
  writes : List (Option LinkError) := []
  job : Job := {}
  trace : List Trace := []

namespace Scripted

def log (s : Scripted) (items : List Trace) : Scripted := { s with trace := s.trace ++ items }

/-- The events among some notes. -/
def events (notes : List Note) : List Trace := (notes.filterMap Note.event?).map .event

/-- One move of the job's thread, if it can move. -/
def step? (s : Scripted) : Option Scripted :=
  match s.job.move with
  | .rest => none
  | .own next notes => some ({ s with job := next }.log (events notes))
  | .arm => some ({ s with job := s.job.armed }.log [.expect])
  | .send line =>
    let result : Except LinkError Unit := match s.writes.head? with
      | some (some e) => .error e
      | some none | none => .ok ()
    some ({ s with job := s.job.sent line result, writes := s.writes.tail }.log [.send line])
  | .await =>
    -- a script at its end ends the wait as a link that closes does
    let outcome := s.outcomes.head?.getD .closed
    some ({ s with job := s.job.answered outcome, outcomes := s.outcomes.tail }.log [.wait])
  | .release => some ({ s with job := s.job.released, claimed := false }.log [.release])

/-- At most `n` moves of the job's thread. -/
def runFor : Nat → Scripted → Scripted
  | 0, s => s
  | n + 1, s =>
    match s.step? with
    | some next => runFor n next
    | none => s

/-- Moves the job's thread as far as it goes. -/
def settle (s : Scripted) : Scripted := runFor s.job.work s

/-- Refuses to start a job. -/
def refuse (s : Scripted) (e : JobError) : Except JobError Unit × Scripted :=
  (.error e, s.log (events (refusalNotes e)))

/-- Starts a job. -/
def start (s : Scripted) (name : String) (p : Program) : Except JobError Unit × Scripted :=
  match s.job.refusal? p s.connected with
  | some refusal => s.refuse (.cannotStart refusal)
  | none =>
    let s := s.log [.claim]
    if s.claimed then s.refuse .alreadyStreaming
    else
      (.ok (), settle ({ s with claimed := true, job := launch name p }.log
        (events (launchNotes name p.length))))

/-- Pauses the job. -/
def pause (s : Scripted) : Scripted :=
  let (job, notes) := s.job.pause
  settle ({ s with job }.log (events notes))

/-- Resumes the job. -/
def resume (s : Scripted) : Scripted :=
  let (job, notes) := s.job.resume
  settle ({ s with job }.log (events notes))

/-- Stops the job. -/
def stop (s : Scripted) : Scripted :=
  let (job, notes) := s.job.requestStop
  if notes.isEmpty then settle s
  else settle (({ s with job }.log [.cancel]).log (events notes))

end Scripted

end GcodeSender.Job
