import GcodeSender.Job.Progress
import GcodeSender.Job.RunState

/-!
# `GcodeSender.Job.Snapshot`: a job at one moment

The snapshot is what a job's thread and the threads that control it
share. Each function here is one indivisible change of it: a thread
looks at the snapshot and changes it without another thread coming in
between.
-/

set_option autoImplicit false

namespace GcodeSender.Job

/-- A job at one moment; before the first job, an idle one without
lines. -/
structure Snapshot where
  /-- The lines acknowledged so far. The next line to be sent has this
  index. -/
  cursor : Nat := 0
  /-- The lines in the program. -/
  total : Nat := 0
  state : RunState := .idle
  /-- The name of the job, once one was started. -/
  name : Option String := none
deriving DecidableEq, Repr

def Snapshot.progress (s : Snapshot) : Progress := ⟨s.cursor, s.total⟩

def Snapshot.isActive (s : Snapshot) : Bool := s.state.isActive

/-- The beginning of a job. -/
def Snapshot.launch (name : String) (total : Nat) : Snapshot := ⟨0, total, .running, some name⟩

/-- Pauses a running job. -/
def Snapshot.pause? (s : Snapshot) : Option Snapshot :=
  if s.state = .running then some { s with state := .paused } else none

/-- Resumes a paused job. -/
def Snapshot.resume? (s : Snapshot) : Option Snapshot :=
  if s.state = .paused then some { s with state := .running } else none

/-- Stops a job that is running or paused. -/
def Snapshot.stop? (s : Snapshot) : Option Snapshot :=
  if s.isActive then some { s with state := .stopped } else none

/-- What a job's thread does when it is free to send the next line. -/
inductive Decision where
  /-- It waits to be resumed. -/
  | wait
  /-- It ends, because the job was ended for it. -/
  | leave
  /-- It ends, because every line is acknowledged. -/
  | finish (s : Snapshot)
  /-- It sends the line at the cursor. -/
  | send
deriving DecidableEq, Repr

/-- Only a running job sends, and only a running one finishes. -/
def Snapshot.decide (s : Snapshot) : Decision :=
  match s.state with
  | .paused => .wait
  | .running => if s.total ≤ s.cursor then .finish { s with state := .finished } else .send
  | .idle | .stopped | .finished | .errored => .leave

/-- Counts an acknowledged line. A paused job counts it too; one that
was ended in the meantime does not. -/
def Snapshot.credit? (s : Snapshot) : Option Snapshot :=
  if s.isActive then some { s with cursor := s.cursor + 1 } else none

/-- Marks a failed job. A paused one is marked when it is resumed. -/
def Snapshot.fail (s : Snapshot) : Snapshot :=
  if s.state = .running then { s with state := .errored } else s

end GcodeSender.Job
