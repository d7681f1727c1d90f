/-!
# `GcodeSender.Job.RunState`: the life of a streaming job

A job begins in `running`, may be paused and resumed, and ends in one
of three terminal states. `RunState.mayBecome` lists the changes that
can happen; a terminal state is left only by starting another job.
-/

set_option autoImplicit false

namespace GcodeSender.Job

inductive RunState where
  /-- No job has been started yet. -/
  | idle
  /-- Lines are being sent. -/
  | running
  /-- Sending is suspended until resumed. -/
  | paused
  /-- Stopped on request. -/
  | stopped
  /-- Every line was acknowledged. -/
  | finished
  /-- A line was rejected, the link failed, or there was no thread for the job. -/
  | errored
deriving DecidableEq, Repr

/-- The state in words. -/
def RunState.display : RunState → String
  | .idle => "Idle"
  | .running => "Running"
  | .paused => "Paused"
  | .stopped => "Stopped"
  | .finished => "Finished"
  | .errored => "Errored"

/-- A job in this state owns the link. -/
def RunState.isActive : RunState → Bool
  | .running | .paused => true
  | .idle | .stopped | .finished | .errored => false

/-- This state ends a job. -/
def RunState.isTerminal : RunState → Bool
  | .stopped | .finished | .errored => true
  | .idle | .running | .paused => false

/-- The changes of state that a job makes. A failure seen while paused
is settled on the way through `running`, so `paused` never ends in
`errored` or `finished` directly. -/
def RunState.mayBecome : RunState → RunState → Bool
  | .idle, .running | .stopped, .running | .finished, .running | .errored, .running => true
  | .running, .paused | .paused, .running => true
  | .running, .finished | .running, .errored | .running, .stopped => true
  | .paused, .stopped => true
  | _, _ => false

end GcodeSender.Job
