import GcodeSender.Session.Connecting
import GcodeSender.Text.Blank

/-!
# `GcodeSender.Session.Controlling`: starting and stopping jobs

A job is started only on a connected link that no other job owns;
otherwise it is refused, and that changes nothing. A job that the host
has no thread for is started and fails at once. A running or paused job
may be stopped from any thread, and the thread that stops it waits for
the job's thread to end.
-/

set_option autoImplicit false

namespace GcodeSender.Session

/-- A thread reports several things. -/
def tellAll (s : Session) (t : Thread) (notes : List Note) : Session :=
  notes.foldl (fun s n => s.tell t n) s

/-- A start is refused. -/
def refuseStart (s : Session) (t : Thread) (e : JobError) : Except JobError Unit × Session :=
  (.error e, s.tellAll t (Job.refusalNotes e))

/-- The host has no thread for a job that has been started: the link is given back, the
job has failed, and the start is refused after all. -/
def abandonStart (s : Session) (t : Thread) (i : Nat) (reason : String) :
    Except JobError Unit × Session :=
  ({ s with link := s.link.release }.setJob i (s.job i).abandoned).refuseStart t
    (.cannotStart (.noThread reason))

/-- A job that has the link is announced. -/
def launch (s : Session) (t : Thread) (i : Nat) (name : String) (p : Program) : Session :=
  (s.setJob i (Job.launch name p)).tellAll t (Job.launchNotes name p.length)

/-- A job that was announced gets its thread. -/
def spawnJob (s : Session) (t : Thread) (i : Nat) : Except JobError Unit × Session :=
  match s.device.spawn with
  | (.ok (), device) => (.ok (), { s with device })
  | (.error reason, device) => { s with device }.abandonStart t i reason

/-- Starts a job with the given name. -/
def start (s : Session) (t : Thread) (i : Nat) (name : String) (p : Program) :
    Except JobError Unit × Session :=
  match (s.job i).refusal? p s.link.state.isConnected with
  | some refusal => s.refuseStart t (.cannotStart refusal)
  | none =>
    match s.link.claim with
    | (false, _) => s.refuseStart t .alreadyStreaming
    | (true, link) => ({ s with link }.launch t i name p).spawnJob t i

/-- Pauses a job. -/
def pause (s : Session) (t : Thread) (i : Nat) : Session := s.pauseFrom t i

/-- Resumes a job. -/
def resume (s : Session) (t : Thread) (i : Nat) : Session :=
  let (j, notes) := (s.job i).resume
  (s.setJob i j).tellAll t notes

/-- Asks a job to stop: it is marked, and its wait is called off. -/
def requestStop (s : Session) (t : Thread) (i : Nat) : Session :=
  let (j, notes) := (s.job i).requestStop
  if notes.isEmpty then s
  else
    let s := s.setJob i j
    { s with link.slot := s.link.slot.cancel }.tellAll t notes

/-- A time in milliseconds in words, in seconds from one second up. -/
def durationText (ms : Nat) : String :=
  if ms < 1000 then toString ms ++ "ms"
  else
    let digits := (List.replicate 3 '0' ++ Nat.toDigits 10 (ms % 1000)).reverse.take 3
    let fraction := (digits.dropWhile (· = '0')).reverse
    let whole := toString (ms / 1000)
    if fraction = [] then whole ++ "s" else whole ++ "." ++ String.ofList fraction ++ "s"

/-- Stops a job and waits a limited time for its thread to end. The
threads come to rest within that time; the result says whether the
job's thread has ended. -/
def stopWithin (s : Session) (t : Thread) (i : Nat) (ms : Nat) : Bool × Session :=
  let s := (s.requestStop t i).settle
  if (s.job i).isAlive then
    (false, s.tell t (Job.record .warn ("Job did not stop within " ++ durationText ms)))
  else (true, s)

/-- The job's last state, once its thread has ended. -/
def finalSnapshot? (s : Session) (i : Nat) : Option Job.Snapshot :=
  if (s.job i).isAlive then none else some (s.job i).snapshot

example : durationText 15 = "15ms" := by decide
example : durationText 2050 = "2.05s" := by decide

end GcodeSender.Session
