import GcodeSender.Bench.Device
import GcodeSender.Job.Basic
import GcodeSender.Link.Basic

/-!
# `GcodeSender.Session`: a link, its device and its jobs

A session is everything that happens around one link: the link itself,
the device at the other end, the jobs that share the link, and the
journal of what all threads reported. This module has the parts that
every operation is made of: reporting, changing the state of the
connection, and taking a connection down.

An observer may act on what it is told, from the thread that tells it.
A `Rule` is one such reaction, good for one use. It can disconnect only
where the thread that tells it holds no lock on the connection: when the
reader reports a status, or a thread whose write has failed.
-/

set_option autoImplicit false

namespace GcodeSender

/-- What an observer does when it is told something, once. -/
inductive Rule where
  /-- It disconnects when a thread, by default the reader, reports a status. -/
  | disconnectOn (state : String) (teller : Thread := .reader)
  /-- It pauses a job when so many lines are reported acknowledged. -/
  | pauseAt (acknowledged : Nat) (job : Nat)
deriving DecidableEq, Repr

/-- A link, its device and its jobs. -/
structure Session where
  link : Link := {}
  device : Bench.Device := {}
  jobs : List Job := [{}]
  rules : List Rule := []
  /-- What was reported, oldest first. -/
  journal : List Entry := []

namespace Session

/-- A thread reports something. -/
def tell (s : Session) (t : Thread) (n : Note) : Session :=
  { s with journal := s.journal ++ [⟨t, n⟩] }

/-- A thread writes a log record about the link. -/
def log (s : Session) (t : Thread) (level : Log.Level) (message : String) : Session :=
  s.tell t (.record { level, origin := .link, message })

/-- A thread tells the observer something. -/
def emit (s : Session) (t : Thread) (e : Event) : Session := s.tell t (.event e)

/-- Some job's thread is in a write that has not returned. -/
def isHanging (s : Session) : Bool := s.jobs.any Job.isHanging

/-- The job with the given index. -/
def job (s : Session) (i : Nat) : Job := s.jobs.getD i {}

def setJob (s : Session) (i : Nat) (j : Job) : Session := { s with jobs := s.jobs.set i j }

/-- The connection changes its state. A change that does not belong to
the life of a connection is made all the same, and logged as a
warning. -/
def become (s : Session) (t : Thread) (next : Link.ConnectionState) : Session :=
  let change := s.link.state.display ++ " -> " ++ next.display
  let s :=
    if s.link.state.mayBecome next then s.log t .trace ("Connection state " ++ change)
    else s.log t .warn ("Unexpected connection state change " ++ change)
  { s with link.state := next }

/-- The reader's thread ends. -/
def endReader (s : Session) : Session :=
  { s with link.reader := none }.log .reader .debug ("Reader stopped on " ++ s.link.label)

/-- Stops the reader and waits for its end. The reader's own thread only
marks itself. -/
def stopReader (s : Session) (t : Thread) : Session :=
  match s.link.reader with
  | none => s
  | some r =>
    if r.stopping then s
    else if t = .reader then
      { s with link.reader := some { r with stopping := true } }.log t .warn
        "Disconnect requested from the reader thread; not joining"
    else s.endReader

/-- The connection, if there was one, is reported as ended. -/
def becomeDisconnected (s : Session) (t : Thread) (report : Session → Session) : Session :=
  let previous := s.link.state
  let s := s.become t .disconnected
  if previous = .disconnected then s else report s

/-- The words for an ended connection. -/
def farewell (s : Session) : String := "Disconnected from " ++ s.link.label

/-- Takes the connection down. -/
def teardown (s : Session) (t : Thread) : Session :=
  let s := s.stopReader t
  { s with link := s.link.shut }.becomeDisconnected t fun s =>
    (s.log t .info s.farewell).emit t (.status "Disconnected" s.farewell)

/-- A thread reports a status, and the observer may disconnect. -/
def reportStatus (s : Session) (t : Thread) (state raw : String) : Session :=
  let s := s.emit t (.status state raw)
  if s.rules.contains (.disconnectOn state t) then
    { s with rules := s.rules.erase (.disconnectOn state t) }.teardown t
  else s

/-- Pauses a job from the given thread. -/
def pauseFrom (s : Session) (t : Thread) (i : Nat) : Session :=
  let (j, notes) := (s.job i).pause
  notes.foldl (fun s n => s.tell t n) (s.setJob i j)

/-- The rule that a report of progress sets off, if there is one. -/
def pauseRule? (s : Session) (p : Job.Progress) : Option (Rule × Nat) :=
  s.rules.findSome? fun rule => match rule with
    | .pauseAt acknowledged i => if acknowledged = p.acknowledged then some (rule, i) else none
    | .disconnectOn _ _ => none

/-- A job's thread reports something, and the observer may pause a
job. -/
def reportFromJob (s : Session) (n : Note) : Session :=
  let s := s.tell .streamer n
  match n with
  | .event (.progress p) =>
    match s.pauseRule? p with
    | some (rule, i) => { s with rules := s.rules.erase rule }.pauseFrom .streamer i
    | none => s
  | .event _ | .record _ => s

end Session

end GcodeSender
