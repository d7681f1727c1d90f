import GcodeSender.Session.Writing

/-!
# `GcodeSender.Session.Settling`: running the threads to rest

Between two actions of the operator the threads of the jobs and the
reader run until none of them can go on. A line from the device is
handled completely, with all that a job does because of it, before the
next is read: the reader reads only while no job can move.

Every move of a job uses up a part of its `Job.work`, and every read a
part of the device's `backlog`. These two bound the run.
-/

set_option autoImplicit false

namespace GcodeSender.Session

/-- The write of a job's line has returned. -/
def jobWritten (s : Session) (i : Nat) (j : Job) (line : String) : Written → Session
  | .returned result => s.setJob i (j.sent line result)
  | .hanging rest => s.setJob i { j with stage := .hanging line rest }

/-- One move of a job's thread, if it can move. -/
def advance? (s : Session) (i : Nat) : Option Session :=
  let j := s.job i
  match j.move with
  | .rest => none
  | .own next notes => some (notes.foldl reportFromJob (s.setJob i next))
  | .arm => some ({ s with link.slot := s.link.slot.arm }.setJob i j.armed)
  | .send line =>
    let (written, s) := s.writeLine .streamer line
    some (s.jobWritten i j line written)
  | .await =>
    match s.link.slot.check? with
    | some (outcome, slot) => some ({ s with link.slot := slot }.setJob i (j.answered outcome))
    -- still waiting: what it waits for has not come
    | none => none
  | .release => some ({ s with link := s.link.release }.setJob i j.released)

/-- One move of the first job that can move. -/
def work? (s : Session) : Option Session := (List.range s.jobs.length).findSome? s.advance?

/-- Reads, at most `n` times, while no job can move. -/
def hear : Nat → Session → Session
  | 0, s => s
  | n + 1, s =>
    if s.work?.isSome then s
    else
      match s.read? with
      | some next => hear n next
      | none => s

/-- Lets the reader read and a job move by turns, with at most `n` moves
of jobs. -/
def settleFor : Nat → Session → Session
  | 0, s => s
  | n + 1, s =>
    let s := s.hear s.device.backlog
    match s.work? with
    | some next => settleFor n next
    | none => s

/-- A bound on the moves that the jobs can still make. -/
def workLeft (s : Session) : Nat := s.jobs.foldr (fun j n => j.work + n) 0

/-- Runs the threads to rest. In the end the reader waits in vain for
more. -/
def settle (s : Session) : Session := (settleFor (s.workLeft + 1) s).timeOut

/-- Lets go the write of a job that is held up. A fault that the reader
has met in the meantime takes the connection down first. -/
def letGoJob (s : Session) (i : Nat) : Session :=
  match (s.job i).stage with
  | .hanging line rest =>
    let (delivery, device) := s.device.letGo rest
    let s := { s with device }
    -- the transport is free, and the reader was the first to wait for it
    let s := match s.link.reader with
      | some r => if r.closing then s.closeAfterFault else s
      | none => s
    let (written, s) := s.afterDelivery .streamer line delivery
    s.jobWritten i (s.job i) line written
  | _ => s

/-- Lets go every write that is held up. -/
def letGo (s : Session) : Session := (List.range s.jobs.length).foldl letGoJob s

end GcodeSender.Session
