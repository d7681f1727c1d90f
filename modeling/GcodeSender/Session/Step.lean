import GcodeSender.Session.Controlling

/-!
# `GcodeSender.Session.Step`: sessions as lists of steps

What can happen to a session from outside, as data: the operator's
calls, the device's doings, and the reactions that the observer is
told to have. After each step the threads run to rest, so a session is
a list of steps and its outcome a list of results.

While a write has not returned, it holds the transport. A call that
needs the transport, or waits for the thread that writes, could not
return either; it is answered by `blocked` and not made.
-/

set_option autoImplicit false

namespace GcodeSender.Session

/-- One step of a session. Jobs are named by their index. -/
inductive Step where
  | connect (port : String) (baud : UInt32)
  | disconnect
  | send (line : String)
  /-- Sends the single-byte command that the text stands for. -/
  | realtime (text : String)
  | listPorts
  /-- Connects, sends lines, and disconnects. If all are sent, the result
  is their number, or the given failure. -/
  | within (port : String) (baud : UInt32) (lines : List String) (failure : Option LinkError)
  /-- Announces that the next line's answer is wanted. -/
  | expect
  /-- Takes the wanted answer, if that is possible at once. -/
  | takeResponse
  | cancelResponse
  | claim
  | release
  /-- The device sends something. -/
  | deviceSends (items : List Bench.Item)
  /-- The device is changed. -/
  | deviceChanges (change : Bench.Device → Bench.Device)
  | start (job : Nat) (name : String) (program : Program)
  | pause (job : Nat)
  | resume (job : Nat)
  | stop (job : Nat)
  | stopWithin (job : Nat) (ms : Nat)
  /-- Lets go the writes that are held up. -/
  | letGo
  /-- The final state of a job whose thread has ended. -/
  | await (job : Nat)
  | arm (rule : Rule)

/-- The result of a step. -/
inductive Result where
  | done
  | truth (b : Bool)
  | link (r : Except LinkError Unit)
  | job (r : Except JobError Unit)
  | ports (r : Except LinkError (List Port))
  | count (r : Except LinkError Nat)
  /-- How the wait for an answer ends, if it can end at once. -/
  | response (r : Option Link.Outcome)
  | snapshot (s : Option Job.Snapshot)
  /-- The text stands for no single-byte command. -/
  | noCommand
  /-- The call cannot return while a write has not returned. -/
  | blocked

/-- The step waits for a write that has not returned. -/
def Step.waits (s : Session) : Step → Bool
  | .connect port _ => s.isHanging && !(s.link.state.isConnected && s.link.port = some port)
  | .disconnect | .send _ | .realtime _ | .within _ _ _ _ => s.isHanging
  | .start i _ program =>
    (s.job i).isHanging && ((s.job i).refusal? program s.link.state.isConnected).isNone
  | .stop i => (s.job i).isHanging
  | .listPorts | .expect | .takeResponse | .cancelResponse | .claim | .release | .deviceSends _
  | .deviceChanges _ | .pause _ | .resume _ | .stopWithin _ _ | .letGo | .await _ | .arm _ => false

/-- A step before the threads come to rest. -/
def act (s : Session) : Step → Result × Session
  | .connect port baud =>
    let (r, s) := s.connect .caller port baud
    (.link r, s)
  | .disconnect => (.done, s.disconnect .caller)
  | .send line =>
    let (r, s) := s.sendLine .caller line
    (.link r, s)
  | .realtime text =>
    match Machine.Realtime.ofText? text with
    | some c =>
      let (r, s) := s.sendRealtime .caller c
      (.link r, s)
    | none => (.noCommand, s)
  | .listPorts =>
    let (r, s) := s.listPorts .caller
    (.ports r, s)
  | .within port baud lines failure =>
    let (r, s) := s.within .caller port baud id fun s =>
      match s.sendEach .caller lines with
      | (.error e, s) => (.error e, s)
      | (.ok (), s) =>
        match failure with
        | some e => (.error e, s)
        | none => (.ok lines.length, s)
    (.count r, s)
  | .expect => (.done, { s with link.slot := s.link.slot.arm })
  | .takeResponse =>
    match s.link.slot.check? with
    | some (outcome, slot) => (.response (some outcome), { s with link.slot := slot })
    | none => (.response none, s)
  | .cancelResponse => (.done, { s with link.slot := s.link.slot.cancel })
  | .claim =>
    let (taken, link) := s.link.claim
    (.truth taken, { s with link })
  | .release => (.done, { s with link := s.link.release })
  | .deviceSends items => (.done, { s with device.inbound := s.device.inbound ++ items })
  | .deviceChanges change => (.done, { s with device := s.device.adjust change })
  | .start i name program =>
    let (r, s) := s.start .caller i name program
    (.job r, s)
  | .pause i => (.done, s.pause .caller i)
  | .resume i => (.done, s.resume .caller i)
  | .stop i => (.done, s.requestStop .caller i)
  | .stopWithin i ms =>
    let (ended, s) := s.stopWithin .caller i ms
    (.truth ended, s)
  | .letGo => (.done, s.letGo)
  | .await i => (.snapshot (s.finalSnapshot? i), s)
  | .arm rule => (.done, { s with rules := s.rules ++ [rule] })

/-- A step, after which the threads come to rest. -/
def perform (s : Session) (step : Step) : Result × Session :=
  if step.waits s then (.blocked, s)
  else
    let (r, s) := s.act step
    (r, s.settle)

/-- The results of a list of steps, each with the session after it. -/
def run (s : Session) : List Step → List (Result × Session)
  | [] => []
  | step :: rest =>
    let (r, s) := s.perform step
    (r, s) :: s.run rest

end GcodeSender.Session
