import GcodeSender.Command.Run

/-!
# `GcodeSender.Bench.Script`: rehearsing a command

A script says what the device and the operator do while a command
waits. It is played in order: an act is done when its turn comes, and a
condition holds the play up until it is met. When the command no longer
waits, or a condition cannot be met any more, the play is over.
-/

set_option autoImplicit false

namespace GcodeSender.Bench

open Command (Run)

/-- One step of a script. -/
inductive Cue where
  /-- The device has received so many lines. -/
  | received (count : Nat)
  /-- The device has received so many single-byte commands. -/
  | commanded (count : Nat)
  /-- A message was logged so often. -/
  | logged (message : String) (count : Nat)
  /-- The device sends a text. -/
  | reply (content : List UInt8)
  /-- The operator types a line. -/
  | typed (line : String)
  /-- From now on the device answers every line with a text. -/
  | answer (content : List UInt8)
  /-- The device goes away. -/
  | hangup
deriving DecidableEq, Repr

/-- What the reader finds when the device has gone away. -/
def hangupFault : Link.Fault := ⟨.brokenPipe, "Broken pipe"⟩

/-- Whether a cue's turn has come, given the messages logged so far. -/
def Cue.isDue (r : Run) (messages : List String) : Cue → Bool
  | .received count => count ≤ r.session.device.lines.length
  | .commanded count => count ≤ r.session.device.commands.length
  | .logged message count => count ≤ messages.count message
  | .reply _ | .typed _ | .answer _ | .hangup => true

/-- Something arrives from the device. -/
def arrive (r : Run) (item : Item) : Run :=
  { r with session.device.inbound := r.session.device.inbound ++ [item] }

/-- What a cue does. -/
def Cue.act (r : Run) : Cue → Run
  | .reply content => (if content = [] then r else arrive r (.bytes content)).settle
  | .typed line => (r.type line).settle
  | .answer content => { r with session.device.auto := content }
  | .hangup => (arrive r (.fault hangupFault)).settle
  | .received _ | .commanded _ | .logged _ _ => r

/-- Plays a script. `messages` are those that a run has logged. -/
def play (messages : Run → List String) : List Cue → Run → Run
  | [], r => r
  | cue :: rest, r =>
    if r.isWaiting && cue.isDue r (messages r) then play messages rest (cue.act r) else r

/-- Plays a script and ends the command. -/
def rehearse (messages : Run → List String) (script : List Cue) (r : Run) : Run :=
  (play messages script r).conclude

end GcodeSender.Bench
