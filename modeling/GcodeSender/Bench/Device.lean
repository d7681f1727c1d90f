import GcodeSender.Error
import GcodeSender.Link.Fault
import GcodeSender.Machine.Realtime
import GcodeSender.Port
import GcodeSender.Text.Utf8

/-!
# `GcodeSender.Bench.Device`: a controller on the bench

A device at the far end of the wire, as a value. It takes bytes, and
when a flush succeeds it acts on those taken since the last one: it
answers lines and single-byte commands by a table. Its answers, and
whatever else it sends, queue up until the reader takes them. Every
call of it can be made to fail, and so can the host when it is to
start a thread.
-/

set_option autoImplicit false

namespace GcodeSender.Bench

/-- What waits to be read. -/
inductive Item where
  | bytes (content : List UInt8)
  /-- A read fails. -/
  | fault (f : Link.Fault)
  /-- A read finds the end of the stream. -/
  | ending
deriving DecidableEq, Repr

/-- How one call to write goes. -/
inductive WriteAct where
  /-- It takes everything. -/
  | all
  /-- It takes at most `count` bytes. -/
  | some (count : Nat)
  | fail (f : Link.Fault)
  /-- It does not return until it is let go; then it takes everything.
  Only the thread of a job is held up like this. -/
  | block
deriving DecidableEq, Repr

/-- How writing a text and flushing it goes. -/
inductive Delivery where
  | delivered
  | failed (reason : String)
  /-- The write has not returned, and `rest` is not taken. -/
  | hanging (rest : List UInt8)
deriving DecidableEq, Repr

/-- When a byte is a command of its own. -/
inductive Recognition where
  /-- When it was flushed alone and no line is begun. -/
  | alone
  /-- At every beginning of a line. -/
  | lineStart
deriving DecidableEq, Repr

/-- A controller on the bench. Each list of outcomes is used up one
entry a call, and when it is empty every call succeeds. -/
structure Device where
  /-- Why there is no device behind a port, if there is none. -/
  barred : String → Option String := fun _ => none
  /-- The answer to every line. -/
  auto : List UInt8 := []
  /-- The answers to particular lines and single-byte commands. -/
  replies : List (String × List UInt8) := []
  opens : List (Option LinkError) := []
  clones : List (Option Link.Fault) := []
  discards : List (Option Link.Fault) := []
  writes : List WriteAct := []
  flushes : List (Option Link.Fault) := []
  /-- The ports that the host offers. -/
  ports : Except LinkError (List Port) := .ok []
  /-- Why the host has no thread for the next ones that are to be started, if it has
  none. -/
  spawns : List (Option String) := []
  recognition : Recognition := .alone
  /-- What waits to be read, in order. -/
  inbound : List Item := []
  /-- The line that the device has received in part. -/
  carry : List UInt8 := []
  /-- The bytes taken since the last flush. -/
  unflushed : List UInt8 := []
  /-- The baud rates of the connections so far. -/
  bauds : List UInt32 := []
  /-- All bytes taken. -/
  wire : List UInt8 := []
  /-- The lines received. -/
  lines : List (List UInt8) := []
  /-- The single-byte commands received. -/
  commands : List Machine.Realtime := []

namespace Device

/-- The next outcome of a list and the list after it. -/
def pop {α : Type} (outcomes : List (Option α)) : Option α × List (Option α) :=
  (outcomes.head?.join, outcomes.tail)

/-- Opens the device through a port. What was written and not acted on
is lost. -/
def connect (d : Device) (port : String) (baud : UInt32) : Except LinkError Unit × Device :=
  match d.barred port, pop d.opens with
  | some reason, _ => (.error (.openFailed port reason), d)
  | none, (some e, opens) => (.error e, { d with opens })
  | none, (none, opens) =>
    (.ok (), { d with opens, carry := [], unflushed := [], bauds := d.bauds ++ [baud] })

/-- Discards what waits to be read. -/
def discard (d : Device) : Except Link.Fault Unit × Device :=
  match pop d.discards with
  | (some f, discards) => (.error f, { d with discards })
  | (none, discards) => (.ok (), { d with discards, inbound := [] })

/-- Makes a second handle for reading. -/
def clone (d : Device) : Except Link.Fault Unit × Device :=
  match pop d.clones with
  | (some f, clones) => (.error f, { d with clones })
  | (none, clones) => (.ok (), { d with clones })

/-- Starts a thread on the host. -/
def spawn (d : Device) : Except String Unit × Device :=
  match pop d.spawns with
  | (some reason, spawns) => (.error reason, { d with spawns })
  | (none, spawns) => (.ok (), { d with spawns })

/-- Gives the device other settings. What the bench has on record of the bytes taken
so far is no setting. -/
def adjust (d : Device) (change : Device → Device) : Device := { change d with wire := d.wire }

/-- The device sends a text. -/
def reply (d : Device) (content : List UInt8) : Device :=
  if content = [] then d else { d with inbound := d.inbound ++ [.bytes content] }

/-- The device receives a line and answers it. -/
def receiveLine (d : Device) (line : List UInt8) : Device :=
  let d := { d with carry := [], lines := d.lines ++ [line] }
  d.reply ((d.replies.lookup (String.ofList (Text.decodeLossy line))).getD d.auto)

/-- The device receives a single-byte command. -/
def receiveCommand (d : Device) (c : Machine.Realtime) : Device :=
  let d := { d with commands := d.commands ++ [c] }
  d.reply ((d.replies.lookup (String.singleton (Char.ofNat c.byte.toNat))).getD [])

/-- The device receives one byte. -/
def receiveByte (d : Device) (b : UInt8) : Device :=
  let command := if d.recognition = .lineStart && d.carry.isEmpty then Machine.Realtime.ofByte? b
    else none
  match command with
  | some c => d.receiveCommand c
  | none =>
    if b = 10 then d.receiveLine d.carry else { d with carry := d.carry ++ [b] }

/-- The command that a flush of the given bytes is, if it is one. -/
def loneCommand? (d : Device) : List UInt8 → Option Machine.Realtime
  | [b] => if d.carry.isEmpty then Machine.Realtime.ofByte? b else none
  | _ => none

/-- The device acts on what it has taken. -/
def act (d : Device) : Device :=
  let bytes := d.unflushed
  let d := { d with unflushed := [] }
  match d.loneCommand? bytes with
  | some c => d.receiveCommand c
  | none => bytes.foldl receiveByte d

/-- Flushes what was taken. A failed flush loses it. -/
def flush (d : Device) : Delivery × Device :=
  match pop d.flushes with
  | (some f, flushes) => (.failed f.text, { d with flushes, unflushed := [] })
  | (none, flushes) => (.delivered, { d with flushes }.act)

/-- Bytes are taken. -/
def take (d : Device) (bytes : List UInt8) : Device :=
  { d with wire := d.wire ++ bytes, unflushed := d.unflushed ++ bytes }

/-- Calls to write that together are to take some bytes: those that are
taken, the outcomes not used, and how it ends. A call that is
interrupted is made again. -/
def writeAll (mayHang : Bool) : List WriteAct → List UInt8 → List UInt8 × List WriteAct × Delivery
  | [], bytes => (bytes, [], .delivered)
  | act :: acts, bytes =>
    match act with
    | .all => (bytes, acts, .delivered)
    | .some count =>
      if count = 0 then ([], acts, .failed Link.noProgressText)
      else if bytes.length ≤ count then (bytes, acts, .delivered)
      else
        let (taken, acts, ending) := writeAll mayHang acts (bytes.drop count)
        (bytes.take count ++ taken, acts, ending)
    | .fail f =>
      -- what was taken by earlier calls stays taken
      if f.isInterrupt then writeAll mayHang acts bytes else ([], acts, .failed f.text)
    | .block => if mayHang then ([], acts, .hanging bytes) else (bytes, acts, .delivered)

/-- Writes some bytes and flushes them. -/
def transmit (d : Device) (mayHang : Bool) (bytes : List UInt8) : Delivery × Device :=
  let (taken, writes, ending) := writeAll mayHang d.writes bytes
  let d := { d with writes }.take taken
  match ending with
  | .delivered => d.flush
  | .failed reason => (.failed reason, d)
  | .hanging rest => (.hanging rest, d)

/-- Lets go a write of which `rest` is not taken, and flushes. -/
def letGo (d : Device) (rest : List UInt8) : Delivery × Device := (d.take rest).flush

/-- A bound on the reads that what is queued allows. -/
def backlog (d : Device) : Nat :=
  d.inbound.foldl (fun n item => match item with
    | .bytes content => n + content.length + 1
    | .fault _ | .ending => n + 1) 0

end Device

end GcodeSender.Bench
