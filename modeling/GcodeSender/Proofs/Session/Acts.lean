import GcodeSender.Session.Step
import Mathlib.Data.List.Induction

/-!
# `GcodeSender.Proofs.Session.Acts`: a session as a list of acts

A session runs for long stretches between two steps of the operator. What its
threads do to each other meanwhile goes through very little: the slot, the claim,
whether the link takes lines, and the jobs. `Core` holds these, with what the journal
says of progress, of answers and of what could not be sent, and with the bytes on the
wire. An `Act` is one indivisible change of them, under the name of the call that makes
it. So an act that writes a line is no mere claim that it was written: the line's bytes
have to be on the wire.

An act says what it does (`Core.next`) and when it can happen (`Act.Possible`).
Both are made of the session's own operations: `Slot.offer`, `Job.move`,
`Job.sent` and so on. So an act splits into a part about the slot and a part about
one job, and the second part never looks beyond that job:

* `Core.next_job`: only the job that an act belongs to changes, by `Act.onJob`.
* `Core.Permits.job`: the acts of one job are a life of that job alone.
* `Core.Permits.invariant`: what every possible act preserves holds after all acts.

The operator and the reader act only while the threads of the jobs are at rest
(`Core.AtRest`). The threads are run to rest after every step, so nothing gets
between a job's announcement of a line and the line.
-/

set_option autoImplicit false

namespace GcodeSender

/-- The progress that a note reports. -/
def Note.progress? : Note → Option Job.Progress
  | .event (.progress p) => some p
  | .event (.status _ _) | .event (.position _) | .event (.log _) | .event (.error _ _) => none
  | .record _ => none

/-- The answer that a note reports. The reader logs every line that it receives, and
nothing else at this level begins like that. -/
def Note.answer? : Note → Option String
  | .event _ => none
  | .record r =>
    match r.level with
    | .trace =>
      let line := String.ofList (r.message.toList.drop 6)
      if r.message = "GRBL: " ++ line ∧ Session.isAnswer line = true then some line else none
    | .error | .warn | .info | .debug => none

/-- The words before what could not be sent. -/
def refusalWords : String := "[Not connected] Cannot send: "

/-- What a note reports as not sent, for want of a connection. -/
def Note.unsent? : Note → Option String
  | .event (.log text) =>
    let shown := String.ofList (text.toList.drop refusalWords.length)
    if text = refusalWords ++ shown then some shown else none
  | .event (.status _ _) | .event (.position _) | .event (.progress _) | .event (.error _ _) => none
  | .record _ => none

/-- The note reports neither progress nor an answer, nor that something was not sent. -/
structure Note.Quiet (n : Note) : Prop where
  progress : n.progress? = none
  answer : n.answer? = none
  unsent : n.unsent? = none

/-! ### Where a job's thread stands -/

namespace Job

/-- The line that the job's thread is writing. -/
def writing? (j : Job) : Option String :=
  match j.stage with
  | .hanging line _ => some line
  | _ => none

/-- The job's thread waits for another thread: for the operator, or for an answer. -/
def isStill (j : Job) : Bool :=
  match j.move with
  | .rest | .await => true
  | _ => false

/-- The job's thread cannot go on, given the slot it may wait at. -/
def rests (slot : Link.Slot) (j : Job) : Bool :=
  match j.move with
  | .rest => true
  | .await => slot.check?.isNone
  | _ => false

/-- The step that concerns the job alone, with the progress that it reports. -/
def own? (j : Job) : Option (Job × Option Progress) :=
  match j.move with
  | .own next notes => some (next, notes.findSome? Note.progress?)
  | _ => none

end Job

/-! ### Core and acts -/

/-- What the threads of a session meet at. -/
structure Core where
  slot : Link.Slot
  claimed : Bool
  /-- The link takes lines. -/
  online : Bool
  jobs : List Job
  /-- The progress reported by all jobs, oldest first. -/
  told : List Job.Progress
  /-- The answers received, oldest first. -/
  heard : List String
  /-- The bytes that the device has taken, oldest first. -/
  wire : List UInt8
  /-- What was to be sent while there was no connection, oldest first. -/
  unsent : List String
deriving DecidableEq

/-- The core of a session. -/
def Session.core (s : Session) : Core where
  slot := s.link.slot
  claimed := s.link.claimed
  online := s.link.canSend
  jobs := s.jobs
  told := s.journal.filterMap fun e => e.note.progress?
  heard := s.journal.filterMap fun e => e.note.answer?
  wire := s.device.wire
  unsent := s.journal.filterMap fun e => e.note.unsent?

/-- One indivisible change of a core. Jobs are named by their index. -/
inductive Act where
  /-- A connection is open. -/
  | opened
  /-- The link takes no more lines. -/
  | dropped
  /-- The connection is taken down. -/
  | closed
  /-- A write of the operator fails, and the connection is taken down. -/
  | broke (taken : List UInt8)
  /-- A line that answers a command has arrived. -/
  | heard (answer : String)
  /-- A line of the operator is counted and written. -/
  | noted (line : String)
  /-- A single-byte command is written. -/
  | signalled (command : Machine.Realtime)
  /-- Something of the operator's is not written, because the link takes nothing. -/
  | withheld (shown : String)
  | launched (i : Nat) (name : String) (program : Program)
  /-- A job that was started gets no thread. -/
  | abandoned (i : Nat)
  | paused (i : Nat)
  | resumed (i : Nat)
  | stopped (i : Nat)
  /-- A job announces that it wants the answer to its next line. -/
  | armed (i : Nat) (line : String)
  /-- A job's line is counted, and its write begins: all of it but `rest` is taken. -/
  | wrote (i : Nat) (line : String) (rest : List UInt8)
  /-- The rest of a job's line is taken. -/
  | yielded (i : Nat) (line : String) (rest : List UInt8)
  /-- A job's line is not taken, because the link takes none. -/
  | refused (i : Nat) (line : String)
  /-- The write of a job's line returns, perhaps with a failure. -/
  | returned (i : Nat) (line : String) (failure : Option LinkError)
  /-- A job's wait for the answer to its line ends. -/
  | took (i : Nat) (line : String) (outcome : Link.Outcome)
  /-- A job takes a step of its own, and may report progress. -/
  | moved (i : Nat) (progress : Option Job.Progress)
  | released (i : Nat)
  /-- Someone other than the jobs uses the slot or the claim. -/
  | meddled (slot : Link.Slot) (claimed : Bool)
deriving DecidableEq

namespace Act

/-- The job that an act belongs to. -/
def job? : Act → Option Nat
  | .opened | .dropped | .closed | .broke _ | .heard _ | .noted _ | .signalled _ | .withheld _
  | .meddled _ _ => none
  | .launched i _ _ | .abandoned i | .paused i | .resumed i | .stopped i | .armed i _
  | .wrote i _ _ | .yielded i _ _ | .refused i _ | .returned i _ _ | .took i _ _ | .moved i _
  | .released i => some i

/-- What an act does to its job. -/
def onJob (a : Act) (j : Job) : Job :=
  match a with
  | .launched _ name p => Job.launch name p
  | .abandoned _ => j.abandoned
  | .paused _ => j.pause.1
  | .resumed _ => j.resume.1
  | .stopped _ => j.requestStop.1
  | .armed _ _ => j.armed
  | .wrote _ line rest => { j with stage := .hanging line rest }
  | .yielded _ line _ => { j with stage := .hanging line [] }
  | .refused _ line => j.sent line (.error .notConnected)
  | .returned _ line none => j.sent line (.ok ())
  | .returned _ line (some e) => j.sent line (.error e)
  | .took _ _ outcome => j.answered outcome
  | .moved _ _ => (j.own?.map (·.1)).getD j
  | .released _ => j.released
  | .opened | .dropped | .closed | .broke _ | .heard _ | .noted _ | .signalled _ | .withheld _
  | .meddled _ _ => j

/-- What an act does to the slot. -/
def onSlot (a : Act) (s : Link.Slot) : Link.Slot :=
  match a with
  | .opened => s.reopen
  | .closed | .broke _ => s.close
  | .heard answer => (s.offer answer).2
  | .noted _ | .wrote _ _ _ => s.noteSent
  | .launched _ _ _ => s.resetCancel
  | .stopped _ => s.cancel
  | .armed _ _ => s.arm
  | .took _ _ _ => (s.check?.map (·.2)).getD s
  | .meddled slot _ => slot
  | .dropped | .signalled _ | .withheld _ | .abandoned _ | .paused _ | .resumed _
  | .yielded _ _ _ | .refused _ _ | .returned _ _ _ | .moved _ _ | .released _ => s

/-- What an act does to the claim. -/
def onClaim (a : Act) (claimed : Bool) : Bool :=
  match a with
  | .launched _ _ _ => true
  | .released _ | .abandoned _ => false
  | .meddled _ claimed => claimed
  | _ => claimed

/-- What an act does to the link's readiness. -/
def onLine (a : Act) (online : Bool) : Bool :=
  match a with
  | .opened => true
  | .dropped | .closed | .broke _ => false
  | _ => online

/-- The progress that an act reports. -/
def told : Act → List Job.Progress
  | .moved _ (some p) => [p]
  | _ => []

/-- The answer that arrives. -/
def answer? : Act → Option String
  | .heard answer => some answer
  | _ => none

/-- What is taken of a line while `rest` is not. -/
def part (line : String) (rest : List UInt8) : List UInt8 :=
  (Session.wireLine line).take ((Session.wireLine line).length - rest.length)

/-- The bytes that an act puts on the wire. -/
def bytes : Act → List UInt8
  | .noted line => Session.wireLine line
  | .signalled c => [c.byte]
  | .broke taken => taken
  | .wrote _ line rest => part line rest
  | .yielded _ _ rest => rest
  | _ => []

/-- What an act reports as not sent. -/
def unsent? : Act → Option String
  | .withheld shown => some shown
  | .refused _ line => some line
  | _ => none

/-- A line is written from its beginning. -/
theorem part_append {line : String} {rest : List UInt8} (h : rest <:+ Session.wireLine line) :
    part line rest ++ rest = Session.wireLine line := by
  obtain ⟨taken, htaken⟩ := h
  simp [part, ← htaken]

/-- Whether its job, where it stands, can do this. -/
def Fits (a : Act) (j : Job) : Prop :=
  match a with
  | .launched _ _ p => j.isActive = false ∧ p.lines ≠ []
  | .abandoned _ => j.stage = .deciding ∧ j.snapshot.state = .running ∧ j.snapshot.cursor = 0
  | .paused _ => j.snapshot.state = .running
  | .resumed _ => j.snapshot.state = .paused ∧ j.isStill = true
  | .stopped _ => j.isActive = true ∧ j.isStill = true
  | .armed _ line => j.stage = .arming line
  | .wrote _ line rest => j.stage = .sending line ∧ rest <:+ Session.wireLine line
  | .refused _ line => j.stage = .sending line
  | .yielded _ line rest => j.stage = .hanging line rest
  | .returned _ line none => j.stage = .hanging line []
  | .returned _ line (some _) => j.writing? = some line
  | .took _ line _ => j.stage = .awaiting line
  | .moved _ p => j.own?.map (·.2) = some p
  | .released _ => j.stage = .releasing
  | .opened | .dropped | .closed | .broke _ | .heard _ | .noted _ | .signalled _ | .withheld _
  | .meddled _ _ => True

/-- Someone other than the jobs interferes with the link's calls for jobs. -/
def isMeddling : Act → Bool
  | .meddled _ _ => true
  | _ => false

instance (a : Act) (j : Job) : Decidable (a.Fits j) :=
  match a with
  | .launched _ _ p => inferInstanceAs (Decidable (j.isActive = false ∧ p.lines ≠ []))
  | .abandoned _ => inferInstanceAs
      (Decidable (j.stage = .deciding ∧ j.snapshot.state = .running ∧ j.snapshot.cursor = 0))
  | .paused _ => inferInstanceAs (Decidable (j.snapshot.state = .running))
  | .resumed _ =>
    inferInstanceAs (Decidable (j.snapshot.state = .paused ∧ j.isStill = true))
  | .stopped _ => inferInstanceAs (Decidable (j.isActive = true ∧ j.isStill = true))
  | .armed _ line => inferInstanceAs (Decidable (j.stage = .arming line))
  | .wrote _ line rest =>
    inferInstanceAs (Decidable (j.stage = .sending line ∧ rest <:+ Session.wireLine line))
  | .refused _ line => inferInstanceAs (Decidable (j.stage = .sending line))
  | .yielded _ line rest => inferInstanceAs (Decidable (j.stage = .hanging line rest))
  | .returned _ line none => inferInstanceAs (Decidable (j.stage = .hanging line []))
  | .returned _ line (some _) => inferInstanceAs (Decidable (j.writing? = some line))
  | .took _ line _ => inferInstanceAs (Decidable (j.stage = .awaiting line))
  | .moved _ p => inferInstanceAs (Decidable (j.own?.map (·.2) = some p))
  | .released _ => inferInstanceAs (Decidable (j.stage = .releasing))
  | .opened | .dropped | .closed | .broke _ | .heard _ | .noted _ | .signalled _ | .withheld _
  | .meddled _ _ => inferInstanceAs (Decidable True)

/-- A write that returns was under way. -/
theorem Fits.writing? {j : Job} {i : Nat} {line : String} {failure : Option LinkError}
    (h : (Act.returned i line failure).Fits j) : j.writing? = some line := by
  cases failure with
  | none =>
    replace h : j.stage = .hanging line [] := h
    simp [Job.writing?, h]
  | some e => exact h

end Act

namespace Core

/-- The job with the given index. -/
def job (c : Core) (i : Nat) : Job := c.jobs.getD i {}

/-- No thread of a job can go on. -/
def AtRest (c : Core) : Prop := ∀ j ∈ c.jobs, j.rests c.slot = true

instance (c : Core) : Decidable c.AtRest :=
  inferInstanceAs (Decidable (∀ j ∈ c.jobs, j.rests c.slot = true))

/-- The core after an act. -/
def next (c : Core) (a : Act) : Core where
  slot := a.onSlot c.slot
  claimed := a.onClaim c.claimed
  online := a.onLine c.online
  jobs := match a.job? with
    | some i => c.jobs.set i (a.onJob (c.job i))
    | none => c.jobs
  told := c.told ++ a.told
  heard := c.heard ++ a.answer?.toList
  wire := c.wire ++ a.bytes
  unsent := c.unsent ++ a.unsent?.toList

/-- Whether the slot, the claim and the link allow an act. -/
def Allows (c : Core) : Act → Prop
  | .opened => c.AtRest
  | .heard answer => c.AtRest ∧ Session.isAnswer answer = true
  | .noted _ => c.AtRest ∧ c.online = true
  | .launched i _ _ => c.AtRest ∧ i < c.jobs.length ∧ c.claimed = false
  | .abandoned _ => c.claimed = true
  | .resumed _ | .stopped _ => c.AtRest
  | .wrote _ _ _ | .signalled _ | .broke _ => c.online = true
  | .withheld _ | .refused _ _ => c.online = false
  | .returned _ _ failure => failure = none ∨ c.online = false
  | .took _ _ outcome => c.slot.check?.map (·.1) = some outcome
  | .dropped | .closed | .paused _ | .armed _ _ | .yielded _ _ _ | .moved _ _ | .released _
  | .meddled _ _ => True

instance (c : Core) (a : Act) : Decidable (c.Allows a) :=
  match a with
  | .opened | .resumed _ | .stopped _ => inferInstanceAs (Decidable c.AtRest)
  | .heard answer => inferInstanceAs (Decidable (c.AtRest ∧ Session.isAnswer answer = true))
  | .noted _ => inferInstanceAs (Decidable (c.AtRest ∧ c.online = true))
  | .launched i _ _ =>
    inferInstanceAs (Decidable (c.AtRest ∧ i < c.jobs.length ∧ c.claimed = false))
  | .abandoned _ => inferInstanceAs (Decidable (c.claimed = true))
  | .wrote _ _ _ | .signalled _ | .broke _ => inferInstanceAs (Decidable (c.online = true))
  | .withheld _ | .refused _ _ => inferInstanceAs (Decidable (c.online = false))
  | .returned _ _ failure => inferInstanceAs (Decidable (failure = none ∨ c.online = false))
  | .took _ _ outcome =>
    inferInstanceAs (Decidable (c.slot.check?.map (·.1) = some outcome))
  | .dropped | .closed | .paused _ | .armed _ _ | .yielded _ _ _ | .moved _ _ | .released _
  | .meddled _ _ => inferInstanceAs (Decidable True)

end Core

/-- Whether an act can happen. -/
def Act.Possible (c : Core) (a : Act) : Prop :=
  c.Allows a ∧ ∀ i ∈ a.job?, a.Fits (c.job i)

instance (c : Core) (a : Act) : Decidable (a.Possible c) :=
  inferInstanceAs (Decidable (c.Allows a ∧ ∀ i ∈ a.job?, a.Fits (c.job i)))

/-- An act that belongs to no job is possible when the link allows it. -/
theorem Act.possible_of_no_job {c : Core} {a : Act} (hi : a.job? = none) (h : c.Allows a) :
    a.Possible c :=
  ⟨h, by simp [hi]⟩

/-- An act of a job is possible when the link allows it and the job stands where it
fits. -/
theorem Act.possible_of_job {c : Core} {a : Act} {i : Nat} (hi : a.job? = some i)
    (h : c.Allows a) (hfits : a.Fits (c.job i)) : a.Possible c := by
  refine ⟨h, fun k hk => ?_⟩
  obtain rfl : i = k := by simpa [hi] using hk
  exact hfits

namespace Core

/-! The acts that belong to no job leave the jobs alone. -/

/-- An act that belongs to no job and reports nothing changes the slot, the claim and the link
at most. -/
theorem next_of_no_job {a : Act} (c : Core) (hi : a.job? = none) (htold : a.told = [])
    (hanswer : a.answer? = none) (hbytes : a.bytes = []) (hunsent : a.unsent? = none) :
    c.next a =
      { c with
        slot := a.onSlot c.slot
        claimed := a.onClaim c.claimed
        online := a.onLine c.online } := by
  simp [next, hi, htold, hanswer, hbytes, hunsent]

/-- A new connection takes lines, and the slot is open again. -/
theorem next_opened (c : Core) :
    c.next .opened = { c with slot := c.slot.reopen, online := true } :=
  next_of_no_job c rfl rfl rfl rfl rfl

/-- A connection that is lost takes no more lines. -/
theorem next_dropped (c : Core) : c.next .dropped = { c with online := false } :=
  next_of_no_job c rfl rfl rfl rfl rfl

/-- A connection that is taken down closes the slot. -/
theorem next_closed (c : Core) :
    c.next .closed = { c with slot := c.slot.close, online := false } :=
  next_of_no_job c rfl rfl rfl rfl rfl

/-- Someone else's use of the slot and the claim touches nothing but these. -/
theorem next_meddled (c : Core) (slot : Link.Slot) (claimed : Bool) :
    c.next (.meddled slot claimed) = { c with slot, claimed } :=
  next_of_no_job c rfl rfl rfl rfl rfl

/-- A failing write takes the connection down, and leaves on the wire what it put there. -/
theorem next_broke (c : Core) (taken : List UInt8) :
    c.next (.broke taken) =
      { c with slot := c.slot.close, online := false, wire := c.wire ++ taken } := by
  have hnext : c.next (.broke taken) =
      { c with
        slot := c.slot.close
        online := false
        told := c.told ++ []
        heard := c.heard ++ []
        wire := c.wire ++ taken
        unsent := c.unsent ++ [] } := rfl
  simpa only [List.append_nil] using hnext

/-- An answer that arrives is offered to the slot. -/
theorem next_heard (c : Core) (answer : String) :
    c.next (.heard answer) =
      { c with slot := (c.slot.offer answer).2, heard := c.heard ++ [answer] } := by
  have hnext : c.next (.heard answer) =
      { c with
        slot := (c.slot.offer answer).2
        told := c.told ++ []
        heard := c.heard ++ [answer]
        wire := c.wire ++ []
        unsent := c.unsent ++ [] } := rfl
  simpa only [List.append_nil] using hnext

/-- A line of the operator is counted, and is on the wire. -/
theorem next_noted (c : Core) (line : String) :
    c.next (.noted line) =
      { c with slot := c.slot.noteSent, wire := c.wire ++ Session.wireLine line } := by
  have hnext : c.next (.noted line) =
      { c with
        slot := c.slot.noteSent
        told := c.told ++ []
        heard := c.heard ++ []
        wire := c.wire ++ Session.wireLine line
        unsent := c.unsent ++ [] } := rfl
  simpa only [List.append_nil] using hnext

/-- A single-byte command is on the wire, and is not counted. -/
theorem next_signalled (c : Core) (command : Machine.Realtime) :
    c.next (.signalled command) = { c with wire := c.wire ++ [command.byte] } := by
  have hnext : c.next (.signalled command) =
      { c with
        told := c.told ++ []
        heard := c.heard ++ []
        wire := c.wire ++ [command.byte]
        unsent := c.unsent ++ [] } := rfl
  simpa only [List.append_nil] using hnext

/-- What is held back goes nowhere but on record. -/
theorem next_withheld (c : Core) (shown : String) :
    c.next (.withheld shown) = { c with unsent := c.unsent ++ [shown] } := by
  have hnext : c.next (.withheld shown) =
      { c with
        told := c.told ++ []
        heard := c.heard ++ []
        wire := c.wire ++ []
        unsent := c.unsent ++ [shown] } := rfl
  simpa only [List.append_nil] using hnext

/-- An act of a job that reports no progress changes that job, and the slot, the claim, the
link and the wire as it says. -/
theorem next_of_job {a : Act} {i : Nat} (c : Core) (hi : a.job? = some i)
    (htold : a.told = []) :
    c.next a =
      { slot := a.onSlot c.slot
        claimed := a.onClaim c.claimed
        online := a.onLine c.online
        jobs := c.jobs.set i (a.onJob (c.job i))
        told := c.told
        heard := c.heard
        wire := c.wire ++ a.bytes
        unsent := c.unsent ++ a.unsent?.toList } := by
  have hanswer : a.answer? = none := by
    cases a with
    | heard => cases hi
    | _ => rfl
  simp [next, hi, htold, hanswer]

/-- So the wire stays as it is if the act puts nothing there, and likewise what was not
sent. -/
theorem next_of_silent {a : Act} {i : Nat} (c : Core) (hi : a.job? = some i)
    (htold : a.told = []) (hbytes : a.bytes = []) (hunsent : a.unsent? = none) :
    c.next a =
      { c with
        slot := a.onSlot c.slot
        claimed := a.onClaim c.claimed
        online := a.onLine c.online
        jobs := c.jobs.set i (a.onJob (c.job i)) } := by
  simp [next_of_job c hi htold, hbytes, hunsent]

/-- Each of the acts can happen when its turn comes. -/
def Permits (c : Core) : List Act → Prop
  | [] => True
  | a :: acts => a.Possible c ∧ (c.next a).Permits acts

instance decidablePermits : (c : Core) → (acts : List Act) → Decidable (c.Permits acts)
  | _, [] => inferInstanceAs (Decidable True)
  | c, a :: acts =>
    haveI := decidablePermits (c.next a) acts
    inferInstanceAs (Decidable (a.Possible c ∧ (c.next a).Permits acts))

/-- The core after several acts. -/
def after (c : Core) (acts : List Act) : Core := acts.foldl next c

/-- Without acts the core is as it was. -/
@[simp] theorem after_nil (c : Core) : c.after [] = c := rfl

/-- Later acts find the core as the earlier ones have left it. -/
theorem after_append (c : Core) (acts more : List Act) :
    c.after (acts ++ more) = (c.after acts).after more := List.foldl_append ..

/-- Acts are permitted if the first are, and the others after them. -/
theorem permits_append {c : Core} {acts more : List Act} :
    c.Permits (acts ++ more) ↔ c.Permits acts ∧ (c.after acts).Permits more := by
  induction acts generalizing c with
  | nil => simp [Permits]
  | cons a acts ih =>
    rw [List.cons_append, Permits, Permits, ih, and_assoc]
    rfl

/-- What the start has and every possible act of a kind preserves, holds after all acts
of that kind. The property may look at the acts so far. -/
theorem Permits.invariant {c : Core} {K : Act → Prop} {P : List Act → Core → Prop}
    (start : P [] c)
    (step : ∀ acts a, c.Permits acts → (∀ b ∈ acts, K b) → a.Possible (c.after acts) → K a →
      P acts (c.after acts) → P (acts ++ [a]) ((c.after acts).next a))
    {acts : List Act} (h : c.Permits acts) (hK : ∀ a ∈ acts, K a) : P acts (c.after acts) := by
  -- on the end of the acts: an act is judged by what came before it
  induction acts using List.reverseRecOn with
  | nil => exact start
  | append_singleton acts a ih =>
    obtain ⟨hacts, ha, -⟩ := permits_append.mp h
    have hbefore : ∀ b ∈ acts, K b := fun b hb => hK b (List.mem_append_left _ hb)
    rw [after_append]
    exact step acts a hacts hbefore ha (hK a (by simp)) (ih hacts hbefore)

/-- The progress that was told is what the acts told. -/
theorem told_after (c : Core) (acts : List Act) :
    (c.after acts).told = c.told ++ acts.flatMap Act.told := by
  induction acts generalizing c with
  | nil => simp
  | cons a acts ih =>
    rw [List.flatMap_cons, ← List.append_assoc]
    exact ih (c.next a)

/-- The answers received are those that the acts brought. -/
theorem heard_after (c : Core) (acts : List Act) :
    (c.after acts).heard = c.heard ++ acts.filterMap Act.answer? := by
  induction acts generalizing c with
  | nil => simp
  | cons a acts ih =>
    have hnext : (c.next a).heard = c.heard ++ [a].filterMap Act.answer? := by
      cases a <;> rfl
    rw [← List.singleton_append, List.filterMap_append, ← List.append_assoc, ← hnext]
    exact ih (c.next a)

/-- The bytes on the wire are those that the acts put there. -/
theorem wire_after (c : Core) (acts : List Act) :
    (c.after acts).wire = c.wire ++ acts.flatMap Act.bytes := by
  induction acts generalizing c with
  | nil => simp
  | cons a acts ih =>
    rw [List.flatMap_cons, ← List.append_assoc]
    exact ih (c.next a)

/-- What was not sent is what the acts held back. -/
theorem unsent_after (c : Core) (acts : List Act) :
    (c.after acts).unsent = c.unsent ++ acts.filterMap Act.unsent? := by
  induction acts generalizing c with
  | nil => simp
  | cons a acts ih =>
    have hnext : (c.next a).unsent = c.unsent ++ [a].filterMap Act.unsent? := by
      cases a <;> rfl
    rw [← List.singleton_append, List.filterMap_append, ← List.append_assoc, ← hnext]
    exact ih (c.next a)

/-- Every act of a history is possible where it stands. -/
theorem Permits.possible {c : Core} {before later : List Act} {a : Act}
    (h : c.Permits (before ++ a :: later)) : c.Permits before ∧ a.Possible (c.after before) :=
  have ⟨hbefore, ha, _⟩ := permits_append.mp h
  ⟨hbefore, ha⟩

end Core

/-! ### The life of one job -/

/-- A job that has not been started fits no act but its start. -/
theorem Act.not_fits_default {a : Act} {i : Nat} (hi : a.job? = some i)
    (h : a.Fits ({} : Job)) : ∃ name p, a = .launched i name p := by
  cases a with
  | launched k name p => exact ⟨name, p, by simpa [Act.job?] using hi⟩
  | moved k p => exact absurd h (by simp [Act.Fits, Job.own?, Job.move])
  | returned k line failure => exact absurd h.writing? (by simp [Job.writing?])
  | _ => simp_all [Act.job?, Act.Fits, Job.isActive, Job.Snapshot.isActive,
      Job.RunState.isActive]

/-- An act of a job is possible only if the job exists. -/
theorem Act.Possible.lt {c : Core} {a : Act} {i : Nat} (h : a.Possible c)
    (hi : a.job? = some i) : i < c.jobs.length := by
  -- an index beyond the jobs reads as a job that was never started, and that fits only a
  -- start, which asks for the index to be one of a job
  refine Nat.lt_of_not_le fun hle => ?_
  have hfit := h.2 i hi
  have hjob : c.job i = {} := by simp [Core.job, List.getElem?_eq_none hle]
  rw [hjob] at hfit
  obtain ⟨name, p, rfl⟩ := Act.not_fits_default hi hfit
  have := h.1.2.1
  omega

namespace Core

/-- A job changes by its own acts. -/
theorem next_job_self {c : Core} {a : Act} {i : Nat} (h : a.Possible c)
    (hi : a.job? = some i) : (c.next a).job i = a.onJob (c.job i) := by
  simp [job, next, hi, h.lt hi]

/-- A job does not change by those of others. -/
theorem next_job_of_ne {c : Core} {a : Act} {i : Nat} (hi : a.job? ≠ some i) :
    (c.next a).job i = c.job i := by
  unfold job next
  split
  · rename_i k hk
    have : k ≠ i := fun h => hi (h ▸ hk)
    simp [this]
  · rfl

/-- Only the job that an act belongs to changes. -/
theorem next_job {c : Core} {a : Act} (h : a.Possible c) (i : Nat) :
    (c.next a).job i = if a.job? = some i then a.onJob (c.job i) else c.job i := by
  split
  · exact next_job_self h ‹_›
  · exact next_job_of_ne ‹_›

/-- No act adds a job or takes one away. -/
@[simp] theorem length_next_jobs (c : Core) (a : Act) :
    (c.next a).jobs.length = c.jobs.length := by
  unfold next
  split <;> simp

/-- There are as many jobs as at first. -/
theorem length_after_jobs (c : Core) (acts : List Act) :
    (c.after acts).jobs.length = c.jobs.length := by
  induction acts generalizing c with
  | nil => rfl
  | cons a acts ih => exact (ih (c.next a)).trans (length_next_jobs c a)

/-- An index that names no job reads as a job that was never started. -/
theorem job_mem_or_default (c : Core) (i : Nat) : c.job i ∈ c.jobs ∨ c.job i = {} := by
  by_cases h : i < c.jobs.length
  · exact .inl (by simp [job, h])
  · exact .inr (by simp [job, List.getElem?_eq_none (Nat.le_of_not_lt h)])

/-- Where the core rests, each of its jobs does. -/
theorem AtRest.job {c : Core} (h : c.AtRest) (i : Nat) : (c.job i).rests c.slot = true := by
  rcases c.job_mem_or_default i with hi | hi
  · exact h _ hi
  · rw [hi]; rfl

end Core

/-- The acts of one job. -/
def Act.deeds (i : Nat) (acts : List Act) : List Act := acts.filter fun a => a.job? == some i

namespace Job

/-- The acts fit the job, each where it stands then. -/
def Lives (j : Job) : List Act → Prop
  | [] => True
  | a :: acts => a.Fits j ∧ (a.onJob j).Lives acts

/-- The job after several acts of its own. -/
def after (j : Job) (acts : List Act) : Job := acts.foldl (fun j a => a.onJob j) j

/-- Without acts the job is as it was. -/
@[simp] theorem after_nil (j : Job) : j.after [] = j := rfl

/-- Later acts find the job as the earlier ones have left it. -/
theorem after_append (j : Job) (acts more : List Act) :
    j.after (acts ++ more) = (j.after acts).after more := List.foldl_append ..

/-- A job lives through acts if it does so through the first, and then through the others. -/
theorem lives_append {j : Job} {acts more : List Act} :
    j.Lives (acts ++ more) ↔ j.Lives acts ∧ (j.after acts).Lives more := by
  induction acts generalizing j with
  | nil => simp [Lives]
  | cons a acts ih =>
    rw [List.cons_append, Lives, Lives, ih, and_assoc]
    rfl

/-- What the start has and every fitting act preserves, holds throughout a job's
life. -/
theorem Lives.invariant {j : Job} {P : List Act → Job → Prop} (start : P [] j)
    (step : ∀ acts a, a.Fits (j.after acts) → P acts (j.after acts) →
      P (acts ++ [a]) (a.onJob (j.after acts)))
    {acts : List Act} (h : j.Lives acts) : P acts (j.after acts) := by
  induction acts using List.reverseRecOn with
  | nil => exact start
  | append_singleton acts a ih =>
    obtain ⟨hacts, ha, -⟩ := lives_append.mp h
    rw [after_append]
    exact step acts a ha (ih hacts)

end Job

namespace Core

/-- The acts of one job are a life of that job, and lead it to where it stands. -/
theorem Permits.job {c : Core} {acts : List Act} (h : c.Permits acts) (i : Nat) :
    (c.job i).Lives (Act.deeds i acts) ∧
      (c.after acts).job i = (c.job i).after (Act.deeds i acts) := by
  induction acts generalizing c with
  | nil => exact ⟨trivial, rfl⟩
  | cons a acts ih =>
    obtain ⟨hlives, hjob⟩ := ih h.2
    -- the acts of other jobs drop out of the life of this one, and leave it as it is
    rw [next_job h.1 i] at hlives hjob
    by_cases hi : a.job? = some i
    · simp only [hi, if_true] at hlives hjob
      have hdeeds : Act.deeds i (a :: acts) = a :: Act.deeds i acts := by simp [Act.deeds, hi]
      rw [hdeeds]
      exact ⟨⟨h.1.2 i hi, hlives⟩, hjob⟩
    · simp only [hi, if_false] at hlives hjob
      have hdeeds : Act.deeds i (a :: acts) = Act.deeds i acts := by simp [Act.deeds, hi]
      rw [hdeeds]
      exact ⟨hlives, hjob⟩

end Core

end GcodeSender
