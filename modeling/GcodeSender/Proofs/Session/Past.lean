import GcodeSender.Proofs.Link.Slot
import GcodeSender.Proofs.Session.Turns

/-!
# `GcodeSender.Proofs.Session.Past`: what a session has behind it

A session that goes on does not look back: at what was reported before, at what the
device was given before, at jobs that are over, or at whether their waits were called
off. `Session.withPast` puts such a past behind a session that has none, and every
operation of a session commutes with it.

Two facts make this an argument and not a matter of unfolding. A job that was never
started has no thread (`Core.IsPlain`), so an old job in its place has none to miss. And
the flag that calls waits off is read only by a thread that waits, which belongs to a job
whose start has reset it; until such a start the flag belongs to the past
(`Session.isUntouched`).

* `*_withPast`: an operation commutes with the past, one lemma an operation.
* `settle_withPast`: so does running to rest, whose bound the past may raise.
-/

set_option autoImplicit false

namespace GcodeSender

/-! ### The device -/

namespace Bench

namespace Device

/-- What the device remembers. -/
def log (d : Device) : Log := ⟨d.bauds, d.wire, d.lines, d.commands⟩

/-- The device without what it remembers. -/
def forget (d : Device) : Device := { d with bauds := [], wire := [], lines := [], commands := [] }

/-- The device with something that it was given earlier. -/
def withLog (d : Device) (g : Log) : Device := d.following { toLog := g }

variable (d : Device) (g : Log)

/-- A device is what it is without its past, with its past. -/
theorem forget_withLog : d.forget.withLog d.log = d := by simp [forget, withLog, following, log]

/-! The calls around a connection do not look at it either. -/

/-- A device opens a port, whatever has been written to it before. -/
theorem connect_withLog (port : String) (baud : UInt32) :
    (d.withLog g).connect port baud =
      ((d.connect port baud).1, (d.connect port baud).2.withLog g) := by
  simp only [connect, withLog, following]
  split <;> simp

/-- It lets go what it has sent in the same way. -/
theorem discard_withLog :
    (d.withLog g).discard = (d.discard.1, d.discard.2.withLog g) := by
  simp only [discard, withLog, following]
  split <;> simp

/-- It gives a reader in the same way. -/
theorem clone_withLog : (d.withLog g).clone = (d.clone.1, d.clone.2.withLog g) := by
  simp only [clone, withLog, following]
  split <;> simp

/-- The host gives threads in the same way. -/
theorem spawn_withLog : (d.withLog g).spawn = (d.spawn.1, d.spawn.2.withLog g) := by
  simp only [spawn, withLog, following]
  split <;> simp

/-- A change of the device that does not look at what it remembers. -/
def IsBlind (change : Device → Device) : Prop :=
  ∀ (d : Device) (g : Log), change (d.withLog g) = (change d).withLog g

/-- Such a change is made behind what the device remembers. -/
theorem adjust_withLog {change : Device → Device} (h : IsBlind change) (d : Device) (g : Log) :
    (d.withLog g).adjust change = (d.adjust change).withLog g := by
  rw [adjust, h d g]
  rfl

end Device

end Bench

/-! ### The session -/

/-- What a session has behind it: reports, what the device was given, a job in each place
that is over and has no thread, and whether waits were called off. -/
structure Past where
  journal : List Entry
  log : Bench.Device.Log
  job : Nat → Job
  cancelled : Bool
  ended : ∀ i, (job i).isActive = false ∧ (job i).stage = .gone

/-- A job, or what was there before if it was never started. -/
def Job.orOld (j old : Job) : Job := if j.snapshot.state = .idle then old else j

/-- The link with the given word on whether waits are called off. -/
def Link.withCancelled (l : Link) (cancelled : Bool) : Link :=
  { l with slot.cancelled := cancelled }

namespace Session

/-- No job was started. -/
def isUntouched (s : Session) : Bool := s.jobs.all fun j => j.snapshot.state = .idle

/-- Whether waits are called off: until a job is started, that is a matter of the past. -/
def calledOff (s : Session) (p : Past) : Bool :=
  if s.isUntouched then p.cancelled else s.link.slot.cancelled

/-- A session with a past. -/
def withPast (s : Session) (p : Past) : Session where
  link := s.link.withCancelled (s.calledOff p)
  device := s.device.withLog p.log
  jobs := s.jobs.mapIdx fun i j => j.orOld (p.job i)
  rules := s.rules
  journal := p.journal ++ s.journal

variable (s : Session) (p : Past) (t : Thread)

/-- Sessions are the same if each of their fields is. -/
theorem eq_of_fields {s s' : Session} (hlink : s.link = s'.link) (hdevice : s.device = s'.device)
    (hjobs : s.jobs = s'.jobs) (hrules : s.rules = s'.rules) (hjournal : s.journal = s'.journal) :
    s = s' := by
  cases s
  cases s'
  simp_all

/-! What the past does not show in. -/

/-- The state of the connection is of the present. -/
@[simp] theorem state_withPast : (s.withPast p).link.state = s.link.state := rfl
/-- So is the port. -/
@[simp] theorem port_withPast : (s.withPast p).link.port = s.link.port := rfl
/-- So is whether the link is taken. -/
@[simp] theorem claimed_withPast : (s.withPast p).link.claimed = s.link.claimed := rfl
/-- So is the reader. -/
@[simp] theorem reader_withPast : (s.withPast p).link.reader = s.link.reader := rfl
/-- So is the name of the port in messages. -/
@[simp] theorem label_withPast : (s.withPast p).link.label = s.link.label := rfl
/-- So is whether lines can be sent. -/
@[simp] theorem canSend_withPast : (s.withPast p).link.canSend = s.link.canSend := rfl
/-- So are the words with which the connection ends. -/
@[simp] theorem farewell_withPast : (s.withPast p).farewell = s.farewell := rfl
/-- So are the observer's rules. -/
@[simp] theorem rules_withPast : (s.withPast p).rules = s.rules := rfl
/-- So is what waits to be read. -/
@[simp] theorem inbound_withPast : (s.withPast p).device.inbound = s.device.inbound := rfl
/-- So is how much of it there is. -/
@[simp] theorem backlog_withPast : (s.withPast p).device.backlog = s.device.backlog := rfl
/-- There are as many jobs with another past. -/
@[simp] theorem length_withPast : (s.withPast p).jobs.length = s.jobs.length := by simp [withPast]

/-- A job that was not started since is the one of the past. -/
theorem job_withPast (i : Nat) (hi : i < s.jobs.length) :
    (s.withPast p).job i = (s.job i).orOld (p.job i) := by
  simp [job, withPast, hi]

/-- A job that was started exists. -/
theorem lt_of_started {i : Nat} (h : (s.job i).snapshot.state ≠ .idle) : i < s.jobs.length := by
  refine Nat.lt_of_not_le fun hle => h ?_
  simp [job, List.getElem?_eq_none hle]

/-- A job that was started hides what was in its place. -/
theorem job_withPast_of_started {i : Nat} (h : (s.job i).snapshot.state ≠ .idle) :
    (s.withPast p).job i = s.job i := by
  rw [s.job_withPast p i (s.lt_of_started h), Job.orOld, if_neg h]

/-! ### Reporting -/

/-- A note comes after all that was told before. -/
@[simp] theorem tell_withPast (n : Note) : (s.withPast p).tell t n = (s.tell t n).withPast p := by
  simp [tell, withPast, calledOff, isUntouched]

/-- So does a line in the log. -/
@[simp] theorem log_withPast (level : Log.Level) (message : String) :
    (s.withPast p).log t level message = (s.log t level message).withPast p :=
  s.tell_withPast p t _

/-- So does an event. -/
@[simp] theorem emit_withPast (e : Event) : (s.withPast p).emit t e = (s.emit t e).withPast p :=
  s.tell_withPast p t _

/-- So do any number of notes. -/
theorem foldl_tell_withPast (notes : List Note) :
    notes.foldl (fun s n => s.tell t n) (s.withPast p) =
      (notes.foldl (fun s n => s.tell t n) s).withPast p := by
  induction notes generalizing s with
  | nil => rfl
  | cons n notes ih => rw [List.foldl_cons, List.foldl_cons, tell_withPast, ih]

/-! ### The connection -/

/-- The state changes alike, whatever the past. -/
@[simp] theorem become_withPast (next : Link.ConnectionState) :
    (s.withPast p).become t next = (s.become t next).withPast p := by
  -- either line of the log is told alike, with the state put in place afterwards
  have hlog : ∀ (level : Log.Level) (message : String),
      { (s.withPast p).log t level message with
        link := { ((s.withPast p).log t level message).link with state := next } } =
      ({ s.log t level message with
        link := { (s.log t level message).link with state := next } } : Session).withPast p := by
    intro level message
    rw [log_withPast]
    rfl
  unfold become
  rw [state_withPast]
  cases s.link.state.mayBecome next with
  | true => exact hlog _ _
  | false => exact hlog _ _

/-- The reader ends alike. -/
@[simp] theorem endReader_withPast : (s.withPast p).endReader = s.endReader.withPast p :=
  log_withPast { s with link := { s.link with reader := none } } p .reader _ _

/-- It is stopped alike. -/
@[simp] theorem stopReader_withPast :
    (s.withPast p).stopReader t = (s.stopReader t).withPast p := by
  simp only [stopReader, reader_withPast]
  split
  · rfl
  · rename_i r _
    split
    · rfl
    · split
      · exact log_withPast { s with link.reader := some { r with stopping := true } } p t _ _
      · exact s.endReader_withPast p

/-- The end of a connection is reported alike, if its report is. -/
theorem becomeDisconnected_withPast {report : Session → Session}
    (hreport : ∀ s : Session, report (s.withPast p) = (report s).withPast p) :
    (s.withPast p).becomeDisconnected t report = (s.becomeDisconnected t report).withPast p := by
  simp only [becomeDisconnected, state_withPast, become_withPast]
  split
  · rfl
  · exact hreport _

/-- Dropping the transport leaves it open whether waits are called off. -/
theorem shut_withPast :
    { s.withPast p with link := (s.withPast p).link.shut } =
      ({ s with link := s.link.shut } : Session).withPast p := rfl

/-- So the connection is taken down alike. -/
@[simp] theorem teardown_withPast : (s.withPast p).teardown t = (s.teardown t).withPast p := by
  simp only [teardown, stopReader_withPast, shut_withPast]
  exact becomeDisconnected_withPast _ p t fun s => by simp

/-- A status is told alike, and the observer does alike. -/
@[simp] theorem reportStatus_withPast (state raw : String) :
    (s.withPast p).reportStatus t state raw = (s.reportStatus t state raw).withPast p := by
  simp only [reportStatus, emit_withPast, rules_withPast]
  split
  · exact teardown_withPast
      { s.emit t (.status state raw) with
        rules := (s.emit t (.status state raw)).rules.erase (.disconnectOn state t) } p t
  · rfl

/-! ### Reading -/

/-- A field that cannot be read is told alike. -/
@[simp] theorem reportFieldError_withPast (e : Machine.FieldError) :
    (s.withPast p).reportFieldError e = (s.reportFieldError e).withPast p := by
  simp only [reportFieldError, log_withPast, emit_withPast]

/-- So are any number of them. -/
theorem foldl_reportFieldError_withPast (errors : List Machine.FieldError) :
    errors.foldl reportFieldError (s.withPast p) =
      (errors.foldl reportFieldError s).withPast p := by
  induction errors generalizing s with
  | nil => rfl
  | cons e errors ih => rw [List.foldl_cons, List.foldl_cons, reportFieldError_withPast, ih]

/-- A report is handled alike. -/
@[simp] theorem handleReport_withPast (r : Machine.StatusReport) :
    (s.withPast p).handleReport r = (s.handleReport r).withPast p := by
  have hcache : { s.withPast p with
        link.status := some r.status
        link.position := r.workPosition.or (s.withPast p).link.position } =
      ({ s with
        link.status := some r.status
        link.position := r.workPosition.or s.link.position } : Session).withPast p := rfl
  simp only [handleReport, hcache, reportStatus_withPast]
  cases r.workPosition with
  | none => exact foldl_reportFieldError_withPast _ p r.fieldErrors
  | some position =>
    simp only [emit_withPast]
    exact foldl_reportFieldError_withPast _ p r.fieldErrors

/-- A slot that is offered an answer does not ask whether waits are called off. -/
theorem offer_withCancelled (slot : Link.Slot) (cancelled : Bool) (line : String) :
    ({ slot with cancelled } : Link.Slot).offer line =
      ((slot.offer line).1, { (slot.offer line).2 with cancelled }) := by
  -- none of the three ways in which an answer can be passed over or kept looks at the flag
  unfold Link.Slot.offer
  by_cases hidle : (!slot.armed || slot.response.isSome) = true
  · simp [Link.Slot.credit, hidle]
  · by_cases hskip : 0 < slot.skip
    · simp [Link.Slot.credit, hidle, hskip]
    · simp [Link.Slot.credit, hidle, hskip]

/-- What is done to the slot leaves the past as it is, if it leaves open whether waits are
called off. -/
theorem slot_withPast {slot slot' : Link.Slot}
    (hslot' : slot' = { slot with cancelled := (s.withPast p).link.slot.cancelled })
    (hslot : slot.cancelled = s.link.slot.cancelled) :
    { s.withPast p with link.slot := slot' } =
      ({ s with link.slot := slot } : Session).withPast p := by
  subst hslot'
  simp only [withPast, calledOff, isUntouched, Link.withCancelled, hslot]
  rfl

/-- An answer goes to the slot alike, also where waits were called off. -/
@[simp] theorem handleAnswer_withPast (line : String) :
    (s.withPast p).handleAnswer line = (s.handleAnswer line).withPast p := by
  have hoffer : (s.withPast p).link.slot.offer line =
      ((s.link.slot.offer line).1, { (s.link.slot.offer line).2 with
        cancelled := (s.withPast p).link.slot.cancelled }) := offer_withCancelled s.link.slot _ line
  -- and an answer leaves the flag as it is
  have hcancelled := (s.link.slot.offer_cases line).2.2.1
  simp only [handleAnswer, hoffer]
  rw [s.slot_withPast p rfl hcancelled]
  split
  · rfl
  · exact log_withPast _ p .reader _ _

/-- So any line is handled alike. -/
@[simp] theorem handleText_withPast (line : String) :
    (s.withPast p).handleText line = (s.handleText line).withPast p := by
  simp only [handleText, log_withPast, emit_withPast]
  split
  · exact handleReport_withPast _ p _
  · split
    · exact handleAnswer_withPast _ p _
    · rfl

/-- So are bytes that cannot be decoded. -/
@[simp] theorem handleLine_withPast (bytes : List UInt8) :
    (s.withPast p).handleLine bytes = (s.handleLine bytes).withPast p := by
  simp only [handleLine]
  split
  · split
    · rfl
    · exact handleText_withPast s p _
  · simp only [log_withPast, emit_withPast]

/-- A fault is told alike. -/
@[simp] theorem reportFault_withPast (reason : String) :
    (s.withPast p).reportFault reason = (s.reportFault reason).withPast p := by
  simp only [reportFault, label_withPast, log_withPast, emit_withPast, reportStatus_withPast,
    become_withPast]

/-- The slot is closed alike after it. -/
@[simp] theorem closeAfterFault_withPast :
    (s.withPast p).closeAfterFault = s.closeAfterFault.withPast p := by
  simp only [closeAfterFault, shut_withPast]
  rw [becomeDisconnected_withPast _ p .reader fun s => by
    simp only [farewell_withPast, reportStatus_withPast]]
  exact endReader_withPast _ p

/-- The reader goes on or ends alike. -/
@[simp] theorem endIfStopping_withPast :
    (s.withPast p).endIfStopping = s.endIfStopping.withPast p := by
  simp only [endIfStopping, reader_withPast]
  split
  · split
    · exact s.endReader_withPast p
    · rfl
  · rfl

/-- A line is completed alike. -/
@[simp] theorem completeLine_withPast (r : Link.Reader) (chunk : List UInt8) :
    (s.withPast p).completeLine r chunk = (s.completeLine r chunk).withPast p := by
  have hreader : { s.withPast p with
        link.reader := some { r with pending := [], fresh := false } } =
      ({ s with link.reader := some { r with pending := [], fresh := false } } : Session).withPast
        p := rfl
  simp only [completeLine, hreader, handleLine_withPast, endIfStopping_withPast]

/-- A read times out alike. -/
@[simp] theorem timeOut_withPast : (s.withPast p).timeOut = s.timeOut.withPast p := by
  simp only [timeOut, reader_withPast]
  split <;> rfl

end Session

/-! ### Jobs that were never started -/

/-- A job that was never started has no thread and nothing to show, and each job has a
record that it keeps in order. -/
structure Core.IsPlain (c : Core) : Prop where
  sound : c.Sound
  blank : ∀ i, (c.job i).snapshot.state = .idle → c.job i = {}

/-- No act but a start concerns a job that was never started. -/
theorem Core.IsPlain.next {c : Core} (h : c.IsPlain) {a : Act} (ha : a.Possible c) :
    (c.next a).IsPlain where
  sound := (Core.Goes.act (P := fun _ => true) ha rfl).sound h.sound
  blank := by
    intro i hidle
    rw [Core.next_job ha i] at hidle ⊢
    split at hidle
    · rename_i hi
      -- the job that the act is about was started, by this act at the latest
      exfalso
      by_cases hbefore : (c.job i).snapshot.state = .idle
      · have hfit := ha.2 i hi
        rw [h.blank i hbefore] at hfit
        obtain ⟨name, p, rfl⟩ := Act.not_fits_default hi hfit
        simp [Act.onJob, Job.launch, Job.Snapshot.launch] at hidle
      · exact Job.ne_idle_onJob (ha.2 i hi) hbefore hidle
    · rename_i hi
      rw [if_neg hi]
      exact h.blank i hidle

/-- Acts go from a plain core to a plain one. -/
theorem Core.Goes.plain {P : Act → Bool} {c c' : Core} (h : Core.Goes P c c') (hc : c.IsPlain) :
    c'.IsPlain := by
  obtain ⟨acts, hp, rfl, hP⟩ := h
  exact hp.invariant (K := fun a => P a = true) (P := fun _ c => c.IsPlain) hc
    (fun _ _ _ _ ha _ hc => hc.next ha) hP

namespace Session

variable (s : Session) (p : Past) (t : Thread)

/-- In the place of a job that was never started, an old job has no thread to miss. -/
theorem job_withPast_cases (h : s.core.IsPlain) (i : Nat) :
    ((s.job i).snapshot.state ≠ .idle ∧ (s.withPast p).job i = s.job i) ∨
      s.job i = {} ∧ ((s.withPast p).job i = p.job i ∨ (s.withPast p).job i = {}) := by
  by_cases hidle : (s.job i).snapshot.state = .idle
  · refine .inr ⟨h.blank i hidle, ?_⟩
    by_cases hi : i < s.jobs.length
    · left
      rw [s.job_withPast p i hi, Job.orOld, if_pos hidle]
    · right
      have hlength : (s.withPast p).jobs.length ≤ i := by
        rw [length_withPast]
        exact Nat.le_of_not_lt hi
      simp [job, List.getElem?_eq_none hlength]
  · exact .inl ⟨hidle, s.job_withPast_of_started p hidle⟩

/-- An old job has no thread, like one that was never started. -/
theorem stage_withPast (h : s.core.IsPlain) (i : Nat) :
    ((s.withPast p).job i).stage = (s.job i).stage := by
  rcases s.job_withPast_cases p h i with ⟨-, hsame⟩ | ⟨hblank, hold | hnone⟩
  · rw [hsame]
  · rw [hblank, hold, (p.ended i).2]
  · rw [hblank, hnone]

/-- No write of a past job hangs. -/
theorem isHanging_withPast (h : s.core.IsPlain) : (s.withPast p).isHanging = s.isHanging := by
  rw [Bool.eq_iff_iff, isHanging_iff, isHanging_iff]
  simp only [Job.isHanging, s.stage_withPast p h]

/-! ### Reading, where jobs may hang -/

/-- A fault ends the connection alike. -/
theorem fault_withPast (h : s.core.IsPlain) (reason : String) :
    (s.withPast p).fault reason = (s.fault reason).withPast p := by
  have hplain := (reportFault_goes s reason).plain h
  simp only [fault, reportFault_withPast, isHanging_withPast _ p hplain, reader_withPast]
  split
  · split <;> rfl
  · exact closeAfterFault_withPast _ p

/-- So whatever is read is handled alike. -/
theorem readItem_withPast (h : s.core.IsPlain) (r : Link.Reader) (item : Bench.Item) :
    (s.withPast p).readItem r item = (s.readItem r item).withPast p := by
  -- only a line at its end and a fault are handled, each alike
  cases item with
  | bytes content =>
    simp only [readItem]
    split
    · exact completeLine_withPast s p r _
    · rfl
  | fault f =>
    simp only [readItem]
    split
    · rfl
    · split
      · rfl
      · exact s.fault_withPast p h _
  | ending =>
    simp only [readItem]
    split
    · exact completeLine_withPast s p r _
    · exact s.fault_withPast p h _

/-- The reader reads the same item, if it reads any. -/
theorem read?_withPast (h : s.core.IsPlain) :
    (s.withPast p).read? = s.read?.map (·.withPast p) := by
  simp only [read?, reader_withPast, inbound_withPast]
  split
  · rename_i r item rest _ _
    split
    · rfl
    · exact congrArg some
        (readItem_withPast { s with device.inbound := leftOver item ++ rest } p h r item)
  · rfl

/-! ### Writing -/

/-- A write without a connection is refused alike. -/
@[simp] theorem refuseWrite_withPast (shown : String) :
    (s.withPast p).refuseWrite t shown = (s.refuseWrite t shown).withPast p := by
  simp only [refuseWrite, log_withPast, emit_withPast]

/-- A write that goes well is confirmed alike. -/
@[simp] theorem confirmWrite_withPast (shown : String) :
    (s.withPast p).confirmWrite t shown = (s.confirmWrite t shown).withPast p := by
  simp only [confirmWrite, log_withPast, emit_withPast]

/-- A write that fails ends the connection alike. -/
@[simp] theorem failWrite_withPast (reason : String) :
    (s.withPast p).failWrite t reason = (s.failWrite t reason).withPast p := by
  simp only [failWrite, label_withPast, log_withPast, emit_withPast, reportStatus_withPast,
    become_withPast, teardown_withPast]

/-- So a delivery has the same result and does the same. -/
theorem afterDelivery_withPast (shown : String) (delivery : Bench.Delivery) :
    (s.withPast p).afterDelivery t shown delivery =
      ((s.afterDelivery t shown delivery).1, (s.afterDelivery t shown delivery).2.withPast p) := by
  cases delivery <;> simp only [afterDelivery, confirmWrite_withPast, failWrite_withPast]

/-- So has a write, which comes after all that was written before. -/
theorem write_withPast (bytes : List UInt8) (shown : String) (isLine : Bool) :
    (s.withPast p).write t bytes shown isLine =
      ((s.write t bytes shown isLine).1, (s.write t bytes shown isLine).2.withPast p) := by
  have htransmit : ∀ s : Session, (s.withPast p).device.transmit (t = .streamer) bytes =
      ((s.device.transmit (t = .streamer) bytes).1,
        (s.device.transmit (t = .streamer) bytes).2.withLog p.log) :=
    fun s => s.device.transmit_following { toLog := p.log } _ bytes
  have hdelivered : ∀ s : Session,
      Session.afterDelivery
          { s.withPast p with device := ((s.withPast p).device.transmit (t = .streamer) bytes).2 }
          t shown ((s.withPast p).device.transmit (t = .streamer) bytes).1 =
        ((Session.afterDelivery { s with device := (s.device.transmit (t = .streamer) bytes).2 }
          t shown (s.device.transmit (t = .streamer) bytes).1).1,
        (Session.afterDelivery { s with device := (s.device.transmit (t = .streamer) bytes).2 }
          t shown (s.device.transmit (t = .streamer) bytes).1).2.withPast p) := by
    intro s
    rw [htransmit]
    exact afterDelivery_withPast { s with device := (s.device.transmit (t = .streamer) bytes).2 }
      p t shown _
  have hcounted : { s.withPast p with link.slot := (s.withPast p).link.slot.noteSent } =
      ({ s with link.slot := s.link.slot.noteSent } : Session).withPast p :=
    s.slot_withPast p rfl rfl
  -- a line is counted first, which leaves the flag alone
  simp only [write, canSend_withPast]
  cases s.link.canSend with
  | true =>
    cases isLine with
    | false =>
      simp only [if_true, Bool.false_eq_true, if_false]
      exact hdelivered s
    | true =>
      simp only [if_true, hcounted]
      exact hdelivered { s with link.slot := s.link.slot.noteSent }
  | false => simp only [Bool.false_eq_true, if_false, refuseWrite_withPast]

/-- A line is written alike. -/
theorem writeLine_withPast (line : String) :
    (s.withPast p).writeLine t line =
      ((s.writeLine t line).1, (s.writeLine t line).2.withPast p) :=
  s.write_withPast p t _ _ _

/-- A line is sent alike. -/
theorem sendLine_withPast (line : String) :
    (s.withPast p).sendLine t line =
      ((s.sendLine t line).1, (s.sendLine t line).2.withPast p) := by
  simp only [sendLine, writeLine_withPast]

/-- A command is sent alike. -/
theorem sendRealtime_withPast (c : Machine.Realtime) :
    (s.withPast p).sendRealtime t c =
      ((s.sendRealtime t c).1, (s.sendRealtime t c).2.withPast p) := by
  simp only [sendRealtime, write_withPast]

/-! ### Jobs that were started -/

/-- Where a job was started, the past has no say in whether waits are called off. -/
theorem isUntouched_of_started {i : Nat} (h : (s.job i).snapshot.state ≠ .idle) :
    s.isUntouched = false := by
  rcases s.core.job_mem_or_default i with hmem | hnone
  · rw [isUntouched, List.all_eq_false]
    exact ⟨s.job i, hmem, by simpa using h⟩
  · rw [core_job] at hnone
    exact absurd (by rw [hnone]) h

/-- Once a job was started no call is off any longer, so the link is the same. -/
theorem link_withPast_of_started {i : Nat} (h : (s.job i).snapshot.state ≠ .idle) :
    (s.withPast p).link = s.link := by
  simp only [withPast, calledOff, s.isUntouched_of_started h, Bool.false_eq_true, if_false]
  rfl

/-- So the slot can be set to anything there. -/
theorem slot_withPast_of_started {i : Nat} (h : (s.job i).snapshot.state ≠ .idle)
    (slot : Link.Slot) :
    { s.withPast p with link.slot := slot } =
      ({ s with link.slot := slot } : Session).withPast p := by
  refine eq_of_fields ?_ rfl rfl rfl rfl
  rw [link_withPast_of_started { s with link.slot := slot } p h]
  show { (s.withPast p).link with slot } = _
  rw [s.link_withPast_of_started p h]

/-- A job that was started changes in front of the past. -/
theorem setJob_withPast {i : Nat} {j : Job} (hi : (s.job i).snapshot.state ≠ .idle)
    (hj : j.snapshot.state ≠ .idle) :
    (s.withPast p).setJob i j = (s.setJob i j).withPast p := by
  have hlt := s.lt_of_started hi
  have hafter : ((s.setJob i j).job i).snapshot.state ≠ .idle := by
    rw [job_setJob_self hlt]
    exact hj
  have hjobs : (s.withPast p).jobs.set i j =
      (s.jobs.set i j).mapIdx fun i j => j.orOld (p.job i) := by
    rw [List.mapIdx_set, Job.orOld, if_neg hj]
    rfl
  refine eq_of_fields ?_ rfl hjobs rfl rfl
  rw [(s.setJob i j).link_withPast_of_started p hafter]
  exact s.link_withPast_of_started p hi

/-! ### Calls for a job -/

/-- An old job in the place of one that was never started is over, like that one. -/
theorem isActive_withPast (i : Nat) : ((s.withPast p).job i).isActive = (s.job i).isActive := by
  by_cases hidle : (s.job i).snapshot.state = .idle
  · have hblank : (s.job i).isActive = false := by
      simp [Job.isActive_eq, hidle]
    rw [hblank]
    by_cases hi : i < s.jobs.length
    · rw [s.job_withPast p i hi, Job.orOld, if_pos hidle]
      exact (p.ended i).1
    · have hlength : (s.withPast p).jobs.length ≤ i := by
        rw [length_withPast]
        exact Nat.le_of_not_lt hi
      simp [job, List.getElem?_eq_none hlength, Job.isActive_eq]
  · rw [s.job_withPast_of_started p hidle]

/-- A call for a job that does nothing to one that is over, and leaves a job that was started
so, does not ask for the past. -/
theorem call_withPast {call : Job → Job × List Note} (i : Nat)
    (hover : ∀ j : Job, j.isActive = false → call j = (j, []))
    (hstarted : ∀ j : Job, j.snapshot.state ≠ .idle → (call j).1.snapshot.state ≠ .idle) :
    ((s.withPast p).setJob i (call ((s.withPast p).job i)).1 =
        (s.setJob i (call (s.job i)).1).withPast p) ∧
      (call ((s.withPast p).job i)).2 = (call (s.job i)).2 := by
  by_cases hidle : (s.job i).snapshot.state = .idle
  · -- the call does nothing, to the old job and to the one that was never started
    have hblank : (s.job i).isActive = false := by
      simp [Job.isActive_eq, hidle]
    have hold := (s.isActive_withPast p i).trans hblank
    rw [hover _ hblank, hover _ hold]
    exact ⟨by rw [setJob_job, setJob_job], rfl⟩
  · rw [s.job_withPast_of_started p hidle]
    exact ⟨s.setJob_withPast p hidle (hstarted _ hidle), rfl⟩

end Session

namespace Job

variable {j : Job}

/-- A job that is over cannot be paused. -/
theorem pause_of_over (h : j.isActive = false) : j.pause = (j, []) := by
  have hstate : j.snapshot.state ≠ .running := by
    intro hr
    simp [isActive_eq, hr] at h
  simp [pause, Snapshot.pause?, hstate]

/-- It cannot be resumed. -/
theorem resume_of_over (h : j.isActive = false) : j.resume = (j, []) := by
  have hstate : j.snapshot.state ≠ .paused := by
    intro hp
    simp [isActive_eq, hp] at h
  simp [resume, Snapshot.resume?, hstate]

/-- It cannot be stopped. -/
theorem requestStop_of_over (h : j.isActive = false) : j.requestStop = (j, []) := by
  have hactive : j.snapshot.isActive = false := h
  simp [requestStop, Snapshot.stop?, hactive]

/-- A pause leaves a job started. -/
theorem started_pause (h : j.snapshot.state ≠ .idle) : j.pause.1.snapshot.state ≠ .idle := by
  by_cases hr : j.snapshot.state = .running
  · simp [pause_of_running hr]
  · simpa [pause, Snapshot.pause?, hr] using h

/-- So does the end of one. -/
theorem started_resume (h : j.snapshot.state ≠ .idle) : j.resume.1.snapshot.state ≠ .idle := by
  by_cases hp : j.snapshot.state = .paused
  · simp [resume_of_paused hp]
  · simpa [resume, Snapshot.resume?, hp] using h

/-- So does a stop. -/
theorem started_requestStop (h : j.snapshot.state ≠ .idle) :
    j.requestStop.1.snapshot.state ≠ .idle := by
  cases ha : j.isActive with
  | true => simp [requestStop_of_active ha]
  | false => rwa [requestStop_of_over ha]

end Job

namespace Session

variable (s : Session) (p : Past) (t : Thread)

/-- What is told of jobs comes after all that was told before. -/
theorem tellAll_withPast (notes : List Note) :
    (s.withPast p).tellAll t notes = (s.tellAll t notes).withPast p :=
  s.foldl_tell_withPast p t notes

/-- A job is paused alike, and one of the past cannot be. -/
theorem pauseFrom_withPast (i : Nat) :
    (s.withPast p).pauseFrom t i = (s.pauseFrom t i).withPast p := by
  obtain ⟨hjob, hnotes⟩ := s.call_withPast p i (fun _ => Job.pause_of_over)
    (fun _ => Job.started_pause)
  simp only [pauseFrom]
  rw [hjob, hnotes]
  exact foldl_tell_withPast _ p t _

/-- A job is resumed alike. -/
theorem resume_withPast (i : Nat) : (s.withPast p).resume t i = (s.resume t i).withPast p := by
  obtain ⟨hjob, hnotes⟩ := s.call_withPast p i (fun _ => Job.resume_of_over)
    (fun _ => Job.started_resume)
  simp only [resume]
  rw [hjob, hnotes]
  exact tellAll_withPast _ p t _

/-- A job that can be stopped was started, so the flag that its stop sets is not of the
past. -/
theorem requestStop_withPast (i : Nat) :
    (s.withPast p).requestStop t i = (s.requestStop t i).withPast p := by
  cases hactive : (s.job i).isActive with
  | false =>
    have hold := (s.isActive_withPast p i).trans hactive
    simp only [requestStop, Job.requestStop_of_over hactive, Job.requestStop_of_over hold,
      List.isEmpty_nil, if_true]
  | true =>
    -- a job of the past is not started, so the one that is stopped is of now
    have hstarted : (s.job i).snapshot.state ≠ .idle := by
      intro hidle
      simp [Job.isActive_eq, hidle] at hactive
    have hstopped := Job.started_requestStop hstarted
    have hafter : ((s.setJob i (s.job i).requestStop.1).job i).snapshot.state ≠ .idle := by
      have hlt := s.lt_of_started hstarted
      rw [job_setJob_self hlt]
      exact hstopped
    have hslot := slot_withPast_of_started (s.setJob i (s.job i).requestStop.1) p hafter
    simp only [requestStop, s.job_withPast_of_started p hstarted,
      s.setJob_withPast p hstarted hstopped,
      link_withPast_of_started (s.setJob i (s.job i).requestStop.1) p hafter]
    split
    · rfl
    · refine Eq.trans ?_ (tellAll_withPast _ p t _)
      exact congrArg (tellAll · t _) (hslot _)

/-! ### Moves of the threads -/

/-- What a job reports is told alike. -/
@[simp] theorem reportFromJob_withPast (n : Note) :
    (s.withPast p).reportFromJob n = (s.reportFromJob n).withPast p := by
  have htell := s.tell_withPast p .streamer n
  cases n with
  | record r => exact htell
  | event e =>
    -- a rule of the observer may pause a job, which the past does not hinder
    cases e with
    | progress shot =>
      have hrule : ((s.withPast p).tell .streamer (.event (.progress shot))).pauseRule? shot =
          (s.tell .streamer (.event (.progress shot))).pauseRule? shot := rfl
      simp only [reportFromJob, hrule]
      split
      · rename_i rule i _
        rw [htell]
        exact pauseFrom_withPast
          { s.tell .streamer (.event (.progress shot)) with
            rules := (s.tell .streamer (.event (.progress shot))).rules.erase rule } p .streamer i
      · exact htell
    | status | position | log | error => exact htell

/-- So is all that a move of it reports. -/
theorem foldl_reportFromJob_withPast (notes : List Note) :
    notes.foldl reportFromJob (s.withPast p) = (notes.foldl reportFromJob s).withPast p := by
  induction notes generalizing s with
  | nil => rfl
  | cons n notes ih => rw [List.foldl_cons, List.foldl_cons, reportFromJob_withPast, ih]

/-- The write of a started job ends alike. -/
theorem jobWritten_withPast {i : Nat} {j : Job} (hi : (s.job i).snapshot.state ≠ .idle)
    (hj : j.snapshot.state ≠ .idle) (line : String) (written : Written) :
    (s.withPast p).jobWritten i j line written = (s.jobWritten i j line written).withPast p := by
  cases written with
  | returned result => cases result <;> exact s.setJob_withPast p hi hj
  | hanging rest => exact s.setJob_withPast p hi hj

/-- A thread's step of its own leaves its job started. -/
theorem started_of_own {j next : Job} {notes : List Note} (h : j.move = .own next notes)
    (hj : j.snapshot.state ≠ .idle) : next.snapshot.state ≠ .idle := by
  have hown : j.own? = some (next, notes.findSome? Note.progress?) := by simp [Job.own?, h]
  have hstarted := Job.ne_idle_onJob (a := .moved 0 (notes.findSome? Note.progress?))
    (by simp [Act.Fits, hown]) hj
  simpa [Act.onJob, hown] using hstarted

/-- A thread that was never started does not move, and neither does an old one. -/
theorem advance?_withPast (h : s.core.IsPlain) (i : Nat) :
    (s.withPast p).advance? i = (s.advance? i).map (·.withPast p) := by
  rcases s.job_withPast_cases p h i with ⟨hstarted, hsame⟩ | ⟨hblank, -⟩
  · -- the job has its own slot before it, whatever the past says of waits
    have hlink := s.link_withPast_of_started p hstarted
    have hset : ∀ (slot : Link.Slot) (j : Job), j.snapshot.state ≠ .idle →
        Session.setJob { s.withPast p with link.slot := slot } i j =
          (Session.setJob { s with link.slot := slot } i j).withPast p := by
      intro slot j hj
      rw [s.slot_withPast_of_started p hstarted slot]
      exact setJob_withPast { s with link.slot := slot } p hstarted hj
    simp only [advance?, hsame]
    cases hmove : (s.job i).move with
    | rest => rfl
    | own next notes =>
      simp only [s.setJob_withPast p hstarted (started_of_own hmove hstarted),
        foldl_reportFromJob_withPast, Option.map_some]
    | arm =>
      have harmed : (s.job i).armed.snapshot.state ≠ .idle := by
        unfold Job.armed
        split <;> exact hstarted
      simp only [hlink]
      exact congrArg some (hset s.link.slot.arm _ harmed)
    | send line =>
      simp only [writeLine_withPast]
      have hjobs : (s.writeLine .streamer line).2.jobs = s.jobs := jobs_write s .streamer _ _ _
      refine congrArg some (jobWritten_withPast _ p ?_ hstarted line _)
      rwa [job_of_jobs hjobs]
    | await =>
      rw [hlink]
      cases s.link.slot.check? with
      | none => rfl
      | some ended =>
        have hanswered : ((s.job i).answered ended.1).snapshot.state ≠ .idle := by
          rwa [Job.snapshot_answered]
        exact congrArg some (hset ended.2 _ hanswered)
    | release =>
      exact congrArg some (setJob_withPast { s with link := s.link.release } p hstarted hstarted)
  · have hrest : ((s.withPast p).job i).move = .rest := by
      rw [Job.move, s.stage_withPast p h, hblank]
    simp only [advance?, hrest, hblank]
    rfl

/-- The same job is the next to move, and makes the same move. -/
theorem work?_withPast (h : s.core.IsPlain) :
    (s.withPast p).work? = s.work?.map (·.withPast p) := by
  have hfind : ∀ l : List Nat, l.findSome? (s.withPast p).advance? =
      (l.findSome? s.advance?).map (·.withPast p) := by
    intro l
    induction l with
    | nil => rfl
    | cons i l ih =>
      rw [List.findSome?_cons, List.findSome?_cons, s.advance?_withPast p h i, ih]
      cases s.advance? i <;> rfl
  rw [work?, length_withPast]
  exact hfind _

/-- What is to be read is read alike. -/
theorem hear_withPast (n : Nat) (h : s.core.IsPlain) :
    (s.withPast p).hear n = (s.hear n).withPast p := by
  induction n generalizing s with
  | zero => rfl
  | succ n ih =>
    simp only [hear, s.work?_withPast p h, Option.isSome_map, s.read?_withPast p h]
    split
    · rfl
    · rename_i hwork
      cases hread : s.read? with
      | none => rfl
      | some next =>
        -- the reader reads at rest, so what it does is a list of acts
        have hrest : s.core.AtRest := atRest_of_work? (by simpa using hwork)
        exact ih next ((read?_goes hread hrest).plain h)

/-- So the threads come to rest alike, in as many steps. -/
theorem settleFor_withPast (n : Nat) (h : s.core.IsPlain) :
    settleFor n (s.withPast p) = (settleFor n s).withPast p := by
  induction n generalizing s with
  | zero => rfl
  | succ n ih =>
    have hheard := (hear_goes s.device.backlog s).plain h
    simp only [settleFor, backlog_withPast, s.hear_withPast p _ h, work?_withPast _ p hheard]
    cases hwork : (s.hear s.device.backlog).work? with
    | none => rfl
    | some next =>
      exact ih next ((work?_goes hheard.sound hwork).1.plain hheard)

/-- An old job raises the bound. -/
theorem workLeft_withPast_le (h : s.core.IsPlain) : s.workLeft ≤ (s.withPast p).workLeft := by
  have hjob : ∀ j ∈ s.jobs, ∀ old : Job, j.work ≤ (j.orOld old).work := by
    intro j hj old
    obtain ⟨i, hi, rfl⟩ := List.mem_iff_getElem.mp hj
    have hget : s.core.job i = s.jobs[i] := by simp [core_job, job, hi]
    unfold Job.orOld
    split
    · rename_i hidle
      rw [← hget] at hidle ⊢
      rw [h.blank i hidle]
      exact Nat.zero_le _
    · exact Nat.le_refl _
  -- the old jobs are shifted with the list, so the induction is for any of them
  have hsum : ∀ (jobs : List Job) (old : Nat → Job),
      (∀ j ∈ jobs, ∀ o : Job, j.work ≤ (j.orOld o).work) →
      jobs.foldr (fun j n => j.work + n) 0 ≤
        (jobs.mapIdx fun i j => j.orOld (old i)).foldr (fun j n => j.work + n) 0 := by
    intro jobs
    induction jobs with
    | nil => exact fun _ _ => Nat.le_refl _
    | cons j jobs ih =>
      intro old hle
      rw [List.mapIdx_cons, List.foldr_cons, List.foldr_cons]
      exact Nat.add_le_add (hle j (by simp) (old 0))
        (ih (fun i => old (i + 1)) fun k hk => hle k (List.mem_cons_of_mem _ hk))
  exact hsum s.jobs p.job hjob

/-- A session settles alike. -/
theorem settle_withPast (h : s.core.IsPlain) : (s.withPast p).settle = s.settle.withPast p := by
  have hle := s.workLeft_withPast_le p h
  -- with the past there is more fuel, which is not needed
  simp only [settle, s.settleFor_withPast p _ h, timeOut_withPast]
  rw [settleFor_of_le h.sound (Nat.lt_succ_self _) (Nat.succ_le_succ hle)]
  rfl

/-! ### Letting go -/

/-- A write that hangs is let go alike. -/
theorem letGoJob_withPast (h : s.core.IsPlain) (i : Nat) :
    (s.withPast p).letGoJob i = (s.letGoJob i).withPast p := by
  rcases s.job_withPast_cases p h i with ⟨hstarted, hsame⟩ | ⟨hblank, -⟩
  · -- what is left of the write is done to the device, and then its job goes on
    have hwritten : ∀ (old free : Session) (line : String) (delivery : Bench.Delivery),
        old = free.withPast p → free.jobs = s.jobs →
        (old.afterDelivery .streamer line delivery).2.jobWritten i
            ((old.afterDelivery .streamer line delivery).2.job i) line
            (old.afterDelivery .streamer line delivery).1 =
          ((free.afterDelivery .streamer line delivery).2.jobWritten i
            ((free.afterDelivery .streamer line delivery).2.job i) line
            (free.afterDelivery .streamer line delivery).1).withPast p := by
      rintro old free line delivery rfl hjobs
      have hafter : (free.afterDelivery .streamer line delivery).2.jobs = s.jobs :=
        (jobs_afterDelivery free .streamer line delivery).trans hjobs
      have hi : ((free.afterDelivery .streamer line delivery).2.job i).snapshot.state ≠ .idle := by
        rwa [job_of_jobs hafter]
      simp only [afterDelivery_withPast, job_withPast_of_started _ p hi]
      exact jobWritten_withPast _ p hi hi line _
    have hletGo : ∀ rest, (s.withPast p).device.letGo rest =
        ((s.device.letGo rest).1, (s.device.letGo rest).2.withLog p.log) :=
      fun rest => s.device.letGo_following { toLog := p.log } rest
    simp only [letGoJob, hsame, hletGo, reader_withPast]
    split
    · rename_i line rest _
      have hclosed := closeAfterFault_withPast { s with device := (s.device.letGo rest).2 } p
      have hjobs : ({ s with device := (s.device.letGo rest).2 } : Session).closeAfterFault.jobs =
          s.jobs := (closeAfterFault_goes _).keeps (f := Core.jobs) Core.next_jobs_of_isReading
      cases s.link.reader with
      | none => exact hwritten _ { s with device := (s.device.letGo rest).2 } line _ rfl rfl
      | some r =>
        cases hclosing : r.closing with
        | true =>
          simp only [hclosing, if_true]
          exact hwritten _ _ line _ hclosed hjobs
        | false =>
          simp only [hclosing, Bool.false_eq_true, if_false]
          exact hwritten _ { s with device := (s.device.letGo rest).2 } line _ rfl rfl
    · rfl
  · simp only [letGoJob, s.stage_withPast p h, hblank]

/-- So are all of them. -/
theorem letGo_withPast (h : s.core.IsPlain) : (s.withPast p).letGo = s.letGo.withPast p := by
  have hfold : ∀ (l : List Nat) (s : Session), s.core.IsPlain →
      l.foldl letGoJob (s.withPast p) = (l.foldl letGoJob s).withPast p := by
    intro l
    induction l with
    | nil => exact fun _ _ => rfl
    | cons i l ih =>
      intro s hs
      rw [List.foldl_cons, List.foldl_cons, s.letGoJob_withPast p hs]
      exact ih _ ((letGoJob_goes s i).plain hs)
  rw [letGo, length_withPast]
  exact hfold _ s h

/-! ### Connecting -/

/-- A connection that cannot be made is reported alike. -/
@[simp] theorem failConnect_withPast (e : LinkError) :
    (s.withPast p).failConnect t e = ((s.failConnect t e).1, (s.failConnect t e).2.withPast p) := by
  simp only [failConnect, become_withPast, log_withPast, emit_withPast]

/-- The reason is logged alike. -/
@[simp] theorem logOpenFailure_withPast (e : LinkError) :
    (s.withPast p).logOpenFailure t e = (s.logOpenFailure t e).withPast p := by
  cases e <;> simp only [logOpenFailure, tell_withPast]

/-- What is done to the device is done in front of what it remembers. -/
theorem device_withPast (d : Bench.Device) :
    { s.withPast p with device := d.withLog p.log } =
      ({ s with device := d } : Session).withPast p := rfl

/-- A connection is made alike. -/
@[simp] theorem establish_withPast (port : String) :
    (s.withPast p).establish t port = (s.establish t port).withPast p :=
  become_withPast { s with link := s.link.establish port } p t .connected

/-- Its reader is started alike. -/
@[simp] theorem beginReading_withPast (port : String) (baud : UInt32) :
    (s.withPast p).beginReading t port baud = (s.beginReading t port baud).withPast p := by
  have hreader : { s.withPast p with link.reader := some {} } =
      ({ s with link.reader := some {} } : Session).withPast p := rfl
  simp only [beginReading, hreader, label_withPast, log_withPast, emit_withPast]

/-- A new connection does not ask what was called off on the last. -/
@[simp] theorem startReader_withPast (port : String) (baud : UInt32) :
    (s.withPast p).startReader t port baud =
      ((s.startReader t port baud).1, (s.startReader t port baud).2.withPast p) := by
  simp only [startReader, establish_withPast]
  generalize s.establish t port = made
  have hspawn : (made.withPast p).device.spawn =
      (made.device.spawn.1, made.device.spawn.2.withLog p.log) := made.device.spawn_withLog p.log
  rw [hspawn]
  obtain ⟨spawned, device⟩ := made.device.spawn
  cases spawned with
  | ok => simp only [device_withPast, beginReading_withPast]
  | error reason =>
    exact failConnect_withPast { made with device, link := made.link.shut } p t
      (.openFailed port reason)

/-- So a port is opened alike, with the same result. -/
theorem openPort_withPast (port : String) (baud : UInt32) :
    (s.withPast p).openPort t port baud =
      ((s.openPort t port baud).1, (s.openPort t port baud).2.withPast p) := by
  simp only [openPort, discardInput, openReader, become_withPast, log_withPast]
  generalize (s.become t .connecting).log t .info _ = begun
  have hconnect : (begun.withPast p).device.connect port baud =
      ((begun.device.connect port baud).1, (begun.device.connect port baud).2.withLog p.log) :=
    begun.device.connect_withLog p.log port baud
  have hclone : ∀ s' : Session, (s'.withPast p).device.clone =
      (s'.device.clone.1, s'.device.clone.2.withLog p.log) :=
    fun s' => s'.device.clone_withLog p.log
  rw [hconnect]
  -- each of the three calls of the device fails or not as it would without the past
  obtain ⟨connected, device⟩ := begun.device.connect port baud
  cases connected with
  | error e => simp only [device_withPast, logOpenFailure_withPast, failConnect_withPast]
  | ok =>
    simp only [Bench.Device.discard_withLog, device_withPast]
    cases device.discard.1 with
    | error f =>
      simp only [log_withPast, hclone]
      generalize Session.log _ _ _ _ = warned
      obtain ⟨cloned, device⟩ := warned.device.clone
      cases cloned <;> simp only [device_withPast, failConnect_withPast, startReader_withPast]
    | ok =>
      simp only [hclone]
      obtain ⟨cloned, device⟩ := device.discard.2.clone
      cases cloned <;> simp only [device_withPast, failConnect_withPast, startReader_withPast]

end Session

end GcodeSender
