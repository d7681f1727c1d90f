import GcodeSender.Proofs.Session.Turns

/-!
# `GcodeSender.Proofs.Session.Inbox`: what is not read yet concerns nobody

What waits to be read, and what the reader has of a line that is not whole, is the reader's
alone. `Session.withInbox` puts some of it in front of a session, and every operation but a read
commutes with that: a line that is handled, a connection that is taken down, a job that moves.
Even the device only appends to the queue.

The equations compose by rewriting, up to `work?_withInbox`: a job moves the same way whatever
waits to be read.
-/

set_option autoImplicit false

namespace GcodeSender

/-! ### The session -/

/-- Something that is not read yet, or not a line yet. -/
structure Inbox where
  queue : List Bench.Item := []
  /-- The beginning of a line. -/
  pending : List UInt8 := []
  /-- Some of it was read since the last wait in vain. -/
  fresh : Bool := false

namespace Session

/-- The session with some more to be read first, and a reader that has the given beginning of a
line. -/
def withInbox (s : Session) (x : Inbox) : Session :=
  { s with
    device := s.device.following { inbound := x.queue }
    link.reader := s.link.reader.map fun r => { r with pending := x.pending, fresh := x.fresh } }

variable (s : Session) (x : Inbox) (t : Thread)

/-- Notes go to the journal, whatever waits to be read. -/
@[simp] theorem tell_withInbox (n : Note) :
    (s.withInbox x).tell t n = (s.tell t n).withInbox x := rfl

/-- So do lines in the log. -/
@[simp] theorem log_withInbox (level : Log.Level) (message : String) :
    (s.withInbox x).log t level message = (s.log t level message).withInbox x := rfl

/-- So do events. -/
@[simp] theorem emit_withInbox (e : Event) :
    (s.withInbox x).emit t e = (s.emit t e).withInbox x := rfl

/-! ### The connection -/

/-- The state of the connection does not hang on what waits to be read. -/
@[simp] theorem become_withInbox (next : Link.ConnectionState) :
    (s.withInbox x).become t next = (s.become t next).withInbox x := by
  have hstate : (s.withInbox x).link.state = s.link.state := rfl
  unfold become
  rw [hstate]
  cases s.link.state.mayBecome next <;> rfl

/-- The reader is stopped before it reads on. -/
@[simp] theorem stopReader_withInbox :
    (s.withInbox x).stopReader t = (s.stopReader t).withInbox x := by
  unfold stopReader
  cases hr : s.link.reader with
  | none => simp [withInbox, hr]
  | some r =>
    have hreader : (s.withInbox x).link.reader =
        some { r with pending := x.pending, fresh := x.fresh } := by simp [withInbox, hr]
    rw [hreader]
    simp only []
    split
    · rfl
    · split <;> rfl

/-- The end of a connection is reported as before, if its report is. -/
theorem becomeDisconnected_withInbox (report : Session → Session)
    (hreport : ∀ s : Session, report (s.withInbox x) = (report s).withInbox x) :
    (s.withInbox x).becomeDisconnected t report =
      (s.becomeDisconnected t report).withInbox x := by
  have hstate : (s.withInbox x).link.state = s.link.state := rfl
  simp only [becomeDisconnected, hstate, become_withInbox]
  split
  · rfl
  · exact hreport _

/-- So the connection is taken down as before. -/
@[simp] theorem teardown_withInbox : (s.withInbox x).teardown t = (s.teardown t).withInbox x := by
  simp only [teardown, stopReader_withInbox]
  exact becomeDisconnected_withInbox
    { s.stopReader t with link := (s.stopReader t).link.shut } x t _ fun _ => rfl

/-- An observer that disconnects does not look at what waits. -/
@[simp] theorem reportStatus_withInbox (state raw : String) :
    (s.withInbox x).reportStatus t state raw = (s.reportStatus t state raw).withInbox x := by
  have hrules : ((s.emit t (.status state raw)).withInbox x).rules =
    (s.emit t (.status state raw)).rules := rfl
  simp only [reportStatus, emit_withInbox, hrules]
  split
  · exact teardown_withInbox
      { s.emit t (.status state raw) with
        rules := (s.emit t (.status state raw)).rules.erase (.disconnectOn state t) } x t
  · rfl

/-! ### Lines and faults -/

/-- Fields that cannot be read are reported as before. -/
theorem foldl_reportFieldError_withInbox (errors : List Machine.FieldError) :
    errors.foldl reportFieldError (s.withInbox x) =
      (errors.foldl reportFieldError s).withInbox x := by
  induction errors generalizing s with
  | nil => rfl
  | cons e errors ih => exact ih (s.reportFieldError e)

/-- A report that is handled was read already. -/
@[simp] theorem handleReport_withInbox (r : Machine.StatusReport) :
    (s.withInbox x).handleReport r = (s.handleReport r).withInbox x := by
  have hcache : { s.withInbox x with
        link.status := some r.status
        link.position := r.workPosition.or (s.withInbox x).link.position } =
      ({ s with
        link.status := some r.status
        link.position := r.workPosition.or s.link.position } : Session).withInbox x := rfl
  simp only [handleReport, hcache, reportStatus_withInbox]
  cases r.workPosition with
  | none => exact foldl_reportFieldError_withInbox _ x r.fieldErrors
  | some position =>
    simp only [emit_withInbox]
    exact foldl_reportFieldError_withInbox _ x r.fieldErrors

/-- An answer that is handled was, too. -/
@[simp] theorem handleAnswer_withInbox (line : String) :
    (s.withInbox x).handleAnswer line = (s.handleAnswer line).withInbox x := by
  have hslot : (s.withInbox x).link.slot = s.link.slot := rfl
  simp only [handleAnswer, hslot]
  split <;> rfl

/-- So was any line. -/
@[simp] theorem handleText_withInbox (line : String) :
    (s.withInbox x).handleText line = (s.handleText line).withInbox x := by
  simp only [handleText, log_withInbox, emit_withInbox]
  split
  · exact handleReport_withInbox _ x _
  · split
    · exact handleAnswer_withInbox _ x _
    · rfl

/-- A line is handled the same way whatever waits to be read. -/
theorem handleLine_withInbox (bytes : List UInt8) :
    (s.withInbox x).handleLine bytes = (s.handleLine bytes).withInbox x := by
  simp only [handleLine]
  split
  · split
    · rfl
    · exact handleText_withInbox s x _
  · rfl

/-- A reader ends if it was told to, also where more waits to be read. -/
theorem endIfStopping_withInbox :
    (s.withInbox x).endIfStopping = s.endIfStopping.withInbox x := by
  unfold endIfStopping
  cases hr : s.link.reader with
  | none => simp [withInbox, hr]
  | some r =>
    have hreader : (s.withInbox x).link.reader =
        some { r with pending := x.pending, fresh := x.fresh } := by simp [withInbox, hr]
    rw [hreader]
    simp only []
    split <;> rfl

/-- A fault is reported, whatever comes behind it. -/
@[simp] theorem reportFault_withInbox (reason : String) :
    (s.withInbox x).reportFault reason = (s.reportFault reason).withInbox x := by
  have hlabel : (s.withInbox x).link.label = s.link.label := rfl
  simp only [reportFault, hlabel, log_withInbox, emit_withInbox, reportStatus_withInbox,
    become_withInbox]

/-- After a fault nothing more is read. -/
@[simp] theorem closeAfterFault_withInbox :
    (s.withInbox x).closeAfterFault = s.closeAfterFault.withInbox x := by
  have hreport : ∀ s : Session, (s.withInbox x).reportStatus .reader "Disconnected"
      (s.withInbox x).farewell = (s.reportStatus .reader "Disconnected" s.farewell).withInbox x :=
    fun s => s.reportStatus_withInbox x .reader _ _
  exact congrArg endReader (becomeDisconnected_withInbox { s with link := s.link.shut } x .reader
    (fun s => s.reportStatus .reader "Disconnected" s.farewell) hreport)

/-- So is a fault. -/
theorem fault_withInbox (reason : String) :
    (s.withInbox x).fault reason = (s.fault reason).withInbox x := by
  have hhanging : ((s.reportFault reason).withInbox x).isHanging =
    (s.reportFault reason).isHanging := rfl
  simp only [fault, reportFault_withInbox, hhanging]
  split
  · cases hr : (s.reportFault reason).link.reader with
    | none => simp [withInbox, hr]
    | some r => simp [withInbox, hr]
  · exact closeAfterFault_withInbox _ x

/-! ### Jobs -/

/-- A job is paused while anything may wait. -/
theorem pauseFrom_withInbox (i : Nat) :
    (s.withInbox x).pauseFrom t i = (s.pauseFrom t i).withInbox x := by
  have htold : ∀ (notes : List Note) (s : Session),
      notes.foldl (fun s n => s.tell t n) (s.withInbox x) =
        (notes.foldl (fun s n => s.tell t n) s).withInbox x := by
    intro notes
    induction notes with
    | nil => exact fun _ => rfl
    | cons n notes ih => exact fun s => ih (s.tell t n)
  exact htold (s.job i).pause.2 (s.setJob i (s.job i).pause.1)

/-- What a job reports does not hang on what waits. -/
theorem reportFromJob_withInbox (n : Note) :
    (s.withInbox x).reportFromJob n = (s.reportFromJob n).withInbox x := by
  have hrules : ∀ p, ((s.tell .streamer n).withInbox x).pauseRule? p =
    (s.tell .streamer n).pauseRule? p := fun _ => rfl
  simp only [reportFromJob, tell_withInbox, hrules]
  split
  · split
    · rename_i p _ rule i _
      exact pauseFrom_withInbox { s.tell .streamer (.event (.progress p)) with
        rules := (s.tell .streamer (.event (.progress p))).rules.erase rule } x .streamer i
    · rfl
  · rfl
  · rfl

/-- Neither does all that a move of it reports. -/
theorem foldl_reportFromJob_withInbox (notes : List Note) :
    notes.foldl reportFromJob (s.withInbox x) = (notes.foldl reportFromJob s).withInbox x := by
  induction notes generalizing s with
  | nil => rfl
  | cons n notes ih => rw [List.foldl_cons, List.foldl_cons, reportFromJob_withInbox, ih]

/-- A write fails as before. -/
theorem failWrite_withInbox (reason : String) :
    (s.withInbox x).failWrite t reason = (s.failWrite t reason).withInbox x := by
  have hlabel : (s.withInbox x).link.label = s.link.label := rfl
  simp only [failWrite, hlabel, log_withInbox, emit_withInbox, reportStatus_withInbox,
    become_withInbox, teardown_withInbox]

/-- A write goes to the device, and what waits to be read comes from there. -/
theorem write_withInbox (bytes : List UInt8) (shown : String) (isLine : Bool) :
    (s.withInbox x).write t bytes shown isLine =
      ((s.write t bytes shown isLine).1, (s.write t bytes shown isLine).2.withInbox x) := by
  -- once the device has taken what it takes, nothing is read any more
  have hdelivery : ∀ (s : Session) (delivery : Bench.Delivery),
      (s.withInbox x).afterDelivery t shown delivery =
        ((s.afterDelivery t shown delivery).1,
          (s.afterDelivery t shown delivery).2.withInbox x) := by
    intro s delivery
    cases delivery with
    | delivered | hanging => rfl
    | failed reason => simp only [afterDelivery, failWrite_withInbox]
  have hcanSend : (s.withInbox x).link.canSend = s.link.canSend := rfl
  have htransmit : (s.withInbox x).device.transmit (t = .streamer) bytes = _ :=
    s.device.transmit_following { inbound := x.queue } (t = .streamer) bytes
  simp only [write, hcanSend]
  split
  · cases isLine with
    | false =>
      simp only [Bool.false_eq_true, if_false, htransmit]
      exact hdelivery { s with device := (s.device.transmit (t = .streamer) bytes).2 } _
    | true =>
      simp only [if_true]
      rw [show ({ s.withInbox x with link.slot := (s.withInbox x).link.slot.noteSent } :
        Session).device.transmit (t = .streamer) bytes = _ from htransmit]
      exact hdelivery { s with
        link.slot := s.link.slot.noteSent
        device := (s.device.transmit (t = .streamer) bytes).2 } _
  · rfl

/-- So a job makes the moves that it would have made. -/
theorem advance?_withInbox (i : Nat) :
    (s.withInbox x).advance? i = (s.advance? i).map (·.withInbox x) := by
  have hjob : (s.withInbox x).job i = s.job i := rfl
  simp only [advance?, hjob]
  cases (s.job i).move with
  | rest => rfl
  | own next notes => exact congrArg some (foldl_reportFromJob_withInbox (s.setJob i next) x notes)
  | arm | release => rfl
  | send line =>
    simp only [writeLine, write_withInbox]
    cases (s.write .streamer (wireLine line) line true).1 <;> rfl
  | await =>
    have hslot : (s.withInbox x).link.slot = s.link.slot := rfl
    simp only [hslot]
    cases s.link.slot.check? <;> rfl

/-- A job moves the same way whatever waits to be read. -/
theorem work?_withInbox : (s.withInbox x).work? = s.work?.map (·.withInbox x) := by
  have hlength : (s.withInbox x).jobs.length = s.jobs.length := rfl
  unfold work?
  rw [hlength, funext (advance?_withInbox s x)]
  induction List.range s.jobs.length with
  | nil => rfl
  | cons i is ih =>
    rw [List.findSome?_cons, List.findSome?_cons]
    cases s.advance? i with
    | none => exact ih
    | some next => rfl

end Session

end GcodeSender
