import GcodeSender.Proofs.Bench.Delivery
import GcodeSender.Proofs.Job.Record
import GcodeSender.Proofs.Machine.Response

/-!
# `GcodeSender.Proofs.Session.Goes`: operations as acts

Each operation of a session does some acts and leaves the rest of the core alone.
`Core.Goes` says so for acts of a given kind. There is one lemma of this form for
each operation, and no operation is opened again after it:

* `reads_readItem`: what one read can come to. `Session.readItem` is not opened again
  where it does not matter what is read.
* `read?_goes`: the reader hears answers, and may end the connection.
* `write_offline` and `write_online`: a line is given back at once, or is counted,
  and its write is through, has failed, or hangs.
* `pauseFrom_goes`: a job is paused if it is running.

The lemmas `core_*` are about what leaves the core alone altogether.
-/

set_option autoImplicit false

namespace GcodeSender

namespace Session

/-! ### What leaves the core alone -/

/-- A quiet note leaves the core as it is. -/
theorem core_tell_of_quiet (s : Session) (t : Thread) {n : Note} (h : n.Quiet) :
    (s.tell t n).core = s.core := by
  simp [core, tell, List.filterMap_append, h.progress, h.answer, h.unsent]

/-- Progress that is told is told in the core. -/
theorem core_tell_progress (s : Session) (t : Thread) (p : Job.Progress) :
    (s.tell t (.event (.progress p))).core = { s.core with told := s.core.told ++ [p] } := by
  simp [core, tell, List.filterMap_append, Note.progress?, Note.answer?, Note.unsent?]

/-- Only the finest records tell of answers. -/
theorem quiet_record {r : Log.Record} (h : r.level ≠ .trace) : (Note.record r).Quiet := by
  obtain ⟨level, origin, message, fields⟩ := r
  cases level with
  | trace => exact absurd rfl h
  | error | warn | info | debug => exact ⟨rfl, rfl, rfl⟩

/-- The text does not begin like the report of something that was not sent. -/
def isPlain (text : String) : Bool := text.toList.head?.any (· ≠ '[')

/-- How a text goes on does not matter. -/
theorem isPlain_append {words : String} (h : isPlain words = true) (text : String) :
    isPlain (words ++ text) = true := by
  unfold isPlain at h ⊢
  rw [String.toList_append]
  cases hw : words.toList with
  | nil => simp [hw] at h
  | cons c cs => simpa [hw] using h

/-- A plain text reports nothing. -/
theorem quiet_log {text : String} (h : isPlain text = true) : (Note.event (.log text)).Quiet := by
  refine ⟨rfl, rfl, if_neg fun htext => ?_⟩
  have hhead : isPlain text = false := by
    rw [htext, isPlain, String.toList_append]
    rfl
  rw [hhead] at h
  cases h

/-- A line in the log is quiet, unless it traces. -/
@[simp] theorem core_log (s : Session) (t : Thread) {level : Log.Level} (h : level ≠ .trace)
    (message : String) : (s.log t level message).core = s.core :=
  core_tell_of_quiet _ _ (quiet_record h)

/-- So is a record. -/
@[simp] theorem core_tell_record (s : Session) (t : Thread) {r : Log.Record}
    (h : r.level ≠ .trace) : (s.tell t (.record r)).core = s.core :=
  core_tell_of_quiet _ _ (quiet_record h)

/-- A status is quiet. -/
@[simp] theorem core_emit_status (s : Session) (t : Thread) (state raw : String) :
    (s.emit t (.status state raw)).core = s.core := core_tell_of_quiet _ _ ⟨rfl, rfl, rfl⟩

/-- A text for the observer is quiet if it is plain. -/
theorem core_emit_log (s : Session) (t : Thread) {text : String} (h : isPlain text = true) :
    (s.emit t (.log text)).core = s.core := core_tell_of_quiet _ _ (quiet_log h)

/-- An error is quiet. -/
@[simp] theorem core_emit_error (s : Session) (t : Thread) (kind : ErrorKind)
    (message : String) : (s.emit t (.error kind message)).core = s.core :=
  core_tell_of_quiet _ _ ⟨rfl, rfl, rfl⟩

/-- A position is quiet. -/
@[simp] theorem core_emit_position (s : Session) (t : Thread) (p : Machine.Position) :
    (s.emit t (.position p)).core = s.core := core_tell_of_quiet _ _ ⟨rfl, rfl, rfl⟩

/-- Whether there is a reader is not seen in the core. -/
@[simp] theorem core_endReader (s : Session) : s.endReader.core = s.core := by
  rw [endReader, core_log _ _ (by decide)]
  rfl

/-- Neither is whether it is stopped. -/
@[simp] theorem core_stopReader (s : Session) (t : Thread) : (s.stopReader t).core = s.core := by
  unfold stopReader
  split
  · rfl
  · split
    · rfl
    · split
      · rw [core_log _ _ (by decide)]
        rfl
      · exact core_endReader s

/-- A change of state is a line in the log, and the new state. -/
theorem become_cases (s : Session) (t : Thread) (next : Link.ConnectionState) :
    ∃ level message, s.become t next = { s.log t level message with link.state := next } := by
  unfold become
  simp only []
  split
  · exact ⟨_, _, rfl⟩
  · exact ⟨_, _, rfl⟩

/-- A change of state is no answer, although it is logged at the level of answers. -/
theorem answer?_change (change : String) :
    (Note.record { level := .trace, origin := .link
                   message := "Connection state " ++ change }).answer? = none := by
  have hne : ∀ line, "Connection state " ++ change ≠ "GRBL: " ++ line := by
    intro line h
    have hchars := congrArg String.toList h
    rw [String.toList_append, String.toList_append] at hchars
    exact absurd (List.cons.inj hchars).1 (by decide)
  simp only [Note.answer?, hne, false_and, if_false]

/-- A change of state changes nothing but whether the link takes lines. -/
theorem core_become (s : Session) (t : Thread) (next : Link.ConnectionState) :
    (s.become t next).core =
      { s.core with online := s.link.isOpen && next.isConnected } := by
  have hstate : ∀ s' : Session, s'.core = s.core → s'.link = s.link →
      ({ s' with link.state := next } : Session).core =
        { s.core with online := s.link.isOpen && next.isConnected } := by
    intro s' hcore hlink
    rw [← hcore, ← hlink]
    rfl
  unfold become
  split
  · exact hstate _ (core_tell_of_quiet _ _ ⟨rfl, answer?_change _, rfl⟩) rfl
  · exact hstate _ (core_log _ _ (by decide) _) rfl

/-- A change of state changes nothing else of the link. -/
@[simp] theorem link_become (s : Session) (t : Thread) (next : Link.ConnectionState) :
    (s.become t next).link = { s.link with state := next } := by
  obtain ⟨level, message, h⟩ := s.become_cases t next
  rw [h]
  rfl

/-- It leaves the observer's rules as they are. -/
@[simp] theorem rules_become (s : Session) (t : Thread) (next : Link.ConnectionState) :
    (s.become t next).rules = s.rules := by
  obtain ⟨level, message, h⟩ := s.become_cases t next
  rw [h]
  rfl

/-- What leaves the core as it is does so any number of times. -/
theorem core_foldl {α : Type} {f : Session → α → Session} (hf : ∀ s a, (f s a).core = s.core)
    (l : List α) (s : Session) : (l.foldl f s).core = s.core := by
  induction l generalizing s with
  | nil => rfl
  | cons a l ih => rw [List.foldl_cons, ih, hf]

/-- Taking the connection down closes the slot, and the link takes no more lines. -/
theorem core_shut_become (s : Session) (t : Thread) :
    ({ s with link := s.link.shut }.become t .disconnected).core = s.core.next .closed := by
  rw [core_become, Core.next_closed]
  simp [core, Link.shut]

/-- The report of an ended connection is made or not. -/
theorem becomeDisconnected_cases (s : Session) (t : Thread) (report : Session → Session) :
    s.becomeDisconnected t report = s.become t .disconnected ∨
      s.becomeDisconnected t report = report (s.become t .disconnected) := by
  simp only [becomeDisconnected]
  split
  · exact .inl rfl
  · exact .inr rfl

/-- To take the connection down closes the slot. -/
theorem core_teardown (s : Session) (t : Thread) :
    (s.teardown t).core = s.core.next .closed := by
  simp only [teardown]
  rcases becomeDisconnected_cases { s.stopReader t with link := (s.stopReader t).link.shut } t
    (fun s => (s.log t .info s.farewell).emit t (.status "Disconnected" s.farewell)) with h | h
  · rw [h, core_shut_become, core_stopReader]
  · rw [h, core_emit_status, core_log _ _ (by decide), core_shut_become, core_stopReader]

/-- A connection that is taken down twice is down. -/
theorem next_closed_closed (c : Core) : (c.next .closed).next .closed = c.next .closed := by
  simp [Core.next_closed, Link.Slot.close]

/-- A device that has taken the same bytes. -/
theorem core_withDevice {s : Session} {d : Bench.Device} (h : d.wire = s.device.wire) :
    ({ s with device := d } : Session).core = s.core := by
  simp [core, h]

/-- A job is replaced in the core, too. -/
theorem core_setJob (s : Session) (i : Nat) (j : Job) :
    (s.setJob i j).core = { s.core with jobs := s.core.jobs.set i j } := rfl

end Session

/-! ### Kinds of acts -/

namespace Act

/-- An act of the reader. -/
def isReading : Act → Bool
  | .dropped | .closed | .heard _ => true
  | _ => false

/-- A move of a job's thread. -/
def isMove : Act → Bool
  | .armed _ _ | .wrote _ _ _ | .refused _ _ | .returned _ _ _ | .took _ _ _ | .moved _ _
  | .released _ => true
  | _ => false

/-- What may happen while the threads run. An observer may pause a job that has
reported progress. -/
def isRunning : Act → Bool
  | .paused _ => true
  | a => a.isReading || a.isMove

/-- The rest of a job's line is taken, because its write is let go. -/
def isYielding : Act → Bool
  | .yielded _ _ _ => true
  | _ => false

/-- Some bytes were to be written, and the connection broke. -/
def isBreak (bytes : List UInt8) : Act → Bool
  | .broke taken => taken.isPrefixOf bytes
  | _ => false

/-- The operator sends some bytes that are shown as the given text: it is `done`, or the
connection breaks, or nothing is tried. -/
def isSend (a done : Act) (bytes : List UInt8) (shown : String) : Bool :=
  a = done || a = .withheld shown || a.isBreak bytes

/-- What may come of sending something. -/
theorem isSend_cases {done a : Act} {bytes : List UInt8} {shown : String}
    (h : a.isSend done bytes shown = true) :
    a = done ∨ a = .withheld shown ∨ ∃ taken, a = .broke taken ∧ taken <+: bytes := by
  simp only [isSend, Bool.or_eq_true, decide_eq_true_eq, or_assoc] at h
  refine h.imp_right (Or.imp_right fun hbreak => ?_)
  cases a with
  | broke taken => exact ⟨taken, rfl, List.isPrefixOf_iff_prefix.mp hbreak⟩
  | _ => cases hbreak

/-- The reader's acts are acts of a running thread. -/
theorem isRunning_of_isReading {a : Act} (h : a.isReading = true) : a.isRunning = true := by
  cases a <;> simp_all [isReading, isRunning]

/-- The moves of jobs are, too. -/
theorem isRunning_of_isMove {a : Act} (h : a.isMove = true) : a.isRunning = true := by
  cases a <;> simp_all [isMove, isRunning, isReading]

/-- The threads by themselves do not meddle. -/
theorem not_meddling_of_isRunning {a : Act} (h : a.isRunning = true) :
    (!a.isMeddling) = true := by
  cases a <;> simp_all [isRunning, isReading, isMove, isMeddling]

end Act

/-! ### Going on by acts -/

/-- One core goes on to another by acts of a kind. -/
def Core.Goes (P : Act → Bool) (c c' : Core) : Prop :=
  ∃ acts, c.Permits acts ∧ c.after acts = c' ∧ ∀ a ∈ acts, P a = true

namespace Core.Goes

variable {P Q : Act → Bool} {c c' c'' : Core}

/-- No acts lead anywhere else. -/
theorem refl (P : Act → Bool) (c : Core) : Goes P c c := ⟨[], trivial, rfl, by simp⟩

/-- What leaves the core alone needs no act. -/
theorem of_eq (h : c' = c) : Goes P c c' := h ▸ refl P c

/-- One act that is possible leads on. -/
theorem act {a : Act} (ha : a.Possible c) (hP : P a = true) : Goes P c (c.next a) :=
  ⟨[a], ⟨ha, trivial⟩, rfl, by simpa using hP⟩

/-- Acts lead on from where others have led. -/
theorem trans (h : Goes P c c') (h' : Goes P c' c'') : Goes P c c'' := by
  obtain ⟨acts, hp, rfl, hP⟩ := h
  obtain ⟨acts', hp', rfl, hP'⟩ := h'
  refine ⟨acts ++ acts', Core.permits_append.mpr ⟨hp, hp'⟩, Core.after_append .., ?_⟩
  intro a hmem
  rcases List.mem_append.mp hmem with h | h
  · exact hP a h
  · exact hP' a h

/-- Acts of a kind are acts of a wider one. -/
theorem mono (h : Goes P c c') (hPQ : ∀ a, P a = true → Q a = true) : Goes Q c c' := by
  obtain ⟨acts, hp, ha, hP⟩ := h
  exact ⟨acts, hp, ha, fun a hmem => hPQ a (hP a hmem)⟩

/-- A sound core goes to a sound one. -/
theorem sound (h : Goes P c c') (hs : c.Sound) : c'.Sound := by
  obtain ⟨acts, hp, rfl, -⟩ := h
  exact hp.sound hs

/-- A job that was started stays so. -/
theorem ne_idle (h : Goes P c c') {i : Nat} (hstarted : (c.job i).snapshot.state ≠ .idle) :
    (c'.job i).snapshot.state ≠ .idle := by
  obtain ⟨acts, hp, rfl, -⟩ := h
  obtain ⟨hlives, hjob⟩ := hp.job i
  rw [hjob]
  exact hlives.invariant (P := fun _ j => j.snapshot.state ≠ .idle) hstarted
    fun _ _ hfit hne => Job.ne_idle_onJob hfit hne

/-- What every act of the kind leaves alone stays as it is. -/
theorem keeps {α : Type} {f : Core → α} (h : Goes P c c')
    (hf : ∀ c a, P a = true → f (c.next a) = f c) : f c' = f c := by
  obtain ⟨acts, -, rfl, hP⟩ := h
  induction acts generalizing c with
  | nil => rfl
  | cons a acts ih =>
    exact (ih fun b hb => hP b (List.mem_cons_of_mem _ hb)).trans (hf c a (hP a (by simp)))

/-- It has as many jobs then. -/
theorem length_jobs (h : Goes P c c') : c'.jobs.length = c.jobs.length :=
  h.keeps (f := fun c => c.jobs.length) fun c a _ => Core.length_next_jobs c a

end Core.Goes

/-- The reader leaves the jobs alone. -/
theorem Core.next_jobs_of_isReading (c : Core) (a : Act) (h : a.isReading = true) :
    (c.next a).jobs = c.jobs := by
  cases a <;> first | rfl | cases h

/-- The transport can always be dropped. -/
theorem Core.possible_dropped (c : Core) : Act.Possible c .dropped :=
  Act.possible_of_no_job rfl trivial

/-- The slot can always be closed. -/
theorem Core.possible_closed (c : Core) : Act.Possible c .closed :=
  Act.possible_of_no_job rfl trivial

/-! ### The reader -/

namespace Session

open GcodeSender.Core (Goes possible_dropped possible_closed)

/-- To take the connection down is an act. -/
theorem teardown_goes {P : Act → Bool} (s : Session) (t : Thread) (hP : P .closed = true) :
    s.core.Goes P (s.teardown t).core := by
  rw [core_teardown]
  exact Goes.act (possible_closed _) hP

/-- The observer may take the connection down from within a report. -/
theorem core_reportStatus (s : Session) (t : Thread) (state raw : String) :
    (s.reportStatus t state raw).core = s.core ∨
      (s.reportStatus t state raw).core = s.core.next .closed := by
  have hemit := core_emit_status s t state raw
  simp only [reportStatus]
  generalize s.emit t (.status state raw) = told at hemit ⊢
  rw [← hemit]
  split
  · exact .inr (core_teardown { told with rules := told.rules.erase (.disconnectOn state t) } t)
  · exact .inl rfl

/-- A status may make the observer do so. -/
theorem reportStatus_goes (s : Session) (t : Thread) (state raw : String) :
    s.core.Goes Act.isReading (s.reportStatus t state raw).core := by
  rcases core_reportStatus s t state raw with h | h
  · exact Goes.of_eq h
  · rw [h]
    exact Goes.act (possible_closed _) rfl

/-- A field that cannot be read is only reported. -/
theorem core_reportFieldError (s : Session) (e : Machine.FieldError) :
    (s.reportFieldError e).core = s.core := by
  simp [reportFieldError]

/-- A status report causes no other act than its status does. -/
theorem handleReport_goes (s : Session) (r : Machine.StatusReport) :
    s.core.Goes Act.isReading (s.handleReport r).core := by
  have hstatus := reportStatus_goes
    { s with link.status := some r.status, link.position := r.workPosition.or s.link.position }
    .reader r.state r.raw
  refine Goes.trans hstatus (Goes.of_eq ?_)
  simp only [handleReport]
  rw [core_foldl core_reportFieldError]
  split <;> simp

/-- An answer changes the slot alone. -/
theorem core_handleAnswer (s : Session) (line : String) :
    (s.handleAnswer line).core =
      { s.core with slot := (s.core.slot.offer line).2 } := by
  simp only [handleAnswer]
  split
  · rfl
  · rw [core_log _ _ (by decide)]
    rfl

/-- Every line that is received is logged, and so an answer is on record before it is
offered to the slot. -/
theorem core_received (s : Session) (line : String) :
    ((s.log .reader .trace ("GRBL: " ++ line)).emit .reader (.log ("GRBL: " ++ line))).core =
      { s.core with heard := s.core.heard ++ if isAnswer line = true then [line] else [] } := by
  have hline : String.ofList (("GRBL: " ++ line).toList.drop 6) = line := by
    rw [String.toList_append]
    exact String.ofList_toList
  rw [core_emit_log _ _ (isPlain_append rfl line)]
  simp only [core, log, tell, List.filterMap_append, List.filterMap_cons, List.filterMap_nil,
    Note.progress?, Note.answer?, Note.unsent?, hline, true_and, List.append_nil]
  cases isAnswer line <;> rfl

/-- An answer is heard only while the jobs are at rest. -/
theorem handleText_goes (s : Session) (line : String) (hrest : s.core.AtRest) :
    s.core.Goes Act.isReading (s.handleText line).core := by
  have hreceived := core_received s line
  simp only [handleText]
  generalize (s.log .reader .trace ("GRBL: " ++ line)).emit .reader (.log ("GRBL: " ++ line)) =
    told at hreceived ⊢
  by_cases hanswer : isAnswer line = true
  · -- an answer is no status report
    have hheard : Act.Possible s.core (.heard line) :=
      Act.possible_of_no_job rfl ⟨hrest, hanswer⟩
    split
    · rename_i r hr
      simp [isAnswer_of_report hr] at hanswer
    · rw [if_pos hanswer] at hreceived
      rw [if_pos hanswer, core_handleAnswer, hreceived]
      have hgoes := Goes.act (P := Act.isReading) hheard rfl
      rwa [Core.next_heard] at hgoes
  · rw [if_neg hanswer, List.append_nil] at hreceived
    rw [← show told.core = s.core from hreceived]
    split
    · exact handleReport_goes _ _
    · rw [if_neg hanswer]
      exact Goes.refl _ _

/-- A line is heard as an answer, or is reported, or cannot be decoded. -/
theorem handleLine_goes (s : Session) (bytes : List UInt8) (hrest : s.core.AtRest) :
    s.core.Goes Act.isReading (s.handleLine bytes).core := by
  unfold handleLine
  split
  · simp only []
    -- a blank line is passed over
    split
    · exact Goes.refl _ _
    · exact handleText_goes s _ hrest
  · exact Goes.of_eq (by simp)

/-- Whether the reader goes on is not seen in the core. -/
@[simp] theorem core_endIfStopping (s : Session) : s.endIfStopping.core = s.core := by
  unfold endIfStopping
  split
  · split
    · exact core_endReader s
    · rfl
  · rfl

/-- So it is with a line that is complete. -/
theorem completeLine_goes (s : Session) (r : Link.Reader) (chunk : List UInt8)
    (hrest : s.core.AtRest) : s.core.Goes Act.isReading (s.completeLine r chunk).core := by
  have hline := handleLine_goes
    { s with link.reader := some { r with pending := [], fresh := false } } (r.pending ++ chunk)
    hrest
  simp only [completeLine, core_endIfStopping]
  exact hline

/-- A fault is reported like a status. -/
theorem reportFault_goes (s : Session) (reason : String) :
    s.core.Goes Act.isReading (s.reportFault reason).core := by
  have hsaid : ∀ s' : Session, s'.core = s.core → s.core.Goes Act.isReading
      ((s'.reportStatus .reader "Error" ("Serial error: " ++ reason)).become
        .reader .faulted).core := by
    intro s' hs'
    rw [core_become, ← hs']
    refine (reportStatus_goes s' .reader "Error" ("Serial error: " ++ reason)).trans ?_
    have hdropped := Goes.act (P := Act.isReading)
      (possible_dropped (s'.reportStatus .reader "Error" ("Serial error: " ++ reason)).core) rfl
    simpa [Core.next_dropped, Link.ConnectionState.isConnected] using hdropped
  exact hsaid _ (by simp)

/-- A broken connection is taken down, perhaps by the observer once more. -/
theorem core_closeAfterFault (s : Session) : s.closeAfterFault.core = s.core.next .closed := by
  have hclosed := core_shut_become s .reader
  simp only [closeAfterFault, core_endReader]
  rcases becomeDisconnected_cases { s with link := s.link.shut } .reader
    (fun s => s.reportStatus .reader "Disconnected" s.farewell) with h | h
  · rw [h, hclosed]
  · rw [h]
    rcases core_reportStatus ({ s with link := s.link.shut }.become .reader .disconnected) .reader
      "Disconnected" ({ s with link := s.link.shut }.become .reader .disconnected).farewell
      with hsaid | hsaid
    · rw [hsaid, hclosed]
    · rw [hsaid, hclosed, next_closed_closed]

/-- After a fault the reader closes the slot. -/
theorem closeAfterFault_goes (s : Session) :
    s.core.Goes Act.isReading s.closeAfterFault.core := by
  rw [core_closeAfterFault]
  exact Goes.act (possible_closed _) rfl

/-- A fault causes the acts of its report, and that. -/
theorem fault_goes (s : Session) (reason : String) :
    s.core.Goes Act.isReading (s.fault reason).core := by
  have hreport := reportFault_goes s reason
  simp only [fault]
  split
  · -- while a write hangs the reader only marks itself, and the core cannot see that
    refine hreport.trans (Goes.of_eq ?_)
    split <;> rfl
  · exact hreport.trans (closeAfterFault_goes _)

/-- What one read can come to: nothing, a mark of how far the reader is, a line at its end, or
a fault. -/
inductive Reads (s : Session) (r : Link.Reader) : Session → Prop
  | nothing : Reads s r s
  | mark (pending : List UInt8) (fresh : Bool) :
      Reads s r { s with link.reader := some { r with pending, fresh } }
  | line (chunk : List UInt8) : Reads s r (s.completeLine r chunk)
  | fault (reason : String) : Reads s r (s.fault reason)

/-- Whatever there is to read, it comes to one of these. -/
theorem reads_readItem {s next : Session} {r : Link.Reader} {item : Bench.Item}
    (h : s.readItem r item = next) : s.Reads r next := by
  rw [← h]
  -- an item is some bytes, a fault or the end, and a line may end with any but a fault
  cases item with
  | bytes content =>
    simp only [readItem]
    split
    · exact .line _
    · exact .mark _ _
  | fault f =>
    simp only [readItem]
    split
    · exact .nothing
    · split
      · exact .mark r.pending false
      · exact .fault _
  | ending =>
    simp only [readItem]
    split
    · exact .line []
    · exact .fault _

/-- Whatever the reader finds, it causes acts of the reader. -/
theorem readItem_goes (s : Session) (r : Link.Reader) (item : Bench.Item)
    (hrest : s.core.AtRest) : s.core.Goes Act.isReading (s.readItem r item).core := by
  generalize h : s.readItem r item = next
  cases reads_readItem h with
  | nothing | mark => exact Goes.refl _ s.core
  | line chunk => exact completeLine_goes s r chunk hrest
  | fault reason => exact fault_goes s reason

/-- One read. -/
theorem read?_goes {s next : Session} (h : s.read? = some next) (hrest : s.core.AtRest) :
    s.core.Goes Act.isReading next.core := by
  unfold read? at h
  split at h
  · rename_i r item rest _ _
    split at h
    · cases h
    · rw [← Option.some.inj h]
      exact readItem_goes { s with device.inbound := leftOver item ++ rest } r item hrest
  · cases h

/-- A read that times out causes none. -/
@[simp] theorem core_timeOut (s : Session) : s.timeOut.core = s.core := by
  unfold timeOut
  split <;> rfl

/-! ### Writing -/

/-- How a write of some bytes ends, and with which core, when `c` is the core as it begins. -/
inductive Written.Leads (c : Core) (mayHang : Bool) (bytes : List UInt8) : Written → Core → Prop
  | delivered :
      Leads c mayHang bytes (.returned (.ok ())) { c with wire := c.wire ++ bytes }
  | failed (reason : String) {taken : List UInt8} (h : taken <+: bytes) :
      Leads c mayHang bytes (.returned (.error (.io reason))) (c.next (.broke taken))
  | hanging {taken rest : List UInt8} (hmay : mayHang = true) (h : taken ++ rest = bytes) :
      Leads c mayHang bytes (.hanging rest) { c with wire := c.wire ++ taken }

/-- Whatever the observer does about a write that has failed, the connection is down. -/
theorem core_failWrite (s : Session) (t : Thread) (reason : String) :
    (s.failWrite t reason).core = s.core.next .closed := by
  -- from the status on it makes no difference whether the connection is down already
  have hdown : ∀ s' : Session, s'.core = s.core ∨ s'.core = s.core.next .closed →
      ((s'.become t .faulted).teardown t).core = s.core.next .closed := by
    intro s' hs'
    have honline : s'.core.next .dropped = (s'.become t .faulted).core := by
      rw [core_become, Core.next_dropped]
      simp [Link.ConnectionState.isConnected]
    have hdropped : (s'.core.next .dropped).next .closed = s'.core.next .closed := by
      rw [Core.next_closed, Core.next_closed, Core.next_dropped]
    rw [core_teardown, ← honline, hdropped]
    rcases hs' with hs' | hs'
    · rw [hs']
    · rw [hs', next_closed_closed]
  simp only [failWrite]
  refine hdown _ ?_
  have hsaid : ∀ s' : Session, s'.core = s.core →
      (s'.reportStatus t "Error" ("Serial error: " ++ reason)).core = s.core ∨
        (s'.reportStatus t "Error" ("Serial error: " ++ reason)).core = s.core.next .closed := by
    intro s' hs'
    -- the observer may disconnect when it is told, which closes the connection first
    rw [← hs']
    exact core_reportStatus s' t _ _
  exact hsaid _ (by simp)

/-- A write that has gone through is reported, and nothing else happens. -/
theorem core_confirmWrite (s : Session) (t : Thread) (shown : String) :
    (s.confirmWrite t shown).core = s.core := by
  simp only [confirmWrite]
  rw [core_emit_log _ _ (isPlain_append rfl shown), core_log _ _ (by decide)]

/-- What is withheld is reported as such, and nothing else happens. -/
theorem core_refuseWrite (s : Session) (t : Thread) (shown : String) :
    (s.refuseWrite t shown).core = s.core.next (.withheld shown) := by
  have hshown :
      String.ofList ((refusalWords ++ shown).toList.drop refusalWords.length) = shown := by
    rw [String.toList_append, show refusalWords.length = refusalWords.toList.length from rfl,
      List.drop_left]
    exact String.ofList_toList
  -- the words of the refusal are what the core recognises it by
  have hunsent : (Note.event (.log (refusalWords ++ shown))).unsent? = some shown := by
    simp only [Note.unsent?, hshown, if_true]
  -- the log comes first, which the core does not see
  have htold : ∀ s' : Session, s'.core = s.core →
      (s'.emit t (.log (refusalWords ++ shown))).core = s.core.next (.withheld shown) := by
    intro s' hs'
    rw [← hs', Core.next_withheld]
    simp [core, emit, tell, List.filterMap_append, Note.progress?, Note.answer?, hunsent]
  exact htold _ (core_log _ _ (by decide) _)

/-- What follows a delivery, when the bytes that it took are on the wire. -/
theorem afterDelivery_leads {s : Session} {c : Core} {mayHang : Bool} {bytes taken : List UInt8}
    {delivery : Bench.Delivery} (htakes : delivery.Takes mayHang bytes taken)
    (hs : s.core = { c with wire := c.wire ++ taken }) (t : Thread) (shown : String) :
    Written.Leads c mayHang bytes (s.afterDelivery t shown delivery).1
      (s.afterDelivery t shown delivery).2.core := by
  cases htakes with
  | delivered =>
    simp only [afterDelivery, core_confirmWrite, hs]
    exact .delivered
  | failed reason h =>
    have hbroke : s.core.next .closed = c.next (.broke taken) := by
      rw [hs, Core.next_closed, Core.next_broke]
    simp only [afterDelivery, core_failWrite, hbroke]
    exact .failed reason h
  | hanging hmay h =>
    simp only [afterDelivery, hs]
    exact .hanging hmay h

/-- Without a connection, nothing is written, and that is reported. -/
theorem write_offline {s : Session} (h : s.link.canSend = false) (t : Thread)
    (bytes : List UInt8) (shown : String) (isLine : Bool) :
    (s.write t bytes shown isLine).1 = .returned (.error .notConnected) ∧
      (s.write t bytes shown isLine).2.core = s.core.next (.withheld shown) := by
  simp only [write, h, Bool.false_eq_true, if_false]
  exact ⟨trivial, core_refuseWrite s t shown⟩

/-- On a connection, a line is counted, and then written. -/
theorem write_online {s : Session} (h : s.link.canSend = true) (t : Thread)
    (bytes : List UInt8) (shown : String) (isLine : Bool) :
    Written.Leads { s.core with slot := if isLine then s.core.slot.noteSent else s.core.slot }
      (t = .streamer) bytes (s.write t bytes shown isLine).1
      (s.write t bytes shown isLine).2.core := by
  obtain ⟨taken, htakes, hwire⟩ := s.device.transmit_takes (t = .streamer) bytes
  simp only [write, h, if_true]
  -- a line is counted before a byte of it goes out, so that its answer cannot come too early
  cases isLine with
  | false =>
    simp only [Bool.false_eq_true, if_false]
    refine afterDelivery_leads
      (s := { s with device := (s.device.transmit (t = .streamer) bytes).2 }) htakes ?_ t shown
    simp [core, hwire]
  | true =>
    simp only [if_true]
    refine afterDelivery_leads
      (s := { s with link.slot := s.link.slot.noteSent
                     device := (s.device.transmit (t = .streamer) bytes).2 }) htakes ?_ t shown
    simp [core, hwire, Link.canSend]

/-! ### Pausing -/

/-- Quiet notes leave the core as it is, however many. -/
theorem core_tell_all {notes : List Note} (h : ∀ n ∈ notes, n.Quiet) (t : Thread)
    (s : Session) : (notes.foldl (fun s n => s.tell t n) s).core = s.core := by
  induction notes generalizing s with
  | nil => rfl
  | cons n notes ih =>
    rw [List.foldl_cons, ih fun m hm => h m (List.mem_cons_of_mem _ hm),
      core_tell_of_quiet _ _ (h n (by simp))]

/-- A job is announced quietly, if what is shown of it is plain. -/
theorem announce_quiet (message : String) {shown : String} (h : isPlain shown = true) :
    ∀ n ∈ Job.announce message shown, n.Quiet := by
  intro n hn
  simp only [Job.announce, Job.record, List.mem_cons, List.not_mem_nil, or_false] at hn
  rcases hn with rfl | rfl
  · exact quiet_record nofun
  · exact quiet_log h

/-- The jobs of the core are those of the session. -/
theorem core_job (s : Session) (i : Nat) : s.core.job i = s.job i := rfl

/-- To put a job in its own place changes nothing. -/
@[simp] theorem setJob_job (s : Session) (i : Nat) : s.setJob i (s.job i) = s := by
  have hset : s.jobs.set i (s.jobs.getD i {}) = s.jobs := by
    by_cases h : i < s.jobs.length
    · simp [h]
    · exact List.set_eq_of_length_le (Nat.le_of_not_lt h)
  simp only [setJob, job, hset]

/-- A job that is running is paused; any other stays as it is. -/
theorem pauseFrom_goes (s : Session) (t : Thread) (i : Nat) :
    s.core.Goes Act.isRunning (s.pauseFrom t i).core := by
  -- only a running job is paused
  by_cases hr : (s.job i).snapshot.state = .running
  · have hpaused : Act.Possible s.core (.paused i) :=
      Act.possible_of_job rfl trivial hr
    have hcore : (s.pauseFrom t i).core = s.core.next (.paused i) := by
      rw [Core.next_of_silent s.core rfl rfl rfl rfl]
      simp only [pauseFrom, Act.onJob, core_job, Job.pause_of_running hr]
      rw [core_tell_all (announce_quiet _ rfl), core_setJob]
      rfl
    rw [hcore]
    exact Goes.act hpaused rfl
  · refine Goes.of_eq ?_
    have hpause : (s.job i).pause = (s.job i, []) := by
      simp [Job.pause, Job.Snapshot.pause?, hr]
    simp [pauseFrom, hpause]

end Session

end GcodeSender
