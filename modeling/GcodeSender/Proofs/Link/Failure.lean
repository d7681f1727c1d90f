import GcodeSender.Proofs.Job.CutOff

/-!
# `GcodeSender.Proofs.Link.Failure`: a transport that fails

A transport can fail under three threads: under the reader when it reads, under the operator
when a line or a single-byte command is written, and under a job when its line is written.
`Failure` names the place, `Failure.reason?` says whether it fails next and why, and
`Failure.next?` is the session after that.

* `Failure.happens`: whichever thread finds it, the observer is told the same three events,
  and the link is left without its connection (`Link.down`). The threads of the jobs have
  not moved yet.
* `Job.due?`: what a job's thread will then tell the observer, while it runs to rest. What
  was told and what is due together stay the same in every move (`Recedes.takes`), so at
  rest exactly what was due has been told.

A thread reports the failure before it takes the connection down, and an observer may
disconnect when it is told. The end of the connection is then reported twice, whether the
reader tells of it (`toldOnError_disconnects_twice`) or a thread that writes
(`toldOnFailedWrite_disconnects_twice`).
-/

set_option autoImplicit false

namespace GcodeSender

/-! ### What the observer is told -/

/-- The event that an entry holds, with the thread that tells it. -/
def Entry.event? (e : Entry) : Option (Thread × Event) := e.note.event?.map (e.thread, ·)

/-- The link without its connection. What it remembers of it stays, but for the slot. -/
def Link.down (l : Link) : Link :=
  { l with state := .disconnected, isOpen := false, reader := none, slot := l.slot.close }

/-- The job's line could not be written. -/
def Job.failing (j : Job) (reason : String) : Job :=
  { j with stage := .failing .transport (sendFailure j.lineNumber (.io reason)) }

namespace Session

/-- What the observer was told so far, oldest first. -/
def events (s : Session) : List (Thread × Event) := s.journal.filterMap Entry.event?

/-- A note adds the event that it holds. -/
theorem events_tell (s : Session) (t : Thread) (n : Note) :
    (s.tell t n).events = s.events ++ (n.event?.map (t, ·)).toList := by
  cases n <;> simp [events, tell, List.filterMap_append, Entry.event?, Note.event?]

/-- A line in the log is no event. -/
@[simp] theorem events_log (s : Session) (t : Thread) (level : Log.Level) (message : String) :
    (s.log t level message).events = s.events := by
  simp [log, events_tell, Note.event?]

/-- An event is told. -/
@[simp] theorem events_emit (s : Session) (t : Thread) (e : Event) :
    (s.emit t e).events = s.events ++ [(t, e)] := by
  simp [emit, events_tell, Note.event?]

/-- The state of the connection is logged, but no event. -/
@[simp] theorem events_become (s : Session) (t : Thread) (next : Link.ConnectionState) :
    (s.become t next).events = s.events := by
  obtain ⟨level, message, h⟩ := s.become_cases t next
  rw [h]
  exact events_log s t level message

/-- The observer is not told that the reader ends. -/
theorem events_endReader (s : Session) : s.endReader.events = s.events :=
  events_log { s with link.reader := none } .reader .debug _

/-- Of a reader that ends the link keeps nothing. -/
theorem link_endReader (s : Session) : s.endReader.link = { s.link with reader := none } := rfl

/-- The observer is not told that the reader is stopped. -/
theorem events_stopReader (s : Session) (t : Thread) : (s.stopReader t).events = s.events := by
  unfold stopReader
  split
  · rfl
  · rename_i r _
    split
    · rfl
    · split
      · exact events_log { s with link.reader := some { r with stopping := true } } t .warn _
      · exact events_endReader s

/-- The end of a connection is told in these words. -/
def goodbye (s : Session) (t : Thread) : Thread × Event :=
  (t, .status "Disconnected" s.farewell)

/-- The words name the port. -/
theorem goodbye_of_port {s s' : Session} (h : s'.link.port = s.link.port) (t : Thread) :
    s'.goodbye t = s.goodbye t := by
  unfold goodbye farewell
  rw [Link.label, h, Link.label]

/-! ### Taking a connection down -/

/-- Stopping the reader concerns the reader alone. -/
theorem link_stopReader (s : Session) (t : Thread) :
    ∃ reader, (s.stopReader t).link = { s.link with reader := reader } := by
  unfold stopReader
  split
  · exact ⟨s.link.reader, rfl⟩
  · split
    · exact ⟨s.link.reader, rfl⟩
    · split
      · exact ⟨_, rfl⟩
      · exact ⟨_, rfl⟩

/-- From outside, a reader that was not told to end before is stopped at once. -/
theorem stopReader_of_reader {s : Session} {t : Thread} {r : Link.Reader} (ht : t ≠ .reader)
    (hr : s.link.reader = some r) (hstop : r.stopping = false) : s.stopReader t = s.endReader := by
  simp [stopReader, hr, hstop, ht]

/-- The end of a connection is told, and that of no connection is not. -/
theorem events_becomeDisconnected (s : Session) (t : Thread) {report : Session → Session}
    {told : List (Thread × Event)}
    (h : (report (s.become t .disconnected)).events = s.events ++ told) :
    (s.becomeDisconnected t report).events =
      s.events ++ if s.link.state = .disconnected then [] else told := by
  unfold becomeDisconnected
  simp only []
  by_cases hs : s.link.state = .disconnected
  · rw [if_pos hs, if_pos hs, events_become, List.append_nil]
  · rw [if_neg hs, if_neg hs, h]

/-- Whether or not its end is reported, a link that becomes disconnected has no state but that. -/
theorem link_becomeDisconnected (s : Session) (t : Thread) {report : Session → Session}
    (h : ∀ s' : Session, (report s').link = s'.link) :
    (s.becomeDisconnected t report).link = { s.link with state := .disconnected } := by
  rcases becomeDisconnected_cases s t report with hs | hs
  · rw [hs, link_become]
  · rw [hs, h, link_become]

/-- A connection is taken down, and its end is told. -/
theorem events_teardown (s : Session) (t : Thread) :
    (s.teardown t).events =
      s.events ++ if s.link.state = .disconnected then [] else [s.goodbye t] := by
  obtain ⟨reader, hlink⟩ := link_stopReader s t
  have hevents := events_stopReader s t
  unfold teardown
  simp only []
  generalize s.stopReader t = stopped at hlink hevents ⊢
  have hstate : stopped.link.shut.state = s.link.state := by rw [Link.shut, hlink]
  have hshut : ({ stopped with link := stopped.link.shut } : Session).events = s.events := hevents
  rw [events_becomeDisconnected, hstate, hshut]
  rw [events_emit, events_log, events_become, ← goodbye_of_port (t := t) (s := s)]
  · rfl
  · rw [link_become, Link.shut, hlink]

/-- Whoever takes a connection down leaves at most the reader of it. -/
theorem exists_link_teardown (s : Session) (t : Thread) :
    ∃ reader, (s.teardown t).link = { s.link.down with reader := reader } := by
  obtain ⟨reader, hlink⟩ := link_stopReader s t
  refine ⟨reader, ?_⟩
  unfold teardown
  simp only []
  rw [link_becomeDisconnected, hlink]
  · rfl
  · exact fun _ => rfl

/-- From outside, a connection is taken down with its reader. -/
theorem link_teardown {s : Session} {t : Thread} {r : Link.Reader} (ht : t ≠ .reader)
    (hr : s.link.reader = some r) (hstop : r.stopping = false) :
    (s.teardown t).link = s.link.down := by
  unfold teardown
  simp only []
  rw [stopReader_of_reader ht hr hstop, link_becomeDisconnected, link_endReader]
  · rfl
  · exact fun _ => rfl

/-- What the observer is told of a transport that fails, and of the connection that ends with it. -/
def failureEvents (s : Session) (t : Thread) (reason : String) : List (Thread × Event) :=
  [(t, .error .transport ("Serial error: " ++ reason)),
    (t, .status "Error" ("Serial error: " ++ reason)), s.goodbye t]

/-- An observer that does not disconnect is told a status, and that is all. -/
theorem reportStatus_of_calm {s : Session} {t : Thread} {state : String}
    (h : .disconnectOn state t ∉ s.rules) (raw : String) :
    s.reportStatus t state raw = s.emit t (.status state raw) := by
  simp only [reportStatus]
  exact if_neg fun hrule => h (List.contains_iff_mem.mp hrule)

/-- A write that fails is reported, and takes the connection down with its reader. The observer
must leave it to the thread that writes: one that disconnects when it is told of the failure has
told of the end of the connection before. -/
theorem failWrite_of_reader {s : Session} {t : Thread} {r : Link.Reader} (ht : t ≠ .reader)
    (hr : s.link.reader = some r) (hstop : r.stopping = false)
    (hhasty : .disconnectOn "Error" t ∉ s.rules) (reason : String) :
    (s.failWrite t reason).events = s.events ++ s.failureEvents t reason ∧
      (s.failWrite t reason).link = s.link.down := by
  unfold failWrite
  simp only []
  rw [reportStatus_of_calm (by exact hhasty)]
  -- what has been told leaves the link as it was, so the teardown finds the reader still there
  generalize htold : ((s.log t .error ("Write failed on " ++ s.link.label ++ ": " ++ reason)).emit t
    (.error .transport ("Serial error: " ++ reason))).emit t
    (.status "Error" ("Serial error: " ++ reason)) = told
  have hlink : told.link = s.link := by rw [← htold]; rfl
  have hevents : told.events = s.events ++
      [(t, .error .transport ("Serial error: " ++ reason)),
        (t, .status "Error" ("Serial error: " ++ reason))] := by
    rw [← htold]
    simp
  constructor
  · have hport : (told.become t .faulted).link.port = s.link.port := by rw [link_become, hlink]
    have hstate : (told.become t .faulted).link.state ≠ .disconnected := by simp
    rw [events_teardown, if_neg hstate, events_become, hevents, goodbye_of_port hport]
    simp [failureEvents]
  · rw [link_teardown ht (by rw [link_become, hlink]; exact hr) hstop, link_become, hlink]
    rfl

/-! ### A read that fails -/

/-- A status is told once, if the observer does not disconnect or nothing is left to be
disconnected. -/
theorem events_reportStatus {s : Session} {t : Thread} {state : String}
    (h : .disconnectOn state t ∉ s.rules ∨ s.link.state = .disconnected) (raw : String) :
    (s.reportStatus t state raw).events = s.events ++ [(t, .status state raw)] := by
  simp only [reportStatus]
  split
  · rename_i hrule
    have hoff := h.resolve_left (not_not.mpr (List.contains_iff_mem.mp hrule))
    rw [events_teardown, if_pos (by exact hoff), List.append_nil]
    exact events_emit s t (.status state raw)
  · exact events_emit s t (.status state raw)

/-- Where the connection is down but for the reader, it stays so. -/
theorem link_reportStatus_of_down {s : Session} {l : Link}
    (h : ∃ reader, s.link = { l.down with reader := reader }) (t : Thread) (state raw : String) :
    ∃ reader, (s.reportStatus t state raw).link = { l.down with reader := reader } := by
  obtain ⟨reader, h⟩ := h
  simp only [reportStatus]
  split
  · obtain ⟨reader', hlink⟩ := exists_link_teardown
      { s.emit t (.status state raw) with
        rules := (s.emit t (.status state raw)).rules.erase (.disconnectOn state t) } t
    refine ⟨reader', hlink.trans ?_⟩
    rw [show (s.emit t (.status state raw)).link = s.link from rfl, h]
    rfl
  · exact ⟨reader, h⟩

/-- The reader takes the connection down and ends, whatever the observer makes of it. -/
theorem link_closeAfterFault (s : Session) : s.closeAfterFault.link = s.link.down := by
  have hdown : ∃ reader, (({ s with link := s.link.shut } : Session).become .reader
      .disconnected).link = { s.link.down with reader := reader } :=
    ⟨s.link.reader, by rw [link_become]; rfl⟩
  -- what the observer does about the report finds the connection down
  obtain ⟨reader, hlink⟩ : ∃ reader, (({ s with link := s.link.shut } : Session).becomeDisconnected
      .reader fun s => s.reportStatus .reader "Disconnected" s.farewell).link =
        { s.link.down with reader := reader } := by
    rcases becomeDisconnected_cases { s with link := s.link.shut } .reader
      (fun s => s.reportStatus .reader "Disconnected" s.farewell) with h | h
    · rw [h]
      exact hdown
    · rw [h]
      exact link_reportStatus_of_down hdown _ _ _
  unfold closeAfterFault
  simp only []
  rw [link_endReader, hlink]
  rfl

/-- It tells of the end of the connection once. -/
theorem events_closeAfterFault {s : Session} (h : s.link.state ≠ .disconnected) :
    s.closeAfterFault.events = s.events ++ [s.goodbye .reader] := by
  have hevents : (({ s with link := s.link.shut } : Session).become .reader
      .disconnected).events = s.events := events_become _ _ _
  have hport : (({ s with link := s.link.shut } : Session).become .reader
      .disconnected).link.port = s.link.port := by rw [link_become]; rfl
  have hstate : (({ s with link := s.link.shut } : Session).become .reader
      .disconnected).link.state = .disconnected := by rw [link_become]
  unfold closeAfterFault
  simp only []
  rw [events_endReader, events_becomeDisconnected, if_neg (by exact h)]
  · rfl
  · rw [events_reportStatus (.inr hstate), hevents, ← goodbye_of_port (t := .reader) hport]
    rfl

/-- An observer that does not disconnect leaves it to the reader to do so. -/
theorem reportFault_of_calm {s : Session} (hhasty : .disconnectOn "Error" .reader ∉ s.rules)
    (reason : String) :
    (s.reportFault reason).events = s.events ++
        [(.reader, .error .transport ("Serial error: " ++ reason)),
          (.reader, .status "Error" ("Serial error: " ++ reason))] ∧
      (s.reportFault reason).link = { s.link with state := .faulted } := by
  unfold reportFault
  simp only []
  generalize htold : (s.log .reader .error
    ("Serial error: " ++ reason ++ " (" ++ s.link.label ++ ")")).emit .reader
      (.error .transport ("Serial error: " ++ reason)) = told
  have hlink : told.link = s.link := by rw [← htold]; rfl
  have hevents : told.events =
      s.events ++ [(.reader, .error .transport ("Serial error: " ++ reason))] := by
    rw [← htold]
    simp
  -- nobody disconnects on what is told first, nor on the status that follows
  have hrules : .disconnectOn "Error" .reader ∉ told.rules := by
    rw [← htold]
    exact hhasty
  constructor
  · rw [events_become, events_reportStatus (.inl hrules), hevents]
    simp
  · rw [link_become, reportStatus_of_calm hrules, ← hlink]
    rfl

/-- A read that fails while no write hangs is reported, and the reader takes the connection down,
if the observer does not do so first. -/
theorem fault_of_calm {s : Session} (hfree : s.isHanging = false)
    (hhasty : .disconnectOn "Error" .reader ∉ s.rules) (reason : String) :
    (s.fault reason).events = s.events ++ s.failureEvents .reader reason ∧
      (s.fault reason).link = s.link.down := by
  -- what the observer does about the report lets no write begin
  have hjobs : (s.reportFault reason).jobs = s.jobs :=
    (reportFault_goes s reason).keeps (f := Core.jobs) Core.next_jobs_of_isReading
  have hhang : (s.reportFault reason).isHanging = false := by rw [isHanging, hjobs]; exact hfree
  unfold fault
  simp only []
  rw [hhang, if_neg (by decide)]
  obtain ⟨hevents, hlink⟩ := reportFault_of_calm hhasty reason
  have hstate : (s.reportFault reason).link.state ≠ .disconnected := by simp [hlink]
  constructor
  · rw [events_closeAfterFault hstate, hevents,
      goodbye_of_port (show (s.reportFault reason).link.port = s.link.port by rw [hlink])]
    simp [failureEvents]
  · rw [link_closeAfterFault, hlink]
    rfl

end Session

/-! ### Where a transport fails -/

/-- The reason for which a read of an item fails. A read that ends a call which has read
something does not fail: the next one does. -/
def Bench.Item.failure? (fresh : Bool) : Bench.Item → Option String
  | .bytes _ => none
  | .fault f => if f.isInterrupt || f.isTimeout then none else some f.text
  | .ending => if fresh then none else some Link.endOfStreamText

/-- The reason for which a write fails. -/
def Bench.Delivery.failure? : Bench.Delivery → Option String
  | .failed reason => some reason
  | .delivered | .hanging _ => none

/-- What the thread does under which the transport fails. -/
inductive Failure where
  /-- The reader reads. -/
  | read
  /-- The operator sends a line. -/
  | line (text : String)
  /-- The operator sends a single-byte command. -/
  | command (c : Machine.Realtime)
  /-- The thread of a job writes its line. -/
  | job (i : Nat)

namespace Failure

/-- The thread that finds the failure. -/
def thread : Failure → Thread
  | .read => .reader
  | .line _ | .command _ => .caller
  | .job _ => .streamer

/-- The reason for which it fails, if that is what comes next and it fails. -/
def reason? (s : Session) : Failure → Option String
  | .read =>
    match s.link.reader, s.device.inbound with
    | some r, item :: _ => item.failure? r.fresh
    | _, _ => none
  | .line text => (s.device.transmit false (Session.wireLine text)).1.failure?
  | .command c => (s.device.transmit false [c.byte]).1.failure?
  | .job i =>
    match (s.job i).stage with
    | .sending text => (s.device.transmit true (Session.wireLine text)).1.failure?
    | _ => none

/-- The session after that. -/
def next? (s : Session) : Failure → Option Session
  | .read => s.read?
  | .line text => some (s.sendLine .caller text).2
  | .command c => some (s.sendRealtime .caller c).2
  | .job i => s.advance? i

/-- The jobs after that: one whose own line could not be written knows it. -/
def jobs (reason : String) (s : Session) : Failure → List Job
  | .job i => s.jobs.set i ((s.job i).failing reason)
  | .read | .line _ | .command _ => s.jobs

/-- The reader and the operator act while the threads of the jobs are at rest. -/
def IsTimely (s : Session) : Failure → Prop
  | .job _ => True
  | .read | .line _ | .command _ => s.core.AtRest

open Session

variable {s : Session} {f : Failure} {reason : String}

/-- A delivery with a reason is one that has failed for it. -/
theorem failed_of_failure? {d : Bench.Delivery} (h : d.failure? = some reason) :
    d = .failed reason := by
  cases d with
  | failed => rw [Option.some.inj h]
  | delivered | hanging => cases h

/-- A write that fails on a connection. -/
theorem write_of_failed {t : Thread} {r : Link.Reader} (ht : t ≠ .reader)
    (hon : s.link.canSend = true) (hr : s.link.reader = some r) (hstop : r.stopping = false)
    (hhasty : .disconnectOn "Error" t ∉ s.rules) {bytes : List UInt8}
    (h : (s.device.transmit (t = .streamer) bytes).1 = .failed reason)
    (shown : String) (isLine : Bool) :
    (s.write t bytes shown isLine).1 = .returned (.error (.io reason)) ∧
      (s.write t bytes shown isLine).2.events = s.events ++ s.failureEvents t reason ∧
      (s.write t bytes shown isLine).2.link = s.link.down := by
  -- what the link has counted is forgotten with the connection
  obtain ⟨noted, hnoted, hlink⟩ : ∃ slot : Link.Slot, slot.close = s.link.slot.close ∧
      s.write t bytes shown isLine = (.returned (.error (.io reason)),
        ({ s with link.slot := slot
                  device := (s.device.transmit (t = .streamer) bytes).2 } : Session).failWrite t
          reason) := by
    refine ⟨if isLine then s.link.slot.noteSent else s.link.slot, by cases isLine <;> rfl, ?_⟩
    cases isLine <;> simp [write, hon, afterDelivery, h]
  obtain ⟨hevents, hdown⟩ := failWrite_of_reader
    (s := { s with link.slot := noted, device := (s.device.transmit (t = .streamer) bytes).2 })
    ht hr hstop hhasty reason
  rw [hlink]
  refine ⟨rfl, hevents, hdown.trans ?_⟩
  simp only [Link.down, hnoted]

/-- The observer is told of the failure and of the end of the connection, whichever thread finds
it, and the link is left without a connection. The threads of the jobs have yet to learn of
it, but for one whose own line was not written. -/
theorem happens (hs : s.Stands) (hon : s.link.state.isConnected = true)
    (hfree : s.isHanging = false) (hhasty : .disconnectOn "Error" f.thread ∉ s.rules)
    (hreason : f.reason? s = some reason) :
    ∃ next, f.next? s = some next ∧
      next.events = s.events ++ s.failureEvents f.thread reason ∧
      next.link = s.link.down ∧ next.jobs = f.jobs reason s ∧
      (∀ text, f = .line text → (s.sendLine .caller text).1 = .error (.io reason)) ∧
      ∀ c, f = .command c → (s.sendRealtime .caller c).1 = .error (.io reason) := by
  -- a connection stands on a reader that was neither stopped nor ended
  have hup := up_of_connected hs hon
  obtain ⟨r, hr, hwatch⟩ : ∃ r, s.link.reader = some r ∧ r.watch = ⟨false, false⟩ := by
    have hreader : s.standing.reader = some ⟨false, false⟩ := by rw [hup]; rfl
    exact Option.map_eq_some_iff.mp hreader
  have hstop : r.stopping = false := congrArg Link.Watch.stopping hwatch
  have hopen : s.link.canSend = true := canSend_of_up hup
  cases f with
  | read =>
    simp only [reason?, hr] at hreason
    split at hreason
    · rename_i r' item rest hsome hitem
      obtain rfl := Option.some.inj hsome
      have hclosing : r.closing = false := congrArg Link.Watch.closing hwatch
      let popped : Session := { s with device.inbound := leftOver item ++ rest }
      have hread : s.read? = some (popped.readItem r item) := by
        simp [read?, hr, hitem, hclosing, popped]
      -- of what can be read only a fault and an end are failures, and they take the link down
      have hfault : popped.readItem r item = popped.fault reason := by
        cases item with
        | bytes => cases hreason
        | fault f =>
          simp only [Bench.Item.failure?] at hreason
          split at hreason
          · cases hreason
          · rename_i hf
            obtain ⟨hinterrupt, htimeout⟩ : f.isInterrupt = false ∧ f.isTimeout = false := by
              simpa using hf
            simp [readItem, hinterrupt, htimeout, Option.some.inj hreason]
        | ending =>
          simp only [Bench.Item.failure?] at hreason
          split at hreason
          · cases hreason
          · rename_i hfresh
            simp [readItem, hfresh, Option.some.inj hreason]
      obtain ⟨hevents, hdown⟩ := fault_of_calm (s := popped) hfree hhasty reason
      have hjobs : (popped.fault reason).jobs = s.jobs :=
        (fault_goes popped reason).keeps (f := Core.jobs) Core.next_jobs_of_isReading
      refine ⟨_, hread, ?_⟩
      rw [hfault]
      exact ⟨hevents, hdown, hjobs, by simp, by simp⟩
    · cases hreason
  | line text =>
    obtain ⟨hresult, hevents, hdown⟩ := write_of_failed (t := .caller) (by decide) hopen hr hstop
      hhasty (failed_of_failure? (by exact hreason)) text true
    refine ⟨_, rfl, hevents, hdown, jobs_write s .caller _ _ _, ?_, by simp⟩
    rintro _ ⟨rfl⟩
    simp only [sendLine, writeLine, hresult, Written.result]
  | command c =>
    obtain ⟨hresult, hevents, hdown⟩ := write_of_failed (t := .caller) (by decide) hopen hr hstop
      hhasty (failed_of_failure? (by exact hreason)) c.display false
    refine ⟨_, rfl, hevents, hdown, jobs_write s .caller _ _ _, by simp, ?_⟩
    rintro _ ⟨rfl⟩
    simp only [sendRealtime, hresult, Written.result]
  | job i =>
    simp only [reason?] at hreason
    split at hreason
    · rename_i text hstage
      have hmove : (s.job i).move = .send text := by simp [Job.move, hstage]
      obtain ⟨hresult, hevents, hdown⟩ := write_of_failed (t := .streamer) (by decide) hopen hr
        hstop hhasty (failed_of_failure? (by exact hreason)) text true
      have hadvance : s.advance? i = some
          ((s.writeLine .streamer text).2.setJob i ((s.job i).failing reason)) := by
        simp only [advance?, hmove, writeLine, hresult, jobWritten]
        rfl
      have hjobs : (s.writeLine .streamer text).2.jobs = s.jobs := jobs_write s .streamer _ _ _
      refine ⟨_, hadvance, hevents, hdown, ?_, by simp, by simp⟩
      simp only [setJob, hjobs, jobs]
    · cases hreason

/-- It is a turn like any other. -/
theorem fair {next : Session} (htimely : f.IsTimely s) (hreason : f.reason? s = some reason)
    (h : f.next? s = some next) : ∃ t, s.TakesFairly t next := by
  -- a read is the reader's turn, and a write is that of the thread that makes it
  cases f with
  | read =>
    simp only [reason?] at hreason
    split at hreason
    · rename_i r item rest _ hitem
      exact ⟨_, .read htimely hitem h⟩
    · cases hreason
  | line text =>
    obtain rfl := Option.some.inj h
    exact ⟨_, .sendLine htimely text⟩
  | command c =>
    obtain rfl := Option.some.inj h
    exact ⟨_, .sendRealtime s c⟩
  | job i => exact ⟨_, .job h⟩

end Failure

/-! ### What the jobs make of it -/

namespace Job

/-- What the job's thread will tell the observer when it finds that there is no connection: where
its line awaits an answer, that there will be none, and where its line has failed already, that. A
job that was stopped has nothing to tell. -/
def due? (j : Job) : Option Event :=
  if j.isActive then
    match j.stage with
    | .awaiting _ => some (.error .transport (JobError.linkClosed j.lineNumber).message)
    | .failing kind message => some (.error kind message)
    | _ => none
  else none

/-- The job's snapshot once its thread has told what is due. -/
def outcome (j : Job) : Snapshot := if j.due?.isSome then j.snapshot.fail else j.snapshot

/-- Without a connection, the job's thread writes no line: it waits for the operator, or it is on
the way to its end, or to the operator's next call. -/
def Recedes (j : Job) : Prop :=
  match j.stage with
  | .awaiting _ | .failing _ _ | .releasing | .retiring | .gone => True
  | .deciding | .parked => j.snapshot.state = .paused
  | .arming _ | .sending _ | .hanging _ _ | .crediting => False

/-- What a job tells the observer when the transport fails, for this reason if it fails under the
job's own line. -/
def complaint? (reason : String) (j : Job) : Option Event :=
  if j.isActive then
    match j.stage with
    | .awaiting _ => some (.error .transport (JobError.linkClosed j.lineNumber).message)
    | .sending _ => some (.error .transport (sendFailure j.lineNumber (.io reason)))
    | _ => none
  else none

variable {j : Job}

/-- A failure is due only from a job that is running or paused. -/
theorem isActive_of_due? (h : j.due?.isSome = true) : j.isActive = true := by
  unfold due? at h
  split at h
  · assumption
  · cases h

/-- Of a job that was ended, nothing is due. -/
theorem due?_of_not_active (h : j.isActive = false) : j.due? = none := by simp [due?, h]

/-- Until it is paused no longer, a failure does not end a job. -/
theorem fail_of_paused (h : j.snapshot.state = .paused) : j.snapshot.fail = j.snapshot := by
  simp [Snapshot.fail, h]

/-- A step of the thread's own, without a connection, is silent and leaves what is due, or it is
what tells it. -/
theorem Recedes.own {next : Job} {notes : List Note} (hback : j.Recedes)
    (h : j.move = .own next notes) :
    next.Recedes ∧
      (notes = [] ∧ next.due? = j.due? ∧ next.snapshot = j.snapshot ∨
        ∃ kind message, notes = failureNotes kind message ∧
          j.due? = some (.error kind message) ∧ next.due? = none ∧
          next.snapshot = j.snapshot.fail) := by
  unfold Recedes at hback
  unfold move at h
  cases hs : j.stage with
  | arming | sending | hanging | crediting => simp [hs] at hback
  | gone | awaiting | releasing => simp [hs] at h
  | deciding =>
    simp only [hs] at hback
    simp [hs, Snapshot.decide, hback] at h
  | parked =>
    simp only [hs] at hback
    simp [hs, hback] at h
  | failing kind message =>
    have hdue : j.isActive = true → j.due? = some (.error kind message) := by
      intro hactive
      simp [due?, hs, hactive]
    by_cases hp : j.snapshot.state = .paused
    · obtain ⟨rfl, rfl⟩ : { j with stage := .parked } = next ∧
          failureNotes kind message = notes := by simpa [hs, hp] using h
      exact ⟨hp, .inr ⟨kind, message, rfl, hdue (by simp [isActive_eq, hp]), by simp [due?],
        (fail_of_paused hp).symm⟩⟩
    · by_cases hr : j.snapshot.state = .running
      · obtain ⟨rfl, rfl⟩ : { j with snapshot := j.snapshot.fail, stage := .releasing } = next ∧
            failureNotes kind message = notes := by simpa [hs, hr] using h
        exact ⟨trivial, .inr ⟨kind, message, rfl, hdue (by simp [isActive_eq, hr]),
          by simp [due?], rfl⟩⟩
      · -- a job that was stopped has nothing to tell
        obtain ⟨rfl, rfl⟩ : { j with stage := .releasing } = next ∧ [] = notes := by
          simpa [hs, hp, hr] using h
        have hended : j.isActive = false := by simp [isActive_eq, hr, hp]
        refine ⟨trivial, .inl ⟨rfl, ?_, rfl⟩⟩
        rw [due?_of_not_active hended, due?_of_not_active (by exact hended)]
  | retiring =>
    obtain ⟨rfl, rfl⟩ : { j with stage := .gone } = next ∧ [] = notes := by simpa [hs] using h
    exact ⟨trivial, .inl ⟨rfl, by simp [due?, hs], rfl⟩⟩

end Job

namespace Session

/-- What the jobs have yet to tell the observer. -/
def dues (s : Session) : List (Thread × Event) :=
  (s.jobs.filterMap Job.due?).map (Thread.streamer, ·)

/-- A failure is told as it is, and no observer pauses a job because of it. -/
theorem failureNotes_told (s : Session) (kind : ErrorKind) (message : String) :
    ((Job.failureNotes kind message).foldl reportFromJob s).jobs = s.jobs ∧
      ((Job.failureNotes kind message).foldl reportFromJob s).events =
        s.events ++ [(.streamer, .error kind message)] := by
  refine ⟨rfl, ?_⟩
  show ((s.tell .streamer (Job.record .error ("Job halted: " ++ message))).tell .streamer
    (.event (.error kind message))).events = _
  rw [events_tell, events_tell]
  simp [Job.record, Note.event?]

/-- One move of a thread without a connection: it tells nothing and what is due of it stays due,
or it tells that and its job has failed. -/
theorem InOrder.recedes_advance? {s next : Session} {i : Nat} (h : s.InOrder)
    (hclosed : s.link.slot.closed = true) (hback : (s.job i).Recedes)
    (hmove : s.advance? i = some next) :
    ∃ j, next.jobs = s.jobs.set i j ∧ j.Recedes ∧
      (j.due? = (s.job i).due? ∧ j.snapshot = (s.job i).snapshot ∧ next.events = s.events ∨
        ∃ e, (s.job i).due? = some e ∧ j.due? = none ∧ j.snapshot = (s.job i).snapshot.fail ∧
          next.events = s.events ++ [(.streamer, e)]) := by
  cases advances_of_advance? hmove with
  | arm hs | send hs => simp [Job.Recedes, hs] at hback
  | @own j notes hown =>
    obtain ⟨hnext, ⟨rfl, hdue, hsame⟩ | ⟨kind, message, rfl, hdue, hnone, hfail⟩⟩ :=
      hback.own hown
    · exact ⟨j, rfl, hnext, .inl ⟨hdue, hsame, rfl⟩⟩
    · obtain ⟨hjobs, hevents⟩ := failureNotes_told (s.setJob i j) kind message
      exact ⟨j, hjobs, hnext, .inr ⟨_, hdue, hnone, hfail, hevents⟩⟩
  | @take line outcome slot hs hcheck =>
    rcases h.core.closed_of_check? hs hclosed hcheck with rfl | ⟨rfl, hstopped⟩
    · -- the job learns of it, and what is due is now known to its thread
      refine ⟨(s.job i).answered .closed, rfl, trivial, .inl ⟨?_, rfl, rfl⟩⟩
      unfold Job.due?
      rw [hs]
      rfl
    · have hended : (s.job i).isActive = false := by
        rw [Job.isActive, Job.Snapshot.isActive,
          show (s.job i).snapshot.state = .stopped from hstopped]
        rfl
      refine ⟨(s.job i).answered .cancelled, rfl, trivial, .inl ⟨?_, rfl, rfl⟩⟩
      rw [Job.due?_of_not_active hended, Job.due?_of_not_active (by exact hended)]
  | release hs =>
    refine ⟨(s.job i).released, rfl, trivial, .inl ⟨?_, rfl, rfl⟩⟩
    simp only [Job.due?, Job.released, hs]
    rfl

/-- What is picked from two lists is the same where it is so place by place. -/
theorem filterMap_of_map {α β γ : Type} {f : α → Option γ} {g : β → Option γ} {l : List α}
    {l' : List β} (h : l.map f = l'.map g) : l.filterMap f = l'.filterMap g := by
  have hid := congrArg (List.filterMap id) h
  rwa [List.filterMap_map, List.filterMap_map, Function.id_comp, Function.id_comp] at hid

/-- Where every job but one has nothing to tell, what is due is due of that one. -/
theorem filterMap_due?_set {jobs : List Job} {i : Nat} (hi : i < jobs.length) (j : Job)
    (halone : ∀ k, k ≠ i → (jobs.getD k {}).due? = none) :
    (jobs.set i j).filterMap Job.due? = j.due?.toList := by
  -- on the place of the one job, before which nothing is due
  induction jobs generalizing i with
  | nil => exact absurd hi (by simp)
  | cons first rest ih =>
    cases i with
    | zero =>
      have hrest : rest.filterMap Job.due? = [] := by
        refine List.filterMap_eq_nil_iff.mpr fun other hother => ?_
        obtain ⟨k, hk, rfl⟩ := List.mem_iff_getElem.mp hother
        simpa [hk] using halone (k + 1) (by simp)
      cases hdue : j.due? <;> simp [hdue, hrest]
    | succ i =>
      have hfirst : first.due? = none := by simpa using halone 0 (by simp)
      have hi' : i < rest.length := by simpa using hi
      have hrest := ih hi' fun k hk => by simpa using halone (k + 1) (by simpa using hk)
      simp [hfirst, hrest]

/-- A job that has something to tell is the only one. -/
theorem InOrder.alone {s : Session} (h : s.InOrder) {i k : Nat} (hi : (s.job i).holds = true)
    (hk : k ≠ i) : (s.job k).due? = none := by
  refine Option.eq_none_iff_forall_ne_some.mpr fun e he => hk ?_
  have hactive : (s.job k).isActive = true := Job.isActive_of_due? (by simp [he])
  exact h.core.owned.one k i (Job.holds_of_isWorking (h.core.owned.working k hactive)) hi

/-- Without a connection the threads of the jobs come to rest, and tell what is due. -/
structure RecedesFrom (base s : Session) : Prop where
  order : s.InOrder
  closed : s.link.slot.closed = true
  off : s.link.canSend = false
  jobs : ∀ i, (s.job i).Recedes
  outcome : ∀ i, (s.job i).outcome = (base.job i).outcome
  told : s.events ++ s.dues = base.events ++ base.dues

namespace RecedesFrom

variable {base s next : Session} {t : Turn}

/-- Every turn of a thread brings what is due closer to being told. -/
theorem takes (h : RecedesFrom base s) (ht : s.TakesFairly t next) (hrun : t.isRunning = true) :
    RecedesFrom base next := by
  have hopened : ∀ a, (t.causes a && !a.isMeddling) = true →
      a ≠ .opened ∧ a.isMeddling = false := by
    refine fun a ha => ⟨?_, TakesFairly.not_meddling ha⟩
    rintro rfl
    simp [Turn.causes, Turn.not_opens_of_isRunning hrun] at ha
  have hclosed := ht.goes.closed hopened h.closed
  have hoff := (ht.goes.offline (fun a ha => (hopened a ha).1) h.off).1
  cases ht.takes with
  | @job i _ hmove =>
    obtain ⟨j, hjobs, hback, hcases⟩ := h.order.recedes_advance? h.closed (h.jobs i) hmove
    have hlt : i < s.jobs.length := lt_of_stage fun hs => by simp [advance?, Job.move, hs] at hmove
    have hjob : next.job i = j := by simp [job, hjobs, hlt]
    have hother : ∀ k, k ≠ i → next.job k = s.job k := by
      intro k hk
      simp [job, hjobs, hk.symm]
    refine ⟨h.order.takes ht, hclosed, hoff, fun k => ?_, fun k => ?_, ?_⟩
    · by_cases hk : k = i
      · rw [hk, hjob]
        exact hback
      · rw [hother k hk]
        exact h.jobs k
    · by_cases hk : k = i
      · subst hk
        rw [hjob, ← h.outcome k]
        rcases hcases with ⟨hdue, hsnapshot, -⟩ | ⟨e, hdue, hdone, hsnapshot, -⟩
        · rw [Job.outcome, hdue, hsnapshot, Job.outcome]
        · simp [Job.outcome, hdue, hdone, hsnapshot]
      · rw [hother k hk, h.outcome k]
    · have hself : s.jobs = s.jobs.set i (s.job i) := (congrArg Session.jobs (setJob_job s i)).symm
      rw [← h.told, dues, dues, hjobs]
      rcases hcases with ⟨hdue, -, hevents⟩ | ⟨e, hdue, hdone, -, hevents⟩
      · have hmap : (s.jobs.set i j).map Job.due? = s.jobs.map Job.due? := by
          rw [hself, List.set_set, List.map_set, List.map_set, hdue]
        rw [hevents, filterMap_of_map hmap]
      · -- what was due of this job is told, and of no other job is anything due
        have hactive := Job.isActive_of_due? (j := s.job i) (by simp [hdue])
        have halone : ∀ k, k ≠ i → (s.jobs.getD k {}).due? = none := fun k =>
          h.order.alone (Job.holds_of_isWorking (h.order.core.owned.working i hactive))
        rw [hevents, filterMap_due?_set hlt j halone, hself,
          filterMap_due?_set hlt (s.job i) halone, hdue, hdone]
        simp
  | read hrest hitem hread =>
    -- a reader that reads has a connection
    obtain ⟨r, hr, hclosing, -⟩ := read?_cases hitem hread
    have hon := canSend_of_up (up_of_reader h.order.stands hr hclosing)
    rw [h.off] at hon
    cases hon
  | idle =>
    have hjobs : s.timeOut.jobs = s.jobs := congrArg Core.jobs (core_timeOut s)
    have hevents : s.timeOut.events = s.events := by
      unfold timeOut
      split <;> rfl
    refine ⟨h.order.takes ht, hclosed, hoff, fun k => ?_, fun k => ?_, ?_⟩
    · rw [job_of_jobs hjobs]
      exact h.jobs k
    · rw [job_of_jobs hjobs]
      exact h.outcome k
    · rw [hevents, dues, hjobs]
      exact h.told
  | letGo | launch | spawn | abandon | refuse | pause | resume | stop | overdue | sendLine
  | sendRealtime | disconnect | opening | stay | listPorts | meddle | sends | device | arm =>
    cases hrun

/-- At rest, all that was due is told. -/
theorem due?_of_rest (h : RecedesFrom base s) (hrest : s.core.AtRest) (i : Nat) :
    (s.job i).due? = none := by
  have hrests := hrest.job i
  rcases Job.isStill_cases (Job.isStill_of_rests hrests) with
    hs | ⟨hs, -⟩ | ⟨line, rest, hs⟩ | ⟨line, hs⟩ | ⟨hs, -⟩
  · rw [core_job] at hs
    simp [Job.due?, hs]
  · rw [core_job] at hs
    simp [Job.due?, hs]
  · rw [core_job] at hs
    simp [Job.due?, hs]
  · -- a wait on a closed slot ends
    have hcheck := Job.check?_of_rests hrests hs
    have hclosed : s.core.slot.closed = true := h.closed
    unfold Link.Slot.check? at hcheck
    split at hcheck
    · cases hcheck
    · split at hcheck
      · cases hcheck
      · simp [hclosed] at hcheck
  · rw [core_job] at hs
    simp [Job.due?, hs]

/-- Running to rest, the jobs have told what was due, and stand as that has left them. -/
theorem rest (h : RecedesFrom base s) (hrest : s.core.AtRest) :
    s.events = base.events ++ base.dues ∧ ∀ i, (s.job i).snapshot = (base.job i).outcome := by
  refine ⟨?_, fun i => ?_⟩
  · have hnone : s.dues = [] := by
      rw [dues, List.filterMap_eq_nil_iff.mpr, List.map_nil]
      intro j hj
      obtain ⟨i, hi, rfl⟩ := List.mem_iff_getElem.mp hj
      simpa [job, hi] using h.due?_of_rest hrest i
    rw [← h.told, hnone, List.append_nil]
  · rw [← h.outcome i, Job.outcome, h.due?_of_rest hrest i]
    rfl

end RecedesFrom

end Session

/-! ### Failures, from the first report to rest -/

namespace Failure

open Session

variable {s next : Session} {f : Failure} {reason : String}

/-- Just after a failure, each thread of a job stands where it recedes from, and has to tell what
the job has to complain of. -/
theorem jobs_after (h : s.InOrder) (hfree : s.isHanging = false) (htimely : f.IsTimely s)
    (hreason : f.reason? s = some reason) (hjobs : next.jobs = f.jobs reason s) (k : Nat) :
    (next.job k).Recedes ∧ (next.job k).snapshot = (s.job k).snapshot ∧
      (next.job k).due? = (s.job k).complaint? reason := by
  have hrest : s.core.AtRest → next.jobs = s.jobs → (next.job k).Recedes ∧
      (next.job k).snapshot = (s.job k).snapshot ∧
      (next.job k).due? = (s.job k).complaint? reason := by
    intro hrest hsame
    rw [job_of_jobs hsame]
    rcases Job.isStill_cases (Job.isStill_of_rests (hrest.job k)) with
      hs | ⟨hs, hp⟩ | ⟨line, rest, hs⟩ | ⟨line, hs⟩ | ⟨hs, hp⟩
    · rw [core_job] at hs
      simp [Job.Recedes, Job.due?, Job.complaint?, hs]
    · rw [core_job] at hs hp
      simp [Job.Recedes, Job.due?, Job.complaint?, hs, hp]
    · rw [core_job] at hs
      have hhang : s.isHanging = true := s.isHanging_iff.mpr ⟨k, by simp [Job.isHanging, hs]⟩
      rw [hfree] at hhang
      cases hhang
    · rw [core_job] at hs
      simp [Job.Recedes, Job.due?, Job.complaint?, hs]
    · rw [core_job] at hs hp
      simp [Job.Recedes, Job.due?, Job.complaint?, hs, hp]
  cases f with
  | read | line | command => exact hrest htimely hjobs
  | job i =>
    obtain ⟨text, hs⟩ : ∃ text, (s.job i).stage = .sending text := by
      simp only [reason?] at hreason
      split at hreason
      · exact ⟨_, ‹_›⟩
      · cases hreason
    have hlt : i < s.jobs.length := lt_of_stage (by simp [hs])
    simp only [jobs] at hjobs
    by_cases hk : k = i
    · subst hk
      have hjob : next.job k = (s.job k).failing reason := by
        simp [Session.job, hjobs, hlt]
      rw [hjob]
      refine ⟨trivial, rfl, ?_⟩
      simp only [Job.due?, Job.complaint?, hs, Job.failing]
      rfl
    · have hjob : next.job k = s.job k := by simp [Session.job, hjobs, Ne.symm hk]
      -- the job that writes has the link for itself
      have hback : (s.job k).holds = false := by
        refine eq_false_of_ne_true fun hholds => hk ?_
        exact h.core.owned.one k i hholds (by simp [core_job, Job.holds, hs])
      have hidle : (s.job k).isActive = false := by
        refine eq_false_of_ne_true fun hactive => ?_
        have hholds : (s.job k).holds = true :=
          Job.holds_of_isWorking (h.core.owned.working k hactive)
        rw [hback] at hholds
        cases hholds
      rw [hjob]
      refine ⟨?_, rfl, ?_⟩
      · unfold Job.holds at hback
        unfold Job.Recedes
        cases hstage : (s.job k).stage <;> simp_all
      · rw [Job.due?_of_not_active hidle, Job.complaint?, if_neg (by simp [hidle])]

end Failure

namespace Session

/-- A job that complains, paused, is errored once it is resumed and stopped once it is stopped,
whatever happens before that. -/
theorem InOrder.complaint_of_paused {s later : Session} {i : Nat} (h : s.InOrder)
    (hoff : s.link.canSend = false) (hdue : (s.job i).due?.isSome = true)
    (hlater : LeadsFairly (Turn.spares i) s later) (hrest : later.core.AtRest)
    (hpaused : (later.job i).snapshot.state = .paused) :
    ((later.perform (.resume i)).2.job i).snapshot.state = .errored ∧
      ((later.perform (.stop i)).2.job i).snapshot.state = .stopped := by
  -- a job that has something to complain of is under way, and no write holds it up
  obtain ⟨hway, hfree⟩ : (s.job i).isUnderWay = true ∧ (s.job i).isHanging = false := by
    unfold Job.due? at hdue
    split at hdue
    · split at hdue
      · rename_i hs
        simp [Job.isUnderWay, Job.isHanging, hs]
      · rename_i hs
        simp [Job.isUnderWay, Job.isHanging, hs]
      · cases hdue
    · cases hdue
  obtain ⟨horder, hcut, -, hstill⟩ := h.cutOff_leads (h.cutOff hoff hway) hlater
  have hfree' := hstill hfree
  -- where it rests it is parked, since it would not be paused after its end
  rcases hcut.rest_cases hrest with hhang | ⟨hs, hp⟩ | hended | hended
  · rw [core_job, hfree'] at hhang
    cases hhang
  · exact ⟨(horder.perform_resume hrest hp (.inl hs)).1, by
      rw [horder.perform_stop_of_paused hrest hp hfree']⟩
  · rw [core_job, hpaused] at hended
    cases hended
  · rw [core_job, hpaused] at hended
    cases hended

/-- Every failure of a transport is reported once and takes everything down. Let a link be
connected, wherever turns have led it, while no write hangs, and let a transport fail next under
some thread. Let the observer not disconnect when that thread tells it the status `Error`.

* The observer is told three events under that thread: the failure, the status `Error` with the
  same words, and the end of the connection. The link is disconnected then, without a
  transport and a reader, its slot closed and owing nothing. A call to send returns the failure.
* Where nobody meddles with the calls for jobs, the threads then run to rest, and tell one more
  event for a job that was waiting for an answer, or whose line it was, and nothing else. That
  job has failed if it was running, and stays paused if it was; then it is errored once it is
  resumed, and stopped once it is stopped, whatever happens before that. All other jobs stay as
  they are. -/
theorem failure_reported_once {first s : Session} (hnew : first.IsNew)
    (hleads : Leads (fun _ => true) first s) (hon : s.link.state.isConnected = true)
    (hfree : s.isHanging = false) {f : Failure} {reason : String}
    (hreason : f.reason? s = some reason)
    (hhasty : .disconnectOn "Error" f.thread ∉ s.rules) :
    ∃ next, f.next? s = some next ∧
      next.events = s.events ++
        [(f.thread, .error .transport ("Serial error: " ++ reason)),
          (f.thread, .status "Error" ("Serial error: " ++ reason)),
          (f.thread, .status "Disconnected" s.farewell)] ∧
      next.link = s.link.down ∧
      (∀ text, f = .line text → (s.sendLine .caller text).1 = .error (.io reason)) ∧
      (∀ c, f = .command c → (s.sendRealtime .caller c).1 = .error (.io reason)) ∧
      (LeadsFairly (fun _ => true) first s → f.IsTimely s →
        (Leads Turn.isRunning next next.settle ∧ next.settle.core.AtRest) ∧
        ∀ last, Leads Turn.isRunning next last → last.core.AtRest →
          last.events = next.events ++
            (s.jobs.filterMap (Job.complaint? reason)).map (Thread.streamer, ·) ∧
          ∀ i, (last.job i).snapshot = (if ((s.job i).complaint? reason).isSome then
              (s.job i).snapshot.fail else (s.job i).snapshot) ∧
            (((s.job i).complaint? reason).isSome = true → ∀ later,
              LeadsFairly (Turn.spares i) last later → later.core.AtRest →
              (later.job i).snapshot.state = .paused →
              ((later.perform (.resume i)).2.job i).snapshot.state = .errored ∧
                ((later.perform (.stop i)).2.job i).snapshot.state = .stopped)) := by
  obtain ⟨next, hnext, hevents, hlink, hjobs, hline, hcommand⟩ :=
    Failure.happens (hleads.stands hnew.stands) hon hfree hhasty hreason
  refine ⟨next, hnext, hevents, hlink, hline, hcommand, fun hfairly htimely => ?_⟩
  have horder : s.InOrder := hfairly.inOrder hnew.inOrder
  obtain ⟨t, ht⟩ := Failure.fair htimely hreason hnext
  -- nothing but the job that complains is to change from here on
  have horder' : next.InOrder := horder.takes ht
  have hafter := Failure.jobs_after horder hfree htimely hreason hjobs
  have hoff : next.link.canSend = false := by rw [hlink]; rfl
  have hbase : RecedesFrom next next := ⟨horder', by rw [hlink]; rfl, hoff,
    fun i => (hafter i).1, fun _ => rfl, rfl⟩
  have hdues : next.dues =
      (s.jobs.filterMap (Job.complaint? reason)).map (Thread.streamer, ·) := by
    have hlength : next.jobs.length = s.jobs.length := by
      rw [hjobs]
      cases f <;> simp [Failure.jobs]
    rw [dues, filterMap_of_map]
    refine List.ext_getElem (by simp [hlength]) fun i hi hi' => ?_
    have hi'' : i < s.jobs.length := by simpa using hi'
    have hdue := (hafter i).2.2
    simpa [job, hi'', hlength] using hdue
  have houtcome : ∀ i, (next.job i).outcome = if ((s.job i).complaint? reason).isSome then
      (s.job i).snapshot.fail else (s.job i).snapshot := by
    intro i
    rw [Job.outcome, (hafter i).2.2, (hafter i).2.1]
  refine ⟨⟨settle_leads next, (settle_goes horder'.core.sound).2⟩, fun last hlast hrest => ?_⟩
  -- the threads bring each job to its outcome, and tell what is due on the way
  have hrecedes : RecedesFrom next last :=
    hlast.fairly.invariant hbase fun _ _ _ ht hrun hbefore => hbefore.takes ht hrun
  obtain ⟨htold, hsnapshot⟩ := hrecedes.rest hrest
  refine ⟨by rw [htold, hdues], fun i => ⟨by rw [hsnapshot i, houtcome i], ?_⟩⟩
  intro hcomplaint later hlater hlaterRest hpaused
  have hrunning : LeadsFairly (Turn.spares i) next last := hlast.fairly.mono fun t ht => by
    cases t with
    | launch => cases ht
    | _ => rfl
  exact horder'.complaint_of_paused hoff (by rw [(hafter i).2.2]; exact hcomplaint)
    (hrunning.trans hlater) hlaterRest hpaused

/-- A device that takes one line, and then breaks. -/
def breaking : Session :=
  { device := { writes := [.all, .fail ⟨.brokenPipe, "broken pipe"⟩] } }

/-- A job waits for the answer to its first line. -/
def waitingForFirst : List Step := [.connect "COM3" 9600, .start 0 "part" ⟨["G0", "G1"]⟩]

/-- The operator asks for the status, and the write of that fails. -/
theorem failure_reported_once_onCommand :
    ((breaking.after waitingForFirst).sendRealtime .caller .statusQuery).2.settle.events =
        (breaking.after waitingForFirst).events ++
          [(.caller, .error .transport "Serial error: broken pipe"),
            (.caller, .status "Error" "Serial error: broken pipe"),
            (.caller, .status "Disconnected" "Disconnected from COM3"),
            (.streamer, .error .transport "Link closed while line 1 was pending")] ∧
      (((breaking.after waitingForFirst).sendRealtime .caller .statusQuery).2.settle.job
        0).snapshot.state = .errored := by
  have hnew : breaking.IsNew := ⟨rfl, by decide⟩
  have hfair := after_leads_fairly (K := fun _ => true) hnew.calm hnew.stands
    (show breaking.Undisturbed waitingForFirst by decide) fun _ _ _ _ => rfl
  obtain ⟨next, hnext, hevents, -, -, -, hjobs⟩ := failure_reported_once hnew hfair.leads
    (by decide +kernel) (by decide +kernel)
    (show Failure.reason? (breaking.after waitingForFirst) (.command .statusQuery) =
      some "broken pipe" by decide +kernel) (by decide +kernel)
  obtain ⟨⟨hleads, hrest⟩, hlast⟩ := hjobs hfair
    (show (breaking.after waitingForFirst).core.AtRest by decide +kernel)
  obtain rfl := Option.some.inj hnext
  obtain ⟨htold, hsnapshot⟩ := hlast _ hleads hrest
  refine ⟨?_, ?_⟩
  · rw [htold, hevents, List.append_assoc]
    rfl
  · rw [(hsnapshot 0).1]
    decide +kernel

/-- The observer is told to disconnect on a fault, and the stream ends. -/
def toldOnError : List Step :=
  [.connect "COM3" 9600, .arm (.disconnectOn "Error"), .deviceSends [.ending]]

/-- The observer disconnects when it is told of the fault. The reader then ends the connection
once more, and the observer is told of its end twice. -/
theorem toldOnError_disconnects_twice :
    (({} : Session).after toldOnError).events =
      (({} : Session).after (toldOnError.take 2)).events ++
        [(.reader, .error .transport "Serial error: end of stream"),
          (.reader, .status "Error" "Serial error: end of stream"),
          (.reader, .status "Disconnected" "Disconnected from COM3"),
          (.reader, .status "Disconnected" "Disconnected from COM3")] := by
  rfl

/-- The observer is told to disconnect when the operator's write fails, and one fails. -/
def toldOnFailedWrite : List Step :=
  [.connect "COM3" 9600, .arm (.disconnectOn "Error" .caller), .send "M3"]

/-- A write that fails is no different: the observer disconnects when it is told of it, and the
thread that writes then ends the connection once more. -/
theorem toldOnFailedWrite_disconnects_twice :
    (({ device := { writes := [.fail ⟨.brokenPipe, "broken pipe"⟩] } } : Session).after
        toldOnFailedWrite).events =
      (({ device := { writes := [.fail ⟨.brokenPipe, "broken pipe"⟩] } } : Session).after
          (toldOnFailedWrite.take 2)).events ++
        [(.caller, .error .transport "Serial error: broken pipe"),
          (.caller, .status "Error" "Serial error: broken pipe"),
          (.caller, .status "Disconnected" "Disconnected from COM3"),
          (.caller, .status "Disconnected" "Disconnected from COM3")] := by
  rfl

end Session

end GcodeSender
