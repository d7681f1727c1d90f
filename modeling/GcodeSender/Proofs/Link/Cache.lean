import GcodeSender.Proofs.Link.Failure
import GcodeSender.Proofs.Link.Pushed
import GcodeSender.Proofs.Link.Reading
import GcodeSender.Proofs.Machine.Fields

/-!
# `GcodeSender.Proofs.Link.Cache`: what the link remembers of the machine

The link keeps the status and the position that were reported last, and forgets both when
a port is opened. They are written in one place, when a line is handled, and cleared in one
other; the connection may end and come about at many.

* `hearing`: what the reads of some turns come to: the lines that were handled, and the
  beginning of the next. `lines_eq_segments`: these are the lines of the bytes received.
* `cached_*`: no operation but these two changes what is remembered.
* `Recalls`: what is remembered, and what the reader has told of it, is what the lines come
  to. Every turn preserves it, but one that opens a port (`Takes.recalls`).
* `OpensPort`: a call to connect that opens its port, whether or not it then succeeds.
* `Runs.since`: a run goes on from the last port that was opened, or from its start.
* `cached_state_folds_reports`: what follows for a session.
-/

set_option autoImplicit false

namespace GcodeSender

/-! ### The position of a report -/

namespace Machine

/-- The position in a field of a report, if the field is a valid work position. -/
def validWorkPosition? (field : String) : Option Position :=
  match Field.of field.toList with
  | .workPosition payload => (Position.read payload).toOption
  | .machinePosition _ | .feedSpindle _ | .other => none

/-- A field has a valid work position just if one stands behind its mark. -/
theorem validWorkPosition?_eq (field : String) :
    validWorkPosition? field = positionAfter? "WPos:" field := by
  unfold validWorkPosition? positionAfter?
  rcases field_cases field with ⟨payload, hwork, -, -, hof⟩ | ⟨payload, hwork, -, -, hof⟩ |
    ⟨payload, hwork, -, -, hof⟩ | ⟨hwork, -, -, hof⟩ <;> rw [hof, hwork] <;> rfl

/-- The work position of a report is that of its last valid field. -/
theorem workPosition_of_report {line : String} {r : StatusReport}
    (h : StatusReport.ofLine? line = some r) :
    r.workPosition = (r.fields.filterMap validWorkPosition?).getLast? := by
  rw [StatusReport.workPosition_eq h, funext validWorkPosition?_eq]

end Machine

/-- What is remembered of the machine: the last status and the last position. -/
def Link.cached (l : Link) : Option Machine.Status × Option Machine.Position :=
  (l.status, l.position)

/-- Reports are remembered in their order: the last status stays, and the last position. -/
theorem Link.cached_foldl_remember (reports : List Machine.StatusReport) (l : Link) :
    (reports.foldl (fun l r => l.remember (some r)) l).cached =
      ((reports.getLast?.map (·.status)).or l.status,
        ((reports.filterMap (·.workPosition)).getLast?).or l.position) := by
  -- on the last report
  induction reports using List.reverseRecOn with
  | nil => rfl
  | append_singleton reports r ih =>
    have hposition := (Prod.mk.inj ih).2
    rw [List.foldl_append, List.filterMap_append]
    show (some r.status, r.workPosition.or (List.foldl _ l reports).position) = _
    rw [hposition]
    cases hr : r.workPosition <;> simp [hr]

namespace Session

/-! ### Operations that remember nothing -/

/-- Taking a connection down forgets nothing. -/
theorem cached_teardown (s : Session) (t : Thread) :
    (s.teardown t).link.cached = s.link.cached := by
  obtain ⟨reader, hlink⟩ := exists_link_teardown s t
  rw [hlink]
  rfl

/-- What the observer makes of a status forgets nothing. -/
theorem cached_reportStatus (s : Session) (t : Thread) (state raw : String) :
    (s.reportStatus t state raw).link.cached = s.link.cached := by
  simp only [reportStatus]
  split
  · exact cached_teardown _ t
  · rfl

/-- The reader forgets nothing when it ends a broken connection. -/
theorem cached_closeAfterFault (s : Session) : s.closeAfterFault.link.cached = s.link.cached := by
  rw [link_closeAfterFault]
  rfl

/-- A read that fails changes nothing that is remembered, whether or not a write hangs then. -/
theorem cached_fault (s : Session) (reason : String) :
    (s.fault reason).link.cached = s.link.cached := by
  have hreport : (s.reportFault reason).link.cached = s.link.cached := by
    simp only [reportFault, link_become]
    exact cached_reportStatus _ .reader "Error" _
  simp only [fault]
  split
  · split <;> exact hreport
  · exact (cached_closeAfterFault _).trans hreport

/-- However a delivery ends, nothing else is remembered. -/
theorem cached_afterDelivery (s : Session) (t : Thread) (shown : String)
    (delivery : Bench.Delivery) :
    (s.afterDelivery t shown delivery).2.link.cached = s.link.cached := by
  cases delivery with
  | delivered | hanging => rfl
  | failed reason =>
    refine (cached_teardown _ t).trans ?_
    rw [link_become]
    exact cached_reportStatus _ t "Error" _

/-- Nothing that is sent is remembered. -/
theorem cached_write (s : Session) (t : Thread) (bytes : List UInt8) (shown : String)
    (isLine : Bool) : (s.write t bytes shown isLine).2.link.cached = s.link.cached := by
  unfold write
  split
  · refine (cached_afterDelivery _ t shown _).trans ?_
    cases isLine <;> rfl
  · rfl

/-- What is told to the observer is no concern of the link. -/
theorem link_tellAll (s : Session) (t : Thread) (notes : List Note) :
    (s.tellAll t notes).link = s.link := by
  induction notes generalizing s with
  | nil => rfl
  | cons n notes ih => exact ih (s.tell t n)

/-- Nor is what a job tells, though an observer may then pause a job. -/
theorem link_foldl_reportFromJob (notes : List Note) (s : Session) :
    (notes.foldl reportFromJob s).link = s.link := by
  have hreport : ∀ (s : Session) (n : Note), (s.reportFromJob n).link = s.link := by
    intro s n
    rcases s.reportFromJob_cases n with h | ⟨rule, i, h⟩
    · rw [h]
      rfl
    · rw [h]
      exact link_tellAll _ .streamer _
  induction notes generalizing s with
  | nil => rfl
  | cons n notes ih => exact (ih _).trans (hreport s n)

/-- A job learns how its write went, and the link has nothing to do with that. -/
theorem link_jobWritten (s : Session) (i : Nat) (j : Job) (line : String) (written : Written) :
    (s.jobWritten i j line written).link = s.link := by
  cases written <;> rfl

/-- No move of a job's thread changes what is remembered. -/
theorem cached_advance? {s next : Session} {i : Nat} (h : s.advance? i = some next) :
    next.link.cached = s.link.cached := by
  cases advances_of_advance? h with
  | own =>
    rw [link_foldl_reportFromJob]
    rfl
  | send =>
    -- a failed write takes the link down, which forgets nothing
    rw [link_jobWritten]
    exact cached_write s .streamer _ _ true
  | arm | take | release => rfl

/-- Nor does a write that is let go, though a connection that is lost may end with it. -/
theorem cached_letGoJob (s : Session) (i : Nat) : (s.letGoJob i).link.cached = s.link.cached := by
  rcases s.letGoJob_cases i with ⟨-, h⟩ | ⟨line, rest, -, free, -, hfree, h⟩
  · rw [h]
  · rw [h, link_jobWritten, cached_afterDelivery]
    rcases hfree with ⟨rfl, -⟩ | ⟨rfl, -⟩
    · rfl
    · exact cached_closeAfterFault _

/-- Where nothing is read and no port is opened, nothing else is remembered. -/
theorem Takes.cached {s next : Session} {t : Turn} (h : s.Takes t next)
    (hquiet : t.isQuiet = true) : next.link.cached = s.link.cached := by
  cases h with
  | job h => exact cached_advance? h
  | letGo i => exact cached_letGoJob s i
  | @launch i name p hrest hfree hallowed hunclaimed =>
    -- to claim the link is no matter of the reader
    rw [Session.launch, link_tellAll, setJob, Link.claim, hunclaimed]
    rfl
  | spawn => rfl
  | abandon i reason =>
    show (Session.tellAll _ .caller _).link.cached = _
    rw [link_tellAll]
    rfl
  | refuse e => exact congrArg Link.cached (link_tellAll s .caller _)
  | pause i => exact congrArg Link.cached (link_tellAll (s.setJob i _) .caller _)
  | resume hrest i => exact congrArg Link.cached (link_tellAll (s.setJob i _) .caller _)
  | stop hrest i =>
    simp only [requestStop]
    split
    · rfl
    · rw [link_tellAll]
      rfl
  | sendLine hrest line => exact cached_write s .caller _ _ true
  | sendRealtime c => exact cached_write s .caller _ _ false
  | disconnect => exact cached_teardown s .caller
  | listPorts =>
    unfold Session.listPorts
    split <;> rfl
  | overdue | stay | meddle | sends => rfl
  | read | idle | opening | arm | device => cases hquiet

/-! ### Lines -/

/-- A line that is read as a report is remembered, whatever the observer makes of it, and no
other is. -/
theorem cached_handleLine (s : Session) (bytes : List UInt8) :
    (s.handleLine bytes).link.cached = (s.link.remember (report? bytes)).cached := by
  have hsaid : ∀ {s s' : Session}, Says s s' → s'.link = s.link := by
    rintro s s' ⟨entries, -, rfl⟩
    rfl
  cases hreport : report? bytes with
  | none =>
    obtain ⟨hpushed, hanswer⟩ := says_handleLine (s := s) hreport
    -- a line that is no report is said, or offered as an answer
    by_cases h : IsPushedLine bytes
    · rw [hsaid (hpushed h)]
      rfl
    · obtain ⟨cs, -, hoffered⟩ := hanswer h
      rw [hsaid hoffered]
      rfl
  | some r =>
    obtain ⟨shown, hshown, hline⟩ := handleLine_of_report (s := s) hreport
    rw [hline, ← hsaid hshown]
    -- an observer that disconnects right there does not keep the report from being remembered
    by_cases h : .disconnectOn r.state .reader ∈ shown.rules
    · obtain ⟨told, htold, hrest⟩ := handleReport_reaction h
      rw [hsaid hrest, cached_teardown, hsaid htold]
    · rw [hsaid (says_handleReport h)]

/-- So with a line that is begun: what was read before comes first. -/
theorem cached_completeLine (s : Session) (r : Link.Reader) (chunk : List UInt8) :
    (s.completeLine r chunk).link.cached =
      (s.link.remember (report? (r.pending ++ chunk))).cached := by
  have hend : ∀ s : Session, s.endIfStopping.link.cached = s.link.cached := by
    intro s
    unfold endIfStopping
    split
    · split <;> rfl
    · rfl
  rw [completeLine, hend, cached_handleLine]
  cases report? (r.pending ++ chunk) <;> rfl

/-! ### What the observer is told of reports -/

end Session

/-- The status of the machine, if that is what the observer is told: the text is a report. The
status of the connection is told in the same way, in other words. -/
def Event.machineStatus? : Event → Option Machine.Status
  | .status state raw =>
    if (Machine.StatusReport.ofLine? raw).map (·.raw) = some raw then some ⟨state, raw⟩ else none
  | .position _ | .log _ | .progress _ | .error _ _ => none

/-- The position of the machine, if that is what the observer is told. -/
def Event.position? : Event → Option Machine.Position
  | .position p => some p
  | .status _ _ | .log _ | .progress _ | .error _ _ => none

/-- The status of the machine is told in a text that begins with its frame. -/
theorem Event.initial?_of_machineStatus {state raw : String}
    (h : (Event.status state raw).machineStatus? ≠ none) : initial? raw = some '<' := by
  simp only [machineStatus?, ne_eq, ite_eq_right_iff, reduceCtorEq, imp_false, not_not] at h
  obtain ⟨r, hr, hraw⟩ := Option.map_eq_some_iff.mp h
  rw [← hraw]
  exact Machine.initial?_raw hr

/-- The end of a connection is told neither as a status of the machine nor as a position. -/
theorem Event.of_sign {e : Event} (h : (Note.event e).sign? = some .disconnected) :
    e.machineStatus? = none ∧ e.position? = none := by
  cases e with
  | status state raw =>
    refine ⟨?_, rfl⟩
    by_contra hstatus
    rw [Note.sign?_status (initial?_of_machineStatus hstatus) (by decide)] at h
    cases h
  | position | log | progress | error => cases h

namespace Session

/-- What the reader has told the observer so far. -/
def readerEvents (s : Session) : List Event :=
  s.events.filterMap fun told => if told.1 = .reader then some told.2 else none

/-- What is made of the reader's events does not depend on the ends of connections. -/
theorem filterMap_readerEvents {α : Type} {f : Event → Option α}
    (hf : ∀ e, (Note.event e).sign? = some .disconnected → f e = none) (s : Session) :
    s.readerEvents.filterMap f = s.heard.filterMap f := by
  rw [readerEvents, events, heard, List.filterMap_filterMap, List.filterMap_filterMap,
    List.filterMap_filterMap]
  refine List.filterMap_congr fun e _ => ?_
  obtain ⟨t, n⟩ := e
  -- only the reader's events count, and of those that report an end nothing is made
  cases n with
  | record => cases t <;> rfl
  | event event =>
    cases t with
    | reader =>
      by_cases hsign : (Note.event event).sign? = some .disconnected
      · simp [Entry.event?, Note.event?, Entry.heard?, hsign, hf event hsign]
      · simp [Entry.event?, Note.event?, Entry.heard?, hsign]
    | caller | streamer | control => rfl

/-- What the observer is told of a line is the line itself, and what the report says, if the
line is one. -/
theorem lineEvents_eq (bytes : List UInt8) :
    ∃ shown : List Event, shown.filterMap Event.machineStatus? = [] ∧
      shown.filterMap Event.position? = [] ∧
      lineEvents bytes = shown ++ (report? bytes).elim [] reportEvents := by
  unfold lineEvents report?
  cases Text.decode bytes with
  | error fault => exact ⟨_, rfl, rfl, (List.append_nil _).symm⟩
  | ok cs =>
    by_cases hblank : Text.trim cs = []
    · simp only [hblank, if_true]
      exact ⟨[], rfl, rfl, rfl⟩
    · simp only [hblank, if_false, textEvents]
      refine ⟨[.log ("GRBL: " ++ String.ofList (Text.trim cs))], rfl, rfl, ?_⟩
      cases Machine.StatusReport.ofLine? (String.ofList (Text.trim cs)) <;> rfl

/-- Bytes that are a report are a line that is one. -/
theorem exists_line_of_report {bytes : List UInt8} {r : Machine.StatusReport}
    (h : report? bytes = some r) : ∃ line, Machine.StatusReport.ofLine? line = some r := by
  unfold report? at h
  cases hd : Text.decode bytes with
  | error fault => simp [hd] at h
  | ok cs => exact ⟨_, by simpa [hd] using h⟩

/-- Of a report, its status and its position are told once. -/
theorem filterMap_reportEvents {line : String} {r : Machine.StatusReport}
    (h : Machine.StatusReport.ofLine? line = some r) :
    (reportEvents r).filterMap Event.machineStatus? = [r.status] ∧
      (reportEvents r).filterMap Event.position? = r.workPosition.toList := by
  have hfields : ∀ errors : List Machine.FieldError,
      (errors.map fieldEvent).filterMap Event.machineStatus? = [] ∧
        (errors.map fieldEvent).filterMap Event.position? = [] := by
    intro errors
    constructor <;> exact List.filterMap_eq_nil_iff.mpr (by simp [fieldEvent, Event.machineStatus?,
      Event.position?])
  have hstatus : (Event.status r.state r.raw).machineStatus? = some r.status := by
    simp [Event.machineStatus?, Machine.StatusReport.ofLine?_raw h, Machine.StatusReport.status]
  rw [reportEvents, List.filterMap_append, List.filterMap_append, (hfields _).1, (hfields _).2,
    List.append_nil, List.append_nil, List.filterMap_cons_some hstatus,
    List.filterMap_cons_none rfl]
  cases r.workPosition <;> exact ⟨rfl, rfl⟩

/-- Of a line, the status and the position of its report are told, if it is one. -/
theorem filterMap_lineEvents (bytes : List UInt8) :
    (lineEvents bytes).filterMap Event.machineStatus? = (report? bytes).toList.map (·.status) ∧
      (lineEvents bytes).filterMap Event.position? =
        (report? bytes).toList.filterMap (·.workPosition) := by
  obtain ⟨shown, hstatus, hposition, hline⟩ := lineEvents_eq bytes
  rw [hline, List.filterMap_append, List.filterMap_append, hstatus, hposition]
  cases hreport : report? bytes with
  | none => exact ⟨rfl, rfl⟩
  | some r =>
    obtain ⟨line, hr⟩ := exists_line_of_report hreport
    obtain ⟨htold, htold'⟩ := filterMap_reportEvents hr
    refine ⟨htold, htold'.trans ?_⟩
    cases hp : r.workPosition <;> simp [hp]

/-- A transport that fails is told as a status of the connection. -/
theorem filterMap_faultEvents (reason : String) :
    (faultEvents reason).filterMap Event.machineStatus? = [] ∧
      (faultEvents reason).filterMap Event.position? = [] := by
  have hstatus : (Event.status "Error" ("Serial error: " ++ reason)).machineStatus? = none := by
    by_contra h
    have hinitial : initial? ("Serial error: " ++ reason) = some 'S' :=
      initial?_append (by decide) reason
    rw [Event.initial?_of_machineStatus h] at hinitial
    exact absurd hinitial (by decide)
  constructor
  · rw [faultEvents, List.filterMap_cons_none rfl, List.filterMap_cons_none hstatus]
    rfl
  · rfl

end Session

/-! ### Lines, whatever ends them -/

/-- What the reader has made of the bytes that it has read. -/
structure Hearing where
  /-- The lines that were handled. -/
  lines : List (List UInt8) := []
  /-- The beginning of the next one. -/
  pending : List UInt8 := []
  /-- Some of `pending` was read since the last wait in vain. -/
  fresh : Bool := false

namespace Hearing

/-- The line that is begun has come to its end. -/
def complete (x : Hearing) (chunk : List UInt8) : Hearing :=
  { lines := x.lines ++ [x.pending ++ chunk] }

/-- What one more turn comes to. -/
def next (x : Hearing) : Turn → Hearing
  | .read (.bytes content) =>
    let chunk := (Session.spanLine content).1
    if chunk.getLast? = some 10 then x.complete chunk
    else { x with pending := x.pending ++ chunk, fresh := x.fresh || !chunk.isEmpty }
  | .read (.fault f) => { x with fresh := x.fresh && f.isInterrupt }
  -- at the end of the stream, what was just read is a line
  | .read .ending => if x.fresh then x.complete [] else x
  | .idle => { x with fresh := false }
  | _ => x

end Hearing

/-- What the reads of some turns come to. -/
def hearing (turns : List Turn) : Hearing := turns.foldl Hearing.next {}

/-- The status reports among the lines that were handled in some turns. -/
def reports (turns : List Turn) : List Machine.StatusReport :=
  (hearing turns).lines.filterMap Session.report?

/-- What is heard goes on turn by turn. -/
theorem hearing_append (turns : List Turn) (t : Turn) :
    hearing (turns ++ [t]) = (hearing turns).next t := by
  simp [hearing]

/-- Unless the stream ends right after some bytes that are no line yet, the lines that are
handled are those of the bytes received. -/
theorem hearing_eq_segments {turns : List Turn} (h : ¬EndsFresh turns) :
    hearing turns =
      ⟨(segments (received turns)).1, (segments (received turns)).2, isFresh turns⟩ := by
  -- on the last turn
  induction turns using List.reverseRecOn with
  | nil => rfl
  | append_singleton turns t ih =>
    have hbefore : ¬EndsFresh turns := by
      rintro ⟨reads, later, rfl, hfresh⟩
      exact h ⟨reads, later ++ [t], by simp, hfresh⟩
    rw [hearing_append, ih hbefore, received_append, isFresh_append]
    have hkeep : t.taken = [] → received turns ++ received [t] = received turns := by
      intro htaken
      simp [received, htaken]
    cases t with
    | read item =>
      cases item with
      | bytes content =>
        have hreceived : received [.read (.bytes content)] = (Session.spanLine content).1 := by
          simp [received, Turn.taken, Bench.Item.taken]
        rw [hreceived]
        rcases Bench.spanLine_cases content with hbody | ⟨body, hbody, hline⟩
        · have hopen : ¬(Session.spanLine content).1.getLast? = some 10 :=
            fun h => hbody (List.mem_of_getLast? h)
          rw [segments_append_body _ hbody]
          simp only [Hearing.next, Turn.freshen, if_neg hopen]
        · have hended : (Session.spanLine content).1.getLast? = some 10 := by simp [hline]
          simp only [Hearing.next, Turn.freshen, if_pos hended, Hearing.complete]
          rw [hline, segments_append_line _ hbody]
      | fault f => rw [hkeep rfl]; rfl
      | ending =>
        have hstale : isFresh turns = false :=
          eq_false_of_ne_true fun hfresh => h ⟨turns, [], rfl, hfresh⟩
        rw [hkeep rfl]
        simp [Hearing.next, hstale, Turn.freshen]
    | _ => rw [hkeep rfl]; rfl

namespace Session

/-! ### What is remembered, and what is told -/

/-- What is remembered is what the reports since some moment come to, and so is what the reader
has told of them. -/
structure Recalls (first : Session) (turns : List Turn) (s : Session) : Prop where
  cached : s.link.cached =
    ((reports turns).foldl (fun l r => l.remember (some r)) first.link).cached
  statuses : s.heard.filterMap Event.machineStatus? =
    first.heard.filterMap Event.machineStatus? ++ (reports turns).map (·.status)
  positions : s.heard.filterMap Event.position? =
    first.heard.filterMap Event.position? ++ (reports turns).filterMap (·.workPosition)
  /-- A reader that goes on reading has the beginning of the next line. -/
  begun : s.begun? = none ∨ s.begun? = some ((hearing turns).pending, (hearing turns).fresh)

namespace Recalls

variable {first s next : Session} {t : Turn} {turns : List Turn}

/-- Where nothing is remembered and nothing was read, that is what the reports come to. -/
theorem start (h : s.begun? = none ∨ s.begun? = some ([], false)) : Recalls s [] s where
  cached := rfl
  statuses := (List.append_nil _).symm
  positions := (List.append_nil _).symm
  begun := h

/-- A reader that works has read what was heard since it began. -/
theorem of_reader (h : Recalls first turns s) {r : Link.Reader} (hr : s.link.reader = some r)
    (hclosing : r.closing = false) :
    (hearing turns).pending = r.pending ∧ (hearing turns).fresh = r.fresh := by
  rcases h.begun with hnone | hsome
  · rw [begun?_of_reader hr hclosing] at hnone
    cases hnone
  · obtain ⟨hpending, hfresh⟩ :=
      Prod.mk.inj (Option.some.inj ((begun?_of_reader hr hclosing).symm.trans hsome))
    exact ⟨hpending.symm, hfresh.symm⟩

/-- A turn in which no line comes to its end. -/
theorem keep (h : Recalls first turns s)
    (hlines : ((hearing turns).next t).lines = (hearing turns).lines)
    (hcached : next.link.cached = s.link.cached)
    (hheard : next.heard = s.heard ∨ ∃ reason, next.heard = s.heard ++ faultEvents reason)
    (hbegun : next.begun? = none ∨ next.begun? =
      some (((hearing turns).next t).pending, ((hearing turns).next t).fresh)) :
    Recalls first (turns ++ [t]) next := by
  -- no line has come to its end, so there is no report more
  have hreports : reports (turns ++ [t]) = reports turns := by
    rw [reports, hearing_append, hlines, ← reports]
  have htold : next.heard.filterMap Event.machineStatus? =
      s.heard.filterMap Event.machineStatus? ∧
      next.heard.filterMap Event.position? = s.heard.filterMap Event.position? := by
    -- a fault is told by events that carry neither a status nor a position
    rcases hheard with hsame | ⟨reason, hfault⟩
    · rw [hsame]
      exact ⟨rfl, rfl⟩
    · obtain ⟨hstatus, hposition⟩ := filterMap_faultEvents reason
      rw [hfault, List.filterMap_append, List.filterMap_append, hstatus, hposition,
        List.append_nil, List.append_nil]
      exact ⟨rfl, rfl⟩
  refine ⟨?_, ?_, ?_, ?_⟩
  · rw [hreports, hcached, h.cached]
  · rw [hreports, htold.1, h.statuses]
  · rw [hreports, htold.2, h.positions]
  · rw [hearing_append]
    exact hbegun

/-- A turn that has nothing to do with reading. -/
theorem aside (h : Recalls first turns s) (hnext : ∀ x : Hearing, x.next t = x)
    (hcached : next.link.cached = s.link.cached) (hheard : next.heard = s.heard)
    (hbegun : next.begun? = none ∨ next.begun? = s.begun?) :
    Recalls first (turns ++ [t]) next := by
  refine h.keep (by rw [hnext]) hcached (.inl hheard) ?_
  rw [hnext]
  rcases hbegun with hnone | hsame
  · exact .inl hnone
  · rw [hsame]
    exact h.begun

/-- A turn in which a line comes to its end. -/
theorem line (h : Recalls first turns s) {r : Link.Reader} (hr : s.link.reader = some r)
    (hclosing : r.closing = false) {chunk : List UInt8}
    (hnext : (hearing turns).next t = (hearing turns).complete chunk) :
    Recalls first (turns ++ [t]) (s.completeLine r chunk) := by
  obtain ⟨hpending, -⟩ := h.of_reader hr hclosing
  -- the bytes make one line more, which is a report or is none
  have hreports : reports (turns ++ [t]) =
      reports turns ++ (report? (r.pending ++ chunk)).toList := by
    rw [reports, hearing_append, hnext, Hearing.complete, List.filterMap_append, hpending]
    cases hreport : report? (r.pending ++ chunk) <;> simp [hreport, reports]
  obtain ⟨htold, hbegun⟩ := completeLine_begun s r chunk hclosing
  obtain ⟨hstatus, hposition⟩ := filterMap_lineEvents (r.pending ++ chunk)
  refine ⟨?_, ?_, ?_, ?_⟩
  · rw [cached_completeLine, hreports, List.foldl_append]
    cases report? (r.pending ++ chunk) with
    | none => exact h.cached
    | some report =>
      -- the position is that of the report, or else the one of the reports before
      have hlast := (Prod.mk.inj h.cached).2
      show (some report.status, report.workPosition.or s.link.position) = _
      rw [hlast]
      rfl
  · rw [htold, List.filterMap_append, hstatus, hreports, List.map_append, h.statuses,
      List.append_assoc]
  · rw [htold, List.filterMap_append, hposition, hreports, List.filterMap_append, h.positions,
      List.append_assoc]
  · rw [hearing_append, hnext]
    exact hbegun

/-- Where the transport is found broken, nothing else is remembered. -/
theorem fails (h : Recalls first turns s) (reason : String)
    (hlines : ((hearing turns).next t).lines = (hearing turns).lines) :
    Recalls first (turns ++ [t]) (s.fault reason) :=
  h.keep hlines (cached_fault s reason) (.inr ⟨reason, (fault_tells s reason).heard⟩)
    (.inl (begun?_fault s reason))

/-- A wait in vain. -/
theorem wait (h : Recalls first turns s)
    (hnext : (hearing turns).next t = { hearing turns with fresh := false }) :
    Recalls first (turns ++ [t]) s.timeOut := by
  have hcached : s.timeOut.link.cached = s.link.cached := by
    unfold timeOut
    split <;> rfl
  have hheard : s.timeOut.heard = s.heard := by
    unfold timeOut
    split <;> rfl
  refine h.keep (by rw [hnext]) hcached (.inl hheard) ?_
  rw [begun?_timeOut, hnext]
  rcases h.begun with hnone | hsome
  · exact .inl (by rw [hnone]; rfl)
  · exact .inr (by rw [hsome]; rfl)

/-- Bytes that are read go on with the line that is begun, or end it. -/
theorem bytes (h : Recalls first turns s) {r : Link.Reader} (hr : s.link.reader = some r)
    (hclosing : r.closing = false) (content : List UInt8) :
    Recalls first (turns ++ [.read (.bytes content)]) (s.readItem r (.bytes content)) := by
  simp only [readItem]
  split
  · rename_i hended
    exact h.line hr hclosing (by simp only [Hearing.next, if_pos hended])
  -- the line goes on, and the turns say of it what the reader has of it
  · rename_i hopen
    obtain ⟨hpending, hfresh⟩ := h.of_reader hr hclosing
    have hnext : (hearing turns).next (.read (.bytes content)) =
        { hearing turns with
            pending := (hearing turns).pending ++ (spanLine content).1
            fresh := (hearing turns).fresh || !(spanLine content).1.isEmpty } := by
      simp only [Hearing.next, if_neg hopen]
    refine h.keep (by rw [hnext]) rfl (.inl rfl) (.inr ?_)
    rw [hnext, hpending, hfresh]
    simp [begun?, hclosing]

end Recalls

/-- A port is opened by a call to connect: it lends itself, and there is a connection. Whether the
connection stays depends on the host, which may have no thread for the reader. -/
def OpensPort (s next : Session) : Prop :=
  ∃ port baud, s.device.lends port baud = true ∧ next = (s.openPort .caller port baud).2

/-- A connection that is made has no port's memory but its own: none yet. -/
theorem cached_startReader (s : Session) (t : Thread) (port : String) (baud : UInt32) :
    (s.startReader t port baud).2.link.cached = (none, none) := by
  rcases s.startReader_cases t port baud with h | ⟨reason, h⟩
  · rw [h]
    show (s.establish t port).link.cached = _
    rw [establish, link_become]
    rfl
  · rw [h]
    show (Session.become _ t .faulted).link.cached = _
    rw [link_become, establish, link_become]
    rfl

/-- A call that opens a port forgets what was remembered, even if the connection does not stay. A
reader begins anew, or there is none. -/
theorem OpensPort.cases {s next : Session} (h : s.OpensPort next) (hgone : s.link.reader = none) :
    next.link.cached = (none, none) ∧
      (next.begun? = none ∨ next.begun? = some ([], false)) := by
  obtain ⟨port, baud, hlends, rfl⟩ := h
  obtain ⟨s', hlink, -, -, ⟨hno, -⟩ | ⟨-, -, h⟩⟩ := openPort_cases s .caller port baud
  · rw [hlends] at hno
    cases hno
  rw [h]
  refine ⟨cached_startReader s' .caller port baud, ?_⟩
  rcases s'.startReader_cases .caller port baud with hstart | ⟨reason, hstart⟩
  · rw [hstart]
    exact .inr rfl
  · have hreader : (s'.startReader .caller port baud).2.link.reader = none := by
      rw [hstart]
      show (Session.become _ .caller .faulted).link.reader = none
      simp only [link_become, establish]
      exact (congrArg Link.reader hlink).trans (by rw [link_become]; exact hgone)
    left
    simp [begun?, hreader]

/-- A port that is found not to open changes nothing that is remembered. -/
theorem openPort_of_not_lends {s : Session} {port : String} {baud : UInt32}
    (h : s.device.lends port baud = false) (hgone : s.link.reader = none) :
    (s.openPort .caller port baud).2.link.cached = s.link.cached ∧
      (s.openPort .caller port baud).2.begun? = none := by
  obtain ⟨s', hlink, -, -, ⟨-, e, hfails⟩ | ⟨hlends, -, -⟩⟩ := openPort_cases s .caller port baud
  · have hfailed : (s'.failConnect .caller e).2.link = { s.link with state := .faulted } := by
      show (s'.become .caller .faulted).link = _
      rw [link_become, hlink, link_become]
    rw [hfails, hfailed]
    refine ⟨rfl, ?_⟩
    simp [begun?, hfailed, hgone]
  · rw [h] at hlends
    cases hlends

/-- A call to open a port succeeds just when the port lends itself and there is a thread for the
reader. -/
theorem openPort_toBool (s : Session) (t : Thread) (port : String) (baud : UInt32) :
    (s.openPort t port baud).1.toBool =
      (s.device.lends port baud && (s.device.lent port baud).spawn.1.toBool) := by
  obtain ⟨s', -, -, -, ⟨hlends, e, h⟩ | ⟨hlends, hlent, h⟩⟩ := openPort_cases s t port baud
  · rw [h, hlends]
    rfl
  · have hthere : (s'.establish t port).device = s.device.lent port baud :=
      (adds_become { s' with link := s'.link.establish port } t .connected).device.trans hlent
    rw [h, hlends, startReader, hthere]
    cases hspawn : (s.device.lent port baud).spawn with
    | mk result device =>
      cases result <;> rfl

/-- To open a port hears nothing. -/
theorem Takes.heard_of_opening {s next : Session} (h : s.Takes .opening next) :
    next.heard = s.heard := by
  cases h with
  | opening hrest hfree hgone port baud =>
    exact filterMap_openPort (f := Entry.heard?)
      (fun n => Entry.heard?_of_thread (e := ⟨.caller, n⟩) nofun) (fun _ _ => rfl) s port baud

/-- A turn remembers what its line reports, unless it opens a port. -/
theorem Takes.recalls {first s next : Session} {t : Turn} {turns : List Turn}
    (h : s.Takes t next) (hs : Recalls first turns s)
    (hopens : t.opens = true → ¬s.OpensPort next) :
    Recalls first (turns ++ [t]) next := by
  have hwrites : t.isQuiet = true → (∀ x : Hearing, x.next t = x) →
      Recalls first (turns ++ [t]) next := by
    intro hquiet hnext
    have hadds := (h.writes hquiet).adds
    exact hs.aside hnext (h.cached hquiet) hadds.heard hadds.begun
  have hheard : t = .opening → next.heard = s.heard := by
    rintro rfl
    exact h.heard_of_opening
  cases h with
  | @read item rest _ hrest hitem h =>
    obtain ⟨r, hr, hclosing, rfl⟩ := read?_cases hitem h
    -- what remains queued concerns nothing that is remembered
    have hs' : Recalls first turns { s with device.inbound := leftOver item ++ rest } :=
      ⟨hs.cached, hs.statuses, hs.positions, hs.begun⟩
    cases item with
    | bytes content => exact hs'.bytes hr hclosing content
    | fault f =>
      simp only [readItem]
      cases hinterrupt : f.isInterrupt with
      | true => exact hs'.aside (fun _ => by simp [Hearing.next, hinterrupt]) rfl rfl (.inr rfl)
      | false =>
        cases htimeout : f.isTimeout with
        | true =>
          have hwaited := hs'.wait (t := .read (.fault f)) (by simp [Hearing.next, hinterrupt])
          simp only [timeOut, hr] at hwaited
          exact hwaited
        | false => exact hs'.fails _ rfl
    | ending =>
      obtain ⟨-, hfresh⟩ := hs'.of_reader hr hclosing
      simp only [readItem]
      split
      · rename_i hsome
        exact hs'.line hr hclosing (by simp [Hearing.next, hfresh, hsome])
      · rename_i hstale
        exact hs'.fails _ (by simp [Hearing.next, hfresh, hstale])
  | idle => exact hs.wait rfl
  | arm | device => exact hs.aside (fun _ => rfl) rfl rfl (.inr rfl)
  | opening hrest hfree hgone port baud =>
    have hlends : s.device.lends port baud = false :=
      eq_false_of_ne_true fun hlends => hopens rfl ⟨port, baud, hlends, rfl⟩
    obtain ⟨hcached, hnone⟩ := openPort_of_not_lends hlends hgone
    exact hs.aside (fun _ => rfl) hcached (hheard rfl) (.inl hnone)
  | _ => exact hwrites rfl fun _ => rfl

/-! ### Since a port was opened -/

/-- Turns in which no port is opened. One may be found not to open. -/
inductive Stays : Session → List Turn → Session → Prop
  | nil (s : Session) : Stays s [] s
  | cons {s next last : Session} {t : Turn} {turns : List Turn} (h : s.Takes t next)
      (hopens : t.opens = true → ¬s.OpensPort next) (hrest : Stays next turns last) :
      Stays s (t :: turns) last

/-- A session begins, or a port has just been opened in it. -/
inductive Begins (s : Session) : Session → Prop
  | first : Begins s s
  | opened {turns : List Turn} {before next : Session} (hruns : s.Runs turns before)
      (h : before.Takes .opening next) (hopens : before.OpensPort next) : Begins s next

/-- A run goes on from the last port that was opened in it, or from its start. -/
theorem Runs.since {s last : Session} {turns : List Turn} (h : s.Runs turns last) :
    ∃ first since, s.Begins first ∧ first.Stays since last := by
  -- on the turns to come, of which the last that opens a port is wanted
  have hgoes : ∀ {mid : Session} {more : List Turn}, mid.Runs more last →
      ∀ {before : List Turn}, s.Runs before mid → mid.Stays more last ∨
        ∃ first since, s.Begins first ∧ first.Stays since last := by
    intro mid more hmore
    induction hmore with
    | nil mid => exact fun _ => .inl (.nil mid)
    | @cons mid next last t more htakes _ ih =>
      intro before hbefore
      rcases ih h (hbefore.append (.single htakes)) with hstays | hsince
      · by_cases hopened : t.opens = true ∧ mid.OpensPort next
        · obtain ⟨hopens, hon⟩ := hopened
          obtain rfl : t = .opening := by
            cases t with
            | opening => rfl
            | _ => cases hopens
          exact .inr ⟨next, more, .opened hbefore htakes hon, hstays⟩
        · exact .inl (.cons htakes (fun hopens hon => hopened ⟨hopens, hon⟩) hstays)
      · exact .inr hsince
  rcases hgoes h (.nil s) with hstays | hsince
  · exact ⟨s, turns, .first, hstays⟩
  · exact hsince

/-- What is remembered is what the reports come to, turn by turn. -/
theorem Stays.recalls {first s last : Session} {turns more : List Turn} (h : s.Stays more last)
    (hs : Recalls first turns s) : Recalls first (turns ++ more) last := by
  -- on the turns to come; those that were taken are collected in `turns`
  induction h generalizing turns with
  | nil =>
    rw [List.append_nil]
    exact hs
  | @cons s next last t more htakes hopens _ ih =>
    have hassoc : turns ++ t :: more = turns ++ [t] ++ more := by simp
    rw [hassoc]
    exact ih (htakes.recalls hs hopens)

/-- Where a session begins, or a port has just been opened, nothing is remembered. -/
theorem Begins.fresh {s first : Session} (hnew : s.IsNew) (h : s.Begins first) :
    first.link.cached = (none, none) ∧
      (first.begun? = none ∨ first.begun? = some ([], false)) := by
  cases h with
  | first =>
    rw [begun?, hnew.link]
    exact ⟨rfl, .inl rfl⟩
  | opened hruns h hopens =>
    cases h with
    | opening hrest hfree hgone => exact hopens.cases hgone

/-- What the link remembers of the machine is what the reports come to that the reader has
handled since the last port was opened, and what the reader has told of them since is the same.
For every new session:

* after any steps, it goes on from the last port that was opened, or from its start;
* a call to connect succeeds just when it opens the port and the host has a thread for the
  reader. So every call that succeeds opens its port, and one that fails does so only for want of
  that thread;
* from there on, whatever else happens and at every turn, the status is that of the last report,
  the position is that of the last report with a work position, and there is none where there was
  no such report. The reports that the reader has told since as a status, and the positions, are
  those of these reports, in their order, each once. So lines that are no report or cannot be
  decoded, reports without a position, the end of a connection, broken transports and ports that
  are found not to open change neither;
* the lines are those of the bytes received, unless the stream ends right after some bytes that
  are no line yet, which are then a line;
* the work position of a report is that of its last valid field. -/
theorem cached_state_folds_reports {s : Session} (hnew : s.IsNew) :
    (∀ steps, ∃ first since, s.Begins first ∧ first.Stays since (s.after steps)) ∧
    (∀ (off : Session) port baud, (off.openPort .caller port baud).1.toBool =
      (off.device.lends port baud && (off.device.lent port baud).spawn.1.toBool)) ∧
    (∀ first since last, s.Begins first → first.Stays since last →
      last.link.status = (reports since).getLast?.map (·.status) ∧
      last.link.position = ((reports since).filterMap (·.workPosition)).getLast? ∧
      last.readerEvents.filterMap Event.machineStatus? =
        first.readerEvents.filterMap Event.machineStatus? ++ (reports since).map (·.status) ∧
      last.readerEvents.filterMap Event.position? =
        first.readerEvents.filterMap Event.position? ++
          (reports since).filterMap (·.workPosition)) ∧
    (∀ turns, ¬EndsFresh turns → (hearing turns).lines = (segments (received turns)).1) ∧
    ∀ bytes r, report? bytes = some r →
      r.workPosition = (r.fields.filterMap Machine.validWorkPosition?).getLast? := by
  refine ⟨fun steps => ?_, fun off => off.openPort_toBool .caller,
    fun first since last hbegins hstays => ?_, fun turns hturns => ?_, fun bytes r hreport => ?_⟩
  · have hleads : Leads (fun _ => true) s (s.after steps) :=
      after_leads hnew.calm hnew.stands fun _ _ _ _ => rfl
    obtain ⟨turns, hruns, -⟩ := hleads
    exact hruns.since
  -- a connection begins with nothing remembered, and the turns since add to that
  · obtain ⟨hfresh, hbegun⟩ := hbegins.fresh hnew
    obtain ⟨hstatus, hposition⟩ := Prod.mk.inj hfresh
    have hrecalls := hstays.recalls (.start hbegun)
    rw [List.nil_append] at hrecalls
    have hcached := hrecalls.cached
    rw [Link.cached_foldl_remember, hstatus, hposition, Option.or_none, Option.or_none] at hcached
    obtain ⟨hlast, hlast'⟩ := Prod.mk.inj hcached
    refine ⟨hlast, hlast', ?_, ?_⟩
    · rw [filterMap_readerEvents fun _ h => (Event.of_sign h).1,
        filterMap_readerEvents fun _ h => (Event.of_sign h).1]
      exact hrecalls.statuses
    · rw [filterMap_readerEvents fun _ h => (Event.of_sign h).2,
        filterMap_readerEvents fun _ h => (Event.of_sign h).2]
      exact hrecalls.positions
  · rw [hearing_eq_segments hturns]
  · obtain ⟨line, hline⟩ := exists_line_of_report hreport
    exact Machine.workPosition_of_report hline

/-- Two reports arrive in one piece, and then the connection is ended. -/
def twoReports : List Turn :=
  [.operator, .read (.bytes [60, 73, 100, 108, 101, 62, 10, 60, 82, 117, 110, 62, 10]),
    .read (.bytes [60, 82, 117, 110, 62, 10]), .operator]

/-- Of two reports the last is remembered, also when the connection has ended, and the observer
was told of both. -/
theorem cached_state_folds_reports_twoReports :
    ∃ last, listening.Stays twoReports last ∧ last.link.state = .disconnected ∧
      last.link.status = some ⟨"Run", "<Run>"⟩ ∧ last.link.position = none ∧
      last.readerEvents.filterMap Event.machineStatus? =
        [⟨"Idle", "<Idle>"⟩, ⟨"Run", "<Run>"⟩] := by
  -- the two reports come in one piece, and the reader takes a line at a time
  have hstays : ∃ last, listening.Stays twoReports last ∧ last.link.state = .disconnected :=
    ⟨_, .cons (.sends [.bytes [60, 73, 100, 108, 101, 62, 10, 60, 82, 117, 110, 62, 10]]) nofun <|
      .cons (.read (by decide +kernel) rfl rfl) nofun <|
      .cons (.read (by decide +kernel) rfl rfl) nofun <| .cons .disconnect nofun <| .nil _,
      by decide +kernel⟩
  obtain ⟨last, hstays, hoff⟩ := hstays
  have hbegins : Begins {} listening :=
    .opened (.nil _) (.opening (by decide) rfl rfl "COM3" 9600)
      ⟨"COM3", 9600, by decide +kernel, rfl⟩
  obtain ⟨hstatus, hposition, htold, -⟩ :=
    (cached_state_folds_reports (s := {}) ⟨rfl, by decide⟩).2.2.1 listening twoReports last
      hbegins hstays
  refine ⟨last, hstays, hoff, ?_, ?_, ?_⟩
  · rw [hstatus]
    decide +kernel
  · rw [hposition]
    rfl
  · rw [htold]
    decide +kernel

/-- The controller reports its status and its position. -/
def reportsOnce : List Step :=
  [.connect "COM3" 9600, .deviceSends [.bytes (Text.encode "<Idle|WPos:1,2,3>\n".toList)]]

/-- A call to connect that fails may forget what is remembered: it has opened the port, and only
then finds that the reader gets no thread. And not every status that the reader tells is one
that is remembered: it tells the end of the connection in the same way. -/
theorem failed_connect_forgets :
    ((crowded.after reportsOnce).link.status = some ⟨"Idle", "<Idle|WPos:1,2,3>"⟩ ∧
      (crowded.after reportsOnce).link.position.isSome = true ∧
      ((crowded.after reportsOnce).connect .caller "COM4" 9600).1 =
        .error (.openFailed "COM4" "no thread left") ∧
      ((crowded.after reportsOnce).connect .caller "COM4" 9600).2.link.status = none ∧
      ((crowded.after reportsOnce).connect .caller "COM4" 9600).2.link.position.isNone = true) ∧
    ((({} : Session).after (reportsOnce ++ [.deviceSends [.ending]])).link.status =
        some ⟨"Idle", "<Idle|WPos:1,2,3>"⟩ ∧
      (({} : Session).after (reportsOnce ++ [.deviceSends [.ending]])).readerEvents.filterMap
          (fun e => match e with
            | .status state _ => some state
            | _ => none) =
        ["Idle", "Error", "Disconnected"]) := by
  refine ⟨⟨?_, ?_, ?_, ?_, ?_⟩, ?_, ?_⟩
  all_goals decide +kernel

end Session

end GcodeSender
