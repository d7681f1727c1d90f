import GcodeSender.Proofs.Job.CutOff
import GcodeSender.Proofs.Link.Reading

/-!
# `GcodeSender.Proofs.Job.Parked`: a failure that a paused job learns of

A job's line can fail while the job is paused: the device rejects it, its write fails, or the
connection ends before its answer comes. The thread then reports the failure at once and
parks. What the failure makes of the job is decided by whoever lets the thread go on.

* `FailsLine`: the turns in which a thread learns that its line has failed.
* `jobReports`: what the threads of jobs report of their jobs. Of all turns, only those of
  these threads add to it (`Takes.jobReports`).
* `Job.isSpent`: a thread with no line to write and nothing to report. Where all threads are
  spent, the turns that they take write nothing and report nothing (`Spent.leads`).
* `InOrder.halts`: from the failure to rest, for a job in any state; `InOrder.parks` for a
  paused one. `InOrder.stays_parked`: from there on, for as long as the job is paused.
  `InOrder.frees`: the call that lets the thread go.
* `failure_while_paused`: the three together.
-/

set_option autoImplicit false

namespace GcodeSender

/-- The note, if it is a report that the thread of a job made of its job. -/
def Entry.ofJob? (e : Entry) : Option Note :=
  if e.thread = .streamer && e.note.isOfJob then some e.note else none

/-- What is reported of the link is no report of a job. -/
theorem Entry.OfLink.ofJob? {e : Entry} (h : e.OfLink) : e.ofJob? = none := by
  simp [Entry.ofJob?, h.not_ofJob]

/-- No other thread makes such reports. -/
theorem Entry.ofJob?_of_thread {t : Thread} (h : t ≠ .streamer) (n : Note) :
    Entry.ofJob? ⟨t, n⟩ = none := by
  simp [Entry.ofJob?, h]

/-- The threads by themselves start no job. -/
theorem Turn.spares_of_isRunning (i : Nat) (t : Turn) (h : t.isRunning = true) :
    t.spares i = true := by
  cases t with
  | launch => cases h
  | _ => rfl

/-- Texts that differ at a place do not begin alike up to there. -/
theorem begins_eq_false_at {p m : String} {n : Nat} {c d : Char} (hm : m.toList[n]? = some c)
    (hp : p.toList[n]? = some d) (h : c ≠ d) : begins p m = false := by
  refine eq_false_of_ne_true fun hbegins => h ?_
  obtain ⟨rest, hrest⟩ := List.isPrefixOf_iff_prefix.mp hbegins
  obtain ⟨hlt, -⟩ := List.getElem?_eq_some_iff.mp hp
  rw [← hrest, List.getElem?_append_left hlt, hp] at hm
  exact (Option.some.inj hm).symm

namespace Job

/-- The thread has no line to write and nothing to report: it is parked, or on the way to its
end. -/
def isSpent (j : Job) : Bool :=
  match j.stage with
  | .parked | .releasing | .retiring | .gone => true
  | _ => false

/-- A thread that has given the link back has nothing left to write. -/
theorem isSpent_of_not_holds {j : Job} (h : j.holds = false) : j.isSpent = true := by
  cases hs : j.stage <;> simp_all [holds, isSpent]

/-- A thread that has parked does not move before its job is resumed or stopped. -/
theorem move_of_parked {j : Job} (hs : j.stage = .parked) (hp : j.snapshot.state = .paused) :
    j.move = .rest := by
  simp [move, hs, hp]

/-- What becomes of a job whose thread has learned of a failure. -/
def halted (j : Job) : Job :=
  if j.snapshot.state = .paused then { j with stage := .parked }
  else { j with snapshot := j.snapshot.fail, stage := .releasing }

/-- What the thread reports of the failure: nothing, if the job was stopped in the meantime. -/
def haltNotes (j : Job) (kind : ErrorKind) (message : String) : List Note :=
  if j.isActive then failureNotes kind message else []

/-- What the thread does when it has learned of a failure. -/
theorem move_of_failing {j : Job} {kind : ErrorKind} {message : String}
    (hs : j.stage = .failing kind message) :
    j.move = .own j.halted (j.haltNotes kind message) := by
  cases hstate : j.snapshot.state <;>
    simp [move, hs, halted, haltNotes, isActive_eq, hstate, Snapshot.fail]

/-- The thread of a job that has halted: it has parked, or goes on to its end. Nothing else of
the job changes. -/
def Winds (old j : Job) : Prop :=
  j = { old with stage := j.stage } ∧
    (old.snapshot.state = .paused ∧ j.stage = .parked ∨
      old.snapshot.state ≠ .paused ∧ j.isWorking = false)

/-- A failure that is learned of while the job is paused leaves it paused. -/
theorem isPaused_halted (j : Job) :
    j.halted.snapshot.state = .paused ↔ j.snapshot.state = .paused := by
  cases hstate : j.snapshot.state <;> simp [halted, hstate, Snapshot.fail]

/-- A halted job winds down from where it has halted. -/
theorem winds_halted (j : Job) : j.halted.Winds j.halted := by
  refine ⟨rfl, ?_⟩
  by_cases hp : j.snapshot.state = .paused
  · exact .inl ⟨j.isPaused_halted.mpr hp, by rw [halted, if_pos hp]⟩
  · exact .inr ⟨fun h => hp (j.isPaused_halted.mp h), by rw [halted, if_neg hp]; rfl⟩

/-- The message of a rejected line begins with its number. -/
theorem initial?_rejected (n : Nat) (line answer : String) :
    initial? (JobError.rejected n line answer).message = some 'L' := by
  have hline : initial? "Line " = some 'L' := by decide
  have hnumber := initial?_append (initial?_append hline (toString n)) " rejected ("
  exact initial?_append (initial?_append (initial?_append hnumber line) "): ") answer

/-- So does that of a connection that ended. -/
theorem initial?_linkClosed (n : Nat) :
    initial? (JobError.linkClosed n).message = some 'L' := by
  have hlink : initial? "Link closed while line " = some 'L' := by decide
  exact initial?_append (initial?_append hlink _) _

/-- The failure to write a line begins with the same two letters as what the link reports. -/
theorem begins_sendFailure (n : Nat) (e : LinkError) :
    begins "Serial error: " (sendFailure n e) = false := by
  have hthird : (sendFailure n e).toList[2]? = some 'n' := by
    unfold sendFailure
    rw [String.toList_append, String.toList_append, String.toList_append, List.append_assoc,
      List.append_assoc, List.getElem?_append_left (by decide)]
    decide
  exact begins_eq_false_at hthird (d := 'r') (by decide) (by decide)

end Job

/-! ### A parked job -/

/-- A job that has parked stays so, whatever is made of its state, until its thread goes on to
its end; then it is errored or was stopped. -/
def Job.Lingers (old j : Job) : Prop :=
  j.snapshot = { old.snapshot with state := j.snapshot.state } ∧
    (j.stage = .parked ∧ j.lines = old.lines ∨ j.isWorking = false ∧ j.isActive = false)

/-- A thread at its end does not begin to work before its job is started again. -/
theorem Act.isWorking_onJob_of_not {a : Act} {j : Job} {i : Nat} (hfit : a.Fits j)
    (hi : a.job? = some i) (hlaunch : a.launches i = false) (hend : j.isActive = false)
    (hwork : j.isWorking = false) : (a.onJob j).isWorking = false ∧
      (a.onJob j).snapshot = j.snapshot := by
  cases a with
  | opened | dropped | closed | broke | heard | noted | signalled | withheld | meddled => cases hi
  | launched k name p => simp_all [Act.launches, Act.job?]
  | abandoned k => simp [Job.isActive_eq, hfit.2.1] at hend
  | paused k => simp [Job.isActive_eq, show j.snapshot.state = .running from hfit] at hend
  | resumed k => simp [Job.isActive_eq, hfit.1] at hend
  | stopped k => simp [hend, Act.Fits] at hfit
  -- a thread that writes or waits is working still
  | wrote => simp [Job.isWorking, hfit.1] at hwork
  | armed | yielded | refused | took => simp [Job.isWorking, show j.stage = _ from hfit] at hwork
  | returned k line failure =>
    obtain ⟨rest, hs⟩ := Job.hanging_of_writing? hfit.writing?
    simp [Job.isWorking, hs] at hwork
  | moved k p =>
    obtain ⟨after, hafter, hsteps⟩ := Job.steps_of_moved hfit
    rw [hafter]
    cases hsteps with
    | retire hs => exact ⟨rfl, rfl⟩
    | finish hs | leave hs | choose _ hs | lack hs | count hs | forgo hs | park _ _ hs
    | fail _ _ hs | wake hs => simp [Job.isWorking, hs] at hwork
  | released k => exact ⟨rfl, rfl⟩

namespace Core

variable {c c' : Core} {i : Nat} {old : Job} {a : Act} {P : Act → Bool}

/-- No act but a start and the operator's calls ends a job that lingers. -/
theorem lingers_next (hc : c.InOrder) (h : old.Lingers (c.job i)) (ha : a.Possible c)
    (hlaunch : a.launches i = false) : old.Lingers ((c.next a).job i) := by
  by_cases hi : a.job? = some i
  · have hfit := ha.2 i hi
    rw [next_job_self ha hi]
    -- the thread is parked still, or it is on its way to its end
    obtain ⟨hsame, ⟨hs, hlines⟩ | ⟨hwork, hend⟩⟩ := h
    · cases a with
      | opened | dropped | closed | broke | heard | noted | signalled | withheld | meddled =>
        cases hi
      | launched k name p => simp_all [Act.launches, Act.job?]
      | paused k =>
        simp only [Act.onJob, Job.pause_of_running hfit]
        exact ⟨by rw [hsame], .inl ⟨hs, hlines⟩⟩
      | resumed k =>
        simp only [Act.onJob, Job.resume_of_paused hfit.1]
        exact ⟨by rw [hsame], .inl ⟨hs, hlines⟩⟩
      | stopped k =>
        simp only [Act.onJob, Job.requestStop_of_active hfit.1]
        exact ⟨by rw [hsame], .inl ⟨hs, hlines⟩⟩
      | abandoned | armed | wrote | yielded | refused | took | released =>
        simp [Act.Fits, hs] at hfit
      | returned => simpa [Job.writing?, hs] using hfit.writing?
      | moved k p =>
        obtain ⟨after, hafter, hsteps⟩ := Job.steps_of_moved hfit
        rw [hafter]
        cases hsteps with
        | finish h' | leave h' | choose _ h' | lack h' | count h' | forgo h' | park _ _ h'
        | fail _ _ h' | retire h' => simp [hs] at h'
        | wake _ hp =>
          have hstate := Job.state_fail hp
            (hc.state_of_working (i := i) (by simp [Job.isWorking, hs]))
          refine ⟨?_, .inr ⟨rfl, ?_⟩⟩
          · rw [Job.Snapshot.fail]
            split
            · rw [hsame]
            · exact hsame
          · rcases hstate with h' | h' <;> simp [Job.isActive_eq, h']
    · obtain ⟨hwork', hsnapshot⟩ := Act.isWorking_onJob_of_not hfit hi hlaunch hend hwork
      refine ⟨by rw [hsnapshot, ← hsame], .inr ⟨hwork', ?_⟩⟩
      rw [Job.isActive, hsnapshot]
      exact hend
  · rw [next_job_of_ne hi]
    exact h

/-- So it lingers through any acts of that kind. -/
theorem Goes.lingers (h : Goes P c c') (hc : c.InOrder)
    (hP : ∀ a, P a = true → a.launches i = false ∧ a.isMeddling = false)
    (hold : old.Lingers (c.job i)) : old.Lingers (c'.job i) := by
  obtain ⟨acts, hpermits, rfl, hacts⟩ := h
  refine (hpermits.invariant (K := fun a => P a = true)
    (P := fun _ c => c.InOrder ∧ old.Lingers (c.job i)) ⟨hc, hold⟩ ?_ hacts).2
  rintro acts a _ _ ha hkind ⟨horder, hbefore⟩
  exact ⟨horder.next ha (hP a hkind).2, lingers_next horder hbefore ha (hP a hkind).1⟩

/-- Unless its job is resumed or stopped, a parked thread of a paused job does nothing, and no
call for the job does anything. -/
theorem Goes.parked (h : Goes P c c') (hP : ∀ a, P a = true → a ≠ .resumed i ∧ a ≠ .stopped i)
    (hs : (c.job i).stage = .parked) (hpaused : (c.job i).snapshot.state = .paused) :
    c'.job i = c.job i := by
  obtain ⟨acts, hpermits, rfl, hacts⟩ := h
  refine hpermits.invariant (K := fun a => P a = true) (P := fun _ c' => c'.job i = c.job i)
    rfl ?_ hacts
  intro acts a _ _ ha hkind hsame
  rw [next_job ha i]
  split
  · rename_i hi
    have hfit := ha.2 i hi
    rw [hsame] at hfit
    obtain ⟨hresumed, hstopped⟩ := hP a hkind
    -- only a resume or a stop would let the thread move
    exfalso
    cases a with
    | opened | dropped | closed | broke | heard | noted | signalled | withheld | meddled => cases hi
    | launched k name p => simp [Act.Fits, Job.isActive_eq, hpaused] at hfit
    | paused k => simp [Act.Fits, hpaused] at hfit
    | resumed k => simp_all [Act.job?]
    | stopped k => simp_all [Act.job?]
    | abandoned | armed | wrote | yielded | refused | took | released =>
      simp [Act.Fits, hs] at hfit
    | returned => simpa [Job.writing?, hs] using hfit.writing?
    | moved k p => simp [Act.Fits, Job.own?, Job.move_of_parked hs hpaused] at hfit
  · exact hsame

end Core

namespace Session

/-! ### What the threads of jobs report -/

/-- What the threads of jobs have reported of their jobs. -/
def jobReports (s : Session) : List Note := s.journal.filterMap Entry.ofJob?

/-- A note is added to what is reported of jobs if it is such a report. -/
theorem jobReports_tell (s : Session) (t : Thread) (n : Note) :
    (s.tell t n).jobReports = s.jobReports ++ (Entry.ofJob? ⟨t, n⟩).toList := by
  simp only [jobReports, tell, List.filterMap_append, List.filterMap_cons, List.filterMap_nil]
  cases Entry.ofJob? ⟨t, n⟩ <;> rfl

/-- Entries that are no reports of jobs add none. -/
theorem Adds.jobReports {P : Entry → Prop} {s s' : Session} (h : Adds P s s')
    (hP : ∀ e, P e → e.ofJob? = none) : s'.jobReports = s.jobReports := by
  obtain ⟨entries, hjournal, hall⟩ := h.journal
  have hnone : entries.filterMap Entry.ofJob? = [] :=
    List.filterMap_eq_nil_iff.mpr fun e he => hP e (hall e he)
  rw [Session.jobReports, hjournal, List.filterMap_append, hnone, List.append_nil,
    Session.jobReports]

/-- In particular those of the link. -/
theorem Adds.jobReports_of_link {s s' : Session} (h : Adds Entry.OfLink s s') :
    s'.jobReports = s.jobReports := h.jobReports fun _ => Entry.OfLink.ofJob?

/-- The same, where a device is written to as well. -/
theorem Writes.jobReports_of_link {s s' : Session} (h : Writes Entry.OfLink s s') :
    s'.jobReports = s.jobReports := h.adds.jobReports_of_link

/-- A line in the log is no report of a job. -/
@[simp] theorem jobReports_log (s : Session) (t : Thread) (level : Log.Level) (message : String) :
    (s.log t level message).jobReports = s.jobReports :=
  (adds_log s t level message).jobReports_of_link

/-- Neither is the state of the connection. -/
@[simp] theorem jobReports_become (s : Session) (t : Thread) (next : Link.ConnectionState) :
    (s.become t next).jobReports = s.jobReports := (adds_become s t next).jobReports_of_link

/-- The reader tells of no job. -/
@[simp] theorem jobReports_emit_reader (s : Session) (e : Event) :
    (s.emit .reader e).jobReports = s.jobReports := by
  rw [emit, jobReports_tell, Entry.ofJob?_of_thread (by decide), Option.toList_none,
    List.append_nil]

/-- Not even with a status. -/
@[simp] theorem jobReports_reportStatus (s : Session) (state raw : String) :
    (s.reportStatus .reader state raw).jobReports = s.jobReports := by
  rw [(adds_reaction s .reader state raw).jobReports_of_link, jobReports_emit_reader]

/-- What the operator is told comes from the operator's own thread. -/
theorem jobReports_tellAll (s : Session) (notes : List Note) :
    (s.tellAll .caller notes).jobReports = s.jobReports :=
  (Adds.several notes (fun n => Entry.ofJob?_of_thread (by decide) n) s).jobReports fun _ h => h

/-- A failure of a job's line is a report of the job. -/
theorem jobReports_failureNotes {kind : ErrorKind} {message : String}
    (hown : begins "Serial error: " message = false) (s : Session) :
    ((Job.failureNotes kind message).foldl reportFromJob s).jobReports =
      s.jobReports ++ Job.failureNotes kind message := by
  show ((s.tell .streamer (Job.record .error ("Job halted: " ++ message))).tell .streamer
    (.event (.error kind message))).jobReports = _
  rw [jobReports_tell, jobReports_tell]
  simp [Job.failureNotes, Job.record, Entry.ofJob?, Note.isOfJob, hown]

/-! A line that is received is no report of a job. -/

/-- Nothing is told of a job when a status report is handled. -/
theorem jobReports_handleReport (s : Session) (r : Machine.StatusReport) :
    (s.handleReport r).jobReports = s.jobReports := by
  have hfields : ∀ (errors : List Machine.FieldError) (s : Session),
      (errors.foldl reportFieldError s).jobReports = s.jobReports := by
    intro errors
    induction errors with
    | nil => exact fun s => rfl
    | cons e errors ih => exact fun s => (ih _).trans (by simp [reportFieldError])
  rw [handleReport, hfields]
  cases r.workPosition <;> simp <;> rfl

/-- Nothing is told of one when any other line is. -/
theorem jobReports_handleText (s : Session) (line : String) :
    (s.handleText line).jobReports = s.jobReports := by
  unfold handleText
  split
  · rw [jobReports_handleReport, jobReports_emit_reader, jobReports_log]
  · split
    · simp only [handleAnswer]
      split <;> simp [jobReports, emit, log, tell, Entry.ofJob?]
    · rw [jobReports_emit_reader, jobReports_log]

/-- A line that cannot be decoded is no report of a job. -/
theorem jobReports_handleLine (s : Session) (bytes : List UInt8) :
    (s.handleLine bytes).jobReports = s.jobReports := by
  unfold handleLine
  split
  · simp only []
    split
    · rfl
    · exact jobReports_handleText s _
  · rw [jobReports_emit_reader, jobReports_log]

/-- Lines may come in pieces. -/
theorem jobReports_completeLine (s : Session) (r : Link.Reader) (chunk : List UInt8) :
    (s.completeLine r chunk).jobReports = s.jobReports := by
  rw [completeLine, (adds_endIfStopping _).jobReports_of_link, jobReports_handleLine]
  rfl

/-- The reader's end is the link's affair alone. -/
theorem jobReports_fault (s : Session) (reason : String) :
    (s.fault reason).jobReports = s.jobReports := by
  have hreport : (s.reportFault reason).jobReports = s.jobReports := by simp [reportFault]
  simp only [fault]
  split
  · split
    · exact hreport
    · exact hreport
  · rw [(adds_closeAfterFault _).jobReports_of_link, hreport]

/-- Whatever the reader finds, it reports of no job. -/
theorem jobReports_readItem (s : Session) (r : Link.Reader) (item : Bench.Item) :
    (s.readItem r item).jobReports = s.jobReports := by
  generalize h : s.readItem r item = next
  cases reads_readItem h with
  | nothing | mark => rfl
  | line chunk => exact jobReports_completeLine s r chunk
  | fault reason => exact jobReports_fault s reason

/-- To open a port reports of no job, either. -/
theorem jobReports_openPort (s : Session) (port : String) (baud : UInt32) :
    (s.openPort .caller port baud).2.jobReports = s.jobReports :=
  filterMap_openPort (f := Entry.ofJob?) (Entry.ofJob?_of_thread (by decide))
    (fun r _ => Entry.ofJob?_of_thread (by decide) (.record r)) s port baud

/-- Only the threads of jobs report of their jobs. -/
theorem Takes.jobReports {s next : Session} {t : Turn} (h : s.Takes t next)
    (ht : ∀ i, t ≠ .job i) : next.jobReports = s.jobReports := by
  -- what a caller tells is no report of a job
  have htold : ∀ (s' : Session) (notes : List Note), s'.jobReports = s.jobReports →
      (s'.tellAll .caller notes).jobReports = s.jobReports :=
    fun s' notes hsame => (jobReports_tellAll s' notes).trans hsame
  cases h with
  | @job i _ _ => exact absurd rfl (ht i)
  | @read item rest _ _ hitem h =>
    obtain ⟨r, -, -, rfl⟩ := read?_cases hitem h
    exact jobReports_readItem _ r item
  | idle =>
    unfold timeOut
    split <;> rfl
  | letGo i => exact (writes_letGoJob s i).jobReports_of_link
  | launch | abandon => exact htold _ _ rfl
  | spawn => rfl
  | refuse e => exact htold s _ rfl
  | pause i => exact htold _ _ rfl
  | resume hrest i => exact htold _ _ rfl
  | stop hrest i =>
    simp only [requestStop]
    split
    · rfl
    · exact htold _ _ rfl
  | overdue ms => exact htold s [_] rfl
  | sendLine hrest line =>
    exact (writes_write s (by decide) (wireLine line) line true).jobReports_of_link
  | sendRealtime c => exact (writes_write s (by decide) [c.byte] c.display false).jobReports_of_link
  | disconnect => exact (adds_teardown s .caller).jobReports_of_link
  | opening _ _ _ port baud => exact jobReports_openPort s port baud
  | stay port => exact jobReports_log s .caller .debug _
  | listPorts =>
    unfold Session.listPorts
    split
    · exact htold s [_] rfl
    · rfl
    · rfl
  | meddle | sends | device | arm => rfl

/-! ### Threads that are spent -/

/-- A spent thread moves in silence, and stays spent. If it is on the way to its end, nothing
else of its job changes. -/
theorem advance?_of_isSpent {s next : Session} {k : Nat} (hs : (s.job k).isSpent = true)
    (h : s.advance? k = some next) :
    ∃ j, (j.isSpent = true ∧ j.isWorking = false ∧
        ((s.job k).isWorking = false → j = { s.job k with stage := j.stage })) ∧
      next.jobs = s.jobs.set k j ∧ next.journal = s.journal ∧ next.device = s.device := by
  unfold Job.isSpent at hs
  -- a spent thread is parked, on its way to its end, or gone
  cases hstage : (s.job k).stage with
  | deciding | arming | sending | hanging | awaiting | crediting | failing => simp [hstage] at hs
  | gone => simp [advance?, Job.move, hstage] at h
  | parked =>
    by_cases hp : (s.job k).snapshot.state = .paused
    · simp [advance?, Job.move_of_parked hstage hp] at h
    · have hm : (s.job k).move =
          .own { s.job k with snapshot := (s.job k).snapshot.fail, stage := .releasing } [] := by
        simp [Job.move, hstage, hp]
      obtain rfl : s.setJob k
          { s.job k with snapshot := (s.job k).snapshot.fail, stage := .releasing } = next := by
        simpa [advance?, hm] using h
      exact ⟨_, ⟨rfl, rfl, by simp [Job.isWorking, hstage]⟩, rfl, rfl, rfl⟩
  | releasing =>
    have hm : (s.job k).move = .release := by simp [Job.move, hstage]
    obtain rfl : ({ s with link := s.link.release } : Session).setJob k (s.job k).released =
        next := by simpa [advance?, hm] using h
    exact ⟨_, ⟨rfl, rfl, fun _ => rfl⟩, rfl, rfl, rfl⟩
  | retiring =>
    have hm : (s.job k).move = .own { s.job k with stage := .gone } [] := by simp [Job.move, hstage]
    obtain rfl : s.setJob k { s.job k with stage := .gone } = next := by
      simpa [advance?, hm] using h
    exact ⟨_, ⟨rfl, rfl, fun _ => rfl⟩, rfl, rfl, rfl⟩

/-- Nothing but the thread itself and the link is changed by that. -/
theorem advance?_beside {s next : Session} {k : Nat} (hs : (s.job k).isSpent = true)
    (hmove : s.advance? k = some next) :
    (∀ i, i ≠ k → next.job i = s.job i) ∧ (next.job k).isSpent = true ∧
      next.jobReports = s.jobReports ∧ next.device = s.device := by
  have hlt : k < s.jobs.length := lt_of_stage fun hs => by simp [advance?, Job.move, hs] at hmove
  obtain ⟨j, ⟨hspent, -⟩, hjobs, hjournal, hdevice⟩ := advance?_of_isSpent hs hmove
  refine ⟨fun i hi => by simp [job, hjobs, Ne.symm hi], ?_, by
    rw [jobReports, hjournal, jobReports], hdevice⟩
  simpa [job, hjobs, hlt] using hspent

/-- All threads of jobs are spent. -/
def Spent (s : Session) : Prop := ∀ k, (s.job k).isSpent = true

/-- The thread of a job that holds the link is the only one that is not spent. -/
theorem InOrder.isSpent_of_ne {s : Session} (h : s.InOrder) {i k : Nat}
    (hi : (s.job i).holds = true) (hk : k ≠ i) : (s.job k).isSpent = true := by
  refine Job.isSpent_of_not_holds (eq_false_of_ne_true fun hholds => hk ?_)
  exact h.core.owned.one k i hholds hi

/-- While one job is parked, all threads are spent. -/
theorem InOrder.spent {s : Session} (h : s.InOrder) {i : Nat} (hs : (s.job i).stage = .parked) :
    s.Spent := by
  intro k
  by_cases hk : k = i
  · simp [hk, Job.isSpent, hs]
  · exact h.isSpent_of_ne (by simp [Job.holds, hs]) hk

namespace Spent

variable {s next last : Session} {t : Turn}

/-- Where all threads of jobs are spent, nobody reports of a job. -/
theorem jobReports (h : s.Spent) (ht : s.Takes t next) : next.jobReports = s.jobReports := by
  have hother := ht.jobReports
  cases ht with
  | @job k _ hmove =>
    exact (advance?_beside (h k) hmove).2.2.1
  | _ => exact hother (by simp)

/-- The turns that the threads take then change nothing of the device but what waits to be
read, and leave all threads spent. -/
theorem takes (h : s.Spent) (ht : s.Takes t next) (hrun : t.isRunning = true) :
    next.Spent ∧ next.device = { s.device with inbound := next.device.inbound } := by
  cases ht with
  | @job k _ hmove =>
    -- a move leaves the thread spent, and does not concern the others
    obtain ⟨hothers, hspent, -, hdevice⟩ := advance?_beside (h k) hmove
    refine ⟨fun i => ?_, by rw [hdevice]⟩
    by_cases hik : i = k
    · rw [hik]
      exact hspent
    · rw [hothers i hik]
      exact h i
  | @read item rest _ hrest hitem hread =>
    have hjobs : next.jobs = s.jobs :=
      (read?_goes hread hrest).keeps (f := Core.jobs) Core.next_jobs_of_isReading
    obtain ⟨r, -, -, rfl⟩ := read?_cases hitem hread
    exact ⟨fun i => by rw [job_of_jobs hjobs]; exact h i, by rw [device_readItem]⟩
  | idle =>
    have hjobs : s.timeOut.jobs = s.jobs := congrArg Core.jobs (core_timeOut s)
    exact ⟨fun i => by rw [job_of_jobs hjobs]; exact h i, by rw [device_timeOut]⟩
  | letGo | launch | spawn | abandon | refuse | pause | resume | stop | overdue | sendLine
  | sendRealtime | disconnect | opening | stay | listPorts | meddle | sends | device | arm =>
    cases hrun

/-- So it is in a run of such turns. -/
theorem leads (h : s.Spent) (hruns : Leads Turn.isRunning s last) :
    last.jobReports = s.jobReports ∧
      last.device = { s.device with inbound := last.device.inbound } := by
  refine (hruns.invariant (P := fun last => last.Spent ∧ last.jobReports = s.jobReports ∧
    last.device = { s.device with inbound := last.device.inbound }) ⟨h, rfl, rfl⟩ ?_).2
  rintro mid next t ht hrun ⟨hspent, hreports, hdevice⟩
  obtain ⟨hnext, hsame⟩ := hspent.takes ht hrun
  exact ⟨hnext, (hspent.jobReports ht).trans hreports, by rw [hsame, hdevice]⟩

end Spent

/-! ### A line that fails -/

/-- A turn in which the thread of a job learns that its line has failed, with what it makes of
that: the line is rejected, there will be no answer to it, or it was not written. -/
inductive FailsLine (s : Session) (i : Nat) : Turn → ErrorKind → String → Prop
  | rejected {line answer : String} (hs : (s.job i).stage = .awaiting line)
      (hanswer : s.link.slot.response = some answer)
      (hrejects : Machine.isAccepted answer = false) :
      FailsLine s i (.job i) .protocol
        (JobError.rejected (s.job i).lineNumber line answer).message
  | closed {line : String} (hs : (s.job i).stage = .awaiting line)
      (hclosed : s.link.slot.closed = true) :
      FailsLine s i (.job i) .transport (JobError.linkClosed (s.job i).lineNumber).message
  | unsent {line : String} {e : LinkError} (hs : (s.job i).stage = .sending line)
      (hwrite : (s.writeLine .streamer line).1 = .returned (.error e)) :
      FailsLine s i (.job i) .transport (Job.sendFailure (s.job i).lineNumber e)
  /-- The write hung before it failed. -/
  | broken {line reason : String} {rest : List UInt8} (hs : (s.job i).stage = .hanging line rest)
      (hwrite : (s.device.letGo rest).1 = .failed reason) :
      FailsLine s i (.letGo i) .transport (Job.sendFailure (s.job i).lineNumber (.io reason))

/-- The turn of a job's thread is its next move. -/
theorem advance?_of_takes {s next : Session} {i : Nat} (h : s.Takes (.job i) next) :
    s.advance? i = some next := by
  cases h with
  | job hmove => exact hmove

/-- A thread that waits takes an answer that is there. If the answer does not accept its line, it
is about to report that. -/
theorem advance?_rejected {s : Session} {i : Nat} {line answer : String}
    (hs : (s.job i).stage = .awaiting line) (hanswer : s.link.slot.response = some answer)
    (hrejects : Machine.isAccepted answer = false) :
    ∃ taken, s.advance? i = some taken ∧
      taken.job i = { s.job i with
        stage := .failing .protocol (JobError.rejected (s.job i).lineNumber line answer).message } ∧
      taken.jobReports = s.jobReports := by
  have hlt : i < s.jobs.length := lt_of_stage (by simp [hs])
  have hm : (s.job i).move = .await := by simp [Job.move, hs]
  refine ⟨({ s with link.slot := { s.link.slot with response := none, armed := false } } :
    Session).setJob i ((s.job i).answered (.answer answer)), ?_, ?_, rfl⟩
  · simp [advance?, hm, Link.Slot.check?, hanswer]
  · refine (job_setJob_self hlt _).trans ?_
    simp [Job.answered, hrejects, Job.awaited, hs]

/-- The failure of a job's line is not one that the link reports by itself. -/
theorem FailsLine.not_ofLink {s : Session} {i : Nat} {t : Turn} {kind : ErrorKind}
    {message : String} (h : s.FailsLine i t kind message) :
    begins "Serial error: " message = false := by
  cases h with
  | @rejected line answer =>
    exact begins_eq_false (Job.initial?_rejected _ line answer) (d := 'S') (by decide) (by decide)
  | closed =>
    exact begins_eq_false (Job.initial?_linkClosed _) (d := 'S') (by decide) (by decide)
  | unsent | broken => exact Job.begins_sendFailure _ _

namespace InOrder

variable {s next last : Session} {i : Nat} {t : Turn} {kind : ErrorKind} {message : String}

/-- The thread of a paused job learns of the failure, and all else of the job stays as it is. -/
theorem learns (h : s.InOrder) (hpaused : (s.job i).snapshot.state = .paused)
    (hfails : s.FailsLine i t kind message) (ht : s.Takes t next) :
    next.job i = { s.job i with stage := .failing kind message } ∧
      next.jobReports = s.jobReports := by
  have hlt : (s.job i).stage ≠ .gone → i < s.jobs.length := lt_of_stage
  cases hfails with
  | @rejected line answer hs hanswer hrejects =>
    obtain ⟨taken, htaken, hjob, hreports⟩ := advance?_rejected hs hanswer hrejects
    obtain rfl : taken = next := Option.some.inj (htaken.symm.trans (advance?_of_takes ht))
    exact ⟨hjob, hreports⟩
  | @closed line hs hclosed =>
    have hmove := advance?_of_takes ht
    have hm : (s.job i).move = .await := by simp [Job.move, hs]
    cases hcheck : s.link.slot.check? with
    | none => simp [advance?, hm, hcheck] at hmove
    | some ended =>
      obtain ⟨outcome, slot⟩ := ended
      obtain rfl : ({ s with link.slot := slot } : Session).setJob i ((s.job i).answered outcome) =
          next := by simpa [advance?, hm, hcheck] using hmove
      -- waits are called off only for a job that was stopped
      rcases h.core.closed_of_check? (i := i) hs hclosed hcheck with rfl | ⟨-, hstopped⟩
      · refine ⟨?_, rfl⟩
        rw [job_setJob_self (s := { s with link.slot := slot }) (hlt (by simp [hs]))]
        rfl
      · rw [core_job, hpaused] at hstopped
        cases hstopped
  | @unsent line e hs hwrite =>
    have hmove := advance?_of_takes ht
    have hm : (s.job i).move = .send line := by simp [Job.move, hs]
    obtain rfl : (s.writeLine .streamer line).2.setJob i ((s.job i).sent line (.error e)) =
        next := by simpa [advance?, hm, hwrite, jobWritten] using hmove
    have hjobs : (s.writeLine .streamer line).2.jobs = s.jobs := jobs_write s _ _ _ _
    refine ⟨?_, ?_⟩
    · rw [job_setJob_self (by rw [hjobs]; exact hlt (by simp [hs]))]
      rfl
    · exact (writes_write s (by decide) (wireLine line) line true).jobReports_of_link
  | @broken line reason rest hs hwrite =>
    refine ⟨?_, ht.jobReports (by simp)⟩
    obtain rfl : next = s.letGoJob i := by cases ht; rfl
    rcases s.letGoJob_cases i with ⟨hfree, -⟩ | ⟨line', rest', hs', free, hjobs, -, hletGo⟩
    · simp [Job.isHanging, hs] at hfree
    · obtain ⟨rfl, rfl⟩ : line = line' ∧ rest = rest' := by simpa [hs] using hs'
      have hafter : (free.failWrite .streamer reason).jobs = s.jobs := by
        rw [← hjobs]
        exact jobs_afterDelivery free .streamer line (.failed reason)
      rw [hletGo, hwrite]
      simp only [afterDelivery, jobWritten, job_of_jobs hafter]
      rw [job_setJob_self (by rw [hafter]; exact hlt (by simp [hs]))]
      rfl

/-! ### From the failure to rest -/

/-- Where the threads of all other jobs are spent, what they and the reader do by themselves
does not concern the job. -/
theorem apart (hothers : ∀ k, k ≠ i → (s.job k).isSpent = true) (ht : s.Takes t next)
    (hrun : t.isRunning = true) (hne : t ≠ .job i) :
    next.job i = s.job i ∧ next.jobReports = s.jobReports ∧
      ∀ k, k ≠ i → (next.job k).isSpent = true := by
  have hother := ht.jobReports
  have hsame : next.jobs = s.jobs → (∀ k, t ≠ .job k) → next.job i = s.job i ∧
      next.jobReports = s.jobReports ∧ ∀ k, k ≠ i → (next.job k).isSpent = true :=
    fun hjobs ht => ⟨job_of_jobs hjobs, hother ht, fun k hk => by
      rw [job_of_jobs hjobs]; exact hothers k hk⟩
  -- nothing but a thread of a job changes jobs, and those of the others are spent
  cases ht with
  | @job k _ hmove =>
    have hk : k ≠ i := fun hk => hne (by rw [hk])
    obtain ⟨hkept, hspent, hreports, -⟩ := advance?_beside (hothers k hk) hmove
    refine ⟨hkept i hk.symm, hreports, fun l hl => ?_⟩
    by_cases hlk : l = k
    · rw [hlk]
      exact hspent
    · rw [hkept l hlk]
      exact hothers l hl
  | read hrest hitem hread =>
    exact hsame ((read?_goes hread hrest).keeps (f := Core.jobs) Core.next_jobs_of_isReading)
      (by simp)
  | idle => exact hsame (congrArg Core.jobs (core_timeOut s)) (by simp)
  | letGo | launch | spawn | abandon | refuse | pause | resume | stop | overdue | sendLine
  | sendRealtime | disconnect | opening | stay | listPorts | meddle | sends | device | arm =>
    cases hrun

/-- A thread that has learned of a failure reports it and halts. -/
theorem reports_failure (hs : (s.job i).stage = .failing kind message)
    (hown : begins "Serial error: " message = false) (hmove : s.advance? i = some next) :
    next.job i = (s.job i).halted ∧ (∀ k, k ≠ i → next.job k = s.job k) ∧
      next.jobReports = s.jobReports ++ (s.job i).haltNotes kind message := by
  have hlt : i < s.jobs.length := lt_of_stage (by simp [hs])
  obtain rfl : ((s.job i).haltNotes kind message).foldl reportFromJob
      (s.setJob i (s.job i).halted) = next := by
    simpa [advance?, Job.move_of_failing hs] using hmove
  cases hactive : (s.job i).isActive with
  | true =>
    rw [Job.haltNotes, hactive, if_pos rfl]
    exact ⟨job_setJob_self hlt _, fun k hk => job_setJob_of_ne s hk.symm _,
      jobReports_failureNotes hown _⟩
  | false =>
    rw [Job.haltNotes, hactive, if_neg Bool.false_ne_true, List.append_nil]
    exact ⟨job_setJob_self hlt _, fun k hk => job_setJob_of_ne s hk.symm _, rfl⟩

/-- The thread of a job that has halted moves in silence. -/
theorem winds_advance? {old : Job} (h : old.Winds (s.job i)) (hmove : s.advance? i = some next) :
    old.Winds (next.job i) ∧ next.jobReports = s.jobReports ∧
      ∀ k, k ≠ i → next.job k = s.job k := by
  obtain ⟨hsame, ⟨hp, hs⟩ | ⟨hp, hwork⟩⟩ := h
  · -- a parked thread waits for its job to be resumed or stopped
    have hrests := Job.move_of_parked hs (by rw [hsame]; exact hp)
    simp [advance?, hrests] at hmove
  · have hlt : i < s.jobs.length := lt_of_stage fun hs => by simp [advance?, Job.move, hs] at hmove
    have hspent : (s.job i).isSpent = true := by
      cases hs : (s.job i).stage <;> simp_all [Job.isWorking, Job.isSpent]
    obtain ⟨j, ⟨-, hends, hkept⟩, hjobs, hjournal, -⟩ := advance?_of_isSpent hspent hmove
    have hjob : next.job i = j := by simp [job, hjobs, hlt]
    refine ⟨?_, by rw [jobReports, hjournal, jobReports], fun k hk => ?_⟩
    · rw [hjob]
      refine ⟨?_, .inr ⟨hp, hends⟩⟩
      rw [hkept hwork, hsame]
    · simp [job, hjobs, Ne.symm hk]

/-- A thread that is about to report a failure is not at rest. -/
theorem not_atRest_of_failing (hs : (s.job i).stage = .failing kind message) :
    ¬s.core.AtRest := by
  intro hrest
  have hstill := Job.isStill_of_rests (hrest.job i)
  rw [core_job, Job.isStill, Job.move_of_failing hs] at hstill
  cases hstill

/-- The threads by themselves bring a job from its failure to rest: it has parked, or its thread
has ended. The failure is reported once, unless the job was stopped. -/
theorem halts (h : s.InOrder) (hs : (s.job i).stage = .failing kind message)
    (hown : begins "Serial error: " message = false) (hruns : Leads Turn.isRunning s last)
    (hrest : last.core.AtRest) :
    last.job i = { (s.job i).halted with
        stage := if (s.job i).snapshot.state = .paused then .parked else .gone } ∧
      last.jobReports = s.jobReports ++ (s.job i).haltNotes kind message := by
  have hcases : (∀ k, k ≠ i → (last.job k).isSpent = true) ∧
      (last.job i = s.job i ∧ last.jobReports = s.jobReports ∨
        (s.job i).halted.Winds (last.job i) ∧
          last.jobReports = s.jobReports ++ (s.job i).haltNotes kind message) := by
    refine hruns.invariant (P := fun last => (∀ k, k ≠ i → (last.job k).isSpent = true) ∧
      (last.job i = s.job i ∧ last.jobReports = s.jobReports ∨
        (s.job i).halted.Winds (last.job i) ∧
          last.jobReports = s.jobReports ++ (s.job i).haltNotes kind message))
      ⟨fun k hk => h.isSpent_of_ne (by simp [Job.holds, hs]) hk, .inl ⟨rfl, rfl⟩⟩ ?_
    rintro mid next t ht hrun ⟨hothers, hcases⟩
    -- only the thread of the job changes anything: it reports the failure, and then it winds up
    by_cases hti : t = .job i
    · subst hti
      have hmove := advance?_of_takes ht
      rcases hcases with ⟨hjob, hreports⟩ | ⟨hwinds, hreports⟩
      · obtain ⟨hnext, hkept, htold⟩ := reports_failure (by rw [hjob, hs]) hown hmove
        rw [hjob] at hnext htold
        exact ⟨fun k hk => by rw [hkept k hk]; exact hothers k hk,
          .inr ⟨by rw [hnext]; exact Job.winds_halted _, by rw [htold, hreports]⟩⟩
      · obtain ⟨hnext, htold, hkept⟩ := winds_advance? hwinds hmove
        exact ⟨fun k hk => by rw [hkept k hk]; exact hothers k hk,
          .inr ⟨hnext, htold.trans hreports⟩⟩
    · obtain ⟨hsame, htold, hkept⟩ := apart hothers ht hrun hti
      rw [hsame, htold]
      exact ⟨hkept, hcases⟩
  rcases hcases.2 with ⟨hjob, -⟩ | ⟨⟨hsame, hstage⟩, hreports⟩
  · exact absurd hrest (not_atRest_of_failing (i := i) (by rw [hjob, hs]))
  · refine ⟨?_, hreports⟩
    rcases hstage with ⟨hp, hparked⟩ | ⟨hp, hwork⟩
    · rw [if_pos ((s.job i).isPaused_halted.mp hp), hsame, hparked]
    · rw [if_neg fun h => hp ((s.job i).isPaused_halted.mpr h), hsame]
      have hgone : (last.job i).stage = .gone := by
        rcases Job.isStill_cases (Job.isStill_of_rests (hrest.job i)) with
          hs | ⟨hs, -⟩ | ⟨line, rest, hs⟩ | ⟨line, hs⟩ | ⟨hs, -⟩
        · exact hs
        all_goals
          rw [core_job] at hs
          simp [Job.isWorking, hs] at hwork
      rw [hgone]

/-- A paused job parks, with one report of the failure. -/
theorem parks (h : s.InOrder) (hs : (s.job i).stage = .failing kind message)
    (hpaused : (s.job i).snapshot.state = .paused)
    (hown : begins "Serial error: " message = false) (hruns : Leads Turn.isRunning s last)
    (hrest : last.core.AtRest) :
    last.job i = { s.job i with stage := .parked } ∧
      last.jobReports = s.jobReports ++ Job.failureNotes kind message := by
  obtain ⟨hjob, hreports⟩ := h.halts hs hown hruns hrest
  rw [Job.halted, if_pos hpaused, if_pos hpaused] at hjob
  rw [Job.haltNotes, Job.isActive_eq, hpaused] at hreports
  exact ⟨hjob, hreports⟩

/-! ### While the job is parked -/

/-- Whatever turns follow, a parked job lingers until it is started again, and as long as it is
running or paused nobody reports of a job. -/
theorem lingers_leads (h : s.InOrder) (hs : (s.job i).stage = .parked)
    (hleads : LeadsFairly (Turn.spares i) s last) :
    last.InOrder ∧ (s.job i).Lingers (last.job i) ∧
      ((last.job i).isActive = true → last.jobReports = s.jobReports) := by
  refine hleads.invariant (P := fun last => last.InOrder ∧ (s.job i).Lingers (last.job i) ∧
    ((last.job i).isActive = true → last.jobReports = s.jobReports))
    ⟨h, ⟨rfl, .inl ⟨hs, rfl⟩⟩, fun _ => rfl⟩ ?_
  rintro mid next t ht hspares ⟨horder, hlingers, hreports⟩
  have hnext : (s.job i).Lingers (next.job i) := ht.goes.lingers (i := i) horder.core
    (fun a ha => ⟨TakesFairly.not_launches hspares ha, TakesFairly.not_meddling ha⟩) hlingers
  refine ⟨horder.takes ht, hnext, fun hactive => ?_⟩
  rcases hlingers.2 with ⟨hparked, -⟩ | ⟨hwork, hend⟩
  -- a job that is active after the turn was so before, and its thread is parked and silent
  · have hbefore : (mid.job i).isActive = true := by
      refine eq_true_of_ne_false fun hend => ?_
      have hended : mid.Ended i := ⟨by simp [Job.Obeys, hparked], hend⟩
      rw [(hended.takes ht.takes hspares).1.ended] at hactive
      cases hactive
    exact ((horder.spent hparked).jobReports ht.takes).trans (hreports hbefore)
  · have hended : mid.Ended i := ⟨by
      unfold Job.Obeys
      cases hstage : (mid.job i).stage <;> simp_all [Job.isWorking], hend⟩
    rw [(hended.takes ht.takes hspares).1.ended] at hactive
    cases hactive

/-- As long as it is paused, a parked job is as it was, and keeps the link. -/
theorem stays_parked (h : s.InOrder) (hs : (s.job i).stage = .parked)
    (hpaused : (s.job i).snapshot.state = .paused)
    (hleads : LeadsFairly (Turn.spares i) s last) (hlast : (last.job i).snapshot.state = .paused) :
    last.InOrder ∧ last.job i = s.job i ∧ last.link.claimed = true ∧
      last.jobReports = s.jobReports := by
  obtain ⟨horder, ⟨hsame, hcases⟩, hreports⟩ := h.lingers_leads hs hleads
  have hactive : (last.job i).isActive = true := by simp [Job.isActive_eq, hlast]
  rcases hcases with ⟨hparked, hlines⟩ | ⟨-, hend⟩
  · have hjob : last.job i = s.job i :=
      calc last.job i = ⟨(last.job i).snapshot, (last.job i).lines, (last.job i).stage⟩ := rfl
        _ = ⟨(s.job i).snapshot, (s.job i).lines, (s.job i).stage⟩ := by
          rw [hsame, hlines, hparked, hs, hlast, ← hpaused]
    refine ⟨horder, hjob, horder.core.owned.claimed.mpr ⟨i, ?_⟩, hreports hactive⟩
    simp [core_job, Job.holds, hparked]
  · rw [hactive] at hend
    cases hend

end InOrder

/-! ### The call that lets the thread go -/

/-- The calls that let the thread of a paused job go on. -/
def Step.wakes (i : Nat) : Step → Bool
  | .resume k | .stop k | .stopWithin k _ => k = i
  | _ => false

/-- Only such a call resumes or stops the job. -/
theorem Step.wakes_of_causes {n i : Nat} {step : Step}
    (h : step.causes n (.resumed i) = true ∨ step.causes n (.stopped i) = true) :
    step.wakes i = true := by
  cases step <;>
    simp_all [causes, begins, wakes, Act.isRunning, Act.isMove, Act.isReading, Act.isMeddling,
      sendsLine, sendsCommand, Act.isSend, Act.isBreak, Act.isYielding]

/-- What such a call makes of a job that has parked. -/
def Step.fate : Step → Job.RunState
  | .resume _ => .errored
  | _ => .stopped

/-- The step ends the job, and gives the link free. Nobody reports of a job any more, the device
is sent nothing, and the job has no further turn. -/
structure Frees (s : Session) (i : Nat) (step : Step) : Prop where
  snapshot : ((s.perform step).2.job i).snapshot = { (s.job i).snapshot with state := step.fate }
  ended : (s.perform step).2.IsOver i
  claimed : (s.perform step).2.link.claimed = false
  reports : (s.perform step).2.jobReports = s.jobReports
  device : (s.perform step).2.device =
    { s.device with inbound := (s.perform step).2.device.inbound }

namespace InOrder

variable {s next last : Session} {i : Nat} {step : Step}

/-- Such a call is a turn of the operator, after which the threads run to rest. -/
theorem call_of_wakes (h : s.InOrder) (hrest : s.core.AtRest)
    (hpaused : (s.job i).snapshot.state = .paused) (hfree : (s.job i).isHanging = false)
    (hwakes : step.wakes i = true) : ∃ called, s.TakesFairly .operator called ∧
      called.device = s.device ∧
      ((s.perform step).2 = called.settle ∨ (s.perform step).2 = called.settle.settle) := by
  have hactive : (s.job i).isActive = true := by simp [Job.isActive_eq, hpaused]
  cases step with
  | resume k =>
    obtain rfl : k = i := by simpa [Step.wakes] using hwakes
    refine ⟨_, .resume hrest k, ?_, .inl rfl⟩
    exact (adds_answered (s.setJob k (s.job k).resume.1) _).device
  | stop k =>
    obtain rfl : k = i := by simpa [Step.wakes] using hwakes
    refine ⟨_, .stop hrest k, (adds_requestStop s k).device, .inl ?_⟩
    simp [Session.perform, Step.waits, hfree, act]
  | stopWithin k ms =>
    obtain rfl : k = i := by simpa [Step.wakes] using hwakes
    -- the thread ends within the limit, because no write holds it up
    obtain ⟨hsettled, hrested⟩ := (Wound.request ⟨hrest, h.core.sound⟩ hactive .caller).settle
    have halive := hsettled.isAlive hrested
    rw [hfree] at halive
    refine ⟨_, .stop hrest k, (adds_requestStop s k).device, .inr ?_⟩
    simp [Session.perform, Step.waits, act, stopWithin, halive]
  | _ => cases hwakes

/-- A call that lets a parked thread go on brings its job to the state that the call is for. -/
theorem state_of_wakes (h : s.InOrder) (hrest : s.core.AtRest) (hs : (s.job i).stage = .parked)
    (hpaused : (s.job i).snapshot.state = .paused) (hwakes : step.wakes i = true) :
    ((s.perform step).2.job i).snapshot.state = step.fate := by
  have hactive : (s.job i).isActive = true := by simp [Job.isActive_eq, hpaused]
  -- three calls wake a parked thread: one lets it end in failure, two stop it
  cases step with
  | resume k =>
    obtain rfl : k = i := by simpa [Step.wakes] using hwakes
    exact (h.perform_resume hrest hpaused (.inl hs)).1
  | stop k =>
    obtain rfl : k = i := by simpa [Step.wakes] using hwakes
    rw [h.perform_stop_of_paused hrest hpaused (by simp [Job.isHanging, hs])]
    rfl
  | stopWithin k ms =>
    obtain rfl : k = i := by simpa [Step.wakes] using hwakes
    rw [(perform_stopWithin ⟨hrest, h.core.sound⟩ hactive ms).2.snapshot]
    rfl
  | _ => cases hwakes

/-- And with the end of the job the link is free again. -/
theorem frees (h : s.InOrder) (hrest : s.core.AtRest) (hs : (s.job i).stage = .parked)
    (hpaused : (s.job i).snapshot.state = .paused) (hwakes : step.wakes i = true) :
    s.Frees i step := by
  have hfree : (s.job i).isHanging = false := by simp [Job.isHanging, hs]
  obtain ⟨called, hcall, hdevice, hperform⟩ := h.call_of_wakes hrest hpaused hfree hwakes
  have hstate := h.state_of_wakes hrest hs hpaused hwakes
  have hrested := (perform_goes s step ⟨hrest, h.core.sound⟩).2.rest
  have hstages : ∀ k, (called.job k).stage = (s.job k).stage := fun k =>
    hcall.takes.stage (i := k) (by simp) rfl (by simp)
  -- after the call, the threads run to rest once or twice
  have hcalled := h.takes hcall
  obtain ⟨hruns, hgoes⟩ : Leads Turn.isRunning called (s.perform step).2 ∧
      called.core.Goes Act.isRunning (s.perform step).2.core := by
    have hsettle := settle_goes hcalled.core.sound
    rcases hperform with hperform | hperform <;> rw [hperform]
    · exact ⟨settle_leads called, hsettle.1⟩
    · exact ⟨(settle_leads called).trans (settle_leads called.settle),
        hsettle.1.trans (settle_goes (hsettle.1.sound hcalled.core.sound)).1⟩
  have hleads : LeadsFairly (Turn.spares i) s (s.perform step).2 :=
    (LeadsFairly.turn hcall rfl).trans (hruns.fairly.mono (Turn.spares_of_isRunning i))
  obtain ⟨horder, ⟨hsame, hcases⟩, -⟩ := h.lingers_leads hs hleads
  have hend : ((s.perform step).2.job i).isActive = false := by
    rw [Job.isActive, Job.Snapshot.isActive, hstate]
    cases step <;> rfl
  have hgone : ((s.perform step).2.job i).stage = .gone := by
    have hpausedNot : ((s.perform step).2.job i).snapshot.state ≠ .paused := by
      intro hp
      simp [Job.isActive_eq, hp] at hend
    have hstill := Job.isStill_cases (Job.isStill_of_rests (hrested.job i))
    simp only [core_job] at hstill
    rcases hcases with ⟨hparked, -⟩ | ⟨hwork, -⟩
    · simp [hparked, hpausedNot] at hstill
    · rcases hstill with hs' | ⟨hs', -⟩ | ⟨_, _, hs'⟩ | ⟨_, hs'⟩ | ⟨hs', -⟩
      · exact hs'
      all_goals simp [Job.isWorking, hs'] at hwork
  have hspent : called.Spent := fun k => by
    have := h.spent hs k
    rwa [Job.isSpent, ← hstages k, ← Job.isSpent] at this
  obtain ⟨hreports, hsent⟩ := hspent.leads hruns
  refine ⟨by rw [hsame, hstate], isOver hgone hend, ?_, ?_, ?_⟩
  · refine (hgoes.returning.freed (i := i) (.inl ?_)).resolve_left ?_
    · simp [core_job, Job.holds, hstages, hs]
    · simp [core_job, Job.holds, hgone]
  · rw [hreports, (h.spent hs).jobReports hcall.takes]
  · rw [hsent, hdevice]

/-- No step but a call that lets the thread go disturbs a parked job. -/
theorem parked_after (h : s.InOrder) (hrest : s.core.AtRest) (hs : (s.job i).stage = .parked)
    (hpaused : (s.job i).snapshot.state = .paused) {steps : List Step}
    (hsteps : s.Undisturbed steps) (hspares : ∀ step ∈ steps, step.wakes i = false) :
    LeadsFairly (Turn.spares i) s (s.after steps) ∧ (s.after steps).job i = s.job i := by
  induction steps generalizing s with
  | nil => exact ⟨LeadsFairly.refl _ s, rfl⟩
  | cons step steps ih =>
    have hcalm : s.core.Calm := ⟨hrest, h.core.sound⟩
    obtain ⟨hgoes, hcalm'⟩ := perform_goes s step hcalm
    have hmild := hsteps step (by simp)
    have hwakes := hspares step (by simp)
    have hjob : (s.perform step).2.job i = s.job i := by
      refine hgoes.parked (i := i) (fun a ha => ⟨?_, ?_⟩) hs hpaused <;> rintro rfl
      · simp [Step.wakes_of_causes (.inl ha)] at hwakes
      · simp [Step.wakes_of_causes (.inr ha)] at hwakes
    have hleads : LeadsFairly (Turn.spares i) s (s.perform step).2 := by
      cases hstarts : step.starts i with
      | false =>
        exact (perform_leads_fairly hcalm h.stands step hmild).mono
          (Step.spares_of_turns hstarts)
      | true =>
        -- a running or paused job is not started again
        cases step with
        | start k name p =>
          obtain rfl : k = i := by simpa [Step.starts] using hstarts
          have hrefused : s.start .caller k name p =
              s.refuseStart .caller (.cannotStart .alreadyRunning) := by
            simp [Session.start, Job.refusal?, Job.isActive_eq, hpaused]
          have hperform : (s.perform (.start k name p)).2 =
              (s.refuseStart .caller (.cannotStart .alreadyRunning)).2.settle := by
            simp [Session.perform, Step.waits, Job.isHanging, hs, act, hrefused]
          rw [hperform]
          exact (LeadsFairly.turn (.refuse s _) rfl).trans ((settle_leads _).fairly.mono
            (Turn.spares_of_isRunning k))
        | _ => cases hstarts
    have hrest' : (s.perform step).2.Undisturbed steps := by
      intro other hother
      rw [length_jobs_perform hcalm]
      exact hsteps other (List.mem_cons_of_mem _ hother)
    obtain ⟨hmore, hsame⟩ := ih (h.perform hrest hmild) hcalm'.rest (by rw [hjob, hs])
      (by rw [hjob, hpaused]) hrest' fun other hother =>
        hspares other (List.mem_cons_of_mem _ hother)
    exact ⟨hleads.trans hmore, hsame.trans hjob⟩

end InOrder

/-- A failure that a paused job learns of. Wherever fair turns have led a session in which a job
is paused: in the turn in which the job's line is rejected, or fails to be written, or is left
without an answer because the connection has ended,

* the thread reports that once, at once, as a failure of the kind and with the number of the
  line that `FailsLine` says, and parks: the job stays paused with its cursor as it was;
* whatever turns follow, as long as the job is paused, it stays as it is and keeps the link,
  and no thread of a job reports anything. At rest, a call to resume it makes it errored and a
  call to stop it makes it stopped; either way there is no further report, nothing is sent, the
  link is free, and the job is over;
* no step but these calls ends the pause.

What the link reports of its own failure, without a word of the line, is not counted here. Steps
by which nobody meddles with the calls for jobs are fair turns. -/
theorem failure_while_paused {s before failed parked : Session} (hnew : s.IsNew)
    (hleads : LeadsFairly (fun _ => true) s before) {i : Nat} {t : Turn} {kind : ErrorKind}
    {message : String} (hpaused : (before.job i).snapshot.state = .paused)
    (hfails : before.FailsLine i t kind message) (hturn : before.TakesFairly t failed)
    (hruns : Leads Turn.isRunning failed parked) (hrest : parked.core.AtRest) :
    (parked.job i = { before.job i with stage := .parked } ∧ parked.link.claimed = true ∧
      parked.jobReports = before.jobReports ++ Job.failureNotes kind message) ∧
    (∀ last, LeadsFairly (Turn.spares i) parked last → (last.job i).snapshot.state = .paused →
      last.job i = parked.job i ∧ last.link.claimed = true ∧
        last.jobReports = parked.jobReports ∧
        (last.core.AtRest → ∀ step : Step, step.wakes i = true → last.Frees i step)) ∧
    ∀ steps, parked.Undisturbed steps → (∀ step ∈ steps, step.wakes i = false) →
      LeadsFairly (Turn.spares i) parked (parked.after steps) ∧
        ((parked.after steps).job i).snapshot.state = .paused := by
  have horder : before.InOrder := hleads.inOrder hnew.inOrder
  obtain ⟨hjob, hreports⟩ := horder.learns hpaused hfails hturn.takes
  have hfailed : failed.InOrder := horder.takes hturn
  -- the failure has been learnt, so the threads bring the job to where it parks
  obtain ⟨hparked, htold⟩ := hfailed.parks (by rw [hjob]) (by rw [hjob]; exact hpaused)
    hfails.not_ofLink hruns hrest
  rw [hjob] at hparked
  rw [hreports] at htold
  have hparkedOrder : parked.InOrder := hruns.fairly.inOrder hfailed
  have hstage : (parked.job i).stage = .parked := by rw [hparked]
  have hstill : (parked.job i).snapshot.state = .paused := by rw [hparked]; exact hpaused
  refine ⟨⟨hparked, ?_, htold⟩, fun last hlast hpausedStill => ?_, fun steps hsteps hspares => ?_⟩
  · exact (hparkedOrder.stays_parked hstage hstill (LeadsFairly.refl _ parked) hstill).2.2.1
  · obtain ⟨hlastOrder, hsame, hclaimed, hsilent⟩ :=
      hparkedOrder.stays_parked hstage hstill hlast hpausedStill
    exact ⟨hsame, hclaimed, hsilent, fun hlastRest step hwakes =>
      hlastOrder.frees hlastRest (by rw [hsame, hstage]) hpausedStill hwakes⟩
  · obtain ⟨hmore, hsame⟩ :=
      hparkedOrder.parked_after hrest hstage hstill hsteps hspares
    exact ⟨hmore, by rw [hsame, hstill]⟩

/-- A job waits, paused, for the answer to its first line, and the device has sent
`error:20`. -/
def rejecting : Session :=
  { ({} : Session).after pausedWaiting with
    device.inbound := (({} : Session).after pausedWaiting).device.inbound ++
      [.bytes [101, 114, 114, 111, 114, 58, 50, 48, 10]] }

/-- The reader has read it. -/
def rejected : Session := rejecting.read?.get (by decide +kernel)

/-- The thread has taken it. -/
def rejectionTaken : Session := (rejected.advance? 0).get (by decide +kernel)

/-- The rejection of the first line is reported once. The job stays paused while the operator
disconnects and connects again; then a resume makes it errored, and a stop stopped. -/
theorem failure_while_paused_onRejection :
    rejectionTaken.settle.jobReports =
        rejected.jobReports ++ Job.failureNotes .protocol "Line 1 rejected (G0): error:20" ∧
      let later := rejectionTaken.settle.after [.disconnect, .connect "COM3" 9600]
      (later.job 0).snapshot.state = .paused ∧
        (((later.perform (.resume 0)).2.job 0).snapshot.state = .errored ∧
          (later.perform (.resume 0)).2.link.claimed = false) ∧
        ((later.perform (.stop 0)).2.job 0).snapshot.state = .stopped := by
  have hnew : ({} : Session).IsNew := ⟨rfl, by decide⟩
  have hpaused := after_leads_fairly (K := fun _ => true) hnew.calm hnew.stands
    (show ({} : Session).Undisturbed pausedWaiting by decide) fun _ _ _ _ => rfl
  have hread : rejecting.read? = some rejected := (Option.some_get _).symm
  have hsent : LeadsFairly (fun _ => true) {} rejecting :=
    hpaused.trans (LeadsFairly.turn (.sends _ _) rfl)
  have hitem : rejecting.device.inbound =
      [.bytes [101, 114, 114, 111, 114, 58, 50, 48, 10]] := by decide +kernel
  -- the answer that rejects the line is read while the job is paused
  have hbefore := hsent.trans (LeadsFairly.turn (.read (by decide +kernel) hitem hread) rfl)
  have hfails : rejected.FailsLine 0 (.job 0) .protocol
      (JobError.rejected (rejected.job 0).lineNumber "G0" "error:20").message :=
    .rejected (by decide +kernel) (by decide +kernel) (by decide +kernel)
  have htaken : rejected.advance? 0 = some rejectionTaken := (Option.some_get _).symm
  have hrest : rejectionTaken.settle.core.AtRest := by decide +kernel
  obtain ⟨⟨-, -, hreported⟩, hstays, hsteps⟩ := failure_while_paused hnew hbefore
    (by decide +kernel) hfails (.job htaken) (settle_leads rejectionTaken) hrest
  obtain ⟨hlater, hstill⟩ := hsteps [.disconnect, .connect "COM3" 9600] (by decide +kernel)
    (by decide)
  obtain ⟨hsame, -, -, hfrees⟩ := hstays _ hlater hstill
  have hfrees := hfrees (by decide +kernel)
  have hresume := hfrees (.resume 0) rfl
  have hstop := hfrees (.stop 0) rfl
  refine ⟨?_, hstill, ⟨?_, hresume.claimed⟩, ?_⟩
  · have hmessage : (JobError.rejected (rejected.job 0).lineNumber "G0" "error:20").message =
        "Line 1 rejected (G0): error:20" := by decide +kernel
    rw [hreported, hmessage]
  · rw [hresume.snapshot]
    rfl
  · rw [hstop.snapshot]
    rfl

end Session

end GcodeSender
