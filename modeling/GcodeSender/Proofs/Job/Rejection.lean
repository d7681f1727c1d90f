import GcodeSender.Proofs.Job.Parked
import GcodeSender.Proofs.Machine.Acceptance

/-!
# `GcodeSender.Proofs.Job.Rejection`: an error as the answer to a line

The thread of a job takes what the slot has kept for its line, and asks `isAccepted` what to make
of it. An error that is not accepted halts the job. The turn in which the thread takes it is
`advance?_rejected`; from there on the job is `Breaking` until the failure is reported.

* `TakesFairly.job_of_failing`: while a thread is about to report a failure, nobody ends or
  resumes its job, because for that the threads must be at rest. A job can be paused then.
* `Breaking.takes`: each turn leaves the failure about to be reported, or reported.
  `Breaking.reported`: so at rest it was reported, whatever turns followed.
* `InOrder.haltsOver`: what follows from a failure, field by field.
* `error_halts_job`: what an error makes of the job whose line it answers, in each of the states
  in which a thread can take it. A job can be stopped while its write hangs, and its thread takes
  the answer when the write has returned.
-/

set_option autoImplicit false

namespace GcodeSender

/-- A call to pause a job leaves its thread where it is, and the job active if it was. -/
theorem Job.pause_keeps (j : Job) :
    j.pause.1.stage = j.stage ∧ j.pause.1.isActive = j.isActive := by
  by_cases hrun : j.snapshot.state = .running
  · simp [Job.pause_of_running hrun, Job.isActive_eq, hrun]
  · simp [Job.pause, Job.Snapshot.pause?, hrun]

namespace Session

variable {s next last : Session} {i : Nat} {t : Turn} {kind : ErrorKind} {message : String}
  {told : List Note}

/-! ### Until the failure is reported -/

/-- While the thread of a job is about to report a failure, the turns of others do not change
the job, except that somebody may pause it. -/
theorem TakesFairly.job_of_failing (ht : s.TakesFairly t next) (h : s.InOrder)
    (hs : (s.job i).stage = .failing kind message) (hne : t ≠ .job i) :
    next.job i = s.job i ∨ next.job i = (s.job i).pause.1 := by
  have hlt : i < s.jobs.length := lt_of_stage (by simp [hs])
  have hbusy := InOrder.not_atRest_of_failing hs
  have hholds : (s.job i).holds = true := by simp [Job.holds, hs]
  have hsame : next.jobs = s.jobs → next.job i = s.job i ∨ next.job i = (s.job i).pause.1 :=
    fun hjobs => .inl (job_of_jobs hjobs)
  cases ht.takes with
  | @job k _ hmove =>
    have hk : k ≠ i := fun hk => hne (by rw [hk])
    exact .inl ((advance?_beside (h.isSpent_of_ne hholds hk) hmove).1 i hk.symm)
  | letGo k =>
    rcases s.letGoJob_cases k with ⟨-, hfree⟩ | ⟨line, rest, hhang, -⟩
    · rw [hfree]
      exact .inl rfl
    · -- the job that hangs would hold the link beside this one
      obtain rfl := h.core.owned.one i k hholds (by simp [core_job, Job.holds, hhang])
      rw [hs] at hhang
      cases hhang
  | pause k =>
    have hjobs : (s.pauseFrom .caller k).jobs = s.jobs.set k (s.job k).pause.1 :=
      jobs_tellAll (s.setJob k (s.job k).pause.1) .caller _
    by_cases hk : k = i
    · subst hk
      exact .inr ((job_of_jobs hjobs).trans (job_setJob_self hlt _))
    · exact .inl ((job_of_jobs hjobs).trans (job_setJob_of_ne s hk _))
  | read hrest | launch hrest | resume hrest | stop hrest | sendLine hrest | opening hrest =>
    exact absurd hrest hbusy
  | abandon k reason hfits =>
    -- so would one that gets no thread
    obtain rfl := h.core.owned.one i k hholds (by simp [core_job, Job.holds, hfits.1])
    have hdeciding := hfits.1
    rw [hs] at hdeciding
    cases hdeciding
  | idle => exact hsame (congrArg Core.jobs (core_timeOut s))
  | refuse e => exact hsame (jobs_tellAll s .caller _)
  | sendRealtime c => exact hsame (jobs_write s .caller _ _ _)
  | disconnect => exact hsame (congrArg Core.jobs (core_teardown s .caller))
  | listPorts => exact hsame (congrArg Core.jobs (core_listPorts s .caller))
  | spawn | overdue | stay | meddle | sends | device | arm => exact .inl rfl

/-- What is reported of jobs is not taken back. -/
theorem Takes.jobReports_prefix (h : s.Takes t next) : s.jobReports <+: next.jobReports := by
  by_cases ht : ∃ k, t = .job k
  · obtain ⟨k, rfl⟩ := ht
    obtain ⟨entries, hjournal, -⟩ := (writes_advance? (advance?_of_takes h)).adds.journal
    rw [Session.jobReports, Session.jobReports, hjournal, List.filterMap_append]
    exact List.prefix_append _ _
  · exact (h.jobReports fun k hk => ht ⟨k, hk⟩) ▸ List.prefix_rfl

/-- The thread of an active job is about to report a failure, after the given reports, or the
failure was reported after them. -/
def Breaking (s : Session) (i : Nat) (kind : ErrorKind) (message : String) (told : List Note) :
    Prop :=
  (s.job i).stage = .failing kind message ∧ (s.job i).isActive = true ∧ s.jobReports = told ∨
    told ++ Job.failureNotes kind message <+: s.jobReports

namespace Breaking

/-- After a fair turn the failure is still to be reported, or it has been. -/
theorem takes (h : s.Breaking i kind message told) (horder : s.InOrder)
    (hown : begins "Serial error: " message = false) (ht : s.TakesFairly t next) :
    next.Breaking i kind message told := by
  rcases h with ⟨hs, hactive, hreports⟩ | hreported
  · by_cases hti : t = .job i
    · subst hti
      obtain ⟨-, -, htold⟩ := InOrder.reports_failure hs hown (advance?_of_takes ht.takes)
      rw [Job.haltNotes, hactive, if_pos rfl, hreports] at htold
      exact .inr (htold ▸ List.prefix_rfl)
    -- a turn of another thread reports nothing of jobs, and leaves the failure to be reported
    · have hsilent : next.jobReports = s.jobReports := by
        cases ht.takes with
        | @job k _ hmove =>
          have hholds : (s.job i).holds = true := by simp [Job.holds, hs]
          have hk : k ≠ i := fun hk => hti (by rw [hk])
          exact (advance?_beside (horder.isSpent_of_ne hholds hk) hmove).2.2.1
        | _ => exact ht.takes.jobReports (by simp)
      obtain ⟨hstage, hkept⟩ := (s.job i).pause_keeps
      rcases ht.job_of_failing horder hs hti with hjob | hjob
      · exact .inl ⟨by rw [hjob, hs], by rw [hjob, hactive], hsilent.trans hreports⟩
      · exact .inl ⟨by rw [hjob, hstage, hs], by rw [hjob, hkept, hactive],
          hsilent.trans hreports⟩
  · exact .inr (hreported.trans ht.takes.jobReports_prefix)

/-- Whatever turns follow, at rest the failure was reported. -/
theorem reported (h : s.Breaking i kind message told) (horder : s.InOrder)
    (hown : begins "Serial error: " message = false) {K : Turn → Bool}
    (hleads : LeadsFairly K s last) (hrest : last.core.AtRest) :
    told ++ Job.failureNotes kind message <+: last.jobReports := by
  have hlast : last.InOrder ∧ last.Breaking i kind message told :=
    hleads.invariant (P := fun last => last.InOrder ∧ last.Breaking i kind message told)
      ⟨horder, h⟩ fun _ _ _ ht _ ⟨horder, h⟩ => ⟨horder.takes ht, h.takes horder hown ht⟩
  rcases hlast.2 with ⟨hs, -, -⟩ | hreported
  · exact absurd hrest (InOrder.not_atRest_of_failing hs)
  · exact hreported

end Breaking

/-! ### What an error makes of its job -/

/-- What follows when the thread of a job has taken an answer that does not accept its line:
`old` is the job as it was before, `told` what was reported of jobs by then, `notes` the report
of the rejection. -/
structure HaltsOver (taken : Session) (i : Nat) (old : Job) (told notes : List Note) : Prop where
  /-- The thread belongs to a job that is running, or was paused or stopped while it waited. -/
  working : old.snapshot.state = .running ∨ old.snapshot.state = .paused ∨
    old.snapshot.state = .stopped
  /-- The threads by themselves end a job that was running. -/
  running : old.snapshot.state = .running → ∀ last, Leads Turn.isRunning taken last →
    last.core.AtRest → (last.job i).snapshot = { old.snapshot with state := .errored } ∧
      last.jobReports = told ++ notes
  /-- One that was paused stays so, and the failure is reported. -/
  paused : old.snapshot.state = .paused → ∀ last, Leads Turn.isRunning taken last →
    last.core.AtRest → (last.job i).snapshot = old.snapshot ∧ last.jobReports = told ++ notes
  /-- One that was stopped stays so whatever follows, until it is started again. -/
  stopped : old.snapshot.state = .stopped → ∀ last, LeadsFairly (Turn.spares i) taken last →
    (last.job i).snapshot = old.snapshot
  /-- Whatever follows, the line is not counted. -/
  cursor : ∀ last, LeadsFairly (Turn.spares i) taken last →
    (last.job i).snapshot.cursor = old.snapshot.cursor
  /-- Until the job is started again, its thread writes nothing. -/
  silent : ∀ last next, LeadsFairly (Turn.spares i) taken last → last.Takes (.job i) next →
    next.device = last.device
  /-- Whatever follows, at rest the job has ended, or is paused and ends once it is resumed or
  stopped. -/
  ends : ∀ last, LeadsFairly (Turn.spares i) taken last → last.core.AtRest →
    (last.job i).snapshot.state = .errored ∨ (last.job i).snapshot.state = .stopped ∨
      (last.job i).snapshot.state = .paused ∧
        ((last.perform (.resume i)).2.job i).snapshot.state = .errored ∧
        ((last.perform (.stop i)).2.job i).snapshot.state = .stopped
  /-- Whatever follows, at rest the failure was reported, unless the job was stopped before. -/
  reported : old.isActive = true → ∀ last, LeadsFairly (Turn.spares i) taken last →
    last.core.AtRest → told ++ notes <+: last.jobReports

/-- A thread that is about to report a failure halts its job. -/
theorem InOrder.haltsOver {taken : Session} {old : Job} (h : taken.InOrder)
    (hjob : taken.job i = { old with stage := .failing kind message })
    (hown : begins "Serial error: " message = false) :
    taken.HaltsOver i old taken.jobReports (Job.failureNotes kind message) := by
  have hs : (taken.job i).stage = .failing kind message := by rw [hjob]
  have hsnapshot : (taken.job i).snapshot = old.snapshot := by rw [hjob]
  -- a line that has failed is as one whose connection has ended: nothing more comes of it
  have hcut : taken.core.CutOff i := by simp only [Core.CutOff, core_job, hs]
  have hfree : (taken.job i).isHanging = false := by simp [Job.isHanging, hs]
  constructor
  case working =>
    rw [← hsnapshot]
    exact h.core.state_of_working (by simp [core_job, Job.isWorking, hs])
  case running =>
    intro hstate last hruns hrest
    obtain ⟨hlast, htold⟩ := h.halts hs hown hruns hrest
    rw [← hsnapshot] at hstate ⊢
    rw [Job.haltNotes, Job.isActive_eq, hstate] at htold
    refine ⟨?_, htold⟩
    rw [hlast, Job.halted]
    simp [hstate, Job.Snapshot.fail]
  case paused =>
    intro hstate last hruns hrest
    obtain ⟨hlast, htold⟩ := h.parks hs (by rw [hsnapshot, hstate]) hown hruns hrest
    exact ⟨by rw [hlast, ← hsnapshot], htold⟩
  case stopped =>
    -- the thread of a stopped job is on the way to its end, and that changes nothing
    intro hstate last hleads
    have hended : taken.Ended i := ⟨by simp [Job.Obeys, hs], by
      rw [Job.isActive_eq, hsnapshot, hstate]; rfl⟩
    rw [(hended.leads hleads.leads).2, hsnapshot]
  case cursor =>
    intro last hleads
    rw [(h.cutOff_leads hcut hleads).2.2.1, hsnapshot]
  case silent =>
    intro last next hleads ht
    exact device_of_cutOff (h.cutOff_leads hcut hleads).2.1 ht
  case ends =>
    intro last hleads hrest
    obtain ⟨horder, hcut', -, hfree'⟩ := h.cutOff_leads hcut hleads
    rcases hcut'.rest_cases hrest with hhang | ⟨hparked, hp⟩ | hended
    · rw [core_job, hfree' hfree] at hhang
      cases hhang
    · exact .inr (.inr ⟨hp, (horder.perform_resume hrest hp (.inl hparked)).1, by
        rw [horder.perform_stop_of_paused hrest hp (hfree' hfree)]⟩)
    · exact hended.imp_right .inl
  case reported =>
    intro hactive last hleads hrest
    have hbreaking : taken.Breaking i kind message taken.jobReports :=
      .inl ⟨hs, by rw [Job.isActive, hsnapshot, ← Job.isActive, hactive], rfl⟩
    exact hbreaking.reported h hown hleads hrest

/-- An error that answers the line of a job.

* An error accepts its line just when its code contains `ok`: the search for the two letters is
  not confined to the plain acknowledgement.
* Any other error halts the job whose line it answers, wherever fair turns have led the session.
  The thread takes it, and from there on the line is not counted and nothing is written. A job
  that was running ends errored, one that was paused stays so with the failure reported, and one
  that was stopped in the meantime stays stopped.

Steps by which nobody meddles with the calls for jobs are fair turns. -/
theorem error_halts_job :
    (∀ line code, Machine.Response.ofLine? line = some (.error code) →
      (Machine.isAccepted line = true ↔ "ok".toList <:+: code.toList)) ∧
    ∀ {s before : Session}, s.IsNew → LeadsFairly (fun _ => true) s before →
      ∀ {i : Nat} {line answer code : String}, (before.job i).stage = .awaiting line →
      before.link.slot.response = some answer →
      Machine.Response.ofLine? answer = some (.error code) → ¬"ok".toList <:+: code.toList →
      ∃ taken, before.advance? i = some taken ∧
        taken.HaltsOver i (before.job i) before.jobReports
          (Job.failureNotes .protocol
            (JobError.rejected (before.job i).lineNumber line answer).message) := by
  refine ⟨fun line code => Machine.isAccepted_iff_of_error, ?_⟩
  intro s before hnew hleads i line answer code hs hanswer herror hcode
  have hrejects : Machine.isAccepted answer = false :=
    Bool.eq_false_iff.mpr (mt (Machine.isAccepted_iff_of_error herror).mp hcode)
  obtain ⟨taken, htaken, hjob, hreports⟩ := advance?_rejected hs hanswer hrejects
  have horder : taken.InOrder := (hleads.inOrder hnew.inOrder).takes (.job htaken)
  have hown : begins "Serial error: "
      (JobError.rejected (before.job i).lineNumber line answer).message = false :=
    begins_eq_false (Job.initial?_rejected _ line answer) (d := 'S') (by decide) (by decide)
  rw [← hreports]
  exact ⟨taken, htaken, horder.haltsOver hjob hown⟩

/-- A job waits for the answer to its first line, and the device has sent `error:20`. -/
def errorSent : Session :=
  { ({} : Session).after underWay with
    device.inbound := (({} : Session).after underWay).device.inbound ++
      [.bytes [101, 114, 114, 111, 114, 58, 50, 48, 10]] }

/-- The reader has read it. -/
def errorHeard : Session := errorSent.read?.get (by decide +kernel)

/-- The job ends errored with its first line not counted, and that is reported. -/
theorem error_halts_job_onFirst : ∃ taken, errorHeard.advance? 0 = some taken ∧
    (taken.settle.job 0).snapshot = ⟨0, 2, .errored, some "part"⟩ ∧
    taken.settle.jobReports = errorHeard.jobReports ++
      Job.failureNotes .protocol "Line 1 rejected (G0): error:20" := by
  have hnew : ({} : Session).IsNew := ⟨rfl, by decide⟩
  have hbegun := after_leads_fairly (K := fun _ => true) hnew.calm hnew.stands
    (show ({} : Session).Undisturbed underWay by decide) fun _ _ _ _ => rfl
  have hsent : LeadsFairly (fun _ => true) {} errorSent :=
    hbegun.trans (LeadsFairly.turn (.sends _ _) rfl)
  have hitem : errorSent.device.inbound = [.bytes [101, 114, 114, 111, 114, 58, 50, 48, 10]] := by
    decide +kernel
  have hread : errorSent.read? = some errorHeard := (Option.some_get _).symm
  have hheard := hsent.trans (LeadsFairly.turn (.read (by decide +kernel) hitem hread) rfl)
  -- the job waits for the answer that has just been heard
  have hs : (errorHeard.job 0).stage = .awaiting "G0" := by decide +kernel
  have hanswer : errorHeard.link.slot.response = some "error:20" := by decide +kernel
  have herror : Machine.Response.ofLine? "error:20" = some (.error "20") := by decide +kernel
  obtain ⟨taken, htaken, hhalts⟩ :=
    error_halts_job.2 hnew hheard hs hanswer herror (by decide)
  have horder : taken.core.Sound := ((hheard.inOrder hnew.inOrder).takes (.job htaken)).core.sound
  obtain ⟨hsnapshot, hreported⟩ := hhalts.running (by decide +kernel) taken.settle
    (settle_leads taken) (settle_goes horder).2
  have hbefore : (errorHeard.job 0).snapshot = ⟨0, 2, .running, some "part"⟩ := by decide +kernel
  have hmessage : (JobError.rejected (errorHeard.job 0).lineNumber "G0" "error:20").message =
      "Line 1 rejected (G0): error:20" := by decide +kernel
  rw [hbefore] at hsnapshot
  rw [hmessage] at hreported
  exact ⟨taken, htaken, hsnapshot, hreported⟩

/-- The device answers the first line of a job with `error:token`. -/
def tokenAnswered : Session :=
  ({} : Session).after (underWay ++
    [.deviceSends [.bytes [101, 114, 114, 111, 114, 58, 116, 111, 107, 101, 110, 10]]])

/-- The device holds up the first line of a job, but answers it with `error:20`. The job is
stopped before the line is let go. -/
def stoppedWhileHanging : Session :=
  clogged.after (underWay ++
    [.deviceSends [.bytes [101, 114, 114, 111, 114, 58, 50, 48, 10]], .stopWithin 0 50])

/-- An error whose code contains `ok` is an acceptance: the line is counted, and the next one is
written. And an error halts no job that was stopped: its thread takes the answer, and the job
stays stopped. -/
theorem error_accepts_line :
    Machine.Response.ofLine? "error:token" = some (.error "token") ∧
      Machine.isAccepted "error:token" = true ∧
      (tokenAnswered.job 0).snapshot = ⟨1, 2, .running, some "part"⟩ ∧
      tokenAnswered.device.lines = [[71, 48], [71, 49]] ∧
      stoppedWhileHanging.link.slot.response = some "error:20" ∧
      (stoppedWhileHanging.perform .letGo).2.link.slot.response = none ∧
      ((stoppedWhileHanging.perform .letGo).2.job 0).snapshot = ⟨0, 2, .stopped, some "part"⟩ := by
  refine ⟨?_, ?_, ?_, ?_, ?_, ?_, ?_⟩ <;> decide +kernel

end Session

end GcodeSender
