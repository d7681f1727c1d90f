import GcodeSender.Proofs.Job.FlowControl
import GcodeSender.Proofs.Link.Footing
import GcodeSender.Proofs.Link.Ownership
import GcodeSender.Proofs.Session.Reports

/-!
# `GcodeSender.Proofs.Job.Stop`: a stop is final

A stop marks the job and calls off the wait of its thread. The thread may be anywhere
then: it may wait for an answer, wait to be resumed, or be held up in a write. It goes
on from there without handing over a line and without a report, because every branch of
`Job.move` that does either asks first whether the job is still running or paused.

* `Core.Goes.ended`: an ended job keeps its snapshot, and no write of it begins to hang.
* `Core.Goes.gone`: without a thread, nothing of it changes.
* `rest_of_cancelled`: where waits are called off, an ended job comes to rest only at
  its end or in a write that hangs.
* `Core.Permits.cancelled_while_held`: waits stay called off for as long as an ended job
  holds the link.
-/

set_option autoImplicit false

namespace GcodeSender

/-- A report that only a job makes: progress, a failure that is not one of the transport,
or a record of the streamer. -/
def Note.isOfJob : Note → Bool
  | .event (.progress _) => true
  | .event (.error _ message) => !begins "Serial error: " message
  | .event (.status _ _) | .event (.position _) | .event (.log _) => false
  | .record r => r.origin = .streamer

/-- What the link reports of itself is no report of a job. -/
theorem Entry.OfLink.not_ofJob {e : Entry} (h : e.OfLink) : e.note.isOfJob = false := by
  cases h with
  | record t h => simp [Note.isOfJob, h]
  | fault h reason => simp [Note.isOfJob, begins_append]
  | farewell | broken | shown => rfl

/-- A turn that does not start the given job. -/
def Turn.spares (i : Nat) (t : Turn) : Bool := !t.launches i

/-! ### Acts on a job that was ended -/

/-- The threads by themselves start no job. -/
theorem Act.not_launches_of_isRunning (i : Nat) {a : Act} (h : a.isRunning = true) :
    a.launches i = false := by
  cases a with
  | launched => cases h
  | _ => rfl

/-- Letting a write go starts none either. -/
theorem Act.not_launches_of_isReturning (i : Nat) {a : Act}
    (h : (a.isRunning || a.isYielding) = true) : a.launches i = false := by
  cases a with
  | launched => cases h
  | _ => rfl

/-- No act but a start fits an ended job without a thread. -/
theorem Act.not_fits_gone {a : Act} {j : Job} {i : Nat} (hgone : j.stage = .gone)
    (hend : j.isActive = false) (hi : a.job? = some i) (hlaunch : a.launches i = false) :
    ¬a.Fits j := by
  intro hfit
  -- an act of the job is a move of its thread, which has gone, or asks for an active job
  cases a with
  | opened | dropped | closed | broke | heard | noted | signalled | withheld | meddled => cases hi
  | launched k name p => simp_all [Act.job?, Act.launches]
  | abandoned k => simp [Act.Fits, hgone] at hfit
  | paused k =>
    replace hfit : j.snapshot.state = .running := hfit
    simp [Job.isActive_eq, hfit] at hend
  | resumed k =>
    simp [Job.isActive_eq, hfit.1] at hend
  | stopped k => simp [hend, Act.Fits] at hfit
  | armed k line => simp [Act.Fits, hgone] at hfit
  | wrote k line rest | yielded k line rest | refused k line | took k line outcome =>
    simp [Act.Fits, hgone] at hfit
  | returned k line failure =>
    have hwriting := hfit.writing?
    simp [Job.writing?, hgone] at hwriting
  | moved k p => simp [Act.Fits, Job.own?, Job.move, hgone] at hfit
  | released k => simp [Act.Fits, hgone] at hfit

namespace Core

/-- Only a start allows waits again, if nobody meddles. -/
theorem cancelled_next_of_cancelled {c : Core} {a : Act} (hlaunch : a.isLaunch = false)
    (hmeddle : a.isMeddling = false) (h : c.slot.cancelled = true) :
    (c.next a).slot.cancelled = true := by
  cases a with
  | launched => cases hlaunch
  | meddled => cases hmeddle
  | heard line => exact (c.slot.offer_cases line).2.2.1.trans h
  | took i line outcome =>
    simp only [next, Act.onSlot]
    cases hc : c.slot.check? with
    | none => exact h
    | some taken => simpa [(Link.Slot.check?_cases hc).1] using h
  | stopped => rfl
  | _ => exact h

/-- Where waits are called off, an ended job comes to rest only at its end or in a write
that hangs. -/
theorem rest_of_cancelled {c : Core} (hrest : c.AtRest) (hcancel : c.slot.cancelled = true)
    {i : Nat} (hend : (c.job i).isActive = false) :
    (c.job i).stage = .gone ∨ (c.job i).isHanging = true := by
  have hpaused : (c.job i).snapshot.state ≠ .paused := by
    intro hp
    simp [Job.isActive_eq, hp] at hend
  rcases Job.isStill_cases (Job.isStill_of_rests (hrest.job i)) with
    hs | ⟨-, hp⟩ | ⟨line, rest, hs⟩ | ⟨line, hs⟩ | ⟨-, hp⟩
  · exact .inl hs
  · exact absurd hp hpaused
  · exact .inr (by rw [Job.isHanging, hs])
  · -- a wait that is called off can end, with an answer or without
    have hcheck := Job.check?_of_rests (hrest.job i) hs
    simp only [Link.Slot.check?, hcancel, if_true] at hcheck
    split at hcheck <;> cases hcheck
  · exact absurd hp hpaused

/-- So its thread has ended, or hangs. Without a thread that holds the link, there is no
wait to be called off. -/
theorem isAlive_of_cancelled {c : Core} {i : Nat} (hrest : c.AtRest)
    (hcancel : (c.job i).holds = true → c.slot.cancelled = true)
    (hend : (c.job i).isActive = false) : (c.job i).isAlive = (c.job i).isHanging := by
  cases hholds : (c.job i).holds with
  | false =>
    have halive := (Job.isAlive_of_rests (hrest.job i)).trans hholds
    have hgone : (c.job i).stage = .gone := by simpa [Job.isAlive] using halive
    simp [Job.isAlive, Job.isHanging, hgone]
  | true =>
    rcases rest_of_cancelled hrest (hcancel hholds) hend with hgone | hhang
    · simp [Job.isAlive, Job.isHanging, hgone]
    · have hne : (c.job i).stage ≠ .gone := by
        intro hs
        simp [Job.isHanging, hs] at hhang
      simp [Job.isAlive, hne, hhang]

namespace Goes

variable {P : Act → Bool} {c c' : Core} {i : Nat}

/-- What the threads do by themselves they may do as writes return. -/
theorem returning (h : Goes Act.isRunning c c') :
    Goes (fun a => a.isRunning || a.isYielding) c c' :=
  h.mono fun a ha => by simp [ha]

/-- The threads by themselves do not allow waits again, and neither does the return of a
write. -/
theorem cancelled (h : Goes (fun a => a.isRunning || a.isYielding) c c')
    (hcancel : c.slot.cancelled = true) : c'.slot.cancelled = true := by
  obtain ⟨acts, hpermits, rfl, hacts⟩ := h
  refine hpermits.invariant (K := fun a => (a.isRunning || a.isYielding) = true)
    (P := fun _ c => c.slot.cancelled = true) hcancel ?_ hacts
  intro acts a _ _ _ hrun hbefore
  cases a with
  | launched | meddled => cases hrun
  | _ => exact cancelled_next_of_cancelled rfl rfl hbefore

/-- An ended job keeps its snapshot until it is started again, and no write of it begins to
hang. -/
theorem ended (h : Goes P c c') (hP : ∀ a, P a = true → a.launches i = false)
    (hobeys : (c.job i).Obeys) (hend : (c.job i).isActive = false) :
    (c'.job i).Obeys ∧ (c'.job i).snapshot = (c.job i).snapshot ∧
      ((c'.job i).isHanging = true → (c.job i).isHanging = true) := by
  obtain ⟨acts, hpermits, rfl, hacts⟩ := h
  refine hpermits.invariant (K := fun a => P a = true)
    (P := fun _ c' => (c'.job i).Obeys ∧ (c'.job i).snapshot = (c.job i).snapshot ∧
      ((c'.job i).isHanging = true → (c.job i).isHanging = true))
    ⟨hobeys, rfl, id⟩ ?_ hacts
  rintro acts a - - ha hkind ⟨hobeys, hsame, hhang⟩
  rw [Core.next_job ha i]
  split
  · rename_i hi
    have hfit := ha.2 i hi
    have hend' : ((c.after acts).job i).isActive = false := by
      rw [Job.isActive, hsame]
      exact hend
    obtain ⟨-, -, hsnapshot⟩ := hobeys.ended hend' hfit (hP a hkind) hi {}
    refine ⟨hobeys.add hfit, hsnapshot.trans hsame, fun h => hhang ?_⟩
    refine Act.isHanging_onJob hfit ?_ h
    -- a thread that obeys does not stand before a line of an ended job
    rintro k line rest rfl
    have hstage : ((c.after acts).job i).stage = .sending line := hfit.1
    simp [Job.Obeys, hstage, hend'] at hobeys
  · exact ⟨hobeys, hsame, hhang⟩

/-- Without a thread, nothing of an ended job changes until it is started again. -/
theorem gone (h : Goes P c c') (hP : ∀ a, P a = true → a.launches i = false)
    (hgone : (c.job i).stage = .gone) (hend : (c.job i).isActive = false) :
    c'.job i = c.job i := by
  obtain ⟨acts, hpermits, rfl, hacts⟩ := h
  refine hpermits.invariant (K := fun a => P a = true)
    (P := fun _ c' => c'.job i = c.job i) rfl ?_ hacts
  intro acts a _ _ ha hkind hsame
  rw [Core.next_job ha i]
  split
  · rename_i hi
    exact absurd (ha.2 i hi)
      (Act.not_fits_gone (hsame ▸ hgone) (hsame ▸ hend) hi (hP a hkind))
  · exact hsame

/-- While only the threads run, or writes return, a job that gives the link back leaves it
free. -/
theorem freed (h : Goes (fun a => a.isRunning || a.isYielding) c c')
    (hc : (c.job i).holds = true ∨ c.claimed = false) :
    (c'.job i).holds = true ∨ c'.claimed = false := by
  obtain ⟨acts, hpermits, rfl, hacts⟩ := h
  refine hpermits.invariant (K := fun a => (a.isRunning || a.isYielding) = true)
    (P := fun _ c' => (c'.job i).holds = true ∨ c'.claimed = false) hc ?_ hacts
  intro acts a _ _ ha hrun hbefore
  -- the link is freed by a release, and every other act leaves both as they are
  by_cases hrelease : a.releases = true
  · cases a with
    | released k => exact .inr rfl
    | abandoned => cases hrun
    | _ => cases hrelease
  · have hlaunch : a.isLaunch = false := by
      cases a with
      | launched => cases hrun
      | _ => rfl
    have hclaim : ((c.after acts).next a).claimed = (c.after acts).claimed := by
      cases a with
      | launched | meddled => cases hrun
      | released | abandoned => exact absurd rfl hrelease
      | _ => rfl
    rw [hclaim, Owned.holds_next ha hlaunch i, eq_false_of_ne_true hrelease]
    simpa using hbefore

end Goes

/-- Waits stay called off for as long as an ended job holds the link. -/
theorem Permits.cancelled_while_held {c : Core} {acts : List Act} {i : Nat}
    (h : c.Permits acts) (hs : c.Sound) (howned : c.Owned)
    (hacts : ∀ a ∈ acts, a.isMeddling = false ∧ a.launches i = false)
    (hcancel : (c.job i).holds = true → c.slot.cancelled = true) :
    ((c.after acts).job i).holds = true → (c.after acts).slot.cancelled = true := by
  refine (h.invariant (K := fun a => a.isMeddling = false ∧ a.launches i = false)
    (P := fun _ c => c.Owned ∧ ((c.job i).holds = true → c.slot.cancelled = true))
    ⟨howned, hcancel⟩ ?_ hacts).2
  rintro acts a hpermits - ha ⟨hmeddle, hspares⟩ ⟨howned, hcancel⟩
  refine ⟨howned.next (hpermits.sound hs) ha hmeddle, fun hholds => ?_⟩
  by_cases hlaunch : a.isLaunch = true
  · -- another job is not started while this one holds the link
    cases a with
    | launched k name p =>
      have hne : Act.job? (.launched k name p) ≠ some i := by
        simpa [Act.job?, Act.launches] using hspares
      rw [Core.next_job_of_ne hne] at hholds
      have hclaimed := howned.claimed.mpr ⟨i, hholds⟩
      rw [ha.1.2.2] at hclaimed
      cases hclaimed
    | _ => cases hlaunch
  · replace hlaunch : a.isLaunch = false := eq_false_of_ne_true hlaunch
    rw [Owned.holds_next ha hlaunch i, Bool.and_eq_true] at hholds
    exact cancelled_next_of_cancelled hlaunch hmeddle (hcancel hholds.1)

end Core

namespace Session

open GcodeSender.Core (Goes)

/-! ### Turns after the end -/

/-- A turn that does not start the job leads to no act that does. -/
theorem Takes.goes_of_spares {s next : Session} {t : Turn} {i : Nat} (h : s.Takes t next)
    (ht : t.spares i = true) : ∃ P, s.core.Goes P next.core ∧
      ∀ a, P a = true → Act.launches i a = false := by
  refine ⟨t.causes, h.goes, fun a ha => ?_⟩
  cases a with
  | launched k name p =>
    have hk : t.launches k = true := ha
    simp only [Act.launches, decide_eq_false_iff_not]
    rintro rfl
    simp [Turn.spares, hk] at ht
  | _ => rfl

/-- The job was ended, and its thread is not about to hand over a line. -/
structure Ended (s : Session) (i : Nat) : Prop where
  obeys : (s.job i).Obeys
  ended : (s.job i).isActive = false

namespace Ended

variable {s last next : Session} {i : Nat}

/-- An ended job stays as it is in every turn but a start of it. -/
theorem takes (h : s.Ended i) {t : Turn} (htakes : s.Takes t next) (ht : t.spares i = true) :
    next.Ended i ∧ (next.job i).snapshot = (s.job i).snapshot := by
  obtain ⟨P, hgoes, hP⟩ := htakes.goes_of_spares ht
  obtain ⟨hobeys, hsame, -⟩ := hgoes.ended hP h.obeys h.ended
  refine ⟨⟨hobeys, ?_⟩, hsame⟩
  rw [← core_job, Job.isActive, hsame]
  exact h.ended

/-- Until it is started again, an ended job keeps its snapshot. -/
theorem leads (h : s.Ended i) (hleads : Leads (Turn.spares i) s last) :
    last.Ended i ∧ (last.job i).snapshot = (s.job i).snapshot := by
  refine hleads.invariant
    (P := fun last => last.Ended i ∧ (last.job i).snapshot = (s.job i).snapshot) ⟨h, rfl⟩ ?_
  rintro s' next t htakes ht ⟨hended, hsame⟩
  obtain ⟨hnext, hsnapshot⟩ := hended.takes htakes ht
  exact ⟨hnext, hsnapshot.trans hsame⟩

/-- The thread of an ended job moves in silence: it reports nothing and writes nothing. -/
theorem silent (h : s.Ended i) (hmove : s.advance? i = some next) :
    next.journal = s.journal ∧ next.device = s.device := by
  cases advances_of_advance? hmove with
  | own hown =>
    -- a thread reports something only while its job is running or paused
    rcases Job.notes_cases hown with rfl | ⟨hactive, -⟩
    · exact ⟨rfl, rfl⟩
    · rw [h.ended] at hactive
      cases hactive
  | send hstage =>
    have hobeys := h.obeys
    simp only [Job.Obeys, hstage, h.ended] at hobeys
    cases hobeys
  | arm | take | release => exact ⟨rfl, rfl⟩

end Ended

/-- A job that was ended and has no thread: until it is started again, it has no turn, and
it stays as it is. -/
structure IsOver (s : Session) (i : Nat) : Prop where
  same : ∀ last, Leads (Turn.spares i) s last → last.job i = s.job i
  still : ∀ last next, Leads (Turn.spares i) s last → ¬last.Takes (.job i) next
  free : ∀ last, Leads (Turn.spares i) s last → last.letGoJob i = last

/-- A job without a thread that is neither running nor paused is over. -/
theorem isOver {s : Session} {i : Nat} (hgone : (s.job i).stage = .gone)
    (hend : (s.job i).isActive = false) : s.IsOver i := by
  -- no turn but a start gives the job a thread, and without one it stays as it is
  have hsame : ∀ last, Leads (Turn.spares i) s last → last.job i = s.job i := by
    intro last hleads
    refine hleads.invariant (P := fun last => last.job i = s.job i) rfl ?_
    intro s' next t htakes ht hbefore
    obtain ⟨P, hgoes, hP⟩ := htakes.goes_of_spares ht
    have hnext := hgoes.gone (i := i) hP (by rw [core_job, hbefore]; exact hgone)
      (by rw [core_job, hbefore]; exact hend)
    exact hnext.trans hbefore
  refine ⟨hsame, fun last next hleads htakes => ?_, fun last hleads => ?_⟩
  · have hstage : (last.job i).stage = .gone := by rw [hsame last hleads, hgone]
    cases htakes with
    | job h => simp [advance?, Job.move, hstage] at h
  · have hstage : (last.job i).stage = .gone := by rw [hsame last hleads, hgone]
    simp [letGoJob, hstage]

/-- A job that was ended while its write hangs: until it is started again, its snapshot
stays as it is, its thread moves in silence, and what the return of its write reports is
no report of a job. -/
structure IsSilenced (s : Session) (i : Nat) : Prop where
  same : ∀ last, Leads (Turn.spares i) s last → (last.job i).snapshot = (s.job i).snapshot
  silent : ∀ last next, Leads (Turn.spares i) s last → last.Takes (.job i) next →
    next.journal = last.journal ∧ next.device = last.device
  returned : ∀ last, Leads (Turn.spares i) s last →
    ∃ entries, (last.letGoJob i).journal = last.journal ++ entries ∧
      ∀ e ∈ entries, e.note.isOfJob = false

/-- An ended job is silenced. -/
theorem Ended.isSilenced {s : Session} {i : Nat} (h : s.Ended i) : s.IsSilenced i where
  same last hleads := (h.leads hleads).2
  silent last next hleads htakes := by
    cases htakes with
    | job hmove => exact (h.leads hleads).1.silent hmove
  returned last _ := by
    obtain ⟨entries, hjournal, hlink⟩ := (writes_letGoJob last i).adds.journal
    exact ⟨entries, hjournal, fun e he => (hlink e he).not_ofJob⟩

/-! ### The stop -/

/-- The call to stop the job, with a limit of time or without. -/
def Step.stops (i : Nat) : Step → Bool
  | .stop k | .stopWithin k _ => k = i
  | _ => false

/-- There are two calls that stop a job. -/
theorem Step.eq_of_stops {i : Nat} {step : Step} (h : step.stops i = true) :
    step = .stop i ∨ ∃ ms, step = .stopWithin i ms := by
  cases step with
  | stop k => exact .inl (by simpa [stops] using h)
  | stopWithin k ms => exact .inr ⟨ms, by simpa [stops] using h⟩
  | _ => cases h

/-- A request to stop an active job marks it and calls off its wait. -/
theorem requestStop_of_active {s : Session} {i : Nat} (t : Thread)
    (hactive : (s.job i).isActive = true) :
    ((s.requestStop t i).job i).snapshot = { (s.job i).snapshot with state := .stopped } ∧
      ((s.requestStop t i).job i).stage = (s.job i).stage ∧
      (s.requestStop t i).link.slot.cancelled = true := by
  -- an active job has been started, so it is one of those of the session
  have hlt : i < s.jobs.length := by
    refine Nat.lt_of_not_le fun hle => ?_
    have hdefault : s.job i = {} := by simp [job, List.getElem?_eq_none hle]
    rw [hdefault] at hactive
    cases hactive
  have hnotes : (Job.announce "Job stopped" "Stopped").isEmpty = false := rfl
  have hjob : (s.requestStop t i).jobs = (s.setJob i
      { s.job i with snapshot := { (s.job i).snapshot with state := .stopped } }).jobs := by
    simp only [requestStop, Job.requestStop_of_active hactive, hnotes, Bool.false_eq_true, if_false]
    exact jobs_tellAll _ t _
  have hslot : (s.requestStop t i).link = { s.link with slot := s.link.slot.cancel } := by
    simp only [requestStop, Job.requestStop_of_active hactive, hnotes, Bool.false_eq_true, if_false]
    rfl
  refine ⟨?_, ?_, ?_⟩
  · rw [job_of_jobs hjob]
    simp [job, setJob, hlt]
  · rw [job_of_jobs hjob]
    simp [job, setJob, hlt]
  · rw [hslot]
    rfl

/-- A job was stopped; its thread may still be on its way to its end. -/
structure Wound (old : Job) (s : Session) (i : Nat) : Prop where
  ended : s.Ended i
  snapshot : (s.job i).snapshot = { old.snapshot with state := .stopped }
  cancelled : s.link.slot.cancelled = true
  hanging : (s.job i).isHanging = old.isHanging
  /-- The thread that gives the link back leaves it free. -/
  freed : old.holds = true → (s.job i).holds = true ∨ s.link.claimed = false
  sound : s.core.Sound

namespace Wound

variable {old : Job} {s : Session} {i : Nat}

/-- A request to stop winds up a job that is running or paused. -/
theorem request (hcalm : s.core.Calm) (hactive : (s.job i).isActive = true) (t : Thread) :
    Wound (s.job i) (s.requestStop t i) i := by
  obtain ⟨hsnapshot, hstage, hcancel⟩ := requestStop_of_active t hactive
  -- at rest, the thread is not about to hand over a line
  have hunsent : ((s.requestStop t i).job i).Obeys := by
    unfold Job.Obeys
    rw [hstage]
    rcases Job.isStill_cases (Job.isStill_of_rests (hcalm.rest.job i)) with
      hs | ⟨hs, -⟩ | ⟨line, rest, hs⟩ | ⟨line, hs⟩ | ⟨hs, -⟩ <;>
      (rw [core_job] at hs; rw [hs]; trivial)
  exact {
    ended := ⟨hunsent, by rw [Job.isActive, hsnapshot]; rfl⟩
    snapshot := hsnapshot
    cancelled := hcancel
    hanging := by rw [Job.isHanging, hstage, ← Job.isHanging]
    freed := fun hholds => .inl (by rw [Job.holds, hstage, ← Job.holds]; exact hholds)
    sound := (requestStop_goes s t i hcalm.rest).sound hcalm.sound }

/-- The threads come to rest, and the stopped job with them. -/
theorem settle (h : Wound old s i) : Wound old s.settle i ∧ s.settle.core.AtRest := by
  obtain ⟨hgoes, hrest⟩ := settle_goes h.sound
  obtain ⟨hobeys, hsame, hnew⟩ :=
    hgoes.ended (fun _ => Act.not_launches_of_isRunning i) h.ended.obeys h.ended.ended
  -- only a return ends a hang, and the threads alone make none
  have hold : (s.job i).isHanging = true → (s.settle.job i).isHanging = true := by
    intro hhang
    refine (settle_leads s).invariant (P := fun s => (s.job i).isHanging = true) hhang ?_
    intro s next t htakes hrun hbefore
    refine htakes.isHanging hbefore ?_
    rintro rfl
    cases hrun
  refine ⟨{
    ended := ⟨hobeys, by rw [← core_job, Job.isActive, hsame]; exact h.ended.ended⟩
    snapshot := hsame.trans h.snapshot
    cancelled := hgoes.returning.cancelled h.cancelled
    hanging := by rw [← h.hanging]; exact Bool.eq_iff_iff.mpr ⟨hnew, hold⟩
    freed := fun hholds => hgoes.returning.freed (h.freed hholds)
    sound := hgoes.sound h.sound }, hrest⟩

/-- What is only reported leaves the job wound up. -/
theorem tell (h : Wound old s i) (t : Thread) {n : Note} (hn : n.Quiet) :
    Wound old (s.tell t n) i :=
  ⟨⟨h.ended.obeys, h.ended.ended⟩, h.snapshot, h.cancelled, h.hanging, h.freed,
    by rw [core_tell_of_quiet s t hn]; exact h.sound⟩

/-- At rest, the thread of a job that was stopped has ended, unless its write hangs. -/
theorem isAlive (h : Wound old s i) (hrest : s.core.AtRest) :
    (s.job i).isAlive = old.isHanging := by
  rw [← h.hanging]
  exact Core.isAlive_of_cancelled hrest (fun _ => h.cancelled) h.ended.ended

/-- Without a write that hangs, the thread has ended. -/
theorem gone (h : Wound old s i) (hrest : s.core.AtRest) (hfree : old.isHanging = false) :
    (s.job i).stage = .gone := by
  have halive := h.isAlive hrest
  rw [hfree] at halive
  simpa [Job.isAlive] using halive

end Wound

/-- A call to stop an active job returns, unless its write hangs. -/
theorem perform_stop {s : Session} {i : Nat} (hcalm : s.core.Calm)
    (hactive : (s.job i).isActive = true) :
    (s.perform (.stop i)).1 = (if (s.job i).isHanging then .blocked else .done) ∧
      ((s.job i).isHanging = false → Wound (s.job i) (s.perform (.stop i)).2 i) := by
  cases hhang : (s.job i).isHanging with
  | true => exact ⟨by simp [perform, Step.waits, hhang], nofun⟩
  | false =>
    have hperform : s.perform (.stop i) = (.done, (s.requestStop .caller i).settle) := by
      simp [perform, Step.waits, hhang, act]
    rw [hperform]
    exact ⟨rfl, fun _ => (Wound.request hcalm hactive .caller).settle.1⟩

/-- A call with a limit returns in any case, and reports whether a write hangs. -/
theorem perform_stopWithin {s : Session} {i : Nat} (hcalm : s.core.Calm)
    (hactive : (s.job i).isActive = true) (ms : Nat) :
    (s.perform (.stopWithin i ms)).1 = .truth (!(s.job i).isHanging) ∧
      Wound (s.job i) (s.perform (.stopWithin i ms)).2 i := by
  obtain ⟨hsettled, hrest⟩ := (Wound.request hcalm hactive .caller).settle
  have halive := hsettled.isAlive hrest
  -- the thread has ended by then just if no write holds it up
  cases hhang : (s.job i).isHanging with
  | true =>
    rw [hhang] at halive
    have hperform : s.perform (.stopWithin i ms) =
        (.truth false, ((s.requestStop .caller i).settle.tell .caller
          (Job.record .warn ("Job did not stop within " ++ durationText ms))).settle) := by
      simp [perform, Step.waits, act, stopWithin, halive]
    have hquiet : (Job.record .warn ("Job did not stop within " ++ durationText ms)).Quiet :=
      quiet_record (show Log.Level.warn ≠ .trace by decide)
    rw [hperform]
    dsimp only
    exact ⟨rfl, (hsettled.tell .caller hquiet).settle.1⟩
  | false =>
    rw [hhang] at halive
    have hperform : s.perform (.stopWithin i ms) =
        (.truth true, (s.requestStop .caller i).settle.settle) := by
      simp [perform, Step.waits, act, stopWithin, halive]
    rw [hperform]
    dsimp only
    exact ⟨rfl, hsettled.settle.1⟩

/-! ### The return of a write that hung -/

/-- After all writes are let go, none hangs. -/
theorem not_isHanging_letGo (s : Session) (i : Nat) : (s.letGo.job i).isHanging = false := by
  -- what hangs in the end has hung all along, and was none of those that were let go
  have hfold : ∀ (l : List Nat) (s : Session), ((l.foldl letGoJob s).job i).isHanging = true →
      (s.job i).isHanging = true ∧ i ∉ l := by
    intro l
    induction l with
    | nil => exact fun s h => ⟨h, by simp⟩
    | cons k l ih =>
      intro s h
      obtain ⟨hbefore, hnot⟩ := ih _ h
      obtain ⟨hfirst, hne⟩ := isHanging_letGoJob hbefore
      exact ⟨hfirst, by simpa [Ne.symm hne] using hnot⟩
  refine eq_false_of_ne_true fun hhang => ?_
  obtain ⟨hbefore, hnot⟩ := hfold _ s hhang
  refine hnot (List.mem_range.mpr (Nat.lt_of_not_le fun hle => ?_))
  have hdefault : s.job i = {} := by simp [job, List.getElem?_eq_none hle]
  rw [hdefault] at hbefore
  cases hbefore

/-- Once its write has returned, the thread of a job that was stopped ends, and leaves the
link free. -/
theorem Ended.letGo {s : Session} {i : Nat} (h : s.Ended i) (hcalm : s.core.Calm)
    (hstopped : (s.job i).snapshot.state = .stopped) (hholds : (s.job i).holds = true)
    (hcancel : s.link.slot.cancelled = true) :
    ((s.perform .letGo).2.job i).snapshot = (s.job i).snapshot ∧
      ((s.perform .letGo).2.job i).isAlive = false ∧
      (s.perform .letGo).2.link.claimed = false := by
  have hgoes := letGo_goes s
  obtain ⟨hobeys, hsame, -⟩ :=
    hgoes.ended (fun _ => Act.not_launches_of_isReturning i) h.obeys h.ended
  -- the write has returned, so nothing holds the thread up any longer
  have hwound : Wound (s.letGo.job i) s.letGo i := {
    ended := ⟨hobeys, by rw [← core_job, Job.isActive, hsame]; exact h.ended⟩
    snapshot := by
      rw [← core_job, hsame, core_job, ← hstopped]
    cancelled := hgoes.cancelled hcancel
    hanging := rfl
    freed := .inl
    sound := hgoes.sound hcalm.sound }
  obtain ⟨hsettled, hrest⟩ := hwound.settle
  have hgone := hsettled.gone hrest (not_isHanging_letGo s i)
  have hfree := (hgoes.trans (settle_goes hwound.sound).1.returning).freed (i := i) (.inl hholds)
  have hperform : (s.perform .letGo).2 = s.letGo.settle := rfl
  rw [hperform]
  refine ⟨?_, by simp [Job.isAlive, hgone], hfree.resolve_left ?_⟩
  · rw [hsettled.snapshot, ← core_job, hsame, core_job, ← hstopped]
  · simp [core_job, Job.holds, hgone]

/-! ### Steps after the stop -/

/-- The call to start the job. -/
def Step.starts (i : Nat) : Step → Bool
  | .start k _ _ => k = i
  | _ => false

/-- A step that does not start the job leads to turns that do not. -/
theorem Step.spares_of_turns {step : Step} {i : Nat} (h : step.starts i = false) (t : Turn)
    (ht : step.turns t = true) : t.spares i = true := by
  cases t with
  | launch k =>
    cases step with
    | start => simp_all [Step.turns, Turn.isRunning, Turn.spares, Turn.launches, Step.starts]
    | _ => simp [Step.turns, Turn.isRunning] at ht
  | _ => rfl

/-- A step that does not start the job leads to no act that does. -/
theorem Step.not_launches {n : Nat} {step : Step} {a : Act} {i : Nat}
    (h : step.starts i = false) (ha : step.causes n a = true) : a.launches i = false := by
  cases a with
  | launched k name p =>
    replace ha : step.begins n (.launched k name p) = true := ha
    cases step with
    | start => simp_all [begins, Act.isMeddling, Act.launches, starts]
    | _ =>
      simp [begins, sendsLine, sendsCommand, Act.isSend, Act.isBreak, Act.isYielding,
        Act.isMeddling] at ha
  | _ => rfl

/-- What does not start the job leads on by turns that do not. -/
theorem after_leads_spares {s : Session} (hcalm : s.core.Calm) (hs : s.Stands) {i : Nat}
    {more : List Step} (hmore : ∀ step ∈ more, step.starts i = false) :
    Leads (Turn.spares i) s (s.after more) :=
  after_leads hcalm hs fun step hstep => Step.spares_of_turns (hmore step hstep)

/-- Undisturbed, a job that was ended while waits were called off has a thread only while its
write hangs, and leaves the link free when that write returns. -/
theorem Ended.after {s : Session} {i : Nat} (h : s.Ended i) (hcalm : s.core.Calm)
    (hs : s.Stands) (howned : s.core.Owned) (hcancel : s.link.slot.cancelled = true)
    (hstopped : (s.job i).snapshot.state = .stopped) {more : List Step}
    (hmore : ∀ step ∈ more, step.starts i = false) (hsteps : s.Undisturbed more) :
    ((s.after more).job i).isAlive = ((s.after more).job i).isHanging ∧
      (((s.after more).job i).isHanging = true →
        (((s.after more).perform .letGo).2.job i).snapshot = (s.job i).snapshot ∧
        (((s.after more).perform .letGo).2.job i).isAlive = false ∧
        ((s.after more).perform .letGo).2.link.claimed = false) := by
  obtain ⟨hlater, hsame⟩ := h.leads (after_leads_spares hcalm hs hmore)
  have hlaterCalm := calm_after hcalm more
  -- only a claim for a job takes back that waits are called off, and this job holds the link
  have hheld : ((s.after more).job i).holds = true →
      (s.after more).link.slot.cancelled = true := by
    obtain ⟨hist, rfl, hh⟩ := exists_history hcalm more
    have hheld := hh.permits.cancelled_while_held (i := i) hcalm.sound howned (fun a ha => ?_)
      fun _ => hcancel
    · rwa [hh.core_after] at hheld
    · obtain ⟨step, hmem, hcauses⟩ := hh.caused ha
      exact ⟨hh.not_meddling hsteps ha, Step.not_launches (hmore step hmem) hcauses⟩
  refine ⟨Core.isAlive_of_cancelled hlaterCalm.rest hheld hlater.ended, fun hhang => ?_⟩
  have hholds : ((s.after more).job i).holds = true := by
    revert hhang
    unfold Job.isHanging Job.holds
    split
    · rename_i hstage
      rw [hstage]
      exact fun _ => rfl
    · nofun
  obtain ⟨hsnapshot, hgone, hfree⟩ :=
    hlater.letGo hlaterCalm (by rw [hsame, hstopped]) hholds (hheld hholds)
  exact ⟨hsnapshot.trans hsame, hgone, hfree⟩

/-- A stop is final. Wherever a running or paused job is stopped, after any steps:

* the call without a limit of time returns unless the job's write hangs; the one with a
  limit returns, and reports whether the job's thread has ended, which it has unless its
  write hangs;
* a call that returns with success leaves the job stopped, its cursor and all else as they
  were, without a thread and with the link free. From then on, until it is started again,
  the job has no turn, nothing of it changes, and there is no write of it to let go;
* a call that gives up leaves the job stopped as well. From then on, until it is started
  again, its snapshot stays as it is, its thread writes and reports nothing, and the return
  of its write makes no report of a job. When the write returns, the thread ends and leaves
  the link free.

What is said of the link needs that nobody else makes the link's calls for jobs. -/
theorem stop_is_final {s : Session} (hnew : s.IsNew) (steps : List Step) {i : Nat}
    (hactive : ((s.after steps).job i).isActive = true) :
    let before := s.after steps
    let stopped : Job.Snapshot := { (before.job i).snapshot with state := .stopped }
    ((before.perform (.stop i)).1 = (if (before.job i).isHanging then .blocked else .done) ∧
      ∀ ms, (before.perform (.stopWithin i ms)).1 = .truth (!(before.job i).isHanging)) ∧
    (∀ step : Step, step.stops i = true →
      (before.perform step).1 = .done ∨ (before.perform step).1 = .truth true →
      ((before.perform step).2.job i).snapshot = stopped ∧
        ((before.perform step).2.job i).isAlive = false ∧
        (s.Undisturbed steps ∨ (before.job i).isAlive = true →
          (before.perform step).2.link.claimed = false) ∧
        (before.perform step).2.IsOver i) ∧
    (∀ ms, (before.perform (.stopWithin i ms)).1 = .truth false →
      ((before.perform (.stopWithin i ms)).2.job i).snapshot = stopped ∧
        (before.perform (.stopWithin i ms)).2.IsSilenced i ∧
        ∀ more : List Step, (∀ step ∈ more, step.starts i = false) →
          s.Undisturbed (steps ++ .stopWithin i ms :: more) →
          let later := (before.perform (.stopWithin i ms)).2.after more
          (later.job i).isAlive = (later.job i).isHanging ∧
            ((later.job i).isHanging = true →
              ((later.perform .letGo).2.job i).snapshot = stopped ∧
                ((later.perform .letGo).2.job i).isAlive = false ∧
                (later.perform .letGo).2.link.claimed = false)) ∧
    ∀ (step : Step) (more : List Step), (∀ other ∈ more, other.starts i = false) →
      Leads (Turn.spares i) (before.perform step).2 ((before.perform step).2.after more) := by
  intro before stopped
  have hcalm : before.core.Calm := calm_after hnew.calm steps
  have hstands : before.Stands := stands_after hnew.calm hnew.stands steps
  have hcalmAfter : ∀ step, (before.perform step).2.core.Calm := fun step =>
    (perform_goes before step hcalm).2
  have hstandsAfter : ∀ step, (before.perform step).2.Stands := fun step =>
    (perform_leads hcalm hstands step).stands hstands
  obtain ⟨hstop, hstopWound⟩ := perform_stop hcalm hactive
  have hwithin := perform_stopWithin hcalm hactive
  refine ⟨⟨hstop, fun ms => (hwithin ms).1⟩, fun step hstep hreturned => ?_, fun ms hfailed => ?_,
    fun step more hmore => after_leads_spares (hcalmAfter step) (hstandsAfter step) hmore⟩
  · -- a call that returns with success has met no write that hangs
    have hwound : (before.job i).isHanging = false ∧
        Wound (before.job i) (before.perform step).2 i := by
      cases hhang : (before.job i).isHanging with
      | true =>
        rw [hhang] at hstop hwithin
        rcases Step.eq_of_stops hstep with rfl | ⟨ms, rfl⟩
        · simp [hstop] at hreturned
        · simp [(hwithin ms).1] at hreturned
      | false =>
        rcases Step.eq_of_stops hstep with rfl | ⟨ms, rfl⟩
        · exact ⟨rfl, hstopWound hhang⟩
        · exact ⟨rfl, (hwithin ms).2⟩
    obtain ⟨hfree, hwound⟩ := hwound
    have hgone := hwound.gone (hcalmAfter step).rest hfree
    refine ⟨hwound.snapshot, by simp [Job.isAlive, hgone], fun howned => ?_,
      isOver hgone hwound.ended.ended⟩
    have hholds : (before.job i).holds = true := by
      rcases howned with hsteps | halive
      · exact Job.holds_of_isWorking ((owned_after hnew hsteps).working i hactive)
      · exact (Job.isAlive_of_rests (hcalm.rest.job i)).symm.trans halive
    refine (hwound.freed hholds).resolve_left ?_
    simp [Job.holds, hgone]
  · have hwound := (hwithin ms).2
    refine ⟨hwound.snapshot, hwound.ended.isSilenced, fun more hmore hsteps => ?_⟩
    -- neither the steps up to the stop nor those after it take the link from the job
    have hafter : s.after (steps ++ [.stopWithin i ms]) =
        (before.perform (.stopWithin i ms)).2 := by
      rw [after_append]
      rfl
    rw [show steps ++ .stopWithin i ms :: more = (steps ++ [.stopWithin i ms]) ++ more by simp]
      at hsteps
    have hfirst : s.Undisturbed (steps ++ [.stopWithin i ms]) := fun step hstep =>
      hsteps step (List.mem_append_left _ hstep)
    have hrest : (before.perform (.stopWithin i ms)).2.Undisturbed more := by
      intro step hstep
      rw [← hafter, length_jobs_after hnew.calm]
      exact hsteps step (List.mem_append_right _ hstep)
    have howned := owned_after hnew hfirst
    rw [hafter] at howned
    obtain ⟨halive, hletGo⟩ := hwound.ended.after (hcalmAfter _) (hstandsAfter _) howned
      hwound.cancelled (by rw [hwound.snapshot]) hmore hrest
    rw [hwound.snapshot] at hletGo
    exact ⟨halive, hletGo⟩

/-- A session whose device holds up the first line that it is sent. -/
def clogged : Session := { device := { writes := [.block] } }

/-- A job of two lines is started. -/
def underWay : List Step := [.connect "COM3" 9600, .start 0 "part" ⟨["G0", "G1"]⟩]

/-- Where the device takes lines but does not answer, the stop ends the wait for the first
answer. Where it holds up the first line, the stop gives up, and the job ends when the line
is let go. -/
theorem stop_is_final_underWay :
    ((({} : Session).after underWay).perform (.stop 0)).2.link.claimed = false ∧
      ((({} : Session).after underWay).perform (.stop 0)).2.IsOver 0 ∧
      (((clogged.after underWay).perform (.stopWithin 0 50)).2.job 0).isAlive = true ∧
      ((((clogged.after underWay).perform (.stopWithin 0 50)).2.perform .letGo).2.job 0).isAlive =
        false := by
  obtain ⟨⟨hdone, -⟩, hover, -⟩ := stop_is_final (s := {}) ⟨rfl, by decide⟩ underWay (i := 0)
    (by decide +kernel)
  have hfree : ((({} : Session).after underWay).job 0).isHanging = false := by decide +kernel
  rw [hfree] at hdone
  obtain ⟨-, -, hclaim, hover⟩ := hover (.stop 0) rfl (.inl hdone)
  obtain ⟨⟨-, hresult⟩, -, hgaveUp, -⟩ := stop_is_final (s := clogged) ⟨rfl, by decide⟩ underWay
    (i := 0) (by decide +kernel)
  have hhang : ((clogged.after underWay).job 0).isHanging = true := by decide +kernel
  have hlater :
      (((clogged.after underWay).perform (.stopWithin 0 50)).2.job 0).isHanging = true := by
    decide +kernel
  have hfalse := hresult 50
  rw [hhang] at hfalse
  obtain ⟨-, -, hmore⟩ := hgaveUp 50 hfalse
  obtain ⟨halive, hletGo⟩ := hmore [] nofun (by decide)
  exact ⟨hclaim (.inl (by decide)), hover, halive.trans hlater, (hletGo hlater).2.1⟩

end Session

end GcodeSender
