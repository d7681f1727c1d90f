import GcodeSender.Proofs.Job.Stop
import GcodeSender.Proofs.Session.Order

/-!
# `GcodeSender.Proofs.Job.CutOff`: a job and the end of its connection

A connection can end while a job is under way. Where a line of the job is on its way then,
the job is cut off: the thread that writes the line or waits for its answer learns that
there is no connection any more, and it learns that before a port can be opened again,
because a port is opened only at rest and such a thread is not at rest. From there on the
job ends, at once or, if it is paused, when it is resumed or stopped.

* `Core.CutOff`: where the thread of such a job can stand. `CutOff.next` is the step for
  acts, and `CutOff.takes` the one for turns; only the turns know that a reader that waits
  for a write to return takes the connection down before the write does.
* `Core.Doomed`: a running job that the threads bring to a failure by themselves.
  `Doomed.settle` is that run.

A paused job between two lines learns nothing: no line is on its way. It is not cut off, and
if it is resumed on the next connection it goes on there.
-/

set_option autoImplicit false

namespace GcodeSender

namespace Job

/-- A line of the job was chosen, and neither accepted nor given up since. -/
def isUnderWay (j : Job) : Bool :=
  match j.stage with
  | .arming _ | .sending _ | .hanging _ _ | .awaiting _ | .failing _ _ | .parked => true
  | .deciding | .crediting | .releasing | .retiring | .gone => false

/-- A write that returns leaves its thread before the answer, or with a failure. -/
theorem stage_sent (j : Job) (line : String) (result : Except LinkError Unit) :
    (j.sent line result).stage = .awaiting line ∨
      ∃ kind message, (j.sent line result).stage = .failing kind message := by
  cases result with
  | ok => exact .inl rfl
  | error => exact .inr ⟨_, _, rfl⟩

/-- A job that fails has counted no more and no fewer lines. -/
theorem cursor_fail (s : Snapshot) : s.fail.cursor = s.cursor := by
  unfold Snapshot.fail
  split <;> rfl

/-- A failure ends a job that is not paused. -/
theorem state_fail {s : Snapshot} (hp : s.state ≠ .paused)
    (h : s.state = .running ∨ s.state = .paused ∨ s.state = .stopped) :
    s.fail.state = .errored ∨ s.fail.state = .stopped := by
  unfold Snapshot.fail
  split
  · exact .inl rfl
  · rename_i hr
    exact .inr ((h.resolve_left hr).resolve_left hp)

end Job

/-! ### Where a job that was cut off can stand -/

namespace Core

/-- A line of the job was on its way when the connection ended: there is still none for the
thread to write on or to hear from, or the thread knows it already. -/
def CutOff (c : Core) (i : Nat) : Prop :=
  match (c.job i).stage with
  | .arming _ | .sending _ | .hanging _ _ => c.online = false
  | .awaiting _ => c.slot.closed = true
  | .failing _ _ | .parked => True
  | .releasing | .retiring | .gone =>
    (c.job i).snapshot.state = .errored ∨ (c.job i).snapshot.state = .stopped
  | .deciding | .crediting => False

/-- A slot that is closed is opened by a new connection alone. -/
theorem closed_next {c : Core} {a : Act} (ha : a.Possible c) (hmild : a.isMeddling = false)
    (hopened : a ≠ .opened) (h : c.slot.closed = true) : (c.next a).slot.closed = true := by
  cases a with
  | opened => exact absurd rfl hopened
  | closed | broke => rfl
  | heard answer => exact (c.slot.offer_cases answer).2.2.2.1.trans h
  | took k line outcome =>
    obtain ⟨⟨_, slot⟩, hcheck, -⟩ := Option.map_eq_some_iff.mp ha.1
    have hslot : (c.next (.took k line outcome)).slot = slot := by
      simp [next, Act.onSlot, hcheck]
    rw [hslot, (Link.Slot.check?_cases hcheck).1]
    exact h
  | meddled => cases hmild
  | _ => exact h

/-- A link that is offline stays so until a port is opened. -/
theorem online_next {c : Core} {a : Act} (hopened : a ≠ .opened) (h : c.online = false) :
    (c.next a).online = false := by
  cases a with
  | opened => exact absurd rfl hopened
  | dropped | closed | broke => rfl
  | _ => exact h

namespace CutOff

variable {c : Core} {a : Act} {i : Nat}

/-- No port is opened while the thread has not noticed. -/
theorem not_opened (h : c.CutOff i) (hfree : (c.job i).isHanging = false)
    (ha : Act.Possible c .opened) :
    (∃ kind message, (c.job i).stage = .failing kind message) ∨ (c.job i).stage = .parked ∨
      (c.job i).isWorking = false := by
  have hrest : c.AtRest := ha.1
  rcases Job.isStill_cases (Job.isStill_of_rests (hrest.job i)) with
    hs | ⟨hs, -⟩ | ⟨line, rest, hs⟩ | ⟨line, hs⟩ | ⟨hs, -⟩
  · exact .inr (.inr (by simp [Job.isWorking, hs]))
  · simp [CutOff, hs] at h
  · simp [Job.isHanging, hs] at hfree
  · -- a wait on a closed slot ends
    simp only [CutOff, hs] at h
    have hcheck := Job.check?_of_rests (hrest.job i) hs
    unfold Link.Slot.check? at hcheck
    split at hcheck
    · cases hcheck
    · split at hcheck
      · cases hcheck
      · simp [h] at hcheck
  · exact .inr (.inl hs)

/-- What others do leaves a job cut off. -/
theorem next_of_ne (h : c.CutOff i) (ha : a.Possible c) (hmild : a.isMeddling = false)
    (hfree : (c.job i).isHanging = false) (hi : a.job? ≠ some i) : (c.next a).CutOff i := by
  have hjob := next_job_of_ne (c := c) hi
  -- a connection that is opened finds the job on its way out; nothing else brings the link up
  by_cases hopened : a = .opened
  · subst hopened
    unfold CutOff at h ⊢
    rcases not_opened h hfree ha with ⟨kind, message, hs⟩ | hs | hwork
    · simp [hjob, hs]
    · simp [hjob, hs]
    · rw [hjob]
      cases hs : (c.job i).stage <;> simp_all [Job.isWorking]
  · have honline := online_next (c := c) (a := a) hopened
    have hclosed := closed_next ha hmild hopened
    unfold CutOff at h ⊢
    rw [hjob]
    cases hs : (c.job i).stage <;> simp_all

/-- What the job itself does leaves it cut off, and its cursor where it is. -/
theorem next_self (h : c.CutOff i) (hc : c.InOrder) (ha : a.Possible c)
    (hlaunch : a.launches i = false) (hfree : (c.job i).isHanging = false)
    (hi : a.job? = some i) :
    (c.next a).CutOff i ∧ ((c.next a).job i).isHanging = false ∧
      ((c.next a).job i).snapshot.cursor = (c.job i).snapshot.cursor := by
  have hfit := ha.2 i hi
  have hjob := next_job_self ha hi
  have hstate := hc.state_of_working (i := i)
  unfold CutOff at h ⊢
  cases a with
  | opened | dropped | closed | broke | heard | noted | signalled | withheld | meddled => cases hi
  | launched k name p => simp_all [Act.launches, Act.job?]
  | abandoned k =>
    -- a thread that has yet to decide on its first line was not cut off
    have hs : (c.job i).stage = .deciding := hfit.1
    simp [hs] at h
  | paused k =>
    replace hfit : (c.job i).snapshot.state = .running := hfit
    simp only [Act.onJob, Job.pause_of_running hfit] at hjob
    rw [hjob]
    refine ⟨?_, hfree, rfl⟩
    cases hs : (c.job i).stage <;> simp_all [next, Act.onSlot, Act.onLine]
  | resumed k =>
    have hpaused : (c.job i).snapshot.state = .paused := hfit.1
    simp only [Act.onJob, Job.resume_of_paused hpaused] at hjob
    rw [hjob]
    refine ⟨?_, hfree, rfl⟩
    cases hs : (c.job i).stage <;> simp_all [next, Act.onSlot, Act.onLine]
  | stopped k =>
    have hactive : (c.job i).isActive = true := hfit.1
    simp only [Act.onJob, Job.requestStop_of_active hactive] at hjob
    rw [hjob]
    refine ⟨?_, hfree, rfl⟩
    cases hs : (c.job i).stage <;> simp_all [next, Act.onSlot, Act.onLine, Link.Slot.cancel]
  | armed k line =>
    replace hfit : (c.job i).stage = .arming line := hfit
    simp only [Act.onJob, Job.armed, hfit] at hjob
    simp only [hfit] at h
    rw [hjob]
    exact ⟨h, rfl, rfl⟩
  | wrote k line rest =>
    -- a line is written only on a connection
    have hs : (c.job i).stage = .sending line := hfit.1
    simp only [hs] at h
    have honline : c.online = true := ha.1
    simp [h] at honline
  | refused k line =>
    rw [hjob]
    exact ⟨trivial, rfl, rfl⟩
  | yielded k line rest =>
    have hs : (c.job i).stage = .hanging line rest := hfit
    simp [Job.isHanging, hs] at hfree
  | returned k line failure =>
    obtain ⟨rest, hs⟩ := Job.hanging_of_writing? hfit.writing?
    simp [Job.isHanging, hs] at hfree
  | took k line outcome =>
    replace hfit : (c.job i).stage = .awaiting line := hfit
    simp only [hfit] at h
    obtain ⟨⟨ended, slot⟩, hcheck, rfl⟩ := Option.map_eq_some_iff.mp ha.1
    rw [hjob]
    rcases hc.closed_of_check? hfit h hcheck with hended | ⟨hended, hstopped⟩
    · replace hended : ended = .closed := hended
      subst hended
      exact ⟨trivial, rfl, rfl⟩
    · replace hended : ended = .cancelled := hended
      subst hended
      exact ⟨.inr hstopped, rfl, rfl⟩
  | moved k p =>
    obtain ⟨after, hafter, hsteps⟩ := Job.steps_of_moved hfit
    rw [hjob, hafter]
    cases hsteps with
    | finish hs | leave hs | choose _ hs | lack hs | count hs | forgo hs => simp [hs] at h
    | park kind message hs hp => exact ⟨trivial, rfl, rfl⟩
    | fail kind message hs hp =>
      have hwork := hstate (by simp [Job.isWorking, hs])
      exact ⟨Job.state_fail hp hwork, rfl, Job.cursor_fail _⟩
    | wake hs hp =>
      have hwork := hstate (by simp [Job.isWorking, hs])
      exact ⟨Job.state_fail hp hwork, rfl, Job.cursor_fail _⟩
    | retire hs =>
      simp only [hs] at h
      exact ⟨h, rfl, rfl⟩
  | released k =>
    replace hfit : (c.job i).stage = .releasing := hfit
    simp only [hfit] at h
    rw [hjob]
    exact ⟨h, rfl, rfl⟩

/-- The step, for a job that hangs in no write. -/
theorem next (h : c.CutOff i) (hc : c.InOrder) (ha : a.Possible c)
    (hmild : a.isMeddling = false) (hlaunch : a.launches i = false)
    (hfree : (c.job i).isHanging = false) :
    (c.next a).CutOff i ∧ ((c.next a).job i).isHanging = false ∧
      ((c.next a).job i).snapshot.cursor = (c.job i).snapshot.cursor := by
  by_cases hi : a.job? = some i
  · exact h.next_self hc ha hlaunch hfree hi
  · have hjob := next_job_of_ne (c := c) hi
    rw [hjob]
    exact ⟨h.next_of_ne ha hmild hfree hi, hfree, rfl⟩

/-- A job that was cut off comes to rest in a write that hangs, or paused, or at its end. -/
theorem rest_cases (h : c.CutOff i) (hrest : c.AtRest) :
    (c.job i).isHanging = true ∨
      (c.job i).stage = .parked ∧ (c.job i).snapshot.state = .paused ∨
      (c.job i).snapshot.state = .errored ∨ (c.job i).snapshot.state = .stopped := by
  cases hfree : (c.job i).isHanging with
  | true => exact .inl rfl
  | false =>
    right
    -- at rest it waits for an answer only on an open slot, and a job that is cut off has a closed
    -- one
    rcases Job.isStill_cases (Job.isStill_of_rests (hrest.job i)) with
      hs | ⟨hs, -⟩ | ⟨line, rest, hs⟩ | ⟨line, hs⟩ | ⟨hs, hp⟩
    · simp only [CutOff, hs] at h
      exact .inr h
    · simp [CutOff, hs] at h
    · simp [Job.isHanging, hs] at hfree
    · exfalso
      rcases not_opened h hfree (Act.possible_of_no_job rfl hrest) with ⟨_, _, hs'⟩ | hs' | hwork
      · simp [hs] at hs'
      · simp [hs] at hs'
      · simp [Job.isWorking, hs] at hwork
    · exact .inl ⟨hs, hp⟩

/-- It is not finished. -/
theorem not_finished (h : c.CutOff i) (hc : c.InOrder) :
    (c.job i).snapshot.state ≠ .finished := by
  intro hfinished
  have hstate := hc.state_of_working (i := i)
  unfold CutOff at h
  cases hs : (c.job i).stage <;> simp_all [Job.isWorking]

end CutOff

/-- A write that hangs without a connection leaves its job's cursor where it is. -/
theorem Goes.cursor_of_hanging {P : Act → Bool} {c c' : Core} {i : Nat} (h : Goes P c c')
    (hP : ∀ a, P a = true → a ≠ .opened) (hoff : c.online = false)
    (hhang : (c'.job i).isHanging = true) :
    (c'.job i).snapshot.cursor = (c.job i).snapshot.cursor := by
  obtain ⟨acts, hpermits, rfl, hacts⟩ := h
  -- a thread that once hangs no longer does not begin to hang again
  have hinvariant := hpermits.invariant (K := fun a => P a = true)
    (P := fun _ c' => c'.online = false ∧ ((c'.job i).isHanging = true →
      (c'.job i).snapshot.cursor = (c.job i).snapshot.cursor)) ⟨hoff, fun _ => rfl⟩ ?_ hacts
  · exact hinvariant.2 hhang
  intro acts a _ _ ha hkind ⟨hbefore, hsame⟩
  refine ⟨online_next (hP a hkind) hbefore, fun hhang => ?_⟩
  rw [next_job ha i] at hhang ⊢
  split at hhang
  · rename_i hi
    have hfit := ha.2 i hi
    have hwrote : ∀ k line rest, a ≠ .wrote k line rest := by
      rintro k line rest rfl
      have honline : (c.after acts).online = true := ha.1
      rw [hbefore] at honline
      cases honline
    have hstill := Act.isHanging_onJob hfit hwrote hhang
    obtain ⟨line, rest, hs⟩ := Job.hanging_of_isHanging hstill
    rw [if_pos hi, ← hsame hstill]
    cases a with
    | opened | dropped | closed | broke | heard | noted | signalled | withheld | meddled => cases hi
    | wrote k line rest => exact absurd rfl (hwrote k line rest)
    | launched | abandoned => cases hhang
    | yielded => rfl
    | paused => simp [Act.onJob, Job.pause_of_running hfit]
    | resumed => simp [Act.onJob, Job.resume_of_paused hfit.1]
    | stopped => simp [Act.onJob, Job.requestStop_of_active hfit.1]
    | returned k line failure => cases failure <;> cases hhang
    | moved k p => simp [Act.Fits, Job.own?, Job.move, hs] at hfit
    | armed | refused | took | released => simp [Act.Fits, hs] at hfit
  · rename_i hi
    rw [if_neg hi]
    exact hsame hhang

/-- A slot that is closed stays so until a connection is opened. -/
theorem Goes.closed {P : Act → Bool} {c c' : Core} (h : Goes P c c')
    (hP : ∀ a, P a = true → a ≠ .opened ∧ a.isMeddling = false) (hclosed : c.slot.closed = true) :
    c'.slot.closed = true := by
  obtain ⟨acts, hpermits, rfl, hacts⟩ := h
  refine hpermits.invariant (K := fun a => P a = true) (P := fun _ c => c.slot.closed = true)
    hclosed ?_ hacts
  exact fun acts a _ _ ha hkind hbefore =>
    closed_next ha (hP a hkind).2 (hP a hkind).1 hbefore

/-- The job is running, and its thread by itself comes to a failure: there is no connection to
write on or to hear from, or the failure is there. -/
def Doomed (c : Core) (i : Nat) : Prop :=
  (c.job i).snapshot.state = .running ∧
    match (c.job i).stage with
    | .deciding => (c.job i).snapshot.cursor < (c.job i).snapshot.total ∧ c.online = false
    | .arming _ | .sending _ => c.online = false
    | .awaiting _ => c.slot.closed = true
    | .failing _ _ | .parked => True
    | .hanging _ _ | .crediting | .releasing | .retiring | .gone => False

/-- Such a job is not at rest. -/
theorem Doomed.not_atRest {c : Core} {i : Nat} (h : c.Doomed i) : ¬c.AtRest := by
  intro hrest
  obtain ⟨hrun, hstands⟩ := h
  -- where a thread rests, either the job is not running, or it has no failure to come
  rcases Job.isStill_cases (Job.isStill_of_rests (hrest.job i)) with
    hs | ⟨hs, hp⟩ | ⟨line, rest, hs⟩ | ⟨line, hs⟩ | ⟨hs, hp⟩
  · simp [hs] at hstands
  · simp [hrun] at hp
  · simp [hs] at hstands
  · have hcut : c.CutOff i := by simpa [CutOff, hs] using hstands
    rcases hcut.not_opened (by simp [Job.isHanging, hs]) (Act.possible_of_no_job rfl hrest) with
      ⟨_, _, h⟩ | h | h
    · simp [hs] at h
    · simp [hs] at h
    · simp [Job.isWorking, hs] at h
  · simp [hrun] at hp

end Core

/-! ### Turns of a session -/

namespace Session

open GcodeSender.Core (CutOff)

/-- A turn that does not start the job leads to no act that does. -/
theorem TakesFairly.not_launches {t : Turn} {i : Nat} (hs : t.spares i = true) {a : Act}
    (ha : (t.causes a && !a.isMeddling) = true) : a.launches i = false := by
  cases a with
  | launched k name p =>
    have hk : t.launches k = true := (Bool.and_eq_true_iff.mp ha).1
    simp only [Act.launches, decide_eq_false_iff_not]
    rintro rfl
    simp [Turn.spares, hk] at hs
  | _ => rfl

/-- Without a connection that takes lines, the slot is closed or the reader waits for a write
to return. -/
theorem InOrder.closed_or_hanging {s : Session} (h : s.InOrder) (hoff : s.link.canSend = false) :
    s.link.slot.closed = true ∨ s.isHanging = true := by
  cases h.stands with
  | up hup =>
    rw [canSend_of_up hup] at hoff
    cases hoff
  | down hdown =>
    have hclosed : s.standing.closed = true := by rw [hdown]; rfl
    exact .inl hclosed
  | lost hlost =>
    have hclosed : s.standing.closed = true := by rw [hlost]; rfl
    exact .inl hclosed
  | broken _ hhang => exact .inr hhang

/-- A job with a line under way is cut off where the link takes no lines. -/
theorem InOrder.cutOff {s : Session} (h : s.InOrder) (hoff : s.link.canSend = false) {i : Nat}
    (hway : (s.job i).isUnderWay = true) : s.core.CutOff i := by
  unfold Job.isUnderWay at hway
  simp only [CutOff, core_job]
  cases hs : (s.job i).stage with
  | arming | sending | hanging => exact hoff
  | awaiting line =>
    rcases h.closed_or_hanging hoff with hclosed | hhang
    · exact hclosed
    · -- the job that hangs would hold the link beside the one that waits
      obtain ⟨k, hk⟩ := s.isHanging_iff.mp hhang
      obtain ⟨other, rest, hsk⟩ := Job.hanging_of_isHanging hk
      obtain rfl := h.core.owned.one i k (by simp [core_job, Job.holds, hs])
        (by simp [core_job, Job.holds, hsk])
      simp [hs] at hsk
  | failing | parked => trivial
  | deciding | crediting | releasing | retiring | gone => simp [hs] at hway

namespace InOrder

variable {s next last : Session} {i : Nat} {t : Turn}

/-- A write that is let go on a connection that has ended finds the slot closed. -/
theorem closed_letGoJob (h : s.InOrder) (hoff : s.link.canSend = false)
    (hhang : (s.job i).isHanging = true) : (s.letGoJob i).link.slot.closed = true := by
  rcases standing_letGoJob h.stands i with hsame | ⟨-, ⟨-, hup⟩ | ⟨signs, hdown⟩⟩
  · have := (isHanging_letGoJob (s := s) (i := i) (k := i) (by rw [hsame]; exact hhang)).2
    exact absurd rfl this
  · rw [canSend_of_up (by rw [hup]; rfl)] at hoff
    cases hoff
  · have hclosed : (s.letGoJob i).standing.closed = true := by rw [hdown]; rfl
    exact hclosed

/-- In every turn that does not start it, a job that was cut off stays so, and its cursor
where it is. No write of it begins to hang. -/
theorem cutOff_takes (h : s.InOrder) (hcut : s.core.CutOff i) (ht : s.TakesFairly t next)
    (hs : t.spares i = true) :
    next.core.CutOff i ∧ (next.job i).snapshot.cursor = (s.job i).snapshot.cursor ∧
      ((s.job i).isHanging = false → (next.job i).isHanging = false) := by
  cases hhang : (s.job i).isHanging with
  | false =>
    obtain ⟨acts, hpermits, hnext, hacts⟩ := ht.goes
    have hinvariant := hpermits.invariant (K := fun a => (t.causes a && !a.isMeddling) = true)
      (P := fun _ c => c.InOrder ∧ c.CutOff i ∧ (c.job i).isHanging = false ∧
        (c.job i).snapshot.cursor = (s.job i).snapshot.cursor)
      ⟨h.core, hcut, hhang, rfl⟩ ?_ hacts
    · rw [hnext] at hinvariant
      exact ⟨hinvariant.2.1, hinvariant.2.2.2, fun _ => hinvariant.2.2.1⟩
    rintro acts a - - ha hkind ⟨horder, hcut, hfree, hsame⟩
    have hmild := TakesFairly.not_meddling hkind
    obtain ⟨hcut', hfree', hcursor⟩ :=
      hcut.next horder ha hmild (TakesFairly.not_launches hs hkind) hfree
    exact ⟨horder.next ha hmild, hcut', hfree', hcursor.trans hsame⟩
  | true =>
    obtain ⟨line, rest, hstage⟩ := Job.hanging_of_isHanging hhang
    have hoff : s.link.canSend = false := by
      simp only [CutOff, core_job, hstage] at hcut
      exact hcut
    by_cases hletGo : t = .letGo i
    · subst hletGo
      cases ht.takes with
      | letGo =>
        -- a reader that waits has closed the slot by the time the write returns
        obtain ⟨result, hjob⟩ := job_letGoJob hstage
        have hclosed := h.closed_letGoJob hoff hhang
        refine ⟨?_, by rw [hjob, Job.snapshot_sent], by simp⟩
        simp only [CutOff, core_job, hjob]
        rcases (s.job i).stage_sent line result with hsent | ⟨_, _, hsent⟩
        · rw [hsent]
          exact hclosed
        · rw [hsent]
          trivial
    · have hopens : t.opens = false := by
        cases ht.takes with
        | opening _ hfree => rw [s.isHanging_iff.mpr ⟨i, hhang⟩] at hfree; cases hfree
        | _ => rfl
      have hopened : ∀ a, (t.causes a && !a.isMeddling) = true → a ≠ .opened := by
        rintro a ha rfl
        simp [Turn.causes, hopens] at ha
      have hstill : (next.job i).isHanging = true := ht.takes.isHanging hhang hletGo
      obtain ⟨other, left, hstage'⟩ := Job.hanging_of_isHanging hstill
      refine ⟨?_, ht.goes.cursor_of_hanging hopened hoff hstill, by simp⟩
      simp only [CutOff, core_job, hstage']
      exact (ht.goes.offline hopened hoff).1

/-- So it does in a run of such turns. -/
theorem cutOff_leads (h : s.InOrder) (hcut : s.core.CutOff i)
    (hleads : LeadsFairly (Turn.spares i) s last) :
    last.InOrder ∧ last.core.CutOff i ∧
      (last.job i).snapshot.cursor = (s.job i).snapshot.cursor ∧
      ((s.job i).isHanging = false → (last.job i).isHanging = false) := by
  refine hleads.invariant (P := fun last => last.InOrder ∧ last.core.CutOff i ∧
    (last.job i).snapshot.cursor = (s.job i).snapshot.cursor ∧
    ((s.job i).isHanging = false → (last.job i).isHanging = false)) ⟨h, hcut, rfl, id⟩ ?_
  rintro mid next t ht hs ⟨horder, hcut, hsame, hfree⟩
  obtain ⟨hcut', hcursor, hfree'⟩ := horder.cutOff_takes hcut ht hs
  exact ⟨horder.takes ht, hcut', hcursor.trans hsame, fun h => hfree' (hfree h)⟩

end InOrder

/-- The thread of a job that was cut off writes nothing. -/
theorem device_of_cutOff {s next : Session} {i : Nat} (hcut : s.core.CutOff i)
    (h : s.Takes (.job i) next) : next.device = s.device := by
  cases h with
  | job h =>
    cases advances_of_advance? h with
    | own => exact (adds_foldl_reportFromJob _ (s.setJob i _)).device
    | send hstage =>
      -- its line is given back, because the link takes none
      have hoff : s.link.canSend = false := by
        simp only [CutOff, core_job, hstage] at hcut
        exact hcut
      simp [writeLine, write, hoff, jobWritten, setJob, refuseWrite, log, emit, tell]
    | arm | take | release => rfl

/-! ### A job that fails by itself -/

open GcodeSender.Core (Doomed)

namespace InOrder

variable {s next : Session} {i : Nat} {t : Turn}

/-- One move brings such a job nearer to its failure, or to its end. -/
theorem doomed_advance? (h : s.InOrder) (hdoomed : s.core.Doomed i)
    (hmove : s.advance? i = some next) :
    (next.job i).snapshot.cursor = (s.job i).snapshot.cursor ∧
      (next.core.Doomed i ∨
        (next.job i).snapshot.state = .errored ∧ (next.job i).stage = .releasing) := by
  obtain ⟨hrun, hstands⟩ := hdoomed
  obtain ⟨r, hr⟩ := h.core.sound i
  simp only [core_job] at hrun hstands hr
  have hlt : i < s.jobs.length := lt_of_stage (by intro hs; simp [hs] at hstands)
  have hpaused : (s.job i).snapshot.state ≠ .paused := by simp [hrun]
  cases hs : (s.job i).stage with
  | hanging | crediting | releasing | retiring | gone => simp [hs] at hstands
  | deciding =>
    simp only [hs] at hstands
    obtain ⟨hleft, hoff⟩ := hstands
    -- below the total no line is missing
    obtain ⟨line, hline⟩ : ∃ line, (s.job i).lines[(s.job i).snapshot.cursor]? = some line :=
      ⟨_, List.getElem?_eq_getElem (by rw [← hr.total]; exact hleft)⟩
    have hm : (s.job i).move = .own { s.job i with stage := .arming line } [] := by
      simp [Job.move, hs, Job.Snapshot.decide, hrun, Nat.not_le.mpr hleft, hline]
    obtain rfl : s.setJob i { s.job i with stage := .arming line } = next := by
      simpa [advance?, hm] using hmove
    simp only [Doomed, core_job, job_setJob_self hlt]
    exact ⟨trivial, .inl ⟨hrun, hoff⟩⟩
  | arming line =>
    simp only [hs] at hstands
    have hm : (s.job i).move = .arm := by simp [Job.move, hs]
    obtain rfl : ({ s with link.slot := s.link.slot.arm } : Session).setJob i (s.job i).armed =
        next := by simpa [advance?, hm] using hmove
    have hjob := job_setJob_self (s := { s with link.slot := s.link.slot.arm }) hlt (s.job i).armed
    simp only [Doomed, core_job, hjob]
    simp only [Job.armed, hs]
    exact ⟨trivial, .inl ⟨hrun, hstands⟩⟩
  | sending line =>
    simp only [hs] at hstands
    have hm : (s.job i).move = .send line := by simp [Job.move, hs]
    obtain ⟨hresult, hcore⟩ := write_offline hstands .streamer (wireLine line) line true
    have hjobs := congrArg (fun c : Core => c.jobs.length) hcore
    have hlt' : i < (s.writeLine .streamer line).2.jobs.length := Nat.lt_of_lt_of_eq hlt hjobs.symm
    obtain rfl : (s.writeLine .streamer line).2.setJob i
        ((s.job i).sent line (.error .notConnected)) = next := by
      simpa [advance?, hm, writeLine, hresult, jobWritten] using hmove
    simp only [Doomed, core_job, job_setJob_self hlt']
    exact ⟨rfl, .inl ⟨hrun, trivial⟩⟩
  | awaiting line =>
    simp only [hs] at hstands
    have hm : (s.job i).move = .await := by simp [Job.move, hs]
    cases hcheck : s.link.slot.check? with
    | none => simp [advance?, hm, hcheck] at hmove
    | some ended =>
      obtain ⟨outcome, slot⟩ := ended
      obtain rfl : ({ s with link.slot := slot } : Session).setJob i ((s.job i).answered outcome) =
          next := by simpa [advance?, hm, hcheck] using hmove
      rcases h.core.closed_of_check? (i := i) hs hstands hcheck with rfl | ⟨-, hstopped⟩
      · have hjob := job_setJob_self (s := { s with link.slot := slot }) hlt
          ((s.job i).answered .closed)
        simp only [Doomed, core_job, hjob]
        exact ⟨rfl, .inl ⟨hrun, trivial⟩⟩
      · rw [core_job, hrun] at hstopped
        cases hstopped
  | failing kind message =>
    have hm : (s.job i).move = .own
        { s.job i with snapshot := (s.job i).snapshot.fail, stage := .releasing }
        (Job.failureNotes kind message) := by simp [Job.move, hs, hrun]
    obtain rfl : (Job.failureNotes kind message).foldl reportFromJob (s.setJob i
        { s.job i with snapshot := (s.job i).snapshot.fail, stage := .releasing }) = next := by
      simpa [advance?, hm] using hmove
    have hjob : ((Job.failureNotes kind message).foldl reportFromJob (s.setJob i
        { s.job i with snapshot := (s.job i).snapshot.fail, stage := .releasing })).job i =
        { s.job i with snapshot := (s.job i).snapshot.fail, stage := .releasing } :=
      job_setJob_self hlt _
    rw [hjob]
    exact ⟨Job.cursor_fail _, .inr ⟨by simp [Job.Snapshot.fail, hrun], rfl⟩⟩
  | parked =>
    have hm : (s.job i).move =
        .own { s.job i with snapshot := (s.job i).snapshot.fail, stage := .releasing } [] := by
      simp [Job.move, hs, hpaused]
    obtain rfl : s.setJob i
        { s.job i with snapshot := (s.job i).snapshot.fail, stage := .releasing } = next := by
      simpa [advance?, hm] using hmove
    rw [job_setJob_self hlt]
    exact ⟨Job.cursor_fail _, .inr ⟨by simp [Job.Snapshot.fail, hrun], rfl⟩⟩

/-- What the threads do beside it leaves such a job as it is. -/
theorem doomed_takes (h : s.InOrder) (hdoomed : s.core.Doomed i) (ht : s.TakesFairly t next)
    (hrun : t.isRunning = true) :
    (next.job i).snapshot.cursor = (s.job i).snapshot.cursor ∧
      (next.core.Doomed i ∨ (next.job i).snapshot.state = .errored ∧ next.Ended i) := by
  cases ht.takes with
  | @job k _ hmove =>
    by_cases hik : k = i
    · subst hik
      obtain ⟨hcursor, hdoomed' | ⟨herrored, hstage⟩⟩ := h.doomed_advance? hdoomed hmove
      · exact ⟨hcursor, .inl hdoomed'⟩
      · refine ⟨hcursor, .inr ⟨herrored, ?_, ?_⟩⟩
        · simp [Job.Obeys, hstage]
        · simp [Job.isActive_eq, herrored]
    · -- no other job is active, because this one holds the link
      have hactive : (s.core.job i).isActive = true := by
        simp [Job.isActive_eq, hdoomed.1]
      have hidle : (s.job k).isActive = false := by
        refine eq_false_of_ne_true fun hk => hik ?_
        exact h.core.owned.one k i (Job.holds_of_isWorking (h.core.owned.working k hk))
          (Job.holds_of_isWorking (h.core.owned.working i hactive))
      have hsame := job_advance?_of_ne hmove hik hidle
      have hopened : ∀ a, ((Turn.job k).causes a && !a.isMeddling) = true →
          a ≠ .opened ∧ a.isMeddling = false := by
        refine fun a ha => ⟨?_, TakesFairly.not_meddling ha⟩
        rintro rfl
        cases ha
      have honline := fun hoff => (ht.goes.offline (fun a ha => (hopened a ha).1) hoff).1
      have hclosed := ht.goes.closed hopened
      refine ⟨by rw [hsame], .inl ⟨by rw [core_job, hsame]; exact hdoomed.1, ?_⟩⟩
      have hstands := hdoomed.2
      simp only [core_job, hsame] at hstands ⊢
      cases hs : (s.job i).stage with
      | deciding =>
        simp only [hs] at hstands ⊢
        exact ⟨hstands.1, honline hstands.2⟩
      | arming | sending =>
        simp only [hs] at hstands ⊢
        exact honline hstands
      | awaiting =>
        simp only [hs] at hstands ⊢
        exact hclosed hstands
      | failing | parked => trivial
      | hanging | crediting | releasing | retiring | gone => simp [hs] at hstands
  | read hrest => exact absurd hrest hdoomed.not_atRest
  | idle =>
    have hcore := core_timeOut s
    refine ⟨by rw [← core_job, hcore, core_job], .inl ?_⟩
    rw [hcore]
    exact hdoomed
  | letGo | launch | spawn | abandon | refuse | pause | resume | stop | overdue | sendLine
  | sendRealtime | disconnect | opening | stay | listPorts | meddle | sends | device | arm =>
    cases hrun

/-- The threads bring such a job to its failure. -/
theorem doomed_settle (h : s.InOrder) (hdoomed : s.core.Doomed i) :
    (s.settle.job i).snapshot.state = .errored ∧
      (s.settle.job i).snapshot.cursor = (s.job i).snapshot.cursor := by
  have hrun : s.settle.InOrder ∧
      (s.settle.job i).snapshot.cursor = (s.job i).snapshot.cursor ∧
      (s.settle.core.Doomed i ∨ (s.settle.job i).snapshot.state = .errored ∧ s.settle.Ended i) := by
    refine (settle_leads s).fairly.invariant (P := fun last => last.InOrder ∧
      (last.job i).snapshot.cursor = (s.job i).snapshot.cursor ∧
      (last.core.Doomed i ∨ (last.job i).snapshot.state = .errored ∧ last.Ended i))
      ⟨h, rfl, .inl hdoomed⟩ ?_
    -- a turn leaves the failure to come or brings it, and once it has come the job has ended
    rintro mid next t ht hrun ⟨horder, hsame, hdoomed | ⟨herrored, hended⟩⟩
    · obtain ⟨hcursor, hnext⟩ := horder.doomed_takes hdoomed ht hrun
      exact ⟨horder.takes ht, hcursor.trans hsame, hnext⟩
    · have hspares : t.spares i = true := by
        cases t with
        | launch => cases hrun
        | _ => rfl
      obtain ⟨hended', hsnapshot⟩ := hended.takes ht.takes hspares
      rw [hsnapshot]
      exact ⟨horder.takes ht, hsame, .inr ⟨herrored, hended'⟩⟩
  obtain ⟨-, hcursor, hdoomed' | ⟨herrored, -⟩⟩ := hrun
  · exact absurd (settle_goes h.core.sound).2 hdoomed'.not_atRest
  · exact ⟨herrored, hcursor⟩

/-- A paused job that is resumed where its thread knows of a failure, or where there is no
connection for the lines that are left, is halted. -/
theorem perform_resume (h : s.InOrder) (hrest : s.core.AtRest)
    (hpaused : (s.job i).snapshot.state = .paused)
    (hstands : (s.job i).stage = .parked ∨ (s.job i).stage = .deciding ∧
      (s.job i).snapshot.cursor < (s.job i).snapshot.total ∧ s.link.canSend = false) :
    ((s.perform (.resume i)).2.job i).snapshot.state = .errored ∧
      ((s.perform (.resume i)).2.job i).snapshot.cursor = (s.job i).snapshot.cursor := by
  have hlt : i < s.jobs.length :=
    lt_of_stage (by rcases hstands with hs | ⟨hs, -⟩ <;> simp [hs])
  have hresumed := h.takes (TakesFairly.resume hrest i)
  have hcore : (s.resume .caller i).core = (s.setJob i
      { s.job i with snapshot := { (s.job i).snapshot with state := .running } }).core := by
    simp only [resume, Job.resume_of_paused hpaused]
    exact core_tellAll _ _ (announce_quiet _ (by decide))
  have hjob : (s.resume .caller i).job i =
      { s.job i with snapshot := { (s.job i).snapshot with state := .running } } := by
    rw [← core_job, hcore, core_job, job_setJob_self hlt]
  -- resumed, the job is running where it can only fail
  have hdoomed : (s.resume .caller i).core.Doomed i := by
    simp only [Doomed, core_job, hjob]
    refine ⟨trivial, ?_⟩
    rcases hstands with hs | ⟨hs, hleft, hoff⟩
    · simp only [hs]
    · simp only [hs, hcore]
      exact ⟨hleft, hoff⟩
  obtain ⟨herrored, hcursor⟩ := hresumed.doomed_settle hdoomed
  rw [hjob] at hcursor
  rw [show (s.perform (.resume i)).2 = (s.resume .caller i).settle from rfl]
  exact ⟨herrored, hcursor⟩

/-- A job that is paused, and hangs in no write, is stopped by a call to stop it. -/
theorem perform_stop_of_paused (h : s.InOrder) (hrest : s.core.AtRest)
    (hpaused : (s.job i).snapshot.state = .paused) (hfree : (s.job i).isHanging = false) :
    ((s.perform (.stop i)).2.job i).snapshot = { (s.job i).snapshot with state := .stopped } := by
  have hactive : (s.job i).isActive = true := by
    simp [Job.isActive_eq, hpaused]
  exact ((perform_stop ⟨hrest, h.core.sound⟩ hactive).2 hfree).snapshot

end InOrder

/-- A job ends with its connection. Let a link take no lines, wherever fair turns have led it,
while a job with lines left is running or paused.

* If a line of the job is on its way, then until the job is started again, whatever turns
  follow and whatever is connected: the job is never finished, its cursor stays where it is,
  and its thread writes nothing; a write of it that hangs is one on the connection that has
  ended, because as long as it hangs there is no other. At rest, the job hangs in that write,
  or is errored or stopped, or is paused; and then it is errored once it is resumed, and
  stopped once it is stopped.
* At rest, a job without a line on its way is paused between two lines. As long as nobody
  resumes or stops it, it stays as it is; it is errored once it is resumed where the link
  still takes no lines, and stopped once it is stopped.

Steps by which nobody meddles with the calls for jobs are fair turns. -/
theorem job_ends_with_connection {s cut : Session} (hnew : s.IsNew)
    (hleads : LeadsFairly (fun _ => true) s cut) (hoff : cut.link.canSend = false) {i : Nat}
    (hactive : (cut.job i).isActive = true)
    (hleft : (cut.job i).snapshot.cursor < (cut.job i).snapshot.total) :
    ((cut.job i).isUnderWay = true → ∀ last, LeadsFairly (Turn.spares i) cut last →
      (last.job i).snapshot.state ≠ .finished ∧
      (last.job i).snapshot.cursor = (cut.job i).snapshot.cursor ∧
      (∀ next, last.Takes (.job i) next → next.device = last.device) ∧
      ((last.job i).isHanging = true → last.link.state.isConnected = false) ∧
      (last.core.AtRest → (last.job i).isHanging = false →
        (last.job i).snapshot.state = .errored ∨ (last.job i).snapshot.state = .stopped ∨
        (last.job i).snapshot.state = .paused ∧
          ((last.perform (.resume i)).2.job i).snapshot.state = .errored ∧
          ((last.perform (.stop i)).2.job i).snapshot.state = .stopped)) ∧
    (cut.core.AtRest → (cut.job i).isUnderWay = false →
      (cut.job i).snapshot.state = .paused ∧
      ∀ last, LeadsFairly (Turn.spares i) cut last → last.core.AtRest →
        last.job i = cut.job i →
        (last.link.canSend = false →
          ((last.perform (.resume i)).2.job i).snapshot.state = .errored) ∧
        ((last.perform (.stop i)).2.job i).snapshot.state = .stopped) ∧
    ∀ steps, cut.core.AtRest → cut.Undisturbed steps →
      (∀ step ∈ steps, step.starts i = false) →
      LeadsFairly (Turn.spares i) cut (cut.after steps) := by
  have horder : cut.InOrder := hleads.inOrder hnew.inOrder
  refine ⟨fun hway last hlast => ?_, fun hrest hway => ?_, fun steps hrest hsteps hspares => ?_⟩
  · obtain ⟨hlastOrder, hcut, hcursor, -⟩ :=
      horder.cutOff_leads (horder.cutOff hoff hway) hlast
    refine ⟨hcut.not_finished hlastOrder.core, hcursor, fun next => device_of_cutOff hcut,
      fun hhang => ?_, fun hrest hfree => ?_⟩
    · obtain ⟨line, rest, hs⟩ := Job.hanging_of_isHanging hhang
      have hlastOff : last.link.canSend = false := by
        simp only [CutOff, core_job, hs] at hcut
        exact hcut
      -- where a write hangs, a link that is connected takes lines
      refine eq_false_of_ne_true fun hconnected => ?_
      rw [canSend_of_up (up_of_connected hlastOrder.stands hconnected)] at hlastOff
      cases hlastOff
    · rcases hcut.rest_cases hrest with hhang | ⟨hs, hp⟩ | hended
      · rw [core_job, hfree] at hhang
        cases hhang
      · exact .inr (.inr ⟨hp, (hlastOrder.perform_resume hrest hp (.inl hs)).1, by
          rw [hlastOrder.perform_stop_of_paused hrest hp hfree]⟩)
      · exact hended.imp_right .inl
  · -- at rest, only the operator can hold up a thread that has no line on its way
    have hbetween : (cut.job i).stage = .deciding ∧ (cut.job i).snapshot.state = .paused := by
      have hwork := horder.core.owned.working i hactive
      rcases Job.isStill_cases (Job.isStill_of_rests (hrest.job i)) with
        hs | hs | ⟨line, rest, hs⟩ | ⟨line, hs⟩ | ⟨hs, -⟩
      · simp [Job.isWorking, hs] at hwork
      · exact hs
      · rw [core_job] at hs
        simp [Job.isUnderWay, hs] at hway
      · rw [core_job] at hs
        simp [Job.isUnderWay, hs] at hway
      · rw [core_job] at hs
        simp [Job.isUnderWay, hs] at hway
    obtain ⟨hs, hp⟩ := hbetween
    refine ⟨hp, fun last hlast hlastRest hsame => ⟨fun hlastOff => ?_, ?_⟩⟩
    · have hlastOrder := hlast.inOrder horder
      refine (hlastOrder.perform_resume hlastRest (by rw [hsame, hp]) (.inr ?_)).1
      rw [hsame]
      exact ⟨hs, hleft, hlastOff⟩
    · rw [(hlast.inOrder horder).perform_stop_of_paused hlastRest (by rw [hsame, hp])
        (by simp [hsame, Job.isHanging, hs])]
  · exact after_leads_fairly ⟨hrest, horder.core.sound⟩ horder.stands hsteps
      fun step hstep => Step.spares_of_turns (hspares step hstep)

/-- A job waits for the answer to its first line, and is paused. -/
def pausedWaiting : List Step :=
  [.connect "COM3" 9600, .start 0 "part" ⟨["G0", "G1"]⟩, .pause 0]

/-- The stream ends while a paused job waits for an answer. On the next connection the job is
resumed, and halted. -/
theorem job_ends_with_connection_whilePaused :
    ((((({} : Session).after (pausedWaiting ++ [.deviceSends [.ending]])).after
      [.connect "COM3" 9600]).perform (.resume 0)).2.job 0).snapshot.state = .errored := by
  have hnew : ({} : Session).IsNew := ⟨rfl, by decide⟩
  have hleads := after_leads_fairly (K := fun _ => true) hnew.calm hnew.stands
    (show ({} : Session).Undisturbed (pausedWaiting ++ [.deviceSends [.ending]]) by decide)
    fun _ _ _ _ => rfl
  obtain ⟨hcut, -, hsteps⟩ := job_ends_with_connection hnew hleads (by decide +kernel) (i := 0)
    (by decide +kernel) (by decide +kernel)
  have hlast := hsteps [.connect "COM3" 9600] (by decide +kernel) (by decide +kernel)
    (by decide)
  obtain ⟨-, -, -, -, hrest⟩ := hcut (by decide +kernel) _ hlast
  rcases hrest (by decide +kernel) (by decide +kernel) with hs | hs | ⟨-, herrored, -⟩
  · exact absurd hs (by decide +kernel)
  · exact absurd hs (by decide +kernel)
  · exact herrored

/-- A job is paused, and its line is answered; so it stands between two lines. The operator
disconnects and connects again. -/
def pausedBetween : List Step :=
  pausedWaiting ++ [.deviceSends [.bytes [111, 107, 10]], .disconnect, .connect "COM3" 9600]

/-- Resumed on the second connection, the job writes its second line there, and is finished
when that is answered. -/
theorem pausedBetween_outlives_connection :
    ({} : Session).Undisturbed pausedBetween ∧
      ((({} : Session).after (pausedBetween.take 5)).link.canSend = false ∧
        ((({} : Session).after (pausedBetween.take 5)).job 0).snapshot.state = .paused ∧
        ((({} : Session).after (pausedBetween.take 5)).job 0).snapshot.cursor = 1 ∧
        ((({} : Session).after (pausedBetween.take 5)).job 0).snapshot.total = 2) ∧
      (({} : Session).after pausedBetween).device.lines = [[71, 48]] ∧
      (({} : Session).after (pausedBetween ++ [.resume 0])).device.lines = [[71, 48], [71, 49]] ∧
      ((({} : Session).after (pausedBetween ++ [.resume 0,
        .deviceSends [.bytes [111, 107, 10]]])).job 0).snapshot.state = .finished := by
  refine ⟨by decide, ⟨?_, ?_, ?_, ?_⟩, ?_, ?_, ?_⟩ <;> decide +kernel

end Session

end GcodeSender
