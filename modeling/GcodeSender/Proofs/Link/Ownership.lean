import GcodeSender.Proofs.Command.Reached
import GcodeSender.Proofs.Link.Slot

/-!
# `GcodeSender.Proofs.Link.Ownership`: one job at a time

The link is taken for a job by a flag of its own, a stop calls off waits by a flag of
the slot, and whether a job runs is in the job's snapshot. That these agree is the
invariant `Core.Owned`:

* at most one job holds the link, and the claim is set just while one does;
* a running or paused job has a thread that still works;
* waits are called off only while no job is running or paused.

`Owned.next` is the step, for every act but those by which someone else meddles with
the link's calls for jobs. `exclusive_ownership` says what follows for sessions.
-/

set_option autoImplicit false

namespace GcodeSender

namespace Job

/-- The job's thread has taken the link and has not given it back. -/
def holds (j : Job) : Bool :=
  match j.stage with
  | .retiring | .gone => false
  | _ => true

/-- A thread that works holds the link. -/
theorem holds_of_isWorking {j : Job} (h : j.isWorking = true) : j.holds = true := by
  cases hs : j.stage <;> simp_all [isWorking, holds]

/-- A job whose thread is at rest holds the link while it has a thread. -/
theorem isAlive_of_rests {j : Job} {slot : Link.Slot} (h : j.rests slot = true) :
    j.isAlive = j.holds := by
  rcases isStill_cases (isStill_of_rests h) with h | ⟨h, -⟩ | ⟨_, _, h⟩ | ⟨_, h⟩ | ⟨h, -⟩ <;>
    simp [isAlive, holds, h]

end Job

namespace Act

/-- The job gives the link back, or it is given back for it. -/
def releases : Act → Bool
  | .released _ | .abandoned _ => true
  | _ => false

/-- A job is started. -/
def isLaunch : Act → Bool
  | .launched _ _ _ => true
  | _ => false

variable {a : Act} {j : Job}

/-- What happens to a job, unless it is started, leaves the link in its hands or out of
them, until it gives it back. -/
theorem holds_onJob (hfit : a.Fits j) (hlaunch : a.isLaunch = false) :
    (a.onJob j).holds = (j.holds && !a.releases) := by
  cases a with
  | opened | dropped | closed | broke | heard | noted | signalled | withheld | meddled =>
    simp [onJob, releases]
  | launched => cases hlaunch
  | abandoned i => simp [onJob, releases, Job.abandoned, Job.holds]
  | paused i => simp [onJob, releases, Job.pause_of_running hfit, Job.holds]
  | resumed i => simp [onJob, releases, Job.resume_of_paused hfit.1, Job.holds]
  | stopped i => simp [onJob, releases, Job.requestStop_of_active hfit.1, Job.holds]
  | armed i line =>
    replace hfit : j.stage = .arming line := hfit
    simp [onJob, releases, Job.armed, Job.holds, hfit]
  | wrote i line rest => simp [onJob, releases, Job.holds, hfit.1]
  | yielded i line rest =>
    replace hfit : j.stage = .hanging line rest := hfit
    simp [onJob, releases, Job.holds, hfit]
  | refused i line =>
    replace hfit : j.stage = .sending line := hfit
    simp [onJob, releases, Job.sent, Job.holds, hfit]
  | returned i line failure =>
    obtain ⟨rest, hs⟩ := Job.hanging_of_writing? hfit.writing?
    cases failure <;> simp [onJob, releases, Job.sent, Job.holds, hs]
  | took i line outcome =>
    replace hfit : j.stage = .awaiting line := hfit
    cases outcome with
    | answer ans =>
      -- a thread that took its answer goes on to count the line, or to fail
      simp only [onJob, Job.answered]
      split <;> simp [releases, Job.holds, hfit]
    | closed | cancelled => simp [onJob, Job.answered, releases, Job.holds, hfit]
  | moved i p =>
    -- of the moves of a thread none takes the link, and the last ones come after the release
    obtain ⟨next, hnext, hsteps⟩ := Job.steps_of_moved hfit
    rw [hnext]
    cases hsteps <;> simp_all [releases, Job.holds]
  | released i =>
    replace hfit : j.stage = .releasing := hfit
    simp [onJob, releases, Job.released, Job.holds]

/-- Nothing but its start makes a job active. -/
theorem isActive_of_onJob (hfit : a.Fits j) (hlaunch : a.isLaunch = false)
    (h : (a.onJob j).isActive = true) : j.isActive = true := by
  cases a with
  | opened | dropped | closed | broke | heard | noted | signalled | withheld | meddled => exact h
  | launched => cases hlaunch
  | abandoned => cases h
  | paused i =>
    replace hfit : j.snapshot.state = .running := hfit
    simp [Job.isActive_eq, hfit]
  | resumed i => simp [Job.isActive_eq, hfit.1]
  | stopped i => exact hfit.1
  | armed i line =>
    replace hfit : j.stage = .arming line := hfit
    simpa [onJob, Job.armed, hfit, Job.isActive] using h
  | wrote | yielded | refused | released => exact h
  | returned i line failure => cases failure <;> exact h
  | took i line outcome =>
    cases outcome with
    | answer ans =>
      simp only [onJob, Job.answered] at h
      split at h <;> exact h
    | closed | cancelled => exact h
  | moved i p =>
    obtain ⟨next, hnext, hsteps⟩ := Job.steps_of_moved hfit
    -- a failure ends a running job, and no other
    have hfail : j.snapshot.fail.isActive = true → j.isActive = true := by
      unfold Job.Snapshot.fail
      split
      · intro hf; cases hf
      · exact id
    rw [hnext] at h
    cases hsteps with
    | finish => cases h
    | fail | wake => exact hfail h
    | count hs ha => exact ha
    | _ => exact h

/-- The thread of an active job works on, unless its wait is called off. -/
theorem isWorking_onJob (htotal : j.snapshot.total = j.lines.length) (hfit : a.Fits j)
    (hwork : j.isActive = true → j.isWorking = true)
    (hcancel : ∀ i line, a = .took i line .cancelled → j.isActive = false)
    (h : (a.onJob j).isActive = true) : (a.onJob j).isWorking = true := by
  cases a with
  | opened | dropped | closed | broke | heard | noted | signalled | withheld | meddled =>
    exact hwork h
  | launched | wrote | yielded | refused => rfl
  | abandoned => cases h
  | paused i =>
    have hactive := isActive_of_onJob hfit rfl h
    simpa [onJob, Job.pause_of_running hfit, Job.isWorking] using hwork hactive
  | resumed i =>
    have hactive := isActive_of_onJob hfit rfl h
    simpa [onJob, Job.resume_of_paused hfit.1, Job.isWorking] using hwork hactive
  | stopped i =>
    simp only [onJob, Job.requestStop_of_active hfit.1] at h
    cases h
  | armed i line =>
    replace hfit : j.stage = .arming line := hfit
    simp [onJob, Job.armed, hfit, Job.isWorking]
  | returned i line failure => cases failure <;> rfl
  | took i line outcome =>
    cases outcome with
    | answer ans =>
      simp only [onJob, Job.answered]
      split <;> rfl
    | closed => rfl
    | cancelled =>
      have hactive := isActive_of_onJob hfit rfl h
      simp [hcancel i line rfl] at hactive
  | moved i p =>
    have hactive := isActive_of_onJob hfit rfl h
    have hworking := hwork hactive
    obtain ⟨next, hnext, hsteps⟩ := Job.steps_of_moved hfit
    have hfail : j.snapshot.state ≠ .paused → j.snapshot.fail.isActive = false := by
      intro hp
      unfold Job.Snapshot.fail
      split
      · rfl
      · rename_i hr
        cases hs : j.snapshot.state <;> simp_all [Job.Snapshot.isActive, Job.RunState.isActive]
    rw [hnext] at h ⊢
    cases hsteps with
    | choose | count | park => rfl
    | finish => cases h
    | leave hs hr hp =>
      exfalso
      cases hs : j.snapshot.state <;>
        simp_all [Job.isActive_eq]
    | lack hs hc hl =>
      -- below the total, no line is missing
      rw [htotal] at hc
      simp [hc] at hl
    | forgo hs ha => simp [ha] at hactive
    | fail kind message hs hp | wake hs hp => simp [Job.isActive, hfail hp] at h
    | retire hs => simp [Job.isWorking, hs] at hworking
  | released i =>
    replace hfit : j.stage = .releasing := hfit
    have hworking := hwork h
    simp [Job.isWorking, hfit] at hworking

end Act

namespace Core

/-- Who owns the link, as the claim, the slot and the jobs have it. -/
structure Owned (c : Core) : Prop where
  /-- At most one job holds the link. -/
  one : ∀ i k, (c.job i).holds = true → (c.job k).holds = true → i = k
  /-- The claim is set just while a job holds the link. -/
  claimed : c.claimed = true ↔ ∃ i, (c.job i).holds = true
  /-- A running or paused job has a thread that works. -/
  working : ∀ i, (c.job i).isActive = true → (c.job i).isWorking = true
  /-- Waits are called off only while no job is running or paused. -/
  cancelled : c.slot.cancelled = true → ∀ i, (c.job i).isActive = false

/-- Where a link that takes lines has an open slot, this is so after every act but meddling. -/
theorem open_next {c : Core} {a : Act} (h : c.online = true → c.slot.closed = false)
    (ha : a.Possible c) (hmild : a.isMeddling = false) (hon : (c.next a).online = true) :
    (c.next a).slot.closed = false := by
  cases a with
  | opened => rfl
  | dropped | closed | broke => cases hon
  | heard answer => exact (c.slot.offer_cases answer).2.2.2.1.trans (h hon)
  | took k line outcome =>
    obtain ⟨⟨_, slot⟩, hcheck, -⟩ := Option.map_eq_some_iff.mp ha.1
    have hslot : (c.next (.took k line outcome)).slot = slot := by
      simp [next, Act.onSlot, hcheck]
    rw [hslot, (Link.Slot.check?_cases hcheck).1]
    exact h hon
  | meddled => cases hmild
  | _ => exact h hon

namespace Owned

variable {c : Core} {a : Act}

/-- Only a stop calls off waits, and only a start allows them again. -/
theorem cancelled_next (c : Core) (a : Act) (hmeddle : a.isMeddling = false)
    (h : (c.next a).slot.cancelled = true) :
    a.isLaunch = false ∧ ((∃ i, a = .stopped i) ∨ c.slot.cancelled = true) := by
  -- an answer and a wait that ends leave the flag as it is
  cases a with
  | launched => cases h
  | meddled => cases hmeddle
  | stopped i => exact ⟨rfl, .inl ⟨i, rfl⟩⟩
  | heard line =>
    exact ⟨rfl, .inr ((c.slot.offer_cases line).2.2.1 ▸ h)⟩
  | took i line outcome =>
    refine ⟨rfl, .inr ?_⟩
    simp only [Core.next, Act.onSlot] at h
    cases hc : c.slot.check? with
    | none => simpa [hc] using h
    | some taken => simpa [hc, (Link.Slot.check?_cases hc).1] using h
  | _ => exact ⟨rfl, .inr h⟩

/-- A start makes its job the one that holds the link. -/
theorem launch (h : c.Owned) {i : Nat} {name : String} {p : Program}
    (ha : Act.Possible c (.launched i name p)) : (c.next (.launched i name p)).Owned := by
  -- the claim was free, so no job held the link
  have hfree : ∀ k, (c.job k).holds = false := by
    intro k
    cases hk : (c.job k).holds with
    | false => rfl
    | true => simpa [ha.1.2.2] using h.claimed.mpr ⟨k, hk⟩
  have hjob : ∀ k, ((c.next (.launched i name p)).job k).holds = true → i = k := by
    intro k hk
    by_cases hik : i = k
    · exact hik
    · have hne : Act.job? (.launched i name p) ≠ some k := by simpa [Act.job?] using hik
      rw [next_job_of_ne hne, hfree k] at hk
      cases hk
  have hself : (c.next (.launched i name p)).job i = Job.launch name p := next_job_self ha rfl
  exact {
    one := fun k l hk hl => (hjob k hk).symm.trans (hjob l hl)
    claimed := ⟨fun _ => ⟨i, by rw [hself]; rfl⟩, fun _ => rfl⟩
    working := by
      intro k hk
      by_cases hik : i = k
      · rw [← hik, hself]
        rfl
      · have hne : Act.job? (.launched i name p) ≠ some k := by simpa [Act.job?] using hik
        rw [next_job_of_ne hne] at hk ⊢
        exact h.working k hk
    cancelled := by
      intro hcancel
      cases hcancel }

/-- A stop ends the one job that is running or paused. -/
theorem stop (h : c.Owned) {i : Nat} (ha : Act.Possible c (.stopped i)) (k : Nat) :
    ((c.next (.stopped i)).job k).isActive = false := by
  have hactive : (c.job i).isActive = true := (ha.2 i rfl).1
  have hholds := Job.holds_of_isWorking (h.working i hactive)
  by_cases hik : i = k
  · rw [← hik, next_job_self ha rfl, Act.onJob, Job.requestStop_of_active hactive]
    rfl
  · rw [next_job_of_ne (show Act.job? (.stopped i) ≠ some k by simpa [Act.job?] using hik)]
    cases hk : (c.job k).isActive with
    | false => rfl
    | true => exact absurd (h.one i k hholds (Job.holds_of_isWorking (h.working k hk))) hik

/-- A wait is called off only by the slot's own flag. -/
theorem cancelled_of_check? {slot : Link.Slot}
    (h : slot.check?.map (·.1) = some Link.Outcome.cancelled) : slot.cancelled = true := by
  obtain ⟨⟨outcome, after⟩, hcheck, rfl⟩ := Option.map_eq_some_iff.mp h
  exact (Link.Slot.check?_cases hcheck).2.1

/-- Until it is given back, the link stays in the hands that it is in. -/
theorem holds_next (ha : a.Possible c) (hlaunch : a.isLaunch = false) (k : Nat) :
    ((c.next a).job k).holds = ((c.job k).holds && !(a.releases && a.job? == some k)) := by
  rw [next_job ha k]
  split
  · rename_i hk
    rw [Act.holds_onJob (ha.2 k hk) hlaunch, hk]
    simp
  · rename_i hk
    have hne : (a.job? == some k) = false := by simpa using hk
    simp [hne]

/-- Only a start makes a job active. -/
theorem isActive_of_next (ha : a.Possible c) (hlaunch : a.isLaunch = false) {k : Nat}
    (h : ((c.next a).job k).isActive = true) : (c.job k).isActive = true := by
  rw [next_job ha k] at h
  split at h
  · exact Act.isActive_of_onJob (ha.2 k ‹_›) hlaunch h
  · exact h

/-- The claim is set just while a job holds the link, also after a release. -/
theorem claimed_next (h : c.Owned) (ha : a.Possible c) (hmeddle : a.isMeddling = false)
    (hlaunch : a.isLaunch = false) :
    (c.next a).claimed = true ↔ ∃ k, ((c.next a).job k).holds = true := by
  by_cases hrelease : a.releases = true
  · -- the job for which the link is given back was the only one that held it
    have hgiven : (c.next a).claimed = false ∧ ∃ i, a.job? = some i ∧ (c.job i).holds = true := by
      cases a with
      | released i =>
        have hstage : (c.job i).stage = .releasing := ha.2 i rfl
        exact ⟨rfl, i, rfl, by simp [Job.holds, hstage]⟩
      | abandoned i =>
        have hstage : (c.job i).stage = .deciding := (ha.2 i rfl).1
        exact ⟨rfl, i, rfl, by simp [Job.holds, hstage]⟩
      | _ => cases hrelease
    obtain ⟨hfree, i, hi, hholds⟩ := hgiven
    refine ⟨fun hclaim => (by rw [hfree] at hclaim; cases hclaim), ?_⟩
    rintro ⟨k, hk⟩
    rw [holds_next ha hlaunch k, hi] at hk
    obtain ⟨hbefore, hother⟩ : (c.job k).holds = true ∧ i ≠ k := by
      simpa [hrelease] using hk
    exact absurd (h.one i k hholds hbefore) hother
  · have hsame : (c.next a).claimed = c.claimed := by
      cases a with
      | launched => cases hlaunch
      | released | abandoned => exact absurd rfl hrelease
      | meddled => cases hmeddle
      | _ => rfl
    have hholds : ∀ k, ((c.next a).job k).holds = (c.job k).holds := by
      intro k
      simp [holds_next ha hlaunch k, eq_false_of_ne_true hrelease]
    simp only [hsame, hholds]
    exact h.claimed

/-- Every act but meddling keeps who owns the link in order. -/
theorem next (h : c.Owned) (hs : c.Sound) (ha : a.Possible c)
    (hmeddle : a.isMeddling = false) : (c.next a).Owned := by
  by_cases hlaunch : a.isLaunch = true
  · cases a with
    | launched i name p => exact h.launch ha
    | _ => cases hlaunch
  · replace hlaunch : a.isLaunch = false := eq_false_of_ne_true hlaunch
    -- without a launch nobody comes to hold the link who did not before
    have hbefore : ∀ k, ((c.next a).job k).holds = true → (c.job k).holds = true := by
      intro k hk
      rw [holds_next ha hlaunch k, Bool.and_eq_true] at hk
      exact hk.1
    exact {
      one := fun i k hi hk => h.one i k (hbefore i hi) (hbefore k hk)
      claimed := h.claimed_next ha hmeddle hlaunch
      working := by
        intro k hk
        obtain ⟨r, hr⟩ := hs k
        rw [next_job ha k] at hk ⊢
        split at hk
        · rename_i hjob
          simp only [hjob, if_true]
          refine Act.isWorking_onJob hr.total (ha.2 k hjob) (h.working k) ?_ hk
          -- a thread that found its wait called off was stopped before
          rintro i line rfl
          exact h.cancelled (cancelled_of_check? ha.1) k
        · rename_i hjob
          simp only [hjob, if_false]
          exact h.working k hk
      cancelled := by
        intro hcancel k
        rcases (cancelled_next c a hmeddle hcancel).2 with ⟨i, rfl⟩ | hcancel
        · exact h.stop ha k
        -- what was called off before stays so, while no job is active
        · cases hk : ((c.next a).job k).isActive with
          | false => rfl
          | true => simpa [h.cancelled hcancel k] using isActive_of_next ha hlaunch hk }

end Owned

/-- A new link is free. -/
theorem IsNew.owned {c : Core} (h : c.IsNew) : c.Owned where
  one i k hi := by
    rw [h.job i] at hi
    cases hi
  claimed := by
    simp [h.claimed, h.job, Job.holds]
  working i hi := by
    rw [h.job i] at hi
    cases hi
  cancelled _ i := by
    rw [h.job i]
    rfl

/-- Who owns the link stays in order over all acts. -/
theorem Permits.owned {c : Core} {acts : List Act} (h : c.Permits acts) (hnew : c.IsNew)
    (hmeddle : ∀ a ∈ acts, a.isMeddling = false) : (c.after acts).Owned := by
  refine h.invariant (P := fun _ c => c.Owned) hnew.owned ?_ hmeddle
  intro acts a hacts _ ha hmild howned
  exact howned.next (hacts.sound hnew.sound) ha hmild

end Core

/-! ### A link that is taken by nobody but jobs -/

/-- While the link is taken, a job holds it. -/
def Core.IsHeld (c : Core) : Prop := c.claimed = true → ∃ i, (c.job i).holds = true

/-- As long as nobody meddles, the link is held by the thread that has taken it. -/
theorem Core.IsHeld.next {c : Core} (h : c.IsHeld) {a : Act} (ha : a.Possible c)
    (hmild : a.isMeddling = false) : (c.next a).IsHeld := by
  intro hclaimed
  cases hlaunch : a.isLaunch with
  | true =>
    cases a with
    | launched i name program =>
      refine ⟨i, ?_⟩
      rw [next_job_self ha rfl]
      rfl
    | _ => cases hlaunch
  | false =>
    -- only a release takes the link out of hands, and then it is not taken any more
    have hrelease : a.releases = false ∧ c.claimed = true := by
      cases a with
      | launched => cases hlaunch
      | meddled => cases hmild
      | released | abandoned => cases hclaimed
      | _ => exact ⟨rfl, hclaimed⟩
    obtain ⟨i, hi⟩ := h hrelease.2
    refine ⟨i, ?_⟩
    rw [Owned.holds_next ha hlaunch, hi, hrelease.1]
    rfl

/-- So it is through any such acts. -/
theorem Core.Goes.held {c c' : Core} (h : Core.Goes (fun a => !a.isMeddling) c c')
    (hc : c.IsHeld) : c'.IsHeld := by
  obtain ⟨acts, hp, rfl, hmild⟩ := h
  exact hp.invariant (K := fun a => (!a.isMeddling) = true) (P := fun _ c => c.IsHeld) hc
    (fun _ _ _ _ ha hmild hc => hc.next ha (by simpa using hmild)) hmild

/-! ### Sessions and commands -/

/-- Undisturbed, who owns the link is in order after every step. -/
theorem Session.owned_after {s : Session} (hnew : s.IsNew) {steps : List Session.Step}
    (hsteps : s.Undisturbed steps) : (s.after steps).core.Owned := by
  obtain ⟨h, rfl, hh⟩ := Session.exists_history hnew.calm steps
  rw [← hh.core_after]
  exact hh.permits.owned hnew.core fun a ha => hh.not_meddling hsteps ha

namespace Session

/-- In a session of `n` jobs, the step takes the link, and not for a job. -/
def Step.claims (n : Nat) : Step → Bool
  | .claim => true
  | .start i _ _ => n ≤ i
  | _ => false

/-- Calls for jobs that others make may disturb the slot, but they leave the link in the hands that
it is in, or free it. -/
theorem held_perform {s : Session} (h : s.core.Calm) (hs : s.core.IsHeld) {step : Step}
    (hstep : step.claims s.jobs.length = false) : (s.perform step).2.core.IsHeld := by
  have hact : (s.act step).2.core.IsHeld := by
    cases hmeddles : step.meddles s.jobs.length with
    | false =>
      refine ((act_goes s step h).mono fun a ha => ?_).held hs
      rw [Step.not_meddling hmeddles ha]
      rfl
    | true =>
      cases step with
      | expect | cancelResponse => exact hs
      | takeResponse =>
        simp only [act]
        split <;> exact hs
      | release => exact fun hclaimed => by cases hclaimed
      | claim => cases hstep
      | start i name program =>
        -- only a start of a job that does not exist meddles, and it may claim the link
        have hi : s.jobs.length ≤ i := by simpa [Step.meddles] using hmeddles
        simp [Step.claims, hi] at hstep
      | _ => cases hmeddles
  unfold perform
  split
  · exact hs
  · have hsettle := (settle_goes ((act_goes s step h).sound h.sound)).1
    exact (hsettle.mono fun _ => Act.not_meddling_of_isRunning).held hact

/-- And so it is after any steps that do not take it from outside. -/
theorem held_after {s : Session} (h : s.core.Calm) (hs : s.core.IsHeld) {steps : List Step}
    (hsteps : ∀ step ∈ steps, step.claims s.jobs.length = false) :
    (s.after steps).core.IsHeld := by
  induction steps generalizing s with
  | nil => exact hs
  | cons step steps ih =>
    refine ih (perform_goes s step h).2 (held_perform h hs (hsteps step (by simp))) ?_
    intro other hother
    rw [length_jobs_perform h]
    exact hsteps other (List.mem_cons_of_mem _ hother)

end Session

/-- A wait that is called off belongs to a job that was stopped. -/
theorem Core.Permits.stopped_of_cancelled {c : Core} {before later : List Act} {i : Nat}
    {line : String} (h : c.Permits (before ++ .took i line .cancelled :: later))
    (hnew : c.IsNew) (hmeddle : ∀ a ∈ before, a.isMeddling = false) :
    ((c.after before).job i).snapshot.state = .stopped := by
  obtain ⟨hbefore, hcheck, hfits⟩ := h.possible
  have howned := hbefore.owned hnew hmeddle
  obtain ⟨r, hr⟩ := hbefore.sound hnew.sound i
  have hstage : ((c.after before).job i).stage = .awaiting line := hfits i rfl
  refine hr.stopped_of_not_active (by simp [Job.isWorking, hstage]) ?_
  exact howned.cancelled (Core.Owned.cancelled_of_check? hcheck) i

/-- When the job of a command has no thread any more, it was finished, stopped or
halted. -/
theorem Command.Run.Reached.ended {r : Command.Run} (h : r.Reached) {attentive : Bool}
    (hphase : r.phase = .streaming attentive) (hend : r.isWaiting = false) :
    (r.session.job 0).snapshot.state = .finished ∨
      (r.session.job 0).snapshot.state = .stopped ∨
      (r.session.job 0).snapshot.state = .errored := by
  obtain ⟨hcalm, hstarted, first, hnew, acts, hpermits, hcore, hmeddle⟩ :=
    h.ready attentive hphase
  have howned : r.session.core.Owned := hcore ▸ hpermits.owned hnew fun a ha => by
    simpa using hmeddle a ha
  -- without a thread the job cannot be active, and it was started
  have hgone : (r.session.job 0).isAlive = false := by simpa [isWaiting, hphase] using hend
  have hidle : (r.session.job 0).isActive = false := by
    cases hactive : (r.session.job 0).isActive with
    | false => rfl
    | true =>
      have hholds := Job.holds_of_isWorking (howned.working 0 hactive)
      rw [← Job.isAlive_of_rests (hcalm.rest.job 0), Session.core_job, hgone] at hholds
      cases hholds
  rw [Session.core_job] at hstarted
  cases hs : (r.session.job 0).snapshot.state with
  | idle => exact absurd hs hstarted
  | running | paused =>
    simp [Job.isActive_eq, hs] at hidle
  | finished | stopped | errored => simp

namespace Session

/-- Exclusive ownership, after any steps that leave the link's calls for jobs to the
jobs:

* at most one job has a thread, and the claim is set if and only if one has;
* a job that is running or paused has a thread, so one without is neither;
* waits are called off only while no job is running or paused, so a wait that is called
  off belongs to a job that was stopped.

And the job of a command ends in no other state than its result has words for. -/
theorem exclusive_ownership {s : Session} (hnew : s.IsNew) {steps : List Step}
    (hsteps : s.Undisturbed steps) :
    (∀ i k, ((s.after steps).job i).isAlive = true → ((s.after steps).job k).isAlive = true →
      i = k) ∧
    ((s.after steps).link.claimed = true ↔ ∃ i, ((s.after steps).job i).isAlive = true) ∧
    (∀ i, ((s.after steps).job i).isActive = true → ((s.after steps).job i).isAlive = true) ∧
    ((s.after steps).link.slot.cancelled = true →
      ∀ i, ((s.after steps).job i).isActive = false) ∧
    ((∃ h : History, h.steps = steps ∧ s.HasHistory h) ∧
      ∀ h : History, h.steps = steps → s.HasHistory h →
        ∀ (before later : List Act) (i : Nat) (line : String),
          h.acts = before ++ .took i line .cancelled :: later →
          ((s.core.after before).job i).snapshot.state = .stopped) ∧
    (∀ i, ((s.after steps).job i).isAlive = false →
      ((s.after steps).job i).snapshot.state ≠ .running ∧
      ((s.after steps).job i).snapshot.state ≠ .paused) ∧
    ∀ (r : Command.Run) (attentive : Bool), r.Reached → r.phase = .streaming attentive →
      r.isWaiting = false →
      (r.session.job 0).snapshot.state = .finished ∨
      (r.session.job 0).snapshot.state = .stopped ∨
      (r.session.job 0).snapshot.state = .errored := by
  have howned := owned_after hnew hsteps
  have hrest := (calm_after hnew.calm steps).rest
  have halive : ∀ i, ((s.after steps).job i).isAlive = ((s.after steps).job i).holds :=
    fun i => Job.isAlive_of_rests (hrest.job i)
  have hactive : ∀ i, ((s.after steps).job i).isActive = true →
      ((s.after steps).job i).isAlive = true := fun i hi => by
    rw [halive i]
    exact Job.holds_of_isWorking (howned.working i hi)
  simp only [halive] at hactive ⊢
  refine ⟨howned.one, howned.claimed, hactive, howned.cancelled,
    ⟨exists_history hnew.calm steps, ?_⟩, ?_, fun r _ hr hphase hend => hr.ended hphase hend⟩
  -- whoever called a wait off had stopped the job
  · rintro h rfl hh before later i line hacts
    have hpermits := hh.permits
    rw [hacts] at hpermits
    refine hpermits.stopped_of_cancelled hnew.core fun a ha => ?_
    exact hh.not_meddling hsteps (hacts ▸ List.mem_append_left _ ha)
  · intro i hi
    constructor <;> intro hs <;>
      · have hrun : ((s.after steps).job i).isActive = true := by
          simp [Job.isActive_eq, hs]
        simp [hactive i hrun] at hi

/-- A session with two jobs, whose device answers nothing. -/
def twoJobs : Session := { jobs := [{}, {}] }

/-- A session on a host that has a thread for one reader, and none for what comes next. -/
def crowded : Session := { device := { spawns := [none, some "no thread left"] } }

/-- The second job is refused while the first has the link, and gets it after the first
was stopped. -/
def inTurns : List Step :=
  [.connect "COM3" 9600, .start 0 "a" ⟨["G0"]⟩, .start 1 "b" ⟨["G1"]⟩, .stop 0,
    .start 1 "c" ⟨["G2"]⟩]

/-- The second job has the link once the first has given it back. -/
theorem exclusive_ownership_inTurns :
    ((twoJobs.after inTurns).job 1).isAlive = true ∧
      ((twoJobs.after inTurns).job 0).isAlive = false ∧
      (twoJobs.after inTurns).link.claimed = true := by
  have howner := exclusive_ownership (s := twoJobs) ⟨rfl, by decide⟩
    (show twoJobs.Undisturbed inTurns by decide)
  have hsecond : ((twoJobs.after inTurns).job 1).isAlive = true := by decide +kernel
  refine ⟨hsecond, ?_, howner.2.1.mpr ⟨1, hsecond⟩⟩
  refine eq_false_of_ne_true fun hfirst => ?_
  exact absurd (howner.1 0 1 hfirst hsecond) (by decide)

end Session

end GcodeSender
