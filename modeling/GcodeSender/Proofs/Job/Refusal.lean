import GcodeSender.Proofs.Job.Stop
import GcodeSender.Proofs.Session.Told

/-!
# `GcodeSender.Proofs.Job.Refusal`: a refused start changes nothing

A start has four checks to pass, and between the third and the fourth it waits for the
thread of the streamer's last job. The fourth takes the link, and with it allows waits
again that were called off.

* `Core.CallsOff`: while the thread of an ended job works on, waits are called off. So at rest
  it has gone (`CallsOff.gone`), unless a write holds it up, and a start has nobody to wait
  for.
* `Session.refusal?`: which check refuses a start. `start_eq`: one that is refused is reported,
  and any other takes the link and is announced before it asks the host for a thread.
* `start_without_thread`: what a start leaves behind that fails for want of one.
* `refused_start_changes_nothing`: what that comes to in a session, for the call itself and
  for all that happens after it.
-/

set_option autoImplicit false

namespace GcodeSender

/-! ### The threads of ended jobs -/

/-- Once a job has ended, its thread works on only because it was stopped: not after a failure
and not at its end. -/
theorem Act.ended_of_onJob {a : Act} {j : Job} (hfit : a.Fits j) (hlaunch : a.isLaunch = false)
    (hstop : ∀ i, a ≠ .stopped i) (hwork : (a.onJob j).isWorking = true)
    (hend : (a.onJob j).isActive = false) : j.isWorking = true ∧ j.isActive = false := by
  cases a with
  | opened | dropped | closed | broke | heard | noted | signalled | withheld | meddled =>
    exact ⟨hwork, hend⟩
  | launched => cases hlaunch
  | stopped i => exact absurd rfl (hstop i)
  | paused i =>
    replace hfit : j.snapshot.state = .running := hfit
    simp [onJob, Job.pause_of_running hfit, Job.isActive_eq] at hend
  | resumed i => simp [onJob, Job.resume_of_paused hfit.1, Job.isActive_eq] at hend
  | armed i line =>
    replace hfit : j.stage = .arming line := hfit
    simp only [onJob, Job.armed, hfit] at hend
    exact ⟨by simp [Job.isWorking, hfit], hend⟩
  -- a job that is given up has no thread
  | abandoned i => cases hwork
  | wrote i line rest =>
    have hs : j.stage = .sending line := hfit.1
    exact ⟨by simp [Job.isWorking, hs], hend⟩
  | refused i line =>
    replace hfit : j.stage = .sending line := hfit
    exact ⟨by simp [Job.isWorking, hfit], hend⟩
  | yielded i line rest =>
    replace hfit : j.stage = .hanging line rest := hfit
    exact ⟨by simp [Job.isWorking, hfit], hend⟩
  | returned i line failure =>
    obtain ⟨rest, hs⟩ := Job.hanging_of_writing? (Act.Fits.writing? hfit)
    exact ⟨by simp [Job.isWorking, hs], by cases failure <;> exact hend⟩
  | took i line outcome =>
    replace hfit : j.stage = .awaiting line := hfit
    refine ⟨by simp [Job.isWorking, hfit], ?_⟩
    rw [Job.isActive, onJob, Job.snapshot_answered] at hend
    exact hend
  | moved i told =>
    obtain ⟨next, hnext, hsteps⟩ := Job.steps_of_moved hfit
    rw [hnext] at hwork hend
    cases hsteps with
    | finish | leave | lack | forgo | fail | wake | retire => cases hwork
    | choose _ hs | park _ _ hs => exact ⟨by simp [Job.isWorking, hs], hend⟩
    | count hs => exact ⟨by simp [Job.isWorking, hs], hend⟩
  | released i => cases hwork

namespace Core

/-- While the thread of an ended job works on, waits are called off. -/
def CallsOff (c : Core) : Prop :=
  ∀ i, (c.job i).isWorking = true → (c.job i).isActive = false → c.slot.cancelled = true

/-- No act but an outsider's allows waits again while the thread of an ended job works. -/
theorem CallsOff.next {c : Core} {a : Act} (h : c.CallsOff) (howned : c.Owned)
    (ha : a.Possible c) (hmild : a.isMeddling = false) : (c.next a).CallsOff := by
  intro i hwork hend
  by_cases hlaunch : a.isLaunch = true
  · cases a with
    | launched k name p =>
      -- the job that is started is active, and none is started while another's thread works
      exfalso
      by_cases hi : Act.job? (.launched k name p) = some i
      · rw [next_job_self ha hi] at hend
        cases hend
      · rw [next_job_of_ne hi] at hwork
        have hclaimed := howned.claimed.mpr ⟨i, Job.holds_of_isWorking hwork⟩
        rw [ha.1.2.2] at hclaimed
        cases hclaimed
    | _ => cases hlaunch
  · replace hlaunch : a.isLaunch = false := eq_false_of_ne_true hlaunch
    by_cases hstop : ∃ k, a = .stopped k
    · obtain ⟨k, rfl⟩ := hstop
      rfl
    · have hbefore : (c.job i).isWorking = true ∧ (c.job i).isActive = false := by
        by_cases hi : a.job? = some i
        · rw [next_job_self ha hi] at hwork hend
          exact Act.ended_of_onJob (ha.2 i hi) hlaunch (fun k hk => hstop ⟨k, hk⟩) hwork hend
        · rw [next_job_of_ne hi] at hwork hend
          exact ⟨hwork, hend⟩
      exact cancelled_next_of_cancelled hlaunch hmild (h i hbefore.1 hbefore.2)

/-- So that holds at every time of an undisturbed history. -/
theorem Permits.callsOff {c : Core} {acts : List Act} (h : c.Permits acts) (hnew : c.IsNew)
    (hmild : ∀ a ∈ acts, a.isMeddling = false) : (c.after acts).CallsOff := by
  have hoff : c.CallsOff := by
    intro i hwork
    rw [hnew.job i] at hwork
    cases hwork
  refine (h.invariant (P := fun _ c => c.Owned ∧ c.CallsOff) ⟨hnew.owned, hoff⟩ ?_ hmild).2
  rintro acts a hacts - ha hmild ⟨howned, hoff⟩
  exact ⟨howned.next (hacts.sound hnew.sound) ha hmild, hoff.next howned ha hmild⟩

/-- At rest, an ended job whose write does not hang has no thread. -/
theorem CallsOff.gone {c : Core} (h : c.CallsOff) (hrest : c.AtRest) {i : Nat}
    (hend : (c.job i).isActive = false) (hfree : (c.job i).isHanging = false) :
    (c.job i).stage = .gone := by
  cases hwork : (c.job i).isWorking with
  | true =>
    refine (rest_of_cancelled hrest (h i hwork hend) hend).resolve_right ?_
    simp [hfree]
  | false =>
    -- a thread that rests and has not gone would still have work to do
    rcases Job.isStill_cases (Job.isStill_of_rests (hrest.job i)) with
      hs | ⟨hs, -⟩ | ⟨line, rest, hs⟩ | ⟨line, hs⟩ | ⟨hs, -⟩
    · exact hs
    all_goals simp [Job.isWorking, hs] at hwork

end Core

/-! ### What a refusal leaves behind -/

/-- What the caller reports when it is refused a start: a warning, and an error of usage. -/
def JobError.refusal (e : JobError) : List Entry :=
  [⟨.caller, Job.record .warn e.message⟩, ⟨.caller, .event (.error .usage e.message)⟩]

namespace Session

variable {s : Session}

/-- Why a start of a job is refused, if it is: the checks in their order. -/
def refusal? (s : Session) (i : Nat) (p : Program) : Option JobError :=
  if (s.job i).isActive then some (.cannotStart .alreadyRunning)
  else if p.lines = [] then some (.cannotStart .emptyProgram)
  else if s.link.state ≠ .connected then some (.cannotStart .notConnected)
  else if s.link.claimed then some .alreadyStreaming
  else none

/-- A start that is refused is reported, and that is all. Any other takes the link and is announced,
and then the job gets its thread or does not. -/
theorem start_eq (s : Session) (t : Thread) (i : Nat) (name : String) (p : Program) :
    s.start t i name p = match s.refusal? i p with
      | some e => s.refuseStart t e
      | none => (({ s with link := s.link.claim.2 } : Session).launch t i name p).spawnJob t i := by
  have hconnected : s.link.state.isConnected = decide (s.link.state = .connected) := by
    cases s.link.state <;> rfl
  simp only [start, refusal?, Job.refusal?, hconnected]
  by_cases hactive : (s.job i).isActive = true
  · simp [hactive]
  · by_cases hlines : p.lines = []
    · simp [hactive, hlines]
    · by_cases hstate : s.link.state = .connected
      · cases hclaimed : s.link.claimed <;> simp [hactive, hlines, hstate, hclaimed, Link.claim]
      · simp [hactive, hlines, hstate]

/-- The system's reason for a job without a thread is the reason for which the start fails. -/
theorem spawnJob_result (s : Session) (t : Thread) (i : Nat) :
    (s.spawnJob t i).1 =
      s.device.spawn.1.mapError fun reason => .cannotStart (.noThread reason) := by
  unfold spawnJob
  generalize s.device.spawn = spawned
  obtain ⟨r, device⟩ := spawned
  cases r <;> rfl

/-- To announce a job is no concern of the device. -/
theorem device_launch (s : Session) (t : Thread) (i : Nat) (name : String) (p : Program) :
    (s.launch t i name p).device = s.device := by
  rw [launch, tellAll_eq]
  rfl

/-- What a start comes to. -/
theorem start_result (s : Session) (t : Thread) (i : Nat) (name : String) (p : Program) :
    (s.start t i name p).1 = match s.refusal? i p with
      | some e => .error e
      | none => s.device.spawn.1.mapError fun reason => .cannotStart (.noThread reason) := by
  rw [start_eq]
  cases s.refusal? i p with
  | some e => rfl
  | none =>
    show (Session.spawnJob _ t i).1 = _
    rw [spawnJob_result, device_launch]

/-- A job that gets no thread has been announced all the same. It has taken the link and given it
back, no wait is called off any longer, and its snapshot is a new one, which says that it has failed
before its first line. -/
theorem start_without_thread {t : Thread} {i : Nat} {name : String} {p : Program} {reason : String}
    (h : s.refusal? i p = none) (hi : i < s.jobs.length)
    (hspawn : s.device.spawn.1 = .error reason) :
    (s.start t i name p).2 = { s with
      link := { s.link with slot := s.link.slot.resetCancel, claimed := false }
      device := s.device.spawn.2
      jobs := s.jobs.set i (Job.launch name p).abandoned
      journal := s.journal ++ (Job.launchNotes name p.length ++
        Job.refusalNotes (.cannotStart (.noThread reason))).map fun n => ⟨t, n⟩ } := by
  have hclaimed : s.link.claimed = false := by grind [refusal?]
  cases hspawned : s.device.spawn with
  | mk result device =>
    obtain rfl : result = .error reason := by simpa [hspawned] using hspawn
    -- the thread is asked for after the announcement, which the device knows nothing of
    have hgivenUp : ∀ begun : Session, begun.device = s.device →
        begun.spawnJob t i = ({ begun with device } : Session).abandonStart t i reason := by
      intro begun hbegun
      rw [spawnJob, hbegun, hspawned]
    rw [start_eq, h]
    show (Session.spawnJob _ t i).2 = _
    rw [hgivenUp _ (device_launch { s with link := s.link.claim.2 } t i name p)]
    simp [abandonStart, refuseStart, launch, tellAll_eq, setJob, job, hi, Link.claim, hclaimed,
      Link.release]

/-- Where no write hangs, a start returns. -/
theorem perform_start (hfree : s.isHanging = false) (i : Nat) (name : String) (p : Program) :
    s.perform (.start i name p) =
      (.job (s.start .caller i name p).1, (s.start .caller i name p).2.settle) := by
  simp [perform, Step.waits, act, job_not_hanging hfree i]

/-- A session from its beginning on is plain. -/
theorem plain_after (hnew : s.IsNew) (steps : List Step) : (s.after steps).core.IsPlain := by
  have hplain : s.core.IsPlain := ⟨hnew.core.sound, fun i _ => hnew.core.job i⟩
  exact (after_goes hnew.calm steps).plain hplain

/-- Undisturbed, the thread of a job that is neither running nor paused has ended if it is not
held up in a write. -/
theorem gone_after (hnew : s.IsNew) {steps : List Step} (hsteps : s.Undisturbed steps)
    (hfree : (s.after steps).isHanging = false) {i : Nat}
    (hend : ((s.after steps).job i).isActive = false) : ((s.after steps).job i).stage = .gone := by
  have hoff : (s.after steps).core.CallsOff := by
    obtain ⟨h, rfl, hh⟩ := exists_history hnew.calm steps
    rw [← hh.core_after]
    exact hh.permits.callsOff hnew.core fun a ha => hh.not_meddling hsteps ha
  exact hoff.gone (calm_after hnew.calm steps).rest hend (job_not_hanging hfree i)

/-- Starts of job `i` in a session in which no write hangs, after any steps:

* A start is refused because the job is running or paused; if it is not, because the program
  has no lines; if it has some, because the link is not connected; if it is, because the link
  is taken. In all other cases it succeeds, unless the host has no thread for the job.
* Undisturbed, the thread of a job that is not running or paused has ended, so that a start
  has not to wait for it, and the link is taken if and only if another job has a thread.
* A start that is refused changes nothing but that the caller reports it: a warning, and one
  error of usage. All jobs, the link and the device are what they were, and whatever happens
  next happens as it would without the call. -/
theorem refused_start_changes_nothing (hnew : s.IsNew) (steps : List Step)
    (hfree : (s.after steps).isHanging = false) (i : Nat) (name : String) (p : Program) :
    ((s.after steps).perform (.start i name p)).1 = .job (
      match (s.after steps).refusal? i p with
      | some e => .error e
      | none => (s.after steps).device.spawn.1.mapError fun reason =>
        .cannotStart (.noThread reason)) ∧
    (s.Undisturbed steps → ((s.after steps).job i).isActive = false →
      ((s.after steps).job i).isAlive = false ∧
      ((s.after steps).link.claimed = true ↔
        ∃ k, k ≠ i ∧ ((s.after steps).job k).isAlive = true)) ∧
    ∀ e, (s.after steps).refusal? i p = some e →
      ((s.after steps).perform (.start i name p)).2 =
        { s.after steps with journal := (s.after steps).journal ++ e.refusal } ∧
      ∀ more, ((s.after steps).perform (.start i name p)).2.run more =
        ((s.after steps).run more).map fun r =>
          (r.1, r.2.interject (s.after steps).journal.length e.refusal) := by
  have hcalm := calm_after hnew.calm steps
  have hplain := plain_after hnew steps
  rw [perform_start hfree]
  refine ⟨by rw [start_result], fun hsteps hend => ?_, fun e he => ?_⟩
  · have howned := owned_after hnew hsteps
    have hgone : ((s.after steps).job i).holds = false := by
      simp [Job.holds, gone_after hnew hsteps hfree hend]
    have halive : ∀ k, ((s.after steps).job k).isAlive = ((s.after steps).job k).holds :=
      fun k => Job.isAlive_of_rests (hcalm.rest.job k)
    simp only [halive]
    refine ⟨hgone, howned.claimed.trans ⟨?_, Exists.imp fun k hk => hk.2⟩⟩
    rintro ⟨k, hk⟩
    refine ⟨k, ?_, hk⟩
    -- the thread that has taken the link is not the one that has gone
    rintro rfl
    rw [core_job, hgone] at hk
    cases hk
  · have hsettled : ((s.after steps).start .caller i name p).2.settle =
        (s.after steps).tellAll .caller (Job.refusalNotes e) := by
      rw [start_eq, he]
      exact settle_tellAll hcalm hplain (settle_after hnew steps) _ _
    rw [hsettled]
    exact ⟨tellAll_eq _ _ _, run_tellAll hcalm hplain _ _⟩

/-- The first of two jobs waits for the answer to its line. -/
def firstUnderWay : List Step := [.connect "COM3" 9600, .start 0 "a" ⟨["G0"]⟩]

/-- The second job is refused, and the first takes its answer and finishes. -/
theorem refused_start_changes_nothing_whileOtherRuns :
    (twoJobs.after firstUnderWay).isHanging = false ∧
      ((twoJobs.after firstUnderWay).perform (.start 1 "b" ⟨["G1"]⟩)).1 =
        .job (.error .alreadyStreaming) ∧
      (∃ k, k ≠ 1 ∧ ((twoJobs.after firstUnderWay).job k).isAlive = true) ∧
      (((twoJobs.after firstUnderWay).perform (.start 1 "b" ⟨["G1"]⟩)).2.run
        [.deviceSends [.bytes [111, 107, 10]]]).map (fun r => (r.2.job 0).snapshot.state) =
          [.finished] := by
  have hfree : (twoJobs.after firstUnderWay).isHanging = false := by decide +kernel
  obtain ⟨hresult, howner, hrefused⟩ := refused_start_changes_nothing (s := twoJobs)
    ⟨rfl, by decide⟩ firstUnderWay hfree 1 "b" ⟨["G1"]⟩
  have hrefusal : ((twoJobs.after firstUnderWay).perform (.start 1 "b" ⟨["G1"]⟩)).1 =
      .job (.error .alreadyStreaming) := by
    rw [hresult]
    rfl
  refine ⟨hfree, hrefusal, ?_, ?_⟩
  · exact (howner (by decide) (by decide +kernel)).2.mp (by decide +kernel)
  · rw [(hrefused .alreadyStreaming (by decide +kernel)).2, List.map_map]
    decide +kernel

/-- A start can be refused though no job has a thread, where someone else has taken the link. And
one that is not refused can fail, and has changed the snapshot of its job by then. -/
theorem start_refused_without_owner :
    (((({} : Session).after [.connect "COM3" 9600, .claim]).perform
          (.start 0 "a" ⟨["G0"]⟩)).1 = .job (.error .alreadyStreaming) ∧
      ((({} : Session).after [.connect "COM3" 9600, .claim]).jobs.map Job.isAlive) = [false]) ∧
    ((crowded.after [.connect "COM3" 9600]).perform (.start 0 "a" ⟨["G0"]⟩)).1 =
        .job (.error (.cannotStart (.noThread "no thread left"))) ∧
      ((crowded.after [.connect "COM3" 9600]).job 0).snapshot.state = .idle ∧
      (((crowded.after [.connect "COM3" 9600]).perform (.start 0 "a" ⟨["G0"]⟩)).2.job
        0).snapshot.state = .errored := by
  refine ⟨⟨?_, ?_⟩, ?_, ?_, ?_⟩
  all_goals decide +kernel

end Session

end GcodeSender
