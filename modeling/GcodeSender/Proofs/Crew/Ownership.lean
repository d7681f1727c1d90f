import GcodeSender.Proofs.Crew.Basic
import GcodeSender.Proofs.Link.Ownership

/-!
# `GcodeSender.Proofs.Crew.Ownership`: one owner of the link at a time

The link passes from a start that takes it to the thread of the job that it launches, and is
free again when that thread gives it back. At most one thread has it at a time, and whatever
else happens to a job happens while its thread has it. `Crew.Owned` says so, and from it:

* a running or paused job has a thread that works (`Owned.working`);
* there is at most one such job, and then no start is about to launch another
  (`Owned.active_unique`);
* from the first step of a stop until the next start takes the link, there is none
  (`Owned.quiet`).

`Owned.next` is the step. The last part needs that no start takes the link between the two
steps of a stop (`ClearOfStops`), and the first one needs the last: a thread whose wait is
called off leaves, whatever its job.
-/

set_option autoImplicit false

namespace GcodeSender

/-- Only a job that is running or paused is paused, resumed or stopped, and it stays one that
was started. -/
theorem Job.Snapshot.turned {s s' : Job.Snapshot}
    (h : s.pause? = some s' ∨ s.resume? = some s' ∨ s.stop? = some s') :
    s.isActive = true ∧ s'.total = s.total ∧ s'.state ≠ .idle := by
  rcases h with h | h | h
  · obtain ⟨hr, rfl⟩ : s.state = .running ∧ _ = s' := by
      simpa [pause?] using h
    simp [isActive, hr, RunState.isActive]
  · obtain ⟨hp, rfl⟩ : s.state = .paused ∧ _ = s' := by
      simpa [resume?] using h
    simp [isActive, hp, RunState.isActive]
  · obtain ⟨ha, rfl⟩ : s.isActive = true ∧ _ = s' := by
      simpa [stop?] using h
    simp [ha]

/-- A snapshot that was stopped is neither running nor paused. -/
theorem Job.Snapshot.isActive_of_stop? {s s' : Job.Snapshot} (h : s.stop? = some s') :
    s'.isActive = false := by
  obtain ⟨-, rfl⟩ : s.isActive = true ∧ _ = s' := by
    simpa [stop?] using h
  rfl

namespace Act

variable {a : Act} {j : Job}

/-- No thread of a job starts a job. -/
theorem not_launch_of_isWork (hmove : a.isWork = true) : a.isLaunch = false := by
  cases a with
  | launched => cases hmove
  | _ => rfl

/-- Whoever makes a move has not ended. -/
theorem isAlive_of_isWork (hmove : a.isWork = true) (hfit : a.Fits j) : j.isAlive = true := by
  -- every move has its place, and none of the places is the end
  cases a with
  | armed i line | refused i line | took i line outcome | released i =>
    have hs := show j.stage = _ from hfit
    simp [Job.isAlive, hs]
  | wrote i line rest => simp [Job.isAlive, hfit.1]
  | yielded i line rest =>
    have hs : j.stage = .hanging line rest := hfit
    simp [Job.isAlive, hs]
  | returned i line failure =>
    obtain ⟨rest, hs⟩ := Job.hanging_of_writing? hfit.writing?
    simp [Job.isAlive, hs]
  | moved i p =>
    obtain ⟨next, -, hsteps⟩ := Job.steps_of_moved hfit
    cases hsteps <;> simp [Job.isAlive, *]
  | _ => cases hmove

/-- A thread that has given the link back can only end. -/
theorem onJob_of_not_holds (hmove : a.isWork = true) (hfit : a.Fits j)
    (hnot : j.holds = false) : a.releases = false ∧ a.onJob j = { j with stage := .gone } := by
  -- each place from which a thread acts, but the last, is one where it holds the link
  cases a with
  | armed i line | refused i line | took i line outcome | released i =>
    have hs := show j.stage = _ from hfit
    simp [Job.holds, hs] at hnot
  | wrote i line rest => simp [Job.holds, hfit.1] at hnot
  | yielded i line rest =>
    have hs : j.stage = .hanging line rest := hfit
    simp [Job.holds, hs] at hnot
  | returned i line failure =>
    obtain ⟨rest, hs⟩ := Job.hanging_of_writing? hfit.writing?
    simp [Job.holds, hs] at hnot
  | moved i p =>
    obtain ⟨next, hnext, hsteps⟩ := Job.steps_of_moved hfit
    refine ⟨rfl, hnext.trans ?_⟩
    cases hsteps with
    | retire => rfl
    | _ => simp [Job.holds, *] at hnot
  | _ => cases hmove

/-- A move leaves the program and its length alone. -/
theorem lines_onJob (hmove : a.isWork = true) (hfit : a.Fits j) :
    (a.onJob j).lines = j.lines ∧ (a.onJob j).snapshot.total = j.snapshot.total := by
  cases a with
  | armed i line =>
    have hs : j.stage = .arming line := hfit
    simp [onJob, Job.armed, hs]
  | wrote | yielded | refused | released => exact ⟨rfl, rfl⟩
  | returned i line failure => cases failure <;> exact ⟨rfl, rfl⟩
  | took i line outcome =>
    cases outcome with
    | answer ans =>
      simp only [onJob, Job.answered]
      split <;> exact ⟨rfl, rfl⟩
    | closed | cancelled => exact ⟨rfl, rfl⟩
  | moved i p =>
    obtain ⟨next, hnext, hsteps⟩ := Job.steps_of_moved hfit
    have hfail : j.snapshot.fail.total = j.snapshot.total := by
      unfold Job.Snapshot.fail
      split <;> rfl
    rw [hnext]
    -- a job's own steps change its place in the program at most
    cases hsteps with
    | fail | wake => exact ⟨rfl, hfail⟩
    | _ => exact ⟨rfl, rfl⟩
  | _ => cases hmove

/-- A move neither calls off waits nor allows them again, and gives the link back or leaves
it in the hands that it is in. -/
theorem onLink_of_isWork (hmove : a.isWork = true) (slot : Link.Slot) (claimed : Bool) :
    (a.onSlot slot).cancelled = slot.cancelled ∧
      a.onClaim claimed = (claimed && !a.releases) := by
  cases a with
  | took i line outcome =>
    refine ⟨?_, by simp [onClaim, releases]⟩
    simp only [onSlot]
    cases hc : slot.check? with
    | none => rfl
    | some taken => simp [(Link.Slot.check?_cases hc).1]
  | armed | wrote | yielded | refused | returned | moved | released =>
    simp [onSlot, onClaim, releases, Link.Slot.arm, Link.Slot.noteSent]
  | _ => cases hmove

end Act

namespace Crew

variable {c c' : Crew}

/-! ### What a thread's move keeps -/

/-- The job that a thread works on, after its move. -/
theorem job_work_self (c : Crew) {w : Nat} {a : Act} (hmove : a.isWork = true)
    (hfit : a.Fits (c.job w)) : (c.work w a).job w = a.onJob (c.job w) := by
  have hlines : (a.onJob (c.job w)).lines = (c.workers w).lines :=
    (Act.lines_onJob hmove hfit).1
  generalize hj : a.onJob (c.job w) = j at hlines ⊢
  simp only [work, hj]
  simp only [job, Function.update_self, ← hlines]

/-- Another thread stands where it stood. -/
theorem isWorking_work_of_ne (c : Crew) {w v : Nat} (a : Act) (h : v ≠ w) :
    ((c.work w a).job v).isWorking = (c.job v).isWorking := by
  simp [job, Job.isWorking, work, h]

/-! ### Who owns the link -/

/-- A thread that may own the link. -/
inductive Owner where
  | caller (n : Nat)
  | worker (w : Nat)

/-- The thread has taken the link, or was started with it, and has not given it back. -/
def Has (c : Crew) : Owner → Prop
  | .caller n => ∃ i name p, c.callers n = .launching i name p
  | .worker w => (c.job w).holds = true

/-- In a new crew nobody owns the link. -/
theorem not_has_new (x : Owner) : ¬ Has {} x := by
  cases x with
  | caller n => simp [Has]
  | worker w => simp [Has, job, Job.holds]

/-- Waits are called off, or a stop is about to call them off. -/
def CallsOff (c : Crew) : Prop :=
  c.link.slot.cancelled = true ∨ ∃ n i, c.callers n = .stopping i

/-- No job is running or paused, and none is about to be. -/
def Quiet (c : Crew) : Prop :=
  (∀ i, (c.streamers i).snapshot.isActive = false) ∧ ∀ n, ¬ c.Has (.caller n)

/-- If the deed takes the link, no stop has ended a job and has yet to call off its wait. -/
def ClearOfStops (c : Crew) (d : Deed) : Prop :=
  ∀ i, c.claims? d = some i → ∀ n k, c.callers n ≠ .stopping k

/-- Who owns the link, and whose waits are called off. -/
structure Owned (c : Crew) : Prop where
  /-- At most one thread owns the link. -/
  one : ∀ x y, c.Has x → c.Has y → x = y
  claimed : ∀ x, c.Has x → c.link.claimed = true
  /-- No thread is started while one for a job owns the link. -/
  last : ∀ w, c.Has (.worker w) → w + 1 = c.hired
  total : ∀ w, c.Has (.worker w) → (c.job w).snapshot.total = (c.job w).lines.length
  /-- A running or paused job has a thread that works. -/
  working : ∀ i, (c.streamers i).snapshot.isActive = true →
    ∃ w, (c.workers w).streamer = i ∧ (c.job w).isWorking = true
  started : ∀ w < c.hired, (c.job w).snapshot.state ≠ .idle
  quiet : c.CallsOff → c.Quiet

/-- The jobs stay as they are, with whoever owns the link. -/
structure Spares (c c' : Crew) : Prop where
  claimed : c'.link.claimed = c.link.claimed
  snapshot : ∀ i, (c'.streamers i).snapshot = (c.streamers i).snapshot
  workers : c'.workers = c.workers
  hired : c'.hired = c.hired
  launching : ∀ n i name p, c'.callers n = .launching i name p →
    c.callers n = .launching i name p

namespace Spares

/-- A job that is spared is seen by its thread as before. -/
theorem job (h : c.Spares c') (w : Nat) : c'.job w = c.job w := by
  simp [Crew.job, h.workers, h.snapshot]

/-- Whoever owns the link afterwards has owned it before. -/
theorem has (h : c.Spares c') {x : Owner} (hx : c'.Has x) : c.Has x := by
  cases x with
  | caller n =>
    obtain ⟨i, name, p, hn⟩ := hx
    exact ⟨i, name, p, h.launching n i name p hn⟩
  | worker w =>
    rw [Has, h.job] at hx
    exact hx

/-- A caller that goes on without launching a job spares them all. -/
theorem place (c : Crew) (n : Nat) {p : Caller} (hp : ∀ i name q, p ≠ .launching i name q) :
    c.Spares (c.place n p) where
  claimed := rfl
  snapshot _ := rfl
  workers := rfl
  hired := rfl
  launching m i name q hm := by
    by_cases hmn : m = n
    · simp [Crew.place, hmn, hp] at hm
    · simpa [Crew.place, hmn] using hm

/-- The handle of a thread is no concern of any job. -/
theorem hand (c : Crew) (i : Nat) (handle : Option Nat) (locked : Bool) :
    c.Spares (c.hand i handle locked) where
  claimed := rfl
  snapshot k := by
    by_cases hk : k = i <;> simp [Crew.hand, hk]
  workers := rfl
  hired := rfl
  launching _ _ _ _ h := h

/-- Neither is the link, as long as it stays taken or free. -/
theorem relink (c : Crew) {link : Link} (h : link.claimed = c.link.claimed) :
    c.Spares { c with link } where
  claimed := h
  snapshot _ := rfl
  workers := rfl
  hired := rfl
  launching _ _ _ _ h := h

end Spares

/-- A caller who goes on to a place other than that of a stop calls nothing off. -/
theorem CallsOff.of_place {n : Nat} {p : Caller} (hp : ∀ i, p ≠ .stopping i)
    (h : (c.place n p).CallsOff) : c.CallsOff := by
  rcases h with hcancelled | ⟨m, i, hm⟩
  · exact .inl hcancelled
  · by_cases hmn : m = n
    · simp [Crew.place, hmn, hp] at hm
    · exact .inr ⟨m, i, by simpa [Crew.place, hmn] using hm⟩

namespace Owned

/-- A crew whose jobs are spared is owned as before, if it calls off waits only while it is quiet.
-/
theorem spared (h : c.Owned) (hsame : c.Spares c') (hquiet : c'.CallsOff → c.Quiet) :
    -- nothing of this looks at more of the crew than what is spared
    c'.Owned where
  one x y hx hy := h.one x y (hsame.has hx) (hsame.has hy)
  claimed x hx := hsame.claimed ▸ h.claimed x (hsame.has hx)
  last w hw := hsame.hired ▸ h.last w (hsame.has hw)
  total w hw := hsame.job w ▸ h.total w (hsame.has hw)
  working i hi := by
    rw [hsame.snapshot] at hi
    obtain ⟨w, hw, hwork⟩ := h.working i hi
    exact ⟨w, hsame.workers ▸ hw, hsame.job w ▸ hwork⟩
  started w hw := by
    rw [hsame.job]
    exact h.started w (hsame.hired ▸ hw)
  quiet hoff := by
    obtain ⟨hnone, hfree⟩ := hquiet hoff
    exact ⟨fun i => hsame.snapshot i ▸ hnone i, fun n hn => hfree n (hsame.has hn)⟩

/-- A caller goes on to a place from where it neither launches nor stops a job. -/
theorem place (h : c.Owned) (n : Nat) {p : Caller} (hlaunch : ∀ i name q, p ≠ .launching i name q)
    (hstop : ∀ i, p ≠ .stopping i) : (c.place n p).Owned :=
  h.spared (.place c n hlaunch) fun hoff => h.quiet (hoff.of_place hstop)

/-- Handles may be taken and put back. -/
theorem hand (h : c.Owned) (i : Nat) (handle : Option Nat) (locked : Bool) :
    (c.hand i handle locked).Owned :=
  h.spared (.hand c i handle locked) h.quiet

/-- The rest of the link is nobody's concern. -/
theorem relink (h : c.Owned) {link : Link} (hclaimed : link.claimed = c.link.claimed)
    (hquiet : link.slot.cancelled = true → c.Quiet) : Owned { c with link } := by
  refine h.spared (.relink c hclaimed) fun hoff => ?_
  rcases hoff with hcancelled | hstop
  · exact hquiet hcancelled
  · exact h.quiet (.inr hstop)

/-- At most one job is running or paused, and then no start is about to launch another. -/
theorem active_unique (h : c.Owned) {i : Nat} (hi : (c.streamers i).snapshot.isActive = true) :
    (∀ k, (c.streamers k).snapshot.isActive = true → k = i) ∧ ∀ n, ¬ c.Has (.caller n) := by
  obtain ⟨w, hw, hwork⟩ := h.working i hi
  have hhas : c.Has (.worker w) := Job.holds_of_isWorking hwork
  refine ⟨fun k hk => ?_, fun n hn => by cases h.one _ _ hn hhas⟩
  obtain ⟨w', hw', hwork'⟩ := h.working k hk
  have hsame := h.one (.worker w') (.worker w) (Job.holds_of_isWorking hwork') hhas
  rw [← hw, ← hw', Owner.worker.inj hsame]

/-- A job that is running or paused is paused, resumed or stopped. -/
theorem share (h : c.Owned) {i : Nat} {s : Job.Snapshot}
    (hs : (c.streamers i).snapshot.pause? = some s ∨ (c.streamers i).snapshot.resume? = some s ∨
      (c.streamers i).snapshot.stop? = some s) : (c.share i s).Owned := by
  obtain ⟨hactive, htotal, hidle⟩ := Job.Snapshot.turned hs
  have hbefore : ∀ k, ((c.share i s).streamers k).snapshot.isActive = true →
      (c.streamers k).snapshot.isActive = true := by
    intro k hk
    by_cases hki : k = i
    · rwa [hki]
    · simpa [Crew.share, hki] using hk
  exact {
    one := h.one
    claimed := h.claimed
    last := h.last
    total := by
      intro w hw
      have hbase := h.total w hw
      by_cases hwi : (c.workers w).streamer = i
      · simpa [job, Crew.share, hwi, htotal] using hbase
      · simpa [job, Crew.share, hwi] using hbase
    working := fun k hk => h.working k (hbefore k hk)
    started := by
      intro w hw
      by_cases hwi : (c.workers w).streamer = i
      · simpa [job, Crew.share, hwi] using hidle
      · simpa [job, Crew.share, hwi] using h.started w hw
    quiet := by
      intro hoff
      -- the job is running or paused, and nobody calls anything off
      simpa [hactive] using (h.quiet hoff).1 i }

/-- A stop ends the one job that is running or paused, and goes on to call off its wait. -/
theorem mark (h : c.Owned) (n : Nat) {i : Nat} {s : Job.Snapshot}
    (hs : (c.streamers i).snapshot.stop? = some s) :
    ((c.share i s).place n (.stopping i)).Owned := by
  obtain ⟨hactive, -⟩ := Job.Snapshot.turned (.inr (.inr hs))
  obtain ⟨honly, hfree⟩ := h.active_unique hactive
  refine (h.share (.inr (.inr hs))).spared (.place _ n (by simp)) fun _ => ⟨fun k => ?_, hfree⟩
  by_cases hki : k = i
  · simpa [Crew.share, hki] using Job.Snapshot.isActive_of_stop? hs
  · refine eq_false_of_ne_true fun hk => hki (honly k ?_)
    simpa [Crew.share, hki] using hk

/-- A start takes the link, while no stop is about to call off waits. -/
theorem claim (h : c.Owned) (n : Nat) {i : Nat} {name : String} {p : Program}
    (hfree : c.link.claimed = false) (hclear : ∀ m k, c.callers m ≠ .stopping k) :
    (c.seize.place n (.launching i name p)).Owned := by
  -- the link was free, so nobody owned it
  have hnobody : ∀ x, ¬ c.Has x := fun x hx => by simpa [hfree] using h.claimed x hx
  have hhas : ∀ x, (c.seize.place n (.launching i name p)).Has x → x = .caller n := by
    rintro (m | w) hx
    · by_cases hmn : m = n
      · rw [hmn]
      · exact absurd (by simpa [Has, Crew.place, seize, hmn] using hx) (hnobody (.caller m))
    · exact absurd hx (hnobody (.worker w))
  exact {
    one := fun x y hx hy => (hhas x hx).trans (hhas y hy).symm
    claimed := fun _ _ => rfl
    last := fun w hw => by cases hhas _ hw
    total := fun w hw => by cases hhas _ hw
    working := h.working
    started := h.started
    quiet := by
      rintro (hcancelled | ⟨m, k, hm⟩)
      · cases hcancelled
      · by_cases hmn : m = n
        · simp [Crew.place, hmn] at hm
        · exact absurd (by simpa [Crew.place, seize, hmn] using hm) (hclear m k) }

/-- A start launches its job, and leaves the link in the hands of the job's thread. -/
theorem launch (h : c.Owned) {n i : Nat} {name : String} {p : Program}
    (hn : c.callers n = .launching i name p) : ((c.launch i name p).place n .free).Owned := by
  have hcaller : c.Has (.caller n) := ⟨i, name, p, hn⟩
  have hnone : ∀ w, ¬ c.Has (.worker w) := fun w hw => by cases h.one _ _ hcaller hw
  have hquiet : ¬ c.CallsOff := fun hoff => (h.quiet hoff).2 n hcaller
  have hjob : ((c.launch i name p).place n .free).job c.hired = Job.launch name p := by
    simp [job, Crew.launch, Crew.place]
  -- the start owned the link, so nobody else did, and it hands it to the new thread
  have hhas : ∀ x, ((c.launch i name p).place n .free).Has x → x = .worker c.hired := by
    rintro (m | w) hx
    · obtain ⟨k, other, q, hm⟩ := hx
      by_cases hmn : m = n
      · simp [Crew.place, hmn] at hm
      · have hm' : c.Has (.caller m) :=
          ⟨k, other, q, by simpa [Crew.place, Crew.launch, hmn] using hm⟩
        exact absurd (Owner.caller.inj (h.one _ _ hm' hcaller)) hmn
    · by_cases hw : w = c.hired
      · rw [hw]
      · refine absurd ?_ (hnone w)
        simpa [Has, job, Job.holds, Crew.place, Crew.launch, hw] using hx
  exact {
    one := fun x y hx hy => (hhas x hx).trans (hhas y hy).symm
    claimed := fun _ _ => h.claimed _ hcaller
    last := by
      intro w hw
      rw [Owner.worker.inj (hhas _ hw)]
      rfl
    total := by
      intro w hw
      rw [Owner.worker.inj (hhas _ hw), hjob]
      rfl
    working := by
      intro k hk
      by_cases hki : k = i
      · refine ⟨c.hired, by simp [Crew.place, Crew.launch, hki], ?_⟩
        rw [hjob]
        rfl
      · -- no other job is running or paused
        have hk' : (c.streamers k).snapshot.isActive = true := by
          simpa [Crew.place, Crew.launch, hki] using hk
        exact absurd hcaller ((h.active_unique hk').2 n)
    started := by
      intro w hw
      by_cases hwn : w = c.hired
      · rw [hwn, hjob]
        simp [Job.launch, Job.Snapshot.launch]
      · have hlt : w < c.hired := Nat.lt_of_le_of_ne (Nat.le_of_lt_succ hw) hwn
        have hbase := h.started w hlt
        by_cases hwi : (c.workers w).streamer = i
        · simp [job, Crew.place, Crew.launch, hwn, hwi, Job.launch, Job.Snapshot.launch]
        · simpa [job, Crew.place, Crew.launch, hwn, hwi] using hbase
    quiet := by
      intro hoff
      refine absurd (CallsOff.of_place (c := c.launch i name p) ?_ hoff) hquiet
      simp }

/-- A thread's move gives nobody the link, and may give it back. -/
theorem has_work (c : Crew) {w : Nat} {a : Act} (hmove : a.isWork = true)
    (hfit : a.Fits (c.job w)) {x : Owner} (hx : (c.work w a).Has x) :
    c.Has x ∧ (a.releases = true → x ≠ .worker w) := by
  cases x with
  | caller n => exact ⟨hx, by simp⟩
  | worker v =>
    by_cases hvw : v = w
    · subst hvw
      rw [Has, job_work_self c hmove hfit, Act.holds_onJob hfit (Act.not_launch_of_isWork hmove),
        Bool.and_eq_true] at hx
      exact ⟨hx.1, fun hrelease => by simp [hrelease] at hx⟩
    · refine ⟨?_, fun _ hsame => hvw (Owner.worker.inj hsame)⟩
      simpa [Has, job, Job.holds, work, hvw] using hx

/-- While another thread owns the link, a thread's move is its end. -/
theorem work_of_other (h : c.Owned) {w : Nat} {a : Act} (hmove : a.isWork = true)
    (hfit : a.Fits (c.job w)) {x : Owner} (hx : c.Has x) (hne : x ≠ .worker w) :
    a.releases = false ∧ a.onJob (c.job w) = { c.job w with stage := .gone } := by
  refine Act.onJob_of_not_holds hmove hfit (eq_false_of_ne_true fun hholds => hne ?_)
  exact h.one x (.worker w) hx hholds

/-- The move of one thread is not seen by another that owns the link. -/
theorem job_work_of_other (h : c.Owned) {w v : Nat} {a : Act} (hmove : a.isWork = true)
    (hfit : a.Fits (c.job w)) (hv : c.Has (.worker v)) (hvw : v ≠ w) :
    (c.work w a).job v = c.job v := by
  have hend := (h.work_of_other hmove hfit hv (by simpa using hvw)).2
  have hworker : (c.work w a).workers v = c.workers v := by simp [Crew.work, hvw]
  have hsnapshot : ((c.work w a).streamers (c.workers v).streamer).snapshot =
      (c.streamers (c.workers v).streamer).snapshot := by
    rw [snapshot_work]
    split
    · rename_i hs
      rw [hend, hs]
      rfl
    · rfl
  simp only [job, hworker, hsnapshot]

/-- The thread of a job makes a move. -/
theorem work (h : c.Owned) {w : Nat} {a : Act} (hmove : a.isWork = true)
    (hlets : c.link.lets a) (hfit : a.Fits (c.job w)) : (c.work w a).Owned := by
  have hlaunch := Act.not_launch_of_isWork hmove
  have hlink := Act.onLink_of_isWork hmove c.link.slot c.link.claimed
  have hlines := Act.lines_onJob hmove hfit
  -- no job becomes active, so while waits are called off none is
  have hbefore : ∀ i, ((c.work w a).streamers i).snapshot.isActive = true →
      (c.streamers i).snapshot.isActive = true := by
    intro i hi
    rw [snapshot_work] at hi
    split at hi
    · rename_i hiw
      rw [hiw]
      exact Act.isActive_of_onJob hfit hlaunch hi
    · exact hi
  have hquiet : c.link.slot.cancelled = true → ∀ i, (c.streamers i).snapshot.isActive = false :=
    fun hcancelled => (h.quiet (.inl hcancelled)).1
  exact {
    one := fun x y hx hy => h.one x y (has_work c hmove hfit hx).1 (has_work c hmove hfit hy).1
    claimed := by
      intro x hx
      obtain ⟨hhas, hrelease⟩ := has_work c hmove hfit hx
      -- whoever owns the link after the move has not given it back, and no other could
      have hkeeps : a.releases = false := by
        by_cases hxw : x = .worker w
        · exact eq_false_of_ne_true fun hr => hrelease hr hxw
        · exact (h.work_of_other hmove hfit hhas hxw).1
      show a.onClaim c.link.claimed = true
      rw [hlink.2, h.claimed x hhas, hkeeps]
      rfl
    last := fun v hv => h.last v (has_work c hmove hfit hv).1
    total := by
      intro v hv
      have hhas := (has_work c hmove hfit hv).1
      by_cases hvw : v = w
      · subst hvw
        rw [job_work_self c hmove hfit, hlines.1, hlines.2]
        exact h.total v hhas
      · rw [h.job_work_of_other hmove hfit hhas hvw]
        exact h.total v hhas
    working := by
      intro i hi
      obtain ⟨v, hvi, hwork⟩ := h.working i (hbefore i hi)
      refine ⟨v, by rw [streamer_work, hvi], ?_⟩
      -- the thread that works goes on, unless its wait is called off, and then no job is active
      by_cases hvw : v = w
      · subst hvw
        rw [snapshot_work, if_pos hvi.symm] at hi
        rw [job_work_self c hmove hfit]
        refine Act.isWorking_onJob (h.total v (Job.holds_of_isWorking hwork)) hfit
          (fun _ => hwork) ?_ hi
        rintro k line rfl
        exact hquiet (Core.Owned.cancelled_of_check? hlets) _
      · rwa [isWorking_work_of_ne c a hvw]
    started := by
      intro v hv
      have hidle := h.started v hv
      simp only [job, streamer_work, snapshot_work] at hidle ⊢
      split
      · rename_i hvw
        exact Job.ne_idle_onJob hfit (hvw ▸ hidle)
      · exact hidle
    quiet := by
      intro hoff
      have hoff' : c.CallsOff := hoff.imp_left fun hcancelled => hlink.1 ▸ hcancelled
      obtain ⟨hnone, hfree⟩ := h.quiet hoff'
      refine ⟨fun i => eq_false_of_ne_true fun hi => ?_, hfree⟩
      simpa [hnone i] using hbefore i hi }

/-- No start takes the link between the two halves of a stop. -/
theorem next (h : c.Owned) {d : Deed} (hd : c.ClearOfStops d) (hstep : c.Steps d c') :
    c'.Owned := by
  cases hstep with
  | idles => exact h
  | turns n i call s hs => exact h.share (hs.imp_right .inl)
  | admits n i name p hn hlock => exact (h.hand i none true).place n (by simp) (by simp)
  | marks n i s hn hs => exact h.mark n hs
  | passes n i hn => exact h.place n (by simp) (by simp)
  | claims n i name p previous hn hprevious hfree =>
    exact h.claim n hfree (hd i (by simp [claims?, hn, hfree]))
  | loses n i name p previous hn hprevious =>
    exact (h.hand i none false).place n (by simp) (by simp)
  | launches n i name p hn => exact h.launch hn
  | cancels n i hn =>
    -- in the midst of a stop no job is active, so to call waits off concerns nobody
    have hcancel : Owned { c with link.slot := c.link.slot.cancel } :=
      h.relink rfl fun _ => h.quiet (.inr ⟨n, i, hn⟩)
    exact hcancel.place n (by simp) (by simp)
  | fetches n i hn hlock => exact (h.hand i none false).place n (by simp) (by simp)
  | leaves n i thread hn hthread halive => exact h.place n (by simp) (by simp)
  | works w a hmove hjob hlets hfit => exact h.work hmove hlets hfit
  | changes link hclaimed hcancelled =>
    exact h.relink hclaimed fun hoff => h.quiet (.inl (hcancelled ▸ hoff))

/-- In a new crew nobody owns anything. -/
theorem new : Owned {} where
  one x := by
    rintro y hx
    exact absurd hx (not_has_new x)
  claimed x hx := absurd hx (not_has_new x)
  last w hw := absurd hw (not_has_new _)
  total w hw := absurd hw (not_has_new _)
  working i hi := by cases hi
  started w hw := by cases hw
  quiet := by
    rintro (h | ⟨n, i, h⟩) <;> cases h

end Owned

end Crew

end GcodeSender
