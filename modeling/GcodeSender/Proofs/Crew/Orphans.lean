import GcodeSender.Proofs.Crew.Handles

/-!
# `GcodeSender.Proofs.Crew.Orphans`: a job and its thread end together

Whoever calls streamers relies on two things. A job whose thread has ended is stopped,
finished or halted, and a streamer that says that it has no thread has none. Both can fail,
because two pairs of steps are not made at once:

* A stop first ends the job, and then calls off waits. If the job's thread leaves in between,
  another start can take the link, and it is the new job's wait that is called off. Its
  thread leaves, and the job stays running.
* The thread of a job first gives the link back, and then says that it ends. If a stop has
  taken the thread's handle, the next start does not wait for the thread, and what the thread
  says is taken for the new one's end.

`stop_orphans_next_job` has a run for each. `no_orphaned_job` says that nothing else goes
wrong: of the crews that come about without the first, in all of them jobs end with their
threads, and of those that come about without the second, in all of them streamers know of
their threads. A caller who makes one call after another, while nobody else calls, runs into
neither.
-/

set_option autoImplicit false

namespace GcodeSender

/-- The deed is not a call by anyone else. -/
def Deed.isBy (n : Nat) : Deed → Bool
  | .calls m _ | .proceeds m => m = n
  | .works _ _ | .changes _ => true

namespace Crew

variable {c c' : Crew}

/-- The thread was started for the last job of the streamer. -/
def IsLatest (c : Crew) (i w : Nat) : Prop :=
  w < c.hired ∧ (c.workers w).streamer = i ∧ ∀ v < c.hired, w < v → (c.workers v).streamer ≠ i

instance (c : Crew) (i w : Nat) : Decidable (c.IsLatest i w) :=
  inferInstanceAs (Decidable (_ ∧ _ ∧ _))

/-- Once the thread of the last job is on its way to its end, the job is over: it was started,
and it would need a thread that works. -/
theorem Owned.isTerminal (h : c.Owned) {i w : Nat} (hw : c.IsLatest i w)
    (hend : (c.job w).isWorking = false) :
    (c.streamers i).snapshot.state.isTerminal = true := by
  obtain ⟨hhired, rfl, hlast⟩ := hw
  have hidle := h.started w hhired
  have hactive : (c.streamers (c.workers w).streamer).snapshot.isActive = false := by
    refine eq_false_of_ne_true fun hactive => ?_
    obtain ⟨v, hv, hwork⟩ := h.working _ hactive
    -- the thread that works was the last to be started, so it is this one
    have hv' := h.last v (Job.holds_of_isWorking hwork)
    rcases Nat.lt_or_eq_of_le (show w ≤ v by omega) with hlt | rfl
    · exact hlast v (by omega) hlt hv
    · rw [hend] at hwork
      cases hwork
  simp only [job, Job.Snapshot.isActive] at hidle hactive
  cases hs : (c.streamers (c.workers w).streamer).snapshot.state <;>
    simp_all [Job.RunState.isActive, Job.RunState.isTerminal]

/-- As long as no start falls into the middle of a stop, the link is owned as it should be. -/
theorem Reached.owned (h : c.Reached ClearOfStops) : c.Owned :=
  h.invariant .new fun _ _ _ howned hd hstep => howned.next hd hstep

/-- As long as no start takes the link while a stop of its streamer waits for a thread, all
threads are accounted for. -/
theorem Reached.accounted (h : c.Reached ClearOfJoins) : c.Accounted :=
  h.invariant .new fun _ _ _ haccounted hd hstep => haccounted.next hd hstep

/-! ### One caller -/

/-- All callers but one are between two calls. -/
def Solo (n : Nat) (c : Crew) : Prop := ∀ m, m ≠ n → c.callers m = .free

namespace Solo

variable {n : Nat} {d : Deed}

/-- A caller that goes on calls alone as before. -/
theorem place (h : c.Solo n) (p : Caller) : (c.place n p).Solo n := by
  intro m hm
  rw [callers_place_of_ne _ _ hm]
  exact h m hm

/-- Its own deeds, and those of the threads and the link, leave it alone. -/
theorem next (h : c.Solo n) (hd : d.isBy n = true) (hstep : c.Steps d c') : c'.Solo n := by
  cases hstep with
  | idles | turns | works | changes => exact h
  | _ =>
    obtain rfl : _ = n := by simpa [Deed.isBy] using hd
    exact place h _

/-- A caller who takes the link is not amid a stop. -/
theorem clear (h : c.Solo n) (hd : d.isBy n = true) : c.ClearOfStops d ∧ c.ClearOfJoins d := by
  -- the caller who takes the link has just been admitted, and all the others are free
  have hcallers : ∀ i, c.claims? d = some i → ∀ m,
      c.callers m = .free ∨ ∃ name p previous, c.callers m = .admitted i name p previous := by
    intro i hi m
    obtain ⟨k, name, p, previous, rfl, hk⟩ := admitted_of_claims? hi
    obtain rfl : k = n := by simpa [Deed.isBy] using hd
    by_cases hm : m = k
    · exact .inr ⟨name, p, previous, hm ▸ hk⟩
    · exact .inl (h m hm)
  constructor
  · intro i hi m k hm
    rcases hcallers i hi m with hfree | ⟨name, p, previous, hadmitted⟩
    · rw [hfree] at hm
      cases hm
    · rw [hadmitted] at hm
      cases hm
  · intro i hi m w hm
    rcases hcallers i hi m with hfree | ⟨name, p, previous, hadmitted⟩
    · rw [hfree] at hm
      cases hm
    · rw [hadmitted] at hm
      cases hm

end Solo

/-- While one caller makes all calls, no start falls into the middle of a stop. -/
theorem Reached.clear {n : Nat} (h : c.Reached fun _ d => d.isBy n = true) :
    c.Reached ClearOfStops ∧ c.Reached ClearOfJoins := by
  have hall : (c.Reached ClearOfStops ∧ c.Reached ClearOfJoins) ∧ c.Solo n := by
    induction h with
    | new => exact ⟨⟨.new, .new⟩, fun _ _ => rfl⟩
    | step _ hd hstep ih =>
      obtain ⟨⟨hstops, hjoins⟩, hsolo⟩ := ih
      have hclear := hsolo.clear hd
      exact ⟨⟨hstops.step hclear.1 hstep, hjoins.step hclear.2 hstep⟩,
        hsolo.next hd (steps_of_step? hstep)⟩
  exact hall.1

/-! ### What callers rely on -/

/-- Threads and jobs, whoever calls and in whatever order the steps are made:

* As long as no start takes the link between the two steps of a stop, the last job of a
  streamer is stopped, finished or halted once its thread leaves; and waits are called off
  only while no job is running or paused.
* As long as no start takes the link for a streamer while a stop waits for a thread of that
  streamer, a streamer that has no thread by its own account has none.
* Both is so where one caller makes all the calls. -/
theorem no_orphaned_job (c : Crew) :
    (c.Reached ClearOfStops →
      (∀ i w, c.IsLatest i w → (c.job w).isWorking = false →
        (c.streamers i).snapshot.state.isTerminal = true) ∧
      (c.link.slot.cancelled = true → ∀ i, (c.streamers i).snapshot.isActive = false)) ∧
    (c.Reached ClearOfJoins →
      ∀ i, (c.streamers i).alive = false → ∀ w, (c.workers w).streamer = i → c.IsGone w) ∧
    ∀ n, (c.Reached fun _ d => d.isBy n = true) →
      c.Reached ClearOfStops ∧ c.Reached ClearOfJoins := by
  refine ⟨fun h => ⟨fun i w hw hend => h.owned.isTerminal hw hend, fun hcancelled => ?_⟩,
    fun h i halive w hw => ?_, fun n h => h.clear⟩
  · exact (h.owned.quiet (.inl hcancelled)).1
  · refine Decidable.byContradiction fun hlive => ?_
    rw [← hw, h.accounted.alive w hlive] at halive
    cases halive

/-- A link that takes lines. -/
def online : Link := { state := .connected, isOpen := true, slot := { closed := false } }

/-- A caller starts a job, stops it, and starts one of another streamer. -/
def inTurn : List Deed :=
  [.changes online, .calls 0 (.start 0 "a" ⟨["G0"]⟩), .proceeds 0, .proceeds 0,
    .calls 0 (.stop 0), .proceeds 0, .works 0 (.moved 0 none), .works 0 (.released 0),
    .works 0 (.moved 0 none), .proceeds 0, .proceeds 0,
    .calls 0 (.start 1 "b" ⟨["G1"]⟩), .proceeds 0, .proceeds 0]

/-- The same calls one after the other, and nothing is left of the job. -/
theorem no_orphaned_job_inTurn :
    ∃ c ∈ after? {} inTurn, (c.streamers 0).snapshot.state.isTerminal = true ∧ c.IsGone 0 ∧
      c.link.slot.cancelled = false := by
  obtain ⟨c, hc, hlatest, hend, halive, hactive⟩ : ∃ c ∈ after? {} inTurn, c.IsLatest 0 0 ∧
      (c.job 0).isWorking = false ∧ (c.streamers 0).alive = false ∧
      (c.streamers 1).snapshot.isActive = true := by
    decide +kernel
  have hone : c.Reached fun _ d => d.isBy 0 = true := Reached.new.after? hc (by decide)
  have hreached := (no_orphaned_job c).2.2 0 hone
  obtain ⟨hterminal, hquiet⟩ := (no_orphaned_job c).1 hreached.1
  refine ⟨c, hc, hterminal 0 0 hlatest hend, ?_, ?_⟩
  · exact (no_orphaned_job c).2.1 hreached.2 0 halive 0 hlatest.2.1
  · exact eq_false_of_ne_true fun hcancelled => by simp [hquiet hcancelled 1] at hactive

/-- Caller 1 stops the first job. Its thread leaves before caller 1 calls off waits, caller 0
starts a second job, and then it is that job's wait that is called off. -/
def lateCancel : List Deed :=
  [.changes online, .calls 0 (.start 0 "a" ⟨["G0"]⟩), .proceeds 0, .proceeds 0,
    .calls 1 (.stop 0), .works 0 (.moved 0 none), .works 0 (.released 0),
    .calls 0 (.start 1 "b" ⟨["G1"]⟩), .proceeds 0, .proceeds 0,
    .proceeds 1,
    .works 1 (.moved 1 none), .works 1 (.armed 1 "G1"), .works 1 (.wrote 1 "G1" []),
    .works 1 (.returned 1 "G1" none), .works 1 (.took 1 "G1" .cancelled),
    .works 1 (.released 1), .works 1 (.moved 1 none)]

/-- Caller 1 stops the first job and takes its handle. The thread gives the link back, caller 0
starts a second job of the same streamer, and then the first thread says that it ends. -/
def lateEnd : List Deed :=
  [.changes online, .calls 0 (.start 0 "a" ⟨["G0"]⟩), .proceeds 0, .proceeds 0,
    .calls 1 (.stop 0), .proceeds 1, .proceeds 1,
    .works 0 (.moved 0 none), .works 0 (.released 0),
    .calls 0 (.start 0 "b" ⟨["G1"]⟩), .proceeds 0, .proceeds 0,
    .works 0 (.moved 0 none)]

/-- The thread of the second job has ended, and the job is running. Or it works, and its
streamer says that it has none. -/
theorem stop_orphans_next_job :
    (∃ c ∈ after? {} lateCancel, (c.Reached fun _ _ => True) ∧ c.IsLatest 1 1 ∧ c.IsGone 1 ∧
      (c.streamers 1).snapshot.state = .running) ∧
    ∃ c ∈ after? {} lateEnd, (c.Reached fun _ _ => True) ∧ (c.workers 1).streamer = 0 ∧
      ¬ c.IsGone 1 ∧ (c.streamers 0).alive = false := by
  obtain ⟨⟨c, hc, horphan⟩, c', hc', hhidden⟩ :
      (∃ c ∈ after? {} lateCancel, c.IsLatest 1 1 ∧ c.IsGone 1 ∧
        (c.streamers 1).snapshot.state = .running) ∧
      ∃ c ∈ after? {} lateEnd, (c.workers 1).streamer = 0 ∧ ¬ c.IsGone 1 ∧
        (c.streamers 0).alive = false := by
    decide +kernel
  exact ⟨⟨c, hc, Reached.new.after? hc fun _ _ => trivial, horphan⟩,
    ⟨c', hc', Reached.new.after? hc' fun _ _ => trivial, hhidden⟩⟩

end Crew

end GcodeSender
