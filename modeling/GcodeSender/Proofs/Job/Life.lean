import GcodeSender.Proofs.Session.Acts

/-!
# `GcodeSender.Proofs.Job.Life`: what a job's thread does

`Job.move` says what a job's thread does next, by cases on where it stands and on
the snapshot that it shares. The inversions here say the same from the other side,
so that no later proof opens `Job.move`:

* `stage_of_move`: what a thread asks of the link says where it stands.
* `steps_of_own?`: a step of the job's own is one of the ten in `Job.Steps`.
* `isStill_cases`: a thread that waits for another stands at one of five places.
* `check?_of_rests`: and where it waits for an answer, there is none yet.
-/

set_option autoImplicit false

namespace GcodeSender.Job

/-- A job is active where it runs and where it is held. -/
theorem isActive_eq (j : Job) :
    j.isActive = decide (j.snapshot.state = .running ∨ j.snapshot.state = .paused) := by
  rw [isActive, Snapshot.isActive]
  cases j.snapshot.state <;> rfl

/-! ### What the operator does to a job -/

/-- A pause of a running job changes its state and reports it. -/
theorem pause_of_running {j : Job} (h : j.snapshot.state = .running) :
    j.pause = ({ j with snapshot := { j.snapshot with state := .paused } },
      announce "Job paused" "Paused") := by
  simp [pause, Snapshot.pause?, h]

/-- So does the end of a pause. -/
theorem resume_of_paused {j : Job} (h : j.snapshot.state = .paused) :
    j.resume = ({ j with snapshot := { j.snapshot with state := .running } },
      announce "Job resumed" "Resumed") := by
  simp [resume, Snapshot.resume?, h]

/-- And so does a stop of a job that has not ended. -/
theorem requestStop_of_active {j : Job} (h : j.isActive = true) :
    j.requestStop = ({ j with snapshot := { j.snapshot with state := .stopped } },
      announce "Job stopped" "Stopped") := by
  rw [isActive] at h
  simp [requestStop, Snapshot.stop?, h]

/-! ### What the link does to a job -/

/-- The result of a write is no part of the snapshot. -/
@[simp] theorem snapshot_sent (j : Job) (line : String) (result : Except LinkError Unit) :
    (j.sent line result).snapshot = j.snapshot := by
  cases result <;> rfl

/-- Neither is the end of a wait, before the thread decides about it. -/
@[simp] theorem snapshot_answered (j : Job) (outcome : Link.Outcome) :
    (j.answered outcome).snapshot = j.snapshot := by
  cases outcome with
  | answer a =>
    simp only [answered]
    split <;> rfl
  | closed | cancelled => rfl

/-! ### What a thread does -/

/-- What a thread asks of the link says where it stands. -/
theorem stage_of_move (j : Job) :
    match j.move with
    | .rest | .own _ _ => True
    | .arm => ∃ line, j.stage = .arming line
    | .send line => j.stage = .sending line
    | .await => ∃ line, j.stage = .awaiting line
    | .release => j.stage = .releasing := by
  cases hs : j.stage with
  | gone | arming | sending | hanging | awaiting | releasing | retiring => simp [move, hs]
  | deciding =>
    cases hd : j.snapshot.decide with
    | send => cases hl : j.lines[j.snapshot.cursor]? <;> simp [move, hs, hd, hl]
    | _ => simp [move, hs, hd]
  | crediting => cases hc : j.snapshot.credit? <;> simp [move, hs, hc]
  | failing kind message =>
    by_cases hp : j.snapshot.state = .paused
    · simp [move, hs, hp]
    · by_cases hr : j.snapshot.state = .running <;> simp [move, hs, hp, hr]
  | parked => by_cases hp : j.snapshot.state = .paused <;> simp [move, hs, hp]

/-- The steps of a job's own, with the progress that each reports. -/
inductive Steps (j : Job) : Job → Option Progress → Prop
  | finish (hs : j.stage = .deciding) (hr : j.snapshot.state = .running)
      (hc : j.snapshot.total ≤ j.snapshot.cursor) :
      Steps j { j with snapshot := { j.snapshot with state := .finished }
                       stage := .releasing } none
  | leave (hs : j.stage = .deciding) (hr : j.snapshot.state ≠ .running)
      (hp : j.snapshot.state ≠ .paused) : Steps j { j with stage := .releasing } none
  | choose (line : String) (hs : j.stage = .deciding) (hr : j.snapshot.state = .running)
      (hl : j.lines[j.snapshot.cursor]? = some line) :
      Steps j { j with stage := .arming line } none
  | lack (hs : j.stage = .deciding) (hc : j.snapshot.cursor < j.snapshot.total)
      (hl : j.lines[j.snapshot.cursor]? = none) : Steps j { j with stage := .releasing } none
  | count (hs : j.stage = .crediting) (ha : j.isActive = true) :
      Steps j { j with snapshot := { j.snapshot with cursor := j.snapshot.cursor + 1 }
                       stage := .deciding }
        (some ⟨j.snapshot.cursor + 1, j.snapshot.total⟩)
  | forgo (hs : j.stage = .crediting) (ha : j.isActive = false) :
      Steps j { j with stage := .releasing } none
  | park (kind : ErrorKind) (message : String) (hs : j.stage = .failing kind message)
      (hp : j.snapshot.state = .paused) : Steps j { j with stage := .parked } none
  | fail (kind : ErrorKind) (message : String) (hs : j.stage = .failing kind message)
      (hp : j.snapshot.state ≠ .paused) :
      Steps j { j with snapshot := j.snapshot.fail, stage := .releasing } none
  | wake (hs : j.stage = .parked) (hp : j.snapshot.state ≠ .paused) :
      Steps j { j with snapshot := j.snapshot.fail, stage := .releasing } none
  | retire (hs : j.stage = .retiring) : Steps j { j with stage := .gone } none

/-- A failure reports no progress. -/
theorem findSome?_failureNotes (kind : ErrorKind) (message : String) :
    (failureNotes kind message).findSome? Note.progress? = none := rfl

/-- A complete job reports no further progress. -/
theorem findSome?_finishNotes (total : Nat) :
    (finishNotes total).findSome? Note.progress? = none := rfl

/-- A counted line is reported as progress. -/
theorem findSome?_progressNotes (s : Snapshot) :
    (progressNotes s).findSome? Note.progress? = some s.progress := rfl

/-- A step of the job's own is one of the ten. -/
theorem steps_of_own? {j next : Job} {p : Option Progress} (h : j.own? = some (next, p)) :
    j.Steps next p := by
  unfold own? move at h
  cases hs : j.stage with
  | gone | arming | sending | hanging | awaiting | releasing => simp [hs] at h
  | deciding =>
    cases hr : j.snapshot.state with
    | paused => simp [hs, Snapshot.decide, hr] at h
    | running =>
      by_cases hc : j.snapshot.total ≤ j.snapshot.cursor
      · simp only [hs, Snapshot.decide, hr, hc, if_true, findSome?_finishNotes, Option.some.injEq,
          Prod.mk.injEq] at h
        obtain ⟨rfl, rfl⟩ := h
        exact .finish hs hr hc
      · cases hl : j.lines[j.snapshot.cursor]? with
        | some line =>
          obtain ⟨rfl, rfl⟩ : _ = next ∧ none = p := by
            simpa [hs, Snapshot.decide, hr, hc, hl] using h
          exact .choose line hs hr hl
        | none =>
          obtain ⟨rfl, rfl⟩ : _ = next ∧ none = p := by
            simpa [hs, Snapshot.decide, hr, hc, hl] using h
          exact .lack hs (Nat.lt_of_not_le hc) hl
    | idle | stopped | finished | errored =>
      obtain ⟨rfl, rfl⟩ : _ = next ∧ none = p := by
        simpa [hs, Snapshot.decide, hr] using h
      exact .leave hs (by simp [hr]) (by simp [hr])
  | crediting =>
    by_cases ha : j.snapshot.isActive = true
    · obtain ⟨rfl, rfl⟩ : _ = next ∧ _ = p := by
        simpa [hs, Snapshot.credit?, ha, findSome?_progressNotes] using h
      exact .count hs ha
    · obtain ⟨rfl, rfl⟩ : _ = next ∧ none = p := by
        simpa [hs, Snapshot.credit?, ha] using h
      exact .forgo hs (by simpa [isActive] using ha)
  | failing kind message =>
    by_cases hp : j.snapshot.state = .paused
    · obtain ⟨rfl, rfl⟩ : _ = next ∧ none = p := by
        simpa [hs, hp, findSome?_failureNotes] using h
      exact .park kind message hs hp
    · by_cases hr : j.snapshot.state = .running
      · obtain ⟨rfl, rfl⟩ : _ = next ∧ none = p := by
          simpa [hs, hr, findSome?_failureNotes] using h
        exact .fail kind message hs hp
      · obtain ⟨rfl, rfl⟩ : _ = next ∧ none = p := by simpa [hs, hp, hr] using h
        -- after a stop nothing is reported, and the snapshot is as if it had failed
        have hfail : j.snapshot.fail = j.snapshot := by simp [Snapshot.fail, hr]
        have := Steps.fail kind message hs hp
        rwa [hfail] at this
  | parked =>
    by_cases hp : j.snapshot.state = .paused
    · simp [hs, hp] at h
    · obtain ⟨rfl, rfl⟩ : _ = next ∧ none = p := by simpa [hs, hp] using h
      exact .wake hs hp
  | retiring =>
    obtain ⟨rfl, rfl⟩ : _ = next ∧ none = p := by simpa [hs] using h
    exact .retire hs

/-- A thread reports something only while its job is running or paused: a line counted,
the end of the program, or a failure. -/
theorem notes_cases {j next : Job} {notes : List Note} (h : j.move = .own next notes) :
    notes = [] ∨ j.isActive = true ∧
      ((∃ s, notes = progressNotes s) ∨ (∃ total, notes = finishNotes total) ∨
        ∃ kind message, notes = failureNotes kind message) := by
  unfold move at h
  cases hs : j.stage with
  | gone | arming | sending | hanging | awaiting | releasing => simp [hs] at h
  | deciding =>
    rw [hs] at h
    cases hr : j.snapshot.state with
    | paused => simp [Snapshot.decide, hr] at h
    | running =>
      have hactive : j.isActive = true := by
        simp [isActive_eq, hr]
      -- the end of the program is reported, the choice of a line is not
      by_cases hc : j.snapshot.total ≤ j.snapshot.cursor
      · simp only [Snapshot.decide, hr, hc, if_true, Move.own.injEq] at h
        exact .inr ⟨hactive, .inr (.inl ⟨_, h.2.symm⟩)⟩
      · cases hl : j.lines[j.snapshot.cursor]? <;>
          (simp only [Snapshot.decide, hr, hc, if_false, hl, Move.own.injEq] at h
           exact .inl h.2.symm)
    | idle | stopped | finished | errored =>
      simp only [Snapshot.decide, hr, Move.own.injEq] at h
      exact .inl h.2.symm
  | crediting =>
    by_cases ha : j.snapshot.isActive = true
    · simp only [hs, Snapshot.credit?, ha, if_true, Move.own.injEq] at h
      exact .inr ⟨ha, .inl ⟨_, h.2.symm⟩⟩
    · simp only [hs, Snapshot.credit?, ha, if_false, Move.own.injEq, Bool.false_eq_true] at h
      exact .inl h.2.symm
  | failing kind message =>
    simp only [hs] at h
    have hactive : j.snapshot.state = .paused ∨ j.snapshot.state = .running →
        j.isActive = true := by
      rintro (hstate | hstate) <;>
        simp [isActive_eq, hstate]
    split at h
    · rename_i hp
      exact .inr ⟨hactive (.inl hp), .inr (.inr ⟨kind, message, (Move.own.inj h).2.symm⟩)⟩
    · split at h
      · rename_i hr
        exact .inr ⟨hactive (.inr hr), .inr (.inr ⟨kind, message, (Move.own.inj h).2.symm⟩)⟩
      · exact .inl (Move.own.inj h).2.symm
  | parked =>
    by_cases hp : j.snapshot.state = .paused
    · simp [hs, hp] at h
    · simp only [hs, hp, if_false, Move.own.injEq] at h
      exact .inl h.2.symm
  | retiring =>
    simp only [hs, Move.own.injEq] at h
    exact .inl h.2.symm

/-- A job that takes a step of its own takes one of the ten. -/
theorem steps_of_moved {i : Nat} {p : Option Progress} {j : Job} (h : (Act.moved i p).Fits j) :
    ∃ next, (Act.moved i p).onJob j = next ∧ j.Steps next p := by
  obtain ⟨⟨next, p'⟩, hown, rfl⟩ := Option.map_eq_some_iff.mp h
  exact ⟨next, by simp [Act.onJob, hown], steps_of_own? hown⟩

/-- A line that is being written hangs in its write. -/
theorem hanging_of_writing? {j : Job} {line : String} (h : j.writing? = some line) :
    ∃ rest, j.stage = .hanging line rest := by
  unfold writing? at h
  split at h
  · rename_i rest hs
    exact ⟨rest, by rw [hs, Option.some.inj h]⟩
  · cases h

/-- A write that hangs is the write of a line, of which something is left. -/
theorem hanging_of_isHanging {j : Job} (h : j.isHanging = true) :
    ∃ line rest, j.stage = .hanging line rest := by
  unfold isHanging at h
  split at h
  · rename_i line rest hs
    exact ⟨line, rest, hs⟩
  · cases h

/-- A thread that waits for another thread has ended, is held up by the operator, or
waits at the link. -/
theorem isStill_cases {j : Job} (h : j.isStill = true) :
    j.stage = .gone ∨ (j.stage = .deciding ∧ j.snapshot.state = .paused) ∨
      (∃ line rest, j.stage = .hanging line rest) ∨ (∃ line, j.stage = .awaiting line) ∨
      (j.stage = .parked ∧ j.snapshot.state = .paused) := by
  unfold isStill move at h
  cases hs : j.stage with
  | gone | hanging | awaiting => simp
  | deciding =>
    cases hr : j.snapshot.state with
    | paused => simp
    | running =>
      -- a running job has a line to choose, or its end to report
      exfalso
      by_cases hc : j.snapshot.total ≤ j.snapshot.cursor
      · simp [hs, Snapshot.decide, hr, hc] at h
      · cases hl : j.lines[j.snapshot.cursor]? <;> simp [hs, Snapshot.decide, hr, hc, hl] at h
    | idle | stopped | finished | errored => simp [hs, Snapshot.decide, hr] at h
  | crediting =>
    cases hc : j.snapshot.credit? <;> simp [hs, hc] at h
  | failing kind message =>
    by_cases hp : j.snapshot.state = .paused
    · simp [hs, hp] at h
    · by_cases hr : j.snapshot.state = .running <;> simp [hs, hp, hr] at h
  | parked =>
    by_cases hp : j.snapshot.state = .paused
    · simp [hp]
    · simp [hs, hp] at h
  | arming | sending | releasing | retiring => simp [hs] at h

/-- A thread at rest has no move left, whatever is in the slot. -/
theorem isStill_of_rests {slot : Link.Slot} {j : Job} (h : j.rests slot = true) :
    j.isStill = true := by
  unfold rests at h
  unfold isStill
  split at h <;> simp_all

/-- Where a thread at rest waits for an answer, there is none yet, and no reason to
wait no longer. -/
theorem check?_of_rests {slot : Link.Slot} {j : Job} {line : String} (h : j.rests slot = true)
    (hs : j.stage = .awaiting line) : slot.check? = none := by
  simpa [rests, move, hs] using h

/-- No act takes a job back to where it was never started. -/
theorem ne_idle_onJob {j : Job} {a : Act} (hfit : a.Fits j) (h : j.snapshot.state ≠ .idle) :
    (a.onJob j).snapshot.state ≠ .idle := by
  cases a with
  | opened | dropped | closed | broke | heard | noted | signalled | withheld | meddled => exact h
  | wrote | yielded | refused | released => exact h
  | launched => simp [Act.onJob, launch, Snapshot.launch]
  | abandoned => simp [Act.onJob, Job.abandoned]
  | paused i => simp [Act.onJob, pause_of_running hfit]
  | resumed i => simp [Act.onJob, resume_of_paused hfit.1]
  | stopped i => simp [Act.onJob, requestStop_of_active hfit.1]
  | armed i line =>
    replace hfit : j.stage = .arming line := hfit
    simpa [Act.onJob, armed, hfit] using h
  | returned i line failure => cases failure <;> exact h
  | took i line outcome =>
    cases outcome with
    | answer ans =>
      simp only [Act.onJob, answered]
      split <;> exact h
    | closed | cancelled => exact h
  | moved i p =>
    obtain ⟨next, hnext, hsteps⟩ := steps_of_moved hfit
    -- a failure halts a running job and leaves any other as it is
    have hfail : j.snapshot.fail.state ≠ .idle := by
      unfold Snapshot.fail
      split
      · simp
      · exact h
    rw [hnext]
    cases hsteps with
    | finish => simp
    | fail | wake => exact hfail
    | _ => exact h

end GcodeSender.Job
