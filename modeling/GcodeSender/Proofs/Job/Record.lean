import GcodeSender.Proofs.Job.Life

/-!
# `GcodeSender.Proofs.Job.Record`: the record of a job

A job keeps a cursor and a stage. What it has done since it was started is more:
the lines that it handed to the link, how its waits ended, the progress that it
reported. `Record` collects that from the job's acts, and `Keeps` relates it to the
job, wherever its thread stands:

* the lines handed over are a beginning of the program, as long as the cursor or
  one longer;
* the waits up to the cursor ended with an answer that accepts, and none after it;
* the progress reported is one report for each line up to the cursor.

`Keeps.add` is the step: every act that fits a job keeps this. `Lives.keeps` is the
run. Nothing here looks at the slot, so a job keeps its record in order whatever
the link tells it.
-/

set_option autoImplicit false

namespace GcodeSender

/-- The given job is started. -/
def Act.launches (i : Nat) : Act → Bool
  | .launched k _ _ => k = i
  | _ => false

/-- A wait that ended with an answer that accepts the line. -/
def Link.Outcome.accepts : Link.Outcome → Bool
  | .answer a => Machine.isAccepted a
  | .closed | .cancelled => false

namespace Job

/-- The reports of the first `n` lines of a program. -/
def counted (n total : Nat) : List Progress := (List.range n).map fun k => ⟨k + 1, total⟩

/-- One line more is counted with one report more. -/
theorem counted_succ (n total : Nat) :
    counted (n + 1) total = counted n total ++ [⟨n + 1, total⟩] := by
  simp [counted, List.range_succ]

/-- What a job has done since it was started. -/
structure Record where
  /-- The lines of its program. -/
  program : List String := []
  /-- The lines that it handed to the link, in order. -/
  handed : List String := []
  /-- The lines that it waited for, in order, and how each wait ended. What comes after
  it was stopped is not for it. -/
  outcomes : List (String × Link.Outcome) := []
  /-- The progress that it reported, in order. -/
  progress : List Progress := []
  /-- It was stopped. -/
  stopped : Bool := false
  /-- One of its lines could not be written, or it got no thread. -/
  broken : Bool := false
deriving DecidableEq

/-- The job's thread has not come to its end: it may still hand over lines. -/
def isWorking (j : Job) : Bool :=
  match j.stage with
  | .releasing | .retiring | .gone => false
  | _ => true

namespace Record

/-- The record after one more act of the job. -/
def add (r : Record) : Act → Record
  | .launched _ _ p => { program := p.lines }
  | .abandoned _ => { r with broken := true }
  | .stopped _ => { r with stopped := true }
  | .wrote _ line _ => { r with handed := r.handed ++ [line] }
  | .refused _ line => { r with handed := r.handed ++ [line], broken := true }
  | .returned _ _ failure => { r with broken := r.broken || failure.isSome }
  | .took _ line outcome =>
    if r.stopped then r else { r with outcomes := r.outcomes ++ [(line, outcome)] }
  | .moved _ p => { r with progress := r.progress ++ p.toList }
  | _ => r

/-- The record of a job, from the acts of a session. -/
def ofJob (i : Nat) (acts : List Act) : Record := (Act.deeds i acts).foldl add {}

/-! ### The record since the start -/

/-- The record of a job from the acts since it was started on a program. -/
def since (i : Nat) (p : Program) (acts : List Act) : Record :=
  (Act.deeds i acts).foldl add { program := p.lines }

/-- Of later acts the record takes those of its own job. -/
theorem since_append (i : Nat) (p : Program) (acts more : List Act) :
    since i p (acts ++ more) =
      (Act.deeds i more).foldl add (since i p acts) := by
  simp [since, Act.deeds]

/-- A start forgets what was on record. -/
theorem ofJob_launched (i : Nat) (name : String) (p : Program) (before acts : List Act) :
    ofJob i (before ++ .launched i name p :: acts) = since i p acts := by
  simp [ofJob, since, Act.deeds, Act.job?, add]

/-- Only a start gives a record another program. -/
theorem add_program {r : Record} {a : Act} {i : Nat} (hi : a.job? = some i)
    (ha : a.launches i = false) : (r.add a).program = r.program := by
  cases a with
  | launched k name p => simp_all [Act.job?, Act.launches]
  | took k line o =>
    simp only [add]
    split <;> rfl
  | _ => rfl

/-- The program on record is the one that the job was started on. -/
theorem since_program {i : Nat} (p : Program) {acts : List Act}
    (h : ∀ a ∈ acts, a.launches i = false) : (since i p acts).program = p.lines := by
  induction acts using List.reverseRecOn with
  | nil => rfl
  | append_singleton acts a ih =>
    have hacts := ih fun b hb => h b (List.mem_append_left _ hb)
    rw [since_append]
    by_cases hi : a.job? = some i
    · have hdeeds : Act.deeds i [a] = [a] := by simp [Act.deeds, hi]
      rw [hdeeds, ← hacts]
      exact add_program hi (h a (by simp))
    · have hdeeds : Act.deeds i [a] = [] := by simp [Act.deeds, hi]
      rw [hdeeds]
      exact hacts

/-! ### What is on record where a thread stands -/

/-- The wait for the line with index `k` ended badly, or the line was never waited
for: it could not be written, or the job was stopped. -/
def Failed (r : Record) (k : Nat) : Prop :=
  (∀ o ∈ r.outcomes.drop k, o.2.accepts = false) ∧
    (r.stopped = true ∨ r.broken = true ∨ r.outcomes.length = k + 1)

/-- What the record holds where the job's thread stands. Each line is handed over
between `sending` and `hanging`, its wait ends between `awaiting` and `crediting`
or `failing`, and the cursor moves between `crediting` and `deciding`. -/
def Stands (r : Record) (j : Job) : Prop :=
  match j.stage with
  | .deciding => r.handed.length = j.snapshot.cursor ∧ r.outcomes.length = j.snapshot.cursor
  | .arming line | .sending line =>
    j.lines[j.snapshot.cursor]? = some line ∧ r.handed.length = j.snapshot.cursor ∧
      r.outcomes.length = j.snapshot.cursor
  | .hanging line _ | .awaiting line =>
    j.lines[j.snapshot.cursor]? = some line ∧ r.handed.length = j.snapshot.cursor + 1 ∧
      r.outcomes.length = j.snapshot.cursor
  | .crediting =>
    r.handed.length = j.snapshot.cursor + 1 ∧
      if r.stopped then r.outcomes.length = j.snapshot.cursor
      else ∃ o, r.outcomes.drop j.snapshot.cursor = [o] ∧ o.2.accepts = true
  | .failing _ _ | .parked =>
    r.handed.length = j.snapshot.cursor + 1 ∧ r.Failed j.snapshot.cursor
  | .releasing | .retiring | .gone =>
    (r.handed.length = j.snapshot.cursor ∨ r.handed.length = j.snapshot.cursor + 1) ∧
      (∀ o ∈ r.outcomes.drop j.snapshot.cursor, o.2.accepts = false) ∧
      (j.snapshot.state = .errored → r.Failed j.snapshot.cursor)

end Record

/-- A job and its record agree. -/
structure Keeps (r : Record) (j : Job) : Prop where
  program : r.program = j.lines
  total : j.snapshot.total = j.lines.length
  stopped : r.stopped = true ↔ j.snapshot.state = .stopped
  progress : r.progress = counted j.snapshot.cursor j.snapshot.total
  handed : r.handed = j.lines.take r.handed.length
  cursor : j.snapshot.cursor ≤ r.outcomes.length
  answered : r.outcomes.length ≤ r.handed.length
  accepted : ∀ o ∈ r.outcomes.take j.snapshot.cursor, o.2.accepts = true
  waited : r.outcomes.map (·.1) = j.lines.take r.outcomes.length
  finished : j.snapshot.state = .finished → j.snapshot.cursor = j.snapshot.total
  working : j.isWorking = true →
    j.snapshot.state = .running ∨ j.snapshot.state = .paused ∨ j.snapshot.state = .stopped
  stands : r.Stands j

namespace Keeps

variable {r : Record} {j : Job}

/-- No more lines are handed over than there are. -/
theorem handed_le (h : Keeps r j) : r.handed.length ≤ j.lines.length := by
  have := congrArg List.length h.handed
  rw [List.length_take] at this
  omega

/-- No more are counted than there are. -/
theorem cursor_le (h : Keeps r j) : j.snapshot.cursor ≤ j.snapshot.total := by
  have := h.handed_le
  have := h.cursor
  have := h.answered
  rw [h.total]
  omega

/-- A job that was never started has nothing on record. -/
theorem new : Keeps {} {} where
  program := rfl
  total := rfl
  stopped := by decide
  progress := rfl
  handed := rfl
  cursor := Nat.le_refl _
  answered := Nat.le_refl _
  accepted := by simp
  waited := rfl
  finished := by intro h; cases h
  working := by intro h; cases h
  stands := by simp [Record.Stands]

/-- A job that is started has nothing on record but its program. -/
theorem launch (name : String) (p : Program) :
    Keeps { program := p.lines } (Job.launch name p) where
  program := rfl
  total := rfl
  stopped := by simp [Job.launch, Snapshot.launch]
  progress := rfl
  handed := rfl
  cursor := Nat.le_refl _
  answered := Nat.le_refl _
  accepted := by simp
  waited := rfl
  finished := by intro h; cases h
  working := fun _ => .inl rfl
  stands := ⟨rfl, rfl⟩

/-- A thread that may still hand over lines is stopped, or its job is active. -/
theorem stopped_of_not_active (h : Keeps r j) (hw : j.isWorking = true)
    (ha : j.isActive = false) : j.snapshot.state = .stopped := by
  rcases h.working hw with hs | hs | hs
  · simp [isActive, Snapshot.isActive, RunState.isActive, hs] at ha
  · simp [isActive, Snapshot.isActive, RunState.isActive, hs] at ha
  · exact hs

/-- A running or paused job has not been stopped. -/
theorem not_stopped_of_active (h : Keeps r j) (ha : j.isActive = true) : r.stopped = false := by
  cases ho : r.stopped with
  | false => rfl
  | true => simp [isActive, Snapshot.isActive, RunState.isActive, h.stopped.mp ho] at ha

/-- Another thread changes the run state alone. -/
theorem withState (h : Keeps r j) {state : RunState} {stopped : Bool}
    (hstopped : stopped = true ↔ state = .stopped) (hmore : r.stopped = true → stopped = true)
    (hw : state = .running ∨ state = .paused ∨ state = .stopped)
    (hc : j.stage = .crediting → stopped = r.stopped) :
    Keeps { r with stopped } { j with snapshot := { j.snapshot with state } } :=
  { h with
    stopped := hstopped
    finished := by rintro rfl; simp at hw
    working := fun _ => hw
    stands := by
      have hstands := h.stands
      -- only where a line is about to be counted does it matter whether a stop came first
      cases hs : j.stage with
      | crediting => simpa [Record.Stands, hs, hc hs] using hstands
      | failing | parked =>
        simp only [Record.Stands, Record.Failed, hs] at hstands ⊢
        exact ⟨hstands.1, hstands.2.1, hstands.2.2.imp_left hmore⟩
      | releasing | retiring | gone =>
        simp only [Record.Stands, hs] at hstands ⊢
        exact ⟨hstands.1, hstands.2.1, by rintro rfl; simp at hw⟩
      | _ => simpa [Record.Stands, hs] using hstands }

/-- The thread goes on to another place, and nothing else changes. -/
theorem withStage (h : Keeps r j) {stage : Stage}
    (hw : j.isWorking = true ∨ stage = .retiring ∨ stage = .gone)
    (hs : r.Stands { j with stage }) : Keeps r { j with stage } :=
  { h with
    working := by
      rcases hw with hw | rfl | rfl
      · exact fun _ => h.working hw
      · intro hend; cases hend
      · intro hend; cases hend
    stands := hs }

/-- A write of the thread fails. -/
theorem withBroken (h : Keeps r j) (hs : { r with broken := true }.Stands j) :
    Keeps { r with broken := true } j :=
  { h with stands := hs }

/-- A job that has done nothing yet gets no thread. -/
theorem abandon (h : Keeps r j) (hs : j.stage = .deciding) (hr : j.snapshot.state = .running) :
    Keeps { r with broken := true } j.abandoned := by
  have hstands := h.stands
  simp only [Record.Stands, hs] at hstands
  have hstopped : r.stopped = false := h.not_stopped_of_active (by
    simp [isActive, Snapshot.isActive, RunState.isActive, hr])
  have hdrop := List.drop_of_length_le (Nat.le_of_eq hstands.2)
  exact { h with
    stopped := by simp [hstopped, Job.abandoned]
    finished := by intro hf; cases hf
    working := by intro hw; cases hw
    stands := by simp [Record.Stands, Record.Failed, Job.abandoned, hstands.1, hdrop] }

/-- The thread hands its line to the link. -/
theorem hand (h : Keeps r j) {line : String} (hline : j.stage = .sending line) {stage : Stage}
    {broken : Bool}
    (hs : { r with handed := r.handed ++ [line], broken }.Stands { j with stage }) :
    Keeps { r with handed := r.handed ++ [line], broken } { j with stage } := by
  have hstands := h.stands
  simp only [Record.Stands, hline] at hstands
  obtain ⟨hnext, hlen, hout⟩ := hstands
  -- the line at the cursor is the one after those handed over
  have hlt : j.snapshot.cursor < j.lines.length := (List.getElem?_eq_some_iff.mp hnext).1
  have hhanded : r.handed ++ [line] = j.lines.take (r.handed.length + 1) := by
    rw [List.take_add_one, ← h.handed, hlen, hnext]
    rfl
  exact { h with
    handed := by rw [List.length_append]; exact hhanded
    answered := by
      have := h.answered
      simp only [List.length_append]
      omega
    working := fun _ => h.working (by simp [isWorking, hline])
    stands := hs }

/-- The wait for the line at the cursor ends. After a stop its end is not on
record. -/
theorem hear (h : Keeps r j) {i : Nat} {line : String} (hline : j.stage = .awaiting line)
    (o : Link.Outcome) {stage : Stage} (hs : (r.add (.took i line o)).Stands { j with stage }) :
    Keeps (r.add (.took i line o)) { j with stage } := by
  have hw : j.isWorking = true := by simp [isWorking, hline]
  have hstands := h.stands
  simp only [Record.Stands, hline] at hstands
  obtain ⟨hnext, hlen, hout⟩ := hstands
  cases hstopped : r.stopped with
  | true =>
    have hadd : r.add (.took i line o) = r := by simp [Record.add, hstopped]
    rw [hadd] at hs ⊢
    exact h.withStage (.inl hw) hs
  | false =>
    have hadd : r.add (.took i line o) = { r with outcomes := r.outcomes ++ [(line, o)] } := by
      simp [Record.add, hstopped]
    rw [hadd] at hs ⊢
    exact { h with
      cursor := by simp [hout]
      -- the lines and the outcomes grow together, and the cursor stays behind both
      answered := by simp [hlen, hout]
      accepted := by
        rw [List.take_append_of_le_length (Nat.le_of_eq hout.symm)]
        exact h.accepted
      waited := by
        have hwaited := h.waited
        rw [List.map_append, List.length_append, hwaited, List.length_singleton,
          List.take_add_one, hout, hnext]
        rfl
      working := fun _ => h.working hw
      stands := hs }

/-- The line whose wait has ended is about to be counted, has failed, or is given
up. -/
theorem answered_add (h : Keeps r j) {i : Nat} {line : String}
    (hline : j.stage = .awaiting line) (o : Link.Outcome) :
    Keeps (r.add (.took i line o)) (j.answered o) := by
  have hstands := h.stands
  simp only [Record.Stands, hline] at hstands
  obtain ⟨-, hlen, hout⟩ := hstands
  have hhanded : (r.add (.took i line o)).handed.length = j.snapshot.cursor + 1 := by
    cases ho : r.stopped <;> simp [Record.add, ho, hlen]
  have hstopped : (r.add (.took i line o)).stopped = r.stopped := by
    cases ho : r.stopped <;> simp [Record.add, ho]
  have hlength : (r.add (.took i line o)).outcomes.length =
      if r.stopped then j.snapshot.cursor else j.snapshot.cursor + 1 := by
    cases ho : r.stopped <;> simp [Record.add, ho, hout]
  have hdrop : (r.add (.took i line o)).outcomes.drop j.snapshot.cursor =
      if r.stopped then [] else [(line, o)] := by
    cases ho : r.stopped <;> simp [Record.add, ho, ← hout]
  -- whatever is not an answer that accepts, the line has failed with it
  have hfailed (hbad : o.accepts = false) :
      (r.add (.took i line o)).Failed j.snapshot.cursor := by
    refine ⟨?_, ?_⟩
    · rw [hdrop]
      cases r.stopped <;> simp [hbad]
    · rw [hstopped, hlength]
      cases r.stopped <;> simp
  cases o with
  | answer a =>
    simp only [Job.answered]
    split
    · rename_i hacc
      refine h.hear hline _ ⟨hhanded, ?_⟩
      rw [hstopped, hlength]
      cases ho : r.stopped with
      | true => simp
      | false => exact ⟨(line, .answer a), by simpa [ho] using hdrop, hacc⟩
    · rename_i hacc
      exact h.hear hline _ ⟨hhanded, hfailed (by simpa [Link.Outcome.accepts] using hacc)⟩
  | closed => exact h.hear hline _ ⟨hhanded, hfailed rfl⟩
  | cancelled =>
    exact h.hear hline _ ⟨.inr hhanded, (hfailed rfl).1, fun _ => hfailed rfl⟩

/-- The answered line is counted. -/
theorem count (h : Keeps r j) (hs : j.stage = .crediting) (ha : j.isActive = true) :
    Keeps { r with progress := r.progress ++ [⟨j.snapshot.cursor + 1, j.snapshot.total⟩] }
      { j with snapshot := { j.snapshot with cursor := j.snapshot.cursor + 1 }
               stage := .deciding } := by
  have hstands := h.stands
  -- a job that is active was not stopped, so its last outcome is on record
  have hstopped := h.not_stopped_of_active ha
  simp only [Record.Stands, hs, hstopped, Bool.false_eq_true, if_false] at hstands
  obtain ⟨hlen, o, hdrop, hacc⟩ := hstands
  have hout : r.outcomes.length = j.snapshot.cursor + 1 := by
    have h1 := congrArg List.length hdrop
    have h2 := h.cursor
    simp only [List.length_drop, List.length_singleton] at h1
    omega
  have hstate := h.working (by simp [isWorking, hs])
  exact { h with
    progress := by
      show r.progress ++ _ = counted (j.snapshot.cursor + 1) j.snapshot.total
      rw [counted_succ, h.progress]
    cursor := Nat.le_of_eq hout.symm
    accepted := by
      intro x hx
      have hsplit : r.outcomes = r.outcomes.take j.snapshot.cursor ++ [o] := by
        rw [← hdrop, List.take_append_drop]
      have hmem : x ∈ r.outcomes.take j.snapshot.cursor ++ [o] := hsplit ▸ List.mem_of_mem_take hx
      rcases List.mem_append.mp hmem with hx | hx
      · exact h.accepted x hx
      · rw [List.mem_singleton.mp hx]
        exact hacc
    finished := by
      intro hf
      replace hf : j.snapshot.state = .finished := hf
      simp [hf] at hstate
    working := fun _ => hstate
    stands := ⟨hlen, hout⟩ }

/-- A failed job ends. -/
theorem fail (h : Keeps r j) (hw : j.isWorking = true)
    (hlen : r.handed.length = j.snapshot.cursor + 1) (hfailed : r.Failed j.snapshot.cursor) :
    Keeps r { j with snapshot := j.snapshot.fail, stage := .releasing } := by
  have hstate := h.working hw
  -- a paused job keeps its state, and only its thread goes on
  by_cases hr : j.snapshot.state = .running
  · have hstopped : r.stopped = false := h.not_stopped_of_active (by
      simp [isActive, Snapshot.isActive, RunState.isActive, hr])
    have hfail : j.snapshot.fail = { j.snapshot with state := .errored } := by
      simp [Snapshot.fail, hr]
    rw [hfail]
    exact { h with
      stopped := by simp [hstopped]
      finished := by intro hf; cases hf
      working := by intro hf; cases hf
      stands := ⟨.inr hlen, hfailed.1, fun _ => hfailed⟩ }
  · have hfail : j.snapshot.fail = j.snapshot := by simp [Snapshot.fail, hr]
    rw [hfail]
    exact h.withStage (.inl hw) ⟨.inr hlen, hfailed.1, fun _ => hfailed⟩

/-- A step of the job's own. -/
theorem move (h : Keeps r j) {next : Job} {p : Option Progress} (hstep : j.Steps next p) :
    Keeps { r with progress := r.progress ++ p.toList } next := by
  have hstands := h.stands
  have hnone : r.progress ++ (none : Option Progress).toList = r.progress := by simp
  have hdrop (hout : r.outcomes.length = j.snapshot.cursor) :
      r.outcomes.drop j.snapshot.cursor = [] := List.drop_of_length_le (Nat.le_of_eq hout)
  cases hstep with
  | finish hs hr hc =>
    simp only [Record.Stands, hs] at hstands
    have hstopped : r.stopped = false := h.not_stopped_of_active (by
      simp [isActive, Snapshot.isActive, RunState.isActive, hr])
    exact { h with
      stopped := by simp [hstopped]
      progress := by simpa using h.progress
      finished := fun _ => Nat.le_antisymm h.cursor_le hc
      working := by intro hf; cases hf
      stands := by simp [Record.Stands, hstands.1, hdrop hstands.2] }
  | leave hs hr hp =>
    rw [hnone]
    simp only [Record.Stands, hs] at hstands
    have hw : j.isWorking = true := by simp [isWorking, hs]
    have hstop : j.snapshot.state = .stopped := by simpa [hr, hp] using h.working hw
    exact h.withStage (.inl hw) (by simp [Record.Stands, hstands.1, hdrop hstands.2, hstop])
  | choose line hs hr hl =>
    rw [hnone]
    simp only [Record.Stands, hs] at hstands
    exact h.withStage (.inl (by simp [isWorking, hs])) ⟨hl, hstands⟩
  | lack hs hc hl =>
    -- below the total, no line is missing
    rw [h.total] at hc
    simp [hc] at hl
  | count hs ha => exact h.count hs ha
  | forgo hs ha =>
    rw [hnone]
    have hw : j.isWorking = true := by simp [isWorking, hs]
    have hstop := h.stopped_of_not_active hw ha
    simp only [Record.Stands, hs, h.stopped.mpr hstop, if_true] at hstands
    exact h.withStage (.inl hw) (by simp [Record.Stands, hstands.1, hdrop hstands.2, hstop])
  | park kind message hs hp =>
    rw [hnone]
    simp only [Record.Stands, hs] at hstands
    exact h.withStage (.inl (by simp [isWorking, hs])) hstands
  | fail kind message hs hp =>
    rw [hnone]
    simp only [Record.Stands, hs] at hstands
    exact h.fail (by simp [isWorking, hs]) hstands.1 hstands.2
  | wake hs hp =>
    rw [hnone]
    simp only [Record.Stands, hs] at hstands
    exact h.fail (by simp [isWorking, hs]) hstands.1 hstands.2
  | retire hs =>
    rw [hnone]
    simp only [Record.Stands, hs] at hstands
    exact h.withStage (.inr (.inr rfl)) hstands

/-- Every act that fits the job keeps its record in order. -/
theorem add (h : Keeps r j) {a : Act} (hfit : a.Fits j) : Keeps (r.add a) (a.onJob j) := by
  have hstands := h.stands
  cases a with
  | opened | dropped | closed | broke | heard | noted | signalled | withheld | meddled => exact h
  | launched i name p => exact launch name p
  | abandoned i => exact h.abandon hfit.1 hfit.2.1
  | paused i =>
    replace hfit : j.snapshot.state = .running := hfit
    have hstopped : r.stopped = false := h.not_stopped_of_active (by
      simp [isActive, Snapshot.isActive, RunState.isActive, hfit])
    simp only [Act.onJob, pause_of_running hfit, Record.add]
    exact h.withState (by simp [hstopped]) id (.inr (.inl rfl)) fun _ => rfl
  | resumed i =>
    replace hfit : j.snapshot.state = .paused := hfit.1
    have hstopped : r.stopped = false := h.not_stopped_of_active (by
      simp [isActive, Snapshot.isActive, RunState.isActive, hfit])
    simp only [Act.onJob, resume_of_paused hfit, Record.add]
    exact h.withState (by simp [hstopped]) id (.inl rfl) fun _ => rfl
  | stopped i =>
    obtain ⟨hactive, hstill⟩ := hfit
    simp only [Act.onJob, requestStop_of_active hactive, Record.add]
    refine h.withState (by simp) (fun _ => rfl) (.inr (.inr rfl)) fun hs => ?_
    -- a stop finds the thread waiting, and so never between an answer and its count
    rcases isStill_cases hstill with h' | ⟨h', -⟩ | ⟨_, _, h'⟩ | ⟨_, h'⟩ | ⟨h', -⟩ <;>
      simp [hs] at h'
  | armed i line =>
    replace hfit : j.stage = .arming line := hfit
    have hjob : j.armed = { j with stage := .sending line } := by simp [Job.armed, hfit]
    simp only [Record.Stands, hfit] at hstands
    simp only [Act.onJob, hjob, Record.add]
    exact h.withStage (.inl (by simp [isWorking, hfit])) hstands
  | wrote i line rest =>
    replace hfit : j.stage = .sending line := hfit.1
    simp only [Record.Stands, hfit] at hstands
    exact h.hand hfit (by simp [Record.Stands, hstands])
  | refused i line =>
    replace hfit : j.stage = .sending line := hfit
    simp only [Record.Stands, hfit] at hstands
    have hdrop := List.drop_of_length_le (Nat.le_of_eq hstands.2.2)
    exact h.hand hfit (by simp [Record.Stands, Record.Failed, hstands.2.1, hdrop])
  | yielded i line rest =>
    replace hfit : j.stage = .hanging line rest := hfit
    simp only [Record.Stands, hfit] at hstands
    exact h.withStage (.inl (by simp [isWorking, hfit])) hstands
  | returned i line failure =>
    obtain ⟨rest, hs⟩ := hanging_of_writing? hfit.writing?
    simp only [Record.Stands, hs] at hstands
    have hw : j.isWorking = true := by simp [isWorking, hs]
    cases failure with
    | none =>
      simp only [Record.add, Option.isSome_none, Bool.or_false]
      exact h.withStage (.inl hw) hstands
    | some e =>
      have hdrop := List.drop_of_length_le (Nat.le_of_eq hstands.2.2)
      simp only [Record.add, Option.isSome_some, Bool.or_true]
      have hbroken : Keeps { r with broken := true } j :=
        h.withBroken (by simpa [Record.Stands, hs] using hstands)
      exact hbroken.withStage (.inl hw)
        (by simp [Record.Stands, Record.Failed, hstands.2.1, hdrop])
  | took i line o => exact h.answered_add hfit o
  | moved i p =>
    obtain ⟨next, hnext, hsteps⟩ := steps_of_moved hfit
    rw [hnext]
    exact h.move hsteps
  | released i =>
    replace hfit : j.stage = .releasing := hfit
    simp only [Record.Stands, hfit] at hstands
    exact h.withStage (.inr (.inl rfl)) hstands

end Keeps

/-- A job keeps its record in order throughout its life. -/
theorem Lives.keeps {r : Record} {j : Job} {acts : List Act} (hlives : j.Lives acts)
    (h : Keeps r j) : Keeps (acts.foldl Record.add r) (j.after acts) :=
  hlives.invariant (P := fun acts j => Keeps (acts.foldl Record.add r) j) h
    fun acts a hfit hkeeps => by simpa using hkeeps.add hfit

end Job

namespace Core

/-- Each job has a record that it keeps in order. -/
def Sound (c : Core) : Prop := ∀ i, ∃ r, Job.Keeps r (c.job i)

/-- What is permitted from a sound core leads to a sound core. -/
theorem Permits.sound {c : Core} {acts : List Act} (h : c.Permits acts) (hs : c.Sound) :
    (c.after acts).Sound := by
  intro i
  obtain ⟨r, hr⟩ := hs i
  obtain ⟨hlives, hjob⟩ := h.job i
  exact ⟨_, hjob ▸ hlives.keeps hr⟩

/-- From where no job was started, the acts are the record. -/
theorem Permits.keeps {c : Core} {acts : List Act} (h : c.Permits acts) {i : Nat}
    (hi : c.job i = {}) : Job.Keeps (Job.Record.ofJob i acts) ((c.after acts).job i) := by
  obtain ⟨hlives, hjob⟩ := h.job i
  rw [hjob]
  exact hlives.keeps (hi ▸ Job.Keeps.new)

end Core

end GcodeSender
