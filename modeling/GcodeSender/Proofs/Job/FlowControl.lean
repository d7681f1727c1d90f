import GcodeSender.Proofs.Job.Written
import GcodeSender.Proofs.Session.History

/-!
# `GcodeSender.Proofs.Job.FlowControl`: one line at a time

A job sends a line only when the one before it was accepted. This holds whatever
the device and the operator do, since a job never looks further than the end of its
own wait.

* `Job.Streams`: what is so of a job and its record whenever the threads are at rest.
* `Keeps.hands`: when a line is handed to the link, all lines before it were accepted.
* `Obeys.add`: a job that was ended hands over nothing and reports nothing.
* `flow_control`: the three together, for every history of every session. What a
  history says of lines is on the wire (`Session.Attests`, `Job.OnWire`).
-/

set_option autoImplicit false

namespace GcodeSender

/-- The line that the given job hands to the link. -/
def Act.hands? (i : Nat) : Act → Option String
  | .wrote k line _ | .refused k line => if k = i then some line else none
  | _ => none

/-- The act that hands over a line of a job is an act of that job. -/
theorem Act.job?_of_hands? {a : Act} {i : Nat} {line : String} (h : a.hands? i = some line) :
    a.job? = some i := by
  cases a with
  | wrote k l rest | refused k l =>
    obtain ⟨rfl, -⟩ : k = i ∧ l = line := by simpa [hands?] using h
    rfl
  | _ => cases h

namespace Job

/-! ### At rest -/

/-- What is so of a job that was started on a program, and of its record. -/
structure Streams (p : Program) (r : Record) (j : Job) : Prop where
  /-- The lines handed over are the first of the program, in order and each once. -/
  handed : r.handed = p.lines.take r.handed.length
  /-- No line is counted that was not handed over. -/
  least : j.snapshot.cursor ≤ r.handed.length
  /-- At most one line is handed over and not counted. -/
  most : r.handed.length ≤ min (j.snapshot.cursor + 1) p.lines.length
  /-- Each line that is counted was reported, in order and once. -/
  progress : r.progress = counted j.snapshot.cursor p.lines.length
  /-- Only a job whose lines were all accepted is finished. -/
  finished : j.snapshot.state = .finished →
    j.snapshot.cursor = p.lines.length ∧ r.outcomes.map (·.1) = p.lines ∧
      ∀ o ∈ r.outcomes, o.2.accepts = true

namespace Keeps

variable {r : Record} {j : Job}

/-- At most one line is handed over and not counted. -/
theorem handed_le_succ (h : Keeps r j) : r.handed.length ≤ j.snapshot.cursor + 1 := by
  have hstands := h.stands
  unfold Record.Stands at hstands
  split at hstands <;> omega

/-- A job and its record stream the program that the record is of. -/
theorem streams (h : Keeps r j) {p : Program} (hp : r.program = p.lines) : Streams p r j := by
  have hlines : j.lines = p.lines := h.program.symm.trans hp
  have hanswered := h.answered
  have hcursor := h.cursor
  have hhanded := h.handed_le
  exact {
    handed := hlines ▸ h.handed
    least := Nat.le_trans hcursor hanswered
    most := Nat.le_min.mpr ⟨h.handed_le_succ, hlines ▸ hhanded⟩
    progress := by rw [h.progress, h.total, hlines]
    finished := by
      intro hf
      -- a finished job has its cursor at the end, which leaves no outcome uncounted
      have hend : j.snapshot.cursor = j.lines.length := (h.finished hf).trans h.total
      have hall : r.outcomes.length = j.lines.length := by omega
      refine ⟨hlines ▸ hend, ?_, fun o ho => h.accepted o ?_⟩
      · rw [h.waited, hall, List.take_length, hlines]
      · rwa [hend, ← hall, List.take_length] }

/-! ### When a line is handed over -/

/-- When a line is handed over, it is the next of the program, and all lines before
it were accepted. -/
theorem hands (h : Keeps r j) {a : Act} {i : Nat} {line : String} (hfit : a.Fits j)
    (ha : a.hands? i = some line) {p : Program} (hp : r.program = p.lines) :
    p.lines[r.handed.length]? = some line ∧
      r.outcomes.map (·.1) = p.lines.take r.handed.length ∧
      ∀ o ∈ r.outcomes, o.2.accepts = true := by
  -- only a write and a refused write hand over a line, and both from this place
  have hsending : j.stage = .sending line := by
    cases a with
    | wrote k l rest =>
      obtain ⟨-, rfl⟩ : k = i ∧ l = line := by simpa [Act.hands?] using ha
      exact hfit.1
    | refused k l =>
      obtain ⟨-, rfl⟩ : k = i ∧ l = line := by simpa [Act.hands?] using ha
      exact hfit
    | _ => cases ha
  -- the record says which line stands there, and what came before it
  have hstands := h.stands
  simp only [Record.Stands, hsending] at hstands
  obtain ⟨hnext, hhanded, hout⟩ := hstands
  have hlines : j.lines = p.lines := h.program.symm.trans hp
  refine ⟨by rw [hhanded, ← hlines, hnext], ?_, fun o ho => h.accepted o ?_⟩
  · rw [h.waited, hlines, hout, hhanded]
  · rwa [← hout, List.take_length]

end Keeps

/-! ### After its end -/

/-- A thread that is about to hand over a line belongs to a job that is not ended. -/
def Obeys (j : Job) : Prop :=
  match j.stage with
  | .arming _ | .sending _ => j.isActive = true
  | _ => True

namespace Obeys

variable {j : Job}

/-- A job that was never started hands nothing over. -/
theorem new : Obeys {} := trivial

/-- A thread chooses its next line while its job is running, and the job is stopped
only while the thread waits. -/
theorem add (h : Obeys j) {a : Act} (hfit : a.Fits j) : Obeys (a.onJob j) := by
  -- to pause or resume a job keeps it active, which is all that a chosen line needs
  have hactive : ∀ state : RunState, state.isActive = true →
      Obeys { j with snapshot := { j.snapshot with state } } := by
    intro state hstate
    show match j.stage with
      | .arming _ | .sending _ => state.isActive = true
      | _ => True
    split
    · exact hstate
    · exact hstate
    · trivial
  cases a with
  | opened | dropped | closed | broke | heard | noted | signalled | withheld | meddled => exact h
  | launched | abandoned => exact trivial
  | paused i =>
    replace hfit : j.snapshot.state = .running := hfit
    simp only [Act.onJob, pause_of_running hfit]
    exact hactive .paused rfl
  | resumed i =>
    replace hfit : j.snapshot.state = .paused := hfit.1
    simp only [Act.onJob, resume_of_paused hfit]
    exact hactive .running rfl
  | stopped i =>
    have hstage : j.requestStop.1.stage = j.stage := by
      unfold requestStop
      split <;> rfl
    -- a stop finds the thread at rest, where no line is chosen
    rcases isStill_cases hfit.2 with h' | ⟨h', -⟩ | ⟨_, _, h'⟩ | ⟨_, h'⟩ | ⟨h', -⟩ <;>
      simp [Act.onJob, Obeys, hstage, h']
  | armed i line =>
    replace hfit : j.stage = .arming line := hfit
    simp only [Obeys, hfit] at h
    simpa [Act.onJob, Job.armed, hfit, Obeys, isActive] using h
  | wrote | yielded | refused => exact trivial
  | returned i line failure => cases failure <;> exact trivial
  | took i line outcome =>
    cases outcome with
    | answer ans =>
      simp only [Act.onJob, Job.answered]
      split <;> exact trivial
    | closed | cancelled => exact trivial
  | moved i p =>
    obtain ⟨next, hnext, hsteps⟩ := steps_of_moved hfit
    rw [hnext]
    cases hsteps with
    | choose line hs hr hl =>
      simp [Obeys, isActive, Snapshot.isActive, RunState.isActive, hr]
    | _ => trivial
  | released => exact trivial

/-- A job that was ended hands nothing over, counts nothing and stays ended. -/
theorem ended (h : Obeys j) (hend : j.isActive = false) {a : Act} {i : Nat} (hfit : a.Fits j)
    (hlaunch : a.launches i = false) (hi : a.job? = some i) (r : Record) :
    (r.add a).handed = r.handed ∧ (r.add a).progress = r.progress ∧
      (a.onJob j).snapshot = j.snapshot := by
  have hstate : j.snapshot.state ≠ .running ∧ j.snapshot.state ≠ .paused := by
    constructor <;> intro hs <;>
      simp [isActive, Snapshot.isActive, RunState.isActive, hs] at hend
  cases a with
  | opened | dropped | closed | broke | heard | noted | signalled | withheld | meddled => cases hi
  | launched k name p => simp_all [Act.job?, Act.launches]
  | abandoned k => exact absurd hfit.2.1 hstate.1
  | paused k => exact absurd hfit hstate.1
  | resumed k => exact absurd hfit.1 hstate.2
  | stopped k => simp [Act.Fits, hend] at hfit
  -- this is where obeying counts: an ended job's thread stands before no line
  | armed k line =>
    replace hfit : j.stage = .arming line := hfit
    simp [Obeys, hfit, hend] at h
  | wrote k line rest => simp [Obeys, hfit.1, hend] at h
  | refused k line =>
    replace hfit : j.stage = .sending line := hfit
    simp [Obeys, hfit, hend] at h
  | yielded k line rest => exact ⟨rfl, rfl, rfl⟩
  | returned k line failure => cases failure <;> exact ⟨rfl, rfl, rfl⟩
  | took k line outcome =>
    refine ⟨?_, ?_, ?_⟩
    · simp only [Record.add]
      split <;> rfl
    · simp only [Record.add]
      split <;> rfl
    · cases outcome with
      | answer ans =>
        simp only [Act.onJob, Job.answered]
        split <;> rfl
      | closed | cancelled => rfl
  | moved k p =>
    obtain ⟨next, hnext, hsteps⟩ := steps_of_moved hfit
    have hfail : j.snapshot.fail = j.snapshot := by simp [Snapshot.fail, hstate.1]
    rw [hnext]
    cases hsteps with
    | finish hs hr hc => exact absurd hr hstate.1
    | choose line hs hr hl => exact absurd hr hstate.1
    | count hs ha => simp [hend] at ha
    | park kind message hs hp => exact absurd hp hstate.2
    | fail | wake => exact ⟨rfl, by simp [Record.add], hfail⟩
    | leave | lack | forgo | retire => exact ⟨rfl, by simp [Record.add], rfl⟩
  | released k => exact ⟨rfl, rfl, rfl⟩

end Obeys

/-- Throughout its life a thread obeys. -/
theorem Lives.obeys {j : Job} {acts : List Act} (hlives : j.Lives acts) (h : Obeys j) :
    Obeys (j.after acts) :=
  hlives.invariant (P := fun _ j => Obeys j) h fun _ _ hfit hobeys => hobeys.add hfit

/-- After its end a job's record and snapshot stay as they are, until the next
start. -/
theorem Lives.ended {j : Job} {i : Nat} {acts : List Act} (hlives : j.Lives acts) (h : Obeys j)
    (hend : j.isActive = false)
    (hacts : ∀ a ∈ acts, a.launches i = false ∧ a.job? = some i) (r : Record) :
    (acts.foldl Record.add r).handed = r.handed ∧
      (acts.foldl Record.add r).progress = r.progress ∧
      (j.after acts).snapshot = j.snapshot := by
  induction acts generalizing j r with
  | nil => exact ⟨rfl, rfl, rfl⟩
  | cons a acts ih =>
    obtain ⟨hlaunch, hi⟩ := hacts a (by simp)
    obtain ⟨hhanded, hprogress, hsnapshot⟩ := h.ended hend hlives.1 hlaunch hi r
    have hend' : (a.onJob j).isActive = false := by rw [isActive, hsnapshot]; exact hend
    obtain ⟨hh, hp, hs⟩ := ih hlives.2 (h.add hlives.1) hend'
      (fun b hb => hacts b (List.mem_cons_of_mem _ hb)) (r.add a)
    exact ⟨hh.trans hhanded, hp.trans hprogress, hs.trans hsnapshot⟩

end Job

/-! ### Flow control -/

namespace Core.Permits

variable {c : Core} {before acts : List Act} {i : Nat} {name : String} {p : Program}

/-- A job keeps its record since its start in order. -/
theorem keeps_since (h : c.Permits (before ++ .launched i name p :: acts)) (hi : c.job i = {}) :
    Job.Keeps (Job.Record.since i p acts)
      ((c.after (before ++ .launched i name p :: acts)).job i) := by
  rw [← Job.Record.ofJob_launched i name p before acts]
  exact h.keeps hi

/-- No ended job is about to hand over a line, in any history. -/
theorem obeys (h : c.Permits acts) (hi : c.job i = {}) : Job.Obeys ((c.after acts).job i) := by
  obtain ⟨hlives, hjob⟩ := h.job i
  rw [hjob, hi]
  rw [hi] at hlives
  exact hlives.obeys Job.Obeys.new

/-- When a job hands over a line, all lines before it were accepted. -/
theorem hands {a : Act} {later : List Act} {line : String}
    (h : c.Permits (before ++ .launched i name p :: (acts ++ a :: later))) (hi : c.job i = {})
    (hlast : ∀ b ∈ acts, b.launches i = false) (ha : a.hands? i = some line) :
    p.lines[(Job.Record.since i p acts).handed.length]? = some line ∧
      (Job.Record.since i p acts).outcomes.map (·.1) =
        p.lines.take (Job.Record.since i p acts).handed.length ∧
      ∀ o ∈ (Job.Record.since i p acts).outcomes, o.2.accepts = true := by
  have hsplit : before ++ .launched i name p :: (acts ++ a :: later) =
      (before ++ .launched i name p :: acts) ++ a :: later := by simp
  rw [hsplit] at h
  obtain ⟨hbefore, hpossible⟩ := h.possible
  exact (keeps_since hbefore hi).hands (hpossible.2 i (Act.job?_of_hands? ha)) ha
    (Job.Record.since_program p hlast)

/-- A job that was ended keeps its record and its snapshot until the next start. -/
theorem ended {later : List Act}
    (h : c.Permits (before ++ .launched i name p :: (acts ++ later))) (hi : c.job i = {})
    (hlast : ∀ b ∈ later, b.launches i = false)
    (hend : ((c.after (before ++ .launched i name p :: acts)).job i).isActive = false) :
    (Job.Record.since i p (acts ++ later)).handed = (Job.Record.since i p acts).handed ∧
      (Job.Record.since i p (acts ++ later)).progress = (Job.Record.since i p acts).progress ∧
      ((c.after (before ++ .launched i name p :: (acts ++ later))).job i).snapshot =
        ((c.after (before ++ .launched i name p :: acts)).job i).snapshot := by
  have hsplit : before ++ .launched i name p :: (acts ++ later) =
      (before ++ .launched i name p :: acts) ++ later := by simp
  rw [hsplit, Core.permits_append] at h
  obtain ⟨hlives, hjob⟩ := h.2.job i
  rw [Job.Record.since_append, hsplit, Core.after_append, hjob]
  refine hlives.ended (i := i) (h.1.obeys hi) hend (fun a ha => ?_) _
  obtain ⟨hmem, hdeed⟩ := List.mem_filter.mp ha
  exact ⟨hlast a hmem, by simpa using hdeed⟩

end Core.Permits

namespace Session

/-- Flow control. Whatever the operator, the device and the observer do, and whoever
else uses the link: of every job, from its start until the next one,

* at rest, the lines handed over are the first of its program, at most one of them is
  not counted, and each counted line was reported;
* what it has put on the device's wire are these lines, each with its end; only the last
  may be there in part, when its write failed or is held up;
* a line is handed over only after each line before it was answered by one that
  accepts it;
* once the job is ended, it hands over nothing, reports nothing and stays as it is. -/
theorem flow_control {s : Session} (hnew : s.IsNew) (steps : List Step) :
    (∃ h : History, h.steps = steps ∧ s.HasHistory h) ∧
      ∀ h : History, h.steps = steps → s.HasHistory h →
        s.Attests h ∧
        ∀ (before acts : List Act) (i : Nat) (name : String) (p : Program),
          h.acts = before ++ .launched i name p :: acts →
          (∀ a ∈ acts, a.launches i = false) →
          Job.Streams p (Job.Record.since i p acts) ((s.after steps).job i) ∧
          Job.OnWire (Job.Record.since i p acts) (Act.wiredBy i acts) ((s.after steps).job i) ∧
          (∀ (mid later : List Act) (a : Act) (line : String),
            acts = mid ++ a :: later → a.hands? i = some line →
            p.lines[(Job.Record.since i p mid).handed.length]? = some line ∧
            (Job.Record.since i p mid).outcomes.map (·.1) =
              p.lines.take (Job.Record.since i p mid).handed.length ∧
            ∀ o ∈ (Job.Record.since i p mid).outcomes, o.2.accepts = true) ∧
          (∀ mid later : List Act, acts = mid ++ later →
            ((s.core.after (before ++ .launched i name p :: mid)).job i).isActive = false →
            (Job.Record.since i p acts).handed = (Job.Record.since i p mid).handed ∧
            (Job.Record.since i p acts).progress = (Job.Record.since i p mid).progress ∧
            ((s.after steps).job i).snapshot =
              ((s.core.after (before ++ .launched i name p :: mid)).job i).snapshot) := by
  refine ⟨exists_history hnew.calm steps, ?_⟩
  rintro h rfl hh
  have hcore := hh.core_after
  have hpermits := hh.permits
  refine ⟨hh.attests, ?_⟩
  intro before acts i name p hacts hlast
  rw [hacts] at hpermits hcore
  have hi := hnew.core.job i
  -- each part is a fact about the record since the start, read at the end of the history
  refine ⟨?_, ?_, ?_, ?_⟩
  · rw [← core_job, ← hcore]
    exact (hpermits.keeps_since hi).streams (Job.Record.since_program p hlast)
  · rw [← core_job, ← hcore]
    exact hpermits.onWire hlast
  · rintro mid later a line rfl ha
    exact hpermits.hands hi (fun b hb => hlast b (List.mem_append_left _ hb)) ha
  · rintro mid later rfl hend
    rw [← core_job, ← hcore]
    exact hpermits.ended hi (fun b hb => hlast b (List.mem_append_right _ hb)) hend

/-- A session whose device accepts every line. -/
def obliging : Session := { device := { auto := [111, 107, 10] } }

/-- A job of two lines is started there, and stopped while its second line, which the
device has been told to leave unanswered, waits. -/
def stoppedOnSecond : History :=
  [(.connect "COM3" 9600, [.dropped, .opened]),
    (.deviceChanges fun d => { d with replies := [("G1", [])] }, []),
    (.start 0 "part" ⟨["G0", "G1"]⟩,
      [.launched 0 "part" ⟨["G0", "G1"]⟩, .moved 0 none, .armed 0 "G0", .wrote 0 "G0" [],
        .returned 0 "G0" none, .heard "ok", .took 0 "G0" (.answer "ok"), .moved 0 (some ⟨1, 2⟩),
        .moved 0 none, .armed 0 "G1", .wrote 0 "G1" [], .returned 0 "G1" none]),
    (.stop 0, [.stopped 0, .took 0 "G1" .cancelled, .released 0, .moved 0 none])]

/-- The first line is counted, the second one is written, and the third is never handed over. -/
theorem flow_control_stoppedOnSecond :
    (obliging.after stoppedOnSecond.steps).core.told = [⟨1, 2⟩] ∧
      (obliging.after stoppedOnSecond.steps).device.wire = wireLines ["G0", "G1"] ∧
      Job.Streams ⟨["G0", "G1"]⟩ (Job.Record.since 0 ⟨["G0", "G1"]⟩ (stoppedOnSecond.acts.drop 3))
        ((obliging.after stoppedOnSecond.steps).job 0) := by
  have hcontrol := (flow_control (s := obliging) ⟨rfl, by decide⟩ stoppedOnSecond.steps).2
    stoppedOnSecond rfl (by decide +kernel)
  refine ⟨hcontrol.1.told.trans (by decide), hcontrol.1.wire.trans (by decide), ?_⟩
  exact (hcontrol.2 [.dropped, .opened] _ 0 "part" ⟨["G0", "G1"]⟩ rfl (by decide)).1

end Session

end GcodeSender
