import GcodeSender.Job.Scripted
import GcodeSender.Proofs.Job.Life

/-!
# `GcodeSender.Proofs.Job.Reference`: a job on a script, all at once

A job on a scripted link makes its moves one after the other. What comes of it can be said
without any moves, because both scripts are known beforehand: `Scripted.halt?` reads off
them whether a job gets beyond a line, `Scripted.stopsAt` is the first line that it does
not get beyond, and `Scripted.reference` is what a start leaves behind.

* `runFor_accepted` and `runFor_halted` are the moves for one line.
* `runFor_throughout` are those for all lines that are accepted, by induction.
* `start_eq_reference` puts them together, and `start_runs_reference` says what the
  reference comes to: the progress that is reported, the failure, and the one release.

The bound on the moves that `Scripted.settle` allows is never reached: an accepted line takes
five moves where the bound has six, and the last line takes seven where it has ten.
-/

set_option autoImplicit false

namespace GcodeSender.Job

/-! ### How a line ends -/

/-- Why a job does not get beyond a line. -/
inductive Halt where
  /-- The line could not be written. -/
  | unsent (e : LinkError)
  | rejected (answer : String)
  /-- The connection ended before the answer came. -/
  | closed
  /-- The wait for the answer was called off. -/
  | cancelled
deriving DecidableEq, Repr

namespace Halt

/-- The job waits for an answer only if its line was written. -/
def waits : Halt → Nat
  | .unsent _ => 0
  | .rejected _ | .closed | .cancelled => 1

/-- The failure that is reported, if it is one. Lines are numbered from one. -/
def failure? (number : Nat) (line : String) : Halt → Option (ErrorKind × String)
  | .unsent e => some (.transport, sendFailure number e)
  | .rejected answer => some (.protocol, (JobError.rejected number line answer).message)
  | .closed => some (.transport, (JobError.linkClosed number).message)
  | .cancelled => none

/-- The state in which the job is left. -/
def state : Halt → RunState
  | .unsent _ | .rejected _ | .closed => .errored
  | .cancelled => .running

/-- The calls and reports for the line. -/
def trace (number : Nat) (line : String) (h : Halt) : List Trace :=
  [.expect, .send line] ++ List.replicate h.waits .wait ++
    ((h.failure? number line).map fun (kind, message) => .event (.error kind message)).toList

end Halt

/-- The calls and reports for a line that is accepted. -/
def acceptedTrace (line : String) (progress : Progress) : List Trace :=
  [.expect, .send line, .wait, .event (.progress progress),
    .event (.log ("Progress: " ++ progress.display))]

/-! ### The reference -/

namespace Scripted

/-- What the scripts have for the line with an index, if the lines before it are accepted. -/
def halt? (s : Scripted) (i : Nat) : Option Halt :=
  match s.writes[i]?.join, s.outcomes[i]?.getD .closed with
  | some e, _ => some (.unsent e)
  | none, .answer a => if Machine.isAccepted a then none else some (.rejected a)
  | none, .closed => some .closed
  | none, .cancelled => some .cancelled

/-- The first of `n` lines that a job does not get beyond, or `n`. -/
def stopsAt (s : Scripted) (n : Nat) : Nat :=
  ((List.range n).find? fun i => (s.halt? i).isSome).getD n

/-- The trace of the first `k` lines, if they are accepted. -/
def throughout (lines : List String) (k : Nat) : List Trace :=
  (lines.take k).zipIdx.flatMap fun (line, i) => acceptedTrace line ⟨i + 1, lines.length⟩

/-- What a start leaves behind when the job's thread has ended. -/
def reference (s : Scripted) (name : String) (p : Program) : Scripted :=
  let k := s.stopsAt p.length
  let before := s.trace ++ [.claim, .event (.log ("Streaming " ++ toString p.length ++ " lines"))]
    ++ throughout p.lines k
  match p.lines[k]?, s.halt? k with
  | some line, some h =>
    { s with
      claimed := false
      outcomes := s.outcomes.drop (k + h.waits)
      writes := s.writes.drop (k + 1)
      job := ⟨⟨k, p.length, h.state, some name⟩, p.lines, .gone⟩
      trace := before ++ h.trace (k + 1) line ++ [.release] }
  | _, _ =>
    { s with
      claimed := false
      outcomes := s.outcomes.drop k
      writes := s.writes.drop k
      job := ⟨⟨k, p.length, .finished, some name⟩, p.lines, .gone⟩
      trace := before ++ [.event (.log "Job finished"), .release] }

variable {s : Scripted}

/-- `stopsAt` is the first line that has a halt, and `n` if none has. -/
theorem stopsAt_spec (s : Scripted) (n : Nat) :
    (∀ i < s.stopsAt n, s.halt? i = none) ∧ s.stopsAt n ≤ n ∧
      (s.stopsAt n < n → (s.halt? (s.stopsAt n)).isSome = true) := by
  unfold stopsAt
  -- the search goes through the lines in order, so what it finds is the first
  cases hfind : (List.range n).find? fun i => (s.halt? i).isSome with
  | none =>
    have hnone : ∀ i < n, s.halt? i = none := by
      intro i hi
      have hi' := List.find?_eq_none.mp hfind i (List.mem_range.mpr hi)
      simpa using hi'
    exact ⟨hnone, Nat.le_refl n, fun h => absurd h (Nat.lt_irrefl n)⟩
  | some k =>
    obtain ⟨hk, hmem, hbefore⟩ := List.find?_range_eq_some.mp hfind
    refine ⟨fun i hi => ?_, ?_, fun _ => hk⟩
    · simpa using hbefore i hi
    · exact Nat.le_of_lt (List.mem_range.mp hmem)

/-! ### Moves -/

/-- At rest, no moves are left to be made. -/
theorem runFor_of_rests (h : s.step? = none) (n : Nat) : runFor n s = s := by
  cases n with
  | zero => rfl
  | succ n => simp [runFor, h]

/-- Moves that are made in two parts. -/
theorem runFor_add (m n : Nat) (s : Scripted) : runFor (m + n) s = runFor n (runFor m s) := by
  induction m generalizing s with
  | zero => simp [runFor]
  | succ m ih =>
    rw [Nat.succ_add, runFor, runFor]
    cases h : s.step? with
    | none => exact (runFor_of_rests h n).symm
    | some next => exact ih next

/-- One move is made first. -/
theorem runFor_succ {next : Scripted} (h : s.step? = some next) (n : Nat) :
    runFor (n + 1) s = runFor n next := by
  simp [runFor, h]

/-- A job that has got to a line and is free to send it. -/
def ready (lines : List String) (name : Option String) (c : Nat) : Job :=
  ⟨⟨c, lines.length, .running, name⟩, lines, .deciding⟩

variable {lines : List String} {name : Option String} {c : Nat} {line : String}

/-- What the scripts must have for a line that is accepted. -/
theorem accepts_of_halt? {i : Nat} (h : s.halt? i = none) :
    s.writes[i]?.join = none ∧
      ∃ a, s.outcomes[i]?.getD .closed = .answer a ∧ Machine.isAccepted a = true := by
  unfold halt? at h
  split at h
  · cases h
  · rename_i a hwrite houtcome
    split at h
    · rename_i haccepted
      exact ⟨hwrite, a, houtcome, haccepted⟩
    · cases h
  · cases h
  · cases h

/-- A start is announced with the number of lines. -/
@[simp] theorem events_launchNotes (name : String) (n : Nat) :
    events (launchNotes name n) = [.event (.log ("Streaming " ++ toString n ++ " lines"))] := rfl

/-- A counted line is reported as progress, and in words. -/
@[simp] theorem events_progressNotes (snapshot : Snapshot) :
    events (progressNotes snapshot) = [.event (.progress snapshot.progress),
      .event (.log ("Progress: " ++ snapshot.progress.display))] := rfl

/-- A failure is one event. -/
@[simp] theorem events_failureNotes (kind : ErrorKind) (message : String) :
    events (failureNotes kind message) = [.event (.error kind message)] := rfl

/-- The end of the program is one event. -/
@[simp] theorem events_finishNotes (n : Nat) :
    events (finishNotes n) = [.event (.log "Job finished")] := rfl

/-- Without notes there are no events. -/
@[simp] theorem events_nil : events [] = [] := rfl

/-- The moves up to the end of the line's write. -/
theorem runFor_sent (hat : s.job = ready lines name c) (hline : lines[c]? = some line) :
    runFor 3 s =
      { s with
        job := Job.sent ⟨⟨c, lines.length, .running, name⟩, lines, .sending line⟩ line
          (s.writes[0]?.join.elim (.ok ()) .error)
        writes := s.writes.tail
        trace := s.trace ++ [.expect, .send line] } := by
  -- there is a line at the cursor, so the first move is to announce it and not to finish
  have hless : ¬ lines.length ≤ c := by
    have hlt := (List.getElem?_eq_some_iff.mp hline).1
    omega
  cases hwrites : s.writes with
  | nil =>
    simp [runFor, step?, hat, ready, move, Snapshot.decide, hless, hline, log, armed, hwrites]
  | cons result rest =>
    cases result <;>
      simp [runFor, step?, hat, ready, move, Snapshot.decide, hless, hline, log, armed, hwrites]

/-- The move of a thread that waits for an answer. -/
theorem step?_awaiting (hs : s.job.stage = .awaiting line) :
    s.step? = some
      { s with
        job := s.job.answered (s.outcomes[0]?.getD .closed)
        outcomes := s.outcomes.tail
        trace := s.trace ++ [.wait] } := by
  rw [← List.head?_eq_getElem?]
  simp [step?, move, hs, log]

/-- The moves for a line that is accepted. -/
theorem runFor_accepted (hat : s.job = ready lines name c) (hline : lines[c]? = some line)
    (hhalt : s.halt? 0 = none) :
    runFor 5 s =
      { s with
        job := ready lines name (c + 1)
        outcomes := s.outcomes.tail
        writes := s.writes.tail
        trace := s.trace ++ acceptedTrace line ⟨c + 1, lines.length⟩ } := by
  obtain ⟨hwrite, a, houtcome, haccepted⟩ := accepts_of_halt? hhalt
  -- after the write come the end of the wait and the counting of the line
  rw [show 5 = 3 + 2 from rfl, runFor_add, runFor_sent hat hline, hwrite]
  rw [runFor_succ (step?_awaiting rfl), houtcome]
  simp [runFor, step?, sent, move, log, answered, haccepted, Snapshot.credit?, Snapshot.isActive,
    RunState.isActive, Snapshot.progress, acceptedTrace, ready]

/-- The moves of a thread that gives the link back. -/
theorem runFor_releasing (hs : s.job.stage = .releasing) :
    runFor 2 s =
      { s with
        claimed := false
        job := { s.job with stage := .gone }
        trace := s.trace ++ [.release] } := by
  simp [runFor, step?, move, hs, log, released]

/-- The moves of a running job that has failed. -/
theorem runFor_failing {kind : ErrorKind} {message : String}
    (hs : s.job.stage = .failing kind message) (hrunning : s.job.snapshot.state = .running) :
    runFor 3 s =
      { s with
        claimed := false
        job := { s.job with snapshot := { s.job.snapshot with state := .errored }, stage := .gone }
        trace := s.trace ++ [.event (.error kind message), .release] } := by
  simp [runFor, step?, move, hs, hrunning, log, Snapshot.fail, released]

/-- The moves for a line that the job does not get beyond, to the end of its thread. -/
theorem runFor_halted (hat : s.job = ready lines name c) (hline : lines[c]? = some line) {h : Halt}
    (hhalt : s.halt? 0 = some h) :
    runFor 7 s =
      { s with
        claimed := false
        job := ⟨⟨c, lines.length, h.state, name⟩, lines, .gone⟩
        outcomes := s.outcomes.drop h.waits
        writes := s.writes.tail
        trace := s.trace ++ h.trace (c + 1) line ++ [.release] } := by
  rw [show 7 = 3 + 4 from rfl, runFor_add, runFor_sent hat hline]
  unfold halt? at hhalt
  split at hhalt
  · -- no answer is waited for, so the thread has ended one move earlier
    rename_i e hwrite
    obtain rfl : Halt.unsent e = h := Option.some.inj hhalt
    rw [hwrite, show 4 = 3 + 1 from rfl, runFor_add, runFor_failing rfl rfl, runFor_of_rests rfl]
    simp [Halt.state, Halt.waits, Halt.trace, Halt.failure?, sent, lineNumber]
  · rename_i a hwrite houtcome
    split at hhalt
    · cases hhalt
    · rename_i hrejected
      obtain rfl : Halt.rejected a = h := Option.some.inj hhalt
      rw [hwrite, runFor_succ (step?_awaiting rfl), houtcome]
      rw [runFor_failing (by simp only [answered, if_neg hrejected]; rfl) (by simp [sent])]
      simp [Halt.state, Halt.waits, Halt.trace, Halt.failure?, answered, hrejected, sent, awaited,
        lineNumber]
  · rename_i hwrite houtcome
    obtain rfl : Halt.closed = h := Option.some.inj hhalt
    rw [hwrite, runFor_succ (step?_awaiting rfl), houtcome, runFor_failing rfl rfl]
    simp [Halt.state, Halt.waits, Halt.trace, Halt.failure?, answered, sent, lineNumber]
  · rename_i hwrite houtcome
    obtain rfl : Halt.cancelled = h := Option.some.inj hhalt
    rw [hwrite, runFor_succ (step?_awaiting rfl), houtcome, show 3 = 2 + 1 from rfl, runFor_add,
      runFor_releasing rfl, runFor_of_rests rfl]
    simp [Halt.state, Halt.waits, Halt.trace, Halt.failure?, answered, sent]

/-- The moves of a job whose lines are all accepted, to the end of its thread. -/
theorem runFor_finished (hat : s.job = ready lines name lines.length) :
    runFor 3 s =
      { s with
        claimed := false
        job := ⟨⟨lines.length, lines.length, .finished, name⟩, lines, .gone⟩
        trace := s.trace ++ [.event (.log "Job finished"), .release] } := by
  simp [runFor, step?, hat, ready, move, Snapshot.decide, log, released]

/-- After `k` lines the scripts begin with what they have for the next. -/
theorem halt?_drop (k i : Nat) (job : Job) (trace : List Trace) :
    halt? { s with job, outcomes := s.outcomes.drop k, writes := s.writes.drop k, trace } i =
      s.halt? (k + i) := by
  simp [halt?, List.getElem?_drop]

/-- One accepted line more adds its trace. -/
theorem throughout_succ {k : Nat} (hline : lines[k]? = some line) :
    throughout lines (k + 1) =
      throughout lines k ++ acceptedTrace line ⟨k + 1, lines.length⟩ := by
  have hk : k < lines.length := (List.getElem?_eq_some_iff.mp hline).1
  have htake : lines.take (k + 1) = lines.take k ++ [line] := by
    rw [List.take_add_one, hline]
    rfl
  simp [throughout, htake, List.zipIdx_append, Nat.min_eq_left (Nat.le_of_lt hk)]

/-- The moves for the first `k` lines, if all of them are accepted. -/
theorem runFor_throughout (hat : s.job = ready lines name 0) {k : Nat} (hk : k ≤ lines.length)
    (haccepted : ∀ i < k, s.halt? i = none) :
    runFor (5 * k) s =
      { s with
        job := ready lines name k
        outcomes := s.outcomes.drop k
        writes := s.writes.drop k
        trace := s.trace ++ throughout lines k } := by
  -- on the number of lines: what is left of the scripts then begins with the next line's part
  induction k with
  | zero =>
    simp [runFor, throughout, ← hat]
  | succ k ih =>
    have hline : lines[k]? = some lines[k] := List.getElem?_eq_getElem hk
    have hhalt := halt?_drop (s := s) k 0 (ready lines name k)
      (s.trace ++ throughout lines k)
    rw [Nat.add_zero, haccepted k (Nat.lt_succ_self k)] at hhalt
    rw [Nat.mul_succ, runFor_add, ih (Nat.le_of_succ_le hk) fun i hi => haccepted i (by omega),
      runFor_accepted rfl hline hhalt, throughout_succ hline]
    simp

/-- A job that is launched on a link of its own. -/
def launched (s : Scripted) (name : String) (p : Program) : Scripted :=
  { s with
    claimed := true
    job := launch name p
    trace := s.trace ++
      [.claim, .event (.log ("Streaming " ++ toString p.length ++ " lines"))] }

/-- It runs to the end that the scripts have for it. -/
theorem settle_launched (s : Scripted) (name : String) (p : Program) :
    (s.launched name p).settle = s.reference name p := by
  obtain ⟨haccepted, hle, hhalts⟩ := s.stopsAt_spec p.lines.length
  have hk : s.stopsAt p.length = s.stopsAt p.lines.length := rfl
  generalize s.stopsAt p.lines.length = k at haccepted hle hhalts hk
  -- the halts are those of the scripts, which the launch leaves alone
  have hready : (s.launched name p).job = ready p.lines (some name) 0 := rfl
  have hthroughout := runFor_throughout hready hle haccepted
  obtain ⟨spare, hfuel⟩ : ∃ spare, (s.launched name p).job.work = 5 * k + (7 + spare) := by
    refine ⟨6 * p.lines.length + 3 - 5 * k, ?_⟩
    show 6 * (p.lines.length - 0) + 10 = _
    omega
  have hhalt := halt?_drop (s := s.launched name p) k 0
    (ready p.lines (some name) k)
    ((s.launched name p).trace ++ throughout p.lines k)
  rw [settle, hfuel, runFor_add, hthroughout, reference, hk]
  rcases Nat.lt_or_eq_of_le hle with hlt | rfl
  · obtain ⟨h, hh⟩ := Option.isSome_iff_exists.mp (hhalts hlt)
    have hline : p.lines[k]? = some p.lines[k] := List.getElem?_eq_getElem hlt
    rw [show (s.launched name p).halt? (k + 0) = some h from hh] at hhalt
    rw [runFor_add, runFor_halted rfl hline hhalt, runFor_of_rests rfl, hline, hh]
    simp [launched, Program.length]
  · have hline : p.lines[p.lines.length]? = none := List.getElem?_eq_none (Nat.le_refl _)
    rw [show 7 = 3 + 4 from rfl, Nat.add_assoc 3, runFor_add, runFor_finished rfl,
      runFor_of_rests rfl, hline]
    simp [launched, Program.length]

/-- A start of an idle job on a link that is connected and free does what the reference says. -/
theorem start_eq_reference {p : Program} (name : String) (hidle : s.job.isActive = false)
    (hconnected : s.connected = true) (hfree : s.claimed = false) (hlines : p.lines ≠ []) :
    s.start name p = (.ok (), s.reference name p) := by
  have hrefusal : s.job.refusal? p s.connected = none := by
    simp [refusal?, hidle, hlines, hconnected]
  rw [← settle_launched]
  simp [start, hrefusal, log, hfree, launched]

/-! ### What the reference comes to -/

end Scripted

namespace Trace

/-- The progress that an entry reports. -/
def progress? : Trace → Option Progress
  | .event (.progress p) => some p
  | _ => none

/-- The failure that an entry reports. -/
def failure? : Trace → Option (ErrorKind × String)
  | .event (.error kind message) => some (kind, message)
  | _ => none

/-- The entry is a call of the link. -/
def isCall : Trace → Bool
  | .event _ => false
  | .claim | .expect | .send _ | .wait | .release | .cancel => true

end Trace

namespace Halt

/-- The calls for the line. -/
def calls (line : String) (h : Halt) : List Trace :=
  [.expect, .send line] ++ List.replicate h.waits .wait

variable (number : Nat) (line : String) (h : Halt)

/-- The trace of a line that halts the job has no progress. -/
theorem progress?_trace : (h.trace number line).filterMap Trace.progress? = [] := by
  cases h <;> rfl

/-- It has the failure that the job halts for, if it is one. -/
theorem failure?_trace :
    (h.trace number line).filterMap Trace.failure? = (h.failure? number line).toList := by
  cases h <;> rfl

/-- And it has the calls that led to it. -/
theorem isCall_trace : (h.trace number line).filter Trace.isCall = h.calls line := by
  cases h <;> rfl

end Halt

namespace Scripted

variable {s : Scripted} {lines : List String}

/-- What the lines that are accepted report, and what they ask of the link. -/
theorem of_throughout {k : Nat} (hk : k ≤ lines.length) :
    (throughout lines k).filterMap Trace.progress? =
        (List.range k).map (fun i => ⟨i + 1, lines.length⟩) ∧
      (throughout lines k).filterMap Trace.failure? = [] ∧
      (throughout lines k).filter Trace.isCall =
        (lines.take k).flatMap fun line => [.expect, .send line, .wait] := by
  -- on the number of lines: one more adds its own report and its own three calls
  induction k with
  | zero => exact ⟨rfl, rfl, rfl⟩
  | succ k ih =>
    have hline : lines[k]? = some lines[k] := List.getElem?_eq_getElem hk
    obtain ⟨hprogress, hfailure, hcalls⟩ := ih (Nat.le_of_succ_le hk)
    rw [throughout_succ hline, List.take_add_one, hline]
    refine ⟨?_, ?_, ?_⟩
    · rw [List.filterMap_append, hprogress, List.range_succ, List.map_append]
      rfl
    · rw [List.filterMap_append, hfailure]
      rfl
    · rw [List.filter_append, hcalls, List.flatMap_append]
      rfl

/-- A start in a row of starts. The job that is active refuses it, any other follows its
reference. -/
def follow (s : Scripted) (name : String) (p : Program) : Scripted :=
  if s.job.isActive then
    s.log [.event (.error .usage (JobError.cannotStart .alreadyRunning).message)]
  else s.reference name p

/-- A link that is connected and free is so again after each start. -/
theorem follow_free (hconnected : s.connected = true) (hfree : s.claimed = false) (name : String)
    (p : Program) : (s.follow name p).connected = true ∧ (s.follow name p).claimed = false := by
  unfold follow
  split
  · exact ⟨hconnected, hfree⟩
  · simp only [reference]
    split
    · exact ⟨hconnected, rfl⟩
    · exact ⟨hconnected, rfl⟩

/-- A start that nothing stands against follows its program. -/
theorem start_eq_follow (hconnected : s.connected = true) (hfree : s.claimed = false)
    (name : String) {p : Program} (hlines : p.lines ≠ []) :
    (s.start name p).2 = s.follow name p := by
  unfold follow
  split
  · rename_i hactive
    simp only [start, refusal?, if_pos hactive, refuse]
    rfl
  · rename_i hidle
    rw [start_eq_reference name (by simpa using hidle) hconnected hfree hlines]

/-- Starts in a row follow their references one after the other, each with what the one
before has left of the scripts. -/
theorem starts_follow (hconnected : s.connected = true) (hfree : s.claimed = false)
    {starts : List (String × Program)} (hlines : ∀ x ∈ starts, x.2.lines ≠ []) :
    starts.foldl (fun s x => (s.start x.1 x.2).2) s =
      starts.foldl (fun s x => s.follow x.1 x.2) s := by
  induction starts generalizing s with
  | nil => rfl
  | cons x starts ih =>
    obtain ⟨hconnected', hfree'⟩ := follow_free hconnected hfree x.1 x.2
    rw [List.foldl_cons, List.foldl_cons,
      start_eq_follow hconnected hfree x.1 (hlines x List.mem_cons_self)]
    exact ih hconnected' hfree' fun y hy => hlines y (List.mem_cons_of_mem x hy)

/-- A job on a scripted link does what its reference says, for every program that has lines
and for all scripts. There is a first line `k` that it does not get beyond, or `k` is their
number. It takes the link; announces, writes and waits for each line before `k`, and
reports its progress; does so for line `k` as far as that goes; and gives the link back, once.
If it gets beyond every line it is finished and has reported no failure. If not, it is
halted with one failure, unless its wait was called off: then it is left running with none.

Starts in a row do so one after the other, with what is left of the scripts. -/
theorem start_runs_reference {p : Program} (name : String) (hidle : s.job.isActive = false)
    (hconnected : s.connected = true) (hfree : s.claimed = false) (hlines : p.lines ≠ []) :
    s.start name p = (.ok (), s.reference name p) ∧
    (∃ k new, k ≤ p.length ∧ (∀ i < k, s.halt? i = none) ∧
      (s.reference name p).trace = s.trace ++ new ∧
      (s.reference name p).job.snapshot.cursor = k ∧
      (s.reference name p).claimed = false ∧
      new.filterMap Trace.progress? = (List.range k).map (fun i => ⟨i + 1, p.length⟩) ∧
      ((k = p.length ∧
          (s.reference name p).job.snapshot.state = .finished ∧
          new.filterMap Trace.failure? = [] ∧
          new.filter Trace.isCall = [.claim] ++
            p.lines.flatMap (fun line => [.expect, .send line, .wait]) ++ [.release]) ∨
        ∃ line h, p.lines[k]? = some line ∧ s.halt? k = some h ∧
          (s.reference name p).job.snapshot.state = h.state ∧
          new.filterMap Trace.failure? = (h.failure? (k + 1) line).toList ∧
          new.filter Trace.isCall = [.claim] ++
            (p.lines.take k).flatMap (fun line => [.expect, .send line, .wait]) ++
            h.calls line ++ [.release])) ∧
    ∀ starts : List (String × Program), (∀ x ∈ starts, x.2.lines ≠ []) →
      starts.foldl (fun s x => (s.start x.1 x.2).2) s =
        starts.foldl (fun s x => s.follow x.1 x.2) s := by
  refine ⟨start_eq_reference name hidle hconnected hfree hlines, ?_,
    fun starts => starts_follow hconnected hfree⟩
  obtain ⟨haccepted, hle, hhalts⟩ := s.stopsAt_spec p.lines.length
  obtain ⟨hprogress, hfailure, hcalls⟩ := of_throughout hle
  have hk : s.stopsAt p.length = s.stopsAt p.lines.length := rfl
  generalize s.stopsAt p.lines.length = k at haccepted hle hhalts hprogress hfailure hcalls hk
  rcases Nat.lt_or_eq_of_le hle with hlt | rfl
  · -- a line halts the job
    obtain ⟨h, hh⟩ := Option.isSome_iff_exists.mp (hhalts hlt)
    have hline : p.lines[k]? = some p.lines[k] := List.getElem?_eq_getElem hlt
    refine ⟨k, [.claim, .event (.log ("Streaming " ++ toString p.length ++ " lines"))] ++
      throughout p.lines k ++ h.trace (k + 1) p.lines[k] ++ [.release], hle, haccepted, ?_⟩
    simp only [reference, hk, hline, hh]
    refine ⟨by simp, trivial, trivial, ?_, .inr ⟨_, h, rfl, rfl, rfl, ?_, ?_⟩⟩
    · simp [List.filterMap_append, List.filterMap_cons, hprogress, h.progress?_trace,
        Trace.progress?, Program.length]
    · simp [List.filterMap_append, List.filterMap_cons, hfailure, h.failure?_trace, Trace.failure?]
    · simp [List.filter_append, List.filter_cons, hcalls, h.isCall_trace, Trace.isCall]
  · -- every line is accepted
    have hline : p.lines[p.lines.length]? = none := List.getElem?_eq_none (Nat.le_refl _)
    refine ⟨p.lines.length, [.claim, .event (.log ("Streaming " ++ toString p.length ++ " lines"))]
      ++ throughout p.lines p.lines.length ++ [.event (.log "Job finished"), .release], hle,
      haccepted, ?_⟩
    simp only [reference, hk, hline]
    refine ⟨by simp, trivial, trivial, ?_, .inl ⟨rfl, trivial, ?_, ?_⟩⟩
    · simp [List.filterMap_append, List.filterMap_cons, hprogress, Trace.progress?, Program.length]
    · simp [List.filterMap_append, List.filterMap_cons, hfailure, Trace.failure?]
    · simp [List.filter_append, List.filter_cons, hcalls, Trace.isCall]

/-- The second line of the first program is rejected, and the next wait is called off. -/
def troubled : Scripted := { outcomes := [.answer "ok", .answer "error:20", .cancelled] }

/-- A program of three lines, and one of one line, twice. -/
def troubledStarts : List (String × Program) :=
  [("a", ⟨["G90", "G5", "G1 X1"]⟩), ("b", ⟨["G0"]⟩), ("c", ⟨["G0"]⟩)]

/-- The first job is halted at its second line. The second job is left running, and so the
third start is refused. -/
theorem start_runs_reference_troubled :
    (troubled.start "a" ⟨["G90", "G5", "G1 X1"]⟩).2.job.snapshot =
        ⟨1, 3, .errored, some "a"⟩ ∧
      (troubledStarts.foldl (fun s x => (s.start x.1 x.2).2) troubled).job.snapshot =
        ⟨0, 1, .running, some "b"⟩ := by
  have hstart := start_runs_reference (s := troubled) (p := ⟨["G90", "G5", "G1 X1"]⟩) "a"
    rfl rfl rfl (by decide)
  constructor
  · rw [hstart.1]
    decide +kernel
  · rw [hstart.2.2 troubledStarts (by decide)]
    decide +kernel

end Scripted

end GcodeSender.Job
