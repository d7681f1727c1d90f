import GcodeSender.Proofs.Job.Record

/-!
# `GcodeSender.Proofs.Job.Written`: the lines of a job on the wire

The record of a job has the lines that it handed to the link. What the device takes is
bytes, and a record that claimed a line whose bytes went astray would be worth nothing.
So the two are tied together here: the bytes that a job has put on the wire
(`Act.wiredBy`) are its lines in order, each with its end (`Session.wireLines`).

One exception has to be carried along. A write may be held up with `rest` still to be
taken, and it may fail before all is taken; then the last line is there in part.
`Wires` is the invariant, with the missing rest added back (`Job.missing`):

* while the job's thread may still write (`Job.isWriter`), nothing of it has failed, so
  what was put on the wire and what is missing are together all of its lines;
* after that nothing is put on the wire any more.

`Wires.add` is the step, `Lives.wires` the run, and `OnWire` what remains of it for a
reader who does not care where the thread stands.
-/

set_option autoImplicit false

namespace GcodeSender

/-- The bytes of several lines on the wire. -/
def Session.wireLines (lines : List String) : List UInt8 := lines.flatMap wireLine

namespace Session

/-- Where no line is handed over, nothing is on the wire. -/
@[simp] theorem wireLines_nil : wireLines [] = [] := rfl

/-- One line more is its bytes more. -/
theorem wireLines_concat (lines : List String) (line : String) :
    wireLines (lines ++ [line]) = wireLines lines ++ wireLine line := by
  simp [wireLines]

end Session

/-- The bytes that the given job has put on the wire. -/
def Act.wiredBy (i : Nat) (acts : List Act) : List UInt8 := (Act.deeds i acts).flatMap Act.bytes

namespace Job

open Session (wireLine wireLines wireLines_concat)

/-- The job's thread may still write, and no line of it has failed. -/
def isWriter (j : Job) : Bool :=
  match j.stage with
  | .failing _ _ | .parked | .releasing | .retiring | .gone => false
  | _ => true

/-- What is not taken yet of the line that the job's thread is writing. -/
def missing (j : Job) : List UInt8 :=
  match j.stage with
  | .hanging _ rest => rest
  | _ => []

/-- A job that is not writing misses nothing. -/
theorem missing_of_not_hanging {j : Job} (h : j.isHanging = false) : j.missing = [] := by
  cases hs : j.stage <;> simp_all [isHanging, missing]

/-- The bytes are the lines on record, in order. Only the last may be there in part, if
its write failed or is held up. -/
structure OnWire (r : Record) (bytes : List UInt8) (j : Job) : Prop where
  /-- Nothing else is there. -/
  most : bytes <+: wireLines r.handed
  /-- All lines but the last are there. -/
  least : wireLines r.handed.dropLast <+: bytes
  /-- And so is the last, unless something kept it from being taken. -/
  whole : r.broken = false → j.isHanging = false → bytes = wireLines r.handed

/-- The bytes are the lines on record, but for what is missing of the last. -/
structure Wires (r : Record) (bytes : List UInt8) (j : Job) : Prop where
  most : bytes <+: wireLines r.handed
  least : wireLines r.handed.dropLast <+: bytes
  whole : r.broken = false → bytes ++ j.missing = wireLines r.handed
  sound : j.isWriter = true → r.broken = false

namespace Wires

variable {r : Record} {bytes : List UInt8} {j : Job}

/-- A job that was started has put nothing on the wire. -/
theorem launch (name : String) (p : Program) :
    Wires { program := p.lines } [] (Job.launch name p) where
  most := List.prefix_refl _
  least := List.prefix_refl _
  whole := fun _ => rfl
  sound := fun _ => rfl

/-- Wherever the thread stands, the lines on record are on the wire. -/
theorem onWire (h : Wires r bytes j) : OnWire r bytes j where
  most := h.most
  least := h.least
  whole := by
    intro hbroken hfree
    have hwhole := h.whole hbroken
    rwa [missing_of_not_hanging hfree, List.append_nil] at hwhole

/-- Where a thread may write and misses nothing, all of its lines are there. -/
theorem written (h : Wires r bytes j) (hwriter : j.isWriter = true) (hmissing : j.missing = []) :
    bytes = wireLines r.handed := by
  have hwhole := h.whole (h.sound hwriter)
  rwa [hmissing, List.append_nil] at hwhole

/-- Nothing is handed over or put on the wire, and no thread gets back to where it may
write. -/
theorem keep (h : Wires r bytes j) {r' : Record} {j' : Job} (hhanded : r'.handed = r.handed)
    (hbroken : r'.broken = r.broken) (hmissing : j'.missing = j.missing)
    (hwriter : j'.isWriter = true → j.isWriter = true) : Wires r' bytes j' where
  most := by rw [hhanded]; exact h.most
  least := by rw [hhanded]; exact h.least
  whole := by rw [hbroken, hmissing, hhanded]; exact h.whole
  sound := by
    intro hw
    rw [hbroken]
    exact h.sound (hwriter hw)

/-- The thread gives up, with its last line there or not. -/
theorem giveUp (h : Wires r bytes j) {r' : Record} {j' : Job} (hhanded : r'.handed = r.handed)
    (hbroken : r'.broken = true) (hwriter : j'.isWriter = false) : Wires r' bytes j' where
  most := by rw [hhanded]; exact h.most
  least := by rw [hhanded]; exact h.least
  whole := by simp [hbroken]
  sound := by simp [hwriter]

/-- A line is handed over, and all of it but `rest` is taken. -/
theorem write (h : Wires r bytes j) {line : String} {rest : List UInt8}
    (hs : j.stage = .sending line) (hrest : rest <:+ wireLine line) :
    Wires { r with handed := r.handed ++ [line] } (bytes ++ Act.part line rest)
      { j with stage := .hanging line rest } := by
  have hwriter : j.isWriter = true := by simp [isWriter, hs]
  have hbefore := h.written hwriter (by simp [missing, hs])
  -- the part and the rest are the line, after all lines before it
  have hline : bytes ++ Act.part line rest ++ rest = wireLines (r.handed ++ [line]) := by
    rw [List.append_assoc, Act.part_append hrest, wireLines_concat, hbefore]
  exact {
    most := ⟨rest, hline⟩
    least := by
      rw [List.dropLast_concat, ← hbefore]
      exact List.prefix_append _ _
    whole := fun _ => hline
    sound := fun _ => h.sound hwriter }

/-- The rest of a line that was held up is taken. -/
theorem yield (h : Wires r bytes j) {line : String} {rest : List UInt8}
    (hs : j.stage = .hanging line rest) :
    Wires r (bytes ++ rest) { j with stage := .hanging line [] } := by
  have hbroken := h.sound (by simp [isWriter, hs])
  have hwhole := h.whole hbroken
  simp only [missing, hs] at hwhole
  exact {
    most := hwhole ▸ List.prefix_refl _
    least := h.least.trans (List.prefix_append _ _)
    whole := by
      intro _
      show bytes ++ rest ++ [] = _
      rw [List.append_nil, hwhole]
    sound := fun _ => hbroken }

/-- A line that is handed over without a connection leaves no trace on the wire. -/
theorem refuse (h : Wires r bytes j) {line : String} (hs : j.stage = .sending line) {j' : Job}
    (hwriter : j'.isWriter = false) :
    Wires { r with handed := r.handed ++ [line], broken := true } bytes j' := by
  have hbefore := h.written (by simp [isWriter, hs]) (by simp [missing, hs])
  exact {
    most := by
      show bytes <+: wireLines (r.handed ++ [line])
      rw [wireLines_concat, hbefore]
      exact List.prefix_append _ _
    least := by
      show wireLines (r.handed ++ [line]).dropLast <+: bytes
      simp only [List.dropLast_concat, hbefore, List.prefix_refl]
    whole := by simp
    sound := by simp [hwriter] }

/-- Every act that fits the job, but a new start, keeps its bytes and its lines in step. -/
theorem add (h : Wires r bytes j) {a : Act} {i : Nat} (hfit : a.Fits j)
    (hlaunch : a.launches i = false) (hi : a.job? = some i) :
    Wires (r.add a) (bytes ++ a.bytes) (a.onJob j) := by
  -- only two acts of a job put anything on the wire
  have hquiet (hbytes : a.bytes = []) (hw : Wires (r.add a) bytes (a.onJob j)) :
      Wires (r.add a) (bytes ++ a.bytes) (a.onJob j) := by
    rwa [hbytes, List.append_nil]
  cases a with
  | opened | dropped | closed | broke | heard | noted | signalled | withheld | meddled => cases hi
  | launched k name p => simp_all [Act.job?, Act.launches]
  | abandoned k => exact hquiet rfl (h.giveUp rfl rfl rfl)
  | paused k =>
    refine hquiet rfl (h.keep rfl rfl ?_ ?_) <;>
      simp [Act.onJob, pause_of_running hfit, missing, isWriter]
  | resumed k =>
    refine hquiet rfl (h.keep rfl rfl ?_ ?_) <;>
      simp [Act.onJob, resume_of_paused hfit.1, missing, isWriter]
  | stopped k =>
    refine hquiet rfl (h.keep rfl rfl ?_ ?_) <;>
      simp [Act.onJob, requestStop_of_active hfit.1, missing, isWriter]
  | armed k line =>
    replace hfit : j.stage = .arming line := hfit
    refine hquiet rfl (h.keep rfl rfl ?_ ?_) <;>
      simp [Act.onJob, armed, missing, isWriter, hfit]
  | wrote k line rest => exact h.write hfit.1 hfit.2
  | yielded k line rest => exact h.yield hfit
  | refused k line => exact hquiet rfl (h.refuse hfit rfl)
  | returned k line failure =>
    cases failure with
    | none =>
      replace hfit : j.stage = .hanging line [] := hfit
      refine hquiet rfl (h.keep rfl (by simp [Record.add]) ?_ ?_) <;>
        simp [Act.onJob, sent, missing, isWriter, hfit]
    | some e => exact hquiet rfl (h.giveUp rfl (by simp [Record.add]) rfl)
  | took k line outcome =>
    replace hfit : j.stage = .awaiting line := hfit
    have hadd : (r.add (.took k line outcome)).handed = r.handed ∧
        (r.add (.took k line outcome)).broken = r.broken := by
      simp only [Record.add]
      split <;> exact ⟨rfl, rfl⟩
    refine hquiet rfl (h.keep hadd.1 hadd.2 ?_ fun _ => by simp [isWriter, hfit])
    cases outcome with
    | answer ans =>
      simp only [Act.onJob, answered]
      split <;> simp [missing, hfit]
    | closed | cancelled => simp [Act.onJob, answered, missing, hfit]
  | moved k p =>
    obtain ⟨next, hnext, hsteps⟩ := steps_of_moved hfit
    rw [hnext] at hquiet ⊢
    refine hquiet rfl (h.keep rfl rfl ?_ ?_) <;>
      cases hsteps <;> simp_all [missing, isWriter]
  | released k =>
    replace hfit : j.stage = .releasing := hfit
    refine hquiet rfl (h.keep rfl rfl ?_ ?_) <;>
      simp [Act.onJob, released, missing, isWriter, hfit]

end Wires

/-- Until its next start a job keeps its bytes and its lines in step. -/
theorem Lives.wires {r : Record} {bytes : List UInt8} {j : Job} {i : Nat} {acts : List Act}
    (hlives : j.Lives acts) (h : Wires r bytes j)
    (hacts : ∀ a ∈ acts, a.launches i = false ∧ a.job? = some i) :
    Wires (acts.foldl Record.add r) (bytes ++ acts.flatMap Act.bytes) (j.after acts) := by
  induction acts generalizing j r bytes with
  | nil => simpa using h
  | cons a acts ih =>
    obtain ⟨hlaunch, hi⟩ := hacts a (by simp)
    have hrest := ih hlives.2 (h.add hlives.1 hlaunch hi) fun b hb =>
      hacts b (List.mem_cons_of_mem _ hb)
    rwa [List.append_assoc] at hrest

end Job

/-- Since its start a job has put on the wire the lines that it handed to the link. -/
theorem Core.Permits.onWire {c : Core} {before acts : List Act} {i : Nat} {name : String}
    {p : Program} (h : c.Permits (before ++ .launched i name p :: acts))
    (hlast : ∀ a ∈ acts, a.launches i = false) :
    Job.OnWire (Job.Record.since i p acts) (Act.wiredBy i acts)
      ((c.after (before ++ .launched i name p :: acts)).job i) := by
  obtain ⟨-, hpossible, hpermits⟩ := Core.permits_append.mp h
  obtain ⟨hlives, hjob⟩ := hpermits.job i
  -- the bytes are counted from the start, before which the job had written nothing
  have hstart : ((c.after before).next (.launched i name p)).job i = Job.launch name p :=
    Core.next_job_self hpossible rfl
  rw [hstart] at hlives hjob
  have hend : (c.after (before ++ .launched i name p :: acts)).job i =
      (Job.launch name p).after (Act.deeds i acts) := by
    rw [Core.after_append]
    exact hjob
  rw [hend]
  refine (hlives.wires (i := i) (Job.Wires.launch name p) fun a ha => ?_).onWire
  obtain ⟨hmem, hdeed⟩ := List.mem_filter.mp ha
  exact ⟨hlast a hmem, by simpa using hdeed⟩

end GcodeSender
