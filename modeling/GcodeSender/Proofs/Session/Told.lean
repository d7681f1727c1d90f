import GcodeSender.Proofs.Link.Reading
import GcodeSender.Proofs.Session.Afresh

/-!
# `GcodeSender.Proofs.Session.Told`: a report changes nothing else

The journal is written and never read. So whatever is reported between two steps, the
session goes on as it would without the report: the same results, the same link, device
and jobs, and the same reports after it.

* `settle_after`: after every step the threads have run to rest, and to run them again
  changes nothing. A report does not set them moving (`settle_tellAll`).
* `perform_behind`: a step commutes with what was reported before.
* `run_tellAll`: a run after some reports is the run without them, with the reports put
  into the journal where they were made.

The operations commute with a past already (`Session.withPast`), of which the journal is a
part. A past that is a journal alone leaves the session otherwise as it is (`behind_eq`).
The calls that do not commute with every past, those for jobs that others make, are looked
at one by one.
-/

set_option autoImplicit false

namespace GcodeSender.Session

variable {s : Session}

/-! ### Threads at rest -/

/-- Where the jobs are at rest, no thread of a job can move. -/
theorem work?_of_atRest (h : s.core.AtRest) : s.work? = none := by
  refine List.findSome?_eq_none_iff.mpr fun i _ => ?_
  have hrests : (s.job i).rests s.link.slot = true := h.job i
  unfold Job.rests at hrests
  cases hm : (s.job i).move with
  | rest => simp [advance?, hm]
  | await =>
    simp only [hm, Option.isNone_iff_eq_none] at hrests
    simp [advance?, hm, hrests]
  | own | arm | send | release => simp [hm] at hrests

/-- Where nothing is to be read, nothing is after a read has timed out. -/
theorem read?_timeOut (h : s.read? = none) : s.timeOut.read? = none := by
  unfold timeOut
  cases hr : s.link.reader with
  | none => exact h
  | some r =>
    -- the reader stands where it stood, but for what it knows of the last read
    unfold read? at h ⊢
    cases hi : s.device.inbound with
    | nil => rfl
    | cons item rest =>
      simp only [hr, hi] at h ⊢
      split at h
      · rename_i hclosing
        simp [hclosing]
      · cases h

/-- To time out twice is to time out once. -/
theorem timeOut_timeOut (s : Session) : s.timeOut.timeOut = s.timeOut := by
  cases hr : s.link.reader <;> simp [timeOut, hr]

/-- Where no thread can go on, running to rest changes nothing. -/
theorem settle_of_rest (hrest : s.core.AtRest) (hread : s.read? = none) (hout : s.timeOut = s) :
    s.settle = s := by
  have hwork := work?_of_atRest hrest
  have hhear : s.hear s.device.backlog = s := by
    cases s.device.backlog with
    | zero => rfl
    | succ n => simp [hear, hwork, hread]
  rw [settle, settleFor, hhear, hwork]
  exact hout

/-- Threads that have run to rest stay there. -/
theorem settle_settle (hs : s.core.Sound) : s.settle.settle = s.settle := by
  obtain ⟨s', -, hend, hwork⟩ := settleFor_ends hs (Nat.lt_succ_self s.core.workLeft)
  have hread : (settleFor (s.core.workLeft + 1) s).read? = none := by
    rw [hend] at hwork ⊢
    exact (hear_stops (Nat.le_refl _)).resolve_left (by simp [hwork])
  refine settle_of_rest (settle_goes hs).2 ?_ ?_
  · exact read?_timeOut hread
  · exact timeOut_timeOut _

/-- So they are at rest between two steps. -/
theorem settle_after (hnew : s.IsNew) (steps : List Step) :
    (s.after steps).settle = s.after steps := by
  -- on the last step: one that waits changes nothing, and after any other the threads run to rest
  induction steps using List.reverseRecOn with
  | nil =>
    have hreader : s.link.reader = none := by rw [hnew.link]
    refine settle_of_rest hnew.calm.rest ?_ ?_
    · simp [after, read?, hreader]
    · simp [after, timeOut, hreader]
  | append_singleton steps step ih =>
    have hcalm := calm_after hnew.calm steps
    rw [after_append]
    show ((s.after steps).perform step).2.settle = ((s.after steps).perform step).2
    unfold perform
    split
    · exact ih
    · exact settle_settle ((act_goes _ step hcalm).sound hcalm.sound)

/-! ### Earlier reports -/

/-- The session after some earlier reports. -/
def behind (s : Session) (told : List Entry) : Session := { s with journal := told ++ s.journal }

end Session

/-- A past that is nothing but reports. -/
def Past.reports (told : List Entry) (cancelled : Bool) : Past where
  journal := told
  log := {}
  job _ := {}
  cancelled := cancelled
  ended _ := ⟨rfl, rfl⟩

namespace Session

variable {s : Session} (told : List Entry)

/-- Jobs that were never started have nothing to hide, so a past of reports shows in the
journal alone. -/
theorem behind_eq (h : s.core.IsPlain) :
    s.behind told = s.withPast (.reports told s.link.slot.cancelled) := by
  -- a job that was not started is as a new one, so replacing it changes nothing
  have hjobs : s.jobs = s.jobs.mapIdx fun _ j => j.orOld {} := by
    refine List.ext_getElem (by simp) fun i hi _ => ?_
    rw [List.getElem_mapIdx, Job.orOld]
    split
    · rename_i hidle
      have hget : s.core.job i = s.jobs[i] := by simp [core_job, job, hi]
      rw [← hget] at hidle ⊢
      exact h.blank i hidle
    · rfl
  refine eq_of_fields ?_ rfl hjobs rfl rfl
  show s.link = s.link.withCancelled (s.calledOff _)
  unfold calledOff
  split <;> rfl

/-- What commutes with every past commutes with earlier reports. -/
theorem of_withPast (h : s.core.IsPlain) {f : Session → Session}
    (hf : ∀ p, f (s.withPast p) = (f s).withPast p) : f (s.behind told) = (f s).behind told := by
  have hpast : ∀ told, f (s.behind told) = (f s).withPast (.reports told s.link.slot.cancelled) :=
    fun told => by rw [behind_eq told h, hf]
  -- without any reports, the past leaves what comes of the session as it is
  have hnone : f s = (f s).withPast (.reports [] s.link.slot.cancelled) := hpast []
  calc f (s.behind told)
      = (f s).withPast (.reports told s.link.slot.cancelled) := hpast told
    _ = ((f s).withPast (.reports [] s.link.slot.cancelled)).behind told := rfl
    _ = (f s).behind told := by rw [← hnone]

/-- What is told comes last in the journal. -/
theorem tellAll_eq (s : Session) (t : Thread) (notes : List Note) :
    s.tellAll t notes = { s with journal := s.journal ++ notes.map (Entry.mk t) } := by
  induction notes generalizing s with
  | nil => simp [tellAll]
  | cons n notes ih =>
    show (s.tell t n).tellAll t notes = _
    rw [ih]
    simp [tell]

/-- It comes there also behind what was told before. -/
theorem tellAll_behind (t : Thread) (notes : List Note) :
    (s.behind told).tellAll t notes = (s.tellAll t notes).behind told := by
  simp [tellAll_eq, behind]

/-- A job is announced behind the earlier reports. -/
theorem launch_behind (t : Thread) (i : Nat) (name : String) (p : Program) :
    (s.behind told).launch t i name p = (s.launch t i name p).behind told :=
  tellAll_behind (s := s.setJob i (Job.launch name p)) told t _

/-- Whether the host has a thread for it does not depend on them. -/
theorem spawnJob_behind (t : Thread) (i : Nat) :
    (s.behind told).spawnJob t i =
      ((s.spawnJob t i).1, (s.spawnJob t i).2.behind told) := by
  have hdevice : (s.behind told).device = s.device := rfl
  simp only [spawnJob, hdevice]
  obtain ⟨spawned, device⟩ := s.device.spawn
  cases spawned with
  | ok => rfl
  | error reason =>
    exact congrArg (Prod.mk _) (tellAll_behind
      (s := ({ s with device, link := s.link.release } : Session).setJob i (s.job i).abandoned)
      told t _)

/-- A start asks for the job, the link and the claim. -/
theorem start_behind (t : Thread) (i : Nat) (name : String) (p : Program) :
    (s.behind told).start t i name p =
      ((s.start t i name p).1, (s.start t i name p).2.behind told) := by
  -- a refusal is told, and that is all
  have hrefuse : ∀ e, (s.behind told).refuseStart t e =
      ((s.refuseStart t e).1, (s.refuseStart t e).2.behind told) := fun e =>
    congrArg (Prod.mk _) (tellAll_behind told t _)
  have hjob : (s.behind told).job i = s.job i := rfl
  have hlink : (s.behind told).link = s.link := rfl
  simp only [start, hjob, hlink]
  split
  · exact hrefuse _
  · split
    · exact hrefuse _
    · rename_i link _
      have hlaunch := launch_behind (s := { s with link }) told t i name p
      show (Session.launch (Session.behind { s with link } told) t i name p).spawnJob t i = _
      rw [hlaunch]
      exact spawnJob_behind told t i

/-- A step does the same, behind what was told before. -/
theorem act_behind (h : s.core.Calm) (hplain : s.core.IsPlain) (step : Step) :
    (s.behind told).act step = ((s.act step).1, (s.act step).2.behind told) := by
  -- what the operator and the device do commutes with every past
  have hcommon : step.IsCommon s.jobs.length → (∀ i, step ≠ .await i) →
      (s.behind told).act step = ((s.act step).1, (s.act step).2.behind told) := by
    intro hstep hasked
    have hact := fun p => s.act_withPast p h hplain hstep fun i hi => absurd hi (hasked i)
    refine Prod.ext ?_ ?_
    · rw [behind_eq told hplain, hact]
    · exact of_withPast told hplain (f := fun s => (s.act step).2) fun p => by rw [hact p]
  cases step with
  | expect | cancelResponse | claim | release | deviceChanges | await => rfl
  | takeResponse =>
    have hlink : (s.behind told).link = s.link := rfl
    simp only [act, hlink]
    split <;> rfl
  | start i name p => simp only [act, start_behind]
  | _ => exact hcommon ⟨rfl, fun _ h => by cases h⟩ fun _ h => by cases h

/-- The threads come to rest in the same way. -/
theorem settle_behind (hplain : s.core.IsPlain) :
    (s.behind told).settle = s.settle.behind told :=
  of_withPast told hplain fun p => s.settle_withPast p hplain

/-- A step does not ask what was reported before. -/
theorem perform_behind (h : s.core.Calm) (hplain : s.core.IsPlain) (step : Step) :
    (s.behind told).perform step = ((s.perform step).1, (s.perform step).2.behind told) := by
  have hwaits : step.waits (s.behind told) = step.waits s := by
    cases step <;> rfl
  simp only [perform, hwaits, act_behind told h hplain step]
  split
  · rfl
  · rw [settle_behind told ((act_goes s step h).plain hplain)]

/-- So a whole run is the same, with its results. -/
theorem run_behind (h : s.core.Calm) (hplain : s.core.IsPlain) (steps : List Step) :
    (s.behind told).run steps = (s.run steps).map fun r => (r.1, r.2.behind told) := by
  -- on the steps, from every session at rest: each step leaves one
  induction steps generalizing s with
  | nil => rfl
  | cons step steps ih =>
    obtain ⟨hgoes, hcalm⟩ := perform_goes s step h
    simp only [run, perform_behind told h hplain step, List.map_cons,
      ih hcalm (hgoes.plain hplain)]

/-! ### Reports between two steps -/

/-- A session goes on from one that has reported nothing, behind its own journal, and so it
does after more reports. -/
theorem exists_behind (h : s.core.Calm) (hplain : s.core.IsPlain) :
    ∃ bare : Session, bare.core.Calm ∧ bare.core.IsPlain ∧ bare.journal = [] ∧
      s = bare.behind s.journal ∧
      ∀ (t : Thread) (notes : List Note),
        s.tellAll t notes = bare.behind (s.journal ++ notes.map (Entry.mk t)) := by
  refine ⟨{ s with journal := [] }, ⟨h.rest, h.sound⟩, ⟨hplain.sound, hplain.blank⟩, rfl, ?_,
    fun t notes => ?_⟩
  · simp [behind]
  · simp [tellAll_eq, behind]

/-- Reports do not set threads moving that have run to rest. -/
theorem settle_tellAll (h : s.core.Calm) (hplain : s.core.IsPlain) (hs : s.settle = s)
    (t : Thread) (notes : List Note) : (s.tellAll t notes).settle = s.tellAll t notes := by
  obtain ⟨bare, -, hbare, hempty, hown, hmore⟩ := exists_behind h hplain
  have hsettled : bare.settle.behind s.journal = bare.behind s.journal := by
    rw [← settle_behind _ hbare, ← hown, hs]
  -- so a session without reports is at rest too, and reports none
  have hjournal : bare.settle.journal = bare.journal := by
    have hboth := congrArg Session.journal hsettled
    simpa [behind, hempty] using hboth
  have hrest : bare.settle = bare := by
    refine eq_of_fields ?_ ?_ ?_ ?_ hjournal
    · exact (congrArg Session.link hsettled : _)
    · exact (congrArg Session.device hsettled : _)
    · exact (congrArg Session.jobs hsettled : _)
    · exact (congrArg Session.rules hsettled : _)
  rw [hmore, settle_behind _ hbare, hrest]

/-- The session with some entries put into its journal behind the first `n`. -/
def interject (s : Session) (n : Nat) (entries : List Entry) : Session :=
  { s with journal := s.journal.take n ++ entries ++ s.journal.drop n }

/-- A run after some reports has the results that it has without them, and the sessions too,
but for the reports themselves, which stay where they were made. -/
theorem run_tellAll (h : s.core.Calm) (hplain : s.core.IsPlain) (t : Thread) (notes : List Note)
    (steps : List Step) :
    (s.tellAll t notes).run steps =
      (s.run steps).map fun r =>
        (r.1, r.2.interject s.journal.length (notes.map (Entry.mk t))) := by
  obtain ⟨bare, hcalm, hbare, -, hown, hmore⟩ := exists_behind h hplain
  have hafter : ∀ later : Session, later.behind (s.journal ++ notes.map (Entry.mk t)) =
      (later.behind s.journal).interject s.journal.length (notes.map (Entry.mk t)) := by
    intro later
    simp [behind, interject]
  have hrun : s.run steps = (bare.run steps).map fun r => (r.1, r.2.behind s.journal) := by
    rw [← run_behind _ hcalm hbare, ← hown]
  rw [hmore, hrun, run_behind _ hcalm hbare, List.map_map]
  refine List.map_congr_left fun r _ => ?_
  exact congrArg (Prod.mk r.1) (hafter r.2)

end Session

end GcodeSender
