import GcodeSender.Proofs.Link.Footing
import GcodeSender.Proofs.Link.Ownership
import GcodeSender.Proofs.Session.Past
import GcodeSender.Proofs.Session.Reports

/-!
# `GcodeSender.Proofs.Session.Afresh`: a new connection starts afresh

Where a port is opened, no connection is left and every job that is over has lost its
thread (`IsOff`). So the new link is the same whatever was before, but for one flag: waits
may still be called off from a stop that no start has followed.

That flag, the jobs that are over, the journal and the device's own records are what such
a session has behind it (`Past`). Without them it is as if the port was opened and nothing
else was ever done (`anew`). Since steps commute with a past, any two sessions that open
the same port go on alike.

* `after_withPast`: steps commute with a past.
* `IsOff.link_openPort`: the link when a port was opened.
* `Reopens.eq_withPast`: what was opened is a session anew, with a past.
* `reconnect_starts_afresh`: two such sessions, however they came to it.
-/

set_option autoImplicit false

namespace GcodeSender

namespace Session

variable (s : Session) (p : Past) (t : Thread)

/-! ### Calls in front of a past -/

/-- To connect is the same, whatever has happened before. -/
theorem connect_withPast (h : s.core.IsPlain) (port : String) (baud : UInt32) :
    (s.withPast p).connect t port baud =
      ((s.connect t port baud).1, (s.connect t port baud).2.withPast p) := by
  -- between two connections the threads run to rest, over jobs that may never have been started
  have hdown := (teardown_goes (P := Act.isRunning) s t rfl).plain h
  simp only [connect, state_withPast, port_withPast, teardown_withPast, log_withPast,
    stopReader_withPast, settle_withPast _ p hdown, openPort_withPast]
  split
  · split <;> rfl
  · rfl

/-- To send lines is the same. -/
theorem sendEach_withPast (ht : t ≠ .streamer) (lines : List String) (h : s.core.IsPlain)
    (hrest : s.core.AtRest) :
    (s.withPast p).sendEach t lines =
      ((s.sendEach t lines).1, (s.sendEach t lines).2.withPast p) := by
  induction lines generalizing s with
  | nil => rfl
  -- on the lines: after each the threads have come to rest again, in a plain core
  | cons line rest ih =>
    have hgoes := sendLine_goes s ht line hrest
    have hsent := hgoes.plain h
    obtain ⟨hsettle, hsettled⟩ := settle_goes hsent.sound
    simp only [sendEach, sendLine_withPast]
    generalize s.sendLine t line = sent at hsent hsettle hsettled
    obtain ⟨result, next⟩ := sent
    cases result with
    | error e => simp only [settle_withPast _ p hsent]
    | ok =>
      simp only [settle_withPast _ p hsent]
      exact ih _ (hsettle.plain hsent) hsettled

/-- So is all that is done within a connection, if its body is. -/
theorem within_withPast {ε α : Type} (h : s.core.Calm) (hplain : s.core.IsPlain) (port : String)
    (baud : UInt32) (ofLink : LinkError → ε) (body : Session → Except ε α × Session)
    (hbody : ∀ s' : Session, s'.core.Calm → s'.core.IsPlain →
      body (s'.withPast p) = ((body s').1, (body s').2.withPast p)) :
    (s.withPast p).within t port baud ofLink body =
      ((s.within t port baud ofLink body).1, (s.within t port baud ofLink body).2.withPast p) := by
  obtain ⟨hconnect, hrest⟩ := connect_opens s t port baud h
  have hopened := hconnect.plain hplain
  simp only [within, s.connect_withPast p t hplain]
  generalize s.connect t port baud = connected at hopened hrest
  obtain ⟨result, next⟩ := connected
  cases result with
  | error e => simp only [disconnect, teardown_withPast]
  | ok =>
    simp only [hbody next ⟨hrest rfl, hopened.sound⟩ hopened, disconnect, teardown_withPast]

/-- A refusal is told in the same way. -/
@[simp] theorem refuseStart_withPast (e : JobError) :
    (s.withPast p).refuseStart t e = ((s.refuseStart t e).1, (s.refuseStart t e).2.withPast p) := by
  simp only [refuseStart, tellAll_withPast]

/-- A start is refused for the same reasons. -/
theorem refusal?_withPast (i : Nat) (program : Program) (connected : Bool) :
    ((s.withPast p).job i).refusal? program connected =
      (s.job i).refusal? program connected := by
  simp only [Job.refusal?, isActive_withPast]

/-- A start takes the place of an old job, and allows waits that were called off. -/
theorem launch_withPast {i : Nat} (hi : i < s.jobs.length) (hfree : s.link.claimed = false)
    (name : String) (program : Program) :
    ({ s.withPast p with link := (s.withPast p).link.claim.2 } : Session).launch t i name
        program =
      (({ s with link := s.link.claim.2 } : Session).launch t i name program).withPast p := by
  have hstarted : (Job.launch name program).snapshot.state ≠ .idle := by
    simp [Job.launch, Job.Snapshot.launch]
  have hafter : ((Session.setJob { s with link := s.link.claim.2 } i
      (Job.launch name program)).job i).snapshot.state ≠ .idle := by
    rw [job_setJob_self (s := { s with link := s.link.claim.2 }) hi]
    exact hstarted
  have hjobs : (s.withPast p).jobs.set i (Job.launch name program) =
      (s.jobs.set i (Job.launch name program)).mapIdx fun i j => j.orOld (p.job i) := by
    rw [List.mapIdx_set, Job.orOld, if_neg hstarted]
    rfl
  rw [launch, launch, ← tellAll_withPast]
  refine congrArg (tellAll · t _) (eq_of_fields ?_ rfl hjobs rfl rfl)
  -- with the job started, the flag is the slot's own, and it is reset on both sides
  rw [link_withPast_of_started _ p hafter]
  show (s.withPast p).link.claim.2 = s.link.claim.2
  simp only [Link.claim, claimed_withPast, hfree, Bool.false_eq_true, if_false]
  rfl

/-- A job that was announced gets its thread in front of the past as it would without it. -/
theorem spawnJob_withPast {i : Nat} (hi : (s.job i).snapshot.state ≠ .idle) :
    (s.withPast p).spawnJob t i = ((s.spawnJob t i).1, (s.spawnJob t i).2.withPast p) := by
  have hspawn : (s.withPast p).device.spawn =
      (s.device.spawn.1, s.device.spawn.2.withLog p.log) := s.device.spawn_withLog p.log
  simp only [spawnJob, hspawn]
  obtain ⟨spawned, device⟩ := s.device.spawn
  cases spawned with
  | ok => rfl
  | error reason =>
    -- the job has been started since, so its place is not the past's
    have hgiven := setJob_withPast { s with device, link := s.link.release } p
      (j := (s.job i).abandoned) hi (by simp [Job.abandoned])
    simp only [abandonStart]
    rw [device_withPast]
    show refuseStart (Session.setJob (Session.withPast
      { s with device, link := s.link.release } p) i _) t _ = _
    have hsame : (({ s with device } : Session).withPast p).job i = s.job i :=
      job_withPast_of_started { s with device } p hi
    rw [hsame, hgiven]
    exact refuseStart_withPast _ p t _

/-- A job that is announced was started. -/
theorem started_launch {i : Nat} (hi : i < s.jobs.length) (name : String) (program : Program) :
    ((s.launch t i name program).job i).snapshot.state ≠ .idle := by
  rw [launch, job_of_jobs (jobs_tellAll _ _ _), job_setJob_self hi]
  simp [Job.launch, Job.Snapshot.launch]

/-- So it has the same result. -/
theorem start_withPast {i : Nat} (hi : i < s.jobs.length) (name : String) (program : Program) :
    (s.withPast p).start t i name program =
      ((s.start t i name program).1, (s.start t i name program).2.withPast p) := by
  -- each check asks for something that the past does not touch
  simp only [start, refusal?_withPast, state_withPast]
  split
  · exact refuseStart_withPast s p t _
  · cases hclaimed : s.link.claimed with
    | true =>
      simp only [Link.claim, claimed_withPast, hclaimed, if_true]
      exact refuseStart_withPast s p t _
    | false =>
      have hlaunch := s.launch_withPast p t hi hclaimed name program
      have hstarted := started_launch { s with link := s.link.claim.2 } t hi name program
      simp only [Link.claim, claimed_withPast, hclaimed, Bool.false_eq_true, if_false]
        at hlaunch hstarted ⊢
      rw [hlaunch]
      exact spawnJob_withPast _ p t hstarted

/-- A stop is the same, with or without a time limit. -/
theorem stopWithin_withPast (i ms : Nat) (h : s.core.IsPlain) (hrest : s.core.AtRest) :
    (s.withPast p).stopWithin t i ms =
      ((s.stopWithin t i ms).1, (s.stopWithin t i ms).2.withPast p) := by
  have hstopped := (requestStop_goes s t i hrest).plain h
  have hsettled := (settle_goes hstopped.sound).1.plain hstopped
  have halive : (((s.requestStop t i).settle.withPast p).job i).isAlive =
      ((s.requestStop t i).settle.job i).isAlive := by
    rw [Job.isAlive, stage_withPast _ p hsettled, ← Job.isAlive]
  simp only [stopWithin, requestStop_withPast, settle_withPast _ p hstopped, halive, tell_withPast]
  split <;> rfl

/-- The ports are the same. -/
theorem listPorts_withPast :
    (s.withPast p).listPorts t = ((s.listPorts t).1, (s.listPorts t).2.withPast p) := by
  have hports : (s.withPast p).device.ports = s.device.ports := rfl
  simp only [listPorts, hports, tell_withPast]
  split <;> rfl

/-! ### Steps in front of a past -/

/-- The step makes none of the calls that are for jobs, in a session of `n` jobs, and if it
changes the device, it does not ask what the device remembers. -/
structure Step.IsCommon (n : Nat) (step : Step) : Prop where
  mild : step.meddles n = false
  blind : ∀ change, step = .deviceChanges change → Bench.Device.IsBlind change

/-- A call waits for a write where it would have waited. -/
theorem waits_withPast (h : s.core.IsPlain) (step : Step) :
    step.waits (s.withPast p) = step.waits s := by
  have hhanging := s.isHanging_withPast p h
  have hjob : ∀ i, ((s.withPast p).job i).isHanging = (s.job i).isHanging := fun i => by
    rw [Job.isHanging, s.stage_withPast p h, ← Job.isHanging]
  cases step with
  | connect port baud =>
    rw [Step.waits, hhanging]
    rfl
  | _ => simp only [Step.waits, hhanging, hjob, refusal?_withPast, state_withPast]

/-- What is asked of a job that was started is not answered for an old one. -/
theorem act_withPast (h : s.core.Calm) (hplain : s.core.IsPlain) {step : Step}
    (hstep : step.IsCommon s.jobs.length)
    (hasked : ∀ i, step = .await i → (s.job i).snapshot.state ≠ .idle) :
    (s.withPast p).act step = ((s.act step).1, (s.act step).2.withPast p) := by
  have hmild := hstep.mild
  cases step with
  | expect | takeResponse | cancelResponse | claim | release => cases hmild
  | connect port baud => simp only [act, s.connect_withPast p .caller hplain]
  | disconnect => simp only [act, disconnect, teardown_withPast]
  | send line => simp only [act, sendLine_withPast]
  | realtime text =>
    simp only [act]
    split
    · simp only [sendRealtime_withPast]
    · rfl
  | listPorts => simp only [act, listPorts_withPast]
  | within port baud lines failure =>
    -- what is done between connecting and disconnecting is itself a call in front of the past
    refine congrArg (fun r => (Result.count r.1, r.2))
      (s.within_withPast p .caller h hplain port baud id _ fun s' hs' hplain' => ?_)
    simp only [s'.sendEach_withPast p .caller (by decide) lines hplain' hs'.rest]
    generalize s'.sendEach .caller lines = sent
    obtain ⟨result, next⟩ := sent
    cases result <;> cases failure <;> rfl
  | deviceSends items => rfl
  | deviceChanges change =>
    have hchange := Bench.Device.adjust_withLog (hstep.blind change rfl) s.device p.log
    show (Result.done, { s.withPast p with device := (s.device.withLog p.log).adjust change }) = _
    rw [hchange, device_withPast]
    rfl
  | start i name program =>
    have hi : i < s.jobs.length := by simpa [Step.meddles] using hmild
    simp only [act, s.start_withPast p .caller hi]
  | pause i => simp only [act, pause, pauseFrom_withPast]
  | resume i => simp only [act, resume_withPast]
  | stop i => simp only [act, requestStop_withPast]
  | stopWithin i ms => simp only [act, s.stopWithin_withPast p .caller i ms hplain h.rest]
  | letGo => simp only [act, s.letGo_withPast p hplain]
  | await i =>
    simp only [act, finalSnapshot?, s.job_withPast_of_started p (hasked i rfl)]
  | arm rule => rfl

/-- An answer about a job leaves the session as it is. -/
theorem act_withPast_snd (h : s.core.Calm) (hplain : s.core.IsPlain) {step : Step}
    (hstep : step.IsCommon s.jobs.length) :
    ((s.withPast p).act step).2 = (s.act step).2.withPast p := by
  by_cases hasked : ∀ i, step = .await i → (s.job i).snapshot.state ≠ .idle
  · rw [s.act_withPast p h hplain hstep hasked]
  · push Not at hasked
    obtain ⟨i, rfl, -⟩ := hasked
    rfl

/-- A step that is common to both has the same result, but for a job that has not been started. -/
theorem perform_withPast (h : s.core.Calm) (hplain : s.core.IsPlain) {step : Step}
    (hstep : step.IsCommon s.jobs.length) :
    ((s.withPast p).perform step).2 = (s.perform step).2.withPast p ∧
      ((∀ i, step = .await i → (s.job i).snapshot.state ≠ .idle) →
        ((s.withPast p).perform step).1 = (s.perform step).1) := by
  have hact := s.act_withPast_snd p h hplain hstep
  have hacted : (s.act step).2.core.IsPlain := (act_goes s step h).plain hplain
  simp only [perform, s.waits_withPast p hplain step]
  split
  · exact ⟨rfl, fun _ => rfl⟩
  · refine ⟨?_, fun hasked => by rw [s.act_withPast p h hplain hstep hasked]⟩
    rw [hact]
    exact settle_withPast _ p hacted

/-- By induction on the steps: each leads to a session in which the next is again taken at rest,
with nothing to show for a job that was not started. -/
theorem after_withPast (h : s.core.Calm) (hplain : s.core.IsPlain) {more : List Step}
    (hmore : ∀ step ∈ more, step.IsCommon s.jobs.length) :
    (s.withPast p).after more = (s.after more).withPast p := by
  induction more generalizing s with
  | nil => rfl
  | cons step more ih =>
    have hstep := (s.perform_withPast p h hplain (hmore step (by simp))).1
    obtain ⟨hgoes, hcalm⟩ := perform_goes s step h
    have hrest := ih (s.perform step).2 hcalm (hgoes.plain hplain) fun other hother => by
      rw [length_jobs_perform h]
      exact hmore other (List.mem_cons_of_mem _ hother)
    show ((s.withPast p).perform step).2.after more = ((s.perform step).2.after more).withPast p
    rw [hstep, hrest]

/-! ### A connection that is opened -/

/-- There is no connection, and nobody waits for one. -/
structure IsOff (s : Session) : Prop where
  calm : s.core.Calm
  held : s.core.IsHeld
  closed : s.link.slot.closed = true
  free : s.isHanging = false

/-- A job that is over has no thread there: nothing can hold it up. -/
theorem IsOff.gone {s : Session} (h : s.IsOff) {i : Nat} (hover : (s.job i).isActive = false) :
    (s.job i).stage = .gone := by
  have hrests := h.calm.rest.job i
  have hpaused : (s.job i).snapshot.state ≠ .paused := by
    intro hpaused
    simp [Job.isActive_eq, hpaused] at hover
  rcases Job.isStill_cases (Job.isStill_of_rests hrests) with
    hgone | ⟨-, hp⟩ | ⟨line, rest, hs⟩ | ⟨line, hs⟩ | ⟨-, hp⟩
  · exact hgone
  · exact absurd hp hpaused
  · have hhanging : s.isHanging = true := s.isHanging_iff.mpr ⟨i, by
      show Job.isHanging (s.core.job i) = true
      rw [Job.isHanging, hs]⟩
    rw [h.free] at hhanging
    cases hhanging
  · -- a closed slot ends every wait
    have hcheck := Job.check?_of_rests hrests hs
    have hclosed : s.core.slot.closed = true := h.closed
    simp only [Link.Slot.check?, hclosed, if_true] at hcheck
    split at hcheck
    · cases hcheck
    · split at hcheck <;> cases hcheck
  · exact absurd hp hpaused

end Session

/-- A connection to the port on which nothing has happened yet. Whether waits are called off is
left from the last one. -/
def Link.fresh (port : String) (cancelled : Bool) : Link where
  state := .connected
  port := some port
  isOpen := true
  slot := { closed := false, cancelled }
  reader := some {}

namespace Bench.Device

/-- Nothing waits to be read, and nothing is begun. -/
structure IsBlank (d : Device) : Prop where
  inbound : d.inbound = []
  carry : d.carry = []
  unflushed : d.unflushed = []

/-- The settings of the device: how it answers, and which calls of it are still to fail. -/
def settings (d : Device) : Device := { d.forget with inbound := [], carry := [], unflushed := [] }

/-- A blank device is its settings, and what it remembers. -/
theorem IsBlank.forget {d : Device} (h : d.IsBlank) : d.forget = d.settings := by
  obtain ⟨hinbound, hcarry, hunflushed⟩ := h
  simp [Device.forget, settings, hinbound, hcarry, hunflushed]

/-- Opening a port resets the device, and what it has sent before is let go if it can be. -/
theorem isBlank_lent {d : Device} {port : String} {baud : UInt32}
    (hlends : d.lends port baud = true) (hdiscard : d.discard.1 = .ok ()) :
    (d.lent port baud).spawn.2.IsBlank := by
  have hopen : (d.connect port baud).1.toBool = true := (Bool.and_eq_true_iff.mp hlends).1
  unfold lent
  have hconnect : (d.connect port baud).2.carry = [] ∧ (d.connect port baud).2.unflushed = [] ∧
      (d.connect port baud).2.discards = d.discards := by
    unfold connect at hopen ⊢
    split at hopen
    · cases hopen
    · cases hopen
    · exact ⟨rfl, rfl, rfl⟩
  obtain ⟨hcarry, hunflushed, hdiscards⟩ := hconnect
  have hdiscarded : (d.connect port baud).2.discard.2.IsBlank := by
    have hok := (discard_of_discards hdiscards).trans hdiscard
    unfold discard at hok ⊢
    split at hok
    · cases hok
    · exact ⟨rfl, hcarry, hunflushed⟩
  -- neither of the last two calls touches any of this
  generalize (d.connect port baud).2.discard.2 = cleared at hdiscarded
  have hcloned : cleared.clone.2.IsBlank := by
    unfold clone
    split <;> exact ⟨hdiscarded.inbound, hdiscarded.carry, hdiscarded.unflushed⟩
  generalize cleared.clone.2 = cloned at hcloned
  unfold spawn
  split <;> exact ⟨hcloned.inbound, hcloned.carry, hcloned.unflushed⟩

end Bench.Device

namespace Session

/-- A reader that gets its thread reads a connection of its own. -/
theorem link_startReader {s started : Session} {t : Thread} {port : String} {baud : UInt32}
    (h : s.startReader t port baud = (.ok (), started)) : started.link =
      { Link.fresh port s.link.slot.cancelled with claimed := s.link.claimed } := by
  have hopen := link_become { s with link := s.link.establish port } t .connected
  rcases s.startReader_cases t port baud with hstarts | ⟨reason, hfails⟩
  · rw [hstarts] at h
    cases h
    show { (s.establish t port).link with reader := some {} } = _
    rw [establish, hopen]
    rfl
  · rw [hfails] at h
    cases h

/-- Opening a port leaves of the last connection nothing but whether waits are called off. -/
theorem IsOff.link_openPort {s opened : Session} (h : s.IsOff) {port : String} {baud : UInt32}
    (hopened : s.openPort .caller port baud = (.ok (), opened))
    (hover : ∀ i, (opened.job i).isActive = false) :
    opened.link = Link.fresh port s.link.slot.cancelled ∧ ∀ i, (opened.job i).stage = .gone := by
  have hjobs : opened.jobs = s.jobs := by
    have hjobs := jobs_openPort s .caller port baud
    rwa [hopened] at hjobs
  -- no job is active after the port is opened, so none was before, and all threads have ended
  have hgone : ∀ i, (s.job i).stage = .gone := fun i => h.gone (by
    rw [← job_of_jobs hjobs]
    exact hover i)
  -- only a job that has not ended could hold the link
  have hfree : s.link.claimed = false := by
    refine eq_false_of_ne_true fun hclaimed => ?_
    obtain ⟨i, hi⟩ := h.held hclaimed
    have hgone' : (s.core.job i).stage = .gone := hgone i
    simp [Job.holds, hgone'] at hi
  refine ⟨?_, fun i => by rw [job_of_jobs hjobs, hgone]⟩
  obtain ⟨s', hlink, -, -, ⟨-, e, hfailed⟩ | ⟨-, -, hstarted⟩⟩ :=
    openPort_cases s .caller port baud
  · rw [hfailed] at hopened
    cases hopened
  · rw [hstarted] at hopened
    rw [link_startReader hopened, hlink, link_become]
    simp only [hfree]
    rfl

/-- A reader is started on the host, which is all that the device has to do with it. -/
theorem device_startReader {s started : Session} {t : Thread} {port : String} {baud : UInt32}
    (h : s.startReader t port baud = (.ok (), started)) :
    started.device = s.device.spawn.2 := by
  have hthere : (s.establish t port).device = s.device :=
    (adds_become { s with link := s.link.establish port } t .connected).device
  rcases s.startReader_cases t port baud with hstarts | ⟨reason, hfails⟩
  · rw [hstarts] at h
    cases h
    exact congrArg (fun d => d.spawn.2) hthere
  · rw [hfails] at h
    cases h

/-- A port that was opened had lent itself. What opening it does to the device does not depend on
the session. -/
theorem device_openPort {s opened : Session} {t : Thread} {port : String} {baud : UInt32}
    (h : s.openPort t port baud = (.ok (), opened)) :
    s.device.lends port baud = true ∧ opened.device = (s.device.lent port baud).spawn.2 := by
  obtain ⟨s', -, -, -, ⟨-, e, hfailed⟩ | ⟨hlends, hlent, hstarted⟩⟩ := openPort_cases s t port baud
  · rw [hfailed] at h
    cases h
  · rw [hstarted] at h
    rw [device_startReader h, hlent]
    exact ⟨hlends, rfl⟩

/-- On a new link, some steps and then a call to connect that opens the port. No job is running
or paused after that, and only jobs ever took the link. -/
structure Reopens (s : Session) (steps : List Step) (port : String) (baud : UInt32)
    (opened : Session) : Prop where
  new : s.IsNew
  unclaimed : ∀ step ∈ steps, step.claims s.jobs.length = false
  /-- No write that hangs holds the call up. -/
  goes : (Step.connect port baud).waits (s.after steps) = false
  /-- The port is not in use. -/
  other : ¬((s.after steps).link.state.isConnected = true ∧ (s.after steps).link.port = some port)
  opens : (s.after steps).act (.connect port baud) = (.link (.ok ()), opened)
  /-- The device lets go what it has sent before. -/
  discards : (s.after steps).device.discard.1 = .ok ()
  ended : ∀ j ∈ opened.jobs, j.isActive = false

namespace Reopens

variable {s opened : Session} {steps : List Step} {port : String} {baud : UInt32}

/-- Where a port was reopened, no job is running or paused. -/
theorem not_active (h : s.Reopens steps port baud opened) (i : Nat) :
    (opened.job i).isActive = false := by
  rcases opened.core.job_mem_or_default i with hmem | hnone
  · exact h.ended _ hmem
  · rw [← core_job, hnone]
    rfl

/-- The port is opened when nothing is left of the last connection. -/
theorem off (h : s.Reopens steps port baud opened) :
    ∃ off : Session, off.IsOff ∧ off.device.discards = (s.after steps).device.discards ∧
      off.openPort .caller port baud = (.ok (), opened) := by
  have hcalm := calm_after h.new.calm steps
  have hstands := stands_after h.new.calm h.new.stands steps
  have hheld := held_after h.new.calm (fun hclaimed => by
    rw [h.new.core.claimed] at hclaimed
    cases hclaimed) h.unclaimed
  have hfree : (s.after steps).isHanging = false := by
    refine eq_false_of_ne_true fun hhanging => h.other ?_
    simpa [Step.waits, hhanging] using h.goes
  rcases connect_cases hcalm hstands port baud (.inl hfree) with
    ⟨huse, -⟩ | ⟨off, hleads, hrest, hoff, hgone, hopen⟩
  · exact absurd huse h.other
  · have hopens := h.opens
    simp only [act, hopen] at hopens
    have hdiscards : off.device.discards = (s.after steps).device.discards := by
      refine hleads.leads.invariant (P := fun s' => s'.device.discards = _) rfl ?_
      intro s' next t htakes ht hsame
      rw [← hsame]
      cases t with
      | opening | device => cases ht
      | _ => exact htakes.discards rfl (by simp)
    refine ⟨off, ⟨⟨hrest, hleads.goes.sound hcalm.sound⟩, hleads.goes.held hheld, ?_, hoff⟩,
      hdiscards, ?_⟩
    · -- without a reader there is no connection
      have hreader : off.standing.reader = none := by simp [standing, hgone]
      have hclosed : off.standing.closed = true := by
        cases hleads.leads.stands hstands with
        | up hup =>
          rw [hup] at hreader
          cases hreader
        | down hdown | lost hdown => rw [hdown]; rfl
        | broken hbroken =>
          obtain ⟨w, hw, -⟩ := hbroken.2
          rw [hreader] at hw
          cases hw
      exact hclosed
    · generalize off.openPort .caller port baud = result at hopens
      obtain ⟨r, last⟩ := result
      cases hopens
      rfl

/-- The link has nothing on it but the port. -/
theorem link (h : s.Reopens steps port baud opened) :
    opened.link = Link.fresh port opened.link.slot.cancelled := by
  obtain ⟨off, hoff, -, hopened⟩ := h.off
  have hlink := (hoff.link_openPort hopened h.not_active).1
  rw [hlink]
  rfl

/-- No job has a thread. -/
theorem gone (h : s.Reopens steps port baud opened) (i : Nat) : (opened.job i).stage = .gone := by
  obtain ⟨off, hoff, -, hopened⟩ := h.off
  exact (hoff.link_openPort hopened h.not_active).2 i

/-- Nothing that the device sent before is left to be read, and it goes on with no line that was
begun before. -/
theorem blank (h : s.Reopens steps port baud opened) : opened.device.IsBlank := by
  obtain ⟨off, -, hdiscards, hopened⟩ := h.off
  have hdiscard : off.device.discard.1 = .ok () := by
    rw [Bench.Device.discard_of_discards hdiscards, h.discards]
  obtain ⟨hlends, hlent⟩ := device_openPort hopened
  rw [hlent]
  exact Bench.Device.isBlank_lent hlends hdiscard

end Reopens

/-! ### Jobs that are started -/

/-- After some earlier steps, one of some more steps starts the job. -/
def Starts (s : Session) (earlier more : List Step) (i : Nat) : Prop :=
  ∃ before name program later, more = before ++ .start i name program :: later ∧
    ((s.after (earlier ++ before)).perform (.start i name program)).1 = .job (.ok ())

/-- A job that was started is no longer idle. -/
theorem started_of_perform {s : Session} (h : s.core.Calm) {i : Nat} {name : String}
    {program : Program} (hi : i < s.jobs.length)
    (hstart : (s.perform (.start i name program)).1 = .job (.ok ())) :
    ((s.perform (.start i name program)).2.job i).snapshot.state ≠ .idle := by
  have hgoes := act_goes s (.start i name program) h
  unfold perform at hstart ⊢
  split at hstart
  · cases hstart
  · rename_i hwaits
    rw [if_neg hwaits]
    refine (settle_goes (hgoes.sound h.sound)).1.ne_idle ?_
    rcases start_cases s .caller i name program with ⟨e, hrefused⟩ | ⟨-, -, hstarted⟩
    · simp [act, hrefused, refuseStart] at hstart
    · have hlaunched := started_launch { s with link := s.link.claim.2 } .caller hi name program
      simp only [act, hstarted] at hstart ⊢
      rcases spawnJob_cases (({ s with link := s.link.claim.2 } : Session).launch .caller i name
        program) .caller i with hspawn | ⟨reason, hspawn⟩
      · rw [hspawn]
        exact hlaunched
      · -- a job that is given up is not reported as started
        rw [hspawn] at hstart
        cases hstart

/-- A job that was started is never again one that was not. -/
theorem Starts.started {s : Session} (h : s.core.Calm) {earlier more : List Step} {i : Nat}
    (hstarts : s.Starts earlier more i) (hi : i < s.jobs.length) :
    ((s.after (earlier ++ more)).job i).snapshot.state ≠ .idle := by
  obtain ⟨before, name, program, later, rfl, hstart⟩ := hstarts
  have hcalm := calm_after h (earlier ++ before)
  have hlt : i < (s.after (earlier ++ before)).jobs.length := by rwa [length_jobs_after h]
  have hstarted := started_of_perform hcalm hlt hstart
  rw [← List.append_assoc, after_append]
  exact (after_goes (perform_goes _ (.start i name program) hcalm).2 later).ne_idle hstarted

/-! ### A session without a past -/

/-- The session as it would be if the port was opened and nothing else was ever done. -/
def anew (s : Session) (port : String) : Session where
  link := Link.fresh port false
  device := s.device.forget
  jobs := List.replicate s.jobs.length {}
  rules := s.rules

section

variable (s : Session) (port : String)

/-- In a session that begins anew all jobs are new. -/
theorem job_anew (i : Nat) : (s.anew port).core.job i = {} := by
  rcases (s.anew port).core.job_mem_or_default i with hmem | hnone
  · exact List.eq_of_mem_replicate hmem
  · exact hnone

/-- It is a plain one. -/
theorem plain_anew : (s.anew port).core.IsPlain where
  sound i := ⟨{}, by rw [job_anew]; exact Job.Keeps.new⟩
  blank i _ := job_anew s port i

/-- After more steps the threads are at rest there, and no job that was not started has anything to
show. -/
theorem after_anew (more : List Step) :
    ((s.anew port).settle.after more).core.Calm ∧ ((s.anew port).settle.after more).core.IsPlain ∧
      ((s.anew port).settle.after more).jobs.length = s.jobs.length := by
  have hplain := s.plain_anew port
  obtain ⟨hsettle, hrest⟩ := settle_goes hplain.sound
  have hcalm : (s.anew port).settle.core.Calm := ⟨hrest, hsettle.sound hplain.sound⟩
  refine ⟨calm_after hcalm more, (after_goes hcalm more).plain (hsettle.plain hplain), ?_⟩
  exact (length_jobs_after hcalm more).trans (hsettle.length_jobs.trans List.length_replicate)

end

namespace Reopens

variable {s opened : Session} {steps : List Step} {port : String} {baud : UInt32}

/-- What there was before the port was opened. -/
def past (h : s.Reopens steps port baud opened) : Past where
  journal := opened.journal
  log := opened.device.log
  job := opened.job
  cancelled := opened.link.slot.cancelled
  ended i := ⟨h.not_active i, h.gone i⟩

/-- A port that is opened puts everything behind. -/
theorem eq_withPast (h : s.Reopens steps port baud opened) :
    opened = (opened.anew port).withPast h.past := by
  have huntouched : (opened.anew port).isUntouched = true := by
    rw [isUntouched, List.all_eq_true]
    intro j hj
    rw [List.eq_of_mem_replicate hj]
    rfl
  refine eq_of_fields ?_ opened.device.forget_withLog.symm ?_ rfl (List.append_nil _).symm
  · -- no job was started since, so the flag is what it was before
    simp only [withPast, calledOff, huntouched, if_true]
    exact h.link
  · refine List.ext_getElem (by simp [anew]) fun i hi _ => ?_
    simp [anew, withPast, Job.orOld, past, job, hi]

/-- There are as many jobs as before the port was reopened. -/
theorem length (h : s.Reopens steps port baud opened) : opened.jobs.length = s.jobs.length := by
  have hgoes := act_goes (s.after steps) (.connect port baud) (calm_after h.new.calm steps)
  rw [h.opens] at hgoes
  exact hgoes.length_jobs.trans (length_jobs_after h.new.calm steps)

/-- A session that goes on from there does not look back. -/
theorem after (h : s.Reopens steps port baud opened) {more : List Step}
    (hmore : ∀ step ∈ more, step.IsCommon s.jobs.length) :
    s.after (steps ++ .connect port baud :: more) =
      ((opened.anew port).settle.after more).withPast h.past := by
  have hopens : ((s.after steps).perform (.connect port baud)).2 = opened.settle := by
    simp only [perform, h.goes, Bool.false_eq_true, if_false, h.opens]
  have hsettled : opened.settle = (opened.anew port).settle.withPast h.past :=
    (congrArg settle h.eq_withPast).trans (settle_withPast _ h.past (opened.plain_anew port))
  obtain ⟨hcalm, hplain, hlength⟩ := opened.after_anew port []
  rw [after_append]
  show ((s.after steps).perform (.connect port baud)).2.after more = _
  rw [hopens, hsettled]
  refine after_withPast _ _ hcalm hplain fun step hstep => ?_
  show step.IsCommon ((opened.anew port).settle.after []).jobs.length
  rw [hlength, h.length]
  exact hmore step hstep

/-- A common step has the result that it has in a session that begins anew. -/
theorem perform (h : s.Reopens steps port baud opened) {more : List Step}
    (hmore : ∀ step ∈ more, step.IsCommon s.jobs.length) {step : Step}
    (hstep : step.IsCommon s.jobs.length)
    (hasked : ∀ i, step = .await i →
      (((opened.anew port).settle.after more).job i).snapshot.state ≠ .idle) :
    ((s.after (steps ++ .connect port baud :: more)).perform step).1 =
      (((opened.anew port).settle.after more).perform step).1 := by
  obtain ⟨hcalm, hplain, hlength⟩ := opened.after_anew port more
  rw [h.after hmore]
  refine (perform_withPast _ _ hcalm hplain ?_).2 hasked
  rwa [hlength, h.length]

/-- The same jobs are started without the past. -/
theorem starts_iff (h : s.Reopens steps port baud opened) {more : List Step}
    (hmore : ∀ step ∈ more, step.IsCommon s.jobs.length) {i : Nat} :
    s.Starts (steps ++ [.connect port baud]) more i ↔
      (opened.anew port).settle.Starts [] more i := by
  -- each start of the continuation goes alike, with and without what came before
  have hresult : ∀ {before name program later},
      more = before ++ .start i name program :: later →
      ((s.after (steps ++ [.connect port baud] ++ before)).perform (.start i name program)).1 =
        (((opened.anew port).settle.after before).perform (.start i name program)).1 := by
    rintro before name program later rfl
    rw [List.append_assoc]
    exact h.perform (fun step hstep => hmore step (List.mem_append_left _ hstep))
      (hmore _ (by simp)) (by simp)
  constructor
  · rintro ⟨before, name, program, later, hmore, hstart⟩
    exact ⟨before, name, program, later, hmore, (hresult hmore).symm.trans hstart⟩
  · rintro ⟨before, name, program, later, hmore, hstart⟩
    exact ⟨before, name, program, later, hmore, (hresult hmore).trans hstart⟩

/-- A job that was started since then hides what was in its place. -/
theorem started (h : s.Reopens steps port baud opened) {more : List Step}
    (hmore : ∀ step ∈ more, step.IsCommon s.jobs.length) {i : Nat}
    (hstarts : s.Starts (steps ++ [.connect port baud]) more i) :
    (((opened.anew port).settle.after more).job i).snapshot.state ≠ .idle := by
  have hi : i < opened.jobs.length := by
    obtain ⟨before, name, program, later, rfl, -⟩ := hstarts
    have hmild := (hmore (.start i name program) (by simp)).mild
    rw [h.length]
    simpa [Step.meddles] using hmild
  obtain ⟨hcalm, -, hlength⟩ := opened.after_anew port []
  refine Starts.started hcalm ((h.starts_iff hmore).mp hstarts) ?_
  show i < ((opened.anew port).settle.after []).jobs.length
  rwa [hlength]

end Reopens

/-! ### Two sessions -/

/-- Two connections, each from where it was opened to where it is. What was reported since, and
what the device was given since, is the same, and so is the link, but for the flag that calls
waits off. -/
structure Alike (opened last opened' last' : Session) : Prop where
  link : last.link.withCancelled false = last'.link.withCancelled false
  reports : ∃ entries, last.journal = opened.journal ++ entries ∧
    last'.journal = opened'.journal ++ entries
  wire : ∃ bytes, last.device.wire = opened.device.wire ++ bytes ∧
    last'.device.wire = opened'.device.wire ++ bytes
  lines : ∃ lines, last.device.lines = opened.device.lines ++ lines ∧
    last'.device.lines = opened'.device.lines ++ lines
  commands : ∃ commands, last.device.commands = opened.device.commands ++ commands ∧
    last'.device.commands = opened'.device.commands ++ commands
  bauds : ∃ bauds, last.device.bauds = opened.device.bauds ++ bauds ∧
    last'.device.bauds = opened'.device.bauds ++ bauds

/-- Take two sessions that open the same port, where the devices let go what they have sent before,
and let the devices behave alike from then on, and the observers too. The two links are the same,
with nothing on them, and nothing is left to be read. Whatever common steps follow, the same is
reported and written, the same jobs are started, each of them is the same in both, and the same
results are returned. Only the last state of a job that was not started since is not asked for. -/
theorem reconnect_starts_afresh {s s' opened opened' : Session} {steps steps' : List Step}
    {port : String} {baud baud' : UInt32} (h : s.Reopens steps port baud opened)
    (h' : s'.Reopens steps' port baud' opened') (hjobs : s.jobs.length = s'.jobs.length)
    (hrules : opened.rules = opened'.rules)
    (hdevice : opened.device.settings = opened'.device.settings) :
    (opened.link = Link.fresh port opened.link.slot.cancelled ∧
      opened'.link = Link.fresh port opened'.link.slot.cancelled) ∧
    (opened.device.IsBlank ∧ opened'.device.IsBlank) ∧
    ∀ more : List Step, (∀ step ∈ more, step.IsCommon s.jobs.length) →
      Alike opened (s.after (steps ++ .connect port baud :: more))
        opened' (s'.after (steps' ++ .connect port baud' :: more)) ∧
      (∀ i, s.Starts (steps ++ [.connect port baud]) more i →
        s'.Starts (steps' ++ [.connect port baud']) more i ∧
        (s.after (steps ++ .connect port baud :: more)).job i =
          (s'.after (steps' ++ .connect port baud' :: more)).job i) ∧
      ∀ step, step.IsCommon s.jobs.length →
        (∀ i, step = .await i → s.Starts (steps ++ [.connect port baud]) more i) →
        ((s.after (steps ++ .connect port baud :: more)).perform step).1 =
          ((s'.after (steps' ++ .connect port baud' :: more)).perform step).1 := by
  refine ⟨⟨h.link, h'.link⟩, ⟨h.blank, h'.blank⟩, fun more hmore => ?_⟩
  have hanew : opened.anew port = opened'.anew port := by
    simp only [anew, h.blank.forget, h'.blank.forget, hdevice, hrules, h.length, h'.length, hjobs]
  have hmore' : ∀ step ∈ more, step.IsCommon s'.jobs.length := hjobs ▸ hmore
  have hstarts : ∀ i, s.Starts (steps ++ [.connect port baud]) more i →
      s'.Starts (steps' ++ [.connect port baud']) more i := fun i hi =>
    (h'.starts_iff hmore').mpr (hanew ▸ (h.starts_iff hmore).mp hi)
  have hstarted := fun i hi => h.started (i := i) hmore hi
  have hperform := fun (step : Step) (hstep : step.IsCommon s.jobs.length) =>
    h.perform hmore hstep
  have hperform' := fun (step : Step) (hstep : step.IsCommon s'.jobs.length) =>
    h'.perform hmore' hstep
  -- both have come to the same session, each with its own past
  rw [h.after hmore] at hperform ⊢
  rw [h'.after hmore'] at hperform' ⊢
  rw [hanew] at hstarted hperform ⊢
  generalize (opened'.anew port).settle.after more = last at hstarted hperform hperform' ⊢
  refine ⟨?_, fun i hi => ⟨hstarts i hi, ?_⟩, fun step hstep hasked => ?_⟩
  · exact {
      link := rfl
      reports := ⟨last.journal, rfl, rfl⟩
      wire := ⟨last.device.wire, rfl, rfl⟩
      lines := ⟨last.device.lines, rfl, rfl⟩
      commands := ⟨last.device.commands, rfl, rfl⟩
      bauds := ⟨last.device.bauds, rfl, rfl⟩ }
  · have hi' := hstarted i hi
    rw [last.job_withPast_of_started _ hi', last.job_withPast_of_started _ hi']
  · have hasked' := fun i hi => hstarted i (hasked i hi)
    rw [hperform step hstep hasked', hperform' step (hjobs ▸ hstep) hasked']

deriving instance DecidableEq for Result

/-- A line that is owed its answer, a report and the beginning of another line, a job that is
stopped while it waits, and a wait that nobody ends. -/
def eventful : List Step :=
  [.connect "COM3" 9600, .send "$X", .deviceSends [.bytes [60, 73, 100, 108, 101, 62, 10, 111]],
    .start 0 "part" ⟨["G0", "G1"]⟩, .stop 0, .expect, .disconnect]

/-- A new link to the device that is left then. -/
def newcomer : Session := { device := (({} : Session).after eventful).device }

/-- The next job, and the answer to its line. -/
def nextJob : List Step := [.start 0 "next" ⟨["G2"]⟩, .deviceSends [.bytes [111, 107, 10]]]

/-- The old link goes on like the new one, though on the old one waits are called off. -/
theorem reconnect_starts_afresh_eventful :
    ((({} : Session).after eventful).act (.connect "COM3" 9600)).2.link =
        Link.fresh "COM3" true ∧
      (newcomer.act (.connect "COM3" 9600)).2.link = Link.fresh "COM3" false ∧
      Alike ((({} : Session).after eventful).act (.connect "COM3" 9600)).2
        (({} : Session).after (eventful ++ .connect "COM3" 9600 :: nextJob))
        (newcomer.act (.connect "COM3" 9600)).2
        (newcomer.after (.connect "COM3" 9600 :: nextJob)) ∧
      (({} : Session).after (eventful ++ .connect "COM3" 9600 :: nextJob)).job 0 =
        (newcomer.after (.connect "COM3" 9600 :: nextJob)).job 0 := by
  have hold : ({} : Session).Reopens eventful "COM3" 9600
      ((({} : Session).after eventful).act (.connect "COM3" 9600)).2 := {
    new := ⟨rfl, by decide⟩
    unclaimed := by decide
    goes := by decide +kernel
    other := by decide +kernel
    opens := Prod.ext (by decide +kernel) rfl
    discards := by decide +kernel
    ended := by decide +kernel }
  have hnew : newcomer.Reopens [] "COM3" 9600 (newcomer.act (.connect "COM3" 9600)).2 := {
    new := ⟨rfl, by decide⟩
    unclaimed := by decide
    goes := by decide +kernel
    other := by decide +kernel
    opens := Prod.ext (by decide +kernel) rfl
    discards := by decide +kernel
    ended := by decide +kernel }
  have hdevice : ((({} : Session).after eventful).act (.connect "COM3" 9600)).2.device.settings =
      (newcomer.act (.connect "COM3" 9600)).2.device.settings := rfl
  -- a start is no change of the device, and there is no second job to be meddled with
  have hcommon : ∀ step ∈ nextJob, step.IsCommon 1 := by
    intro step hstep
    refine ⟨(show ∀ step ∈ nextJob, step.meddles 1 = false by decide) step hstep, ?_⟩
    rintro change rfl
    simp [nextJob] at hstep
  obtain ⟨⟨hlink, hlink'⟩, -, hmore⟩ := reconnect_starts_afresh hold hnew rfl (by decide +kernel)
    hdevice
  obtain ⟨halike, hjobs, -⟩ := hmore nextJob hcommon
  have hjob := (hjobs 0 ⟨[], "next", ⟨["G2"]⟩, _, rfl, by decide +kernel⟩).2
  exact ⟨hlink.trans (congrArg (Link.fresh "COM3") (by decide +kernel)),
    hlink'.trans (congrArg (Link.fresh "COM3") (by decide +kernel)), halike, hjob⟩

/-- A device that does not let go what it has sent. -/
def clinging : Session := { device := { discards := [some (.usual .other)] } }

/-- Where the discard fails, that is logged and the port is opened all the same. What the device
sent before is then read on the new connection: of two sessions that open the same port, with
devices that differ in nothing but in that, the one remembers a report that the other never saw. -/
theorem stale_report_outlives_connect :
    (∃ opened opened' : Session,
      (clinging.after [.deviceSends [.bytes [60, 73, 100, 108, 101, 62, 10]]]).act
          (.connect "COM3" 9600) = (.link (.ok ()), opened) ∧
        clinging.act (.connect "COM3" 9600) = (.link (.ok ()), opened') ∧
        opened.device.settings = opened'.device.settings ∧ opened.link = opened'.link) ∧
      (clinging.after [.deviceSends [.bytes [60, 73, 100, 108, 101, 62, 10]],
        .connect "COM3" 9600]).link.status = some ⟨"Idle", "<Idle>"⟩ ∧
      (clinging.after [.connect "COM3" 9600]).link.status = none :=
  ⟨⟨_, _, Prod.ext (by decide +kernel) rfl, Prod.ext (by decide +kernel) rfl, rfl, rfl⟩,
    by decide +kernel, by decide +kernel⟩

end Session

end GcodeSender
