import GcodeSender.Proofs.Session.Rest

/-!
# `GcodeSender.Proofs.Session.History`: every session has a history

A history of a session gives for each step the acts that it led to. It is checked
act by act: each is possible where it stands, together they lead to the core after
the step, and each is of a kind that the step may cause (`Session.Step.causes`).

* `perform_goes`: a step is a list of acts, begun and ended at rest.
* `HasHistory.permits` and `HasHistory.core_after`: the acts of a history, one after
  the other, lead from the first core to the last.
* `HasHistory.attests`: so the device's wire and the journal show the acts. No act is a
  claim of its own: a line that a history has as written is on the wire.
* `exists_history`: every list of steps has a history.

Only the link's own calls for jobs, made by someone who is not a job, lead to acts
that meddle with the slot or the claim (`Session.Step.meddles`).
-/

set_option autoImplicit false

namespace GcodeSender

/-- No thread can go on, and each job has a record that it keeps in order. -/
structure Core.Calm (c : Core) : Prop where
  rest : c.AtRest
  sound : c.Sound

/-- The link was never used, and no job was ever started. -/
structure Core.IsNew (c : Core) : Prop where
  slot : c.slot = {}
  claimed : c.claimed = false
  online : c.online = false
  job : ∀ i, c.job i = {}

/-- A new core is sound. -/
theorem Core.IsNew.sound {c : Core} (h : c.IsNew) : c.Sound :=
  fun i => ⟨{}, h.job i ▸ Job.Keeps.new⟩

namespace Session

open GcodeSender.Core (Goes Calm)

/-! ### What a step may cause -/

/-- The step makes one of the link's calls that are for jobs, in a session of `n`
jobs; or it takes the link for a job that does not exist. -/
def Step.meddles (n : Nat) : Step → Bool
  | .expect | .takeResponse | .cancelResponse | .claim | .release => true
  | .start i _ _ => n ≤ i
  | .connect _ _ | .disconnect | .send _ | .realtime _ | .listPorts | .within _ _ _ _
  | .deviceSends _ | .deviceChanges _ | .pause _ | .resume _ | .stop _ | .stopWithin _ _
  | .letGo | .await _ | .arm _ => false

/-- An act that comes of sending a line. -/
def sendsLine (line : String) (a : Act) : Bool :=
  a.isSend (.noted line) (wireLine line) line

/-- An act that comes of sending a single-byte command. -/
def sendsCommand (c : Machine.Realtime) (a : Act) : Bool :=
  a.isSend (.signalled c) [c.byte] c.display

/-- An act that a step can lead to by itself, in a session of `n` jobs. -/
def Step.begins (n : Nat) (step : Step) (a : Act) : Bool :=
  match step with
  | .connect _ _ => a = .opened
  | .send line => sendsLine line a
  | .realtime text => (Machine.Realtime.ofText? text).any fun c => sendsCommand c a
  | .within _ _ lines _ => a = .opened || lines.any fun line => sendsLine line a
  | .start i name p =>
    a = .launched i name p || a = .abandoned i || (step.meddles n && a.isMeddling)
  | .resume i => a = .resumed i
  | .stop i | .stopWithin i _ => a = .stopped i
  | .expect | .takeResponse | .cancelResponse | .claim | .release => a.isMeddling
  | .letGo => a.isYielding
  | .disconnect | .listPorts | .deviceSends _ | .deviceChanges _ | .pause _ | .await _
  | .arm _ => false

/-- An act that a step can lead to, in a session of `n` jobs. Whatever the step, the
threads run after it. -/
def Step.causes (n : Nat) (step : Step) (a : Act) : Bool := a.isRunning || step.begins n a

/-- Threads may run in every step. -/
theorem Step.causes_of_isRunning {n : Nat} {step : Step} {a : Act} (h : a.isRunning = true) :
    step.causes n a = true := by simp [causes, h]

/-- A step causes what it begins with. -/
theorem Step.causes_of_begins {n : Nat} {step : Step} {a : Act} (h : step.begins n a = true) :
    step.causes n a = true := by simp [causes, h]

/-! ### Connecting -/

/-- A core at rest stays so where the transport is dropped. -/
theorem atRest_dropped {c : Core} (h : c.AtRest) : (c.next .dropped).AtRest := h

/-- A new connection lets no waiting job go on. -/
theorem atRest_opened {c : Core} (h : c.AtRest) : (c.next .opened).AtRest := by
  intro j hj
  have hrests : j.rests c.slot = true := h j hj
  show j.rests c.slot.reopen = true
  unfold Job.rests at hrests ⊢
  split at hrests
  · rfl
  · -- a thread that waits had neither an answer nor a reason to go, and a reopened slot
    -- gives it none unless it was called off before
    simp only [Link.Slot.check?, Link.Slot.reopen] at hrests ⊢
    by_cases hcancel : c.slot.cancelled = true
    · cases hresp : c.slot.response <;> simp [hresp, hcancel] at hrests
    · simp [hcancel]
  · cases hrests

/-- A connection that cannot be made leaves no transport. -/
theorem core_failConnect (s : Session) (t : Thread) (e : LinkError) :
    (s.failConnect t e).2.core = s.core.next .dropped := by
  simp only [failConnect, core_emit_status]
  rw [core_log _ _ (by decide)]
  rw [core_become, Core.next_dropped]
  simp [Link.ConnectionState.isConnected]

/-- The reason is logged, and not seen in the core. -/
theorem core_logOpenFailure (s : Session) (t : Thread) (e : LinkError) :
    (s.logOpenFailure t e).core = s.core := by
  cases e <;> simp [logOpenFailure]

/-- An act of the threads, or a new connection. -/
def isConnecting (a : Act) : Bool := a.isRunning || a = .opened

/-- While a connection is made, threads run. -/
theorem isConnecting_of_isRunning {a : Act} (h : a.isRunning = true) :
    isConnecting a = true := by simp [isConnecting, h]

/-- From the given core, connecting has come to a result. A connection that is there lets no
waiting job go on. -/
structure Opens (c : Core) (result : Except LinkError Unit × Session) : Prop where
  goes : c.Goes isConnecting result.2.core
  rest : result.1 = .ok () → result.2.core.AtRest

/-- The connection is there, and it lasts if its reader gets a thread. -/
theorem startReader_opens (s : Session) (t : Thread) (port : String) (baud : UInt32)
    (hrest : s.core.AtRest) : Opens s.core (s.startReader t port baud) := by
  have hopen : (s.establish t port).core = s.core.next .opened := by
    rw [establish, core_become, Core.next_opened]
    simp [core, Link.establish, Link.ConnectionState.isConnected]
  have hgoes : s.core.Goes isConnecting (s.core.next .opened) :=
    Goes.act (Act.possible_of_no_job rfl hrest) rfl
  have hwire := (s.establish t port).device.wire_spawn
  simp only [startReader]
  -- from here on only the core of the connection is looked at, which is up
  generalize s.establish t port = there at hopen hwire ⊢
  generalize there.device.spawn = spawned at hwire ⊢
  obtain ⟨r, device⟩ := spawned
  have hcore := (core_withDevice hwire).trans hopen
  cases r with
  | ok u =>
    have hread : (({ there with device } : Session).beginReading t port baud).core =
        s.core.next .opened := by
      simp only [beginReading, core_emit_status]
      rw [core_log _ _ (by decide), core_log _ _ (by decide)]
      exact hcore
    exact ⟨hread ▸ hgoes, fun _ => hread ▸ atRest_opened hrest⟩
  -- the thread of the reader cannot be had, and the connection is shut again
  | error reason =>
    refine ⟨?_, fun h => by cases h⟩
    have hclosed : ({ there with device, link := there.link.shut }.failConnect t
        (.openFailed port reason)).2.core = (s.core.next .opened).next .closed := by
      rw [core_failConnect, Core.next_dropped, Core.next_closed, ← hcore]
      simp [core, Link.shut, Link.canSend]
    rw [hclosed]
    exact hgoes.trans (Goes.act (Core.possible_closed _) rfl)

/-- Whatever becomes of the bytes that are discarded, it is only logged. -/
theorem core_discardInput (s : Session) (t : Thread) (port : String) :
    (s.discardInput t port).core = s.core := by
  have hdiscarded := core_withDevice s.device.wire_discard
  unfold discardInput
  simp only []
  cases s.device.discard.1 with
  | error f => exact (core_log _ _ (by decide) _).trans hdiscarded
  | ok => exact hdiscarded

/-- A port is opened at rest. -/
theorem openPort_opens (s : Session) (t : Thread) (port : String) (baud : UInt32)
    (hrest : s.core.AtRest) : Opens s.core (s.openPort t port baud) := by
  have hbegun : s.core.Goes isConnecting (s.core.next .dropped) :=
    Goes.act (Core.possible_dropped _) rfl
  -- each of the three calls to the system may fail, with the link not up yet
  have hfails : ∀ (s' : Session) (e : LinkError), s'.core = s.core.next .dropped →
      Opens s.core (s'.failConnect t e) := by
    intro s' e hs'
    refine ⟨?_, fun h => by cases h⟩
    rw [core_failConnect, hs']
    exact hbegun.trans (Goes.act (Core.possible_dropped _) rfl)
  have hreads : ∀ s' : Session, s'.core = s.core.next .dropped →
      Opens s.core (s'.openReader t port baud) := by
    intro s' hs'
    have hwire := s'.device.wire_clone
    unfold openReader
    generalize s'.device.clone = cloned at hwire ⊢
    obtain ⟨r, device⟩ := cloned
    have hcore := (core_withDevice hwire).trans hs'
    cases r with
    | error f => exact hfails _ _ hcore
    | ok u =>
      have hstarts := startReader_opens { s' with device } t port baud
        (hcore ▸ atRest_dropped hrest)
      rw [hcore] at hstarts
      exact ⟨hbegun.trans hstarts.goes, hstarts.rest⟩
  -- what is reported before leaves the core alone
  have hdrop : (s.become t .connecting).core = s.core.next .dropped := by
    rw [core_become, Core.next_dropped]
    simp [Link.ConnectionState.isConnected]
  have hlog := (core_log (s.become t .connecting) t (show Log.Level.info ≠ .trace by decide)
    ("Connecting to " ++ port ++ " at " ++ toString baud.toNat ++ " baud")).trans hdrop
  simp only [openPort]
  generalize (s.become t .connecting).log t .info
    ("Connecting to " ++ port ++ " at " ++ toString baud.toNat ++ " baud") = begun at hlog ⊢
  have hwire := begun.device.wire_connect port baud
  generalize begun.device.connect port baud = connected at hwire ⊢
  obtain ⟨r, device⟩ := connected
  cases r with
  | error e =>
    exact hfails _ _ ((core_logOpenFailure _ _ _).trans ((core_withDevice hwire).trans hlog))
  | ok u =>
    exact hreads _ ((core_discardInput _ t port).trans ((core_withDevice hwire).trans hlog))

/-- A connection is made at rest, after an old one is taken down. -/
theorem connect_opens (s : Session) (t : Thread) (port : String) (baud : UInt32)
    (h : s.core.Calm) : Opens s.core (s.connect t port baud) := by
  unfold connect
  split
  · split
    · have hcore := core_log s t (show Log.Level.debug ≠ .trace by decide)
        ("Already connected to " ++ port)
      exact ⟨Goes.of_eq hcore, fun _ => hcore ▸ h.rest⟩
    · -- the old connection is taken down, and the jobs come to rest without it
      have hdown : s.core.Goes Act.isRunning (s.teardown t).core := teardown_goes s t rfl
      obtain ⟨hsettle, hrest⟩ := settle_goes (hdown.sound h.sound)
      have hopen := openPort_opens (s.teardown t).settle t port baud hrest
      exact ⟨((hdown.trans hsettle).mono fun _ => isConnecting_of_isRunning).trans hopen.goes,
        hopen.rest⟩
  · have hstop := core_stopReader s t
    rw [← hstop] at h ⊢
    exact openPort_opens _ t port baud h.rest

/-! ### Sending -/

/-- What the operator sends is all taken, or the connection breaks, or nothing is tried. -/
theorem send_cases {s s' : Session} {written : Written} {c : Core} {done : Act}
    {bytes : List UInt8} {shown : String} {mayHang : Bool}
    (hon : s.link.canSend = true) (hmay : mayHang = false) (hdone : done.Possible s.core)
    (hnext : s.core.next done = { c with wire := c.wire ++ bytes })
    (hbroke : ∀ taken, c.next (.broke taken) = s.core.next (.broke taken))
    (h : Written.Leads c mayHang bytes written s'.core) :
    s.core.Goes (fun a => a.isSend done bytes shown) s'.core := by
  generalize s'.core = c' at h ⊢
  cases h with
  | delivered =>
    rw [← hnext]
    exact Goes.act hdone (by simp [Act.isSend])
  | failed reason htaken =>
    rw [hbroke]
    refine Goes.act (Act.possible_of_no_job rfl hon) ?_
    simp [Act.isSend, Act.isBreak, htaken]
  | hanging hmay' => simp [hmay] at hmay'

/-- A line of the operator is counted and written, or the connection breaks, or it is not taken
at all. -/
theorem sendLine_goes (s : Session) {t : Thread} (ht : t ≠ .streamer) (line : String)
    (hrest : s.core.AtRest) : s.core.Goes (sendsLine line) (s.sendLine t line).2.core := by
  show s.core.Goes _ (s.write t (wireLine line) line true).2.core
  cases hon : s.link.canSend with
  | false =>
    rw [(write_offline hon t (wireLine line) line true).2]
    exact Goes.act (Act.possible_of_no_job rfl hon) (by simp [sendsLine, Act.isSend])
  | true =>
    refine send_cases hon (by simpa using ht) (Act.possible_of_no_job rfl ⟨hrest, hon⟩) ?_
      (fun taken => ?_) (write_online hon t (wireLine line) line true)
    · rw [Core.next_noted, if_pos rfl]
    · -- a line that was counted is owed nothing on a connection that broke
      simp [Core.next_broke, Link.Slot.close, Link.Slot.noteSent]

/-- A single-byte command is not counted. -/
theorem sendRealtime_goes (s : Session) {t : Thread} (ht : t ≠ .streamer)
    (c : Machine.Realtime) : s.core.Goes (sendsCommand c) (s.sendRealtime t c).2.core := by
  show s.core.Goes _ (s.write t [c.byte] c.display false).2.core
  cases hon : s.link.canSend with
  | false =>
    rw [(write_offline hon t [c.byte] c.display false).2]
    exact Goes.act (Act.possible_of_no_job rfl hon) (by simp [sendsCommand, Act.isSend])
  | true =>
    refine send_cases hon (by simpa using ht) (Act.possible_of_no_job rfl hon) ?_
      (fun taken => rfl) (write_online hon t [c.byte] c.display false)
    rw [Core.next_signalled]

/-- An act of the threads, a new connection, or one that comes of sending one of the lines. -/
def isSending (lines : List String) (a : Act) : Bool :=
  a.isRunning || a = .opened || lines.any fun line => sendsLine line a

/-- Lines are sent in acts that send these lines. -/
theorem sendEach_goes {t : Thread} (ht : t ≠ .streamer) (lines : List String) (s : Session)
    (h : s.core.Calm) :
    s.core.Goes (isSending lines) (s.sendEach t lines).2.core := by
  induction lines generalizing s with
  | nil => exact Goes.refl _ _
  -- on the lines: the threads are at rest after each, so the next is sent as the first was
  | cons line rest ih =>
    have hsend := sendLine_goes s ht line h.rest
    obtain ⟨hsettle, hrest⟩ := settle_goes (hsend.sound h.sound)
    have hgoes : s.core.Goes (isSending (line :: rest)) (s.sendLine t line).2.settle.core :=
      (hsend.mono fun a ha => by
        simp [isSending, ha]).trans (hsettle.mono fun a ha => by simp [isSending, ha])
    have hcalm : (s.sendLine t line).2.settle.core.Calm := ⟨hrest, hgoes.sound h.sound⟩
    simp only [sendEach]
    split
    · rename_i hsent
      rw [hsent] at hgoes
      exact hgoes
    · rename_i hsent
      rw [hsent] at hgoes hcalm
      exact hgoes.trans ((ih _ hcalm).mono fun a ha => by
        simp only [isSending, List.any_cons, Bool.or_eq_true] at ha ⊢
        tauto)

/-- What is done between connecting and disconnecting may be anything that begins at
rest. -/
theorem within_goes {ε α : Type} {P : Act → Bool} (s : Session) (t : Thread) (port : String)
    (baud : UInt32) (ofLink : LinkError → ε) {body : Session → Except ε α × Session}
    (hP : ∀ a, isConnecting a = true → P a = true)
    (hbody : ∀ s' : Session, s'.core.Calm → s'.core.Goes P (body s').2.core)
    (h : s.core.Calm) : s.core.Goes P (s.within t port baud ofLink body).2.core := by
  obtain ⟨hconnect, hrest⟩ := connect_opens s t port baud h
  -- whether or not the connection came about, it is taken down at the end
  have hdown : ∀ s' : Session, s'.core.Goes P (s'.disconnect t).core := fun s' =>
    teardown_goes s' t (hP _ rfl)
  simp only [within]
  split
  · rename_i e s' hc
    rw [hc] at hconnect
    exact (hconnect.mono hP).trans (hdown s')
  · rename_i s' hc
    rw [hc] at hconnect hrest
    exact ((hconnect.mono hP).trans (hbody s' ⟨hrest rfl, hconnect.sound h.sound⟩)).trans
      (hdown _)

/-! ### Controlling jobs -/

/-- Quiet notes leave the core as it is. -/
theorem core_tellAll (s : Session) (t : Thread) {notes : List Note}
    (h : ∀ n ∈ notes, n.Quiet) : (s.tellAll t notes).core = s.core :=
  core_tell_all h t s

/-- A start that is refused is not seen in the core. -/
theorem core_refuseStart (s : Session) (t : Thread) (e : JobError) :
    (s.refuseStart t e).2.core = s.core :=
  core_tellAll s t fun n hn => by
    simp only [Job.refusalNotes, List.mem_cons, List.not_mem_nil, or_false] at hn
    rcases hn with rfl | rfl
    · exact quiet_record nofun
    · exact ⟨rfl, rfl, rfl⟩

/-- A job that gets no thread has failed, and the link is given back. -/
theorem core_abandonStart (s : Session) (t : Thread) (i : Nat) (reason : String) :
    (s.abandonStart t i reason).2.core =
      { s.core with claimed := false, jobs := s.core.jobs.set i (s.job i).abandoned } := by
  simp only [abandonStart, core_refuseStart]
  rfl

/-- A job that was announced goes on as it is, or has failed. -/
theorem core_spawnJob (s : Session) (t : Thread) (i : Nat) :
    (s.spawnJob t i).2.core = s.core ∨ (s.spawnJob t i).2.core =
      { s.core with claimed := false, jobs := s.core.jobs.set i (s.job i).abandoned } := by
  have hwire := s.device.wire_spawn
  simp only [spawnJob]
  generalize s.device.spawn = spawned at hwire ⊢
  obtain ⟨r, device⟩ := spawned
  cases r with
  | ok u => exact .inl (core_withDevice hwire)
  | error reason =>
    refine .inr ?_
    rw [core_abandonStart, core_withDevice hwire]
    rfl

/-- What announces a job reports nothing of progress or answers. -/
theorem core_launch (s : Session) (t : Thread) (i : Nat) (name : String) (p : Program) :
    (s.launch t i name p).core = { s.core with jobs := s.core.jobs.set i (Job.launch name p) } :=
  core_tellAll _ t (announce_quiet _ (isPlain_append (isPlain_append rfl _) _))

/-- A start that is not refused is an act, if there is such a job. -/
theorem possible_launched {s : Session} {i : Nat} {p : Program} (hi : i < s.jobs.length)
    (hrest : s.core.AtRest)
    (hallowed : (s.job i).refusal? p s.link.state.isConnected = none)
    (hunclaimed : s.link.claimed = false) (name : String) :
    Act.Possible s.core (.launched i name p) := by
  have hidle : (s.job i).isActive = false := by
    cases ha : (s.job i).isActive <;> simp_all [Job.refusal?]
  have hlines : p.lines ≠ [] := by
    intro hl
    simp [Job.refusal?, hidle, hl] at hallowed
  exact Act.possible_of_job rfl ⟨hrest, hi, hunclaimed⟩ ⟨hidle, hlines⟩

/-- The link is taken, and the job launched. -/
theorem core_launch_of_claim (s : Session) (t : Thread) {i : Nat} {p : Program}
    (hunclaimed : s.link.claimed = false) (name : String) :
    (({ s with link := s.link.claim.2 } : Session).launch t i name p).core =
      s.core.next (.launched i name p) := by
  rw [core_launch, Core.next_of_silent s.core rfl rfl rfl rfl]
  simp only [Link.claim, hunclaimed]
  rfl

/-- A job is started by an act of its own, if it exists, and fails at once if it gets no
thread. -/
theorem start_goes (s : Session) (t : Thread) (i : Nat) (name : String) (p : Program)
    (hrest : s.core.AtRest) :
    s.core.Goes ((Step.start i name p).causes s.jobs.length) (s.start t i name p).2.core := by
  simp only [start]
  split
  · exact Goes.of_eq (core_refuseStart _ _ _)
  · rename_i hallowed
    by_cases hclaimed : s.link.claimed = true
    · simp only [Link.claim, hclaimed, if_true]
      exact Goes.of_eq (core_refuseStart _ _ _)
    · replace hclaimed : s.link.claimed = false := eq_false_of_ne_true hclaimed
      have hlaunch := core_launch_of_claim s t (i := i) (p := p) hclaimed name
      have hclaim : s.link.claim = (true, s.link.claim.2) := by simp [Link.claim, hclaimed]
      rw [hclaim]
      simp only []
      generalize ({ s with link := s.link.claim.2 } : Session).launch t i name p = begun
        at hlaunch ⊢
      by_cases hi : i < s.jobs.length
      · have hlaunched := possible_launched hi hrest hallowed hclaimed name
        have hgoes := Goes.act (P := (Step.start i name p).causes s.jobs.length) hlaunched
          (Step.causes_of_begins (by simp [Step.begins]))
        have hjob : (s.core.next (.launched i name p)).job i = Job.launch name p :=
          Core.next_job_self hlaunched rfl
        rcases core_spawnJob begun t i with hspawn | hspawn
        · exact hgoes.trans (Goes.of_eq (hspawn.trans hlaunch))
        · have habandoned : Act.Possible (s.core.next (.launched i name p)) (.abandoned i) :=
            Act.possible_of_job rfl rfl
              (by simp [Act.Fits, hjob, Job.launch, Job.Snapshot.launch])
          refine hgoes.trans ((Goes.act habandoned
            (Step.causes_of_begins (by simp [Step.begins]))).trans (Goes.of_eq ?_))
          rw [hspawn, ← core_job, hlaunch, hjob,
            Core.next_of_silent (s.core.next (.launched i name p)) rfl rfl rfl rfl, hjob]
          rfl
      · -- the link is taken for a job that does not exist, and given back if it gets no thread
        have hnone : ∀ j : Job, s.jobs.set i j = s.jobs :=
          fun j => List.set_eq_of_length_le (Nat.le_of_not_lt hi)
        have hmeddled : ∀ claimed, s.core.Goes ((Step.start i name p).causes s.jobs.length)
            { s.core with slot := s.link.slot.resetCancel, claimed } := by
          intro claimed
          rw [← Core.next_meddled]
          exact Goes.act (Act.possible_of_no_job rfl trivial) (Step.causes_of_begins
            (by simp [Step.begins, Step.meddles, Act.isMeddling, Nat.le_of_not_lt hi]))
        have hnext : begun.core =
            { s.core with slot := s.link.slot.resetCancel, claimed := true } := by
          rw [hlaunch, Core.next_of_silent s.core rfl rfl rfl rfl]
          simp only [show s.core.jobs = s.jobs from rfl, hnone]
          rfl
        rcases core_spawnJob begun t i with hspawn | hspawn
        · rw [hspawn, hnext]
          exact hmeddled true
        · rw [hspawn, hnext]
          simp only [show s.core.jobs = s.jobs from rfl, hnone]
          exact hmeddled false

/-- A job is resumed by one act, and then the threads run. -/
theorem resume_goes (s : Session) (t : Thread) (i : Nat) (hrest : s.core.AtRest) :
    s.core.Goes (fun a => a.isRunning || a = .resumed i) (s.resume t i).core := by
  simp only [resume]
  -- only a paused job is resumed
  by_cases hp : (s.job i).snapshot.state = .paused
  · have hresume := Job.resume_of_paused hp
    have hresumed : Act.Possible s.core (.resumed i) :=
      Act.possible_of_job rfl hrest ⟨hp, Job.isStill_of_rests (hrest.job i)⟩
    have hgoes := Goes.act (P := fun a => a.isRunning || a = .resumed i) hresumed (by simp)
    refine hgoes.trans (Goes.of_eq ?_)
    rw [Core.next_of_silent s.core rfl rfl rfl rfl, Act.onJob, core_job, hresume,
      core_tellAll _ _ (announce_quiet _ rfl), core_setJob]
    rfl
  · have hresume : (s.job i).resume = (s.job i, []) := by
      simp [Job.resume, Job.Snapshot.resume?, hp]
    rw [hresume]
    exact Goes.of_eq (by simp [tellAll])

/-- A job is stopped by one act, and then the threads run. -/
theorem requestStop_goes (s : Session) (t : Thread) (i : Nat) (hrest : s.core.AtRest) :
    s.core.Goes (fun a => a.isRunning || a = .stopped i) (s.requestStop t i).core := by
  simp only [requestStop]
  by_cases ha : (s.job i).isActive = true
  · have hstop := Job.requestStop_of_active ha
    have hstopped : Act.Possible s.core (.stopped i) :=
      Act.possible_of_job rfl hrest ⟨ha, Job.isStill_of_rests (hrest.job i)⟩
    have hgoes := Goes.act (P := fun a => a.isRunning || a = .stopped i) hstopped (by simp)
    refine hgoes.trans (Goes.of_eq ?_)
    -- what is told to the observer is quiet
    have hnotes : (Job.announce "Job stopped" "Stopped").isEmpty = false := rfl
    rw [Core.next_of_silent s.core rfl rfl rfl rfl, Act.onJob, core_job, hstop]
    simp only [hnotes, Bool.false_eq_true, if_false]
    rw [core_tellAll _ _ (announce_quiet _ rfl)]
    rfl
  · have hstop : (s.job i).requestStop = (s.job i, []) := by
      rw [Job.isActive] at ha
      simp [Job.requestStop, Job.Snapshot.stop?, ha]
    rw [hstop]
    exact Goes.refl _ _

/-- A stop that waits causes no other act. -/
theorem stopWithin_goes (s : Session) (t : Thread) (i ms : Nat) (h : s.core.Calm) :
    s.core.Goes (fun a => a.isRunning || a = .stopped i) (s.stopWithin t i ms).2.core := by
  have hstop := requestStop_goes s t i h.rest
  have hsettle := (settle_goes (hstop.sound h.sound)).1
  have hgoes := hstop.trans (hsettle.mono fun a ha => by simp [ha])
  simp only [stopWithin]
  split
  · exact hgoes.trans (Goes.of_eq (core_tell_record _ _ nofun))
  · exact hgoes

/-! ### Letting writes go -/

/-- The reader may have waited for the transport to take the connection down. -/
theorem core_closeIfFault (s : Session) :
    (match s.link.reader with
      | some r => if r.closing then s.closeAfterFault else s
      | none => s).core = s.core ∨
    (match s.link.reader with
      | some r => if r.closing then s.closeAfterFault else s
      | none => s).core = s.core.next .closed := by
  split
  · split
    · exact .inr (core_closeAfterFault s)
    · exact .inl rfl
  · exact .inl rfl

/-- The write of a job's line returns when the rest of the line has been taken. In `c` the job
is still in its write. -/
theorem jobWritten_goes {s : Session} {c : Core} {i : Nat} {line : String} {rest : List UInt8}
    {delivery : Bench.Delivery} (hlt : i < s.jobs.length)
    (hs : c = { s.core with
      jobs := s.jobs.set i { s.job i with stage := .hanging line [] } })
    (htakes : delivery.Takes false rest rest) :
    c.Goes Act.isRunning
      ((s.afterDelivery .streamer line delivery).2.jobWritten i
        ((s.afterDelivery .streamer line delivery).2.job i) line
        (s.afterDelivery .streamer line delivery).1).core := by
  -- the thread comes back from its write, with the connection there or with a failure
  have hreturns : ∀ (c : Core) (failure : Option LinkError),
      c.jobs = s.jobs.set i { s.job i with stage := .hanging line [] } →
      (failure = none ∨ failure.isSome ∧ c.online = false) →
      c.Goes Act.isRunning
        { c with jobs := s.jobs.set i ((Act.returned i line failure).onJob (s.job i)) } := by
    intro c failure hjobs hends
    have hhangs : c.job i = { s.job i with stage := .hanging line [] } := by
      simp [Core.job, hjobs, hlt]
    have hgoes := returned_goes hhangs failure (hends.imp_left fun h => ⟨h, rfl⟩)
    rwa [hjobs, List.set_set] at hgoes
  subst hs
  cases htakes with
  | delivered =>
    refine (hreturns _ none rfl (.inl rfl)).trans (Goes.of_eq ?_)
    have hcore := core_confirmWrite s .streamer line
    have hjob : (s.confirmWrite .streamer line).job i = s.job i := by
      rw [← core_job, hcore, core_job]
    simp only [afterDelivery, jobWritten, core_setJob, hcore, hjob]
    rfl
  | failed reason =>
    -- the connection is taken down before the thread is back
    refine (Goes.act (Core.possible_closed _) rfl).trans
      ((hreturns _ (some (.io reason)) rfl (.inr ⟨rfl, rfl⟩)).trans (Goes.of_eq ?_))
    have hcore := core_failWrite s .streamer reason
    have hjob : (s.failWrite .streamer reason).job i = s.job i := by
      rw [← core_job, hcore]
      rfl
    simp only [afterDelivery, jobWritten, core_setJob, hcore, hjob, Core.next_closed]
    rfl
  | hanging hmay => cases hmay

/-- A write that is let go takes what was missing of its line and returns, after a fault that
waits for it is dealt with. -/
theorem letGoJob_goes (s : Session) (i : Nat) :
    s.core.Goes (fun a => a.isRunning || a.isYielding) (s.letGoJob i).core := by
  unfold letGoJob
  split
  · rename_i line rest hs
    obtain ⟨htakes, hwire⟩ := s.device.letGo_takes false rest
    generalize s.device.letGo rest = freed at htakes hwire ⊢
    obtain ⟨delivery, device⟩ := freed
    replace hwire : device.wire = s.device.wire ++ rest := hwire
    -- what was missing is taken, and then the reader may be first to get at the transport
    have hyielded : Act.Possible s.core (.yielded i line rest) :=
      Act.possible_of_job rfl trivial hs
    have hgoes := Goes.act (P := fun a => a.isRunning || a.isYielding) hyielded rfl
    have hnext : s.core.next (.yielded i line rest) =
        { ({ s with device } : Session).core with
          jobs := s.jobs.set i { s.job i with stage := .hanging line [] } } := by
      rw [Core.next_of_job s.core rfl rfl]
      simp [core, hwire, Act.onSlot, Act.onClaim, Act.onLine, Act.onJob, Act.bytes, Act.unsent?,
        ← core_job]
    have hfreed : ∀ s' : Session, (s'.core = ({ s with device } : Session).core ∨
        s'.core = ({ s with device } : Session).core.next .closed) →
        s.core.Goes (fun a => a.isRunning || a.isYielding)
          ((s'.afterDelivery .streamer line delivery).2.jobWritten i
            ((s'.afterDelivery .streamer line delivery).2.job i) line
            (s'.afterDelivery .streamer line delivery).1).core := by
      intro s' hclosed
      have hjobs : s'.jobs = s.jobs := by
        rcases hclosed with h | h <;> exact congrArg Core.jobs h
      have hstands : s.core.Goes (fun a => a.isRunning || a.isYielding)
          { s'.core with jobs := s'.jobs.set i { s'.job i with stage := .hanging line [] } } := by
        rw [hnext] at hgoes
        rw [hjobs, job, hjobs, ← job]
        rcases hclosed with h | h
        · rwa [h]
        · rw [h]
          exact hgoes.trans (Goes.act (Core.possible_closed _) rfl)
      have hlt : i < s'.jobs.length := hjobs ▸ hyielded.lt rfl
      exact hstands.trans ((jobWritten_goes hlt rfl htakes).mono fun a ha => by simp [ha])
    exact hfreed _ (core_closeIfFault { s with device })
  · exact Goes.refl _ _

/-- Writes that are let go yield, and then the threads run. -/
theorem letGo_goes (s : Session) :
    s.core.Goes (fun a => a.isRunning || a.isYielding) s.letGo.core := by
  have hfold : ∀ (l : List Nat) (s : Session),
      s.core.Goes (fun a => a.isRunning || a.isYielding) (l.foldl letGoJob s).core := by
    intro l
    induction l with
    | nil => exact fun s => Goes.refl _ _
    | cons i l ih => exact fun s => (letGoJob_goes s i).trans (ih _)
  exact hfold _ s

/-! ### Steps -/

/-- Whatever a step does, it does by the acts that it may cause. -/
theorem act_goes (s : Session) (step : Step) (h : s.core.Calm) :
    s.core.Goes (step.causes s.jobs.length) (s.act step).2.core := by
  -- five of the link's calls for jobs only set the slot or the claim
  have hmeddled : ∀ (s' : Session) (slot : Link.Slot) (claimed : Bool),
      step.begins s.jobs.length (.meddled slot claimed) = true →
      s'.core = { s.core with slot, claimed } →
      s.core.Goes (step.causes s.jobs.length) s'.core := by
    intro s' slot claimed hstep hs'
    have hgoes := Goes.act (P := step.causes s.jobs.length)
      (show Act.Possible s.core (.meddled slot claimed) from Act.possible_of_no_job rfl trivial)
      (Step.causes_of_begins hstep)
    refine hgoes.trans (Goes.of_eq ?_)
    rw [hs', Core.next_meddled]
  cases step with
  | connect port baud =>
    refine (connect_opens s .caller port baud h).goes.mono fun a ha => ?_
    simpa [isConnecting, Step.causes, Step.begins] using ha
  | disconnect => exact teardown_goes s .caller rfl
  | send line =>
    refine (sendLine_goes s (t := .caller) nofun line h.rest).mono fun a ha => ?_
    simp [Step.causes, Step.begins, ha]
  | realtime text =>
    simp only [act]
    split
    · rename_i c hc
      refine (sendRealtime_goes s (t := .caller) nofun c).mono fun a ha => ?_
      simp [Step.causes, Step.begins, hc, ha]
    · exact Goes.refl _ _
  | listPorts =>
    refine Goes.of_eq ?_
    simp only [act, listPorts]
    split <;> simp
  | within port baud lines failure =>
    refine within_goes s .caller port baud id (fun a ha => ?_) (fun s' hs' => ?_) h
    · simp only [isConnecting, Bool.or_eq_true] at ha
      simp only [Step.causes, Step.begins, Bool.or_eq_true]
      tauto
    · have hgoes := (sendEach_goes (t := .caller) nofun lines s' hs').mono
        (Q := (Step.within port baud lines failure).causes s.jobs.length) fun a ha => by
          simpa [isSending, Step.causes, Step.begins, or_assoc] using ha
      split
      · rename_i hsent
        rw [hsent] at hgoes
        exact hgoes
      · rename_i hsent
        rw [hsent] at hgoes
        split <;> exact hgoes
  | expect => exact hmeddled _ _ _ rfl rfl
  | takeResponse =>
    simp only [act]
    split
    · exact hmeddled _ _ _ rfl rfl
    · exact Goes.refl _ _
  | cancelResponse => exact hmeddled _ _ _ rfl rfl
  | claim =>
    simp only [act, Link.claim]
    split
    · exact Goes.refl _ _
    · exact hmeddled _ _ _ rfl rfl
  | release => exact hmeddled _ _ _ rfl rfl
  | deviceSends items | deviceChanges change | arm rule => exact Goes.of_eq rfl
  | start i name p => exact start_goes s .caller i name p h.rest
  | pause i => exact (pauseFrom_goes s .caller i).mono fun _ => Step.causes_of_isRunning
  | resume i =>
    refine (resume_goes s .caller i h.rest).mono fun a ha => ?_
    simpa [Step.causes, Step.begins] using ha
  | stop i =>
    refine (requestStop_goes s .caller i h.rest).mono fun a ha => ?_
    simpa [Step.causes, Step.begins] using ha
  | stopWithin i ms =>
    simp only [act]
    refine (stopWithin_goes s .caller i ms h).mono fun a ha => ?_
    simpa [Step.causes, Step.begins] using ha
  | letGo => exact letGo_goes s
  | await i => exact Goes.of_eq rfl

/-- A step, with what the threads do after it, is a list of acts. -/
theorem perform_goes (s : Session) (step : Step) (h : s.core.Calm) :
    s.core.Goes (step.causes s.jobs.length) (s.perform step).2.core ∧
      (s.perform step).2.core.Calm := by
  unfold perform
  split
  · exact ⟨Goes.refl _ _, h⟩
  · have hact := act_goes s step h
    obtain ⟨hsettle, hrest⟩ := settle_goes (hact.sound h.sound)
    have hgoes := hact.trans (hsettle.mono fun _ => Step.causes_of_isRunning)
    exact ⟨hgoes, ⟨hrest, hgoes.sound h.sound⟩⟩

/-! ### Histories -/

/-- The session after several steps. -/
def after (s : Session) (steps : List Step) : Session :=
  steps.foldl (fun s step => (s.perform step).2) s

/-- Later steps find the session as the earlier ones have left it. -/
theorem after_append (s : Session) (steps more : List Step) :
    s.after (steps ++ more) = (s.after steps).after more := by
  simp [after]

/-- A new link, and jobs that were never started. The device and the observer's
reactions may be any. -/
structure IsNew (s : Session) : Prop where
  link : s.link = {}
  jobs : ∀ j ∈ s.jobs, j = {}

/-- The core of a new session is new. -/
theorem IsNew.core {s : Session} (h : s.IsNew) : s.core.IsNew where
  slot := by rw [Session.core, h.link]
  claimed := by rw [Session.core, h.link]
  online := by rw [Session.core, h.link]; rfl
  job i := by
    rcases s.core.job_mem_or_default i with hi | hi
    · exact h.jobs _ hi
    · exact hi

/-- A new session is calm: no thread is at work, and nothing hangs. -/
theorem IsNew.calm {s : Session} (h : s.IsNew) : s.core.Calm where
  rest j hj := by
    rw [h.jobs j hj]
    rfl
  sound := h.core.sound

/-- Steps, each with the acts that it led to. -/
abbrev History := List (Step × List Act)

/-- The steps of a history. -/
def History.steps (h : History) : List Step := h.map (·.1)

/-- The acts of a history, over all steps. -/
def History.acts (h : History) : List Act := h.flatMap (·.2)

/-- The acts of each step are possible, lead to the core after the step, and are of a
kind that the step may cause. -/
def HasHistory (s : Session) : History → Prop
  | [] => True
  | (step, acts) :: h =>
    s.core.Permits acts ∧ s.core.after acts = (s.perform step).2.core ∧
      (∀ a ∈ acts, step.causes s.jobs.length a = true) ∧ (s.perform step).2.HasHistory h

instance decidableHasHistory : (s : Session) → (h : History) → Decidable (s.HasHistory h)
  | _, [] => inferInstanceAs (Decidable True)
  | s, (step, acts) :: h =>
    haveI := decidableHasHistory (s.perform step).2 h
    inferInstanceAs (Decidable
      (s.core.Permits acts ∧ s.core.after acts = (s.perform step).2.core ∧
        (∀ a ∈ acts, step.causes s.jobs.length a = true) ∧ (s.perform step).2.HasHistory h))

/-- The acts of a history are what can be seen from outside: the bytes on the device's wire
are those that the acts put there, in order, and the journal has the progress, the answers
and what could not be sent. -/
structure Attests (s : Session) (h : History) : Prop where
  wire : (s.after h.steps).device.wire = s.device.wire ++ h.acts.flatMap Act.bytes
  unsent : (s.after h.steps).core.unsent = s.core.unsent ++ h.acts.filterMap Act.unsent?
  told : (s.after h.steps).core.told = s.core.told ++ h.acts.flatMap Act.told
  heard : (s.after h.steps).core.heard = s.core.heard ++ h.acts.filterMap Act.answer?

/-- The wire of the core is that of the device. -/
theorem core_wire (s : Session) : s.core.wire = s.device.wire := rfl

namespace HasHistory

variable {s : Session} {h : History}

/-- The acts of a history are possible one after the other, and lead to the core in which
it ends. -/
theorem permits_and_core_after (hh : s.HasHistory h) :
    s.core.Permits h.acts ∧ s.core.after h.acts = (s.after h.steps).core := by
  induction h generalizing s with
  | nil => exact ⟨trivial, rfl⟩
  | cons entry h ih =>
    obtain ⟨step, acts⟩ := entry
    obtain ⟨hpermits, hcore, -, hrest⟩ := hh
    -- the rest of the history begins where the acts of this step have led
    obtain ⟨hp, ha⟩ := ih hrest
    have hacts : History.acts ((step, acts) :: h) = acts ++ History.acts h := rfl
    rw [hacts, Core.permits_append, Core.after_append, hcore]
    exact ⟨⟨hpermits, hp⟩, ha⟩

/-- The acts of a history are possible one after the other. -/
theorem permits (hh : s.HasHistory h) : s.core.Permits h.acts := hh.permits_and_core_after.1

/-- The acts of a history lead to the core in which it ends. -/
theorem core_after (hh : s.HasHistory h) : s.core.after h.acts = (s.after h.steps).core :=
  hh.permits_and_core_after.2

/-- What the session shows for the acts of a history. -/
theorem attests (hh : s.HasHistory h) : s.Attests h where
  wire := by
    rw [← core_wire, ← hh.core_after, Core.wire_after]
    rfl
  unsent := by rw [← hh.core_after, Core.unsent_after]
  told := by rw [← hh.core_after, Core.told_after]
  heard := by rw [← hh.core_after, Core.heard_after]

/-- No step of a history changes the number of jobs. -/
theorem length_jobs_perform (hh : s.HasHistory h) {step : Step} {acts : List Act}
    {rest : History} (hcons : h = (step, acts) :: rest) :
    (s.perform step).2.jobs.length = s.jobs.length := by
  subst hcons
  have hlength := Core.length_after_jobs s.core acts
  rw [hh.2.1] at hlength
  exact hlength

/-- Every act of a history has a step that may cause it. -/
theorem caused (hh : s.HasHistory h) {a : Act} (ha : a ∈ h.acts) :
    ∃ step ∈ h.steps, step.causes s.jobs.length a = true := by
  induction h generalizing s with
  | nil => cases ha
  | cons entry h ih =>
    obtain ⟨step, acts⟩ := entry
    rcases List.mem_append.mp (show a ∈ acts ++ History.acts h from ha) with ha | ha
    · exact ⟨step, by simp [History.steps], hh.2.2.1 a ha⟩
    · obtain ⟨other, hmem, hcauses⟩ := ih hh.2.2.2 ha
      rw [hh.length_jobs_perform rfl] at hcauses
      exact ⟨other, List.mem_cons_of_mem _ hmem, hcauses⟩

end HasHistory

/-- After every step the threads are at rest, with their records in order. -/
theorem calm_after {s : Session} (h : s.core.Calm) (steps : List Step) :
    (s.after steps).core.Calm := by
  induction steps generalizing s with
  | nil => exact h
  | cons step steps ih => exact ih (perform_goes s step h).2

/-- Every list of steps has a history. -/
theorem exists_history {s : Session} (h : s.core.Calm) (steps : List Step) :
    ∃ hist : History, hist.steps = steps ∧ s.HasHistory hist := by
  induction steps generalizing s with
  | nil => exact ⟨[], rfl, trivial⟩
  | cons step steps ih =>
    obtain ⟨⟨acts, hpermits, hcore, hcauses⟩, hcalm⟩ := perform_goes s step h
    obtain ⟨hist, rfl, hhist⟩ := ih hcalm
    exact ⟨(step, acts) :: hist, rfl, hpermits, hcore, hcauses, hhist⟩

/-- Several steps are a list of acts. -/
theorem after_goes {s : Session} (h : s.core.Calm) (steps : List Step) :
    s.core.Goes (fun _ => true) (s.after steps).core := by
  obtain ⟨hist, rfl, hh⟩ := exists_history h steps
  exact ⟨hist.acts, hh.permits, hh.core_after, fun _ _ => rfl⟩

/-- No step adds a job or takes one away. -/
theorem length_jobs_perform {s : Session} (h : s.core.Calm) (step : Step) :
    (s.perform step).2.jobs.length = s.jobs.length :=
  (perform_goes s step h).1.length_jobs

/-- There are as many jobs as at first. -/
theorem length_jobs_after {s : Session} (h : s.core.Calm) (steps : List Step) :
    (s.after steps).jobs.length = s.jobs.length :=
  (after_goes h steps).length_jobs

/-- Nobody but the jobs makes the calls that are for jobs. -/
def Undisturbed (s : Session) (steps : List Step) : Prop :=
  ∀ step ∈ steps, step.meddles s.jobs.length = false

instance (s : Session) (steps : List Step) : Decidable (s.Undisturbed steps) :=
  inferInstanceAs (Decidable (∀ step ∈ steps, step.meddles s.jobs.length = false))

/-- Where a step does not meddle, none of its acts does. -/
theorem Step.not_meddling {n : Nat} {step : Step} {a : Act} (hstep : step.meddles n = false)
    (ha : step.causes n a = true) : a.isMeddling = false := by
  -- only one kind of act meddles, and the calls that may begin it are the ones excluded
  cases a with
  | meddled slot claimed =>
    exfalso
    replace ha : step.begins n (.meddled slot claimed) = true := ha
    cases step with
    | start i name p => simp [begins, hstep] at ha
    | expect | takeResponse | cancelResponse | claim | release => cases hstep
    | send line =>
      replace ha : sendsLine line (.meddled slot claimed) = true := ha
      simpa using Act.isSend_cases ha
    | realtime text =>
      simp only [begins, Option.any_eq_true] at ha
      obtain ⟨c, -, hc⟩ := ha
      simpa using Act.isSend_cases hc
    | within port baud lines failure =>
      simp only [begins, reduceCtorEq, decide_false, Bool.false_or, List.any_eq_true] at ha
      obtain ⟨line, -, hline⟩ := ha
      simpa using Act.isSend_cases hline
    | letGo => cases ha
    | _ => simp [begins] at ha
  | _ => rfl

/-- Undisturbed, nothing meddles with the slot or the claim. -/
theorem HasHistory.not_meddling {s : Session} {h : History} (hh : s.HasHistory h)
    (hsteps : s.Undisturbed h.steps) {a : Act} (ha : a ∈ h.acts) : a.isMeddling = false := by
  obtain ⟨step, hmem, hcauses⟩ := hh.caused ha
  exact Step.not_meddling (hsteps step hmem) hcauses

end Session

end GcodeSender
