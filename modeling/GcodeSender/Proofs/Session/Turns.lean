import GcodeSender.Proofs.Session.History
import Mathlib.Logic.Relation

/-!
# `GcodeSender.Proofs.Session.Turns`: a session as a run of turns

An act (`Act`) is as small as a change of the core can be, and says nothing of the
journal, the device or the reader. What a thread reports and what it reads is seen one
level up, where the threads take turns: a job's thread makes one move, the reader makes
one read, the operator makes one call.

* `Session.Takes`: a session takes a turn. The turns are the session's own operations.
* `Session.Runs`: turns one after the other. No order among the threads is asked for,
  except that the reader and the operator act only while the jobs are at rest.
* `TakesFairly`: a turn in which nobody but the jobs makes the calls that are for jobs.
  `Takes.fairly`: the others are those calls themselves.
* `Takes.goes`: a turn is a list of acts, and only a start starts a job.
* `settle_leads`: running the threads to rest is a run of their turns.
-/

set_option autoImplicit false

namespace GcodeSender

/-- Whose turn it is, and what it is about. -/
inductive Turn where
  /-- A job's thread moves. -/
  | job (i : Nat)
  /-- The reader reads, from what is first in the queue. -/
  | read (item : Bench.Item)
  /-- The reader waits in vain. -/
  | idle
  /-- The write of a job's line is let go. -/
  | letGo (i : Nat)
  /-- A job is started, or is given up because it gets no thread. -/
  | launch (i : Nat)
  /-- A port is opened, or is found not to open. -/
  | opening
  /-- The observer is told how to react. -/
  | arm (rule : Rule)
  /-- The device is changed. -/
  | device
  /-- Any other call from outside. -/
  | operator

namespace Turn

/-- A turn that the threads take by themselves. -/
def isRunning : Turn → Bool
  | .job _ | .read _ | .idle => true
  | .letGo _ | .launch _ | .opening | .arm _ | .device | .operator => false

/-- A turn that starts the given job or gives it up. -/
def launches (i : Nat) : Turn → Bool
  | .launch k => k = i
  | .job _ | .read _ | .idle | .letGo _ | .opening | .arm _ | .device | .operator => false

/-- A turn that opens a port. -/
def opens : Turn → Bool
  | .opening => true
  | .job _ | .read _ | .idle | .letGo _ | .launch _ | .arm _ | .device | .operator => false

/-- A turn that neither reads, nor opens a port, nor tells the observer how to react, nor changes
the device. -/
def isQuiet : Turn → Bool
  | .job _ | .letGo _ | .launch _ | .operator => true
  | .read _ | .idle | .opening | .arm _ | .device => false

/-- Only a start starts a job, and only opening a port opens a connection. -/
def causes (t : Turn) : Act → Bool
  | .launched i _ _ => t.launches i
  | .opened => t.opens
  | _ => true

/-- Whatever is sent, no job is started and no connection opened. -/
theorem causes_of_isSend (t : Turn) {a done : Act} {bytes : List UInt8} {shown : String}
    (hdone : t.causes done = true ∧ done.isMeddling = false)
    (h : a.isSend done bytes shown = true) : (t.causes a && !a.isMeddling) = true := by
  rcases Act.isSend_cases h with rfl | rfl | ⟨taken, rfl, -⟩
  · rw [hdone.1, hdone.2]
    rfl
  · rfl
  · rfl

/-- The threads by themselves open no port. -/
theorem not_opens_of_isRunning {t : Turn} (h : t.isRunning = true) : t.opens = false := by
  cases t with
  | opening => cases h
  | _ => rfl

/-- Threads may run in every turn. -/
theorem causes_of_isRunning (t : Turn) {a : Act} (h : a.isRunning = true) :
    t.causes a = true := by
  cases a with
  | launched | opened => cases h
  | _ => rfl

end Turn

namespace Session

open GcodeSender.Core (Goes)

/-- One turn of a session. -/
inductive Takes (s : Session) : Turn → Session → Prop
  | job {i : Nat} {next : Session} (h : s.advance? i = some next) : Takes s (.job i) next
  | read {item : Bench.Item} {rest : List Bench.Item} {next : Session}
      (hrest : s.core.AtRest) (hitem : s.device.inbound = item :: rest)
      (h : s.read? = some next) : Takes s (.read item) next
  | idle : Takes s .idle s.timeOut
  | letGo (i : Nat) : Takes s (.letGo i) (s.letGoJob i)
  /-- A start that is not refused takes the link for its job. -/
  | launch {i : Nat} {name : String} {p : Program} (hrest : s.core.AtRest)
      (hfree : (s.job i).isHanging = false)
      (hallowed : (s.job i).refusal? p s.link.state.isConnected = none)
      (hunclaimed : s.link.claimed = false) :
      Takes s (.launch i) (({ s with link := s.link.claim.2 } : Session).launch .caller i name p)
  /-- The host starts a thread, or has none. -/
  | spawn : Takes s .operator { s with device := s.device.spawn.2 }
  /-- A job that has done nothing yet gets no thread. -/
  | abandon (i : Nat) (reason : String) (hfits : (Act.abandoned i).Fits (s.job i))
      (hclaimed : s.link.claimed = true) : Takes s (.launch i) (s.abandonStart .caller i reason).2
  /-- A start that is refused. -/
  | refuse (e : JobError) : Takes s .operator (s.refuseStart .caller e).2
  | pause (i : Nat) : Takes s .operator (s.pause .caller i)
  | resume (hrest : s.core.AtRest) (i : Nat) : Takes s .operator (s.resume .caller i)
  | stop (hrest : s.core.AtRest) (i : Nat) : Takes s .operator (s.requestStop .caller i)
  /-- A stop is not waited for any longer. -/
  | overdue (ms : Nat) : Takes s .operator
      (s.tell .caller (Job.record .warn ("Job did not stop within " ++ durationText ms)))
  | sendLine (hrest : s.core.AtRest) (line : String) :
      Takes s .operator (s.sendLine .caller line).2
  | sendRealtime (c : Machine.Realtime) : Takes s .operator (s.sendRealtime .caller c).2
  | disconnect : Takes s .operator (s.disconnect .caller)
  | opening (hrest : s.core.AtRest) (hfree : s.isHanging = false)
      (hgone : s.link.reader = none) (port : String) (baud : UInt32) :
      Takes s .opening (s.openPort .caller port baud).2
  /-- A call to connect to the port in use. -/
  | stay (port : String) :
      Takes s .operator (s.log .caller .debug ("Already connected to " ++ port))
  | listPorts : Takes s .operator (s.listPorts .caller).2
  /-- One of the link's calls for jobs. None of them ends the connection. -/
  | meddle (slot : Link.Slot) (claimed : Bool) (h : slot.closed = s.link.slot.closed) :
      Takes s .operator { s with link.slot := slot, link.claimed := claimed }
  | sends (items : List Bench.Item) :
      Takes s .operator { s with device.inbound := s.device.inbound ++ items }
  /-- The device is changed, but not what the bench has on record of the bytes taken. -/
  | device (d : Bench.Device) (hwire : d.wire = s.device.wire) :
      Takes s .device { s with device := d }
  | arm (rule : Rule) : Takes s (.arm rule) { s with rules := s.rules ++ [rule] }

/-- Turns, one after the other. -/
inductive Runs : Session → List Turn → Session → Prop
  | nil (s : Session) : Runs s [] s
  | cons {s next last : Session} {t : Turn} {turns : List Turn} (h : s.Takes t next)
      (hrest : Runs next turns last) : Runs s (t :: turns) last

namespace Runs

variable {s mid last next : Session} {t : Turn} {turns more : List Turn}

/-- One turn is a run. -/
theorem single (h : s.Takes t next) : s.Runs [t] next := .cons h (.nil next)

/-- A run goes on where another has ended. -/
theorem append (h : s.Runs turns mid) (h' : mid.Runs more last) : s.Runs (turns ++ more) last := by
  induction h with
  | nil => exact h'
  | cons htakes _ ih => exact .cons htakes (ih h')

/-- What the start has and every turn of a kind preserves, holds after all turns of that
kind. -/
theorem invariant {K : Turn → Prop} {P : Session → Prop} (h : s.Runs turns last) (start : P s)
    (step : ∀ (s next : Session) (t : Turn), s.Takes t next → K t → P s → P next)
    (hK : ∀ t ∈ turns, K t) : P last := by
  induction h with
  | nil => exact start
  | cons htakes _ ih =>
    have hnext := step _ _ _ htakes (hK _ (by simp)) start
    exact ih hnext fun t ht => hK t (List.mem_cons_of_mem _ ht)

end Runs

/-- One session leads to another by turns of a kind. -/
def Leads (K : Turn → Bool) (s last : Session) : Prop :=
  ∃ turns, s.Runs turns last ∧ ∀ t ∈ turns, K t = true

namespace Leads

variable {K L : Turn → Bool} {s mid last next : Session} {t : Turn}

/-- Without a turn nothing leads on. -/
theorem refl (K : Turn → Bool) (s : Session) : Leads K s s := ⟨[], .nil s, by simp⟩

/-- A turn of a kind leads on. -/
theorem turn (h : s.Takes t next) (hK : K t = true) : Leads K s next :=
  ⟨[t], .single h, by simpa using hK⟩

/-- Turns lead on from where others have led. -/
theorem trans (h : Leads K s mid) (h' : Leads K mid last) : Leads K s last := by
  obtain ⟨turns, hruns, hK⟩ := h
  obtain ⟨more, hmore, hK'⟩ := h'
  refine ⟨turns ++ more, hruns.append hmore, fun t ht => ?_⟩
  rcases List.mem_append.mp ht with ht | ht
  · exact hK t ht
  · exact hK' t ht

/-- Turns of a kind are turns of a wider one. -/
theorem mono (h : Leads K s last) (hKL : ∀ t, K t = true → L t = true) : Leads L s last := by
  obtain ⟨turns, hruns, hK⟩ := h
  exact ⟨turns, hruns, fun t ht => hKL t (hK t ht)⟩

/-- What every turn of the kind preserves is preserved. -/
theorem invariant {P : Session → Prop} (h : Leads K s last) (start : P s)
    (step : ∀ (s next : Session) (t : Turn), s.Takes t next → K t = true → P s → P next) :
    P last := by
  obtain ⟨turns, hruns, hK⟩ := h
  exact hruns.invariant (K := fun t => K t = true) start step hK

end Leads

/-! ### A turn is a list of acts -/

/-- A start is refused, or takes the link for its job, which then gets a thread or does not. -/
theorem start_cases (s : Session) (t : Thread) (i : Nat) (name : String) (p : Program) :
    (∃ e, s.start t i name p = s.refuseStart t e) ∨
      (s.job i).refusal? p s.link.state.isConnected = none ∧ s.link.claimed = false ∧
        s.start t i name p =
          (({ s with link := s.link.claim.2 } : Session).launch t i name p).spawnJob t i := by
  unfold start
  cases hrefusal : (s.job i).refusal? p s.link.state.isConnected with
  | some refusal => exact .inl ⟨_, rfl⟩
  | none =>
    cases hclaimed : s.link.claimed with
    | true =>
      left
      simp only [Link.claim, hclaimed, if_true]
      exact ⟨_, rfl⟩
    | false =>
      right
      simp [Link.claim, hclaimed]

/-- The host has a thread for a job, or the job is given up. -/
theorem spawnJob_cases (s : Session) (t : Thread) (i : Nat) :
    s.spawnJob t i = (.ok (), { s with device := s.device.spawn.2 }) ∨
      ∃ reason, s.spawnJob t i =
        ({ s with device := s.device.spawn.2 } : Session).abandonStart t i reason := by
  unfold spawnJob
  generalize s.device.spawn = spawned
  obtain ⟨r, device⟩ := spawned
  cases r with
  | ok u => exact .inl rfl
  | error reason => exact .inr ⟨reason, rfl⟩

/-- To list the ports changes nothing of the core. -/
theorem core_listPorts (s : Session) (t : Thread) : (s.listPorts t).2.core = s.core := by
  unfold listPorts
  split
  · exact core_tell_record _ _ (show Log.Level.error ≠ .trace by decide)
  · rfl
  · rfl

/-- A turn in which nobody but the jobs makes the calls that are for jobs. -/
structure TakesFairly (s : Session) (t : Turn) (next : Session) : Prop where
  takes : s.Takes t next
  goes : s.core.Goes (fun a => t.causes a && !a.isMeddling) next.core

namespace TakesFairly

variable {s next : Session} {t : Turn}

/-- A turn is fair if it begins with an act that it may cause and that does not meddle. -/
theorem of_begun (h : s.Takes t next) {b : Act} (hb : t.causes b = true)
    (hmild : b.isMeddling = false) (hgoes : s.core.Goes (fun a => a.isRunning || a = b) next.core) :
    s.TakesFairly t next := by
  refine ⟨h, hgoes.mono fun a ha => ?_⟩
  rcases Bool.or_eq_true_iff.mp ha with ha | ha
  · rw [t.causes_of_isRunning ha, Act.not_meddling_of_isRunning ha]
    rfl
  · obtain rfl : a = b := by simpa using ha
    simp [hb, hmild]

/-- It is fair if only threads run in it. -/
theorem of_running (h : s.Takes t next) (hgoes : s.core.Goes Act.isRunning next.core) :
    s.TakesFairly t next :=
  of_begun h (b := .closed) rfl rfl (hgoes.mono fun a ha => by simp [ha])

/-- A turn that leaves the core alone is no call for jobs. -/
theorem of_eq (h : s.Takes t next) (hcore : next.core = s.core) : s.TakesFairly t next :=
  of_running h (Goes.of_eq hcore)

/-- The move of a job is fair. -/
theorem job {i : Nat} (h : s.advance? i = some next) : s.TakesFairly (.job i) next := by
  obtain ⟨a, hmove, ha, hgoes⟩ := advance?_goes h
  exact of_running (.job h) ((Goes.act ha (Act.isRunning_of_isMove hmove)).trans hgoes)

/-- What the reader reads is fair. -/
theorem read {item : Bench.Item} {rest : List Bench.Item} (hrest : s.core.AtRest)
    (hitem : s.device.inbound = item :: rest) (h : s.read? = some next) :
    s.TakesFairly (.read item) next :=
  of_running (.read hrest hitem h)
    ((read?_goes h hrest).mono fun _ => Act.isRunning_of_isReading)

/-- A read that times out is fair. -/
theorem idle (s : Session) : s.TakesFairly .idle s.timeOut := of_eq .idle (core_timeOut s)

/-- A write that is let go is fair. -/
theorem letGo (s : Session) (i : Nat) : s.TakesFairly (.letGo i) (s.letGoJob i) := by
  refine ⟨.letGo i, (letGoJob_goes s i).mono fun a ha => ?_⟩
  cases a with
  | launched | opened => cases ha
  | meddled => cases ha
  | _ => rfl

/-- A start is fair if there is a job to be started. -/
theorem launch {i : Nat} {name : String} {p : Program} (hi : i < s.jobs.length)
    (hrest : s.core.AtRest) (hfree : (s.job i).isHanging = false)
    (hallowed : (s.job i).refusal? p s.link.state.isConnected = none)
    (hunclaimed : s.link.claimed = false) : s.TakesFairly (.launch i)
      (({ s with link := s.link.claim.2 } : Session).launch .caller i name p) := by
  have hlaunches : (Turn.launch i).causes (.launched i name p) = true := by
    simp [Turn.causes, Turn.launches]
  have hgoes := Goes.act (P := fun a => a.isRunning || a = .launched i name p)
    (possible_launched hi hrest hallowed hunclaimed name) (by simp)
  rw [← core_launch_of_claim s .caller hunclaimed name] at hgoes
  exact of_begun (.launch hrest hfree hallowed hunclaimed) hlaunches rfl hgoes

/-- To ask the host for a thread is fair. -/
theorem spawn (s : Session) : s.TakesFairly .operator { s with device := s.device.spawn.2 } :=
  of_eq .spawn (core_withDevice s.device.wire_spawn)

/-- To give up a start that gets none is fair. -/
theorem abandon {i : Nat} (hfits : (Act.abandoned i).Fits (s.job i))
    (hclaimed : s.link.claimed = true) (reason : String) :
    s.TakesFairly (.launch i) (s.abandonStart .caller i reason).2 := by
  have hgoes := Goes.act (P := fun a => a.isRunning || a = .abandoned i)
    (Act.possible_of_job (a := .abandoned i) (c := s.core) rfl hclaimed hfits) (by simp)
  rw [Core.next_of_silent s.core rfl rfl rfl rfl] at hgoes
  exact of_begun (.abandon i reason hfits hclaimed) rfl rfl
    (hgoes.trans (Goes.of_eq (core_abandonStart s .caller i reason)))

/-- To refuse a start is fair. -/
theorem refuse (s : Session) (e : JobError) :
    s.TakesFairly .operator (s.refuseStart .caller e).2 :=
  of_eq (.refuse e) (core_refuseStart s .caller e)

/-- A pause is fair. -/
theorem pause (s : Session) (i : Nat) : s.TakesFairly .operator (s.pause .caller i) :=
  of_running (.pause i) (pauseFrom_goes s .caller i)

/-- The end of a pause is fair. -/
theorem resume (hrest : s.core.AtRest) (i : Nat) :
    s.TakesFairly .operator (s.resume .caller i) :=
  of_begun (.resume hrest i) rfl rfl (resume_goes s .caller i hrest)

/-- A stop is fair. -/
theorem stop (hrest : s.core.AtRest) (i : Nat) :
    s.TakesFairly .operator (s.requestStop .caller i) :=
  of_begun (.stop hrest i) rfl rfl (requestStop_goes s .caller i hrest)

/-- To report that a stop takes too long is fair. -/
theorem overdue (s : Session) (ms : Nat) : s.TakesFairly .operator
    (s.tell .caller (Job.record .warn ("Job did not stop within " ++ durationText ms))) :=
  of_eq (.overdue ms) (core_tell_record _ _ (show Log.Level.warn ≠ .trace by decide))

/-- To send a line is fair. -/
theorem sendLine (hrest : s.core.AtRest) (line : String) :
    s.TakesFairly .operator (s.sendLine .caller line).2 :=
  ⟨.sendLine hrest line, (sendLine_goes s (t := .caller) nofun line hrest).mono
    fun _ ha => Turn.causes_of_isSend _ ⟨rfl, rfl⟩ ha⟩

/-- To send a command is fair. -/
theorem sendRealtime (s : Session) (c : Machine.Realtime) :
    s.TakesFairly .operator (s.sendRealtime .caller c).2 :=
  ⟨.sendRealtime c, (sendRealtime_goes s (t := .caller) nofun c).mono
    fun _ ha => Turn.causes_of_isSend _ ⟨rfl, rfl⟩ ha⟩

/-- To disconnect is fair. -/
theorem disconnect (s : Session) : s.TakesFairly .operator (s.disconnect .caller) :=
  of_running .disconnect (teardown_goes s .caller rfl)

/-- To open a port is fair, where the last reader has ended and no write hangs. -/
theorem opening (hrest : s.core.AtRest) (hfree : s.isHanging = false)
    (hgone : s.link.reader = none) (port : String) (baud : UInt32) :
    s.TakesFairly .opening (s.openPort .caller port baud).2 :=
  of_begun (.opening hrest hfree hgone port baud) rfl rfl
    (openPort_opens s .caller port baud hrest).goes

/-- To find the port open already is fair. -/
theorem stay (s : Session) (port : String) :
    s.TakesFairly .operator (s.log .caller .debug ("Already connected to " ++ port)) :=
  of_eq (.stay port) (core_log _ _ (by decide) _)

/-- To list the ports is fair. -/
theorem listPorts (s : Session) : s.TakesFairly .operator (s.listPorts .caller).2 :=
  of_eq .listPorts (core_listPorts s .caller)

/-- What the device sends is fair. -/
theorem sends (s : Session) (items : List Bench.Item) :
    s.TakesFairly .operator { s with device.inbound := s.device.inbound ++ items } :=
  of_eq (.sends items) rfl

/-- Any change of the device is fair that leaves the wire as it is. -/
theorem device {d : Bench.Device} (hwire : d.wire = s.device.wire) :
    s.TakesFairly .device { s with device := d } :=
  of_eq (.device d hwire) (core_withDevice hwire)

/-- To arm the observer is fair. -/
theorem arm (s : Session) (rule : Rule) :
    s.TakesFairly (.arm rule) { s with rules := s.rules ++ [rule] } := of_eq (.arm rule) rfl

end TakesFairly

namespace Takes

variable {s next : Session} {t : Turn}

/-- A turn is fair, unless it is one of the link's calls for jobs, or a start of a job that
does not exist. -/
theorem fairly (h : s.Takes t next) (hexists : ∀ i, t = .launch i → i < s.jobs.length) :
    s.TakesFairly t next ∨ ∃ slot claimed, t = .operator ∧
      next = { s with link.slot := slot, link.claimed := claimed } := by
  -- a fair turn is any other
  cases h with
  | meddle slot claimed => exact .inr ⟨slot, claimed, rfl, rfl⟩
  | job h => exact .inl (.job h)
  | read hrest hitem h => exact .inl (.read hrest hitem h)
  | idle => exact .inl (.idle s)
  | letGo i => exact .inl (.letGo s i)
  | launch hrest hfree hallowed hunclaimed =>
    exact .inl (.launch (hexists _ rfl) hrest hfree hallowed hunclaimed)
  | spawn => exact .inl (.spawn s)
  | abandon i reason hfits hclaimed => exact .inl (.abandon hfits hclaimed reason)
  | refuse e => exact .inl (.refuse s e)
  | pause i => exact .inl (.pause s i)
  | resume hrest i => exact .inl (.resume hrest i)
  | stop hrest i => exact .inl (.stop hrest i)
  | overdue ms => exact .inl (.overdue s ms)
  | sendLine hrest line => exact .inl (.sendLine hrest line)
  | sendRealtime c => exact .inl (.sendRealtime s c)
  | disconnect => exact .inl (.disconnect s)
  | opening hrest hfree hgone port baud => exact .inl (.opening hrest hfree hgone port baud)
  | stay port => exact .inl (.stay s port)
  | listPorts => exact .inl (.listPorts s)
  | sends items => exact .inl (.sends s items)
  | device d hwire => exact .inl (.device hwire)
  | arm rule => exact .inl (.arm s rule)

/-- A turn is a list of acts, and only a start starts a job. -/
theorem goes (h : s.Takes t next) : s.core.Goes t.causes next.core := by
  by_cases hexists : ∀ i, t = .launch i → i < s.jobs.length
  · rcases h.fairly hexists with hfair | ⟨slot, claimed, rfl, rfl⟩
    · exact hfair.goes.mono fun a ha => (Bool.and_eq_true_iff.mp ha).1
    · have hmeddled := Goes.act (P := Turn.operator.causes)
        (show Act.Possible s.core (.meddled slot claimed) from Act.possible_of_no_job rfl trivial)
        rfl
      refine hmeddled.trans (Goes.of_eq ?_)
      rw [Core.next_meddled]
      rfl
  · -- the link is taken for a job that does not exist
    push Not at hexists
    obtain ⟨i, rfl, hi⟩ := hexists
    cases h with
    | @launch _ name p hrest hfree hallowed hunclaimed =>
      have hmeddled := Goes.act (P := (Turn.launch i).causes)
        (show Act.Possible s.core (.meddled s.link.slot.resetCancel true) from
          Act.possible_of_no_job rfl trivial) rfl
      refine hmeddled.trans (Goes.of_eq ?_)
      rw [core_launch, Core.next_meddled]
      have hnone : s.jobs.set i (Job.launch name p) = s.jobs := List.set_eq_of_length_le hi
      simp [core, Link.claim, hunclaimed, Link.canSend, hnone]
    | abandon _ reason hfits hclaimed =>
      have hnone : s.job i = {} := by simp [Session.job, List.getElem?_eq_none hi]
      rw [hnone] at hfits
      cases hfits.1

end Takes

end Session

/-! ### Writes that hang -/

namespace Act

/-- Only a write begins to hang. -/
theorem isHanging_onJob {a : Act} {j : Job} (hfit : a.Fits j)
    (hwrote : ∀ i line rest, a ≠ .wrote i line rest) (h : (a.onJob j).isHanging = true) :
    j.isHanging = true := by
  -- all acts but the write leave a thread that does not hang out of its write
  cases a with
  | opened | dropped | closed | broke | heard | noted | signalled | withheld | meddled => exact h
  | wrote i line rest => exact absurd rfl (hwrote i line rest)
  | launched | abandoned => cases h
  | yielded i line rest =>
    replace hfit : j.stage = .hanging line rest := hfit
    simp [Job.isHanging, hfit]
  | paused i => simpa [onJob, Job.pause_of_running hfit, Job.isHanging] using h
  | resumed i => simpa [onJob, Job.resume_of_paused hfit.1, Job.isHanging] using h
  | stopped i => simpa [onJob, Job.requestStop_of_active hfit.1, Job.isHanging] using h
  | armed i line =>
    replace hfit : j.stage = .arming line := hfit
    simp [onJob, Job.armed, hfit, Job.isHanging] at h
  | refused | released => simp [onJob, Job.sent, Job.released, Job.isHanging] at h
  | returned i line failure =>
    cases failure <;> simp [onJob, Job.sent, Job.isHanging] at h
  | took i line outcome =>
    cases outcome with
    | answer ans =>
      simp only [onJob, Job.answered] at h
      split at h <;> cases h
    | closed | cancelled => cases h
  | moved i p =>
    obtain ⟨next, hnext, hsteps⟩ := Job.steps_of_moved hfit
    rw [hnext] at h
    cases hsteps <;> cases h

end Act

/-- Without a connection, no write begins to hang, until one is opened. -/
theorem Core.Goes.offline {P : Act → Bool} {c c' : Core} (h : Core.Goes P c c')
    (hP : ∀ a, P a = true → a ≠ .opened) (hoff : c.online = false) :
    c'.online = false ∧ ∀ i, (c'.job i).isHanging = true → (c.job i).isHanging = true := by
  obtain ⟨acts, hpermits, rfl, hacts⟩ := h
  refine hpermits.invariant (K := fun a => P a = true)
    (P := fun _ c' => c'.online = false ∧ ∀ i, (c'.job i).isHanging = true →
      (c.job i).isHanging = true) ⟨hoff, fun _ => id⟩ ?_ hacts
  intro acts a _ _ ha hkind ⟨hbefore, hhang⟩
  refine ⟨?_, fun i hi => hhang i ?_⟩
  · cases a with
    | opened => exact absurd rfl (hP _ hkind)
    | dropped | closed | broke => rfl
    | _ => exact hbefore
  · rw [Core.next_job ha i] at hi
    split at hi
    · rename_i hjob
      refine Act.isHanging_onJob (ha.2 i hjob) ?_ hi
      rintro k line rest rfl
      -- a line is written only on a connection
      have honline : (c.after acts).online = true := ha.1
      rw [hbefore] at honline
      cases honline
    · exact hi

namespace Session

/-- A session hangs if a job of it does. -/
theorem isHanging_iff (s : Session) : s.isHanging = true ↔ ∃ i, (s.job i).isHanging = true := by
  simp only [isHanging, List.any_eq_true]
  constructor
  · rintro ⟨j, hj, hhang⟩
    obtain ⟨i, hi, rfl⟩ := List.mem_iff_getElem.mp hj
    exact ⟨i, by simpa [job, hi] using hhang⟩
  · rintro ⟨i, hi⟩
    rcases s.core.job_mem_or_default i with hmem | hdefault
    · exact ⟨_, hmem, hi⟩
    · rw [core_job] at hdefault
      rw [hdefault] at hi
      cases hi

/-- Where no write hangs, that of no job does. -/
theorem job_not_hanging {s : Session} (hfree : s.isHanging = false) (i : Nat) :
    (s.job i).isHanging = false := by
  refine eq_false_of_ne_true fun hhang => ?_
  rw [s.isHanging_iff.mpr ⟨i, hhang⟩] at hfree
  cases hfree

/-! ### Where the threads of the jobs stand -/

/-- A job is found among the jobs. -/
theorem job_of_jobs {s s' : Session} (h : s'.jobs = s.jobs) {i : Nat} : s'.job i = s.job i := by
  rw [job, h, ← job]

/-- A job is not replaced by another in a place of its own. -/
theorem job_setJob_of_ne (s : Session) {i k : Nat} (h : k ≠ i) (j : Job) :
    (s.setJob k j).job i = s.job i := by
  simp [job, setJob, h]

/-- A job that is put in a place is found there. -/
theorem job_setJob_self {s : Session} {i : Nat} (h : i < s.jobs.length) (j : Job) :
    (s.setJob i j).job i = j := by
  simp [job, setJob, h]

/-- What has a thread is a job of the session. -/
theorem lt_of_stage {s : Session} {i : Nat} (h : (s.job i).stage ≠ .gone) :
    i < s.jobs.length := by
  refine Nat.lt_of_not_le fun hle => h ?_
  simp [job, List.getElem?_eq_none hle]

/-- A job whose thread is not moved leaves every thread where it is. -/
theorem stage_setJob (s : Session) (i k : Nat) {j : Job} (h : j.stage = (s.job k).stage) :
    ((s.setJob k j).job i).stage = (s.job i).stage := by
  by_cases hik : k = i
  · subst hik
    by_cases hlt : k < s.jobs.length
    · simpa [job, setJob, hlt] using h
    · simp [job, setJob, List.set_eq_of_length_le (Nat.le_of_not_lt hlt)]
  · rw [job_setJob_of_ne s hik]

/-- To tell of a job does not change it. -/
theorem jobs_tellAll (s : Session) (t : Thread) (notes : List Note) :
    (s.tellAll t notes).jobs = s.jobs := by
  induction notes generalizing s with
  | nil => rfl
  | cons n notes ih => exact ih (s.tell t n)

/-- A pause leaves the threads of all jobs where they are. -/
theorem stage_pauseFrom (s : Session) (t : Thread) (k i : Nat) :
    ((s.pauseFrom t k).job i).stage = (s.job i).stage := by
  have hpause : (s.job k).pause.1.stage = (s.job k).stage := by
    unfold Job.pause
    split <;> rfl
  have hjobs : (s.pauseFrom t k).jobs = (s.setJob k (s.job k).pause.1).jobs :=
    jobs_tellAll _ t _
  rw [job, hjobs]
  exact stage_setJob s i k hpause

/-- So does what a job reports. -/
theorem stage_foldl_reportFromJob (notes : List Note) (s : Session) (i : Nat) :
    ((notes.foldl reportFromJob s).job i).stage = (s.job i).stage := by
  have hreport : ∀ (s : Session) (n : Note),
      ((s.reportFromJob n).job i).stage = (s.job i).stage := by
    intro s n
    rcases s.reportFromJob_cases n with h | ⟨rule, k, h⟩
    · rw [h]
      rfl
    · rw [h]
      exact stage_pauseFrom _ .streamer k i
  induction notes generalizing s with
  | nil => rfl
  | cons n notes ih => rw [List.foldl_cons, ih, hreport]

/-- A write changes no job. -/
theorem jobs_write (s : Session) (t : Thread) (bytes : List UInt8) (shown : String)
    (isLine : Bool) : (s.write t bytes shown isLine).2.jobs = s.jobs := by
  cases hon : s.link.canSend with
  | false => exact congrArg Core.jobs (write_offline hon t bytes shown isLine).2
  | true =>
    have hleads := write_online hon t bytes shown isLine
    generalize (s.write t bytes shown isLine).1 = written at hleads
    rw [show (s.write t bytes shown isLine).2.jobs = (s.write t bytes shown isLine).2.core.jobs
      from rfl]
    generalize (s.write t bytes shown isLine).2.core = c' at hleads ⊢
    cases hleads <;> rfl

/-- What becomes of a job's write is not seen in the others. -/
theorem job_jobWritten_of_ne (s : Session) {i k : Nat} (h : k ≠ i) (j : Job) (line : String)
    (written : Written) : (s.jobWritten k j line written).job i = s.job i := by
  cases written <;> exact job_setJob_of_ne s h _

/-- A move of one job's thread leaves the threads of all others where they are. -/
theorem stage_advance? {s next : Session} {i k : Nat} (h : s.advance? k = some next)
    (hik : k ≠ i) : (next.job i).stage = (s.job i).stage := by
  cases advances_of_advance? h with
  | own => rw [stage_foldl_reportFromJob, job_setJob_of_ne s hik]
  | arm | take | release =>
    rw [job_setJob_of_ne _ hik]
    rfl
  | send =>
    rw [job_jobWritten_of_ne _ hik, job, writeLine, jobs_write]
    rfl

/-- A thread whose job is neither running nor paused moves nothing but itself. -/
theorem job_advance?_of_ne {s next : Session} {i k : Nat} (h : s.advance? k = some next)
    (hik : k ≠ i) (hidle : (s.job k).isActive = false) : next.job i = s.job i := by
  cases advances_of_advance? h with
  | own hmove =>
    -- without a report, the observer does nothing about any job
    rcases Job.notes_cases hmove with rfl | ⟨hactive, -⟩
    · exact job_setJob_of_ne s hik _
    · rw [hidle] at hactive
      cases hactive
  | arm | take | release => exact job_setJob_of_ne _ hik _
  | send =>
    rw [job_jobWritten_of_ne _ hik, job, writeLine, jobs_write]
    rfl

/-- A write that is let go, with the connection that may be taken down before. -/
theorem letGoJob_cases (s : Session) (i : Nat) :
    ((s.job i).isHanging = false ∧ s.letGoJob i = s) ∨
      ∃ (line : String) (rest : List UInt8), (s.job i).stage = .hanging line rest ∧
        ∃ free : Session, free.jobs = s.jobs ∧
          ((free = { s with device := (s.device.letGo rest).2 } ∧
              ∀ r, s.link.reader = some r → r.closing = false) ∨
            (free = ({ s with device := (s.device.letGo rest).2 } : Session).closeAfterFault ∧
              ∃ r, s.link.reader = some r ∧ r.closing = true)) ∧
          s.letGoJob i = (free.afterDelivery .streamer line (s.device.letGo rest).1).2.jobWritten i
            ((free.afterDelivery .streamer line (s.device.letGo rest).1).2.job i) line
            (free.afterDelivery .streamer line (s.device.letGo rest).1).1 := by
  unfold letGoJob
  split
  · rename_i line rest hs
    right
    refine ⟨line, rest, hs, ?_⟩
    cases hr : s.link.reader with
    | none =>
      refine ⟨{ s with device := (s.device.letGo rest).2 }, rfl, .inl ⟨rfl, by simp⟩, ?_⟩
      simp only [hr]
    | some r =>
      -- a reader that has met a fault in the meantime goes first, and takes the connection down
      by_cases hclosing : r.closing = true
      · refine ⟨({ s with device := (s.device.letGo rest).2 } : Session).closeAfterFault, ?_,
          .inr ⟨rfl, r, rfl, hclosing⟩, ?_⟩
        · exact (closeAfterFault_goes _).keeps (f := Core.jobs) Core.next_jobs_of_isReading
        · simp only [hr, hclosing, if_true]
      · refine ⟨{ s with device := (s.device.letGo rest).2 }, rfl, .inl ⟨rfl, ?_⟩, ?_⟩
        · intro r' hr'
          obtain rfl := Option.some.inj hr'
          exact eq_false_of_ne_true hclosing
        · simp only [hr, hclosing, if_false, Bool.false_eq_true]
  · rename_i hne
    left
    refine ⟨?_, rfl⟩
    unfold Job.isHanging
    split
    · rename_i line rest hs
      exact absurd hs (hne line rest)
    · rfl

/-- What becomes of a delivery changes no job. -/
theorem jobs_afterDelivery (s : Session) (t : Thread) (shown : String)
    (delivery : Bench.Delivery) : (s.afterDelivery t shown delivery).2.jobs = s.jobs := by
  cases delivery with
  | delivered => exact congrArg Core.jobs (core_confirmWrite s t shown)
  | failed reason => exact congrArg Core.jobs (core_failWrite s t reason)
  | hanging rest => rfl

/-- A write that is let go concerns the thread that it held up. -/
theorem stage_letGoJob (s : Session) {i k : Nat} (hik : k ≠ i) :
    ((s.letGoJob k).job i).stage = (s.job i).stage := by
  rcases s.letGoJob_cases k with ⟨-, h⟩ | ⟨line, rest, -, free, hjobs, -, h⟩
  · rw [h]
  · rw [h, job_jobWritten_of_ne _ hik, job_of_jobs (jobs_afterDelivery free _ _ _),
      job_of_jobs hjobs]

/-- A write that is let go returns to the thread that it held up. -/
theorem job_letGoJob {s : Session} {i : Nat} {line : String} {rest : List UInt8}
    (hs : (s.job i).stage = .hanging line rest) :
    ∃ result, (s.letGoJob i).job i = (s.job i).sent line result := by
  have hlt : i < s.jobs.length := lt_of_stage (by simp [hs])
  rcases s.letGoJob_cases i with ⟨hfree, -⟩ | ⟨line', rest', hs', free, hjobs, -, hletGo⟩
  · simp [Job.isHanging, hs] at hfree
  · obtain ⟨rfl, rfl⟩ : line = line' ∧ rest = rest' := by simpa [hs] using hs'
    -- what is let go is taken or fails, and does not hang again
    obtain ⟨result, hreturned⟩ : ∃ result,
        (free.afterDelivery .streamer line (s.device.letGo rest).1).1 = .returned result := by
      have htakes := (s.device.letGo_takes false rest).1
      generalize (s.device.letGo rest).1 = delivery at htakes ⊢
      cases htakes with
      | delivered => exact ⟨_, rfl⟩
      | failed => exact ⟨_, rfl⟩
      | hanging hmay => cases hmay
    have hafter : (free.afterDelivery .streamer line (s.device.letGo rest).1).2.jobs = s.jobs := by
      rw [jobs_afterDelivery, hjobs]
    have hjob := job_of_jobs hafter (i := i)
    refine ⟨result, ?_⟩
    rw [hletGo, hreturned, hjob]
    simp [jobWritten, job, setJob, hafter, hlt]

/-- A write that is let go hangs no longer, and no other begins to. -/
theorem isHanging_letGoJob {s : Session} {i k : Nat}
    (h : ((s.letGoJob k).job i).isHanging = true) : (s.job i).isHanging = true ∧ k ≠ i := by
  by_cases hik : k = i
  · subst hik
    exfalso
    -- the thread whose write is let go is out of it, or was not in it
    cases hhang : (s.job k).isHanging with
    | false =>
      have hsame : s.letGoJob k = s := by
        rcases s.letGoJob_cases k with ⟨-, hsame⟩ | ⟨line, rest, hs, -⟩
        · exact hsame
        · simp [Job.isHanging, hs] at hhang
      rw [hsame, hhang] at h
      cases h
    | true =>
      obtain ⟨line, rest, hs⟩ := (s.job k).hanging_of_isHanging hhang
      obtain ⟨result, hjob⟩ := job_letGoJob hs
      rw [hjob] at h
      cases result <;> cases h
  · rw [Job.isHanging, stage_letGoJob s hik, ← Job.isHanging] at h
    exact ⟨h, hik⟩

end Session

/-- A device lends itself to a connection if its port can be opened, and a second handle to it
made. Between the two, what waits to be read is discarded, as far as that goes. -/
def Bench.Device.lends (d : Bench.Device) (port : String) (baud : UInt32) : Bool :=
  (d.connect port baud).1.toBool && (d.connect port baud).2.discard.2.clone.1.toBool

/-- The device after that. -/
def Bench.Device.lent (d : Bench.Device) (port : String) (baud : UInt32) : Bench.Device :=
  (d.connect port baud).2.discard.2.clone.2

namespace Session

/-- A call to open a port ends in a failure, or comes to where the reader is started. What comes
before that is reported, and done to the device. -/
theorem openPort_cases (s : Session) (t : Thread) (port : String) (baud : UInt32) :
    ∃ s' : Session, s'.link = (s.become t .connecting).link ∧ s'.jobs = s.jobs ∧
      s'.rules = s.rules ∧
      (s.device.lends port baud = false ∧ (∃ e, s.openPort t port baud = s'.failConnect t e) ∨
        s.device.lends port baud = true ∧ s'.device = s.device.lent port baud ∧
          s.openPort t port baud = s'.startReader t port baud) := by
  -- the state is reported, and so is what goes wrong, without an effect on the rest
  obtain ⟨hdevice, hbegun⟩ : (s.become t .connecting).device = s.device ∧
      (s.become t .connecting).jobs = s.jobs ∧ (s.become t .connecting).rules = s.rules := by
    obtain ⟨level, message, h⟩ := s.become_cases t .connecting
    rw [h]
    exact ⟨rfl, rfl, rfl⟩
  have hfailure : ∀ (s' : Session) (e : LinkError), (s'.logOpenFailure t e).link = s'.link ∧
      (s'.logOpenFailure t e).jobs = s'.jobs ∧ (s'.logOpenFailure t e).rules = s'.rules := by
    intro s' e
    cases e <;> exact ⟨rfl, rfl, rfl⟩
  have hconnecting : ∀ message,
      ((s.become t .connecting).log t .info message).device = s.device := fun _ => hdevice
  simp only [openPort, discardInput, openReader, hconnecting, Bench.Device.lends,
    Bench.Device.lent]
  split
  · rename_i e device hconnect
    obtain ⟨hlink, hjobs, hrules⟩ := hfailure { (s.become t .connecting).log t .info
      ("Connecting to " ++ port ++ " at " ++ toString baud.toNat ++ " baud") with device } e
    rw [hconnect]
    exact ⟨_, hlink, hjobs.trans hbegun.1, hrules.trans hbegun.2, .inl ⟨rfl, _, rfl⟩⟩
  · rename_i device hconnect
    rw [hconnect]
    cases device.discard.1 with
    -- a discard that fails is only reported
    | error | ok =>
      simp only []
      split
      · rename_i fault device' hclone
        have hlends : device.discard.2.clone.1 = .error fault := congrArg Prod.fst hclone
        refine ⟨_, ?_, ?_, ?_, .inl ⟨by rw [hlends]; rfl, _, rfl⟩⟩
        exacts [rfl, hbegun.1, hbegun.2]
      · rename_i device' hclone
        have hlends : device.discard.2.clone.1 = .ok () := congrArg Prod.fst hclone
        refine ⟨_, ?_, ?_, ?_, .inr ⟨by rw [hlends]; rfl, (congrArg Prod.snd hclone).symm, rfl⟩⟩
        exacts [rfl, hbegun.1, hbegun.2]

/-- The reader gets its thread, or the connection is given up again. -/
theorem startReader_cases (s : Session) (t : Thread) (port : String) (baud : UInt32) :
    s.startReader t port baud = (.ok (), ({ s.establish t port with
        device := (s.establish t port).device.spawn.2 } : Session).beginReading t port baud) ∨
      ∃ reason, s.startReader t port baud = ({ s.establish t port with
        device := (s.establish t port).device.spawn.2
        link := (s.establish t port).link.shut } : Session).failConnect t
          (.openFailed port reason) := by
  simp only [startReader]
  generalize (s.establish t port).device.spawn = spawned
  obtain ⟨r, device⟩ := spawned
  cases r with
  | ok u => exact .inl rfl
  | error reason => exact .inr ⟨reason, rfl⟩

/-- To start a reader changes no job. -/
theorem jobs_startReader (s : Session) (t : Thread) (port : String) (baud : UInt32) :
    (s.startReader t port baud).2.jobs = s.jobs := by
  have hthere : (s.establish t port).jobs = s.jobs :=
    congrArg Core.jobs (core_become { s with link := s.link.establish port } t .connected)
  rw [← hthere]
  rcases s.startReader_cases t port baud with h | ⟨reason, h⟩
  · rw [h]
    rfl
  · rw [h]
    exact congrArg Core.jobs (core_failConnect ({ s.establish t port with
      device := (s.establish t port).device.spawn.2
      link := (s.establish t port).link.shut } : Session) t (.openFailed port reason))

/-- So to open a port changes none. -/
theorem jobs_openPort (s : Session) (t : Thread) (port : String) (baud : UInt32) :
    (s.openPort t port baud).2.jobs = s.jobs := by
  obtain ⟨s', -, hjobs, -, ⟨-, e, h⟩ | ⟨-, -, h⟩⟩ := openPort_cases s t port baud
  · rw [h, ← hjobs]
    exact congrArg Core.jobs (core_failConnect s' t e)
  · rw [h, ← hjobs]
    exact jobs_startReader s' t port baud

namespace Takes

variable {s next : Session} {t : Turn}

/-- A thread stays where it is in the turns of all others. -/
theorem stage (h : s.Takes t next) {i : Nat} (hjob : t ≠ .job i)
    (hlaunch : t.launches i = false) (hletGo : t ≠ .letGo i) :
    (next.job i).stage = (s.job i).stage := by
  -- job `i` changes its stage in its own turns, in a start of it, and when it is let go
  have hjobs : ∀ {s' : Session}, s'.jobs = s.jobs → (s'.job i).stage = (s.job i).stage :=
    fun hsame => by rw [job_of_jobs hsame]
  cases h with
  | job h => exact stage_advance? h fun hk => hjob (by rw [hk])
  | read hrest hitem h =>
    exact hjobs ((read?_goes h hrest).keeps (f := Core.jobs) Core.next_jobs_of_isReading)
  | idle => exact hjobs (congrArg Core.jobs (core_timeOut s))
  | letGo k => exact stage_letGoJob s fun hk => hletGo (by rw [hk])
  | @launch k | abandon k =>
    have hne : k ≠ i := by simpa [Turn.launches] using hlaunch
    show ((Session.tellAll _ _ _).job i).stage = _
    rw [job_of_jobs (jobs_tellAll _ _ _), job_setJob_of_ne _ hne]
    rfl
  | refuse e => exact hjobs (jobs_tellAll s .caller _)
  | pause k => exact stage_pauseFrom s .caller k i
  | resume hrest k =>
    have hresume : (s.job k).resume.1.stage = (s.job k).stage := by
      unfold Job.resume
      split <;> rfl
    rw [Session.resume, job_of_jobs (jobs_tellAll _ _ _)]
    exact stage_setJob s i k hresume
  | stop hrest k =>
    have hstop : (s.job k).requestStop.1.stage = (s.job k).stage := by
      unfold Job.requestStop
      split <;> rfl
    simp only [requestStop]
    split
    · rfl
    · rw [job_of_jobs (jobs_tellAll _ _ _)]
      exact stage_setJob s i k hstop
  | sendLine hrest line => exact hjobs (jobs_write s .caller _ _ _)
  | sendRealtime c => exact hjobs (jobs_write s .caller _ _ _)
  | disconnect => exact hjobs (congrArg Core.jobs (core_teardown s .caller))
  | opening hrest hfree hgone port baud => exact hjobs (jobs_openPort s .caller port baud)
  | listPorts => exact hjobs (congrArg Core.jobs (core_listPorts s .caller))
  | overdue | stay | meddle | sends | device | spawn | arm => rfl

/-- A write that hangs does so until it is let go. -/
theorem isHanging (h : s.Takes t next) {i : Nat} (hhang : (s.job i).isHanging = true)
    (hletGo : t ≠ .letGo i) : (next.job i).isHanging = true := by
  have hstage : t ≠ .job i → t.launches i = false → (next.job i).isHanging = true := by
    intro hjob hlaunch
    rw [Job.isHanging, h.stage hjob hlaunch hletGo, ← Job.isHanging]
    exact hhang
  cases h with
  | @job k _ h =>
    refine hstage ?_ rfl
    rintro ⟨rfl⟩
    -- a thread whose write hangs does not move
    have hrest : (s.job i).move = .rest := by
      unfold Job.isHanging at hhang
      unfold Job.move
      split at hhang
      · rename_i hs
        rw [hs]
      · cases hhang
    simp [advance?, hrest] at h
  | @launch k name p hrest hfree =>
    refine hstage (by simp) ?_
    simp only [Turn.launches, decide_eq_false_iff_not]
    rintro rfl
    rw [hhang] at hfree
    cases hfree
  | abandon k reason hfits =>
    refine hstage (by simp) ?_
    simp only [Turn.launches, decide_eq_false_iff_not]
    rintro rfl
    simp [Job.isHanging, hfits.1] at hhang
  | _ => exact hstage (by simp) rfl

/-- Without a connection, no write begins to hang, until a port is opened. -/
theorem not_hanging (h : s.Takes t next) (hopens : t.opens = false)
    (hoff : s.link.canSend = false) (hfree : s.isHanging = false) : next.isHanging = false := by
  refine eq_false_of_ne_true fun hhang => ?_
  obtain ⟨i, hi⟩ := next.isHanging_iff.mp hhang
  have hoffline := h.goes.offline (fun a ha => ?_) hoff
  · have : s.isHanging = true := s.isHanging_iff.mpr ⟨i, hoffline.2 i hi⟩
    rw [hfree] at this
    cases this
  · rintro rfl
    rw [Turn.causes, hopens] at ha
    cases ha

end Takes

/-- A read is made by a reader that goes on reading. -/
theorem read?_cases {s next : Session} {item : Bench.Item} {rest : List Bench.Item}
    (hitem : s.device.inbound = item :: rest) (h : s.read? = some next) :
    ∃ r, s.link.reader = some r ∧ r.closing = false ∧
      next = { s with device.inbound := leftOver item ++ rest }.readItem r item := by
  simp only [read?, hitem] at h
  cases hr : s.link.reader with
  | none => simp [hr] at h
  | some r =>
    simp only [hr] at h
    cases hclosing : r.closing with
    | true => simp [hclosing] at h
    | false => exact ⟨r, rfl, hclosing, by simpa [hclosing] using h.symm⟩

/-! ### Coming to rest -/

/-- A move of some job's thread is its turn. -/
theorem takes_of_work? {s next : Session} (h : s.work? = some next) :
    ∃ i, s.Takes (.job i) next := by
  obtain ⟨i, -, hi⟩ := List.exists_of_findSome?_eq_some h
  exact ⟨i, .job hi⟩

/-- A read is a turn, while the jobs are at rest. -/
theorem takes_of_read? {s next : Session} (hrest : s.core.AtRest) (h : s.read? = some next) :
    ∃ item, s.Takes (.read item) next := by
  have hread := h
  unfold read? at h
  split at h
  · rename_i item rest _ hinbound
    exact ⟨item, .read hrest hinbound hread⟩
  · cases h

/-- The reader reads by turns of its own. -/
theorem hear_leads (n : Nat) (s : Session) : Leads Turn.isRunning s (s.hear n) := by
  induction n generalizing s with
  | zero => exact Leads.refl _ s
  | succ n ih =>
    unfold hear
    split
    · exact Leads.refl _ s
    · rename_i hwork
      split
      · rename_i next hread
        obtain ⟨item, htakes⟩ := takes_of_read? (atRest_of_work? (by simpa using hwork)) hread
        exact (Leads.turn htakes rfl).trans (ih next)
      · exact Leads.refl _ s

/-- The reader and the jobs go on by turns of their own. -/
theorem settleFor_leads (n : Nat) (s : Session) : Leads Turn.isRunning s (settleFor n s) := by
  induction n generalizing s with
  | zero => exact Leads.refl _ s
  | succ n ih =>
    have hheard := hear_leads s.device.backlog s
    simp only [settleFor]
    split
    · rename_i next hwork
      obtain ⟨i, htakes⟩ := takes_of_work? hwork
      exact (hheard.trans (Leads.turn htakes rfl)).trans (ih next)
    · exact hheard

/-- The threads run to rest by turns of their own. -/
theorem settle_leads (s : Session) : Leads Turn.isRunning s s.settle :=
  (settleFor_leads (s.workLeft + 1) s).trans (Leads.turn .idle rfl)

/-! ### Runs of fair turns -/

/-- One session leads to another by fair turns of a kind. -/
def LeadsFairly (K : Turn → Bool) : Session → Session → Prop :=
  Relation.ReflTransGen fun s next => ∃ t, s.TakesFairly t next ∧ K t = true

namespace LeadsFairly

variable {K L : Turn → Bool} {s mid last next : Session} {t : Turn}

/-- Without a turn nothing leads on. -/
theorem refl (K : Turn → Bool) (s : Session) : LeadsFairly K s s := Relation.ReflTransGen.refl

/-- A fair turn of a kind leads on. -/
theorem turn (h : s.TakesFairly t next) (hK : K t = true) : LeadsFairly K s next :=
  Relation.ReflTransGen.single ⟨t, h, hK⟩

/-- Fair turns lead on from where others have led. -/
theorem trans (h : LeadsFairly K s mid) (h' : LeadsFairly K mid last) : LeadsFairly K s last :=
  Relation.ReflTransGen.trans h h'

/-- What every fair turn of the kind preserves is preserved. -/
theorem invariant {P : Session → Prop} (h : LeadsFairly K s last) (start : P s)
    (step : ∀ (s next : Session) (t : Turn), s.TakesFairly t next → K t = true → P s → P next) :
    P last := by
  induction h with
  | refl => exact start
  | tail _ hturn ih =>
    obtain ⟨t, ht, hK⟩ := hturn
    exact step _ _ t ht hK ih

/-- Fair turns of a kind are fair turns of a wider one. -/
theorem mono (h : LeadsFairly K s last) (hKL : ∀ t, K t = true → L t = true) :
    LeadsFairly L s last :=
  h.invariant (refl L s) fun _ _ t ht hK hbefore => hbefore.trans (turn ht (hKL t hK))

/-- Fair turns are turns. -/
theorem leads (h : LeadsFairly K s last) : Leads K s last :=
  h.invariant (Leads.refl K s) fun _ _ _ ht hK hbefore => hbefore.trans (Leads.turn ht.takes hK)

/-- Fair turns are acts by which nobody meddles. -/
theorem goes (h : LeadsFairly K s last) : s.core.Goes (fun a => !a.isMeddling) last.core := by
  refine h.invariant (P := fun last => s.core.Goes _ last.core) (Core.Goes.refl _ _) ?_
  intro s' next t ht _ hbefore
  exact hbefore.trans (ht.goes.mono fun a ha => (Bool.and_eq_true_iff.mp ha).2)

end LeadsFairly

/-- The turns that the threads take by themselves are fair. -/
theorem Leads.fairly {s last : Session} (h : Leads Turn.isRunning s last) :
    LeadsFairly Turn.isRunning s last := by
  refine h.invariant (P := LeadsFairly Turn.isRunning s) (LeadsFairly.refl _ s) ?_
  intro s' next t htakes hrun hbefore
  refine hbefore.trans ?_
  rcases htakes.fairly (by rintro i rfl; cases hrun) with hfair | ⟨_, _, rfl, -⟩
  · exact LeadsFairly.turn hfair hrun
  · cases hrun

end Session

end GcodeSender
