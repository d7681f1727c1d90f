import GcodeSender.Command.Run
import GcodeSender.Proofs.Session.Turns

/-!
# `GcodeSender.Proofs.Command.Reached`: the runs of a command

A command that streams a program does not make the steps of a session. It has the
session to itself, connects, starts its job, and then lets the threads run while the
device sends and the operator types. `Run.Reached` are the runs that come about so,
and `Reached.ready` says that they too are made of acts, none of which meddles with
the link.
-/

set_option autoImplicit false

namespace GcodeSender.Command.Run

open Session (IsNew)

/-- The runs of a command on a new link, whatever the device does and the operator
types. -/
inductive Reached : Run → Prop
  | begin {s : Session} (hnew : s.IsNew) (hjobs : s.jobs ≠ []) (around : Surroundings)
      (name : String) (a : Arguments) : Reached (.begin around s name a)
  /-- The device sends something, or is changed in another way. -/
  | device {r : Run} (h : Reached r) (change : Bench.Device → Bench.Device) :
      Reached { r with session.device := r.session.device.adjust change }
  | settle {r : Run} (h : Reached r) : Reached r.settle
  | type {r : Run} (h : Reached r) (line : String) : Reached (r.type line)
  /-- The writes that are held up are let go. -/
  | letGo {r : Run} (h : Reached r) : Reached { r with session := r.session.letGo }.settle

/-- The acts so far, from the first, meddle with nothing. -/
def Clean (c : Core) : Prop :=
  ∃ first : Core, first.IsNew ∧ first.Goes (fun a => !a.isMeddling) c

/-- Where nobody meddles, a clean core stays clean. -/
theorem Clean.goes {c c' : Core} (h : Clean c) (hgoes : c.Goes (fun a => !a.isMeddling) c') :
    Clean c' := by
  obtain ⟨first, hnew, hfirst⟩ := h
  exact ⟨first, hnew, hfirst.trans hgoes⟩

/-- The command's job was started, and the threads are at rest after acts that meddle
with nothing. -/
structure Streaming (c : Core) : Prop where
  calm : c.Calm
  started : (c.job 0).snapshot.state ≠ .idle
  clean : Clean c

namespace Streaming

variable {c c' : Core}

/-- The threads at rest go on by acts that do not meddle. -/
theorem goes (h : Streaming c) (hgoes : c.Goes (fun a => !a.isMeddling) c')
    (hrest : c'.AtRest) : Streaming c' where
  calm := ⟨hrest, hgoes.sound h.calm.sound⟩
  started := hgoes.ne_idle h.started
  clean := h.clean.goes hgoes

end Streaming

/-- A thread of the operator does something, and the threads come to rest. -/
theorem Streaming.settle {s s' : Session} (h : Streaming s.core)
    (hgoes : s.core.Goes (fun a => !a.isMeddling) s'.core) : Streaming s'.settle.core := by
  obtain ⟨hsettle, hrest⟩ := Session.settle_goes (hgoes.sound h.calm.sound)
  exact h.goes (hgoes.trans (hsettle.mono fun _ => Act.not_meddling_of_isRunning)) hrest

/-! ### The beginning -/

/-- The log records of a command leave the core alone. -/
theorem core_note (s : Session) (t : Thread) {level : Log.Level} (h : level ≠ .trace)
    (message : String) : (s.tell t (note level message)).core = s.core :=
  Session.core_tell_record _ _ h

/-- To list the ports changes nothing of the core. -/
theorem core_listPorts (s : Session) (t : Thread) : (s.listPorts t).2.core = s.core := by
  unfold Session.listPorts
  split <;> simp

/-- Neither does the choice of one of them. -/
theorem core_chooseTarget (s : Session) (c : Settings.Config) (t : Target) :
    (chooseTarget s c t).2.core = s.core := by
  have hports := core_listPorts s .caller
  simp only [chooseTarget]
  -- the ports are asked for only where none was given
  split
  · split
    · rename_i hlist
      rwa [hlist] at hports
    · rename_i hlist
      rw [hlist] at hports
      split
      · rw [core_note _ _ (by decide)]
        exact hports
      · exact hports
  · rfl

/-- A start that succeeds leaves the job running. -/
theorem job_start {s s' : Session} {t : Thread} {i : Nat} {name : String} {p : Program}
    (hi : i < s.jobs.length) (h : s.start t i name p = (.ok (), s')) :
    s'.job i = Job.launch name p := by
  rcases s.start_cases t i name p with ⟨e, hs⟩ | ⟨-, -, hs⟩
  · rw [hs] at h
    cases h
  · rcases Session.spawnJob_cases (({ s with link := s.link.claim.2 } : Session).launch t i name p)
      t i with hspawn | ⟨reason, hspawn⟩
    · rw [hs, hspawn] at h
      obtain rfl := (Prod.mk.inj h).2
      rw [← Session.core_job, Session.core_withDevice (Bench.Device.wire_spawn _),
        Session.core_launch]
      simp [Core.job, Session.core, hi]
    · rw [hs, hspawn] at h
      cases h

/-- A command that streams has started its job, and is at rest. -/
def Ready (r : Run) : Prop := ∀ attentive, r.phase = .streaming attentive → Streaming r.session.core

/-- A run that has ended waits for nothing. -/
theorem ready_of_ended {r : Run} {result : Except Failure Unit} (h : r.phase = .ended result) :
    r.Ready := by
  intro attentive hs
  rw [h] at hs
  cases hs

/-- A run that listens waits for nothing but its input. -/
theorem ready_of_listening {r : Run} (h : r.phase = .listening) : r.Ready := by
  intro attentive hs
  rw [h] at hs
  cases hs

/-- A job that is started on an open connection runs to rest. -/
theorem startJob_ready {s : Session} (files : Files.Tree) (c : Settings.Config)
    (name : String) (p : Program) (hcalm : s.core.Calm) (hjobs : 0 < s.jobs.length)
    (hclean : Clean s.core) : (startJob s files c name p).Ready := by
  have hstart := Session.start_goes s .caller 0 name p hcalm.rest
  unfold startJob
  split
  · exact ready_of_ended rfl
  · rename_i s' hs'
    have hstarted := job_start hjobs hs'
    rw [hs'] at hstart
    -- the command has a job with the index that it starts, so the start meddles with nothing
    replace hstart : s.core.Goes (fun a => !a.isMeddling) s'.core :=
      hstart.mono fun a ha => by
        have hexists : (Session.Step.start 0 name p).meddles s.jobs.length = false := by
          simpa [Session.Step.meddles, Nat.pos_iff_ne_zero] using hjobs
        simp [Session.Step.not_meddling hexists ha]
    -- the thread that reads what is typed is got, or there is nothing to wait for
    have hwire := s'.device.wire_spawn
    generalize s'.device.spawn = spawned at hwire ⊢
    obtain ⟨r, device⟩ := spawned
    cases r with
    | error reason => exact ready_of_ended rfl
    | ok u =>
      have hcore : ({ s' with device } : Session).core = s'.core :=
        Session.core_withDevice hwire
      rw [← hcore] at hstart
      obtain ⟨hsettle, hrest⟩ := Session.settle_goes (hstart.sound hcalm.sound)
      have hrun := hsettle.mono fun _ => Act.not_meddling_of_isRunning
      exact fun _ _ => {
        calm := ⟨hrest, hrun.sound (hstart.sound hcalm.sound)⟩
        started := by
          refine hsettle.ne_idle ?_
          rw [hcore, Session.core_job, hstarted]
          simp [Job.launch, Job.Snapshot.launch]
        clean := hclean.goes (hstart.trans hrun) }

/-- Whoever connects does not meddle. -/
theorem not_meddling_of_isConnecting {a : Act} (h : Session.isConnecting a = true) :
    (!a.isMeddling) = true := by
  cases a <;> simp_all [Session.isConnecting, Act.isRunning, Act.isReading, Act.isMove,
    Act.isMeddling]

/-- A job over a port that is chosen is followed to where it waits or ends. -/
theorem streamOver_ready {s : Session} (files : Files.Tree) (c : Settings.Config)
    (port : String) (baud : UInt32) (name : String) (p : Program) (hcalm : s.core.Calm)
    (hjobs : 0 < s.core.jobs.length) (hclean : Clean s.core) :
    (streamOver s files c port baud name p).Ready := by
  obtain ⟨hgoes, hrest⟩ := Session.connect_opens s .caller port baud hcalm
  have hmild := hgoes.mono fun _ => not_meddling_of_isConnecting
  have hlength : (s.connect .caller port baud).2.core.jobs.length = s.core.jobs.length := by
    obtain ⟨acts, -, hacts, -⟩ := hgoes
    rw [← hacts, Core.length_after_jobs]
  unfold streamOver
  split
  · exact ready_of_ended rfl
  · rename_i s' hs'
    rw [hs'] at hgoes hmild hrest hlength
    exact startJob_ready files c name p ⟨hrest rfl, hgoes.sound hcalm.sound⟩ (hlength ▸ hjobs)
      (hclean.goes hmild)

/-- So is one whose port is still to be chosen, whether or not its file can be loaded. -/
theorem stream_ready {s : Session} (files : Files.Tree) (c : Settings.Config) (t : Target)
    (path name : String) (hnew : s.IsNew) (hjobs : s.jobs ≠ []) :
    (stream s files c t path name).Ready := by
  unfold stream
  split
  · exact ready_of_ended rfl
  · rename_i p _
    have hcore := core_chooseTarget (s.tell .caller (.record (p.loadRecord path))) c t
    -- a program that was read is recorded before a port is chosen
    rw [Session.core_tell_record _ _ (by simp [Program.loadRecord])] at hcore
    split
    · exact ready_of_ended rfl
    · rename_i port baud s' hs'
      rw [hs'] at hcore
      replace hcore : s'.core = s.core := hcore
      refine streamOver_ready files c port baud name p (hcore ▸ hnew.calm) ?_ ?_
      · rw [hcore]
        exact List.length_pos_iff.mpr hjobs
      · rw [hcore]
        exact ⟨s.core, hnew.core, Core.Goes.refl _ _⟩

/-- Lines are sent to the end, or to the first that fails. -/
theorem send_ready (s : Session) (files : Files.Tree) (c : Settings.Config) (t : Target)
    (texts : List String) : (send s files c t texts).Ready := by
  unfold send
  split
  · exact ready_of_ended rfl
  · unfold sendOver
    split
    · exact ready_of_ended rfl
    · split
      · exact ready_of_ended rfl
      · exact ready_of_listening rfl

/-- Only a command that streams has a job. -/
theorem begin_ready {s : Session} (hnew : s.IsNew) (hjobs : s.jobs ≠ [])
    (around : Surroundings) (name : String) (a : Arguments) :
    (Run.begin around s name a).Ready := by
  -- of all commands only streaming goes on with a job; the others have ended, or go on listening
  simp only [Run.begin]
  split
  · unfold initConfig
    split
    · exact ready_of_ended rfl
    · split <;> exact ready_of_ended rfl
  · split
    · exact ready_of_ended rfl
    · unfold withConfig
      split
      · unfold listPorts
        split <;> exact ready_of_ended rfl
      · exact send_ready _ _ _ _ _
      · exact stream_ready _ _ _ _ _ hnew hjobs
      · unfold jog
        split
        · exact send_ready _ _ _ _ _
        · exact ready_of_ended rfl
      · exact send_ready _ _ _ _ _
      · exact send_ready _ _ _ _ _
      · exact ready_of_ended rfl

/-! ### What happens meanwhile -/

/-- A run settles as its session does. -/
theorem settle_session (r : Run) : r.settle.session = r.session.settle := rfl

/-- What the operator types to control the job is done at rest, and the threads come to
rest after it. -/
theorem control_settle {r : Run} (h : Streaming r.session.core) (c : Control) :
    Streaming (r.control c).settle.session.core := by
  rw [settle_session]
  suffices hgoes : r.session.core.Goes (fun a => !a.isMeddling) (r.control c).session.core from
    h.settle hgoes
  have hmild : ∀ {b : Act}, b.isMeddling = false → ∀ a : Act,
      (a.isRunning || a = b) = true → (!a.isMeddling) = true := by
    intro b hb a ha
    rcases Bool.or_eq_true_iff.mp ha with ha | ha
    · exact Act.not_meddling_of_isRunning ha
    · obtain rfl : a = b := by simpa using ha
      simp [hb]
  cases c with
  | pause =>
    exact (Session.pauseFrom_goes r.session .control 0).mono
      fun _ => Act.not_meddling_of_isRunning
  | resume => exact (Session.resume_goes r.session .control 0 h.calm.rest).mono (hmild rfl)
  | stop =>
    have hstop := Session.stopWithin_goes r.session .control 0
      r.config.streaming.stopTimeout.toNat h.calm
    simp only [control]
    -- as a variable, or the steps of a stop are unfolded when the cores are compared
    generalize r.session.stopWithin .control 0 r.config.streaming.stopTimeout.toNat = stopped
      at hstop ⊢
    exact hstop.mono (hmild rfl)
  | realtime command =>
    have hsent := (Session.sendRealtime_goes r.session (t := .control) nofun command).mono
      (Q := fun a => !a.isMeddling) fun a ha => by
        rcases Act.isSend_cases ha with rfl | rfl | ⟨taken, rfl, -⟩ <;> rfl
    simp only [control]
    split
    · rename_i e s' hs'
      rw [hs'] at hsent
      show r.session.core.Goes _ (s'.tell .control (note .warn e.message)).core
      rw [core_note _ _ (by decide)]
      exact hsent
    · rename_i hs'
      rw [hs'] at hsent
      exact hsent

/-- A line that is typed leaves the run where it waits or ends, too. -/
theorem type_ready {r : Run} (h : r.Ready) (line : String) : (r.type line).Ready := by
  intro attentive hs
  unfold Run.type at hs ⊢
  split at hs
  · rename_i hphase
    have hstreaming := h _ hphase
    split at hs
    · exact control_settle hstreaming _
    · exact hstreaming
    -- a word that is no command is only warned of
    · rename_i word _
      show Streaming (r.session.tell .control
        (note .warn ("Unknown command '" ++ word ++ "'"))).core
      rw [core_note _ _ (by decide)]
      exact hstreaming
  · exact h _ hs
  · exact h _ hs
  · exact h _ hs

/-- Whenever a command streams, its job was started, and the threads are at rest after
acts that meddle with nothing. -/
theorem Reached.ready {r : Run} (h : Reached r) : r.Ready := by
  induction h with
  | begin hnew hjobs around name a => exact begin_ready hnew hjobs around name a
  | device h change ih =>
    intro attentive hs
    -- the device may change its mind at any time, and no job knows
    have hstreaming := ih attentive hs
    rwa [← Session.core_withDevice (s := _) (d := Bench.Device.adjust _ change) rfl] at hstreaming
  | settle h ih => exact fun attentive hs => (ih attentive hs).settle (Core.Goes.refl _ _)
  | type h line ih => exact type_ready ih line
  | letGo h ih =>
    intro attentive hs
    exact (ih attentive hs).settle
      ((Session.letGo_goes _).mono fun a ha => by
        cases a with
        | meddled => cases ha
        | _ => rfl)

end GcodeSender.Command.Run
