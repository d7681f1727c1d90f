import GcodeSender.Proofs.Job.CutOff

/-!
# `GcodeSender.Proofs.Link.Managed`: a connection that is taken down in the end

`Session.within` connects, lets something be done, and disconnects. What is done is an `Errand`:
any calls one after the other, each chosen by the results of those before it, with a result of its
own in the end. It may connect elsewhere, lose the connection, or start jobs and leave them
waiting.

Nothing needs to be known of the errand but that its calls keep the session in order
(`Errand.run_leads`). Wherever they lead to, the link stands on one of its footings, and from each
of them a call to disconnect leads down, unless a write hangs (`down_of_disconnect`); then the
call would not return. From there the threads come to rest without a connection, and no job can
run there (`not_running_of_closed`).

* `within_always_shuts_down`: what a managed connection returns, and what it leaves behind.
-/

set_option autoImplicit false

namespace GcodeSender

/-- What is done on a connection: calls, each chosen by the results of those before it, and a
result in the end. -/
inductive Errand (ε α : Type) where
  | finish (result : Except ε α)
  | call (step : Session.Step) (next : Session.Result → Errand ε α)

namespace Errand

variable {ε α : Type}

/-- Does it. The threads come to rest after each call. -/
def run : Errand ε α → Session → Except ε α × Session
  | finish result, s => (result, s)
  | call step next, s => (next (s.perform step).1).run (s.perform step).2

/-- None of the calls is one that is for the jobs, in a session of `n` jobs. -/
def Undisturbed (n : Nat) : Errand ε α → Prop
  | finish _ => True
  | call step next => step.meddles n = false ∧ ∀ result, (next result).Undisturbed n

open GcodeSender.Session (LeadsFairly)

/-- It is a run of fair turns. -/
theorem run_leads (f : Errand ε α) {s : Session} (h : s.core.Calm) (hs : s.Stands)
    (hf : f.Undisturbed s.jobs.length) : LeadsFairly (fun _ => true) s (f.run s).2 := by
  induction f generalizing s with
  | finish result => exact LeadsFairly.refl _ s
  | call step next ih =>
    have hstep := Session.perform_leads_fairly h hs step hf.1
    have hnext : (next (s.perform step).1).Undisturbed (s.perform step).2.jobs.length := by
      rw [Session.length_jobs_perform h]
      exact hf.2 _
    exact (hstep.mono fun _ _ => rfl).trans
      (ih _ (Session.perform_goes s step h).2 (hstep.leads.stands hs) hnext)

end Errand

namespace Session

open GcodeSender.Link (Standing)

/-- There is no connection, and nothing is left of one. -/
structure IsShut (s : Session) : Prop where
  state : s.link.state = .disconnected
  transport : s.link.isOpen = false
  reader : s.link.reader = none
  slot : s.link.slot.closed = true

/-- A link that is down is shut. -/
theorem isShut_of_down {s : Session} (h : ∃ signs, s.standing = .down signs) : s.IsShut := by
  obtain ⟨signs, h⟩ := h
  exact {
    state := congrArg Standing.state h
    transport := congrArg Standing.isOpen h
    reader := Option.map_eq_none_iff.mp (congrArg Standing.reader h)
    slot := congrArg Standing.closed h }

/-- Disconnecting leads down from every footing, unless a write hangs. -/
theorem down_of_disconnect {s : Session} (hs : s.Stands) (hfree : s.isHanging = false) :
    (∃ signs, (s.disconnect .caller).standing = .down signs) ∧
      (s.disconnect .caller).isHanging = false := by
  have hjobs : (s.disconnect .caller).jobs = s.jobs := congrArg Core.jobs (core_teardown s _)
  refine ⟨?_, by rwa [isHanging, hjobs]⟩
  rw [disconnect, standing_teardown]
  refine Standing.down_of_teardown _ fun w hw => ?_
  -- a reader that has marked itself is there only while a write hangs
  cases hs with
  | up h =>
    rw [h] at hw
    obtain rfl := Option.some.inj hw
    rfl
  | down h | lost h =>
    rw [h] at hw
    cases hw
  | broken _ hhang =>
    rw [hfree] at hhang
    cases hhang

/-- Connecting leaves no write hanging. -/
theorem connect_not_hanging {s : Session} (h : s.core.Calm) (hs : s.Stands) (port : String)
    (baud : UInt32) (hfree : s.isHanging = false) :
    (s.connect .caller port baud).2.isHanging = false := by
  rcases connect_cases h hs port baud (.inl hfree) with
    ⟨-, hstay⟩ | ⟨off, -, -, hoff, -, hopen⟩
  · rw [hstay]
    exact hfree
  · have hjobs := jobs_openPort off .caller port baud
    rw [hopen, isHanging, hjobs]
    exact hoff

/-- At rest without a connection, no job runs: one that waits for an answer is not at rest. -/
theorem InOrder.not_running_of_closed {s : Session} (h : s.InOrder) (hrest : s.core.AtRest)
    (hclosed : s.link.slot.closed = true) (hfree : s.isHanging = false) (i : Nat) :
    (s.job i).snapshot.state ≠ .running := by
  intro hrunning
  have hwork : (s.job i).isWorking = true :=
    h.core.owned.working i (by simp [core_job, Job.isActive_eq, hrunning])
  -- A running job at rest either hangs in a write or waits for an answer, and then the closed slot
  -- lets it go.
  rcases Job.isStill_cases (Job.isStill_of_rests (hrest.job i)) with
    hs | ⟨-, hpaused⟩ | ⟨line, rest, hs⟩ | ⟨line, hs⟩ | ⟨-, hpaused⟩
  · rw [core_job] at hs
    simp [Job.isWorking, hs] at hwork
  · rw [core_job, hrunning] at hpaused
    cases hpaused
  · rw [core_job] at hs
    have hhang : s.isHanging = true := s.isHanging_iff.mpr ⟨i, by simp [Job.isHanging, hs]⟩
    rw [hfree] at hhang
    cases hhang
  · have hdoomed : s.core.Doomed i := ⟨hrunning, by rw [hs]; exact hclosed⟩
    exact hdoomed.not_atRest hrest
  · rw [core_job, hrunning] at hpaused
    cases hpaused

/-- A managed connection is taken down in the end. Let no write hang when the connection is asked
for, at rest and wherever fair turns have led the link, and none when the errand is done.

* The errand is run just if connecting succeeds, and its result is returned; otherwise the error
  of connecting is returned. Either way a call to disconnect comes last.
* Nothing is left of a connection then, nor while the threads come to rest afterwards.
* They do come to rest, and no job runs then, whatever it waited for before. -/
theorem within_always_shuts_down {ε α : Type} {first s : Session} (hnew : first.IsNew)
    (hs : LeadsFairly (fun _ => true) first s) (hrest : s.core.AtRest)
    (hfree : s.isHanging = false) (port : String) (baud : UInt32) (ofLink : LinkError → ε)
    (f : Errand ε α) (hf : f.Undisturbed s.jobs.length)
    (hreturns : ∀ mid, s.connect .caller port baud = (.ok (), mid) →
      (f.run mid).2.isHanging = false) :
    (∀ mid, s.connect .caller port baud = (.ok (), mid) →
      s.within .caller port baud ofLink f.run =
        ((f.run mid).1, (f.run mid).2.disconnect .caller)) ∧
    (∀ e mid, s.connect .caller port baud = (.error e, mid) →
      s.within .caller port baud ofLink f.run =
        (.error (ofLink e), mid.disconnect .caller)) ∧
    (∀ later, Leads Turn.isRunning (s.within .caller port baud ofLink f.run).2 later →
      later.IsShut ∧
        (later.core.AtRest → ∀ i, (later.job i).snapshot.state ≠ .running)) ∧
    Leads Turn.isRunning (s.within .caller port baud ofLink f.run).2
      (s.within .caller port baud ofLink f.run).2.settle ∧
    (s.within .caller port baud ofLink f.run).2.settle.core.AtRest := by
  have horder : s.InOrder := hs.inOrder hnew.inOrder
  have hcalm : s.core.Calm := ⟨hrest, horder.core.sound⟩
  have hconnect := connect_leads hcalm horder.stands port baud (.inl hfree)
  obtain ⟨hgoes, hmidRest⟩ := connect_opens s .caller port baud hcalm
  have hmidOrder := hconnect.inOrder horder
  have hlength : (s.connect .caller port baud).2.jobs.length = s.jobs.length := hgoes.length_jobs
  have hok : ∀ mid, s.connect .caller port baud = (.ok (), mid) →
      s.within .caller port baud ofLink f.run =
        ((f.run mid).1, (f.run mid).2.disconnect .caller) := by
    intro mid hmid
    rw [within, hmid]
  have herror : ∀ e mid, s.connect .caller port baud = (.error e, mid) →
      s.within .caller port baud ofLink f.run =
        (.error (ofLink e), mid.disconnect .caller) := by
    intro e mid hmid
    rw [within, hmid]
  -- whatever came of it, the call to disconnect is made where no write hangs
  obtain ⟨gone, hend, hendOrder, hendFree⟩ : ∃ gone : Session,
      (s.within .caller port baud ofLink f.run).2 = gone.disconnect .caller ∧ gone.InOrder ∧
        gone.isHanging = false := by
    rcases hresult : s.connect .caller port baud with ⟨e | _, mid⟩
    · rw [hresult] at hmidOrder
      refine ⟨mid, congrArg Prod.snd (herror e mid hresult), hmidOrder, ?_⟩
      have hfreeMid := connect_not_hanging hcalm horder.stands port baud hfree
      rwa [hresult] at hfreeMid
    · rw [hresult] at hmidOrder hmidRest hlength
      have hmidCalm : mid.core.Calm := ⟨hmidRest rfl, hmidOrder.core.sound⟩
      refine ⟨(f.run mid).2, congrArg Prod.snd (hok mid hresult), ?_, hreturns mid hresult⟩
      exact (f.run_leads hmidCalm hmidOrder.stands (hlength ▸ hf)).inOrder hmidOrder
  obtain ⟨hdown, hdownFree⟩ := down_of_disconnect hendOrder.stands hendFree
  have hdownOrder := hendOrder.takes (TakesFairly.disconnect gone)
  refine ⟨hok, herror, fun later hlater => ?_, settle_leads _, ?_⟩
  · rw [hend] at hlater
    obtain ⟨hlaterDown, hlaterFree⟩ := hlater.down ⟨hdown, hdownFree⟩
    have hshut := isShut_of_down hlaterDown
    exact ⟨hshut, fun hlaterRest => (hlater.fairly.inOrder hdownOrder).not_running_of_closed
      hlaterRest hshut.slot hlaterFree⟩
  · rw [hend]
    exact (settle_goes hdownOrder.core.sound).2

/-- A device that opens at the second attempt only. -/
def fitful : Session :=
  { device := { opens := [some (.openFailed "COM3" "busy"), none,
      some (.openFailed "COM4" "busy")] } }

/-- It starts a job and leaves it waiting, and then connects elsewhere. -/
def straying : Errand String Unit :=
  .call (.start 0 "part" ⟨["G0", "G1"]⟩) fun _ => .call (.connect "COM4" 9600) fun result =>
    match result with
    | .link (.error _) => .finish (.error "lost")
    | _ => .finish (.ok ())

/-- The link is left faulted by an open that failed before, and once more by one that fails
while the errand is done. -/
theorem within_always_shuts_down_straying :
    (fitful.after [.connect "COM3" 9600]).link.state = .faulted ∧
      ((fitful.after [.connect "COM3" 9600]).within .caller "COM3" 9600 (fun _ => "unopened")
        straying.run).1 = .error "lost" ∧
      ((fitful.after [.connect "COM3" 9600]).within .caller "COM3" 9600 (fun _ => "unopened")
        straying.run).2.settle.IsShut ∧
      (((fitful.after [.connect "COM3" 9600]).within .caller "COM3" 9600 (fun _ => "unopened")
        straying.run).2.settle.job 0).snapshot.state ≠ .running := by
  have hnew : fitful.IsNew := ⟨rfl, by decide⟩
  have hleads := after_leads_fairly (K := fun _ => true) hnew.calm hnew.stands
    (show fitful.Undisturbed [.connect "COM3" 9600] by decide) fun _ _ _ _ => rfl
  have hundisturbed :
      straying.Undisturbed (fitful.after [.connect "COM3" 9600]).jobs.length := by
    refine ⟨by decide +kernel, fun _ => ⟨rfl, fun result => ?_⟩⟩
    dsimp only
    split <;> trivial
  obtain ⟨-, -, hlater, hsettle, hrest⟩ := within_always_shuts_down hnew hleads
    (by decide +kernel) (by decide +kernel) "COM3" 9600 (fun _ => "unopened") straying
    hundisturbed fun mid hmid => by
      obtain rfl : ((fitful.after [.connect "COM3" 9600]).connect .caller "COM3" 9600).2 = mid :=
        congrArg Prod.snd hmid
      decide +kernel
  obtain ⟨hshut, hjobs⟩ := hlater _ hsettle
  exact ⟨by decide +kernel, by decide +kernel, hshut, hjobs hrest 0⟩

end Session

end GcodeSender
