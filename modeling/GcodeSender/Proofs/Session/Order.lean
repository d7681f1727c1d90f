import GcodeSender.Proofs.Link.Attribution
import GcodeSender.Proofs.Link.Footing

/-!
# `GcodeSender.Proofs.Session.Order`: what fair turns keep in order

Where nobody but the jobs makes the calls that are for jobs, a session stays in order
whatever its threads do to each other: each job has a record, the link has one owner, and
the four views of the connection agree. `Core.Cleared` adds what the slot has to do with
the connection: a link that takes lines has an open slot, and once the slot is closed,
nothing is left in it for a line that was on its way.

* `Core.InOrder.next`: every act but meddling keeps the core in order.
* `Session.InOrder.takes` and `LeadsFairly.inOrder`: so do a fair turn and a run of them.
-/

set_option autoImplicit false

namespace GcodeSender

namespace Core

/-- The slot knows whether there is a connection. -/
structure Cleared (c : Core) : Prop where
  /-- A link that takes lines has an open slot. -/
  online : c.online = true → c.slot.closed = false
  /-- In a closed slot nothing is wanted and nothing kept, where a line is being written or
  waited for. -/
  waiting : ∀ i line, (c.job i).waitsFor? = some line → c.slot.closed = true →
    c.slot.armed = false ∧ c.slot.response = none

namespace Cleared

variable {c : Core} {a : Act}

/-- On a slot that an act has closed, a thread that waits finds it cleared. -/
theorem waiting_next (h : c.Cleared) (ho : c.Owned) (ha : a.Possible c)
    (hmild : a.isMeddling = false) {i : Nat} {line : String}
    (hi : ((c.next a).job i).waitsFor? = some line) (hclosed : (c.next a).slot.closed = true) :
    (c.next a).slot.armed = false ∧ (c.next a).slot.response = none := by
  cases a with
  | opened => cases hclosed
  | closed | broke => exact ⟨rfl, rfl⟩
  | heard answer =>
    obtain ⟨harmed, -, -, hsame, hcases⟩ := c.slot.offer_cases answer
    obtain ⟨hidle, hnone⟩ := h.waiting i line hi (hsame.symm.trans hclosed)
    refine ⟨harmed.trans hidle, ?_⟩
    -- what nobody waits for is not kept
    rcases hcases with ⟨hwanted, -⟩ | ⟨hwanted, -⟩ | ⟨-, hkept⟩
    · simp [hidle] at hwanted
    · simp [hidle] at hwanted
    · exact hkept.trans hnone
  | noted other => exact h.waiting i line hi hclosed
  | armed k other =>
    exfalso
    have hstage : (c.job k).stage = .arming other := ha.2 k rfl
    obtain rfl := Attributes.alone ho rfl (by simp [Job.holds, hstage]) (.inr hi)
    rw [next_job_self ha rfl] at hi
    simp [Act.onJob, Job.armed, hstage, Job.waitsFor?] at hi
  | wrote k other rest =>
    -- a line is written only on a connection
    have hopen : c.slot.closed = false := h.online ha.1
    rw [show (c.next (.wrote k other rest)).slot.closed = c.slot.closed from rfl, hopen] at hclosed
    cases hclosed
  | took k other outcome =>
    obtain ⟨⟨_, slot⟩, hcheck, -⟩ := Option.map_eq_some_iff.mp ha.1
    have hslot : (c.next (.took k other outcome)).slot = slot := by
      simp [next, Act.onSlot, hcheck]
    rw [hslot, (Link.Slot.check?_cases hcheck).1]
    exact ⟨rfl, rfl⟩
  | meddled => cases hmild
  | dropped | signalled | withheld | launched | abandoned | paused | resumed | stopped | yielded
  | refused | returned | moved | released =>
    refine h.waiting i line ?_ hclosed
    rw [next_job ha i] at hi
    split at hi
    · rename_i hjob
      exact (Act.line_of_onJob line (ha.2 i hjob) rfl).2 hi
    · exact hi

end Cleared

/-- What holds of a core where nobody meddles. -/
structure InOrder (c : Core) : Prop where
  sound : c.Sound
  owned : c.Owned
  cleared : c.Cleared

namespace InOrder

variable {c : Core} {a : Act}

/-- An act that does not meddle keeps a core in order. -/
theorem next (h : c.InOrder) (ha : a.Possible c) (hmild : a.isMeddling = false) :
    (c.next a).InOrder where
  sound := (Goes.act (P := fun _ => true) ha rfl).sound h.sound
  owned := h.owned.next h.sound ha hmild
  cleared :=
    ⟨open_next h.cleared.online ha hmild, fun _ _ => h.cleared.waiting_next h.owned ha hmild⟩

/-- A thread of an active job works, and so its state is no terminal one. -/
theorem state_of_working (h : c.InOrder) {i : Nat} (hwork : (c.job i).isWorking = true) :
    (c.job i).snapshot.state = .running ∨ (c.job i).snapshot.state = .paused ∨
      (c.job i).snapshot.state = .stopped := by
  obtain ⟨r, hr⟩ := h.sound i
  exact hr.working hwork

/-- Where the wait of an active job ends without a connection, it ends for want of one. -/
theorem closed_of_check? (h : c.InOrder) {i : Nat} {line : String}
    (hs : (c.job i).stage = .awaiting line) (hclosed : c.slot.closed = true)
    {outcome : Link.Outcome} {slot : Link.Slot} (hcheck : c.slot.check? = some (outcome, slot)) :
    outcome = .closed ∨ outcome = .cancelled ∧ (c.job i).snapshot.state = .stopped := by
  obtain ⟨-, hnone⟩ := h.cleared.waiting i line (by simp [Job.waitsFor?, hs]) hclosed
  have hended := (Link.Slot.check?_cases hcheck).2
  cases outcome with
  | answer a => simp [hnone] at hended
  | closed => exact .inl rfl
  | cancelled =>
    obtain ⟨r, hr⟩ := h.sound i
    refine .inr ⟨rfl, hr.stopped_of_not_active (by simp [Job.isWorking, hs]) ?_⟩
    exact h.owned.cancelled hended.1 i

end InOrder

/-- A new core is in order. -/
theorem IsNew.inOrder {c : Core} (h : c.IsNew) : c.InOrder where
  sound := h.sound
  owned := h.owned
  cleared := {
    online := by simp [h.online]
    waiting := by simp [h.job, Job.waitsFor?] }

/-- Acts by which nobody meddles keep the core in order. -/
theorem Goes.inOrder {P : Act → Bool} {c c' : Core} (h : Goes P c c')
    (hP : ∀ a, P a = true → a.isMeddling = false) (hc : c.InOrder) : c'.InOrder := by
  obtain ⟨acts, hpermits, rfl, hacts⟩ := h
  refine hpermits.invariant (K := fun a => P a = true) (P := fun _ c => c.InOrder) hc ?_ hacts
  exact fun acts a _ _ ha hkind hbefore => hbefore.next ha (hP a hkind)

end Core

namespace Session

/-- What holds of a session where nobody meddles. -/
structure InOrder (s : Session) : Prop where
  core : s.core.InOrder
  stands : s.Stands

/-- A new session is in order. -/
theorem IsNew.inOrder {s : Session} (h : s.IsNew) : s.InOrder := ⟨h.core.inOrder, h.stands⟩

variable {s next last : Session} {t : Turn} {K : Turn → Bool}

/-- In a fair turn nobody meddles, and only a start starts a job. -/
theorem TakesFairly.not_meddling {a : Act} (ha : (t.causes a && !a.isMeddling) = true) :
    a.isMeddling = false := by
  simpa using (Bool.and_eq_true_iff.mp ha).2

/-- A fair turn keeps a session in order. -/
theorem InOrder.takes (h : s.InOrder) (ht : s.TakesFairly t next) : next.InOrder :=
  ⟨ht.goes.inOrder (fun _ => TakesFairly.not_meddling) h.core, ht.takes.footing h.stands⟩

/-- So do any number of them. -/
theorem LeadsFairly.inOrder (h : LeadsFairly K s last) (hs : s.InOrder) : last.InOrder :=
  h.invariant hs fun _ _ _ ht _ hbefore => hbefore.takes ht

/-- A session that settles stays in order. -/
theorem InOrder.settle (h : s.InOrder) : s.settle.InOrder := (settle_leads s).fairly.inOrder h

/-- A step that makes none of the calls for jobs keeps a session in order. -/
theorem InOrder.perform (h : s.InOrder) (hrest : s.core.AtRest) {step : Step}
    (hmild : step.meddles s.jobs.length = false) : (s.perform step).2.InOrder :=
  (perform_leads_fairly ⟨hrest, h.core.sound⟩ h.stands step hmild).inOrder h

end Session

end GcodeSender
