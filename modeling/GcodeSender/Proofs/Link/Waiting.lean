import GcodeSender.Link.Waiter
import GcodeSender.Proofs.Crew.Orphans
import GcodeSender.Proofs.Link.Slot

/-!
# `GcodeSender.Proofs.Link.Waiting`: a close while a thread waits

A thread that waits sleeps, and looks at the slot when it is woken. A close wakes it and
leaves a mark for it to find. Between the two others may use the slot: whoever takes the
connection down may open another one at once, and the opening takes the mark away.

* `closed_while_waiting` says what the next look finds, whatever the others have done. If
  the connection is still down, the wait ends. If another one was opened, the wait ends
  only if it was called off. Otherwise the thread sleeps on, on a slot that is not armed,
  and then nothing but a second close or a cancel lets it go.
* `reopening_hides_close` is such a wait, at a slot by itself and in a running job.

A beat is one indivisible step, of the thread that waits or of any other.
-/

set_option autoImplicit false

namespace GcodeSender

namespace Link

/-! ### Beats -/

/-- One step at a slot at which a thread waits. -/
inductive Beat where
  /-- Another thread uses the slot. -/
  | other (o : SlotOp)
  /-- The thread begins to wait, and has its first look. -/
  | wait
  /-- The thread was woken and looks again. -/
  | look
deriving DecidableEq, Repr

/-- What a beat makes of the slot and the thread, and how the wait ends if it does. -/
def Beat.on : Beat → Waiter → Option Outcome × Waiter
  | .other o, w => (none, { w with slot := o.on w.slot })
  | .wait, w => w.wait
  | .look, w => w.look

/-- The beat can end a wait: the slot is armed again, closed again, or the wait is called
off. -/
def Beat.frees : Beat → Bool
  | .other .arm | .other .close | .other .cancel => true
  | _ => false

namespace Waiter

/-- The slot and the thread after some beats. -/
def after (w : Waiter) (beats : List Beat) : Waiter := beats.foldl (fun w b => (b.on w).2) w

/-- The others use the slot, and the thread does not come to look. -/
def unseen (w : Waiter) (ops : List SlotOp) : Waiter := w.after (ops.map .other)

/-- What happens unseen happens one after the other. -/
theorem unseen_append (w : Waiter) (ops more : List SlotOp) :
    w.unseen (ops ++ more) = (w.unseen ops).unseen more := by
  simp [unseen, after]

/-- What happens first happens first. -/
@[simp] theorem unseen_cons (w : Waiter) (o : SlotOp) (ops : List SlotOp) :
    w.unseen (o :: ops) = unseen { w with slot := o.on w.slot } ops := rfl

/-- A thread goes on waiting while it does not look. -/
@[simp] theorem waiting_unseen (w : Waiter) (ops : List SlotOp) :
    (w.unseen ops).waiting = w.waiting := by
  induction ops generalizing w with
  | nil => rfl
  | cons o ops ih => exact ih { w with slot := o.on w.slot }

end Waiter

/-! ### A slot that nobody has armed -/

namespace Slot

/-- No answer is wanted and none is there. -/
def Bare (s : Slot) : Prop := s.armed = false ∧ s.response = none

variable {s : Slot}

/-- A slot that was closed is bare. -/
theorem bare_close (s : Slot) : s.close.Bare := ⟨rfl, rfl⟩

/-- A slot that was opened again is bare. -/
theorem bare_reopen (s : Slot) : s.reopen.Bare := ⟨rfl, rfl⟩

/-- Only arming changes that: an answer that is not wanted is dropped. -/
theorem Bare.on (h : s.Bare) {o : SlotOp} (ho : o ≠ .arm) : (o.on s).Bare := by
  obtain ⟨harmed, hnone⟩ := h
  cases o with
  | arm => exact absurd rfl ho
  | offer line => simp [SlotOp.on, Bare, offer, credit, harmed, hnone]
  | noteSent | cancel | resetCancel => exact ⟨harmed, hnone⟩
  | close => exact bare_close s
  | reopen => exact bare_reopen s

/-- The mark of a close is taken away by an opening only. -/
theorem closed_on {o : SlotOp} (ho : o ≠ .reopen) (h : s.closed = true) :
    (o.on s).closed = true := by
  cases o with
  | reopen => exact absurd rfl ho
  | offer line => exact (s.offer_cases line).2.2.2.1.trans h
  | close => rfl
  | arm | noteSent | cancel | resetCancel => exact h

/-- The mark is set by a close only. -/
theorem not_closed_on {o : SlotOp} (ho : o ≠ .close) (h : s.closed = false) :
    (o.on s).closed = false := by
  cases o with
  | close => exact absurd rfl ho
  | offer line => exact (s.offer_cases line).2.2.2.1.trans h
  | reopen => rfl
  | arm | noteSent | cancel | resetCancel => exact h

/-- Waits are called off by a cancel only. -/
theorem not_cancelled_on {o : SlotOp} (ho : o ≠ .cancel) (h : s.cancelled = false) :
    (o.on s).cancelled = false := by
  cases o with
  | cancel => exact absurd rfl ho
  | offer line => exact (s.offer_cases line).2.2.1.trans h
  | resetCancel => rfl
  | arm | noteSent | close | reopen => exact h

end Slot

namespace Waiter

variable {w : Waiter} {ops : List SlotOp}

/-- What each single use keeps is kept by all. -/
theorem slot_unseen {P : Slot → Prop} {K : SlotOp → Prop}
    (hstep : ∀ s o, K o → P s → P (o.on s)) (hops : ∀ o ∈ ops, K o) (h : P w.slot) :
    P (w.unseen ops).slot := by
  induction ops generalizing w with
  | nil => exact h
  | cons o ops ih =>
    rw [unseen_cons]
    exact ih (fun p hp => hops p (List.mem_cons_of_mem o hp))
      (hstep _ o (hops o List.mem_cons_self) h)

/-- A bare slot stays so until it is armed. -/
theorem bare_unseen (h : w.slot.Bare) (hops : .arm ∉ ops) : (w.unseen ops).slot.Bare :=
  slot_unseen (K := (· ≠ .arm)) (fun _ _ ho hs => hs.on ho) (fun _ ho hc => hops (hc ▸ ho)) h

/-- A closed slot stays closed until it is opened. -/
theorem closed_unseen (h : w.slot.closed = true) (hops : .reopen ∉ ops) :
    (w.unseen ops).slot.closed = true :=
  slot_unseen (P := (·.closed = true)) (K := (· ≠ .reopen)) (fun _ _ ho hs => Slot.closed_on ho hs)
    (fun _ ho hc => hops (hc ▸ ho)) h

/-- An open slot stays open until it is closed. -/
theorem not_closed_unseen (h : w.slot.closed = false) (hops : .close ∉ ops) :
    (w.unseen ops).slot.closed = false :=
  slot_unseen (P := (·.closed = false)) (K := (· ≠ .close))
    (fun _ _ ho hs => Slot.not_closed_on ho hs) (fun _ ho hc => hops (hc ▸ ho)) h

/-! ### The next look -/

/-- A look at a slot that nobody has armed. -/
theorem look_of_bare (hw : w.waiting = true) (h : w.slot.Bare) :
    w.look.1 = if w.slot.cancelled then some .cancelled
      else if w.slot.closed then some .closed else none := by
  have hnone := h.2
  unfold look Slot.check?
  cases hcancelled : w.slot.cancelled <;> cases hclosed : w.slot.closed <;> simp [hw, hnone]

/-- The thread sleeps at a slot that nobody has armed and that is open. -/
structure Adrift (w : Waiter) : Prop where
  waiting : w.waiting = true
  bare : w.slot.Bare
  cancelled : w.slot.cancelled = false
  closed : w.slot.closed = false

namespace Adrift

/-- A thread that is adrift looks in vain. -/
theorem look (h : w.Adrift) : w.look = (none, w) := by
  have hnone := h.bare.2
  simp [Waiter.look, Slot.check?, h.waiting, hnone, h.cancelled, h.closed]

/-- It sleeps on, unless a beat frees it. -/
theorem on (h : w.Adrift) {b : Beat} (hb : b.frees = false) : (b.on w).2.Adrift := by
  cases b with
  | look =>
    show w.look.2.Adrift
    rw [h.look]
    exact h
  | wait =>
    -- a wait is under way, so this is one more look
    have hsame : ({ w with waiting := true } : Waiter) = w := by rw [← h.waiting]
    show (Waiter.look { w with waiting := true }).2.Adrift
    rw [hsame, h.look]
    exact h
  | other o =>
    have harm : o ≠ .arm := by
      rintro rfl
      simp [Beat.frees] at hb
    have hclose : o ≠ .close := by
      rintro rfl
      simp [Beat.frees] at hb
    have hcancel : o ≠ .cancel := by
      rintro rfl
      simp [Beat.frees] at hb
    exact ⟨h.waiting, h.bare.on harm, Slot.not_cancelled_on hcancel h.cancelled,
      Slot.not_closed_on hclose h.closed⟩

/-- So it sleeps for ever if none does. -/
theorem after (h : w.Adrift) {beats : List Beat} (hbeats : ∀ b ∈ beats, b.frees = false) :
    (w.after beats).Adrift := by
  induction beats generalizing w with
  | nil => exact h
  | cons b beats ih =>
    exact ih (h.on (hbeats b List.mem_cons_self)) fun c hc => hbeats c (List.mem_cons_of_mem b hc)

end Adrift

/-- A slot that is closed while a thread waits, and what the thread finds when it looks:

* Where no connection was opened after the last close, and the slot was not armed since,
  the wait ends: the link is closed, or the wait was called off.
* Where one was opened after the last close, and the slot was not armed since, the wait
  ends only if it was called off. If it was not, it goes on, and no later look ends it
  until the slot is armed, closed or the wait is called off.
* Only where the slot was armed again does the wait end with an answer. -/
theorem closed_while_waiting (hw : w.waiting = true) (ops : List SlotOp) :
    (∀ earlier later, .close :: ops = earlier ++ .close :: later →
      .reopen ∉ later → .arm ∉ later →
      (w.unseen (.close :: ops)).look.1 = some .closed ∨
        (w.unseen (.close :: ops)).look.1 = some .cancelled) ∧
    (∀ earlier later, ops = earlier ++ .reopen :: later → .close ∉ later → .arm ∉ later →
      (w.unseen (.close :: ops)).slot.armed = false ∧
      ((w.unseen (.close :: ops)).slot.cancelled = true →
        (w.unseen (.close :: ops)).look.1 = some .cancelled) ∧
      ((w.unseen (.close :: ops)).slot.cancelled = false →
        ∀ beats : List Beat, (∀ b ∈ beats, b.frees = false) →
          ((w.unseen (.close :: ops)).after beats).look =
            (none, (w.unseen (.close :: ops)).after beats))) ∧
    (∀ line, (w.unseen (.close :: ops)).look.1 = some (.answer line) → .arm ∈ ops) := by
  have hwaiting : (w.unseen (.close :: ops)).waiting = true := by rw [waiting_unseen, hw]
  refine ⟨?_, ?_, ?_⟩
  · intro earlier later hops hopen harm
    -- the slot is bare from the last close on, and closed, so the next look ends the wait
    rw [hops, unseen_append, unseen_cons] at hwaiting ⊢
    rw [look_of_bare hwaiting (bare_unseen (Slot.bare_close _) harm), closed_unseen rfl hopen]
    split
    · exact .inr rfl
    · exact .inl rfl
  -- what was opened last is neither closed nor armed, so nothing but a call-off ends the wait
  · rintro earlier later rfl hclose harm
    rw [← List.cons_append, unseen_append, unseen_cons] at hwaiting ⊢
    generalize hreopened : ({ w.unseen (.close :: earlier) with
      slot := SlotOp.reopen.on (w.unseen (.close :: earlier)).slot } : Waiter) = v at hwaiting ⊢
    have hbare : (v.unseen later).slot.Bare := by
      rw [← hreopened]
      exact bare_unseen (Slot.bare_reopen _) harm
    have hclosed : (v.unseen later).slot.closed = false := by
      rw [← hreopened]
      exact not_closed_unseen rfl hclose
    refine ⟨hbare.1, fun hcancelled => ?_, fun hcancelled beats hbeats => ?_⟩
    · rw [look_of_bare hwaiting hbare, hcancelled]
      rfl
    · have hadrift : (v.unseen later).Adrift := ⟨hwaiting, hbare, hcancelled, hclosed⟩
      exact (hadrift.after hbeats).look
  · intro line hline
    refine Decidable.byContradiction fun harm => ?_
    have hbare : (w.unseen (.close :: ops)).slot.Bare := by
      rw [unseen_cons]
      exact bare_unseen (Slot.bare_close _) harm
    rw [look_of_bare hwaiting hbare] at hline
    split at hline
    · cases hline
    · split at hline
      · cases hline
      · cases hline

/-- A thread waits for the answer to its line. -/
def oneLine : List Beat := [.other .reopen, .other .arm, .other .noteSent, .wait]

/-- The connection is closed under the wait. Some other line is counted and answered first,
and then the thread looks. -/
theorem closed_while_waiting_oneLine :
    (after {} oneLine).waiting = true ∧
      ((after {} oneLine).unseen [.close, .noteSent, .offer "ok"]).look.1 = some .closed := by
  have hwaiting : (after {} oneLine).waiting = true := by decide
  refine ⟨hwaiting, ?_⟩
  have hends := (closed_while_waiting hwaiting [.noteSent, .offer "ok"]).1 [] _ rfl (by decide)
    (by decide)
  exact hends.resolve_right (by decide)

end Waiter

end Link

namespace Crew

/-- The link of a job that waits for the answer to its first line. -/
def busy : Link := { online with claimed := true, slot := online.slot.arm.noteSent }

/-- A job waits for the answer to its first line. Someone connects to another port: the
connection is taken down, and the next one is opened before the thread of the job looks. -/
def movedAway : List Deed :=
  [.changes online, .calls 0 (.start 0 "a" ⟨["G0"]⟩), .proceeds 0, .proceeds 0,
    .works 0 (.moved 0 none), .works 0 (.armed 0 "G0"), .works 0 (.wrote 0 "G0" []),
    .works 0 (.returned 0 "G0" none), .changes busy.shut, .changes (busy.shut.establish "COM4")]

end Crew

open Link in
/-- The slot is closed under the wait and reopened, and the thread sleeps on at a slot that
nobody has armed. So does the thread of a running job whose link moved to another port:
its wait cannot end in any way. -/
theorem reopening_hides_close :
    ((Waiter.after {} Waiter.oneLine).waiting = true ∧
      ((Waiter.after {} Waiter.oneLine).unseen [.close, .reopen]).look =
        (none, ⟨{ closed := false }, true⟩)) ∧
    ∃ c ∈ Crew.after? {} Crew.movedAway, (c.Reached fun _ _ => True) ∧
      (c.workers 0).stage = .awaiting "G0" ∧ (c.streamers 0).snapshot.state = .running ∧
      c.link.slot.armed = false ∧
      ∀ outcome, c.step? (.works 0 (.took 0 "G0" outcome)) = none := by
  obtain ⟨c, hc, hstage, hstate, harmed, hcheck⟩ :
      ∃ c ∈ Crew.after? {} Crew.movedAway, (c.workers 0).stage = .awaiting "G0" ∧
        (c.streamers 0).snapshot.state = .running ∧ c.link.slot.armed = false ∧
        c.link.slot.check? = none := by
    decide +kernel
  refine ⟨by decide, c, hc, Crew.Reached.new.after? hc fun _ _ => trivial, hstage, hstate, harmed,
    fun outcome => ?_⟩
  have hstuck : ¬ c.link.lets (.took 0 "G0" outcome) := by simp [Link.lets, hcheck]
  simp [Crew.step?, hstuck]

end GcodeSender
