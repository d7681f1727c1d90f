import GcodeSender.Link.Slot

/-!
# `GcodeSender.Link.Waiter`: a slot and one thread that waits on it

The slot's operations as data, so that histories of a slot are lists,
and the thread that waits: it looks at the slot after every operation
and goes on waiting while `Slot.check?` gives nothing.
-/

set_option autoImplicit false

namespace GcodeSender.Link

/-- An operation on a slot. -/
inductive SlotOp where
  | arm
  | noteSent
  | offer (line : String)
  | cancel
  | resetCancel
  | close
  | reopen
deriving DecidableEq, Repr

/-- The slot after an operation. -/
def SlotOp.on : SlotOp → Slot → Slot
  | .arm, s => s.arm
  | .noteSent, s => s.noteSent
  | .offer line, s => (s.offer line).2
  | .cancel, s => s.cancel
  | .resetCancel, s => s.resetCancel
  | .close, s => s.close
  | .reopen, s => s.reopen

/-- The result of an operation that has one: whether an offered answer
is the wanted one. -/
def SlotOp.result? : SlotOp → Slot → Option Bool
  | .offer line, s => some (s.offer line).1
  | .arm, _ | .noteSent, _ | .cancel, _ | .resetCancel, _ | .close, _ | .reopen, _ => none

/-- A slot, and whether a thread waits on it. -/
structure Waiter where
  slot : Slot := {}
  waiting : Bool := false
deriving DecidableEq, Repr

/-- The waiting thread looks at the slot. -/
def Waiter.look (w : Waiter) : Option Outcome × Waiter :=
  if w.waiting then
    match w.slot.check? with
    | some (outcome, slot) => (some outcome, ⟨slot, false⟩)
    | none => (none, w)
  else (none, w)

/-- An operation by another thread, and a look at what it has done. -/
def Waiter.operate (op : SlotOp) (w : Waiter) : Option Outcome × Waiter :=
  Waiter.look { w with slot := op.on w.slot }

/-- A wait begins, unless one is under way, and the thread has its
first look. -/
def Waiter.wait (w : Waiter) : Option Outcome × Waiter := Waiter.look { w with waiting := true }

end GcodeSender.Link
