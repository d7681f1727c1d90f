/-!
# `GcodeSender.Link.Slot`: which answer belongs to which line

A controller answers lines in the order in which it receives them, and
its answers do not say which line they are for. The slot therefore
counts. `owed` is the number of lines written and not yet answered; a
line whose answer is wanted is announced by `arm` before it is written,
and the answers owed at that moment are let pass first.

An answer is thus credited to the line it belongs to even if earlier
lines were given up while their answers were still to come.
-/

set_option autoImplicit false

namespace GcodeSender.Link

/-- How a wait for an answer ends. -/
inductive Outcome where
  /-- The controller answered with this line. -/
  | answer (line : String)
  /-- The connection ended first. -/
  | closed
  /-- The wait was called off. -/
  | cancelled
deriving DecidableEq, Repr

/-- Where the answer to the line in flight is handed over. A new slot
is closed. -/
structure Slot where
  /-- An answer is wanted. -/
  armed : Bool := false
  /-- The lines written and not yet answered. -/
  owed : Nat := 0
  /-- The answers that the wanted one comes after. -/
  skip : Nat := 0
  /-- The wanted answer, until it is taken. -/
  response : Option String := none
  closed : Bool := true
  /-- Waits are called off until the next job. -/
  cancelled : Bool := false
deriving DecidableEq, Repr

/-- Announces that the answer to the next line is wanted. What an
earlier wait has left behind is forgotten. -/
def Slot.arm (s : Slot) : Slot := { s with armed := true, skip := s.owed, response := none }

/-- Counts a line, before it is written. -/
def Slot.noteSent (s : Slot) : Slot := { s with owed := s.owed + 1 }

/-- One line less is owed its answer. An answer to nothing leaves the
count at zero. -/
def Slot.credit (s : Slot) : Slot := { s with owed := s.owed - 1 }

/-- Hands an answer over. The result says whether it is the wanted
one. -/
def Slot.offer (s : Slot) (line : String) : Bool × Slot :=
  let s := s.credit
  if !s.armed || s.response.isSome then (false, s)
  else if 0 < s.skip then (false, { s with skip := s.skip - 1 })
  else (true, { s with response := some line })

/-- Whether a wait can end, and how it leaves the slot. An answer that
is there is taken even if the wait was called off. -/
def Slot.check? (s : Slot) : Option (Outcome × Slot) :=
  match s.response with
  | some line => some (.answer line, { s with response := none, armed := false })
  | none =>
    if s.cancelled then some (.cancelled, { s with armed := false })
    else if s.closed then some (.closed, { s with armed := false })
    else none

/-- Calls off the present wait and all later ones. -/
def Slot.cancel (s : Slot) : Slot := { s with cancelled := true }

/-- Allows waits again. -/
def Slot.resetCancel (s : Slot) : Slot := { s with cancelled := false }

/-- Ends every wait and forgets what was owed. -/
def Slot.close (s : Slot) : Slot :=
  { s with closed := true, armed := false, owed := 0, skip := 0, response := none }

/-- Makes the slot usable for a new connection. -/
def Slot.reopen (s : Slot) : Slot :=
  { s with closed := false, armed := false, owed := 0, skip := 0, response := none }

end GcodeSender.Link
