import GcodeSender.Decimal.Fixed

/-!
# `GcodeSender.Job.Progress`: how much of a program is acknowledged
-/

set_option autoImplicit false

namespace GcodeSender.Job

/-- The lines acknowledged so far, out of those in the program. -/
structure Progress where
  acknowledged : Nat
  total : Nat
deriving DecidableEq, Repr

/-- The acknowledged part of the program; of an empty one, nothing. -/
def Progress.fraction (p : Progress) : Float :=
  if p.total = 0 then 0 else p.acknowledged.toFloat / p.total.toFloat

/-- The progress as a percentage and as a count. -/
def Progress.display (p : Progress) : String :=
  Decimal.fixed 1 (p.fraction * 100) ++ "% (" ++ toString p.acknowledged ++ "/"
    ++ toString p.total ++ ")"

end GcodeSender.Job
