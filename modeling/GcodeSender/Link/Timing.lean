/-!
# `GcodeSender.Link.Timing`: how long the link waits
-/

set_option autoImplicit false

namespace GcodeSender.Link

/-- The waits of a link, in milliseconds. -/
structure Timing where
  /-- The wait after opening, in which the controller finishes its
  reset. -/
  settleDelay : Nat := 2000
  /-- The longest wait for input, and so for the reader to notice that it
  is to stop. -/
  readTimeout : Nat := 100
deriving DecidableEq, Repr

end GcodeSender.Link
