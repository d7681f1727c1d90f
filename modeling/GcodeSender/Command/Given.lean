import GcodeSender.Command.Misuse
import GcodeSender.Command.Token
import GcodeSender.Decimal.Whole

/-!
# `GcodeSender.Command.Given`: what one scope was given

The flags and operands of one scope, while they are read. The last one
is kept apart and entered only when the next one begins, because the
value of a flag may be the next argument. Entering is also where it is
checked: a flag must have its value, must not be there already, and the
value must be good, in this order.
-/

set_option autoImplicit false

namespace GcodeSender.Command

/-- What is read but not entered. -/
inductive Pending where
  | nothing
  /-- A flag, with its value if it has been read. -/
  | flag (f : Flag) (value : Option String)
  | operand (text : String)
deriving DecidableEq, Repr

/-- What one scope was given. -/
structure Given where
  /-- The flags that were entered, in order, with their values. A flag
  that takes none has an empty one. -/
  flags : List (Flag × String) := []
  operands : List String := []
  pending : Pending := .nothing
  /-- The flags were ended. -/
  ended : Bool := false
deriving DecidableEq, Repr

/-- The reason why a value is no baud rate, or the rate. -/
def readBaud (value : String) : Except String UInt32 :=
  match Decimal.readWhole (-9223372036854775808) 9223372036854775807 value.toList with
  | .error fault => .error fault.message
  | .ok n =>
    if 0 ≤ n ∧ n ≤ 4294967295 then .ok n.toNat.toUInt32
    else .error (toString n ++ " is not in 0..=4294967295")

/-- What is wrong with the value of a flag. -/
def Flag.valueFault? (f : Flag) (value : String) : Option Misuse :=
  match f with
  | .config => if value = "" then some (.missingValue f.display) else none
  | .baud =>
    match readBaud value with
    | .error reason => some (.badValue f value reason)
    | .ok _ => none
  | .json | .verbose | .port | .force | .help | .version => none

namespace Given

/-- The names of the flags that were entered. -/
def used (g : Given) : List Flag := g.flags.map (·.1)

def has (g : Given) (f : Flag) : Bool := g.used.contains f

def value? (g : Given) (f : Flag) : Option String := g.flags.lookup f

/-- Enters a flag with its value. A flag whose value is bad counts as
given; one that is repeated does not count any more. -/
def enterValue (g : Given) (s : Scope) (f : Flag) (value : String) : Option Misuse × Given :=
  if g.has f then
    (some (.repeated s f), { g with flags := g.flags.filter (·.1 ≠ f) })
  else (f.valueFault? value, { g with flags := g.flags ++ [(f, value)] })

/-- Enters a flag. -/
def enterFlag (g : Given) (s : Scope) (f : Flag) : Option String → Option Misuse × Given
  | some value => g.enterValue s f value
  | none => if f.takesValue then (some (.missingValue f.display), g) else g.enterValue s f ""

/-- Enters an operand. -/
def enterOperand (g : Given) (s : Scope) (text : String) : Option Misuse × Given :=
  match s.operand? with
  | some o =>
    if o.isPath && text = "" then (some (.missingValue o.display), g)
    else (none, { g with operands := g.operands ++ [text] })
  | none => (none, g)

/-- Enters what is pending, with the fault found in it. -/
def enter (g : Given) (s : Scope) : Option Misuse × Given :=
  let rest := { g with pending := .nothing }
  match g.pending with
  | .nothing => (none, rest)
  | .flag f value => rest.enterFlag s f value
  | .operand text => rest.enterOperand s text

/-- Enters what is pending, unless there is a fault in it. -/
def entered (g : Given) (s : Scope) : Except Misuse Given :=
  match g.enter s with
  | (some m, _) => .error m
  | (none, g) => .ok g

/-- The operands so far. -/
def operandCount (g : Given) : Nat :=
  g.operands.length + match g.pending with
    | .operand _ => 1
    | _ => 0

/-- The flags that were given, whatever fault there is in the last.
Absent if nothing was given. -/
def usedInAll? (g : Given) (s : Scope) : Option (List Flag) :=
  let g' := (g.enter s).2
  if g'.flags = [] && g.operandCount = 0 then none else some g'.used

/-- A flag waits for the next argument as its value. -/
def awaits? (g : Given) : Option Flag :=
  match g.pending with
  | .flag f none => if f.takesValue then some f else none
  | _ => none

/-- The operand that the next word would be. -/
def nextOperand? (g : Given) (s : Scope) : Option Operand :=
  s.operand?.filter fun o => o.repeats || g.operandCount = 0

end Given

end GcodeSender.Command
