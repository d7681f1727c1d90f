import GcodeSender.Text.Alphanumeric

/-!
# `GcodeSender.Text.Pattern`: well-formed patterns

A pattern is a regular expression in which braces do not occur. Whether
one is well-formed is decided character by character: groups must be
closed, an operator must have something to repeat, a bracket must end
and its ranges must ascend, and a backslash must introduce something
known.
-/

set_option autoImplicit false

namespace GcodeSender.Text.Pattern

/-- What has been read of a bracket: the character that could begin a
range, and whether a dash behind it has. -/
structure Bracket where
  /-- How many brackets this one stands in. -/
  depth : Nat
  start : Option Char := none
  ranging : Bool := false
deriving DecidableEq, Repr

/-- Where the next character of a pattern stands. -/
inductive Place where
  /-- Outside brackets. An operator may follow something `repeatable`. -/
  | outside (repeatable : Bool)
  | escaped
  /-- Among the digits of a character's number, so many of which remain. -/
  | digits (remaining : Nat)
  /-- At the letter of a class of characters. -/
  | letter
  /-- Behind an opening parenthesis. -/
  | opened
  /-- Behind an opening parenthesis and a question mark. -/
  | asked
  /-- Before the angle bracket of a group's name. -/
  | naming
  /-- In a group's name. -/
  | name (isFirst : Bool)
  /-- Among a group's flags, with those that have been read. -/
  | flags (seen : List Char)
  /-- Behind an opening bracket, and behind a caret that follows it. -/
  | bracketOpened (depth : Nat) (negated : Bool)
  | bracket (b : Bracket)
  | bracketEscaped (depth : Nat)
deriving DecidableEq, Repr

/-- A place and the number of groups that are open there. -/
abbrev State := Place × Nat

/-- A character behind a backslash. -/
def afterBackslash (c : Char) : Option Place :=
  if c = 'x' then some (.digits 2)
  else if c = 'u' then some (.digits 4)
  else if c = 'U' then some (.digits 8)
  else if c = 'p' || c = 'P' then some .letter
  else if "dswDSWaftnrvAz".toList.contains c then some (.outside true)
  else if c.toNat < 0x80 && !c.isAlphanum && c != '<' && c != '>' then some (.outside true)
  else none

/-- A character outside brackets. -/
def outside (repeatable : Bool) (groups : Nat) (c : Char) : Option State :=
  if c = '(' then some (.opened, groups + 1)
  else if c = ')' then if groups = 0 then none else some (.outside true, groups - 1)
  else if c = '|' then some (.outside false, groups)
  else if c = '[' then some (.bracketOpened 0 false, groups)
  else if c = '?' || c = '*' || c = '+' then
    if repeatable then some (.outside true, groups) else none
  else if c = '\x7b' then none
  else if c = '\\' then some (.escaped, groups)
  else some (.outside true, groups)

/-- A character among the flags of a group. Flags that end with the group
hold for what follows, and cannot be repeated. -/
def flag (seen : List Char) (groups : Nat) (c : Char) : Option State :=
  if c = ':' then if seen.head? = some '-' then none else some (.outside false, groups)
  else if c = ')' then
    if seen = [] || seen.head? = some '-' then none else some (.outside false, groups - 1)
  else if "imsUuRx-".toList.contains c && !seen.contains c then some (.flags (c :: seen), groups)
  else none

/-- A character behind an opening parenthesis and a question mark. -/
def asked (groups : Nat) (c : Char) : Option State :=
  if c = 'P' then some (.naming, groups)
  else if c = '<' then some (.name true, groups)
  else flag [] groups c

/-- A character in the name of a group. -/
def name (isFirst : Bool) (groups : Nat) (c : Char) : Option State :=
  if c = '>' then if isFirst then none else some (.outside false, groups)
  else if c = '_' || isAlphanumeric c && !(isFirst && c.isDigit) then some (.name false, groups)
  else if !isFirst && (c = '.' || c = '[' || c = ']') then some (.name false, groups)
  else none

/-- The end of a bracket. -/
def closeBracket (depth : Nat) : Place :=
  if depth = 0 then .outside true else .bracket { depth := depth - 1 }

/-- A character in a bracket. -/
def inBracket (b : Bracket) (c : Char) : Option Place :=
  if c = ']' then some (closeBracket b.depth)
  else if c = '\\' then some (.bracketEscaped b.depth)
  else if b.ranging then
    if c = '-' || b.start.all (· ≤ c) then some (.bracket { depth := b.depth }) else none
  else if c = '[' then some (.bracketOpened (b.depth + 1) false)
  else if c = '-' && b.start.isSome then some (.bracket { b with ranging := true })
  else some (.bracket { depth := b.depth, start := some c })

/-- A character behind an opening bracket. -/
def openBracket (depth : Nat) (negated : Bool) (c : Char) : Option Place :=
  if c = '^' && !negated then some (.bracketOpened depth true)
  else if c = ']' then some (.bracket { depth, start := some c })
  else inBracket { depth } c

/-- One character of a pattern. -/
def step : State → Char → Option State
  | (.outside repeatable, groups), c => outside repeatable groups c
  | (.escaped, groups), c => (afterBackslash c).map (·, groups)
  | (.digits remaining, groups), c =>
    if c.isDigit || 'a' ≤ c && c ≤ 'f' || 'A' ≤ c && c ≤ 'F' then
      some (if remaining ≤ 1 then .outside true else .digits (remaining - 1), groups)
    else none
  | (.letter, groups), c =>
    if "LMNPSZC".toList.contains c then some (.outside true, groups) else none
  | (.opened, groups), c => if c = '?' then some (.asked, groups) else outside false groups c
  | (.asked, groups), c => asked groups c
  | (.naming, groups), c => if c = '<' then some (.name true, groups) else none
  | (.name isFirst, groups), c => name isFirst groups c
  | (.flags seen, groups), c => flag seen groups c
  | (.bracketOpened depth negated, groups), c => (openBracket depth negated c).map (·, groups)
  | (.bracket b, groups), c => (inBracket b c).map (·, groups)
  | (.bracketEscaped depth, groups), c =>
    if (afterBackslash c).isSome then some (.bracket { depth }, groups) else none

/-- Whether a pattern may end at a place. -/
def isEnd : State → Bool
  | (.outside _, 0) => true
  | _ => false

/-- Whether a text is a pattern. -/
def isWellFormed (cs : List Char) : Bool :=
  ((cs.foldlM step (Place.outside false, 0)).map isEnd).getD false

example : ["", "a|b*", "(?P<x>[]a-z])+?", "[^-\\]]", "\\x41(?i)"].all
    (isWellFormed ·.toList) = true := by decide +kernel
example : ["*", "(", ")", "a|+", "[z-a]", "[]", "\\1", "(?)", "\\"].any
    (isWellFormed ·.toList) = false := by decide +kernel

end GcodeSender.Text.Pattern
