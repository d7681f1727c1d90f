/-!
# `GcodeSender.Text.Terminal`: text without what a terminal obeys

A message may quote what the operator wrote, and that may hold
characters which a terminal obeys instead of showing them. `shown`
leaves them out, and with each escape character all that belongs to
the control sequence which it begins: up to a letter, a closing
character, or the next escape character.

Tabs and line ends are shown even inside a control sequence that has
not come to its strings. The text behind them is shown too, until a
character that is not shown resumes the sequence.
-/

set_option autoImplicit false

namespace GcodeSender.Text

/-- How far a control sequence has come. -/
inductive ControlSequence where
  /-- There is none. -/
  | absent
  /-- Its escape character has been read. -/
  | escape
  /-- The escape character has been read, and intermediate characters
  behind it. -/
  | intermediate
  /-- A sequence of parameters that ends with a letter. -/
  | parameters
  /-- A command to the system, which ends with a bell. -/
  | command
  /-- The head of a string for a device: before its parameters, among
  them, and behind them. -/
  | deviceHead
  | deviceParameters
  | deviceIntermediate
  /-- A string of any characters. -/
  | data
deriving DecidableEq, Repr

namespace ControlSequence

/-- Whether the character's code lies between two codes, both included. -/
def lies (c : Char) (lo hi : Nat) : Bool := lo ≤ c.toNat && c.toNat ≤ hi

/-- The sequence that a character begins behind the escape character. -/
def begin (c : Char) : ControlSequence :=
  if c = '[' then parameters
  else if c = ']' then command
  else if c = 'P' then deviceHead
  else if c = 'X' || c = '^' || c = '_' then data
  else if lies c 0x20 0x2f then intermediate
  else if lies c 0x30 0x7e then absent
  else escape

/-- Whether a byte of the character's code in UTF-8, the first aside, is
the one that ends strings. -/
def endsData (c : Char) : Bool :=
  0x80 ≤ c.toNat && (c.toNat % 64 = 0x1c || 0x800 ≤ c.toNat && c.toNat / 64 % 64 = 0x1c
    || 0x10000 ≤ c.toNat && c.toNat / 4096 % 64 = 0x1c)

/-- The sequence behind a character that belongs to it. An escape
character begins a new one, and two characters cancel every sequence. -/
def next (s : ControlSequence) (c : Char) : ControlSequence :=
  if c = '\x1b' then escape
  else if c = '\x18' || c = '\x1a' then absent
  else
    match s with
    | absent => absent
    | escape => begin c
    | intermediate => if lies c 0x30 0x7e then absent else intermediate
    | parameters => if lies c 0x40 0x7e then absent else parameters
    | command => if c = '\x07' then absent else command
    | deviceHead =>
      if lies c 0x20 0x2f then deviceIntermediate
      else if lies c 0x30 0x3f then deviceParameters
      else if lies c 0x40 0x7e then data
      else deviceHead
    | deviceParameters =>
      if lies c 0x20 0x2f then deviceIntermediate
      else if lies c 0x3c 0x7e then data
      else deviceParameters
    | deviceIntermediate => if lies c 0x30 0x7e then data else deviceIntermediate
    | data => if endsData c then absent else data

/-- The sequences in which tabs and line ends are shown. -/
def showsBlanks (s : ControlSequence) : Bool :=
  s = absent || s = escape || s = intermediate || s = parameters

end ControlSequence

/-- Tabs and line ends. -/
def isShownBlank (c : Char) : Bool := c = '\t' || c = '\n' || c = '\x0c' || c = '\r'

/-- A character that a terminal shows, or moves on by. -/
def isShown (c : Char) : Bool :=
  isShownBlank c || ControlSequence.lies c 0x20 0x7e || 0x80 ≤ c.toNat

/-- What is shown of a text that is read from within a sequence. The
sequence may be `paused`: then it resumes at a character that is not
shown, unless one beyond ASCII has ended it. -/
def shownFrom : ControlSequence → Bool → List Char → List Char
  | _, _, [] => []
  | s, paused, c :: cs =>
    if (paused || s = .absent) && isShown c then
      c :: shownFrom (if 0x80 ≤ c.toNat then .absent else s) paused cs
    else if s.showsBlanks && isShownBlank c then c :: shownFrom s true cs
    else shownFrom (s.next c) false cs

/-- What a terminal shows of a text. -/
def shown (text : String) : String := String.ofList (shownFrom .absent false text.toList)

example : shown "\x1b[31mred\x1b[0m \x1b]0;title\x07é" = "red é" := by decide +kernel

end GcodeSender.Text
