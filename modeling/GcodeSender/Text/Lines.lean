import GcodeSender.Text.Split

/-!
# `GcodeSender.Text.Lines`: the lines of a text

A line ends at a line feed, and a carriage return directly before the
line feed belongs to the line's end. What follows the last line feed
is a line only if it is not empty, so a final line feed adds nothing.
-/

set_option autoImplicit false

namespace GcodeSender.Text

variable {α : Type} [DecidableEq α]

/-- A line without one `cr` at its end. -/
def dropReturn (cr : α) (line : List α) : List α :=
  if line.getLast? = some cr then line.dropLast else line

/-- The lines made of a first piece and the pieces after it: every
piece but the last was ended by a line feed. -/
def closeLines (cr : α) : List α → List (List α) → List (List α)
  | last, [] => if last = [] then [] else [last]
  | line, next :: later => dropReturn cr line :: closeLines cr next later

/-- The lines of a sequence in which `nl` ends a line. -/
def linesWith (nl cr : α) (xs : List α) : List (List α) :=
  closeLines cr (cut nl xs).1 (cut nl xs).2

/-- The lines of a text. -/
def lines (cs : List Char) : List (List Char) := linesWith '\n' '\r' cs

/-- The lines of a byte sequence. -/
def byteLines (bs : List UInt8) : List (List UInt8) := linesWith 10 13 bs

example : lines "a\r\n\nb\r".toList = ["a".toList, [], "b\r".toList] := by decide

end GcodeSender.Text
