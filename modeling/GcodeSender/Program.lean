import GcodeSender.Error
import GcodeSender.Text.Blank
import GcodeSender.Text.Lines
import GcodeSender.Text.Utf8

/-!
# `GcodeSender.Program`: programs to be sent

A program is the list of lines that are sent, in their order. Of its
source, each line is stripped of byte order marks at its beginning and
then of blanks at both ends; empty lines and comment lines are
dropped. Nothing else is interpreted.
-/

set_option autoImplicit false

namespace GcodeSender

/-- The lines to be sent, in order. -/
structure Program where
  lines : List String
deriving DecidableEq, Repr

/-- A source line as it would be sent: without byte order marks at its
beginning and then without blanks at its ends. -/
def Program.clean (source : List Char) : List Char :=
  Text.trim (source.dropWhile (· = '\ufeff'))

/-- Whether a cleaned line is sent: it is neither empty nor a comment. -/
def Program.isSendable : List Char → Bool
  | [] => false
  | c :: _ => c ≠ ';'

/-- The line to be sent for a source line, if there is one. -/
def Program.sendable? (source : List Char) : Option (List Char) :=
  if isSendable (clean source) then some (clean source) else none

/-- The program with the sendable lines of a source. It may be empty. -/
def Program.ofLines (source : List String) : Program :=
  ⟨source.filterMap fun line => (sendable? line.toList).map String.ofList⟩

/-- A program that has lines. -/
def Program.nonEmpty (p : Program) : Except ProgramError Program :=
  if p.lines = [] then .error .empty else .ok p

/-- Reads a program from a text. -/
def Program.ofText (text : String) : Except ProgramError Program :=
  (Program.ofLines ((Text.lines text.toList).map String.ofList)).nonEmpty

/-- The message where a source is not UTF-8. -/
def Program.notUtf8 : ProgramError := .unreadable "stream did not contain valid UTF-8"

/-- The texts of byte lines, unless one of them is not UTF-8. -/
def Program.decodeLines : List (List UInt8) → Except ProgramError (List String)
  | [] => .ok []
  | line :: rest =>
    match Text.decode line with
    | .error _ => .error notUtf8
    | .ok cs => (decodeLines rest).map (String.ofList cs :: ·)

/-- Reads a program from bytes, line by line. -/
def Program.ofBytes (bytes : List UInt8) : Except ProgramError Program :=
  match decodeLines (Text.byteLines bytes) with
  | .error e => .error e
  | .ok source => (Program.ofLines source).nonEmpty

def Program.length (p : Program) : Nat := p.lines.length

def Program.get? (p : Program) (i : Nat) : Option String := p.lines[i]?

end GcodeSender
