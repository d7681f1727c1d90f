import GcodeSender.Error
import GcodeSender.Settings.Config
import GcodeSender.Text.Split

/-!
# `GcodeSender.Command.Failure`: why a command fails

A failure has a message and, behind it, the messages of its causes, the
nearest first. The report puts the causes on lines of their own, with
numbers if there are several.
-/

set_option autoImplicit false

namespace GcodeSender.Command

/-- A failed command. -/
structure Failure where
  message : String
  causes : List String := []
deriving DecidableEq, Repr

namespace Failure

/-- All messages, the outermost first. -/
def chain (f : Failure) : List String := f.message :: f.causes

/-- The failure of something that was done in a context. -/
def during (context : String) (f : Failure) : Failure := ⟨context, f.chain⟩

def ofSettings (e : Settings.SettingsError) : Failure := ⟨e.message, e.cause?.toList⟩

def ofLink (e : LinkError) : Failure := ⟨e.message, []⟩

def ofJob (e : JobError) : Failure := ⟨e.message, []⟩

def ofProgram (e : ProgramError) : Failure := ⟨e.message, []⟩

/-- A cause behind its indentation, which later lines of it keep up
with. -/
def indented (first later : String) (cause : String) : String :=
  let lines := (Text.pieces '\n' cause.toList).map String.ofList
  first ++ ("\n" ++ later).intercalate lines

/-- The causes with their numbers. -/
def numbered (causes : List String) : List String :=
  causes.zipIdx.map fun (cause, n) =>
    let number := toString n
    let blanks := String.ofList (List.replicate (5 - number.length) ' ')
    indented (blanks ++ number ++ ": ") "       " cause

/-- The lines for the causes. -/
def causeLines : List String → List String
  | [] => []
  | [cause] => ["", "Caused by:", indented "    " "    " cause]
  | causes => "" :: "Caused by:" :: numbered causes

/-- The failure as it is reported in the end. -/
def report (f : Failure) : String :=
  "\n".intercalate (("Error: " ++ f.message) :: causeLines f.causes)

end Failure

example : (Failure.during "a" ⟨"b", []⟩).report = "Error: a\n\nCaused by:\n    b" := by
  decide +kernel

end GcodeSender.Command
