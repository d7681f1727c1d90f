import GcodeSender.Command.Reader
import GcodeSender.Command.Run

/-!
# `GcodeSender.Command.Ending`: how the program ends

The program answers a question and succeeds; it reports arguments that
it cannot read, and a command that fails, with statuses of their own.
-/

set_option autoImplicit false

namespace GcodeSender.Command

/-- The exit status and what was written. -/
structure Ending where
  status : UInt8
  output : String
  errors : String
deriving DecidableEq, Repr

/-- The end of a program whose arguments give it nothing to do. -/
def Stop.ending : Stop → Ending
  | .help topic => ⟨0, topic.page, ""⟩
  | .version => ⟨0, versionText, ""⟩
  | .misuse m => ⟨2, "", m.message⟩

/-- The lines that a command prints, as text. -/
def Run.output (r : Run) : String := String.join (r.printed.map (· ++ "\n"))

/-- The end of a program that has carried out its command. -/
def Run.ending (r : Run) : Ending :=
  match r.result with
  | .ok () => ⟨0, r.output, ""⟩
  | .error f => ⟨1, r.output, f.report ++ "\n"⟩

/-- The record that begins the log. -/
def startRecord (date : String) : Log.Record :=
  { level := .info, origin := .program
    message := programName ++ " " ++ programVersion ++ " (" ++ date ++ ")" }

end GcodeSender.Command
