import GcodeSender.Files.Tree
import GcodeSender.Log.Record
import GcodeSender.Program

/-!
# `GcodeSender.Program.Load`: loading a program from a file

A file is opened first and read afterwards, and only a failure to open
it names the file: a directory can be opened and not read.
-/

set_option autoImplicit false

namespace GcodeSender

/-- Loads the program in a file. -/
def Program.load (t : Files.Tree) (path : String) : Except ProgramError Program :=
  match t.lookup path with
  | .error e => .error (.unreadable (path ++ ": " ++ e.message))
  | .ok .directory => .error (.unreadable Files.SystemError.isDirectory.message)
  | .ok (.file content) => Program.ofBytes content

/-- The log record of a program that was loaded. -/
def Program.loadRecord (p : Program) (path : String) : Log.Record :=
  { level := .info, origin := .loader
    message := "Loaded " ++ toString p.length ++ " lines from " ++ path }

end GcodeSender
