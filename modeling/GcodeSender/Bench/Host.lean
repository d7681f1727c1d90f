import GcodeSender.Bench.Device
import GcodeSender.Files.Tree

/-!
# `GcodeSender.Bench.Host`: the device as a file of the host

A port is opened as a file. Where the name leads to something else than
the device, opening fails for the reason that the file system gives:
nothing is there, a directory is, or a file that is no terminal.
-/

set_option autoImplicit false

namespace GcodeSender.Bench

/-- Why opening a name as a port fails, where it does not lead to the
device. -/
def notAPort (files : Files.Tree) (name : String) : String :=
  match files.lookup name with
  | .ok .directory => Files.SystemError.isDirectory.text
  | .ok (.file _) => "Not a typewriter"
  | .error .nulInPath => "Invalid argument"
  | .error e => e.text

/-- Whether two paths lead to the same place. -/
def leadsTo (files : Files.Tree) (name port : String) : Bool :=
  match files.namesOf? name with
  | some names => files.namesOf? port = some names
  | none => false

/-- The device behind the given ports of a host, whatever paths lead to
them. -/
def Device.behind (d : Device) (ports : List String) (files : Files.Tree) : Device :=
  { d with
    barred := fun name =>
      if ports.any (leadsTo files name) then none else some (notAPort files name) }

end GcodeSender.Bench
