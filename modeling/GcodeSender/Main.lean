import GcodeSender.Command.Ending
import GcodeSender.Job.Name
import GcodeSender.Log.Filter
import GcodeSender.Log.Line
import GcodeSender.Text.Hex

/-!
# `GcodeSender.Main`: the program

The outer layer. It brings the files that a command may read into a
`Files.Tree`, lets `Command.Run` decide what happens, and carries it
out: the bytes that the session puts on the wire go to the port, what
the port sends goes into the session, and the journal goes to the log.
No decision is made here.

A port is used with the rate and the settings that the host has given
it. One of these is to be a time after which a read that finds nothing
comes back; without it the program ends only when the port sends
something. After a job it likewise waits for the line that is being
typed.
-/

set_option autoImplicit false

namespace GcodeSender.Main

open Command

/-! ### Files -/

/-- The names that lead from the root to a path. -/
def namesOf (here : List String) (path : String) : List String :=
  (Files.segments path).foldl
    (fun names segment =>
      if Files.isSilent segment then names
      else if segment = ".." then names.dropLast
      else names ++ [segment])
    (if Files.isAbsolute path then [] else here)

/-- The path that names make up. -/
def pathOf (names : List String) : String := "/" ++ "/".intercalate names

/-- What stands at a path. -/
def look (path : String) : IO (Option Files.Node) := do
  try
    let content ← IO.FS.readBinFile path
    return some (.file content.toList)
  catch
    | .inappropriateType _ 21 _ => return some .directory
    | _ => return none

/-- Adds what stands on the way to a path. -/
def survey (t : Files.Tree) (path : String) : IO Files.Tree := do
  let names := namesOf t.here path
  let mut t := t
  for n in List.range names.length do
    if let some node ← look (pathOf (names.take (n + 1))) then
      t := t.put (names.take (n + 1)) node
  return t

/-- Writes what is new in a tree. -/
def store (before after : Files.Tree) : IO Unit := do
  for (names, node) in after.entries.reverse do
    if before.node? names ≠ some node then
      match node with
      | .directory => IO.FS.createDirAll (pathOf names)
      | .file content => IO.FS.writeBinFile (pathOf names) ⟨content.toArray⟩

/-! ### Ports -/

/-- The text of a small file, without blanks around it. -/
def readTrimmed (path : String) : IO (Option String) := do
  try
    let content ← IO.FS.readFile path
    return some (Text.trimmed content)
  catch _ => return none

/-- The first text that is found in one of some directories. -/
def readFirst (directories : List String) (name : String) : IO (Option String) := do
  for directory in directories do
    if let some content ← readTrimmed (directory ++ "/" ++ name) then
      return some content
  return none

/-- A number in hexadecimal. -/
def hexNumber (text : String) : Option UInt16 :=
  (Text.readHex? text.length 0 text.toList).map fun (n, _) => n.toUInt16

/-- The port of a terminal device, if there is one. -/
def portOf (name : String) : IO (Option Port) := do
  let device := "/sys/class/tty/" ++ name ++ "/device"
  let some _ ← readTrimmed (device ++ "/uevent") | return none
  let places := [device ++ "/..", device ++ "/../.."]
  let vendor ← readFirst places "idVendor"
  let product ← readFirst places "idProduct"
  let kind : PortKind ← match vendor.bind hexNumber, product.bind hexNumber with
    | some v, some p => do
      let manufacturer ← readFirst places "manufacturer"
      let productName ← readFirst places "product"
      let serial ← readFirst places "serial"
      pure (.usb v p manufacturer productName serial)
    | _, _ => pure .unknown
  return some (.ofDevice ("/dev/" ++ name) kind)

/-- The ports of the host. -/
def hostPorts : IO (List Port) := do
  let mut ports := []
  for kind in ["ttyACM", "ttyS", "ttyUSB"] do
    for n in List.range 8 do
      if let some port ← portOf (kind ++ toString n) then
        ports := ports ++ [port]
  return ports

/-! ### A command that waits -/

/-- What is connected to a command that runs. -/
structure Wiring where
  port : Option IO.FS.Handle := none
  arrivals : IO.Ref (List Bench.Item)
  typed : IO.Ref (List String)
  /-- The command is over, and nothing more is to be read. -/
  isOver : IO.Ref Bool
  /-- Writes one log record. -/
  log : Thread → Note → IO Unit

/-- How much of a session has been passed on. -/
structure Passed where
  wire : Nat := 0
  journal : Nat := 0

/-- A read that comes back empty sooner than this, in milliseconds, has not
waited: nothing more will come. -/
def soon : Nat := 10

/-- One read from a port: what it finds, or nothing if it waits in
vain. -/
def readPort (port : IO.FS.Handle) : IO (Option Bench.Item) := do
  let before ← IO.monoMsNow
  try
    let bytes ← port.read 1
    let after ← IO.monoMsNow
    if !bytes.isEmpty then return some (.bytes bytes.toList)
    else if after < before + soon then return some .ending
    else return none
  catch e => return some (.fault ⟨.other, toString e⟩)

/-- Reads from the port until that fails, or the command is over. -/
partial def listen (w : Wiring) (port : IO.FS.Handle) : IO Unit := do
  let item ← readPort port
  w.arrivals.modify (· ++ item.toList)
  if ← w.isOver.get then return
  match item with
  | some (.bytes _) | none => listen w port
  | some (.fault _) | some .ending => return

/-- Reads what the operator types until the input ends. -/
partial def readTyped (input : IO.FS.Stream) (typed : IO.Ref (List String)) : IO Unit := do
  let line ← input.getLine
  if line.isEmpty then pure ()
  else
    typed.modify (· ++ [line])
    readTyped input typed

/-- Passes on what a session has put on the wire and in the journal. -/
def passOn (w : Wiring) (p : Passed) (r : Run) : IO Passed := do
  let s := r.session
  for e in s.journal.drop p.journal do
    w.log e.thread e.note
  let bytes := s.device.wire.drop p.wire
  if let some port := w.port then
    if !bytes.isEmpty then
      try
        port.write ⟨bytes.toArray⟩
        port.flush
      catch e => w.arrivals.modify (· ++ [.fault ⟨.other, toString e⟩])
  return ⟨s.device.wire.length, s.journal.length⟩

/-- Tells a command what has happened. -/
def takeIn (w : Wiring) (r : Run) : IO Run := do
  let items ← w.arrivals.swap []
  let lines ← w.typed.swap []
  let r := { r with session.device.inbound := r.session.device.inbound ++ items }
  return lines.foldl Run.type r.settle

/-- Attends to a command until it no longer waits, or its time is over. -/
partial def attend (w : Wiring) (deadline : Option Nat) (p : Passed) (r : Run) :
    IO (Passed × Run) := do
  let r ← takeIn w r
  let p ← passOn w p r
  let now ← IO.monoMsNow
  if !r.isWaiting || deadline.any (· < now) then return (p, r)
  else
    IO.sleep 5
    attend w deadline p r

/-! ### The program -/

/-- Why opening a file has failed, in the system's words. -/
def openFailure : IO.Error → String
  | .noFileOrDirectory _ _ _ => Files.SystemError.notFound.text
  | .inappropriateType _ 20 _ => Files.SystemError.notDirectory.text
  | .inappropriateType _ 21 _ => Files.SystemError.isDirectory.text
  | .invalidArgument _ 36 _ => Files.SystemError.nameTooLong.text
  | e => toString e

/-- Opens a port for reading and for writing. -/
def openPort (name : String) : IO (Except String (IO.FS.Handle × IO.FS.Handle)) := do
  try
    let input ← IO.FS.Handle.mk name .read
    let output ← IO.FS.Handle.mk name .readWrite
    return .ok (input, output)
  catch e => return .error (openFailure e)

/-- The file that a command reads besides the configuration. -/
def fileOf : Action → Option String
  | .stream _ file => some file
  | .ports | .send _ _ | .jog _ _ | .home _ | .unlock _ | .initConfig _ => none

/-- The files that a command may need. -/
def gather (a : Arguments) (home : String) (configHome : Option String) : IO Files.Tree := do
  let here := namesOf [] ((← IO.getEnv "PWD").getD "/")
  let t : Files.Tree := { here, entries := [(here, .directory)] }
  let t ← survey t (a.config.getD (Settings.defaultPath home configHome))
  match fileOf a.action with
  | some file => survey t file
  | none => return t

/-- Waits with a command that has opened a port. -/
def waitWith (w : Wiring) (input output : IO.FS.Handle) (r : Run) : IO (Passed × Run) := do
  let timing := r.config.connection.timing
  IO.sleep timing.settleDelay.toUInt32
  let _ ← IO.asTask (listen w input) .dedicated
  match r.phase with
  | .streaming _ =>
    let _ ← IO.asTask (readTyped (← IO.getStdin) w.typed) .dedicated
    attend { w with port := some output } none {} r
  | .listening =>
    let now ← IO.monoMsNow
    attend { w with port := some output } (some (now + answerTime)) {} r
  | .ended _ => return ({}, r)

/-- Carries out a command. A command that would open a port is begun
again without it if the port cannot be opened. -/
def carryOut (a : Arguments) (log : Thread → Note → IO Unit) : IO Ending := do
  let home := (← IO.getEnv "HOME").getD "/"
  let configHome ← IO.getEnv "XDG_CONFIG_HOME"
  let files ← gather a home configHome
  let ports ← hostPorts
  let name := Job.nameOfBytes (← IO.getRandomBytes 16).toList
  let start : List Entry := [⟨.caller, .record (startRecord "unknown build date")⟩]
  let session : Session := { device := { ports := .ok ports }, journal := start }
  let begin (s : Session) : Run := .begin { home, configHome, files } s name a
  let w : Wiring :=
    { arrivals := ← IO.mkRef [], typed := ← IO.mkRef [], isOver := ← IO.mkRef false, log }
  let r := begin session
  let (p, r) ←
    match r.session.link.port, r.isWaiting with
    | some port, true =>
      match ← openPort port with
      | .ok (input, output) => waitWith w input output r
      | .error reason => pure ({}, begin { session with device.barred := fun _ => some reason })
    | _, _ => pure ({}, r)
  let r := r.conclude
  w.isOver.set true
  let _ ← passOn w p r
  store files r.files
  return r.ending

/-- Writes what an ending says. -/
def finish (e : Ending) : IO UInt32 := do
  IO.print e.output
  IO.eprint e.errors
  return e.status.toUInt32

end GcodeSender.Main

open GcodeSender GcodeSender.Command in
/-- The program. -/
def main (args : List String) : IO UInt32 := do
  match Arguments.read args with
  | .error stop => GcodeSender.Main.finish stop.ending
  | .ok a =>
    let filter := Log.Filter.choose (← IO.getEnv "RUST_LOG")
    let log (t : Thread) (n : Note) : IO Unit := do
      let r := n.toRecord a.verbose
      if filter.shows r then IO.eprintln (r.write a.json t)
    GcodeSender.Main.finish (← GcodeSender.Main.carryOut a log)
