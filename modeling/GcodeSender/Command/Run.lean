import GcodeSender.Command.Arguments
import GcodeSender.Command.Control
import GcodeSender.Command.Failure
import GcodeSender.Command.Usage
import GcodeSender.Program.Load
import GcodeSender.Session.Controlling
import GcodeSender.Settings.File

/-!
# `GcodeSender.Command.Run`: carrying out a command

A command does what it can at once and may then have to wait: for
answers to the lines it has sent, which it gives a fixed time, or for
the end of a job. A `Run` is a command in this state. `Run.begin` takes
it there, `Run.type` tells it what the operator types meanwhile, and
`Run.conclude` ends it when the wait is over.

Nothing is opened before everything that can fail without a connection
has been done: the configuration is read first, then the program or
the jog, then the port is chosen.
-/

set_option autoImplicit false

namespace GcodeSender.Command

/-- What a command finds in place. -/
structure Surroundings where
  /-- The operator's home directory. -/
  home : String
  /-- The directory that the environment names for configurations. -/
  configHome : Option String := none
  files : Files.Tree := {}

/-- How far a command has come. -/
inductive Phase where
  | ended (result : Except Failure Unit)
  /-- Its lines are sent, and answers are given time to arrive. -/
  | listening
  /-- Its job runs. What the operator types is read while `attentive`. -/
  | streaming (attentive : Bool)

/-- A command that is carried out. -/
structure Run where
  session : Session
  files : Files.Tree
  config : Settings.Config := {}
  /-- The lines printed so far. -/
  printed : List String := []
  phase : Phase

/-- The time in milliseconds that answers are given to arrive. -/
def answerTime : Nat := 500

namespace Run

/-- A command that has failed. -/
def failed (s : Session) (files : Files.Tree) (f : Failure) : Run :=
  { session := s, files, phase := .ended (.error f) }

/-- A command that is done, with the lines that it prints. -/
def done (s : Session) (files : Files.Tree) (printed : List String) : Run :=
  { session := s, files, printed, phase := .ended (.ok ()) }

/-- The log record of a command. -/
def note (level : Log.Level) (message : String) : Note :=
  .record { level, origin := .command, message }

/-! ### Before a connection -/

/-- Writes the default configuration file. -/
def initConfig (s : Session) (files : Files.Tree) (path : String) (force : Bool) : Run :=
  if files.holds path && !force then
    failed s files ⟨path ++ " already exists (use --force to overwrite)", []⟩
  else
    match Settings.Config.save {} files path with
    | (.error e, files) => failed s files (.ofSettings e)
    | (.ok (), files) => done s files ["Wrote " ++ path]

/-- One port in the list. -/
def portLine (p : Port) : String := padded 24 p.name ++ " " ++ p.description

/-- Lists the ports. -/
def listPorts (s : Session) (files : Files.Tree) : Run :=
  match s.listPorts .caller with
  | (.error e, s) => failed s files (.ofLink e)
  | (.ok [], s) => done s files ["No serial ports found"]
  | (.ok ports, s) => done s files (ports.map portLine)

/-- The port and the rate to connect with: what the command names, then
what the configuration says. A port of the program's choice is chosen
among those that the host has. -/
def chooseTarget (s : Session) (c : Settings.Config) (t : Target) :
    Except Failure (String × UInt32) × Session :=
  let connection := { c.connection with port := t.port.getD c.connection.port }
  let baud := t.baud.getD connection.baudRate
  if connection.isAuto then
    match s.listPorts .caller with
    | (.error e, s) => (.error (.ofLink e), s)
    | (.ok ports, s) =>
      match Port.select? ports with
      | some p =>
        (.ok (p.name, baud), s.tell .caller (note .info ("Auto-selected port " ++ p.name)))
      | none => (.error ⟨"No serial ports found", []⟩, s)
  else (.ok (connection.port, baud), s)

/-! ### Sending lines -/

/-- Sends one line, or the single-byte command that it stands for. -/
def sendText (s : Session) (text : String) : Except LinkError Unit × Session :=
  match Machine.Realtime.ofText? text with
  | some c => s.sendRealtime .caller c
  | none => s.sendLine .caller text

/-- Sends lines behind each other until one fails. -/
def sendTexts (s : Session) : List String → Except LinkError Unit × Session
  | [] => (.ok (), s)
  | text :: rest =>
    match sendText s text with
    | (.error e, s) => (.error e, s)
    | (.ok (), s) => sendTexts s rest

/-- Connects and sends lines. If that fails, the connection is taken down
again at once. -/
def sendOver (s : Session) (files : Files.Tree) (c : Settings.Config) (port : String)
    (baud : UInt32) (texts : List String) : Run :=
  match s.connect .caller port baud with
  | (.error e, s) => failed (s.disconnect .caller) files (.ofLink e)
  | (.ok (), s) =>
    match sendTexts s texts with
    | (.error e, s) => failed (s.disconnect .caller) files (.ofLink e)
    | (.ok (), s) => { session := s.settle, files, config := c, phase := .listening }

/-- Chooses a port and sends lines over it. -/
def send (s : Session) (files : Files.Tree) (c : Settings.Config) (t : Target)
    (texts : List String) : Run :=
  match chooseTarget s c t with
  | (.error f, s) => failed s files f
  | (.ok (port, baud), s) => sendOver s files c port baud texts

/-- Jogs one step. -/
def jog (s : Session) (files : Files.Tree) (c : Settings.Config) (t : Target)
    (shorthand : String) : Run :=
  match c.jog.lineFor? shorthand with
  | some line => send s files c t [line]
  | none =>
    failed s files
      ⟨"Unrecognised jog '" ++ shorthand ++ "', expected e.g. X+ or Z-", []⟩

/-! ### Streaming -/

/-- Starts a job on a connection that is open, and a thread that reads what the operator
types meanwhile. -/
def startJob (s : Session) (files : Files.Tree) (c : Settings.Config) (name : String)
    (p : Program) : Run :=
  match s.start .caller 0 name p with
  | (.error e, s) => failed (s.disconnect .caller) files (.ofJob e)
  | (.ok (), s) =>
    match s.device.spawn with
    -- the job runs by now, and what is left of it ends with the link
    | (.error reason, device) =>
      failed ({ s with device }.settle.disconnect .caller) files ⟨reason, []⟩
    | (.ok (), device) =>
      { session := { s with device }.settle, files, config := c, phase := .streaming true }

/-- Connects and starts a job. -/
def streamOver (s : Session) (files : Files.Tree) (c : Settings.Config) (port : String)
    (baud : UInt32) (name : String) (p : Program) : Run :=
  match s.connect .caller port baud with
  | (.error e, s) => failed s files (.ofLink e)
  | (.ok (), s) => startJob s files c name p

/-- Streams the program in a file. -/
def stream (s : Session) (files : Files.Tree) (c : Settings.Config) (t : Target) (path : String)
    (name : String) : Run :=
  match Program.load files path with
  | .error e => failed s files (.ofProgram e)
  | .ok p =>
    match chooseTarget (s.tell .caller (.record (p.loadRecord path))) c t with
    | (.error f, s) => failed s files f
    | (.ok (port, baud), s) => streamOver s files c port baud name p

/-! ### The command -/

/-- Carries out a command that needs the configuration. -/
def withConfig (s : Session) (files : Files.Tree) (c : Settings.Config) (name : String) :
    Action → Run
  | .ports => listPorts s files
  | .send t lines => send s files c t lines
  | .stream t file => stream s files c t file name
  | .jog t shorthand => jog s files c t shorthand
  | .home t => send s files c t [Machine.homeLine]
  | .unlock t => send s files c t [Machine.unlockLine]
  | .initConfig _ => done s files []

/-- Carries out a command up to where it has to wait. A job gets the given
name. -/
def begin (around : Surroundings) (s : Session) (name : String) (a : Arguments) : Run :=
  let path := a.config.getD (Settings.defaultPath around.home around.configHome)
  match a.action with
  | .initConfig force => initConfig s around.files path force
  | action =>
    match Settings.Config.loadOrDefault around.files path with
    | .error e =>
      failed s around.files (Failure.during ("loading " ++ path) (.ofSettings e))
    | .ok c => withConfig s around.files c name action

/-- Lets the threads come to rest. -/
def settle (r : Run) : Run := { r with session := r.session.settle }

/-- The command still waits: for the time to pass, or for its job's thread
to end. -/
def isWaiting (r : Run) : Bool :=
  match r.phase with
  | .ended _ => false
  | .listening => true
  | .streaming _ => (r.session.job 0).isAlive

/-- The operator controls the job. -/
def control (r : Run) : Control → Run
  | .pause => { r with session := r.session.pause .control 0 }
  | .resume => { r with session := r.session.resume .control 0 }
  | .stop =>
    let (_, s) := r.session.stopWithin .control 0 r.config.streaming.stopTimeout.toNat
    { r with session := s, phase := .streaming false }
  | .realtime c =>
    match r.session.sendRealtime .control c with
    | (.error e, s) => { r with session := s.tell .control (note .warn e.message) }
    | (.ok (), s) => { r with session := s }

/-- The operator types a line. After a stop nothing more is read. -/
def type (r : Run) (line : String) : Run :=
  match r.phase with
  | .streaming true =>
    match Typed.ofLine line with
    | .control c => (r.control c).settle
    | .blank => r
    | .unknown word =>
      let warning := note .warn ("Unknown command '" ++ word ++ "'")
      { r with session := r.session.tell .control warning }
  | .streaming false | .listening | .ended _ => r

/-- The result of a job that has ended, and the lines that are printed. -/
def jobResult (j : Job.Snapshot) : Except Failure Unit × List String :=
  match j.state with
  | .finished => (.ok (), [])
  | .stopped => (.ok (), ["Stopped after " ++ j.progress.display])
  | .errored => (.error ⟨"Job failed after " ++ j.progress.display, []⟩, [])
  | .idle | .running | .paused =>
    (.error ⟨"Job ended in unexpected state " ++ j.state.display, []⟩, [])

/-- The wait is over: the command ends, and with it the connection. -/
def conclude (r : Run) : Run :=
  match r.phase with
  | .ended _ => r
  | .listening => { r with session := r.session.disconnect .caller, phase := .ended (.ok ()) }
  | .streaming _ =>
    let (result, printed) := jobResult (r.session.job 0).snapshot
    { r with session := r.session.disconnect .caller, printed := r.printed ++ printed
             phase := .ended result }

/-- How the command has ended. -/
def result (r : Run) : Except Failure Unit :=
  match r.phase with
  | .ended result => result
  | .listening | .streaming _ => .ok ()

end Run

end GcodeSender.Command
