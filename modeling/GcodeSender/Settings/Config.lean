import GcodeSender.Link.Timing
import GcodeSender.Machine.Jog

/-!
# `GcodeSender.Settings.Config`: the configuration

The configuration has three sections: the connection, streaming and
jogging. `Config.check` says whether the values can be used, and
reports the first that cannot.
-/

set_option autoImplicit false

namespace GcodeSender.Settings

/-- The port name that stands for a port of the program's choice. -/
def autoPort : String := "Auto"

structure ConnectionSettings where
  /-- The serial port, or `Auto`. -/
  port : String := autoPort
  baudRate : UInt32 := 115200
  /-- The wait after opening, in milliseconds, in which the controller
  finishes its reset. -/
  settleDelay : UInt64 := 2000
  /-- The read timeout in milliseconds. -/
  readTimeout : UInt64 := 100
deriving DecidableEq, Repr

/-- The port is to be chosen by the program. -/
def ConnectionSettings.isAuto (s : ConnectionSettings) : Bool :=
  Text.sameIgnoringCase s.port.toList autoPort.toList

/-- The waits of a link with these settings. -/
def ConnectionSettings.timing (s : ConnectionSettings) : Link.Timing :=
  ⟨s.settleDelay.toNat, s.readTimeout.toNat⟩

structure StreamingSettings where
  /-- How long a stop may take, in milliseconds, before it is reported. -/
  stopTimeout : UInt64 := 5000
deriving DecidableEq, Repr

structure JogSettings where
  /-- The length of a jog step in millimetres. -/
  step : Float := 1
  /-- The feed rate in millimetres per minute. -/
  feed : Float := 500
  /-- Jogs are put on the wire in the shorthand of a manual trainer. -/
  manual : Bool := false

def JogSettings.style (s : JogSettings) : Machine.JogStyle :=
  if s.manual then .manual else .grbl

/-- The line for a jog shorthand. -/
def JogSettings.lineFor? (s : JogSettings) (shorthand : String) : Option String :=
  (Machine.Jog.ofShorthand? shorthand s.step s.feed).map (·.line s.style)

/-- The whole configuration. -/
structure Config where
  connection : ConnectionSettings := {}
  streaming : StreamingSettings := {}
  jog : JogSettings := {}

/-- Why a configuration cannot be read, used or written. -/
inductive SettingsError where
  | load (reason : String)
  | save (reason : String)
  | invalid (key reason : String)
  | directory (reason : String)
  | io (reason : String)
  | json (reason : String)
  | toml (reason : String)
  /-- The configuration has no form in TOML. -/
  | tomlWrite (reason : String)
  | unsupportedFormat (extension : String)
  | outOfRange (key value : String)
deriving DecidableEq, Repr

/-- The message of the error that a settings error stands for, if it
stands for another one. -/
def SettingsError.cause? : SettingsError → Option String
  | .unsupportedFormat extension => some ("Unsupported config format: " ++ extension)
  | .outOfRange key value => some ("Value out of range for '" ++ key ++ "': " ++ value)
  | .io reason => some reason
  | .json reason => some reason
  | .toml reason => some reason
  | .tomlWrite reason => some reason
  | .load _ | .save _ | .invalid _ _ | .directory _ => none

def SettingsError.message (e : SettingsError) : String :=
  match e with
  | .load reason => "Failed to load settings: " ++ reason
  | .save reason => "Failed to save settings: " ++ reason
  | .invalid key reason => "Invalid setting '" ++ key ++ "': " ++ reason
  | .directory reason => "Config directory error: " ++ reason
  | .io reason => "I/O error: " ++ reason
  | .json reason => "JSON error: " ++ reason
  | .toml reason => "TOML error: " ++ reason
  | .tomlWrite reason => "TOML error: " ++ reason
  | .unsupportedFormat _ | .outOfRange _ _ => "Config error: " ++ e.cause?.getD ""

/-- A length or a rate that can be used: finite and above zero. -/
def isPositive (x : Float) : Bool := x.isFinite && 0 < x

/-- The first value that cannot be used, if there is one. -/
def Config.firstFault? (c : Config) : Option SettingsError :=
  if Text.trim c.connection.port.toList = [] then
    some (.invalid "connection.port" "must not be empty")
  else if c.connection.baudRate = 0 then
    some (.outOfRange "connection.baud_rate" (toString c.connection.baudRate.toNat))
  else if c.connection.readTimeout = 0 then
    some (.outOfRange "connection.read_timeout_ms" (toString c.connection.readTimeout.toNat))
  else if c.streaming.stopTimeout = 0 then
    some (.outOfRange "streaming.stop_join_timeout_ms" (toString c.streaming.stopTimeout.toNat))
  else if !isPositive c.jog.step then
    some (.outOfRange "jog.step_mm" (Decimal.plain c.jog.step))
  else if !isPositive c.jog.feed then
    some (.outOfRange "jog.feed_rate" (Decimal.plain c.jog.feed))
  else none

/-- Whether every value can be used. -/
def Config.check (c : Config) : Except SettingsError Unit :=
  match c.firstFault? with
  | some e => .error e
  | none => .ok ()

/-- The default configuration file, given the home directory and the
directory that the environment names for configurations. The latter
counts only if it is absolute. -/
def defaultPath (home : String) (configHome : Option String) : String :=
  let fallback := if home.toList.getLast? = some '/' then home ++ ".config" else home ++ "/.config"
  let base := match configHome with
    | some dir => if dir.toList.head? = some '/' then dir else fallback
    | none => fallback
  let base := if base.toList.getLast? = some '/' then base else base ++ "/"
  base ++ "grblstream/config.toml"

end GcodeSender.Settings
