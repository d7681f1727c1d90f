/-!
# `GcodeSender.Command.Arguments`: what the program is asked to do

The arguments of the program, once they are read: options that hold for
every command, and one command with what belongs to it.
-/

set_option autoImplicit false

namespace GcodeSender.Command

/-- The port and the rate that a command names. What it does not name
comes from the configuration. -/
structure Target where
  port : Option String := none
  baud : Option UInt32 := none
deriving DecidableEq, Repr

/-- One command. -/
inductive Action where
  /-- Lists the serial ports. -/
  | ports
  | send (target : Target) (lines : List String)
  /-- Streams the program in a file. -/
  | stream (target : Target) (file : String)
  | jog (target : Target) (shorthand : String)
  | home (target : Target)
  | unlock (target : Target)
  /-- Writes the default configuration file, over an old one only if
  forced to. -/
  | initConfig (force : Bool)
deriving DecidableEq, Repr

/-- The arguments of the program. -/
structure Arguments where
  /-- The configuration file. -/
  config : Option String := none
  /-- The log is written as JSON. -/
  json : Bool := false
  /-- All traffic is shown. -/
  verbose : Bool := false
  action : Action
deriving DecidableEq, Repr

end GcodeSender.Command
