/-!
# `GcodeSender.Command.Vocabulary`: the words of the command line

The commands, the flags and the operands, as data: how each is written,
what it takes, and what the help says about it. A `Scope` is a place
for flags, either before the command or behind it, and knows the words
that may stand there.
-/

set_option autoImplicit false

namespace GcodeSender.Command

/-- The name by which the program is called. -/
def programName : String := "grblstream"

def programVersion : String := "0.1.0"

def programAbout : String := "Stream G-code to a GRBL controller"

/-- The commands. -/
inductive Verb where
  | ports
  | send
  | stream
  | jog
  | home
  | unlock
  | initConfig
deriving DecidableEq, Repr

/-- All commands, in the order in which they are listed. -/
def Verb.all : List Verb := [.ports, .send, .stream, .jog, .home, .unlock, .initConfig]

def Verb.name : Verb → String
  | .ports => "ports"
  | .send => "send"
  | .stream => "stream"
  | .jog => "jog"
  | .home => "home"
  | .unlock => "unlock"
  | .initConfig => "init-config"

def Verb.about : Verb → String
  | .ports => "List serial ports"
  | .send => "Send lines; `!`, `~`, `?` and `reset` go out as real-time bytes"
  | .stream => "Stream a G-code file; type pause, resume, stop, `!`, `~` or `?` while it runs"
  | .jog => "Jog one step, e.g. `X+` or `z-`"
  | .home => "Run the homing cycle"
  | .unlock => "Clear an alarm lock"
  | .initConfig => "Write the default configuration file"

def Verb.ofName? (word : String) : Option Verb := Verb.all.find? (·.name = word)

/-- The word that asks for help in place of a command. -/
def helpName : String := "help"

def helpAbout : String := "Print this message or the help of the given subcommand(s)"

/-- Every word that may stand in the place of the command. -/
def commandNames : List String := Verb.all.map Verb.name ++ [helpName]

/-- The flags. -/
inductive Flag where
  | config
  | json
  | verbose
  | port
  | baud
  | force
  | help
  | version
deriving DecidableEq, Repr

/-- The long name, without its dashes. -/
def Flag.long : Flag → String
  | .config => "config"
  | .json => "json"
  | .verbose => "verbose"
  | .port => "port"
  | .baud => "baud"
  | .force => "force"
  | .help => "help"
  | .version => "version"

/-- The letter, if there is one. -/
def Flag.letter? : Flag → Option Char
  | .verbose => some 'v'
  | .port => some 'p'
  | .baud => some 'b'
  | .help => some 'h'
  | .version => some 'V'
  | .config | .json | .force => none

/-- What stands for the value in the help, if the flag takes one. -/
def Flag.placeholder? : Flag → Option String
  | .config => some "<CONFIG>"
  | .port => some "<PORT>"
  | .baud => some "<BAUD>"
  | .json | .verbose | .force | .help | .version => none

def Flag.takesValue (f : Flag) : Bool := f.placeholder?.isSome

def Flag.about : Flag → String
  | .config => "Config file (TOML or JSON); defaults to the platform config directory"
  | .json => "Log as JSON lines"
  | .verbose => "Print every line sent and received"
  | .port => "Serial port, or \"Auto\"; overrides the config file"
  | .baud => "Baud rate; overrides the config file"
  | .force => "Overwrite an existing file"
  | .help => "Print help"
  | .version => "Print version"

/-- The flag as messages show it. -/
def Flag.display (f : Flag) : String :=
  "--" ++ f.long ++ f.placeholder?.elim "" (" " ++ ·)

/-- What a command is about, where it needs to be told. -/
structure Operand where
  /-- The operand as messages show it. -/
  display : String
  /-- There may be several. -/
  repeats : Bool := false
  /-- It may begin with a dash. -/
  dashes : Bool := false
  /-- It names a file, so it must not be empty. -/
  isPath : Bool := false
deriving DecidableEq, Repr

def Verb.operand? : Verb → Option Operand
  | .send => some { display := "<LINES>...", repeats := true }
  | .stream => some { display := "<FILE>", isPath := true }
  | .jog => some { display := "<SHORTHAND>", dashes := true }
  | .ports | .home | .unlock | .initConfig => none

/-- The flags that only some commands have. -/
def Verb.ownFlags : Verb → List Flag
  | .send | .stream | .jog | .home | .unlock => [.port, .baud]
  | .initConfig => [.force]
  | .ports => []

/-- A place for flags. -/
inductive Scope where
  /-- Before the command. -/
  | program
  /-- Behind the command. -/
  | verb (v : Verb)
deriving DecidableEq, Repr

/-- The flags that may stand in a scope. -/
def Scope.flags : Scope → List Flag
  | .program => [.config, .json, .verbose, .help, .version]
  | .verb v => v.ownFlags ++ [.config, .json, .verbose, .help]

/-- The flags that a message names together if one of them was given. -/
def Scope.group : Scope → List Flag
  | .program => [.config, .json, .verbose]
  | .verb v => v.ownFlags

/-- The flags in the order in which the help lists them. -/
def Scope.listedFlags : Scope → List Flag
  | .program => [.config, .json, .verbose, .help, .version]
  | .verb v => .config :: v.ownFlags ++ [.json, .verbose, .help]

def Scope.operand? : Scope → Option Operand
  | .program => none
  | .verb v => v.operand?

/-- The flag with a long name. -/
def Scope.flagOfLong? (s : Scope) (name : String) : Option Flag := s.flags.find? (·.long = name)

/-- The flag with a letter. -/
def Scope.flagOfLetter? (s : Scope) (c : Char) : Option Flag :=
  s.flags.find? (·.letter? = some c)

/-- The long names of a scope's flags. -/
def Scope.longNames (s : Scope) : List String := s.flags.map Flag.long

end GcodeSender.Command
