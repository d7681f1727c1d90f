import GcodeSender.Command.Usage
import GcodeSender.Text.Terminal

/-!
# `GcodeSender.Command.Misuse`: arguments that cannot be read

Each constructor is one way in which arguments can be wrong. Its message
has up to four parts: what is wrong, what could have been meant, how the
program is used, and where to find help.
-/

set_option autoImplicit false

namespace GcodeSender.Command

/-- What an unknown argument could have been meant for. -/
inductive Hint where
  | none
  /-- A flag of the same scope has a similar name. -/
  | flag (f : Flag)
  /-- A command that follows has a flag with a similar name. -/
  | behind (v : Verb) (f : Flag)
  /-- It could be an operand if the flags were ended before it. -/
  | operand
deriving DecidableEq, Repr

/-- Why arguments cannot be read. -/
inductive Misuse where
  /-- There are none. -/
  | nothing
  /-- There are flags but no command. -/
  | noCommand
  /-- There is no such command; `similar` holds the commands with a
  similar name. -/
  | unknownCommand (topic : Topic) (word : String) (similar : List String)
  /-- The flags were ended before the command. -/
  | needlessDashes (word : String)
  /-- There is no place for the argument. The usage names some flags, or
  just says that there are flags. -/
  | unknownArgument (scope : Scope) (shown : String) (hint : Hint) (named : Option (List Flag))
  /-- A flag that takes no value has one. -/
  | needlessValue (scope : Scope) (flag : Flag) (value : String) (used : List Flag)
  | missingOperand (scope : Scope) (operand : Operand) (used : List Flag)
  /-- A flag or an operand has no value. -/
  | missingValue (shown : String)
  | repeated (scope : Scope) (flag : Flag)
  | badValue (flag : Flag) (value reason : String)
deriving DecidableEq, Repr

namespace Misuse

/-- Text in single quotes, without what a terminal would obey. -/
def quoted (text : String) : String := "'" ++ Text.shown text ++ "'"

/-- What is wrong. -/
def complaint : Misuse → String
  | nothing => ""
  | noCommand =>
    quoted programName ++ " requires a subcommand but one was not provided\n  [subcommands: "
      ++ ", ".intercalate commandNames ++ "]"
  | unknownCommand _ word _ => "unrecognized subcommand " ++ quoted word
  | needlessDashes word => "unexpected argument " ++ quoted word ++ " found"
  | unknownArgument _ shown _ _ => "unexpected argument " ++ quoted shown ++ " found"
  | needlessValue _ flag value _ =>
    "unexpected value " ++ quoted value ++ " for " ++ quoted flag.display
      ++ " found; no more were expected"
  | missingOperand _ operand _ =>
    "the following required arguments were not provided:\n  " ++ operand.display
  | missingValue shown => "a value is required for " ++ quoted shown ++ " but none was supplied"
  | repeated _ flag => "the argument " ++ quoted flag.display ++ " cannot be used multiple times"
  | badValue flag value reason =>
    "invalid value " ++ quoted value ++ " for " ++ quoted flag.display ++ ": " ++ reason

/-- Similar names in words. -/
def similarTip? : List String → Option String
  | [] => none
  | [name] => some ("a similar subcommand exists: " ++ quoted name)
  | names => some ("some similar subcommands exist: " ++ ", ".intercalate (names.map quoted))

/-- A hint in words, for an argument as it was written. -/
def hintTip? (shown : String) : Hint → Option String
  | .none => Option.none
  | .flag f => some ("a similar argument exists: " ++ quoted ("--" ++ f.long))
  | .behind v f => some (quoted (v.name ++ " --" ++ f.long) ++ " exists")
  | .operand => some ("to pass " ++ quoted shown ++ " as a value, use " ++ quoted ("-- " ++ shown))

/-- What could have been meant. -/
def tip? : Misuse → Option String
  | unknownCommand _ _ similar => similarTip? similar
  | needlessDashes word =>
    some ("subcommand " ++ quoted word ++ " exists; to use it, remove the '--' before it")
  | unknownArgument _ shown hint _ => hintTip? shown hint
  | nothing | noCommand | needlessValue _ _ _ _ | missingOperand _ _ _ | missingValue _
  | repeated _ _ | badValue _ _ _ => none

/-- The usage line that is shown, if one is. -/
def usage? : Misuse → Option String
  | noCommand => some Scope.program.usage
  | unknownCommand topic _ _ => some topic.usage
  | needlessDashes _ => some Scope.program.usage
  | unknownArgument scope _ _ named => some (named.elim scope.usage scope.usageNaming)
  | needlessValue scope flag _ used => some (scope.usageGrouping used flag)
  | missingOperand scope _ used => some (scope.usageNaming used)
  | repeated scope _ => some scope.usage
  | nothing | missingValue _ | badValue _ _ _ => none

/-- Whether the message ends by pointing to the help. -/
def pointsToHelp : Misuse → Bool
  | unknownCommand .help _ _ => false
  | _ => true

/-- The message. Without any arguments it is the help page. -/
def message (m : Misuse) : String :=
  if m = nothing then (Topic.scope .program).page
  else
    "error: " ++ m.complaint ++ m.tip?.elim "" ("\n\n  tip: " ++ ·)
      ++ m.usage?.elim "" ("\n\nUsage: " ++ ·)
      ++ (if m.pointsToHelp then "\n\nFor more information, try '--help'.\n" else "\n")

end Misuse

end GcodeSender.Command
