import GcodeSender.Text.Split

/-!
# `GcodeSender.Command.Token`: what an argument looks like

Two dashes alone end the flags. A long flag begins with two dashes and
may carry its value behind an equals sign; letters behind one dash are
flags in a row. Everything else, a lone dash included, is a word.
-/

set_option autoImplicit false

namespace GcodeSender.Command

/-- The look of an argument. -/
inductive Token where
  /-- Ends the flags. -/
  | dashes
  | long (name : String) (value : Option String)
  /-- At least one letter. -/
  | letters (first : Char) (rest : List Char)
  | word (text : String)
deriving DecidableEq, Repr

/-- A long flag from what follows its dashes. -/
def Token.ofLong (cs : List Char) : Token :=
  match Text.cutOnce? '=' cs with
  | some (name, value) => .long (String.ofList name) (some (String.ofList value))
  | none => .long (String.ofList cs) none

def Token.ofArgument (argument : String) : Token :=
  match argument.toList with
  | ['-', '-'] => .dashes
  | '-' :: '-' :: rest => .ofLong rest
  | '-' :: c :: rest => .letters c rest
  | _ => .word argument

example : Token.ofArgument "--port=a=b" = .long "port" (some "a=b") := by decide
example : Token.ofArgument "-" = .word "-" := by decide

end GcodeSender.Command
