import GcodeSender.Machine.Realtime

/-!
# `GcodeSender.Command.Control`: what the operator types during a job

While a job is streamed, the operator may type words that control it,
one a line. Blanks around a word and the case of its letters do not
matter.
-/

set_option autoImplicit false

namespace GcodeSender.Command

/-- A word that controls a job. -/
inductive Control where
  | pause
  | resume
  | stop
  | realtime (c : Machine.Realtime)
deriving DecidableEq, Repr

/-- The control that a word stands for. -/
def Control.ofText? (text : String) : Option Control :=
  let word := Text.lower (Text.trim text.toList)
  if word = "pause".toList then some .pause
  else if word = "resume".toList then some .resume
  else if word = "stop".toList then some .stop
  else (Machine.Realtime.ofText? text).map .realtime

/-- A typed line. -/
inductive Typed where
  | control (c : Control)
  | blank
  | unknown (word : String)
deriving DecidableEq, Repr

/-- What a typed line is. -/
def Typed.ofLine (line : String) : Typed :=
  match Control.ofText? line with
  | some c => .control c
  | none => if Text.trim line.toList = [] then .blank else .unknown (Text.trimmed line)

example : Typed.ofLine " Stop " = .control .stop := by decide +kernel
example : Typed.ofLine "G0 X1" = .unknown "G0 X1" := by decide +kernel

end GcodeSender.Command
