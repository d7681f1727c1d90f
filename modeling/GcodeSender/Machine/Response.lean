import GcodeSender.Machine.StatusReport

/-!
# `GcodeSender.Machine.Response`: what a line from the controller means

A controller answers every line it receives with one line, and pushes
others unasked: alarms, feedback in brackets, the banner after a
reset, and status reports. `Response.ofLine?` sorts lines into these
kinds and `Response.answersCommand` tells the answers from the pushed
lines; only answers may be credited to a line that was sent.

Whether an answer accepts its line is a question of its own:
`isAccepted` looks for `ok` anywhere in it, because the simplest
firmware echoes the command in front of it.
-/

set_option autoImplicit false

namespace GcodeSender.Machine

/-- A line from the controller. -/
inductive Response where
  /-- The plain acknowledgement. -/
  | ok
  /-- A rejection with its code. -/
  | error (code : String)
  /-- An alarm with its code. -/
  | alarm (code : String)
  /-- A line framed as a status report. -/
  | status
  /-- A message in brackets. -/
  | feedback (text : String)
  /-- The banner after a reset. -/
  | welcome (banner : String)
  /-- Anything else, such as an echoed command. -/
  | other (text : String)
deriving DecidableEq, Repr

/-- Whether a line of this kind is the answer to a line that was sent. -/
def Response.answersCommand : Response → Bool
  | .ok | .error _ | .other _ => true
  | .alarm _ | .status | .feedback _ | .welcome _ => false

/-- The line in its usual spelling. -/
def Response.display : Response → String
  | .ok => "ok"
  | .error code => "error:" ++ code
  | .alarm code => "ALARM:" ++ code
  | .status => "status"
  | .feedback text => text
  | .welcome banner => banner
  | .other text => text

/-- A message in brackets. -/
def isBracketed (cs : List Char) : Bool := cs.head? == some '[' && cs.getLast? == some ']'

/-- A banner, with the name of the firmware and a space. -/
def isBanner (cs : List Char) : Bool :=
  "Grbl ".toList.isPrefixOf cs || "GrblHAL ".toList.isPrefixOf cs

/-- The kind of a text without blanks around it. The order matters: an
error whose code looks like something else is still an error. -/
def Response.ofTrimmed? (cs : List Char) : Option Response :=
  if cs = [] then none
  else if cs = "ok".toList then some .ok
  else
    match Text.dropWord? "error:".toList cs with
    | some code => some (.error (String.ofList (Text.trim code)))
    | none =>
      match Text.dropWord? "alarm:".toList cs with
      | some code => some (.alarm (String.ofList (Text.trim code)))
      | none =>
        if isFramed cs then some .status
        else if isBracketed cs then some (.feedback (String.ofList cs))
        else if isBanner cs then some (.welcome (String.ofList cs))
        else some (.other (String.ofList cs))

/-- The kind of a line; a blank line has none. -/
def Response.ofLine? (line : String) : Option Response :=
  Response.ofTrimmed? (Text.trim line.toList)

/-- Whether one text occurs in another. -/
def occursIn (word : List Char) : List Char → Bool
  | [] => word.isEmpty
  | c :: cs => word.isPrefixOf (c :: cs) || occursIn word cs

/-- Whether an answer accepts the line it answers: it contains `ok`. -/
def isAccepted (answer : String) : Bool := occursIn "ok".toList answer.toList

end GcodeSender.Machine
