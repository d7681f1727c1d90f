/-!
# `GcodeSender.Error`: what can go wrong

One type of error per concern: the link, the job, and the loading of a
program. Each constructor is a cause and carries what its message
needs; the words are in `message` alone.
-/

set_option autoImplicit false

namespace GcodeSender

/-- A failure of the link's transport. -/
inductive LinkError where
  /-- Nothing can be sent, because no connection is open. -/
  | notConnected
  | openFailed (port reason : String)
  | enumerationFailed (reason : String)
  /-- Reading or writing failed on an open connection. -/
  | io (reason : String)
deriving DecidableEq, Repr

def LinkError.message : LinkError → String
  | .notConnected => "Not connected"
  | .openFailed port reason => "Failed to open port " ++ port ++ ": " ++ reason
  | .enumerationFailed reason => "Failed to enumerate ports: " ++ reason
  | .io reason => "Serial error: " ++ reason

/-- Why a job is not started. -/
inductive Refusal where
  /-- The streamer's own job is running or paused. -/
  | alreadyRunning
  | emptyProgram
  | notConnected
  /-- The system has no thread for the job. -/
  | noThread (reason : String)
deriving DecidableEq, Repr

def Refusal.message : Refusal → String
  | .alreadyRunning => "a job is already running"
  | .emptyProgram => "no valid G-Code lines"
  | .notConnected => "not connected"
  | .noThread reason => reason

/-- A job that is not started, or that is halted. Lines are numbered
from one. -/
inductive JobError where
  | cannotStart (refusal : Refusal)
  /-- The job of another streamer owns the link. -/
  | alreadyStreaming
  | rejected (number : Nat) (line answer : String)
  /-- The connection ended while a line awaited its answer. -/
  | linkClosed (number : Nat)
deriving DecidableEq, Repr

def JobError.message : JobError → String
  | .cannotStart refusal => "Cannot start: " ++ refusal.message
  | .alreadyStreaming => "A job is already streaming on this link"
  | .rejected number line answer =>
    "Line " ++ toString number ++ " rejected (" ++ line ++ "): " ++ answer
  | .linkClosed number => "Link closed while line " ++ toString number ++ " was pending"

/-- A program that cannot be loaded. -/
inductive ProgramError where
  /-- No line of it would be sent. -/
  | empty
  | unreadable (reason : String)
deriving DecidableEq, Repr

def ProgramError.message : ProgramError → String
  | .empty => "No valid G-Code lines found"
  | .unreadable reason => "File error: " ++ reason

/-- Any failure of the library. -/
inductive Error where
  | link (cause : LinkError)
  | job (cause : JobError)
  | program (cause : ProgramError)
  | io (reason : String)
  | other (text : String)
deriving DecidableEq, Repr

def Error.message : Error → String
  | .link cause => cause.message
  | .job cause => cause.message
  | .program cause => cause.message
  | .io reason => "I/O error: " ++ reason
  | .other text => text

def Error.isLink : Error → Bool
  | .link _ => true
  | .job _ | .program _ | .io _ | .other _ => false

def Error.isJob : Error → Bool
  | .job _ => true
  | .link _ | .program _ | .io _ | .other _ => false

def Error.isProgram : Error → Bool
  | .program _ => true
  | .link _ | .job _ | .io _ | .other _ => false

end GcodeSender
