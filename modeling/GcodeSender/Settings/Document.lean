import GcodeSender.Settings.Config

/-!
# `GcodeSender.Settings.Document`: configurations in documents

A configuration can be written down in more than one format. What is
asked of a format is here: how a value of it reads as a section with
named fields, a text, a number, and so on. How a configuration is put
together from sections and fields, and what is missing gets its
default, is then the same for every format.
-/

set_option autoImplicit false

namespace GcodeSender.Settings

/-- The readings of a format's values. -/
class Document (V : Type) where
  /-- A section: the values of the named fields, as far as they are
  given. -/
  fields? : List String → V → Option (List (Option V))
  text? : V → Option String
  /-- A natural number below `2 ^ 64`. -/
  natural? : V → Option Nat
  real? : V → Option Float
  truth? : V → Option Bool

variable {V : Type} [Document V]

/-- A value that is given is read, and one that is not has its
default. -/
def readOr {α : Type} (default : α) (read : V → Option α) : Option V → Option α
  | none => some default
  | some v => read v

/-- A number of 32 bits. -/
def word? (v : V) : Option UInt32 :=
  match Document.natural? v with
  | some n => if n < 1 <<< 32 then some n.toUInt32 else none
  | none => none

/-- A number of 64 bits. -/
def long? (v : V) : Option UInt64 := (Document.natural? v).map Nat.toUInt64

def ConnectionSettings.ofDocument? (v : V) : Option ConnectionSettings :=
  let d : ConnectionSettings := {}
  match Document.fields? ["port", "baud_rate", "settle_delay_ms", "read_timeout_ms"] v with
  | some [port, baudRate, settleDelay, readTimeout] => do
    let port ← readOr d.port Document.text? port
    let baudRate ← readOr d.baudRate word? baudRate
    let settleDelay ← readOr d.settleDelay long? settleDelay
    let readTimeout ← readOr d.readTimeout long? readTimeout
    some { port, baudRate, settleDelay, readTimeout }
  | _ => none

def StreamingSettings.ofDocument? (v : V) : Option StreamingSettings :=
  let d : StreamingSettings := {}
  match Document.fields? ["stop_join_timeout_ms"] v with
  | some [stopTimeout] => do
    let stopTimeout ← readOr d.stopTimeout long? stopTimeout
    some { stopTimeout }
  | _ => none

def JogSettings.ofDocument? (v : V) : Option JogSettings :=
  let d : JogSettings := {}
  match Document.fields? ["step_mm", "feed_rate", "manual_protocol"] v with
  | some [step, feed, manual] => do
    let step ← readOr d.step Document.real? step
    let feed ← readOr d.feed Document.real? feed
    let manual ← readOr d.manual Document.truth? manual
    some { step, feed, manual }
  | _ => none

/-- The configuration in a document. -/
def Config.ofDocument? (v : V) : Option Config :=
  let d : Config := {}
  match Document.fields? ["connection", "streaming", "jog"] v with
  | some [connection, streaming, jog] => do
    let connection ← readOr d.connection ConnectionSettings.ofDocument? connection
    let streaming ← readOr d.streaming StreamingSettings.ofDocument? streaming
    let jog ← readOr d.jog JogSettings.ofDocument? jog
    some { connection, streaming, jog }
  | _ => none

end GcodeSender.Settings
