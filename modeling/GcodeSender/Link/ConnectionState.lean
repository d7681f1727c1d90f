/-!
# `GcodeSender.Link.ConnectionState`: the life of a connection

The link owns one connection at a time. `ConnectionState.mayBecome`
lists the changes of state that belong to its life; staying in a state
is always one of them.
-/

set_option autoImplicit false

namespace GcodeSender.Link

inductive ConnectionState where
  /-- No transport is open. -/
  | disconnected
  /-- The transport is being opened. -/
  | connecting
  /-- The transport is open and read. -/
  | connected
  /-- The transport failed. -/
  | faulted
deriving DecidableEq, Repr

/-- The state in words. -/
def ConnectionState.display : ConnectionState → String
  | .disconnected => "Disconnected"
  | .connecting => "Connecting"
  | .connected => "Connected"
  | .faulted => "Faulted"

/-- Lines can be sent in this state. -/
def ConnectionState.isConnected : ConnectionState → Bool
  | .connected => true
  | .disconnected | .connecting | .faulted => false

/-- The changes of state that belong to the life of a connection. -/
def ConnectionState.mayBecome (s target : ConnectionState) : Bool :=
  s = target ||
    match s, target with
    | .disconnected, .connecting => true
    | .connecting, .connected | .connecting, .faulted | .connecting, .disconnected => true
    | .connected, .faulted | .connected, .disconnected => true
    | .faulted, .disconnected | .faulted, .connecting => true
    | _, _ => false

end GcodeSender.Link
