import GcodeSender.Settings.Document

/-!
# `GcodeSender.Settings.Library`: what is asked of a format's library

A configuration is not written or read character by character: for each
format there is a library that does it. The configuration hands it an
`Outline`, which has the sections and their fields under their names
(`Config.outline`), and gets a document back from it, of which it reads
the fields by the same names (`Config.ofDocument?`). `Library` is all
that passes between the two, and nothing here depends on which library
it is.
-/

set_option autoImplicit false

namespace GcodeSender.Settings

/-- A value as it is handed to a library. -/
inductive Datum where
  | text (s : String)
  | natural (n : UInt64)
  | real (x : Float)
  | truth (b : Bool)

/-- A document as it is handed to a library: its sections in order, each
with its fields. -/
abbrev Outline := List (String × List (String × Datum))

/-- A configuration as it is handed to a library. -/
def Config.outline (c : Config) : Outline :=
  [("connection",
      [("port", .text c.connection.port),
        ("baud_rate", .natural c.connection.baudRate.toUInt64),
        ("settle_delay_ms", .natural c.connection.settleDelay),
        ("read_timeout_ms", .natural c.connection.readTimeout)]),
    ("streaming", [("stop_join_timeout_ms", .natural c.streaming.stopTimeout)]),
    ("jog",
      [("step_mm", .real c.jog.step),
        ("feed_rate", .real c.jog.feed),
        ("manual_protocol", .truth c.jog.manual)])]

/-- A library for one format. -/
structure Library where
  /-- The values of its documents. -/
  Value : Type
  readings : Document Value
  /-- The entries of a value that is a table. -/
  table? : Value → Option (List (String × Value))
  /-- Reads a text as a document. -/
  read? : String → Option Value
  /-- What it says of a text that is no document, or not the wanted one. -/
  complaint : String → String
  /-- Writes a document as a text. -/
  write? : Outline → Option String
  /-- What it says of a document that it does not write. -/
  objection : Outline → String
  /-- What it reads where it has written a double. -/
  regained? : Float → Option Float

instance (l : Library) : Document l.Value := l.readings

/-- Reads a configuration from a text. -/
def Library.config? (l : Library) (text : String) : Option Config :=
  (l.read? text).bind Config.ofDocument?

/-- The formats of configuration files. -/
inductive Format where
  | json
  | toml
deriving DecidableEq, Repr

/-- A library for each format. -/
structure Libraries where
  json : Library
  toml : Library

/-- The library for a format. -/
def Libraries.of (L : Libraries) : Format → Library
  | .json => L.json
  | .toml => L.toml

/-- The error that says that a text of a format cannot be read. -/
def Format.unread : Format → String → SettingsError
  | .json => .json
  | .toml => .toml

/-- The error that says that a configuration cannot be written in a
format. -/
def Format.unwritten : Format → String → SettingsError
  | .json => .json
  | .toml => .tomlWrite

/-- Reads a configuration from a text of a format. -/
def Libraries.read (L : Libraries) (format : Format) (text : String) :
    Except SettingsError Config :=
  match (L.of format).config? text with
  | some c => .ok c
  | none => .error (format.unread ((L.of format).complaint text))

/-- Writes a configuration as a text of a format. -/
def Libraries.write (L : Libraries) (format : Format) (c : Config) :
    Except SettingsError String :=
  match (L.of format).write? c.outline with
  | some text => .ok text
  | none => .error (format.unwritten ((L.of format).objection c.outline))

end GcodeSender.Settings
