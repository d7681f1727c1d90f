import GcodeSender.Files.Tree
import GcodeSender.Settings.Json
import GcodeSender.Settings.Toml
import GcodeSender.Text.Utf8

/-!
# `GcodeSender.Settings.File`: configuration files

The extension of a file decides its format, and each format has a
library. A configuration is checked after it was read and before it is
written; and whatever can fail without the file system fails before the
first directory is made.
-/

set_option autoImplicit false

namespace GcodeSender.Settings

/-- The format that a path's extension names. -/
def Format.ofPath (path : String) : Except SettingsError Format :=
  match Files.extension? path with
  | some "json" => .ok .json
  | some "toml" => .ok .toml
  | other => .error (.unsupportedFormat (other.getD "none"))

/-- A message about a path. -/
def about (path message : String) : String := path ++ ": " ++ message

/-- The text of a file. -/
def readText (t : Files.Tree) (path : String) : Except SettingsError String :=
  match t.read path with
  | .error e => .error (.load (about path e.message))
  | .ok bytes =>
    match Text.decode bytes with
    | .ok cs => .ok (String.ofList cs)
    | .error _ => .error (.load (about path "stream did not contain valid UTF-8"))

/-- Loads and checks the configuration in a file. -/
def Libraries.load (L : Libraries) (t : Files.Tree) (path : String) :
    Except SettingsError Config := do
  let format ← Format.ofPath path
  let text ← readText t path
  let c ← L.read format text
  c.check
  .ok c

/-- Loads a configuration if there is a file, and is the default one if
there is none. -/
def Libraries.loadOrDefault (L : Libraries) (t : Files.Tree) (path : String) :
    Except SettingsError Config :=
  if t.holds path then L.load t path else .ok {}

/-- The text that is saved to a path, if the configuration can be saved
there. -/
def Libraries.textFor (L : Libraries) (c : Config) (path : String) :
    Except SettingsError String := do
  c.check
  let format ← Format.ofPath path
  L.write format c

/-- Makes the directories above a path. -/
def makeParents (t : Files.Tree) (path : String) : Except SettingsError Unit × Files.Tree :=
  match Files.parent? path with
  | none => (.ok (), t)
  | some parent =>
    let (made, t) := t.ensurePath parent
    (made.mapError fun e => .directory (about parent e.message), t)

/-- Saves a configuration to a file, and makes the directories above it.
The tree that is left may hold new directories even where the file
could not be written. -/
def Libraries.save (L : Libraries) (c : Config) (t : Files.Tree) (path : String) :
    Except SettingsError Unit × Files.Tree :=
  match L.textFor c path with
  | .error e => (.error e, t)
  | .ok text =>
    -- from here on the tree may change, and a change is not taken back
    match makeParents t path with
    | (.error e, t) => (.error e, t)
    | (.ok (), t) =>
      match t.write path (Text.encode text.toList) with
      | .ok t => (.ok (), t)
      | .error e => (.error (.save (about path e.message)), t)

/-! ### With the libraries of the program -/

/-- The libraries that the program is built with. -/
def Libraries.standard : Libraries := ⟨Json.library, Toml.library⟩

def Config.load (t : Files.Tree) (path : String) : Except SettingsError Config :=
  Libraries.standard.load t path

def Config.loadOrDefault (t : Files.Tree) (path : String) : Except SettingsError Config :=
  Libraries.standard.loadOrDefault t path

def Config.save (c : Config) (t : Files.Tree) (path : String) :
    Except SettingsError Unit × Files.Tree :=
  Libraries.standard.save c t path

end GcodeSender.Settings
