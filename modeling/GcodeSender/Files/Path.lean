import GcodeSender.Text.Split

/-!
# `GcodeSender.Files.Path`: paths as text

A path is a text whose segments are separated by slashes. Empty
segments and segments `.` behind the first one say nothing, so they
are dropped from the end before a path is asked for its last name, its
extension or its parent.
-/

set_option autoImplicit false

namespace GcodeSender.Files

/-- The segments of a path. An absolute path begins with an empty one. -/
def segments (path : String) : List String :=
  (Text.pieces '/' path.toList).map String.ofList

/-- Whether a path begins at the root. -/
def isAbsolute (path : String) : Bool := path.toList.head? == some '/'

/-- A segment that names nothing. -/
def isSilent (segment : String) : Bool := segment = "" || segment = "."

/-- The segments behind the first one without silent ones at the end. -/
def dropSilent (later : List String) : List String :=
  (later.reverse.dropWhile isSilent).reverse

/-- The text of a first segment and the ones behind it. -/
def ofSegments (first : String) (later : List String) : String :=
  if first = "" && later.isEmpty then "/" else String.intercalate "/" (first :: later)

/-- The last segment of a path, unless it leads upwards or there is
none. -/
def lastName? (path : String) : Option String :=
  match segments path with
  | [] => none
  | first :: later =>
    match (dropSilent later).getLast? with
    | some name => if name = ".." then none else some name
    | none => if isSilent first || first = ".." then none else some first

/-- What follows the last point of a name, if something precedes it. -/
def extensionOfName? (name : String) : Option String :=
  let ending := name.toList.reverse.takeWhile (· ≠ '.')
  match name.toList.reverse.drop ending.length with
  | '.' :: _ :: _ => some (String.ofList ending.reverse)
  | _ => none

/-- The extension of a path's last name. -/
def extension? (path : String) : Option String := (lastName? path).bind extensionOfName?

/-- The path without its last segment. The empty path and the root have
no parent; a single name has the empty one. -/
def parent? (path : String) : Option String :=
  match segments path with
  | [] => none
  | first :: later =>
    match dropSilent later with
    | [] => if first = "" then none else some ""
    | rest@(_ :: _) => some (ofSegments first (dropSilent rest.dropLast))

example : extension? "a.b/c.toml" = some "toml" := by decide
example : extension? ".json" = none := by decide
example : parent? "a/./c.toml" = some "a" := by decide

end GcodeSender.Files
