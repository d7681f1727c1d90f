import GcodeSender.Files.Path

/-!
# `GcodeSender.Files.Tree`: a tree of files

Configurations and programs live in files. A `Tree` is the contents of
a file system as a value, with the operations that the library needs
and the failures that the system reports for them. An operation that
fails changes nothing, and gives no tree; only the making of several
directories can fail half way.

A name of more than 255 bytes is refused where it is looked for, so a
missing directory above it is noticed first; a path of more than 4095
bytes is refused at once.
-/

set_option autoImplicit false

namespace GcodeSender.Files

/-- A failure reported by the system. -/
inductive SystemError where
  | notFound
  | alreadyExists
  | notDirectory
  | isDirectory
  | nameTooLong
  /-- A path that the system is not even asked about. -/
  | nulInPath
deriving DecidableEq, Repr

/-- The failure in words. -/
def SystemError.text : SystemError → String
  | .notFound => "No such file or directory"
  | .alreadyExists => "File exists"
  | .notDirectory => "Not a directory"
  | .isDirectory => "Is a directory"
  | .nameTooLong => "File name too long"
  | .nulInPath => "file name contained an unexpected NUL byte"

/-- The system's number of the failure. -/
def SystemError.number? : SystemError → Option Nat
  | .notFound => some 2
  | .alreadyExists => some 17
  | .notDirectory => some 20
  | .isDirectory => some 21
  | .nameTooLong => some 36
  | .nulInPath => none

/-- The failure in words and with its number. -/
def SystemError.message (e : SystemError) : String :=
  match e.number? with
  | some number => e.text ++ " (os error " ++ toString number ++ ")"
  | none => e.text

/-- What stands at a place in the tree. -/
inductive Node where
  | file (content : List UInt8)
  | directory
deriving DecidableEq, Repr

/-- A tree of files: the directory in which relative paths begin, and
every file and directory by its names from the root. The root is a
directory without an entry. -/
structure Tree where
  here : List String := []
  entries : List (List String × Node) := []
deriving DecidableEq, Repr

/-- What stands at the given names. -/
def Tree.node? (t : Tree) (names : List String) : Option Node :=
  if names = [] then some .directory else t.entries.lookup names

/-- The tree with the given node at the given names. -/
def Tree.put (t : Tree) (names : List String) (node : Node) : Tree :=
  { t with entries := (names, node) :: t.entries.filter (·.1 ≠ names) }

/-- Where a path leads. -/
inductive Place where
  | present (names : List String) (node : Node)
  /-- Nothing is there, but the directory it would be in is. -/
  | vacant (names : List String)
deriving DecidableEq, Repr

/-- The most bytes that a name may have. -/
def maxName : Nat := 255

/-- The most bytes that a path may have. -/
def maxPath : Nat := 4095

/-- Follows the segments of a path from a directory. -/
def Tree.follow (t : Tree) (dir : List String) : List String → Except SystemError Place
  | [] => .ok (.present dir .directory)
  | segment :: rest =>
    if isSilent segment then t.follow dir rest
    else if segment = ".." then t.follow dir.dropLast rest
    else if maxName < segment.utf8ByteSize then .error .nameTooLong
    else
      let names := dir ++ [segment]
      match t.node? names with
      | some .directory => t.follow names rest
      | some (.file content) =>
        -- even a slash behind the name of a file asks for a directory
        if rest = [] then .ok (.present names (.file content)) else .error .notDirectory
      | none => if rest.all (· = "") then .ok (.vacant names) else .error .notFound

/-- Where a path leads. The empty path leads nowhere. -/
def Tree.find (t : Tree) (path : String) : Except SystemError Place :=
  if path = "" then .error .notFound
  else if path.toList.contains '\x00' then .error .nulInPath
  else if maxPath < path.utf8ByteSize then .error .nameTooLong
  else t.follow (if isAbsolute path then [] else t.here) (segments path)

/-- What stands at a path. -/
def Tree.lookup (t : Tree) (path : String) : Except SystemError Node :=
  match t.find path with
  | .ok (.present _ node) => .ok node
  | .ok (.vacant _) => .error .notFound
  | .error e => .error e

/-- The names from the root to what stands at a path. -/
def Tree.namesOf? (t : Tree) (path : String) : Option (List String) :=
  match t.find path with
  | .ok (.present names _) => some names
  | .ok (.vacant _) | .error _ => none

def Tree.holds (t : Tree) (path : String) : Bool := (t.lookup path).toOption.isSome

def Tree.isDirectory (t : Tree) (path : String) : Bool :=
  (t.lookup path).toOption == some .directory

/-- The content of a file. -/
def Tree.read (t : Tree) (path : String) : Except SystemError (List UInt8) :=
  match t.lookup path with
  | .ok (.file content) => .ok content
  | .ok .directory => .error .isDirectory
  | .error e => .error e

/-- Writes a file, new or over an old one. -/
def Tree.write (t : Tree) (path : String) (content : List UInt8) : Except SystemError Tree :=
  match t.find path with
  | .ok (.present names (.file _)) => .ok (t.put names (.file content))
  | .ok (.present _ .directory) => .error .isDirectory
  | .ok (.vacant names) =>
    if path.toList.getLast? = some '/' then .error .isDirectory
    else .ok (t.put names (.file content))
  | .error e => .error e

/-- Makes one directory. -/
def Tree.makeDirectory (t : Tree) (path : String) : Except SystemError Tree :=
  match t.find path with
  | .ok (.present _ _) => .error .alreadyExists
  | .ok (.vacant names) => .ok (t.put names .directory)
  | .error e => .error e

/-- What comes of making a directory that may be there already. -/
def Tree.settle (t : Tree) (path : String) :
    Except SystemError Tree → Except SystemError Unit × Tree
  | .ok t => (.ok (), t)
  | .error e => (if t.isDirectory path then .ok () else .error e, t)

/-- Makes a directory and those above it, `depth` levels at most. Only a
missing parent is a reason to make the parent first. -/
def Tree.ensureDirectories (t : Tree) : Nat → String → Except SystemError Unit × Tree
  | 0, _ => (.error .notFound, t)
  | depth + 1, path =>
    if path = "" then (.ok (), t)
    else
      match t.makeDirectory path with
      | .error .notFound =>
        match parent? path with
        -- a path without a parent is not made by making others first
        | none => (.error .notFound, t)
        | some parent =>
          match t.ensureDirectories depth parent with
          -- tried again now that the parent is there
          | (.ok (), t) => t.settle path (t.makeDirectory path)
          | (.error e, t) => (.error e, t)
      | made => t.settle path made

/-- Makes a directory and every missing one above it. Where that fails,
the directories that were made first are there. -/
def Tree.ensurePath (t : Tree) (path : String) : Except SystemError Unit × Tree :=
  t.ensureDirectories (path.length + 1) path

end GcodeSender.Files
