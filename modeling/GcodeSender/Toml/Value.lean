/-!
# `GcodeSender.Toml.Value`: TOML values and tables

A document is a table, whose entries are reached by paths. A table
comes into being in several ways, and what may be added to it later
depends on that, so each table remembers its `Origin`: a table that a
header or a path only implies may still be defined by a header of its
own, and a dotted key may add only to tables that dotted keys made.
-/

set_option autoImplicit false

namespace GcodeSender.Toml

/-- How a table came into being. -/
inductive Origin where
  /-- By a header of its own, or as the document. -/
  | header
  /-- As part of the path of another table's header. -/
  | implied
  /-- As part of a dotted key. -/
  | dotted
deriving DecidableEq, Repr

/-- A table that nothing but a path has mentioned. -/
def Origin.isImplied : Origin → Bool
  | .header => false
  | .implied | .dotted => true

inductive Value where
  | string (s : String)
  | integer (n : Int)
  | float (x : Float)
  | truth (b : Bool)
  /-- A date, a time, or both. -/
  | date
  | array (elements : List Value)
  /-- A table in braces, which is complete. -/
  | braced (entries : List (String × Value))
  | table (origin : Origin) (entries : List (String × Value))
  /-- The tables under headers in double brackets. -/
  | tables (elements : List Value)
deriving Repr

/-- The entries of a table. -/
abbrev Entries := List (String × Value)

/-- The entries with a value in the place of the one with the given
key, which is there. -/
def replace (key : String) (v : Value) (entries : Entries) : Entries :=
  entries.map fun (k, old) => if k = key then (k, v) else (k, old)

/-- The entries with the value under a key replaced or, where there is
none, added at the end. -/
def put (key : String) (v : Value) (entries : Entries) : Entries :=
  if (entries.lookup key).isSome then replace key v entries else entries ++ [(key, v)]

/-- A change of one table; none if it may not be made. -/
abbrev Change := Origin → Entries → Option Entries

/-- Changes the table that a path leads to from a table, along a
header's path or a dotted key. Tables that are missing on the way are
made. Of the tables under a double header the last is meant. -/
def changeAt (viaDots : Bool) (change : Change) : List String → Change
  | [], origin, entries => change origin entries
  | key :: path, _, entries =>
    match entries.lookup key with
    | none =>
      let origin := if viaDots then Origin.dotted else .implied
      (changeAt viaDots change path origin []).map fun inner =>
        put key (.table origin inner) entries
    | some (.table origin inner) =>
      -- dots do not lead into a table that has a header of its own
      if viaDots && !origin.isImplied then none
      else (changeAt viaDots change path origin inner).map fun inner =>
        put key (.table origin inner) entries
    | some (.tables elements) =>
      -- a path leads into the table that was begun last
      match elements.getLast? with
      | some (.table origin inner) =>
        (changeAt viaDots change path origin inner).map fun inner =>
          put key (.tables (elements.dropLast ++ [.table origin inner])) entries
      | _ => none
    | some (.string _) | some (.integer _) | some (.float _) | some (.truth _) | some .date
    | some (.array _) | some (.braced _) => none

/-- Adds a value under a key, which must be new. -/
def addNew (key : String) (v : Value) (entries : Entries) : Option Entries :=
  if (entries.lookup key).isSome then none else some (entries ++ [(key, v)])

/-- Adds a value under a dotted key to a table. The table that the dots
lead to must have been made by dotted keys. -/
def addDotted (dots : List String) (key : String) (v : Value) : Change :=
  changeAt true
    (fun origin entries =>
      -- a plain key adds to a table that dots did not make, a dotted one to one that they made
      if decide (origin = .dotted) = dots.isEmpty then none else addNew key v entries)
    dots

/-- Begins the table of a header. One that is implied so far becomes
defined; any other may not be defined again. -/
def beginTable (key : String) (_ : Origin) (entries : Entries) : Option Entries :=
  match entries.lookup key with
  | none => some (entries ++ [(key, .table .header [])])
  | some (.table .implied inner) => some (put key (.table .header inner) entries)
  | some _ => none

/-- Begins the next table of a double header. -/
def beginElement (key : String) (_ : Origin) (entries : Entries) : Option Entries :=
  match entries.lookup key with
  | none => some (entries ++ [(key, .tables [.table .header []])])
  | some (.tables elements) =>
    some (put key (.tables (elements ++ [.table .header []])) entries)
  | some _ => none

/-- A statement of a document. A key is given by the parts before its
last dot and the part behind it. -/
inductive Statement where
  | header (path : List String) (key : String)
  | doubleHeader (path : List String) (key : String)
  | entry (dots : List String) (key : String) (v : Value)

/-- A document under construction: the document's entries, and the path
of the table that entries are added to. -/
structure Draft where
  path : List String := []
  entries : Entries := []

/-- Carries a statement out. -/
def Draft.add (d : Draft) : Statement → Option Draft
  | .header path key =>
    (changeAt false (beginTable key) path .header d.entries).map fun entries =>
      ⟨path ++ [key], entries⟩
  | .doubleHeader path key =>
    (changeAt false (beginElement key) path .header d.entries).map fun entries =>
      ⟨path ++ [key], entries⟩
  | .entry dots key v =>
    (changeAt false (addDotted dots key v) d.path .header d.entries).map fun entries =>
      { d with entries }

/-- The table of a list of statements. -/
def Draft.addAll : Draft → List Statement → Option Draft
  | d, [] => some d
  | d, s :: rest => (d.add s).bind fun d => d.addAll rest

/-- The document that a list of statements makes. -/
def document? (statements : List Statement) : Option Value :=
  (Draft.addAll {} statements).map fun d => .table .header d.entries

/-- The table in braces that a list of entries makes. -/
def braced? : Entries → List (List String × String × Value) → Option Value
  | entries, [] => some (.braced entries)
  | entries, (dots, key, v) :: rest =>
    (addDotted dots key v .header entries).bind fun entries => braced? entries rest

end GcodeSender.Toml
