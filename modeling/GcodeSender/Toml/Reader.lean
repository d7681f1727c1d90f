import GcodeSender.Toml.Numbers
import GcodeSender.Toml.Strings
import GcodeSender.Toml.Value

/-!
# `GcodeSender.Toml.Reader`: reading TOML

A document is a list of statements, each on a line of its own: the
header of a table, or a key with its value. They are read first, each
function reading one construct at the beginning of a text and
returning what follows it, and then carried out one by one on the
table of the document.

The index of a function bounds the length and the nesting of what is
read. Values nest less than `nestingLimit` deep, and a key has fewer
parts than that.
-/

set_option autoImplicit false

namespace GcodeSender.Toml

/-- The bound on nested values and on the parts of a key. -/
def nestingLimit : Nat := 80

/-- A character of a key without quotes. -/
def isKeyChar (c : Char) : Bool := c.isAlphanum || c = '_' || c = '-'

/-- One part of a key. -/
def keyPart? (cs : List Char) : Option (String × List Char) :=
  match cs with
  | '"' :: cs => (readBasic (cs.length + 1) cs).map fun (s, rest) => (String.ofList s, rest)
  | '\'' :: cs => (readLiteral cs).map fun (s, rest) => (String.ofList s, rest)
  | _ =>
    match cs.takeWhile isKeyChar, cs.dropWhile isKeyChar with
    | [], _ => none
    | part, rest => some (String.ofList part, rest)

/-- The parts of a dotted key, with blanks around each. -/
def keyParts? : Nat → List Char → Option (List String × List Char)
  | 0, _ => none
  | n + 1, cs =>
    match keyPart? (skipBlanks cs) with
    | none => none
    | some (part, cs) =>
      match skipBlanks cs with
      | '.' :: cs => (keyParts? n cs).map fun (parts, rest) => (part :: parts, rest)
      | cs => some ([part], cs)

/-- A key: the parts before its last dot, the part behind it, and what
follows. -/
def key? (cs : List Char) : Option (List String × String × List Char) :=
  match keyParts? nestingLimit cs with
  | some (parts, rest) =>
    match parts.getLast? with
    | some last => if parts.length < nestingLimit then some (parts.dropLast, last, rest) else none
    | none => none
  | none => none

/-- What follows a comment, if one begins here. -/
def dropComment? : List Char → Option (List Char)
  | '#' :: cs => some (cs.dropWhile isVisible)
  | _ => none

/-- The text without a comment at its beginning. -/
def dropComment (cs : List Char) : List Char := (dropComment? cs).getD cs

/-- The text without blanks, comments and line ends at its beginning, as
they may stand between the elements of an array. -/
def skipLayout : Nat → List Char → List Char
  | 0, cs => cs
  | n + 1, cs =>
    let cs := skipBlanks cs
    match lineEnd? (dropComment cs) with
    | some cs => skipLayout n cs
    | none => cs

/-- The text without the layout at its beginning. -/
def skipAllLayout (cs : List Char) : List Char := skipLayout (cs.length + 1) cs

/-- A number or a date. -/
def numeral? (cs : List Char) : Option (Value × List Char) :=
  match date? cs with
  | some rest => some (.date, rest)
  | none =>
    match float? cs with
    | some (x, rest) => some (.float x, rest)
    | none => (integer? cs).map fun (n, rest) => (.integer n, rest)

/-- A value that is neither an array nor a table. -/
def scalarValue? (cs : List Char) : Option (Value × List Char) :=
  match cs with
  | [] => none
  | c :: _ =>
    if c = '"' || c = '\'' then
      (string? cs).map fun (s, rest) => (.string (String.ofList s), rest)
    else if c = '+' || c = '-' || c.isDigit then numeral? cs
    else if c = 't' then (Text.dropLeading? "true".toList cs).map fun rest => (.truth true, rest)
    else if c = 'f' then (Text.dropLeading? "false".toList cs).map fun rest => (.truth false, rest)
    else if c = 'i' || c = 'n' then (specialFloat? cs).map fun (x, rest) => (.float x, rest)
    else none

mutual

/-- A value, which may nest `depth` levels deep. -/
def value? : Nat → Nat → List Char → Option (Value × List Char)
  | 0, _, _ => none
  | n + 1, depth, cs =>
    match cs with
    | '[' :: cs =>
      -- each bracket takes one level, and the innermost value another
      if depth ≤ 1 then none
      else
        match skipAllLayout cs with
        | ']' :: rest => some (.array [], rest)
        | cs => (elements? n (depth - 1) cs).map fun (vs, rest) => (.array vs, rest)
    | '{' :: cs =>
      if depth ≤ 1 then none
      else
        match skipBlanks cs with
        | '}' :: rest => some (.braced [], rest)
        | cs =>
          match entries? n (depth - 1) cs with
          | some (es, rest) => (braced? [] es).map fun v => (v, rest)
          | none => none
    | cs => scalarValue? cs

/-- The elements of an array up to its closing bracket, from the first
on. -/
def elements? : Nat → Nat → List Char → Option (List Value × List Char)
  | 0, _, _ => none
  | n + 1, depth, cs =>
    match value? n depth cs with
    | none => none
    | some (v, cs) =>
      match skipAllLayout cs with
      | ']' :: rest => some ([v], rest)
      | ',' :: cs =>
        match skipAllLayout cs with
        -- a comma may stand behind the last element; in braces it may not
        | ']' :: rest => some ([v], rest)
        | cs => (elements? n depth cs).map fun (vs, rest) => (v :: vs, rest)
      | _ => none

/-- The entries of a table in braces up to its closing brace, from the
first on. -/
def entries? : Nat → Nat → List Char → Option (List (List String × String × Value) × List Char)
  | 0, _, _ => none
  | n + 1, depth, cs =>
    match key? cs with
    | some (dots, key, '=' :: cs) =>
      match value? n depth (skipBlanks cs) with
      | none => none
      | some (v, cs) =>
        match skipBlanks cs with
        | '}' :: rest => some ([(dots, key, v)], rest)
        | ',' :: cs => (entries? n depth cs).map fun (es, rest) => ((dots, key, v) :: es, rest)
        | _ => none
    | _ => none

end

/-- The end of a statement's line, behind blanks and a comment: what
follows it. -/
def endOfLine? (cs : List Char) : Option (List Char) :=
  let cs := dropComment (skipBlanks cs)
  if cs = [] then some [] else lineEnd? cs

/-- A header in single or double brackets, behind the first one. -/
def header? (cs : List Char) : Option (Statement × List Char) :=
  match cs with
  | '[' :: cs =>
    match key? cs with
    | some (path, key, ']' :: ']' :: rest) => some (.doubleHeader path key, rest)
    | _ => none
  | cs =>
    match key? cs with
    | some (path, key, ']' :: rest) => some (.header path key, rest)
    | _ => none

/-- A key with its value. -/
def entry? (cs : List Char) : Option (Statement × List Char) :=
  match key? cs with
  | some (dots, key, '=' :: cs) =>
    (value? (2 * cs.length + 2) nestingLimit (skipBlanks cs)).map fun (v, rest) =>
      (.entry dots key v, rest)
  | _ => none

/-- A statement without the end of its line. -/
def statement? : List Char → Option (Statement × List Char)
  | '[' :: cs => header? cs
  | cs => entry? cs

/-- The statements of a document. The index bounds the number of
lines. -/
def statements? : Nat → List Char → Option (List Statement)
  | 0, _ => none
  | n + 1, cs =>
    match skipBlanks cs with
    | [] => some []
    | cs =>
      match lineEnd? cs with
      | some cs => statements? n cs
      | none =>
        -- a line that holds a comment only
        match dropComment? cs with
        | some cs => (endOfLine? cs).bind (statements? n)
        | none =>
          match statement? cs with
          | none => none
          | some (s, cs) =>
            match endOfLine? cs with
            | some cs => (statements? n cs).map (s :: ·)
            | none => none

/-- Reads a whole text as a document. A byte order mark at its beginning
does not count. -/
def read? (cs : List Char) : Option Value :=
  let cs := (Text.dropLeading? ['\ufeff'] cs).getD cs
  (statements? (cs.length + 1) cs).bind document?

end GcodeSender.Toml
