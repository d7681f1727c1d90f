import GcodeSender.Json.Numbers
import GcodeSender.Json.Strings
import GcodeSender.Json.Value
import GcodeSender.Text.Split

/-!
# `GcodeSender.Json.Reader`: reading JSON

Each function reads one construct at the beginning of a text and
returns what follows it. The index bounds the nesting and the length
of what is read; twice the length of the text is always enough,
because at least every other step takes a character.

Whatever is wrong with a text, it is simply not JSON: the caller has
one message for all of it.
-/

set_option autoImplicit false

namespace GcodeSender.Json

/-- The four blanks of JSON. -/
def isSpace (c : Char) : Bool := c = ' ' || c = '\n' || c = '\t' || c = '\r'

/-- The text from its first character that is not a blank of JSON. -/
def skipSpace (cs : List Char) : List Char := cs.dropWhile isSpace

/-- A value written as a word. -/
def word? (cs : List Char) : Option (Value × List Char) :=
  match Text.dropLeading? "null".toList cs with
  | some rest => some (.null, rest)
  | none =>
    match Text.dropLeading? "true".toList cs with
    | some rest => some (.truth true, rest)
    | none => (Text.dropLeading? "false".toList cs).map fun rest => (.truth false, rest)

/-- A number, kept in its spelling. -/
def number? (cs : List Char) : Option (Value × List Char) :=
  (takeNumber? cs).map fun (_, rest) => (.number (cs.take (cs.length - rest.length)), rest)

mutual

/-- A value, after blanks. -/
def value? : Nat → List Char → Option (Value × List Char)
  | 0, _ => none
  | n + 1, cs =>
    match skipSpace cs with
    | [] => none
    | '"' :: cs => (readString cs).map fun (s, rest) => (.string s, rest)
    | '[' :: cs =>
      match skipSpace cs with
      | ']' :: rest => some (.array [], rest)
      | cs => (elements? n cs).map fun (vs, rest) => (.array vs, rest)
    | '{' :: cs =>
      match skipSpace cs with
      | '}' :: rest => some (.object [], rest)
      | cs => (members? n cs).map fun (ms, rest) => (.object ms, rest)
    | cs@(c :: _) => if c = '-' || c.isDigit then number? cs else word? cs

/-- The elements of an array up to its closing bracket. -/
def elements? : Nat → List Char → Option (List Value × List Char)
  | 0, _ => none
  | n + 1, cs =>
    match value? n cs with
    | none => none
    | some (v, cs) =>
      match skipSpace cs with
      | ',' :: cs => (elements? n cs).map fun (vs, rest) => (v :: vs, rest)
      | ']' :: rest => some ([v], rest)
      | _ => none

/-- The members of an object up to its closing brace. -/
def members? : Nat → List Char → Option (List (Option String × Value) × List Char)
  | 0, _ => none
  | n + 1, cs =>
    match skipSpace cs with
    | '"' :: cs =>
      match readString cs with
      | none => none
      | some (key, cs) =>
        match skipSpace cs with
        | ':' :: cs =>
          match value? n cs with
          | none => none
          | some (v, cs) =>
            match skipSpace cs with
            | ',' :: cs => (members? n cs).map fun (ms, rest) => ((key, v) :: ms, rest)
            | '}' :: rest => some ([(key, v)], rest)
            | _ => none
        | _ => none
    | _ => none

end

/-- Reads a whole text as one value. -/
def read? (cs : List Char) : Option Value :=
  match value? (2 * cs.length + 2) cs with
  | some (v, rest) => if skipSpace rest = [] then some v else none
  | none => none

end GcodeSender.Json
