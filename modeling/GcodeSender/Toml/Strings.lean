import GcodeSender.Text.Hex
import GcodeSender.Text.Split

/-!
# `GcodeSender.Toml.Strings`: four kinds of strings

A string is basic, with escapes in it, or literal, without; and either
kind stands on one line between single marks, or on several between
triple marks. Line ends in a string of several lines are read as line
feeds, and one directly behind the opening mark does not count.

The writer takes the kind in which the text needs the fewest escapes:
`styleFor` says which, and `quote` writes it.
-/

set_option autoImplicit false

namespace GcodeSender.Toml

/-- A character that may stand for itself in a string or a comment: a
tab, or no control character. -/
def isVisible (c : Char) : Bool := c = '\t' || (' ' ≤ c && c ≠ '\x7f')

/-- The character with the given code point, if there is one. -/
def scalar? (n : Nat) : Option Char := if n.isValidChar then some (Char.ofNat n) else none

/-- Reads an escape behind its backslash. -/
def escape? : List Char → Option (Char × List Char)
  | 'b' :: cs => some ('\x08', cs)
  | 't' :: cs => some ('\t', cs)
  | 'n' :: cs => some ('\n', cs)
  | 'f' :: cs => some ('\x0c', cs)
  | 'r' :: cs => some ('\r', cs)
  | '"' :: cs => some ('"', cs)
  | '\\' :: cs => some ('\\', cs)
  | 'u' :: cs =>
    match Text.readHex? 4 0 cs with
    | some (n, cs) => (scalar? n).map fun c => (c, cs)
    | none => none
  | 'U' :: cs =>
    match Text.readHex? 8 0 cs with
    | some (n, cs) => (scalar? n).map fun c => (c, cs)
    | none => none
  | _ => none

/-- A line end at the beginning of a text: what follows it. -/
def lineEnd? : List Char → Option (List Char)
  | '\n' :: cs => some cs
  | '\r' :: '\n' :: cs => some cs
  | _ => none

/-- The text without blanks, tabs and line ends at its beginning. The
index bounds their number. -/
def skipLines : Nat → List Char → List Char
  | 0, cs => cs
  | n + 1, cs =>
    match cs with
    | ' ' :: cs => skipLines n cs
    | '\t' :: cs => skipLines n cs
    | _ =>
      match lineEnd? cs with
      | some cs => skipLines n cs
      | none => cs

/-- The text without blanks and tabs at its beginning. -/
def skipBlanks (cs : List Char) : List Char := cs.dropWhile fun c => c = ' ' || c = '\t'

/-- The text without a line end at its beginning. -/
def dropLineEnd (cs : List Char) : List Char := (lineEnd? cs).getD cs

/-- A backslash at the end of a line joins it to what follows the blanks
and line ends behind it. -/
def joinedLine? (cs : List Char) : Option (List Char) :=
  (lineEnd? (skipBlanks cs)).map fun rest => skipLines rest.length rest

/-- A basic string on one line, behind its opening mark. -/
def readBasic : Nat → List Char → Option (List Char × List Char)
  | 0, _ => none
  | _ + 1, [] => none
  | n + 1, c :: cs =>
    if c = '"' then some ([], cs)
    else if c = '\\' then
      match escape? cs with
      | some (c, cs) => (readBasic n cs).map fun (s, rest) => (c :: s, rest)
      | none => none
    else if isVisible c then (readBasic n cs).map fun (s, rest) => (c :: s, rest)
    else none

/-- A literal string on one line, behind its opening mark. -/
def readLiteral : List Char → Option (List Char × List Char)
  | [] => none
  | c :: cs =>
    if c = '\'' then some ([], cs)
    else if isVisible c then (readLiteral cs).map fun (s, rest) => (c :: s, rest)
    else none

/-- The marks that end a string of several lines: three, or up to two
more that belong to the string. Fewer than three do not end it. -/
def closing? (mark : Char) (cs : List Char) : Option (List Char × List Char) :=
  let run := (cs.takeWhile (· = mark)).length
  if run < 3 then none
  else
    let own := min (run - 3) 2
    some (List.replicate own mark, cs.drop (own + 3))

/-- A string of several lines behind its opening mark and the line end
there. Only a basic one has escapes. -/
def readLines (basic : Bool) (mark : Char) : Nat → List Char → Option (List Char × List Char)
  | 0, _ => none
  | n + 1, cs =>
    let put (c : Char) (cs : List Char) : Option (List Char × List Char) :=
      (readLines basic mark n cs).map fun (s, rest) => (c :: s, rest)
    -- the closing marks come first: a mark may also be part of the text
    match closing? mark cs with
    | some r => some r
    | none =>
      match lineEnd? cs with
      | some cs => put '\n' cs
      | none =>
        match cs with
        | [] => none
        | c :: cs =>
          if c = '\\' && basic then
            match joinedLine? cs with
            | some cs => readLines basic mark n cs
            | none =>
              match escape? cs with
              | some (c, cs) => put c cs
              | none => none
          else if isVisible c then put c cs
          else none

/-- Three marks. -/
def triple (mark : Char) : List Char := [mark, mark, mark]

/-- A string of any kind, from its opening mark on. -/
def string? (cs : List Char) : Option (List Char × List Char) :=
  match Text.dropLeading? (triple '"') cs with
  | some cs => readLines true '"' (cs.length + 1) (dropLineEnd cs)
  | none =>
    match Text.dropLeading? (triple '\'') cs with
    | some cs => readLines false '\'' (cs.length + 1) (dropLineEnd cs)
    | none =>
      match cs with
      | '"' :: cs => readBasic (cs.length + 1) cs
      | '\'' :: cs => readLiteral cs
      | _ => none

/-- The kind in which a string is written. -/
structure Style where
  basic : Bool
  triple : Bool
deriving DecidableEq, Repr

/-- The length of the longest run of a character. -/
def longestRun (mark : Char) : List Char → Nat
  | [] => 0
  | c :: cs => max ((c :: cs).takeWhile (· = mark)).length (longestRun mark cs)

/-- A character that only a basic string can hold: a control character
other than a tab and a line feed. -/
def needsEscape (c : Char) : Bool := (c < ' ' && c ≠ '\t' && c ≠ '\n') || c = '\x7f'

/-- The kind in which a text is written: basic if nothing in it would
have to be escaped, else literal if that can hold it, and triple marks
where single ones cannot. -/
def styleFor (cs : List Char) : Style :=
  let control := cs.any needsEscape
  let several := cs.contains '\n'
  let quotes := longestRun '"' cs
  let ticks := longestRun '\'' cs
  if !control && !cs.contains '\\' && quotes = 0 && !several then ⟨true, false⟩
  else if !control && ticks = 0 && !several then ⟨false, false⟩
  else if !control && !cs.contains '\\' && quotes ≤ 2 then ⟨true, true⟩
  else if !control && ticks ≤ 2 then ⟨false, true⟩
  else ⟨true, several⟩

/-- The digits of an escape by number. -/
def escapeDigits (c : Char) : List Char :=
  (Text.hexFour c.toNat).map Char.toUpper

/-- A text inside a basic string. At most `most` quotes in a row stand
for themselves; `run` of them precede the text. -/
def escapeBasic (several : Bool) (most : Nat) : Nat → List Char → List Char
  | _, [] => []
  | run, c :: cs =>
    if c = '"' then
      -- a run of fewer marks than close the string stays as it is
      if run < most then '"' :: escapeBasic several most (run + 1) cs
      else '\\' :: '"' :: escapeBasic several most 0 cs
    else if c = '\\' then '\\' :: '\\' :: escapeBasic several most 0 cs
    else if c = '\x08' then '\\' :: 'b' :: escapeBasic several most 0 cs
    else if c = '\t' then '\\' :: 't' :: escapeBasic several most 0 cs
    else if c = '\n' then
      if several then '\n' :: escapeBasic several most 0 cs
      else '\\' :: 'n' :: escapeBasic several most 0 cs
    else if c = '\x0c' then '\\' :: 'f' :: escapeBasic several most 0 cs
    else if c = '\r' then '\\' :: 'r' :: escapeBasic several most 0 cs
    else if needsEscape c then '\\' :: 'u' :: escapeDigits c ++ escapeBasic several most 0 cs
    else c :: escapeBasic several most 0 cs

/-- The marks around a string, behind the opening ones a line end if the
string has one. -/
def enclose (mark : Char) (style : Style) (several : Bool) (body : List Char) : List Char :=
  if style.triple then
    triple mark ++ (if several then ['\n'] else []) ++ body ++ triple mark
  else mark :: body ++ [mark]

/-- A text as it is written. -/
def quote (cs : List Char) : List Char :=
  let style := styleFor cs
  let several := cs.contains '\n'
  if style.basic then
    enclose '"' style several (escapeBasic style.triple (if style.triple then 2 else 0) 0 cs)
  else enclose '\'' style several cs

example : quote "it's".toList = "\"it's\"".toList := by decide +kernel
example : quote "a\\b".toList = "'a\\b'".toList := by decide +kernel

end GcodeSender.Toml
