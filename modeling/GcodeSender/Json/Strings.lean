import GcodeSender.Text.Hex

/-!
# `GcodeSender.Json.Strings`: strings in quotes

Inside quotes a backslash introduces an escape, and characters below
the blank must be escaped. The escape `\u` gives one UTF-16 unit, so a
character above `U+FFFF` takes two of them; a unit without its partner
makes the string no text.

The writer escapes the quote, the backslash and what must be escaped,
with a letter where there is one.
-/

set_option autoImplicit false

namespace GcodeSender.Json

/-- One part of a string: a character, or a UTF-16 unit that was given
by number. -/
inductive Piece where
  | char (c : Char)
  | unit (u : Nat)
deriving DecidableEq, Repr

/-- The first of two units that make a character. -/
def isHighSurrogate (u : Nat) : Bool := 0xd800 ≤ u && u < 0xdc00

/-- The second of two units that make a character. -/
def isLowSurrogate (u : Nat) : Bool := 0xdc00 ≤ u && u < 0xe000

/-- The character of two units. -/
def paired (high low : Nat) : Char :=
  Char.ofNat (0x10000 + (high - 0xd800) * 0x400 + (low - 0xdc00))

/-- The text of a string's parts, unless a unit lacks its partner. -/
def text? : List Piece → Option (List Char)
  | [] => some []
  | .char c :: rest => (text? rest).map (c :: ·)
  | .unit u :: rest =>
    if isHighSurrogate u then
      -- the second unit of a pair must follow the first at once
      match rest with
      | .unit v :: rest =>
        if isLowSurrogate v then (text? rest).map (paired u v :: ·) else none
      | _ => none
    else if isLowSurrogate u then none
    else (text? rest).map (Char.ofNat u :: ·)

/-- The character that a letter behind a backslash stands for. -/
def escapeLetter? : Char → Option Char
  | '"' => some '"'
  | '\\' => some '\\'
  | '/' => some '/'
  | 'b' => some '\x08'
  | 'f' => some '\x0c'
  | 'n' => some '\n'
  | 'r' => some '\r'
  | 't' => some '\t'
  | _ => none

/-- Reads the parts of a string behind its opening quote, and what
follows the closing one. The index bounds the number of parts. -/
def readPieces : Nat → List Char → Option (List Piece × List Char)
  | 0, _ => none
  | _ + 1, [] => none
  | n + 1, c :: cs =>
    if c = '"' then some ([], cs)
    else if c = '\\' then
      match cs with
      | 'u' :: cs =>
        match Text.readHex? 4 0 cs with
        | some (u, cs) => (readPieces n cs).map fun (ps, rest) => (.unit u :: ps, rest)
        | none => none
      | letter :: cs =>
        match escapeLetter? letter with
        | some c => (readPieces n cs).map fun (ps, rest) => (.char c :: ps, rest)
        | none => none
      | [] => none
    -- a control character stands in a string only as an escape
    else if c < ' ' then none
    else (readPieces n cs).map fun (ps, rest) => (.char c :: ps, rest)

/-- Reads a string behind its opening quote: the text, if it is one, and
what follows. -/
def readString (cs : List Char) : Option (Option String × List Char) :=
  (readPieces (cs.length + 1) cs).map fun (ps, rest) => ((text? ps).map String.ofList, rest)

/-- A character as it is written inside quotes. -/
def escape (c : Char) : List Char :=
  if c = '"' then ['\\', '"']
  else if c = '\\' then ['\\', '\\']
  else if c = '\x08' then ['\\', 'b']
  else if c = '\x0c' then ['\\', 'f']
  else if c = '\n' then ['\\', 'n']
  else if c = '\r' then ['\\', 'r']
  else if c = '\t' then ['\\', 't']
  else if c < ' ' then '\\' :: 'u' :: Text.hexFour c.toNat
  else [c]

/-- A text in quotes. -/
def quote (cs : List Char) : List Char := '"' :: cs.flatMap escape ++ ['"']

example : readString "a\\ud83d\\ude00\"x".toList = some (some "a😀", ['x']) := by decide +kernel
example : quote "a\"\x01".toList = "\"a\\\"\\u0001\"".toList := by decide

end GcodeSender.Json
