import GcodeSender.Text.Shapeless

/-!
# `GcodeSender.Text.Quoted`: text in quotes for people to read

A quoted text shows where it begins and ends and what it holds: quotes
and backslashes have a backslash in front of them, the usual control
characters a letter, and every other character without a shape its
number.
-/

set_option autoImplicit false

namespace GcodeSender.Text

/-- The hexadecimal digits of a number, at least one. -/
def hexDigits (n : Nat) : List Char := Nat.toDigits 16 n

/-- A character by its number. -/
def numbered (c : Char) : List Char := ['\\', 'u', '\x7b'] ++ hexDigits c.toNat ++ ['\x7d']

/-- A character as it stands in quotes. -/
def quotedChar (c : Char) : List Char :=
  if c = '"' || c = '\\' then ['\\', c]
  else if c = '\n' then ['\\', 'n']
  else if c = '\r' then ['\\', 'r']
  else if c = '\t' then ['\\', 't']
  else if c = '\x00' then ['\\', '0']
  else if isShapeless c then numbered c
  else [c]

/-- A text in quotes. -/
def inQuotes (text : String) : String :=
  String.ofList ('"' :: text.toList.flatMap quotedChar ++ ['"'])

example : inQuotes "a\"b" = "\"a\\\"b\"" := by decide +kernel

end GcodeSender.Text
