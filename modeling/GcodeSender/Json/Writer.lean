import GcodeSender.Decimal.Shortest
import GcodeSender.Json.Strings
import GcodeSender.Json.Value

/-!
# `GcodeSender.Json.Writer`: writing JSON

A value is laid out with one member or element a line, indented by two
blanks a level; an empty array or object stays on its line. In a log, a
value is written in one line without blanks.
-/

set_option autoImplicit false

namespace GcodeSender.Json

/-- Doubles keep a fraction, and have an exponent below `1e-5` and from
`1e16` on. -/
def floatStyle : Decimal.FloatStyle := ⟨.even, true, some (-5, 15)⟩

/-- The number value of a natural number. -/
def Value.ofNat (n : Nat) : Value := .number (Decimal.digitChars n)

/-- The number value of a finite double. -/
def Value.ofFloat (x : Float) : Value := .number (floatStyle.spell x)

/-- A new line at the given level. -/
def newLine (level : Nat) : List Char := '\n' :: List.replicate (2 * level) ' '

/-- Items on lines of their own, with commas between them. -/
def itemLines (level : Nat) : List (List Char) → List Char
  | [] => []
  | [item] => newLine level ++ item
  | item :: rest => newLine level ++ item ++ ',' :: itemLines level rest

/-- A string value in quotes. One that is no text is written as a lone
unit. -/
def quoted : Option String → List Char
  | some s => quote s.toList
  | none => "\"\\ud800\"".toList

mutual

/-- A value at the given level. -/
def Value.layOut (level : Nat) : Value → List Char
  | .null => "null".toList
  | .truth b => if b then "true".toList else "false".toList
  | .number spelling => spelling
  | .string s => quoted s
  | .array [] => ['[', ']']
  | .array (v :: vs) => '[' :: itemLines (level + 1) (elementTexts (level + 1) (v :: vs))
      ++ newLine level ++ [']']
  | .object [] => ['{', '}']
  | .object (m :: ms) => '{' :: itemLines (level + 1) (memberTexts (level + 1) (m :: ms))
      ++ newLine level ++ ['}']

/-- The elements of an array. -/
def elementTexts (level : Nat) : List Value → List (List Char)
  | [] => []
  | v :: vs => v.layOut level :: elementTexts level vs

/-- The members of an object. -/
def memberTexts (level : Nat) : List (Option String × Value) → List (List Char)
  | [] => []
  | (key, v) :: ms => (quoted key ++ ':' :: ' ' :: v.layOut level) :: memberTexts level ms

end

/-- The text of a value. -/
def Value.write (v : Value) : List Char := v.layOut 0

/-- Items behind each other, with commas between them. -/
def itemsInLine : List (List Char) → List Char
  | [] => []
  | [item] => item
  | item :: rest => item ++ ',' :: itemsInLine rest

mutual

/-- The text of a value in one line. -/
def Value.writeInLine : Value → List Char
  | .null => "null".toList
  | .truth b => if b then "true".toList else "false".toList
  | .number spelling => spelling
  | .string s => quoted s
  | .array vs => '[' :: itemsInLine (elementsInLine vs) ++ [']']
  | .object ms => '\x7b' :: itemsInLine (membersInLine ms) ++ ['\x7d']

/-- The elements of an array, each in one line. -/
def elementsInLine : List Value → List (List Char)
  | [] => []
  | v :: vs => v.writeInLine :: elementsInLine vs

/-- The members of an object, each in one line. -/
def membersInLine : List (Option String × Value) → List (List Char)
  | [] => []
  | (key, v) :: ms => (quoted key ++ ':' :: v.writeInLine) :: membersInLine ms

end

end GcodeSender.Json
