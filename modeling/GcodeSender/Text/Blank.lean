/-!
# `GcodeSender.Text.Blank`: blank characters and trimming

Controllers end their lines with any mixture of carriage returns,
line feeds and spaces, and operators indent their programs. Everything
the library reads is therefore trimmed first. What counts as blank is
the Unicode property `White_Space`, not the ASCII subset that
`Char.isWhitespace` knows.

The functions work on `List Char`, where the library's lemmas about
`dropWhile` and `reverse` apply; `trimmed` is the same thing on
`String`.
-/

set_option autoImplicit false

namespace GcodeSender.Text

/-- Every character with the Unicode property `White_Space`, in code
point order. -/
def blanks : List Char :=
  ['\x09', '\x0a', '\x0b', '\x0c', '\x0d', '\x20', '\u0085', '\u00a0', '\u1680',
   '\u2000', '\u2001', '\u2002', '\u2003', '\u2004', '\u2005', '\u2006', '\u2007',
   '\u2008', '\u2009', '\u200a', '\u2028', '\u2029', '\u202f', '\u205f', '\u3000']

/-- A blank character: one of `blanks`. -/
def isBlank (c : Char) : Bool := blanks.contains c

/-- The text from its first character that is not blank. -/
def trimStart (cs : List Char) : List Char := cs.dropWhile isBlank

/-- The text up to its last character that is not blank. -/
def trimEnd (cs : List Char) : List Char := (cs.reverse.dropWhile isBlank).reverse

/-- The text without the blanks at its two ends. -/
def trim (cs : List Char) : List Char := trimEnd (trimStart cs)

/-- `trim` on strings. -/
def trimmed (s : String) : String := String.ofList (trim s.toList)

example : blanks.length = 25 := rfl
example : trimmed "\u00a0 ok \r\n" = "ok" := by decide

end GcodeSender.Text
