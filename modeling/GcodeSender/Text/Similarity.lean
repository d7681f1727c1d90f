/-!
# `GcodeSender.Text.Similarity`: how alike two words are

A word that is not known may be a known one that was mistyped. Two
words are compared by the characters that they share at nearly the same
place: the more of each word these are, and the fewer of them stand in
another order, the more alike the words. `similarity` is a number
between zero and one, and one only for equal words; `alike` picks the
known words that are near enough to be suggested.
-/

set_option autoImplicit false

namespace GcodeSender.Text

/-- How far apart a character may stand in two words of the given
lengths and still count as shared. -/
def reach (m n : Nat) : Nat := max m n / 2 - 1

/-- The characters of a word that have a partner, each with its
partner's place. The word begins at place `i`. A character takes the
first equal one of `free`, the characters of the other word that have
no partner yet, within the given reach. -/
def partners (reach : Nat) : Nat → List Char → List (Char × Nat) → List (Char × Nat)
  | _, [], _ => []
  | i, c :: rest, free =>
    match free.find? fun (d, j) => c = d && i ≤ j + reach && j ≤ i + reach with
    | some (_, j) => (c, j) :: partners reach (i + 1) rest (free.filter (·.2 ≠ j))
    | none => partners reach (i + 1) rest free

/-- How many of two equally long sequences' places hold different
characters. -/
def mismatches : List Char → List Char → Nat
  | a :: as, b :: bs => (if a = b then 0 else 1) + mismatches as bs
  | _, _ => 0

/-- The similarity of two words: the mean of the shared part of the one,
the shared part of the other, and the part of the shared characters
that keep their order. -/
def similarity (a b : List Char) : Rat :=
  if a = [] ∧ b = [] then 1
  else
    let shared := partners (reach a.length b.length) 0 a b.zipIdx
    let mine := shared.map (·.1)
    let theirs := (b.zipIdx.filter fun (_, j) => shared.any (·.2 = j)).map (·.1)
    let m := shared.length
    -- two characters that changed places count as one
    let swapped := mismatches mine theirs / 2
    if m = 0 then 0
    else ((m : Rat) / a.length + (m : Rat) / b.length + ((m - swapped : Nat) : Rat) / m) / 3

/-- The known words that are like a given one, the most alike last. -/
def alike (word : String) (known : List String) : List String :=
  let rated := known.map fun k => (similarity word.toList k.toList, k)
  ((rated.filter fun (x, _) => 7 / 10 ≤ x).mergeSort fun x y => x.1 ≤ y.1).map (·.2)

example : similarity "ports".toList "ports".toList = 1 := by decide +kernel
example : similarity "port".toList "help".toList < 7 / 10 := by decide +kernel

end GcodeSender.Text
