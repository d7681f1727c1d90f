import GcodeSender.Text.Hex
import Mathlib.Tactic.Common

/-!
# `GcodeSender.Proofs.Text.Hex`: hexadecimal digits read back

The digits of a number below `16 ^ 4` are read back as that number, in either case.
-/

set_option autoImplicit false

namespace GcodeSender.Text

/-- A digit as it is written is read as its value. -/
theorem hexDigit?_digitChar {d : Nat} (h : d < 16) : hexDigit? d.digitChar = some d := by
  revert d
  decide

/-- So is one in upper case. -/
theorem hexDigit?_toUpper {d : Nat} (h : d < 16) : hexDigit? d.digitChar.toUpper = some d := by
  revert d
  decide

/-- Four digits denote a number, in whatever way digits are written. -/
theorem readHex?_four {digit : Nat → Char} (hdigit : ∀ d < 16, hexDigit? (digit d) = some d)
    {n : Nat} (hn : n < 65536) (rest : List Char) :
    readHex? 4 0 ([n / 4096 % 16, n / 256 % 16, n / 16 % 16, n % 16].map digit ++ rest) =
      some (n, rest) := by
  have hread (k : Nat) : hexDigit? (digit (k % 16)) = some (k % 16) :=
    hdigit _ (Nat.mod_lt _ (by decide))
  simp only [List.map_cons, List.map_nil, List.cons_append, List.nil_append, readHex?, hread]
  congr 2
  omega

/-- Four digits are read as the number that they write, and the text behind them is left. -/
theorem readHex?_hexFour {n : Nat} (hn : n < 65536) (rest : List Char) :
    readHex? 4 0 (hexFour n ++ rest) = some (n, rest) :=
  readHex?_four (fun _ => hexDigit?_digitChar) hn rest

/-- So are four digits in upper case. -/
theorem readHex?_hexFour_toUpper {n : Nat} (hn : n < 65536) (rest : List Char) :
    readHex? 4 0 ((hexFour n).map Char.toUpper ++ rest) = some (n, rest) := by
  rw [hexFour, List.map_map]
  exact readHex?_four (fun _ => hexDigit?_toUpper) hn rest

end GcodeSender.Text
