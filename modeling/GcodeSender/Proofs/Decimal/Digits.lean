import GcodeSender.Decimal.Reader
import GcodeSender.Decimal.Shortest
import Mathlib.Data.List.DropRight
import Mathlib.Tactic.Common

/-!
# `GcodeSender.Proofs.Decimal.Digits`: the digits of a natural number

`digitChars` writes a natural number and `digitsValue` reads it. What is written is made of
digits, at least one, and begins with a zero only where it is nothing but that zero
(`digitChars_cases`), as the readers of numbers ask.
-/

set_option autoImplicit false

namespace GcodeSender.Decimal

/-- A number is written with digits alone. -/
theorem isDigit_of_mem_digitChars {n : Nat} {c : Char} (h : c ∈ digitChars n) :
    c.isDigit = true :=
  Nat.isDigit_of_mem_toDigits (by decide) (by decide) h

/-- Digits that were written denote the number. -/
theorem digitsValue_digitChars (n : Nat) : digitsValue 0 (digitChars n) = n :=
  Nat.ofDigitChars_ten_toDigits

/-- There is at least one of them. -/
theorem exists_digitChars_eq_cons (n : Nat) :
    ∃ d ds, digitChars n = d :: ds ∧ d.isDigit = true := by
  cases hds : digitChars n with
  | nil => exact absurd hds Nat.toDigits_ne_nil
  | cons d ds =>
    refine ⟨d, ds, rfl, isDigit_of_mem_digitChars (n := n) ?_⟩
    rw [hds]
    exact List.mem_cons_self

/-- Only zero begins with the digit zero. -/
theorem head?_digitChars_ne {n : Nat} (h : 0 < n) : (digitChars n).head? ≠ some '0' := by
  -- The first digit is that of a tenth of the number, as long as the number has more than one.
  induction n using Nat.strongRecOn with
  | ind n ih =>
    rw [digitChars, Nat.toDigits_eq_if (by decide)]
    split
    · rename_i hlt
      have hdigits : ∀ d < 10, 0 < d → [d.digitChar].head? ≠ some '0' := by decide
      exact hdigits n hlt h
    · rename_i hle
      have hhead := ih (n / 10) (by omega) (by omega)
      obtain ⟨d, ds, hds, -⟩ := exists_digitChars_eq_cons (n / 10)
      rw [hds] at hhead
      rw [← digitChars, hds]
      exact hhead

/-- A number is written as a single zero, or with a first digit that is none. -/
theorem digitChars_cases (n : Nat) :
    digitChars n = ['0'] ∨ ∃ d ds, digitChars n = d :: ds ∧ d ≠ '0' := by
  rcases Nat.eq_zero_or_pos n with rfl | h
  · exact .inl (Nat.toDigits_zero 10)
  · obtain ⟨d, ds, hds, -⟩ := exists_digitChars_eq_cons n
    refine .inr ⟨d, ds, hds, fun hd => head?_digitChars_ne h ?_⟩
    rw [hds, hd]
    rfl

/-- Digits end where a text begins that does not begin with one. -/
theorem spanDigits_append (cs : List Char) {rest : List Char}
    (hrest : ∀ c ∈ rest.head?, c.isDigit = false) :
    spanDigits (cs ++ rest) = ((spanDigits cs).1, (spanDigits cs).2 ++ rest) := by
  have hstop : rest.takeWhile Char.isDigit = [] ∧ rest.dropWhile Char.isDigit = rest := by
    cases rest with
    | nil => exact ⟨rfl, rfl⟩
    | cons c rest => simp [hrest c rfl]
  induction cs with
  | nil => simp [spanDigits, hstop]
  | cons c cs ih =>
    simp only [spanDigits, Prod.mk.injEq] at ih
    cases hc : c.isDigit with
    | true => simp [spanDigits, hc, ih]
    | false => simp [spanDigits, hc]

/-- Nothing but digits is taken whole. -/
theorem spanDigits_digitChars (n : Nat) : spanDigits (digitChars n) = (digitChars n, []) := by
  have hdigits : ∀ c ∈ digitChars n, c.isDigit = true := fun c => isDigit_of_mem_digitChars
  rw [spanDigits, List.takeWhile_eq_self_iff.mpr hdigits, List.dropWhile_eq_nil_iff.mpr hdigits]

/-- The sign of a text is the sign of what the text begins with. -/
theorem spanSign_append {cs : List Char} (hcs : cs ≠ []) (rest : List Char) :
    spanSign (cs ++ rest) = ((spanSign cs).1, (spanSign cs).2 ++ rest) := by
  obtain ⟨c, cs, rfl⟩ := List.exists_cons_of_ne_nil hcs
  rw [List.cons_append, spanSign.eq_def, spanSign.eq_def]
  split <;> simp_all

end GcodeSender.Decimal
