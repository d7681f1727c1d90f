import GcodeSender.Proofs.Toml.Layout
import GcodeSender.Settings.Toml

/-!
# `GcodeSender.Proofs.Toml.Scalars`: spellings of single values

Texts, natural numbers below `2 ^ 63` and truth values as they are written, each with the proof
that it is read back. Digits alone are no date, because they hold no dash and no colon, and no
float, because they hold no point and no exponent.
-/

set_option autoImplicit false

namespace GcodeSender.Toml

/-! ## Natural numbers -/

variable {cs : List Char}

/-- Digits do not begin with a mark that is no digit. -/
theorem dropLeading?_of_digits {mark : Char} (hmark : mark.isDigit = false)
    (h : ∀ c ∈ cs, c.isDigit = true) : Text.dropLeading? [mark] cs = none := by
  cases cs with
  | nil => rfl
  | cons c cs =>
    have hc : mark ≠ c := by
      rintro rfl
      rw [h mark List.mem_cons_self] at hmark
      cases hmark
    rw [Text.dropLeading?, if_neg hc]

/-- What is left behind digits is of the text. -/
theorem mem_of_fixedDigits? {count n : Nat} {rest : List Char}
    (h : fixedDigits? count cs = some (n, rest)) : ∀ c ∈ rest, c ∈ cs := by
  simp only [fixedDigits?] at h
  split at h
  · cases h
    exact fun c hc => List.mem_of_mem_drop hc
  · cases h

/-- Digits are no date and no time. -/
theorem date?_of_digits (h : ∀ c ∈ cs, c.isDigit = true) : date? cs = none := by
  have hday : day? cs = none := by
    simp only [day?, Option.bind_eq_bind]
    rcases hyear : fixedDigits? 4 cs with - | ⟨year, rest⟩
    · rfl
    · have hrest := fun c hc => h c (mem_of_fixedDigits? hyear c hc)
      simp [dropLeading?_of_digits (show '-'.isDigit = false by decide) hrest]
  have hclock : clock? cs = none := by
    simp only [clock?, Option.bind_eq_bind, twoDigits?]
    rcases hhour : fixedDigits? 2 cs with - | ⟨hour, rest⟩
    · rfl
    · have hrest := fun c hc => h c (mem_of_fixedDigits? hhour c hc)
      dsimp only
      split
      · simp [dropLeading?_of_digits (show ':'.isDigit = false by decide) hrest]
      · rfl
  rw [date?, hday, hclock]

/-- Nothing but digits is read to the end. -/
theorem moreDigits_of_digits (h : ∀ c ∈ cs, c.isDigit = true) :
    moreDigits Char.isDigit cs = (cs, []) := by
  induction cs with
  | nil => rfl
  | cons c cs ih =>
    obtain ⟨hc, hcs⟩ := List.forall_mem_cons.mp h
    have hmark : c ≠ '_' := by
      rintro rfl
      cases hc
    simp [moreDigits, hmark, hc, ih hcs]

/-- The digits of a number are read as they are, since none begins with a zero that says nothing.
-/
theorem wholeDigits?_digitChars (n : Nat) :
    wholeDigits? (Decimal.digitChars n) = some (Decimal.digitChars n, []) := by
  rcases Decimal.digitChars_cases n with hzero | ⟨d, ds, hds, hd⟩
  · rw [hzero]
    rfl
  · have hdigits : ∀ c ∈ d :: ds, c.isDigit = true := by
      rw [← hds]
      exact fun c => Decimal.isDigit_of_mem_digitChars
    obtain ⟨hdigit, hrest⟩ := List.forall_mem_cons.mp hdigits
    rw [hds]
    simp [wholeDigits?, hd, digits?, hdigit, moreDigits_of_digits hrest]

/-- Digits have no sign. -/
theorem spanSign_digitChars (n : Nat) :
    Decimal.spanSign (Decimal.digitChars n) = (false, Decimal.digitChars n) := by
  obtain ⟨d, ds, hds, hd⟩ := Decimal.exists_digitChars_eq_cons n
  rw [hds]
  unfold Decimal.spanSign
  split
  · rename_i heq
    cases heq
    cases hd
  · rename_i heq
    cases heq
    cases hd
  · rfl

/-- Digits without a point or an exponent are no float. -/
theorem float?_digitChars (n : Nat) : float? (Decimal.digitChars n) = none := by
  have hplain : plainFloat? (Decimal.digitChars n) = none := by
    simp [plainFloat?, spanSign_digitChars, wholeDigits?_digitChars, places?, exponent?]
  have hspecial : specialFloat? (Decimal.digitChars n) = none := by
    obtain ⟨d, ds, hds, hd⟩ := Decimal.exists_digitChars_eq_cons n
    have hinf : 'i' ≠ d := by
      rintro rfl
      cases hd
    have hnan : 'n' ≠ d := by
      rintro rfl
      cases hd
    rw [specialFloat?, spanSign_digitChars, hds]
    simp [Text.dropLeading?, hinf, hnan]
  rw [float?, hplain, hspecial]

/-- The digits of a number below 2^63 are read as that number. -/
theorem integer?_digitChars {n : Nat} (hn : n < 1 <<< 63) :
    integer? (Decimal.digitChars n) = some ((n : Int), []) := by
  -- No mark of a base is a digit, so this is a decimal integer even where it begins with a zero.
  have hplain : ∀ mark ∈ ['x', 'o', 'b'], ¬ ['0', mark] <+: Decimal.digitChars n := by
    rintro mark hmark ⟨rest, hrest⟩
    have hdigit : mark.isDigit = true :=
      Decimal.isDigit_of_mem_digitChars (n := n) (by rw [← hrest]; simp)
    simp only [List.mem_cons, List.not_mem_nil, or_false] at hmark
    rcases hmark with rfl | rfl | rfl <;> cases hdigit
  have hrange : isInteger (n : Int) = true := by
    have hbound : n < 9223372036854775808 := hn
    simp only [isInteger, Bool.and_eq_true, decide_eq_true_eq]
    omega
  simp [integer?_eq_decimal? hplain, decimal?, spanSign_digitChars, wholeDigits?_digitChars,
    Decimal.digitsValue_digitChars, hrange]

/-- They are read as that number where a date could stand, too. -/
theorem numeral?_digitChars {n : Nat} (hn : n < 1 <<< 63) :
    numeral? (Decimal.digitChars n) = some (.integer n, []) := by
  rw [numeral?, date?_of_digits fun c => Decimal.isDigit_of_mem_digitChars, float?_digitChars,
    integer?_digitChars hn]
  rfl

/-! ## Spellings -/

/-- So they are where any value could stand. -/
theorem scalarValue?_digitChars {n : Nat} (hn : n < 1 <<< 63) :
    scalarValue? (Decimal.digitChars n) = some (.integer n, []) := by
  have hnumeral := numeral?_digitChars hn
  obtain ⟨d, ds, hds, hd⟩ := Decimal.exists_digitChars_eq_cons n
  rw [hds] at hnumeral ⊢
  have hquote : ¬(decide (d = '"') || decide (d = '\'')) = true := by
    simp only [Bool.or_eq_true, decide_eq_true_eq]
    rintro (rfl | rfl) <;> cases hd
  simp only [scalarValue?, hquote, hd, Bool.or_true, hnumeral]
  rfl

/-- A quoted text is read as the text. -/
theorem scalarValue?_quote (s : String) :
    scalarValue? (quote s.toList) = some (.string s, []) := by
  have hstring := string?_quote s.toList
  have hhead : ∃ c rest, quote s.toList = c :: rest ∧ (c = '"' ∨ c = '\'') := by
    simp only [quote, enclose]
    repeat' split
    all_goals first | exact ⟨_, _, rfl, .inl rfl⟩ | exact ⟨_, _, rfl, .inr rfl⟩
  obtain ⟨c, rest, hquote, hc⟩ := hhead
  rw [hquote] at hstring ⊢
  have hmark : (decide (c = '"') || decide (c = '\'')) = true := by simpa using hc
  simp [scalarValue?, hmark, hstring]

/-- A truth value is read as itself. -/
theorem scalarValue?_truth (b : Bool) :
    scalarValue? (if b then "true".toList else "false".toList) = some (.truth b, []) := by
  cases b <;> rfl

/-- The spelling of a single value, behind a blank. -/
def Spelling.ofScalar (text : List Char) (value : Value)
    (h : scalarValue? text = some (value, [])) : Spelling where
  text := ' ' :: text
  value := value
  reads := by
    obtain ⟨c, rest, rfl, hc⟩ := head_of_scalarValue? h
    obtain ⟨hblank, htab, -⟩ := hc.ne
    have harray : c ≠ '[' := by
      rintro rfl
      cases h
    have hbraced : c ≠ '\x7b' := by
      rintro rfl
      cases h
    have hskip : skipBlanks (' ' :: c :: rest) = c :: rest := skipBlanks_of_head ⟨hblank, htab⟩ rest
    rw [hskip, value?_of_scalar harray hbraced, h]

end GcodeSender.Toml
