import GcodeSender.Proofs.Decimal.Digits
import GcodeSender.Toml.Reader
import Mathlib.Data.List.DropRight
import Mathlib.Tactic.Common

/-!
# `GcodeSender.Proofs.Toml.Locality`: later lines do not matter

A key or a value that can be read alone is read in the same way at the beginning of a longer
text, if that goes on with the next line: `key?_append`, `value?_append`.

Numbers and dates end where the line ends, whether they can be read or not, so what is read of
them is what was read without the later lines (`Ends`). A string ends with its own mark, and
an array or a table in braces with its bracket, so nothing is said of them where that is
missing.
-/

set_option autoImplicit false

namespace GcodeSender.Toml

/-! ## What ends with its line -/

/-- The reading of a text that goes on with the next line. -/
def goesOn {α : Type} (later : List Char) (r : Option (α × List Char)) :
    Option (α × List Char) :=
  r.map fun (x, rest) => (x, rest ++ '\n' :: later)

/-- A reader that takes nothing of the next line, and needs nothing of it to fail. -/
def Ends {α : Type} (read : List Char → Option (α × List Char)) : Prop :=
  ∀ cs later, read (cs ++ '\n' :: later) = goesOn later (read cs)

variable {α β : Type} {cs later rest : List Char}

/-- What cannot be read cannot be read with more lines either. -/
@[simp] theorem goesOn_none : goesOn later (none : Option (α × List Char)) = none := rfl

/-- What is left of a text that goes on goes on in the same way. -/
@[simp] theorem goesOn_some (x : α) :
    goesOn later (some (x, rest)) = some (x, rest ++ '\n' :: later) := rfl

/-- A reader of what has no value, of which the same holds. -/
def Closes (read : List Char → Option (List Char)) : Prop :=
  ∀ cs later, read (cs ++ '\n' :: later) = (read cs).map (· ++ '\n' :: later)

/-- A value and then what ends with the line end with the line. -/
theorem Ends.closes {read : List Char → Option (α × List Char)}
    {next : α → List Char → Option (List Char)} (h : Ends read) (hnext : ∀ x, Closes (next x)) :
    Closes fun cs => (read cs).bind fun p => next p.1 p.2 := by
  intro cs later
  dsimp only
  rw [h cs later]
  rcases read cs with - | ⟨x, rest⟩
  · rfl
  · exact hnext x rest later

/-- Two readers in a row end with the line if both do. -/
theorem Closes.closes {read next : List Char → Option (List Char)} (h : Closes read)
    (hnext : Closes next) : Closes fun cs => (read cs).bind next := by
  intro cs later
  dsimp only
  rw [h cs later]
  rcases read cs with - | rest
  · rfl
  · exact hnext rest later

/-- Reading nothing needs nothing of the next line. -/
theorem closes_some : Closes some := fun _ _ => rfl

/-- What is taken up to a character that stops it is taken of the text before. -/
theorem takeWhile_stop {p : Char → Bool} {stop : Char} (h : p stop = false) :
    (cs ++ stop :: later).takeWhile p = cs.takeWhile p := by
  induction cs with
  | nil => simp [h]
  | cons c cs ih =>
    rw [List.cons_append, List.takeWhile_cons, List.takeWhile_cons, ih]

/-- What is left begins at the latest at the character that stops it. -/
theorem dropWhile_stop {p : Char → Bool} {stop : Char} (h : p stop = false) :
    (cs ++ stop :: later).dropWhile p = cs.dropWhile p ++ stop :: later := by
  induction cs with
  | nil => simp [h]
  | cons c cs ih =>
    rw [List.cons_append, List.dropWhile_cons, List.dropWhile_cons, ih]
    split <;> rfl

/-- A word without a line feed is found on the line, or not at all. -/
theorem dropLeading?_append {word : List Char} (hword : '\n' ∉ word) :
    Closes (Text.dropLeading? word) := by
  intro cs later
  induction word generalizing cs with
  | nil => rfl
  | cons c word ih =>
    simp only [List.mem_cons, not_or] at hword
    cases cs with
    | nil => simp [Text.dropLeading?, Ne.symm hword.1]
    | cons d cs =>
      simp only [List.cons_append, Text.dropLeading?]
      split
      · exact ih hword.2 cs
      · rfl

/-- A sign is on the line, or there is none. -/
theorem spanSign_append : Decimal.spanSign (cs ++ '\n' :: later) =
    ((Decimal.spanSign cs).1, (Decimal.spanSign cs).2 ++ '\n' :: later) := by
  cases cs with
  | nil => rfl
  | cons c cs => exact Decimal.spanSign_append (List.cons_ne_nil c cs) _

/-- Digits after the first one end with the line. -/
theorem moreDigits_append {isDigit : Char → Bool} (hline : isDigit '\n' = false)
    (hscore : isDigit '_' = false) (cs later : List Char) :
    moreDigits isDigit (cs ++ '\n' :: later) =
      ((moreDigits isDigit cs).1, (moreDigits isDigit cs).2 ++ '\n' :: later) := by
  -- An underline is taken only with a digit behind it, and a line end is none. So one at the end
  -- of the line stays where it is, which is the last case but one.
  fun_induction moreDigits isDigit cs with
  | case1 c cs hc ds rest hrest ih => simp [moreDigits, hc, ih, hrest]
  | case2 c cs hc => simp [moreDigits, hc]
  | case3 c cs hcs hc ds rest hrest ih =>
    have hne : c ≠ '_' := by
      rintro rfl
      rw [hscore] at hc
      cases hc
    simp [moreDigits, hc, ih, hrest, hne]
  | case4 c cs hcs hc =>
    by_cases hmark : c = '_'
    · subst hmark
      cases cs with
      | nil => simp [moreDigits, hline]
      | cons d cs => exact absurd rfl (hcs d cs rfl)
    · simp [moreDigits, hc, hmark]
  | case5 => simp [moreDigits, hline]

/-- A run of digits ends with the line, whichever digits they are. -/
theorem digits?_append {isDigit : Char → Bool} (hline : isDigit '\n' = false)
    (hscore : isDigit '_' = false) : Ends (digits? isDigit) := by
  intro cs later
  cases cs with
  | nil => simp [digits?, hline]
  | cons c cs =>
    simp only [digits?, List.cons_append, moreDigits_append hline hscore]
    split <;> rfl

/-- A run of decimal digits ends with the line. -/
theorem decimalDigits?_append : Ends (digits? Char.isDigit) := digits?_append rfl rfl

/-- So do digits without a zero before them. -/
theorem wholeDigits?_append : Ends wholeDigits? := by
  intro cs later
  cases cs with
  | nil => rfl
  | cons c cs =>
    by_cases hzero : c = '0'
    · subst hzero
      rfl
    · have hdigits := decimalDigits?_append (c :: cs) later
      rw [List.cons_append] at hdigits ⊢
      simpa [wholeDigits?, hzero] using hdigits

/-- So do the places behind a point. -/
theorem places?_append : Ends places? := by
  intro cs later
  cases cs with
  | nil => rfl
  | cons c cs =>
    by_cases hpoint : c = '.'
    · subst hpoint
      simp only [places?, List.cons_append, decimalDigits?_append cs later]
      rcases digits? Char.isDigit cs with - | ⟨ds, rest⟩ <;> rfl
    · simp [places?, hpoint]

/-- So does an exponent. -/
theorem exponent?_append : Ends exponent? := by
  intro cs later
  cases cs with
  | nil => rfl
  | cons c cs =>
    simp only [exponent?, List.cons_append, spanSign_append,
      decimalDigits?_append (Decimal.spanSign cs).2 later]
    split
    · rcases digits? Char.isDigit (Decimal.spanSign cs).2 with - | ⟨ds, rest⟩ <;> rfl
    · rfl

/-- So does a float in digits. -/
theorem plainFloat?_append : Ends plainFloat? := by
  intro cs later
  simp only [plainFloat?, spanSign_append, Option.bind_eq_bind,
    wholeDigits?_append (Decimal.spanSign cs).2 later]
  -- the parts are read one after the other, and each is local
  rcases wholeDigits? (Decimal.spanSign cs).2 with - | ⟨whole, cs₁⟩
  · rfl
  simp only [goesOn_some, Option.bind_some, places?_append cs₁ later]
  rcases places? cs₁ with - | ⟨places, cs₂⟩
  · rfl
  simp only [goesOn_some, Option.bind_some, exponent?_append cs₂ later]
  rcases exponent? cs₂ with - | ⟨exponent, cs₃⟩
  · rfl
  simp only [goesOn_some, Option.bind_some]
  split
  · rfl
  · split <;> rfl

/-- So does the name of an infinity, or of what is no number. -/
theorem specialFloat?_append : Ends specialFloat? := by
  intro cs later
  simp only [specialFloat?, spanSign_append]
  rw [dropLeading?_append (by decide) _ later, dropLeading?_append (by decide) _ later]
  rcases Text.dropLeading? "inf".toList (Decimal.spanSign cs).2 with - | rest
  · rcases Text.dropLeading? "nan".toList (Decimal.spanSign cs).2 with - | rest
    · rfl
    · simp [goesOn, Function.comp_def]
  · simp [goesOn, Function.comp_def]

/-- So does any float. -/
theorem float?_append : Ends float? := by
  intro cs later
  simp only [float?, plainFloat?_append cs later, specialFloat?_append cs later]
  rcases plainFloat? cs with - | ⟨x, rest⟩ <;> rfl

/-- The digits of a number in another base end with the line. -/
theorem based?_append (base : Nat) {isDigit : Char → Bool} (hline : isDigit '\n' = false)
    (hscore : isDigit '_' = false) : Ends (based? base isDigit) := by
  intro cs later
  simp only [based?, digits?_append hline hscore cs later]
  rcases digits? isDigit cs with - | ⟨ds, rest⟩
  · rfl
  · simp only [goesOn_some]
    split <;> rfl

/-- So do those of a decimal one. -/
theorem decimal?_append : Ends decimal? := by
  intro cs later
  simp only [decimal?, spanSign_append, wholeDigits?_append (Decimal.spanSign cs).2 later]
  rcases wholeDigits? (Decimal.spanSign cs).2 with - | ⟨ds, rest⟩
  · rfl
  · simp only [goesOn_some]
    generalize (if (Decimal.spanSign cs).1 = true then -(Decimal.digitsValue 0 ds : Int) else
      (Decimal.digitsValue 0 ds : Int)) = n
    split <;> rfl

/-- Without the mark of another base, an integer is decimal. -/
theorem integer?_eq_decimal? {cs : List Char}
    (h : ∀ mark ∈ ['x', 'o', 'b'], ¬ ['0', mark] <+: cs) : integer? cs = decimal? cs := by
  unfold integer?
  split
  · exact absurd ⟨_, rfl⟩ (h 'x' (by decide))
  · exact absurd ⟨_, rfl⟩ (h 'o' (by decide))
  · exact absurd ⟨_, rfl⟩ (h 'b' (by decide))
  · rfl

/-- So does any integer. -/
theorem integer?_append : Ends integer? := by
  intro cs later
  by_cases hmark : ∃ mark ∈ ['x', 'o', 'b'], ['0', mark] <+: cs
  · obtain ⟨mark, hmark, rest, rfl⟩ := hmark
    simp only [List.mem_cons, List.not_mem_nil, or_false] at hmark
    rcases hmark with rfl | rfl | rfl
    · exact based?_append 16 (by decide) (by decide) rest later
    · exact based?_append 8 (by decide) (by decide) rest later
    · exact based?_append 2 (by decide) (by decide) rest later
  · have hplain : ∀ mark ∈ ['x', 'o', 'b'], ¬ ['0', mark] <+: cs := fun mark hmem hcs =>
      hmark ⟨mark, hmem, hcs⟩
    -- the end of the line is no mark, so none comes about by going on
    have hlonger : ∀ mark ∈ ['x', 'o', 'b'], ¬ ['0', mark] <+: cs ++ '\n' :: later := by
      intro mark hmem
      match cs, hplain mark hmem with
      | [], _ => simp
      | [c], _ =>
        rintro ⟨rest, hrest⟩
        cases hrest
        simp at hmem
      | c :: d :: cs, hcs => simpa using hcs
    rw [integer?_eq_decimal? hlonger, integer?_eq_decimal? hplain, decimal?_append]

/-! ### Dates -/

/-- So do digits of which the number is fixed. -/
theorem fixedDigits?_append (count : Nat) : Ends (fixedDigits? count) := by
  intro cs later
  simp only [fixedDigits?]
  rcases Nat.lt_or_ge cs.length count with hshort | hlong
  · -- Too few characters are left on the line, so its end would be one of the digits.
    have hends : '\n' ∈ (cs ++ '\n' :: later).take count := by
      obtain ⟨more, rfl⟩ : ∃ more, count = cs.length + (more + 1) :=
        ⟨count - cs.length - 1, by omega⟩
      rw [List.take_length_add_append]
      exact List.mem_append_right _ (by simp)
    have hall : ((cs ++ '\n' :: later).take count).all Char.isDigit = false :=
      List.all_eq_false.mpr ⟨'\n', hends, by decide⟩
    have hlength : (cs.take count).length ≠ count := by
      rw [List.length_take]
      omega
    rw [hall, Bool.and_false, decide_eq_false hlength, Bool.false_and]
    rfl
  · rw [List.take_append_of_le_length hlong, List.drop_append_of_le_length hlong]
    split <;> rfl

/-- So do two digits within bounds. -/
theorem twoDigits?_append (least most : Nat) : Ends (twoDigits? least most) := by
  intro cs later
  simp only [twoDigits?, fixedDigits?_append 2 cs later]
  rcases fixedDigits? 2 cs with - | ⟨n, rest⟩
  · rfl
  · simp only [goesOn_some]
    split <;> rfl

/-- So do the parts of a second. -/
theorem secondFraction?_append : Closes secondFraction? := by
  intro cs later
  cases cs with
  | nil => rfl
  | cons c cs =>
    by_cases hpoint : c = '.'
    · subst hpoint
      simp only [secondFraction?, List.cons_append]
      rw [Decimal.spanDigits_append cs (by rintro d ⟨⟩; rfl)]
      rcases Decimal.spanDigits cs with ⟨- | ⟨d, ds⟩, rest⟩ <;> rfl
    · simp [secondFraction?, hpoint]

/-- The dash of a date is on the line, or there is none. -/
theorem dash_append : Closes (Text.dropLeading? ['-']) := dropLeading?_append (by decide)

/-- So is the colon of a time. -/
theorem colon_append : Closes (Text.dropLeading? [':']) := dropLeading?_append (by decide)

/-- A day ends with the line. -/
theorem day?_append : Closes day? :=
  (fixedDigits?_append 4).closes fun year => dash_append.closes <|
    (twoDigits?_append 1 12).closes fun month => dash_append.closes <|
      (twoDigits?_append 1 (daysIn year month)).closes fun _ => closes_some

/-- So does a time of day. -/
theorem clock?_append : Closes clock? :=
  (twoDigits?_append 0 23).closes fun _ => colon_append.closes <|
    (twoDigits?_append 0 59).closes fun _ => colon_append.closes <|
      (twoDigits?_append 0 60).closes fun _ => secondFraction?_append

/-- So does an offset. -/
theorem offset?_append : Closes offset? := by
  have hclock : Closes fun cs => (twoDigits? 0 23 cs).bind fun p =>
      (Text.dropLeading? [':'] p.2).bind fun cs => (twoDigits? 0 59 cs).bind fun p => some p.2 :=
    (twoDigits?_append 0 23).closes fun _ => colon_append.closes <|
      (twoDigits?_append 0 59).closes fun _ => closes_some
  intro cs later
  cases cs with
  | nil => rfl
  | cons c cs =>
    unfold offset?
    split
    · rename_i heq
      cases heq
    · rename_i heq
      cases heq
      -- `Z` alone, or a sign with a clock behind it
      dsimp only
      split
      · rfl
      split
      · exact hclock cs later
      · rfl

/-- So does a time of day behind a day, with what stands between. -/
theorem clockBehindDay?_append : Closes clockBehindDay? := by
  intro cs later
  cases cs with
  | nil => rfl
  | cons c cs =>
    simp only [clockBehindDay?, List.cons_append, clock?_append cs later]
    split
    · rcases clock? cs with - | rest
      · rfl
      · exact offset?_append rest later
    · rfl

/-- So does a date or a time of any kind. -/
theorem date?_append : Closes date? := by
  intro cs later
  simp only [date?, day?_append cs later, clock?_append cs later]
  rcases day? cs with - | rest
  · rfl
  · exact clockBehindDay?_append rest later

/-- A number or a date ends with its line. -/
theorem numeral?_append : Ends numeral? := by
  intro cs later
  simp only [numeral?, date?_append cs later, float?_append cs later, integer?_append cs later]
  rcases date? cs with - | rest
  · rcases float? cs with - | ⟨x, rest⟩
    · rcases integer? cs with - | ⟨n, rest⟩ <;> rfl
    · rfl
  · rfl

/-! ## What ends with a mark of its own -/

variable {more : List Char}

/-- Digits of a fixed number that are there are read in the same way in a longer text. -/
theorem readHex?_append {count value n : Nat} (h : Text.readHex? count value cs = some (n, rest)) :
    Text.readHex? count value (cs ++ more) = some (n, rest ++ more) := by
  induction count generalizing value cs with
  | zero =>
    cases h
    rfl
  | succ count ih =>
    cases cs with
    | nil => cases h
    | cons c cs =>
      simp only [Text.readHex?, List.cons_append] at h ⊢
      split at h
      · exact ih h
      · cases h

/-- An escaped character is read in the same way in a longer text. -/
theorem escape?_append {c : Char} (h : escape? cs = some (c, rest)) :
    escape? (cs ++ more) = some (c, rest ++ more) := by
  unfold escape? at h
  split at h
  -- an escape with digits takes as many of them as it needs
  case h_8 | h_9 =>
    split at h
    · rename_i n cs' hhex
      rw [Option.map_eq_some_iff] at h
      obtain ⟨d, hd, hpair⟩ := h
      cases hpair
      simp [escape?, readHex?_append hhex, hd]
    · cases h
  case h_10 => cases h
  all_goals
    cases h
    rfl

/-- What begins an escape is a letter or a mark, and neither a blank nor the end of a line. -/
theorem head_of_escape? {c : Char} (h : escape? cs = some (c, rest)) :
    ∃ letter cs', cs = letter :: cs' ∧ letter ∉ [' ', '\t', '\n', '\r'] := by
  unfold escape? at h
  split at h
  case h_10 => cases h
  all_goals exact ⟨_, _, rfl, by decide⟩

/-- A string in quotes is read in the same way in a longer text, since its closing quote is there.
-/
theorem readBasic_append {n m : Nat} {text : List Char} (h : readBasic n cs = some (text, rest))
    (hnm : n ≤ m) : readBasic m (cs ++ more) = some (text, rest ++ more) := by
  -- The index is the length of what is read, so the longer text comes with a larger one.
  induction n generalizing m cs text with
  | zero => cases h
  | succ n ih =>
    obtain ⟨m, rfl⟩ := Nat.exists_eq_add_of_le' (Nat.le_trans (Nat.le_add_left 1 n) hnm)
    have hm : n ≤ m := Nat.le_of_succ_le_succ hnm
    cases cs with
    | nil => cases h
    | cons c cs =>
      simp only [readBasic, List.cons_append] at h ⊢
      split at h
      · rename_i hquote
        cases h
        rw [if_pos hquote]
      rename_i hquote
      rw [if_neg hquote]
      split at h
      · rename_i hslash
        rw [if_pos hslash]
        split at h
        · rename_i c' cs' hescape
          obtain ⟨⟨text, rest⟩, htext, hpair⟩ := Option.map_eq_some_iff.mp h
          cases hpair
          simp [escape?_append hescape, ih htext hm]
        · cases h
      rename_i hslash
      rw [if_neg hslash]
      split at h
      · rename_i hvisible
        obtain ⟨⟨text, rest⟩, htext, hpair⟩ := Option.map_eq_some_iff.mp h
        cases hpair
        simp [hvisible, ih htext hm]
      · cases h

/-- So is a literal one. -/
theorem readLiteral_append {text : List Char} (h : readLiteral cs = some (text, rest)) :
    readLiteral (cs ++ more) = some (text, rest ++ more) := by
  induction cs generalizing text with
  | nil => cases h
  | cons c cs ih =>
    simp only [readLiteral, List.cons_append] at h ⊢
    -- the quote ends the string, any visible character goes on with it
    split at h
    · rename_i hmark
      cases h
      rw [if_pos hmark]
    rename_i hmark
    rw [if_neg hmark]
    split at h
    · rename_i hvisible
      obtain ⟨⟨text, rest⟩, htext, hpair⟩ := Option.map_eq_some_iff.mp h
      cases hpair
      simp [hvisible, ih htext]
    · cases h

/-! ### Strings of several lines -/

/-- A character that is no line feed and no carriage return does not end a line. -/
theorem lineEnd?_of_ne {c : Char} (hfeed : c ≠ '\n') (hreturn : c ≠ '\r') (cs : List Char) :
    lineEnd? (c :: cs) = none := by
  simp [lineEnd?, hfeed, hreturn]

/-- An end of a line that is there is one in a longer text. -/
theorem lineEnd?_append (h : lineEnd? cs = some rest) :
    lineEnd? (cs ++ more) = some (rest ++ more) := by
  unfold lineEnd? at h
  split at h
  · cases h
    rfl
  · cases h
    rfl
  · cases h

/-- Nothing but a carriage return at its end makes a text begin with a line end by going on. -/
theorem lineEnd?_append_none (h : lineEnd? cs = none) (hempty : cs ≠ []) (hreturn : cs ≠ ['\r']) :
    lineEnd? (cs ++ more) = none := by
  match cs with
  | [] => exact absurd rfl hempty
  | [c] =>
    by_cases hfeed : c = '\n'
    · subst hfeed
      cases h
    · have hother : c ≠ '\r' := fun hc => hreturn (by rw [hc])
      unfold lineEnd?
      split <;> simp_all
  | c :: d :: cs =>
    unfold lineEnd? at h ⊢
    split at h <;> simp_all

/-- Blanks end before a character that is there. -/
theorem skipBlanks_append (h : skipBlanks cs ≠ []) :
    skipBlanks (cs ++ more) = skipBlanks cs ++ more := by
  rw [skipBlanks, List.dropWhile_append, if_neg (by simpa [skipBlanks] using h), skipBlanks]

/-- There is nothing to skip before a character that is not blank. -/
theorem skipBlanks_of_head {c : Char} (h : c ≠ ' ' ∧ c ≠ '\t') (cs : List Char) :
    skipBlanks (c :: cs) = c :: cs :=
  List.dropWhile_cons_of_neg (by simp [h])

/-- A backslash in front of an escape is not at the end of a line. -/
theorem joinedLine?_of_escape? {c : Char} (h : escape? cs = some (c, rest)) :
    joinedLine? (cs ++ more) = none := by
  obtain ⟨letter, cs', rfl, hletter⟩ := head_of_escape? h
  simp only [List.mem_cons, List.not_mem_nil, or_false, not_or] at hletter
  obtain ⟨hblank, htab, hfeed, hreturn⟩ := hletter
  rw [joinedLine?, List.cons_append, skipBlanks_of_head ⟨hblank, htab⟩]
  unfold lineEnd?
  split <;> simp_all

/-- The end of a line takes at least one character. -/
theorem length_lt_of_lineEnd? (h : lineEnd? cs = some rest) : rest.length < cs.length := by
  unfold lineEnd? at h
  split at h
  · cases h
    exact Nat.lt_succ_self _
  · cases h
    exact Nat.lt_succ_of_lt (Nat.lt_succ_self _)
  · cases h

/-- A blank between lines is skipped. -/
theorem skipLines_of_blank {c : Char} (h : c = ' ' ∨ c = '\t') (n : Nat) (cs : List Char) :
    skipLines (n + 1) (c :: cs) = skipLines n cs := by
  rcases h with rfl | rfl <;> rfl

/-- Another character is skipped only if it ends a line. -/
theorem skipLines_of_solid {c : Char} (h : ¬(c = ' ' ∨ c = '\t')) (n : Nat) (cs : List Char) :
    skipLines (n + 1) (c :: cs) = match lineEnd? (c :: cs) with
      | some cs => skipLines n cs
      | none => c :: cs := by
  conv_lhs => unfold skipLines
  split
  · rename_i heq
    cases heq
    exact absurd (.inl rfl) h
  · rename_i heq
    cases heq
    exact absurd (.inr rfl) h
  · rfl

/-- Skipping ends in front of a character that is not skipped. -/
theorem skipLines_append {n m : Nat} (hn : cs.length ≤ n) (hm : n ≤ m)
    (hempty : skipLines n cs ≠ []) (hreturn : skipLines n cs ≠ ['\r']) :
    skipLines m (cs ++ more) = skipLines n cs ++ more := by
  -- The index covers the text, or skipping could end in the middle of the blanks.
  induction n generalizing cs m with
  | zero => exact absurd (List.length_eq_zero_iff.mp (Nat.le_zero.mp hn)) hempty
  | succ n ih =>
    obtain ⟨m, rfl⟩ := Nat.exists_eq_add_of_le' (Nat.le_trans (Nat.le_add_left 1 n) hm)
    have hm : n ≤ m := Nat.le_of_succ_le_succ hm
    cases cs with
    | nil => exact absurd rfl hempty
    | cons c cs =>
      by_cases hblank : c = ' ' ∨ c = '\t'
      · rw [skipLines_of_blank hblank] at hempty hreturn ⊢
        rw [List.cons_append, skipLines_of_blank hblank]
        exact ih (Nat.le_of_succ_le_succ hn) hm hempty hreturn
      · rw [skipLines_of_solid hblank] at hempty hreturn ⊢
        rw [List.cons_append, skipLines_of_solid hblank, ← List.cons_append]
        cases hend : lineEnd? (c :: cs) with
        | some after =>
          rw [hend] at hempty hreturn
          rw [lineEnd?_append hend]
          have hshort := length_lt_of_lineEnd? hend
          exact ih (by omega) hm hempty hreturn
        | none =>
          rw [hend] at hreturn
          rw [lineEnd?_append_none hend (List.cons_ne_nil c cs) hreturn]

/-- A line that is joined to the next one is joined in a longer text too, unless what is left is
empty or a carriage return that a line feed might complete. -/
theorem joinedLine?_append (h : joinedLine? cs = some rest) (hempty : rest ≠ [])
    (hreturn : rest ≠ ['\r']) : joinedLine? (cs ++ more) = some (rest ++ more) := by
  obtain ⟨after, hafter, rfl⟩ := Option.map_eq_some_iff.mp h
  have hblanks : skipBlanks cs ≠ [] := by
    intro hnil
    rw [hnil] at hafter
    cases hafter
  rw [joinedLine?, skipBlanks_append hblanks, lineEnd?_append hafter, Option.map_some,
    skipLines_append (Nat.le_refl _) (by simp) hempty hreturn]

/-- Marks that end a string end it whatever follows, unless that is one more of them. -/
theorem closing?_append {mark : Char} (hmark : mark ≠ '\n') :
    Ends (closing? mark) := by
  intro cs later
  have hstop : decide ('\n' = mark) = false := decide_eq_false (Ne.symm hmark)
  have hrun : (cs.takeWhile (· = mark)).length ≤ cs.length := (List.takeWhile_sublist _).length_le
  simp only [closing?, takeWhile_stop (p := (decide <| · = mark)) hstop]
  split
  · rfl
  · rw [List.drop_append_of_le_length (by omega)]
    rfl

/-- A string of several lines needs its closing mark. -/
theorem readLines_nil (basic : Bool) (mark : Char) (n : Nat) :
    readLines basic mark n [] = none := by
  cases n with
  | zero => rfl
  | succ n => rfl

/-- A carriage return alone closes no string. -/
theorem readLines_return (basic : Bool) (mark : Char) (n : Nat) :
    readLines basic mark n ['\r'] = none := by
  cases n with
  | zero => rfl
  | succ n =>
    have hrun : (['\r'].takeWhile (· = mark)).length ≤ 1 :=
      (List.takeWhile_sublist _).length_le
    have hclosing : closing? mark ['\r'] = none := if_pos (by omega)
    rw [readLines, hclosing]
    rfl

/-- Such a string goes on with its closing marks or a line end, with a backslash that joins the
next line or begins an escape, or with a character that stands for itself. -/
theorem readLines_cases {basic : Bool} {mark : Char} {n : Nat} {text : List Char}
    (h : readLines basic mark (n + 1) cs = some (text, rest)) :
    closing? mark cs = some (text, rest) ∨ closing? mark cs = none ∧
      ((∃ after text', lineEnd? cs = some after ∧
          readLines basic mark n after = some (text', rest) ∧ text = '\n' :: text') ∨
        (∃ more after, cs = '\\' :: more ∧ basic = true ∧ joinedLine? more = some after ∧
          readLines basic mark n after = some (text, rest)) ∨
        (∃ more d after text', cs = '\\' :: more ∧ basic = true ∧ escape? more = some (d, after) ∧
          readLines basic mark n after = some (text', rest) ∧ text = d :: text') ∨
        ∃ c more text', cs = c :: more ∧ isVisible c = true ∧ (c ≠ '\\' ∨ basic = false) ∧
          readLines basic mark n more = some (text', rest) ∧ text = c :: text') := by
  simp only [readLines] at h
  split at h
  · rename_i hclosing
    cases h
    exact .inl hclosing
  rename_i hclosing
  refine .inr ⟨hclosing, ?_⟩
  -- the end of a line stands for itself
  split at h
  · rename_i after hend
    obtain ⟨⟨text, rest⟩, htext, hpair⟩ := Option.map_eq_some_iff.mp h
    cases hpair
    exact .inl ⟨after, text, hend, htext, rfl⟩
  cases cs with
  | nil => cases h
  | cons c more =>
    dsimp only at h
    split at h
    -- a backslash joins lines or begins an escape
    · rename_i hslash
      simp only [Bool.and_eq_true, decide_eq_true_eq] at hslash
      obtain ⟨rfl, hbasic⟩ := hslash
      split at h
      · rename_i after hjoined
        exact .inr (.inl ⟨more, after, rfl, hbasic, hjoined, h⟩)
      split at h
      · rename_i d after hescape
        obtain ⟨⟨text, rest⟩, htext, hpair⟩ := Option.map_eq_some_iff.mp h
        cases hpair
        exact .inr (.inr (.inl ⟨more, d, after, text, rfl, hbasic, hescape, htext, rfl⟩))
      · cases h
    rename_i hslash
    split at h
    · rename_i hvisible
      obtain ⟨⟨text, rest⟩, htext, hpair⟩ := Option.map_eq_some_iff.mp h
      cases hpair
      exact .inr (.inr (.inr ⟨c, more, text, rfl, hvisible,
        by simpa [or_iff_not_imp_left] using hslash, htext, rfl⟩))
    · cases h

section
variable {basic : Bool} {mark : Char} {n : Nat}

/-- A closing mark ends a string of several lines. -/
theorem readLines_of_closing {r : List Char × List Char} (h : closing? mark cs = some r) :
    readLines basic mark (n + 1) cs = some r := by
  simp only [readLines, h]

/-- The end of a line is a line feed of the string. -/
theorem readLines_of_lineEnd {after : List Char} (h : closing? mark cs = none)
    (hend : lineEnd? cs = some after) :
    readLines basic mark (n + 1) cs =
      (readLines basic mark n after).map fun p => ('\n' :: p.1, p.2) := by
  simp only [readLines, h, hend]

/-- A backslash at the end of a line joins it to the next one. -/
theorem readLines_of_joinedLine {after : List Char} (h : closing? mark ('\\' :: cs) = none)
    (hjoined : joinedLine? cs = some after) :
    readLines true mark (n + 1) ('\\' :: cs) = readLines true mark n after := by
  simp only [readLines, h, lineEnd?_of_ne (show '\\' ≠ '\n' by decide)
    (show '\\' ≠ '\r' by decide)]
  rw [if_pos (by decide), hjoined]

/-- A backslash that joins no lines escapes a character. -/
theorem readLines_of_escape {c : Char} {after : List Char} (h : closing? mark ('\\' :: cs) = none)
    (hescape : escape? cs = some (c, after)) :
    readLines true mark (n + 1) ('\\' :: cs) =
      (readLines true mark n after).map fun p => (c :: p.1, p.2) := by
  have hjoined : joinedLine? cs = none := by
    rw [← List.append_nil cs]
    exact joinedLine?_of_escape? hescape
  simp only [readLines, h, lineEnd?_of_ne (show '\\' ≠ '\n' by decide)
    (show '\\' ≠ '\r' by decide)]
  rw [if_pos (by decide), hjoined, hescape]

/-- A visible character stands for itself. -/
theorem readLines_of_visible {c : Char} (h : closing? mark (c :: cs) = none)
    (hvisible : isVisible c = true) (hslash : c ≠ '\\' ∨ basic = false) :
    readLines basic mark (n + 1) (c :: cs) =
      (readLines basic mark n cs).map fun p => (c :: p.1, p.2) := by
  have hfeed : c ≠ '\n' := by
    rintro rfl
    cases hvisible
  have hreturn : c ≠ '\r' := by
    rintro rfl
    cases hvisible
  have hplain : (decide (c = '\\') && basic) = false := by
    rcases hslash with hslash | rfl
    · rw [decide_eq_false hslash, Bool.false_and]
    · exact Bool.and_false _
  simp only [readLines, h, lineEnd?_of_ne hfeed hreturn]
  rw [if_neg (by rw [hplain]; exact Bool.false_ne_true), if_pos hvisible]

end

/-- A string of several lines that is complete is read whatever line follows. -/
theorem readLines_append {basic : Bool} {mark : Char} (hmark : mark ≠ '\n') {n m : Nat}
    {text : List Char} (h : readLines basic mark n cs = some (text, rest)) (hnm : n ≤ m) :
    readLines basic mark m (cs ++ '\n' :: later) = some (text, rest ++ '\n' :: later) := by
  induction n generalizing m cs text with
  | zero => cases h
  | succ n ih =>
    obtain ⟨m, rfl⟩ := Nat.exists_eq_add_of_le' (Nat.le_trans (Nat.le_add_left 1 n) hnm)
    have hm : n ≤ m := Nat.le_of_succ_le_succ hnm
    have hclosing := closing?_append hmark cs later
    rcases readLines_cases h with hmarks | ⟨hopen, hcases⟩
    · rw [hmarks, goesOn_some] at hclosing
      exact readLines_of_closing hclosing
    rw [hopen, goesOn_none] at hclosing
    rcases hcases with ⟨after, text, hend, htext, rfl⟩ | ⟨more, after, rfl, rfl, hjoined, htext⟩ |
      ⟨more, d, after, text, rfl, rfl, hescape, htext, rfl⟩ |
      ⟨c, more, text, rfl, hvisible, hslash, htext, rfl⟩
    · rw [readLines_of_lineEnd hclosing (lineEnd?_append hend), ih htext hm]
      rfl
    · -- the next line is joined, and there is one, because reading goes on there
      have hempty : after ≠ [] := by
        rintro rfl
        rw [readLines_nil] at htext
        cases htext
      have hlone : after ≠ ['\r'] := by
        rintro rfl
        rw [readLines_return] at htext
        cases htext
      rw [List.cons_append] at hclosing ⊢
      rw [readLines_of_joinedLine hclosing (joinedLine?_append hjoined hempty hlone), ih htext hm]
    · rw [List.cons_append] at hclosing ⊢
      rw [readLines_of_escape hclosing (escape?_append hescape), ih htext hm]
      rfl
    · rw [List.cons_append] at hclosing ⊢
      rw [readLines_of_visible hclosing hvisible hslash, ih htext hm]
      rfl

/-- A line end at the beginning of a string is dropped in a longer text too. -/
theorem dropLineEnd_append (hempty : cs ≠ []) (hreturn : cs ≠ ['\r']) :
    dropLineEnd (cs ++ more) = dropLineEnd cs ++ more := by
  unfold dropLineEnd
  cases hend : lineEnd? cs with
  | some rest => rw [lineEnd?_append hend]; rfl
  | none => rw [lineEnd?_append_none hend hempty hreturn]; rfl

/-- A string of several lines that is closed is read in the same way in a longer text. -/
theorem readLines_dropLineEnd_append {basic : Bool} {mark : Char} (hmark : mark ≠ '\n')
    {n m : Nat} {text : List Char}
    (h : readLines basic mark n (dropLineEnd cs) = some (text, rest)) (hnm : n ≤ m) :
    readLines basic mark m (dropLineEnd (cs ++ '\n' :: later)) =
      some (text, rest ++ '\n' :: later) := by
  have hempty : cs ≠ [] := by
    rintro rfl
    rw [show dropLineEnd [] = [] from rfl, readLines_nil] at h
    cases h
  have hreturn : cs ≠ ['\r'] := by
    rintro rfl
    rw [show dropLineEnd ['\r'] = ['\r'] from rfl, readLines_return] at h
    cases h
  rw [dropLineEnd_append hempty hreturn]
  exact readLines_append hmark h hnm

/-- A string that is complete is read whatever line follows. -/
theorem string?_append {text : List Char} (h : string? cs = some (text, rest)) :
    string? (cs ++ '\n' :: later) = some (text, rest ++ '\n' :: later) := by
  unfold string? at h ⊢
  rw [dropLeading?_append (by decide) cs later, dropLeading?_append (by decide) cs later]
  -- three marks in a row are looked for first, in this order
  cases hquotes : Text.dropLeading? (triple '"') cs with
  | some after =>
    rw [hquotes] at h
    exact readLines_dropLineEnd_append (by decide) h (by simp)
  | none =>
    rw [hquotes] at h
    dsimp only [Option.map_none] at h ⊢
    cases hticks : Text.dropLeading? (triple '\'') cs with
    | some after =>
      rw [hticks] at h
      exact readLines_dropLineEnd_append (by decide) h (by simp)
    | none =>
      rw [hticks] at h
      dsimp only [Option.map_none] at h ⊢
      split at h
      · exact readBasic_append h (by simp)
      · exact readLiteral_append h
      · cases h

/-! ## Keys -/

/-- A character that no key goes on with. -/
def EndsKey (c : Char) : Prop := isKeyChar c = false ∧ c ≠ ' ' ∧ c ≠ '\t' ∧ c ≠ '.'

instance (c : Char) : Decidable (EndsKey c) :=
  inferInstanceAs (Decidable (isKeyChar c = false ∧ c ≠ ' ' ∧ c ≠ '\t' ∧ c ≠ '.'))

variable {stop : Char}

/-- A part of a key without quotes. -/
theorem keyPart?_bare {c : Char} (hquote : c ≠ '"') (htick : c ≠ '\'') (cs : List Char) :
    keyPart? (c :: cs) = match (c :: cs).takeWhile isKeyChar, (c :: cs).dropWhile isKeyChar with
      | [], _ => none
      | part, rest => some (String.ofList part, rest) := by
  unfold keyPart?
  split
  · rename_i heq
    cases heq
    exact absurd rfl hquote
  · rename_i heq
    cases heq
    exact absurd rfl htick
  · rfl

/-- A part of a key that is followed by what ends a key is read in the same way whatever comes
after. -/
theorem keyPart?_append {part : String} (hstop : EndsKey stop)
    (h : keyPart? cs = some (part, rest)) :
    keyPart? (cs ++ stop :: later) = some (part, rest ++ stop :: later) := by
  cases cs with
  | nil => cases h
  | cons c cs =>
    -- a key in quotes is a string on one line
    by_cases hquote : c = '"'
    · subst hquote
      obtain ⟨⟨text, rest⟩, htext, hpair⟩ := Option.map_eq_some_iff.mp h
      cases hpair
      have hread : readBasic ((cs ++ stop :: later).length + 1) (cs ++ stop :: later) =
          some (text, rest ++ stop :: later) := readBasic_append htext (by simp)
      exact Option.map_eq_some_iff.mpr ⟨_, hread, rfl⟩
    by_cases htick : c = '\''
    · subst htick
      obtain ⟨⟨text, rest⟩, htext, hpair⟩ := Option.map_eq_some_iff.mp h
      cases hpair
      exact Option.map_eq_some_iff.mpr ⟨_, readLiteral_append htext, rfl⟩
    -- without quotes it ends where its characters end
    rw [keyPart?_bare hquote htick] at h
    rw [List.cons_append, keyPart?_bare hquote htick, ← List.cons_append, takeWhile_stop hstop.1,
      dropWhile_stop hstop.1]
    split at h
    · cases h
    · cases h
      rfl

/-- Blanks end before what ends a key. -/
theorem skipBlanks_stop (hstop : EndsKey stop) :
    skipBlanks (cs ++ stop :: later) = skipBlanks cs ++ stop :: later :=
  dropWhile_stop (by simp [hstop.2.1, hstop.2.2.1])

/-- So do the parts of a key with dots. -/
theorem keyParts?_append {n : Nat} {parts : List String} (hstop : EndsKey stop)
    (h : keyParts? n cs = some (parts, rest)) :
    keyParts? n (cs ++ stop :: later) = some (parts, rest ++ stop :: later) := by
  induction n generalizing cs parts with
  | zero => cases h
  | succ n ih =>
    simp only [keyParts?, skipBlanks_stop hstop] at h ⊢
    split at h
    · cases h
    rename_i part after hpart
    rw [keyPart?_append hstop hpart]
    simp only [skipBlanks_stop hstop]
    split at h
    · rename_i dotted hdot
      obtain ⟨⟨parts, rest⟩, hparts, hpair⟩ := Option.map_eq_some_iff.mp h
      cases hpair
      simp [hdot, ih hparts]
    · rename_i hdot
      cases h
      split
      · -- neither what follows nor the character that ends the key is a dot
        rename_i dotted heq
        rcases List.append_eq_cons_iff.mp heq with ⟨-, hstopped⟩ | ⟨more, hmore, -⟩
        · cases hstopped
          exact absurd rfl hstop.2.2.2
        · exact absurd hmore (hdot more)
      · rfl

/-- A key is read in front of any character that it cannot go on with. -/
theorem key?_append {path : List String} {key : String} (hstop : EndsKey stop)
    (h : key? cs = some (path, key, rest)) :
    key? (cs ++ stop :: later) = some (path, key, rest ++ stop :: later) := by
  unfold key? at h ⊢
  split at h
  -- the parts are read alike, and what follows looks at them alone
  · rename_i parts after hparts
    rw [keyParts?_append hstop hparts]
    dsimp only
    split at h
    · rename_i last hlast
      split at h
      · rename_i hlength
        cases h
        simp [hlength]
      · cases h
    · cases h
  · cases h

/-! ## Layout -/

/-- A character in front of which layout ends: neither a blank, nor the beginning of a comment or
of a line end. -/
def EndsLayout (c : Char) : Prop := c ∉ [' ', '\t', '#', '\n', '\r']

instance (c : Char) : Decidable (EndsLayout c) :=
  inferInstanceAs (Decidable (c ∉ [' ', '\t', '#', '\n', '\r']))

/-- What ends the layout is neither blank nor the beginning of a comment or of a line end. -/
theorem EndsLayout.ne {c : Char} (h : EndsLayout c) :
    c ≠ ' ' ∧ c ≠ '\t' ∧ c ≠ '#' ∧ c ≠ '\n' ∧ c ≠ '\r' := by
  simpa [EndsLayout] using h

/-- There is no comment to drop where none begins. -/
theorem dropComment_of_ne {c : Char} (h : c ≠ '#') (cs : List Char) :
    dropComment (c :: cs) = c :: cs := by
  simp [dropComment, dropComment?, h]

/-- A comment in front of a line end is dropped whatever follows. -/
theorem lineEnd?_dropComment_append (h : lineEnd? (dropComment cs) = some rest) :
    lineEnd? (dropComment (cs ++ more)) = some (rest ++ more) := by
  cases cs with
  | nil => cases h
  | cons c cs =>
    by_cases hmark : c = '#'
    · -- The comment does not reach the end of the text, because a line end is left behind it.
      subst hmark
      have hdropped : cs.dropWhile isVisible ≠ [] := by
        intro hnil
        rw [show dropComment ('#' :: cs) = cs.dropWhile isVisible from rfl, hnil] at h
        cases h
      have hmore : dropComment ('#' :: cs ++ more) = cs.dropWhile isVisible ++ more := by
        rw [List.cons_append, show dropComment ('#' :: (cs ++ more)) =
          (cs ++ more).dropWhile isVisible from rfl, List.dropWhile_append,
          if_neg (by simpa using hdropped)]
      rw [hmore]
      exact lineEnd?_append h
    · rw [dropComment_of_ne hmark] at h
      rw [List.cons_append, dropComment_of_ne hmark, ← List.cons_append]
      exact lineEnd?_append h

/-- There is nothing to skip before what ends the layout. -/
theorem skipLayout_of_ends {c : Char} (hc : EndsLayout c) (n : Nat) (cs : List Char) :
    skipLayout n (c :: cs) = c :: cs := by
  obtain ⟨hblank, htab, hmark, hfeed, hreturn⟩ := hc.ne
  cases n with
  | zero => rfl
  | succ n =>
    rw [skipLayout, skipBlanks_of_head ⟨hblank, htab⟩, dropComment_of_ne hmark,
      lineEnd?_of_ne hfeed hreturn]

/-- Layout that ends with a character is skipped up to it in a longer text too. -/
theorem skipLayout_append {c : Char} {n m : Nat} (hc : EndsLayout c)
    (h : skipLayout n cs = c :: rest) (hnm : n ≤ m) :
    skipLayout m (cs ++ more) = c :: rest ++ more := by
  -- on the fuel, of which a longer text needs no less
  induction n generalizing cs m with
  | zero =>
    rw [skipLayout] at h
    rw [h, List.cons_append, skipLayout_of_ends hc]
  | succ n ih =>
    obtain ⟨m, rfl⟩ := Nat.exists_eq_add_of_le' (Nat.le_trans (Nat.le_add_left 1 n) hnm)
    rw [skipLayout] at h ⊢
    split at h
    · rename_i after hend
      have hblanks : skipBlanks cs ≠ [] := by
        intro hnil
        rw [hnil] at hend
        cases hend
      rw [skipBlanks_append hblanks, lineEnd?_dropComment_append hend]
      exact ih h (Nat.le_of_succ_le_succ hnm)
    · obtain ⟨-, -, hmark, hfeed, hreturn⟩ := hc.ne
      rw [skipBlanks_append (by rw [h]; nofun), h, List.cons_append, dropComment_of_ne hmark,
        lineEnd?_of_ne hfeed hreturn]

/-- So is layout that is skipped without counting. -/
theorem skipAllLayout_append {c : Char} (hc : EndsLayout c) (h : skipAllLayout cs = c :: rest) :
    skipAllLayout (cs ++ more) = c :: rest ++ more :=
  skipLayout_append hc h (by simp)

/-! ## Values -/

/-- A mapped reading goes on as the reading does. -/
theorem map_append (read : List Char → Option (α × List Char)) (f : α → Value) {v : Value}
    (hread : ∀ x, read cs = some (x, rest) →
      read (cs ++ '\n' :: later) = some (x, rest ++ '\n' :: later))
    (h : ((read cs).map fun p => (f p.1, p.2)) = some (v, rest)) :
    ((read (cs ++ '\n' :: later)).map fun p => (f p.1, p.2)) =
      some (v, rest ++ '\n' :: later) := by
  obtain ⟨⟨x, after⟩, hx, hpair⟩ := Option.map_eq_some_iff.mp h
  cases hpair
  rw [hread x hx]
  rfl

/-- What is read of a line is read of it when more lines follow. -/
theorem Ends.append {read : List Char → Option (α × List Char)} (h : Ends read) (x : α)
    (hread : read cs = some (x, rest)) :
    read (cs ++ '\n' :: later) = some (x, rest ++ '\n' :: later) := by
  rw [h cs later, hread]
  rfl

/-- A value that is no array and no table is read in the same way when lines follow. -/
theorem scalarValue?_append {v : Value} (h : scalarValue? cs = some (v, rest)) :
    scalarValue? (cs ++ '\n' :: later) = some (v, rest ++ '\n' :: later) := by
  have hword (word : List Char) (hword : '\n' ∉ word) (b : Bool)
      (h : ((Text.dropLeading? word cs).map fun rest => (Value.truth b, rest)) = some (v, rest)) :
      ((Text.dropLeading? word (cs ++ '\n' :: later)).map fun rest => (Value.truth b, rest)) =
        some (v, rest ++ '\n' :: later) := by
    obtain ⟨after, hafter, hpair⟩ := Option.map_eq_some_iff.mp h
    cases hpair
    rw [dropLeading?_append hword cs later, hafter]
    rfl
  -- the first character decides the kind of the value
  cases cs with
  | nil => cases h
  | cons c cs =>
    unfold scalarValue? at h ⊢
    dsimp only [List.cons_append] at h ⊢
    split_ifs at h ⊢
    · exact map_append string? (fun s => .string (String.ofList s)) (fun _ => string?_append) h
    · exact numeral?_append.append _ h
    · exact hword _ (by decide) true h
    · exact hword _ (by decide) false h
    · exact map_append specialFloat? .float specialFloat?_append.append h

/-- A value does not begin with layout. -/
theorem head_of_scalarValue? {v : Value} (h : scalarValue? cs = some (v, rest)) :
    ∃ c after, cs = c :: after ∧ EndsLayout c := by
  cases cs with
  | nil => cases h
  | cons c cs =>
    refine ⟨c, cs, rfl, fun hc => ?_⟩
    simp only [List.mem_cons, List.not_mem_nil, or_false] at hc
    rcases hc with rfl | rfl | rfl | rfl | rfl <;> cases h

/-- A value begins with a character that ends the layout before it. -/
theorem head_of_value? {n depth : Nat} {v : Value} (h : value? n depth cs = some (v, rest)) :
    ∃ c after, cs = c :: after ∧ EndsLayout c := by
  cases n with
  | zero => cases h
  | succ n =>
    unfold value? at h
    split at h
    · exact ⟨_, _, rfl, by decide⟩
    · exact ⟨_, _, rfl, by decide⟩
    · exact head_of_scalarValue? h

/-- What begins with no bracket or brace is read as a scalar. -/
theorem value?_of_scalar {c : Char} (harray : c ≠ '[') (hbraced : c ≠ '\x7b') (n depth : Nat)
    (cs : List Char) : value? (n + 1) depth (c :: cs) = scalarValue? (c :: cs) := by
  simp [value?, harray, hbraced]

/-- So do the elements of an array, up to the bracket. -/
theorem head_of_elements? {n depth : Nat} {vs : List Value}
    (h : elements? n depth cs = some (vs, rest)) : ∃ c after, cs = c :: after ∧ EndsLayout c := by
  cases n with
  | zero => cases h
  | succ n =>
    rw [elements?] at h
    split at h
    · cases h
    · exact head_of_value? ‹_›

/-- In an array, the closing bracket or more elements follow. -/
theorem closingOrElements_append {α : Type} {n m depth : Nat} {x y : α} {f : List Value → α}
    (helements : ∀ {cs vs rest}, elements? n depth cs = some (vs, rest) →
      elements? m depth (cs ++ '\n' :: later) = some (vs, rest ++ '\n' :: later))
    (h : (match skipAllLayout cs with
      | ']' :: rest => some (x, rest)
      | cs => (elements? n depth cs).map fun (vs, rest) => (f vs, rest)) = some (y, rest)) :
    (match skipAllLayout (cs ++ '\n' :: later) with
      | ']' :: rest => some (x, rest)
      | cs => (elements? m depth cs).map fun (vs, rest) => (f vs, rest)) =
        some (y, rest ++ '\n' :: later) := by
  split at h
  · rename_i hclose
    cases h
    rw [skipAllLayout_append (by decide) hclose]
    rfl
  · -- an element begins, so the layout in front of it ends before the line does
    rename_i hopen
    obtain ⟨⟨vs, rest⟩, hvs, hpair⟩ := Option.map_eq_some_iff.mp h
    cases hpair
    obtain ⟨c, more, hcons, hc⟩ := head_of_elements? hvs
    rw [hcons] at hvs hopen
    have hmore := helements hvs
    rw [skipAllLayout_append hc hcons]
    rw [List.cons_append] at hmore ⊢
    split
    · rename_i heq
      cases heq
      exact absurd rfl (hopen more)
    · rw [hmore]
      rfl

/-- The step for elements: the first one, and those behind it. -/
theorem elements?_append_step {n m depth : Nat} {vs : List Value}
    (hvalue : ∀ {cs v rest}, value? n depth cs = some (v, rest) →
      value? m depth (cs ++ '\n' :: later) = some (v, rest ++ '\n' :: later))
    (helements : ∀ {cs vs rest}, elements? n depth cs = some (vs, rest) →
      elements? m depth (cs ++ '\n' :: later) = some (vs, rest ++ '\n' :: later))
    (h : elements? (n + 1) depth cs = some (vs, rest)) :
    elements? (m + 1) depth (cs ++ '\n' :: later) = some (vs, rest ++ '\n' :: later) := by
  simp only [elements?] at h ⊢
  -- a value, and then a comma or the end of the list
  split at h
  · cases h
  rename_i v after hv
  rw [hvalue hv]
  dsimp only
  split at h
  · rename_i hclose
    cases h
    rw [skipAllLayout_append (by decide) hclose]
    rfl
  · rename_i hcomma
    rw [skipAllLayout_append (by decide) hcomma]
    exact closingOrElements_append helements h
  · cases h

/-- Entries in braces are read in the same way when lines follow, if the values and the entries
with less fuel are. -/
theorem entries?_append_step {n m depth : Nat} {es : List (List String × String × Value)}
    (hvalue : ∀ {cs v rest}, value? n depth cs = some (v, rest) →
      value? m depth (cs ++ '\n' :: later) = some (v, rest ++ '\n' :: later))
    (hentries : ∀ {cs es rest}, entries? n depth cs = some (es, rest) →
      entries? m depth (cs ++ '\n' :: later) = some (es, rest ++ '\n' :: later))
    (h : entries? (n + 1) depth cs = some (es, rest)) :
    entries? (m + 1) depth (cs ++ '\n' :: later) = some (es, rest ++ '\n' :: later) := by
  simp only [entries?] at h ⊢
  split at h
  · -- Such a table stands on one line: between its parts there are blanks, but no layout.
    rename_i dots key after hkey
    rw [key?_append (by decide) hkey]
    simp only [List.cons_append]
    split at h
    · cases h
    rename_i v next hv
    obtain ⟨c, more, hcons, -⟩ := head_of_value? hv
    rw [skipBlanks_append (by rw [hcons]; nofun), hvalue hv]
    dsimp only
    rw [skipBlanks_stop (by decide)]
    split at h
    · rename_i hclose
      cases h
      rw [hclose]
      rfl
    · rename_i hcomma
      obtain ⟨⟨es, rest⟩, hes, hpair⟩ := Option.map_eq_some_iff.mp h
      cases hpair
      rw [hcomma]
      simp [hentries hes]
    · cases h
  · cases h

/-- A table in braces goes on behind its line, if its entries do. -/
theorem braces?_append {n m depth : Nat} {v : Value}
    (hentries : ∀ {depth cs es rest}, entries? n depth cs = some (es, rest) →
      entries? m depth (cs ++ '\n' :: later) = some (es, rest ++ '\n' :: later))
    (h : value? (n + 1) depth ('\x7b' :: cs) = some (v, rest)) :
    value? (m + 1) depth ('\x7b' :: (cs ++ '\n' :: later)) =
      some (v, rest ++ '\n' :: later) := by
  simp only [value?] at h ⊢
  split at h
  · cases h
  rename_i hdepth
  rw [if_neg hdepth, skipBlanks_stop (by decide)]
  split at h
  · rename_i hclose
    cases h
    rw [hclose]
    rfl
  · rename_i hopen
    split at h
    · rename_i es after hes
      obtain ⟨w, hw, hpair⟩ := Option.map_eq_some_iff.mp h
      cases hpair
      -- the table is not closed at once, and with more behind it neither
      split
      · rename_i heq
        rcases List.append_eq_cons_iff.mp heq with ⟨-, hline⟩ | ⟨more, hmore, -⟩
        · cases hline
        · exact absurd hmore (hopen more)
      · rw [hentries hes]
        simp [hw]
    · cases h

/-- So is a value, if the elements and the entries with less fuel are. -/
theorem value?_append_step {n m depth : Nat} {v : Value}
    (helements : ∀ {depth cs vs rest}, elements? n depth cs = some (vs, rest) →
      elements? m depth (cs ++ '\n' :: later) = some (vs, rest ++ '\n' :: later))
    (hentries : ∀ {depth cs es rest}, entries? n depth cs = some (es, rest) →
      entries? m depth (cs ++ '\n' :: later) = some (es, rest ++ '\n' :: later))
    (h : value? (n + 1) depth cs = some (v, rest)) :
    value? (m + 1) depth (cs ++ '\n' :: later) = some (v, rest ++ '\n' :: later) := by
  cases cs with
  | nil => cases h
  | cons c cs =>
    rw [List.cons_append]
    -- the first character says whether there are elements, entries, or a scalar
    by_cases harray : c = '['
    · subst harray
      simp only [value?] at h ⊢
      split at h
      · cases h
      rename_i hdepth
      rw [if_neg hdepth]
      exact closingOrElements_append helements h
    by_cases hbraced : c = '\x7b'
    · subst hbraced
      exact braces?_append hentries h
    · rw [value?_of_scalar harray hbraced] at h ⊢
      exact scalarValue?_append h

/-- Values, elements and entries are read in the same way when lines follow, by induction on the
fuel for all three at once. -/
theorem values_append (n : Nat) :
    (∀ {depth cs v rest m}, value? n depth cs = some (v, rest) → n ≤ m →
      value? m depth (cs ++ '\n' :: later) = some (v, rest ++ '\n' :: later)) ∧
    (∀ {depth cs vs rest m}, elements? n depth cs = some (vs, rest) → n ≤ m →
      elements? m depth (cs ++ '\n' :: later) = some (vs, rest ++ '\n' :: later)) ∧
    ∀ {depth cs es rest m}, entries? n depth cs = some (es, rest) → n ≤ m →
      entries? m depth (cs ++ '\n' :: later) = some (es, rest ++ '\n' :: later) := by
  -- The three readers call each other with one index, which is less by one in each call.
  induction n with
  | zero => exact ⟨nofun, nofun, nofun⟩
  | succ n ih =>
    obtain ⟨hvalue, helements, hentries⟩ := ih
    refine ⟨fun {_ _ _ _} m h hnm => ?_, fun {_ _ _ _} m h hnm => ?_,
      fun {_ _ _ _} m h hnm => ?_⟩
    all_goals
      obtain ⟨m, rfl⟩ := Nat.exists_eq_add_of_le' (Nat.le_trans (Nat.le_add_left 1 n) hnm)
      have hm : n ≤ m := Nat.le_of_succ_le_succ hnm
    · exact value?_append_step (fun h => helements h hm) (fun h => hentries h hm) h
    · exact elements?_append_step (fun h => hvalue h hm) (fun h => helements h hm) h
    · exact entries?_append_step (fun h => hvalue h hm) (fun h => hentries h hm) h

/-- A value that can be read is read in the same way whatever lines follow. -/
theorem value?_append {n m depth : Nat} {v : Value} (h : value? n depth cs = some (v, rest))
    (hnm : n ≤ m) :
    value? m depth (cs ++ '\n' :: later) = some (v, rest ++ '\n' :: later) :=
  (values_append n).1 h hnm

end GcodeSender.Toml
