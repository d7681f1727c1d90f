import GcodeSender.Proofs.Decimal.Digits
import GcodeSender.Proofs.Text.Hex
import GcodeSender.Settings.Json
import Mathlib.Data.List.DropRight
import Mathlib.Tactic.Common

/-!
# `GcodeSender.Proofs.Json.RoundTrip`: what is written is read back

A value that is written is read back as it was: `read?_write`. Only a number has to be spelled
as one (`Value.isSpelled`), because a value keeps the spelling of its numbers and writes it as
it is. A string that is no text stays one.

Each reader takes exactly what its writer wrote and leaves what follows: strings by
`readString_quoted`, numbers by `takeNumber?_append` where no character follows that could
belong to them (`EndsNumber`), and values by `value?_layOut` on any level of the layout.
-/

set_option autoImplicit false

namespace GcodeSender.Json

/-! ## Strings -/

/-- A character is read back from the way it is written, as one part of the string. -/
theorem readPieces_escape (c : Char) : ∃ p : Piece,
    (∀ n cs, readPieces (n + 1) (escape c ++ cs) =
      (readPieces n cs).map fun (ps, rest) => (p :: ps, rest)) ∧
    ∀ ps, text? (p :: ps) = (text? ps).map (c :: ·) := by
  by_cases hletter : c = '"' ∨ c = '\\' ∨ c = '\x08' ∨ c = '\x0c' ∨ c = '\n' ∨ c = '\r' ∨ c = '\t'
  · -- written with a letter
    refine ⟨.char c, fun n cs => ?_, fun ps => rfl⟩
    rcases hletter with rfl | rfl | rfl | rfl | rfl | rfl | rfl <;> rfl
  · simp only [not_or] at hletter
    by_cases hcontrol : c < ' '
    · -- written by number, as a unit that needs no partner
      have hsmall : c.toNat < 32 := hcontrol
      refine ⟨.unit c.toNat, fun n cs => ?_, fun ps => ?_⟩
      · simp [escape, hletter, hcontrol, readPieces, Text.readHex?_hexFour
          (show c.toNat < 65536 by omega)]
      · have hhigh : isHighSurrogate c.toNat = false := by
          rw [isHighSurrogate, decide_eq_false (by omega), Bool.false_and]
        have hlow : isLowSurrogate c.toNat = false := by
          rw [isLowSurrogate, decide_eq_false (by omega), Bool.false_and]
        rw [text?.eq_def]
        simp [hhigh, hlow, Char.ofNat_toNat]
    · exact ⟨.char c, fun n cs => by simp [escape, hletter, hcontrol, readPieces], fun ps => rfl⟩

/-- A text that is escaped is read back up to its closing quote. -/
theorem readPieces_flatMap_escape (cs rest : List Char) {n : Nat} (hn : cs.length < n) :
    ∃ ps, readPieces n (cs.flatMap escape ++ '"' :: rest) = some (ps, rest) ∧
      text? ps = some cs := by
  -- on the text: each character is written as one piece, and read as that piece
  induction cs generalizing n with
  | nil =>
    obtain ⟨n, rfl⟩ := Nat.exists_eq_succ_of_ne_zero (Nat.ne_of_gt hn)
    exact ⟨[], rfl, rfl⟩
  | cons c cs ih =>
    obtain ⟨n, rfl⟩ := Nat.exists_eq_succ_of_ne_zero (Nat.ne_zero_of_lt hn)
    obtain ⟨p, hread, htext⟩ := readPieces_escape c
    obtain ⟨ps, hps, hcs⟩ := ih (Nat.lt_of_succ_lt_succ hn)
    refine ⟨p :: ps, ?_, ?_⟩
    · rw [List.flatMap_cons, List.append_assoc, hread, hps]
      rfl
    · rw [htext, hcs]
      rfl

/-- To escape a text makes it no shorter, so there are steps enough to read it. -/
theorem length_le_flatMap_escape (cs : List Char) : cs.length ≤ (cs.flatMap escape).length := by
  induction cs with
  | nil => exact Nat.le_refl _
  | cons c cs ih =>
    have hpos : 0 < (escape c).length := by
      unfold escape
      repeat' split
      all_goals exact Nat.succ_pos _
    rw [List.flatMap_cons, List.length_append, List.length_cons]
    omega

/-- A string value is written behind an opening quote, and read back from there. -/
theorem readString_quoted (s : Option String) :
    ∃ body, quoted s = '"' :: body ∧ ∀ rest, readString (body ++ rest) = some (s, rest) := by
  cases s with
  | none =>
    -- half of a pair stands for a string that is no text
    refine ⟨['\\', 'u', 'd', '8', '0', '0', '"'], rfl, fun rest => ?_⟩
    have hunit : Text.readHex? 4 0 ('d' :: '8' :: '0' :: '0' :: '"' :: rest) =
        some (0xd800, '"' :: rest) := rfl
    simp [readString, readPieces, hunit, text?, isHighSurrogate]
  | some s =>
    refine ⟨s.toList.flatMap escape ++ ['"'], rfl, fun rest => ?_⟩
    have hlength := length_le_flatMap_escape s.toList
    obtain ⟨ps, hps, htext⟩ := readPieces_flatMap_escape s.toList rest
      (n := (s.toList.flatMap escape ++ '"' :: rest).length + 1)
      (by rw [List.length_append]; omega)
    rw [List.append_assoc, List.singleton_append, readString, hps]
    simp [htext]

/-! ## Numbers -/

/-- No character follows that could belong to a number. -/
def EndsNumber (rest : List Char) : Prop :=
  ∀ c ∈ rest.head?, c.isDigit = false ∧ c ≠ '.' ∧ c ≠ 'e' ∧ c ≠ 'E'

/-- Digits are taken up to where the number ends, whatever follows. -/
theorem takeDigits?_append {cs ds after rest : List Char} (hrest : EndsNumber rest)
    (h : takeDigits? cs = some (ds, after)) :
    takeDigits? (cs ++ rest) = some (ds, after ++ rest) := by
  rw [takeDigits?, Decimal.spanDigits_append cs fun c hc => (hrest c hc).1]
  unfold takeDigits? at h
  split at h
  · rename_i hspan
    cases h
    rw [hspan]
  · cases h

/-- The whole part of a number is taken up to where the number ends. -/
theorem takeWhole?_append {cs ds after rest : List Char} (hrest : EndsNumber rest)
    (h : takeWhole? cs = some (ds, after)) :
    takeWhole? (cs ++ rest) = some (ds, after ++ rest) := by
  unfold takeWhole? at h
  split at h
  · split at h
    · cases h
    · rename_i hc
      cases h
      simp [takeWhole?, hc]
  · rename_i hcs
    unfold takeWhole?
    split
    · -- only a lone zero can be lengthened to one with something behind it
      rename_i c more heq
      have hzero : cs = ['0'] ∧ rest = c :: more := by
        match cs, hcs, heq with
        | [], _, _ => cases h
        | [d], _, heq =>
          cases heq
          exact ⟨rfl, rfl⟩
        | d :: e :: cs, hcs, heq =>
          cases heq
          exact absurd rfl (hcs _ _)
      obtain ⟨rfl, rfl⟩ := hzero
      cases h
      simp [(hrest c rfl).1]
    · exact takeDigits?_append hrest h

/-- So are its places behind the point. -/
theorem takePlaces?_append {cs after rest : List Char} {ds : Option (List Char)}
    (hrest : EndsNumber rest) (h : takePlaces? cs = some (ds, after)) :
    takePlaces? (cs ++ rest) = some (ds, after ++ rest) := by
  cases cs with
  | nil =>
    cases h
    unfold takePlaces?
    split
    -- there is no point in the spelling, and what follows does not begin with one
    · rename_i heq
      exact absurd rfl (hrest '.' (by rw [List.nil_append] at heq; rw [heq]; rfl)).2.1
    · rfl
  | cons c cs =>
    rw [List.cons_append]
    unfold takePlaces? at h ⊢
    split at h
    · rename_i heq
      cases heq
      obtain ⟨⟨ds, after⟩, hds, hmap⟩ := Option.map_eq_some_iff.mp h
      cases hmap
      simp [takeDigits?_append hrest hds]
    · rename_i hpoint
      cases h
      split
      · rename_i heq
        cases heq
        exact absurd rfl (hpoint cs)
      · rfl

/-- So is its exponent. -/
theorem takeExponent?_append {cs after rest : List Char} {e : Option (Bool × List Char)}
    (hrest : EndsNumber rest) (h : takeExponent? cs = some (e, after)) :
    takeExponent? (cs ++ rest) = some (e, after ++ rest) := by
  cases cs with
  | nil =>
    cases h
    cases rest with
    | nil => rfl
    | cons c rest => simp [takeExponent?, (hrest c rfl).2.2]
  | cons c cs =>
    rw [List.cons_append]
    unfold takeExponent? at h ⊢
    dsimp only at h ⊢
    split at h
    · obtain ⟨⟨ds, after⟩, hds, hmap⟩ := Option.map_eq_some_iff.mp h
      cases hmap
      -- a letter at the very end has no digits behind it, so something of the spelling follows it
      have hne : cs ≠ [] := by
        rintro rfl
        cases hds
      rename_i hletter
      rw [if_pos hletter, Decimal.spanSign_append hne, takeDigits?_append hrest hds]
      rfl
    · rename_i hletter
      cases h
      rw [if_neg hletter]
      rfl

/-- A number behind its sign. -/
def takeUnsigned? (negative : Bool) (cs : List Char) : Option (Number × List Char) := do
  let (whole, cs) ← takeWhole? cs
  let (places, cs) ← takePlaces? cs
  let (exponent, cs) ← takeExponent? cs
  some (⟨negative, whole, places, exponent⟩, cs)

/-- A number that does not begin with a minus has no sign. -/
theorem takeNumber?_of_ne {c : Char} (hc : c ≠ '-') (cs : List Char) :
    takeNumber? (c :: cs) = takeUnsigned? false (c :: cs) := by
  unfold takeNumber?
  split
  rename_i heq
  split at heq
  · rename_i hcons
    cases hcons
    exact absurd rfl hc
  · cases heq
    rfl

/-- A number without its sign is taken up to where it ends. -/
theorem takeUnsigned?_append {negative : Bool} {cs after rest : List Char} {n : Number}
    (hrest : EndsNumber rest) (h : takeUnsigned? negative cs = some (n, after)) :
    takeUnsigned? negative (cs ++ rest) = some (n, after ++ rest) := by
  simp only [takeUnsigned?, Option.bind_eq_bind, Option.bind_eq_some_iff, Prod.exists] at h ⊢
  obtain ⟨whole, cs₁, hwhole, places, cs₂, hplaces, exponent, cs₃, hexponent, hn⟩ := h
  cases hn
  exact ⟨whole, cs₁ ++ rest, takeWhole?_append hrest hwhole, places, cs₂ ++ rest,
    takePlaces?_append hrest hplaces, exponent, after ++ rest,
    takeExponent?_append hrest hexponent, rfl⟩

/-- A number is taken from a text whatever follows, unless that could belong to it. -/
theorem takeNumber?_append {cs after rest : List Char} {n : Number} (hrest : EndsNumber rest)
    (h : takeNumber? cs = some (n, after)) :
    takeNumber? (cs ++ rest) = some (n, after ++ rest) := by
  cases cs with
  | nil => cases h
  | cons c cs =>
    by_cases hc : c = '-'
    · subst hc
      exact takeUnsigned?_append hrest (show takeUnsigned? true cs = some (n, after) from h)
    · rw [takeNumber?_of_ne hc] at h
      rw [List.cons_append, takeNumber?_of_ne hc]
      exact takeUnsigned?_append hrest h

/-- A number begins with a minus sign or a digit. -/
theorem head_of_takeNumber? {cs after : List Char} {n : Number}
    (h : takeNumber? cs = some (n, after)) :
    ∃ c rest, cs = c :: rest ∧ (c = '-' ∨ c.isDigit = true) := by
  cases cs with
  | nil => cases h
  | cons c cs =>
    refine ⟨c, cs, rfl, ?_⟩
    by_contra hother
    simp only [not_or, Bool.not_eq_true] at hother
    obtain ⟨hminus, hdigit⟩ := hother
    -- without a digit in front there is no whole part
    have hwhole : takeWhole? (c :: cs) = none := by
      unfold takeWhole?
      split
      · rename_i heq
        cases heq
        cases hdigit
      · simp [takeDigits?, Decimal.spanDigits, hdigit]
    rw [takeNumber?_of_ne hminus, takeUnsigned?, hwhole] at h
    cases h

/-- The digits of a natural number are a number. -/
theorem takeNumber?_digitChars (n : Nat) :
    takeNumber? (Decimal.digitChars n) = some (⟨false, Decimal.digitChars n, none, none⟩, []) := by
  have hwhole : takeWhole? (Decimal.digitChars n) = some (Decimal.digitChars n, []) := by
    -- a number other than zero has no zero in front, so all its digits are taken
    rcases Decimal.digitChars_cases n with hzero | ⟨d, ds, hds, hd⟩
    · rw [hzero]
      rfl
    · have hspan := Decimal.spanDigits_digitChars n
      rw [hds] at hspan ⊢
      unfold takeWhole?
      split
      · rename_i heq
        cases heq
        exact absurd rfl hd
      · rw [takeDigits?, hspan]
  obtain ⟨d, ds, hds, hdigit⟩ := Decimal.exists_digitChars_eq_cons n
  rw [hds] at hwhole ⊢
  rw [takeNumber?_of_ne (by rintro rfl; cases hdigit), takeUnsigned?, hwhole]
  rfl

/-- A natural number of 64 bits is read from the value that is made of it. -/
theorem natural?_ofNat {n : Nat} (hn : n < 1 <<< 64) : (Value.ofNat n).natural? = some n := by
  rw [Value.ofNat, Value.natural?, Number.ofSpelling?, takeNumber?_digitChars]
  simp only [Option.bind_some, Number.natural?, Decimal.digitsValue_digitChars]
  exact if_pos hn

/-! ## Values -/

mutual

/-- Whether the numbers in a value are spelled as numbers. -/
def Value.isSpelled : Value → Bool
  | .null | .truth _ | .string _ => true
  | .number spelling => (Number.ofSpelling? spelling).isSome
  | .array vs => elementsSpelled vs
  | .object ms => membersSpelled ms

/-- Whether the numbers in elements are spelled as numbers. -/
def elementsSpelled : List Value → Bool
  | [] => true
  | v :: vs => v.isSpelled && elementsSpelled vs

/-- Whether the numbers in members are spelled as numbers. -/
def membersSpelled : List (Option String × Value) → Bool
  | [] => true
  | (_, v) :: ms => v.isSpelled && membersSpelled ms

end

/-- What is spelled as a number is taken as one, with nothing left. -/
theorem ofSpelling?_isSome {spelling : List Char}
    (h : (Number.ofSpelling? spelling).isSome = true) :
    ∃ n, takeNumber? spelling = some (n, []) := by
  unfold Number.ofSpelling? at h
  split at h
  · exact ⟨_, ‹_›⟩
  · cases h

/-- No digit is a space. -/
theorem isSpace_of_isDigit {c : Char} (h : c.isDigit = true) : isSpace c = false := by
  cases hspace : isSpace c with
  | false => rfl
  | true =>
    simp only [isSpace, Bool.or_eq_true, decide_eq_true_eq, or_assoc] at hspace
    rcases hspace with rfl | rfl | rfl | rfl <;> cases h

/-- Blanks in front of a text are skipped as far as the text. -/
theorem skipSpace_newLine (level : Nat) {c : Char} (hc : isSpace c = false) (rest : List Char) :
    skipSpace (newLine level ++ c :: rest) = c :: rest := by
  have hblank : ∀ d ∈ newLine level, isSpace d = true := by
    intro d hd
    rcases List.mem_cons.mp hd with rfl | hd
    · rfl
    · rw [List.eq_of_mem_replicate hd]
      rfl
  rw [skipSpace, List.dropWhile_append_of_pos hblank, List.dropWhile_cons_of_neg (by simp [hc])]

/-- A value is laid out from a character on that is neither a blank nor a closing bracket. -/
theorem head_layOut {v : Value} (hv : v.isSpelled = true) (level : Nat) :
    ∃ c rest, v.layOut level = c :: rest ∧ isSpace c = false ∧ c ≠ ']' := by
  cases v with
  | null => exact ⟨_, _, rfl, by decide, by decide⟩
  | truth b => cases b <;> exact ⟨_, _, rfl, by decide, by decide⟩
  | string s =>
    obtain ⟨body, hbody, -⟩ := readString_quoted s
    exact ⟨'"', body, by rw [Value.layOut, hbody], by decide, by decide⟩
  -- a number begins with a sign or a digit
  | number spelling =>
    rw [Value.isSpelled] at hv
    obtain ⟨n, hn⟩ := ofSpelling?_isSome hv
    obtain ⟨c, rest, hcons, hc⟩ := head_of_takeNumber? hn
    refine ⟨c, rest, by rw [Value.layOut, hcons], ?_⟩
    rcases hc with rfl | hc
    · exact ⟨by decide, by decide⟩
    · refine ⟨isSpace_of_isDigit hc, ?_⟩
      rintro rfl
      cases hc
  | array vs => cases vs <;> exact ⟨_, _, rfl, by decide, by decide⟩
  | object ms => cases ms <;> exact ⟨_, _, rfl, by decide, by decide⟩

/-- A number is read behind spaces, up to where it ends. -/
theorem value?_number {spelling cs rest : List Char} {n : Nat}
    (hspelling : (Number.ofSpelling? spelling).isSome = true) (hrest : EndsNumber rest)
    (hcs : skipSpace cs = spelling ++ rest) :
    value? (n + 1) cs = some (.number spelling, rest) := by
  obtain ⟨number, hnumber⟩ := ofSpelling?_isSome hspelling
  obtain ⟨c, more, rfl, hc⟩ := head_of_takeNumber? hnumber
  have hread : number? (c :: more ++ rest) = some (.number (c :: more), rest) := by
    have hlength : (c :: more ++ rest).length - rest.length = (c :: more).length := by
      rw [List.length_append, Nat.add_sub_cancel]
    rw [number?, takeNumber?_append hrest hnumber, Option.map_some, List.nil_append]
    dsimp only
    rw [hlength, List.take_left]
  -- The reader chooses by the first character, and asks for a number last.
  have hdispatch : c ≠ '"' ∧ c ≠ '[' ∧ c ≠ '\x7b' := by
    rcases hc with rfl | hc
    · decide
    · refine ⟨?_, ?_, ?_⟩ <;> (rintro rfl; cases hc)
  rw [value?, hcs, List.cons_append]
  split
  · rename_i h
    cases h
  · rename_i h
    cases h
    exact absurd rfl hdispatch.1
  · rename_i h
    cases h
    exact absurd rfl hdispatch.2.1
  · rename_i h
    cases h
    exact absurd rfl hdispatch.2.2
  · rename_i h
    cases h
    rw [if_pos (by simpa using hc)]
    exact hread

/-- The item of a line is found behind the line's blanks. -/
theorem skipSpace_layOut {v : Value} (hv : v.isSpelled = true) (level : Nat)
    (rest : List Char) :
    skipSpace (newLine level ++ (v.layOut level ++ rest)) = v.layOut level ++ rest := by
  obtain ⟨c, more, hcons, hc, -⟩ := head_layOut hv level
  rw [hcons, List.cons_append, skipSpace_newLine level hc]

/-- Behind an item that is not the last there is a comma. -/
theorem itemLines_cons_cons (level : Nat) (item next : List Char) (items : List (List Char)) :
    itemLines level (item :: next :: items) =
      newLine level ++ (item ++ ',' :: itemLines level (next :: items)) := by
  simp [itemLines]

/-- Item lines begin, behind blanks, with their first item. -/
theorem itemLines_cons (level : Nat) (item : List Char) (items : List (List Char)) :
    ∃ more, itemLines level (item :: items) = newLine level ++ (item ++ more) := by
  cases items with
  | nil => exact ⟨[], by rw [itemLines, List.append_nil]⟩
  | cons next items =>
    exact ⟨',' :: itemLines level (next :: items), itemLines_cons_cons level item next items⟩

/-- The lines of an array that is not empty do not begin with its end. -/
theorem head_itemLines_elements (v : Value) (vs : List Value)
    (hv : elementsSpelled (v :: vs) = true) (level : Nat) (rest : List Char) :
    ∃ c more, skipSpace (itemLines level (elementTexts level (v :: vs)) ++ rest) = c :: more ∧
      c ≠ ']' := by
  rw [elementsSpelled, Bool.and_eq_true] at hv
  obtain ⟨c, more, hcons, hc, hbracket⟩ := head_layOut hv.1 level
  obtain ⟨tail, htail⟩ := itemLines_cons level (v.layOut level) (elementTexts level vs)
  refine ⟨c, more ++ (tail ++ rest), ?_, hbracket⟩
  rw [elementTexts, htail, hcons]
  simp only [List.append_assoc, List.cons_append]
  exact skipSpace_newLine level hc _

/-- The blank between a key and its value is skipped, and no more. -/
theorem skipSpace_blank {v : Value} (hv : v.isSpelled = true) (level : Nat)
    (rest : List Char) : skipSpace (' ' :: (v.layOut level ++ rest)) = v.layOut level ++ rest := by
  obtain ⟨c, more, hcons, hc, -⟩ := head_layOut hv level
  rw [hcons]
  simp [skipSpace, hc, show isSpace ' ' = true from rfl]

/-- A member's line begins, behind blanks, with its key. -/
theorem skipSpace_member (level : Nat) (key : Option String) (rest : List Char) :
    skipSpace (newLine level ++ (quoted key ++ rest)) = quoted key ++ rest := by
  obtain ⟨body, hbody, -⟩ := readString_quoted key
  rw [hbody, List.cons_append, skipSpace_newLine level (by decide)]

/-- The lines of an object that is not empty begin with the quote of a key. -/
theorem head_itemLines_members (m : Option String × Value) (ms : List (Option String × Value))
    (level : Nat) (rest : List Char) :
    ∃ more, skipSpace (itemLines level (memberTexts level (m :: ms)) ++ rest) = '"' :: more := by
  obtain ⟨key, v⟩ := m
  obtain ⟨body, hbody, -⟩ := readString_quoted key
  obtain ⟨tail, htail⟩ := itemLines_cons level (quoted key ++ ':' :: ' ' :: v.layOut level)
    (memberTexts level ms)
  rw [memberTexts, htail, List.append_assoc, List.append_assoc, List.append_assoc,
    skipSpace_member, hbody]
  exact ⟨_, rfl⟩

/-- A number ends at the end of a line. -/
theorem endsNumber_newLine (level : Nat) (rest : List Char) :
    EndsNumber (newLine level ++ rest) := by
  rintro c ⟨⟩
  decide

/-- A number ends at a comma. -/
theorem endsNumber_comma (rest : List Char) : EndsNumber (',' :: rest) := by
  rintro c ⟨⟩
  decide

/-- A new line is not empty. -/
theorem length_newLine_pos (level : Nat) : 0 < (newLine level).length := Nat.succ_pos _

/-- The lines of some items are not empty. -/
theorem length_itemLines_pos (level : Nat) {items : List (List Char)} (h : items ≠ []) :
    0 < (itemLines level items).length := by
  obtain ⟨item, items, rfl⟩ := List.exists_cons_of_ne_nil h
  obtain ⟨more, hmore⟩ := itemLines_cons level item items
  rw [hmore, List.length_append]
  exact Nat.add_pos_left (length_newLine_pos level) _

/-- Spaces are skipped once. -/
theorem skipSpace_skipSpace (cs : List Char) : skipSpace (skipSpace cs) = skipSpace cs :=
  List.dropWhile_idempotent isSpace cs

/-- An array that does not end at once is read by its elements. -/
theorem value?_of_elements {n : Nat} {cs items : List Char} (hcs : skipSpace cs = '[' :: items)
    (hitems : (skipSpace items).head? ≠ some ']') :
    value? (n + 1) cs =
      (elements? n (skipSpace items)).map fun (vs, rest) => (.array vs, rest) := by
  simp only [value?, hcs]
  split
  · rename_i heq
    rw [heq] at hitems
    exact absurd rfl hitems
  · rfl

/-- An object that does not end at once is read by its members. -/
theorem value?_of_members {n : Nat} {cs items : List Char}
    (hcs : skipSpace cs = '\x7b' :: items) (hitems : (skipSpace items).head? ≠ some '\x7d') :
    value? (n + 1) cs =
      (members? n (skipSpace items)).map fun (ms, rest) => (.object ms, rest) := by
  simp only [value?, hcs]
  split
  · rename_i heq
    rw [heq] at hitems
    exact absurd rfl hitems
  · rfl

/-- A comma is no space. -/
theorem skipSpace_comma (rest : List Char) : skipSpace (',' :: rest) = ',' :: rest := rfl

/-- A member is laid out as its key, a colon and its value. -/
theorem members?_of_member {key : Option String} {v : Value} {n : Nat}
    {cs text after : List Char} (hcs : skipSpace cs = quoted key ++ ':' :: text)
    (hvalue : value? n text = some (v, after)) :
    members? (n + 1) cs = match skipSpace after with
      | ',' :: cs => (members? n cs).map fun (ms, rest) => ((key, v) :: ms, rest)
      | '\x7d' :: rest => some ([(key, v)], rest)
      | _ => none := by
  obtain ⟨body, hbody, hread⟩ := readString_quoted key
  have hcolon (text : List Char) : skipSpace (':' :: text) = ':' :: text := rfl
  rw [hbody, List.cons_append] at hcs
  simp only [members?, hcs, hread, hcolon]
  generalize value? n text = read at hvalue ⊢
  cases hvalue
  rfl

-- The index bounds the steps of the readers. A value and the list that it stands in take a step
-- each, and both have characters of their own, so twice the length of the text is enough.
mutual

/-- A value is read from where it is laid out, on any level and behind any blanks. -/
theorem value?_layOut : (v : Value) → v.isSpelled = true → (level n : Nat) →
    (cs rest : List Char) → EndsNumber rest → skipSpace cs = v.layOut level ++ rest →
    2 * (v.layOut level).length ≤ n → value? n cs = some (v, rest)
  | v, hv, level, 0, _, _, _, _, hn => by
    -- the text of a value is not empty, so there is fuel for it
    obtain ⟨c, more, hcons, -⟩ := head_layOut hv level
    rw [hcons] at hn
    cases hn
  | .null, _, _, n + 1, cs, rest, _, hcs, hn => by
    rw [value?, hcs]
    rfl
  | .truth b, _, _, n + 1, cs, rest, _, hcs, hn => by
    rw [value?, hcs]
    cases b <;> rfl
  | .number spelling, hv, _, n + 1, cs, rest, hrest, hcs, hn => by
    rw [Value.isSpelled] at hv
    exact value?_number hv hrest hcs
  | .string s, _, _, n + 1, cs, rest, _, hcs, hn => by
    obtain ⟨body, hbody, hread⟩ := readString_quoted s
    rw [Value.layOut, hbody] at hcs
    simp [value?, hcs, hread]
  | .array [], _, _, n + 1, cs, rest, _, hcs, hn => by
    rw [value?, hcs]
    rfl
  | .array (v :: vs), hv, level, n + 1, cs, rest, _, hcs, hn => by
    rw [Value.isSpelled] at hv
    rw [Value.layOut] at hcs hn
    simp only [List.cons_append, List.append_assoc, List.nil_append] at hcs
    -- the bracket that would end an empty array does not begin an element
    obtain ⟨c, more, hhead, hc⟩ := head_itemLines_elements v vs hv (level + 1)
      (newLine level ++ ']' :: rest)
    rw [value?_of_elements hcs (by rw [hhead]; simpa using hc),
      elements?_itemLines (v :: vs) (List.cons_ne_nil _ _) hv (level + 1) level n _ rest
        (skipSpace_skipSpace _) (by simp at hn ⊢; omega)]
    rfl
  | .object [], _, _, n + 1, cs, rest, _, hcs, hn => by
    rw [value?, hcs]
    rfl
  | .object (m :: ms), hv, level, n + 1, cs, rest, _, hcs, hn => by
    rw [Value.isSpelled] at hv
    rw [Value.layOut] at hcs hn
    simp only [List.cons_append, List.append_assoc, List.nil_append] at hcs
    obtain ⟨more, hhead⟩ := head_itemLines_members m ms (level + 1)
      (newLine level ++ '\x7d' :: rest)
    rw [value?_of_members hcs (by rw [hhead, List.head?_cons]; decide),
      members?_itemLines (m :: ms) (List.cons_ne_nil _ _) hv (level + 1) level n _ rest
        (skipSpace_skipSpace _) (by simp at hn ⊢; omega)]
    rfl

/-- Elements are read from the lines that they are laid out on, as far as the bracket. -/
theorem elements?_itemLines : (vs : List Value) → vs ≠ [] → elementsSpelled vs = true →
    (level below n : Nat) → (cs rest : List Char) →
    skipSpace cs = skipSpace (itemLines level (elementTexts level vs) ++
      (newLine below ++ ']' :: rest)) →
    2 * (itemLines level (elementTexts level vs)).length ≤ n →
    elements? n cs = some (vs, rest)
  | [], h, _, _, _, _, _, _, _, _ => absurd rfl h
  | v :: vs, _, _, level, _, 0, _, _, _, hn => by
    have hpos := length_itemLines_pos level
      (List.cons_ne_nil (v.layOut level) (elementTexts level vs))
    rw [elementTexts] at hn
    omega
  | [v], _, hv, level, below, n + 1, cs, rest, hcs, hn => by
    rw [elementsSpelled, Bool.and_eq_true] at hv
    simp only [elementTexts, itemLines, List.length_append, List.append_assoc] at hcs hn
    rw [skipSpace_layOut hv.1] at hcs
    -- the line end before the element makes up for the unit of fuel
    have hpos := length_newLine_pos level
    have hvalue := value?_layOut v hv.1 level n cs (newLine below ++ ']' :: rest)
      (endsNumber_newLine below _) hcs (by omega)
    simp [elements?, hvalue, skipSpace_newLine below (show isSpace ']' = false by decide)]
  | v :: w :: vs, _, hv, level, below, n + 1, cs, rest, hcs, hn => by
    rw [elementsSpelled, Bool.and_eq_true] at hv
    rw [elementTexts, elementTexts, itemLines_cons_cons] at hcs hn
    simp only [List.length_append, List.length_cons, List.append_assoc, List.cons_append] at hcs hn
    rw [skipSpace_layOut hv.1, ← elementTexts] at hcs
    have hvalue := value?_layOut v hv.1 level n cs _ (endsNumber_comma _) hcs (by omega)
    have helements := elements?_itemLines (w :: vs) (List.cons_ne_nil _ _) hv.2 level below n _
      rest rfl (by rw [elementTexts]; omega)
    simp [elements?, hvalue, skipSpace_comma, helements]

/-- Members are read from the lines that they are laid out on, as far as the brace. -/
theorem members?_itemLines : (ms : List (Option String × Value)) → ms ≠ [] →
    membersSpelled ms = true → (level below n : Nat) → (cs rest : List Char) →
    skipSpace cs = skipSpace (itemLines level (memberTexts level ms) ++
      (newLine below ++ '\x7d' :: rest)) →
    2 * (itemLines level (memberTexts level ms)).length ≤ n →
    members? n cs = some (ms, rest)
  | [], h, _, _, _, _, _, _, _, _ => absurd rfl h
  | (key, v) :: ms, _, _, level, _, 0, _, _, _, hn => by
    have hpos := length_itemLines_pos level
      (List.cons_ne_nil (quoted key ++ ':' :: ' ' :: v.layOut level) (memberTexts level ms))
    rw [memberTexts] at hn
    omega
  | [(key, v)], _, hv, level, below, n + 1, cs, rest, hcs, hn => by
    rw [membersSpelled, Bool.and_eq_true] at hv
    simp only [memberTexts, itemLines, List.length_append, List.length_cons, List.append_assoc,
      List.cons_append] at hcs hn
    rw [skipSpace_member] at hcs
    -- the value stands behind the colon and a blank
    have hvalue := value?_layOut v hv.1 level n (' ' :: (v.layOut level ++ _))
      (newLine below ++ '\x7d' :: rest) (endsNumber_newLine below _) (skipSpace_blank hv.1 level _)
      (by omega)
    rw [members?_of_member hcs hvalue, skipSpace_newLine below (by decide)]
    rfl
  | (key, v) :: (key', w) :: ms, _, hv, level, below, n + 1, cs, rest, hcs, hn => by
    rw [membersSpelled, Bool.and_eq_true] at hv
    rw [memberTexts, memberTexts, itemLines_cons_cons] at hcs hn
    simp only [List.length_append, List.length_cons, List.append_assoc, List.cons_append] at hcs hn
    rw [skipSpace_member, ← memberTexts] at hcs
    have hvalue (after : List Char) :
        value? n (' ' :: (v.layOut level ++ ',' :: after)) = some (v, ',' :: after) :=
      value?_layOut v hv.1 level n _ _ (endsNumber_comma after) (skipSpace_blank hv.1 level _)
        (by omega)
    have hmembers := members?_itemLines ((key', w) :: ms) (List.cons_ne_nil _ _) hv.2 level below
      n _ rest rfl (by rw [memberTexts]; omega)
    rw [members?_of_member hcs (hvalue _), skipSpace_comma]
    simp [hmembers]

end

/-- What is written is read back. -/
theorem read?_write {v : Value} (hv : v.isSpelled = true) : read? v.write = some v := by
  have hvalue := value?_layOut v hv 0 (2 * v.write.length + 2) v.write [] (by rintro c ⟨⟩)
    (by
      obtain ⟨c, rest, hcons, hc, -⟩ := head_layOut hv 0
      rw [Value.write, List.append_nil, hcons, skipSpace,
        List.dropWhile_cons_of_neg (by simp [hc])])
    (by rw [Value.write]; omega)
  rw [read?, hvalue]
  rfl

end GcodeSender.Json
