import GcodeSender.Proofs.Text.Hex
import GcodeSender.Proofs.Toml.Locality
import Mathlib.Tactic.Common

/-!
# `GcodeSender.Proofs.Toml.Quoting`: a text in quotes is read back

Whatever a text holds, it is read back from the way it is written: `string?_quote`. There are
four ways, and each is chosen only for texts that it can hold.

Between single marks a text ends at the first mark, so a mark in it is escaped, or the text has
none. Between triple marks up to two marks in a row may stand for themselves, in front of the
closing ones too (`closing?_replicate`), and the text holds no longer run of them
(`longestRun_le`) or has one escaped.
-/

set_option autoImplicit false

namespace GcodeSender.Toml

/-! ## Escapes -/

/-- A character that needs no escape can be seen, unless it ends a line. -/
theorem isVisible_of_not_needsEscape {c : Char} (h : needsEscape c = false) (hline : c ≠ '\n') :
    isVisible c = true := by
  simp only [needsEscape, Bool.or_eq_false_iff, Bool.and_eq_false_iff, decide_eq_false_iff_not,
    not_not] at h
  obtain ⟨hcontrol, hdelete⟩ := h
  rcases hcontrol with (hcontrol | htab) | hfeed
  · simp [isVisible, hdelete, Char.not_lt.mp hcontrol]
  · simp [isVisible, htab]
  · exact absurd hfeed hline

/-- An escape by number is that of the character. -/
theorem escape?_escapeDigits {c : Char} (hc : needsEscape c = true) (more : List Char) :
    escape? ('u' :: (escapeDigits c ++ more)) = some (c, more) := by
  have hsmall : c.toNat < 128 := by
    simp only [needsEscape, Bool.or_eq_true, Bool.and_eq_true, decide_eq_true_eq] at hc
    rcases hc with ⟨⟨hc, -⟩, -⟩ | rfl
    · exact Nat.lt_trans (show c.toNat < 32 from hc) (by decide)
    · decide
  have hvalid : c.toNat.isValidChar := c.valid
  simp only [escape?, escapeDigits]
  rw [Text.readHex?_hexFour_toUpper (by omega)]
  simp [scalar?, hvalid]

/-- A character in a basic string is escaped, or it stands for itself: a quote where few enough
precede it, a line feed in a string of several lines, and any other that is visible. -/
theorem escapeBasic_cons (several : Bool) (most run : Nat) (c : Char) (cs : List Char) :
    (∃ e, (∀ more, escape? (e ++ more) = some (c, more)) ∧
        escapeBasic several most run (c :: cs) = '\\' :: (e ++ escapeBasic several most 0 cs)) ∨
      (c = '"' ∧ run < most ∧
        escapeBasic several most run (c :: cs) = c :: escapeBasic several most (run + 1) cs) ∨
      (c = '\n' ∧ several = true ∧
        escapeBasic several most run (c :: cs) = c :: escapeBasic several most 0 cs) ∨
      (c ≠ '"' ∧ c ≠ '\\' ∧ c ≠ '\n' ∧ c ≠ '\r' ∧ isVisible c = true ∧
        escapeBasic several most run (c :: cs) = c :: escapeBasic several most 0 cs) := by
  -- The cases come in the order in which the writer asks for them.
  rw [escapeBasic]
  split
  · rename_i hquote
    subst hquote
    split
    · exact .inr (.inl ⟨rfl, ‹_›, rfl⟩)
    · exact .inl ⟨['"'], fun _ => rfl, rfl⟩
  split
  · rename_i hslash
    subst hslash
    exact .inl ⟨['\\'], fun _ => rfl, rfl⟩
  split
  · rename_i hback
    subst hback
    exact .inl ⟨['b'], fun _ => rfl, rfl⟩
  split
  · rename_i htab
    subst htab
    exact .inl ⟨['t'], fun _ => rfl, rfl⟩
  split
  · rename_i hfeed
    subst hfeed
    split
    · exact .inr (.inr (.inl ⟨rfl, ‹_›, rfl⟩))
    · exact .inl ⟨['n'], fun _ => rfl, rfl⟩
  split
  · rename_i hform
    subst hform
    exact .inl ⟨['f'], fun _ => rfl, rfl⟩
  split
  · rename_i hreturn
    subst hreturn
    exact .inl ⟨['r'], fun _ => rfl, rfl⟩
  split
  · rename_i hneeds
    exact .inl ⟨'u' :: escapeDigits c, escape?_escapeDigits hneeds, rfl⟩
  · rename_i hquote hslash _ _ hfeed _ hreturn hneeds
    exact .inr (.inr (.inr ⟨hquote, hslash, hfeed, hreturn,
      isVisible_of_not_needsEscape (by simpa using hneeds) hfeed, rfl⟩))

/-- A basic string on one line is read back. -/
theorem readBasic_escapeBasic (cs : List Char) {n run : Nat} (hn : cs.length < n) :
    readBasic n (escapeBasic false 0 run cs ++ ['"']) = some (cs, []) := by
  induction cs generalizing n run with
  | nil =>
    obtain ⟨n, rfl⟩ := Nat.exists_eq_succ_of_ne_zero (Nat.ne_of_gt hn)
    rfl
  | cons c cs ih =>
    obtain ⟨n, rfl⟩ := Nat.exists_eq_succ_of_ne_zero (Nat.ne_zero_of_lt hn)
    have hrest (run : Nat) : readBasic n (escapeBasic false 0 run cs ++ ['"']) = some (cs, []) :=
      ih (Nat.lt_of_succ_lt_succ hn)
    -- without line breaks there are no runs of marks to break, so one character at a time
    rcases escapeBasic_cons false 0 run c cs with
      ⟨e, hescape, htext⟩ | ⟨-, hrun, -⟩ | ⟨-, hseveral, -⟩ |
        ⟨hquote, hslash, -, -, hvisible, htext⟩
    · rw [htext, List.cons_append, List.append_assoc, readBasic, if_neg (by decide), if_pos rfl,
        hescape]
      simp [hrest]
    · exact absurd hrun (Nat.not_lt_zero run)
    · cases hseveral
    · rw [htext, List.cons_append, readBasic, if_neg hquote, if_neg hslash, if_pos hvisible, hrest]
      rfl

/-- A literal string on one line is read back. -/
theorem readLiteral_append_mark {cs : List Char}
    (h : ∀ c ∈ cs, c ≠ '\'' ∧ isVisible c = true) : readLiteral (cs ++ ['\'']) = some (cs, []) := by
  induction cs with
  | nil => rfl
  | cons c cs ih =>
    obtain ⟨⟨hmark, hvisible⟩, hrest⟩ := List.forall_mem_cons.mp h
    rw [List.cons_append, readLiteral, if_neg hmark, if_pos hvisible, ih hrest]
    rfl

/-! ## Triple marks -/

/-- Up to two marks in front of the closing ones belong to the text. -/
theorem closing?_replicate (mark : Char) {run : Nat} (hrun : run ≤ 2) :
    closing? mark (List.replicate run mark ++ triple mark) =
      some (List.replicate run mark, []) := by
  have hall : List.replicate run mark ++ triple mark = List.replicate (run + 3) mark := by
    rw [← List.replicate_append_replicate]
    rfl
  simp only [closing?, hall, List.takeWhile_replicate, decide_true, if_true, List.length_replicate]
  rw [if_neg (by omega), Nat.add_sub_cancel, Nat.min_eq_left hrun, List.drop_replicate]
  simp

/-- Up to two marks do not end a string, if something else follows. -/
theorem closing?_of_short {mark c : Char} {run : Nat} (hrun : run ≤ 2) (hc : c ≠ mark)
    (cs : List Char) : closing? mark (List.replicate run mark ++ c :: cs) = none := by
  have htake : ((List.replicate run mark ++ c :: cs).takeWhile (· = mark)).length = run := by
    rw [List.takeWhile_append_of_pos (by simp), List.takeWhile_cons_of_neg (by simpa using hc)]
    simp
  simp only [closing?, htake]
  exact if_pos (by omega)

/-- The marks that a text begins with, and what follows them. -/
theorem exists_leading (mark : Char) (cs : List Char) : ∃ run,
    run = (cs.takeWhile (· = mark)).length ∧ (cs = List.replicate run mark ∨
      ∃ c rest, c ≠ mark ∧ cs = List.replicate run mark ++ c :: rest) := by
  induction cs with
  | nil => exact ⟨0, rfl, .inl rfl⟩
  | cons c cs ih =>
    by_cases hc : c = mark
    · obtain ⟨run, hrun, hcs⟩ := ih
      refine ⟨run + 1, by simp [hc, hrun], ?_⟩
      rcases hcs with hcs | ⟨d, rest, hd, hcs⟩
      · exact .inl (by rw [hc, hcs]; rfl)
      · exact .inr ⟨d, rest, hd, by rw [hc, hcs]; rfl⟩
    · exact ⟨0, by simp [hc], .inr ⟨c, cs, hc, rfl⟩⟩

/-- A bound on the longest run of a mark bounds the first run, and the longest one further on. -/
theorem longestRun_le {mark c : Char} {cs : List Char} {most : Nat}
    (h : longestRun mark (c :: cs) ≤ most) :
    ((c :: cs).takeWhile (· = mark)).length ≤ most ∧ longestRun mark cs ≤ most := by
  rw [longestRun] at h
  omega

/-- A literal string between triple marks is read back. -/
theorem readLines_literal {mark : Char} (cs : List Char) {n : Nat} (hn : cs.length < n)
    (hrun : longestRun mark cs ≤ 2) (hcs : ∀ c ∈ cs, c = '\n' ∨ isVisible c = true) :
    readLines false mark n (cs ++ triple mark) = some (cs, []) := by
  induction cs generalizing n with
  | nil =>
    obtain ⟨n, rfl⟩ := Nat.exists_eq_succ_of_ne_zero (Nat.ne_of_gt hn)
    exact readLines_of_closing (closing?_replicate mark (Nat.zero_le 2))
  | cons c cs ih =>
    obtain ⟨n, rfl⟩ := Nat.exists_eq_succ_of_ne_zero (Nat.ne_zero_of_lt hn)
    obtain ⟨hlead, hlater⟩ := longestRun_le hrun
    obtain ⟨hc, hrest⟩ := List.forall_mem_cons.mp hcs
    have hread := ih (Nat.lt_of_succ_lt_succ hn) hlater hrest
    -- Marks are read one by one, but whether they close the string is told by all in a row.
    obtain ⟨run, rfl, hall | ⟨d, rest, hd, hopen⟩⟩ := exists_leading mark (c :: cs)
    · -- nothing but marks is left, and they are taken with the closing ones
      rw [hall]
      exact readLines_of_closing (closing?_replicate mark hlead)
    · have hclosing : closing? mark (c :: (cs ++ triple mark)) = none := by
        rw [← List.cons_append, hopen, List.append_assoc, List.cons_append]
        exact closing?_of_short hlead hd _
      rw [List.cons_append]
      rcases hc with rfl | hvisible
      · rw [readLines_of_lineEnd hclosing rfl, hread]
        rfl
      · rw [readLines_of_visible hclosing hvisible (.inr rfl), hread]
        rfl

/-- How the body of a basic string between triple marks begins: with at most two quotes, counted
with those in front of it, and then with something else, if anything follows. -/
theorem escapeBasic_leading (cs : List Char) {run : Nat} (hrun : run ≤ 2) : ∃ k, k + run ≤ 2 ∧
    ((cs = List.replicate k '"' ∧ escapeBasic true 2 run cs = List.replicate k '"') ∨
      ∃ c rest, c ≠ '"' ∧ escapeBasic true 2 run cs = List.replicate k '"' ++ c :: rest) := by
  induction cs generalizing run with
  | nil => exact ⟨0, by omega, .inl ⟨rfl, rfl⟩⟩
  | cons c cs ih =>
    rcases escapeBasic_cons true 2 run c cs with
      ⟨e, -, htext⟩ | ⟨rfl, hfew, htext⟩ | ⟨rfl, -, htext⟩ | ⟨hquote, -, -, -, -, htext⟩
    · exact ⟨0, by omega, .inr ⟨'\\', _, by decide, htext⟩⟩
    · obtain ⟨k, hk, ⟨hcs, hbody⟩ | ⟨d, rest, hd, hbody⟩⟩ := ih (show run + 1 ≤ 2 by omega)
      · exact ⟨k + 1, by omega, .inl ⟨by rw [hcs]; rfl, by rw [htext, hbody]; rfl⟩⟩
      · exact ⟨k + 1, by omega, .inr ⟨d, rest, hd, by rw [htext, hbody]; rfl⟩⟩
    · exact ⟨0, by omega, .inr ⟨'\n', _, by decide, htext⟩⟩
    · exact ⟨0, by omega, .inr ⟨c, _, hquote, htext⟩⟩

/-- A basic string between triple marks is read back. -/
theorem readLines_escapeBasic (cs : List Char) {n run : Nat} (hn : cs.length < n)
    (hrun : run ≤ 2) :
    readLines true '"' n (escapeBasic true 2 run cs ++ triple '"') = some (cs, []) := by
  induction cs generalizing n run with
  | nil =>
    obtain ⟨n, rfl⟩ := Nat.exists_eq_succ_of_ne_zero (Nat.ne_of_gt hn)
    rfl
  | cons c cs ih =>
    obtain ⟨n, rfl⟩ := Nat.exists_eq_succ_of_ne_zero (Nat.ne_zero_of_lt hn)
    have hrest {run : Nat} (hrun : run ≤ 2) :
        readLines true '"' n (escapeBasic true 2 run cs ++ triple '"') = some (cs, []) :=
      ih (Nat.lt_of_succ_lt_succ hn) hrun
    obtain ⟨k, hk, ⟨hcs, hbody⟩ | ⟨d, rest, hd, hbody⟩⟩ := escapeBasic_leading (c :: cs) hrun
    · -- only quotes are left, and so few that they stand for themselves
      rw [hbody, hcs]
      exact readLines_of_closing (closing?_replicate '"' (by omega))
    · have hclosing : closing? '"' (escapeBasic true 2 run (c :: cs) ++ triple '"') = none := by
        rw [hbody, List.append_assoc, List.cons_append]
        exact closing?_of_short (by omega) hd _
      rcases escapeBasic_cons true 2 run c cs with ⟨e, hescape, htext⟩ | ⟨rfl, hfew, htext⟩ |
          ⟨rfl, -, htext⟩ | ⟨-, hslash, -, -, hvisible, htext⟩
      · rw [htext, List.cons_append, List.append_assoc] at hclosing ⊢
        rw [readLines_of_escape hclosing (hescape _), hrest (Nat.zero_le 2)]
        rfl
      · rw [htext, List.cons_append] at hclosing ⊢
        rw [readLines_of_visible hclosing (by decide) (.inl (by decide)), hrest (by omega)]
        rfl
      · rw [htext, List.cons_append] at hclosing ⊢
        rw [readLines_of_lineEnd hclosing rfl, hrest (Nat.zero_le 2)]
        rfl
      · rw [htext, List.cons_append] at hclosing ⊢
        rw [readLines_of_visible hclosing hvisible (.inl hslash), hrest (Nat.zero_le 2)]
        rfl

/-! ## The choice -/

/-- A mark that occurs makes a run. -/
theorem longestRun_pos {mark : Char} {cs : List Char} (h : mark ∈ cs) :
    0 < longestRun mark cs := by
  induction cs with
  | nil => cases h
  | cons c cs ih =>
    rw [longestRun]
    rcases List.mem_cons.mp h with rfl | hcs
    · exact Nat.lt_of_lt_of_le (by simp) (Nat.le_max_left _ _)
    · exact Nat.lt_of_lt_of_le (ih hcs) (Nat.le_max_right _ _)

/-- What holds of a text that is written in a style. -/
inductive Fits (cs : List Char) : Style → Prop where
  | basic (hline : '\n' ∉ cs) : Fits cs ⟨true, false⟩
  | literal (h : ∀ c ∈ cs, c ≠ '\'' ∧ isVisible c = true) : Fits cs ⟨false, false⟩
  | basicLines : Fits cs ⟨true, true⟩
  | literalLines (hrun : longestRun '\'' cs ≤ 2) (h : ∀ c ∈ cs, c = '\n' ∨ isVisible c = true) :
      Fits cs ⟨false, true⟩

/-- A text fits the style that it is written in. -/
theorem fits_styleFor (cs : List Char) : Fits cs (styleFor cs) := by
  have hplain (hcontrol : cs.any needsEscape = false) :
      ∀ c ∈ cs, c = '\n' ∨ isVisible c = true := by
    intro c hc
    by_cases hline : c = '\n'
    · exact .inl hline
    · exact .inr (isVisible_of_not_needsEscape
        (Bool.eq_false_iff.mpr (List.any_eq_false.mp hcontrol c hc)) hline)
  have hlines (hseveral : cs.contains '\n' = false) : '\n' ∉ cs := by
    simpa using hseveral
  simp only [styleFor]
  -- the branches are those of `styleFor`, and what each asked for is what its style needs
  split
  · rename_i h
    simp only [Bool.and_eq_true, Bool.not_eq_true'] at h
    exact .basic (hlines h.2)
  split
  · rename_i h
    simp only [Bool.and_eq_true, Bool.not_eq_true', decide_eq_true_eq] at h
    obtain ⟨⟨hcontrol, hticks⟩, hseveral⟩ := h
    refine .literal fun c hc => ⟨?_, ?_⟩
    · rintro rfl
      exact absurd hticks (Nat.ne_of_gt (longestRun_pos hc))
    · rcases hplain hcontrol c hc with rfl | hvisible
      · exact absurd hc (hlines hseveral)
      · exact hvisible
  split
  · exact .basicLines
  split
  · rename_i h
    simp only [Bool.and_eq_true, Bool.not_eq_true', decide_eq_true_eq] at h
    exact .literalLines h.2 (hplain h.1)
  · cases hseveral : cs.contains '\n' with
    | true => exact .basicLines
    | false => exact .basic (hlines hseveral)

/-! ## Reading back -/

/-- A text between single marks does not begin with three. -/
theorem dropLeading?_triple {mark : Char} {body : List Char} (h : body.head? ≠ some mark) :
    Text.dropLeading? (triple mark) (mark :: (body ++ [mark])) = none := by
  cases body with
  | nil => simp [triple, Text.dropLeading?]
  | cons c body =>
    have hc : mark ≠ c := fun heq => h (by rw [heq]; rfl)
    simp [triple, Text.dropLeading?, hc]

/-- Another character does not begin three marks. -/
theorem dropLeading?_triple_other {mark c : Char} (h : mark ≠ c) (cs : List Char) :
    Text.dropLeading? (triple mark) (c :: cs) = none := by
  simp [triple, Text.dropLeading?, h]

/-- Escapes do not make a text shorter. -/
theorem length_le_escapeBasic (several : Bool) (most run : Nat) (cs : List Char) :
    cs.length ≤ (escapeBasic several most run cs).length := by
  induction cs generalizing run with
  | nil => exact Nat.zero_le _
  | cons c cs ih =>
    have hzero := ih 0
    have hnext := ih (run + 1)
    rcases escapeBasic_cons several most run c cs with
      ⟨e, -, htext⟩ | ⟨-, -, htext⟩ | ⟨-, -, htext⟩ | ⟨-, -, -, -, -, htext⟩
    all_goals
      rw [htext]
      simp only [List.length_cons, List.length_append]
      omega

/-- A text in quotes with escapes is read as the text. -/
theorem string?_basic (cs : List Char) :
    string? ('"' :: (escapeBasic false 0 0 cs ++ ['"'])) = some (cs, []) := by
  have hhead : (escapeBasic false 0 0 cs).head? ≠ some '"' := by
    cases cs with
    | nil => nofun
    | cons c cs =>
      rcases escapeBasic_cons false 0 0 c cs with
        ⟨e, -, htext⟩ | ⟨-, hrun, -⟩ | ⟨-, hseveral, -⟩ | ⟨hquote, -, -, -, -, htext⟩
      · rw [htext]
        simp
      · exact absurd hrun (Nat.lt_irrefl 0)
      · cases hseveral
      · rw [htext]
        simpa using hquote
  have hlength := length_le_escapeBasic false 0 0 cs
  rw [string?, dropLeading?_triple hhead, dropLeading?_triple_other (by decide)]
  exact readBasic_escapeBasic cs (by rw [List.length_append]; omega)

/-- A text between ticks is read as it stands if it has no tick and can be seen. -/
theorem string?_literal {cs : List Char} (h : ∀ c ∈ cs, c ≠ '\'' ∧ isVisible c = true) :
    string? ('\'' :: (cs ++ ['\''])) = some (cs, []) := by
  have hhead : cs.head? ≠ some '\'' := fun hhead =>
    (h _ (List.mem_of_mem_head? (by rw [hhead]; rfl))).1 rfl
  rw [string?, dropLeading?_triple_other (by decide), dropLeading?_triple hhead]
  exact readLiteral_append_mark h

/-- The line end behind the opening marks is dropped, and no other. -/
theorem dropLineEnd_body {several : Bool} {text : List Char}
    (h : several = false → ∀ c ∈ text.head?, c ≠ '\n' ∧ c ≠ '\r') :
    dropLineEnd ((if several then ['\n'] else []) ++ text) = text := by
  cases several with
  | true => rfl
  | false =>
    cases text with
    | nil => rfl
    | cons c text =>
      obtain ⟨hfeed, hreturn⟩ := h rfl c rfl
      simp [dropLineEnd, lineEnd?_of_ne hfeed hreturn]

/-- A string between triple marks is read as its body is. -/
theorem string?_lines {basic several : Bool} {mark : Char} {body cs : List Char}
    (hmark : (basic, mark) ∈ [(true, '"'), (false, '\'')])
    (hhead : several = false → ∀ c ∈ (body ++ triple mark).head?, c ≠ '\n' ∧ c ≠ '\r')
    (hread : ∀ n, body.length < n →
      readLines basic mark n (body ++ triple mark) = some (cs, [])) :
    string? (triple mark ++ (if several then ['\n'] else []) ++ body ++ triple mark) =
      some (cs, []) := by
  have hlines : readLines basic mark
      (((if several then ['\n'] else []) ++ (body ++ triple mark)).length + 1)
      (dropLineEnd ((if several then ['\n'] else []) ++ (body ++ triple mark))) =
        some (cs, []) := by
    rw [dropLineEnd_body hhead]
    exact hread _ (by simp only [List.length_append]; omega)
  rw [List.append_assoc, List.append_assoc]
  simp only [List.mem_cons, Prod.mk.injEq, List.not_mem_nil, or_false] at hmark
  rcases hmark with ⟨rfl, rfl⟩ | ⟨rfl, rfl⟩
  · exact hlines
  · exact hlines

/-- A text between three quotes with escapes is read as the text, of however many lines it is. -/
theorem string?_basicLines (cs : List Char) :
    string? (triple '"' ++ (if cs.contains '\n' then ['\n'] else []) ++
      escapeBasic true 2 0 cs ++ triple '"') = some (cs, []) := by
  have hlength := length_le_escapeBasic true 2 0 cs
  -- Without a line feed in the text there is none behind the marks either. What the text begins
  -- with stands there then, and must not be dropped as a line end.
  refine string?_lines (show (true, '"') ∈ _ by decide) (fun hseveral c hc => ?_) fun n hn =>
    readLines_escapeBasic cs (Nat.lt_of_le_of_lt hlength hn) (Nat.zero_le 2)
  cases cs with
  | nil =>
    cases hc
    decide
  | cons d cs =>
    rcases escapeBasic_cons true 2 0 d cs with
      ⟨e, -, htext⟩ | ⟨rfl, -, htext⟩ | ⟨rfl, -, -⟩ | ⟨-, -, hfeed, hreturn, -, htext⟩
    · rw [htext] at hc
      cases hc
      decide
    · rw [htext] at hc
      cases hc
      decide
    · simp at hseveral
    · rw [htext] at hc
      cases hc
      exact ⟨hfeed, hreturn⟩

/-- A text between three ticks is read as it stands if it has no three ticks in a row. -/
theorem string?_literalLines {cs : List Char} (hrun : longestRun '\'' cs ≤ 2)
    (h : ∀ c ∈ cs, c = '\n' ∨ isVisible c = true) :
    string? (triple '\'' ++ (if cs.contains '\n' then ['\n'] else []) ++ cs ++ triple '\'') =
      some (cs, []) := by
  refine string?_lines (show (false, '\'') ∈ _ by decide) (fun hseveral c hc => ?_) fun n hn =>
    readLines_literal cs hn hrun h
  cases cs with
  | nil =>
    cases hc
    decide
  | cons d cs =>
    cases hc
    rcases h c List.mem_cons_self with rfl | hvisible
    · simp at hseveral
    · refine ⟨?_, ?_⟩ <;> (rintro rfl; cases hvisible)

/-- A text is read back from the way it is written. -/
theorem string?_quote (cs : List Char) : string? (quote cs) = some (cs, []) := by
  have hfits := fits_styleFor cs
  simp only [quote]
  generalize styleFor cs = style at hfits
  cases hfits with
  | basic hline => exact string?_basic cs
  | literal h => exact string?_literal h
  | basicLines => exact string?_basicLines cs
  | literalLines hrun h => exact string?_literalLines hrun h

end GcodeSender.Toml
