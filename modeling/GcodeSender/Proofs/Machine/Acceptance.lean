import GcodeSender.Proofs.Machine.StatusReport

/-!
# `GcodeSender.Proofs.Machine.Acceptance`: which answers accept

Two tests decide what becomes of an answer. `Response.ofLine?` looks at how the line begins once
it is trimmed; `isAccepted` looks for `ok` anywhere in the line as it came. They agree on most
lines, and on an error they need not: its code may contain the two letters.

* `occursIn_iff`: the search finds a word just where the word is a part of the text.
* `infix_append_of_head`, `infix_append_of_last`: what does not contain the first, or the last,
  character of a word does not help to find the word. So trimming makes no difference
  (`infix_trim_iff`).
* `isAccepted_iff_of_error`: an error is accepted just when its code contains `ok`.
-/

set_option autoImplicit false

namespace GcodeSender

namespace Text

/-- What does not have its first character in a first part does not begin in it. -/
theorem infix_append_of_head {c : Char} {rest before cs : List Char} (h : c ∉ before) :
    c :: rest <:+: before ++ cs ↔ c :: rest <:+: cs := by
  induction before with
  | nil => rfl
  | cons b before ih =>
    obtain ⟨hb, hbefore⟩ := not_or.mp (List.mem_cons.not.mp h)
    have hbegins : ¬c :: rest <+: b :: (before ++ cs) := fun hprefix =>
      hb (List.cons_prefix_cons.mp hprefix).1
    rw [List.cons_append, List.infix_cons_iff, or_iff_right hbegins, ih hbefore]

/-- What does not have its last character in a last part does not end in it. -/
theorem infix_append_of_last {c : Char} {front cs after : List Char} (h : c ∉ after) :
    front ++ [c] <:+: cs ++ after ↔ front ++ [c] <:+: cs := by
  have hmirrored : c :: front.reverse <:+: after.reverse ++ cs.reverse ↔
      c :: front.reverse <:+: cs.reverse := infix_append_of_head (mt List.mem_reverse.mp h)
  have hword : (front ++ [c]).reverse = c :: front.reverse := List.reverse_concat ..
  rw [← List.reverse_infix, hword, List.reverse_append, hmirrored, ← hword, List.reverse_infix]

/-- Trimming takes away nothing of a word that has no blank at its ends. -/
theorem infix_trim_iff {c d : Char} {word cs : List Char} (hc : isBlank c = false)
    (hd : isBlank d = false) : c :: (word ++ [d]) <:+: trim cs ↔ c :: (word ++ [d]) <:+: cs := by
  obtain ⟨before, after, hcs, hbefore, hafter⟩ := exists_surrounded cs
  have hfirst : c ∉ before := fun h => by simp [hbefore c h] at hc
  have hlast : d ∉ after := fun h => by simp [hafter d h] at hd
  calc c :: (word ++ [d]) <:+: trim cs
      ↔ c :: (word ++ [d]) <:+: before ++ trim cs := (infix_append_of_head hfirst).symm
    _ ↔ c :: (word ++ [d]) <:+: before ++ trim cs ++ after :=
      (@infix_append_of_last d (c :: word) _ after hlast).symm
    _ ↔ c :: (word ++ [d]) <:+: cs := by rw [← hcs]

end Text

namespace Machine

/-- The search finds a word just where the word is a part of the text. -/
theorem occursIn_iff {word cs : List Char} : occursIn word cs = true ↔ word <:+: cs := by
  induction cs with
  | nil => simp [occursIn]
  | cons c cs ih =>
    rw [occursIn, Bool.or_eq_true, List.isPrefixOf_iff_prefix, ih, List.infix_cons_iff]

/-- A line is accepted just if `ok` stands anywhere in it. -/
theorem isAccepted_iff {line : String} :
    isAccepted line = true ↔ "ok".toList <:+: line.toList := occursIn_iff

/-- A line of the kind `error` is the word `error:` in some spelling, and the code. -/
theorem spelled_of_error {line code : String}
    (h : Response.ofLine? line = some (.error code)) :
    ∃ spelling rest, Text.lower spelling = "error:".toList ∧
      Text.trim line.toList = spelling ++ rest ∧ code.toList = Text.trim rest := by
  simp only [Response.ofLine?, Response.ofTrimmed?] at h
  split at h
  · cases h
  · split at h
    · cases h
    · split at h
      · rename_i rest hrest
        obtain ⟨spelling, hspelling, hline⟩ := Text.dropWord?_eq_some_iff.mp hrest
        obtain rfl := Response.error.inj (Option.some.inj h)
        exact ⟨spelling, rest, hspelling.trans (by decide), hline, by rw [String.toList_ofList]⟩
      · repeat' split at h
        all_goals cases h

/-- The word in front of the code has no part in an `ok`: whatever its spelling, there is no `k`
in it, and its last character is a colon. -/
theorem infix_error_iff {spelling rest : List Char} (h : Text.lower spelling = "error:".toList) :
    "ok".toList <:+: spelling ++ rest ↔ "ok".toList <:+: rest := by
  refine ⟨fun hinfix => ?_, fun hinfix => hinfix.trans (List.suffix_append ..).isInfix⟩
  rcases List.infix_append_iff.mp hinfix with hinside | hafter | ⟨front, back, hword, hfront, hback⟩
  · have hlower : Text.lower "ok".toList <:+: "error:".toList := h ▸ hinside.map Char.toLower
    exact absurd hlower (by decide)
  · exact hafter
  · -- the word is cut in two where its part in the spelling ends
    have hlower : Text.lower front <:+ "error:".toList := h ▸ hfront.map Char.toLower
    have hok : "ok".toList = ['o', 'k'] := by decide
    rw [hok] at hword ⊢
    rcases List.cons_eq_append_iff.mp hword with ⟨rfl, rfl⟩ | ⟨front, rfl, htail⟩
    · exact hback.isInfix
    · rcases List.cons_eq_append_iff.mp htail with ⟨rfl, -⟩ | ⟨front, rfl, hnone⟩
      · exact absurd hlower (by decide)
      · obtain ⟨rfl, -⟩ := List.append_eq_nil_iff.mp hnone.symm
        exact absurd hlower (by decide)

/-- An error is accepted just when its code contains `ok`. -/
theorem isAccepted_iff_of_error {line code : String}
    (h : Response.ofLine? line = some (.error code)) :
    isAccepted line = true ↔ "ok".toList <:+: code.toList := by
  obtain ⟨spelling, rest, hspelling, hline, hcode⟩ := spelled_of_error h
  have htrim : ∀ cs, "ok".toList <:+: Text.trim cs ↔ "ok".toList <:+: cs := fun cs =>
    @Text.infix_trim_iff 'o' 'k' [] cs (by decide) (by decide)
  calc isAccepted line = true
      ↔ "ok".toList <:+: line.toList := isAccepted_iff
    _ ↔ "ok".toList <:+: spelling ++ rest := by rw [← htrim, hline]
    _ ↔ "ok".toList <:+: rest := infix_error_iff hspelling
    _ ↔ "ok".toList <:+: code.toList := by rw [hcode, htrim]

end Machine

end GcodeSender
