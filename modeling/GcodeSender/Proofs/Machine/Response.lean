import GcodeSender.Proofs.Text.Blank
import GcodeSender.Session.Reading

/-!
# `GcodeSender.Proofs.Machine.Response`: what is no answer

Two modules read a line from the controller: one looks for a status report, the
other sorts the line into kinds. Each trims the line first. `trim_trim` says that the
second trim finds nothing left to do, so the two agree on what a status report is.

* `ofTrimmed?_framed`: a framed text is of the kind `status`, whatever it contains.
* `isAnswer_of_report`: a line that is read as a status report answers no command.
* `isAnswer_of_isBanner`: nor does the banner after a reset.
-/

set_option autoImplicit false

namespace GcodeSender

namespace Machine

/-- A text in a frame begins with its opening bracket. -/
theorem cons_of_inFrame? {cs inner : List Char} (h : inFrame? cs = some inner) :
    ∃ rest, cs = '<' :: rest := by
  unfold inFrame? at h
  split at h
  · exact ⟨_, rfl⟩
  · cases h

/-- A text begins with no word that begins with another letter. -/
theorem dropWord?_of_head {word rest : List Char} {c : Char}
    (h : (word.map Char.toLower).head? ≠ some c.toLower) (hne : word ≠ []) :
    Text.dropWord? word (c :: rest) = none := by
  have hdiffer : Text.sameIgnoringCase ((c :: rest).take word.length) word = false := by
    cases word with
    | nil => exact absurd rfl hne
    | cons d word =>
      have hd : d.toLower ≠ c.toLower := by simpa using h
      simp [Text.sameIgnoringCase, Text.lower, hd.symm]
  rw [Text.dropWord?, hdiffer]
  rfl

/-- A framed text is of the kind `status`, whatever it contains. -/
theorem ofTrimmed?_framed {cs : List Char} (hframed : isFramed cs = true) (h : Text.trim cs = cs) :
    Response.ofTrimmed? cs = some .status := by
  obtain ⟨inner, hinner⟩ := Option.isSome_iff_exists.mp hframed
  rw [h] at hinner
  obtain ⟨rest, rfl⟩ := cons_of_inFrame? hinner
  -- none of the kinds that are tried earlier begins with a bracket
  have hok : '<' :: rest ≠ "ok".toList := fun heq => absurd (List.cons.inj heq).1 (by decide)
  have herror : Text.dropWord? "error:".toList ('<' :: rest) = none :=
    dropWord?_of_head (by decide) (by decide)
  have halarm : Text.dropWord? "alarm:".toList ('<' :: rest) = none :=
    dropWord?_of_head (by decide) (by decide)
  simp only [Response.ofTrimmed?, hok, herror, halarm, hframed, reduceCtorEq, if_false, if_true]

/-- A banner begins with the first letter of the name of the firmware. -/
theorem cons_of_isBanner {cs : List Char} (h : isBanner cs = true) : ∃ rest, cs = 'G' :: rest := by
  rcases Bool.or_eq_true_iff.mp h with h | h <;>
    obtain ⟨rest, rfl⟩ := List.isPrefixOf_iff_prefix.mp h <;> exact ⟨_, rfl⟩

/-- A banner is of the kind `welcome`, whatever follows the name. -/
theorem ofTrimmed?_banner {cs : List Char} (hbanner : isBanner cs = true)
    (h : Text.trim cs = cs) : Response.ofTrimmed? cs = some (.welcome (String.ofList cs)) := by
  obtain ⟨rest, rfl⟩ := cons_of_isBanner hbanner
  -- none of the kinds that are tried earlier begins with that letter
  have hok : 'G' :: rest ≠ "ok".toList := fun heq => absurd (List.cons.inj heq).1 (by decide)
  have herror : Text.dropWord? "error:".toList ('G' :: rest) = none :=
    dropWord?_of_head (by decide) (by decide)
  have halarm : Text.dropWord? "alarm:".toList ('G' :: rest) = none :=
    dropWord?_of_head (by decide) (by decide)
  have hframed : isFramed ('G' :: rest) = false := by rw [isFramed, h]; rfl
  have hbracketed : isBracketed ('G' :: rest) = false := rfl
  simp only [Response.ofTrimmed?, hok, herror, halarm, hframed, hbracketed, hbanner, reduceCtorEq,
    Bool.false_eq_true, if_false, if_true]

end Machine

/-- A line that is read as a status report answers no command. -/
theorem Session.isAnswer_of_report {line : String} {r : Machine.StatusReport}
    (h : Machine.StatusReport.ofLine? line = some r) : isAnswer line = false := by
  have hframed : Machine.isFramed (Text.trim line.toList) = true := by
    rw [Machine.isFramed, Text.trim_trim]
    simp only [Machine.StatusReport.ofLine?, Machine.StatusReport.ofChars?] at h
    split at h
    · cases h
    · rename_i inner hinner
      rw [hinner]
      rfl
  have hkind : Machine.Response.ofLine? line = some .status :=
    Machine.ofTrimmed?_framed hframed (Text.trim_trim _)
  rw [isAnswer, hkind]
  rfl

/-- A banner answers no command. -/
theorem Session.isAnswer_of_isBanner {line : String}
    (h : Machine.isBanner (Text.trim line.toList) = true) : isAnswer line = false := by
  rw [isAnswer, Machine.Response.ofLine?, Machine.ofTrimmed?_banner h (Text.trim_trim _)]
  rfl

end GcodeSender
