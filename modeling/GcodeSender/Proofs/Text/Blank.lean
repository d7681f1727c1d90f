import GcodeSender.Text.Blank
import Mathlib.Data.List.DropRight
import Mathlib.Tactic.Common

/-!
# `GcodeSender.Proofs.Text.Blank`: what trimming leaves

`trim` drops the blanks at the two ends of a text and nothing else. So a text is what trimming
leaves of it between blanks (`exists_surrounded`), blanks around it make no difference
(`trim_surrounded`), and a text is left as it is just when neither of its ends is blank
(`trim_eq_self_iff`), as is every text that was trimmed already (`trim_trim`).
-/

set_option autoImplicit false

namespace GcodeSender.Text

/-- What begins with no blank still does so when blanks at its end are dropped. -/
theorem trimStart_trimEnd {cs : List Char} (h : trimStart cs = cs) :
    trimStart (trimEnd cs) = trimEnd cs := by
  have hhead := List.dropWhile_eq_self_iff.mp h
  refine List.dropWhile_eq_self_iff.mpr fun hpos => ?_
  -- the text without its end is a beginning of the text, so the two begin alike
  have hbegins : trimEnd cs <+: cs := List.rdropWhile_prefix isBlank cs
  rw [hbegins.getElem hpos]
  exact hhead (Nat.lt_of_lt_of_le hpos hbegins.length_le)

/-- Trimming twice is trimming once. -/
theorem trim_trim (cs : List Char) : trim (trim cs) = trim cs := by
  have hstart : trimStart (trimStart cs) = trimStart cs := List.dropWhile_idempotent isBlank _
  have hend : trimEnd (trimEnd (trimStart cs)) = trimEnd (trimStart cs) :=
    List.rdropWhile_idempotent isBlank _
  rw [trim, trim, trimStart_trimEnd hstart, hend]

/-- What is blank at the end makes no difference to what is trimmed. -/
theorem trimEnd_append {cs after : List Char} (h : ∀ c ∈ after, isBlank c = true) :
    trimEnd (cs ++ after) = trimEnd cs := by
  have hafter : ∀ c ∈ after.reverse, isBlank c = true := fun c hc => h c (List.mem_reverse.mp hc)
  rw [trimEnd, trimEnd, List.reverse_append, List.dropWhile_append_of_pos hafter]

/-- Blanks around a text are trimmed away with those of the text. -/
theorem trim_surrounded {before cs after : List Char} (hbefore : ∀ c ∈ before, isBlank c = true)
    (hafter : ∀ c ∈ after, isBlank c = true) : trim (before ++ cs ++ after) = trim cs := by
  have hstart : trimStart (before ++ cs ++ after) = trimStart (cs ++ after) := by
    rw [trimStart, trimStart, List.append_assoc, List.dropWhile_append_of_pos hbefore]
  rw [trim, trim, hstart, trimStart, trimStart, List.dropWhile_append]
  split
  · -- the text is blank, and so is what follows it
    rename_i hblank
    rw [List.isEmpty_iff.mp hblank, List.dropWhile_eq_nil_iff.mpr hafter]
  · exact trimEnd_append hafter

/-- Something is left of a text just when not all of it is blank. -/
theorem trim_ne_nil_iff {cs : List Char} : trim cs ≠ [] ↔ ∃ c ∈ cs, isBlank c = false := by
  constructor
  · intro h
    by_contra hblank
    have hall : ∀ c ∈ cs, isBlank c = true := fun c hc => by
      by_contra hsolid
      exact hblank ⟨c, hc, Bool.eq_false_iff.mpr hsolid⟩
    refine h ?_
    rw [trim, trimStart, List.dropWhile_eq_nil_iff.mpr hall]
    rfl
  · rintro ⟨c, hc, hsolid⟩ h
    have hstart : cs.dropWhile isBlank ≠ [] := fun h => by
      rw [List.dropWhile_eq_nil_iff.mp h c hc] at hsolid
      cases hsolid
    -- the first character that is kept is not blank, so the end does not take it either
    have hend : ∀ d ∈ (trimStart cs).reverse, isBlank d = true :=
      List.dropWhile_eq_nil_iff.mp (List.reverse_eq_nil_iff.mp h)
    have hhead := List.head_dropWhile_not isBlank hstart
    rw [hend _ (List.mem_reverse.mpr (List.head_mem hstart))] at hhead
    cases hhead

/-- A text is what trimming leaves of it, with blanks around. -/
theorem exists_surrounded (cs : List Char) :
    ∃ before after, cs = before ++ trim cs ++ after ∧ (∀ c ∈ before, isBlank c = true) ∧
      ∀ c ∈ after, isBlank c = true := by
  refine ⟨cs.takeWhile isBlank, ((trimStart cs).reverse.takeWhile isBlank).reverse, ?_,
    fun c hc => List.mem_takeWhile_imp hc,
    fun c hc => List.mem_takeWhile_imp (List.mem_reverse.mp hc)⟩
  have hend : trim cs ++ ((trimStart cs).reverse.takeWhile isBlank).reverse = trimStart cs := by
    rw [trim, trimEnd, ← List.reverse_append, List.takeWhile_append_dropWhile, List.reverse_reverse]
  rw [List.append_assoc, hend, trimStart, List.takeWhile_append_dropWhile]

/-- Nothing is dropped just where neither end is blank. -/
theorem trim_eq_self_iff {cs : List Char} :
    trim cs = cs ↔ (∀ c, cs.head? = some c → isBlank c = false) ∧
      ∀ c, cs.getLast? = some c → isBlank c = false := by
  have hlength : ∀ cs : List Char, (trim cs).length ≤ cs.length := by
    intro cs
    obtain ⟨before, after, hcs, -, -⟩ := exists_surrounded cs
    conv_rhs => rw [hcs]
    simp only [List.length_append]
    omega
  constructor
  · intro h
    refine ⟨fun c hc => ?_, fun c hc => ?_⟩
    · obtain ⟨rest, rfl⟩ := List.head?_eq_some_iff.mp hc
      -- a blank at the beginning would be missing
      refine eq_false_of_ne_true fun hblank => ?_
      have htrim : trim ([c] ++ rest ++ []) = trim rest :=
        trim_surrounded (List.forall_mem_singleton.mpr hblank) (by simp)
      rw [List.append_nil] at htrim
      have hlost := hlength rest
      rw [← htrim, List.singleton_append, h, List.length_cons] at hlost
      omega
    · obtain ⟨front, rfl⟩ := List.getLast?_eq_some_iff.mp hc
      refine eq_false_of_ne_true fun hblank => ?_
      have htrim : trim ([] ++ front ++ [c]) = trim front :=
        trim_surrounded (by simp) (List.forall_mem_singleton.mpr hblank)
      have hlost := hlength front
      rw [← htrim, List.nil_append, h, List.length_append, List.length_singleton] at hlost
      omega
  · rintro ⟨hhead, hlast⟩
    have hstart : trimStart cs = cs := by
      cases cs with
      | nil => rfl
      | cons c rest => exact List.dropWhile_cons_of_neg (by simp [hhead c rfl])
    rw [trim, hstart]
    rcases List.eq_nil_or_concat' cs with rfl | ⟨front, c, rfl⟩
    · rfl
    · have hsolid : isBlank c = false := hlast c (List.getLast?_concat ..)
      rw [trimEnd, List.reverse_concat, List.dropWhile_cons_of_neg (by simp [hsolid]),
        ← List.reverse_concat, List.reverse_reverse]

end GcodeSender.Text
