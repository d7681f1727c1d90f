/-!
# `GcodeSender.Text.Split`: pieces between separators

Status reports separate their fields by one character, positions their
axes by another, and programs and the serial stream their lines by a
third. `pieces` cuts a sequence at every separator and `joined` puts
the separators back; the two are inverse, so a report and its fields
carry the same information.

The sequence may hold characters or bytes. That the lines of a text
are the texts of its byte lines is then a statement about one function
at two types.
-/

set_option autoImplicit false

namespace GcodeSender.Text

variable {α : Type} [DecidableEq α]

/-- The first piece of a text and the pieces after it. A text without
the separator is one piece, and so is the empty text. -/
def cut (sep : α) : List α → List α × List (List α)
  | [] => ([], [])
  | c :: rest =>
    let (piece, pieces) := cut sep rest
    if c = sep then ([], piece :: pieces) else (c :: piece, pieces)

/-- The pieces of a text between the separators, at least one. -/
def pieces (sep : α) (cs : List α) : List (List α) :=
  (cut sep cs).1 :: (cut sep cs).2

/-- A first piece and later ones with the separator in front of each
later one. -/
def joined (sep : α) (piece : List α) (later : List (List α)) : List α :=
  piece ++ later.flatMap (sep :: ·)

/-- The text before the first separator and the text after it. -/
def cutOnce? (sep : α) : List α → Option (List α × List α)
  | [] => none
  | c :: rest =>
    if c = sep then some ([], rest)
    else (cutOnce? sep rest).map fun (before, after) => (c :: before, after)

/-- What is left of a text that begins with the given one. -/
def dropLeading? : List α → List α → Option (List α)
  | [], cs => some cs
  | _ :: _, [] => none
  | p :: ps, c :: cs => if p = c then dropLeading? ps cs else none

theorem joined_cut (sep : α) (cs : List α) :
    joined sep (cut sep cs).1 (cut sep cs).2 = cs := by
  induction cs with
  | nil => rfl
  | cons c rest ih =>
    by_cases h : c = sep
    · simp [cut, h, joined] at ih ⊢
      exact ih
    · simp [cut, h, joined] at ih ⊢
      exact ih

theorem sep_not_mem_cut_fst (sep : α) (cs : List α) : sep ∉ (cut sep cs).1 := by
  induction cs with
  | nil => simp [cut]
  | cons c rest ih =>
    by_cases h : c = sep
    · simp [cut, h]
    · simp [cut, h, ih, Ne.symm h]

theorem sep_not_mem_of_mem_cut_snd (sep : α) (cs : List α) :
    ∀ piece ∈ (cut sep cs).2, sep ∉ piece := by
  induction cs with
  | nil => simp [cut]
  | cons c rest ih =>
    by_cases h : c = sep
    · have := sep_not_mem_cut_fst sep rest
      simp only [cut, h, if_true, List.mem_cons]
      rintro piece (rfl | hp)
      · exact this
      · exact ih piece hp
    · simpa [cut, h] using ih

/-- A piece that holds no separator is cut off whole. -/
theorem cut_append (sep : α) (piece rest : List α) (h : sep ∉ piece) :
    cut sep (piece ++ rest) = (piece ++ (cut sep rest).1, (cut sep rest).2) := by
  induction piece with
  | nil => simp
  | cons c piece ih =>
    simp only [List.mem_cons, not_or] at h
    simp [cut, ih h.2, Ne.symm h.1]

theorem cut_joined (sep : α) (piece : List α) (later : List (List α))
    (hp : sep ∉ piece) (hl : ∀ p ∈ later, sep ∉ p) :
    cut sep (joined sep piece later) = (piece, later) := by
  induction later generalizing piece with
  | nil => simpa [joined, cut] using cut_append sep piece [] hp
  | cons p later ih =>
    have := ih p (hl p (by simp)) fun q hq => hl q (by simp [hq])
    unfold joined at this ⊢
    rw [cut_append sep piece _ hp]
    simp [cut, this]

end GcodeSender.Text
