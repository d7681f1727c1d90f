import GcodeSender.Proofs.Text.Utf8
import GcodeSender.Text.Lines
import Mathlib.Data.List.Basic

/-!
# `GcodeSender.Proofs.Text.Lines`: the lines of a text and of its bytes

A text can be cut into lines before it is encoded or after. A line feed and a carriage return are
one byte each and stand in no other character, so both ways give the same lines
(`byteLines_encode`). And bytes whose lines are all valid are valid as a whole
(`exists_encode_of_byteLines`): what is between the lines is valid by itself.
-/

set_option autoImplicit false

namespace GcodeSender.Text

/-- The bytes of two texts in a row are those of the first and then those of the second. -/
theorem encode_append (cs ds : List Char) : encode (cs ++ ds) = encode cs ++ encode ds :=
  List.flatMap_append

/-- Only the empty text has no bytes. -/
theorem encode_eq_nil_iff {cs : List Char} : encode cs = [] ↔ cs = [] := by
  cases cs with
  | nil => exact iff_of_true rfl rfl
  | cons c cs =>
    have hpos := encodeChar_length_pos c
    simp only [encode_cons, List.append_eq_nil_iff, reduceCtorEq, iff_false, not_and]
    intro hnil
    simp [hnil] at hpos

/-- A separator ends a piece that is empty, and the next begins. -/
theorem cut_sep {α : Type} [DecidableEq α] (sep : α) (rest : List α) :
    cut sep (sep :: rest) = ([], pieces sep rest) := by
  simp [cut, pieces]

/-! ### From texts to bytes -/

/-- The pieces between line feeds are encoded one by one. -/
theorem cut_encode (cs : List Char) :
    cut 10 (encode cs) = (encode (cut '\n' cs).1, (cut '\n' cs).2.map encode) := by
  induction cs with
  | nil => rfl
  | cons c cs ih =>
    by_cases hc : c = '\n'
    · subst hc
      have hfeed : encode ('\n' :: cs) = 10 :: encode cs := rfl
      rw [hfeed, cut_sep, cut_sep, pieces, ih]
      rfl
    · have hnone : 10 ∉ encodeChar c := mt (mem_encodeChar_iff (d := '\n') (by decide)).mp hc
      rw [encode_cons, cut_append 10 _ _ hnone, ih]
      simp [cut, hc, encode_cons]

/-- A carriage return at the end of a line is one byte at the end of its bytes. -/
theorem dropReturn_encode (line : List Char) :
    dropReturn 13 (encode line) = encode (dropReturn '\r' line) := by
  rcases List.eq_nil_or_concat' line with rfl | ⟨front, c, rfl⟩
  · rfl
  · have hsingle : encode [c] = encodeChar c := List.append_nil _
    by_cases hc : c = '\r'
    · subst hc
      have hreturn : encode ['\r'] = [13] := by decide
      rw [dropReturn, dropReturn, encode_append, hreturn, List.getLast?_concat,
        List.getLast?_concat, if_pos rfl, if_pos rfl, List.dropLast_concat, List.dropLast_concat]
    · -- the last byte belongs to the last character
      have hlast : (encode (front ++ [c])).getLast? ≠ some 13 := by
        intro h
        rw [encode_append, hsingle, List.getLast?_append] at h
        rcases Option.or_eq_some_iff.mp h with hbyte | ⟨hnone, -⟩
        · exact hc ((mem_encodeChar_iff (d := '\r') (by decide)).mp (List.mem_of_getLast? hbyte))
        · have hpos := encodeChar_length_pos c
          simp [List.getLast?_eq_none_iff.mp hnone] at hpos
      have hlast' : (front ++ [c]).getLast? ≠ some '\r' := by
        rw [List.getLast?_concat]
        exact fun h => hc (Option.some.inj h)
      rw [dropReturn, dropReturn, if_neg hlast, if_neg hlast']

/-- Lines that are closed as texts have the bytes of lines that are closed as bytes. -/
theorem closeLines_encode (first : List Char) (later : List (List Char)) :
    closeLines 13 (encode first) (later.map encode) = (closeLines '\r' first later).map encode := by
  induction later generalizing first with
  | nil =>
    simp only [List.map_nil, closeLines, encode_eq_nil_iff]
    split <;> rfl
  | cons next later ih =>
    rw [List.map_cons, closeLines, closeLines, List.map_cons, dropReturn_encode, ih]

/-- The lines of the bytes of a text are the bytes of its lines. -/
theorem byteLines_encode (cs : List Char) : byteLines (encode cs) = (lines cs).map encode := by
  rw [byteLines, linesWith, cut_encode]
  exact closeLines_encode _ _

/-! ### From bytes to texts -/

/-- Lines that are valid leave nothing invalid between them. -/
theorem exists_encode_of_closeLines {first : List UInt8} {later : List (List UInt8)}
    (h : ∀ line ∈ closeLines 13 first later, ∃ cs, line = encode cs) :
    ∃ cs, joined 10 first later = encode cs := by
  induction later generalizing first with
  | nil =>
    by_cases hfirst : first = []
    · exact ⟨[], by simp [joined, hfirst, encode]⟩
    · simpa [closeLines, hfirst, joined] using h
  | cons next later ih =>
    obtain ⟨cs, hrest⟩ := ih fun line hline => h line (List.mem_cons_of_mem _ hline)
    obtain ⟨ds, hline⟩ := h (dropReturn 13 first) List.mem_cons_self
    have hjoined : joined 10 first (next :: later) = first ++ 10 :: joined 10 next later := by
      simp [joined]
    -- the line may have been ended by a carriage return too
    by_cases hreturn : first.getLast? = some 13
    · obtain ⟨front, rfl⟩ := List.getLast?_eq_some_iff.mp hreturn
      rw [dropReturn, if_pos hreturn, List.dropLast_concat] at hline
      refine ⟨ds ++ '\r' :: '\n' :: cs, ?_⟩
      rw [hjoined, hrest, hline, encode_append]
      simp [encode, encodeChar]
    · rw [dropReturn, if_neg hreturn] at hline
      refine ⟨ds ++ '\n' :: cs, ?_⟩
      rw [hjoined, hrest, hline, encode_append]
      rfl

/-- Bytes are those of a text if each of their lines is. -/
theorem exists_encode_of_byteLines {bytes : List UInt8}
    (h : ∀ line ∈ byteLines bytes, ∃ cs, line = encode cs) : ∃ cs, bytes = encode cs := by
  obtain ⟨cs, hcs⟩ := exists_encode_of_closeLines h
  rw [joined_cut] at hcs
  exact ⟨cs, hcs⟩

end GcodeSender.Text
