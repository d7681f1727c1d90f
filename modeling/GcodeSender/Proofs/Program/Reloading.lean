import GcodeSender.Proofs.Program.Loading
import Mathlib.Logic.Function.Iterate

/-!
# `GcodeSender.Proofs.Program.Reloading`: loading the lines of a program again

A source line is stripped of byte order marks and then of blanks, once each and in this order. The
two do not make a clean line in every case: blanks that are dropped may uncover a mark, and the
line is then sent with the mark at its beginning (`head?_clean_eq_mark_iff`), even if a comment
follows it. Nothing else is left to clean, so a mark is the only thing that loading the lines
again can find (`clean_clean_eq_iff`), and each further load finds fewer (`marks_reload_lt`).

* `reload_unchanged_iff`: loading again changes nothing just where no line begins with a mark.
* `reload_drops_mark`: a program that is changed.
-/

set_option autoImplicit false

namespace GcodeSender.Program

/-- The byte order mark. -/
def mark : Char := '\ufeff'

/-- The program of a program's own lines. -/
def reload (p : Program) : Program := ofLines p.lines

/-! ### One line -/

/-- A byte order mark is no blank. -/
theorem isBlank_mark : Text.isBlank mark = false := by decide

/-- Marks in front of a line go first, then the blanks around it. -/
theorem clean_eq (source : List Char) :
    clean source = Text.trim (source.dropWhile (· = mark)) := rfl

/-- What is cleaned has no blanks around it. -/
theorem trim_clean (source : List Char) : Text.trim (clean source) = clean source :=
  Text.trim_trim _

/-- Trimming a text leaves a part of it. -/
theorem trim_sublist (cs : List Char) : List.Sublist (Text.trim cs) cs := by
  obtain ⟨before, after, hcs, -, -⟩ := Text.exists_surrounded cs
  conv_rhs => rw [hcs, List.append_assoc]
  exact (List.sublist_append_left _ _).trans (List.sublist_append_right _ _)

/-- To clean a line only takes characters away. -/
theorem clean_sublist (source : List Char) : List.Sublist (clean source) source :=
  (trim_sublist _).trans (List.dropWhile_suffix _).sublist

/-- A text without a mark in front loses blanks only. -/
theorem clean_of_head? {cs : List Char} (h : cs.head? ≠ some mark) : clean cs = Text.trim cs := by
  rw [clean_eq]
  cases cs with
  | nil => rfl
  | cons c rest =>
    have hc : c ≠ mark := by simpa using h
    rw [List.dropWhile_cons_of_neg (by simpa using hc)]

/-- A mark in front is dropped, and what is dropped with it does not depend on it. -/
theorem clean_mark_cons (rest : List Char) : clean (mark :: rest) = clean rest := by
  rw [clean_eq, clean_eq, List.dropWhile_cons_of_pos (by simp)]

/-- Cleaning a cleaned line changes nothing just where it does not begin with a mark. -/
theorem clean_clean_eq_iff (source : List Char) :
    clean (clean source) = clean source ↔ (clean source).head? ≠ some mark := by
  constructor
  · intro h hmark
    obtain ⟨rest, hrest⟩ := List.head?_eq_some_iff.mp hmark
    -- the mark would be missing
    have hlength := (clean_sublist rest).length_le
    rw [hrest, clean_mark_cons] at h
    rw [h, List.length_cons] at hlength
    omega
  · intro h
    rw [clean_of_head? h, trim_clean]

/-- What is left of blanks and a text that begins with a solid character begins with it. -/
theorem head?_trim_append {blanks : List Char} (hblanks : ∀ c ∈ blanks, Text.isBlank c = true)
    {c : Char} (hc : Text.isBlank c = false) (rest : List Char) :
    (Text.trim (blanks ++ c :: rest)).head? = some c := by
  have hafter : Text.trim (blanks ++ c :: rest ++ []) = Text.trim (c :: rest) :=
    Text.trim_surrounded hblanks (by simp)
  rw [List.append_nil] at hafter
  -- the solid character is not trimmed, whatever comes behind it
  have hstart : Text.trimStart (c :: rest) = c :: rest :=
    List.dropWhile_cons_of_neg (by simp [hc])
  have hbegins : Text.trim (c :: rest) <+: c :: rest := by
    rw [Text.trim, hstart]
    exact List.rdropWhile_prefix Text.isBlank _
  have hsome : Text.trim (c :: rest) ≠ [] :=
    Text.trim_ne_nil_iff.mpr ⟨c, List.mem_cons_self, hc⟩
  rw [hafter]
  obtain ⟨d, front, hfront⟩ := List.exists_cons_of_ne_nil hsome
  rw [hfront] at hbegins ⊢
  exact congrArg some (List.cons_prefix_cons.mp hbegins).1

/-- A line is sent with a mark in front just where blanks stood before the mark, with nothing but
marks before them. -/
theorem head?_clean_eq_mark_iff (source : List Char) :
    (clean source).head? = some mark ↔
      ∃ marks blanks rest, source = marks ++ blanks ++ mark :: rest ∧ (∀ c ∈ marks, c = mark) ∧
        blanks ≠ [] ∧ ∀ c ∈ blanks, Text.isBlank c = true := by
  constructor
  · intro h
    obtain ⟨before, after, hsource, hbefore, -⟩ :=
      Text.exists_surrounded (source.dropWhile (· = mark))
    obtain ⟨rest, hrest⟩ := List.head?_eq_some_iff.mp h
    rw [← clean_eq, hrest] at hsource
    refine ⟨source.takeWhile (· = mark), before, rest ++ after, ?_, ?_, ?_, hbefore⟩
    · rw [List.append_assoc, ← List.cons_append, ← List.append_assoc before, ← hsource,
        List.takeWhile_append_dropWhile]
    · intro c hc
      simpa using List.mem_takeWhile_imp hc
    · -- without blanks before it, the mark would have been dropped with those before it
      rintro rfl
      have hhead := List.head?_dropWhile_not (· = mark) source
      rw [hsource] at hhead
      simp at hhead
  · rintro ⟨marks, blanks, rest, rfl, hmarks, hsome, hblanks⟩
    obtain ⟨b, more, rfl⟩ := List.exists_cons_of_ne_nil hsome
    have hb : b ≠ mark := by
      rintro rfl
      have hblank := hblanks mark List.mem_cons_self
      rw [isBlank_mark] at hblank
      cases hblank
    rw [clean_eq, List.append_assoc, List.dropWhile_append_of_pos (by simpa using hmarks),
      List.cons_append, List.dropWhile_cons_of_neg (by simpa using hb)]
    exact head?_trim_append hblanks isBlank_mark rest

/-! ### A program -/

/-- A line of a program is as it was cleaned. -/
theorem exists_clean_of_mem {source : List String} {line : String}
    (h : line ∈ (ofLines source).lines) :
    ∃ origin : List Char, line.toList = clean origin ∧ isSendable (clean origin) = true := by
  obtain ⟨hsent, origin, -, rfl⟩ := isSent_of_mem h
  refine ⟨origin.toList, String.toList_ofList, isSendable_iff.mpr ⟨?_, ?_⟩⟩
  · intro hempty
    exact hsent.ne_empty (congrArg String.ofList hempty)
  · have hcomment := hsent.no_comment
    rwa [cleaned, String.toList_ofList] at hcomment

/-- How many marks stand in some lines. -/
def marks (lines : List String) : Nat := (lines.flatMap String.toList).count mark

/-- No lines have no marks. -/
theorem marks_nil : marks [] = 0 := rfl

/-- The marks of lines are counted line by line. -/
theorem marks_cons (line : String) (lines : List String) :
    marks (line :: lines) = line.toList.count mark + marks lines := by
  rw [marks, List.flatMap_cons, List.count_append, marks]

/-- A line of a program that does not begin with a mark is sent again as it is. -/
theorem sendable?_of_mem {source : List String} {line : String}
    (h : line ∈ (ofLines source).lines) (hmark : line.toList.head? ≠ some mark) :
    (sendable? line.toList).map String.ofList = some line := by
  obtain ⟨origin, hline, hsent⟩ := exists_clean_of_mem h
  rw [hline] at hmark
  have hclean := (clean_clean_eq_iff origin).mpr hmark
  rw [hline, sendable?, hclean, if_pos hsent, Option.map_some, ← hline, String.ofList_toList]

/-- A program in which no line begins with a mark is that of its own lines. -/
theorem reload_eq {source : List String}
    (h : ∀ line ∈ (ofLines source).lines, line.toList.head? ≠ some mark) :
    reload (ofLines source) = ofLines source := by
  have hkept : ∀ line ∈ (ofLines source).lines,
      (sendable? line.toList).map String.ofList = some line :=
    fun line hline => sendable?_of_mem hline (h line hline)
  exact congrArg Program.mk ((List.filterMap_congr hkept).trans List.filterMap_some)

/-- The marks in what is sent for a line. -/
def marksSent (line : String) : Nat :=
  marks (((sendable? line.toList).map String.ofList).toList)

/-- What is sent for a line holds no more marks than the line, and fewer if the line begins with
one. -/
theorem marksSent_le (line : String) :
    marksSent line + (if line.toList.head? = some mark then 1 else 0) ≤ line.toList.count mark := by
  -- a mark in front is dropped, and cleaning adds none
  have hclean : (clean line.toList).count mark +
      (if line.toList.head? = some mark then 1 else 0) ≤ line.toList.count mark := by
    split
    · rename_i hmark
      obtain ⟨rest, hrest⟩ := List.head?_eq_some_iff.mp hmark
      rw [hrest, clean_mark_cons, List.count_cons_self]
      exact Nat.succ_le_succ ((clean_sublist rest).count_le mark)
    · exact (clean_sublist _).count_le mark
  unfold marksSent sendable?
  split
  · simpa [marks_cons, marks_nil] using hclean
  · simp only [Option.map_none, Option.toList_none, marks_nil]
    omega

/-- Of a line only the marks count that are sent. -/
theorem marks_ofLines_cons (line : String) (source : List String) :
    marks (ofLines (line :: source)).lines = marksSent line + marks (ofLines source).lines := by
  -- A line is sent as one line or none, and so its part is a list of at most one.
  have hlines (sent : Option String) (lines : List String) :
      marks (sent.toList ++ lines) = marks sent.toList + marks lines := by
    rw [marks, List.flatMap_append, List.count_append, marks, marks]
  rw [marksSent, ← hlines, ofLines, List.filterMap_cons, ofLines]
  cases (sendable? line.toList).map String.ofList <;> rfl

/-- Loading some lines does not add marks, and takes one from each line that begins with one. -/
theorem marks_reload_le (source : List String) :
    marks (ofLines source).lines + (source.filter (·.toList.head? = some mark)).length ≤
      marks source := by
  induction source with
  | nil => exact Nat.le_refl _
  | cons line source ih =>
    have hline := marksSent_le line
    rw [marks_ofLines_cons, marks_cons, List.filter_cons]
    split at hline <;> simp_all <;> omega

/-- Loading a program again that begins a line with a mark leaves fewer marks. -/
theorem marks_reload_lt {p : Program} (h : ∃ line ∈ p.lines, line.toList.head? = some mark) :
    marks (reload p).lines < marks p.lines := by
  obtain ⟨line, hline, hmark⟩ := h
  have hfound : 0 < (p.lines.filter (·.toList.head? = some mark)).length :=
    List.length_pos_of_mem (List.mem_filter.mpr ⟨hline, decide_eq_true hmark⟩)
  have hle := marks_reload_le p.lines
  unfold reload
  omega

/-- Loading a program again often enough comes to an end. -/
theorem exists_iterate_reload (p : Program) :
    ∃ n, reload (reload^[n] (reload p)) = reload^[n] (reload p) := by
  -- on the marks that are left, which every load that changes something lessens
  induction hleft : marks (reload p).lines using Nat.strong_induction_on generalizing p with
  | _ left ih =>
    by_cases hclean : ∀ line ∈ (reload p).lines, line.toList.head? ≠ some mark
    · exact ⟨0, reload_eq hclean⟩
    · simp only [not_forall, not_not] at hclean
      obtain ⟨line, hline, hmark⟩ := hclean
      obtain ⟨n, hn⟩ := ih _ (hleft ▸ marks_reload_lt ⟨line, hline, hmark⟩) (reload p) rfl
      exact ⟨n + 1, by rwa [Function.iterate_succ_apply]⟩

/-- Loading the lines of a program again changes nothing just where no line of it begins with a
byte order mark. A line of the source leaves one that does just where it begins with blanks and
then a mark, with nothing but marks before them. No line of the program is empty, a comment or
blank at an end, and loading again often enough comes to an end. -/
theorem reload_unchanged_iff (source : List String) :
    (reload (ofLines source) = ofLines source ↔
      ∀ line ∈ (ofLines source).lines, line.toList.head? ≠ some mark) ∧
    (∀ line ∈ (ofLines source).lines, line.toList.head? = some mark ↔
      ∃ origin ∈ source, line = cleaned origin ∧
        ∃ marks blanks rest, origin.toList = marks ++ blanks ++ mark :: rest ∧
          (∀ c ∈ marks, c = mark) ∧ blanks ≠ [] ∧ ∀ c ∈ blanks, Text.isBlank c = true) ∧
    (∀ line ∈ (ofLines source).lines, IsSent line) ∧
    ∃ n, reload (reload^[n] (ofLines source)) = reload^[n] (ofLines source) := by
  refine ⟨⟨fun h line hline hmark => ?_, reload_eq⟩, fun line hline => ⟨fun hmark => ?_, ?_⟩,
    fun line hline => (isSent_of_mem hline).1, ?_⟩
  · have hfewer := marks_reload_lt ⟨line, hline, hmark⟩
    rw [h] at hfewer
    exact Nat.lt_irrefl _ hfewer
  · obtain ⟨-, origin, horigin, rfl⟩ := isSent_of_mem hline
    rw [cleaned, String.toList_ofList] at hmark
    exact ⟨origin, horigin, rfl, (head?_clean_eq_mark_iff _).mp hmark⟩
  · rintro ⟨origin, -, rfl, hsource⟩
    rw [cleaned, String.toList_ofList]
    exact (head?_clean_eq_mark_iff _).mpr hsource
  · exact exists_iterate_reload ⟨source⟩

/-- A program of two lines, of which the second begins with a mark. -/
theorem reload_unchanged_iff_uncovered :
    reload (ofLines ["\ufeffG0", "\ufeff \ufeffG1"]) ≠ ofLines ["\ufeffG0", "\ufeff \ufeffG1"] ∧
    (∃ origin ∈ ["\ufeffG0", "\ufeff \ufeffG1"], "\ufeffG1" = cleaned origin) ∧
    IsSent "\ufeffG1" := by
  obtain ⟨hunchanged, hmarked, hsent, -⟩ := reload_unchanged_iff ["\ufeffG0", "\ufeff \ufeffG1"]
  have hline : "\ufeffG1" ∈ (ofLines ["\ufeffG0", "\ufeff \ufeffG1"]).lines := by decide
  refine ⟨fun h => hunchanged.mp h _ hline (by decide), ?_, hsent _ hline⟩
  obtain ⟨origin, horigin, hcleaned, -⟩ := (hmarked _ hline).mp (by decide)
  exact ⟨origin, horigin, hcleaned⟩

/-- A mark behind a blank is sent. Loading the line again drops the mark, and finds that another
line is a comment. -/
theorem reload_drops_mark :
    (ofLines [" \ufeffG0", " \ufeff; note"]).lines = ["\ufeffG0", "\ufeff; note"] ∧
    (reload (ofLines [" \ufeffG0", " \ufeff; note"])).lines = ["G0"] ∧
    ¬∀ source : List String, ofLines (ofLines source).lines = ofLines source := by
  have hfirst : (ofLines [" \ufeffG0", " \ufeff; note"]).lines = ["\ufeffG0", "\ufeff; note"] := by
    decide
  have hagain : (reload (ofLines [" \ufeffG0", " \ufeff; note"])).lines = ["G0"] := by decide
  refine ⟨hfirst, hagain, fun hclaim => ?_⟩
  have hsame := congrArg Program.lines (hclaim [" \ufeffG0", " \ufeff; note"])
  rw [hfirst] at hsame
  revert hsame
  decide

end GcodeSender.Program
