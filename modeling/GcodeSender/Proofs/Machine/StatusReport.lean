import GcodeSender.Proofs.Machine.Pushed
import GcodeSender.Proofs.Text.Utf8

/-!
# `GcodeSender.Proofs.Machine.StatusReport`: the grammar of status reports

A status report is `<`, a first segment that is not blank, any number of fields with `|` in
front of each, and `>`. `Spells` says so of a text, and `ofLine?_eq_some_iff` says that nothing
else is read and that the report holds what was written.

The controller's text arrives as UTF-8, and the frame is taken off by the indices of its bytes.
An index inside a character would be a crash and not a wrong answer, so `ofBytes?` has a result
of its own for it: `ofBytes?_eq` says that this result never occurs, since both brackets are
characters of one byte.

* `ofLine?_eq_some_iff`, `spelled`: what is read, and the report that it is read as.
* `ofBytes?_eq`: reading by byte indices gives the same result.
* `reads_exactly_reports`: what is written is read, what is read was written so, and no index
  falls inside a character.
-/

set_option autoImplicit false

namespace GcodeSender

namespace Machine

namespace StatusReport

/-! ### What a report holds -/

/-- A field adds itself and leaves the state tag and the line. -/
theorem add_kept (r : StatusReport) (field : List Char) :
    (r.add field).state = r.state ∧ (r.add field).raw = r.raw ∧
      (r.add field).fields = r.fields ++ [String.ofList field] := by
  unfold add
  simp only []
  split <;> first | exact ⟨rfl, rfl, rfl⟩ | (split <;> exact ⟨rfl, rfl, rfl⟩)

/-- Fields are added to a report, whose state and text stay. -/
theorem foldl_add_kept (fields : List (List Char)) (r : StatusReport) :
    (fields.foldl add r).state = r.state ∧ (fields.foldl add r).raw = r.raw ∧
      (fields.foldl add r).fields = r.fields ++ fields.map String.ofList := by
  induction fields generalizing r with
  | nil => simp
  | cons field fields ih =>
    obtain ⟨hstate, hraw, hfields⟩ := r.add_kept field
    obtain ⟨ihstate, ihraw, ihfields⟩ := ih (r.add field)
    rw [List.foldl_cons, ihstate, ihraw, ihfields, hstate, hraw, hfields]
    simp

/-! ### The grammar -/

/-- The text is a report with this first segment and these fields. -/
structure Spells (raw first : List Char) (fields : List (List Char)) : Prop where
  framed : raw = frame first fields
  first_whole : '|' ∉ first
  fields_whole : ∀ field ∈ fields, '|' ∉ field
  /-- There is a state tag. -/
  solid : ∃ c ∈ first, Text.isBlank c = false

/-- The report of a first segment and fields. -/
def spelled (first : List Char) (fields : List (List Char)) : StatusReport :=
  fields.foldl add (start (Text.trim first) (frame first fields))

/-- The state of a report is its first part. -/
theorem spelled_state (first : List Char) (fields : List (List Char)) :
    (spelled first fields).state = String.ofList (Text.trim first) := (foldl_add_kept ..).1

/-- Its text is the whole frame. -/
theorem spelled_raw (first : List Char) (fields : List (List Char)) :
    (spelled first fields).raw = String.ofList (frame first fields) := (foldl_add_kept ..).2.1

/-- Its fields are the other parts, each as it is. -/
theorem spelled_fields (first : List Char) (fields : List (List Char)) :
    (spelled first fields).fields = fields.map String.ofList := (foldl_add_kept ..).2.2

/-- What is in a frame, read as a report. -/
def ofInner? (raw inner : List Char) : Option StatusReport :=
  let state := Text.trim (Text.cut '|' inner).1
  if state = [] then none
  else some ((Text.cut '|' inner).2.foldl add (start state raw))

/-- A report is read from the inside of its frame. -/
theorem ofChars?_eq (line : List Char) :
    ofChars? line = (inFrame? (Text.trim line)).bind (ofInner? (Text.trim line)) := by
  unfold ofChars?
  cases h : inFrame? (Text.trim line) <;> simp [h, ofInner?]

/-- Parts that are put together are read as a report of these parts. -/
theorem ofInner?_joined {first : List Char} {fields : List (List Char)}
    (h : Spells (frame first fields) first fields) :
    ofInner? (frame first fields) (Text.joined '|' first fields) = some (spelled first fields) := by
  have hstate : Text.trim first ≠ [] := Text.trim_ne_nil_iff.mpr h.solid
  simp only [ofInner?, Text.cut_joined '|' first fields h.first_whole h.fields_whole,
    if_neg hstate]
  rfl

/-- A line is read as a report just when it is spelled as one, and as that report. -/
theorem ofLine?_eq_some_iff {line : String} {r : StatusReport} :
    ofLine? line = some r ↔
      ∃ first fields, Spells (Text.trim line.toList) first fields ∧ r = spelled first fields := by
  rw [ofLine?, ofChars?_eq]
  constructor
  · intro h
    obtain ⟨inner, hinner, hread⟩ := Option.bind_eq_some_iff.mp h
    -- what is in the frame is put together again from its pieces
    have hframed : Text.trim line.toList = frame (Text.cut '|' inner).1 (Text.cut '|' inner).2 := by
      rw [inFrame?_eq_some_iff.mp hinner, frame, Text.joined_cut]
    unfold ofInner? at hread
    simp only [] at hread
    split at hread
    · cases hread
    · rename_i hstate
      refine ⟨_, _, ⟨hframed, Text.sep_not_mem_cut_fst '|' inner,
        Text.sep_not_mem_of_mem_cut_snd '|' inner, Text.trim_ne_nil_iff.mp hstate⟩, ?_⟩
      rw [← Option.some.inj hread, spelled, ← hframed]
  · rintro ⟨first, fields, h, rfl⟩
    have hinner : inFrame? (Text.trim line.toList) = some (Text.joined '|' first fields) :=
      inFrame?_eq_some_iff.mpr h.framed
    rw [hinner, Option.bind_some, h.framed]
    exact ofInner?_joined (h.framed ▸ h)

/-! ### Reading by the indices of bytes -/

/-- Reads a line as a report, where the frame is tested on the bytes and taken off by their
indices. There is no result if an index stands inside a character. -/
def ofBytes? (line : List Char) : Option (Option StatusReport) :=
  let raw := Text.trim line
  if 2 ≤ (Text.encode raw).length ∧ raw.head? = some '<' ∧ raw.getLast? = some '>' then
    (Text.bytesBetween? 1 ((Text.encode raw).length - 1) raw).map (ofInner? raw)
  else some none

/-- A text has a frame just when it has the two bytes of it and begins and ends with them. -/
theorem exists_inner_iff {cs : List Char} :
    (2 ≤ (Text.encode cs).length ∧ cs.head? = some '<' ∧ cs.getLast? = some '>') ↔
      ∃ inner, cs = '<' :: inner ++ ['>'] := by
  constructor
  · rintro ⟨hbytes, hhead, hlast⟩
    obtain ⟨before, rfl⟩ := List.getLast?_eq_some_iff.mp hlast
    cases before with
    | nil => cases hhead
    | cons c inner =>
      obtain rfl : c = '<' := Option.some.inj hhead
      exact ⟨inner, rfl⟩
  · rintro ⟨inner, rfl⟩
    have hlast : ('<' :: (inner ++ ['>'])).getLast? = some '>' :=
      List.getLast?_concat (l := '<' :: inner) ..
    -- each of the two brackets is one byte long
    have hopen : (Text.encodeChar '<').length = 1 := rfl
    have hclose : (Text.encodeChar '>').length = 1 := rfl
    refine ⟨?_, rfl, hlast⟩
    simp [Text.encode, hopen, hclose]
    omega

/-- Both brackets are characters of one byte, so their indices are boundaries. -/
theorem bytesBetween?_frame (inner : List Char) :
    Text.bytesBetween? 1 ((Text.encode ('<' :: inner ++ ['>'])).length - 1)
      ('<' :: inner ++ ['>']) = some inner := by
  have hlast : (Text.encode ('<' :: inner ++ ['>'])).length - 1 =
      (Text.encode (['<'] ++ inner)).length := by
    rw [Text.encode, List.flatMap_append, List.length_append]
    rfl
  rw [hlast]
  exact Text.bytesBetween?_append ['<'] inner ['>']

/-- Reading by the indices of bytes always gives a result, and the same one. -/
theorem ofBytes?_eq (line : List Char) : ofBytes? line = some (ofChars? line) := by
  rw [ofChars?_eq, ofBytes?]
  split
  · rename_i hframed
    -- between the first byte and the last lies a text, because both ends of the frame are one byte
    -- long
    obtain ⟨inner, hinner⟩ := exists_inner_iff.mp hframed
    have hbytes : Text.bytesBetween? 1 ((Text.encode (Text.trim line)).length - 1)
        (Text.trim line) = some inner := by
      rw [hinner]
      exact bytesBetween?_frame inner
    rw [hbytes, inFrame?_eq_some_iff.mpr hinner]
    rfl
  · rename_i hbare
    have hnone : inFrame? (Text.trim line) = none := by
      by_contra h
      obtain ⟨inner, hinner⟩ := Option.ne_none_iff_exists'.mp h
      exact hbare (exists_inner_iff.mpr ⟨inner, inFrame?_eq_some_iff.mp hinner⟩)
    rw [hnone]
    rfl

/-! ### Main result -/

/-- A frame has no blanks around it. -/
theorem trim_frame (first : List Char) (fields : List (List Char)) :
    Text.trim (frame first fields) = frame first fields := by
  have hstart : Text.trimStart (frame first fields) = frame first fields := rfl
  rw [Text.trim, hstart, frame, Text.trimEnd, List.reverse_append]
  -- the closing bracket is the first character from behind
  show ('>' :: ('<' :: Text.joined '|' first fields).reverse).reverse = _
  rw [List.reverse_cons, List.reverse_reverse]

/-- A report is read from its own text again. -/
theorem ofLine?_raw {line : String} {r : StatusReport} (h : ofLine? line = some r) :
    ofLine? r.raw = some r := by
  obtain ⟨first, fields, hspells, rfl⟩ := ofLine?_eq_some_iff.mp h
  refine ofLine?_eq_some_iff.mpr ⟨first, fields, ?_, rfl⟩
  -- the text is trimmed already
  rw [spelled_raw, String.toList_ofList, trim_frame, ← hspells.framed]
  exact hspells

/-- What is spelled as a report with a trimmed state tag is read, with any blanks around it, as
the report with that tag and those fields. What is read as a report was spelled as one: its
trimmed text is the frame, and the report holds the first segment and every field of it and is
read from its own text again. And no line makes the reader index inside a character. -/
theorem reads_exactly_reports :
    (∀ (tag : List Char) (fields : List (List Char)) (before after : List Char),
      tag ≠ [] → Text.trim tag = tag → '|' ∉ tag → (∀ field ∈ fields, '|' ∉ field) →
      (∀ c ∈ before, Text.isBlank c = true) → (∀ c ∈ after, Text.isBlank c = true) →
      ∃ r, ofLine? (String.ofList (before ++ frame tag fields ++ after)) = some r ∧
        r.state = String.ofList tag ∧ r.fields = fields.map String.ofList ∧
        r.raw = String.ofList (frame tag fields)) ∧
    (∀ (line : String) (r : StatusReport), ofLine? line = some r →
      2 ≤ (Text.trim line.toList).length ∧ (Text.trim line.toList).head? = some '<' ∧
      (Text.trim line.toList).getLast? = some '>' ∧
      r.raw = String.ofList (Text.trim line.toList) ∧
      (∃ inner first fields, Text.trim line.toList = '<' :: inner ++ ['>'] ∧
        Text.pieces '|' inner = first :: fields ∧ (∃ c ∈ first, Text.isBlank c = false) ∧
        r.raw = String.ofList (frame first fields) ∧ r.state = String.ofList (Text.trim first) ∧
        r.fields = fields.map String.ofList) ∧
      ofLine? r.raw = some r) ∧
    ∀ line : String, ofBytes? line.toList = some (ofLine? line) := by
  refine ⟨?_, ?_, fun line => ofBytes?_eq line.toList⟩
  · intro tag fields before after hne htrim htag hfields hbefore hafter
    -- a tag that is its own trimming has something solid in it
    have hsolid : ∃ c ∈ tag, Text.isBlank c = false :=
      Text.trim_ne_nil_iff.mp (htrim.symm ▸ hne)
    have hraw : Text.trim (String.ofList (before ++ frame tag fields ++ after)).toList =
        frame tag fields := by
      rw [String.toList_ofList, Text.trim_surrounded hbefore hafter, trim_frame]
    refine ⟨spelled tag fields, ofLine?_eq_some_iff.mpr ⟨tag, fields, ?_, rfl⟩, ?_,
      spelled_fields tag fields, spelled_raw tag fields⟩
    · exact ⟨hraw, htag, hfields, hsolid⟩
    · rw [spelled_state, htrim]
  · intro line r h
    -- a text is read only where it is spelled, and then it is spelled in one way
    obtain ⟨first, fields, hspells, rfl⟩ := ofLine?_eq_some_iff.mp h
    have hframed : Text.trim line.toList = '<' :: Text.joined '|' first fields ++ ['>'] :=
      hspells.framed
    obtain ⟨-, hhead, hlast⟩ := exists_inner_iff.mpr ⟨_, hframed⟩
    refine ⟨?_, hhead, hlast, ?_, ⟨_, first, fields, hframed, ?_, hspells.solid,
      spelled_raw first fields, spelled_state first fields, spelled_fields first fields⟩, ?_⟩
    · simp [hframed]
    · rw [spelled_raw, ← hspells.framed]
    · rw [Text.pieces, Text.cut_joined '|' first fields hspells.first_whole
        hspells.fields_whole]
    · exact ofLine?_raw h

/-- A tag, a field and an empty field between blanks, and a line whose tag has blanks of its
own. -/
theorem reads_exactly_reports_inBlanks :
    (∃ r, ofLine? (String.ofList ([' '] ++ frame "Idle".toList ["<:>".toList, []] ++ ['\r'])) =
        some r ∧
      r.state = String.ofList "Idle".toList ∧
      r.fields = ["<:>".toList, []].map String.ofList ∧
      r.raw = String.ofList (frame "Idle".toList ["<:>".toList, []])) ∧
    (∃ r, ofLine? "< Run |é> " = some r ∧ ofLine? r.raw = some r) ∧
    ofBytes? "<é>".toList = some (ofLine? "<é>") := by
  obtain ⟨hwritten, hread, hbytes⟩ := reads_exactly_reports
  have hspace : ∀ c ∈ [' '], Text.isBlank c = true := List.forall_mem_singleton.mpr (by decide)
  have hreturn : ∀ c ∈ ['\r'], Text.isBlank c = true := List.forall_mem_singleton.mpr (by decide)
  refine ⟨hwritten "Idle".toList ["<:>".toList, []] [' '] ['\r'] (by decide) (by decide)
    (by decide) (by decide) hspace hreturn, ?_, hbytes "<é>"⟩
  have hline : ofLine? "< Run |é> " = some (spelled " Run ".toList ["é".toList]) :=
    ofLine?_eq_some_iff.mpr
      ⟨_, _, ⟨by decide, by decide, by decide, ⟨'R', by decide, by decide⟩⟩, rfl⟩
  exact ⟨_, hline, (hread _ _ hline).2.2.2.2.2⟩

end StatusReport

end Machine

end GcodeSender
