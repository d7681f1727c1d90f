import GcodeSender.Proofs.Machine.Acceptance

/-!
# `GcodeSender.Proofs.Machine.Classification`: kinds of lines and their usual spelling

`Response.ofLine?` tries its kinds one after the other, and `Response.display` writes a kind in its
usual spelling, with the code of an error or an alarm trimmed. What is written so is of the same
kind again: no kind that is tried earlier takes it, whatever the code is.

The program cuts a word off by its bytes, and looks at no text where it would cut a character in
two. `dropWordAtByte?` does so, and `dropWordAtByte?_eq` says that nothing is missed.

* `ofTrimmed?_error`, `ofTrimmed?_alarm`: every code is one, also the empty one.
* `ofTrimmed?_cases`: a line is spelled in the usual way, or is an error or an alarm.
* `ofLine?_eq_none_iff`, `ofLine?_eq_status_iff`: which lines have no kind, and which are framed.
* `classification_stable`: the usual spelling of a kind is of that kind, and so is the line with
  any blanks around it.
-/

set_option autoImplicit false

namespace GcodeSender

namespace Text

/-- What follows a word in a text that begins with it in any case. The beginning of the text is
cut off by the number of its bytes. -/
def dropWordAtByte? (word cs : List Char) : Option (List Char) :=
  match splitAtByte? cs (encode word).length with
  | none => none
  | some (head, rest) => if sameIgnoringCase head word then some rest else none

/-- A letter has as many bytes in either case. -/
theorem length_encodeChar_toLower (c : Char) :
    (encodeChar c.toLower).length = (encodeChar c).length := by
  have hsingle : ∀ d : Char, d.toNat < 0x80 → (encodeChar d).length = 1 := by
    intro d hd
    simp [encodeChar, hd]
  unfold Char.toLower
  split
  · -- both letters are ASCII
    rename_i hupper
    have hbelow : c.val.toNat ≤ 90 := UInt32.le_iff_toNat_le.mp hupper.2
    have hlower : (c.val + ('a'.val - 'A'.val)).toNat = (c.val.toNat + 32) % 2 ^ 32 :=
      UInt32.toNat_add ..
    rw [hsingle c (show c.val.toNat < 0x80 by omega), hsingle]
    show (c.val + ('a'.val - 'A'.val)).toNat < 0x80
    omega
  · rfl

/-- Texts that are the same in lower case are equally long in bytes. -/
theorem length_encode_of_lower {a b : List Char} (h : lower a = lower b) :
    (encode a).length = (encode b).length := by
  have hlower : ∀ cs, (encode (lower cs)).length = (encode cs).length := by
    intro cs
    simp [encode, lower, List.length_flatMap, Function.comp_def, length_encodeChar_toLower]
  rw [← hlower a, h, hlower b]

/-- A word is found by its bytes just where it is found by its characters. -/
theorem dropWordAtByte?_eq (word cs : List Char) : dropWordAtByte? word cs = dropWord? word cs := by
  refine Option.ext fun code => ?_
  -- both are a cut of the text with a head that is the word in some letter case
  have hcut : dropWordAtByte? word cs = some code ↔
      ∃ head, splitAtByte? cs (encode word).length = some (head, code) ∧
        lower head = lower word := by
    unfold dropWordAtByte?
    cases splitAtByte? cs (encode word).length with
    | none => simp
    | some parts =>
      obtain ⟨head, rest⟩ := parts
      simp [sameIgnoringCase, and_comm]
  rw [hcut, dropWord?_eq_some_iff]
  constructor
  · rintro ⟨head, hsplit, hsame⟩
    exact ⟨head, hsame, (splitAtByte?_eq_some_iff.mp hsplit).1⟩
  · rintro ⟨spelling, hsame, hcs⟩
    exact ⟨spelling, splitAtByte?_eq_some_iff.mpr ⟨hcs, length_encode_of_lower hsame⟩, hsame⟩

end Text

namespace Machine

/-! ### Codes, and the usual spelling -/

/-- An error begins with the first letter of its word, so it is no `ok`. -/
theorem ofTrimmed?_error {word : List Char} (h : Text.lower word = "error:".toList)
    (code : List Char) :
    Response.ofTrimmed? (word ++ code) = some (.error (String.ofList (Text.trim code))) := by
  have hdropped : Text.dropWord? "error:".toList (word ++ code) = some code :=
    Text.dropWord?_eq_some_iff.mpr ⟨word, h.trans (by decide), rfl⟩
  have hlength : word.length = 6 := by
    have := congrArg List.length h
    simpa [Text.lower] using this
  -- the word alone is longer than `ok`, and not blank
  have hblank : word ++ code ≠ [] := by
    intro heq
    have := congrArg List.length heq
    simp [hlength] at this
  have hok : word ++ code ≠ "ok".toList := by
    intro heq
    have := congrArg List.length heq
    rw [List.length_append, hlength] at this
    simp at this
    omega
  simp only [Response.ofTrimmed?, hblank, hok, hdropped, if_false]

/-- A text without blanks around it is `ok`, an error, an alarm or framed, or it is what is
displayed of its kind. -/
theorem ofTrimmed?_cases {cs : List Char} {r : Response} (h : Response.ofTrimmed? cs = some r) :
    r = .ok ∨ (∃ code, r = .error (String.ofList (Text.trim code))) ∨
      (∃ code, r = .alarm (String.ofList (Text.trim code))) ∨ r = .status ∨
      r.display = String.ofList cs := by
  unfold Response.ofTrimmed? at h
  split at h
  · cases h
  · split at h
    · exact .inl (Option.some.inj h).symm
    · split at h
      · exact .inr (.inl ⟨_, (Option.some.inj h).symm⟩)
      · split at h
        · exact .inr (.inr (.inl ⟨_, (Option.some.inj h).symm⟩))
        · split at h
          · exact .inr (.inr (.inr (.inl (Option.some.inj h).symm)))
          · -- the text itself is kept of the other three kinds
            right; right; right; right
            split at h
            · rw [← Option.some.inj h]
              rfl
            · split at h <;> (rw [← Option.some.inj h]; rfl)

/-- A trimmed code behind a word that ends in a colon leaves nothing to trim. -/
theorem trim_word_append {word front : List Char} {c : Char} (hfirst : word.head? = some c)
    (hc : Text.isBlank c = false) (hlast : word = front ++ [':']) (code : List Char) :
    Text.trim (word ++ Text.trim code) = word ++ Text.trim code := by
  refine Text.trim_eq_self_iff.mpr ⟨fun d hd => ?_, fun d hd => ?_⟩
  · rw [List.head?_append, hfirst] at hd
    rwa [← Option.some.inj hd]
  · rw [List.getLast?_append] at hd
    rcases Option.or_eq_some_iff.mp hd with hcode | ⟨-, hcolon⟩
    · exact (Text.trim_eq_self_iff.mp (Text.trim_trim code)).2 d hcode
    · rw [hlast, List.getLast?_concat] at hcolon
      rw [← Option.some.inj hcolon]
      decide

/-- The kind of a text without blanks around it. -/
theorem ofLine?_ofList {cs : List Char} (h : Text.trim cs = cs) :
    Response.ofLine? (String.ofList cs) = Response.ofTrimmed? cs := by
  rw [Response.ofLine?, String.toList_ofList, h]

/-- A word that is read with any code behind it is read with a trimmed code too, and with the same
one. -/
theorem ofLine?_trimmed_code {word : String} {kind : String → Response} {front : List Char}
    {c : Char} (hread : ∀ code, Response.ofTrimmed? (word.toList ++ code) =
      some (kind (String.ofList (Text.trim code))))
    (hfirst : word.toList.head? = some c) (hc : Text.isBlank c = false)
    (hlast : word.toList = front ++ [':']) (code : List Char) :
    Response.ofLine? (word ++ String.ofList (Text.trim code)) =
      some (kind (String.ofList (Text.trim code))) := by
  rw [Response.ofLine?, String.toList_append, String.toList_ofList,
    trim_word_append hfirst hc hlast, hread, Text.trim_trim]

/-- The usual spelling of an error is read with the same code. -/
theorem ofLine?_display_error (code : List Char) :
    Response.ofLine? (Response.error (String.ofList (Text.trim code))).display =
      some (.error (String.ofList (Text.trim code))) := by
  have hword : "error:".toList = "error".toList ++ [':'] := by decide
  show Response.ofLine? ("error:" ++ String.ofList (Text.trim code)) = _
  exact ofLine?_trimmed_code (ofTrimmed?_error (by decide)) rfl (by decide) hword code

/-- And so is that of an alarm, however the alarm itself was spelled. -/
theorem ofLine?_display_alarm (code : List Char) :
    Response.ofLine? (Response.alarm (String.ofList (Text.trim code))).display =
      some (.alarm (String.ofList (Text.trim code))) := by
  have hword : "ALARM:".toList = "ALARM".toList ++ [':'] := by decide
  show Response.ofLine? ("ALARM:" ++ String.ofList (Text.trim code)) = _
  exact ofLine?_trimmed_code (ofTrimmed?_alarm (by decide)) rfl (by decide) hword code

/-- The usual spelling of a kind is of that kind, unless it is a status report, whose text is not
kept. -/
theorem ofLine?_display {line : String} {r : Response} (h : Response.ofLine? line = some r)
    (hr : r ≠ .status) : Response.ofLine? r.display = some r := by
  rcases ofTrimmed?_cases h with rfl | ⟨code, rfl⟩ | ⟨code, rfl⟩ | rfl | hshown
  · decide
  · exact ofLine?_display_error code
  · exact ofLine?_display_alarm code
  · exact absurd rfl hr
  · rw [hshown, ofLine?_ofList (Text.trim_trim _)]
    exact h

/-! ### Lines without a kind, and status reports -/

/-- Only a blank line has no kind. -/
theorem ofLine?_eq_none_iff {line : String} :
    Response.ofLine? line = none ↔ ∀ c ∈ line.toList, Text.isBlank c = true := by
  have hblank : Text.trim line.toList = [] ↔ ∀ c ∈ line.toList, Text.isBlank c = true := by
    rw [← not_iff_not, ← ne_eq, Text.trim_ne_nil_iff]
    simp
  rw [← hblank, Response.ofLine?]
  -- each branch but the first gives a kind
  constructor
  · intro h
    unfold Response.ofTrimmed? at h
    split at h
    · assumption
    · repeat' split at h
      all_goals cases h
  · intro h
    rw [h]
    rfl

/-- A line is taken for a status report just when it is framed. -/
theorem ofLine?_eq_status_iff {line : String} :
    Response.ofLine? line = some .status ↔ isFramed line.toList = true := by
  have hframed : isFramed (Text.trim line.toList) = isFramed line.toList := by
    rw [isFramed, isFramed, Text.trim_trim]
  rw [← hframed, Response.ofLine?]
  constructor
  · intro h
    by_contra hbare
    unfold Response.ofTrimmed? at h
    rw [if_neg hbare] at h
    repeat' split at h
    all_goals cases h
  · exact fun h => ofTrimmed?_framed h (Text.trim_trim _)

/-- Classification is stable under printing:

* what is displayed of a kind is of the same kind again, with the same code or text, for every kind
  but a status report;
* a line with blanks added around it is of the same kind, if it is of any;
* a line has no kind just when it is blank, and is a status report just when it is framed as one;
* to cut the words of errors and alarms off by their bytes makes no difference. -/
theorem classification_stable :
    (∀ line r, Response.ofLine? line = some r → r ≠ .status →
      Response.ofLine? r.display = some r) ∧
    (∀ (line : String) (before after : List Char), (∀ c ∈ before, Text.isBlank c = true) →
      (∀ c ∈ after, Text.isBlank c = true) →
      Response.ofLine? (String.ofList (before ++ line.toList ++ after)) =
        Response.ofLine? line) ∧
    (∀ line, Response.ofLine? line = none ↔ ∀ c ∈ line.toList, Text.isBlank c = true) ∧
    (∀ line, Response.ofLine? line = some .status ↔ isFramed line.toList = true) ∧
    ∀ word cs, Text.dropWordAtByte? word cs = Text.dropWord? word cs := by
  refine ⟨fun _ _ => ofLine?_display, fun line before after hbefore hafter => ?_,
    fun _ => ofLine?_eq_none_iff, fun _ => ofLine?_eq_status_iff, Text.dropWordAtByte?_eq⟩
  rw [Response.ofLine?, Response.ofLine?, String.toList_ofList,
    Text.trim_surrounded hbefore hafter]

/-- An alarm in an unusual spelling, whose code looks like a status report, between blanks. -/
theorem classification_stable_framedCode :
    Response.ofLine? "aLaRm: <Idle> " = some (.alarm "<Idle>") ∧
      Response.ofLine? (Response.alarm "<Idle>").display = some (.alarm "<Idle>") ∧
      Response.ofLine? (String.ofList (['\u00a0'] ++ "aLaRm: <Idle> ".toList ++ ['\n'])) =
        some (.alarm "<Idle>") := by
  obtain ⟨hdisplay, hblanks, -⟩ := classification_stable
  have hline : Response.ofLine? "aLaRm: <Idle> " = some (.alarm "<Idle>") := by decide
  have hspace : ∀ c ∈ ['\u00a0'], Text.isBlank c = true :=
    List.forall_mem_singleton.mpr (by decide)
  have hfeed : ∀ c ∈ ['\n'], Text.isBlank c = true :=
    List.forall_mem_singleton.mpr (by decide)
  refine ⟨hline, hdisplay _ _ hline (by decide), ?_⟩
  rw [hblanks _ _ _ hspace hfeed, hline]

end Machine

end GcodeSender
