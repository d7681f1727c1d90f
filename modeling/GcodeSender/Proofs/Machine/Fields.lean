import GcodeSender.Proofs.Machine.Position
import GcodeSender.Proofs.Machine.StatusReport

/-!
# `GcodeSender.Proofs.Machine.Fields`: what the fields of a report come to

A report collects its fields one after the other. What it says of a position, of the errors and
of the feed is here a function of the list of its fields: `positionAfter?`, `fieldError?` and
`feedSpindleAfter?` look at one field on its own, and the report holds the last of what they
give, or all of it.

* `field_cases`: a field is of one kind at most, and its kind is that of its first word.
* `add_eq`: what one field changes.
* `foldl_add_last`: what the fields replace is decided by the last field that concerns it.
* `workPosition_eq`, `machinePosition_eq`: a position is that of the last valid field, so a bad
  field disturbs neither an earlier nor a later good one.
* `fieldErrors_eq`: the errors are those of the bad position fields, in their order.
* `last_feedSpindle_decides`: of the feed and spindle fields the last one decides, also where it
  cannot be read. `malformed_feedSpindle_erases` is a report whose valid field is lost so.
-/

set_option autoImplicit false

namespace GcodeSender

/-- What is left of a text that begins with a word. -/
theorem Text.dropLeading?_eq {word cs : List Char} :
    dropLeading? word cs = if word <+: cs then some (cs.drop word.length) else none := by
  induction word generalizing cs with
  | nil => simp [dropLeading?]
  | cons w word ih =>
    cases cs with
    | nil => simp [dropLeading?]
    | cons c cs => by_cases h : w = c <;> simp [dropLeading?, ih, h]

namespace Machine

/-! ### One field -/

/-- What follows a word at the beginning of a field. -/
def payload? (word field : String) : Option (List Char) :=
  if word.toList <+: field.toList then some (field.toList.drop word.toList.length) else none

/-- The position in a field that begins with a word, if the rest of the field is a position. -/
def positionAfter? (word field : String) : Option Position :=
  (payload? word field).bind fun payload => (Position.read payload).toOption

/-- The error that a field is, if it is to hold a position and does not. -/
def fieldError? (field : String) : Option FieldError :=
  ((payload? "WPos:" field).or (payload? "MPos:" field)).bind fun payload =>
    match Position.read payload with
    | .ok _ => none
    | .error fault => some ⟨field, fault⟩

/-- The field is to hold a position. -/
def isPositionField (field : String) : Bool :=
  (payload? "WPos:" field).isSome || (payload? "MPos:" field).isSome

/-- The feed and the spindle in a field, if it holds them. -/
def feedSpindleAfter? (field : String) : Option FeedSpindle :=
  (payload? "FS:" field).bind FeedSpindle.read?

/-- A field that begins with a word begins with no word of another first letter. -/
theorem payload?_of_other {word other field : String} {payload : List Char}
    (h : payload? word field = some payload) {c d : Char} (hword : word.toList.head? = some c)
    (hother : other.toList.head? = some d) (hdiffer : c ≠ d) : payload? other field = none := by
  have hbegins : word.toList <+: field.toList := by
    by_contra hno
    rw [payload?, if_neg hno] at h
    cases h
  refine if_neg fun hbegins' => hdiffer ?_
  obtain ⟨rest, hfield⟩ := hbegins
  obtain ⟨rest', hfield'⟩ := hbegins'
  -- both letters are the first one of the field
  have hc : field.toList.head? = some c := by rw [← hfield, List.head?_append, hword]; rfl
  have hd : field.toList.head? = some d := by rw [← hfield', List.head?_append, hother]; rfl
  exact Option.some.inj (hc.symm.trans hd)

/-- The words of the three kinds of field begin with three letters. -/
theorem field_cases (field : String) :
    (∃ payload, payload? "WPos:" field = some payload ∧ payload? "MPos:" field = none ∧
      payload? "FS:" field = none ∧ Field.of field.toList = .workPosition payload) ∨
    (∃ payload, payload? "WPos:" field = none ∧ payload? "MPos:" field = some payload ∧
      payload? "FS:" field = none ∧ Field.of field.toList = .machinePosition payload) ∨
    (∃ payload, payload? "WPos:" field = none ∧ payload? "MPos:" field = none ∧
      payload? "FS:" field = some payload ∧ Field.of field.toList = .feedSpindle payload) ∨
    (payload? "WPos:" field = none ∧ payload? "MPos:" field = none ∧
      payload? "FS:" field = none ∧ Field.of field.toList = .other) := by
  have hdrop : ∀ word : String, Text.dropLeading? word.toList field.toList = payload? word field :=
    fun _ => Text.dropLeading?_eq
  -- a field that begins with one of the words cannot begin with another
  have hw : "WPos:".toList.head? = some 'W' := by decide
  have hm : "MPos:".toList.head? = some 'M' := by decide
  have hf : "FS:".toList.head? = some 'F' := by decide
  cases hwork : payload? "WPos:" field with
  | some payload =>
    have hmachine := payload?_of_other hwork hw hm (by decide)
    have hfeed := payload?_of_other hwork hw hf (by decide)
    exact .inl ⟨payload, rfl, hmachine, hfeed, by simp only [Field.of, hdrop, hwork]⟩
  | none =>
    cases hmachine : payload? "MPos:" field with
    | some payload =>
      have hfeed := payload?_of_other hmachine hm hf (by decide)
      exact .inr (.inl ⟨payload, rfl, rfl, hfeed, by simp only [Field.of, hdrop, hwork, hmachine]⟩)
    | none =>
      cases hfeed : payload? "FS:" field with
      | some payload =>
        exact .inr (.inr (.inl ⟨payload, rfl, rfl, rfl,
          by simp only [Field.of, hdrop, hwork, hmachine, hfeed]⟩))
      | none => exact .inr (.inr (.inr ⟨rfl, rfl, rfl,
          by simp only [Field.of, hdrop, hwork, hmachine, hfeed]⟩))

namespace StatusReport

/-! ### One field more -/

/-- What one field changes. A position and the feed are replaced or left, and the errors grow. -/
theorem add_eq (r : StatusReport) (field : List Char) :
    r.add field = { r with
      fields := r.fields ++ [String.ofList field]
      workPosition := (positionAfter? "WPos:" (String.ofList field)).elim r.workPosition some
      machinePosition := (positionAfter? "MPos:" (String.ofList field)).elim r.machinePosition some
      -- a feed and spindle field replaces what is held, readable or not
      feedSpindle := (payload? "FS:" (String.ofList field)).elim r.feedSpindle FeedSpindle.read?
      fieldErrors := r.fieldErrors ++ (fieldError? (String.ofList field)).toList } := by
  have hcases := field_cases (String.ofList field)
  rw [String.toList_ofList] at hcases
  unfold add positionAfter? fieldError?
  rcases hcases with ⟨payload, hwork, hmachine, hfeed, hof⟩ |
    ⟨payload, hwork, hmachine, hfeed, hof⟩ | ⟨payload, hwork, hmachine, hfeed, hof⟩ |
    ⟨hwork, hmachine, hfeed, hof⟩
  · cases hread : Position.read payload <;>
      simp [hof, hwork, hmachine, hfeed, hread, Except.toOption]
  · cases hread : Position.read payload <;>
      simp [hof, hwork, hmachine, hfeed, hread, Except.toOption]
  · simp [hof, hwork, hmachine, hfeed]
  · simp [hof, hwork, hmachine, hfeed]

/-! ### All fields -/

/-- Where each field replaces what is held or leaves it, the last that replaces it decides. -/
theorem foldl_add_last {β γ : Type} {concerns? : String → Option β} {result : β → γ}
    {held : StatusReport → γ}
    (hadd : ∀ r field, held (add r field) =
      (concerns? (String.ofList field)).elim (held r) result)
    (fields : List (List Char)) (r : StatusReport) :
    held (fields.foldl add r) =
      ((fields.map String.ofList).filterMap concerns?).getLast?.elim (held r) result := by
  -- on the last field
  induction fields using List.reverseRecOn with
  | nil => rfl
  | append_singleton fields field ih =>
    rw [List.foldl_append, List.map_append, List.filterMap_append, List.getLast?_append]
    show held (add (fields.foldl add r) field) = _
    rw [hadd, ih]
    cases h : concerns? (String.ofList field) <;> simp [h]

/-- The errors of a report are those of its fields, in their order. -/
theorem foldl_add_fieldErrors (fields : List (List Char)) (r : StatusReport) :
    (fields.foldl add r).fieldErrors =
      r.fieldErrors ++ (fields.map String.ofList).filterMap fieldError? := by
  induction fields generalizing r with
  | nil => simp
  | cons field fields ih =>
    rw [List.foldl_cons, ih, add_eq, List.append_assoc]
    cases h : fieldError? (String.ofList field) <;> simp [h]

variable {line : String} {r : StatusReport}

/-- What is held of a report is decided by the last of its fields that concerns it. -/
theorem held_eq {β γ : Type} {concerns? : String → Option β} {result : β → Option γ}
    {held : StatusReport → Option γ}
    (hadd : ∀ r field, held (add r field) =
      (concerns? (String.ofList field)).elim (held r) result)
    (hstart : ∀ state raw, held (start state raw) = none) (h : ofLine? line = some r) :
    held r = (r.fields.filterMap concerns?).getLast?.bind result := by
  obtain ⟨first, fields, -, rfl⟩ := ofLine?_eq_some_iff.mp h
  rw [spelled_fields, spelled, foldl_add_last hadd, hstart]
  cases ((fields.map String.ofList).filterMap concerns?).getLast? <;> rfl

/-- The work position is that of the last valid field. -/
theorem workPosition_eq (h : ofLine? line = some r) :
    r.workPosition = (r.fields.filterMap (positionAfter? "WPos:")).getLast? := by
  rw [held_eq (fun r field => congrArg workPosition (r.add_eq field)) (fun _ _ => rfl) h,
    Option.bind_fun_some]

/-- And so is the machine position. -/
theorem machinePosition_eq (h : ofLine? line = some r) :
    r.machinePosition = (r.fields.filterMap (positionAfter? "MPos:")).getLast? := by
  rw [held_eq (fun r field => congrArg machinePosition (r.add_eq field)) (fun _ _ => rfl) h,
    Option.bind_fun_some]

/-- What is held of the positions was read, and so is finite. -/
theorem isFinite_of_positionAfter? {word : String} {fields : List String} {p : Position}
    (h : (fields.filterMap (positionAfter? word)).getLast? = some p) : p.IsFinite := by
  obtain ⟨field, -, hfield⟩ := List.mem_filterMap.mp (List.mem_of_getLast? h)
  obtain ⟨payload, -, hread⟩ := Option.bind_eq_some_iff.mp hfield
  cases hp : Position.read payload with
  | error fault => simp [hp, Except.toOption] at hread
  | ok q =>
    obtain rfl : q = p := by simpa [hp, Except.toOption] using hread
    exact isFinite_of_read hp

/-- A work position that is reported is finite. -/
theorem workPosition_isFinite (h : ofLine? line = some r) {p : Position}
    (hp : r.workPosition = some p) : p.IsFinite :=
  isFinite_of_positionAfter? ((workPosition_eq h).symm.trans hp)

/-- A machine position is, too. -/
theorem machinePosition_isFinite (h : ofLine? line = some r) {p : Position}
    (hp : r.machinePosition = some p) : p.IsFinite :=
  isFinite_of_positionAfter? ((machinePosition_eq h).symm.trans hp)

/-- The errors are those of the position fields that cannot be read, in their order. -/
theorem fieldErrors_eq (h : ofLine? line = some r) :
    r.fieldErrors = r.fields.filterMap fieldError? := by
  obtain ⟨first, fields, -, rfl⟩ := ofLine?_eq_some_iff.mp h
  rw [spelled_fields, spelled, foldl_add_fieldErrors]
  rfl

/-- What is made of the fields that are to hold a position does not depend on the others. -/
theorem filterMap_positionFields {β : Type} {f : String → Option β}
    (hf : ∀ field, isPositionField field = false → f field = none) (fields : List String) :
    (fields.filter isPositionField).filterMap f = fields.filterMap f := by
  rw [List.filterMap_filter]
  refine List.filterMap_congr fun field _ => ?_
  cases hfield : isPositionField field with
  | true => rfl
  | false => exact (hf field hfield).symm

/-- No other field affects the positions and the errors. -/
theorem agree_of_positionFields {other : String} {r' : StatusReport} (h : ofLine? line = some r)
    (h' : ofLine? other = some r')
    (hfields : r.fields.filter isPositionField = r'.fields.filter isPositionField) :
    r.workPosition = r'.workPosition ∧ r.machinePosition = r'.machinePosition ∧
      r.fieldErrors = r'.fieldErrors := by
  have hnone : ∀ field, isPositionField field = false →
      payload? "WPos:" field = none ∧ payload? "MPos:" field = none := by
    intro field hfield
    simpa [isPositionField] using hfield
  -- each of the three is made of the position fields alone
  have hsame : ∀ {β : Type} {f : String → Option β},
      (∀ field, isPositionField field = false → f field = none) →
      r.fields.filterMap f = r'.fields.filterMap f := by
    intro β f hf
    rw [← filterMap_positionFields hf, hfields, filterMap_positionFields hf]
  refine ⟨?_, ?_, ?_⟩
  · rw [workPosition_eq h, workPosition_eq h', hsame fun field hfield => by
      rw [positionAfter?, (hnone field hfield).1, Option.bind_none]]
  · rw [machinePosition_eq h, machinePosition_eq h', hsame fun field hfield => by
      rw [positionAfter?, (hnone field hfield).2, Option.bind_none]]
  · rw [fieldErrors_eq h, fieldErrors_eq h', hsame fun field hfield => by
      rw [fieldError?, (hnone field hfield).1, (hnone field hfield).2, Option.or_none,
        Option.bind_none]]

/-- The feed and the spindle are those of the last field of their kind. -/
theorem feedSpindle_eq (h : ofLine? line = some r) :
    r.feedSpindle = (r.fields.filterMap (payload? "FS:")).getLast?.bind FeedSpindle.read? :=
  held_eq (fun r field => congrArg feedSpindle (r.add_eq field)) (fun _ _ => rfl) h

/-! ### Feed and spindle -/

/-- The last member decides as the last good one does, just where it is good or none is. -/
theorem getLast?_bind_eq_iff {α β : Type} {f : α → Option β} {xs : List α} :
    xs.getLast?.bind f = (xs.filterMap f).getLast? ↔
      (∀ x ∈ xs, f x = none) ∨ ∃ x, xs.getLast? = some x ∧ (f x).isSome = true := by
  rcases List.eq_nil_or_concat' xs with rfl | ⟨front, last, rfl⟩
  · simp
  · have hlast : (front ++ [last]).getLast? = some last := List.getLast?_concat ..
    rw [hlast, Option.bind_some, List.filterMap_append]
    cases hgood : f last with
    | some y => simp [hgood]
    | none =>
      have hbad : ¬∃ x, some last = some x ∧ (f x).isSome = true := by simp [hgood]
      have hfront : (∀ x ∈ front ++ [last], f x = none) ↔ ∀ x ∈ front, f x = none := by
        simp [or_imp, forall_and, hgood]
      -- the last one is bad, so there must be no good one before it
      rw [or_iff_left hbad, hfront, List.filterMap_cons_none hgood, List.filterMap_nil,
        List.append_nil, ← List.filterMap_eq_nil_iff, ← List.getLast?_eq_none_iff]
      exact eq_comm

/-- The feeds and speeds of a report are read from what stands behind their mark. -/
theorem filterMap_feedSpindleAfter? (fields : List String) :
    fields.filterMap feedSpindleAfter? =
      (fields.filterMap (payload? "FS:")).filterMap FeedSpindle.read? := by
  rw [List.filterMap_filterMap]
  rfl

/-- The last feed and spindle field of a report decides. It is what the report holds if it can be
read, and if not the report holds nothing, whatever its other fields are. So the report holds the
last valid field just where no field is valid or the last one is. -/
theorem last_feedSpindle_decides (h : ofLine? line = some r) :
    r.feedSpindle = (r.fields.filterMap (payload? "FS:")).getLast?.bind FeedSpindle.read? ∧
    (r.feedSpindle = (r.fields.filterMap feedSpindleAfter?).getLast? ↔
      (∀ field ∈ r.fields, feedSpindleAfter? field = none) ∨
      ∃ payload, (r.fields.filterMap (payload? "FS:")).getLast? = some payload ∧
        (FeedSpindle.read? payload).isSome = true) := by
  refine ⟨feedSpindle_eq h, ?_⟩
  rw [feedSpindle_eq h, filterMap_feedSpindleAfter?, getLast?_bind_eq_iff]
  refine or_congr_left ?_
  rw [← List.filterMap_eq_nil_iff, ← List.filterMap_eq_nil_iff, filterMap_feedSpindleAfter?]

/-- A field that cannot be read, then one that can. -/
theorem last_feedSpindle_decides_afterMalformed :
    ∃ r, ofLine? "<Run|FS:bad|MPos:0,0,0|FS:500,1200>" = some r ∧
      r.feedSpindle = some ⟨500, 1200⟩ ∧
      r.feedSpindle = (r.fields.filterMap feedSpindleAfter?).getLast? := by
  have hline : ofLine? "<Run|FS:bad|MPos:0,0,0|FS:500,1200>" =
      some (spelled "Run".toList ["FS:bad".toList, "MPos:0,0,0".toList, "FS:500,1200".toList]) :=
    ofLine?_eq_some_iff.mpr
      ⟨_, _, ⟨by decide, by decide, by decide, ⟨'R', by decide, by decide⟩⟩, rfl⟩
  obtain ⟨hlast, hvalid⟩ := last_feedSpindle_decides hline
  have hfields := spelled_fields "Run".toList
    ["FS:bad".toList, "MPos:0,0,0".toList, "FS:500,1200".toList]
  rw [hfields] at hlast hvalid
  refine ⟨_, hline, hlast.trans rfl, ?_⟩
  rw [hfields]
  exact hvalid.mpr (.inr ⟨"500,1200".toList, by decide, by decide +kernel⟩)

/-- A report with a valid field that holds no feed and no spindle: a later field of their kind
cannot be read. -/
theorem malformed_feedSpindle_erases :
    ∃ r, ofLine? "<Idle|FS:1,2|FS:bad>" = some r ∧
      ¬(r.feedSpindle.isSome = true ↔
        ∃ field ∈ r.fields, (feedSpindleAfter? field).isSome = true) := by
  have hline : ofLine? "<Idle|FS:1,2|FS:bad>" =
      some (spelled "Idle".toList ["FS:1,2".toList, "FS:bad".toList]) :=
    ofLine?_eq_some_iff.mpr
      ⟨_, _, ⟨by decide, by decide, by decide, ⟨'I', by decide, by decide⟩⟩, rfl⟩
  refine ⟨_, hline, fun hclaim => ?_⟩
  have hnone : (spelled "Idle".toList ["FS:1,2".toList, "FS:bad".toList]).feedSpindle.isSome =
      false := by decide +kernel
  rw [hclaim.mpr ⟨"FS:1,2", by decide, by decide +kernel⟩] at hnone
  cases hnone

end StatusReport

end Machine

end GcodeSender
