import GcodeSender.Machine.Position
import Mathlib.Tactic.Common

/-!
# `GcodeSender.Proofs.Machine.Position`: which texts are positions

`Position.ofParts` reads the axes in their order and stops at the first that is at fault.
`coordinate` reads one axis on its own, and `ofParts_eq` says that a position is made of the
three. What holds of the text then follows from what holds of one part of it.

* `read_eq_ok_iff`: the first three parts of a position are finite coordinates, and three such
  parts are a position, whatever follows them.
* `read_eq_error_iff`: a fault is that of the first axis at fault. `AtFault` lists the faults.
* `message_of_atFault`: the message names this axis.
* `isFinite_of_read`: a position holds neither a NaN nor an infinity.
-/

set_option autoImplicit false

namespace GcodeSender.Machine

/-- Where the part of an axis stands in the text of a position. -/
def Axis.index : Axis → Nat
  | .x => 0
  | .y => 1
  | .z => 2

/-- The part is a finite number with blanks around it. -/
def IsCoordinate (part : List Char) (value : Float) : Prop :=
  Decimal.read (Text.trim part) = .ok value ∧ value.isFinite = true

/-- The part of the axis is there, and it is a coordinate. -/
def Axis.Readable (parts : List (List Char)) (axis : Axis) : Prop :=
  ∃ part value, parts[axis.index]? = some part ∧ IsCoordinate part value

/-- What is wrong with the part of an axis. -/
inductive AtFault (parts : List (List Char)) (axis : Axis) : PositionFault → Prop
  | missing (h : parts[axis.index]? = none) : AtFault parts axis (.missing axis)
  | invalid {part : List Char} {cause : Decimal.NumberFault} (h : parts[axis.index]? = some part)
      (hread : Decimal.read (Text.trim part) = .error cause) :
      AtFault parts axis (.invalid axis (String.ofList part) cause)
  | nonFinite {part : List Char} {value : Float} (h : parts[axis.index]? = some part)
      (hread : Decimal.read (Text.trim part) = .ok value) (hvalue : value.isFinite = false) :
      AtFault parts axis (.nonFinite axis (String.ofList part))

/-- Every coordinate is a number, and none is infinite. -/
def Position.IsFinite (p : Position) : Prop :=
  ∀ c ∈ [p.x, p.y, p.z], c.isNaN = false ∧ c.isInf = false

/-! ### One axis -/

/-- A coordinate is read just where its text is that of a finite number. -/
theorem readCoordinate_eq_ok_iff {axis : Axis} {part : List Char} {value : Float} :
    readCoordinate axis part = .ok value ↔ IsCoordinate part value := by
  unfold readCoordinate IsCoordinate
  cases Decimal.read (Text.trim part) with
  | error cause => simp
  | ok read =>
    -- what is read is a coordinate if it is finite, and else an error
    cases hfinite : read.isFinite with
    | true =>
      simp only [hfinite, if_true, Except.ok.injEq]
      constructor
      · rintro rfl
        exact ⟨rfl, hfinite⟩
      · exact fun h => h.1
    | false =>
      simp only [hfinite, Bool.false_eq_true, if_false, reduceCtorEq, false_iff]
      rintro ⟨hread, hvalue⟩
      rw [← Except.ok.inj hread, hfinite] at hvalue
      cases hvalue

/-- The part of one axis, read without regard to the others. -/
def coordinate (parts : List (List Char)) (axis : Axis) : Except PositionFault Float :=
  match parts[axis.index]? with
  | none => .error (.missing axis)
  | some part => readCoordinate axis part

/-- A part is the coordinate of the axis whose place it has. -/
theorem coordinate_eq_ok_iff {parts : List (List Char)} {axis : Axis} {value : Float} :
    coordinate parts axis = .ok value ↔
      ∃ part, parts[axis.index]? = some part ∧ IsCoordinate part value := by
  unfold coordinate
  cases parts[axis.index]? with
  | none => simp
  | some part => simp [readCoordinate_eq_ok_iff]

/-- What is wrong with a coordinate is that it is missing, no number, or not finite. -/
theorem coordinate_eq_error_iff {parts : List (List Char)} {axis : Axis} {fault : PositionFault} :
    coordinate parts axis = .error fault ↔ AtFault parts axis fault := by
  constructor
  -- the three branches of the reader are the three faults
  · intro h
    unfold coordinate at h
    split at h
    · rename_i hpart
      obtain rfl := Except.error.inj h
      exact .missing hpart
    · rename_i part hpart
      unfold readCoordinate at h
      split at h
      · rename_i cause hread
        obtain rfl := Except.error.inj h
        exact .invalid hpart hread
      · rename_i value hread
        split at h
        · cases h
        · rename_i hvalue
          obtain rfl := Except.error.inj h
          exact .nonFinite hpart hread (eq_false_of_ne_true hvalue)
  · intro h
    cases h with
    | missing hpart => simp [coordinate, hpart]
    | invalid hpart hread => simp [coordinate, hpart, readCoordinate, hread]
    | nonFinite hpart hread hvalue => simp [coordinate, hpart, readCoordinate, hread, hvalue]

/-- An axis is readable if its coordinate is read. -/
theorem readable_iff {parts : List (List Char)} {axis : Axis} :
    axis.Readable parts ↔ ∃ value, coordinate parts axis = .ok value := by
  simp only [Axis.Readable, coordinate_eq_ok_iff]
  exact exists_comm

/-! ### The three axes -/

/-- A position is read axis by axis. -/
theorem ofParts_eq (parts : List (List Char)) :
    Position.ofParts parts =
      match coordinate parts .x with
      | .error fault => .error fault
      | .ok x =>
        match coordinate parts .y with
        | .error fault => .error fault
        | .ok y =>
          match coordinate parts .z with
          | .error fault => .error fault
          | .ok z => .ok ⟨x, y, z⟩ := by
  -- on the parts that are there, up to three
  rcases parts with _ | ⟨px, _ | ⟨py, _ | ⟨pz, rest⟩⟩⟩ <;> rfl

/-- A text is a position just when its first three parts are coordinates. -/
theorem read_eq_ok_iff {cs : List Char} {p : Position} :
    Position.read cs = .ok p ↔
      ∃ px py pz rest, Text.pieces ',' cs = px :: py :: pz :: rest ∧
        IsCoordinate px p.x ∧ IsCoordinate py p.y ∧ IsCoordinate pz p.z := by
  rw [Position.read, ofParts_eq]
  constructor
  · intro h
    cases hx : coordinate (Text.pieces ',' cs) .x with
    | error fault => simp [hx] at h
    | ok x =>
      cases hy : coordinate (Text.pieces ',' cs) .y with
      | error fault => simp [hx, hy] at h
      | ok y =>
        cases hz : coordinate (Text.pieces ',' cs) .z with
        | error fault => simp [hx, hy, hz] at h
        | ok z =>
          simp only [hx, hy, hz, Except.ok.injEq] at h
          obtain rfl := h
          obtain ⟨px, hpx, hcx⟩ := coordinate_eq_ok_iff.mp hx
          obtain ⟨py, hpy, hcy⟩ := coordinate_eq_ok_iff.mp hy
          obtain ⟨pz, hpz, hcz⟩ := coordinate_eq_ok_iff.mp hz
          -- there is a third part, so the text has three at least
          rcases hparts : Text.pieces ',' cs with _ | ⟨qx, _ | ⟨qy, _ | ⟨qz, rest⟩⟩⟩
          · simp [hparts] at hpx
          · simp [hparts, Axis.index] at hpy
          · simp [hparts, Axis.index] at hpz
          · simp only [hparts, Axis.index, List.getElem?_cons_zero, List.getElem?_cons_succ,
              Option.some.injEq] at hpx hpy hpz
            subst hpx hpy hpz
            exact ⟨qx, qy, qz, rest, rfl, hcx, hcy, hcz⟩
  · rintro ⟨px, py, pz, rest, hparts, hcx, hcy, hcz⟩
    have hx : coordinate (Text.pieces ',' cs) .x = .ok p.x :=
      coordinate_eq_ok_iff.mpr ⟨px, by simp [hparts, Axis.index], hcx⟩
    have hy : coordinate (Text.pieces ',' cs) .y = .ok p.y :=
      coordinate_eq_ok_iff.mpr ⟨py, by simp [hparts, Axis.index], hcy⟩
    have hz : coordinate (Text.pieces ',' cs) .z = .ok p.z :=
      coordinate_eq_ok_iff.mpr ⟨pz, by simp [hparts, Axis.index], hcz⟩
    simp only [hx, hy, hz]

/-- The axis that is read first is at fault, if any is: those before it can be read. -/
theorem read_eq_error_iff {cs : List Char} {fault : PositionFault} :
    Position.read cs = .error fault ↔
      ∃ axis : Axis, (∀ other : Axis, other.index < axis.index →
        other.Readable (Text.pieces ',' cs)) ∧ AtFault (Text.pieces ',' cs) axis fault := by
  rw [Position.read, ofParts_eq]
  simp only [← coordinate_eq_error_iff, readable_iff]
  generalize coordinate (Text.pieces ',' cs) = read
  constructor
  · intro h
    -- the axes are read in order, and the first that cannot be read ends it
    cases hx : read .x with
    | error other =>
      simp only [hx, Except.error.injEq] at h
      obtain rfl := h
      exact ⟨.x, fun axis haxis => absurd haxis (Nat.not_lt_zero _), hx⟩
    | ok x =>
      cases hy : read .y with
      | error other =>
        simp only [hx, hy, Except.error.injEq] at h
        obtain rfl := h
        refine ⟨.y, fun axis haxis => ?_, hy⟩
        cases axis with
        | x => exact ⟨x, hx⟩
        | y | z => simp [Axis.index] at haxis
      | ok y =>
        cases hz : read .z with
        | error other =>
          simp only [hx, hy, hz, Except.error.injEq] at h
          obtain rfl := h
          refine ⟨.z, fun axis haxis => ?_, hz⟩
          cases axis with
          | x => exact ⟨x, hx⟩
          | y => exact ⟨y, hy⟩
          | z => simp [Axis.index] at haxis
        | ok z => simp [hx, hy, hz] at h
  · rintro ⟨axis, hbefore, hfault⟩
    cases axis with
    | x => simp [hfault]
    | y =>
      obtain ⟨x, hx⟩ := hbefore .x (by decide)
      simp [hx, hfault]
    | z =>
      obtain ⟨x, hx⟩ := hbefore .x (by decide)
      obtain ⟨y, hy⟩ := hbefore .y (by decide)
      simp [hx, hy, hfault]

/-! ### What a fault says, and what a position holds -/

/-- The words in front of the axis in the message of a fault. -/
def faultKinds : List String := ["missing ", "invalid ", "non-finite "]

/-- The message of a fault names the axis that is at fault. -/
theorem message_of_atFault {parts : List (List Char)} {axis : Axis} {fault : PositionFault}
    (h : AtFault parts axis fault) :
    ∃ kind ∈ faultKinds, ∃ details,
      fault.message = kind ++ axis.name ++ " coordinate" ++ details := by
  have hword : " coordinate '" = " coordinate" ++ " '" := by decide
  cases h with
  | missing => exact ⟨"missing ", by decide, "", by simp [PositionFault.message]⟩
  | @invalid part cause =>
    refine ⟨"invalid ", by decide, " '" ++ String.ofList part ++ "': " ++ cause.message, ?_⟩
    rw [PositionFault.message, hword]
    simp only [String.append_assoc]
  | @nonFinite part value =>
    refine ⟨"non-finite ", by decide, " '" ++ String.ofList part ++ "'", ?_⟩
    rw [PositionFault.message, hword]
    simp only [String.append_assoc]

/-- A finite double is a number, and not infinite. -/
theorem of_float_isFinite {value : Float} (h : value.isFinite = true) :
    value.isNaN = false ∧ value.isInf = false := by
  have hunpacked : value.toModel.unpack.isFinite = true := h
  show value.toModel.unpack.isNaN = false ∧ value.toModel.unpack.isInf = false
  cases hvalue : value.toModel.unpack with
  | zero | finite => exact ⟨rfl, rfl⟩
  | notANumber | infinity =>
    rw [hvalue] at hunpacked
    cases hunpacked

/-- What is read as a position holds neither a NaN nor an infinity. -/
theorem isFinite_of_read {cs : List Char} {p : Position} (h : Position.read cs = .ok p) :
    p.IsFinite := by
  obtain ⟨px, py, pz, rest, -, hx, hy, hz⟩ := read_eq_ok_iff.mp h
  intro c hc
  rcases List.mem_cons.mp hc with rfl | hc
  · exact of_float_isFinite hx.2
  · rcases List.mem_cons.mp hc with rfl | hc
    · exact of_float_isFinite hy.2
    · rw [List.mem_singleton.mp hc]
      exact of_float_isFinite hz.2

end GcodeSender.Machine
