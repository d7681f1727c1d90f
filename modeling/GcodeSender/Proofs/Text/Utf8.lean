import GcodeSender.Text.Utf8
import Mathlib.Tactic.Common

/-!
# `GcodeSender.Proofs.Text.Utf8`: texts and their bytes

`IsSequence` lists the four shapes of a character in UTF-8 and the number that each stands for.
What a character is encoded as has one of these shapes, what has one of them is the encoding of
its number, and the reader takes them one after the other. So the bytes that are read are those
that were encoded (`decode_eq_ok_iff`), and they are the valid ones of the standard library
(`isValidUTF8_iff`).

* `mem_encodeChar_iff`: an ASCII character stands for itself and is part of no other.
* `splitAtByte?_eq_some_iff`: which byte indices are boundaries of characters.
-/

set_option autoImplicit false

namespace GcodeSender.Text

/-- A byte that continues a character. -/
def Continues (b : UInt8) : Prop := 0x80 ≤ b.toNat ∧ b.toNat ≤ 0xbf

/-- The bytes of one character, and its number. The shortest form is the only one, and there is
none for the surrogates. -/
inductive IsSequence : List UInt8 → Nat → Prop
  | one {b : UInt8} (h : b.toNat < 0x80) : IsSequence [b] b.toNat
  | two {b b₁ : UInt8} (h : 0xc2 ≤ b.toNat ∧ b.toNat ≤ 0xdf) (h₁ : Continues b₁) :
      IsSequence [b, b₁] (b.toNat % 32 * 64 + payload b₁)
  | three {b b₁ b₂ : UInt8} (h : 0xe0 ≤ b.toNat ∧ b.toNat ≤ 0xef) (h₁ : Continues b₁)
      (h₂ : Continues b₂) (hlong : b.toNat = 0xe0 → 0xa0 ≤ b₁.toNat)
      (hsurrogate : b.toNat = 0xed → b₁.toNat ≤ 0x9f) :
      IsSequence [b, b₁, b₂] (b.toNat % 16 * 4096 + payload b₁ * 64 + payload b₂)
  | four {b b₁ b₂ b₃ : UInt8} (h : 0xf0 ≤ b.toNat ∧ b.toNat ≤ 0xf4) (h₁ : Continues b₁)
      (h₂ : Continues b₂) (h₃ : Continues b₃) (hlong : b.toNat = 0xf0 → 0x90 ≤ b₁.toNat)
      (hlast : b.toNat = 0xf4 → b₁.toNat ≤ 0x8f) :
      IsSequence [b, b₁, b₂, b₃]
        (b.toNat % 8 * 262144 + payload b₁ * 4096 + payload b₂ * 64 + payload b₃)

/-- What the decoder tests of a byte that continues a sequence. -/
theorem isContinuation_iff {b : UInt8} : isContinuation b = true ↔ Continues b := by
  simp [isContinuation, Continues, UInt8.le_iff_toNat_le]

/-- What it tests of the second byte of three: no long form of a short sequence, no surrogate. -/
theorem mayFollowInThree_iff {b b₁ : UInt8} : mayFollowInThree b b₁ = true ↔
    Continues b₁ ∧ (b.toNat = 0xe0 → 0xa0 ≤ b₁.toNat) ∧ (b.toNat = 0xed → b₁.toNat ≤ 0x9f) := by
  simp only [mayFollowInThree, ← UInt8.toNat_inj, UInt8.reduceToNat]
  split
  · simp [Continues, UInt8.le_iff_toNat_le]
    omega
  · split
    · simp [Continues, UInt8.le_iff_toNat_le]
      omega
    · rw [isContinuation_iff]
      constructor
      · intro h
        exact ⟨h, by omega, by omega⟩
      · exact fun h => h.1

/-- What it tests of the second byte of four: no long form, nothing past the last character. -/
theorem mayFollowInFour_iff {b b₁ : UInt8} : mayFollowInFour b b₁ = true ↔
    Continues b₁ ∧ (b.toNat = 0xf0 → 0x90 ≤ b₁.toNat) ∧ (b.toNat = 0xf4 → b₁.toNat ≤ 0x8f) := by
  simp only [mayFollowInFour, ← UInt8.toNat_inj, UInt8.reduceToNat]
  split
  · simp [Continues, UInt8.le_iff_toNat_le]
    omega
  · split
    · simp [Continues, UInt8.le_iff_toNat_le]
      omega
    · rw [isContinuation_iff]
      constructor
      · intro h
        exact ⟨h, by omega, by omega⟩
      · exact fun h => h.1

/-! ### One character -/

/-- A number below 256 is that of its byte. -/
theorem toNat_ofNat_of_lt {n : Nat} (h : n < 256) : (UInt8.ofNat n).toNat = n := by
  rw [UInt8.toNat_ofNat']
  omega

/-- The number of a byte that continues a sequence. -/
theorem toNat_tail (v shift : Nat) :
    (UInt8.ofNat (0x80 + (v >>> shift) % 64)).toNat = 0x80 + (v >>> shift) % 64 :=
  toNat_ofNat_of_lt (by omega)

/-- What a character is encoded as is the sequence of its number. -/
theorem isSequence_encodeChar (c : Char) : IsSequence (encodeChar c) c.toNat := by
  have hvalid : c.toNat < 0xd800 ∨ 0xdfff < c.toNat ∧ c.toNat < 0x110000 := c.valid
  unfold encodeChar
  generalize c.toNat = v at hvalid
  -- the bytes behind the first hold six bits each; how many there are depends on the number
  have h₀ := toNat_tail v 0
  have h₆ := toNat_tail v 6
  have h₁₂ := toNat_tail v 12
  simp only []
  split
  · have hb : (UInt8.ofNat v).toNat = v := toNat_ofNat_of_lt (by omega)
    convert IsSequence.one (b := UInt8.ofNat v) (by omega)
    exact hb.symm
  · split
    · have hb : (UInt8.ofNat (0xc0 + v / 64)).toNat = 0xc0 + v / 64 :=
        toNat_ofNat_of_lt (by omega)
      have hseq := IsSequence.two (b := UInt8.ofNat (0xc0 + v / 64)) (by omega)
        (show Continues (UInt8.ofNat (0x80 + (v >>> 0) % 64)) by unfold Continues; omega)
      convert hseq using 1
      rw [payload]
      omega
    · split
      · have hb : (UInt8.ofNat (0xe0 + v / 4096)).toNat = 0xe0 + v / 4096 :=
          toNat_ofNat_of_lt (by omega)
        have hseq := IsSequence.three (b := UInt8.ofNat (0xe0 + v / 4096)) (by omega)
          (show Continues (UInt8.ofNat (0x80 + (v >>> 6) % 64)) by unfold Continues; omega)
          (show Continues (UInt8.ofNat (0x80 + (v >>> 0) % 64)) by unfold Continues; omega)
          (by omega) (by omega)
        convert hseq using 1
        rw [payload, payload]
        omega
      · have hb : (UInt8.ofNat (0xf0 + v / 262144)).toNat = 0xf0 + v / 262144 :=
          toNat_ofNat_of_lt (by omega)
        have hseq := IsSequence.four (b := UInt8.ofNat (0xf0 + v / 262144)) (by omega)
          (show Continues (UInt8.ofNat (0x80 + (v >>> 12) % 64)) by unfold Continues; omega)
          (show Continues (UInt8.ofNat (0x80 + (v >>> 6) % 64)) by unfold Continues; omega)
          (show Continues (UInt8.ofNat (0x80 + (v >>> 0) % 64)) by unfold Continues; omega)
          (by omega) (by omega)
        convert hseq using 1
        rw [payload, payload, payload]
        omega

/-- The number of a sequence is that of a character, and has the length of the sequence. -/
theorem IsSequence.isValidChar {bytes : List UInt8} {v : Nat} (h : IsSequence bytes v) :
    v.isValidChar := by
  show v < 0xd800 ∨ 0xdfff < v ∧ v < 0x110000
  cases h with
  | one h => omega
  | two h h₁ => unfold payload; omega
  | three h h₁ h₂ hlong hsurrogate =>
    unfold payload Continues at *
    omega
  | four h h₁ h₂ h₃ hlong hlast =>
    unfold payload Continues at *
    omega

/-- A sequence is what the character of its number is encoded as. -/
theorem IsSequence.encodeChar_eq {bytes : List UInt8} {v : Nat} (h : IsSequence bytes v) :
    encodeChar (Char.ofNat v) = bytes := by
  have hv : (Char.ofNat v).toNat = v := by
    rw [Char.ofNat, dif_pos h.isValidChar]
    rfl
  have hbyte : ∀ {n : Nat} {b : UInt8}, n = b.toNat → UInt8.ofNat n = b := by
    rintro n b rfl
    exact UInt8.ofNat_toNat
  -- the lead byte decides which branch is taken, and each byte is a quotient with its mark
  unfold encodeChar
  simp only [hv, Nat.shiftRight_eq_div_pow]
  cases h with
  | one h => rw [if_pos h, hbyte rfl]
  | @two b b₁ h h₁ =>
    unfold payload Continues at *
    rw [if_neg (by omega), if_pos (by omega), hbyte (b := b) (by omega), hbyte (b := b₁) (by omega)]
  | @three b b₁ b₂ h h₁ h₂ hlong hsurrogate =>
    unfold payload Continues at *
    rw [if_neg (by omega), if_neg (by omega), if_pos (by omega), hbyte (b := b) (by omega),
      hbyte (b := b₁) (by omega), hbyte (b := b₂) (by omega)]
  | @four b b₁ b₂ b₃ h h₁ h₂ h₃ hlong hlast =>
    unfold payload Continues at *
    rw [if_neg (by omega), if_neg (by omega), if_neg (by omega), hbyte (b := b) (by omega),
      hbyte (b := b₁) (by omega), hbyte (b := b₂) (by omega), hbyte (b := b₃) (by omega)]

/-! ### Decoding -/

/-- The bytes of a text are those of its first character and then those of the others. -/
theorem encode_cons (c : Char) (cs : List Char) :
    encode (c :: cs) = encodeChar c ++ encode cs := rfl

/-- Where a byte stands between two others. -/
theorem between_iff {b low high : UInt8} : (decide (low ≤ b) && decide (b ≤ high)) = true ↔
    low.toNat ≤ b.toNat ∧ b.toNat ≤ high.toNat := by
  simp [UInt8.le_iff_toNat_le]

/-- A sequence at the beginning is read as its character. -/
theorem IsSequence.decodeFrom_append {bytes : List UInt8} {v : Nat} (h : IsSequence bytes v)
    (i : Nat) (rest : List UInt8) :
    decodeFrom i (bytes ++ rest) =
      (decodeFrom (i + bytes.length) rest).map (Char.ofNat v :: ·) := by
  have hone : ∀ {b : UInt8}, 0x80 ≤ b.toNat → ¬b < 0x80 := fun h hlt =>
    absurd (UInt8.lt_iff_toNat_lt.mp hlt) (Nat.not_lt.mpr h)
  -- by the shape: the first byte rules the shorter ones out, and the others may follow it
  cases h with
  | @one b h =>
    have hbyte : b < 0x80 := UInt8.lt_iff_toNat_lt.mpr h
    show decodeFrom i (b :: rest) = _
    conv_lhs => unfold decodeFrom
    rw [if_pos hbyte]
    rfl
  | @two b b₁ h h₁ =>
    have hbyte : (decide (0xc2 ≤ b) && decide (b ≤ 0xdf)) = true := between_iff.mpr h
    show decodeFrom i (b :: b₁ :: rest) = _
    conv_lhs => unfold decodeFrom
    rw [if_neg (hone (by omega)), if_pos hbyte]
    simp only [isContinuation_iff.mpr h₁, if_true]
    rfl
  | @three b b₁ b₂ h h₁ h₂ hlong hsurrogate =>
    have htwo : ¬(decide (0xc2 ≤ b) && decide (b ≤ 0xdf)) = true :=
      mt between_iff.mp (by simp; omega)
    have hbyte : (decide (0xe0 ≤ b) && decide (b ≤ 0xef)) = true := between_iff.mpr h
    show decodeFrom i (b :: b₁ :: b₂ :: rest) = _
    conv_lhs => unfold decodeFrom
    rw [if_neg (hone (by omega)), if_neg htwo, if_pos hbyte]
    simp only [mayFollowInThree_iff.mpr ⟨h₁, hlong, hsurrogate⟩, isContinuation_iff.mpr h₂, if_true]
    rfl
  | @four b b₁ b₂ b₃ h h₁ h₂ h₃ hlong hlast =>
    have htwo : ¬(decide (0xc2 ≤ b) && decide (b ≤ 0xdf)) = true :=
      mt between_iff.mp (by simp; omega)
    have hthree : ¬(decide (0xe0 ≤ b) && decide (b ≤ 0xef)) = true :=
      mt between_iff.mp (by simp; omega)
    have hbyte : (decide (0xf0 ≤ b) && decide (b ≤ 0xf4)) = true := between_iff.mpr h
    show decodeFrom i (b :: b₁ :: b₂ :: b₃ :: rest) = _
    conv_lhs => unfold decodeFrom
    rw [if_neg (hone (by omega)), if_neg htwo, if_neg hthree, if_pos hbyte]
    simp only [mayFollowInFour_iff.mpr ⟨h₁, hlong, hlast⟩, isContinuation_iff.mpr h₂,
      isContinuation_iff.mpr h₃, if_true]
    rfl

/-- What is encoded is read again. -/
theorem decodeFrom_encode (i : Nat) (cs : List Char) : decodeFrom i (encode cs) = .ok cs := by
  induction cs generalizing i with
  | nil => rfl
  | cons c cs ih =>
    have hfirst := (isSequence_encodeChar c).decodeFrom_append i (encode cs)
    rw [ih, Char.ofNat_toNat] at hfirst
    exact hfirst

/-- What is read was encoded. -/
theorem eq_encode_of_decodeFrom {bytes : List UInt8} {i : Nat} {cs : List Char}
    (h : decodeFrom i bytes = .ok cs) : bytes = encode cs := by
  -- a sequence in front of what was encoded, and its character in front of the rest
  have hnext : ∀ {sequence rest : List UInt8} {v : Nat} {read : Except Utf8Fault (List Char)}
      {cs : List Char}, IsSequence sequence v → (∀ {more}, read = .ok more → rest = encode more) →
      read.map (Char.ofNat v :: ·) = .ok cs → sequence ++ rest = encode cs := by
    intro sequence rest v read cs hsequence hrest hread
    cases read with
    | error fault => cases hread
    | ok more =>
      obtain rfl := Except.ok.inj hread
      rw [encode_cons, hsequence.encodeChar_eq, ← hrest rfl]
  fun_induction decodeFrom i bytes generalizing cs
  case case1 =>
    obtain rfl := Except.ok.inj h
    rfl
  case case2 hbyte ih => exact hnext (.one (UInt8.lt_iff_toNat_lt.mp hbyte)) ih h
  case case4 hbyte _ _ h₁ ih =>
    exact hnext (.two (between_iff.mp hbyte) (isContinuation_iff.mp h₁)) ih h
  case case8 hbyte _ hfollows _ _ h₂ ih =>
    obtain ⟨h₁, hlong, hsurrogate⟩ := mayFollowInThree_iff.mp hfollows
    exact hnext (.three (between_iff.mp hbyte) h₁ (isContinuation_iff.mp h₂) hlong hsurrogate) ih h
  case case14 hbyte _ hfollows _ h₂ _ _ h₃ ih =>
    obtain ⟨h₁, hlong, hlast⟩ := mayFollowInFour_iff.mp hfollows
    exact hnext (.four (between_iff.mp hbyte) h₁ (isContinuation_iff.mp h₂)
      (isContinuation_iff.mp h₃) hlong hlast) ih h
  -- every other case is a fault
  all_goals cases h

/-- Bytes decode to a text just if they are the bytes of the text. -/
theorem decode_eq_ok_iff {bytes : List UInt8} {cs : List Char} :
    decode bytes = .ok cs ↔ bytes = encode cs :=
  ⟨eq_encode_of_decodeFrom, fun h => by rw [h, decode, decodeFrom_encode]⟩

/-- The encoding is that of the standard library. -/
theorem encodeChar_eq (c : Char) : encodeChar c = String.utf8EncodeChar c := by
  have hvalid : c.toNat < 0xd800 ∨ 0xdfff < c.toNat ∧ c.toNat < 0x110000 := c.valid
  have hval : c.val.toNat = c.toNat := rfl
  have hbyte : ∀ {m n : Nat}, m = n → UInt8.ofNat m = UInt8.ofNat n := congrArg UInt8.ofNat
  unfold encodeChar String.utf8EncodeChar
  simp only [hval, Nat.shiftRight_eq_div_pow]
  -- the same four cases, with the parts of each byte put together in another order
  generalize c.toNat = v at hvalid
  by_cases hone : v < 0x80
  · rw [if_pos hone, if_pos (by omega)]
  · by_cases htwo : v < 0x800
    · rw [if_neg hone, if_pos htwo, if_neg (by omega), if_pos (by omega),
        hbyte (m := 0xc0 + v / 64) (n := v / 64 % 0x20 + 0xc0) (by omega),
        hbyte (m := 0x80 + v / 2 ^ 0 % 64) (n := v % 0x40 + 0x80) (by omega)]
    · by_cases hthree : v < 0x10000
      · rw [if_neg hone, if_neg htwo, if_pos hthree, if_neg (by omega), if_neg (by omega),
          if_pos (by omega),
          hbyte (m := 0xe0 + v / 4096) (n := v / 4096 % 0x10 + 0xe0) (by omega),
          hbyte (m := 0x80 + v / 2 ^ 6 % 64) (n := v / 64 % 0x40 + 0x80) (by omega),
          hbyte (m := 0x80 + v / 2 ^ 0 % 64) (n := v % 0x40 + 0x80) (by omega)]
      · rw [if_neg hone, if_neg htwo, if_neg hthree, if_neg (by omega), if_neg (by omega),
          if_neg (by omega),
          hbyte (m := 0xf0 + v / 262144) (n := v / 262144 % 0x08 + 0xf0) (by omega),
          hbyte (m := 0x80 + v / 2 ^ 12 % 64) (n := v / 4096 % 0x40 + 0x80) (by omega),
          hbyte (m := 0x80 + v / 2 ^ 6 % 64) (n := v / 64 % 0x40 + 0x80) (by omega),
          hbyte (m := 0x80 + v / 2 ^ 0 % 64) (n := v % 0x40 + 0x80) (by omega)]

/-- The bytes of a text are those that the standard library encodes it as. -/
theorem toByteArray_encode (cs : List Char) : (encode cs).toByteArray = cs.utf8Encode := by
  rw [encode, funext encodeChar_eq]
  rfl

/-- Bytes are read just where the standard library finds them valid. -/
theorem isValidUTF8_iff {bytes : List UInt8} :
    bytes.toByteArray.IsValidUTF8 ↔ ∃ cs, bytes = encode cs := by
  constructor
  · rintro ⟨cs, hbytes⟩
    refine ⟨cs, ?_⟩
    rw [← toByteArray_encode] at hbytes
    exact List.toByteArray_inj.mp hbytes
  · rintro ⟨cs, rfl⟩
    exact ⟨cs, toByteArray_encode cs⟩

/-! ### ASCII characters -/

/-- A byte below 128 is a sequence of its own, and no part of a longer one. -/
theorem IsSequence.mem_iff {bytes : List UInt8} {v : Nat} (h : IsSequence bytes v) {b : UInt8}
    (hb : b.toNat < 0x80) : b ∈ bytes ↔ v = b.toNat := by
  -- in a longer sequence every byte is above, and so is the number
  have hlong : (∀ x ∈ bytes, 0x80 ≤ x.toNat) → 0x80 ≤ v → (b ∈ bytes ↔ v = b.toNat) :=
    fun hbytes hv => iff_of_false (fun hmem => Nat.not_le.mpr hb (hbytes b hmem)) (by omega)
  cases h with
  | one h => rw [List.mem_singleton, ← UInt8.toNat_inj, eq_comm]
  | two h h₁ =>
    unfold Continues payload at *
    exact hlong (by simp; omega) (by omega)
  | three h h₁ h₂ hshort hsurrogate =>
    unfold Continues payload at *
    exact hlong (by simp; omega) (by omega)
  | four h h₁ h₂ h₃ hshort hlast =>
    unfold Continues payload at *
    exact hlong (by simp; omega) (by omega)

/-- A byte below 0x80 occurs in the bytes of one character only, which is the character of that
number. -/
theorem mem_encodeChar_iff {c d : Char} (hd : d.toNat < 0x80) :
    UInt8.ofNat d.toNat ∈ encodeChar c ↔ c = d := by
  have hbyte : (UInt8.ofNat d.toNat).toNat = d.toNat := toNat_ofNat_of_lt (by omega)
  rw [(isSequence_encodeChar c).mem_iff (by omega), hbyte, Char.toNat_inj]

/-! ### Byte indices -/

/-- Every character has a byte. -/
theorem encodeChar_length_pos (c : Char) : 0 < (encodeChar c).length := by
  unfold encodeChar
  simp only []
  split
  · exact Nat.one_pos
  · split
    · exact Nat.two_pos
    · split <;> simp

/-- The text before a byte index and the text behind it, if the index stands between two
characters or at an end. -/
def splitAtByte? : List Char → Nat → Option (List Char × List Char)
  | cs, 0 => some ([], cs)
  | [], _ + 1 => none
  | c :: cs, i + 1 =>
    if i + 1 < (encodeChar c).length then none
    else (splitAtByte? cs (i + 1 - (encodeChar c).length)).map fun (before, after) =>
      (c :: before, after)

/-- An index is a boundary just when it counts the bytes of a beginning of the text. -/
theorem splitAtByte?_eq_some_iff {cs before after : List Char} {i : Nat} :
    splitAtByte? cs i = some (before, after) ↔
      cs = before ++ after ∧ (encode before).length = i := by
  -- along the text: at its beginning, behind its end, within its first character, or behind it
  induction cs, i using splitAtByte?.induct generalizing before with
  | case1 cs =>
    have hbytes : (encode before).length = 0 ↔ before = [] := by
      cases before with
      | nil => simp [encode]
      | cons c before =>
        have := encodeChar_length_pos c
        simp only [encode, List.flatMap_cons, List.length_append, reduceCtorEq, iff_false]
        omega
    rw [splitAtByte?, hbytes]
    constructor
    · rintro h
      obtain ⟨rfl, rfl⟩ := Prod.mk.inj (Option.some.inj h)
      exact ⟨rfl, rfl⟩
    · rintro ⟨rfl, rfl⟩
      rfl
  | case2 i =>
    rw [splitAtByte?]
    constructor
    · intro h
      cases h
    · rintro ⟨h, hi⟩
      obtain ⟨rfl, rfl⟩ := List.append_eq_nil_iff.mp h.symm
      simp [encode] at hi
  | case3 c cs i hinside =>
    rw [splitAtByte?, if_pos hinside]
    constructor
    · intro h
      cases h
    · rintro ⟨h, hi⟩
      cases before with
      | nil => simp [encode] at hi
      | cons d before =>
        obtain ⟨rfl, -⟩ := List.cons.inj h
        simp only [encode, List.flatMap_cons, List.length_append] at hi
        omega
  | case4 c cs i hbehind ih =>
    rw [splitAtByte?, if_neg hbehind]
    constructor
    · intro h
      obtain ⟨⟨upto, rest⟩, hrest, heq⟩ := Option.map_eq_some_iff.mp h
      obtain ⟨rfl, rfl⟩ := Prod.mk.inj heq
      obtain ⟨rfl, hi⟩ := ih.mp hrest
      refine ⟨rfl, ?_⟩
      simp only [encode, List.flatMap_cons, List.length_append] at hi ⊢
      omega
    · rintro ⟨h, hi⟩
      cases before with
      | nil => simp [encode] at hi
      | cons d before =>
        obtain ⟨rfl, hcs⟩ := List.cons.inj h
        have hrest : splitAtByte? cs (i + 1 - (encodeChar c).length) = some (before, after) := by
          refine ih.mpr ⟨hcs, ?_⟩
          simp only [encode, List.flatMap_cons, List.length_append] at hi ⊢
          omega
        rw [hrest]
        rfl

/-- The text between two byte indices, if both are boundaries and the first is not behind the
last. -/
def bytesBetween? (first last : Nat) (cs : List Char) : Option (List Char) :=
  match splitAtByte? cs last with
  | none => none
  | some (upto, _) => (splitAtByte? upto first).map (·.2)

/-- A part of a text is what lies between the places of bytes where it begins and ends. -/
theorem bytesBetween?_append (before between after : List Char) :
    bytesBetween? (encode before).length (encode (before ++ between)).length
      (before ++ between ++ after) = some between := by
  have hlast : splitAtByte? (before ++ between ++ after) (encode (before ++ between)).length =
      some (before ++ between, after) := splitAtByte?_eq_some_iff.mpr ⟨rfl, rfl⟩
  have hfirst : splitAtByte? (before ++ between) (encode before).length =
      some (before, between) := splitAtByte?_eq_some_iff.mpr ⟨rfl, rfl⟩
  simp only [bytesBetween?, hlast, hfirst, Option.map_some]

end GcodeSender.Text
