/-!
# `GcodeSender.Text.Utf8`: reading bytes as UTF-8

Lines arrive from the controller as bytes and are dropped when they
are not UTF-8, with a message that names the first byte that rules the
line out. `decode` reads the longest valid beginning and says how it
ends; `encode` is the other direction.

The four shapes of a character are those of RFC 3629. Where a sequence
breaks off, the bytes that can still begin a character count as one
invalid sequence together.
-/

set_option autoImplicit false

namespace GcodeSender.Text

/-- Why a byte sequence is not UTF-8. `start` is the number of bytes
that form whole characters before the fault. -/
inductive Utf8Fault where
  /-- The `length` bytes from `start` on begin no character. -/
  | invalid (length start : Nat)
  /-- The bytes from `start` on are the beginning of a character that
  the sequence does not complete. -/
  | incomplete (start : Nat)
deriving DecidableEq, Repr

/-- The fault in words. -/
def Utf8Fault.message : Utf8Fault → String
  | .invalid length start =>
    "invalid utf-8 sequence of " ++ toString length ++ " bytes from index " ++ toString start
  | .incomplete start => "incomplete utf-8 byte sequence from index " ++ toString start

/-- A byte of the form `10xxxxxx`, which only continues a character. -/
def isContinuation (b : UInt8) : Bool := 0x80 ≤ b && b ≤ 0xbf

/-- The six bits that a continuation byte carries. -/
def payload (b : UInt8) : Nat := b.toNat % 64

/-- The bytes that may follow `b` in a character of three bytes. They
leave out the overlong forms and the surrogates. -/
def mayFollowInThree (b next : UInt8) : Bool :=
  if b = 0xe0 then 0xa0 ≤ next && next ≤ 0xbf
  else if b = 0xed then 0x80 ≤ next && next ≤ 0x9f
  else isContinuation next

/-- The bytes that may follow `b` in a character of four bytes. They
leave out the overlong forms and what lies above `U+10FFFF`. -/
def mayFollowInFour (b next : UInt8) : Bool :=
  if b = 0xf0 then 0x90 ≤ next && next ≤ 0xbf
  else if b = 0xf4 then 0x80 ≤ next && next ≤ 0x8f
  else isContinuation next

/-- Reads a byte sequence whose first byte stands at index `at`. -/
def decodeFrom (i : Nat) : List UInt8 → Except Utf8Fault (List Char)
  | [] => .ok []
  | b :: rest =>
    if b < 0x80 then (decodeFrom (i + 1) rest).map (Char.ofNat b.toNat :: ·)
    -- with 0xc0 or 0xc1 two bytes would spell a character that one byte spells
    else if 0xc2 ≤ b && b ≤ 0xdf then
      match rest with
      | [] => .error (.incomplete i)
      | b₁ :: rest =>
        if isContinuation b₁ then
          (decodeFrom (i + 2) rest).map
            (Char.ofNat (b.toNat % 32 * 64 + payload b₁) :: ·)
        else .error (.invalid 1 i)
    else if 0xe0 ≤ b && b ≤ 0xef then
      match rest with
      | [] => .error (.incomplete i)
      | b₁ :: rest =>
        if mayFollowInThree b b₁ then
          match rest with
          | [] => .error (.incomplete i)
          | b₂ :: rest =>
            if isContinuation b₂ then
              (decodeFrom (i + 3) rest).map
                (Char.ofNat (b.toNat % 16 * 4096 + payload b₁ * 64 + payload b₂) :: ·)
            else .error (.invalid 2 i)
        else .error (.invalid 1 i)
    else if 0xf0 ≤ b && b ≤ 0xf4 then
      match rest with
      | [] => .error (.incomplete i)
      | b₁ :: rest =>
        if mayFollowInFour b b₁ then
          match rest with
          | [] => .error (.incomplete i)
          | b₂ :: rest =>
            if isContinuation b₂ then
              match rest with
              | [] => .error (.incomplete i)
              | b₃ :: rest =>
                if isContinuation b₃ then
                  (decodeFrom (i + 4) rest).map
                    (Char.ofNat (b.toNat % 8 * 262144 + payload b₁ * 4096 + payload b₂ * 64
                      + payload b₃) :: ·)
                else .error (.invalid 3 i)
            else .error (.invalid 2 i)
        else .error (.invalid 1 i)
    else .error (.invalid 1 i)

/-- The characters of a UTF-8 byte sequence. -/
def decode (bytes : List UInt8) : Except Utf8Fault (List Char) := decodeFrom 0 bytes

/-- The UTF-8 bytes of one character. -/
def encodeChar (c : Char) : List UInt8 :=
  let v := c.toNat
  let tail (shift : Nat) : UInt8 := UInt8.ofNat (0x80 + (v >>> shift) % 64)
  if v < 0x80 then [UInt8.ofNat v]
  else if v < 0x800 then [UInt8.ofNat (0xc0 + v / 64), tail 0]
  else if v < 0x10000 then [UInt8.ofNat (0xe0 + v / 4096), tail 6, tail 0]
  else [UInt8.ofNat (0xf0 + v / 262144), tail 12, tail 6, tail 0]

/-- The UTF-8 bytes of a text. -/
def encode (cs : List Char) : List UInt8 := cs.flatMap encodeChar

/-- The text of a byte sequence in which every invalid sequence has
become the replacement character `U+FFFD`. The index bounds the
number of faults by the number of bytes. -/
def decodeLossy (bytes : List UInt8) : List Char :=
  go bytes.length bytes
where
  /-- Reads up to the next fault, marks it, and goes on behind it. -/
  go : Nat → List UInt8 → List Char
    | 0, _ => []
    | n + 1, bytes =>
      match decode bytes with
      | .ok cs => cs
      | .error (.incomplete start) => valid start bytes ++ ['\ufffd']
      | .error (.invalid length start) =>
        valid start bytes ++ '\ufffd' :: go n (bytes.drop (start + length))
  /-- The characters of a beginning known to be whole. -/
  valid (start : Nat) (bytes : List UInt8) : List Char :=
    ((decode (bytes.take start)).toOption).getD []

example : decode [0x47, 0xc3, 0xa9] = .ok ['G', 'é'] := rfl
example : decode [0xff, 0x0a] = .error (.invalid 1 0) := rfl
example : decode [0x41, 0xe2, 0x82] = .error (.incomplete 1) := rfl

end GcodeSender.Text
