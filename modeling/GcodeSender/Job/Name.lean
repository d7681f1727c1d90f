/-!
# `GcodeSender.Job.Name`: the names of jobs

A job is named by sixteen random bytes in hexadecimal, in five groups.
Two places of the name say that it is random.
-/

set_option autoImplicit false

namespace GcodeSender.Job

/-- A byte in two digits. -/
def byteDigits (b : UInt8) : List Char :=
  [Nat.digitChar (b.toNat / 16), Nat.digitChar (b.toNat % 16)]

/-- The byte at a place of a name: the seventh and the ninth carry the
marks of a random name in their upper bits. -/
def markByte (place : Nat) (b : UInt8) : UInt8 :=
  if place = 6 then 0x40 ||| (b &&& 0x0f)
  else if place = 8 then 0x80 ||| (b &&& 0x3f)
  else b

/-- The places in front of which a group begins. -/
def groupStarts : List Nat := [4, 6, 8, 10]

/-- The name for some random bytes. -/
def nameOfBytes (bytes : List UInt8) : String :=
  String.ofList (bytes.zipIdx.flatMap fun (b, place) =>
    (if groupStarts.contains place then ['-'] else []) ++ byteDigits (markByte place b))

example : nameOfBytes (List.replicate 16 0xff) = "ffffffff-ffff-4fff-bfff-ffffffffffff" := by
  decide +kernel

end GcodeSender.Job
