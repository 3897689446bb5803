import GoproGateway.Library.WireEncode
import Mathlib.Algebra.Group.Int.Defs

/-! The protobuf library as the encoders use it.

The library is a parameter. Its functions write to a stream over a buffer, and fail when the
buffer has no room.
-/

namespace GoproGateway

open WireFormat

/-- The encode functions of the library; `none` is a failure. -/
structure PbEncoder where
  /-- `pb_encode_tag_for_field`, for a field of bytes. -/
  tagForField : OutStream → Nat → Option OutStream
  /-- `pb_encode_string`. -/
  string : OutStream → List UInt8 → Option OutStream
  /-- What `pb_encode` does with a required `int32` field. -/
  requiredInt32 : OutStream → Nat → Int → Option OutStream
  /-- What `pb_encode` does with a singular `int32` field of a proto3 message. -/
  singularInt32 : OutStream → Nat → Int → Option OutStream

/-- The varint of an `int32`: sign-extended to 64 bits. -/
def int64Word (value : Int) : Nat := (value % 2 ^ 64).toNat

/-- The range of an `int32`. -/
def IsInt32 (value : Int) : Prop := -2 ^ 31 ≤ value ∧ value < 2 ^ 31

def int32Record (number : Nat) (value : Int) : Record := ⟨number, .varint (int64Word value)⟩

/-- The library follows the wire format: it writes varints without padding, and leaves out a
singular field that has its default value.
-/
structure PbEncoder.FollowsWireFormat (encoder : PbEncoder) : Prop where
  tagForField : ∀ stream number, number < 2 ^ 29
    → encoder.tagForField stream number = stream.write (encodeTag number 2)
  string : ∀ stream bytes, bytes.length < 2 ^ 32
    → encoder.string stream bytes = stream.write (Value.lengthDelimited bytes).encode
  requiredInt32 : ∀ stream number value, number < 2 ^ 29 → IsInt32 value
    → encoder.requiredInt32 stream number value
      = stream.write (int32Record number value).encode
  singularInt32 : ∀ stream number value, number < 2 ^ 29 → IsInt32 value
    → encoder.singularInt32 stream number value
      = if value = 0 then some stream else stream.write (int32Record number value).encode

/-- A library that writes the wire format as it is. -/
def referencePbEncoder : PbEncoder where
  tagForField stream number := stream.write (encodeTag number 2)
  string stream bytes := stream.write (Value.lengthDelimited bytes).encode
  requiredInt32 stream number value := stream.write (int32Record number value).encode
  singularInt32 stream number value :=
    if value = 0 then some stream else stream.write (int32Record number value).encode

theorem referencePbEncoder_follows : referencePbEncoder.FollowsWireFormat :=
  ⟨fun _ _ _ => rfl, fun _ _ _ => rfl, fun _ _ _ _ _ => rfl, fun _ _ _ _ _ => rfl⟩

theorem int64Word_lt (value : Int) : int64Word value < 2 ^ 64 := by
  unfold int64Word
  omega

theorem int32Record_fits {number : Nat} (numbered : 0 < number) (small : number < 2 ^ 29)
    (value : Int)
    : (int32Record number value).Fits :=
  ⟨numbered, small, int64Word_lt value⟩

end GoproGateway
