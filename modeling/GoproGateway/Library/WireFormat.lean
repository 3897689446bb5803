import Mathlib.Algebra.Group.Nat.Defs
import Mathlib.Data.List.Basic

/-! The protobuf wire format: varints, records, and a reader for them.

A message is a sequence of records in any order. Varints may be padded, so the format is a
relation between records and bytes; the reader finds the records of every encoding again. Tags
and lengths are varints of 32 bits, so that a field number has 29 bits.
-/

namespace WireFormat

/-- A record's value; fixed-size values are kept as their bytes. -/
inductive Value where
  | varint (value : Nat)
  | fixed64 (bytes : List UInt8)
  | lengthDelimited (bytes : List UInt8)
  | fixed32 (bytes : List UInt8)
  deriving DecidableEq, Repr

structure Record where
  number : Nat
  value : Value
  deriving DecidableEq, Repr

namespace Value

def wireType : Value → Nat
  | .varint _ => 0
  | .fixed64 _ => 1
  | .lengthDelimited _ => 2
  | .fixed32 _ => 5

end Value

/-- Seven bits a byte, the low ones first; the top bit tells that more follow. -/
inductive Digits : Nat → List UInt8 → Prop
  | last {low : Nat} (small : low < 128) : Digits low [UInt8.ofNat low]
  | more {low high : Nat} {rest : List UInt8} (small : low < 128) (digits : Digits high rest)
      : Digits (low + 128 * high) (UInt8.ofNat (128 + low) :: rest)

/-- An encoding of a 64-bit value. -/
structure Varint (value : Nat) (bytes : List UInt8) : Prop where
  digits : Digits value bytes
  short : bytes.length ≤ 10
  word : value < 2 ^ 64

/-- The bytes of a value behind its tag. -/
inductive Body : Value → List UInt8 → Prop
  | varint {value : Nat} {bytes : List UInt8} (encodes : Varint value bytes)
      : Body (.varint value) bytes
  | fixed64 {bytes : List UInt8} (size : bytes.length = 8) : Body (.fixed64 bytes) bytes
  | lengthDelimited {length bytes : List UInt8} (small : bytes.length < 2 ^ 32)
      (encodes : Varint bytes.length length)
      : Body (.lengthDelimited bytes) (length ++ bytes)
  | fixed32 {bytes : List UInt8} (size : bytes.length = 4) : Body (.fixed32 bytes) bytes

/-- A record is a tag, which has field number and wire type, and a body. -/
inductive Encodes : Record → List UInt8 → Prop
  | record {record : Record} {tag body : List UInt8} (numbered : 0 < record.number)
      (small : record.number < 2 ^ 29)
      (tagged : Varint (8 * record.number + record.value.wireType) tag)
      (encodes : Body record.value body)
      : Encodes record (tag ++ body)

/-- A message is its records one after the other. -/
inductive IsMessage : List Record → List UInt8 → Prop
  | nil : IsMessage [] []
  | cons {record : Record} {records : List Record} {head tail : List UInt8}
      (encodes : Encodes record head) (rest : IsMessage records tail)
      : IsMessage (record :: records) (head ++ tail)

/-- Reads a varint and returns what follows it. -/
def readVarint : List UInt8 → Option (Nat × List UInt8)
  | [] => none
  | byte :: rest =>
      if byte.toNat < 128 then
        some (byte.toNat, rest)
      else
        (readVarint rest).map fun (high, tail) => (byte.toNat - 128 + 128 * high, tail)

/-- Splits off a block of known size, if it is there. -/
def readBlock (size : Nat) (bytes : List UInt8) : Option (List UInt8 × List UInt8) :=
  if size ≤ bytes.length then some (bytes.take size, bytes.drop size) else none

def readBody (wireType : Nat) (bytes : List UInt8) : Option (Value × List UInt8) :=
  match wireType with
  | 0 => (readVarint bytes).map fun (value, rest) => (.varint value, rest)
  | 1 => (readBlock 8 bytes).map fun (block, rest) => (.fixed64 block, rest)
  | 2 =>
      (readVarint bytes).bind fun (size, rest) =>
        (readBlock size rest).map fun (block, rest) => (.lengthDelimited block, rest)
  | 5 => (readBlock 4 bytes).map fun (block, rest) => (.fixed32 block, rest)
  | _ => none

def readRecord (bytes : List UInt8) : Option (Record × List UInt8) :=
  (readVarint bytes).bind fun (tag, rest) =>
    if tag / 8 = 0 ∨ 2 ^ 29 ≤ tag / 8 then none
    else (readBody (tag % 8) rest).map fun (value, rest) => (⟨tag / 8, value⟩, rest)

/-- The records in front of the first one that cannot be read, and whether all can be; each
record takes at least one byte, so the bytes' number bounds the reading.
-/
def readRecords : Nat → List UInt8 → List Record × Bool
  | _, [] => ([], true)
  | 0, _ :: _ => ([], false)
  | fuel + 1, bytes =>
      match readRecord bytes with
      | none => ([], false)
      | some (record, rest) =>
          let (records, complete) := readRecords fuel rest
          (record :: records, complete)

def readMessage (bytes : List UInt8) : List Record × Bool :=
  readRecords bytes.length bytes

/-- The reader of varints stops at the last of the digits, by induction on them. -/
theorem readVarint_digits {value : Nat} {bytes : List UInt8} (digits : Digits value bytes)
    (rest : List UInt8)
    : readVarint (bytes ++ rest) = some (value, rest) := by
  induction digits with
  | @last low small =>
      have byte : (UInt8.ofNat low).toNat = low := by
        rw [UInt8.toNat_ofNat']
        omega
      rw [List.singleton_append, readVarint, byte, if_pos small]
  | @more low high tail small digits ih =>
      have byte : (UInt8.ofNat (128 + low)).toNat = 128 + low := by
        rw [UInt8.toNat_ofNat']
        omega
      rw [List.cons_append, readVarint, byte, if_neg (by omega), ih, Option.map_some,
        Nat.add_sub_cancel_left]

theorem Digits.ne_nil {value : Nat} {bytes : List UInt8} (digits : Digits value bytes)
    : bytes ≠ [] := by
  cases digits <;> simp

theorem readBlock_append {block : List UInt8} {size : Nat} (isSize : block.length = size)
    (rest : List UInt8)
    : readBlock size (block ++ rest) = some (block, rest) := by
  subst isSize
  simp [readBlock]

/-- The reader takes the body of a value by its wire type, and leaves what follows. -/
theorem readBody_encodes {value : Value} {bytes : List UInt8} (encodes : Body value bytes)
    (rest : List UInt8)
    : readBody value.wireType (bytes ++ rest) = some (value, rest) := by
  cases encodes with
  | varint encodes =>
      simp [readBody, Value.wireType, readVarint_digits encodes.digits]
  | fixed64 size => simp [readBody, Value.wireType, readBlock_append size]
  | lengthDelimited small encodes =>
      simp [readBody, Value.wireType, List.append_assoc, readVarint_digits encodes.digits,
        readBlock_append rfl]
  | fixed32 size => simp [readBody, Value.wireType, readBlock_append size]

/-- A wire type has three bits. -/
theorem Value.wireType_lt (value : Value) : value.wireType < 8 := by
  cases value <;> simp [wireType]

/-- The reader takes one record: three bits of the tag are the wire type, the others the
number.
-/
theorem readRecord_encodes {record : Record} {bytes : List UInt8}
    (encodes : Encodes record bytes) (rest : List UInt8)
    : readRecord (bytes ++ rest) = some (record, rest) := by
  cases encodes with
  | @record tag body numbered small tagged encodes =>
      have type := record.value.wireType_lt
      have number : (8 * record.number + record.value.wireType) / 8 = record.number := by
        omega
      have wireType : (8 * record.number + record.value.wireType) % 8
          = record.value.wireType := by
        omega
      have isNumbered : ¬ (record.number = 0 ∨ 2 ^ 29 ≤ record.number) := by omega
      simp only [readRecord, List.append_assoc, readVarint_digits tagged.digits,
        Option.bind_some, number, wireType, if_neg isNumbered, readBody_encodes encodes,
        Option.map_some]

/-- A record takes at least a byte, the one of its tag. -/
theorem Encodes.ne_nil {record : Record} {bytes : List UInt8} (encodes : Encodes record bytes)
    : bytes ≠ [] := by
  cases encodes with
  | record numbered small tagged encodes => simp [tagged.digits.ne_nil]

/-- With a step for each byte the reader finds all records of a message, by induction on the
records.
-/
theorem readRecords_isMessage {records : List Record} {bytes : List UInt8}
    (message : IsMessage records bytes) (fuel : Nat) (enough : bytes.length ≤ fuel)
    : readRecords fuel bytes = (records, true) := by
  induction message generalizing fuel with
  | nil => cases fuel <;> rfl
  | @cons record records head tail encodes rest ih =>
      have positive := List.length_pos_iff.mpr encodes.ne_nil
      rw [List.length_append] at enough
      cases fuel with
      | zero => omega
      | succ fuel =>
          have later := ih fuel (by omega)
          cases whole : head ++ tail with
          | nil => simp [encodes.ne_nil] at whole
          | cons byte bytes =>
              rw [readRecords, ← whole, readRecord_encodes encodes]
              · simp [later]
              · simp

/-- Reading inverts encoding. -/
theorem readMessage_isMessage {records : List Record} {bytes : List UInt8}
    (message : IsMessage records bytes)
    : readMessage bytes = (records, true) :=
  readRecords_isMessage message bytes.length (Nat.le_refl _)

end WireFormat
