import GoproGateway.Library.WireFormat

/-! Writing the wire format: varints without padding, and streams over a buffer of fixed size. -/

namespace WireFormat

/-- The digits of a value, cut off behind the given number of bytes. -/
def digitsWithin : Nat → Nat → List UInt8
  | 0, _ => []
  | more + 1, value =>
      if value < 128 then [UInt8.ofNat value]
      else UInt8.ofNat (128 + value % 128) :: digitsWithin more (value / 128)

/-- A varint without padding; ten bytes are enough for 64 bits. -/
def encodeVarint (value : Nat) : List UInt8 := digitsWithin 10 value

namespace Value

/-- The bytes of a value behind its tag, with a varint without padding. -/
def encode : Value → List UInt8
  | .varint value => encodeVarint value
  | .fixed64 bytes => bytes
  | .lengthDelimited bytes => encodeVarint bytes.length ++ bytes
  | .fixed32 bytes => bytes

/-- The values that the format has room for. -/
def Fits : Value → Prop
  | .varint value => value < 2 ^ 64
  | .fixed64 bytes => bytes.length = 8
  | .lengthDelimited bytes => bytes.length < 2 ^ 32
  | .fixed32 bytes => bytes.length = 4

end Value

/-- A tag: field number and wire type. -/
def encodeTag (number wireType : Nat) : List UInt8 := encodeVarint (8 * number + wireType)

namespace Record

def encode (record : Record) : List UInt8 :=
  encodeTag record.number record.value.wireType ++ record.value.encode

/-- The records that the format has room for. -/
structure Fits (record : Record) : Prop where
  numbered : 0 < record.number
  small : record.number < 2 ^ 29
  value : record.value.Fits

end Record

def encodeMessage (records : List Record) : List UInt8 := records.flatMap Record.encode

/-- The digits of a value that fits are an encoding of it, by induction on their number. -/
theorem digitsWithin_digits (more : Nat) {value : Nat} (fits : value < 128 ^ (more + 1))
    : Digits value (digitsWithin (more + 1) value) := by
  induction more generalizing value with
  | zero =>
      rw [digitsWithin, if_pos (by omega)]
      exact .last (by omega)
  | succ more ih =>
      rw [digitsWithin]
      split
      · rename_i small
        exact .last small
      · have high : value / 128 < 128 ^ (more + 1) := by
          rw [Nat.pow_succ] at fits
          omega
        have split : value % 128 + 128 * (value / 128) = value := by omega
        have digits := Digits.more (Nat.mod_lt value (by decide)) (ih high)
        rw [split] at digits
        exact digits

/-- A value takes no more bytes than it has digits. -/
theorem digitsWithin_length (more : Nat) {size value : Nat} (fits : value < 128 ^ (size + 1))
    : (digitsWithin more value).length ≤ size + 1 := by
  induction size generalizing more value with
  | zero =>
      cases more with
      | zero => simp [digitsWithin]
      | succ more =>
          rw [digitsWithin, if_pos (by omega)]
          simp
  | succ size ih =>
      cases more with
      | zero => simp [digitsWithin]
      | succ more =>
          rw [digitsWithin]
          split
          · simp
          · have high : value / 128 < 128 ^ (size + 1) := by
              rw [Nat.pow_succ] at fits
              omega
            rw [List.length_cons]
            exact Nat.succ_le_succ (ih more high)

/-- Ten digits are enough for 64 bits. -/
theorem encodeVarint_varint {value : Nat} (word : value < 2 ^ 64)
    : Varint value (encodeVarint value) := by
  have fits : value < 128 ^ (9 + 1) := Nat.lt_of_lt_of_le word (by decide)
  exact ⟨digitsWithin_digits 9 fits, digitsWithin_length 10 fits, word⟩

theorem Value.encode_body {value : Value} (fits : value.Fits) : Body value value.encode := by
  cases value with
  | varint value => exact .varint (encodeVarint_varint fits)
  | fixed64 bytes => exact .fixed64 fits
  | lengthDelimited bytes =>
      have word : bytes.length < 2 ^ 64 := Nat.lt_trans fits (by decide)
      exact .lengthDelimited fits (encodeVarint_varint word)
  | fixed32 bytes => exact .fixed32 fits

theorem Record.encode_encodes {record : Record} (fits : record.Fits)
    : Encodes record record.encode := by
  have type := record.value.wireType_lt
  have small := fits.small
  exact .record fits.numbered small (encodeVarint_varint (by omega))
    (Value.encode_body fits.value)

/-- A written message is one that the reader may get, record by record. -/
theorem encodeMessage_isMessage {records : List Record} (fit : ∀ record ∈ records, record.Fits)
    : IsMessage records (encodeMessage records) := by
  induction records with
  | nil => exact .nil
  | cons record rest ih =>
      exact .cons (Record.encode_encodes (fit record (by simp)))
        (ih fun other member => fit other (by simp [member]))

/-- Reading inverts writing. -/
theorem readMessage_encodeMessage {records : List Record}
    (fit : ∀ record ∈ records, record.Fits)
    : readMessage (encodeMessage records) = (records, true) :=
  readMessage_isMessage (encodeMessage_isMessage fit)

-----------------------------------------------------------------------------------------
-- Output streams
-----------------------------------------------------------------------------------------

/-- An output stream: the size of its buffer, and what it has written. -/
structure OutStream where
  maxSize : Nat
  written : List UInt8
  deriving DecidableEq, Repr

namespace OutStream

def ofBuffer (maxSize : Nat) : OutStream := ⟨maxSize, []⟩

/-- Writes all of the bytes, or fails when there is no room for them. -/
def write (stream : OutStream) (bytes : List UInt8) : Option OutStream :=
  if stream.written.length + bytes.length ≤ stream.maxSize then
    some { stream with written := stream.written ++ bytes }
  else none

/-- Two writes succeed iff there is room for both. -/
theorem write_append (stream : OutStream) (first second : List UInt8)
    : stream.write (first ++ second) = (stream.write first).bind (·.write second) := by
  unfold write
  rw [List.length_append]
  by_cases room : stream.written.length + first.length ≤ stream.maxSize
  · rw [if_pos room, Option.bind_some, List.length_append, Nat.add_assoc, List.append_assoc]
  · rw [if_neg room, if_neg (by omega)]
    rfl

/-- A stream on a buffer refuses what is longer than the buffer. -/
theorem write_ofBuffer (maxSize : Nat) (bytes : List UInt8)
    : (ofBuffer maxSize).write bytes
      = if bytes.length ≤ maxSize then some ⟨maxSize, bytes⟩ else none := by
  simp [write, ofBuffer]

end OutStream

end WireFormat
