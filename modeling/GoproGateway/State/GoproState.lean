import GoproGateway.Client.Declarations
import GoproGateway.Library.ByteBuffer
import GoproGateway.Library.CString
import GoproGateway.Library.Traced

/-! `gopro_state`, as its writers see it.

The nine strings are `char[20]` members in a row, so they are one region of memory with a view
for each: what is written past the end of one array lands in the next. Writers log the array
that they name, the index, and the number of bytes.
-/

namespace GoproGateway

/-- `GOPRO_NAME_LEN`, which is the size of the other arrays too. -/
def goproNameLen : Nat := 20

/-- The string arrays of `struct gopro_state_t`, in the order of their declaration. -/
inductive StringField where
  | name
  | wifiSsid
  | wifiPass
  | modelName
  | firmwareVersion
  | serialNumber
  | apMac
  | cohnWifiSsid
  | cohnWifiPass
  deriving DecidableEq, Repr

/-- Where an array starts. -/
def StringField.offset : StringField → Nat
  | .name => 0
  | .wifiSsid => 20
  | .wifiPass => 40
  | .modelName => 60
  | .firmwareVersion => 80
  | .serialNumber => 100
  | .apMac => 120
  | .cohnWifiSsid => 140
  | .cohnWifiPass => 160

/-- Size of the nine arrays together. -/
def stringsLen : Nat := 180

/-- The region of the nine arrays. -/
structure StateStrings where
  bytes : List UInt8
  bytes_length : bytes.length = stringsLen
  deriving DecidableEq, Repr

/-- Each array has room for its size inside the region. -/
theorem StringField.offset_le (field : StringField)
    : field.offset + goproNameLen ≤ stringsLen := by
  cases field <;> decide

/-- Two arrays do not overlap. -/
theorem StringField.apart {field other : StringField} (ne : field ≠ other)
    : field.offset + goproNameLen ≤ other.offset
      ∨ other.offset + goproNameLen ≤ field.offset := by
  revert ne
  cases field <;> cases other <;> decide

namespace StateStrings

def zero : StateStrings := ⟨List.replicate stringsLen 0, by simp⟩

/-- The contents of an array. -/
def array (strings : StateStrings) (field : StringField) : List UInt8 :=
  ByteBuffer.read strings.bytes field.offset goproNameLen

/-- The string that starts in an array. It ends at the first NUL, wherever that is. -/
def text (strings : StateStrings) (field : StringField) : List UInt8 :=
  CString.text (strings.bytes.drop field.offset)

/-- Writes a block from an index of an array on; nothing stops it at the array's end. -/
def store (strings : StateStrings) (field : StringField) (index : Nat) (block : List UInt8)
    : StateStrings where
  bytes := ByteBuffer.write strings.bytes (field.offset + index) block
  bytes_length := by rw [ByteBuffer.write_length, strings.bytes_length]

@[simp] theorem array_length (strings : StateStrings) (field : StringField)
    : (strings.array field).length = goproNameLen :=
  ByteBuffer.read_length (by rw [strings.bytes_length]; exact field.offset_le)

/-- A write inside an array is a write to it. -/
theorem array_store_same (strings : StateStrings) (field : StringField) {index : Nat}
    {block : List UInt8} (within : index + block.length ≤ goproNameLen)
    : (strings.store field index block).array field
      = ByteBuffer.write (strings.array field) index block := by
  have room := field.offset_le
  exact ByteBuffer.read_write_around (by rw [strings.bytes_length]; exact room) within

/-- A write inside an array leaves the others alone. -/
theorem array_store_other (strings : StateStrings) {field other : StringField}
    (ne : field ≠ other) {index : Nat} {block : List UInt8}
    (within : index + block.length ≤ goproNameLen)
    : (strings.store field index block).array other = strings.array other := by
  have room := field.offset_le
  have apart := StringField.apart ne
  refine ByteBuffer.read_write_beside (by rw [strings.bytes_length]; omega) ?_
  omega

/-- A string with its terminator, written to the front of an array. -/
def put (strings : StateStrings) (field : StringField) (text : List UInt8) : StateStrings :=
  (strings.store field 0 text).store field text.length [0]

/-- The bytes behind the terminator stay. -/
theorem array_put_same (strings : StateStrings) (field : StringField) {text : List UInt8}
    (short : text.length < goproNameLen)
    : (strings.put field text).array field
      = text ++ 0 :: (strings.array field).drop (text.length + 1) := by
  have within : text.length ≤ (strings.array field).length := by
    rw [array_length]
    omega
  have rest : ((strings.array field).drop text.length).length = goproNameLen - text.length := by
    rw [List.length_drop, array_length]
  rw [put, array_store_same _ _ (by simpa [Nat.succ_le_iff] using short),
    array_store_same _ _ (by omega), ByteBuffer.write_front within, ByteBuffer.write_append,
    ByteBuffer.write_front (by rw [rest, List.length_singleton]; omega), List.drop_drop]
  rfl

theorem array_put_other (strings : StateStrings) {field other : StringField}
    (ne : field ≠ other) {text : List UInt8} (short : text.length < goproNameLen)
    : (strings.put field text).array other = strings.array other := by
  rw [put, array_store_other _ ne (by simpa [Nat.succ_le_iff] using short),
    array_store_other _ ne (by omega)]

end StateStrings

/-- `struct gopro_state_t`; the scan's device information and address are not modelled. -/
structure GoproState where
  state : GoproStateList
  videoCount : UInt32
  record : UInt8
  battery : UInt8
  strings : StateStrings
  deriving DecidableEq, Repr

def GoproState.zero : GoproState where
  state := .unknown
  videoCount := 0
  record := 0
  battery := 0
  strings := .zero

-----------------------------------------------------------------------------------------
-- Messages
-----------------------------------------------------------------------------------------

/-- A message behind a data pointer, and what stands behind the message in memory. -/
structure DataPtr where
  bytes : List UInt8
  behind : Nat → UInt8

/-- `data[index]`. -/
def DataPtr.byte (data : DataPtr) (index : Nat) : UInt8 :=
  data.bytes.getD index (data.behind (index - data.bytes.length))

/-- `count` bytes from `&data[start]` on. -/
def DataPtr.block (data : DataPtr) (start count : Nat) : List UInt8 :=
  (List.range count).map fun i => data.byte (start + i)

@[simp] theorem DataPtr.block_length (data : DataPtr) (start count : Nat)
    : (data.block start count).length = count := by
  simp [block]

/-- Inside the message, a block is a read of it. -/
theorem DataPtr.block_eq_read (data : DataPtr) {start count : Nat}
    (within : start + count ≤ data.bytes.length)
    : data.block start count = ByteBuffer.read data.bytes start count := by
  refine List.ext_getElem? fun i => ?_
  rw [ByteBuffer.getElem?_read]
  by_cases inside : i < count
  · have there : start + i < data.bytes.length := by omega
    simp [block, byte, inside, there]
  · rw [if_neg inside, List.getElem?_eq_none (by simpa using Nat.le_of_not_lt inside)]

theorem DataPtr.byte_of_drop {data : DataPtr} {index : Nat} {byte : UInt8}
    {rest : List UInt8} (remaining : data.bytes.drop index = byte :: rest)
    : data.byte index = byte := by
  have head : data.bytes[index]? = some byte := by
    rw [← List.head?_drop, remaining, List.head?_cons]
  rw [DataPtr.byte, List.getD_eq_getElem?_getD, head, Option.getD_some]

theorem DataPtr.block_of_drop {data : DataPtr} {index : Nat} {block rest : List UInt8}
    (remaining : data.bytes.drop index = block ++ rest)
    : data.block index block.length = block := by
  have within : index + block.length ≤ data.bytes.length ∨ block.length = 0 := by
    have size := congrArg List.length remaining
    rw [List.length_drop, List.length_append] at size
    omega
  rcases within with within | empty
  · rw [DataPtr.block_eq_read data within, ByteBuffer.read, remaining, List.take_left]
  · obtain rfl := List.length_eq_zero_iff.mp empty
    rfl

/-- Readers of protobuf messages that log what they find and leave `gopro_state` alone. -/
inductive ProtobufReader where
  | responseGeneric
  | responseCohnStatus
  | responseCohnCert
  deriving DecidableEq, Repr

/-- What the writers of the state do. -/
inductive StateEvent where
  /-- Reads `count` bytes of the message from `data[start]` on. -/
  | load (start count : Nat)
  /-- Writes `count` bytes from `index` of an array on. -/
  | store (field : StringField) (index count : Nat)
  /-- `gopro_led_mode_set` of the recording LED. -/
  | setRecLed (on : Bool)
  /-- Hands the message to a reader of protobuf messages. -/
  | parse (reader : ProtobufReader)
  /-- `k_sem_give(&get_hw_sem)`. -/
  | giveGetHwSem
  /-- `k_sem_give(&ble_read_sem)`. -/
  | giveBleReadSem
  deriving DecidableEq, Repr

/-- Logged computations on the state. -/
abbrev StateTrace := Traced StateEvent

def DataPtr.load (data : DataPtr) (index : Nat) : StateTrace UInt8 :=
  ⟨data.byte index, [.load index 1]⟩

@[simp] theorem DataPtr.load_value (data : DataPtr) (index : Nat)
    : (data.load index).value = data.byte index := rfl

/-- The source of a `memcpy`. -/
def DataPtr.loadBlock (data : DataPtr) (start count : Nat) : StateTrace (List UInt8) :=
  ⟨data.block start count, [.load start count]⟩

/-- A store through an array's name. -/
def storeString (strings : StateStrings) (field : StringField) (index : Nat)
    (block : List UInt8)
    : StateTrace StateStrings :=
  ⟨strings.store field index block, [.store field index block.length]⟩

/-- A `memcpy` to the front of an array, with a terminator behind the copied bytes. -/
def storeTerminated (strings : StateStrings) (field : StringField) (block : List UInt8)
    : StateTrace StateStrings := do
  let strings ← storeString strings field 0 block
  storeString strings field block.length [0]

@[simp] theorem storeTerminated_value (strings : StateStrings) (field : StringField)
    (block : List UInt8)
    : (storeTerminated strings field block).value = strings.put field block := rfl

/-- A read touches bytes of a message of `total` bytes only. -/
def StateEvent.ReadsWithin (total : Nat) : StateEvent → Prop
  | .load start count => ∀ index, start ≤ index → index < start + count → index < total
  | _ => True

end GoproGateway
