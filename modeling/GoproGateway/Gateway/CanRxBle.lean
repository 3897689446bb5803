import GoproGateway.Client.Commands
import GoproGateway.Library.ByteBuffer
import GoproGateway.Library.InputMachine
import GoproGateway.Library.WireFormat

/-! The task that forwards ISO-TP messages to the camera.

The protobuf library is a parameter: what it makes of a message is the sequence of field
values that it stores or hands to the field callback, and whether it reaches the end. The
decode buffer outlives the messages, and `data_decode.size` is at first the capacity that the
callback checks and then the length that it has read.
-/

namespace GoproGateway

def bledataBuffSize : Nat := 2048

/-- `BLE_ADDR_SET_WIFI_CRED`. -/
def bleAddrSetWifiCred : Int := 0xF0

/-- `ble_data_buff`, the global decode buffer. -/
structure BleDataBuff where
  bytes : List UInt8
  bytes_length : bytes.length = bledataBuffSize
  deriving DecidableEq, Repr

def BleDataBuff.zero : BleDataBuff := ⟨List.replicate bledataBuffSize 0, by simp⟩

/-- What the protobuf library does with one field of a `GoproClient_bledata`. -/
inductive BledataField where
  /-- Stores `ble_addr`. -/
  | bleAddr (value : Int)
  /-- Calls the callback of `data` on an occurrence of the field. -/
  | data (occurrence : List UInt8)
  deriving DecidableEq, Repr

/-- The library as the task uses it: the fields of a message in order, and whether the whole
message could be read.
-/
abbrev Nanopb := List UInt8 → List BledataField × Bool

/-- The task's variables during a message: the buffer, `data_decode.size`, and `ble_addr`. -/
structure DecodeState where
  buff : BleDataBuff
  size : Nat
  bleAddr : Int
  deriving DecidableEq, Repr

/-- `memset` of the message and of `data_decode`, and the capacity stored into the latter. -/
def DecodeState.init (buff : BleDataBuff) : DecodeState where
  buff
  size := bledataBuffSize
  bleAddr := 0

def BleDataBuff.write (buff : BleDataBuff) (occurrence : List UInt8) : BleDataBuff where
  bytes := ByteBuffer.write buff.bytes 0 occurrence
  bytes_length := by rw [ByteBuffer.write_length, buff.bytes_length]

/-- `pb_decode_bytes`; reading all that is left of a field in memory does not fail. -/
def pbDecodeBytes (decode : DecodeState) (occurrence : List UInt8) : DecodeState × Bool :=
  if occurrence.length > decode.size then
    ({ decode with size := 0 }, false)
  else
    ({ decode with buff := decode.buff.write occurrence, size := occurrence.length }, true)

/-- `pb_decode` over the fields of a message; a callback that fails ends it. -/
def pbDecode (decode : DecodeState) : List BledataField → DecodeState × Bool
  | [] => (decode, true)
  | .bleAddr value :: rest => pbDecode { decode with bleAddr := value } rest
  | .data occurrence :: rest =>
      let (decode, ok) := pbDecodeBytes decode occurrence
      if ok then pbDecode decode rest else (decode, false)

/-- What the task does with a message. -/
inductive GatewayEvent where
  | goproSendBuf (data : List UInt8) (type : UInt8)
  | goproDecodeWifiCred (data : List UInt8)
  | giveCanIsotpRxSem
  deriving DecidableEq, Repr

/-- Where a decoded message goes; the address is compared as a signed number, and passed on
as a byte.
-/
def routeBledata (state : GoproStateList) (bleAddr : Int) (data : List UInt8)
    : List GatewayEvent :=
  if bleAddr < gpCntrlHandleEnd then
    if state = .connected then [.goproSendBuf data (UInt8.ofInt bleAddr)] else []
  else if bleAddr = bleAddrSetWifiCred then [.goproDecodeWifiCred data]
  else []

/-- One ISO-TP message, and the client's state when it is handled. -/
structure CanMessage where
  bytes : List UInt8
  state : GoproStateList
  deriving DecidableEq, Repr

/-- One turn of the loop of `can_rx_ble_subscriber_task`. -/
def canRxBleStep (nanopb : Nanopb) (buff : BleDataBuff) (message : CanMessage)
    : BleDataBuff × List GatewayEvent :=
  let (fields, complete) := nanopb message.bytes
  let (decode, ok) := pbDecode (.init buff) fields
  if ok && complete then
    let data := ByteBuffer.read decode.buff.bytes 0 decode.size
    (decode.buff, routeBledata message.state decode.bleAddr data ++ [.giveCanIsotpRxSem])
  else
    (decode.buff, [.giveCanIsotpRxSem])

def canRxBleSubscriber (nanopb : Nanopb) : InputMachine BleDataBuff CanMessage GatewayEvent where
  step := canRxBleStep nanopb

/-- The calls of `gopro_send_buf`, with their bytes and their type. -/
def sentBuffers (events : List GatewayEvent) : List (List UInt8 × UInt8) :=
  events.filterMap fun
    | .goproSendBuf data type => some (data, type)
    | _ => none

/-- The messages of credentials that are handed to their decoder. -/
def wifiCredMessages (events : List GatewayEvent) : List (List UInt8) :=
  events.filterMap fun
    | .goproDecodeWifiCred data => some data
    | _ => none

/-- The 32-bit value of a varint. -/
def int32 (value : Nat) : Int := (value : Int).bmod (2 ^ 32)

/-- The field a record is for; records with other numbers are skipped. -/
def bledataField : WireFormat.Record → Option BledataField
  | ⟨1, .varint value⟩ => some (.bleAddr (int32 value))
  | ⟨2, .lengthDelimited occurrence⟩ => some (.data occurrence)
  | _ => none

/-- The records of a `GoproClient_bledata`: each field with its own type. -/
def IsBledata (records : List WireFormat.Record) : Prop :=
  ∀ record ∈ records, (record.number = 1 ∨ record.number = 2)
    → (bledataField record).isSome

/-- The library follows the wire format: it takes the fields of an encoding one by one. -/
def FollowsWireFormat (nanopb : Nanopb) : Prop :=
  ∀ records bytes, WireFormat.IsMessage records bytes → IsBledata records
    → nanopb bytes = (records.filterMap bledataField, true)

/-- The occurrences of `data`, in order. -/
def dataOccurrences (fields : List BledataField) : List (List UInt8) :=
  fields.filterMap fun
    | .data occurrence => some occurrence
    | .bleAddr _ => none

/-- The addresses given, in order. -/
def bleAddrs (fields : List BledataField) : List Int :=
  fields.filterMap fun
    | .bleAddr value => some value
    | .data _ => none

/-- The address of a message: the last one given, and 0 when there is none. -/
def lastBleAddr (fields : List BledataField) : Int := (bleAddrs fields).getLastD 0

/-- A library that reads the wire format as it is. -/
def referenceNanopb : Nanopb := fun bytes =>
  let (records, complete) := WireFormat.readMessage bytes
  (records.filterMap bledataField, complete)

/-- A signed number passed as a byte. -/
theorem ofInt_toNat (value : Int) : ((UInt8.ofInt value).toNat : Int) = value % 256 := by
  rw [UInt8.ofInt, UInt8.toNat_ofNat']
  omega

theorem referenceNanopb_follows : FollowsWireFormat referenceNanopb := by
  intro records bytes message _
  simp only [referenceNanopb, WireFormat.readMessage_isMessage message]

end GoproGateway
