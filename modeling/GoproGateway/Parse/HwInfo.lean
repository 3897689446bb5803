import GoproGateway.State.GoproState

/-! The reader of the hardware information, and its caller.

Behind the two header bytes the message is a chain of fields, each with its length in front.
Indexes count from the first length byte, as in the source; `pdata` is `&data[2]`.
-/

namespace GoproGateway

/-- How `gopro_parse_response_hw_info` ends. -/
inductive HwInfoEnd where
  | invalidModelNumberLen
  | invalidModelNameLen
  | invalidFirmwareVersionLen
  | invalidSerialNumberLen
  | invalidApSsidLen
  | invalidApMacAddressLen
  | packetParseCorrect
  | packetLenError (index len : Nat)
  deriving DecidableEq, Repr

/-- One of the length checks has ended the reader. -/
def HwInfoEnd.Rejected : HwInfoEnd → Prop
  | .packetParseCorrect | .packetLenError _ _ => False
  | _ => True

instance : DecidablePred HwInfoEnd.Rejected := fun ending => by
  cases ending <;> unfold HwInfoEnd.Rejected <;> infer_instance

/-- A string with its length in front goes into its array, with a terminator. The result is the
index behind it, or nothing when the length check refuses it.
-/
def hwInfoString (data : DataPtr) (field : StringField) (index : Nat) (strings : StateStrings)
    : StateTrace (Option (Nat × StateStrings)) := do
  let length ← data.load (2 + index)
  let index := index + 1
  if length.toNat ≥ goproNameLen then
    return none
  else
    let block ← data.loadBlock (2 + index) length.toNat
    let strings ← storeTerminated strings field block
    return some (index + length.toNat, strings)

/-- `gopro_parse_response_hw_info`; the model number is only logged. -/
def goproParseResponseHwInfo (data : DataPtr) (packetLen : Nat) (state : GoproState)
    : StateTrace (GoproState × HwInfoEnd) := do
  let modelNumberLength ← data.load 2
  if modelNumberLength.toNat > 4 then
    return (state, .invalidModelNumberLen)
  let index := 1
  let _modelNumber ← data.loadBlock (2 + index) modelNumberLength.toNat
  let index := index + modelNumberLength.toNat
  match ← hwInfoString data .modelName index state.strings with
  | none => return (state, .invalidModelNameLen)
  | some (index, strings) =>
  let state := { state with strings }
  let deprecatedLength ← data.load (2 + index)
  let index := index + 1 + deprecatedLength.toNat
  match ← hwInfoString data .firmwareVersion index state.strings with
  | none => return (state, .invalidFirmwareVersionLen)
  | some (index, strings) =>
  let state := { state with strings }
  match ← hwInfoString data .serialNumber index state.strings with
  | none => return (state, .invalidSerialNumberLen)
  | some (index, strings) =>
  let state := { state with strings }
  match ← hwInfoString data .wifiSsid index state.strings with
  | none => return (state, .invalidApSsidLen)
  | some (index, strings) =>
  let state := { state with strings }
  match ← hwInfoString data .apMac index state.strings with
  | none => return (state, .invalidApMacAddressLen)
  | some (index, strings) =>
  let state := { state with strings }
  let index := index + 11
  if index = packetLen then
    return (state, .packetParseCorrect)
  else
    return (state, .packetLenError index packetLen)

/-- The actions of feature 0xF1 that have a generic response. -/
def genericActions : List UInt8 := [0xE4, 0xE5, 0xE6, 0xE7, 0xE9, 0xEB, 0xF9]

/-- `gopro_packet_parse_cmd`; the response to setting the time is only logged. -/
def goproPacketParseCmd (feature action : UInt8) (data : DataPtr) (packetLen : Nat)
    (state : GoproState)
    : StateTrace GoproState := do
  if feature = 0xF1 then
    if action ∈ genericActions then Traced.log (.parse .responseGeneric)
  if feature = 0x3C then
    if action = 0 then
      let (state, _) ← goproParseResponseHwInfo data packetLen state
      Traced.log .giveGetHwSem
      return state
  return state

end GoproGateway
