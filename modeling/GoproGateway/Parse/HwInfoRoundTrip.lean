import GoproGateway.Library.Tlv
import GoproGateway.Parse.HwInfo

/-! Hardware information as the camera sends it, and what its reader makes of it.

Every string leads the reader to the index behind it, so the offsets compose field by field.
-/

namespace GoproGateway

/-- The fields of the message; strings leave room for a terminator in their arrays. -/
structure HwInfo where
  modelNumber : List UInt8
  modelName : List UInt8
  deprecated : List UInt8
  firmwareVersion : List UInt8
  serialNumber : List UInt8
  apSsid : List UInt8
  apMacAddress : List UInt8
  reserved : List UInt8
  modelNumber_length : modelNumber.length ≤ 4
  modelName_length : modelName.length < goproNameLen
  deprecated_length : deprecated.length ≤ 255
  firmwareVersion_length : firmwareVersion.length < goproNameLen
  serialNumber_length : serialNumber.length < goproNameLen
  apSsid_length : apSsid.length < goproNameLen
  apMacAddress_length : apMacAddress.length < goproNameLen
  reserved_length : reserved.length = 11

namespace HwInfo

/-- What follows the two header bytes. -/
def encode (info : HwInfo) : List UInt8 :=
  lengthPrefixed info.modelNumber ++ (lengthPrefixed info.modelName
    ++ (lengthPrefixed info.deprecated ++ (lengthPrefixed info.firmwareVersion
    ++ (lengthPrefixed info.serialNumber ++ (lengthPrefixed info.apSsid
    ++ (lengthPrefixed info.apMacAddress ++ info.reserved))))))

/-- The string for an array, where the message has one. -/
def string? (info : HwInfo) : StringField → Option (List UInt8)
  | .modelName => some info.modelName
  | .firmwareVersion => some info.firmwareVersion
  | .serialNumber => some info.serialNumber
  | .wifiSsid => some info.apSsid
  | .apMac => some info.apMacAddress
  | .name | .wifiPass | .cohnWifiSsid | .cohnWifiPass => none

end HwInfo

/-- An array with a string and its terminator over its first bytes. -/
def overwritten (text before : List UInt8) : List UInt8 :=
  text ++ 0 :: before.drop (text.length + 1)

section Field

variable {data : DataPtr} {index : Nat} {text rest : List UInt8}
  (remaining : data.bytes.drop (2 + index) = lengthPrefixed text ++ rest)

include remaining

/-- The index behind a field is where the rest of the message starts. -/
theorem drop_field : data.bytes.drop (2 + (index + 1 + text.length)) = rest := by
  have behind := ByteBuffer.drop_of_drop remaining
  rw [lengthPrefixed_length] at behind
  rw [← behind]
  congr 1
  omega

theorem byte_field (fits : text.length ≤ 255)
    : (data.byte (2 + index)).toNat = text.length := by
  rw [DataPtr.byte_of_drop remaining, length_byte fits]

/-- A short string goes into its array, and the index behind it. -/
theorem hwInfoString_value (short : text.length < goproNameLen) (field : StringField)
    (strings : StateStrings)
    : (hwInfoString data field index strings).value
      = some (index + 1 + text.length, strings.put field text) := by
  have length := byte_field remaining (by unfold goproNameLen at short; omega)
  have block : data.block (2 + (index + 1)) text.length = text := by
    have behind : data.bytes.drop (2 + index + 1) = text ++ rest :=
      ByteBuffer.drop_succ_of_drop remaining
    exact DataPtr.block_of_drop behind
  simp only [hwInfoString, Traced.bind_value, DataPtr.load, length, DataPtr.loadBlock,
    if_neg (Nat.not_le.mpr short), block, storeTerminated_value, Traced.pure_value]

end Field

/-- The string arrays with every string of the message put into its own. -/
def HwInfo.putAll (info : HwInfo) (strings : StateStrings) : StateStrings :=
  ((((strings.put .modelName info.modelName).put .firmwareVersion info.firmwareVersion).put
    .serialNumber info.serialNumber).put .wifiSsid info.apSsid).put .apMac info.apMacAddress

/-- Each array holds its string, or what it held before. -/
theorem HwInfo.array_putAll (info : HwInfo) (strings : StateStrings) (field : StringField)
    : (info.putAll strings).array field
      = ((info.string? field).map (overwritten · (strings.array field))).getD
          (strings.array field) := by
  have modelName := info.modelName_length
  have firmwareVersion := info.firmwareVersion_length
  have serialNumber := info.serialNumber_length
  have apSsid := info.apSsid_length
  have apMac := info.apMacAddress_length
  cases field <;>
    simp [HwInfo.putAll, HwInfo.string?, overwritten, StateStrings.array_put_other,
      StateStrings.array_put_same, modelName, firmwareVersion, serialNumber, apSsid, apMac]

/-- Parsing the concatenation of the fields stores every string with a terminator in its own
array, leaves the bytes behind the terminators and everything else as they were, and ends at
the packet's length. Witness: each field leaves the index at the start of the next one.
-/
theorem goproParseResponseHwInfo_encode (feature action : UInt8) (info : HwInfo)
    (behind : Nat → UInt8) (state : GoproState)
    : let data : DataPtr := ⟨feature :: action :: info.encode, behind⟩
      let (after, ending) := (goproParseResponseHwInfo data info.encode.length state).value
      ending = .packetParseCorrect
      ∧ after = { state with strings := after.strings }
      ∧ ∀ field, after.strings.array field
        = ((info.string? field).map (overwritten · (state.strings.array field))).getD
            (state.strings.array field) := by
  intro data
  have modelNumber : data.bytes.drop (2 + 0) = info.encode := rfl
  have modelName := drop_field modelNumber
  rw [Nat.zero_add] at modelName
  have deprecated := drop_field modelName
  have firmwareVersion := drop_field deprecated
  have serialNumber := drop_field firmwareVersion
  have apSsid := drop_field serialNumber
  have apMac := drop_field apSsid
  have four := info.modelNumber_length
  have skipped := info.deprecated_length
  have reserved := info.reserved_length
  have parsed : (goproParseResponseHwInfo data info.encode.length state).value
      = ({ state with strings := info.putAll state.strings }, .packetParseCorrect) := by
    have first := byte_field modelNumber (by omega)
    have third := byte_field deprecated skipped
    rw [Nat.add_zero] at first
    simp only [goproParseResponseHwInfo, Traced.bind_value, DataPtr.load, first,
      if_neg (Nat.not_lt.mpr four), hwInfoString_value modelName info.modelName_length, third,
      hwInfoString_value firmwareVersion info.firmwareVersion_length,
      hwInfoString_value serialNumber info.serialNumber_length,
      hwInfoString_value apSsid info.apSsid_length,
      hwInfoString_value apMac info.apMacAddress_length]
    rw [if_pos]
    · rfl
    · simp only [HwInfo.encode, List.length_append, lengthPrefixed_length]
      omega
  rw [parsed]
  exact ⟨rfl, rfl, info.array_putAll state.strings⟩

/-- The information of a camera with its own access point. -/
def heroInfo : HwInfo where
  modelNumber := [0, 0, 0, 0x3E]
  modelName := [0x48, 0x45, 0x52, 0x4F]
  deprecated := [0x30, 0x78]
  firmwareVersion := [0x48, 0x32, 0x33]
  serialNumber := [0x43, 0x33]
  apSsid := [0x47, 0x50]
  apMacAddress := [0x32, 0x36]
  reserved := List.replicate 11 1
  modelNumber_length := by decide
  modelName_length := by decide
  deprecated_length := by decide
  firmwareVersion_length := by decide
  serialNumber_length := by decide
  apSsid_length := by decide
  apMacAddress_length := by decide
  reserved_length := by decide

/-- The model's name is stored in front of zeros, and the camera's name stays empty. -/
theorem goproParseResponseHwInfo_encode_hero
    : let data : DataPtr := ⟨0x3C :: 0x00 :: heroInfo.encode, fun _ => 0⟩
      let (after, ending) := (goproParseResponseHwInfo data heroInfo.encode.length .zero).value
      ending = .packetParseCorrect
        ∧ after.strings.array .modelName = [0x48, 0x45, 0x52, 0x4F] ++ List.replicate 16 0
        ∧ after.strings.array .name = List.replicate 20 0 := by
  obtain ⟨ending, -, arrays⟩ :=
    goproParseResponseHwInfo_encode 0x3C 0x00 heroInfo (fun _ => 0) .zero
  refine ⟨ending, (arrays .modelName).trans ?_, (arrays .name).trans ?_⟩
  · decide
  · decide

end GoproGateway
