import GoproGateway.Library.InputMachine
import GoproGateway.Library.WireFormat
import GoproGateway.Parse.HwInfo

/-! The writers of the state's strings.

Names come from advertisements, the access point's name and password are read over the air or
parsed from the hardware information, and the credentials of the home network come from the
CAN bus. The protobuf library is a parameter, as in the gateway's task: it makes of a message
the values that it hands to the callback, and tells whether it reaches the end.
-/

namespace GoproGateway

/-- `gopro_client_setname`; the name may be NULL. -/
def goproClientSetname (name : Option DataPtr) (len : UInt8) (strings : StateStrings)
    : StateTrace (StateStrings × Int) := do
  if len.toNat ≥ goproNameLen then
    return (strings, -1)
  match if len > 0 then name else none with
  | some name =>
      let name := name.block 0 len.toNat
      if CString.strncmp (strings.array .name) name len.toNat = 0 then
        return (strings, 0)
      let strings ← storeTerminated strings .name name
      return (strings, 0)
  | none =>
      let strings ← storeString strings .name 0 (List.replicate goproNameLen 0)
      return (strings, 0)

/-- A completed read: its error code, its handle and the one that the client has stored for the
characteristic, and what was read; `length` is a `uint16_t`.
-/
structure ReadResult where
  err : UInt8
  handle : Nat
  wifiHandle : Nat
  data : DataPtr
  length : Nat
  length_lt : length < 65536

/-- The two read callbacks, which differ in the array that they fill. -/
def onRead (field : StringField) (read : ReadResult) (strings : StateStrings)
    : StateTrace StateStrings := do
  Traced.log .giveBleReadSem
  if read.err ≠ 0 then
    return strings
  else if read.handle = read.wifiHandle then
    let strings ← storeString strings field 0 (List.replicate goproNameLen 0)
    let strSize := if read.length ≥ goproNameLen + 1 then goproNameLen - 1 else read.length
    storeTerminated strings field (read.data.block 0 strSize)
  else
    return strings

def onReadSsid (read : ReadResult) (strings : StateStrings) : StateTrace StateStrings :=
  onRead .wifiSsid read strings

def onReadPass (read : ReadResult) (strings : StateStrings) : StateTrace StateStrings :=
  onRead .wifiPass read strings

-----------------------------------------------------------------------------------------
-- Credentials
-----------------------------------------------------------------------------------------

/-- The strings of `gopro_state.cohn_net`. -/
inductive CohnString where
  | wifiSsid
  | wifiPass
  deriving DecidableEq, Repr

def CohnString.field : CohnString → StringField
  | .wifiSsid => .cohnWifiSsid
  | .wifiPass => .cohnWifiPass

/-- An occurrence of one of the two strings in a `RequestConnectNew`. -/
structure CredOccurrence where
  string : CohnString
  bytes : List UInt8
  deriving DecidableEq, Repr

/-- The library as the decoder of credentials uses it: the occurrences of the two strings in
order, and whether the message could be read.
-/
abbrev CredNanopb := List UInt8 → List CredOccurrence × Bool

/-- The string that a record of a `RequestConnectNew` is for; other records are skipped. -/
def credOccurrence : WireFormat.Record → Option CredOccurrence
  | ⟨1, .lengthDelimited bytes⟩ => some ⟨.wifiSsid, bytes⟩
  | ⟨2, .lengthDelimited bytes⟩ => some ⟨.wifiPass, bytes⟩
  | _ => none

/-- A library that reads the wire format as it is; both strings are required fields. -/
def referenceCredNanopb : CredNanopb := fun bytes =>
  let (records, complete) := WireFormat.readMessage bytes
  let occurrences := records.filterMap credOccurrence
  (occurrences, complete && occurrences.any (·.string = .wifiSsid)
    && occurrences.any (·.string = .wifiPass))

/-- `pb_decode` with `pb_decode_bytes` for both strings. `sizes` holds the `size` members of
the callbacks' arguments: at first the arrays' sizes, and then the lengths of what was read.
-/
def decodeCred (strings : StateStrings) (sizes : CohnString → Nat)
    : List CredOccurrence → StateTrace (StateStrings × Bool)
  | [] => return (strings, true)
  | ⟨string, bytes⟩ :: rest => do
      if bytes.length > sizes string then
        return (strings, false)
      else
        let strings ← storeString strings string.field 0 bytes
        decodeCred strings (Function.update sizes string bytes.length) rest

/-- `gopro_decode_wifi_cred`, and whether it logs a success. -/
def goproDecodeWifiCred (nanopb : CredNanopb) (data : List UInt8) (strings : StateStrings)
    : StateTrace (StateStrings × Bool) := do
  let (occurrences, complete) := nanopb data
  let (strings, ok) ← decodeCred strings (fun _ => goproNameLen) occurrences
  return (strings, ok && complete)

-----------------------------------------------------------------------------------------
-- Calls
-----------------------------------------------------------------------------------------

/-- A call of one of the five writers. -/
inductive StringCall where
  | setname (name : Option DataPtr) (len : UInt8)
  | readSsid (read : ReadResult)
  | readPass (read : ReadResult)
  | hwInfo (data : DataPtr) (packetLen : Nat)
  | wifiCred (data : List UInt8)

/-- The arrays that a call is there to set. -/
def StringCall.arrays : StringCall → List StringField
  | .setname _ _ => [.name]
  | .readSsid _ => [.wifiSsid]
  | .readPass _ => [.wifiPass]
  | .hwInfo _ _ => [.modelName, .firmwareVersion, .serialNumber, .wifiSsid, .apMac]
  | .wifiCred _ => [.cohnWifiSsid, .cohnWifiPass]

def StringCall.run (nanopb : CredNanopb) (state : GoproState) : StringCall → StateTrace GoproState
  | .setname name len => do
      let (strings, _) ← goproClientSetname name len state.strings
      return { state with strings }
  | .readSsid read => do
      let strings ← onReadSsid read state.strings
      return { state with strings }
  | .readPass read => do
      let strings ← onReadPass read state.strings
      return { state with strings }
  | .hwInfo data packetLen => do
      let (state, _) ← goproParseResponseHwInfo data packetLen state
      return state
  | .wifiCred data => do
      let (strings, _) ← goproDecodeWifiCred nanopb data state.strings
      return { state with strings }

/-- The writers over any sequence of calls. -/
def stringWriters (nanopb : CredNanopb) : InputMachine GoproState StringCall StateEvent where
  step state call :=
    let traced := call.run nanopb state
    (traced.value, traced.events)

end GoproGateway
