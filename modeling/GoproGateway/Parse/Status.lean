import GoproGateway.State.GoproState

/-! The two readers of status messages.

A query message starts with its identifier and a result, and status values follow as entries
of an identifier, a length byte, and a value. Indexes count from the start of the message;
pointers are kept as indexes.
-/

namespace GoproGateway

def goproQueryStatusGetStatus : UInt8 := 0x13
def goproQueryStatusRegStatus : UInt8 := 0x53
def goproQueryStatusRegStatusNotify : UInt8 := 0x93

def goproStatusIdEncoding : UInt8 := 10
def goproStatusIdVideoNum : UInt8 := 39
def goproStatusIdBatPercent : UInt8 := 70

/-- The loop that gathers `video_count` from `count` bytes. -/
def videoCountLoop (data : DataPtr) : (index count : Nat) → UInt32 → StateTrace UInt32
  | _, 0, videoCount => return videoCount
  | index, count + 1, videoCount => do
      let byte ← data.load index
      videoCountLoop data (index + 1) count (videoCount * 256 + byte.toUInt32)

/-- The recording flag, with its LED. -/
def setRecord (state : GoproState) (record : UInt8) : StateTrace GoproState := do
  Traced.log (.setRecLed (record > 0))
  return { state with record }

/-- `gopro_parse_query_status_reply`; its length argument is not looked at. -/
def goproParseQueryStatusReply (data : DataPtr) (_length : Nat) (state : GoproState)
    : StateTrace (GoproState × Int) := do
  let _id ← data.load 0
  let _result ← data.load 1
  let statusId ← data.load 2
  let statusLen ← data.load 3
  if statusId = goproStatusIdVideoNum then
    let videoCount ← videoCountLoop data 4 statusLen.toNat 0
    return ({ state with videoCount }, 0)
  else if statusId = goproStatusIdBatPercent then
    let battery ← data.load 4
    return ({ state with battery }, 0)
  else if statusId = goproStatusIdEncoding then
    let record ← data.load 4
    let state ← setRecord state record
    return (state, 0)
  else
    return (state, 0)

/-- The loop of `gopro_parse_query_status_notify`: the data pointer is at `index`, and
`totalDataLen` is the counter.
-/
def statusNotifyLoop (data : DataPtr) (index : Nat) (totalDataLen : Int) (state : GoproState)
    : StateTrace GoproState :=
  if 0 < totalDataLen then do
    let id ← data.load index
    let idLen ← data.load (index + 1)
    if id = goproStatusIdEncoding then
      let record ← data.load (index + 2)
      let state ← setRecord state record
      statusNotifyLoop data (index + 3) (totalDataLen - 2 - 1) state
    else if id = goproStatusIdVideoNum then
      let videoCount ← videoCountLoop data (index + 2) idLen.toNat 0
      statusNotifyLoop data (index + 2 + idLen.toNat) (totalDataLen - 2 - idLen.toNat)
        { state with videoCount }
    else if id = goproStatusIdBatPercent then
      let battery ← data.load (index + 2)
      statusNotifyLoop data (index + 3) (totalDataLen - 2 - 1) { state with battery }
    else
      statusNotifyLoop data (index + 2 + idLen.toNat) (totalDataLen - 2 - idLen.toNat) state
  else
    return state
termination_by totalDataLen.toNat
decreasing_by all_goals omega

/-- `gopro_parse_query_status_notify`; the length is a `uint16_t`. -/
def goproParseQueryStatusNotify (data : DataPtr) (length : Nat) (state : GoproState)
    : StateTrace (GoproState × Int) := do
  let id ← data.load 0
  let result ← data.load 1
  if id ≠ goproQueryStatusRegStatusNotify ∧ id ≠ goproQueryStatusRegStatus then
    return (state, -1)
  else if result ≠ 0 then
    return (state, -1)
  else
    let state ← statusNotifyLoop data 2 ((length % 65536 : Nat) - 3) state
    return (state, 0)

/-- `gopro_packet_parse_query`; a packet's feature and action are the first two bytes of its
message.
-/
def goproPacketParseQuery (feature action : UInt8) (data : DataPtr) (totalLen : Nat)
    (state : GoproState)
    : StateTrace GoproState := do
  if feature = 0xF5 then
    if action = 0xEF then Traced.log (.parse .responseCohnStatus)
    else if action = 0xEE then Traced.log (.parse .responseCohnCert)
  let state ←
    if feature = goproQueryStatusRegStatus ∨ feature = goproQueryStatusRegStatusNotify then
      if action = 0 then
        let (state, _) ← goproParseQueryStatusNotify data totalLen state
        pure state
      else pure state
    else pure state
  if feature = goproQueryStatusGetStatus then
    if action = 0 then
      let (state, _) ← goproParseQueryStatusReply data totalLen state
      return state
  return state

end GoproGateway
