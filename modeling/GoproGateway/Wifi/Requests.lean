import GoproGateway.Reply.RoundTrip
import GoproGateway.Send.RoundTrip
import GoproGateway.Wifi.ApChoice
import GoproGateway.Wifi.StartScanning

/-! The requests that the gateway makes of its own accord, from their fields to their frames.

Three belong to the Wi-Fi network, and one ends the pairing. Feature and action tell them apart,
and behind these stand the fields, which are all required ones. A failed encoding goes unnoticed:
what it has left in `work_buff` is sent.
-/

namespace GoproGateway

open Reassembly WireFormat

-----------------------------------------------------------------------------------------
-- Requests
-----------------------------------------------------------------------------------------

inductive CameraRequest where
  | getApEntries (request : RequestGetApEntries)
  | connect (request : ConnectRequest)
  /-- `RequestPairingFinish`. -/
  | pairingFinish (result : Int) (phoneName : List UInt8)
  deriving DecidableEq, Repr

/-- A required field: a number, or bytes from a callback. -/
inductive PbField where
  | int32 (number : Nat) (value : Int)
  | bytes (number : Nat) (data : List UInt8)
  deriving DecidableEq, Repr

def PbField.record : PbField → Record
  | .int32 number value => int32Record number value
  | .bytes number data => ⟨number, .lengthDelimited data⟩

/-- What `pb_encode` does with a field. -/
def PbField.pbEncode (encoder : PbEncoder) (stream : OutStream) : PbField → Option OutStream
  | .int32 number value => encoder.requiredInt32 stream number value
  | .bytes number data => pbEncodeBytes encoder stream number data

namespace CameraRequest

def feature : CameraRequest → UInt8
  | .getApEntries _ | .connect _ => 0x02
  | .pairingFinish _ _ => 0x03

def action : CameraRequest → UInt8
  | .getApEntries _ => 0x03
  | .connect (.connect _) => 0x04
  | .connect (.connectNew _ _) => 0x05
  | .pairingFinish _ _ => 0x01

/-- The fields, in the order in which `pb_encode` takes them. -/
def fields : CameraRequest → List PbField
  | .getApEntries request =>
      [.int32 1 request.startIndex, .int32 2 request.maxEntries, .int32 3 request.scanId]
  | .connect (.connect ssid) => [.bytes 1 ssid]
  | .connect (.connectNew ssid password) => [.bytes 1 ssid, .bytes 2 password]
  | .pairingFinish result phoneName => [.int32 1 result, .bytes 2 phoneName]

def records (request : CameraRequest) : List Record := request.fields.map PbField.record

/-- `pb_encode`, field by field. -/
def pbEncode (encoder : PbEncoder) (stream : OutStream) (request : CameraRequest)
    : Option OutStream :=
  request.fields.foldlM (PbField.pbEncode encoder) stream

/-- What the camera is to get. -/
def message (request : CameraRequest) : Message Nat UInt8 :=
  ⟨gpCntrlHandleNet, request.feature :: request.action :: encodeMessage request.records⟩

end CameraRequest

-----------------------------------------------------------------------------------------
-- Sending
-----------------------------------------------------------------------------------------

/-- What lies in memory when a request is made: on the stack, and in `work_buff` behind a failed
encoding.
-/
structure SendMemory where
  stack : StackBytes
  workBuff : List UInt8

def SendMemory.zero : SendMemory := ⟨.zero, []⟩

/-- The bytes that a request is taken to have in `work_buff`. -/
def SendMemory.encoded (memory : SendMemory) (encoder : PbEncoder) (request : CameraRequest)
    : List UInt8 :=
  ((request.pbEncode encoder (.ofBuffer workBuffSize)).map OutStream.written).getD
    memory.workBuff

/-- `pairing_str`. -/
def pairingStr : List UInt8 := [0x6E, 0x72, 0x66, 0x35, 0x32]

/-- `SUCCESS` of `EnumPairingFinishState`. -/
def pairingFinishSuccess : Int := 0

/-- `gopro_prepare_finish_pairing`, up to the encoding. -/
def goproPrepareFinishPairing : CameraRequest := .pairingFinish pairingFinishSuccess pairingStr

/-- `gopro_finish_pairing`: the commands that it publishes. -/
def goproFinishPairing (encoder : PbEncoder) (memory : SendMemory) : List GoproCmd :=
  let data := memory.encoded encoder goproPrepareFinishPairing
  goproSendBigData memory.stack data data.length (UInt8.ofNat gpCntrlHandleNet) 0x03 0x01

/-- The commands that a call of `gopro_send_big_data` publishes. -/
def BigData.send (memory : SendMemory) (call : BigData) : List GoproCmd :=
  goproSendBigData memory.stack call.data call.data.length (UInt8.ofNat call.type) call.feature
    call.action

-----------------------------------------------------------------------------------------
-- Reading
-----------------------------------------------------------------------------------------

/-- The value of a record, if it is one of the given field of bytes. -/
def bytesField (number : Nat) : Record → Option (List UInt8)
  | ⟨other, .lengthDelimited bytes⟩ => if other = number then some bytes else none
  | _ => none

section Fields

variable (number other : Nat) (value : Int) (data : List UInt8)

@[simp] theorem bytesField_bytes
    : bytesField number ⟨other, .lengthDelimited data⟩
      = if other = number then some data else none := rfl

@[simp] theorem bytesField_int32Record : bytesField number (int32Record other value) = none := rfl

@[simp] theorem int32Field_bytes : int32Field number ⟨other, .lengthDelimited data⟩ = none := rfl

@[simp] theorem int32Field_int32Record
    : int32Field number (int32Record other value)
      = if other = number then some (int32 (int64Word value)) else none := rfl

end Fields

/-- The last value of a field of bytes. -/
def lastBytes (number : Nat) (records : List Record) : Option (List UInt8) :=
  (records.filterMap (bytesField number)).getLast?

/-- A message as a camera reads it: feature and action say which fields it has to have. -/
def readCameraRequest (message : Message Nat UInt8) : Option CameraRequest := do
  let feature ← message.body[0]?
  let action ← message.body[1]?
  let (records, complete) := readMessage (message.body.drop 2)
  if ¬ complete ∨ message.key ≠ gpCntrlHandleNet then
    none
  else if feature = 0x02 ∧ action = 0x03 then
    let startIndex ← lastInt32 1 records
    let maxEntries ← lastInt32 2 records
    let scanId ← lastInt32 3 records
    return .getApEntries { startIndex, maxEntries, scanId }
  else if feature = 0x02 ∧ action = 0x04 then
    let ssid ← lastBytes 1 records
    return .connect (.connect ssid)
  else if feature = 0x02 ∧ action = 0x05 then
    let ssid ← lastBytes 1 records
    let password ← lastBytes 2 records
    return .connect (.connectNew ssid password)
  else if feature = 0x03 ∧ action = 0x01 then
    let result ← lastInt32 1 records
    let phoneName ← lastBytes 2 records
    return .pairingFinish result phoneName
  else
    none

-----------------------------------------------------------------------------------------
-- Encoding
-----------------------------------------------------------------------------------------

/-- The fields that the library writes, and `work_buff` has room for among others. -/
def PbField.Small : PbField → Prop
  | .int32 number value => 0 < number ∧ number < 16 ∧ IsInt32 value
  | .bytes number data => 0 < number ∧ number < 16 ∧ data.length ≤ stringsLen

/-- The fields of a request are small. -/
def CameraRequest.Small (request : CameraRequest) : Prop :=
  ∀ field ∈ request.fields, field.Small

/-- A small field has room in the format. -/
theorem PbField.Small.record_fits {field : PbField} (small : field.Small) : field.record.Fits := by
  cases field with
  | int32 number value =>
      obtain ⟨numbered, below, -⟩ := small
      exact int32Record_fits numbered (by omega) value
  | bytes number data =>
      obtain ⟨numbered, below, short⟩ := small
      unfold stringsLen at short
      exact ⟨numbered, show number < 2 ^ 29 by omega, show data.length < 2 ^ 32 by omega⟩

/-- The library writes a small field as its record. -/
theorem PbField.Small.pbEncode_eq {field : PbField} (small : field.Small) {encoder : PbEncoder}
    (follows : encoder.FollowsWireFormat) (stream : OutStream)
    : field.pbEncode encoder stream = stream.write field.record.encode := by
  cases field with
  | int32 number value =>
      obtain ⟨-, below, inRange⟩ := small
      exact follows.requiredInt32 stream number value (by omega) inRange
  | bytes number data =>
      obtain ⟨-, below, short⟩ := small
      unfold stringsLen at short
      rw [PbField.pbEncode, pbEncodeBytes, follows.tagForField stream number (by omega),
        PbField.record, Record.encode, OutStream.write_append]
      exact congrArg (Option.bind _) (funext fun stream => follows.string stream data (by omega))

/-- A field takes its tag, and at most ten bytes of digits or a length and the bytes. -/
theorem PbField.Small.encode_length {field : PbField} (small : field.Small)
    : field.record.encode.length ≤ 1 + 10 + stringsLen := by
  cases field with
  | int32 number value =>
      obtain ⟨-, below, -⟩ := small
      have tag := digitsWithin_length 10 (show 8 * number + 0 < 128 ^ (0 + 1) by omega)
      have digits := digitsWithin_length 10
        (Nat.lt_of_lt_of_le (int64Word_lt value) (show 2 ^ 64 ≤ 128 ^ (9 + 1) by decide))
      simp only [PbField.record, int32Record, Record.encode, Value.wireType, encodeTag,
        Value.encode, encodeVarint, List.length_append]
      omega
  | bytes number data =>
      obtain ⟨-, below, short⟩ := small
      unfold stringsLen at short
      have tag := digitsWithin_length 10 (show 8 * number + 2 < 128 ^ (0 + 1) by omega)
      have length := digitsWithin_length 10 (show data.length < 128 ^ (1 + 1) by omega)
      simp only [PbField.record, Record.encode, Value.wireType, encodeTag, Value.encode,
        encodeVarint, List.length_append]
      unfold stringsLen
      omega

/-- Encoding field by field is writing the message. -/
theorem pbEncode_fields {encoder : PbEncoder} (follows : encoder.FollowsWireFormat)
    {fields : List PbField} (small : ∀ field ∈ fields, field.Small) {stream : OutStream}
    (room : stream.written.length ≤ stream.maxSize)
    : fields.foldlM (PbField.pbEncode encoder) stream
      = stream.write (encodeMessage (fields.map PbField.record)) := by
  induction fields generalizing stream with
  | nil => simp [encodeMessage, OutStream.write, room]
  | cons field fields ih =>
      have first := (small field (by simp)).pbEncode_eq follows stream
      have whole : encodeMessage ((field :: fields).map PbField.record)
          = field.record.encode ++ encodeMessage (fields.map PbField.record) := by
        simp [encodeMessage]
      rw [List.foldlM_cons, first, whole, OutStream.write_append]
      cases written : stream.write field.record.encode with
      | none => rfl
      | some next =>
          refine ih (fun field member => small field (by simp [member])) ?_
          unfold OutStream.write at written
          split at written
          case isTrue fits =>
              rw [← Option.some.inj written, List.length_append]
              exact fits
          case isFalse => cases written

/-- Each record has a byte of tag and at most ten of a number in front of its string. -/
theorem encodeMessage_length {fields : List PbField} (small : ∀ field ∈ fields, field.Small)
    : (encodeMessage (fields.map PbField.record)).length
      ≤ fields.length * (1 + 10 + stringsLen) := by
  induction fields with
  | nil => exact Nat.zero_le _
  | cons field fields ih =>
      have first := (small field (by simp)).encode_length
      have later := ih fun field member => small field (by simp [member])
      simp only [encodeMessage, List.map_cons, List.flatMap_cons, List.length_append,
        List.length_cons, Nat.succ_mul] at later ⊢
      omega

namespace CameraRequest

variable {request : CameraRequest}

/-- The records of a small request fit the work buffer. -/
theorem Small.records_length (small : request.Small)
    : (encodeMessage request.records).length ≤ workBuffSize := by
  have few : request.fields.length ≤ 3 := by
    rcases request with _ | (_ | _) | _ <;> simp [fields]
  have size := encodeMessage_length small
  unfold stringsLen at size
  unfold workBuffSize records
  omega

/-- `work_buff` has room for every request with small fields. -/
theorem Small.encoded_eq (small : request.Small) {encoder : PbEncoder}
    (follows : encoder.FollowsWireFormat) (memory : SendMemory)
    : memory.encoded encoder request = encodeMessage request.records := by
  have empty : (OutStream.ofBuffer workBuffSize).written.length ≤ workBuffSize := Nat.zero_le _
  have encoded := pbEncode_fields follows small empty
  rw [← records, OutStream.write_ofBuffer, if_pos small.records_length] at encoded
  rw [SendMemory.encoded, pbEncode, encoded]
  rfl

-----------------------------------------------------------------------------------------
-- Round trip
-----------------------------------------------------------------------------------------

theorem Small.records_fit (small : request.Small) : ∀ record ∈ request.records, record.Fits := by
  intro record member
  obtain ⟨field, listed, rfl⟩ := List.mem_map.mp member
  exact (small field listed).record_fits

/-- A camera reads every request with small fields as it was meant. -/
theorem Small.reads_back (small : request.Small)
    : readCameraRequest request.message = some request := by
  have read := readMessage_encodeMessage small.records_fit
  have value (number : Nat) (value : Int) (member : .int32 number value ∈ request.fields)
      : int32 (int64Word value) = value :=
    have field : PbField.Small (.int32 number value) := small _ member
    int32_int64Word field.2.2
  rw [readCameraRequest]
  simp only [message, List.getElem?_cons_zero, List.getElem?_cons_succ, Option.bind_eq_bind,
    Option.bind_some, List.drop_succ_cons, List.drop_zero, read]
  rcases request with request | (ssid | ⟨ssid, password⟩) | ⟨result, phoneName⟩
  · have startIndex := value 1 request.startIndex (by simp [fields])
    have maxEntries := value 2 request.maxEntries (by simp [fields])
    have scanId := value 3 request.scanId (by simp [fields])
    simp [feature, action, records, fields, PbField.record, lastInt32, startIndex, maxEntries,
      scanId]
  · simp [feature, action, records, fields, PbField.record, lastBytes]
  · simp [feature, action, records, fields, PbField.record, lastBytes]
  · have result := value 1 result (by simp [fields])
    simp [feature, action, records, fields, PbField.record, lastInt32, lastBytes, result,
      List.filterMap_cons]

end CameraRequest

/-- What `gopro_send_big_data` publishes are the frames of feature, action and data. -/
theorem goproSendBigData_framed (stack : StackBytes) {data : List UInt8}
    (fits : data.length ≤ workBuffSize) (type feature action : UInt8)
    : AreFramesOf (goproSendBigData stack data data.length type feature action)
        ⟨type.toNat, feature :: action :: data⟩ := by
  obtain ⟨first, rest, message, nonempty, whole, -⟩ :=
    goproSendBigData_message stack type feature action (Nat.le_refl data.length) fits
  rw [List.take_length] at whole
  have some : first ++ rest.flatten ≠ [] := by
    rw [whole]
    exact List.cons_ne_nil _ _
  refine ⟨⟨type.toNat, first, rest, nonempty, some⟩, ?_, ?_⟩
  · simp only [Framing.message, Framing.body, whole]
  · simp only [Framing.body, whole]
    exact message

/-- The request for the list of access points goes out in a single frame. -/
theorem goproPbReqAp_framed {encoder : PbEncoder} (follows : encoder.FollowsWireFormat)
    (stack : StackBytes) (scanId startIndex count : UInt8)
    : ∃ cmd,
        goproPbReqAp encoder stack scanId startIndex count = some cmd
        ∧ AreFramesOf [cmd]
          (CameraRequest.getApEntries ⟨0, count.toNat, scanId.toNat⟩).message := by
  let req := RequestGetApEntries.mk 0 count.toNat scanId.toNat
  let body := encodeMessage req.records
  have size : body.length ≤ 9 := RequestGetApEntries.records_length count scanId
  have inRange : IsInt32 req.startIndex ∧ IsInt32 req.maxEntries ∧ IsInt32 req.scanId :=
    ⟨isInt32_byte 0, isInt32_byte count, isInt32_byte scanId⟩
  have encoded : req.pbEncode encoder (.ofBuffer (goproCmdDataLen - 3))
      = some ⟨goproCmdDataLen - 3, body⟩ := by
    rw [req.pbEncode_eq follows _ inRange, OutStream.write_ofBuffer,
      if_pos (Nat.le_trans size (by decide))]
  have counted : (UInt8.ofNat (body.length + 2)).toNat = body.length + 2 := by
    rw [UInt8.toNat_ofNat']
    omega
  let first := UInt8.ofNat (body.length + 2)
  let cmd := (GoproCmd.onStack stack (UInt8.ofNat gpCntrlHandleNet)).fill
    (first :: 0x02 :: 0x03 :: body) (first.toNat + 1)
  have small : cmd.len ≤ goproCmdDataLen := by
    rw [GoproCmd.fill_len, counted]
    unfold goproCmdDataLen
    omega
  have whole : (first :: 0x02 :: 0x03 :: body).length = first.toNat + 1 := by
    rw [counted]
    rfl
  have isStart : cmd.IsStart gpCntrlHandleNet (body.length + 2) (0x02 :: 0x03 :: body) :=
    ⟨rfl, small, [first], .bit5 (by omega), GoproCmd.fill_payload _ whole small⟩
  refine ⟨cmd, ?_, ⟨gpCntrlHandleNet, 0x02 :: 0x03 :: body, [], by simp, by simp⟩, ?_, ?_⟩
  · rw [goproPbReqAp]
    simp only [req] at encoded
    simp only [encoded]
    rfl
  · simp only [Framing.message, Framing.body, List.flatten_nil, List.append_nil]
    rfl
  · refine .frames ?_ .nil
    simpa [Framing.body] using isStart

-----------------------------------------------------------------------------------------
-- Requests in a row
-----------------------------------------------------------------------------------------

/-- Commands that are the frames of requests with small fields, one request after the other. -/
inductive Requests : List GoproCmd → List CameraRequest → Prop
  | nil : Requests [] []
  | cons {row cmds : List GoproCmd} {request : CameraRequest} {requests : List CameraRequest}
      (frames : AreFramesOf row request.message) (small : request.Small)
      (rest : Requests cmds requests)
      : Requests (row ++ cmds) (request :: requests)

namespace Requests

/-- The frames of one request. -/
theorem single {cmds : List GoproCmd} {request : CameraRequest}
    (frames : AreFramesOf cmds request.message) (small : request.Small)
    : Requests cmds [request] := by
  simpa using Requests.cons frames small .nil

/-- Published requests in a row. -/
theorem append {cmds more : List GoproCmd} {requests later : List CameraRequest}
    (first : Requests cmds requests) (second : Requests more later)
    : Requests (cmds ++ more) (requests ++ later) := by
  induction first with
  | nil => exact second
  | cons frames small rest ih =>
      rw [List.append_assoc, List.cons_append]
      exact .cons frames small ih

/-- The published frames in rows, one for each request. -/
theorem rows {cmds : List GoproCmd} {requests : List CameraRequest}
    (published : Requests cmds requests)
    : ∃ rows : List (List GoproCmd),
        rows.flatten = cmds
        ∧ List.Forall₂ AreFramesOf rows (requests.map CameraRequest.message)
        ∧ ∀ request ∈ requests, request.Small := by
  induction published with
  | nil => exact ⟨[], rfl, .nil, by simp⟩
  | @cons row _ _ _ frames small _ ih =>
      obtain ⟨rows, rfl, later, others⟩ := ih
      exact ⟨row :: rows, rfl, .cons frames later, List.forall_mem_cons.mpr ⟨small, others⟩⟩

/-- A camera that reassembles the frames reads the requests, in order. -/
theorem read_back {cmds : List GoproCmd} {requests : List CameraRequest}
    (published : Requests cmds requests) (packet : GoproPacket) {calls : List BuildCall}
    (frames : calls.map BuildCall.cmd = cmds) (allocate : ∀ call ∈ calls, call.kMalloc ≠ none)
    : (parsedPackets (packetBuilder.run packet calls).2).map (readCameraRequest ·.message)
      = requests.map some := by
  obtain ⟨rows, rfl, framed, small⟩ := published.rows
  have parsed := AreFramesOf.parses_row framed
    (by simp [CameraRequest.message, gpCntrlHandleNet, gpCntrlHandleEnd]) packet frames allocate
  have read : (parsedPackets (packetBuilder.run packet calls).2).map (readCameraRequest ·.message)
      = ((parsedPackets (packetBuilder.run packet calls).2).map GoproPacket.message).map
        readCameraRequest := by
    simp [Function.comp_def]
  rw [read, parsed, List.map_map]
  apply List.map_congr_left
  exact fun request member => (small request member).reads_back

end Requests

end GoproGateway
