import GoproGateway.Client.PbEncoder
import GoproGateway.Gateway.CanRxBle
import GoproGateway.Send.Fragmenter

/-! From a finished scan to the request for its entries.

`gopro_parse_start_scaning` looks at the decoded message also when the decoding has failed, and
hands the scan's number and the count of entries on as bytes.
-/

namespace GoproGateway

open WireFormat

/-- `SCANNING_SUCCESS` of `EnumScanning`. -/
def scanningSuccess : Int := 5

/-- `NotifStartScanning`. -/
structure NotifStartScanning where
  scanningState : Int
  scanId : Int
  totalEntries : Int
  totalConfiguredSsid : Int
  deriving DecidableEq, Repr

/-- The `init_zero` value. -/
def NotifStartScanning.zero : NotifStartScanning := ⟨0, 0, 0, 0⟩

/-- What the protobuf library stores for one field of a `NotifStartScanning`. -/
inductive ScanField where
  | scanningState (value : Int)
  | scanId (value : Int)
  | totalEntries (value : Int)
  | totalConfiguredSsid (value : Int)
  deriving DecidableEq, Repr

/-- The library as the parser uses it: the fields that it stores, in order, and whether
`pb_decode` succeeds.
-/
abbrev ScanNanopb := List UInt8 → List ScanField × Bool

def NotifStartScanning.store (notif : NotifStartScanning) : ScanField → NotifStartScanning
  | .scanningState value => { notif with scanningState := value }
  | .scanId value => { notif with scanId := value }
  | .totalEntries value => { notif with totalEntries := value }
  | .totalConfiguredSsid value => { notif with totalConfiguredSsid := value }

/-- `scan_resp` after `pb_decode`, whether it succeeds or not. -/
def scanResp (nanopb : ScanNanopb) (data : List UInt8) : NotifStartScanning :=
  (nanopb data).1.foldl NotifStartScanning.store .zero

/-- `RequestGetApEntries`. -/
structure RequestGetApEntries where
  startIndex : Int
  maxEntries : Int
  scanId : Int
  deriving DecidableEq, Repr

/-- `pb_encode` of a `RequestGetApEntries`, whose fields are required. -/
def RequestGetApEntries.pbEncode (req : RequestGetApEntries) (encoder : PbEncoder)
    (stream : OutStream)
    : Option OutStream := do
  let stream ← encoder.requiredInt32 stream 1 req.startIndex
  let stream ← encoder.requiredInt32 stream 2 req.maxEntries
  encoder.requiredInt32 stream 3 req.scanId

/-- `gopro_pb_req_ap`: the command that it publishes, unless the encoding fails. The start index
is not looked at.
-/
def goproPbReqAp (encoder : PbEncoder) (stack : StackBytes) (scanId _startIndex count : UInt8)
    : Option GoproCmd :=
  let req : RequestGetApEntries :=
    { startIndex := 0, maxEntries := count.toNat, scanId := scanId.toNat }
  match req.pbEncode encoder (.ofBuffer (goproCmdDataLen - 3)) with
  | none => none
  | some stream =>
      let cmd := GoproCmd.onStack stack (UInt8.ofNat gpCntrlHandleNet)
      let first := UInt8.ofNat (stream.written.length + 2)
      some (cmd.fill (first :: 0x02 :: 0x03 :: stream.written) (first.toNat + 1))

/-- `gopro_parse_start_scaning`: the commands that it publishes. -/
def goproParseStartScaning (nanopb : ScanNanopb) (encoder : PbEncoder) (stack : StackBytes)
    (data : List UInt8)
    : List GoproCmd :=
  let notif := scanResp nanopb data
  if notif.scanningState = scanningSuccess then
    (goproPbReqAp encoder stack (UInt8.ofInt notif.scanId) 0
      (UInt8.ofInt notif.totalEntries)).toList
  else []

-----------------------------------------------------------------------------------------
-- Reading a request
-----------------------------------------------------------------------------------------

/-- The value of a record, if it is one of the given `int32` field. -/
def int32Field (number : Nat) : Record → Option Int
  | ⟨other, .varint value⟩ => if other = number then some (int32 value) else none
  | _ => none

/-- The last value of an `int32` field. -/
def lastInt32 (number : Nat) (records : List Record) : Option Int :=
  (records.filterMap (int32Field number)).getLast?

/-- A body as a `RequestGetApEntries`. -/
def readRequestGetApEntries (body : List UInt8) : Option RequestGetApEntries :=
  let (records, complete) := readMessage body
  if complete then do
    let startIndex ← lastInt32 1 records
    let maxEntries ← lastInt32 2 records
    let scanId ← lastInt32 3 records
    return { startIndex, maxEntries, scanId }
  else none

/-- A finished scan leads to the right request, and nothing else to any. -/
structure RequestsEntries (nanopb : ScanNanopb) (data : List UInt8) (published : List GoproCmd)
    : Prop where
  requests_iff : published ≠ []
    ↔ (nanopb data).2 = true ∧ (scanResp nanopb data).scanningState = scanningSuccess
  request : ∀ cmd ∈ published, readRequestGetApEntries (cmd.payload.drop 3)
    = some {
      startIndex := 0
      maxEntries := (scanResp nanopb data).totalEntries
      scanId := (scanResp nanopb data).scanId
    }
  counted : ∀ cmd ∈ published, cmd.len = (cmd.byte 0).toNat + 1
  fits : ∀ cmd ∈ published,
    0 ≤ (scanResp nanopb data).scanId → 0 ≤ (scanResp nanopb data).totalEntries
      → cmd.len ≤ goproCmdDataLen

-----------------------------------------------------------------------------------------
-- The request
-----------------------------------------------------------------------------------------

/-- The records of a request. -/
def RequestGetApEntries.records (req : RequestGetApEntries) : List Record :=
  [int32Record 1 req.startIndex, int32Record 2 req.maxEntries, int32Record 3 req.scanId]

theorem RequestGetApEntries.pbEncode_eq (req : RequestGetApEntries) {encoder : PbEncoder}
    (follows : encoder.FollowsWireFormat) (stream : OutStream)
    (inRange : IsInt32 req.startIndex ∧ IsInt32 req.maxEntries ∧ IsInt32 req.scanId)
    : req.pbEncode encoder stream = stream.write (encodeMessage req.records) := by
  obtain ⟨first, second, third⟩ := inRange
  have body : encodeMessage req.records
      = (int32Record 1 req.startIndex).encode ++ ((int32Record 2 req.maxEntries).encode
        ++ (int32Record 3 req.scanId).encode) := by
    simp [encodeMessage, records]
  rw [body, OutStream.write_append, pbEncode, follows.requiredInt32 _ 1 _ (by omega) first]
  refine congrArg (Option.bind _) (funext fun stream => ?_)
  rw [OutStream.write_append, ← follows.requiredInt32 _ 2 _ (by omega) second]
  refine congrArg (Option.bind _) (funext fun stream => ?_)
  exact follows.requiredInt32 _ 3 _ (by omega) third

/-- Values of one byte take at most three bytes with their tag. -/
theorem int32Record_length {number : Nat} (small : number < 16) (value : UInt8)
    : (int32Record number value.toNat).encode.length ≤ 3 := by
  have byte := value.toNat_lt
  have word : int64Word value.toNat = value.toNat := by
    unfold int64Word
    omega
  have tag := digitsWithin_length 10 (show 8 * number + 0 < 128 ^ (0 + 1) by omega)
  have digits := digitsWithin_length 10 (show value.toNat < 128 ^ (1 + 1) by omega)
  simp only [int32Record, Record.encode, Value.wireType, encodeTag, Value.encode, encodeVarint,
    word, List.length_append]
  omega

theorem int32_byte (value : UInt8) : int32 (int64Word value.toNat) = value.toNat := by
  have byte := value.toNat_lt
  unfold int32 int64Word
  rw [Int.bmod_def]
  omega

theorem isInt32_byte (value : UInt8) : IsInt32 value.toNat := by
  have byte := value.toNat_lt
  unfold IsInt32
  omega

/-- A request with values of one byte is short enough for its command. -/
theorem RequestGetApEntries.records_length (count scanId : UInt8)
    : (encodeMessage (RequestGetApEntries.mk 0 count.toNat scanId.toNat).records).length ≤ 9 := by
  have first := int32Record_length (show 1 < 16 by decide) 0
  have second := int32Record_length (show 2 < 16 by decide) count
  have third := int32Record_length (show 3 < 16 by decide) scanId
  simp only [encodeMessage, RequestGetApEntries.records, List.flatMap_cons, List.flatMap_nil,
    List.length_append, List.length_nil]
  exact Nat.le_trans (Nat.add_le_add first (Nat.add_le_add second third)) (by decide)

theorem readRequestGetApEntries_encode (count scanId : UInt8)
    : readRequestGetApEntries (encodeMessage
        (RequestGetApEntries.mk 0 count.toNat scanId.toNat).records)
      = some ⟨0, count.toNat, scanId.toNat⟩ := by
  let records := (RequestGetApEntries.mk 0 count.toNat scanId.toNat).records
  have fit : ∀ record ∈ records, record.Fits := by
    simp [records, RequestGetApEntries.records, int32Record_fits]
  have first : lastInt32 1 records = some (int32 (int64Word 0)) := rfl
  have zero : int32 (int64Word 0) = 0 := by decide
  have second : lastInt32 2 records = some (int32 (int64Word count.toNat)) := rfl
  have third : lastInt32 3 records = some (int32 (int64Word scanId.toNat)) := rfl
  rw [readRequestGetApEntries, readMessage_encodeMessage fit]
  simp only [if_true]
  rw [first, second, third, zero, int32_byte, int32_byte]
  rfl

/-- The command of a request: its body, its length byte, and its size. -/
theorem goproPbReqAp_command {encoder : PbEncoder} (follows : encoder.FollowsWireFormat)
    (stack : StackBytes) (scanId startIndex count : UInt8)
    : ∃ cmd,
        goproPbReqAp encoder stack scanId startIndex count = some cmd
        ∧ readRequestGetApEntries (cmd.payload.drop 3)
          = some ⟨0, count.toNat, scanId.toNat⟩
        ∧ cmd.len = (cmd.byte 0).toNat + 1
        ∧ cmd.len ≤ goproCmdDataLen := by
  let req := RequestGetApEntries.mk 0 count.toNat scanId.toNat
  have size : (encodeMessage req.records).length ≤ 9 :=
    RequestGetApEntries.records_length count scanId
  have inRange : IsInt32 req.startIndex ∧ IsInt32 req.maxEntries ∧ IsInt32 req.scanId :=
    ⟨isInt32_byte 0, isInt32_byte count, isInt32_byte scanId⟩
  have encoded : req.pbEncode encoder (.ofBuffer (goproCmdDataLen - 3))
      = some ⟨goproCmdDataLen - 3, encodeMessage req.records⟩ := by
    rw [req.pbEncode_eq follows _ inRange, OutStream.write_ofBuffer,
      if_pos (Nat.le_trans size (by decide))]
  have counted : (UInt8.ofNat ((encodeMessage req.records).length + 2)).toNat
      = (encodeMessage req.records).length + 2 := by
    rw [UInt8.toNat_ofNat']
    omega
  let first := UInt8.ofNat ((encodeMessage req.records).length + 2)
  let cmd := (GoproCmd.onStack stack (UInt8.ofNat gpCntrlHandleNet)).fill
    (first :: 0x02 :: 0x03 :: encodeMessage req.records) (first.toNat + 1)
  have small : cmd.len ≤ goproCmdDataLen := by
    rw [GoproCmd.fill_len, counted]
    unfold goproCmdDataLen
    omega
  have whole : (first :: 0x02 :: 0x03 :: encodeMessage req.records).length
      = first.toNat + 1 := by
    rw [counted]
    rfl
  have payload : cmd.payload = first :: 0x02 :: 0x03 :: encodeMessage req.records :=
    GoproCmd.fill_payload _ whole small
  refine ⟨cmd, ?_, ?_, ?_, small⟩
  · rw [goproPbReqAp]
    simp only [req] at encoded
    simp only [encoded]
    rfl
  · rw [payload]
    exact readRequestGetApEntries_encode count scanId
  · rw [GoproCmd.fill_len, GoproCmd.fill_byte_zero]

-----------------------------------------------------------------------------------------
-- The parser
-----------------------------------------------------------------------------------------

/-- The values that a byte has room for. -/
def IsByte (value : Int) : Prop := 0 ≤ value ∧ value < 256

theorem ofInt_toNat_eq_iff (value : Int)
    : ((UInt8.ofInt value).toNat : Int) = value ↔ IsByte value := by
  rw [ofInt_toNat]
  unfold IsByte
  omega

/-- A finished scan leads to the right request, and nothing else to any, iff a message that
stores `SCANNING_SUCCESS` decodes and has a number and a count of entries of one byte. Witness:
the request has the low bytes of both.
-/
theorem goproParseStartScaning_requests_iff (nanopb : ScanNanopb) (encoder : PbEncoder)
    (follows : encoder.FollowsWireFormat) (stack : StackBytes) (data : List UInt8)
    : RequestsEntries nanopb data (goproParseStartScaning nanopb encoder stack data)
      ↔ ((scanResp nanopb data).scanningState = scanningSuccess
        → (nanopb data).2 = true
          ∧ IsByte (scanResp nanopb data).scanId
          ∧ IsByte (scanResp nanopb data).totalEntries) := by
  by_cases finished : (scanResp nanopb data).scanningState = scanningSuccess
  · obtain ⟨cmd, requested, body, counted, small⟩ := goproPbReqAp_command follows stack
      (UInt8.ofInt (scanResp nanopb data).scanId) 0
      (UInt8.ofInt (scanResp nanopb data).totalEntries)
    have published : goproParseStartScaning nanopb encoder stack data = [cmd] := by
      rw [goproParseStartScaning, if_pos finished, requested]
      rfl
    rw [published, forall_prop_of_true finished]
    constructor
    · intro right
      have request := right.request cmd (List.mem_singleton_self cmd)
      rw [body, Option.some.injEq, RequestGetApEntries.mk.injEq] at request
      exact ⟨(right.requests_iff.mp (List.cons_ne_nil _ _)).1,
        (ofInt_toNat_eq_iff _).mp request.2.2, (ofInt_toNat_eq_iff _).mp request.2.1⟩
    · rintro ⟨decodes, scanId, totalEntries⟩
      refine ⟨iff_of_true (List.cons_ne_nil _ _) ⟨decodes, finished⟩, ?_, ?_, ?_⟩
      · rw [List.forall_mem_singleton, body, (ofInt_toNat_eq_iff _).mpr scanId,
          (ofInt_toNat_eq_iff _).mpr totalEntries]
      · rw [List.forall_mem_singleton]
        exact counted
      · rw [List.forall_mem_singleton]
        exact fun _ _ => small
  · have silent : goproParseStartScaning nanopb encoder stack data = [] := by
      rw [goproParseStartScaning, if_neg finished]
    rw [silent]
    exact iff_of_true ⟨by simp [finished], by simp, by simp, by simp⟩
      fun success => absurd success finished

/-- The field that a record is for; records with other numbers are skipped. -/
def scanField : Record → Option ScanField
  | ⟨1, .varint value⟩ => some (.scanningState (int32 value))
  | ⟨2, .varint value⟩ => some (.scanId (int32 value))
  | ⟨3, .varint value⟩ => some (.totalEntries (int32 value))
  | ⟨4, .varint value⟩ => some (.totalConfiguredSsid (int32 value))
  | _ => none

/-- A library that reads the wire format as it is; the state and the count of configured
networks are required fields.
-/
def referenceScanNanopb : ScanNanopb := fun bytes =>
  let (records, complete) := readMessage bytes
  (records.filterMap scanField,
    complete && (lastInt32 1 records).isSome && (lastInt32 4 records).isSome)

/-- Scan 7, with three entries. -/
theorem goproParseStartScaning_requests_three
    : RequestsEntries referenceScanNanopb [0x08, 5, 0x10, 7, 0x18, 3, 0x20, 0]
        (goproParseStartScaning referenceScanNanopb referencePbEncoder .zero
          [0x08, 5, 0x10, 7, 0x18, 3, 0x20, 0]) :=
  (goproParseStartScaning_requests_iff referenceScanNanopb referencePbEncoder
    referencePbEncoder_follows .zero _).mpr
    fun _ => ⟨by decide, by unfold IsByte; decide, by unfold IsByte; decide⟩

/-- A message that ends behind its first field does not decode, but is followed by a request. -/
theorem goproParseStartScaning_requests_undecoded
    : ¬ ∀ (nanopb : ScanNanopb) (encoder : PbEncoder) (stack : StackBytes) (data : List UInt8),
      encoder.FollowsWireFormat
      → RequestsEntries nanopb data (goproParseStartScaning nanopb encoder stack data) := by
  intro every
  have right := every referenceScanNanopb referencePbEncoder .zero [0x08, 5]
    referencePbEncoder_follows
  have undecoded := right.requests_iff.mp (by decide)
  exact absurd undecoded.1 (by decide)

end GoproGateway
