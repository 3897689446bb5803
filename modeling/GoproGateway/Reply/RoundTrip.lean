import GoproGateway.Client.PbEncoder
import GoproGateway.Gateway.Forwarding
import GoproGateway.Reply.CanReply

/-! What `can_reply` encodes, the task of the gateway decodes again.

The address is left out when it is 0, and the callback always writes the data, even when there
are none. The limit is on the encoding as a whole, a few bytes more than the data.
-/

namespace GoproGateway

open WireFormat

/-- `pb_encode_bytes`. -/
def pbEncodeBytes (encoder : PbEncoder) (stream : OutStream) (number : Nat) (data : List UInt8)
    : Option OutStream := do
  let stream ← encoder.tagForField stream number
  encoder.string stream data

/-- `pb_encode` of a `GoproClient_bledata`, with its callback for the data. -/
def pbEncodeBledata (encoder : PbEncoder) (stream : OutStream) (bleAddr : Int)
    (data : List UInt8)
    : Option OutStream := do
  let stream ← encoder.singularInt32 stream 1 bleAddr
  pbEncodeBytes encoder stream 2 data

/-- What a call of `can_reply` leaves in its buffer, if the encoding succeeds. -/
def canReplyEncoded (encoder : PbEncoder) (bleAddr : Int) (data : List UInt8)
    : Option (List UInt8) :=
  (pbEncodeBledata encoder (.ofBuffer workBuffSize) bleAddr data).map OutStream.written

/-- The inputs of a call of `can_reply` that gets the semaphore and a buffer. Those that do not
fit what the call is about to do have no effect.
-/
def canReplyCall (encoder : PbEncoder) (thread : Thread) (buffer : HeapBuffer) (bleAddr : Int)
    (data : List UInt8)
    : List ReplyInput :=
  [
    .canReply thread data.length,
    .semTake thread,
    .malloc thread (some buffer),
    .encode thread ((canReplyEncoded encoder bleAddr data).map List.length),
    .publish thread true,
    .free thread,
    .semGive thread
  ]

/-- Decoding by the task of the gateway succeeds, whatever its buffer held, and gives the address
and the data.
-/
def DecodesTo (nanopb : Nanopb) (bytes : List UInt8) (bleAddr : Int) (data : List UInt8) : Prop :=
  ∀ buff : BleDataBuff,
    let (fields, complete) := nanopb bytes
    let (decode, ok) := pbDecode (.init buff) fields
    complete = true ∧ ok = true ∧ decode.bleAddr = bleAddr
      ∧ ByteBuffer.read decode.buff.bytes 0 decode.size = data

/-- The records of a `GoproClient_bledata`. -/
def bledataRecords (bleAddr : Int) (data : List UInt8) : List Record :=
  (if bleAddr = 0 then [] else [int32Record 1 bleAddr]) ++ [⟨2, .lengthDelimited data⟩]

/-- The full encoding. -/
def bledataEncoding (bleAddr : Int) (data : List UInt8) : List UInt8 :=
  encodeMessage (bledataRecords bleAddr data)

-----------------------------------------------------------------------------------------
-- Encoding
-----------------------------------------------------------------------------------------

theorem pbEncodeBytes_eq {encoder : PbEncoder} (follows : encoder.FollowsWireFormat)
    (stream : OutStream) {data : List UInt8} (short : data.length ≤ workBuffSize)
    : pbEncodeBytes encoder stream 2 data
      = stream.write (Record.encode ⟨2, .lengthDelimited data⟩) := by
  unfold workBuffSize at short
  rw [pbEncodeBytes, follows.tagForField _ 2 (by omega), Record.encode, OutStream.write_append]
  exact congrArg (Option.bind _) (funext fun stream => follows.string stream data (by omega))

theorem pbEncodeBledata_eq {encoder : PbEncoder} (follows : encoder.FollowsWireFormat)
    (stream : OutStream) {bleAddr : Int} (inRange : IsInt32 bleAddr) {data : List UInt8}
    (short : data.length ≤ workBuffSize)
    : pbEncodeBledata encoder stream bleAddr data
      = stream.write (bledataEncoding bleAddr data) := by
  rw [pbEncodeBledata, follows.singularInt32 _ 1 _ (by omega) inRange]
  by_cases default : bleAddr = 0
  · rw [if_pos default, bledataEncoding, bledataRecords, if_pos default]
    simpa [encodeMessage] using pbEncodeBytes_eq follows stream short
  · have body : bledataEncoding bleAddr data
        = (int32Record 1 bleAddr).encode ++ Record.encode ⟨2, .lengthDelimited data⟩ := by
      simp [bledataEncoding, bledataRecords, encodeMessage, default]
    rw [if_neg default, body, OutStream.write_append]
    exact congrArg (Option.bind _)
      (funext fun stream => pbEncodeBytes_eq follows stream short)

/-- The buffer gets the full encoding, if it has room for all of it. -/
theorem canReplyEncoded_eq {encoder : PbEncoder} (follows : encoder.FollowsWireFormat)
    {bleAddr : Int} (inRange : IsInt32 bleAddr) {data : List UInt8}
    (short : data.length ≤ workBuffSize)
    : canReplyEncoded encoder bleAddr data
      = if (bledataEncoding bleAddr data).length ≤ workBuffSize then
          some (bledataEncoding bleAddr data)
        else none := by
  rw [canReplyEncoded, pbEncodeBledata_eq follows _ inRange short, OutStream.write_ofBuffer]
  split <;> rfl

-----------------------------------------------------------------------------------------
-- Decoding
-----------------------------------------------------------------------------------------

theorem int32_int64Word {value : Int} (inRange : IsInt32 value)
    : int32 (int64Word value) = value := by
  unfold IsInt32 at inRange
  unfold int32 int64Word
  rw [Int.bmod_def]
  omega

theorem bledataRecords_fit (bleAddr : Int) {data : List UInt8}
    (short : data.length ≤ workBuffSize)
    : ∀ record ∈ bledataRecords bleAddr data, record.Fits := by
  unfold workBuffSize at short
  have dataFits : Record.Fits ⟨2, .lengthDelimited data⟩ :=
    ⟨Nat.two_pos, show 2 < 2 ^ 29 by decide, show data.length < 2 ^ 32 by omega⟩
  have addrFits := int32Record_fits Nat.one_pos (show 1 < 2 ^ 29 by decide) bleAddr
  intro record member
  rcases List.mem_append.mp member with addr | isData
  · split at addr
    · cases addr
    · rw [List.mem_singleton.mp addr]
      exact addrFits
  · rw [List.mem_singleton.mp isData]
    exact dataFits

theorem bledataRecords_typed (bleAddr : Int) (data : List UInt8)
    : IsBledata (bledataRecords bleAddr data) := by
  intro record member _
  rcases List.mem_append.mp member with addr | isData
  · split at addr
    · cases addr
    · rw [List.mem_singleton.mp addr]
      rfl
  · rw [List.mem_singleton.mp isData]
    rfl

/-- The fields that the decoder gets to see. -/
theorem bledataRecords_fields {bleAddr : Int} (inRange : IsInt32 bleAddr) (data : List UInt8)
    : dataOccurrences ((bledataRecords bleAddr data).filterMap bledataField) = [data]
      ∧ lastBleAddr ((bledataRecords bleAddr data).filterMap bledataField) = bleAddr := by
  unfold bledataRecords
  by_cases default : bleAddr = 0
  · rw [if_pos default, default]
    exact ⟨rfl, rfl⟩
  · have addr : bledataField (int32Record 1 bleAddr) = some (.bleAddr bleAddr) := by
      rw [int32Record, bledataField, int32_int64Word inRange]
    rw [if_neg default, List.singleton_append, List.filterMap_cons_some addr]
    exact ⟨rfl, rfl⟩

theorem bledataEncoding_decodes {nanopb : Nanopb} (follows : FollowsWireFormat nanopb)
    {bleAddr : Int} (inRange : IsInt32 bleAddr) {data : List UInt8}
    (short : data.length ≤ workBuffSize)
    : DecodesTo nanopb (bledataEncoding bleAddr data) bleAddr data := by
  intro buff
  have fields := follows _ _ (encodeMessage_isMessage (bledataRecords_fit bleAddr short))
    (bledataRecords_typed bleAddr data)
  obtain ⟨occurrences, addr⟩ := bledataRecords_fields inRange data
  have ok : (pbDecode (.init buff)
      ((bledataRecords bleAddr data).filterMap bledataField)).2 = true := by
    rw [pbDecode_ok_iff, occurrences, List.forall_mem_singleton]
    exact ⟨short, List.pairwise_singleton _ data⟩
  obtain ⟨content, isAddr⟩ := pbDecode_init_result buff ok
  simp only [bledataEncoding, fields]
  refine ⟨trivial, ok, isAddr.trans addr, ?_⟩
  rw [content, occurrences]
  rfl

-----------------------------------------------------------------------------------------
-- A call
-----------------------------------------------------------------------------------------

section Call

variable (encoder : PbEncoder) {s : ReplyState} {thread : Thread} {buffer : HeapBuffer}
  (idle : s.calls thread = .returned) (available : 0 < s.canReplySem)
  (allocates : buffer ∉ s.live) (bleAddr : Int) {data : List UInt8}
  (short : data.length ≤ workBuffSize)

include idle available allocates short

/-- The call up to its encoding. -/
theorem canReplyCall_allocated
    : replyMachine.run s
        [.canReply thread data.length, .semTake thread, .malloc thread (some buffer)]
      = (ReplyState.setCall
          { s with canReplySem := s.canReplySem - 1, live := buffer :: s.live } thread
          (.allocated buffer), []) := by
  simp [replyMachine, ReplyState.step, ReplyState.semTake, ReplyState.malloc, idle, available,
    allocates, Nat.not_lt.mpr short, ReplyState.setCall]

/-- An encoding that succeeds is published. -/
theorem canReplyCall_publishes {bytes : List UInt8}
    (encoded : canReplyEncoded encoder bleAddr data = some bytes)
    : replyMachine.run s (canReplyCall encoder thread buffer bleAddr data)
      = (ReplyState.setCall
          {
            s with
            canReplySem := s.canReplySem - 1
            live := buffer :: s.live
            queue := s.queue ++ [⟨buffer, bytes.length⟩]
          } thread .returned, [.returned thread 0]) := by
  have start := canReplyCall_allocated idle available allocates short
  have split : canReplyCall encoder thread buffer bleAddr data
      = [.canReply thread data.length, .semTake thread, .malloc thread (some buffer)]
        ++ [.encode thread (some bytes.length), .publish thread true, .free thread,
          .semGive thread] := by
    rw [canReplyCall, encoded]
    rfl
  rw [split, InputMachine.run_append, start]
  simp [replyMachine, ReplyState.step, ReplyState.encode, ReplyState.publish,
    ReplyState.setCall]

/-- After an encoding that fails the buffer is freed and the semaphore is given. -/
theorem canReplyCall_refuses (failed : canReplyEncoded encoder bleAddr data = none)
    : replyMachine.run s (canReplyCall encoder thread buffer bleAddr data)
      = (ReplyState.setCall { s with canReplySem := 1 } thread .returned,
          [.freed buffer, .returned thread (-einval)]) := by
  have start := canReplyCall_allocated idle available allocates short
  have split : canReplyCall encoder thread buffer bleAddr data
      = [.canReply thread data.length, .semTake thread, .malloc thread (some buffer)]
        ++ [.encode thread none, .publish thread true, .free thread, .semGive thread] := by
    rw [canReplyCall, failed]
    rfl
  rw [split, InputMachine.run_append, start]
  simp [replyMachine, ReplyState.step, ReplyState.encode, ReplyState.semGive,
    ReplyState.setCall]

end Call

/-- A call of `can_reply` that gets the semaphore and a buffer publishes at most as many bytes as
the buffer has, from which the task of the gateway decodes the address and the data; or, iff the
full encoding is longer, it publishes nothing, frees its buffer, and gives the semaphore.
-/
theorem canReply_roundTrip (encoder : PbEncoder) (writes : encoder.FollowsWireFormat)
    (nanopb : Nanopb) (reads : FollowsWireFormat nanopb) (s : ReplyState) (thread : Thread)
    (buffer : HeapBuffer) (idle : s.calls thread = .returned) (available : 0 < s.canReplySem)
    (allocates : buffer ∉ s.live) (bleAddr : Int) (inRange : IsInt32 bleAddr)
    (data : List UInt8) (short : data.length ≤ workBuffSize)
    : ((bledataEncoding bleAddr data).length ≤ workBuffSize
        → ∃ bytes, canReplyEncoded encoder bleAddr data = some bytes
          ∧ bytes.length ≤ workBuffSize
          ∧ (replyMachine.run s (canReplyCall encoder thread buffer bleAddr data)).1.queue
            = s.queue ++ [⟨buffer, bytes.length⟩]
          ∧ DecodesTo nanopb bytes bleAddr data)
      ∧ (workBuffSize < (bledataEncoding bleAddr data).length
        → replyMachine.run s (canReplyCall encoder thread buffer bleAddr data)
          = (ReplyState.setCall { s with canReplySem := 1 } thread .returned,
              [.freed buffer, .returned thread (-einval)])) := by
  have encoded := canReplyEncoded_eq writes inRange short
  constructor
  · intro fits
    rw [if_pos fits] at encoded
    have published := canReplyCall_publishes encoder idle available allocates bleAddr short
      encoded
    refine ⟨_, encoded, fits, ?_, bledataEncoding_decodes reads inRange short⟩
    rw [published]
    rfl
  · intro long
    rw [if_neg (Nat.not_le.mpr long)] at encoded
    exact canReplyCall_refuses encoder idle available allocates bleAddr short encoded

/-- A negative address without data. -/
theorem canReply_roundTrip_negative
    : ∃ bytes, canReplyEncoded referencePbEncoder (-1) [] = some bytes
        ∧ bytes.length ≤ workBuffSize
        ∧ (replyMachine.run .boot (canReplyCall referencePbEncoder 0 5 (-1) [])).1.queue
          = [⟨5, bytes.length⟩]
        ∧ DecodesTo referenceNanopb bytes (-1) [] :=
  (canReply_roundTrip referencePbEncoder referencePbEncoder_follows referenceNanopb
    referenceNanopb_follows .boot 0 5 rfl (by decide) (by decide) (-1) (by unfold IsInt32; decide)
    [] (by decide)).1 (by decide)

end GoproGateway
