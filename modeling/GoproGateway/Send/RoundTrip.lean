import GoproGateway.Packet.Concatenation
import GoproGateway.Send.Fragmenter

/-! What the fragmenter sends, the reassembler puts together again.

The frames of `gopro_send_big_data` are the frames of one message: feature, action, and the
payload, behind a header that declares them. Reassembly of such frames does the rest.
-/

namespace GoproGateway

open Reassembly

theorem sent5bit_header {total : Nat} (fits : total < 32)
    : StartHeader total [UInt8.ofNat (total &&& 0x1F)] := by
  have masked : total &&& 0x1F = total := by
    rw [Nat.and_two_pow_sub_one_eq_mod total 5]
    omega
  rw [masked]
  exact .bit5 fits

theorem highByte_tagged : ∀ high < 32, high ||| (1 <<< 5) = 0x20 + high := by
  decide

/-- The two bytes of a 13-bit header have room for the low 13 bits of a length. -/
theorem sent13bit_header (total : Nat)
    : StartHeader (total % 8192)
        [UInt8.ofNat (((total >>> 8) &&& 0x1F) ||| (1 <<< 5)),
          UInt8.ofNat (total &&& 0xFF)] := by
  have masked : (total / 256) &&& 0x1F = total % 8192 / 256 := by
    rw [Nat.and_two_pow_sub_one_eq_mod (total / 256) 5]
    omega
  have high : ((total >>> 8) &&& 0x1F) ||| (1 <<< 5) = 0x20 + total % 8192 / 256 := by
    rw [Nat.shiftRight_eq_div_pow, masked]
    exact highByte_tagged _ (by omega)
  have low : total &&& 0xFF = total % 8192 % 256 := by
    rw [Nat.and_two_pow_sub_one_eq_mod total 8]
    omega
  rw [high, low]
  exact .bit13 (Nat.mod_lt _ (by decide))

/-- A start frame whose header has the 13-bit form, with `front` and the first `taken` bytes
of the data, and the continuation frames behind it, with the others.
-/
theorem sent13bit_message (cmd : GoproCmd) (front : List UInt8) {data : List UInt8}
    (taken : Nat) {len : Nat} (total : Nat) (filled : front.length + taken = 18)
    (more : taken ≤ len) (within : len ≤ data.length)
    : ∃ start rest,
        start = cmd.fill
          (UInt8.ofNat (((total >>> 8) &&& 0x1F) ||| (1 <<< 5))
            :: UInt8.ofNat (total &&& 0xFF) :: (front ++ ByteBuffer.read data 0 taken)) 20
        ∧ IsMessage cmd.cmdType (total % 8192) (front ++ data.take taken) rest
          (start :: sendConts start data taken (len - taken) 0)
        ∧ (∀ chunk ∈ rest, chunk ≠ [])
        ∧ (front ++ data.take taken) ++ rest.flatten = front ++ data.take len := by
  have size : (UInt8.ofNat (((total >>> 8) &&& 0x1F) ||| (1 <<< 5))
      :: UInt8.ofNat (total &&& 0xFF) :: (front ++ ByteBuffer.read data 0 taken)).length
      = 20 := by
    have room : 0 + taken ≤ data.length := by omega
    simp only [List.length_cons, List.length_append, ByteBuffer.read_length room]
    omega
  let start := cmd.fill
    (UInt8.ofNat (((total >>> 8) &&& 0x1F) ||| (1 <<< 5)) :: UInt8.ofNat (total &&& 0xFF)
      :: (front ++ ByteBuffer.read data 0 taken)) 20
  have opens : start.IsStart cmd.cmdType (total % 8192) (front ++ data.take taken) :=
    ⟨rfl, Nat.le_refl 20, _, sent13bit_header total,
      GoproCmd.fill_payload cmd size (Nat.le_refl 20)⟩
  obtain ⟨rest, continues, nonempty, covered⟩ :=
    sendConts_frames start data taken (len - taken) 0 (by omega)
  refine ⟨start, rest, rfl, .frames opens continues, nonempty, ?_⟩
  have whole : data.take taken ++ ByteBuffer.read data taken (len - taken) = data.take len := by
    have twoReads : ByteBuffer.read data 0 taken
        ++ ByteBuffer.read data (0 + taken) (len - taken) = ByteBuffer.read data 0 len :=
      ByteBuffer.read_append_read more
    simpa [ByteBuffer.read] using twoReads
  rw [covered, List.append_assoc, whole]

section BigData

variable (stack : StackBytes) {data : List UInt8} {len : Nat} (type feature action : UInt8)
  (within : len ≤ data.length)

include within

/-- A payload of at most 17 bytes goes out as a single frame. -/
theorem goproSendBigData_short (short : len ≤ 17)
    : IsMessage type.toNat (len + 2) (feature :: action :: data.take len) []
        (goproSendBigData stack data len type feature action) := by
  have sent : goproSendBigData stack data len type feature action
      = [(GoproCmd.onStack stack type).fill
          (UInt8.ofNat ((len + 2) &&& 0x1F) :: feature :: action
            :: ByteBuffer.read data 0 len) (len + 3)] := by
    rw [goproSendBigData, if_pos short]
  have size : (UInt8.ofNat ((len + 2) &&& 0x1F) :: feature :: action
      :: ByteBuffer.read data 0 len).length = len + 3 := by
    simp only [List.length_cons, ByteBuffer.read_length (Nat.zero_add len ▸ within)]
  have small : len + 3 ≤ goproCmdDataLen := by
    unfold goproCmdDataLen
    omega
  rw [sent]
  refine .frames ⟨rfl, small, _, sent5bit_header (by omega), ?_⟩ .nil
  rw [GoproCmd.fill_payload _ size small]
  rfl

/-- A longer payload goes out as a start frame with its first 16 bytes and continuation frames
with the others; of the length the header keeps 13 bits.
-/
theorem goproSendBigData_long (long : 17 < len) (guard : len < 8191)
    : ∃ start rest,
        goproSendBigData stack data len type feature action
          = start :: sendConts start data 16 (len - 16) 0
        ∧ IsMessage type.toNat ((len + 2) % 8192) (feature :: action :: data.take 16) rest
          (goproSendBigData stack data len type feature action)
        ∧ (∀ chunk ∈ rest, chunk ≠ [])
        ∧ (feature :: action :: data.take 16) ++ rest.flatten
          = feature :: action :: data.take len := by
  obtain ⟨start, rest, isStart, message, nonempty, whole⟩ :=
    sent13bit_message (GoproCmd.onStack stack type) [feature, action] 16 (len + 2) rfl
      (by omega) within
  have sent : goproSendBigData stack data len type feature action
      = start :: sendConts start data 16 (len - 16) 0 := by
    rw [goproSendBigData, if_neg (by omega), if_pos guard, isStart]
    rfl
  refine ⟨start, rest, sent, ?_, nonempty, whole⟩
  rw [sent]
  exact message

/-- The frames of any payload the callers' buffer can hold make one message, whose first
frame brings feature and action.
-/
theorem goproSendBigData_message (fits : len ≤ workBuffSize)
    : ∃ first rest,
        IsMessage type.toNat (len + 2) first rest
          (goproSendBigData stack data len type feature action)
        ∧ (∀ chunk ∈ rest, chunk ≠ [])
        ∧ first ++ rest.flatten = feature :: action :: data.take len
        ∧ 2 ≤ first.length := by
  unfold workBuffSize at fits
  rcases Nat.lt_or_ge 17 len with long | short
  · obtain ⟨_, rest, _, message, nonempty, whole⟩ :=
      goproSendBigData_long stack type feature action within long (by omega)
    rw [Nat.mod_eq_of_lt (by omega)] at message
    exact ⟨_, rest, message, nonempty, whole, by simp⟩
  · exact ⟨_, [], goproSendBigData_short stack type feature action within short, by simp,
      by simp, by simp⟩

/-- Behind the first frame come continuation frames, numbered from 0 modulo 16. -/
theorem goproSendBigData_numbers (fits : len ≤ workBuffSize) (index : Nat) (frame : GoproCmd)
    (sent : (goproSendBigData stack data len type feature action).tail[index]? = some frame)
    : (frame.byte 0 &&& 0x0F).toNat = index % 16 := by
  unfold workBuffSize at fits
  rcases Nat.lt_or_ge 17 len with long | short
  · obtain ⟨start, _, frames, _⟩ :=
      goproSendBigData_long stack type feature action within long (by omega)
    rw [frames, List.tail_cons] at sent
    have number := sendConts_number start data 16 (len - 16) 0 index frame sent
    simpa using number
  · rw [goproSendBigData, if_pos short] at sent
    simp at sent

end BigData

/-- Reassembling the published frames of a payload gives back its feature, its action, and
its bytes in a single parsed packet, from any packet state; the frames fit the command, and
the continuation frames are numbered modulo 16.
-/
theorem goproSendBigData_roundTrip (stack : StackBytes) (data : List UInt8) (len : Nat)
    (within : len ≤ data.length) (fits : len ≤ workBuffSize) (type feature action : UInt8)
    (handle_lt : type.toNat < gpCntrlHandleEnd) (packet : GoproPacket)
    (calls : List BuildCall)
    (published : calls.map BuildCall.cmd
      = goproSendBigData stack data len type feature action)
    (allocate : ∀ call ∈ calls, call.kMalloc ≠ none)
    : (∀ frame ∈ goproSendBigData stack data len type feature action,
        1 ≤ frame.len ∧ frame.len ≤ goproCmdDataLen ∧ frame.cmdType = type.toNat)
      ∧ (∀ index frame,
        (goproSendBigData stack data len type feature action).tail[index]? = some frame
        → frame.kind = .packetCont ∧ (frame.byte 0 &&& 0x0F).toNat = index % 16)
      ∧ ∃ parsed,
        parsedPackets (packetBuilder.run packet calls).2 = [parsed]
        ∧ parsed.data.map Block.bytes = some (feature :: action :: data.take len)
        ∧ parsed.feature = feature
        ∧ parsed.action = action
        ∧ parsed.packetType = type.toNat
        ∧ parsed.packetLen = len := by
  obtain ⟨first, rest, message, nonempty, whole, room⟩ :=
    goproSendBigData_message stack type feature action within fits
  refine ⟨message.bounded, ?_, ?_⟩
  · intro index frame sent
    exact ⟨message.tail_conts frame (List.mem_of_getElem? sent),
      goproSendBigData_numbers stack type feature action within fits index frame sent⟩
  · let framing : Framing Nat UInt8 := {
      key := type.toNat
      first
      rest
      rest_nonempty := nonempty
      nonempty := by simp [whole]
    }
    have body : framing.body = feature :: action :: data.take len := whole
    have size : framing.body.length = len + 2 := by
      rw [body]
      simp [Nat.min_eq_left within]
    have isMessage : IsMessage framing.key framing.body.length framing.first framing.rest
        (calls.map BuildCall.cmd) := by
      rw [published, size]
      exact message
    obtain ⟨⟨parsed, only, carries⟩, -⟩ := isMessage.parses handle_lt allocate packet
    obtain ⟨isFeature, isAction⟩ := carries.fields room
    rw [body] at isFeature isAction
    refine ⟨parsed, only, by rw [carries.data, body], ?_, ?_, carries.packetType, ?_⟩
    · exact (Option.some.inj isFeature).symm
    · exact (Option.some.inj isAction).symm
    · unfold workBuffSize at fits
      rw [carries.packetLen, size,
        Word32.sub_of_le (by omega) (by unfold Word32.size; omega), Nat.add_sub_cancel]

/-- A payload of twenty bytes takes two frames. -/
theorem goproSendBigData_roundTrip_two_frames
    : ∃ parsed,
        parsedPackets (packetBuilder.run GoproPacket.zero
          ((goproSendBigData .zero (List.replicate 20 0x61) 20 3 0x02 0x04).map
            (⟨·, some 0⟩))).2 = [parsed]
        ∧ parsed.data.map Block.bytes = some (0x02 :: 0x04 :: List.replicate 20 0x61)
        ∧ parsed.packetLen = 20 := by
  obtain ⟨-, -, parsed, only, data, -, -, -, packetLen⟩ :=
    goproSendBigData_roundTrip .zero (List.replicate 20 0x61) 20 (by decide) (by decide)
      3 0x02 0x04 (by decide) GoproPacket.zero
      ((goproSendBigData .zero (List.replicate 20 0x61) 20 3 0x02 0x04).map (⟨·, some 0⟩))
      (by simp [Function.comp_def]) (by simp)
  exact ⟨parsed, only, data, packetLen⟩

end GoproGateway
