import GoproGateway.Send.LengthField

/-! Who puts the length header in front of a client's buffer.

`gopro_send_buf` adds a header to the buffers that take several frames. A buffer of at most 20
bytes is published as it is, so its first byte is taken for the header by the reassembler.
-/

namespace GoproGateway

open Reassembly

/-- A buffer is framed: the sender puts its length in front, and reassembly of what is published
gives it back, in one packet of its handle, from any packet state.
-/
structure FramesBuffer (stack : StackBytes) (data : List UInt8) (type : UInt8) : Prop where
  headed : ∃ start conts header first,
    goproSendBuf stack data data.length type = start :: conts
    ∧ StartHeader data.length header
    ∧ start.payload = header ++ first
    ∧ first <+: data
  reassembled : ∀ (packet : GoproPacket) (calls : List BuildCall),
    calls.map BuildCall.cmd = goproSendBuf stack data data.length type
    → (∀ call ∈ calls, call.kMalloc ≠ none)
    → ∃ parsed,
      parsedPackets (packetBuilder.run packet calls).2 = [parsed]
      ∧ parsed.data.map Block.bytes = some data
      ∧ parsed.packetType = type.toNat

-----------------------------------------------------------------------------------------
-- A single frame
-----------------------------------------------------------------------------------------

/-- Except in frames of no kind, the header takes one to three bytes. -/
theorem headerLen_pos {cmd : GoproCmd} (valid : cmd.kind ≠ .packetInvalid)
    : 0 < cmd.kind.headerLen ∧ cmd.kind.headerLen ≤ 3 := by
  cases kind : cmd.kind with
  | packetInvalid => exact absurd kind valid
  | packet5bit | packet13bit | packet16bit | packetCont => decide

/-- A frame of no kind declares the largest number of bytes. -/
theorem declaredLen_invalid {cmd : GoproCmd} (invalid : cmd.kind = .packetInvalid)
    : cmd.declaredLen = Word32.size - 1 := by
  simp only [GoproCmd.declaredLen, goproPacketGetLen, goproPacketGetType_value, invalid,
    Traced.bind_value, Traced.pure_value]
  decide

/-- A start frame never brings a whole message of the frame's own size: the header takes some
of the bytes.
-/
theorem whole_ne_len {cmd : GoproCmd} (small : cmd.len ≤ goproCmdDataLen)
    (full : Word32.sub cmd.len cmd.kind.headerLen = cmd.declaredLen)
    : cmd.declaredLen ≠ cmd.len := by
  unfold goproCmdDataLen at small
  by_cases invalid : cmd.kind = .packetInvalid
  · rw [declaredLen_invalid invalid]
    unfold Word32.size
    omega
  · obtain ⟨positive, short⟩ := headerLen_pos invalid
    rw [← full]
    unfold Word32.sub Word32.ofInt Word32.size
    omega

/-- Without a message in progress, a frame is not parsed to a packet of its own size. -/
theorem packetBuilder_idle_parses {packet : GoproPacket} (idle : packet.data = none)
    {call : BuildCall} (small : call.cmd.len ≤ goproCmdDataLen)
    : ∀ parsed ∈ parsedPackets (packetBuilder.step packet call).2,
        parsed.data.map (·.bytes.length) ≠ some call.cmd.len := by
  obtain ⟨cmd, kMalloc⟩ := call
  simp only [packetBuilder] at *
  by_cases cont : cmd.kind = .packetCont
  · rw [goproPacketBuild_cont_idle kMalloc small cont idle]
    simp [parsedPackets, contLog]
  · have outcome := goproPacketBuild_start_outcome packet kMalloc small cont
    generalize goproPacketBuild kMalloc packet cmd = traced at outcome ⊢
    cases outcome with
    | zero =>
        rw [startLog_parses_none]
        simp
    | nomem =>
        rw [parsedPackets_append, startLog_parses_none]
        simp [parsedPackets]
    | store =>
        rw [parsedPackets_append, startLog_parses_none]
        simp [parsedPackets, openLog]
    | @finish addr positive full =>
        have size : (cmd.openedBlock addr).bytes.length = cmd.declaredLen := by
          simp [GoproCmd.openedBlock]
        have other := whole_ne_len small full
        rw [parsedPackets_append, parsedPackets_append, startLog_parses_none]
        simp [parsedPackets, openLog, GoproCmd.openedWith, size, other]

section Buffer

variable (stack : StackBytes) {data : List UInt8} (type : UInt8)

/-- A short buffer is the payload of its only frame. -/
theorem goproSendBuf_short (short : data.length ≤ 20)
    : ∃ frame,
        goproSendBuf stack data data.length type = [frame]
        ∧ frame.len = data.length
        ∧ frame.payload = data := by
  refine ⟨(GoproCmd.onStack stack type).fill data data.length, ?_, rfl,
    GoproCmd.fill_payload _ rfl short⟩
  rw [goproSendBuf, if_pos short, ByteBuffer.read_zero_length]

/-- After start-up, what is parsed of a short buffer is not the buffer. -/
theorem goproSendBuf_short_misframed (short : data.length ≤ 20)
    : ¬ FramesBuffer stack data type := by
  intro frames
  obtain ⟨frame, sent, len, -⟩ := goproSendBuf_short stack type short
  obtain ⟨parsed, only, content, -⟩ :=
    frames.reassembled .zero [⟨frame, some 0⟩] sent.symm (by simp)
  have small : frame.len ≤ goproCmdDataLen := by
    rw [len]
    exact short
  have member : parsed ∈ parsedPackets (packetBuilder.step .zero ⟨frame, some 0⟩).2 := by
    have run : (packetBuilder.run .zero [⟨frame, some 0⟩]).2
        = (packetBuilder.step .zero ⟨frame, some 0⟩).2 := List.append_nil _
    rw [← run, only]
    exact List.mem_singleton_self parsed
  refine packetBuilder_idle_parses rfl small parsed member ?_
  cases block : parsed.data with
  | none => simp [block] at content
  | some block =>
      simp only [block, Option.map_some, Option.some.injEq] at content ⊢
      rw [content, len]

/-- A longer buffer is one message, behind a header that the sender has made. -/
theorem goproSendBuf_long_framed (handle_lt : type.toNat < gpCntrlHandleEnd)
    (long : 20 < data.length) (guard : data.length < 8191)
    : FramesBuffer stack data type := by
  obtain ⟨start, rest, sent, message, nonempty, whole⟩ :=
    goproSendBuf_long stack type (Nat.le_refl data.length) long guard
  rw [List.take_length] at whole
  constructor
  · rw [sent] at message
    cases message with
    | frames opens continues =>
        obtain ⟨header, wellFormed, framed⟩ := opens.framed
        exact ⟨start, _, header, data.take 18, sent, wellFormed, framed,
          List.take_prefix 18 data⟩
  · intro packet calls published allocate
    let framing : Framing Nat UInt8 := {
      key := type.toNat
      first := data.take 18
      rest
      rest_nonempty := nonempty
      nonempty := by
        rw [whole]
        exact List.ne_nil_of_length_pos (by omega)
    }
    have body : framing.body = data := whole
    have isMessage : IsMessage framing.key framing.body.length framing.first framing.rest
        (calls.map BuildCall.cmd) := by
      rw [published, body]
      exact message
    obtain ⟨⟨parsed, only, carries⟩, -⟩ := isMessage.parses handle_lt allocate packet
    exact ⟨parsed, only, by rw [carries.data, body], carries.packetType⟩

end Buffer

/-- Of the buffers that the two branches take, exactly those of more than 20 bytes are framed.
Witness: the short branch publishes the buffer without a header, and no frame is parsed to as
many bytes as it has.
-/
theorem goproSendBuf_frames_iff (stack : StackBytes) (data : List UInt8)
    (guard : data.length < 8191) (type : UInt8) (handle_lt : type.toNat < gpCntrlHandleEnd)
    : FramesBuffer stack data type ↔ 20 < data.length := by
  constructor
  · intro frames
    by_contra short
    exact goproSendBuf_short_misframed stack type (Nat.le_of_not_lt short) frames
  · intro long
    exact goproSendBuf_long_framed stack type handle_lt long guard

theorem goproSendBuf_frames_thirty : FramesBuffer .zero (List.replicate 30 0x61) 2 :=
  (goproSendBuf_frames_iff .zero (List.replicate 30 0x61) (by decide) 2 (by decide)).mpr
    (by decide)

/-- A request of two bytes: the first one is taken for a header that declares 19. -/
theorem goproSendBuf_two_bytes_misframed
    : ¬ ∀ (stack : StackBytes) (data : List UInt8) (type : UInt8),
      type.toNat < gpCntrlHandleEnd → 1 ≤ data.length → data.length < 8191
      → FramesBuffer stack data type := fun every =>
  goproSendBuf_short_misframed .zero 2 (by decide)
    (every .zero [0x13, 0x01] 2 (by decide) (by decide) (by decide))

end GoproGateway
