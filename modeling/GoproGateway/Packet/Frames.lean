import GoproGateway.Packet.BuildSteps

/-! The wire format of notification frames, and what the reassembler reads from one.

A start frame declares its message's length in one of three header formats. A continuation
frame has bit 7 of its first byte set, and nothing in it refers to the message it continues.
-/

namespace GoproGateway

/-- The header bytes that declare a message of a given length. The unused low bits of the
16-bit format are free.
-/
inductive StartHeader : Nat → List UInt8 → Prop
  | bit5 {total : Nat} (fits : total < 32)
      : StartHeader total [UInt8.ofNat total]
  | bit13 {total : Nat} (fits : total < 8192)
      : StartHeader total [UInt8.ofNat (0x20 + total / 256), UInt8.ofNat (total % 256)]
  | bit16 {total : Nat} (unused : Nat) (low : unused < 32) (fits : total < 65536)
      : StartHeader total
          [UInt8.ofNat (0x40 + unused), UInt8.ofNat (total / 256), UInt8.ofNat (total % 256)]

/-- A frame that declares `total` bytes and brings `chunk` of them. -/
structure GoproCmd.IsStart (cmd : GoproCmd) (handle total : Nat) (chunk : List UInt8)
    : Prop where
  cmdType : cmd.cmdType = handle
  small : cmd.len ≤ goproCmdDataLen
  framed : ∃ header, StartHeader total header ∧ cmd.payload = header ++ chunk

/-- A frame that brings `chunk` for the message in progress. -/
structure GoproCmd.IsCont (cmd : GoproCmd) (handle : Nat) (chunk : List UInt8)
    : Prop where
  cmdType : cmd.cmdType = handle
  small : cmd.len ≤ goproCmdDataLen
  framed : ∃ first : UInt8, first &&& 0x80 ≠ 0 ∧ cmd.payload = first :: chunk

/-- The frames of one message: `first` behind the start header, `rest` behind the
continuation headers.
-/
inductive IsMessage (handle total : Nat) (first : List UInt8) (rest : List (List UInt8))
    : List GoproCmd → Prop
  | frames {start : GoproCmd} {conts : List GoproCmd}
      (opens : start.IsStart handle total first)
      (continues : List.Forall₂ (fun cmd chunk => cmd.IsCont handle chunk) conts rest)
      : IsMessage handle total first rest (start :: conts)

/-- A frame holding the given bytes, with zeros behind them. -/
def GoproCmd.ofBytes (cmdType : Nat) (bytes : List UInt8) : GoproCmd where
  len := min bytes.length goproCmdDataLen
  cmdType
  data := (bytes ++ List.replicate goproCmdDataLen 0).take goproCmdDataLen
  data_length := by simp [goproCmdDataLen]

theorem firstByte_5bit : ∀ total < 32,
    UInt8.ofNat total &&& 0x80 = 0
    ∧ (UInt8.ofNat total &&& 0x60) >>> 5 = 0
    ∧ (UInt8.ofNat total &&& 0x1F).toNat = total := by
  decide

theorem firstByte_13bit : ∀ high < 32,
    UInt8.ofNat (0x20 + high) &&& 0x80 = 0
    ∧ (UInt8.ofNat (0x20 + high) &&& 0x60) >>> 5 = 1
    ∧ (UInt8.ofNat (0x20 + high) &&& 0x1F).toNat = high := by
  decide

theorem firstByte_16bit : ∀ unused < 32,
    UInt8.ofNat (0x40 + unused) &&& 0x80 = 0
    ∧ (UInt8.ofNat (0x40 + unused) &&& 0x60) >>> 5 = 2 := by
  decide

/-- The two length bytes give back the length they were made from. -/
theorem lengthBytes (total : Nat) : (total / 256) <<< 8 ||| total % 256 = total := by
  rw [← Nat.shiftLeft_add_eq_or_of_lt (Nat.mod_lt total (by decide)), Nat.shiftLeft_eq]
  omega

namespace GoproCmd

variable {cmd : GoproCmd}

theorem payload_length (small : cmd.len ≤ goproCmdDataLen)
    : cmd.payload.length = cmd.len := by
  rw [payload, List.length_take, cmd.data_length, Nat.min_eq_left small]

/-- Bytes that count are read from the payload. -/
theorem byte_of_payload {index : Nat} {value : UInt8}
    (at_index : cmd.payload[index]? = some value)
    : cmd.byte index = value := by
  have inside : index < cmd.len := by
    have bound := (List.getElem?_eq_some_iff.mp at_index).1
    rw [payload, List.length_take] at bound
    omega
  rw [payload, List.getElem?_take_of_lt inside] at at_index
  rw [byte, List.getD_eq_getElem?_getD, at_index, Option.getD_some]

/-- What follows the header of a frame of known kind is its chunk. -/
theorem chunk_of_payload {header chunk : List UInt8} (small : cmd.len ≤ goproCmdDataLen)
    (framed : cmd.payload = header ++ chunk) (size : cmd.kind.headerLen = header.length)
    : cmd.chunk = chunk ∧ cmd.len = cmd.kind.headerLen + chunk.length := by
  have len : cmd.len = header.length + chunk.length := by
    rw [← payload_length small, framed, List.length_append]
  have tail : cmd.len - header.length = chunk.length := by omega
  constructor
  · rw [GoproCmd.chunk, size, tail]
    refine ByteBuffer.read_after_header ?_ rfl
    rw [← len]
    exact framed
  · rw [size, len]

end GoproCmd

/-- What a start header says: a start kind of the header's size, and its length. -/
theorem StartHeader.decodes {cmd : GoproCmd} {total : Nat} {header chunk : List UInt8}
    (wellFormed : StartHeader total header) (framed : cmd.payload = header ++ chunk)
    : cmd.kind ≠ .packetCont
      ∧ cmd.kind ≠ .packetInvalid
      ∧ cmd.kind.headerLen = header.length
      ∧ (goproPacketGetLen cmd).value = (total : Int)
      ∧ total < 65536 := by
  have at_index (index : Nat) (value : UInt8) (inHeader : header[index]? = some value)
      : cmd.byte index = value := by
    refine GoproCmd.byte_of_payload ?_
    rw [framed, List.getElem?_append_left (List.getElem?_eq_some_iff.mp inHeader).1, inHeader]
  cases wellFormed with
  | bit5 fits =>
      obtain ⟨notCont, bits, value⟩ := firstByte_5bit total fits
      have first := at_index 0 _ rfl
      have kind : cmd.kind = .packet5bit := by
        rw [GoproCmd.kind_eq, first, if_neg (not_not.mpr notCont)]
        simp only [bits]
        rfl
      refine ⟨by simp [kind], by simp [kind], by simp [kind, GoproPacketType.headerLen],
        ?_, by omega⟩
      simp only [goproPacketGetLen, goproPacketGetType_value, kind, GoproCmd.load, first,
        value, Traced.bind_value, Traced.pure_value]
  | bit13 fits =>
      obtain ⟨notCont, bits, value⟩ := firstByte_13bit (total / 256) (by omega)
      have first := at_index 0 _ rfl
      have second := at_index 1 _ rfl
      have kind : cmd.kind = .packet13bit := by
        rw [GoproCmd.kind_eq, first, if_neg (not_not.mpr notCont)]
        simp only [bits]
        rfl
      refine ⟨by simp [kind], by simp [kind], by simp [kind, GoproPacketType.headerLen],
        ?_, by omega⟩
      have low : (UInt8.ofNat (total % 256)).toNat = total % 256 := by simp
      simp only [goproPacketGetLen, goproPacketGetType_value, kind, GoproCmd.load, first,
        second, value, low, lengthBytes, Traced.bind_value, Traced.pure_value]
  | bit16 unused low fits =>
      obtain ⟨notCont, bits⟩ := firstByte_16bit unused low
      have first := at_index 0 _ rfl
      have second := at_index 1 _ rfl
      have third := at_index 2 _ rfl
      have kind : cmd.kind = .packet16bit := by
        rw [GoproCmd.kind_eq, first, if_neg (not_not.mpr notCont)]
        simp only [bits]
        rfl
      refine ⟨by simp [kind], by simp [kind], by simp [kind, GoproPacketType.headerLen],
        ?_, by omega⟩
      have high : (UInt8.ofNat (total / 256)).toNat = total / 256 := by
        simp only [UInt8.toNat_ofNat']
        omega
      have low : (UInt8.ofNat (total % 256)).toNat = total % 256 := by simp
      simp only [goproPacketGetLen, goproPacketGetType_value, kind, GoproCmd.load,
        second, third, high, low, lengthBytes, Traced.bind_value, Traced.pure_value]

/-- What a start header announces: its length is what the reassembler stores. -/
theorem StartHeader.announces {cmd : GoproCmd} {total : Nat} {header chunk : List UInt8}
    (wellFormed : StartHeader total header) (framed : cmd.payload = header ++ chunk)
    : cmd.kind ≠ .packetCont
      ∧ cmd.kind ≠ .packetInvalid
      ∧ cmd.kind.headerLen = header.length
      ∧ cmd.declaredLen = total
      ∧ total < 65536 := by
  obtain ⟨notCont, valid, size, len, fits⟩ := wellFormed.decodes framed
  refine ⟨notCont, valid, size, ?_, fits⟩
  rw [GoproCmd.declaredLen, len, Word32.ofInt_natCast (by unfold Word32.size; omega)]

namespace GoproCmd

variable {cmd : GoproCmd} {handle total : Nat} {chunk : List UInt8}

theorem IsStart.reads (opens : cmd.IsStart handle total chunk)
    : cmd.kind ≠ .packetCont
      ∧ cmd.declaredLen = total
      ∧ total < 65536
      ∧ cmd.chunk = chunk
      ∧ cmd.len = cmd.kind.headerLen + chunk.length := by
  obtain ⟨header, wellFormed, framed⟩ := opens.framed
  obtain ⟨start, _, size, declared, fits⟩ := wellFormed.announces framed
  obtain ⟨brought, len⟩ := chunk_of_payload opens.small framed size
  exact ⟨start, declared, fits, brought, len⟩

theorem IsCont.reads (continues : cmd.IsCont handle chunk)
    : cmd.kind = .packetCont ∧ cmd.chunk = chunk ∧ cmd.len = 1 + chunk.length := by
  obtain ⟨first, bit, framed⟩ := continues.framed
  have read : cmd.byte 0 = first := byte_of_payload (by rw [framed]; rfl)
  have kind : cmd.kind = .packetCont := by
    rw [GoproCmd.kind_eq, read, if_pos bit]
  have split : cmd.payload = [first] ++ chunk := framed
  obtain ⟨brought, len⟩ := chunk_of_payload continues.small split
    (by simp [kind, GoproPacketType.headerLen])
  rw [kind] at len
  exact ⟨kind, brought, len⟩

end GoproCmd

theorem isCont_of_mem {handle : Nat} {conts : List GoproCmd} {rest : List (List UInt8)}
    (continues : List.Forall₂ (fun cmd chunk => GoproCmd.IsCont cmd handle chunk) conts rest)
    : ∀ cmd ∈ conts, ∃ chunk, cmd.IsCont handle chunk := by
  induction continues with
  | nil => simp
  | cons here _ ih => exact List.forall_mem_cons.mpr ⟨⟨_, here⟩, ih⟩

/-- Frames of a message are neither empty nor too long, and all carry its handle. -/
theorem IsMessage.bounded {handle total : Nat} {first : List UInt8} {rest : List (List UInt8)}
    {cmds : List GoproCmd} (message : IsMessage handle total first rest cmds)
    : ∀ cmd ∈ cmds, 1 ≤ cmd.len ∧ cmd.len ≤ goproCmdDataLen ∧ cmd.cmdType = handle := by
  cases message with
  | @frames start conts opens continues =>
      refine List.forall_mem_cons.mpr ⟨⟨?_, opens.small, opens.cmdType⟩, ?_⟩
      · obtain ⟨header, wellFormed, framed⟩ := opens.framed
        rw [← GoproCmd.payload_length opens.small, framed, List.length_append]
        cases wellFormed <;> simp <;> omega
      · intro cmd member
        obtain ⟨chunk, isCont⟩ := isCont_of_mem continues cmd member
        exact ⟨by rw [isCont.reads.2.2]; omega, isCont.small, isCont.cmdType⟩

/-- Behind the start frame of a message there are continuation frames only. -/
theorem IsMessage.tail_conts {handle total : Nat} {first : List UInt8}
    {rest : List (List UInt8)} {cmds : List GoproCmd}
    (message : IsMessage handle total first rest cmds)
    : ∀ cmd ∈ cmds.tail, cmd.kind = .packetCont := by
  cases message with
  | frames opens continues =>
      intro cmd member
      obtain ⟨_, isCont⟩ := isCont_of_mem continues cmd member
      exact isCont.reads.1

end GoproGateway
