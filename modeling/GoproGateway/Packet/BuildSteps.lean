import GoproGateway.Packet.Build

/-! What one call of `gopro_packet_build` does, case by case.

The four outcomes of either branch are stated once, with the resulting packet and the whole
log. Statements about runs use these lemmas and never unfold the program again.
-/

namespace GoproGateway

/-- The kind a frame's first byte announces. -/
def GoproCmd.kind (cmd : GoproCmd) : GoproPacketType := (goproPacketGetType cmd).value

/-- The total message length that a start frame declares, as stored in `total_len`. -/
def GoproCmd.declaredLen (cmd : GoproCmd) : Nat := Word32.ofInt (goproPacketGetLen cmd).value

/-- Number of bytes in front of a frame's share of the message. -/
def GoproPacketType.headerLen : GoproPacketType → Nat
  | .packet5bit => 1
  | .packet13bit => 2
  | .packet16bit => 3
  | .packetCont => 1
  | .packetInvalid => 0

/-- Index of the data behind feature and action. -/
def GoproPacketType.dataIndex : GoproPacketType → Nat
  | .packet5bit => 3
  | .packet13bit => 4
  | .packet16bit => 5
  | .packetCont => 1
  | .packetInvalid => 0

/-- Reads of the first byte made to find a frame's kind. -/
def GoproPacketType.typeLoads : GoproPacketType → List PacketEvent
  | .packetCont => [.load 0]
  | _ => [.load 0, .load 0]

/-- Indices read for the declared length. -/
def GoproPacketType.lengthLoads : GoproPacketType → List PacketEvent
  | .packet5bit => [.load 0]
  | .packet13bit => [.load 0, .load 1]
  | .packet16bit => [.load 1, .load 2]
  | .packetCont | .packetInvalid => []

/-- Indices read for feature and action. -/
def GoproPacketType.featureLoads : GoproPacketType → List PacketEvent
  | .packet5bit => [.load 1, .load 2]
  | .packet13bit => [.load 2, .load 3]
  | .packet16bit => [.load 3, .load 4]
  | .packetCont | .packetInvalid => []

/-- The subtraction of a frame's offset from its length; the default branch makes none. -/
def GoproPacketType.lengthSub (kind : GoproPacketType) (len offset : Nat)
    : List PacketEvent :=
  match kind with
  | .packetInvalid => []
  | _ => [.sub len offset]

/-- The part of a frame that belongs to the message. -/
def GoproCmd.chunk (cmd : GoproCmd) : List UInt8 :=
  ByteBuffer.read cmd.data cmd.kind.headerLen (cmd.len - cmd.kind.headerLen)

@[simp] theorem goproPacketGetType_value (cmd : GoproCmd)
    : (goproPacketGetType cmd).value = cmd.kind := rfl

/-- The kind is decided by the top three bits of the first byte. -/
theorem GoproCmd.kind_eq (cmd : GoproCmd)
    : cmd.kind
      = if cmd.byte 0 &&& 0x80 ≠ 0 then .packetCont
        else if (cmd.byte 0 &&& 0x60) >>> 5 = 0 then .packet5bit
        else if (cmd.byte 0 &&& 0x60) >>> 5 = 1 then .packet13bit
        else if (cmd.byte 0 &&& 0x60) >>> 5 = 2 then .packet16bit
        else .packetInvalid := by
  unfold GoproCmd.kind goproPacketGetType
  simp only [GoproCmd.load, Traced.bind_value, apply_ite Traced.value, Traced.pure_value]

@[simp] theorem goproPacketGetType_events (cmd : GoproCmd)
    : (goproPacketGetType cmd).events = cmd.kind.typeLoads := by
  unfold GoproCmd.kind goproPacketGetType
  simp only [GoproCmd.load, Traced.bind_value, Traced.bind_events]
  by_cases cont : cmd.byte 0 &&& 0x80 ≠ 0
  · simp [cont, GoproPacketType.typeLoads]
  · by_cases bit5 : (cmd.byte 0 &&& 0x60) >>> 5 = 0
    · simp [cont, bit5, GoproPacketType.typeLoads]
    · by_cases bit13 : (cmd.byte 0 &&& 0x60) >>> 5 = 1
      · simp [cont, bit13, GoproPacketType.typeLoads]
      · by_cases bit16 : (cmd.byte 0 &&& 0x60) >>> 5 = 2 <;>
          simp [cont, bit5, bit13, bit16, GoproPacketType.typeLoads]

@[simp] theorem goproPacketGetLen_events (cmd : GoproCmd)
    : (goproPacketGetLen cmd).events = cmd.kind.typeLoads ++ cmd.kind.lengthLoads := by
  simp only [goproPacketGetLen, Traced.bind_events, goproPacketGetType_events,
    goproPacketGetType_value]
  cases cmd.kind <;> rfl

@[simp] theorem goproPacketGetFeature_events (cmd : GoproCmd) (feature action : UInt8)
    : (goproPacketGetFeature cmd feature action).events
      = cmd.kind.typeLoads ++ cmd.kind.featureLoads := by
  simp only [goproPacketGetFeature, Traced.bind_events, goproPacketGetType_events,
    goproPacketGetType_value]
  cases cmd.kind <;> rfl

theorem wordSub_zero {cmd : GoproCmd} (small : cmd.len ≤ goproCmdDataLen)
    : Word32.sub cmd.len 0 = cmd.len := by
  unfold goproCmdDataLen at small
  exact Word32.sub_of_le (Nat.zero_le _) (by unfold Word32.size; omega)

theorem goproPacketGetDataPtr_value {cmd : GoproCmd} (small : cmd.len ≤ goproCmdDataLen)
    : (goproPacketGetDataPtr cmd).value
      = (cmd.kind.dataIndex, Word32.sub cmd.len cmd.kind.dataIndex) := by
  simp only [goproPacketGetDataPtr, Traced.bind_value, goproPacketGetType_value]
  cases cmd.kind <;> simp [subU32, GoproPacketType.dataIndex, wordSub_zero small]

@[simp] theorem goproPacketGetDataPtr_events (cmd : GoproCmd)
    : (goproPacketGetDataPtr cmd).events
      = cmd.kind.typeLoads ++ cmd.kind.lengthSub cmd.len cmd.kind.dataIndex := by
  simp only [goproPacketGetDataPtr, Traced.bind_events, goproPacketGetType_events,
    goproPacketGetType_value]
  cases cmd.kind <;> rfl

theorem goproPacketGetPktPtr_value {cmd : GoproCmd} (small : cmd.len ≤ goproCmdDataLen)
    : (goproPacketGetPktPtr cmd).value
      = (cmd.kind.headerLen, Word32.sub cmd.len cmd.kind.headerLen) := by
  simp only [goproPacketGetPktPtr, Traced.bind_value, goproPacketGetType_value]
  cases cmd.kind <;> simp [subU32, GoproPacketType.headerLen, wordSub_zero small]

@[simp] theorem goproPacketGetPktPtr_events (cmd : GoproCmd)
    : (goproPacketGetPktPtr cmd).events
      = cmd.kind.typeLoads ++ cmd.kind.lengthSub cmd.len cmd.kind.headerLen := by
  simp only [goproPacketGetPktPtr, Traced.bind_events, goproPacketGetType_events,
    goproPacketGetType_value]
  cases cmd.kind <;> rfl

-----------------------------------------------------------------------------------------
-- The continuation branch
-----------------------------------------------------------------------------------------

/-- The part of the log in front of the first use of the packet's block. -/
def contLog (cmd : GoproCmd) : List PacketEvent :=
  [.load 0, .load 0, .load 0, .sub cmd.len 1]

/-- The packet once the frame's data pointer has been stored. -/
def GoproPacket.aim (packet : GoproPacket) (cmd : GoproCmd) : GoproPacket :=
  { packet with dataStartIndex := 1, dataLen := Word32.sub cmd.len 1 }

/-- The block with the frame's data copied behind the saved bytes. -/
def contBlock (packet : GoproPacket) (block : Block) (cmd : GoproCmd) : Block :=
  {
    block with
    bytes := ByteBuffer.write block.bytes packet.savedLen
      (ByteBuffer.read cmd.data 1 (Word32.sub cmd.len 1))
  }

/-- The packet with the frame's data stored. -/
def GoproPacket.store (packet : GoproPacket) (block : Block) (cmd : GoproCmd) : GoproPacket :=
  {
    packet.aim cmd with
    data := some (contBlock packet block cmd)
    savedLen := Word32.add packet.savedLen (Word32.sub cmd.len 1)
  }

@[simp] theorem GoproPacket.aim_data (packet : GoproPacket) (cmd : GoproCmd)
    : (packet.aim cmd).data = packet.data := rfl

section Store

variable (packet : GoproPacket) (block : Block) (cmd : GoproCmd)

@[simp] theorem GoproPacket.store_data
    : (packet.store block cmd).data = some (contBlock packet block cmd) := rfl

@[simp] theorem GoproPacket.store_savedLen
    : (packet.store block cmd).savedLen
      = Word32.add packet.savedLen (Word32.sub cmd.len 1) := rfl

@[simp] theorem GoproPacket.store_totalLen
    : (packet.store block cmd).totalLen = packet.totalLen := rfl

@[simp] theorem GoproPacket.store_packetType
    : (packet.store block cmd).packetType = packet.packetType := rfl

@[simp] theorem contBlock_length
    : (contBlock packet block cmd).bytes.length = block.bytes.length :=
  ByteBuffer.write_length ..

end Store

section Continuation

variable {packet : GoproPacket} {cmd : GoproCmd} {block : Block} (kMalloc : Option Nat)
  (small : cmd.len ≤ goproCmdDataLen) (cont : cmd.kind = .packetCont)

include small cont

/-- A continuation without a message in progress only moves the data pointer. -/
theorem goproPacketBuild_cont_idle (idle : packet.data = none)
    : goproPacketBuild kMalloc packet cmd = ⟨packet.aim cmd, contLog cmd⟩ := by
  ext1 <;>
    simp [goproPacketBuild, goproPacketBuildCont, goproPacketGetDataPtr_value small,
      GoproCmd.load, cont, idle, GoproPacket.aim, contLog, GoproPacketType.typeLoads,
      GoproPacketType.lengthSub, GoproPacketType.dataIndex]

/-- A continuation that the length check refuses ends the message. -/
theorem goproPacketBuild_cont_overflow (busy : packet.data = some block)
    (refused : packet.totalLen < Word32.add (Word32.sub cmd.len 1) packet.savedLen)
    : goproPacketBuild kMalloc packet cmd
      = ⟨{ packet.aim cmd with data := none }, contLog cmd ++ [.free block]⟩ := by
  ext1 <;>
    simp [goproPacketBuild, goproPacketBuildCont, goproPacketGetDataPtr_value small,
      GoproCmd.load, cont, busy, refused, GoproPacket.aim, contLog,
      GoproPacketType.typeLoads, GoproPacketType.lengthSub, GoproPacketType.dataIndex]

/-- A continuation that leaves bytes missing is stored. -/
theorem goproPacketBuild_cont_store (busy : packet.data = some block)
    (admitted : Word32.add (Word32.sub cmd.len 1) packet.savedLen ≤ packet.totalLen)
    (missing : Word32.add packet.savedLen (Word32.sub cmd.len 1) ≠ packet.totalLen)
    : goproPacketBuild kMalloc packet cmd
      = ⟨packet.store block cmd,
          contLog cmd ++ [.copy block packet.savedLen 1 (Word32.sub cmd.len 1)]⟩ := by
  ext1 <;>
    simp [goproPacketBuild, goproPacketBuildCont, goproPacketGetDataPtr_value small,
      GoproCmd.load, copyFrame, cont, busy,
      Nat.not_lt.mpr admitted, missing, GoproPacket.aim, GoproPacket.store, contBlock,
      contLog, GoproPacketType.typeLoads, GoproPacketType.lengthSub,
      GoproPacketType.dataIndex]

/-- A continuation that brings the last bytes is stored, parsed, and its block freed. -/
theorem goproPacketBuild_cont_finish (busy : packet.data = some block)
    (admitted : Word32.add (Word32.sub cmd.len 1) packet.savedLen ≤ packet.totalLen)
    (full : Word32.add packet.savedLen (Word32.sub cmd.len 1) = packet.totalLen)
    : goproPacketBuild kMalloc packet cmd
      = ⟨{ packet.store block cmd with data := none },
          contLog cmd
            ++ [.copy block packet.savedLen 1 (Word32.sub cmd.len 1),
              .parse (packet.store block cmd), .free (contBlock packet block cmd)]⟩ := by
  ext1 <;>
    simp [goproPacketBuild, goproPacketBuildCont, goproPacketGetDataPtr_value small,
      GoproCmd.load, copyFrame, finishPacket, cont, busy,
      Nat.not_lt.mpr admitted, full, GoproPacket.aim, GoproPacket.store, contBlock,
      contLog, GoproPacketType.typeLoads, GoproPacketType.lengthSub,
      GoproPacketType.dataIndex]

end Continuation

-----------------------------------------------------------------------------------------
-- The start branch
-----------------------------------------------------------------------------------------

/-- The log of a start frame up to its use of the declared length. -/
def startLog (packet : GoproPacket) (cmd : GoproCmd) : List PacketEvent :=
  cmd.kind.typeLoads
  ++ packet.data.toList.map .free
  ++ (cmd.kind.typeLoads ++ cmd.kind.featureLoads)
  ++ (cmd.kind.typeLoads ++ cmd.kind.lengthSub cmd.len cmd.kind.dataIndex)
  ++ (cmd.kind.typeLoads ++ cmd.kind.lengthSub cmd.len cmd.kind.headerLen)
  ++ (cmd.kind.typeLoads ++ cmd.kind.lengthLoads)
  ++ [.sub cmd.declaredLen 2]

/-- The packet a start frame opens, before it has a block. -/
def GoproCmd.opened (cmd : GoproCmd) : GoproPacket :=
  {
    GoproPacket.zero with
    packetType := cmd.cmdType % 256
    feature := (goproPacketGetFeature cmd 0 0).value.1
    action := (goproPacketGetFeature cmd 0 0).value.2
    dataStartIndex := cmd.kind.dataIndex
    dataLen := Word32.sub cmd.len cmd.kind.dataIndex
    pktStartIndex := cmd.kind.headerLen
    pktLen := Word32.sub cmd.len cmd.kind.headerLen
    totalLen := cmd.declaredLen
    packetLen := Word32.sub cmd.declaredLen 2
  }

/-- The cleared block a start frame allocates. -/
def GoproCmd.blankBlock (cmd : GoproCmd) (addr : Nat) : Block :=
  { addr, bytes := List.replicate cmd.declaredLen 0 }

/-- The allocated block with the start frame's bytes in front. -/
def GoproCmd.openedBlock (cmd : GoproCmd) (addr : Nat) : Block :=
  {
    addr
    bytes := ByteBuffer.write (List.replicate cmd.declaredLen 0) 0
      (ByteBuffer.read cmd.data cmd.kind.headerLen (Word32.sub cmd.len cmd.kind.headerLen))
  }

/-- The packet a start frame opens, with its block. -/
def GoproCmd.openedWith (cmd : GoproCmd) (addr : Nat) : GoproPacket :=
  {
    cmd.opened with
    data := some (cmd.openedBlock addr)
    savedLen := Word32.sub cmd.len cmd.kind.headerLen
  }

/-- Allocation, clearing, and copy of a start frame. -/
def openLog (cmd : GoproCmd) (addr : Nat) : List PacketEvent :=
  [.malloc cmd.declaredLen (some addr), .clear (cmd.blankBlock addr) cmd.declaredLen,
    .copy (cmd.blankBlock addr) 0 cmd.kind.headerLen
      (Word32.sub cmd.len cmd.kind.headerLen)]

section Start

variable (packet : GoproPacket) {cmd : GoproCmd} {kMalloc : Option Nat}

/-- Every kind other than the continuation takes the start branch. -/
theorem goproPacketBuild_start (start : cmd.kind ≠ .packetCont)
    : goproPacketBuild kMalloc packet cmd
      = ⟨(goproPacketBuildStart kMalloc packet cmd).value,
          cmd.kind.typeLoads ++ (goproPacketBuildStart kMalloc packet cmd).events⟩ := by
  ext1 <;>
    simp only [goproPacketBuild, Traced.bind_value, Traced.bind_events,
      goproPacketGetType_value, goproPacketGetType_events]

variable (small : cmd.len ≤ goproCmdDataLen) (start : cmd.kind ≠ .packetCont)

include small start

/-- A declared length of zero ends the call without a block. -/
theorem goproPacketBuild_start_zero (zero : cmd.declaredLen = 0)
    : goproPacketBuild kMalloc packet cmd = ⟨cmd.opened, startLog packet cmd⟩ := by
  have len : Word32.ofInt (goproPacketGetLen cmd).value = 0 := zero
  rw [goproPacketBuild_start packet start]
  cases data : packet.data <;>
    ext1 <;>
    simp [goproPacketBuildStart, startLog, data, goproPacketGetDataPtr_value small,
      goproPacketGetPktPtr_value small, subU32, len, GoproCmd.opened, GoproPacket.zero,
      GoproCmd.declaredLen]

/-- Without a block the packet keeps the header of the start frame only. -/
theorem goproPacketBuild_start_nomem (positive : cmd.declaredLen ≠ 0)
    : goproPacketBuild none packet cmd
      = ⟨cmd.opened, startLog packet cmd ++ [.malloc cmd.declaredLen none]⟩ := by
  have len : Word32.ofInt (goproPacketGetLen cmd).value ≠ 0 := positive
  rw [goproPacketBuild_start packet start]
  cases data : packet.data <;>
    ext1 <;>
    simp [goproPacketBuildStart, startLog, data, goproPacketGetDataPtr_value small,
      goproPacketGetPktPtr_value small, subU32, len, GoproCmd.opened, GoproPacket.zero,
      GoproCmd.declaredLen]

/-- A start frame that leaves bytes missing, or that brings too many, is stored. -/
theorem goproPacketBuild_start_store (addr : Nat) (positive : cmd.declaredLen ≠ 0)
    (missing : Word32.sub cmd.len cmd.kind.headerLen ≠ cmd.declaredLen)
    : goproPacketBuild (some addr) packet cmd
      = ⟨cmd.openedWith addr, startLog packet cmd ++ openLog cmd addr⟩ := by
  have len : Word32.ofInt (goproPacketGetLen cmd).value ≠ 0 := positive
  have unequal : Word32.sub cmd.len cmd.kind.headerLen
      ≠ Word32.ofInt (goproPacketGetLen cmd).value := missing
  rw [goproPacketBuild_start packet start]
  cases data : packet.data <;>
    ext1 <;>
    simp [goproPacketBuildStart, startLog, data, goproPacketGetDataPtr_value small,
      goproPacketGetPktPtr_value small, subU32, copyFrame, len, unequal, openLog,
      GoproCmd.opened, GoproCmd.openedWith, GoproCmd.openedBlock, GoproCmd.blankBlock,
      GoproPacket.zero, GoproCmd.declaredLen]

/-- A start frame that brings the whole message is parsed at once. -/
theorem goproPacketBuild_start_finish (addr : Nat) (positive : cmd.declaredLen ≠ 0)
    (full : Word32.sub cmd.len cmd.kind.headerLen = cmd.declaredLen)
    : goproPacketBuild (some addr) packet cmd
      = ⟨{ cmd.openedWith addr with data := none },
          startLog packet cmd ++ openLog cmd addr
            ++ [.parse (cmd.openedWith addr), .free (cmd.openedBlock addr)]⟩ := by
  have len : Word32.ofInt (goproPacketGetLen cmd).value ≠ 0 := positive
  have equal : Word32.sub cmd.len cmd.kind.headerLen
      = Word32.ofInt (goproPacketGetLen cmd).value := full
  rw [goproPacketBuild_start packet start]
  cases data : packet.data <;>
    ext1 <;>
    simp [goproPacketBuildStart, startLog, data, goproPacketGetDataPtr_value small,
      goproPacketGetPktPtr_value small, subU32, copyFrame, finishPacket, len, equal, openLog,
      GoproCmd.opened, GoproCmd.openedWith, GoproCmd.openedBlock, GoproCmd.blankBlock,
      GoproPacket.zero, GoproCmd.declaredLen]

end Start

-----------------------------------------------------------------------------------------
-- The outcomes of a call
-----------------------------------------------------------------------------------------

/-- What a continuation frame can do to a packet. -/
inductive ContOutcome (packet : GoproPacket) (cmd : GoproCmd)
    : PacketTrace GoproPacket → Prop
  | idle (released : packet.data = none)
      : ContOutcome packet cmd ⟨packet.aim cmd, contLog cmd⟩
  | overflow {block : Block} (held : packet.data = some block)
      (refused : packet.totalLen < Word32.add (Word32.sub cmd.len 1) packet.savedLen)
      : ContOutcome packet cmd
          ⟨{ packet.aim cmd with data := none }, contLog cmd ++ [.free block]⟩
  | store {block : Block} (held : packet.data = some block)
      (admitted : Word32.add (Word32.sub cmd.len 1) packet.savedLen ≤ packet.totalLen)
      (missing : Word32.add packet.savedLen (Word32.sub cmd.len 1) ≠ packet.totalLen)
      : ContOutcome packet cmd
          ⟨packet.store block cmd,
            contLog cmd ++ [.copy block packet.savedLen 1 (Word32.sub cmd.len 1)]⟩
  | finish {block : Block} (held : packet.data = some block)
      (admitted : Word32.add (Word32.sub cmd.len 1) packet.savedLen ≤ packet.totalLen)
      (full : Word32.add packet.savedLen (Word32.sub cmd.len 1) = packet.totalLen)
      : ContOutcome packet cmd
          ⟨{ packet.store block cmd with data := none },
            contLog cmd
              ++ [.copy block packet.savedLen 1 (Word32.sub cmd.len 1),
                .parse (packet.store block cmd), .free (contBlock packet block cmd)]⟩

/-- What a start frame can do, whatever the packet held. -/
inductive StartOutcome (packet : GoproPacket) (cmd : GoproCmd)
    : Option Nat → PacketTrace GoproPacket → Prop
  | zero {kMalloc : Option Nat} (zero : cmd.declaredLen = 0)
      : StartOutcome packet cmd kMalloc ⟨cmd.opened, startLog packet cmd⟩
  | nomem (positive : cmd.declaredLen ≠ 0)
      : StartOutcome packet cmd none
          ⟨cmd.opened, startLog packet cmd ++ [.malloc cmd.declaredLen none]⟩
  | store {addr : Nat} (positive : cmd.declaredLen ≠ 0)
      (missing : Word32.sub cmd.len cmd.kind.headerLen ≠ cmd.declaredLen)
      : StartOutcome packet cmd (some addr)
          ⟨cmd.openedWith addr, startLog packet cmd ++ openLog cmd addr⟩
  | finish {addr : Nat} (positive : cmd.declaredLen ≠ 0)
      (full : Word32.sub cmd.len cmd.kind.headerLen = cmd.declaredLen)
      : StartOutcome packet cmd (some addr)
          ⟨{ cmd.openedWith addr with data := none },
            startLog packet cmd ++ openLog cmd addr
              ++ [.parse (cmd.openedWith addr), .free (cmd.openedBlock addr)]⟩

/-- A continuation frame has one of these outcomes, by the tests of the source in their order.
-/
theorem goproPacketBuild_cont_outcome (packet : GoproPacket) {cmd : GoproCmd}
    (kMalloc : Option Nat) (small : cmd.len ≤ goproCmdDataLen)
    (cont : cmd.kind = .packetCont)
    : ContOutcome packet cmd (goproPacketBuild kMalloc packet cmd) := by
  cases data : packet.data with
  | none =>
      rw [goproPacketBuild_cont_idle kMalloc small cont data]
      exact .idle data
  | some block =>
      by_cases refused : packet.totalLen < Word32.add (Word32.sub cmd.len 1) packet.savedLen
      · rw [goproPacketBuild_cont_overflow kMalloc small cont data refused]
        exact .overflow data refused
      · replace refused := Nat.not_lt.mp refused
        by_cases full : Word32.add packet.savedLen (Word32.sub cmd.len 1) = packet.totalLen
        · rw [goproPacketBuild_cont_finish kMalloc small cont data refused full]
          exact .finish data refused full
        · rw [goproPacketBuild_cont_store kMalloc small cont data refused full]
          exact .store data refused full

/-- A start frame has one of these outcomes, by the tests of the source in their order. -/
theorem goproPacketBuild_start_outcome (packet : GoproPacket) {cmd : GoproCmd}
    (kMalloc : Option Nat) (small : cmd.len ≤ goproCmdDataLen)
    (start : cmd.kind ≠ .packetCont)
    : StartOutcome packet cmd kMalloc (goproPacketBuild kMalloc packet cmd) := by
  by_cases zero : cmd.declaredLen = 0
  · rw [goproPacketBuild_start_zero packet small start zero]
    exact .zero zero
  · cases kMalloc with
    | none =>
        rw [goproPacketBuild_start_nomem packet small start zero]
        exact .nomem zero
    | some addr =>
        by_cases full : Word32.sub cmd.len cmd.kind.headerLen = cmd.declaredLen
        · rw [goproPacketBuild_start_finish packet small start addr zero full]
          exact .finish zero full
        · rw [goproPacketBuild_start_store packet small start addr zero full]
          exact .store zero full

end GoproGateway
