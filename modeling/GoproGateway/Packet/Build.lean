import GoproGateway.Client.Declarations
import GoproGateway.Library.ByteBuffer
import GoproGateway.Library.InputMachine
import GoproGateway.Library.Traced
import GoproGateway.Library.Word32

/-! Reassembly of notification frames, as `gopro_packet.c` computes it.

Every function logs the array cells it reads, the unsigned subtractions it makes, and its
use of the heap, so that statements about memory and wrap-around are statements about the
log. `gopro_packet_parse` appears as the logged call; the callee leaves the packet as it is.
-/

namespace GoproGateway

/-- `gopro_packet_type_t`. -/
inductive GoproPacketType where
  | packet5bit
  | packet13bit
  | packet16bit
  | packetCont
  | packetInvalid
  deriving DecidableEq, Repr

/-- An allocated heap block: where it is and what it holds; its size is its length. -/
structure Block where
  addr : Nat
  bytes : List UInt8
  deriving DecidableEq, Repr

/-- `struct gopro_packet_t`; `data = none` is the NULL pointer. -/
structure GoproPacket where
  totalLen : Nat
  packetLen : Nat
  pktLen : Nat
  dataLen : Nat
  savedLen : Nat
  pktStartIndex : Nat
  dataStartIndex : Nat
  packetType : Nat
  feature : UInt8
  action : UInt8
  data : Option Block
  deriving DecidableEq, Repr

/-- The zeroed packet, as at start-up and after the `memset` of a start frame. -/
def GoproPacket.zero : GoproPacket where
  totalLen := 0
  packetLen := 0
  pktLen := 0
  dataLen := 0
  savedLen := 0
  pktStartIndex := 0
  dataStartIndex := 0
  packetType := 0
  feature := 0
  action := 0
  data := none

/-- What the reassembler does to memory, and the calls it makes. -/
inductive PacketEvent where
  /-- Reads `gopro_cmd->data[index]`. -/
  | load (index : Nat)
  /-- Computes the unsigned difference `minuend - subtrahend`. -/
  | sub (minuend subtrahend : Nat)
  | free (block : Block)
  /-- Calls `k_malloc(size)`, with the address it returned. -/
  | malloc (size : Nat) (result : Option Nat)
  /-- Clears the first `count` bytes of a block. -/
  | clear (target : Block) (count : Nat)
  /-- Copies `count` bytes from `gopro_cmd->data[source]` on to `offset` in `target`. -/
  | copy (target : Block) (offset source count : Nat)
  /-- Calls `gopro_packet_parse` on the packet. -/
  | parse (packet : GoproPacket)
  deriving DecidableEq, Repr

/-- Logged computations of the reassembler. -/
abbrev PacketTrace := Traced PacketEvent

def GoproCmd.load (cmd : GoproCmd) (index : Nat) : PacketTrace UInt8 :=
  ⟨cmd.byte index, [.load index]⟩

/-- `minuend - subtrahend` on `uint32_t`. -/
def subU32 (minuend subtrahend : Nat) : PacketTrace Nat :=
  ⟨Word32.sub minuend subtrahend, [.sub minuend subtrahend]⟩

-----------------------------------------------------------------------------------------
-- Header fields of a frame
-----------------------------------------------------------------------------------------

def goproPacketGetType (cmd : GoproCmd) : PacketTrace GoproPacketType := do
  let first ← cmd.load 0
  if first &&& 0x80 ≠ 0 then
    return .packetCont
  else
    let first ← cmd.load 0
    let packetType := (first &&& 0x60) >>> 5
    if packetType = 0 then return .packet5bit
    else if packetType = 1 then return .packet13bit
    else if packetType = 2 then return .packet16bit
    else return .packetInvalid

def goproPacketGetLen (cmd : GoproCmd) : PacketTrace Int := do
  match ← goproPacketGetType cmd with
  | .packet5bit =>
      let first ← cmd.load 0
      return ((first &&& 0x1F).toNat : Int)
  | .packet13bit =>
      let first ← cmd.load 0
      let second ← cmd.load 1
      return (((first &&& 0x1F).toNat <<< 8 ||| second.toNat : Nat) : Int)
  | .packet16bit =>
      let second ← cmd.load 1
      let third ← cmd.load 2
      return ((second.toNat <<< 8 ||| third.toNat : Nat) : Int)
  | .packetCont | .packetInvalid => return -1

/-- Feature and action of a start frame; other frames leave both as they were. -/
def goproPacketGetFeature (cmd : GoproCmd) (feature action : UInt8)
    : PacketTrace (UInt8 × UInt8) := do
  match ← goproPacketGetType cmd with
  | .packet5bit => return (← cmd.load 1, ← cmd.load 2)
  | .packet13bit => return (← cmd.load 2, ← cmd.load 3)
  | .packet16bit => return (← cmd.load 3, ← cmd.load 4)
  | .packetCont | .packetInvalid => return (feature, action)

/-- Index and length of the data behind header, feature and action. -/
def goproPacketGetDataPtr (cmd : GoproCmd) : PacketTrace (Nat × Nat) := do
  match ← goproPacketGetType cmd with
  | .packet5bit => return (3, ← subU32 cmd.len 3)
  | .packet13bit => return (4, ← subU32 cmd.len 4)
  | .packet16bit => return (5, ← subU32 cmd.len 5)
  | .packetCont => return (1, ← subU32 cmd.len 1)
  | .packetInvalid => return (0, cmd.len)

/-- Index and length of everything behind the header. -/
def goproPacketGetPktPtr (cmd : GoproCmd) : PacketTrace (Nat × Nat) := do
  match ← goproPacketGetType cmd with
  | .packet5bit => return (1, ← subU32 cmd.len 1)
  | .packet13bit => return (2, ← subU32 cmd.len 2)
  | .packet16bit => return (3, ← subU32 cmd.len 3)
  | .packetCont => return (1, ← subU32 cmd.len 1)
  | .packetInvalid => return (0, cmd.len)

-----------------------------------------------------------------------------------------
-- gopro_packet_build
-----------------------------------------------------------------------------------------

/-- The message is complete: parse it, free the block, and clear the pointer. -/
def finishPacket (packet : GoproPacket) (block : Block) : PacketTrace GoproPacket := do
  Traced.log (.parse packet)
  Traced.log (.free block)
  return { packet with data := none }

/-- `memcpy` of `count` bytes of the frame into the packet's block. -/
def copyFrame (cmd : GoproCmd) (block : Block) (offset source count : Nat)
    : PacketTrace Block := do
  Traced.log (.copy block offset source count)
  return {
    block with
    bytes := ByteBuffer.write block.bytes offset (ByteBuffer.read cmd.data source count)
  }

/-- The continuation branch. -/
def goproPacketBuildCont (packet : GoproPacket) (cmd : GoproCmd)
    : PacketTrace GoproPacket := do
  let _packetNum := (← cmd.load 0) &&& 0x0F
  let (dataStartIndex, dataLen) ← goproPacketGetDataPtr cmd
  let packet := { packet with dataStartIndex, dataLen }
  match packet.data with
  | none => return packet
  | some block =>
      if Word32.add packet.dataLen packet.savedLen > packet.totalLen then
        Traced.log (.free block)
        return { packet with data := none }
      else
        let block ← copyFrame cmd block packet.savedLen packet.dataStartIndex packet.dataLen
        let packet := {
          packet with
          data := some block
          savedLen := Word32.add packet.savedLen packet.dataLen
        }
        if packet.savedLen = packet.totalLen then
          finishPacket packet block
        else
          return packet

/-- The start branch; `kMalloc` is what `k_malloc` returns in this call. -/
def goproPacketBuildStart (kMalloc : Option Nat) (packet : GoproPacket) (cmd : GoproCmd)
    : PacketTrace GoproPacket := do
  match packet.data with
  | some block => Traced.log (.free block)
  | none => pure ()
  let packet := { GoproPacket.zero with packetType := cmd.cmdType % 256 }
  let (feature, action) ← goproPacketGetFeature cmd packet.feature packet.action
  let (dataStartIndex, dataLen) ← goproPacketGetDataPtr cmd
  let (pktStartIndex, pktLen) ← goproPacketGetPktPtr cmd
  let totalLen := Word32.ofInt (← goproPacketGetLen cmd)
  let packetLen ← subU32 totalLen 2
  let packet := {
    packet with
    feature, action, dataStartIndex, dataLen, pktStartIndex, pktLen, totalLen, packetLen
  }
  if packet.totalLen = 0 then
    return packet
  else
    Traced.log (.malloc packet.totalLen kMalloc)
    match kMalloc with
    | none => return packet
    | some addr =>
        let block : Block := { addr, bytes := List.replicate packet.totalLen 0 }
        Traced.log (.clear block packet.totalLen)
        let block ← copyFrame cmd block 0 packet.pktStartIndex packet.pktLen
        let packet := { packet with data := some block, savedLen := packet.pktLen }
        if packet.savedLen = packet.totalLen then
          finishPacket packet block
        else
          return packet

def goproPacketBuild (kMalloc : Option Nat) (packet : GoproPacket) (cmd : GoproCmd)
    : PacketTrace GoproPacket := do
  match ← goproPacketGetType cmd with
  | .packetCont => goproPacketBuildCont packet cmd
  | _ => goproPacketBuildStart kMalloc packet cmd

/-- One call of `gopro_packet_build`: its frame and the outcome of its allocation. -/
structure BuildCall where
  cmd : GoproCmd
  kMalloc : Option Nat
  deriving DecidableEq, Repr

/-- The reassembler over whole frame sequences. -/
def packetBuilder : InputMachine GoproPacket BuildCall PacketEvent where
  step packet call :=
    let traced := goproPacketBuild call.kMalloc packet call.cmd
    (traced.value, traced.events)

/-- The packets handed to `gopro_packet_parse`, in order. -/
def parsedPackets (events : List PacketEvent) : List GoproPacket :=
  events.filterMap fun
    | .parse packet => some packet
    | _ => none

end GoproGateway
