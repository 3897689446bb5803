import GoproGateway.Library.Reassembly
import GoproGateway.Packet.Frames

/-! The packet builder refines the abstract assembler.

A busy packet holds the saved bytes of one pending message in the front of its block. On
frames that bring at most what they declare, each call of `gopro_packet_build` is one step
of the assembler, and the parsed packets are the delivered messages.
-/

namespace GoproGateway

open Reassembly

/-- What the packet's fields and block say about the message in progress. -/
inductive Represents : GoproPacket → Option (Pending Nat UInt8) → Prop
  | idle {packet : GoproPacket} (released : packet.data = none)
      : Represents packet none
  | busy {packet : GoproPacket} {pending : Pending Nat UInt8} {block : Block}
      (held : packet.data = some block)
      (size : block.bytes.length = pending.total)
      (total : packet.totalLen = pending.total)
      (saved : packet.savedLen = pending.saved.length)
      (contents : block.bytes.take pending.saved.length = pending.saved)
      (handle : packet.packetType = pending.key)
      (bounded : pending.total < 65536)
      : Represents packet (some pending)

/-- The abstract frame of a call; a start frame without a block abandons its message. -/
def BuildCall.frame (call : BuildCall) : Frame Nat UInt8 :=
  if call.cmd.kind = .packetCont then .more call.cmd.chunk
  else
    match call.kMalloc with
    | none => .abandon
    | some _ => .start (call.cmd.cmdType % 256) call.cmd.declaredLen call.cmd.chunk

/-- Frames that bring their whole header and at most the bytes they declare. -/
structure BuildCall.Fits (call : BuildCall) : Prop where
  small : call.cmd.len ≤ goproCmdDataLen
  header : call.cmd.kind.headerLen ≤ call.cmd.len
  declared : call.cmd.kind ≠ .packetCont → call.cmd.declaredLen < 65536
  within : call.cmd.kind ≠ .packetCont → call.cmd.chunk.length ≤ call.cmd.declaredLen

/-- The handle and the bytes that `gopro_packet_parse` gets to see. -/
def GoproPacket.message (packet : GoproPacket) : Message Nat UInt8 :=
  ⟨packet.packetType, (packet.data.map Block.bytes).getD []⟩

def PacketEvent.parsed? : PacketEvent → Option GoproPacket
  | .parse packet => some packet
  | _ => none

/-- The message an event hands to the parser, if it does. -/
def PacketEvent.message? (event : PacketEvent) : Option (Message Nat UInt8) :=
  event.parsed?.map GoproPacket.message

/-- The delivered messages are those of the parsed packets. -/
theorem filterMap_message? (events : List PacketEvent)
    : events.filterMap PacketEvent.message? = (parsedPackets events).map GoproPacket.message := by
  rw [parsedPackets, List.map_filterMap]
  refine List.filterMap_congr fun event _ => ?_
  cases event <;> rfl

/-- Nothing is parsed before a start frame has been stored, whatever it frees. -/
theorem startLog_parses_nothing (packet : GoproPacket) (cmd : GoproCmd)
    : (startLog packet cmd).filterMap PacketEvent.message? = [] := by
  cases data : packet.data <;>
    cases kind : cmd.kind <;>
    simp [startLog, data, kind, PacketEvent.message?, PacketEvent.parsed?,
      GoproPacketType.typeLoads, GoproPacketType.featureLoads, GoproPacketType.lengthLoads,
      GoproPacketType.lengthSub, List.filterMap_cons]

theorem openLog_parses_nothing (cmd : GoproCmd) (addr : Nat)
    : (openLog cmd addr).filterMap PacketEvent.message? = [] := rfl

theorem contLog_parses_nothing (cmd : GoproCmd)
    : (contLog cmd).filterMap PacketEvent.message? = [] := rfl

namespace GoproCmd

variable {cmd : GoproCmd} (small : cmd.len ≤ goproCmdDataLen)
  (header : cmd.kind.headerLen ≤ cmd.len)

include small header

theorem chunk_length : cmd.chunk.length = cmd.len - cmd.kind.headerLen := by
  refine ByteBuffer.read_length ?_
  rw [cmd.data_length]
  omega

/-- The payload length of the source, which does not wrap for a frame with its whole header. -/
theorem sub_headerLen : Word32.sub cmd.len cmd.kind.headerLen = cmd.chunk.length := by
  unfold goproCmdDataLen at small
  rw [chunk_length small header, Word32.sub_of_le header (by unfold Word32.size; omega)]

/-- What `memcpy` reads of such a frame is its payload. -/
theorem read_chunk
    : ByteBuffer.read cmd.data cmd.kind.headerLen (Word32.sub cmd.len cmd.kind.headerLen)
      = cmd.chunk := by
  rw [sub_headerLen small header, chunk_length small header]
  rfl

theorem chunk_length_le : cmd.chunk.length ≤ goproCmdDataLen := by
  rw [chunk_length small header]
  omega

end GoproCmd

section WellFormed

variable {handle total : Nat} {chunk : List UInt8} {call : BuildCall}

/-- A start frame with at most the bytes it declares fits. -/
theorem GoproCmd.IsStart.fits (opens : call.cmd.IsStart handle total chunk)
    (within : chunk.length ≤ total)
    : call.Fits := by
  obtain ⟨_, declared, bounded, brought, len⟩ := opens.reads
  refine ⟨opens.small, by omega, fun _ => by omega, fun _ => ?_⟩
  rw [brought, declared]
  exact within

/-- A start frame with memory opens a message on its own handle. -/
theorem GoproCmd.IsStart.frame (opens : call.cmd.IsStart handle total chunk)
    (handle_lt : handle < gpCntrlHandleEnd) (allocates : call.kMalloc ≠ none)
    : call.frame = .start handle total chunk := by
  obtain ⟨start, declared, _, brought, _⟩ := opens.reads
  obtain ⟨addr, result⟩ := Option.ne_none_iff_exists'.mp allocates
  unfold gpCntrlHandleEnd at handle_lt
  rw [BuildCall.frame, if_neg start, result, opens.cmdType, declared, brought,
    Nat.mod_eq_of_lt (by omega)]

/-- A continuation frame always fits: it declares nothing. -/
theorem GoproCmd.IsCont.fits (continues : call.cmd.IsCont handle chunk) : call.Fits := by
  obtain ⟨cont, _, len⟩ := continues.reads
  refine ⟨continues.small, ?_, fun start => absurd cont start, fun start => absurd cont start⟩
  rw [cont, len]
  exact Nat.le_add_right 1 _

theorem GoproCmd.IsCont.frame (continues : call.cmd.IsCont handle chunk)
    : call.frame = .more chunk := by
  obtain ⟨cont, brought, _⟩ := continues.reads
  rw [BuildCall.frame, if_pos cont, brought]

end WellFormed

-----------------------------------------------------------------------------------------
-- One call
-----------------------------------------------------------------------------------------

/-- A start frame is one step of the assembler from any packet at all, because both drop
whatever was in progress.
-/
theorem goproPacketBuild_start_refines {call : BuildCall} (packet : GoproPacket)
    (state : Option (Pending Nat UInt8)) (fits : call.Fits)
    (start : call.cmd.kind ≠ .packetCont)
    : Represents (packetBuilder.step packet call).1 (assembler.step state call.frame).1
      ∧ (packetBuilder.step packet call).2.filterMap PacketEvent.message?
        = (assembler.step state call.frame).2 := by
  obtain ⟨cmd, kMalloc⟩ := call
  obtain ⟨small, header, declared, within⟩ := fits
  simp only [packetBuilder, assembler_step, BuildCall.frame] at *
  replace declared := declared start
  replace within := within start
  have brought := GoproCmd.sub_headerLen small header
  rw [if_neg start]
  cases kMalloc with
  | none =>
      by_cases zero : cmd.declaredLen = 0
      · rw [goproPacketBuild_start_zero packet small start zero]
        exact ⟨.idle rfl, startLog_parses_nothing packet cmd⟩
      · rw [goproPacketBuild_start_nomem packet small start zero]
        refine ⟨.idle rfl, ?_⟩
        rw [List.filterMap_append, startLog_parses_nothing]
        rfl
  | some addr =>
      simp only [assemble]
      by_cases zero : cmd.declaredLen = 0
      · rw [goproPacketBuild_start_zero packet small start zero, zero, settle_zero]
        exact ⟨.idle rfl, startLog_parses_nothing packet cmd⟩
      have blank : (List.replicate cmd.declaredLen (0 : UInt8)).length = cmd.declaredLen :=
        List.length_replicate
      have front : (cmd.openedBlock addr).bytes.take cmd.chunk.length = cmd.chunk := by
        rw [GoproCmd.openedBlock, GoproCmd.read_chunk small header]
        exact ByteBuffer.take_write_front (by omega)
      by_cases full : cmd.chunk.length = cmd.declaredLen
      · rw [goproPacketBuild_start_finish packet small start addr zero (by omega),
          settle_complete full (by omega)]
        refine ⟨.idle rfl, ?_⟩
        have whole : (cmd.openedBlock addr).bytes = cmd.chunk := by
          rw [← front, full, List.take_of_length_le]
          simp [GoproCmd.openedBlock]
        simp only [List.filterMap_append, startLog_parses_nothing, openLog_parses_nothing]
        simp [PacketEvent.message?, PacketEvent.parsed?, GoproPacket.message,
          GoproCmd.openedWith, GoproCmd.opened, whole]
      · have missing : cmd.chunk.length < cmd.declaredLen := by omega
        rw [goproPacketBuild_start_store packet small start addr zero (by omega),
          settle_incomplete missing]
        refine ⟨?_, ?_⟩
        · exact .busy rfl (by simp [GoproCmd.openedBlock]) rfl brought front rfl declared
        · rw [List.filterMap_append, startLog_parses_nothing, openLog_parses_nothing]
          rfl

/-- A continuation frame is one step of the assembler from a packet that represents its
state.
-/
theorem goproPacketBuild_cont_refines {call : BuildCall} {packet : GoproPacket}
    {state : Option (Pending Nat UInt8)} (represents : Represents packet state)
    (fits : call.Fits) (cont : call.cmd.kind = .packetCont)
    : Represents (packetBuilder.step packet call).1 (assembler.step state call.frame).1
      ∧ (packetBuilder.step packet call).2.filterMap PacketEvent.message?
        = (assembler.step state call.frame).2 := by
  obtain ⟨cmd, kMalloc⟩ := call
  obtain ⟨small, header, -, -⟩ := fits
  simp only [packetBuilder, assembler_step, BuildCall.frame] at *
  have brought := GoproCmd.sub_headerLen small header
  have short := GoproCmd.chunk_length_le small header
  have chunk := GoproCmd.read_chunk small header
  simp only [cont, GoproPacketType.headerLen] at brought chunk
  rw [if_pos cont]
  cases represents with
  | idle released =>
      rw [goproPacketBuild_cont_idle kMalloc small cont released]
      exact ⟨.idle (by rw [GoproPacket.aim_data, released]), contLog_parses_nothing cmd⟩
  | @busy pending block held size total saved contents handle bounded =>
      have incomplete := pending.incomplete
      unfold goproCmdDataLen at short
      have sum : Word32.add packet.savedLen cmd.chunk.length
          = (pending.saved ++ cmd.chunk).length := by
        rw [saved, List.length_append]
        exact Word32.add_of_lt (by unfold Word32.size; omega)
      have swapped : Word32.add cmd.chunk.length packet.savedLen
          = (pending.saved ++ cmd.chunk).length := by
        rw [← sum, Word32.add, Word32.add, Nat.add_comm]
      have within (room : (pending.saved ++ cmd.chunk).length ≤ pending.total)
          : (contBlock packet block cmd).bytes.take (pending.saved ++ cmd.chunk).length
            = pending.saved ++ cmd.chunk := by
        rw [List.length_append] at room
        simp only [contBlock, chunk, List.length_append]
        rw [saved, ByteBuffer.take_write (by omega), contents]
      simp only [assemble]
      rcases Nat.lt_trichotomy (pending.saved ++ cmd.chunk).length pending.total
        with missing | full | overlong
      · rw [goproPacketBuild_cont_store kMalloc small cont held
          (by rw [brought, swapped]; omega) (by rw [brought, sum]; omega),
          settle_incomplete missing]
        refine ⟨.busy (packet.store_data block cmd) ?_ ?_ ?_ (within (by omega)) ?_ bounded,
          ?_⟩
        · rw [contBlock_length, size]
        · rw [GoproPacket.store_totalLen, total]
        · rw [GoproPacket.store_savedLen, brought, sum]
        · rw [GoproPacket.store_packetType, handle]
        · rw [List.filterMap_append, contLog_parses_nothing]
          rfl
      · rw [goproPacketBuild_cont_finish kMalloc small cont held
          (by rw [brought, swapped]; omega) (by rw [brought, sum]; omega),
          settle_complete full (by omega)]
        refine ⟨.idle rfl, ?_⟩
        have whole : (contBlock packet block cmd).bytes = pending.saved ++ cmd.chunk := by
          rw [← within (by omega), full, List.take_of_length_le]
          rw [contBlock_length, size]
        rw [List.filterMap_append, contLog_parses_nothing]
        simp [PacketEvent.message?, PacketEvent.parsed?, GoproPacket.message, whole, handle,
          List.filterMap_cons]
      · rw [goproPacketBuild_cont_overflow kMalloc small cont held
          (by rw [brought, swapped]; omega), settle_overlong overlong]
        exact ⟨.idle rfl, rfl⟩

/-- A run refines the assembler, with start and continuation frames as the two kinds of steps.
-/
theorem packetBuilder_refines {packet : GoproPacket} {state : Option (Pending Nat UInt8)}
    {calls : List BuildCall} (represents : Represents packet state)
    (fit : ∀ call ∈ calls, call.Fits)
    : Represents (packetBuilder.run packet calls).1
        (assembler.run state (calls.map BuildCall.frame)).1
      ∧ (packetBuilder.run packet calls).2.filterMap PacketEvent.message?
        = (assembler.run state (calls.map BuildCall.frame)).2 := by
  refine InputMachine.run_simulates ?_ represents fit
  intro packet state call represents fits
  by_cases cont : call.cmd.kind = .packetCont
  · exact goproPacketBuild_cont_refines represents fits cont
  · exact goproPacketBuild_start_refines packet state fits cont

/-- A run that begins with a start frame refines the assembler whatever the packet held. -/
theorem packetBuilder_refines_from_start (packet : GoproPacket)
    (state : Option (Pending Nat UInt8)) {first : BuildCall} {rest : List BuildCall}
    (start : first.cmd.kind ≠ .packetCont) (fit : ∀ call ∈ first :: rest, call.Fits)
    : Represents (packetBuilder.run packet (first :: rest)).1
        (assembler.run state ((first :: rest).map BuildCall.frame)).1
      ∧ (packetBuilder.run packet (first :: rest)).2.filterMap PacketEvent.message?
        = (assembler.run state ((first :: rest).map BuildCall.frame)).2 := by
  obtain ⟨opened, shown⟩ :=
    goproPacketBuild_start_refines packet state (fit first (by simp)) start
  have fitRest : ∀ call ∈ rest, call.Fits := fun call member => fit call (by simp [member])
  obtain ⟨final, later⟩ := packetBuilder_refines opened fitRest
  refine ⟨final, ?_⟩
  rw [List.map_cons, InputMachine.run_cons, InputMachine.run_cons, List.filterMap_append,
    shown, later]

end GoproGateway
