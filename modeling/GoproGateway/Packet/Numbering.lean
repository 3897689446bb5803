import GoproGateway.Packet.Concatenation

/-! What the numbers of continuation frames are good for.

`gopro_packet_build` reads the number for its log only. Whether a message is parsed depends on
how many bytes have come, so frames that are lost, repeated, or out of order go unnoticed when
the number of bytes is right.
-/

namespace GoproGateway

open Reassembly

/-- `packet_num` of a continuation frame. -/
def packetNum (cmd : GoproCmd) : Nat := (cmd.byte 0 &&& 0x0F).toNat

/-- The numbers are consecutive from 0 on, modulo 16. -/
def InSequence (conts : List GoproCmd) : Prop :=
  ∀ index frame, conts[index]? = some frame → packetNum frame = index % 16

/-- What frames bring for their message, one by one. -/
def broughtChunks (received : List BuildCall) : List (List UInt8) :=
  received.map fun call => call.cmd.chunk

/-- The chunks with which a message of `total` bytes is complete. -/
def Completes (total : Nat) (first : List UInt8) (seen : List (List UInt8)) : Prop :=
  (first ++ seen.flatten).length = total

/-- Behind a start frame, in the order of their arrival, some of the received frames complete
the message, and their bytes are what is parsed; or no number of them does, and nothing is.
-/
inductive ParsesWhenComplete (total : Nat) (first : List UInt8) (received : List BuildCall)
    : List GoproPacket → Prop
  | complete {seen : List (List UInt8)} {parsed : GoproPacket}
      (arrived : seen <+: broughtChunks received) (completes : Completes total first seen)
      (data : parsed.data.map Block.bytes = some (first ++ seen.flatten))
      : ParsesWhenComplete total first received [parsed]
  | incomplete
      (never : ∀ seen, seen <+: broughtChunks received → ¬ Completes total first seen)
      : ParsesWhenComplete total first received []

section Received

variable {handle total : Nat} {first : List UInt8} {start : BuildCall}
  {received : List BuildCall}
  (conts : ∀ call ∈ received, ∃ chunk, call.cmd.IsCont handle chunk)

include conts

theorem received_frames : received.map BuildCall.frame = (broughtChunks received).map .more := by
  rw [broughtChunks, List.map_map]
  refine List.map_congr_left fun call member => ?_
  obtain ⟨chunk, isCont⟩ := conts call member
  rw [isCont.frame, Function.comp_apply, isCont.reads.2.1]

variable (opens : start.cmd.IsStart handle total first) (missing : first.length < total)

include opens missing

/-- What the run shows is what the assembler delivers. -/
theorem received_delivers (packet : GoproPacket)
    : (parsedPackets (packetBuilder.run packet (start :: received)).2).map GoproPacket.message
      = (assembler.run none (start.frame :: (broughtChunks received).map .more)).2 := by
  have fit : ∀ call ∈ start :: received, call.Fits := by
    refine List.forall_mem_cons.mpr ⟨opens.fits (Nat.le_of_lt missing), ?_⟩
    intro call member
    obtain ⟨chunk, isCont⟩ := conts call member
    exact isCont.fits
  obtain ⟨-, shown⟩ := packetBuilder_refines_from_start packet none opens.reads.1 fit
  rw [filterMap_message?, List.map_cons, received_frames conts] at shown
  exact shown

/-- Without memory for the message nothing is parsed. -/
theorem received_unallocated (packet : GoproPacket) (noMemory : start.kMalloc = none)
    : parsedPackets (packetBuilder.run packet (start :: received)).2 = [] := by
  have delivered := received_delivers conts opens missing packet
  have abandoned : start.frame = .abandon := by
    rw [BuildCall.frame, if_neg opens.reads.1, noMemory]
  rw [abandoned, InputMachine.run_cons assembler, assembler_step, assemble, run_more_idle]
    at delivered
  exact List.map_eq_nil_iff.mp delivered

theorem received_parsesWhenComplete (packet : GoproPacket) (handle_lt : handle < gpCntrlHandleEnd)
    (allocates : start.kMalloc ≠ none)
    : ParsesWhenComplete total first received
        (parsedPackets (packetBuilder.run packet (start :: received)).2) := by
  have delivered := received_delivers conts opens missing packet
  rw [opens.frame handle_lt allocates, InputMachine.run_cons assembler, assembler_step,
    assemble, settle_incomplete missing, List.nil_append] at delivered
  rcases run_more_delivers ⟨handle, total, first, missing⟩ (broughtChunks received)
    with ⟨seen, arrived, completes, message⟩ | ⟨never, nothing⟩
  · rw [message] at delivered
    obtain ⟨parsed, only, carried⟩ := List.map_eq_singleton_iff.mp delivered
    rw [only]
    refine .complete arrived completes ?_
    have body : (parsed.data.map Block.bytes).getD [] = first ++ seen.flatten :=
      congrArg Message.body carried
    cases data : parsed.data with
    | none =>
        rw [data, Option.map_none, Option.getD_none] at body
        have size : (first ++ seen.flatten).length = total := completes
        rw [← body, List.length_nil] at size
        omega
    | some block =>
        rw [data] at body
        exact congrArg some body
  · rw [nothing] at delivered
    rw [List.map_eq_nil_iff.mp delivered]
    exact .incomplete never

end Received

/-- Behind the start frame of a message of several frames, whatever of its continuation frames
arrive, and in whatever order: at most one packet is parsed, and only when the frames received
so far bring exactly the bytes that are missing; these bytes are then its data, in the order of
their arrival. Witness: the assembler counts cells.
-/
theorem goproPacketBuild_countsBytes (packet : GoproPacket) (handle : Nat)
    (handle_lt : handle < gpCntrlHandleEnd) (first : List UInt8) (rest : List (List UInt8))
    (several : rest.flatten ≠ []) (start : BuildCall) (conts : List GoproCmd)
    (message : IsMessage handle (first ++ rest.flatten).length first rest (start.cmd :: conts))
    (received : List BuildCall) (altered : ∀ call ∈ received, call.cmd ∈ conts)
    : (start.kMalloc = none
        → parsedPackets (packetBuilder.run packet (start :: received)).2 = [])
      ∧ (start.kMalloc ≠ none
        → ParsesWhenComplete (first ++ rest.flatten).length first received
          (parsedPackets (packetBuilder.run packet (start :: received)).2)) := by
  cases message with
  | frames opens continues =>
      have conts (call : BuildCall) (member : call ∈ received)
          : ∃ chunk, call.cmd.IsCont handle chunk :=
        isCont_of_mem continues call.cmd (altered call member)
      have missing : first.length < (first ++ rest.flatten).length := by
        have positive := List.length_pos_iff.mpr several
        rw [List.length_append]
        omega
      exact ⟨received_unallocated conts opens missing packet,
        received_parsesWhenComplete conts opens missing packet handle_lt⟩

-----------------------------------------------------------------------------------------
-- Two frames of the same size
-----------------------------------------------------------------------------------------

def twoConts : List GoproCmd := [.ofBytes 2 [0x80, 0x00], .ofBytes 2 [0x81, 0x08]]

def twoContsStart : BuildCall := ⟨.ofBytes 2 [0x03, 0x13], some 0⟩

theorem twoConts_message
    : IsMessage 2 ([0x13] ++ [[0x00], [0x08]].flatten).length [0x13] [[0x00], [0x08]]
        (twoContsStart.cmd :: twoConts) :=
  .frames ⟨rfl, by decide, _, .bit5 (by decide), rfl⟩
    (.cons ⟨rfl, by decide, 0x80, by decide, rfl⟩
      (.cons ⟨rfl, by decide, 0x81, by decide, rfl⟩ .nil))

def secondContTwice : List BuildCall := List.replicate 2 ⟨.ofBytes 2 [0x81, 0x08], none⟩

theorem goproPacketBuild_countsBytes_repeated
    : ParsesWhenComplete ([0x13] ++ [[0x00], [0x08]].flatten).length [0x13] secondContTwice
        (parsedPackets (packetBuilder.run .zero (twoContsStart :: secondContTwice)).2) :=
  (goproPacketBuild_countsBytes .zero 2 (by decide) [0x13] [[0x00], [0x08]] (by decide)
    twoContsStart twoConts twoConts_message secondContTwice (by decide)).2 (by decide)

/-- Swapped, the two frames of one size are parsed all the same. -/
theorem goproPacketBuild_swapped
    : ¬ ∀ (packet : GoproPacket) (handle : Nat) (first : List UInt8) (rest : List (List UInt8))
        (start : BuildCall) (conts : List GoproCmd) (received : List BuildCall),
      handle < gpCntrlHandleEnd → rest.flatten ≠ []
      → IsMessage handle (first ++ rest.flatten).length first rest (start.cmd :: conts)
      → InSequence conts
      → (∀ call ∈ received, call.cmd ∈ conts)
      → parsedPackets (packetBuilder.run packet (start :: received)).2 ≠ []
      → InSequence (received.map BuildCall.cmd) := by
  intro every
  have numbered : InSequence twoConts := by
    intro index frame at_index
    match index with
    | 0 | 1 =>
        obtain rfl := Option.some.inj at_index
        decide
    | _ + 2 => cases at_index
  have ordered := every .zero 2 [0x13] [[0x00], [0x08]] twoContsStart twoConts
    [⟨.ofBytes 2 [0x81, 0x08], none⟩, ⟨.ofBytes 2 [0x80, 0x00], none⟩] (by decide) (by decide)
    twoConts_message numbered (by decide) (by decide)
  exact absurd (ordered 0 (.ofBytes 2 [0x81, 0x08]) rfl) (by decide)

end GoproGateway
