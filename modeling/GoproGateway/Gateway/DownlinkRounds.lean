import GoproGateway.Gateway.Downlink
import GoproGateway.Isotp.FailedAllocation
import Mathlib.Data.List.Forall2

/-! Messages from the CAN bus reach the camera.

A message may come in any chunks behind its first buffer. When the receive thread finds memory at
once, the message ends in a block of its own size, its decoding is sent, and both threads are back
where they were.
-/

namespace GoproGateway

open Reassembly

/-- A message for one of the four handles: what it decodes to, the calls that deliver it, the
block it gets, and what lies on the subscriber's stack.
-/
structure CanRequest where
  handle : Nat
  data : List UInt8
  first : List UInt8
  later : List UInt8
  results : List RecvResult
  block : HeapBuffer
  stack : StackBytes

namespace CanRequest

def bytes (request : CanRequest) : List UInt8 := request.first ++ request.later

/-- The inputs of the receive thread from its wait for the permit to its publication. -/
def reception (request : CanRequest) : List IsotpInput :=
  .semTake :: .free
    :: receptionInputs (.frags request.later.length request.first [] :: request.results)
      [some request.block]

/-- The inputs up to the subscriber's receipt. -/
def transfer (request : CanRequest) : List IsotpInput :=
  request.reception ++ [.publish true, .waitMsg]

def inputs (request : CanRequest) : List DownlinkInput :=
  request.transfer.map .isotp ++ [.decode .connected request.stack, .isotp .subscriberGive]

/-- The message is delivered behind a first buffer, and decodes to data for its handle. -/
structure Arrives (nanopb : Nanopb) (request : CanRequest) : Prop where
  known : request.handle < gpCntrlHandleEnd
  delivers : Delivers request.later request.results
  small : request.first.length + request.later.length < 2 ^ 31
  decodes : DecodesTo nanopb request.bytes request.handle request.data

/-- What is published for the camera. -/
def cmds (request : CanRequest) : List GoproCmd :=
  goproSendBuf request.stack request.data request.data.length (UInt8.ofNat request.handle)

end CanRequest

namespace IsotpState

/-- Both threads wait for the next message. -/
structure Rests (s : IsotpState) : Prop where
  handsOver : s.HandsOver
  rx : s.rx = .taking
  subscriber : s.subscriber = .waiting
  queue : s.queue = []
  referenced : ∀ block, s.heap block ≠ none → s.memPkt.data = some block

theorem boot_rests : boot.Rests := ⟨boot_handsOver, rfl, rfl, rfl, nofun⟩

variable {s : IsotpState}

theorem Rests.sem (rests : s.Rests) : s.canIsotpRxSem = 1 := by
  have nothing : s.unfinished = [] := by
    simp [unfinished, rests.subscriber, rests.queue, RxSubscriberPhase.pkt]
  cases rests.handsOver.permit with
  | free sem => exact sem
  | receiveThread _ holds =>
      rw [rests.rx] at holds
      exact holds.elim
  | message pkt _ _ unfinished => cases nothing.symm.trans unfinished

/-- The thread that has the permit, about to free its last block. -/
def permitted (s : IsotpState) : IsotpState :=
  { s with canIsotpRxSem := s.canIsotpRxSem - 1, rx := .freeing }

theorem Rests.step_semTake (rests : s.Rests) : s.step .semTake = (s.permitted, []) := by
  have available : s.rx = .taking ∧ 0 < s.canIsotpRxSem := ⟨rests.rx, by rw [rests.sem]; decide⟩
  simp only [step, if_pos available]
  rfl

/-- Behind the free no block is allocated. -/
theorem Rests.free_heap (rests : s.Rests) (block : HeapBuffer)
    : s.permitted.free.1.heap block = none := by
  by_contra allocated
  unfold free at allocated
  cases data : s.permitted.memPkt.data with
  | none =>
      rw [data] at allocated
      have held : s.memPkt.data = some block := rests.referenced block allocated
      exact nomatch data.symm.trans held
  | some own =>
      simp only [data] at allocated
      rcases eq_or_ne block own with rfl | different
      · simp at allocated
      · rw [Function.update_of_ne different] at allocated
        have held : s.memPkt.data = some block := rests.referenced block allocated
        exact different (Option.some.inj (held.symm.trans data))

theorem Rests.free_receives (rests : s.Rests) : s.permitted.free.1.Receives := by
  obtain ⟨rx, memPkt⟩ := s.permitted.free_unallocated
  refine ⟨?_, ?_, ?_, ?_⟩
  · rw [InLoop, rx]
    trivial
  · rw [memPkt]
    exact Int.le_refl 0
  · intro block allocated
    exact absurd (rests.free_heap block) allocated
  · intro remLen size allocating
    rw [rx] at allocating
    cases allocating

theorem Receives.run (receives : s.Receives) {inputs : List IsotpInput}
    (noFailure : ∀ input ∈ inputs, ∀ s : IsotpState, s.NoFailure input)
    : (isotpMachine.run s inputs).1.Receives := by
  induction inputs generalizing s with
  | nil => exact receives
  | cons input rest ih =>
      apply ih (step_goes receives (noFailure input (by simp) s)).receives
      exact fun other member => noFailure other (by simp [member])

end IsotpState

/-- A delivery has no errors. -/
theorem Delivers.noFailure {later : List UInt8} {results : List RecvResult}
    (delivers : Delivers later results)
    : ∀ result ∈ results, ∀ s : IsotpState, s.NoFailure (.recvNet result) := by
  induction delivers with
  | done => exact nofun
  | chain more delivers ih => exact List.forall_mem_cons.mpr ⟨fun s => trivial, ih⟩

namespace CanRequest

variable {nanopb : Nanopb} {request : CanRequest} {s : IsotpState}

/-- A message is in its block when the receive thread is about to publish it, and no other
block is allocated.
-/
theorem Arrives.received (arrives : request.Arrives nanopb) (rests : s.Rests)
    : let received := (isotpMachine.run s request.reception).1
      received.Assembling request.block request.bytes 0
      ∧ received.rx = .publishing
      ∧ received.HandsOver
      ∧ (∀ block, received.heap block ≠ none → received.memPkt.data = some block)
      ∧ (isotpMachine.run s request.reception).2.filterMap publishedBytes = [] := by
  have unallocated := s.permitted.free_unallocated
  have available := rests.free_heap request.block
  have completes := reception_completes [] unallocated available arrives.small arrives.delivers
  obtain ⟨assembled, -⟩ :=
    reception_assembles unallocated available arrives.delivers arrives.small rfl
  have noFailure : ∀ input ∈ receptionInputs
      (.frags request.later.length request.first [] :: request.results) [some request.block],
      ∀ s : IsotpState, s.NoFailure input := by
    simp only [receptionInputs, List.forall_mem_cons]
    refine ⟨fun s => trivial, fun s => trivial, ?_⟩
    intro input member
    obtain ⟨result, listed, rfl⟩ := List.mem_map.mp member
    exact arrives.delivers.noFailure result listed
  have receives := rests.free_receives.run noFailure
  have freeing : s.permitted.rx = .freeing := rfl
  have freed : isotpMachine.step s.permitted .free = s.permitted.free := step_free freeing
  have permits : isotpMachine.step s .semTake = (s.permitted, []) := rests.step_semTake
  have handsOver := rests.handsOver.run request.reception
  have quiet : s.permitted.free.2.filterMap publishedBytes = [] := by
    unfold IsotpState.free
    split <;> rfl
  simp only [reception, InputMachine.run_cons, permits, freed] at handsOver ⊢
  refine ⟨assembled, completes.rx, handsOver, receives.referenced, ?_⟩
  rw [List.nil_append, List.filterMap_append, quiet, completes.quiet, List.append_nil]

/-- The subscriber has the packet of a message, and the receive thread waits. -/
structure Transferred (request : CanRequest) (s : IsotpState) (pkt : RecvPkt) : Prop where
  subscriber : s.subscriber = .received pkt
  bytes : pkt.bytes s.heap = request.bytes
  handsOver : s.HandsOver
  rx : s.rx = .taking
  queue : s.queue = []
  referenced : ∀ block, s.heap block ≠ none → s.memPkt.data = some block

theorem Arrives.transferred (arrives : request.Arrives nanopb) (rests : s.Rests)
    : ∃ pkt, request.Transferred (isotpMachine.run s request.transfer).1 pkt := by
  obtain ⟨assembled, rx, handsOver, referenced, -⟩ := arrives.received rests
  have later := rests.handsOver.run request.transfer
  simp only [transfer, InputMachine.run_append] at later ⊢
  generalize (isotpMachine.run s request.reception).1 = received at *
  obtain ⟨-, nothing⟩ := handsOver.permit.unfinished_nil (IsotpState.holds_of_eq rx trivial)
  obtain ⟨own, queue⟩ := List.append_eq_nil_iff.mp nothing
  have waiting : received.subscriber = .waiting := by
    cases phase : received.subscriber with
    | waiting => rfl
    | received | handled => simp [phase, RxSubscriberPhase.pkt] at own
  have bytes : received.memPkt.bytes received.heap = request.bytes := by
    rw [RecvPkt.bytes, assembled.memPkt, Option.bind_some, assembled.heap]
    simp
  have run : isotpMachine.run received [.publish true, .waitMsg]
      = ({ received with rx := .taking, subscriber := .received received.memPkt },
          [.published received.memPkt (received.memPkt.bytes received.heap)]) := by
    simp [isotpMachine, IsotpState.step, rx, IsotpState.publish, queue, waiting]
  rw [run] at later ⊢
  exact ⟨received.memPkt, rfl, bytes, later, rfl, queue, referenced⟩

/-- The last two inputs of a message, in the receive path. -/
theorem Transferred.finishes {pkt : RecvPkt} (transferred : request.Transferred s pkt)
    : (s.step .decode).2 = [.processed pkt request.bytes]
      ∧ ((s.step .decode).1.step .subscriberGive).1.Rests
      ∧ ((s.step .decode).1.step .subscriberGive).2 = [] := by
  have decode : s.step .decode
      = ({ s with subscriber := .handled pkt }, [.processed pkt request.bytes]) := by
    simp only [IsotpState.step, transferred.subscriber, transferred.bytes]
  have handsOver := (IsotpState.step_good .decode transferred.handsOver).handsOver
  have settled := (IsotpState.step_good .subscriberGive handsOver).handsOver
  rw [decode] at settled ⊢
  exact ⟨rfl, ⟨settled, transferred.rx, rfl, transferred.queue, transferred.referenced⟩, rfl⟩

end CanRequest

-----------------------------------------------------------------------------------------
-- One message
-----------------------------------------------------------------------------------------

section Downlink

variable {nanopb : Nanopb} {request : CanRequest} {s : DownlinkState}

/-- Inputs of the receive path attempt nothing for the camera. -/
theorem downlink_isotp {inputs : List IsotpInput} (noDecode : .decode ∉ inputs)
    : (downlinkMachine nanopb).run s (inputs.map .isotp)
      = ({ s with isotp := (isotpMachine.run s.isotp inputs).1 },
          (isotpMachine.run s.isotp inputs).2.map .isotp) := by
  induction inputs generalizing s with
  | nil => rfl
  | cons input inputs ih =>
      obtain ⟨first, later⟩ := not_or.mp (mt List.mem_cons.mpr noDecode)
      have step : (downlinkMachine nanopb).step s (.isotp input)
          = ({ s with isotp := (isotpMachine.step s.isotp input).1 },
              (isotpMachine.step s.isotp input).2.map .isotp) :=
        if_neg fun same => first same.symm
      rw [List.map_cons, InputMachine.run_cons, step, ih later]
      simp

/-- What the loop does with a message that decodes to data for a handle, while connected. -/
theorem canRxBleStep_connected {bytes data : List UInt8} {handle : Nat}
    (known : handle < gpCntrlHandleEnd) (decodes : DecodesTo nanopb bytes handle data)
    (buff : BleDataBuff)
    : (canRxBleStep nanopb buff ⟨bytes, .connected⟩).2
        = [.goproSendBuf data (UInt8.ofNat handle), .giveCanIsotpRxSem]
      ∧ data.length ≤ bledataBuffSize := by
  unfold gpCntrlHandleEnd at known
  obtain ⟨complete, ok, addr, content⟩ := decodes buff
  have byte : UInt8.ofInt (handle : Int) = UInt8.ofNat handle := by
    rcases (by omega : handle = 0 ∨ handle = 1 ∨ handle = 2 ∨ handle = 3)
      with rfl | rfl | rfl | rfl <;> rfl
  have below : (handle : Int) < gpCntrlHandleEnd := by
    unfold gpCntrlHandleEnd
    omega
  constructor
  · simp only [canRxBleStep, complete, ok, Bool.and_self, if_true, routeBledata, addr, below,
      content, byte]
    rfl
  · rw [← content, ByteBuffer.read, List.drop_zero, List.length_take, BleDataBuff.bytes_length]
    exact Nat.min_le_right _ _

/-- The inputs of a message attempt its frames, and leave the threads at rest. -/
theorem CanRequest.Arrives.sends (arrives : request.Arrives nanopb) (rests : s.isotp.Rests)
    : ((downlinkMachine nanopb).run s request.inputs).1.isotp.Rests
      ∧ cameraCmds ((downlinkMachine nanopb).run s request.inputs).2 = request.cmds := by
  obtain ⟨pkt, transferred⟩ := arrives.transferred rests
  obtain ⟨decoded, final, silent⟩ := transferred.finishes
  have noDecode : .decode ∉ request.transfer := by
    simp [transfer, reception, receptionInputs]
  rw [CanRequest.inputs, InputMachine.run_append, downlink_isotp noDecode]
  generalize (isotpMachine.run s.isotp request.transfer).1 = isotp at *
  obtain ⟨handled, -⟩ := canRxBleStep_connected arrives.known arrives.decodes s.buff
  have cmds : attemptedCmds request.stack
      [.goproSendBuf request.data (UInt8.ofNat request.handle), .giveCanIsotpRxSem]
      = request.cmds := by
    simp [attemptedCmds, CanRequest.cmds]
  have step : (downlinkMachine nanopb).step ⟨isotp, s.buff⟩ (.decode .connected request.stack)
      = (⟨(isotp.step .decode).1,
            (canRxBleStep nanopb s.buff ⟨request.bytes, .connected⟩).1⟩,
          (isotp.step .decode).2.map .isotp
            ++ (canRxBleStep nanopb s.buff ⟨request.bytes, .connected⟩).2.map .gateway
            ++ request.cmds.map .attempted) := by
    simp only [downlinkMachine, DownlinkState.step, DownlinkState.decode, decoded,
      processedBytes, IsotpState.left, List.filterMap_cons, List.filterMap_nil, List.map_cons,
      List.map_nil, InputMachine.run_cons, InputMachine.run_nil, canRxBleSubscriber, handled,
      List.append_nil, cmds]
  have give (buff : BleDataBuff)
      : (downlinkMachine nanopb).step ⟨(isotp.step .decode).1, buff⟩ (.isotp .subscriberGive)
        = (⟨((isotp.step .decode).1.step .subscriberGive).1, buff⟩, []) := by
    simp [downlinkMachine, DownlinkState.step, silent]
  simp only [InputMachine.run_cons, InputMachine.run_nil, step, give]
  exact ⟨final, by simp⟩

end Downlink

-----------------------------------------------------------------------------------------
-- What the camera gets
-----------------------------------------------------------------------------------------

/-- The frames of data that take several are one message of their handle. -/
theorem CanRequest.Arrives.framed {nanopb : Nanopb} {request : CanRequest}
    (arrives : request.Arrives nanopb) (long : 20 < request.data.length)
    : AreFramesOf request.cmds ⟨request.handle, request.data⟩ := by
  obtain ⟨-, short⟩ := canRxBleStep_connected arrives.known arrives.decodes .zero
  have known := arrives.known
  unfold gpCntrlHandleEnd at known
  unfold bledataBuffSize at short
  obtain ⟨start, rest, -, message, nonempty, whole⟩ :=
    goproSendBuf_long request.stack (UInt8.ofNat request.handle) (Nat.le_refl _) long (by omega)
  have key : (UInt8.ofNat request.handle).toNat = request.handle := by
    rw [UInt8.toNat_ofNat']
    omega
  rw [List.take_length] at whole
  rw [key] at message
  have some : request.data.take 18 ++ rest.flatten ≠ [] := by
    rw [whole]
    exact List.ne_nil_of_length_pos (by omega)
  refine ⟨⟨request.handle, request.data.take 18, rest, nonempty, some⟩, ?_, ?_⟩
  · simp only [Framing.message, Framing.body, whole]
  · simp only [Framing.body, whole]
    exact message

/-- Messages that come one after another over the CAN bus while the client is connected, each in
chunks of any size, all lead to publications for the camera, in order and once, each of the frames
of its own data on its own handle. Where the data take several frames, reassembly of all these
frames gives exactly the handles and the data back, from any packet state.
-/
theorem downlinkMachine_forwards (nanopb : Nanopb) (s : DownlinkState) (rests : s.isotp.Rests)
    (requests : List CanRequest) (arrive : ∀ request ∈ requests, request.Arrives nanopb)
    : cameraCmds ((downlinkMachine nanopb).run s (requests.flatMap CanRequest.inputs)).2
        = requests.flatMap CanRequest.cmds
      ∧ ((∀ request ∈ requests, 20 < request.data.length)
        → ∀ (packet : GoproPacket) (calls : List BuildCall),
          calls.map BuildCall.cmd
            = cameraCmds ((downlinkMachine nanopb).run s (requests.flatMap CanRequest.inputs)).2
          → (∀ call ∈ calls, call.kMalloc ≠ none)
          → (parsedPackets (packetBuilder.run packet calls).2).map GoproPacket.message
            = requests.map fun request => ⟨request.handle, request.data⟩) := by
  have sent : cameraCmds ((downlinkMachine nanopb).run s
      (requests.flatMap CanRequest.inputs)).2 = requests.flatMap CanRequest.cmds := by
    induction requests generalizing s with
    | nil => rfl
    | cons request requests ih =>
        obtain ⟨after, cmds⟩ := (arrive request (by simp)).sends rests
        rw [List.flatMap_cons, InputMachine.run_append, cameraCmds_append, cmds,
          List.flatMap_cons]
        refine congrArg _ ?_
        exact ih _ after (fun request member => arrive request (by simp [member]))
  refine ⟨sent, ?_⟩
  intro long packet calls frames allocate
  rw [sent, List.flatMap_def] at frames
  refine AreFramesOf.parses_row ?_ ?_ packet frames allocate
  · rw [List.forall₂_map_left_iff, List.forall₂_map_right_iff, List.forall₂_same]
    exact fun request member => (arrive request member).framed (long request member)
  · rw [List.forall_mem_map]
    exact fun request member => (arrive request member).known

/-- A query of 21 bytes, of which the first call returns six bytes of the encoding. -/
def longQuery : CanRequest where
  handle := 2
  data := List.replicate 21 0x55
  first := [0x08, 0x02, 0x12, 0x15, 0x55, 0x55]
  later := List.replicate 19 0x55
  results := [.frags 0 (List.replicate 19 0x55) []]
  block := 3
  stack := .zero

theorem longQuery_arrives : longQuery.Arrives referenceNanopb where
  known := by decide
  delivers := @Delivers.chain (List.replicate 19 0x55) [] [] [] (by decide) .done
  small := by decide
  decodes := by
    have bytes : longQuery.bytes = bledataEncoding 2 (List.replicate 21 0x55) := by decide
    rw [bytes]
    exact bledataEncoding_decodes referenceNanopb_follows (by unfold IsInt32; decide)
      (by decide)

theorem downlinkMachine_forwards_query
    : cameraCmds ((downlinkMachine referenceNanopb).run .boot longQuery.inputs).2
        = longQuery.cmds
      ∧ ∀ (packet : GoproPacket) (calls : List BuildCall),
        calls.map BuildCall.cmd = longQuery.cmds → (∀ call ∈ calls, call.kMalloc ≠ none)
        → (parsedPackets (packetBuilder.run packet calls).2).map GoproPacket.message
          = [⟨2, List.replicate 21 0x55⟩] := by
  obtain ⟨sent, reassembled⟩ := downlinkMachine_forwards referenceNanopb .boot
    IsotpState.boot_rests [longQuery] (by
      intro request member
      rw [List.mem_singleton.mp member]
      exact longQuery_arrives)
  simp only [List.flatMap_singleton] at sent reassembled
  refine ⟨sent, ?_⟩
  intro packet calls frames allocate
  rw [← sent] at frames
  exact reassembled (by simp [longQuery]) packet calls frames allocate

end GoproGateway
