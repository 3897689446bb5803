import GoproGateway.Packet.Refinement

/-! Reassembly is concatenation.

The frames of one message produce exactly one parsed packet, on the last frame, and its block
holds the chunks one after the other, from whatever state the packet was left in.
-/

namespace GoproGateway

open Reassembly

structure PacketHead where
  totalLen : Nat
  packetLen : Nat
  packetType : Nat
  feature : UInt8
  action : UInt8
  deriving DecidableEq, Repr

def GoproPacket.head (packet : GoproPacket) : PacketHead where
  totalLen := packet.totalLen
  packetLen := packet.packetLen
  packetType := packet.packetType
  feature := packet.feature
  action := packet.action

theorem startLog_parses_none (packet : GoproPacket) (cmd : GoproCmd)
    : parsedPackets (startLog packet cmd) = [] := by
  have none := startLog_parses_nothing packet cmd
  rw [filterMap_message?] at none
  exact List.map_eq_nil_iff.mp none

theorem parsedPackets_append (before after : List PacketEvent)
    : parsedPackets (before ++ after) = parsedPackets before ++ parsedPackets after :=
  List.filterMap_append ..

/-- A continuation frame keeps the head, and parses a packet with this head if any. -/
theorem packetBuilder_cont_head (packet : GoproPacket) {call : BuildCall}
    (small : call.cmd.len ≤ goproCmdDataLen) (cont : call.cmd.kind = .packetCont)
    : (packetBuilder.step packet call).1.head = packet.head
      ∧ ∀ parsed ∈ parsedPackets (packetBuilder.step packet call).2,
        parsed.head = packet.head := by
  obtain ⟨cmd, kMalloc⟩ := call
  have outcome := goproPacketBuild_cont_outcome packet kMalloc small cont
  simp only [packetBuilder]
  generalize goproPacketBuild kMalloc packet cmd = traced at outcome ⊢
  cases outcome with
  | idle | overflow | store => exact ⟨rfl, by simp [parsedPackets, contLog]⟩
  | @finish block =>
      have kept : (packet.store block cmd).head = packet.head := rfl
      exact ⟨rfl, by simp [parsedPackets, contLog, kept]⟩

/-- A start frame sets the head, and parses a packet with this head if any. -/
theorem packetBuilder_start_head (packet : GoproPacket) {call : BuildCall}
    (small : call.cmd.len ≤ goproCmdDataLen) (start : call.cmd.kind ≠ .packetCont)
    : (packetBuilder.step packet call).1.head = call.cmd.opened.head
      ∧ ∀ parsed ∈ parsedPackets (packetBuilder.step packet call).2,
        parsed.head = call.cmd.opened.head := by
  obtain ⟨cmd, kMalloc⟩ := call
  have outcome := goproPacketBuild_start_outcome packet kMalloc small start
  simp only [packetBuilder] at *
  generalize goproPacketBuild kMalloc packet cmd = traced at outcome ⊢
  cases outcome with
  | zero => exact ⟨rfl, by rw [startLog_parses_none]; simp⟩
  | nomem =>
      refine ⟨rfl, ?_⟩
      rw [parsedPackets_append, startLog_parses_none]
      simp [parsedPackets]
  | store =>
      refine ⟨rfl, ?_⟩
      rw [parsedPackets_append, startLog_parses_none]
      simp [parsedPackets, openLog]
  | @finish addr =>
      have kept : (cmd.openedWith addr).head = cmd.opened.head := rfl
      refine ⟨rfl, ?_⟩
      rw [parsedPackets_append, parsedPackets_append, startLog_parses_none]
      simp [parsedPackets, openLog, kept]

/-- Every packet parsed behind a start frame has the head of that frame, by induction on
the continuation frames.
-/
theorem packetBuilder_conts_head (packet : GoproPacket) {calls : List BuildCall}
    (conts : ∀ call ∈ calls, call.cmd.len ≤ goproCmdDataLen ∧ call.cmd.kind = .packetCont)
    : ∀ parsed ∈ parsedPackets (packetBuilder.run packet calls).2,
        parsed.head = packet.head := by
  induction calls generalizing packet with
  | nil => simp [parsedPackets]
  | cons call rest ih =>
      obtain ⟨small, cont⟩ := conts call (by simp)
      obtain ⟨kept, first⟩ := packetBuilder_cont_head packet small cont
      have later := ih (packetBuilder.step packet call).1
        (fun call member => conts call (by simp [member]))
      intro parsed member
      rw [InputMachine.run_cons, parsedPackets_append, List.mem_append] at member
      rcases member with here | there
      · exact first parsed here
      · rw [later parsed there, kept]

/-- Feature and action are the first two bytes of a message whose start frame has room for
both.
-/
theorem StartHeader.feature_action {cmd : GoproCmd} {total : Nat}
    {header chunk : List UInt8} (wellFormed : StartHeader total header)
    (framed : cmd.payload = header ++ chunk) (room : 2 ≤ chunk.length)
    : chunk[0]? = some cmd.opened.feature ∧ chunk[1]? = some cmd.opened.action := by
  obtain ⟨start, valid, size, -, -⟩ := wellFormed.announces framed
  have byte_eq (index : Nat) (inside : index < chunk.length)
      : chunk[index]? = some (cmd.byte (cmd.kind.headerLen + index)) := by
    have read : cmd.byte (cmd.kind.headerLen + index) = chunk[index] := by
      refine GoproCmd.byte_of_payload ?_
      rw [framed, size, List.getElem?_append_right (by omega), Nat.add_sub_cancel_left,
        List.getElem?_eq_getElem inside]
    rw [read, List.getElem?_eq_getElem inside]
  rw [byte_eq 0 (by omega), byte_eq 1 (by omega)]
  simp only [GoproCmd.opened, goproPacketGetFeature, goproPacketGetType_value,
    Traced.bind_value, GoproCmd.load]
  cases kind : cmd.kind with
  | packet5bit | packet13bit | packet16bit => exact ⟨rfl, rfl⟩
  | packetCont => exact absurd kind start
  | packetInvalid => exact absurd kind valid

-----------------------------------------------------------------------------------------
-- The frames of one message
-----------------------------------------------------------------------------------------

section Message

variable {handle total : Nat} {first : List UInt8} {rest : List (List UInt8)}

/-- Continuation frames as the assembler sees them. -/
theorem conts_frames {conts : List BuildCall}
    (continues : List.Forall₂ (fun cmd chunk => GoproCmd.IsCont cmd handle chunk)
      (conts.map BuildCall.cmd) rest)
    : conts.map BuildCall.frame = rest.map Frame.more
      ∧ ∀ call ∈ conts, call.Fits ∧ call.cmd.kind = .packetCont := by
  induction conts generalizing rest with
  | nil =>
      cases continues
      simp
  | cons call conts ih =>
      rw [List.map_cons] at continues
      cases continues with
      | cons here there =>
          obtain ⟨frames, fit⟩ := ih there
          refine ⟨by rw [List.map_cons, List.map_cons, here.frame, frames], ?_⟩
          intro other member
          rcases List.mem_cons.mp member with rfl | member
          · exact ⟨here.fits, here.reads.1⟩
          · exact fit other member

theorem IsMessage.total_lt {cmds : List GoproCmd}
    (message : IsMessage handle total first rest cmds)
    : total < 65536 := by
  cases message with
  | frames opens => exact opens.reads.2.2.1

/-- The frames of one message are those of its framing. -/
theorem IsMessage.frames_eq {calls : List BuildCall} (framing : Framing Nat UInt8)
    (message : IsMessage framing.key framing.body.length framing.first framing.rest
      (calls.map BuildCall.cmd))
    (handle_lt : framing.key < gpCntrlHandleEnd)
    (allocate : ∀ call ∈ calls, call.kMalloc ≠ none)
    : calls.map BuildCall.frame = framing.frames ∧ ∀ call ∈ calls, call.Fits := by
  cases calls with
  | nil => nomatch message
  | cons start conts =>
      rw [List.map_cons] at message
      cases message with
      | frames opens continues =>
          obtain ⟨frames, fit⟩ := conts_frames continues
          constructor
          · rw [List.map_cons, opens.frame handle_lt (allocate start (by simp)), frames]
            rfl
          · intro call member
            rcases List.mem_cons.mp member with rfl | member
            · refine opens.fits ?_
              simp [Framing.body]
            · exact (fit call member).1

end Message

/-- The only packet that the frames of a message hand to the parser. -/
structure GoproPacket.Carries (parsed : GoproPacket) (framing : Framing Nat UInt8) : Prop where
  data : parsed.data.map Block.bytes = some framing.body
  totalLen : parsed.totalLen = framing.body.length
  packetType : parsed.packetType = framing.key
  packetLen : parsed.packetLen = Word32.sub framing.body.length 2
  fields : 2 ≤ framing.first.length
    → framing.body[0]? = some parsed.feature ∧ framing.body[1]? = some parsed.action

section Run

variable {framing : Framing Nat UInt8} {calls : List BuildCall}
  (message : IsMessage framing.key framing.body.length framing.first framing.rest
    (calls.map BuildCall.cmd))
  (handle_lt : framing.key < gpCntrlHandleEnd)
  (allocate : ∀ call ∈ calls, call.kMalloc ≠ none)

include message handle_lt allocate

/-- The frames of a message hand it to the parser, whatever the packet held before, and
leave the packet without a block.
-/
theorem IsMessage.parses (packet : GoproPacket)
    : (∃ parsed,
        parsedPackets (packetBuilder.run packet calls).2 = [parsed]
        ∧ parsed.Carries framing)
      ∧ (packetBuilder.run packet calls).1.data = none := by
  obtain ⟨frames, fit⟩ := message.frames_eq framing handle_lt allocate
  cases calls with
  | nil => nomatch message
  | cons start conts =>
      rw [List.map_cons] at message
      cases message with
      | frames opens continues =>
      obtain ⟨begins, declared, _, _, _⟩ := opens.reads
      obtain ⟨final, shown⟩ := packetBuilder_refines_from_start packet none begins fit
      rw [frames, framing.run_frames] at final shown
      rw [filterMap_message?] at shown
      obtain ⟨parsed, only, carried⟩ := List.map_eq_singleton_iff.mp shown
      refine ⟨⟨parsed, only, ?_⟩, by cases final; assumption⟩
      have head : parsed.head = start.cmd.opened.head := by
        have member : parsed ∈ parsedPackets (packetBuilder.run packet (start :: conts)).2 := by
          rw [only]
          exact List.mem_singleton_self parsed
        obtain ⟨opened, first⟩ := packetBuilder_start_head packet opens.small begins
        rw [InputMachine.run_cons, parsedPackets_append, List.mem_append] at member
        rcases member with here | there
        · exact first parsed here
        · rw [← opened]
          refine packetBuilder_conts_head _ (fun call member => ?_) parsed there
          exact ⟨((conts_frames continues).2 call member).1.small,
            ((conts_frames continues).2 call member).2⟩
      simp only [GoproPacket.message, Framing.message, Message.mk.injEq] at carried
      obtain ⟨key, body⟩ := carried
      constructor
      · cases data : parsed.data with
        | none =>
            rw [data] at body
            exact absurd body.symm framing.nonempty
        | some block =>
            rw [data] at body
            exact congrArg some body
      · rw [← declared]
        exact congrArg PacketHead.totalLen head
      · exact key
      · rw [← declared]
        exact congrArg PacketHead.packetLen head
      · intro room
        have feature : parsed.feature = start.cmd.opened.feature :=
          congrArg PacketHead.feature head
        have action : parsed.action = start.cmd.opened.action :=
          congrArg PacketHead.action head
        obtain ⟨header, wellFormed, framed⟩ := opens.framed
        rw [feature, action, Framing.body, List.getElem?_append_left (by omega),
          List.getElem?_append_left (by omega)]
        exact wellFormed.feature_action framed room

/-- Before the last frame nothing is parsed. -/
theorem IsMessage.parses_nothing_early (packet : GoproPacket)
    : parsedPackets (packetBuilder.run packet calls.dropLast).2 = [] := by
  obtain ⟨frames, fit⟩ := message.frames_eq framing handle_lt allocate
  cases calls with
  | nil => nomatch message
  | cons start conts =>
      rw [List.map_cons] at message
      cases message with
      | frames opens continues =>
      obtain ⟨more, _⟩ := conts_frames continues
      rcases List.eq_nil_or_concat conts with rfl | ⟨early, last, rfl⟩
      · rfl
      · rw [List.concat_eq_append] at *
        have some : framing.rest ≠ [] := by
          intro none
          simp [none] at more
        have split : framing.rest = framing.rest.dropLast ++ [framing.rest.getLast some] :=
          (List.dropLast_append_getLast some).symm
        have seen : early.map BuildCall.frame = framing.rest.dropLast.map Frame.more := by
          rw [List.map_dropLast, ← more, List.map_append, List.map_singleton,
            List.dropLast_concat]
        obtain ⟨pending, unfinished⟩ := framing.run_unfinished none split (by simp)
        have cut : (start :: (early ++ [last])).dropLast = start :: early := by
          rw [← List.cons_append, List.dropLast_concat]
        have fitEarly : ∀ call ∈ start :: early, call.Fits := by
          intro call member
          refine fit call ?_
          rw [← List.cons_append]
          exact List.mem_append_left _ member
        obtain ⟨_, shown⟩ :=
          packetBuilder_refines_from_start packet none opens.reads.1 fitEarly
        rw [List.map_cons, opens.frame handle_lt (allocate start (by simp)), seen,
          unfinished, filterMap_message?] at shown
        rw [cut]
        exact List.map_eq_nil_iff.mp shown

end Run

/-- The commands are the frames of a message, cut in some way. -/
def AreFramesOf (cmds : List GoproCmd) (message : Message Nat UInt8) : Prop :=
  ∃ framing : Framing Nat UInt8,
    framing.message = message
    ∧ IsMessage framing.key framing.body.length framing.first framing.rest cmds

/-- Frames of messages in a row are parsed to the messages, whatever the packet held before. -/
theorem AreFramesOf.parses_row {rows : List (List GoproCmd)}
    {messages : List (Message Nat UInt8)} (frames : List.Forall₂ AreFramesOf rows messages)
    (known : ∀ message ∈ messages, message.key < gpCntrlHandleEnd) (packet : GoproPacket)
    {calls : List BuildCall} (published : calls.map BuildCall.cmd = rows.flatten)
    (allocate : ∀ call ∈ calls, call.kMalloc ≠ none)
    : (parsedPackets (packetBuilder.run packet calls).2).map GoproPacket.message
      = messages := by
  induction frames generalizing packet calls with
  | nil =>
      obtain rfl := List.map_eq_nil_iff.mp published
      rfl
  | @cons row message rows messages here later ih =>
      obtain ⟨framing, rfl, isMessage⟩ := here
      rw [List.flatten_cons] at published
      obtain ⟨own, others, rfl, ownFrames, otherFrames⟩ := List.map_eq_append_iff.mp published
      rw [← ownFrames] at isMessage
      obtain ⟨⟨parsed, only, carries⟩, -⟩ := isMessage.parses (known framing.message (by simp))
        (fun call member => allocate call (by simp [member])) packet
      have content : parsed.message = framing.message := by
        simp [GoproPacket.message, Framing.message, carries.packetType, carries.data]
      rw [InputMachine.run_append, parsedPackets_append, List.map_append, only,
        List.map_singleton, content]
      refine congrArg _ ?_
      exact ih (fun message member => known message (by simp [member])) _ otherFrames
        (fun call member => allocate call (by simp [member]))

/-- A message cut into a start frame and continuation frames is parsed exactly once, on the
last frame, with its bytes, length, and handle, and with its feature and action when the
start frame has room for both; afterwards no block is held. Witness: the run is the
assembler's run over the same frames, which gathers chunks until none is missing.
-/
theorem goproPacketBuild_concatenates (packet : GoproPacket) (handle : Nat)
    (handle_lt : handle < gpCntrlHandleEnd) (message first : List UInt8)
    (rest : List (List UInt8)) (split : first ++ rest.flatten = message)
    (nonempty : message ≠ []) (chunks : ∀ chunk ∈ rest, chunk ≠ [])
    (calls : List BuildCall)
    (frames : IsMessage handle message.length first rest (calls.map BuildCall.cmd))
    (allocate : ∀ call ∈ calls, call.kMalloc ≠ none)
    : parsedPackets (packetBuilder.run packet calls.dropLast).2 = []
      ∧ (∃ parsed,
        parsedPackets (packetBuilder.run packet calls).2 = [parsed]
        ∧ parsed.data.map Block.bytes = some message
        ∧ parsed.totalLen = message.length
        ∧ parsed.packetType = handle
        ∧ (2 ≤ first.length
          → message[0]? = some parsed.feature
            ∧ message[1]? = some parsed.action
            ∧ parsed.packetLen = message.length - 2))
      ∧ (packetBuilder.run packet calls).1.data = none := by
  subst split
  let framing : Framing Nat UInt8 := ⟨handle, first, rest, chunks, nonempty⟩
  have whole : IsMessage framing.key framing.body.length framing.first framing.rest
      (calls.map BuildCall.cmd) := frames
  have bounded : framing.body.length < 65536 := frames.total_lt
  obtain ⟨⟨parsed, only, carries⟩, released⟩ := whole.parses handle_lt allocate packet
  refine ⟨whole.parses_nothing_early handle_lt allocate packet,
    ⟨parsed, only, carries.data, carries.totalLen, carries.packetType, ?_⟩, released⟩
  intro room
  obtain ⟨feature, action⟩ := carries.fields room
  refine ⟨feature, action, ?_⟩
  have long : 2 ≤ framing.body.length := by
    simp only [Framing.body, List.length_append]
    exact Nat.le_trans room (Nat.le_add_right _ _)
  rw [carries.packetLen, Word32.sub_of_le long (by unfold Word32.size; omega)]
  rfl

theorem goproPacketBuild_concatenates_two_frames
    : parsedPackets (packetBuilder.run GoproPacket.zero
        [⟨.ofBytes 2 [0x03, 0x13], some 0⟩]).2 = []
      ∧ (∃ parsed,
        parsedPackets (packetBuilder.run GoproPacket.zero
          [⟨.ofBytes 2 [0x03, 0x13], some 0⟩, ⟨.ofBytes 2 [0x80, 0x00, 0x08], some 0⟩]).2
          = [parsed]
        ∧ parsed.data.map Block.bytes = some [0x13, 0x00, 0x08]
        ∧ parsed.totalLen = 3
        ∧ parsed.packetType = 2) := by
  have frames : IsMessage 2 [0x13, 0x00, 0x08].length [0x13] [[0x00, 0x08]]
      [.ofBytes 2 [0x03, 0x13], .ofBytes 2 [0x80, 0x00, 0x08]] :=
    .frames ⟨rfl, by decide, _, .bit5 (by decide), rfl⟩
      (.cons ⟨rfl, by decide, 0x80, by decide, rfl⟩ .nil)
  obtain ⟨early, ⟨parsed, only, data, totalLen, packetType, -⟩, -⟩ :=
    goproPacketBuild_concatenates GoproPacket.zero 2 (by decide) [0x13, 0x00, 0x08] [0x13]
      [[0x00, 0x08]] rfl (by decide) (by decide)
      [⟨.ofBytes 2 [0x03, 0x13], some 0⟩, ⟨.ofBytes 2 [0x80, 0x00, 0x08], some 0⟩] frames
      (by decide)
  exact ⟨early, parsed, only, data, totalLen, packetType⟩

end GoproGateway
