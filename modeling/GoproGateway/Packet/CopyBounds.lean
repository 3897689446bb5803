import GoproGateway.Packet.Frames

/-! Where reassembly writes.

The continuation branch checks a frame's length against the room left in the block. The start
branch copies whatever its frame brings, so it stays inside its allocation exactly if the
frame brings no more than it declares.
-/

namespace GoproGateway

/-- A copy ends inside its target; other events copy nothing. -/
def PacketEvent.CopyInBounds : PacketEvent → Prop
  | .copy target offset _ count => offset + count ≤ target.bytes.length
  | _ => True

/-- A held block has the size that the message declared, of which the saved bytes are part. -/
def GoproPacket.Bounded (packet : GoproPacket) : Prop :=
  ∀ block, packet.data = some block
    → block.bytes.length = packet.totalLen
      ∧ packet.savedLen ≤ packet.totalLen
      ∧ packet.totalLen < Word32.size

/-- A start frame that is stored brings no more than it declares, and a stored continuation
does not carry the length of the message past 32 bits.
-/
def BringsDeclared (packet : GoproPacket) (call : BuildCall) : Prop :=
  if call.cmd.kind = .packetCont then
    packet.data ≠ none → packet.savedLen + (call.cmd.len - 1) < Word32.size
  else
    call.kMalloc ≠ none → call.cmd.declaredLen ≠ 0
      → call.cmd.len - call.cmd.kind.headerLen ≤ call.cmd.declaredLen

/-- Notifications of at most the command's size that bring their own header. -/
structure BuildCall.BringsHeader (call : BuildCall) : Prop where
  small : call.cmd.len ≤ goproCmdDataLen
  header : call.cmd.kind.headerLen ≤ call.cmd.len

/-- One call's copies are in bounds, and so is the saved length after it. -/
def StaysInBounds (packet : GoproPacket) (call : BuildCall) : Prop :=
  (∀ event ∈ (packetBuilder.step packet call).2, event.CopyInBounds)
  ∧ ((packetBuilder.step packet call).1.data ≠ none
    → (packetBuilder.step packet call).1.savedLen ≤ (packetBuilder.step packet call).1.totalLen)

theorem startLog_copies_nothing (packet : GoproPacket) (cmd : GoproCmd)
    : ∀ event ∈ startLog packet cmd, event.CopyInBounds := by
  cases data : packet.data <;>
    cases kind : cmd.kind <;>
    simp [startLog, data, kind, GoproPacketType.typeLoads, GoproPacketType.featureLoads,
      GoproPacketType.lengthLoads, GoproPacketType.lengthSub, PacketEvent.CopyInBounds]

theorem contLog_copies_nothing (cmd : GoproCmd)
    : ∀ event ∈ contLog cmd, event.CopyInBounds := by
  simp [contLog, PacketEvent.CopyInBounds]

/-- A log whose only copy stands between `before` and `after`. -/
theorem copies_iff (target : Block) (offset source count : Nat)
    {before after : List PacketEvent} (quietBefore : ∀ event ∈ before, event.CopyInBounds)
    (quietAfter : ∀ event ∈ after, event.CopyInBounds)
    : (∀ event ∈ before ++ .copy target offset source count :: after, event.CopyInBounds)
      ↔ offset + count ≤ target.bytes.length := by
  rw [List.forall_mem_append, List.forall_mem_cons, and_iff_right quietBefore,
    and_iff_left quietAfter, PacketEvent.CopyInBounds]

theorem declaredLen_lt (cmd : GoproCmd) : cmd.declaredLen < Word32.size :=
  Word32.ofInt_lt _

/-- A sum that passes the 32-bit length check is below its bound iff it does not wrap. -/
theorem lengthCheck_exact {saved total count : Nat} (word : total < Word32.size)
    (admitted : Word32.add count saved ≤ total)
    : saved + count < Word32.size ↔ saved + count ≤ total := by
  refine ⟨fun fits => ?_, fun within => by omega⟩
  rw [Word32.add_of_lt (by omega)] at admitted
  omega

section Step

variable {packet : GoproPacket} {call : BuildCall}

/-- A continuation frame stays in bounds iff the sum in its length check does not wrap, and
then the block keeps its size. Witness: a sum that wraps passes the check and ends past the
block.
-/
theorem cont_staysInBounds_iff (bounded : packet.Bounded) (brings : call.BringsHeader)
    (cont : call.cmd.kind = .packetCont)
    : (StaysInBounds packet call ↔ BringsDeclared packet call)
      ∧ (BringsDeclared packet call → (packetBuilder.step packet call).1.Bounded) := by
  obtain ⟨cmd, kMalloc⟩ := call
  obtain ⟨small, header⟩ := brings
  have outcome := goproPacketBuild_cont_outcome packet kMalloc small cont
  simp only [StaysInBounds, BringsDeclared, packetBuilder, if_pos cont] at *
  rw [cont] at header
  replace header : 1 ≤ cmd.len := header
  unfold goproCmdDataLen at small
  have word : Word32.size = 4294967296 := rfl
  have brought : Word32.sub cmd.len 1 = cmd.len - 1 :=
    Word32.sub_of_le header (by omega)
  have quiet := contLog_copies_nothing cmd
  generalize goproPacketBuild kMalloc packet cmd = traced at outcome ⊢
  cases outcome with
  | idle released =>
      have empty : (packet.aim cmd).data = none := released
      refine ⟨⟨fun _ held => absurd released held, fun _ => ⟨quiet, ?_⟩⟩, fun _ => ?_⟩
      · exact fun held => absurd empty held
      · intro block held
        rw [empty] at held
        cases held
  | @overflow block held refused =>
      obtain ⟨size, saved, total⟩ := bounded block held
      have fits : packet.savedLen + (cmd.len - 1) < Word32.size := by
        refine Nat.lt_of_not_le fun wraps => ?_
        rw [brought, Word32.add_of_ge (by omega) (by omega) (by omega)] at refused
        omega
      refine ⟨⟨fun _ _ => fits, fun _ => ⟨?_, by simp⟩⟩, fun _ => by simp [GoproPacket.Bounded]⟩
      simpa [or_imp, forall_and, PacketEvent.CopyInBounds] using quiet
  | @store block held admitted missing =>
      obtain ⟨size, saved, total⟩ := bounded block held
      rw [brought] at admitted ⊢
      have inside := lengthCheck_exact total admitted
      have stored (within : packet.savedLen + (cmd.len - 1) ≤ packet.totalLen)
          : (packet.store block cmd).savedLen ≤ (packet.store block cmd).totalLen := by
        rw [GoproPacket.store_savedLen, GoproPacket.store_totalLen, brought,
          Word32.add_of_lt (by omega)]
        exact within
      rw [copies_iff _ _ _ _ quiet (by simp), size]
      refine ⟨⟨fun within _ => inside.mpr within.1, fun fits => ?_⟩, fun fits => ?_⟩
      · have within := inside.mp (fits (by simp [held]))
        exact ⟨within, fun _ => stored within⟩
      · have within := inside.mp (fits (by simp [held]))
        intro other isHeld
        obtain rfl := Option.some.inj isHeld
        exact ⟨by rw [contBlock_length, size, GoproPacket.store_totalLen], stored within, total⟩
  | @finish block held admitted full =>
      obtain ⟨size, saved, total⟩ := bounded block held
      rw [brought] at admitted ⊢
      have inside := lengthCheck_exact total admitted
      rw [copies_iff _ _ _ _ quiet (by simp [PacketEvent.CopyInBounds]), size]
      refine ⟨⟨fun within _ => inside.mpr within.1, fun fits => ⟨?_, by simp⟩⟩, fun _ => ?_⟩
      · exact inside.mp (fits (by simp [held]))
      · simp [GoproPacket.Bounded]

/-- The log of an allocation, whose copy writes what the start frame brings. -/
theorem openLog_copies_iff (packet : GoproPacket) (cmd : GoproCmd) (addr : Nat)
    (after : List PacketEvent) (quietAfter : ∀ event ∈ after, event.CopyInBounds)
    : (∀ event ∈ startLog packet cmd ++ openLog cmd addr ++ after, event.CopyInBounds)
      ↔ Word32.sub cmd.len cmd.kind.headerLen ≤ cmd.declaredLen := by
  have quiet : ∀ event ∈ startLog packet cmd
      ++ [.malloc cmd.declaredLen (some addr), .clear (cmd.blankBlock addr) cmd.declaredLen],
      event.CopyInBounds := by
    rw [List.forall_mem_append]
    exact ⟨startLog_copies_nothing packet cmd, by simp [PacketEvent.CopyInBounds]⟩
  have split := copies_iff (cmd.blankBlock addr) 0 cmd.kind.headerLen
    (Word32.sub cmd.len cmd.kind.headerLen) quiet quietAfter
  simpa [openLog, GoproCmd.blankBlock] using split

/-- A start frame stays in bounds iff it brings no more than it declares, whatever the packet
held before.
-/
theorem start_staysInBounds_iff (packet : GoproPacket) {call : BuildCall}
    (brings : call.BringsHeader) (start : call.cmd.kind ≠ .packetCont)
    : (StaysInBounds packet call ↔ BringsDeclared packet call)
      ∧ (BringsDeclared packet call → (packetBuilder.step packet call).1.Bounded) := by
  obtain ⟨cmd, kMalloc⟩ := call
  obtain ⟨small, header⟩ := brings
  have outcome := goproPacketBuild_start_outcome packet kMalloc small start
  have quiet := startLog_copies_nothing packet cmd
  simp only [StaysInBounds, BringsDeclared, packetBuilder, if_neg start] at *
  unfold goproCmdDataLen at small
  have word : Word32.size = 4294967296 := rfl
  have brought : Word32.sub cmd.len cmd.kind.headerLen = cmd.len - cmd.kind.headerLen :=
    Word32.sub_of_le header (by omega)
  generalize goproPacketBuild kMalloc packet cmd = traced at outcome ⊢
  cases outcome with
  | zero zero =>
      refine ⟨⟨fun _ _ positive => absurd zero positive, fun _ => ⟨quiet, ?_⟩⟩, fun _ => ?_⟩
      · exact fun held => absurd rfl held
      · intro block held
        cases held
  | nomem positive =>
      refine ⟨⟨fun _ allocates => absurd rfl allocates, fun _ => ⟨?_, ?_⟩⟩, fun _ => ?_⟩
      · rw [List.forall_mem_append]
        exact ⟨quiet, by simp [PacketEvent.CopyInBounds]⟩
      · exact fun held => absurd rfl held
      · intro block held
        cases held
  | @store addr positive missing =>
      have copies := openLog_copies_iff packet cmd addr [] (by simp)
      rw [List.append_nil, brought] at copies
      have stored (within : cmd.len - cmd.kind.headerLen ≤ cmd.declaredLen)
          : (cmd.openedWith addr).savedLen ≤ (cmd.openedWith addr).totalLen := by
        have saved : (cmd.openedWith addr).savedLen = cmd.len - cmd.kind.headerLen := brought
        rw [saved]
        exact within
      rw [copies]
      refine ⟨⟨fun within _ _ => within.1, fun fits => ?_⟩, fun fits => ?_⟩
      · have within := fits (by simp) positive
        exact ⟨within, fun _ => stored within⟩
      · have within := fits (by simp) positive
        intro block held
        obtain rfl := Option.some.inj held
        exact ⟨by simp [GoproCmd.openedBlock]; rfl, stored within, declaredLen_lt cmd⟩
  | @finish addr positive full =>
      have copies := openLog_copies_iff packet cmd addr
        [.parse (cmd.openedWith addr), .free (cmd.openedBlock addr)]
        (by simp [PacketEvent.CopyInBounds])
      refine ⟨⟨fun _ _ _ => by omega, fun _ => ⟨copies.mpr (Nat.le_of_eq full), by simp⟩⟩, ?_⟩
      intro _
      simp [GoproPacket.Bounded]

end Step

/-- From the zeroed packet, every copy stays inside its allocation and the saved length
inside the total length iff every stored start frame brings no more than it declares (and no
stored continuation carries a length past 32 bits, which takes a block of nearly that size).
-/
theorem goproPacketBuild_inBounds_iff (calls : List BuildCall)
    (notifications : ∀ call ∈ calls, call.BringsHeader)
    : ((∀ event ∈ (packetBuilder.run GoproPacket.zero calls).2, event.CopyInBounds)
        ∧ packetBuilder.Always (fun packet => packet.data ≠ none
          → packet.savedLen ≤ packet.totalLen) GoproPacket.zero calls)
      ↔ packetBuilder.Along BringsDeclared GoproPacket.zero calls := by
  have zero : GoproPacket.zero.Bounded := by
    intro block held
    cases held
  rw [InputMachine.forall_events_iff, InputMachine.always_iff,
    and_iff_right (show GoproPacket.zero.data ≠ none → _ from fun held => absurd rfl held),
    ← InputMachine.along_and]
  refine InputMachine.along_congr GoproPacket.Bounded ?_ ?_ zero notifications
  · intro packet call bounded brings within
    by_cases cont : call.cmd.kind = .packetCont
    · exact (cont_staysInBounds_iff bounded brings cont).2 within
    · exact (start_staysInBounds_iff packet brings cont).2 within
  · intro packet call bounded brings
    by_cases cont : call.cmd.kind = .packetCont
    · exact (cont_staysInBounds_iff bounded brings cont).1
    · exact (start_staysInBounds_iff packet brings cont).1

theorem goproPacketBuild_inBounds_two_frames
    : let calls : List BuildCall :=
        [⟨.ofBytes 2 [0x03, 0x13], some 0⟩, ⟨.ofBytes 2 [0x80, 0x00, 0x08], some 0⟩]
      (∀ event ∈ (packetBuilder.run GoproPacket.zero calls).2, event.CopyInBounds)
        ∧ packetBuilder.Always (fun packet => packet.data ≠ none
          → packet.savedLen ≤ packet.totalLen) GoproPacket.zero calls := by
  refine (goproPacketBuild_inBounds_iff _ ?_).mpr ?_
  · simp only [List.forall_mem_cons, List.not_mem_nil, false_imp_iff, implies_true, and_true]
    exact ⟨⟨by decide, by decide⟩, ⟨by decide, by decide⟩⟩
  · exact ⟨fun _ _ => by decide, fun _ => by decide, trivial⟩

/-- A header that declares one byte in front of nineteen: the copy runs eighteen bytes past
the block.
-/
theorem goproPacketBuild_overruns
    : ¬ ∀ calls : List BuildCall, (∀ call ∈ calls, call.BringsHeader)
        → (∀ event ∈ (packetBuilder.run GoproPacket.zero calls).2, event.CopyInBounds)
          ∧ packetBuilder.Always (fun packet => packet.data ≠ none
            → packet.savedLen ≤ packet.totalLen) GoproPacket.zero calls := by
  intro every
  have notification : BuildCall.BringsHeader
      ⟨.ofBytes 2 (0x01 :: List.replicate 19 0xAA), some 0⟩ := ⟨by decide, by decide⟩
  obtain ⟨inBounds, -⟩ := every [⟨.ofBytes 2 (0x01 :: List.replicate 19 0xAA), some 0⟩]
    (by simpa using notification)
  have overrun := inBounds (.copy ⟨0, [0]⟩ 0 1 19) (by decide)
  simp [PacketEvent.CopyInBounds] at overrun

end GoproGateway
