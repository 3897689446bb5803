import GoproGateway.Client.Notify

/-! Notifications shorter than the layout they announce.

The getters subtract a fixed offset from the received length and read feature and action at
fixed places, with no check of the length. The log of a call tells which notifications are
long enough: those with a byte at every place that their kind's layout has in front of the
data.
-/

namespace GoproGateway

/-- An event in the handling of `n` received bytes is within them. -/
def PacketEvent.MeasuredBy (n : Nat) : PacketEvent → Prop
  | .load index => index < n
  | .sub minuend subtrahend => subtrahend ≤ minuend
  | .copy _ _ source count => source + count ≤ n
  | .parse packet => 2 ≤ packet.totalLen ∧ packet.packetLen = packet.totalLen - 2
  | .free _ | .malloc _ _ | .clear _ _ => True

/-- A command with a byte at each place in front of the data, which declares at least the
feature and the action.
-/
structure GoproCmd.LongEnough (cmd : GoproCmd) : Prop where
  typed : 1 ≤ cmd.len
  layout : cmd.kind.dataIndex ≤ cmd.len
  declared : cmd.kind ≠ .packetCont → 2 ≤ cmd.declaredLen

/-- A message in progress has its feature and action counted. -/
def GoproPacket.Counted (packet : GoproPacket) : Prop :=
  packet.data ≠ none → 2 ≤ packet.totalLen ∧ packet.packetLen = packet.totalLen - 2

theorem contLog_measured {cmd : GoproCmd}
    : (∀ event ∈ contLog cmd, event.MeasuredBy cmd.len) ↔ 1 ≤ cmd.len := by
  simp [contLog, PacketEvent.MeasuredBy]
  omega

/-- The log of a start frame is within the received bytes iff the frame is long enough. -/
theorem startLog_measured (packet : GoproPacket) {cmd : GoproCmd}
    (start : cmd.kind ≠ .packetCont)
    : (∀ event ∈ startLog packet cmd, event.MeasuredBy cmd.len) ↔ cmd.LongEnough := by
  have longEnough : cmd.LongEnough
      ↔ 1 ≤ cmd.len ∧ cmd.kind.dataIndex ≤ cmd.len ∧ 2 ≤ cmd.declaredLen :=
    ⟨fun long => ⟨long.typed, long.layout, long.declared start⟩,
      fun ⟨typed, layout, declared⟩ => ⟨typed, layout, fun _ => declared⟩⟩
  rw [longEnough]
  simp only [startLog, List.forall_mem_append, List.forall_mem_singleton]
  cases kind : cmd.kind with
  | packetCont => exact absurd kind start
  | packet5bit | packet13bit | packet16bit =>
      simp [GoproPacketType.typeLoads, GoproPacketType.featureLoads,
        GoproPacketType.lengthLoads, GoproPacketType.lengthSub, GoproPacketType.dataIndex,
        GoproPacketType.headerLen, PacketEvent.MeasuredBy]
      omega
  | packetInvalid =>
      simp [GoproPacketType.typeLoads, GoproPacketType.featureLoads,
        GoproPacketType.lengthLoads, GoproPacketType.lengthSub, GoproPacketType.dataIndex,
        PacketEvent.MeasuredBy]
      omega

/-- Once the start log is within the received bytes, so is all that follows it. -/
theorem GoproCmd.LongEnough.opens {cmd : GoproCmd} (long : cmd.LongEnough)
    (small : cmd.len ≤ goproCmdDataLen) (start : cmd.kind ≠ .packetCont) (addr : Nat)
    : (∀ event ∈ openLog cmd addr, event.MeasuredBy cmd.len)
      ∧ (PacketEvent.parse (cmd.openedWith addr)).MeasuredBy cmd.len := by
  have declared := long.declared start
  have word := Word32.ofInt_lt (goproPacketGetLen cmd).value
  have header : cmd.kind.headerLen ≤ cmd.kind.dataIndex := by
    cases cmd.kind <;> decide
  have layout := long.layout
  unfold goproCmdDataLen at small
  have brought : Word32.sub cmd.len cmd.kind.headerLen = cmd.len - cmd.kind.headerLen :=
    Word32.sub_of_le (by omega) (by unfold Word32.size; omega)
  constructor
  · simp only [openLog, List.forall_mem_cons, PacketEvent.MeasuredBy, brought]
    refine ⟨trivial, trivial, by omega, by simp⟩
  · refine ⟨declared, ?_⟩
    exact Word32.sub_of_le declared word

section Step

variable {packet : GoproPacket} {call : BuildCall}

theorem cont_measured_iff (counted : packet.Counted) (small : call.cmd.len ≤ goproCmdDataLen)
    (cont : call.cmd.kind = .packetCont)
    : ((∀ event ∈ (packetBuilder.step packet call).2, event.MeasuredBy call.cmd.len)
        ↔ call.cmd.LongEnough)
      ∧ (call.cmd.LongEnough → (packetBuilder.step packet call).1.Counted) := by
  obtain ⟨cmd, kMalloc⟩ := call
  dsimp only at small cont
  have longEnough : cmd.LongEnough ↔ 1 ≤ cmd.len := by
    refine ⟨fun long => long.typed, fun typed => ⟨typed, ?_, fun start => absurd cont start⟩⟩
    rw [cont]
    exact typed
  have copied (typed : 1 ≤ cmd.len) : 1 + Word32.sub cmd.len 1 ≤ cmd.len := by
    unfold goproCmdDataLen at small
    rw [Word32.sub_of_le typed (by unfold Word32.size; omega)]
    omega
  have outcome := goproPacketBuild_cont_outcome packet kMalloc small cont
  simp only [packetBuilder, longEnough]
  generalize goproPacketBuild kMalloc packet cmd = traced at outcome ⊢
  cases outcome with
  | idle released => exact ⟨contLog_measured, fun _ held => absurd released held⟩
  | overflow held refused =>
      rw [List.forall_mem_append, contLog_measured]
      exact ⟨by simp [PacketEvent.MeasuredBy], fun _ held => absurd rfl held⟩
  | @store block held admitted missing =>
      rw [List.forall_mem_append, contLog_measured, List.forall_mem_singleton]
      exact ⟨and_iff_left_of_imp copied, fun _ _ => counted (by simp [held])⟩
  | @finish block held admitted full =>
      rw [List.forall_mem_append, contLog_measured]
      refine ⟨and_iff_left_of_imp fun typed => ?_, fun _ held => absurd rfl held⟩
      simp only [List.forall_mem_cons]
      exact ⟨copied typed, counted (by simp [held]), trivial, by simp⟩

theorem start_measured_iff (packet : GoproPacket) (small : call.cmd.len ≤ goproCmdDataLen)
    (start : call.cmd.kind ≠ .packetCont)
    : ((∀ event ∈ (packetBuilder.step packet call).2, event.MeasuredBy call.cmd.len)
        ↔ call.cmd.LongEnough)
      ∧ (call.cmd.LongEnough → (packetBuilder.step packet call).1.Counted) := by
  obtain ⟨cmd, kMalloc⟩ := call
  dsimp only at small start
  have outcome := goproPacketBuild_start_outcome packet kMalloc small start
  have logged := startLog_measured packet start
  simp only [packetBuilder]
  generalize goproPacketBuild kMalloc packet cmd = traced at outcome ⊢
  cases outcome with
  | zero => exact ⟨logged, fun _ held => absurd rfl held⟩
  | nomem =>
      rw [List.forall_mem_append, logged]
      exact ⟨by simp [PacketEvent.MeasuredBy], fun _ held => absurd rfl held⟩
  | @store addr =>
      rw [List.forall_mem_append, logged]
      exact ⟨and_iff_left_of_imp fun long => (long.opens small start addr).1,
        fun long _ => (long.opens small start addr).2⟩
  | @finish addr =>
      rw [List.forall_mem_append, List.forall_mem_append, logged, and_assoc]
      refine ⟨and_iff_left_of_imp fun long => ?_, fun _ held => absurd rfl held⟩
      obtain ⟨opened, parsed⟩ := long.opens small start addr
      exact ⟨opened, List.forall_mem_cons.mpr ⟨parsed, by simp [PacketEvent.MeasuredBy]⟩⟩

/-- A call stays within the received bytes iff its frame is long enough, and then a message
in progress has its feature and action counted.
-/
theorem packetBuilder_measured_iff (counted : packet.Counted)
    (small : call.cmd.len ≤ goproCmdDataLen)
    : ((∀ event ∈ (packetBuilder.step packet call).2, event.MeasuredBy call.cmd.len)
        ↔ call.cmd.LongEnough)
      ∧ (call.cmd.LongEnough → (packetBuilder.step packet call).1.Counted) := by
  by_cases cont : call.cmd.kind = .packetCont
  · exact cont_measured_iff counted small cont
  · exact start_measured_iff packet small cont

end Step

/-- The number of received bytes: all notified ones that fit the command. -/
def NotifyCall.received (call : NotifyCall) : Nat :=
  min (call.data.getD []).length goproCmdDataLen

theorem NotifyCall.built_len {client : NotifyClient} {call : NotifyCall} {built : BuildCall}
    (isBuilt : call.built client = some built)
    : built.cmd.len = call.received := by
  simp only [NotifyCall.built, onNotifyReceived] at isBuilt
  cases data : call.data with
  | none => simp [data] at isBuilt
  | some bytes =>
      simp only [data] at isBuilt
      split at isBuilt
      · simp at isBuilt
      · obtain rfl := Option.some.inj isBuilt
        simp only [receivedCmd_len, NotifyCall.received, data, Option.getD_some]

/-- A notification is measured by its received bytes iff the command built from it is long
enough; one without a known value handle builds none.
-/
theorem notifyReceiver_measured_iff {client : NotifyClient} {packet : GoproPacket}
    {call : NotifyCall} (counted : packet.Counted) (notified : call.data ≠ none)
    : ((∀ event ∈ (notifyReceiver.step (client, packet) call).2,
          event.MeasuredBy call.received)
        ↔ ∀ built, call.built client = some built → built.cmd.LongEnough)
      ∧ ((∀ built, call.built client = some built → built.cmd.LongEnough)
        → (notifyReceiver.step (client, packet) call).1.2.Counted) := by
  rw [notifyReceiver_step client packet notified]
  cases isBuilt : call.built client with
  | none => exact ⟨by simp, fun _ => counted⟩
  | some built =>
      have len := call.built_len isBuilt
      have small : built.cmd.len ≤ goproCmdDataLen := by
        rw [len]
        exact Nat.min_le_right ..
      obtain ⟨measured, kept⟩ := packetBuilder_measured_iff counted small
      simp only [Option.some.injEq, forall_eq', ← len]
      exact ⟨measured, kept⟩

/-- From the zeroed packet, the subtractions, the reads, and the parsed packets of a run of
notifications are all within what was received iff every notification is long enough for its
kind's layout and declares at least two bytes.
-/
theorem onNotifyReceived_measured_iff (client : NotifyClient) (calls : List NotifyCall)
    (notified : ∀ call ∈ calls, call.data ≠ none)
    : notifyReceiver.Along
        (fun state call => ∀ event ∈ (notifyReceiver.step state call).2,
          event.MeasuredBy call.received)
        (client, GoproPacket.zero) calls
      ↔ ∀ call ∈ calls, ∀ built, call.built client = some built → built.cmd.LongEnough := by
  rw [← InputMachine.along_input_iff notifyReceiver
    (fun call => ∀ built, call.built client = some built → built.cmd.LongEnough)
    (client, GoproPacket.zero)]
  refine InputMachine.along_congr (fun state => state.1 = client ∧ state.2.Counted) ?_ ?_
    ⟨rfl, fun held => absurd rfl held⟩ notified
  · rintro ⟨_, packet⟩ call ⟨rfl, counted⟩ data long
    refine ⟨?_, (notifyReceiver_measured_iff counted data).2 long⟩
    rw [notifyReceiver_step _ packet data]
    cases call.built _ <;> rfl
  · rintro ⟨_, packet⟩ call ⟨rfl, counted⟩ data
    exact (notifyReceiver_measured_iff counted data).1

theorem onNotifyReceived_measured_status
    : notifyReceiver.Along
        (fun state call => ∀ event ∈ (notifyReceiver.step state call).2,
          event.MeasuredBy call.received)
        (numberedClient, GoproPacket.zero) [notified 2 [0x02, 0x93, 0x00]] := by
  refine (onNotifyReceived_measured_iff numberedClient _ (by simp [notified])).mpr ?_
  intro call member built isBuilt
  obtain rfl := List.mem_singleton.mp member
  obtain rfl := Option.some.inj isBuilt
  exact ⟨by decide, by decide, fun _ => by decide⟩

/-- Two bytes that declare a message of one: the action is read past the end, the data length
and the packet length wrap.
-/
theorem onNotifyReceived_wraps
    : ¬ ∀ (client : NotifyClient) (calls : List NotifyCall),
      (∀ call ∈ calls, call.data ≠ none)
      → notifyReceiver.Along
          (fun state call => ∀ event ∈ (notifyReceiver.step state call).2,
            event.MeasuredBy call.received)
          (client, GoproPacket.zero) calls := by
  intro every
  obtain ⟨measured, -⟩ := every numberedClient [notified 0 [0x01, 0x05]] (by simp [notified])
  have wraps := measured (.sub 1 2) (by decide)
  simp [PacketEvent.MeasuredBy] at wraps

end GoproGateway
