import GoproGateway.Library.Ledger
import GoproGateway.Packet.BuildSteps

/-! Who owns the reassembly buffer.

Each piece of `gopro_packet_build` is put on the heap's ledger in terms of the pointer that it
takes over and the pointer that it leaves, so that the seven exits compose. Nothing is assumed
of the frames, and nothing of the allocator, which may also hand out an address again.
-/

namespace GoproGateway

open Ledger

/-- The event's part in the heap's ledger. `gopro_packet_parse` reads through `data`. -/
def PacketEvent.heapAction : PacketEvent → Option (Action Nat)
  | .load _ => none
  | .sub _ _ => none
  | .free block => some (.release block.addr)
  | .malloc _ result => result.map .acquire
  | .clear target _ => some (.use (some target.addr))
  | .copy target _ _ _ => some (.use (some target.addr))
  | .parse packet => some (.use (packet.data.map Block.addr))

def heapActions (events : List PacketEvent) : List (Action Nat) :=
  events.filterMap PacketEvent.heapAction

/-- The buffer behind `gopro_packet.data`, which is live when the pointer is not NULL. -/
def GoproPacket.buffer (packet : GoproPacket) : List Nat :=
  packet.data.toList.map Block.addr

/-- A computation takes over the live buffers `live` and leaves the live buffers `final`; one
is live at most on the way.
-/
def Accounts {α : Type} (live : List Nat) (traced : PacketTrace α) (final : List Nat) : Prop :=
  Goes 1 live (heapActions traced.events) final

/-- A packet holds one block at most. -/
theorem GoproPacket.buffer_length_le (packet : GoproPacket) : packet.buffer.length ≤ 1 := by
  unfold GoproPacket.buffer
  cases packet.data <;> simp

section Accounts

variable {α β : Type} {live middle final : List Nat}

/-- Two pieces of the program balance one after the other. -/
theorem Accounts.bind {first : PacketTrace α} {next : α → PacketTrace β}
    (before : Accounts live first middle) (after : Accounts middle (next first.value) final)
    : Accounts live (first >>= next) final := by
  unfold Accounts heapActions at *
  rw [Traced.bind_events, List.filterMap_append]
  exact before.append after

/-- What does nothing to the heap leaves what is live. -/
theorem Accounts.quiet {traced : PacketTrace α} (within : live.length ≤ 1)
    (quiet : ∀ event ∈ traced.events, event.heapAction = none)
    : Accounts live traced live := by
  have nothing : heapActions traced.events = [] := List.filterMap_eq_nil_iff.mpr quiet
  rw [Accounts, nothing]
  exact .refl within

/-- One allocation or release balances, if the ledger allows it. -/
theorem Accounts.log {event : PacketEvent} {action : Action Nat}
    (isAction : event.heapAction = some action) (does : step live action = some final)
    (before : live.length ≤ 1) (after : final.length ≤ 1)
    : Accounts live (Traced.log event) final := by
  rw [Accounts, Traced.log_events, heapActions, List.filterMap_cons_some isAction]
  exact .cons before does (.refl after)

/-- A release of the only block leaves nothing. -/
theorem Accounts.free (block : Block) : Accounts [block.addr] (Traced.log (.free block)) [] :=
  .log rfl (by simp [step]) (by simp) (by simp)

/-- A use of the one live buffer. -/
theorem Accounts.use {event : PacketEvent} {addr : Nat}
    (isUse : event.heapAction = some (.use (some addr)))
    : Accounts [addr] (Traced.log event) [addr] :=
  .log isUse (by simp [step]) (by simp) (by simp)

end Accounts

-----------------------------------------------------------------------------------------
-- The pieces of gopro_packet_build
-----------------------------------------------------------------------------------------

/-- Loads touch no memory of the heap. -/
theorem typeLoads_quiet (kind : GoproPacketType)
    : ∀ event ∈ kind.typeLoads, event.heapAction = none := by
  cases kind <;> simp [GoproPacketType.typeLoads, PacketEvent.heapAction]

theorem lengthSub_quiet (kind : GoproPacketType) (len offset : Nat)
    : ∀ event ∈ kind.lengthSub len offset, event.heapAction = none := by
  cases kind <;> simp [GoproPacketType.lengthSub, PacketEvent.heapAction]

section Header

variable {live : List Nat} (within : live.length ≤ 1) (cmd : GoproCmd)

include within

theorem goproPacketGetType_accounts : Accounts live (goproPacketGetType cmd) live := by
  refine .quiet within ?_
  rw [goproPacketGetType_events]
  exact typeLoads_quiet cmd.kind

theorem goproPacketGetDataPtr_accounts : Accounts live (goproPacketGetDataPtr cmd) live := by
  refine .quiet within ?_
  rw [goproPacketGetDataPtr_events, List.forall_mem_append]
  exact ⟨typeLoads_quiet cmd.kind, lengthSub_quiet cmd.kind _ _⟩

theorem goproPacketGetPktPtr_accounts : Accounts live (goproPacketGetPktPtr cmd) live := by
  refine .quiet within ?_
  rw [goproPacketGetPktPtr_events, List.forall_mem_append]
  exact ⟨typeLoads_quiet cmd.kind, lengthSub_quiet cmd.kind _ _⟩

theorem goproPacketGetLen_accounts : Accounts live (goproPacketGetLen cmd) live := by
  refine .quiet within ?_
  rw [goproPacketGetLen_events, List.forall_mem_append]
  refine ⟨typeLoads_quiet cmd.kind, ?_⟩
  cases cmd.kind <;> simp [GoproPacketType.lengthLoads, PacketEvent.heapAction]

theorem goproPacketGetFeature_accounts (feature action : UInt8)
    : Accounts live (goproPacketGetFeature cmd feature action) live := by
  refine .quiet within ?_
  rw [goproPacketGetFeature_events, List.forall_mem_append]
  refine ⟨typeLoads_quiet cmd.kind, ?_⟩
  cases cmd.kind <;> simp [GoproPacketType.featureLoads, PacketEvent.heapAction]

theorem load_accounts (index : Nat) : Accounts live (cmd.load index) live :=
  .quiet within (by simp [GoproCmd.load, PacketEvent.heapAction])

omit cmd in
theorem subU32_accounts (minuend subtrahend : Nat)
    : Accounts live (subU32 minuend subtrahend) live :=
  .quiet within (by simp [subU32, PacketEvent.heapAction])

omit cmd in
theorem pure_accounts {α : Type} (value : α) : Accounts live (pure value) live :=
  .quiet within (by simp)

end Header

/-- Parsing goes through the buffer, which is then freed. -/
theorem finishPacket_accounts {packet : GoproPacket} {block : Block} {addr : Nat}
    (held : packet.data = some block) (isAddr : block.addr = addr)
    : Accounts [addr] (finishPacket packet block)
        (finishPacket packet block).value.buffer := by
  subst isAddr
  have parsed : Accounts [block.addr] (Traced.log (.parse packet)) [block.addr] :=
    .use (by simp [PacketEvent.heapAction, held])
  exact parsed.bind ((Accounts.free block).bind (pure_accounts (by simp) _))

/-- The copy of a frame keeps its block. -/
theorem copyFrame_accounts (cmd : GoproCmd) (block : Block) (offset source count : Nat)
    : Accounts [block.addr] (copyFrame cmd block offset source count) [block.addr] :=
  have copied : Accounts [block.addr] (Traced.log (.copy block offset source count))
      [block.addr] := .use rfl
  copied.bind (pure_accounts (by simp) _)

/-- A continuation frame frees the block when its message is over and keeps it otherwise. -/
theorem goproPacketBuildCont_accounts (packet : GoproPacket) (cmd : GoproCmd)
    : Accounts packet.buffer (goproPacketBuildCont packet cmd)
        (goproPacketBuildCont packet cmd).value.buffer := by
  have within := packet.buffer_length_le
  unfold goproPacketBuildCont
  refine (load_accounts within cmd 0).bind ?_
  refine (goproPacketGetDataPtr_accounts within cmd).bind ?_
  simp only [Traced.bind_value]
  cases held : packet.data with
  | none =>
      have live : packet.buffer = [] := by simp [GoproPacket.buffer, held]
      rw [live]
      exact pure_accounts (by simp) _
  | some block =>
      have live : packet.buffer = [block.addr] := by simp [GoproPacket.buffer, held]
      simp only [live] at within ⊢
      split_ifs with refused full
      · exact (Accounts.free block).bind (pure_accounts (by simp) _)
      · refine (copyFrame_accounts ..).bind ?_
        exact finishPacket_accounts rfl rfl
      · refine (copyFrame_accounts ..).bind ?_
        exact pure_accounts within _

/-- Without a message in progress a start frame takes the buffer that it is given. -/
theorem goproPacketBuildStart_accounts_idle (kMalloc : Option Nat) {packet : GoproPacket}
    (cmd : GoproCmd) (idle : packet.data = none)
    : Accounts [] (goproPacketBuildStart kMalloc packet cmd)
        (goproPacketBuildStart kMalloc packet cmd).value.buffer := by
  have empty : ([] : List Nat).length ≤ 1 := by simp
  simp only [goproPacketBuildStart, idle]
  refine (goproPacketGetFeature_accounts empty cmd _ _).bind ?_
  refine (goproPacketGetDataPtr_accounts empty cmd).bind ?_
  refine (goproPacketGetPktPtr_accounts empty cmd).bind ?_
  refine (goproPacketGetLen_accounts empty cmd).bind ?_
  refine (subU32_accounts empty _ 2).bind ?_
  cases kMalloc with
  | none =>
      have refused (size : Nat) : Accounts [] (Traced.log (.malloc size none)) [] :=
        .quiet empty (by simp [PacketEvent.heapAction])
      simp only [Traced.bind_value]
      split_ifs
      · exact pure_accounts empty _
      · exact (refused _).bind (pure_accounts empty _)
  | some addr =>
      have taken (size : Nat) : Accounts [] (Traced.log (.malloc size (some addr))) [addr] :=
        .log rfl rfl empty (by simp)
      simp only [Traced.bind_value]
      split_ifs with zero full
      · exact pure_accounts empty _
      all_goals
        refine (taken _).bind ((Accounts.use rfl).bind ?_)
        refine (copyFrame_accounts cmd ⟨addr, _⟩ _ _ _).bind ?_
      · exact finishPacket_accounts rfl rfl
      · exact pure_accounts (by simp) _

/-- A message in progress is dropped first. -/
theorem goproPacketBuildStart_drops (kMalloc : Option Nat) {packet : GoproPacket}
    (cmd : GoproCmd) {block : Block} (held : packet.data = some block)
    : goproPacketBuildStart kMalloc packet cmd
      = (do
          Traced.log (.free block)
          goproPacketBuildStart kMalloc { packet with data := none } cmd) := by
  simp only [goproPacketBuildStart, held]

/-- A start frame frees the old block before it allocates its own. -/
theorem goproPacketBuildStart_accounts (kMalloc : Option Nat) (packet : GoproPacket)
    (cmd : GoproCmd)
    : Accounts packet.buffer (goproPacketBuildStart kMalloc packet cmd)
        (goproPacketBuildStart kMalloc packet cmd).value.buffer := by
  cases held : packet.data with
  | none =>
      have live : packet.buffer = [] := by simp [GoproPacket.buffer, held]
      rw [live]
      exact goproPacketBuildStart_accounts_idle kMalloc cmd held
  | some block =>
      have live : packet.buffer = [block.addr] := by simp [GoproPacket.buffer, held]
      rw [live, goproPacketBuildStart_drops kMalloc cmd held]
      exact (Accounts.free block).bind (goproPacketBuildStart_accounts_idle kMalloc cmd rfl)

-----------------------------------------------------------------------------------------
-- One call, and runs
-----------------------------------------------------------------------------------------

/-- Whatever exit a call takes, the ledger ends with the buffer that the packet points to. -/
theorem goproPacketBuild_accounts (kMalloc : Option Nat) (packet : GoproPacket)
    (cmd : GoproCmd)
    : Accounts packet.buffer (goproPacketBuild kMalloc packet cmd)
        (goproPacketBuild kMalloc packet cmd).value.buffer := by
  have within := packet.buffer_length_le
  unfold goproPacketBuild
  refine (goproPacketGetType_accounts within cmd).bind ?_
  rw [Traced.bind_value]
  cases (goproPacketGetType cmd).value with
  | packetCont => exact goproPacketBuildCont_accounts packet cmd
  | packet5bit | packet13bit | packet16bit | packetInvalid =>
      exact goproPacketBuildStart_accounts kMalloc packet cmd

/-- A run goes from the block of the packet at its start to that at its end, by induction on
the calls.
-/
theorem packetBuilder_goes (packet : GoproPacket) (calls : List BuildCall)
    : Goes 1 packet.buffer (heapActions (packetBuilder.run packet calls).2)
        (packetBuilder.run packet calls).1.buffer := by
  induction calls generalizing packet with
  | nil => exact .refl packet.buffer_length_le
  | cons call rest ih =>
      rw [InputMachine.run_cons, heapActions, List.filterMap_append]
      exact (goproPacketBuild_accounts call.kMalloc packet call.cmd).append (ih _)

/-- The address of a freed block. -/
def PacketEvent.freed : PacketEvent → Option Nat
  | .free block => some block.addr
  | _ => none

/-- An allocation that succeeded. -/
def PacketEvent.Allocates (event : PacketEvent) : Prop :=
  ∃ size addr, event = .malloc size (some addr)

/-- The releases of the ledger are those of the log. -/
theorem heapActions_released (events : List PacketEvent)
    : (heapActions events).filterMap Action.released = events.filterMap PacketEvent.freed := by
  rw [heapActions, List.filterMap_filterMap]
  refine List.filterMap_congr fun event _ => ?_
  cases event with
  | malloc size result =>
      cases result <;> rfl
  | load | sub | free | clear | copy | parse => rfl

/-- An acquisition in the ledger is a successful allocation. -/
theorem acquire_mem_heapActions {events : List PacketEvent} {addr : Nat}
    (member : .acquire addr ∈ heapActions events)
    : ∃ event ∈ events, event.Allocates := by
  obtain ⟨event, listed, isAction⟩ := List.mem_filterMap.mp member
  refine ⟨event, listed, ?_⟩
  cases event with
  | malloc size result =>
      cases result with
      | none => simp [PacketEvent.heapAction] at isAction
      | some other => exact ⟨size, other, rfl⟩
  | load | sub | free | clear | copy | parse => simp [PacketEvent.heapAction] at isAction

/-- The buffer's ledger over any sequence of frames and allocation outcomes: nothing is used or
freed that is not live, at every point one buffer is live at most, between two calls it is the
one that `gopro_packet.data` points to, and from one allocation to the next exactly one buffer
is freed, the one allocated.
-/
theorem goproPacketBuild_heap (calls : List BuildCall)
    : let (packet, events) := packetBuilder.run GoproPacket.zero calls
      Ledger.run [] (heapActions events) = some (packet.data.toList.map Block.addr)
      ∧ (∀ before after, events = before ++ after
        → ∃ live, Ledger.run [] (heapActions before) = some live ∧ live.length ≤ 1)
      ∧ ∀ before middle after size addr size' addr',
        events = before ++ .malloc size (some addr)
          :: (middle ++ .malloc size' (some addr') :: after)
        → (∀ event ∈ middle, ¬ event.Allocates)
        → middle.filterMap PacketEvent.freed = [addr] := by
  have goes := packetBuilder_goes .zero calls
  refine ⟨goes.reaches, ?_, ?_⟩
  · intro before after split
    rw [split, heapActions, List.filterMap_append] at goes
    obtain ⟨live, reached, within, _⟩ := goes.splits rfl
    exact ⟨live, reached, within⟩
  · intro before middle after size addr size' addr' split quiet
    rw [split] at goes
    simp only [heapActions, List.filterMap_append, List.filterMap_cons,
      PacketEvent.heapAction, Option.map_some] at goes
    rw [← heapActions_released]
    refine goes.released_once fun other member => ?_
    obtain ⟨event, listed, allocates⟩ := acquire_mem_heapActions member
    exact quiet event listed allocates

end GoproGateway
