import GoproGateway.Gatt.Manager

/-! What one step of the discovery procedure can do.

The flags tell five phases apart: the instance is free, waits for the stack, waits for the
work queue, holds a table for the application, or has accessed NULL. Every step goes from a
phase to a phase in one of the ways listed here.
-/

namespace GoproGateway

/-- Who is to act next. -/
inductive GattDmPhase where
  | idle
  | asking
  | queued
  | complete
  | faulted
  deriving DecidableEq, Repr

/-- Locked, release pending, work submitted, requested, faulted. -/
def GattDmPhase.flags : GattDmPhase → Bool × Bool × Bool × Bool × Bool
  | .idle => (false, false, false, false, false)
  | .asking => (true, false, false, true, false)
  | .queued => (true, false, true, false, false)
  | .complete => (true, true, false, false, false)
  | .faulted => (true, false, false, false, true)

/-- The table of a step before its end, after one or both of the stores of a callback. -/
inductive TableStores (first second : Option HeapBuffer) (before : GattDmTable)
    : GattDmTable → Prop where
  | nothing : TableStores first second before before
  | store {handle perm : Nat} {uuid : BtUuid} {userData : UserData} {after : GattDmTable}
      (stored : before.attrStore handle perm uuid userData first = some after)
      : TableStores first second before after
  | copy {position : Nat} {userData : UserData} {uuid : BtUuid} {after : GattDmTable}
      (copied : before.uuidStore position userData uuid first = some after)
      : TableStores first second before after
  | storeCopy {handle perm position : Nat} {uuid name : BtUuid} {userData data : UserData}
      {between after : GattDmTable}
      (stored : before.attrStore handle perm uuid userData first = some between)
      (copied : between.uuidStore position data name second = some after)
      : TableStores first second before after

/-- The stores keep within the table's bound. -/
theorem TableStores.bounded {first second : Option HeapBuffer} {before after : GattDmTable}
    (stores : TableStores first second before after)
    (bounded : before.attrs.length ≤ gattDmMaxAttrs)
    : after.attrs.length ≤ gattDmMaxAttrs := by
  have store {fresh : Option HeapBuffer} {handle perm : Nat} {uuid : BtUuid}
      {userData : UserData} {stored : GattDmTable}
      (isStored : before.attrStore handle perm uuid userData fresh = some stored)
      : stored.attrs.length ≤ gattDmMaxAttrs := by
    obtain ⟨room, data, -, attrs⟩ := attrStore_eq_some_iff.mp isStored
    rw [attrs, List.length_append]
    exact room
  have copy {fresh : Option HeapBuffer} {table copied : GattDmTable} {position : Nat}
      {uuid : BtUuid} {userData : UserData}
      (isCopied : table.uuidStore position userData uuid fresh = some copied)
      : copied.attrs.length = table.attrs.length := by
    obtain ⟨data, -, attrs⟩ := uuidStore_eq_some_iff.mp isCopied
    rw [attrs, List.length_modify]
  cases stores with
  | nothing => exact bounded
  | store stored => exact store stored
  | copy copied => exact (copy copied).trans_le bounded
  | storeCopy stored copied => exact (copy copied).trans_le (store stored)

/-- The allocations between two tables. -/
def callocs (before after : GattDmTable) : List GattDmEvent :=
  (before.pool.acquired after.pool).map .calloc

def frees (table : GattDmTable) : List GattDmEvent := table.pool.chunks.map .free

/-- The connection of a discovery that is over, which the application is told once. -/
def GattDmEvent.calledBack : GattDmEvent → Option (Option Conn)
  | .completed conn _ | .serviceNotFound conn | .errorFound conn _ => some conn
  | _ => none

namespace BtGattDm

def flags (dm : BtGattDm) : Bool × Bool × Bool × Bool × Bool :=
  (dm.locked, dm.releasePending, dm.discoverWork, dm.requested, dm.faulted)

/-- The instance is in a phase. -/
def In (dm : BtGattDm) (phase : GattDmPhase) : Prop := dm.flags = phase.flags

/-- The ways of a step. -/
inductive Moves (first second : Option HeapBuffer) (dm : BtGattDm)
    : BtGattDm → List GattDmEvent → Prop where
  | stays {events : List GattDmEvent} (quiet : ∀ event ∈ events, ∃ err, event = .returned err)
      : Moves first second dm dm events
  | startFails {after : BtGattDm} {err : Int} (idle : dm.In .idle) (remains : after.In .idle)
      (table : after.table = .empty)
      : Moves first second dm after [.returned err]
  | starts {after : BtGattDm} {params : GattDiscoverParams} (idle : dm.In .idle)
      (asking : after.In .asking) (table : after.table = .empty)
      (primary : params.type = .primary)
      : Moves first second dm after [.discover after.conn params, .returned 0]
  | stores {after : BtGattDm} (asking : dm.In .asking) (remains : after.In .asking)
      (conn : after.conn = dm.conn)
      (stored : TableStores first second dm.table after.table)
      : Moves first second dm after (callocs dm.table after.table)
  | submits {after : BtGattDm} (asking : dm.In .asking) (queued : after.In .queued)
      (conn : after.conn = dm.conn)
      (stored : TableStores first second dm.table after.table)
      (secondary : after.discoverParams.type ≠ .primary)
      : Moves first second dm after (callocs dm.table after.table)
  | completes {after : BtGattDm} (asking : dm.In .asking) (complete : after.In .complete)
      (conn : after.conn = dm.conn)
      (stored : TableStores first second dm.table after.table)
      : Moves first second dm after
          (callocs dm.table after.table ++ [.completed after.conn after.table.attrs])
  | ends {after : BtGattDm} {reached : GattDmTable} {callback : GattDmEvent}
      (inProgress : dm.In .asking ∨ dm.In .queued) (idle : after.In .idle)
      (stored : TableStores first second dm.table reached) (table : after.table = .empty)
      (callsBack : callback.calledBack = some dm.conn)
      : Moves first second dm after (callocs dm.table reached ++ frees reached ++ [callback])
  | faults {after : BtGattDm} (asking : dm.In .asking) (faulted : after.In .faulted)
      (conn : after.conn = dm.conn) (table : after.table = dm.table)
      : Moves first second dm after [.fault]
  | asks {after : BtGattDm} {params : GattDiscoverParams} (queued : dm.In .queued)
      (asking : after.In .asking) (conn : after.conn = dm.conn)
      (table : after.table = dm.table) (secondary : params.type ≠ .primary)
      : Moves first second dm after [.discover after.conn params]
  | releases {after : BtGattDm} (complete : dm.In .complete) (idle : after.In .idle)
      (table : after.table = .empty)
      : Moves first second dm after (frees dm.table ++ [.returned 0])

section Moves

variable {dm : BtGattDm} {first second : Option HeapBuffer}

/-- A stored attribute takes its chunks from the heap and keeps those that the table has. -/
theorem attrStore_chunks {before after : GattDmTable} {handle perm : Nat} {uuid : BtUuid}
    {userData : UserData} {fresh : Option HeapBuffer}
    (stored : before.attrStore handle perm uuid userData fresh = some after)
    : after.pool.chunks = before.pool.chunks ++ before.pool.acquired after.pool := by
  obtain ⟨-, data, allocated, -⟩ := attrStore_eq_some_iff.mp stored
  exact ChunkPool.alloc_chunks allocated

/-- A copied UUID takes its chunks from the heap and keeps those that the table has. -/
theorem uuidStore_chunks {before after : GattDmTable} {position : Nat}
    {userData : UserData} {uuid : BtUuid} {fresh : Option HeapBuffer}
    (copied : before.uuidStore position userData uuid fresh = some after)
    : after.pool.chunks = before.pool.chunks ++ before.pool.acquired after.pool := by
  obtain ⟨data, allocated, -⟩ := uuidStore_eq_some_iff.mp copied
  exact ChunkPool.alloc_chunks allocated

/-- The allocations of two stores in a row are those between the first table and the last, by
cancelling the chunks that the first table has.
-/
theorem callocs_trans {before between after : GattDmTable}
    (first : between.pool.chunks = before.pool.chunks ++ before.pool.acquired between.pool)
    (second : after.pool.chunks = between.pool.chunks ++ between.pool.acquired after.pool)
    : callocs before between ++ callocs between after = callocs before after := by
  have acquired : before.pool.acquired between.pool ++ between.pool.acquired after.pool
      = before.pool.acquired after.pool := by
    rw [first, List.append_assoc] at second
    have behind := congrArg (List.drop before.pool.chunks.length) second
    rw [List.drop_left] at behind
    exact behind.symm
  simp only [callocs, ← acquired, List.map_append]

theorem callocs_self (table : GattDmTable) : callocs table table = [] := by
  simp [callocs, ChunkPool.acquired]

/-- An instance is in one phase only, since the phases differ in their flags. -/
theorem In.unique {one other : GattDmPhase} (isOne : dm.In one) (isOther : dm.In other)
    : one = other := by
  have same : one.flags = other.flags := isOne.symm.trans isOther
  cases one <;> cases other <;> first | rfl | exact absurd same (by decide)

section Asking

variable (asking : dm.In .asking)

include asking

/-- The end of a discovery after some stores. -/
theorem moves_ends {reached : GattDmTable} {callback : GattDmEvent}
    (stored : TableStores first second dm.table reached)
    (callsBack : callback.calledBack = some dm.conn)
    : Moves first second dm ({ dm with table := reached }.discoveryEnds callback).1
        (callocs dm.table reached
          ++ ({ dm with table := reached }.discoveryEnds callback).2) := by
  have idle : ({ dm with table := reached }.discoveryEnds callback).1.In .idle := by
    simp_all [In, flags, GattDmPhase.flags, discoveryEnds, memoryRelease]
  have moves := Moves.ends (.inl asking) idle stored rfl callsBack
  rwa [List.append_assoc] at moves

/-- The end of a discovery by a report that stores nothing. -/
theorem moves_endsNow {callback : GattDmEvent} (callsBack : callback.calledBack = some dm.conn)
    : Moves first second dm (dm.discoveryEnds callback).1 (dm.discoveryEnds callback).2 := by
  have moves : Moves first second dm _ _ := moves_ends asking .nothing callsBack
  rwa [callocs_self, List.nil_append] at moves

/-- `discovery_complete_error` after some stores. -/
theorem moves_error {reached : GattDmTable}
    (stored : TableStores first second dm.table reached) (err : Int)
    : Moves first second dm ({ dm with table := reached }.discoveryCompleteError err).1
        (callocs dm.table reached
          ++ ({ dm with table := reached }.discoveryCompleteError err).2) :=
  moves_ends asking stored rfl

/-- `discovery_complete_error` on a report that stores nothing. -/
theorem moves_errorNow (err : Int)
    : Moves first second dm (dm.discoveryCompleteError err).1
        (dm.discoveryCompleteError err).2 :=
  moves_endsNow asking rfl

theorem moves_setTable {table : GattDmTable}
    (stored : TableStores first second dm.table table)
    : Moves first second dm (dm.setTable table).1 (dm.setTable table).2 :=
  .stores asking asking rfl stored

/-- An access through NULL leaves the table as it is. -/
theorem moves_fault : Moves first second dm dm.fault.1 dm.fault.2 := by
  have faulted : dm.fault.1.In .faulted := by
    simp_all [In, flags, GattDmPhase.flags, fault]
  exact .faults asking faulted rfl rfl

/-- The table of a completed discovery is held for the application. -/
theorem moves_discoveryComplete {table : GattDmTable}
    (stored : TableStores first second dm.table table) (params : GattDiscoverParams)
    : Moves first second dm
        ({ dm with table, discoverParams := params }.discoveryComplete).1
        (callocs dm.table table
          ++ ({ dm with table, discoverParams := params }.discoveryComplete).2) := by
  have complete : ({ dm with table, discoverParams := params }.discoveryComplete).1.In
      .complete := by
    simp_all [In, flags, GattDmPhase.flags, discoveryComplete]
  exact .completes asking complete rfl stored

theorem moves_discoveryCompleteNow
    : Moves first second dm dm.discoveryComplete.1 dm.discoveryComplete.2 := by
  have moves : Moves first second dm _ _ :=
    moves_discoveryComplete asking .nothing dm.discoverParams
  rwa [callocs_self, List.nil_append] at moves

/-- After a pass the next one is left to the work queue. -/
theorem moves_submit {table : GattDmTable}
    (stored : TableStores first second dm.table table) {params : GattDiscoverParams}
    (secondary : params.type ≠ .primary)
    : Moves first second dm ({ dm with table }.submitDiscoverWork params)
        (callocs dm.table table) := by
  have queued : ({ dm with table }.submitDiscoverWork params).In .queued := by
    simp_all [In, flags, GattDmPhase.flags, submitDiscoverWork]
  exact .submits asking queued rfl stored secondary

/-- The service may be stored without its UUID when the second allocation fails. Then the
discovery ends, and frees what was stored.
-/
theorem discoveryProcessService_moves (handle perm : Nat) (val : GattServiceVal)
    : Moves first second dm (dm.discoveryProcessService handle perm val first second).1
        (dm.discoveryProcessService handle perm val first second).2 := by
  unfold discoveryProcessService
  split
  · exact moves_errorNow asking _
  · next stored isStored =>
      dsimp only [setTable]
      split
      · exact moves_error asking (.store isStored) _
      · next table isCopied =>
          have both := TableStores.storeCopy isStored isCopied
          have events : callocs dm.table stored ++ callocs stored table
              = callocs dm.table table :=
            callocs_trans (attrStore_chunks isStored) (uuidStore_chunks isCopied)
          unfold callocs at events
          rw [events]
          split
          · exact moves_discoveryComplete asking both _
          · exact moves_submit asking both nofun

/-- A store that fails ends the discovery, or accesses NULL if the attribute is a declaration. -/
theorem discoveryProcessAttribute_moves (handle perm : Nat) (uuid : BtUuid)
    : Moves first second dm (dm.discoveryProcessAttribute handle perm uuid first).1
        (dm.discoveryProcessAttribute handle perm uuid first).2 := by
  unfold discoveryProcessAttribute
  split
  · split
    · exact moves_fault asking
    · next table isStored => exact moves_setTable asking (.store isStored)
  · split
    · exact moves_errorNow asking _
    · next table isStored => exact moves_setTable asking (.store isStored)

/-- The end of the second pass starts the third one, or completes a table without
characteristics.
-/
theorem discoveryAttributesEnd_moves
    : Moves first second dm dm.discoveryAttributesEnd.1 dm.discoveryAttributesEnd.2 := by
  unfold discoveryAttributesEnd
  split
  · rw [← callocs_self dm.table]
    exact moves_submit asking .nothing nofun
  · exact moves_discoveryCompleteNow asking

/-- A declaration that the table does not have ends the discovery. -/
theorem discoveryProcessCharacteristic_moves (handle : Nat) (val : GattChrc)
    : Moves first second dm (dm.discoveryProcessCharacteristic handle val first).1
        (dm.discoveryProcessCharacteristic handle val first).2 := by
  unfold discoveryProcessCharacteristic
  split
  · exact moves_errorNow asking _
  · split
    · exact moves_fault asking
    · split
      · exact moves_errorNow asking _
      · next table isCopied => exact moves_setTable asking (.copy isCopied)

/-- Every report makes one move, by the pass that asked for it. -/
theorem discoveryCallback_moves (conn : Option Conn) (report : DiscoverReport)
    : Moves first second dm (dm.discoveryCallback conn report first second).1
        (dm.discoveryCallback conn report first second).2 := by
  unfold discoveryCallback
  split
  · exact moves_errorNow asking _
  · split
    · exact moves_endsNow asking rfl
    · exact discoveryProcessService_moves asking _ _ _
    · exact discoveryAttributesEnd_moves asking
    · exact discoveryProcessAttribute_moves asking _ _ _
    · exact moves_discoveryCompleteNow asking
    · exact discoveryProcessCharacteristic_moves asking _ _
    · exact .stays (by simp)

end Asking

/-- The work queue asks for the next pass, or ends the discovery when the stack refuses. -/
theorem gattDiscoverWork_moves (err : Int) (queued : dm.In .queued)
    (secondary : dm.discoverParams.type ≠ .primary)
    : Moves first second dm (dm.gattDiscoverWork err).1 (dm.gattDiscoverWork err).2 := by
  have locked : dm.locked ≠ false := by
    simp_all [In, flags, GattDmPhase.flags]
  unfold gattDiscoverWork
  simp only [if_neg locked]
  split
  · have idle : ({ dm with discoverWork := false }.discoveryCompleteError (-enomem)).1.In
        .idle := by
      simp_all [In, flags, GattDmPhase.flags, discoveryCompleteError, discoveryEnds,
        memoryRelease]
    have callsBack : (GattDmEvent.errorFound dm.conn (-enomem)).calledBack = some dm.conn := rfl
    have moves : Moves first second dm _ _ := .ends (.inr queued) idle .nothing rfl callsBack
    rwa [callocs_self, List.nil_append] at moves
  · have asking : ({ dm with discoverWork := false, requested := true } : BtGattDm).In
        .asking := by
      simp_all [In, flags, GattDmPhase.flags]
    exact .asks queued asking rfl rfl secondary

/-- A start takes a free instance, if the stack accepts the request. -/
theorem btGattDmStart_moves (conn : Option Conn) (svcUuid : Option BtUuid) (err : Int)
    {phase : GattDmPhase} (isIn : dm.In phase)
    (healthy : dm.faulted = false)
    : Moves first second dm (dm.btGattDmStart conn svcUuid err).1
        (dm.btGattDmStart conn svcUuid err).2 := by
  unfold btGattDmStart
  split
  · exact .stays (by simp)
  · split
    · exact .stays (by simp)
    · next unlocked =>
        have idle : dm.In .idle := by
          cases phase <;> simp_all [In, flags, GattDmPhase.flags]
        dsimp only
        split
        · refine .startFails idle ?_ rfl
          simp_all [In, flags, GattDmPhase.flags]
        · refine .starts idle ?_ rfl rfl
          simp_all [In, flags, GattDmPhase.flags]

/-- A release frees the table of a completed discovery and nothing else. -/
theorem btGattDmDataRelease_moves {phase : GattDmPhase} (isIn : dm.In phase)
    : Moves first second dm dm.btGattDmDataRelease.1 dm.btGattDmDataRelease.2 := by
  unfold btGattDmDataRelease
  split
  · next pending =>
      have complete : dm.In .complete := by
        cases phase <;> simp_all [In, flags, GattDmPhase.flags]
      refine .releases complete ?_ rfl
      simp_all [In, flags, GattDmPhase.flags, memoryRelease]
  · exact .stays (by simp)

end Moves

/-- What holds between any two steps. -/
structure Sound (dm : BtGattDm) : Prop where
  phase : ∃ phase, dm.In phase
  bounded : dm.table.attrs.length ≤ gattDmMaxAttrs
  free : dm.In .idle → dm.table = .empty
  secondary : dm.In .queued → dm.discoverParams.type ≠ .primary

/-- What the heap answers to a step. -/
def answers : GattDmInput → Option HeapBuffer × Option HeapBuffer
  | .discoveryCallback _ _ first second => (first, second)
  | _ => (none, none)

/-- Every step of a sound instance makes one move, by cases on the input. The flags that guard
an input tell the phase.
-/
theorem Sound.moves {dm : BtGattDm} (sound : dm.Sound) (input : GattDmInput)
    : Moves (answers input).1 (answers input).2 dm (dm.step input).1 (dm.step input).2 := by
  obtain ⟨phase, isIn⟩ := sound.phase
  unfold step
  split
  · exact .stays (by simp)
  · next healthy =>
      rw [Bool.not_eq_true] at healthy
      cases input with
      | btGattDmStart conn svcUuid err => exact btGattDmStart_moves conn svcUuid err isIn healthy
      | gattDiscoverWork err =>
          dsimp only
          split
          · next submitted =>
              have queued : dm.In .queued := by
                cases phase <;> simp_all [In, flags, GattDmPhase.flags]
              exact gattDiscoverWork_moves err queued (sound.secondary queued)
          · exact .stays (by simp)
      | discoveryCallback conn report first second =>
          dsimp only
          split
          · next requested =>
              have asking : dm.In .asking := by
                cases phase <;> simp_all [In, flags, GattDmPhase.flags]
              exact discoveryCallback_moves asking conn report
          · exact .stays (by simp)
      | btGattDmDataRelease => exact btGattDmDataRelease_moves isIn

/-- A step keeps what holds between steps. -/
theorem Sound.step {dm : BtGattDm} (sound : dm.Sound) (input : GattDmInput)
    : (dm.step input).1.Sound := by
  have moves := sound.moves input
  generalize (dm.step input).1 = after, (dm.step input).2 = events at moves ⊢
  have settled {phase : GattDmPhase} (isIn : after.In phase) (bounded : _)
      (free : phase = .idle → after.table = .empty)
      (secondary : phase = .queued → after.discoverParams.type ≠ .primary) : after.Sound :=
    ⟨⟨phase, isIn⟩, bounded, fun idle => free (isIn.unique idle),
      fun queued => secondary (isIn.unique queued)⟩
  have vacant (table : after.table = .empty) : after.table.attrs.length ≤ gattDmMaxAttrs := by
    simp [table, GattDmTable.empty]
  cases moves with
  | stays quiet => exact sound
  | startFails _ idle table => exact settled idle (vacant table) (fun _ => table) nofun
  | starts _ asking table _ => exact settled asking (vacant table) nofun nofun
  | stores _ asking _ stored => exact settled asking (stored.bounded sound.bounded) nofun nofun
  | submits _ queued _ stored secondary =>
      exact settled queued (stored.bounded sound.bounded) nofun fun _ => secondary
  | completes _ complete _ stored =>
      exact settled complete (stored.bounded sound.bounded) nofun nofun
  | ends _ idle _ table _ => exact settled idle (vacant table) (fun _ => table) nofun
  | faults _ faulted _ table => exact settled faulted (table ▸ sound.bounded) nofun nofun
  | asks _ asking _ table _ => exact settled asking (table ▸ sound.bounded) nofun nofun
  | releases _ idle table => exact settled idle (vacant table) (fun _ => table) nofun

theorem boot_sound : boot.Sound :=
  ⟨⟨.idle, rfl⟩, by simp [boot, GattDmTable.empty], fun _ => rfl, by simp [boot, In, flags,
    GattDmPhase.flags]⟩

end BtGattDm

end GoproGateway
