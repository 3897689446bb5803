import GoproGateway.Gatt.Steps
import GoproGateway.Library.Ledger

/-! Who holds the instance and its memory.

Nothing is assumed of the callers, the server, the stack's results or the heap, other than that
the stack calls back while a request is outstanding.
-/

namespace GoproGateway

open Ledger

/-- The event's part in the heap's ledger. -/
def GattDmEvent.heapAction : GattDmEvent → Option (Action HeapBuffer)
  | .calloc chunk => some (.acquire chunk)
  | .free chunk => some (.release chunk)
  | _ => none

/-- The connection of a discovery that starts. -/
def GattDmEvent.accepted : GattDmEvent → Option (Option Conn)
  | .discover conn params => if params.type = .primary then some conn else none
  | _ => none

-----------------------------------------------------------------------------------------
-- The ledger of a step
-----------------------------------------------------------------------------------------

theorem callocs_heapActions (before after : GattDmTable)
    : (callocs before after).filterMap GattDmEvent.heapAction
      = (before.pool.acquired after.pool).map .acquire := by
  rw [callocs, List.filterMap_map]
  exact congrFun (@List.filterMap_eq_map _ _ Action.acquire) _

theorem frees_heapActions (table : GattDmTable)
    : (frees table).filterMap GattDmEvent.heapAction
      = table.pool.chunks.map .release := by
  rw [frees, List.filterMap_map]
  exact congrFun (@List.filterMap_eq_map _ _ Action.release) _

/-- What is acquired is live. -/
theorem run_acquires (live chunks : List HeapBuffer)
    : Ledger.run live (chunks.map .acquire) = some (chunks.reverse ++ live) := by
  induction chunks generalizing live with
  | nil => rfl
  | cons chunk rest ih =>
      rw [List.map_cons, run_cons]
      exact (ih (chunk :: live)).trans (by simp)

/-- All that is live can be released, in any order. -/
theorem run_releases {live chunks : List HeapBuffer} (all : live.Perm chunks)
    : Ledger.run live (chunks.map .release) = some [] := by
  induction chunks generalizing live with
  | nil => rw [List.perm_nil.mp all]; rfl
  | cons chunk rest ih =>
      have member : chunk ∈ live := all.mem_iff.mpr List.mem_cons_self
      have others : (live.erase chunk).Perm rest := by
        have erased := all.erase chunk
        rwa [List.erase_cons_head] at erased
      rw [List.map_cons, run_cons, step, if_pos member]
      exact ih others

namespace BtGattDm

/-- The events turn a ledger that has the chunks `before` into one that has `after`. -/
def Settles (before : List HeapBuffer) (events : List GattDmEvent) (after : List HeapBuffer)
    : Prop :=
  ∀ live : List HeapBuffer, live.Perm before
    → ∃ final, Ledger.run live (events.filterMap GattDmEvent.heapAction) = some final
      ∧ final.Perm after

theorem Settles.trans {before between after : List HeapBuffer} {first second : List GattDmEvent}
    (one : Settles before first between) (two : Settles between second after)
    : Settles before (first ++ second) after := by
  intro live all
  obtain ⟨middle, reaches, same⟩ := one live all
  obtain ⟨final, reachesFinal, sameFinal⟩ := two middle same
  refine ⟨final, ?_, sameFinal⟩
  rw [List.filterMap_append, run_append, reaches]
  exact reachesFinal

/-- Events without a part in the ledger. -/
theorem Settles.quiet {chunks : List HeapBuffer} {events : List GattDmEvent}
    (quiet : ∀ event ∈ events, event.heapAction = none)
    : Settles chunks events chunks := by
  intro live all
  rw [List.filterMap_eq_nil_iff.mpr quiet]
  exact ⟨live, rfl, all⟩

theorem settles_frees (table : GattDmTable) : Settles table.pool.chunks (frees table) [] := by
  intro live all
  rw [frees_heapActions]
  exact ⟨[], run_releases all, .refl _⟩

theorem settles_stores {first second : Option HeapBuffer} {before after : GattDmTable}
    (stores : TableStores first second before after)
    : Settles before.pool.chunks (callocs before after) after.pool.chunks := by
  have grows {before after : GattDmTable}
      (chunks : after.pool.chunks = before.pool.chunks ++ before.pool.acquired after.pool)
      : Settles before.pool.chunks (callocs before after) after.pool.chunks := by
    intro live all
    rw [callocs_heapActions]
    refine ⟨_, run_acquires live _, ?_⟩
    rw [chunks]
    exact ((List.reverse_perm _).append all).trans List.perm_append_comm
  cases stores with
  | nothing =>
      rw [callocs_self]
      exact .quiet (by simp)
  | store stored => exact grows (attrStore_chunks stored)
  | copy copied => exact grows (uuidStore_chunks copied)
  | storeCopy stored copied =>
      have one := attrStore_chunks stored
      have two := uuidStore_chunks copied
      rw [← callocs_trans one two]
      exact (grows one).trans (grows two)

theorem heapAction_calledBack {event : GattDmEvent} {conn : Option Conn}
    (callsBack : event.calledBack = some conn) : event.heapAction = none := by
  cases event <;> first | rfl | cases callsBack

/-- A step's events account for the chunks that the table gains and loses. -/
theorem Moves.settles {first second : Option HeapBuffer} {dm after : BtGattDm}
    {events : List GattDmEvent} (moves : Moves first second dm after events) (sound : dm.Sound)
    : Settles dm.table.pool.chunks events after.table.pool.chunks := by
  have silent {events : List GattDmEvent} (quiet : ∀ event ∈ events, event.heapAction = none)
      (same : after.table.pool.chunks = dm.table.pool.chunks)
      : Settles dm.table.pool.chunks events after.table.pool.chunks :=
    same ▸ .quiet quiet
  cases moves with
  | stays quiet =>
      apply Settles.quiet
      intro event member
      obtain ⟨err, rfl⟩ := quiet event member
      rfl
  | startFails idle remains table =>
      exact silent (by simp [GattDmEvent.heapAction]) (by rw [table, sound.free idle])
  | starts idle asking table primary =>
      exact silent (by simp [GattDmEvent.heapAction]) (by rw [table, sound.free idle])
  | stores asking remains conn stored => exact settles_stores stored
  | submits asking queued conn stored secondary => exact settles_stores stored
  | completes asking complete conn stored =>
      exact (settles_stores stored).trans (.quiet (by simp [GattDmEvent.heapAction]))
  | @ends after reached callback inProgress idle stored table callsBack =>
      rw [table]
      refine ((settles_stores stored).trans (settles_frees reached)).trans (.quiet ?_)
      simp [heapAction_calledBack callsBack]
  | faults asking faulted conn table =>
      exact silent (by simp [GattDmEvent.heapAction]) (by rw [table])
  | asks queued asking conn table secondary =>
      exact silent (by simp [GattDmEvent.heapAction]) (by rw [table])
  | releases complete idle table =>
      rw [table]
      exact (settles_frees dm.table).trans (.quiet (by simp [GattDmEvent.heapAction]))

/-- Along a run, the ledger has the chunks of the table. -/
theorem run_settles {dm : BtGattDm} (sound : dm.Sound) (inputs : List GattDmInput)
    : (gattDm.run dm inputs).1.Sound
      ∧ Settles dm.table.pool.chunks (gattDm.run dm inputs).2
          (gattDm.run dm inputs).1.table.pool.chunks := by
  induction inputs generalizing dm with
  | nil => exact ⟨sound, .quiet (by simp)⟩
  | cons input rest ih =>
      obtain ⟨kept, later⟩ := ih (sound.step input)
      exact ⟨kept, ((sound.moves input).settles sound).trans later⟩

/-- The chunks that the heap handed out and has not got back are the table's: none is freed
twice, and while the instance is free, none is held.
-/
theorem gattDm_ledger (inputs : List GattDmInput)
    : ∃ live, Ledger.run [] ((gattDm.run boot inputs).2.filterMap GattDmEvent.heapAction)
        = some live
      ∧ live.Perm (gattDm.run boot inputs).1.table.pool.chunks
      ∧ ((gattDm.run boot inputs).1.locked = false → live = []) := by
  obtain ⟨sound, settles⟩ := run_settles boot_sound inputs
  obtain ⟨live, reaches, all⟩ := settles [] (.refl _)
  refine ⟨live, reaches, all, ?_⟩
  intro unlocked
  obtain ⟨phase, isIn⟩ := sound.phase
  have idle : (gattDm.run boot inputs).1.In .idle := by
    cases phase <;> simp_all [In, flags, GattDmPhase.flags]
  rw [sound.free idle] at all
  exact List.perm_nil.mp all

-----------------------------------------------------------------------------------------
-- Every discovery is answered once
-----------------------------------------------------------------------------------------

/-- The connection of the discovery that has not been answered. -/
def unanswered (dm : BtGattDm) : List (Option Conn) :=
  if dm.locked && !dm.releasePending then [dm.conn] else []

theorem In.unanswered_eq {dm : BtGattDm} {phase : GattDmPhase} (isIn : dm.In phase)
    : dm.unanswered = match phase with
      | .idle | .complete => []
      | .asking | .queued | .faulted => [dm.conn] := by
  have locked : dm.locked = phase.flags.1 := congrArg Prod.fst isIn
  have pending : dm.releasePending = phase.flags.2.1 := congrArg (·.2.1) isIn
  rw [unanswered, locked, pending]
  cases phase <;> rfl

theorem filterMap_callocs {α : Type} {shows : GattDmEvent → Option α}
    (hides : ∀ chunk, shows (.calloc chunk) = none) (before after : GattDmTable)
    : (callocs before after).filterMap shows = [] := by
  simp [callocs, hides]

theorem filterMap_frees {α : Type} {shows : GattDmEvent → Option α}
    (hides : ∀ chunk, shows (.free chunk) = none) (table : GattDmTable)
    : (frees table).filterMap shows = [] := by
  simp [frees, hides]

theorem accepted_calledBack {event : GattDmEvent} {conn : Option Conn}
    (callsBack : event.calledBack = some conn) : event.accepted = none := by
  cases event <;> first | rfl | cases callsBack

/-- A step answers what is unanswered, or takes on what is new. -/
theorem Moves.answers_once {first second : Option HeapBuffer} {dm after : BtGattDm}
    {events : List GattDmEvent} (moves : Moves first second dm after events)
    : dm.unanswered ++ events.filterMap GattDmEvent.accepted
      = events.filterMap GattDmEvent.calledBack ++ after.unanswered := by
  have callocsAccepted := @filterMap_callocs _ GattDmEvent.accepted fun _ => rfl
  have callocsCalledBack := @filterMap_callocs _ GattDmEvent.calledBack fun _ => rfl
  have freesAccepted := @filterMap_frees _ GattDmEvent.accepted fun _ => rfl
  have freesCalledBack := @filterMap_frees _ GattDmEvent.calledBack fun _ => rfl
  cases moves with
  | stays quiet =>
      have hides {shows : GattDmEvent → Option (Option Conn)}
          (hidesReturned : ∀ err, shows (.returned err) = none)
          : events.filterMap shows = [] := by
        refine List.filterMap_eq_nil_iff.mpr fun event member => ?_
        obtain ⟨err, rfl⟩ := quiet event member
        exact hidesReturned err
      rw [hides fun _ => rfl, hides fun _ => rfl, List.append_nil, List.nil_append]
  | startFails idle remains table =>
      simp [idle.unanswered_eq, remains.unanswered_eq, List.filterMap_cons,
        GattDmEvent.accepted, GattDmEvent.calledBack]
  | starts idle asking table primary =>
      simp [idle.unanswered_eq, asking.unanswered_eq, List.filterMap_cons,
        GattDmEvent.accepted, GattDmEvent.calledBack, primary]
  | stores asking remains conn stored =>
      rw [callocsAccepted, callocsCalledBack, asking.unanswered_eq, remains.unanswered_eq]
      simp [conn]
  | submits asking queued conn stored secondary =>
      rw [callocsAccepted, callocsCalledBack, asking.unanswered_eq, queued.unanswered_eq]
      simp [conn]
  | completes asking complete conn stored =>
      rw [List.filterMap_append, List.filterMap_append, callocsAccepted, callocsCalledBack,
        asking.unanswered_eq, complete.unanswered_eq]
      simp [List.filterMap_cons, GattDmEvent.accepted, GattDmEvent.calledBack, conn]
  | ends inProgress idle stored table callsBack =>
      have unanswered : dm.unanswered = [dm.conn] := by
        rcases inProgress with asking | queued
        · exact asking.unanswered_eq
        · exact queued.unanswered_eq
      simp only [List.filterMap_append, callocsAccepted, callocsCalledBack, freesAccepted,
        freesCalledBack, unanswered, idle.unanswered_eq]
      simp [accepted_calledBack callsBack, callsBack]
  | faults asking faulted conn table =>
      simp [asking.unanswered_eq, faulted.unanswered_eq, List.filterMap_cons,
        GattDmEvent.accepted, GattDmEvent.calledBack, conn]
  | asks queued asking conn table secondary =>
      simp [queued.unanswered_eq, asking.unanswered_eq, List.filterMap_cons,
        GattDmEvent.accepted, GattDmEvent.calledBack, conn, secondary]
  | releases complete idle table =>
      rw [List.filterMap_append, List.filterMap_append, freesAccepted, freesCalledBack,
        complete.unanswered_eq, idle.unanswered_eq]
      simp [List.filterMap_cons, GattDmEvent.accepted, GattDmEvent.calledBack]

/-- The application is told of each discovery that started, in order and once: all of them but
the one that is still in progress.
-/
theorem gattDm_answers_once (inputs : List GattDmInput)
    : (gattDm.run boot inputs).2.filterMap GattDmEvent.accepted
      = (gattDm.run boot inputs).2.filterMap GattDmEvent.calledBack
        ++ (gattDm.run boot inputs).1.unanswered := by
  have conserved := InputMachine.run_conserves (M := gattDm) unanswered
    (fun _ input sound => sound.step input)
    (fun _ input sound => (sound.moves input).answers_once) boot_sound inputs
  exact conserved

end BtGattDm

-----------------------------------------------------------------------------------------
-- No two pieces of user data share a byte
-----------------------------------------------------------------------------------------

/-- The pieces of memory that an attribute's pointers lead to. -/
def GattDmAttr.extents (attr : GattDmAttr) : List (Extent HeapBuffer) :=
  attr.data :: attr.uuidData.toList

def GattDmTable.extents (table : GattDmTable) : List (Extent HeapBuffer) :=
  table.attrs.flatMap GattDmAttr.extents

/-- The table's pointers lead to pieces of its chunks that share no byte. -/
def GattDmTable.Held (table : GattDmTable) : Prop :=
  table.pool.Holds chunkDataSize table.extents

theorem attrStore_held {before after : GattDmTable} {handle perm : Nat} {uuid : BtUuid}
    {userData : UserData} {fresh : Option HeapBuffer} (held : before.Held)
    (isFresh : ∀ chunk ∈ fresh, chunk ∉ before.pool.chunks)
    (stored : before.attrStore handle perm uuid userData fresh = some after)
    : after.Held := by
  obtain ⟨-, data, allocated, attrs⟩ := attrStore_eq_some_iff.mp stored
  have holds := held.alloc (userData_fits userData uuid) isFresh allocated
  apply holds.perm
  simp only [GattDmTable.extents, attrs, List.flatMap_append, List.flatMap_singleton,
    GattDmAttr.extents, Option.toList_none]
  exact (List.perm_append_singleton _ _).symm

/-- An attribute that gets another copy of its UUID forgets the one it had. -/
theorem extents_modify (attrs : List GattDmAttr) (position : Nat) (userData : UserData)
    (data : Extent HeapBuffer)
    : ∃ kept, kept.Sublist (attrs.flatMap GattDmAttr.extents)
      ∧ (((attrs.modify position fun attr => { attr with userData, uuidData := some data }
          ).flatMap GattDmAttr.extents).Perm (data :: kept)
        ∨ (attrs.modify position fun attr => { attr with userData, uuidData := some data }
          ).flatMap GattDmAttr.extents = kept) := by
  induction attrs generalizing position with
  | nil => exact ⟨[], .slnil, .inr (by cases position <;> rfl)⟩
  | cons attr rest ih =>
      cases position with
      | zero =>
          refine ⟨attr.data :: rest.flatMap GattDmAttr.extents, ?_, .inl ?_⟩
          · rw [List.flatMap_cons, GattDmAttr.extents, List.cons_append]
            exact (List.sublist_append_right _ _).cons_cons _
          · exact List.Perm.swap _ _ _
      | succ position =>
          obtain ⟨kept, sub, copied | missed⟩ := ih position
          · refine ⟨attr.extents ++ kept, ?_, .inl ?_⟩
            · exact (List.Sublist.refl _).append sub
            · exact (copied.append_left _).trans List.perm_middle
          · refine ⟨attr.extents ++ kept, ?_, .inr ?_⟩
            · exact (List.Sublist.refl _).append sub
            · rw [List.modify_succ_cons, List.flatMap_cons, missed]

theorem uuidStore_held {before after : GattDmTable} {position : Nat} {uuid : BtUuid}
    {userData : UserData} {fresh : Option HeapBuffer} (held : before.Held)
    (isFresh : ∀ chunk ∈ fresh, chunk ∉ before.pool.chunks)
    (copied : before.uuidStore position userData uuid fresh = some after)
    : after.Held := by
  obtain ⟨data, allocated, attrs⟩ := uuidStore_eq_some_iff.mp copied
  have holds := held.alloc (userData_fits .none uuid) isFresh (by
    rwa [UserData.size, Nat.zero_add])
  obtain ⟨kept, sub, gained | missed⟩ := extents_modify before.attrs position userData data
  · have extents : after.extents.Perm (data :: kept) := by
      rw [GattDmTable.extents, attrs]
      exact gained
    exact (holds.sublist (sub.cons_cons data)).perm extents.symm
  · have extents : after.extents = kept := by
      rw [GattDmTable.extents, attrs]
      exact missed
    rw [GattDmTable.Held, extents]
    exact holds.sublist (sub.cons data)

/-- The heap answers a step with chunks that are not in use. -/
def BtGattDm.HeapAnswers (dm : BtGattDm) (input : GattDmInput) : Prop :=
  (∀ chunk ∈ (answers input).1, chunk ∉ dm.table.pool.chunks)
  ∧ ∀ chunk ∈ (answers input).2, chunk ∉ dm.table.pool.chunks ∧ chunk ∉ (answers input).1

theorem TableStores.held {first second : Option HeapBuffer} {before after : GattDmTable}
    (stores : TableStores first second before after) (held : before.Held)
    (isFirst : ∀ chunk ∈ first, chunk ∉ before.pool.chunks)
    (isSecond : ∀ chunk ∈ second, chunk ∉ before.pool.chunks ∧ chunk ∉ first)
    : after.Held := by
  cases stores with
  | nothing => exact held
  | store stored => exact attrStore_held held isFirst stored
  | copy copied => exact uuidStore_held held isFirst copied
  | storeCopy stored copied =>
      apply uuidStore_held (attrStore_held held isFirst stored) _ copied
      intro chunk isAnswer
      obtain ⟨absent, other⟩ := isSecond chunk isAnswer
      obtain ⟨-, data, allocated, -⟩ := attrStore_eq_some_iff.mp stored
      rcases ChunkPool.alloc_cases allocated with ⟨last, -, -, pool, -⟩ | ⟨taken, isTaken, pool, -⟩
      · rw [pool]
        exact absent
      · rw [pool, List.mem_append, List.mem_singleton]
        rintro (inUse | rfl)
        · exact absent inUse
        · exact other isTaken

namespace BtGattDm

instance (dm : BtGattDm) (input : GattDmInput) : Decidable (dm.HeapAnswers input) :=
  inferInstanceAs (Decidable ((∀ chunk ∈ _, _) ∧ ∀ chunk ∈ _, _))

/-- A step keeps the pieces apart. -/
theorem Sound.held {dm : BtGattDm} (sound : dm.Sound) (held : dm.table.Held)
    {input : GattDmInput} (answered : dm.HeapAnswers input)
    : (dm.step input).1.table.Held := by
  have moves := sound.moves input
  generalize (dm.step input).1 = after, (dm.step input).2 = events at moves ⊢
  have vacant (table : after.table = .empty) : after.table.Held := by
    rw [table]
    exact ChunkPool.holds_empty _
  cases moves with
  | stays quiet => exact held
  | startFails _ _ table | starts _ _ table _ | ends _ _ _ table _ | releases _ _ table =>
      exact vacant table
  | stores _ _ _ stored | submits _ _ _ stored _ | completes _ _ _ stored =>
      exact stored.held held answered.1 answered.2
  | faults _ _ _ table | asks _ _ _ table _ => rwa [table]

theorem run_held {dm : BtGattDm} {inputs : List GattDmInput} (sound : dm.Sound)
    (held : dm.table.Held) (answered : gattDm.Along HeapAnswers dm inputs)
    : (gattDm.run dm inputs).1.table.Held := by
  induction inputs generalizing dm with
  | nil => exact held
  | cons input rest ih =>
      exact ih (sound.step input) (sound.held held answered.1) answered.2

/-- Whatever a server reports, the pointers of the table lead into the table's chunks, and no
two of them to the same byte.
-/
theorem gattDm_apart {inputs : List GattDmInput}
    (answered : gattDm.Along HeapAnswers boot inputs)
    : (gattDm.run boot inputs).1.table.extents.Pairwise Extent.Apart
      ∧ ∀ extent ∈ (gattDm.run boot inputs).1.table.extents,
        extent.chunk ∈ (gattDm.run boot inputs).1.table.pool.chunks
          ∧ extent.stop ≤ chunkDataSize := by
  have holds := run_held boot_sound (ChunkPool.holds_empty _) answered
  exact ⟨holds.apart, holds.inChunk⟩

/-- A service and its first declaration, which share a chunk. -/
def smallDiscovery : List GattDmInput :=
  [.btGattDmStart (some 1) none 0,
    .discoveryCallback (some 1) (.service 1 0 ⟨.uuid16 0x180F, 9⟩) (some 7) none,
    .gattDiscoverWork 0,
    .discoveryCallback (some 1) (.plain 2 0 btUuidGattChrc) (some 8) none]

theorem gattDm_apart_small
    : (gattDm.run boot smallDiscovery).1.table.extents.Pairwise Extent.Apart
      ∧ ∀ extent ∈ (gattDm.run boot smallDiscovery).1.table.extents,
        extent.chunk ∈ (gattDm.run boot smallDiscovery).1.table.pool.chunks
          ∧ extent.stop ≤ chunkDataSize :=
  gattDm_apart ⟨by simp [HeapAnswers, answers], by decide, by simp [HeapAnswers, answers],
    by decide, trivial⟩

end BtGattDm

end GoproGateway
