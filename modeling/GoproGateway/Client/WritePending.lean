import GoproGateway.Client.Writes
import GoproGateway.Packet.Frames

/-! The `WRITE_PENDING` flags mirror the writes in flight.

A flag is held by nobody, by the call that has set it, or by the stack with the write that the
call has handed over. Parameters that no write uses may hold an old handle, but only their own.
-/

namespace GoproGateway

namespace SendPhase

/-- The handle index of a call. -/
def index : SendPhase → Option Nat
  | returned => none
  | entered cmd | flagged cmd | stored cmd => some cmd.cmdType
  | failed index _ => some index

/-- The handle index of a call that has set the flag and not handed the write over. -/
def submits : SendPhase → Option Nat
  | returned | entered _ => none
  | flagged cmd | stored cmd => some cmd.cmdType
  | failed index _ => some index

end SendPhase

namespace SendState

/-- The writes in flight on a handle. -/
def writesOn (s : SendState) (i : Nat) : List (Nat × WriteParams) :=
  s.inFlight.filter fun write => write.1 = i

/-- The flag of a handle is set when a write on it is in flight, and only then while no call is
submitting one; there is one at most, and its parameters are as they were.
-/
structure MirrorsWrites (s : SendState) (i : Nat) : Prop where
  pending : (∀ thread, (s.calls thread).submits ≠ some i)
    → (s.client.writePending i = true ↔ (s.writesOn i).length = 1)
  held : (s.writesOn i).length = 1 → s.client.writePending i = true
  single : (s.writesOn i).length ≤ 1
  unmodified : ∀ params, (i, params) ∈ s.inFlight → s.client.writeParams i = params

-----------------------------------------------------------------------------------------
-- Who holds a flag
-----------------------------------------------------------------------------------------

/-- Who holds the flag of a handle. -/
inductive FlagHolder where
  | nobody
  | call (thread : Nat)
  | stack (params : WriteParams)

def FlagHolder.write : FlagHolder → Option WriteParams
  | stack params => some params
  | _ => none

/-- The flag of a handle is with `holder`, and everything else is as that says. -/
structure HeldBy (s : SendState) (i : Nat) (holder : FlagHolder) : Prop where
  pending : s.client.writePending i = true ↔ holder ≠ .nobody
  calls : ∀ thread, (s.calls thread).submits = some i ↔ holder = .call thread
  writes : s.writesOn i = holder.write.toList.map (i, ·)
  current : ∀ params, holder = .stack params
    → s.client.writeParams i = params ∧ params.handle = s.client.writeHandle i

/-- What the parameters hold, in use or not. -/
structure ParamsOrder (s : SendState) (writeHandle : Nat → Nat) : Prop where
  assigned : s.client.writeHandle = writeHandle
  stale : ∀ i, (s.client.writeParams i).handle = 0
    ∨ (s.client.writeParams i).handle = writeHandle i
  stored : ∀ thread cmd, s.calls thread = .stored cmd
    → (s.client.writeParams cmd.cmdType).handle = writeHandle cmd.cmdType
  indexes : ∀ thread i, (s.calls thread).index = some i → i < gpCntrlHandleEnd
  inFlight : ∀ write ∈ s.inFlight, write.1 < gpCntrlHandleEnd

/-- Every flag has a holder. -/
structure Held (writeHandle : Nat → Nat) (s : SendState) : Prop where
  order : s.ParamsOrder writeHandle
  holders : ∀ i, ∃ holder, s.HeldBy i holder

variable {s : SendState} {writeHandle : Nat → Nat} {i : Nat}

theorem assigned_held (writeHandle : Nat → Nat) : (assigned writeHandle).Held writeHandle := by
  refine ⟨⟨rfl, fun _ => .inl rfl, nofun, nofun, nofun⟩, fun i => ⟨.nobody, ?_⟩⟩
  refine ⟨?_, fun thread => iff_of_false nofun nofun, rfl, nofun⟩
  simp [assigned, WriteClient.assigned]

/-- A write in flight on a handle is the stack's. -/
theorem HeldBy.of_inFlight {holder : FlagHolder} {params : WriteParams}
    (held : s.HeldBy i holder) (member : (i, params) ∈ s.inFlight)
    : holder = .stack params := by
  have onHandle : (i, params) ∈ s.writesOn i := List.mem_filter.mpr ⟨member, by simp⟩
  rw [held.writes] at onHandle
  cases holder with
  | nobody | call => cases onHandle
  | stack current =>
      have same : params = current := by simpa [FlagHolder.write] using onHandle
      rw [same]

/-- Whoever holds it, the flag mirrors the writes. -/
theorem HeldBy.mirrors {holder : FlagHolder} (held : s.HeldBy i holder)
    : s.MirrorsWrites i := by
  have unmodified (params : WriteParams) (member : (i, params) ∈ s.inFlight)
      : s.client.writeParams i = params :=
    (held.current params (held.of_inFlight member)).1
  have writes := held.writes
  cases holder with
  | nobody =>
      have clear : s.client.writePending i ≠ true := fun set => held.pending.mp set rfl
      have nothing : s.writesOn i = [] := writes
      refine ⟨fun _ => ?_, ?_, ?_, unmodified⟩ <;> simp [nothing, clear]
  | call thread =>
      have nothing : s.writesOn i = [] := writes
      refine ⟨fun idle => ?_, ?_, ?_, unmodified⟩
      · exact absurd ((held.calls thread).mpr rfl) (idle thread)
      · simp [nothing]
      · simp [nothing]
  | stack params =>
      have set : s.client.writePending i = true := held.pending.mpr nofun
      have one : s.writesOn i = [(i, params)] := writes
      refine ⟨fun _ => ?_, ?_, ?_, unmodified⟩ <;> simp [one, set]

theorem HeldBy.frame {before after : SendState} {holder : FlagHolder}
    (held : before.HeldBy i holder)
    (pending : after.client.writePending i = before.client.writePending i)
    (params : after.client.writeParams i = before.client.writeParams i)
    (handle : after.client.writeHandle i = before.client.writeHandle i)
    (writes : after.writesOn i = before.writesOn i)
    (calls : ∀ thread, (after.calls thread).submits = some i
      ↔ (before.calls thread).submits = some i)
    : after.HeldBy i holder := by
  refine ⟨?_, fun thread => (calls thread).trans (held.calls thread), ?_, ?_⟩
  · rw [pending]
    exact held.pending
  · rw [writes]
    exact held.writes
  · rw [params, handle]
    exact held.current

/-- A call moves without taking the flag of the handle, or letting go of it. -/
theorem setCall_submits_iff {thread : Nat} {phase : SendPhase}
    (same : phase.submits = some i ↔ (s.calls thread).submits = some i) (other : Nat)
    : ((s.setCall thread phase).calls other).submits = some i
      ↔ (s.calls other).submits = some i := by
  rcases eq_or_ne other thread with rfl | different
  · simpa [setCall] using same
  · simp [setCall, different]

/-- The call that holds a flag lets go of it. -/
theorem HeldBy.released {thread : Nat} (held : s.HeldBy i (.call thread)) (other : Nat)
    : ((s.setCall thread .returned).calls other).submits ≠ some i := by
  rcases eq_or_ne other thread with rfl | different
  · simp [setCall, SendPhase.submits]
  · intro submits
    have same := (held.calls other).mp (by simpa [setCall, different] using submits)
    exact different (FlagHolder.call.inj same).symm

-----------------------------------------------------------------------------------------
-- How flags change hands
-----------------------------------------------------------------------------------------

theorem filter_append_write (writes : List (Nat × WriteParams)) (write : Nat × WriteParams)
    : (writes ++ [write]).filter (fun write => write.1 = i)
      = (writes.filter fun write => write.1 = i) ++ if write.1 = i then [write] else [] := by
  simp only [List.filter_append, List.filter_cons, List.filter_nil, decide_eq_true_eq]

theorem completed_filter (params i : Nat) (writes : List (Nat × WriteParams))
    : (completed params writes).filter (fun write => write.1 = i)
      = if params = i then (writes.filter fun write => write.1 = i).tail
        else writes.filter fun write => write.1 = i := by
  induction writes with
  | nil => simp [completed]
  | cons write rest ih =>
      by_cases own : write.1 = params
      · have erased : completed params (write :: rest) = rest :=
          List.eraseP_cons_of_pos (by simpa using own)
        rw [erased]
        by_cases same : params = i <;> simp [own, same]
      · have kept : completed params (write :: rest) = write :: completed params rest :=
          List.eraseP_cons_of_neg (by simpa using own)
        rw [kept, List.filter_cons, List.filter_cons, ih]
        by_cases onHandle : write.1 = i
        · have other : params ≠ i := fun same => own (onHandle.trans same.symm)
          simp [onHandle, other]
        · simp [onHandle]

/-- With its own handle in the parameters, a completion clears their flag. -/
theorem ParamsOrder.onSentData (order : s.ParamsOrder writeHandle)
    (handles : DistinctHandles writeHandle) (small : i < gpCntrlHandleEnd)
    (own : (s.client.writeParams i).handle = writeHandle i)
    : s.client.onSentData i = (s.client.setPending i false, true) := by
  have match_iff (j : Nat) (other : j < gpCntrlHandleEnd)
      : (s.client.writeParams i).handle = (s.client.writeParams j).handle ↔ i = j :=
    handles.match_iff (fun j => (s.client.writeParams j).handle) order.stale own small other
  unfold WriteClient.onSentData
  simp only [match_iff gpCntrlHandleSettings (by decide), match_iff gpCntrlHandleCmd (by decide),
    match_iff gpCntrlHandleQuery (by decide), match_iff gpCntrlHandleNet (by decide)]
  rcases lt_handleEnd_iff.mp small with rfl | rfl | rfl | rfl <;> rfl

/-- A call that tests the flag takes it when nobody holds it. -/
theorem testAndSetBit_heldBy (thread : Nat) {holder : FlagHolder} (held : s.HeldBy i holder)
    : ∃ next, (s.step (.testAndSetBit thread)).1.HeldBy i next := by
  cases phase : s.calls thread with
  | returned | flagged | stored | failed =>
      exact ⟨holder, by simpa only [step, phase] using held⟩
  | entered cmd =>
      simp only [step, phase]
      split
      case isTrue set =>
          refine ⟨holder, held.frame rfl rfl rfl rfl (setCall_submits_iff ?_)⟩
          simp [phase, SendPhase.submits]
      case isFalse clear =>
          by_cases same : cmd.cmdType = i
          · subst same
            have free : holder = .nobody := by
              by_contra other
              exact clear (held.pending.mpr other)
            subst free
            refine ⟨.call thread, ?_, ?_, held.writes, nofun⟩
            · simp [WriteClient.setPending]
            · intro other
              rcases eq_or_ne other thread with rfl | different
              · simp [setCall, SendPhase.submits]
              · have outside := held.calls other
                simp [setCall, different, different.symm, outside]
          · refine ⟨holder, held.frame ?_ rfl rfl rfl (setCall_submits_iff ?_)⟩
            · exact WriteClient.setPending_other true (Ne.symm same)
            · simp [phase, SendPhase.submits, same]

theorem storeParams_heldBy (thread : Nat) {holder : FlagHolder} (held : s.HeldBy i holder)
    : (s.step (.storeParams thread)).1.HeldBy i holder := by
  cases phase : s.calls thread with
  | returned | entered | stored | failed => simpa only [step, phase] using held
  | flagged cmd =>
      simp only [step, phase]
      have calls : ∀ other, ((({ s with client := s.client.storeParams cmd } : SendState).setCall
          thread (.stored cmd)).calls other).submits = some i
          ↔ (s.calls other).submits = some i :=
        setCall_submits_iff (by simp [phase, SendPhase.submits])
      by_cases same : cmd.cmdType = i
      · obtain rfl : holder = .call thread :=
          (held.calls thread).mp (by simp [phase, SendPhase.submits, same])
        have holders (other : Nat) := (calls other).trans (held.calls other)
        exact ⟨held.pending, holders, held.writes, nofun⟩
      · refine held.frame rfl ?_ rfl rfl calls
        exact WriteClient.storeParams_other (Ne.symm same)

/-- An accepted write passes to the stack with the flag. -/
theorem gattWrite_heldBy (thread : Nat) (err : Int) {holder : FlagHolder}
    (order : s.ParamsOrder writeHandle) (held : s.HeldBy i holder)
    : ∃ next, (s.step (.gattWrite thread err)).1.HeldBy i next := by
  cases phase : s.calls thread with
  | returned | entered | flagged | failed =>
      exact ⟨holder, by simpa only [step, phase] using held⟩
  | stored cmd =>
      simp only [step, phase]
      split
      case isTrue accepted =>
          by_cases same : cmd.cmdType = i
          · subst same
            obtain rfl : holder = .call thread :=
              (held.calls thread).mp (by simp [phase, SendPhase.submits])
            have own := order.stored thread cmd phase
            rw [← order.assigned] at own
            refine ⟨.stack (s.client.writeParams cmd.cmdType), ?_, ?_, ?_, ?_⟩
            · exact held.pending.trans (iff_of_true nofun nofun)
            · exact fun other => iff_of_false (held.released other) nofun
            · have nothing : s.writesOn cmd.cmdType = [] := held.writes
              refine (filter_append_write _ _).trans ?_
              rw [if_pos rfl, ← writesOn, nothing]
              rfl
            · rintro params ⟨⟩
              exact ⟨rfl, own⟩
          · refine ⟨holder, held.frame rfl rfl rfl ?_ (setCall_submits_iff ?_)⟩
            · refine (filter_append_write _ _).trans ?_
              rw [if_neg same, List.append_nil, writesOn]
            · simp [phase, SendPhase.submits, same]
      case isFalse =>
          refine ⟨holder, held.frame rfl rfl rfl rfl (setCall_submits_iff ?_)⟩
          simp [phase, SendPhase.submits]

theorem clearBit_heldBy (thread : Nat) {holder : FlagHolder} (held : s.HeldBy i holder)
    : ∃ next, (s.step (.clearBit thread)).1.HeldBy i next := by
  cases phase : s.calls thread with
  | returned | entered | flagged | stored =>
      exact ⟨holder, by simpa only [step, phase] using held⟩
  | failed index code =>
      simp only [step, phase]
      by_cases same : index = i
      · subst same
        obtain rfl : holder = .call thread :=
          (held.calls thread).mp (by simp [phase, SendPhase.submits])
        refine ⟨.nobody, ?_, ?_, held.writes, by simp⟩
        · simp [WriteClient.setPending]
        · exact fun other => iff_of_false (held.released other) (by simp)
      · refine ⟨holder, held.frame ?_ rfl rfl rfl (setCall_submits_iff ?_)⟩
        · exact WriteClient.setPending_other false (Ne.symm same)
        · simp [phase, SendPhase.submits, same]

/-- A completion takes the flag of its write from the stack. -/
theorem onSentData_heldBy (params : Nat) {holder : FlagHolder}
    (handles : DistinctHandles writeHandle) (invariant : s.Held writeHandle)
    (held : s.HeldBy i holder)
    : ∃ next, (s.step (.onSentData params)).1.HeldBy i next := by
  simp only [step]
  split
  case isFalse => exact ⟨holder, held⟩
  case isTrue member =>
      obtain ⟨⟨index, write⟩, inFlight, rfl⟩ := List.mem_map.mp member
      have small := invariant.order.inFlight _ inFlight
      obtain ⟨owner, owned⟩ := invariant.holders index
      obtain ⟨unmodified, own⟩ := owned.current write (owned.of_inFlight inFlight)
      rw [← unmodified, invariant.order.assigned] at own
      have cleared := invariant.order.onSentData handles small own
      simp only [cleared]
      by_cases same : index = i
      · subst same
        obtain rfl := held.of_inFlight inFlight
        refine ⟨.nobody, ?_, ?_, ?_, by simp⟩
        · simp [WriteClient.setPending]
        · exact fun thread => (held.calls thread).trans (by simp)
        · have one : s.writesOn index = [(index, write)] := held.writes
          refine (completed_filter index index s.inFlight).trans ?_
          rw [if_pos rfl, ← writesOn, one]
          rfl
      · refine ⟨holder, held.frame ?_ rfl rfl ?_ fun _ => Iff.rfl⟩
        · exact WriteClient.setPending_other false (Ne.symm same)
        · exact (completed_filter index i s.inFlight).trans (by rw [if_neg same, writesOn])

theorem send_heldBy (thread : Nat) (cmd : GoproCmd) {holder : FlagHolder}
    (held : s.HeldBy i holder)
    : (s.step (.send thread cmd)).1.HeldBy i holder := by
  cases phase : s.calls thread with
  | entered | flagged | stored | failed => simpa only [step, phase] using held
  | returned =>
      simp only [step, phase]
      split
      · exact held
      · refine held.frame rfl rfl rfl rfl (setCall_submits_iff ?_)
        simp [phase, SendPhase.submits]

/-- Every flag has a holder after every step. -/
theorem step_heldBy (input : SendInput) (handles : DistinctHandles writeHandle)
    (invariant : s.Held writeHandle) (i : Nat)
    : ∃ holder, (s.step input).1.HeldBy i holder := by
  obtain ⟨holder, held⟩ := invariant.holders i
  cases input with
  | send thread cmd => exact ⟨holder, send_heldBy thread cmd held⟩
  | testAndSetBit thread => exact testAndSetBit_heldBy thread held
  | storeParams thread => exact ⟨holder, storeParams_heldBy thread held⟩
  | gattWrite thread err => exact gattWrite_heldBy thread err invariant.order held
  | clearBit thread => exact clearBit_heldBy thread held
  | onSentData params => exact onSentData_heldBy params handles invariant held

-----------------------------------------------------------------------------------------
-- What the parameters hold
-----------------------------------------------------------------------------------------

theorem ParamsOrder.setCall (order : s.ParamsOrder writeHandle) (thread : Nat) {phase : SendPhase}
    (stored : ∀ cmd, phase = .stored cmd
      → (s.client.writeParams cmd.cmdType).handle = writeHandle cmd.cmdType)
    (indexes : ∀ i, phase.index = some i → i < gpCntrlHandleEnd)
    : (s.setCall thread phase).ParamsOrder writeHandle := by
  refine ⟨order.assigned, order.stale, ?_, ?_, order.inFlight⟩
  · intro other cmd isStored
    rcases eq_or_ne other thread with rfl | different
    · exact stored cmd (by simpa [SendState.setCall] using isStored)
    · exact order.stored other cmd (by simpa [SendState.setCall, different] using isStored)
  · intro other i hasIndex
    rcases eq_or_ne other thread with rfl | different
    · exact indexes i (by simpa [SendState.setCall] using hasIndex)
    · exact order.indexes other i (by simpa [SendState.setCall, different] using hasIndex)

/-- Flags do not matter. -/
theorem ParamsOrder.setPending (order : s.ParamsOrder writeHandle) (index : Nat) (pending : Bool)
    : ({ s with client := s.client.setPending index pending } : SendState).ParamsOrder
        writeHandle :=
  ⟨order.assigned, order.stale, order.stored, order.indexes, order.inFlight⟩

/-- The stores bring the handle that discovery assigned. -/
theorem ParamsOrder.storeParams (order : s.ParamsOrder writeHandle) (cmd : GoproCmd)
    : ({ s with client := s.client.storeParams cmd } : SendState).ParamsOrder writeHandle
      ∧ ((s.client.storeParams cmd).writeParams cmd.cmdType).handle
        = writeHandle cmd.cmdType := by
  have own : ((s.client.storeParams cmd).writeParams cmd.cmdType).handle
      = writeHandle cmd.cmdType := by
    simp [WriteClient.storeParams, order.assigned]
  refine ⟨⟨order.assigned, ?_, ?_, order.indexes, order.inFlight⟩, own⟩
  · intro i
    rcases eq_or_ne i cmd.cmdType with rfl | different
    · exact .inr own
    · simp only [WriteClient.storeParams_other different]
      exact order.stale i
  · intro thread stored isStored
    rcases eq_or_ne stored.cmdType cmd.cmdType with same | different
    · simp only [same]
      exact own
    · simp only [WriteClient.storeParams_other different]
      exact order.stored thread stored isStored

theorem ParamsOrder.accept (order : s.ParamsOrder writeHandle) {write : Nat × WriteParams}
    (small : write.1 < gpCntrlHandleEnd)
    : ({ s with inFlight := s.inFlight ++ [write] } : SendState).ParamsOrder writeHandle := by
  refine ⟨order.assigned, order.stale, order.stored, order.indexes, ?_⟩
  exact List.forall_mem_append.mpr ⟨order.inFlight, List.forall_mem_singleton.mpr small⟩

theorem onSentData_params (client : WriteClient) (params : Nat)
    : (client.onSentData params).1.writeParams = client.writeParams
      ∧ (client.onSentData params).1.writeHandle = client.writeHandle := by
  simp only [WriteClient.onSentData]
  split_ifs <;> exact ⟨rfl, rfl⟩

theorem step_order (input : SendInput) (order : s.ParamsOrder writeHandle)
    : (s.step input).1.ParamsOrder writeHandle := by
  cases input with
  | send thread cmd =>
      cases phase : s.calls thread with
      | entered | flagged | stored | failed => simpa only [step, phase] using order
      | returned =>
          simp only [step, phase]
          split
          case h_1 => exact order
          case h_2 index accepted =>
              refine order.setCall thread nofun ?_
              rintro i ⟨⟩
              exact (WriteClient.sendIndex_small accepted).2
  | testAndSetBit thread =>
      cases phase : s.calls thread with
      | returned | flagged | stored | failed => simpa only [step, phase] using order
      | entered cmd =>
          have indexes := order.indexes thread
          rw [phase] at indexes
          simp only [step, phase]
          split
          · exact order.setCall thread nofun nofun
          · exact (order.setPending cmd.cmdType true).setCall thread nofun indexes
  | storeParams thread =>
      cases phase : s.calls thread with
      | returned | entered | stored | failed => simpa only [step, phase] using order
      | flagged cmd =>
          have indexes := order.indexes thread
          rw [phase] at indexes
          obtain ⟨orderAfter, own⟩ := order.storeParams cmd
          simp only [step, phase]
          refine orderAfter.setCall thread ?_ indexes
          rintro _ ⟨⟩
          exact own
  | gattWrite thread err =>
      cases phase : s.calls thread with
      | returned | entered | flagged | failed => simpa only [step, phase] using order
      | stored cmd =>
          have indexes := order.indexes thread
          rw [phase] at indexes
          simp only [step, phase]
          split
          · exact (order.accept (indexes _ rfl)).setCall thread nofun nofun
          · exact order.setCall thread nofun indexes
  | clearBit thread =>
      cases phase : s.calls thread with
      | returned | entered | flagged | stored => simpa only [step, phase] using order
      | failed index code =>
          simp only [step, phase]
          exact (order.setPending index false).setCall thread nofun nofun
  | onSentData params =>
      simp only [step]
      split
      case isFalse => exact order
      case isTrue =>
          obtain ⟨sameParams, sameHandle⟩ := onSentData_params s.client params
          refine ⟨?_, ?_, ?_, order.indexes, ?_⟩
          · exact sameHandle.trans order.assigned
          · simp only [sameParams]
            exact order.stale
          · simp only [sameParams]
            exact order.stored
          · exact fun write member => order.inFlight write (List.mem_of_mem_eraseP member)

/-- In every step, every flag has a holder. -/
theorem step_held (input : SendInput) (handles : DistinctHandles writeHandle)
    (invariant : s.Held writeHandle)
    : (s.step input).1.Held writeHandle :=
  ⟨step_order input invariant.order, step_heldBy input handles invariant⟩

-----------------------------------------------------------------------------------------
-- Refused calls
-----------------------------------------------------------------------------------------

/-- The thread of a call's step. -/
def callOf : SendInput → Option Nat
  | .send thread _ | .testAndSetBit thread | .storeParams thread | .gattWrite thread _
  | .clearBit thread => some thread
  | .onSentData _ => none

/-- A step of a call leaves the flags and parameters of the other handles alone, and parameters
in use stay as they are in every step.
-/
structure LeavesOthers (s : SendState) (input : SendInput) : Prop where
  others : ∀ thread, callOf input = some thread → ∀ i, (s.calls thread).index ≠ some i
    → (s.step input).1.client.writePending i = s.client.writePending i
      ∧ (s.step input).1.client.writeParams i = s.client.writeParams i
  inUse : ∀ write ∈ s.inFlight,
    (s.step input).1.client.writeParams write.1 = s.client.writeParams write.1

/-- A call's steps concern its own handle. -/
theorem step_others {input : SendInput} {thread : Nat} (own : callOf input = some thread)
    (other : (s.calls thread).index ≠ some i)
    : (s.step input).1.client.writePending i = s.client.writePending i
      ∧ (s.step input).1.client.writeParams i = s.client.writeParams i := by
  cases input with
  | onSentData => cases own
  | send _ cmd =>
      simp only [step]
      split
      · split <;> exact ⟨rfl, rfl⟩
      · exact ⟨rfl, rfl⟩
  | testAndSetBit _ =>
      cases own
      simp only [step]
      split
      case h_1 cmd phase =>
          have different : i ≠ cmd.cmdType := by
            simpa [phase, SendPhase.index, eq_comm] using other
          split
          · exact ⟨rfl, rfl⟩
          · exact ⟨WriteClient.setPending_other true different, rfl⟩
      case h_2 => exact ⟨rfl, rfl⟩
  | storeParams _ =>
      cases own
      simp only [step]
      split
      case h_1 cmd phase =>
          have different : i ≠ cmd.cmdType := by
            simpa [phase, SendPhase.index, eq_comm] using other
          exact ⟨rfl, WriteClient.storeParams_other different⟩
      case h_2 => exact ⟨rfl, rfl⟩
  | gattWrite _ err =>
      simp only [step]
      split
      · split <;> exact ⟨rfl, rfl⟩
      · exact ⟨rfl, rfl⟩
  | clearBit _ =>
      cases own
      simp only [step]
      split
      case h_1 index code phase =>
          have different : i ≠ index := by simpa [phase, SendPhase.index, eq_comm] using other
          exact ⟨WriteClient.setPending_other false different, rfl⟩
      case h_2 => exact ⟨rfl, rfl⟩

/-- Only a call that holds the flag stores parameters. -/
theorem Held.inUse (invariant : s.Held writeHandle) (input : SendInput)
    {write : Nat × WriteParams} (member : write ∈ s.inFlight)
    : (s.step input).1.client.writeParams write.1 = s.client.writeParams write.1 := by
  obtain ⟨holder, held⟩ := invariant.holders write.1
  have withStack := held.of_inFlight member
  cases input with
  | send _ cmd | testAndSetBit _ | gattWrite _ err =>
      simp only [step]
      split
      · split <;> rfl
      · rfl
  | clearBit _ =>
      simp only [step]
      split <;> rfl
  | storeParams thread =>
      simp only [step]
      split
      case h_2 => rfl
      case h_1 cmd phase =>
          refine WriteClient.storeParams_other fun same => ?_
          have withCall := (held.calls thread).mp (by simp [phase, SendPhase.submits, same])
          cases withStack.symm.trans withCall
  | onSentData params =>
      simp only [step]
      split
      · rw [(onSentData_params s.client params).1]
      · rfl

theorem Held.leavesOthers (input : SendInput) (invariant : s.Held writeHandle)
    : s.LeavesOthers input :=
  ⟨fun _ own _ other => step_others own other, fun _ member => invariant.inUse input member⟩

end SendState

/-- A call that nothing comes in between, refused with an error, leaves all flags and the other
parameters as they were.
-/
theorem btGoproClientSend_refused (client : WriteClient) (cmd : GoproCmd) (err : Int)
    (refused : (client.btGoproClientSend cmd err).2.1 ≠ 0)
    : (client.btGoproClientSend cmd err).1.writePending = client.writePending
      ∧ ∀ i, i ≠ cmd.cmdType
        → (client.btGoproClientSend cmd err).1.writeParams i = client.writeParams i := by
  cases accepted : client.sendIndex cmd with
  | error code => simp [WriteClient.btGoproClientSend, accepted]
  | ok index =>
      obtain ⟨rfl, -⟩ := WriteClient.sendIndex_small accepted
      simp only [WriteClient.btGoproClientSend, accepted] at refused ⊢
      split_ifs at refused ⊢ with pending success
      · exact ⟨rfl, fun _ _ => rfl⟩
      · exact absurd success refused
      · refine ⟨?_, fun i other => WriteClient.storeParams_other other⟩
        have clear : client.writePending cmd.cmdType = false := Bool.eq_false_iff.mpr pending
        simp only [WriteClient.setPending, WriteClient.storeParams, Function.update_idem]
        exact Function.update_eq_self_iff.mpr clear.symm

/-- A call in a thread of its own takes these steps. -/
def callInputs (thread : Nat) (cmd : GoproCmd) (err : Int) : List SendInput :=
  [.send thread cmd, .testAndSetBit thread, .storeParams thread, .gattWrite thread err,
    .clearBit thread]

/-- With nothing in between, the steps of a call make up `bt_gopro_client_send`. -/
theorem sendMachine_call_alone (s : SendState) {thread : Nat} (cmd : GoproCmd) (err : Int)
    (idle : s.calls thread = .returned)
    : (sendMachine.run s (callInputs thread cmd err)).1.client
        = (s.client.btGoproClientSend cmd err).1
      ∧ (sendMachine.run s (callInputs thread cmd err)).2
        = [⟨thread, (s.client.btGoproClientSend cmd err).2.1⟩] := by
  cases accepted : s.client.sendIndex cmd with
  | error code =>
      simp [sendMachine, callInputs, SendState.step, WriteClient.btGoproClientSend, accepted,
        idle]
  | ok index =>
      obtain ⟨rfl, -⟩ := WriteClient.sendIndex_small accepted
      have entered : s.step (.send thread cmd) = (s.setCall thread (.entered cmd), []) := by
        simp only [SendState.step, idle, accepted]
      simp only [callInputs, InputMachine.run_cons, sendMachine, entered]
      by_cases pending : s.client.writePending cmd.cmdType = true
      · simp [SendState.step, WriteClient.btGoproClientSend, accepted, pending]
      · by_cases success : err = 0 <;>
          simp [SendState.step, WriteClient.btGoproClientSend, accepted, pending, success]

/-- In every run, the flags mirror the writes in flight, parameters in use are not modified,
and a call's steps leave the other handles alone; a refused call leaves all flags as they were.
-/
theorem sendMachine_mirrors (writeHandle : Nat → Nat)
    (handles : DistinctHandles writeHandle) (inputs : List SendInput)
    : sendMachine.Always (fun s => ∀ i < gpCntrlHandleEnd, s.MirrorsWrites i)
        (.assigned writeHandle) inputs
      ∧ sendMachine.Along SendState.LeavesOthers (.assigned writeHandle) inputs
      ∧ ∀ (client : WriteClient) (cmd : GoproCmd) (err : Int),
        (client.btGoproClientSend cmd err).2.1 ≠ 0
        → (client.btGoproClientSend cmd err).1.writePending = client.writePending
          ∧ ∀ i, i ≠ cmd.cmdType
            → (client.btGoproClientSend cmd err).1.writeParams i = client.writeParams i := by
  have preserved (s : SendState) (input : SendInput) (held : s.Held writeHandle)
      : (sendMachine.step s input).1.Held writeHandle :=
    SendState.step_held input handles held
  refine ⟨?_, ?_, btGoproClientSend_refused⟩
  · have reached
        : sendMachine.Always (SendState.Held writeHandle) (.assigned writeHandle) inputs :=
      .of_preserved preserved (SendState.assigned_held writeHandle) inputs
    refine reached.imp fun s held i _ => ?_
    obtain ⟨holder, owned⟩ := held.holders i
    exact owned.mirrors
  · exact .of_invariant (SendState.Held writeHandle) preserved
      (fun s input held => held.leavesOthers input) (SendState.assigned_held writeHandle) inputs

/-- Commands of two threads for two handles, the first of which completes during the other
call.
-/
def twoSends : List SendInput :=
  [
    .send 0 (.ofBytes 0 [0x01]), .testAndSetBit 0, .storeParams 0,
    .send 1 (.ofBytes 3 [0x02]), .testAndSetBit 1, .gattWrite 0 0,
    .storeParams 1, .onSentData 0, .gattWrite 1 0
  ]

theorem sendMachine_mirrors_twoSends
    : let s := (sendMachine.run (.assigned Nat.succ) twoSends).1;
      s.client.writePending 0 = false ∧ s.client.writePending 3 = true
      ∧ s.MirrorsWrites 0 ∧ s.MirrorsWrites 3 := by
  have handles : DistinctHandles Nat.succ :=
    ⟨fun i _ => Nat.succ_ne_zero i, fun i _ j _ => Nat.succ.inj⟩
  have mirrors := (sendMachine_mirrors Nat.succ handles twoSends).1 twoSends [] (by simp)
  exact ⟨by decide, by decide, mirrors 0 (by decide), mirrors 3 (by decide)⟩

end GoproGateway
