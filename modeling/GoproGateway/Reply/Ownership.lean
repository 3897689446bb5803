import GoproGateway.Reply.CanReply

/-! Who owns the reply token.

The count of the semaphore, the calls, the packets under way and the allocated buffers all
follow from the owner: the token is available, with a call, with a packet under way, or lost.
-/

namespace GoproGateway

/-- A call from its taking of the semaphore to its giving it, or handing it on. -/
def CanReplyPhase.Holds : CanReplyPhase → Prop
  | .returned | .entered => False
  | _ => True

/-- The buffer of a call that has one. -/
def CanReplyPhase.buffer : CanReplyPhase → Option HeapBuffer
  | .allocated buffer | .failed buffer _ => some buffer
  | .encoded pkt => some pkt.data
  | _ => none

/-- The owner of the reply token. A lost token may leave a buffer behind. -/
inductive Owner where
  | available
  | call (thread : Thread)
  | packet (pkt : MemPkt)
  | lost (leaked : Option HeapBuffer)
  deriving DecidableEq, Repr

namespace Owner

/-- What the semaphore counts. -/
def count : Owner → Nat
  | available => 1
  | _ => 0

def pkt : Owner → Option MemPkt
  | packet pkt => some pkt
  | _ => none

end Owner

namespace ReplyState

/-- Packets that carry the token: queued, taken by the transmit thread, in transmission, or
completing.
-/
def underway (s : ReplyState) : List MemPkt :=
  s.queue ++ s.txPkt.toList ++ s.inFlight ++ s.completing

/-- Packets under way whose buffer was not freed yet. -/
def outstanding (s : ReplyState) : List MemPkt :=
  s.queue ++ s.txPkt.toList ++ s.inFlight

/-- The allocated buffer that is not with a packet under way. -/
def heldBuffer (s : ReplyState) : Owner → Option HeapBuffer
  | .call thread => (s.calls thread).buffer
  | .lost leaked => leaked
  | _ => none

/-- The token is with `owner`, and everything else is as that says. -/
structure OwnedBy (s : ReplyState) (owner : Owner) : Prop where
  sem : s.canReplySem = owner.count
  calls : ∀ thread, (s.calls thread).Holds ↔ owner = .call thread
  underway : s.underway = owner.pkt.toList
  live : s.live = (s.heldBuffer owner).toList ++ s.outstanding.map MemPkt.data

theorem boot_ownedBy : boot.OwnedBy .available := by
  refine ⟨rfl, ?_, rfl, rfl⟩
  simp [boot, CanReplyPhase.Holds]

theorem OwnedBy.call_of_holds {s : ReplyState} {owner : Owner} (owned : s.OwnedBy owner)
    (thread : Thread) (holds : (s.calls thread).Holds)
    : owner = .call thread :=
  (owned.calls thread).mp holds

theorem OwnedBy.of_sem {s : ReplyState} {owner : Owner} (owned : s.OwnedBy owner)
    (positive : 0 < s.canReplySem)
    : owner = .available := by
  rw [owned.sem] at positive
  cases owner with
  | available => rfl
  | call | packet | lost => exact absurd positive (Nat.lt_irrefl 0)

/-- A packet under way is the only one, and owns the token. -/
theorem OwnedBy.of_underway {s : ReplyState} {owner : Owner} (owned : s.OwnedBy owner)
    (before : List MemPkt) (pkt : MemPkt) (after : List MemPkt)
    (split : s.underway = before ++ pkt :: after)
    : owner = .packet pkt ∧ before = [] ∧ after = [] := by
  have single := split.symm.trans owned.underway
  cases owner with
  | available | call | lost => simp [Owner.pkt] at single
  | packet other =>
      obtain ⟨rfl, rfl, rfl⟩ : before = [] ∧ pkt = other ∧ after = [] := by
        simpa [Owner.pkt, List.append_eq_singleton_iff] using single
      exact ⟨rfl, rfl, rfl⟩

theorem underway_eq_nil {s : ReplyState}
    : s.underway = []
      ↔ s.queue = [] ∧ s.txPkt = none ∧ s.inFlight = [] ∧ s.completing = [] := by
  simp [underway]

@[simp] theorem setCall_calls_self (s : ReplyState) (thread : Thread) (phase : CanReplyPhase)
    : (s.setCall thread phase).calls thread = phase := by
  simp [setCall]

theorem setCall_calls_of_ne (s : ReplyState) {thread other : Thread} (phase : CanReplyPhase)
    (different : other ≠ thread)
    : (s.setCall thread phase).calls other = s.calls other := by
  simp [setCall, different]

/-- A call moves before it has taken the token. -/
theorem OwnedBy.setCall_outside {s : ReplyState} {owner : Owner} {thread : Thread}
    {phase : CanReplyPhase} (owned : s.OwnedBy owner) (before : ¬(s.calls thread).Holds)
    (after : ¬phase.Holds)
    : (s.setCall thread phase).OwnedBy owner := by
  have notOwner : owner ≠ .call thread := fun same => before ((owned.calls thread).mpr same)
  refine ⟨owned.sem, ?_, owned.underway, ?_⟩
  · intro other
    rcases eq_or_ne other thread with rfl | different
    · simp [after, notOwner]
    · rw [setCall_calls_of_ne s phase different]
      exact owned.calls other
  · have held : (s.setCall thread phase).heldBuffer owner = s.heldBuffer owner := by
      cases owner with
      | call other =>
          have different : other ≠ thread := fun same => notOwner (by rw [same])
          simp only [heldBuffer, setCall_calls_of_ne s phase different]
      | available | packet | lost => rfl
    rw [held]
    exact owned.live

/-- The call that owns the token moves without passing it, with its buffer in its hands. -/
theorem OwnedBy.setCall_inside {s : ReplyState} {thread : Thread} {phase : CanReplyPhase}
    {live : List HeapBuffer} (owned : s.OwnedBy (.call thread)) (holds : phase.Holds)
    (buffers : live = phase.buffer.toList ++ s.outstanding.map MemPkt.data)
    : ({ s with live }.setCall thread phase).OwnedBy (.call thread) := by
  refine ⟨owned.sem, ?_, owned.underway, ?_⟩
  · intro other
    rcases eq_or_ne other thread with rfl | different
    · simp [holds]
    · rw [setCall_calls_of_ne _ phase different]
      exact owned.calls other
  · simp only [heldBuffer, setCall_calls_self]
    exact buffers

/-- After the call that owns the token has returned, no call holds it. -/
theorem OwnedBy.not_holds_of_returned {s : ReplyState} {thread : Thread}
    (owned : s.OwnedBy (.call thread)) (other : Thread)
    : ¬((s.setCall thread .returned).calls other).Holds := by
  rcases eq_or_ne other thread with rfl | different
  · simp [CanReplyPhase.Holds]
  · rw [setCall_calls_of_ne _ _ different, owned.calls other]
    simp [different.symm]

/-- What the owning call has allocated. -/
theorem OwnedBy.live_of_call {s : ReplyState} {thread : Thread}
    (owned : s.OwnedBy (.call thread))
    : s.live = (s.calls thread).buffer.toList ++ s.outstanding.map MemPkt.data :=
  owned.live

-----------------------------------------------------------------------------------------
-- How the token passes
-----------------------------------------------------------------------------------------

/-- The owner after an input. -/
def nextOwner (s : ReplyState) (owner : Owner) : ReplyInput → Owner
  | .semTake thread =>
      if s.calls thread = .entered ∧ 0 < s.canReplySem then .call thread else owner
  | .malloc thread none => if s.calls thread = .semTaken then .lost none else owner
  | .publish thread true =>
      match s.calls thread with
      | .encoded pkt => .packet pkt
      | _ => owner
  | .semGive thread =>
      match s.calls thread with
      | .freed _ => .available
      | _ => owner
  | .isotpSend false =>
      match s.txPkt with
      | some pkt => .lost (some pkt.data)
      | none => owner
  | .callbackGive => if s.completing = [] then owner else .available
  | _ => owner

variable {s : ReplyState} {owner : Owner}

theorem canReply_ownedBy (thread : Thread) (len : Nat) (owned : s.OwnedBy owner)
    : (s.step (.canReply thread len)).1.OwnedBy owner := by
  simp only [step]
  split
  case h_1 phase =>
      split
      · exact owned
      · exact owned.setCall_outside (by simp [phase, CanReplyPhase.Holds]) id
  case h_2 => exact owned

/-- Taking the semaphore takes the token. -/
theorem semTake_ownedBy (thread : Thread) (owned : s.OwnedBy owner)
    : (s.step (.semTake thread)).1.OwnedBy (s.nextOwner owner (.semTake thread)) := by
  simp only [step, nextOwner]
  split
  case h_1 phase =>
      simp only [phase, true_and, semTake]
      split
      case isTrue positive =>
          obtain rfl := owned.of_sem positive
          refine ⟨by simp [setCall, owned.sem, Owner.count], ?_, owned.underway, ?_⟩
          · intro other
            rcases eq_or_ne other thread with rfl | different
            · simp [CanReplyPhase.Holds]
            · rw [setCall_calls_of_ne _ _ different]
              simpa [different.symm] using owned.calls other
          · simp only [heldBuffer, setCall_calls_self, CanReplyPhase.buffer]
            exact owned.live
      case isFalse =>
          exact owned.setCall_outside (by simp [phase, CanReplyPhase.Holds]) id
  case h_2 other =>
      rw [if_neg]
      · exact owned
      · exact fun entered => other entered.1

/-- Without memory, the call returns and the token is lost. -/
theorem malloc_ownedBy (thread : Thread) (buffer : Option HeapBuffer)
    (owned : s.OwnedBy owner)
    : (s.step (.malloc thread buffer)).1.OwnedBy
        (s.nextOwner owner (.malloc thread buffer)) := by
  simp only [step]
  split
  case h_1 phase =>
      obtain rfl := owned.call_of_holds thread (by simp [phase, CanReplyPhase.Holds])
      have live := owned.live_of_call
      simp only [phase, CanReplyPhase.buffer, Option.toList_none, List.nil_append] at live
      cases buffer with
      | none =>
          simp only [malloc, nextOwner, phase, if_true]
          exact ⟨owned.sem, fun other => iff_of_false (owned.not_holds_of_returned other) nofun,
            owned.underway, live⟩
      | some buffer =>
          simp only [malloc, nextOwner]
          split
          · exact owned
          · exact owned.setCall_inside trivial (by rw [live]; rfl)
  case h_2 other =>
      have same : s.nextOwner owner (.malloc thread buffer) = owner := by
        cases buffer with
        | none => simpa [nextOwner] using fun taken => absurd taken other
        | some buffer => rfl
      rw [same]
      exact owned

theorem encode_ownedBy (thread : Thread) (bytesWritten : Option Nat)
    (owned : s.OwnedBy owner)
    : (s.step (.encode thread bytesWritten)).1.OwnedBy owner := by
  simp only [step]
  split
  case h_1 buffer phase =>
      obtain rfl := owned.call_of_holds thread (by simp [phase, CanReplyPhase.Holds])
      have live := owned.live_of_call
      rw [phase] at live
      cases bytesWritten with
      | none => exact owned.setCall_inside trivial live
      | some len => exact owned.setCall_inside trivial live
  case h_2 => exact owned

/-- A publication hands the token on with the packet. -/
theorem publish_ownedBy (thread : Thread) (ok : Bool) (owned : s.OwnedBy owner)
    : (s.step (.publish thread ok)).1.OwnedBy (s.nextOwner owner (.publish thread ok)) := by
  cases phase : s.calls thread with
  | encoded pkt =>
      obtain rfl := owned.call_of_holds thread (by simp [phase, CanReplyPhase.Holds])
      have live := owned.live_of_call
      rw [phase] at live
      simp only [step, phase]
      cases ok with
      | false => exact owned.setCall_inside trivial live
      | true =>
          obtain ⟨queue, tx, flight, completing⟩ := underway_eq_nil.mp owned.underway
          simp only [nextOwner, phase]
          refine ⟨owned.sem, fun other => iff_of_false (owned.not_holds_of_returned other) nofun,
            ?_, ?_⟩
          · simp [publish, underway, setCall, queue, tx, flight, completing, Owner.pkt]
          · simpa [publish, outstanding, setCall, queue, tx, flight, heldBuffer,
              CanReplyPhase.buffer] using live
  | returned | entered | semTaken | allocated | failed | freed =>
      cases ok <;> simpa only [step, nextOwner, phase] using owned

theorem free_ownedBy (thread : Thread) (owned : s.OwnedBy owner)
    : (s.step (.free thread)).1.OwnedBy owner := by
  simp only [step]
  split
  case h_1 buffer code phase =>
      obtain rfl := owned.call_of_holds thread (by simp [phase, CanReplyPhase.Holds])
      have live := owned.live_of_call
      rw [phase] at live
      refine owned.setCall_inside trivial ?_
      simp [live, CanReplyPhase.buffer]
  case h_2 => exact owned

theorem semGive_ownedBy (thread : Thread) (owned : s.OwnedBy owner)
    : (s.step (.semGive thread)).1.OwnedBy (s.nextOwner owner (.semGive thread)) := by
  cases phase : s.calls thread with
  | freed code =>
      obtain rfl := owned.call_of_holds thread (by simp [phase, CanReplyPhase.Holds])
      have live := owned.live_of_call
      rw [phase] at live
      simp only [step, nextOwner, phase]
      refine ⟨?_, fun other => iff_of_false (owned.not_holds_of_returned other) nofun,
        owned.underway, live⟩
      simp [setCall, semGive, Owner.count]
  | returned | entered | semTaken | allocated | encoded | failed =>
      simpa only [step, nextOwner, phase] using owned

/-- The transmit thread takes the packet that owns the token. -/
theorem waitMsg_ownedBy (owned : s.OwnedBy owner) : (s.step .waitMsg).1.OwnedBy owner := by
  simp only [step]
  split
  case h_1 pkt rest tx queue =>
      obtain ⟨rfl, -, after⟩ :=
        owned.of_underway [] pkt (rest ++ s.inFlight ++ s.completing)
          (by simp [underway, tx, queue])
      simp only [List.append_eq_nil_iff] at after
      obtain ⟨⟨rfl, flight⟩, completing⟩ := after
      refine ⟨owned.sem, owned.calls, ?_, ?_⟩
      · simp [underway, flight, completing, Owner.pkt]
      · simpa [outstanding, tx, queue, flight, heldBuffer] using owned.live
  case h_2 => exact owned

/-- A transmission that is not accepted loses the token. -/
theorem isotpSend_ownedBy (ok : Bool) (owned : s.OwnedBy owner)
    : (s.step (.isotpSend ok)).1.OwnedBy (s.nextOwner owner (.isotpSend ok)) := by
  simp only [step]
  cases tx : s.txPkt with
  | none => cases ok <;> simpa only [nextOwner, tx] using owned
  | some pkt =>
      obtain ⟨rfl, queue, after⟩ :=
        owned.of_underway s.queue pkt (s.inFlight ++ s.completing) (by simp [underway, tx])
      obtain ⟨flight, completing⟩ := List.append_eq_nil_iff.mp after
      have live : s.live = [pkt.data] := by
        simpa [outstanding, tx, queue, flight, heldBuffer] using owned.live
      cases ok with
      | true =>
          refine ⟨owned.sem, owned.calls, ?_, ?_⟩
          · simp [isotpSend, underway, queue, flight, completing, nextOwner, Owner.pkt]
          · simpa [isotpSend, outstanding, queue, flight, nextOwner, heldBuffer] using live
      | false =>
          simp only [nextOwner, tx]
          refine ⟨owned.sem, fun thread => ?_, ?_, ?_⟩
          · exact (owned.calls thread).trans (iff_of_false nofun nofun)
          · simp [isotpSend, underway, queue, flight, completing, Owner.pkt]
          · simpa [isotpSend, outstanding, queue, flight, heldBuffer] using live

/-- A callback frees the buffer of the packet that owns the token. -/
theorem isotpsendCallback_ownedBy (pkt : MemPkt) (owned : s.OwnedBy owner)
    : (s.step (.isotpsendCallback pkt)).1.OwnedBy owner := by
  simp only [step]
  split
  case isTrue member =>
      obtain ⟨before, after, flight⟩ := List.append_of_mem member
      obtain ⟨rfl, earlier, later⟩ :=
        owned.of_underway (s.queue ++ s.txPkt.toList ++ before) pkt (after ++ s.completing)
          (by simp [underway, flight])
      simp only [List.append_eq_nil_iff, Option.toList_eq_nil_iff] at earlier later
      obtain ⟨⟨queue, tx⟩, rfl⟩ := earlier
      obtain ⟨rfl, completing⟩ := later
      refine ⟨owned.sem, owned.calls, ?_, ?_⟩
      · simp [underway, queue, tx, flight, completing, Owner.pkt]
      · simp [outstanding, queue, tx, flight, heldBuffer, owned.live]
  case isFalse => exact owned

/-- The end of a callback makes the token available. -/
theorem callbackGive_ownedBy (owned : s.OwnedBy owner)
    : (s.step .callbackGive).1.OwnedBy (s.nextOwner owner .callbackGive) := by
  simp only [step, nextOwner]
  split
  case h_1 pkt rest completing =>
      obtain ⟨rfl, before, rfl⟩ :=
        owned.of_underway (s.queue ++ s.txPkt.toList ++ s.inFlight) pkt rest
          (by simp [underway, completing])
      simp only [List.append_eq_nil_iff, Option.toList_eq_nil_iff] at before
      obtain ⟨⟨queue, tx⟩, flight⟩ := before
      rw [if_neg (by simp [completing])]
      refine ⟨by simp [semGive, Owner.count], fun thread => ?_, ?_, ?_⟩
      · exact (owned.calls thread).trans (iff_of_false nofun nofun)
      · simp [semGive, underway, queue, tx, flight, Owner.pkt]
      · simpa [semGive, outstanding, queue, tx, flight, heldBuffer] using owned.live
  case h_2 completing =>
      rw [if_pos completing]
      exact owned

/-- One input passes the token as `nextOwner` says. -/
theorem step_ownedBy (input : ReplyInput) (owned : s.OwnedBy owner)
    : (s.step input).1.OwnedBy (s.nextOwner owner input) := by
  cases input with
  | canReply thread len => exact canReply_ownedBy thread len owned
  | semTake thread => exact semTake_ownedBy thread owned
  | malloc thread buffer => exact malloc_ownedBy thread buffer owned
  | encode thread bytesWritten => exact encode_ownedBy thread bytesWritten owned
  | publish thread ok => exact publish_ownedBy thread ok owned
  | free thread => exact free_ownedBy thread owned
  | semGive thread => exact semGive_ownedBy thread owned
  | waitMsg => exact waitMsg_ownedBy owned
  | isotpSend ok => exact isotpSend_ownedBy ok owned
  | isotpsendCallback pkt => exact isotpsendCallback_ownedBy pkt owned
  | callbackGive => exact callbackGive_ownedBy owned

end ReplyState

end GoproGateway
