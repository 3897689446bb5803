import GoproGateway.Reply.Ownership

/-! One reply at a time, in every run.

Whatever fails, the token is never doubled: the forgetful paths lose it, and then no reply is
sent at all. So the owner of the token decides who may use `send_ctx` and free the buffer.
-/

namespace GoproGateway

namespace ReplyState

/-- `send_ctx` is not in use when a packet is passed to `isotp_send`, and a buffer is freed
while it is allocated, once, and with no packet left that carries it.
-/
structure Exclusive (s : ReplyState) (input : ReplyInput) : Prop where
  sendCtx : ∀ pkt, .sent pkt ∈ (s.step input).2 → s.inFlight = [] ∧ s.completing = []
  freed : ∀ buffer, .freed buffer ∈ (s.step input).2
    → buffer ∈ s.live ∧ buffer ∉ (s.step input).1.live
      ∧ ∀ pkt ∈ (s.step input).1.outstanding, pkt.data ≠ buffer

/-- The token has an owner, or is lost. -/
def Owned (s : ReplyState) : Prop := ∃ owner, s.OwnedBy owner

theorem boot_owned : boot.Owned := ⟨.available, boot_ownedBy⟩

theorem step_owned {s : ReplyState} (input : ReplyInput) (owned : s.Owned)
    : (s.step input).1.Owned := by
  obtain ⟨owner, owned⟩ := owned
  exact ⟨_, step_ownedBy input owned⟩

theorem Owned.underway_length {s : ReplyState} (owned : s.Owned)
    : s.underway.length ≤ 1 := by
  obtain ⟨owner, owned⟩ := owned
  rw [owned.underway]
  cases owner.pkt <;> simp

theorem outstanding_of_underway {s : ReplyState} (settled : s.underway = [])
    : s.outstanding = [] := by
  exact (List.append_eq_nil_iff.mp settled).1

/-- What the state and the input are when an event is reported. -/
def Origin (s : ReplyState) (input : ReplyInput) : ReplyEvent → Prop
  | .returned _ _ => True
  | .freed buffer =>
      (∃ thread code, input = .free thread ∧ s.calls thread = .failed buffer code)
      ∨ ∃ pkt ∈ s.inFlight, input = .isotpsendCallback pkt ∧ pkt.data = buffer
  | .sent pkt => s.txPkt = some pkt

variable {s : ReplyState} {owner : Owner}

theorem origin_of_call {thread : Thread} {event : ReplyEvent}
    (input : ReplyInput) (code : Int) (reported : event ∈ [ReplyEvent.returned thread code])
    : s.Origin input event := by
  rw [List.mem_singleton.mp reported]
  trivial

/-- Buffers are freed by a failed call or by a callback, and packets sent by the transmit
thread.
-/
theorem origin_of_reported {input : ReplyInput} {event : ReplyEvent}
    (reported : event ∈ (s.step input).2)
    : s.Origin input event := by
  cases input with
  | canReply thread len =>
      simp only [step] at reported
      split at reported
      · split at reported
        · exact origin_of_call _ _ reported
        · cases reported
      · cases reported
  | semTake thread =>
      simp only [step, semTake] at reported
      split at reported
      · split at reported
        · cases reported
        · exact origin_of_call _ _ reported
      · cases reported
  | malloc thread buffer =>
      simp only [step, malloc] at reported
      split at reported
      · split at reported
        · split at reported <;> cases reported
        · exact origin_of_call _ _ reported
      · cases reported
  | encode thread bytesWritten =>
      simp only [step] at reported
      split at reported <;> cases reported
  | publish thread ok =>
      simp only [step, publish] at reported
      split at reported
      · split at reported
        · exact origin_of_call _ _ reported
        · cases reported
      · cases reported
  | free thread =>
      simp only [step] at reported
      split at reported
      case h_1 buffer code phase =>
          rw [List.mem_singleton.mp reported]
          exact .inl ⟨thread, code, rfl, phase⟩
      case h_2 => cases reported
  | semGive thread =>
      simp only [step] at reported
      split at reported
      · exact origin_of_call _ _ reported
      · cases reported
  | waitMsg =>
      simp only [step] at reported
      split at reported <;> cases reported
  | isotpSend ok =>
      simp only [step, isotpSend] at reported
      split at reported
      case h_1 pkt tx =>
          have sent : event = .sent pkt := by
            split at reported <;> exact List.mem_singleton.mp reported
          rw [sent]
          exact tx
      case h_2 => cases reported
  | isotpsendCallback pkt =>
      simp only [step] at reported
      split at reported
      case isTrue member =>
          rw [List.mem_singleton.mp reported]
          exact .inr ⟨pkt, member, rfl, rfl⟩
      case isFalse => cases reported
  | callbackGive =>
      simp only [step] at reported
      split at reported <;> cases reported

/-- A packet is sent when it owns the token, and then nothing is in transmission. -/
theorem OwnedBy.sendCtx {input : ReplyInput} {pkt : MemPkt} (owned : s.OwnedBy owner)
    (sent : .sent pkt ∈ (s.step input).2)
    : s.inFlight = [] ∧ s.completing = [] := by
  have tx : s.txPkt = some pkt := origin_of_reported sent
  obtain ⟨-, -, after⟩ :=
    owned.of_underway s.queue pkt (s.inFlight ++ s.completing) (by simp [ReplyState.underway, tx])
  exact List.append_eq_nil_iff.mp after

/-- The failed call that frees its buffer has the token, so no packet has. -/
theorem OwnedBy.freed_by_call {thread : Thread} {buffer : HeapBuffer} {code : Int}
    (owned : s.OwnedBy owner) (failed : s.calls thread = .failed buffer code)
    : s.live = [buffer] ∧ s.outstanding = [] := by
  obtain rfl := owned.call_of_holds thread (by simp [failed, CanReplyPhase.Holds])
  have settled : s.outstanding = [] := outstanding_of_underway owned.underway
  have live := owned.live_of_call
  rw [failed, settled] at live
  exact ⟨live, settled⟩

/-- The packet whose transmission completes is the only one. -/
theorem OwnedBy.freed_by_callback {pkt : MemPkt} (owned : s.OwnedBy owner)
    (member : pkt ∈ s.inFlight)
    : s.live = [pkt.data] ∧ s.queue = [] ∧ s.txPkt = none ∧ s.inFlight = [pkt] := by
  obtain ⟨before, after, flight⟩ := List.append_of_mem member
  obtain ⟨rfl, earlier, later⟩ :=
    owned.of_underway (s.queue ++ s.txPkt.toList ++ before) pkt (after ++ s.completing)
      (by simp [ReplyState.underway, flight])
  simp only [List.append_eq_nil_iff, Option.toList_eq_nil_iff] at earlier later
  obtain ⟨⟨queue, tx⟩, rfl⟩ := earlier
  obtain ⟨rfl, -⟩ := later
  refine ⟨?_, queue, tx, flight⟩
  simp [owned.live, heldBuffer, outstanding, queue, tx, flight]

/-- A buffer is freed by who owns the token, and nothing else refers to it. -/
theorem OwnedBy.freed {input : ReplyInput} {buffer : HeapBuffer} (owned : s.OwnedBy owner)
    (freed : .freed buffer ∈ (s.step input).2)
    : buffer ∈ s.live ∧ buffer ∉ (s.step input).1.live
      ∧ ∀ pkt ∈ (s.step input).1.outstanding, pkt.data ≠ buffer := by
  rcases origin_of_reported freed with ⟨thread, code, rfl, failed⟩ | ⟨pkt, member, rfl, rfl⟩
  · obtain ⟨live, settled⟩ := owned.freed_by_call failed
    refine ⟨by simp [live], by simp [step, failed, live, setCall], ?_⟩
    have settled_after : (s.step (.free thread)).1.outstanding = [] := by
      simp only [step, failed]
      exact settled
    simp [settled_after]
  · obtain ⟨live, queue, tx, flight⟩ := owned.freed_by_callback member
    refine ⟨by simp [live], by simp [step, member, live], ?_⟩
    have settled_after : (s.step (.isotpsendCallback pkt)).1.outstanding = [] := by
      simp [step, outstanding, queue, tx, flight]
    simp [settled_after]

theorem Owned.exclusive (input : ReplyInput) (owned : s.Owned) : s.Exclusive input := by
  obtain ⟨owner, owned⟩ := owned
  exact ⟨fun pkt => owned.sendCtx, fun buffer => owned.freed⟩

end ReplyState

/-- In every run, one reply at most is queued or in transmission, `send_ctx` is free when a
packet is sent on it, and buffers are freed once and after their transmission.
-/
theorem replyMachine_exclusive (inputs : List ReplyInput)
    : replyMachine.Always (fun s => s.underway.length ≤ 1) .boot inputs
      ∧ replyMachine.Along ReplyState.Exclusive .boot inputs := by
  constructor
  · have owned : replyMachine.Always ReplyState.Owned .boot inputs :=
      .of_preserved (fun s input => ReplyState.step_owned input) ReplyState.boot_owned inputs
    exact owned.imp fun s => ReplyState.Owned.underway_length
  · exact .of_invariant ReplyState.Owned (fun s input => ReplyState.step_owned input)
      (fun s input => ReplyState.Owned.exclusive input) ReplyState.boot_owned inputs

end GoproGateway
