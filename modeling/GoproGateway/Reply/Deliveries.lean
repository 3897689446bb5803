import Mathlib.Data.List.Forall2
import GoproGateway.Reply.Contents

/-! What the reply path sends is what it was called with.

A reply is in its thread's call, then with an unsent packet, then sent. Each thread makes one
call at a time, and packets are sent in the order of their publication. So the sent replies of a
thread come in the order of its calls, whatever the other threads do.
-/

namespace GoproGateway

namespace ReplyContents

/-- The arguments of a thread's call that may still publish. -/
def pending (s : ReplyContents) (thread : Thread) : List Reply :=
  if (s.path.calls thread).Awaits then [s.args thread] else []

/-- What was sent and what waits, against the calls so far. -/
structure Accounts (nanopb : Nanopb) (s : ReplyContents) (called : Thread → List Reply)
    (sent waiting : List (Thread × Reply)) : Prop where
  owned : s.path.Owned
  unsent : List.Forall₂ (fun pkt entry => Conveys nanopb (s.bytesOf pkt) entry)
    s.path.unsent waiting
  encoded : ∀ thread pkt, s.path.calls thread = .encoded pkt
    → Conveys nanopb (s.bytesOf pkt) (thread, s.args thread)
  short : ∀ thread, (s.path.calls thread).Awaits
    → (s.args thread).data.length ≤ workBuffSize
  inOrder : ∀ thread,
    (repliesOf thread (sent ++ waiting) ++ s.pending thread).Sublist (called thread)

theorem boot_accounts (nanopb : Nanopb) : boot.Accounts nanopb (fun _ => []) [] [] :=
  ⟨ReplyState.boot_owned, .nil, nofun, nofun, fun _ => .slnil⟩

theorem pending_of_awaits {s : ReplyContents} {thread : Thread}
    (awaits : (s.path.calls thread).Awaits)
    : s.pending thread = [s.args thread] :=
  if_pos awaits

theorem pending_of_not {s : ReplyContents} {thread : Thread}
    (rests : ¬(s.path.calls thread).Awaits)
    : s.pending thread = [] :=
  if_neg rests

variable {nanopb : Nanopb} {s : ReplyContents} {called : Thread → List Reply}
  {sent waiting : List (Thread × Reply)}

-----------------------------------------------------------------------------------------
-- Moves of the path
-----------------------------------------------------------------------------------------

/-- Where the calls stay as they are, the accounts depend on the packets only. -/
theorem Accounts.keeps {after : ReplyState} (accounts : s.Accounts nanopb called sent waiting)
    (owned : after.Owned) (calls : after.calls = s.path.calls)
    (unsent : after.unsent = s.path.unsent)
    : ({ s with path := after } : ReplyContents).Accounts nanopb called sent waiting := by
  refine ⟨owned, ?_, ?_, ?_, ?_⟩
  · rw [unsent]
    exact accounts.unsent
  · rw [calls]
    exact accounts.encoded
  · rw [calls]
    exact accounts.short
  · intro thread
    have same : ({ s with path := after } : ReplyContents).pending thread = s.pending thread := by
      simp only [pending, calls]
    rw [same]
    exact accounts.inOrder thread

/-- A call that proceeds keeps its arguments, and one that is given up loses them. -/
theorem Accounts.proceeds {after : ReplyState} {thread : Thread} {phase : CanReplyPhase}
    (accounts : s.Accounts nanopb called sent waiting) (owned : after.Owned)
    (calls : after.calls = Function.update s.path.calls thread phase)
    (awaits : phase.Awaits → (s.path.calls thread).Awaits) (blank : ∀ pkt, phase ≠ .encoded pkt)
    (unsent : after.unsent = s.path.unsent)
    : ({ s with path := after } : ReplyContents).Accounts nanopb called sent waiting := by
  have earlier (other : Thread) (later : (after.calls other).Awaits)
      : (s.path.calls other).Awaits := by
    rw [calls] at later
    rcases eq_or_ne other thread with rfl | different
    · rw [Function.update_self] at later
      exact awaits later
    · rwa [Function.update_of_ne different] at later
  refine ⟨owned, ?_, ?_, ?_, ?_⟩
  · rw [unsent]
    exact accounts.unsent
  · intro other pkt encoded
    rw [calls] at encoded
    rcases eq_or_ne other thread with rfl | different
    · rw [Function.update_self] at encoded
      exact absurd encoded (blank pkt)
    · rw [Function.update_of_ne different] at encoded
      exact accounts.encoded other pkt encoded
  · intro other later
    exact accounts.short other (earlier other later)
  · intro other
    apply List.Sublist.trans _ (accounts.inOrder other)
    apply List.Sublist.append_left
    by_cases later : (after.calls other).Awaits
    · rw [pending_of_awaits later, pending_of_awaits (earlier other later)]
    · rw [pending_of_not later]
      exact List.nil_sublist _

/-- A publication moves the reply from the call to the packet behind all others. -/
theorem Accounts.publishes {after : ReplyState} {thread : Thread} {pkt : MemPkt}
    (accounts : s.Accounts nanopb called sent waiting) (owned : after.Owned)
    (encoded : s.path.calls thread = .encoded pkt)
    (calls : after.calls = Function.update s.path.calls thread .returned)
    (unsent : after.unsent = s.path.unsent ++ [pkt])
    : ({ s with path := after } : ReplyContents).Accounts nanopb called sent
        (waiting ++ [(thread, s.args thread)]) := by
  have own : after.calls thread = .returned := by rw [calls, Function.update_self]
  have others {other : Thread} (different : other ≠ thread)
      : after.calls other = s.path.calls other := by
    rw [calls, Function.update_of_ne different]
  refine ⟨owned, ?_, ?_, ?_, ?_⟩
  · rw [unsent]
    exact List.rel_append accounts.unsent
      (.cons (accounts.encoded thread pkt encoded) .nil)
  · intro other otherPkt inCall
    rcases eq_or_ne other thread with rfl | different
    · rw [own] at inCall
      cases inCall
    · rw [others different] at inCall
      exact accounts.encoded other otherPkt inCall
  · intro other awaits
    rcases eq_or_ne other thread with rfl | different
    · rw [own] at awaits
      exact awaits.elim
    · rw [others different] at awaits
      exact accounts.short other awaits
  · intro other
    have before := accounts.inOrder other
    rcases eq_or_ne other thread with rfl | different
    · rw [pending_of_awaits (by rw [encoded]; trivial)] at before
      rw [pending_of_not (by rw [own]; exact id), ← List.append_assoc, repliesOf_append,
        repliesOf_self, List.append_nil]
      exact before
    · have same : ({ s with path := after } : ReplyContents).pending other
          = s.pending other := by
        simp only [pending, others different]
      rw [same, ← List.append_assoc, repliesOf_append, repliesOf_other _ different.symm,
        List.append_nil]
      exact before

/-- What is sent is what waited longest. -/
theorem Accounts.sends {after : ReplyState} {pkt : MemPkt}
    (accounts : s.Accounts nanopb called sent waiting) (owned : after.Owned)
    (calls : after.calls = s.path.calls) (unsent : s.path.unsent = pkt :: after.unsent)
    : ∃ entry rest, Conveys nanopb (s.bytesOf pkt) entry
        ∧ ({ s with path := after } : ReplyContents).Accounts nanopb called (sent ++ [entry])
          rest := by
  have conveyed := accounts.unsent
  rw [unsent] at conveyed
  cases conveyed with
  | @cons _ entry _ rest here later =>
      refine ⟨entry, rest, here, owned, later, ?_, ?_, ?_⟩
      · rw [calls]
        exact accounts.encoded
      · rw [calls]
        exact accounts.short
      · intro thread
        have same : ({ s with path := after } : ReplyContents).pending thread
            = s.pending thread := by
          simp only [pending, calls]
        rw [same, List.append_assoc]
        exact accounts.inOrder thread

/-- Every move of the path keeps the accounts, with what it sends. -/
theorem Accounts.moves {after : ReplyState} {events : List ReplyEvent}
    (accounts : s.Accounts nanopb called sent waiting) (owned : after.Owned)
    (moves : s.path.Moves (after, events))
    : ∃ more rest,
        List.Forall₂ (Conveys nanopb) ((ReplyState.sentPkts events).map s.bytesOf) more
        ∧ ({ s with path := after } : ReplyContents).Accounts nanopb called (sent ++ more)
          rest := by
  cases moves with
  | keeps calls unsent silent =>
      refine ⟨[], waiting, ?_, ?_⟩
      · rw [silent]
        exact .nil
      · rw [List.append_nil]
        exact accounts.keeps owned calls unsent
  | proceeds calls awaits blank unsent silent =>
      refine ⟨[], waiting, ?_, ?_⟩
      · rw [silent]
        exact .nil
      · rw [List.append_nil]
        exact accounts.proceeds owned calls awaits blank unsent
  | @publishes _ _ thread pkt encoded calls unsent silent =>
      refine ⟨[], waiting ++ [(thread, s.args thread)], ?_, ?_⟩
      · rw [silent]
        exact .nil
      · rw [List.append_nil]
        exact accounts.publishes owned encoded calls unsent
  | sends calls unsent sends =>
      obtain ⟨entry, rest, conveys, later⟩ := accounts.sends owned calls unsent
      refine ⟨[entry], rest, ?_, later⟩
      rw [sends]
      exact .cons conveys .nil

-----------------------------------------------------------------------------------------
-- Calls and encodings
-----------------------------------------------------------------------------------------

theorem calledBy_called_self (thread : Thread) (reply : Reply)
    : calledBy thread [.called thread reply] = [reply] := by
  simp [calledBy, ContentsEvent.called?]

theorem calledBy_called_other {thread other : Thread} (reply : Reply)
    (different : other ≠ thread)
    : calledBy other [.called thread reply] = [] := by
  simp [calledBy, ContentsEvent.called?, different.symm]

/-- What a call of a thread without one leaves. -/
theorem canReply_step {path : ReplyState} {thread : Thread} (idle : path.calls thread = .returned)
    (len : Nat)
    : (path.step (.canReply thread len)).1
      = if len > workBuffSize then path else path.setCall thread .entered := by
  simp only [ReplyState.step, idle]
  split <;> rfl

/-- A new call, if it is not refused at once, is the last of its thread. -/
theorem Accounts.callCanReply (accounts : s.Accounts nanopb called sent waiting)
    (thread : Thread) (reply : Reply)
    : (s.callCanReply thread reply).1.Accounts nanopb
        (fun caller => called caller ++ calledBy caller (s.callCanReply thread reply).2) sent
        waiting := by
  unfold ReplyContents.callCanReply
  split
  case h_2 =>
      have same : (fun caller => called caller ++ calledBy caller []) = called :=
        funext fun caller => List.append_nil _
      rw [same]
      exact accounts
  case h_1 idle =>
      have owned := ReplyState.step_owned (.canReply thread reply.data.length) accounts.owned
      have stepped := canReply_step idle reply.data.length
      generalize (s.path.step (.canReply thread reply.data.length)).1 = after at owned stepped ⊢
      have unsent : after.unsent = s.path.unsent := by
        rw [stepped]
        split <;> rfl
      have others {other : Thread} (different : other ≠ thread)
          : after.calls other = s.path.calls other := by
        rw [stepped]
        split
        · rfl
        · exact ReplyState.setCall_calls_of_ne _ _ different
      have own : after.calls thread = .returned ∧ workBuffSize < reply.data.length
          ∨ after.calls thread = .entered ∧ reply.data.length ≤ workBuffSize := by
        rw [stepped]
        split
        case isTrue long => exact .inl ⟨idle, long⟩
        case isFalse short =>
            exact .inr ⟨ReplyState.setCall_calls_self _ _ _, Nat.not_lt.mp short⟩
      refine ⟨owned, ?_, ?_, ?_, ?_⟩
      · rw [unsent]
        exact accounts.unsent
      · intro other pkt encoded
        rcases eq_or_ne other thread with rfl | different
        · rcases own with ⟨returned, -⟩ | ⟨entered, -⟩
          · exact nomatch returned.symm.trans encoded
          · exact nomatch entered.symm.trans encoded
        · rw [others different] at encoded
          simp only [Function.update_of_ne different]
          exact accounts.encoded other pkt encoded
      · intro other awaits
        rcases eq_or_ne other thread with rfl | different
        · rcases own with ⟨returned, -⟩ | ⟨-, short⟩
          · rw [returned] at awaits
            exact awaits.elim
          · simpa only [Function.update_self] using short
        · rw [others different] at awaits
          simp only [Function.update_of_ne different]
          exact accounts.short other awaits
      · intro other
        have before := accounts.inOrder other
        rcases eq_or_ne other thread with rfl | different
        · rw [pending_of_not (by rw [idle]; exact id), List.append_nil] at before
          apply before.append
          rw [calledBy_called_self]
          unfold pending
          split
          · simp only [Function.update_self]
            exact List.Sublist.refl _
          · exact List.nil_sublist _
        · rw [calledBy_called_other reply different, List.append_nil]
          have same : ({ s with path := after, args := Function.update s.args thread reply }
              : ReplyContents).pending other = s.pending other := by
            simp only [pending, others different, Function.update_of_ne different]
          rw [same]
          exact before

/-- While a call has its buffer, no packet is unsent and no other call has one. -/
theorem Accounts.alone (accounts : s.Accounts nanopb called sent waiting) {thread : Thread}
    (holds : (s.path.calls thread).Holds)
    : s.path.unsent = [] ∧ ∀ other, (s.path.calls other).Holds → other = thread := by
  obtain ⟨owner, owned⟩ := accounts.owned
  obtain rfl := owned.call_of_holds thread holds
  obtain ⟨queue, tx, -, -⟩ := ReplyState.underway_eq_nil.mp owned.underway
  constructor
  · simp [ReplyState.unsent, queue, tx]
  · intro other also
    exact (Owner.call.inj (owned.call_of_holds other also)).symm

/-- An encoding that succeeds leaves a packet that conveys the arguments of its call. -/
theorem Accounts.pbEncode {encoder : PbEncoder} (writes : encoder.FollowsWireFormat)
    (reads : FollowsWireFormat nanopb) (accounts : s.Accounts nanopb called sent waiting)
    (thread : Thread)
    : (s.pbEncode encoder thread).Accounts nanopb called sent waiting := by
  unfold ReplyContents.pbEncode
  split
  case h_2 => exact accounts
  case h_1 buffer allocated =>
      have awaits : (s.path.calls thread).Awaits := by
        rw [allocated]
        trivial
      have short := accounts.short thread awaits
      have holds : (s.path.calls thread).Holds := by
        rw [allocated]
        trivial
      obtain ⟨settled, alone⟩ := accounts.alone holds
      obtain rfl : waiting = [] := by
        have none := accounts.unsent
        rw [settled] at none
        cases none
        rfl
      have encodes := canReplyEncoded_eq writes (s.args thread).inRange short
      generalize canReplyEncoded encoder (s.args thread).bleAddr (s.args thread).data = written
        at encodes ⊢
      have owned := ReplyState.step_owned (.encode thread (written.map List.length))
        accounts.owned
      have stepped : (s.path.step (.encode thread (written.map List.length))).1
          = s.path.encode thread buffer (written.map List.length) := by
        simp only [ReplyState.step, allocated]
      simp only [stepped] at owned ⊢
      have unsent : (s.path.encode thread buffer (written.map List.length)).unsent = [] := by
        cases written <;> exact settled
      have others {other : Thread} (different : other ≠ thread)
          : (s.path.encode thread buffer (written.map List.length)).calls other
            = s.path.calls other := by
        cases written <;> exact ReplyState.setCall_calls_of_ne _ _ different
      refine ⟨owned, ?_, ?_, ?_, ?_⟩
      · simp only [unsent]
        exact .nil
      · intro other pkt encoded
        rcases eq_or_ne other thread with rfl | different
        · split at encodes
          case isTrue =>
              subst encodes
              have pktEq : (⟨buffer, (bledataEncoding (s.args other).bleAddr
                  (s.args other).data).length⟩ : MemPkt) = pkt := by
                simpa [ReplyState.encode] using encoded
              rw [← pktEq]
              simp only [bytesOf, Function.update_self, Option.getD_some, List.take_length]
              exact bledataEncoding_decodes reads (s.args other).inRange short
          case isFalse =>
              subst encodes
              simp [ReplyState.encode] at encoded
        · simp only [others different] at encoded
          exact absurd (alone other (by rw [encoded]; trivial)) different
      · intro other later
        rcases eq_or_ne other thread with rfl | different
        · exact short
        · simp only [others different] at later
          exact accounts.short other later
      · intro other
        apply List.Sublist.trans _ (accounts.inOrder other)
        apply List.Sublist.append_left
        rcases eq_or_ne other thread with rfl | different
        · rw [pending_of_awaits awaits]
          unfold pending
          split
          · exact List.Sublist.refl _
          · exact List.nil_sublist _
        · simp only [pending, others different]
          exact List.Sublist.refl _

-----------------------------------------------------------------------------------------
-- Any input
-----------------------------------------------------------------------------------------

theorem calledBy_sent (thread : Thread) (pkts : List MemPkt)
    : calledBy thread (pkts.map fun pkt => .sent (s.bytesOf pkt)) = [] := by
  simp [calledBy, ContentsEvent.called?]

theorem sentBytes_sent (pkts : List MemPkt)
    : sentBytes (pkts.map fun pkt => .sent (s.bytesOf pkt)) = pkts.map s.bytesOf := by
  simp [sentBytes, ContentsEvent.sent?, List.filterMap_map, Function.comp_def]

theorem sentBytes_called (thread : Thread) (reply : Reply)
    : sentBytes (s.callCanReply thread reply).2 = [] := by
  unfold callCanReply
  split <;> rfl

theorem Accounts.pathStep (accounts : s.Accounts nanopb called sent waiting)
    (input : ReplyInput)
    : ∃ more rest,
        List.Forall₂ (Conveys nanopb) (sentBytes (s.pathStep input).2) more
        ∧ (s.pathStep input).1.Accounts nanopb called (sent ++ more) rest := by
  unfold ReplyContents.pathStep
  split
  case h_3 _ noCall noEncoding =>
      rw [sentBytes_sent]
      exact accounts.moves (ReplyState.step_owned _ accounts.owned)
        (ReplyState.step_moves noCall noEncoding)
  all_goals
      refine ⟨[], waiting, .nil, ?_⟩
      rw [List.append_nil]
      exact accounts

theorem calledBy_pathStep (thread : Thread) (input : ReplyInput)
    : calledBy thread (s.pathStep input).2 = [] := by
  unfold ReplyContents.pathStep
  split
  case h_3 => exact calledBy_sent thread _
  all_goals rfl

/-- One input keeps the accounts: what it sends is what the oldest calls were made with. -/
theorem Accounts.step {encoder : PbEncoder} (writes : encoder.FollowsWireFormat)
    (reads : FollowsWireFormat nanopb) (accounts : s.Accounts nanopb called sent waiting)
    (input : ContentsInput)
    : ∃ more rest,
        List.Forall₂ (Conveys nanopb) (sentBytes (s.step encoder input).2) more
        ∧ (s.step encoder input).1.Accounts nanopb
          (fun thread => called thread ++ calledBy thread (s.step encoder input).2)
          (sent ++ more) rest := by
  cases input with
  | canReply thread reply =>
      refine ⟨[], waiting, ?_, ?_⟩
      · rw [ReplyContents.step, sentBytes_called]
        exact .nil
      · rw [List.append_nil]
        exact accounts.callCanReply thread reply
  | encode thread =>
      refine ⟨[], waiting, .nil, ?_⟩
      simpa [ReplyContents.step, calledBy] using accounts.pbEncode writes reads thread
  | path input =>
      obtain ⟨more, rest, conveyed, later⟩ := accounts.pathStep input
      refine ⟨more, rest, conveyed, ?_⟩
      simpa [ReplyContents.step, calledBy_pathStep] using later

/-- What was sent so far are calls made so far, and the rest of them waits. -/
def Conveyed (nanopb : Nanopb) (s : ReplyContents) (events : List ContentsEvent) : Prop :=
  ∃ sent waiting,
    List.Forall₂ (Conveys nanopb) (sentBytes events) sent
    ∧ s.Accounts nanopb (fun thread => calledBy thread events) sent waiting

theorem boot_conveyed (nanopb : Nanopb) : boot.Conveyed nanopb [] :=
  ⟨[], [], .nil, boot_accounts nanopb⟩

theorem Conveyed.step {encoder : PbEncoder} (writes : encoder.FollowsWireFormat)
    (reads : FollowsWireFormat nanopb) {events : List ContentsEvent}
    (conveyed : s.Conveyed nanopb events) (input : ContentsInput)
    : (s.step encoder input).1.Conveyed nanopb (events ++ (s.step encoder input).2) := by
  obtain ⟨sent, waiting, before, accounts⟩ := conveyed
  obtain ⟨more, rest, after, later⟩ := accounts.step writes reads input
  refine ⟨sent ++ more, rest, ?_, ?_⟩
  · rw [sentBytes_append]
    exact List.rel_append before after
  · simpa only [calledBy_append] using later

/-- In order, a thread's sent replies are among its calls. -/
theorem Conveyed.inOrder {events : List ContentsEvent} (conveyed : s.Conveyed nanopb events)
    : ∃ sent,
        List.Forall₂ (Conveys nanopb) (sentBytes events) sent
        ∧ ∀ thread, (repliesOf thread sent).Sublist (calledBy thread events) := by
  obtain ⟨sent, waiting, conveys, accounts⟩ := conveyed
  refine ⟨sent, conveys, fun thread => ?_⟩
  have whole := accounts.inOrder thread
  rw [repliesOf_append, List.append_assoc] at whole
  exact (List.sublist_append_left _ _).trans whole

end ReplyContents

end GoproGateway
