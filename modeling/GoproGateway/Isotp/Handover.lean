import GoproGateway.Isotp.Receive

/-! The handover of received blocks to the subscriber.

The permit of the semaphore is with the receive thread, or with the one message that the
subscriber has not finished with, or free. The receive thread touches blocks only with it.
-/

namespace GoproGateway

/-- The receive thread has the permit. -/
def RxPhase.Holds : RxPhase → Prop
  | .taking | .exited => False
  | _ => True

/-- The message that the subscriber has and is not finished with. -/
def RxSubscriberPhase.pkt : RxSubscriberPhase → Option RecvPkt
  | .waiting => none
  | .received pkt | .handled pkt => some pkt

/-- The message that the subscriber is about to process. -/
def RxSubscriberPhase.unprocessed : RxSubscriberPhase → Option RecvPkt
  | .received pkt => some pkt
  | .waiting | .handled _ => none

namespace IsotpState

/-- Published messages that the subscriber has not finished with. -/
def unfinished (s : IsotpState) : List RecvPkt :=
  s.subscriber.pkt.toList ++ s.queue

/-- Published messages that the subscriber has not processed, with the bytes of their blocks. -/
def unprocessed (s : IsotpState) : List (RecvPkt × List UInt8) :=
  (s.subscriber.unprocessed.toList ++ s.queue).map fun pkt => (pkt, pkt.bytes s.heap)

/-- A step leaves the blocks of unfinished messages alone, and only frees what is allocated. -/
structure RespectsHandover (s : IsotpState) (input : IsotpInput) : Prop where
  undisturbed : ∀ pkt ∈ s.unfinished, ∀ block, pkt.data = some block
    → .freed block ∉ (s.step input).2 ∧ .wrote block ∉ (s.step input).2
      ∧ (s.step input).1.heap block = s.heap block
  freed : ∀ block, .freed block ∈ (s.step input).2
    → s.heap block ≠ none ∧ (s.step input).1.heap block = none

/-- Where the permit is. -/
inductive PermitAt (s : IsotpState) : Prop where
  | free (sem : s.canIsotpRxSem = 1) (rx : ¬s.rx.Holds) (unfinished : s.unfinished = [])
  | receiveThread (sem : s.canIsotpRxSem = 0) (rx : s.rx.Holds) (unfinished : s.unfinished = [])
  | message (pkt : RecvPkt) (sem : s.canIsotpRxSem = 0) (rx : ¬s.rx.Holds)
    (unfinished : s.unfinished = [pkt])

/-- The permit is somewhere, and the block of the receive thread's packet is allocated. -/
structure HandsOver (s : IsotpState) : Prop where
  permit : s.PermitAt
  allocated : ∀ block, s.memPkt.data = some block → s.heap block ≠ none

theorem boot_handsOver : boot.HandsOver :=
  ⟨.free rfl id rfl, nofun⟩

variable {s : IsotpState}

/-- With the permit, the receive thread has no message to respect. -/
theorem PermitAt.unfinished_nil (permit : s.PermitAt) (holds : s.rx.Holds)
    : s.canIsotpRxSem = 0 ∧ s.unfinished = [] := by
  cases permit with
  | free _ rx => exact absurd holds rx
  | message _ _ rx => exact absurd holds rx
  | receiveThread sem _ unfinished => exact ⟨sem, unfinished⟩

theorem holds_of_eq {phase : RxPhase} (rx : s.rx = phase) (holds : phase.Holds) : s.rx.Holds :=
  rx ▸ holds

/-- One message at most is unfinished. -/
theorem PermitAt.single (permit : s.PermitAt) : s.unfinished.length ≤ 1 := by
  cases permit with
  | free _ _ unfinished | receiveThread _ _ unfinished => simp [unfinished]
  | message pkt _ _ unfinished => simp [unfinished]

-----------------------------------------------------------------------------------------
-- The receive thread at work
-----------------------------------------------------------------------------------------

/-- An event of the receive thread's own. -/
def Internal : IsotpEvent → Prop
  | .freed _ | .wrote _ | .dereferenced _ | .completed _ => True
  | .published _ _ | .processed _ _ => False

/-- What the receive thread does with the permit between two calls: it keeps the permit, and the
subscriber and its queue are not concerned.
-/
structure Works (s next : IsotpState) (events : List IsotpEvent) : Prop where
  sem : next.canIsotpRxSem = s.canIsotpRxSem
  queue : next.queue = s.queue
  subscriber : next.subscriber = s.subscriber
  rx : next.rx.Holds
  allocated : ∀ block, next.memPkt.data = some block → next.heap block ≠ none
  internal : ∀ event ∈ events, Internal event
  freed : ∀ block, .freed block ∈ events → s.heap block ≠ none ∧ next.heap block = none

/-- The copying keeps the block, and everything the subscriber sees. -/
theorem copy_works (allocated : ∀ block, s.memPkt.data = some block → s.heap block ≠ none)
    (holds : s.rx.Holds)
    : s.Works s.copy.1 s.copy.2 ∧ s.copy.1.memPkt.len = s.memPkt.len := by
  unfold copy
  split
  case h_1 block first rest data buf =>
      obtain ⟨sameData, sameLen⟩ :=
        s.memPkt.copyFrags_keeps ((s.heap block).getD []) (first :: rest)
      refine ⟨⟨rfl, rfl, rfl, holds, ?_, by simp [Internal], by simp⟩, sameLen⟩
      intro own isOwn
      obtain rfl : block = own := Option.some.inj (data.symm.trans (sameData.symm.trans isOwn))
      simp
  case h_2 => exact ⟨⟨rfl, rfl, rfl, holds, allocated, nofun, nofun⟩, rfl⟩

theorem received_works (s : IsotpState) (remLen : Int)
    (allocated : ∀ block, s.memPkt.data = some block → s.heap block ≠ none)
    (holds : s.rx.Holds)
    : s.Works (s.received remLen).1 (s.received remLen).2
      ∧ ∀ block, .freed block ∉ (s.received remLen).2 := by
  obtain ⟨copied, -⟩ := copy_works allocated holds
  have unfreed (block : HeapBuffer) : .freed block ∉ s.copy.2 := by
    unfold copy
    split <;> simp
  unfold received
  split
  · exact ⟨⟨rfl, rfl, rfl, trivial, allocated, nofun, nofun⟩, nofun⟩
  · dsimp only
    split
    · exact ⟨⟨copied.sem, copied.queue, copied.subscriber, trivial, copied.allocated,
        copied.internal, copied.freed⟩, unfreed⟩
    · split
      · exact ⟨⟨copied.sem, copied.queue, copied.subscriber, trivial, copied.allocated,
          copied.internal, copied.freed⟩, unfreed⟩
      · refine ⟨⟨copied.sem, copied.queue, copied.subscriber, trivial, copied.allocated, ?_, ?_⟩,
          ?_⟩
        · exact List.forall_mem_append.mpr ⟨copied.internal, by simp [Internal]⟩
        · simp [unfreed]
        · simp [unfreed]

theorem recvNet_works (result : RecvResult)
    (allocated : ∀ block, s.memPkt.data = some block → s.heap block ≠ none)
    (holds : s.rx.Holds)
    : s.Works (s.recvNet result).1 (s.recvNet result).2 := by
  simp only [recvNet]
  split
  case h_1 => exact ⟨rfl, rfl, rfl, trivial, allocated, by simp [Internal], by simp⟩
  case h_2 =>
      let withBuf : IsotpState := { s with buf := result.buf s.buf }
      obtain ⟨goesOn, -⟩ := received_works withBuf result.remLen allocated holds
      exact ⟨goesOn.sem, goesOn.queue, goesOn.subscriber, goesOn.rx, goesOn.allocated,
        goesOn.internal, goesOn.freed⟩

theorem malloc_works (remLen : Int) (size : Nat) (block : Option HeapBuffer)
    (allocated : ∀ block, s.memPkt.data = some block → s.heap block ≠ none)
    (holds : s.rx.Holds)
    : s.Works (s.malloc remLen size block).1 (s.malloc remLen size block).2 := by
  cases block with
  | none => exact (received_works s remLen allocated holds).1
  | some block =>
      simp only [malloc]
      split
      case isTrue => exact ⟨rfl, rfl, rfl, holds, allocated, nofun, nofun⟩
      case isFalse =>
          let withBlock : IsotpState := {
            s with
            heap := Function.update s.heap block (some (List.replicate size 0))
            memPkt := { s.memPkt with data := some block, len := intOfUint32 size }
          }
          obtain ⟨goesOn, unfreed⟩ :=
            received_works withBlock remLen (by simp [withBlock]) holds
          refine ⟨goesOn.sem, goesOn.queue, goesOn.subscriber, goesOn.rx, goesOn.allocated, ?_,
            ?_⟩
          · exact List.forall_mem_cons.mpr ⟨trivial, goesOn.internal⟩
          · intro other freed
            rcases List.mem_cons.mp freed with wrote | later
            · cases wrote
            · exact absurd later (unfreed other)

theorem free_works (allocated : ∀ block, s.memPkt.data = some block → s.heap block ≠ none)
    : s.Works s.free.1 s.free.2 := by
  simp only [free]
  split
  case h_1 block data =>
      refine ⟨rfl, rfl, rfl, trivial, nofun, by simp [Internal], ?_⟩
      intro own isOwn
      obtain rfl : own = block := by simpa using isOwn
      exact ⟨allocated own data, by simp⟩
  case h_2 => exact ⟨rfl, rfl, rfl, trivial, nofun, nofun, nofun⟩

-----------------------------------------------------------------------------------------
-- What the work means for the subscriber
-----------------------------------------------------------------------------------------

/-- The message that an event brings onto the channel, with its bytes. -/
def entered : IsotpEvent → Option (RecvPkt × List UInt8)
  | .published pkt bytes => some (pkt, bytes)
  | _ => none

/-- The message that the subscriber has processed by an event, with the bytes it has seen. -/
def left : IsotpEvent → Option (RecvPkt × List UInt8)
  | .processed pkt bytes => some (pkt, bytes)
  | _ => none

/-- A step as the handover wants it. -/
structure GoodStep (s next : IsotpState) (events : List IsotpEvent) : Prop where
  handsOver : next.HandsOver
  undisturbed : ∀ pkt ∈ s.unfinished, ∀ block, pkt.data = some block
    → .freed block ∉ events ∧ .wrote block ∉ events ∧ next.heap block = s.heap block
  freed : ∀ block, .freed block ∈ events → s.heap block ≠ none ∧ next.heap block = none
  conserved : s.unprocessed ++ events.filterMap entered
    = events.filterMap left ++ next.unprocessed

theorem unprocessed_of_unfinished (nothing : s.unfinished = []) : s.unprocessed = [] := by
  obtain ⟨subscriber, queue⟩ := List.append_eq_nil_iff.mp nothing
  cases phase : s.subscriber with
  | waiting => simp [unprocessed, phase, queue, RxSubscriberPhase.unprocessed]
  | received pkt | handled pkt => simp [phase, RxSubscriberPhase.pkt] at subscriber

theorem filterMap_internal {events : List IsotpEvent}
    (internal : ∀ event ∈ events, Internal event)
    : events.filterMap entered = [] ∧ events.filterMap left = [] := by
  simp only [List.filterMap_eq_nil_iff]
  constructor <;>
  · intro event member
    have own := internal event member
    cases event <;> first | rfl | exact own.elim

/-- With the permit, the receive thread may do its work. -/
theorem Works.good {next : IsotpState} {events : List IsotpEvent} (works : s.Works next events)
    (permit : s.PermitAt) (holds : s.rx.Holds)
    : s.GoodStep next events := by
  obtain ⟨sem, nothing⟩ := permit.unfinished_nil holds
  have nothingAfter : next.unfinished = [] := by
    rw [unfinished, works.subscriber, works.queue]
    exact nothing
  obtain ⟨entered, left⟩ := filterMap_internal works.internal
  refine ⟨⟨.receiveThread (works.sem.trans sem) works.rx nothingAfter, works.allocated⟩, ?_,
    works.freed, ?_⟩
  · rw [nothing]
    exact nofun
  · rw [entered, left, unprocessed_of_unfinished nothing, unprocessed_of_unfinished nothingAfter]

/-- Steps that leave heap and events alone only have to keep the permit. -/
theorem GoodStep.quiet {next : IsotpState} (handsOver : next.HandsOver)
    (heap : next.heap = s.heap)
    (subscriber : next.subscriber.unprocessed.toList ++ next.queue
      = s.subscriber.unprocessed.toList ++ s.queue)
    : s.GoodStep next [] := by
  refine ⟨handsOver, ?_, nofun, ?_⟩
  · exact fun _ _ block _ => ⟨nofun, nofun, by rw [heap]⟩
  · simp [unprocessed, heap, subscriber]

theorem publish_good (room : Bool) (handsOver : s.HandsOver) (rx : s.rx = .publishing)
    : s.GoodStep (s.publish room).1 (s.publish room).2 := by
  obtain ⟨sem, nothing⟩ := handsOver.permit.unfinished_nil (holds_of_eq rx trivial)
  obtain ⟨subscriber, queue⟩ := List.append_eq_nil_iff.mp nothing
  unfold publish
  split
  · refine ⟨⟨.message s.memPkt sem id ?_, handsOver.allocated⟩, ?_, by simp, ?_⟩
    · simp [unfinished, subscriber, queue]
    · rw [nothing]
      exact nofun
    · have waiting : s.subscriber.unprocessed = none := by
        cases phase : s.subscriber with
        | waiting | handled => rfl
        | received pkt => simp [phase, RxSubscriberPhase.pkt] at subscriber
      simp [unprocessed, waiting, queue, entered, left, RecvPkt.bytes]
  · exact GoodStep.quiet
      ⟨.receiveThread sem trivial nothing, handsOver.allocated⟩ rfl rfl

/-- The receive thread takes a free permit. -/
theorem semTake_good (handsOver : s.HandsOver)
    : s.GoodStep (s.step .semTake).1 (s.step .semTake).2 := by
  simp only [step]
  split
  case isFalse => exact .quiet handsOver rfl rfl
  case isTrue taken =>
      refine .quiet ⟨?_, handsOver.allocated⟩ rfl rfl
      cases handsOver.permit with
      | free sem _ unfinished => exact .receiveThread (by simp [sem]) trivial unfinished
      | receiveThread sem | message _ sem => exact absurd sem (Nat.ne_of_gt taken.2)

/-- The failing thread gives the permit back. -/
theorem giveAndBreak_good (handsOver : s.HandsOver)
    : s.GoodStep (s.step .giveAndBreak).1 (s.step .giveAndBreak).2 := by
  simp only [step]
  split
  case isFalse => exact .quiet handsOver rfl rfl
  case isTrue rx =>
      obtain ⟨sem, nothing⟩ := handsOver.permit.unfinished_nil (holds_of_eq rx trivial)
      exact .quiet ⟨.free (by simp [semGive, sem]) id nothing, handsOver.allocated⟩ rfl rfl

theorem waitMsg_good (handsOver : s.HandsOver)
    : s.GoodStep (s.step .waitMsg).1 (s.step .waitMsg).2 := by
  simp only [step]
  split
  case h_2 => exact .quiet handsOver rfl rfl
  case h_1 pkt rest subscriber queue =>
      have same : s.unfinished = pkt :: rest := by
        simp [unfinished, subscriber, queue, RxSubscriberPhase.pkt]
      refine .quiet ⟨?_, handsOver.allocated⟩ rfl ?_
      · cases handsOver.permit with
        | free _ _ nothing | receiveThread _ _ nothing => cases same.symm.trans nothing
        | message own sem rx unfinished => exact .message own sem rx (same.symm.trans unfinished)
      · simp [subscriber, queue, RxSubscriberPhase.unprocessed]

/-- The subscriber processes its message with the bytes it was published with. -/
theorem decode_good (handsOver : s.HandsOver)
    : s.GoodStep (s.step .decode).1 (s.step .decode).2 := by
  cases phase : s.subscriber with
  | waiting | handled =>
      simp only [step, phase]
      exact .quiet handsOver rfl rfl
  | received pkt =>
      simp only [step, phase]
      have same : s.unfinished = pkt :: s.queue := by
        simp [unfinished, phase, RxSubscriberPhase.pkt]
      refine ⟨⟨?_, handsOver.allocated⟩, by simp, by simp, ?_⟩
      · cases handsOver.permit with
        | free _ _ nothing | receiveThread _ _ nothing => cases same.symm.trans nothing
        | message own sem rx unfinished => exact .message own sem rx (same.symm.trans unfinished)
      · simp [unprocessed, phase, RxSubscriberPhase.unprocessed, entered, left]

/-- The subscriber gives the permit of its message back. -/
theorem subscriberGive_good (handsOver : s.HandsOver)
    : s.GoodStep (s.step .subscriberGive).1 (s.step .subscriberGive).2 := by
  cases phase : s.subscriber with
  | waiting | received =>
      simp only [step, phase]
      exact .quiet handsOver rfl rfl
  | handled pkt =>
      simp only [step, phase]
      have same : s.unfinished = pkt :: s.queue := by
        simp [unfinished, phase, RxSubscriberPhase.pkt]
      refine .quiet ⟨?_, handsOver.allocated⟩ rfl ?_
      · cases handsOver.permit with
        | free _ _ nothing | receiveThread _ _ nothing => cases same.symm.trans nothing
        | message own sem rx unfinished =>
            obtain ⟨-, queue⟩ := List.cons.inj (same.symm.trans unfinished)
            refine .free (by simp [semGive, sem]) rx ?_
            simp [semGive, IsotpState.unfinished, queue, RxSubscriberPhase.pkt]
      · simp [semGive, phase, RxSubscriberPhase.unprocessed]

/-- Every step is as the handover wants it. -/
theorem step_good (input : IsotpInput) (handsOver : s.HandsOver)
    : s.GoodStep (s.step input).1 (s.step input).2 := by
  have unchanged : s.GoodStep s [] := .quiet handsOver rfl rfl
  cases input with
  | semTake => exact semTake_good handsOver
  | free =>
      simp only [step]
      split
      case isTrue rx =>
          exact (free_works handsOver.allocated).good handsOver.permit (holds_of_eq rx trivial)
      case isFalse => exact unchanged
  | recvNet result =>
      simp only [step]
      split
      case isTrue rx =>
          have holds : s.rx.Holds := holds_of_eq rx trivial
          exact (recvNet_works result handsOver.allocated holds).good handsOver.permit holds
      case isFalse => exact unchanged
  | malloc block =>
      simp only [step]
      split
      case h_1 remLen size rx =>
          have holds : s.rx.Holds := holds_of_eq rx trivial
          exact (malloc_works remLen size block handsOver.allocated holds).good handsOver.permit
            holds
      case h_2 => exact unchanged
  | publish room =>
      simp only [step]
      split
      case isTrue rx => exact publish_good room handsOver rx
      case isFalse => exact unchanged
  | giveAndBreak => exact giveAndBreak_good handsOver
  | waitMsg => exact waitMsg_good handsOver
  | decode => exact decode_good handsOver
  | subscriberGive => exact subscriberGive_good handsOver

theorem HandsOver.respects (input : IsotpInput) (handsOver : s.HandsOver)
    : s.RespectsHandover input :=
  ⟨(step_good input handsOver).undisturbed, (step_good input handsOver).freed⟩

end IsotpState

/-- In every run, blocks of unfinished messages are left alone, only allocated blocks are freed,
one message at most is unfinished, and the subscriber processes the published messages one by
one in their order, each with the bytes it was published with.
-/
theorem isotpMachine_handsOver (inputs : List IsotpInput)
    : isotpMachine.Along IsotpState.RespectsHandover .boot inputs
      ∧ isotpMachine.Always (fun s => s.unfinished.length ≤ 1) .boot inputs
      ∧ (isotpMachine.run .boot inputs).2.filterMap IsotpState.entered
        = (isotpMachine.run .boot inputs).2.filterMap IsotpState.left
          ++ (isotpMachine.run .boot inputs).1.unprocessed := by
  have preserved (s : IsotpState) (input : IsotpInput) (handsOver : s.HandsOver)
      : (isotpMachine.step s input).1.HandsOver :=
    (IsotpState.step_good input handsOver).handsOver
  refine ⟨?_, ?_, ?_⟩
  · exact .of_invariant IsotpState.HandsOver preserved
      (fun s input handsOver => handsOver.respects input) IsotpState.boot_handsOver inputs
  · have reached : isotpMachine.Always IsotpState.HandsOver .boot inputs :=
      .of_preserved preserved IsotpState.boot_handsOver inputs
    exact reached.imp fun s handsOver => handsOver.permit.single
  · exact InputMachine.run_conserves IsotpState.unprocessed preserved
      (fun s input handsOver => (IsotpState.step_good input handsOver).conserved)
      IsotpState.boot_handsOver inputs

end GoproGateway
