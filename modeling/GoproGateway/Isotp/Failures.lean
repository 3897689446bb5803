import GoproGateway.Isotp.Receive

/-! What a failed reception does to the receive thread.

An error of `isotp_recv_net` or of a publication leads to a `break` that leaves the main loop, so
the thread is gone with the first of them. Failed allocations and timeouts it survives.
-/

namespace GoproGateway

namespace IsotpState

/-- The thread is in its main loop, and not on its way out of it. -/
def InLoop (s : IsotpState) : Prop :=
  match s.rx with
  | .failing | .exited => False
  | .allocating remLen _ => 0 ≤ remLen
  | _ => True

/-- A step with which the thread goes on receiving: it stays in its loop, reads only through a
buffer that `isotp_recv_net` has returned, keeps no block without a reference, and publishes a
complete message and returns to its wait for the next one.
-/
structure KeepsReceiving (s : IsotpState) (input : IsotpInput) : Prop where
  inLoop : (s.step input).1.InLoop
  returned : ∀ buf, .dereferenced buf ∈ (s.step input).2 → ∃ first rest, buf = .frags first rest
  referenced : ∀ block, (s.step input).1.heap block ≠ none
    → (s.step input).1.memPkt.data = some block
  publishes : ∀ room, input = .publish room → s.rx = .publishing
    → (s.step input).2 = [.published s.memPkt (s.memPkt.bytes s.heap)]
      ∧ (s.step input).1.rx = .taking

/-- No error of `isotp_recv_net`, and no failed publication. -/
def NoFailure (s : IsotpState) : IsotpInput → Prop
  | .recvNet (.error _ _) => s.rx ≠ .receiving
  | .publish false => s.rx ≠ .publishing
  | _ => True

/-- The complete message that the thread is about to publish. -/
def complete (s : IsotpState) : List RecvPkt :=
  match s.rx with
  | .publishing => [s.memPkt]
  | _ => []

/-- The message whose last part an event reports. -/
def completedPkt : IsotpEvent → Option RecvPkt
  | .completed pkt => some pkt
  | _ => none

/-- The message that an event reports as published. -/
def publishedPkt : IsotpEvent → Option RecvPkt
  | .published pkt _ => some pkt
  | _ => none

-----------------------------------------------------------------------------------------
-- Steps without a failure
-----------------------------------------------------------------------------------------

/-- A thread that goes on receiving: its packet has a length, and refers to the only block. -/
structure Receives (s : IsotpState) : Prop where
  inLoop : s.InLoop
  len : 0 ≤ s.memPkt.len
  referenced : ∀ block, s.heap block ≠ none → s.memPkt.data = some block
  unallocated : ∀ remLen size, s.rx = .allocating remLen size → s.memPkt.data = none

theorem boot_receives : boot.Receives :=
  ⟨trivial, Int.le_refl 0, nofun, nofun⟩

/-- What the receive thread does while it receives. -/
structure Goes (s next : IsotpState) (events : List IsotpEvent) : Prop where
  receives : next.Receives
  returned : ∀ buf, .dereferenced buf ∈ events → ∃ first rest, buf = .frags first rest
  conserved : s.complete ++ events.filterMap completedPkt
    = events.filterMap publishedPkt ++ next.complete

variable {s : IsotpState}

/-- With no message complete before the step, what it completes is published or complete. -/
theorem Goes.of_nothing {next : IsotpState} {events : List IsotpEvent}
    (nothing : s.complete = []) (receives : next.Receives)
    (returned : ∀ buf, .dereferenced buf ∈ events → ∃ first rest, buf = .frags first rest)
    (conserved : events.filterMap completedPkt = events.filterMap publishedPkt ++ next.complete)
    : s.Goes next events := by
  refine ⟨receives, returned, ?_⟩
  rw [nothing, List.nil_append]
  exact conserved

theorem intOfUint32_of_lt {value : Nat} (small : value < 2 ^ 31) : intOfUint32 value = value := by
  unfold intOfUint32
  rw [Int.bmod_def]
  omega

/-- Steps of the subscriber do not concern the thread. -/
theorem Goes.quiet {next : IsotpState} {events : List IsotpEvent} (receives : s.Receives)
    (rx : next.rx = s.rx) (memPkt : next.memPkt = s.memPkt) (heap : next.heap = s.heap)
    (events_quiet : ∀ event ∈ events, ∃ pkt bytes, event = .processed pkt bytes)
    : s.Goes next events := by
  refine ⟨⟨?_, ?_, ?_, ?_⟩, ?_, ?_⟩
  · rw [InLoop, rx]
    exact receives.inLoop
  · rw [memPkt]
    exact receives.len
  · rw [heap, memPkt]
    exact receives.referenced
  · rw [rx, memPkt]
    exact receives.unallocated
  · intro buf member
    obtain ⟨_, _, processed⟩ := events_quiet _ member
    cases processed
  · have unseen (view : IsotpEvent → Option RecvPkt)
        (blind : ∀ pkt bytes, view (.processed pkt bytes) = none)
        : events.filterMap view = [] := by
      rw [List.filterMap_eq_nil_iff]
      intro event member
      obtain ⟨pkt, bytes, rfl⟩ := events_quiet event member
      exact blind pkt bytes
    rw [unseen completedPkt fun _ _ => rfl, unseen publishedPkt fun _ _ => rfl, List.append_nil,
      List.nil_append, complete, complete, rx, memPkt]

/-- The copying leaves the packet's block and length alone, and reads returned fragments. -/
theorem copy_goes (referenced : ∀ block, s.heap block ≠ none → s.memPkt.data = some block)
    : s.copy.1.memPkt.len = s.memPkt.len
      ∧ (∀ block, s.copy.1.heap block ≠ none → s.copy.1.memPkt.data = some block)
      ∧ (∀ buf, .dereferenced buf ∈ s.copy.2 → ∃ first rest, buf = .frags first rest)
      ∧ s.copy.2.filterMap completedPkt = [] ∧ s.copy.2.filterMap publishedPkt = [] := by
  unfold copy
  split
  case h_1 block first rest data buf =>
      obtain ⟨sameData, sameLen⟩ :=
        s.memPkt.copyFrags_keeps ((s.heap block).getD []) (first :: rest)
      refine ⟨sameLen, ?_, ?_, rfl, rfl⟩
      · intro other allocated
        refine sameData.trans ?_
        by_cases same : other = block
        · rw [same, data]
        · exact referenced other (by simpa [same] using allocated)
      · intro read member
        have own : read = s.buf := by simpa using member
        exact ⟨first, rest, own.trans buf⟩
  case h_2 => exact ⟨rfl, referenced, nofun, rfl, rfl⟩

/-- Without an error, the rest of a turn of the receive loop ends in the next turn, or in the
publication of the complete message.
-/
theorem received_goes (s : IsotpState) {remLen : Int} (positive : 0 ≤ remLen)
    (len : 0 ≤ s.memPkt.len)
    (referenced : ∀ block, s.heap block ≠ none → s.memPkt.data = some block)
    : (s.received remLen).1.Receives
      ∧ (∀ buf, .dereferenced buf ∈ (s.received remLen).2 → ∃ first rest, buf = .frags first rest)
      ∧ (s.received remLen).2.filterMap completedPkt
        = (s.received remLen).2.filterMap publishedPkt ++ (s.received remLen).1.complete := by
  obtain ⟨sameLen, copied, returned, nothingCompleted, nothingPublished⟩ := copy_goes referenced
  rw [← sameLen] at len
  simp only [received, if_neg (Int.not_lt.mpr positive)]
  by_cases last : remLen = 0
  · rw [if_neg (not_not.mpr last), if_neg (Int.not_lt.mpr len)]
    refine ⟨⟨trivial, len, copied, nofun⟩, ?_, ?_⟩
    · simpa using returned
    · simp [nothingCompleted, nothingPublished, complete, completedPkt, publishedPkt]
  · rw [if_pos last]
    refine ⟨⟨trivial, len, copied, nofun⟩, returned, ?_⟩
    rw [nothingCompleted, nothingPublished]
    rfl

/-- A turn of the receive loop that gets a part of the message. -/
theorem recvNet_goes (receives : s.Receives) (rx : s.rx = .receiving) (remLen : Nat)
    (first : List UInt8) (rest : List (List UInt8))
    : s.Goes (s.recvNet (.frags remLen first rest)).1
        (s.recvNet (.frags remLen first rest)).2 := by
  have nothing : s.complete = [] := by rw [complete, rx]
  simp only [recvNet]
  split
  case h_1 data =>
      refine ⟨⟨Int.natCast_nonneg remLen, receives.len, receives.referenced, ?_⟩, ?_, ?_⟩
      · exact fun _ _ _ => data
      · intro buf member
        exact ⟨first, rest, by simpa [RecvResult.buf] using member⟩
      · rw [nothing]
        rfl
  case h_2 =>
      obtain ⟨next, returned, conserved⟩ :=
        received_goes { s with buf := .frags first rest } (Int.natCast_nonneg remLen) receives.len
          receives.referenced
      exact .of_nothing nothing next returned conserved

/-- An allocation, whether it succeeds or fails. -/
theorem malloc_goes (receives : s.Receives) {remLen : Int} {size : Nat}
    (rx : s.rx = .allocating remLen size) (block : Option HeapBuffer)
    : s.Goes (s.malloc remLen size block).1 (s.malloc remLen size block).2 := by
  have positive : 0 ≤ remLen := by simpa only [InLoop, rx] using receives.inLoop
  have nothing : s.complete = [] := by rw [complete, rx]
  have unallocated := receives.unallocated remLen size rx
  cases block with
  | none =>
      obtain ⟨next, returned, conserved⟩ :=
        received_goes s positive receives.len receives.referenced
      exact .of_nothing nothing next returned conserved
  | some block =>
      simp only [malloc]
      split
      case isTrue => exact .quiet receives rfl rfl rfl nofun
      case isFalse possible =>
          have small : size < 2 ^ 31 := Nat.lt_of_not_le fun huge => possible (.inr huge)
          have signed : 0 ≤ intOfUint32 size := by
            rw [intOfUint32_of_lt small]
            exact Int.natCast_nonneg size
          let withBlock : IsotpState := {
            s with
            heap := Function.update s.heap block (some (List.replicate size 0))
            memPkt := { s.memPkt with data := some block, len := intOfUint32 size }
          }
          have only (other : HeapBuffer) (allocated : withBlock.heap other ≠ none)
              : withBlock.memPkt.data = some other := by
            by_cases same : other = block
            · rw [same]
            · have before : s.heap other ≠ none := by simpa [withBlock, same] using allocated
              have own := receives.referenced other before
              rw [unallocated] at own
              cases own
          have len : 0 ≤ withBlock.memPkt.len := by
            simp only [withBlock]
            exact signed
          obtain ⟨next, returned, conserved⟩ := received_goes withBlock positive len only
          refine .of_nothing nothing next ?_ conserved
          intro buf member
          rcases List.mem_cons.mp member with wrote | later
          · cases wrote
          · exact returned buf later

/-- The block of the last message is the only one, so freeing it frees them all. -/
theorem free_goes (receives : s.Receives) (rx : s.rx = .freeing)
    : s.Goes s.free.1 s.free.2 := by
  have nothing : s.complete = [] := by rw [complete, rx]
  simp only [free]
  split
  case h_1 block data =>
      refine .of_nothing nothing ⟨trivial, Int.le_refl 0, ?_, nofun⟩ (by simp) rfl
      intro other allocated
      by_cases same : other = block
      · simp [same] at allocated
      · have own := receives.referenced other (by simpa [same] using allocated)
        exact absurd (Option.some.inj (own.symm.trans data)) same
  case h_2 data =>
      refine .of_nothing nothing ⟨trivial, Int.le_refl 0, ?_, nofun⟩ nofun rfl
      intro other allocated
      have own := receives.referenced other allocated
      cases data.symm.trans own

theorem publish_goes (receives : s.Receives) (rx : s.rx = .publishing)
    : s.Goes (s.publish true).1 (s.publish true).2 := by
  refine ⟨⟨trivial, receives.len, receives.referenced, nofun⟩, by simp [publish], ?_⟩
  rw [complete, rx]
  rfl

/-- Without a failure, the thread goes on receiving. -/
theorem step_goes {input : IsotpInput} (receives : s.Receives) (noFailure : s.NoFailure input)
    : s.Goes (s.step input).1 (s.step input).2 := by
  have unchanged : s.Goes s [] := .quiet receives rfl rfl rfl nofun
  cases input with
  | semTake =>
      simp only [step]
      split
      case isFalse => exact unchanged
      case isTrue taken =>
          have nothing : s.complete = [] := by rw [complete, taken.1]
          exact .of_nothing nothing ⟨trivial, receives.len, receives.referenced, nofun⟩ nofun rfl
  | free =>
      simp only [step]
      split
      case isTrue rx => exact free_goes receives rx
      case isFalse => exact unchanged
  | recvNet result =>
      simp only [step]
      split
      case isFalse => exact unchanged
      case isTrue rx =>
          cases result with
          | frags remLen first rest => exact recvNet_goes receives rx remLen first rest
          | error => exact absurd rx noFailure
  | malloc block =>
      simp only [step]
      split
      case h_1 remLen size rx => exact malloc_goes receives rx block
      case h_2 => exact unchanged
  | publish room =>
      simp only [step]
      split
      case isFalse => exact unchanged
      case isTrue rx =>
          cases room with
          | true => exact publish_goes receives rx
          | false => exact absurd rx noFailure
  | giveAndBreak =>
      simp only [step]
      split
      case isFalse => exact unchanged
      case isTrue rx =>
          have inLoop := receives.inLoop
          rw [InLoop, rx] at inLoop
          exact inLoop.elim
  | waitMsg =>
      simp only [step]
      split
      case h_1 => exact .quiet receives rfl rfl rfl nofun
      case h_2 => exact unchanged
  | decode =>
      simp only [step]
      split
      case h_1 => exact .quiet receives rfl rfl rfl (by simp)
      case h_2 => exact unchanged
  | subscriberGive =>
      simp only [step]
      split
      case h_1 => exact .quiet receives rfl rfl rfl nofun
      case h_2 => exact unchanged

-----------------------------------------------------------------------------------------
-- Failures
-----------------------------------------------------------------------------------------

theorem received_error (s : IsotpState) {remLen : Int} (negative : remLen < 0)
    : (s.received remLen).1.rx = .failing ∧ (s.received remLen).2 = [] := by
  rw [received, if_pos negative]
  exact ⟨rfl, rfl⟩

/-- After an error the thread is on its way out, whether it has a block or not. -/
theorem recvNet_error_leaves (s : IsotpState) (code wild : Nat)
    : ¬(s.recvNet (.error code wild)).1.InLoop := by
  have negative : (RecvResult.error code wild).remLen < 0 := by
    rw [RecvResult.remLen]
    omega
  simp only [recvNet]
  split
  case h_1 => exact Int.not_le.mpr negative
  case h_2 =>
      obtain ⟨failing, -⟩ :=
        received_error { s with buf := (RecvResult.error code wild).buf s.buf } negative
      rw [InLoop, failing]
      exact id

theorem keepsReceiving_iff (input : IsotpInput) (receives : s.Receives)
    : s.KeepsReceiving input ↔ s.NoFailure input := by
  constructor
  · intro keeps
    have inLoop := keeps.inLoop
    unfold NoFailure
    split
    case h_1 code wild =>
        intro rx
        rw [step, if_pos rx] at inLoop
        exact recvNet_error_leaves s code wild inLoop
    case h_2 =>
        intro rx
        rw [step, if_pos rx] at inLoop
        exact inLoop
    case h_3 => trivial
  · intro noFailure
    have goes := step_goes receives noFailure
    refine ⟨goes.receives.inLoop, goes.returned, goes.receives.referenced, ?_⟩
    rintro room rfl rx
    cases room with
    | true => exact ⟨by rw [step, if_pos rx]; rfl, by rw [step, if_pos rx]; rfl⟩
    | false => exact absurd rx noFailure

/-- A thread on its way out of its loop does not come back, and publishes nothing any more. -/
theorem step_out (input : IsotpInput) (out : ¬s.InLoop)
    : ¬(s.step input).1.InLoop ∧ (s.step input).2.filterMap publishedPkt = [] := by
  have unchanged : ¬s.InLoop ∧ ([] : List IsotpEvent).filterMap publishedPkt = [] := ⟨out, rfl⟩
  unfold InLoop at out
  cases input with
  | semTake =>
      simp only [step]
      split
      case isFalse => exact unchanged
      case isTrue taken =>
          rw [taken.1] at out
          exact absurd trivial out
  | free | recvNet | publish =>
      simp only [step]
      split
      case isFalse => exact unchanged
      case isTrue rx =>
          rw [rx] at out
          exact absurd trivial out
  | malloc block =>
      simp only [step]
      split
      case h_2 => exact unchanged
      case h_1 remLen size rx =>
          rw [rx] at out
          have negative : remLen < 0 := Int.not_le.mp out
          have fails (t : IsotpState) : ¬(t.received remLen).1.InLoop
              ∧ (t.received remLen).2.filterMap publishedPkt = [] := by
            obtain ⟨failing, nothing⟩ := received_error t negative
            rw [InLoop, failing, nothing]
            exact ⟨id, rfl⟩
          cases block with
          | none => exact fails s
          | some block =>
              simp only [malloc]
              split
              case isTrue => exact unchanged
              case isFalse => exact fails _
  | giveAndBreak =>
      simp only [step]
      split
      case isFalse => exact unchanged
      case isTrue => exact ⟨id, rfl⟩
  | waitMsg | decode | subscriberGive =>
      simp only [step]
      split
      · exact ⟨unchanged.1, rfl⟩
      · exact unchanged

end IsotpState

/-- Once it is on its way out of its loop, the thread never publishes again. -/
theorem isotpMachine_out {s : IsotpState} (out : ¬s.InLoop) (inputs : List IsotpInput)
    : isotpMachine.Always (fun s => ¬s.InLoop) s inputs
      ∧ (isotpMachine.run s inputs).2.filterMap IsotpState.publishedPkt = [] := by
  constructor
  · apply InputMachine.Always.of_preserved
    · exact fun _ input out => (IsotpState.step_out input out).1
    · exact out
  · induction inputs generalizing s with
    | nil => rfl
    | cons input rest ih =>
        obtain ⟨next, nothing⟩ := IsotpState.step_out input out
        rw [InputMachine.run_cons, List.filterMap_append]
        exact List.append_eq_nil_iff.mpr ⟨nothing, ih next⟩

/-- The thread goes on receiving, and publishes every message that it has received completely,
exactly in the runs without a failure.
-/
theorem isotpMachine_keepsReceiving_iff (inputs : List IsotpInput)
    : (isotpMachine.Along IsotpState.KeepsReceiving .boot inputs
        ∧ (isotpMachine.run .boot inputs).2.filterMap IsotpState.completedPkt
          = (isotpMachine.run .boot inputs).2.filterMap IsotpState.publishedPkt
            ++ (isotpMachine.run .boot inputs).1.complete)
      ↔ isotpMachine.Along IsotpState.NoFailure .boot inputs := by
  have preserved (s : IsotpState) (input : IsotpInput) (receives : s.Receives)
      (noFailure : s.NoFailure input) : (isotpMachine.step s input).1.Receives :=
    (IsotpState.step_goes receives noFailure).receives
  have steps : isotpMachine.Along IsotpState.KeepsReceiving .boot inputs
      ↔ isotpMachine.Along IsotpState.NoFailure .boot inputs := by
    refine InputMachine.along_congr IsotpState.Receives ?_ ?_ IsotpState.boot_receives
      (fun _ _ => trivial)
    · exact fun s input receives _ => preserved s input receives
    · exact fun s input receives _ => IsotpState.keepsReceiving_iff input receives
  constructor
  · rintro ⟨keeps, -⟩
    exact steps.mp keeps
  · intro noFailure
    refine ⟨steps.mpr noFailure, ?_⟩
    exact noFailure.conserves IsotpState.complete preserved
      (fun s input receives clean => (IsotpState.step_goes receives clean).conserved)
      IsotpState.boot_receives

/-- Witness: the second part of a message does not arrive in time. The thread gives the semaphore
and is gone.
-/
theorem isotpMachine_stops
    : let inputs : List IsotpInput :=
        [.semTake, .free, .recvNet (.frags 2 [7, 8, 9] []), .malloc (some 0),
          .recvNet (.error 2 0), .giveAndBreak]
      ¬isotpMachine.Along IsotpState.KeepsReceiving .boot inputs
        ∧ (isotpMachine.run .boot inputs).1.rx = .exited := by
  refine ⟨?_, by decide⟩
  rintro ⟨-, -, -, -, keeps, -⟩
  exact keeps.inLoop

end GoproGateway
