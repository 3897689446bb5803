import GoproGateway.Isotp.Assembly
import GoproGateway.Isotp.Handover
import Mathlib.Data.List.Flatten

/-! A message whose first allocation fails.

The allocation is tried again on every chain, so a later chain may find memory. What came before
is neither copied nor released, and a packet is published in any case.
-/

namespace GoproGateway

/-- The chains from the first one on that finds memory. -/
def servedResults : List RecvResult → List (Option HeapBuffer) → List RecvResult
  | [], _ => []
  | results, some _ :: _ => results
  | _ :: results, none :: outcomes => servedResults results outcomes
  | _ :: results, [] => servedResults results []

/-- A complete packet goes to the subscriber, which gives the semaphore when it has handled it.
Without room in the queue the receive thread gives it.
-/
def publication : Bool → List IsotpInput
  | true => [.publish true, .waitMsg, .decode, .subscriberGive]
  | false => [.publish false, .giveAndBreak]

/-- What is done for a message, with these results and allocations. -/
def handlingInputs (results : List RecvResult) (outcomes : List (Option HeapBuffer))
    (room : Bool)
    : List IsotpInput :=
  .free :: (receptionInputs results outcomes ++ publication room)

/-- The message is dropped as a whole: nothing is published, all of its buffers are released, and
the semaphore can be taken again.
-/
structure DropsMessage (s : IsotpState) (inputs : List IsotpInput)
    (delivered : List (List UInt8))
    : Prop where
  unpublished : (isotpMachine.run s inputs).2.filterMap publishedBytes = []
  released : (isotpCopies.run s inputs).2.map FragCopy.frag = delivered
  available : 0 < (isotpMachine.run s inputs).1.canIsotpRxSem

theorem servedResults_suffix (results : List RecvResult) (outcomes : List (Option HeapBuffer))
    : servedResults results outcomes <:+ results := by
  fun_induction servedResults results outcomes with
  | case1 => exact List.suffix_rfl
  | case2 => exact List.suffix_rfl
  | case3 result results outcomes ih => exact ih.trans (List.suffix_cons result results)
  | case4 result results ih => exact ih.trans (List.suffix_cons result results)

-----------------------------------------------------------------------------------------
-- Chains without memory
-----------------------------------------------------------------------------------------

namespace IsotpState

variable {s : IsotpState} {first later : List UInt8} {rest : List (List UInt8)} {remLen : Nat}

/-- What a chain leaves behind that finds no memory. -/
structure PassesOver (s : IsotpState) (inputs : List IsotpInput) (remLen : Nat) : Prop where
  memPkt : (isotpMachine.run s inputs).1.memPkt = .zero
  rx : (isotpMachine.run s inputs).1.rx = rxAfter remLen
  heap : (isotpMachine.run s inputs).1.heap = s.heap
  quiet : (isotpMachine.run s inputs).2.filterMap publishedBytes = []
  unreleased : (isotpCopies.run s inputs).2.map FragCopy.frag = []

/-- The next call overwrites `buf`, with the chain still allocated. -/
theorem Unallocated.passesOver (unallocated : s.Unallocated)
    : s.PassesOver [.recvNet (.frags remLen first rest), .malloc none] remLen := by
  obtain ⟨size, requests⟩ : ∃ size, s.step (.recvNet (.frags remLen first rest))
      = ({ s with buf := .frags first rest, rx := .allocating remLen size },
          [.dereferenced (.frags first rest)]) := by
    simp only [step, if_pos unallocated.receiving, recvNet, unallocated.data,
      RecvResult.remLen, RecvResult.buf]
    exact ⟨_, rfl⟩
  let requested : IsotpState :=
    { s with buf := .frags first rest, rx := .allocating remLen size }
  have uncopied : requested.copy = (requested, []) := copy_unallocated unallocated.data
  have len : 0 ≤ requested.memPkt.len := by
    simp only [requested, unallocated.memPkt]
    exact Int.le_refl 0
  obtain ⟨rx, quiet, memPkt, heap⟩ := received_rx len remLen
  rw [uncopied] at memPkt heap
  have run : isotpMachine.run s [.recvNet (.frags remLen first rest), .malloc none]
      = ((requested.received remLen).1,
          .dereferenced (.frags first rest) :: (requested.received remLen).2) := by
    simp only [InputMachine.run_cons, InputMachine.run_nil, isotpMachine, requests,
      List.append_nil]
    rfl
  constructor
  · rw [run]
    exact memPkt.trans unallocated.memPkt
  · rw [run]
    exact rx
  · rw [run]
    exact heap
  · rw [run, List.filterMap_cons_none rfl, quiet]
  · simp only [InputMachine.run_cons, InputMachine.run_nil, isotpCopies,
      stepCopies_requests unallocated]
    rfl

/-- The chains behind a chain without memory. -/
theorem PassesOver.completes {before inputs : List IsotpInput} {released : List (List UInt8)}
    (passes : s.PassesOver before remLen)
    (completes : (isotpMachine.run s before).1.Completes inputs released)
    : s.Completes (before ++ inputs) released := by
  have after := completes.after before passes.quiet
  rwa [passes.unreleased, List.nil_append] at after

end IsotpState

open IsotpState

section Reception

variable {s : IsotpState} {later : List UInt8} {results : List RecvResult}

/-- Without a block from the start, the buffers are released from the first chain on that finds
memory, by induction on the calls.
-/
theorem Delivers.completes (delivers : Delivers later results) (memPkt : s.memPkt = .zero)
    (rx : s.rx = rxAfter later.length) (small : later.length < 2 ^ 31)
    (outcomes : List (Option HeapBuffer))
    (available : ∀ block, some block ∈ outcomes → s.heap block = none)
    : s.Completes (receptionInputs results outcomes)
        ((servedResults results outcomes).flatMap RecvResult.fragments) := by
  induction delivers generalizing s outcomes with
  | done => exact ⟨rx, rfl, rfl⟩
  | @chain first rest later results more delivers ih =>
      have unallocated : s.Unallocated := by
        refine ⟨?_, memPkt⟩
        rw [rx, rxAfter, if_neg (mt List.length_eq_zero_iff.mp more)]
      rw [List.length_append, List.flatten_cons, List.length_append] at small
      have passes : s.PassesOver [.recvNet (.frags later.length first rest), .malloc none]
          later.length := unallocated.passesOver
      have next (outcomes : List (Option HeapBuffer))
          (available : ∀ block, some block ∈ outcomes → s.heap block = none)
          : s.Completes (receptionInputs (.frags later.length first rest :: results)
              (none :: outcomes))
            ((servedResults results outcomes).flatMap RecvResult.fragments) := by
        refine passes.completes (ih passes.memPkt passes.rx (by omega) outcomes ?_)
        rw [passes.heap]
        exact available
      cases outcomes with
      | nil => exact next [] available
      | cons outcome outcomes =>
          cases outcome with
          | none => exact next outcomes fun block member => available block (by simp [member])
          | some block =>
              have isFree := available block (by simp)
              exact reception_completes rest unallocated isFree (by omega) delivers

end Reception

-----------------------------------------------------------------------------------------
-- The packet that is published
-----------------------------------------------------------------------------------------

theorem IsotpState.HandsOver.run {s : IsotpState} (handsOver : s.HandsOver)
    (inputs : List IsotpInput)
    : (isotpMachine.run s inputs).1.HandsOver := by
  have preserved (s : IsotpState) (input : IsotpInput) (handsOver : s.HandsOver)
      : (isotpMachine.step s input).1.HandsOver :=
    (step_good input handsOver).handsOver
  have reached : isotpMachine.Always IsotpState.HandsOver s inputs :=
    .of_preserved preserved handsOver inputs
  exact reached inputs [] (List.append_nil inputs).symm

/-- A complete packet is published if there is room, and the semaphore is given either way. -/
theorem IsotpState.HandsOver.publication {s : IsotpState} (handsOver : s.HandsOver)
    (publishing : s.rx = .publishing) (room : Bool)
    : (isotpMachine.run s (publication room)).2.filterMap publishedBytes
        = (if room then [(s.memPkt, s.memPkt.bytes s.heap)] else [])
      ∧ (isotpMachine.run s (publication room)).1.canIsotpRxSem = 1 := by
  obtain ⟨sem, unfinished⟩ := handsOver.permit.unfinished_nil (holds_of_eq publishing trivial)
  obtain ⟨pkt, queue⟩ := List.append_eq_nil_iff.mp unfinished
  have waiting : s.subscriber = .waiting := by
    cases phase : s.subscriber with
    | waiting => rfl
    | received | handled => simp [phase, RxSubscriberPhase.pkt] at pkt
  cases room with
  | true =>
      simp [GoproGateway.publication, isotpMachine, step, publish, publishing, waiting, queue,
        semGive, sem, publishedBytes]
  | false =>
      simp [GoproGateway.publication, isotpMachine, step, publish, publishing, semGive, sem]

theorem publication_copies (room : Bool)
    : ∀ input ∈ publication room, ∀ s : IsotpState, s.stepCopies input = [] := by
  cases room <;> simp [publication, stepCopies]

/-- A message whose first allocation fails is never dropped: a packet is published whenever there
is room for one, and the buffers are released from the first chain on that finds memory. The
semaphore is given in any case.
-/
theorem isotpRxThread_failedAllocation (before : List IsotpInput) (s : IsotpState)
    (reached : s = (isotpMachine.run .boot before).1) (freeing : s.rx = .freeing)
    (first : List UInt8) (rest : List (List UInt8)) (later : List UInt8)
    (results : List RecvResult) (delivers : Delivers later results)
    (small : later.length < 2 ^ 31) (outcomes : List (Option HeapBuffer))
    (available : ∀ block, some block ∈ outcomes → s.free.1.heap block = none) (room : Bool)
    (inputs : List IsotpInput)
    (handled : inputs = handlingInputs (.frags later.length first rest :: results)
      (none :: outcomes) room)
    : ¬ DropsMessage s inputs (first :: rest ++ results.flatMap RecvResult.fragments)
      ∧ ((isotpMachine.run s inputs).2.filterMap publishedBytes).length = room.toNat
      ∧ (isotpCopies.run s inputs).2.map FragCopy.frag
        = (servedResults results outcomes).flatMap RecvResult.fragments
      ∧ (isotpMachine.run s inputs).1.canIsotpRxSem = 1 := by
  subst handled
  let received : List IsotpInput :=
    receptionInputs (.frags later.length first rest :: results) (none :: outcomes)
  have unallocated := s.free_unallocated
  have passes : s.free.1.PassesOver [.recvNet (.frags later.length first rest), .malloc none]
      later.length := unallocated.passesOver
  have laterCompletes := delivers.completes passes.memPkt passes.rx small outcomes
    (passes.heap ▸ available)
  have completes : s.free.1.Completes received
      ((servedResults results outcomes).flatMap RecvResult.fragments) :=
    passes.completes laterCompletes
  have final : (isotpMachine.run s (handlingInputs
      (.frags later.length first rest :: results) (none :: outcomes) room)).1
      = (isotpMachine.run (isotpMachine.run s.free.1 received).1 (publication room)).1 := by
    rw [handlingInputs, InputMachine.run_cons, InputMachine.run_append, ← step_free freeing]
    rfl
  have handsOver : (isotpMachine.run s.free.1 received).1.HandsOver := by
    rw [← step_free freeing]
    exact (reached ▸ boot_handsOver.run before).run (.free :: received)
  obtain ⟨published, sem⟩ := handsOver.publication completes.rx room
  have released : (isotpCopies.run s (.free :: (received ++ publication room))).2.map
      FragCopy.frag = (servedResults results outcomes).flatMap RecvResult.fragments := by
    rw [message_copies received (publication room) freeing (publication_copies room)]
    exact completes.released
  refine ⟨?_, ?_, released, ?_⟩
  · intro drops
    have all := congrArg List.length (released.symm.trans drops.released)
    have served := (servedResults_suffix results outcomes).sublist.flatMap RecvResult.fragments
    have fewer := served.length_le
    rw [List.length_append, List.length_cons] at all
    omega
  · rw [handlingInputs, message_published received (publication room) freeing, completes.quiet,
      published]
    cases room <;> rfl
  · rw [final, sem]

/-- Witness: the first of two calls finds no memory, and the packet has the second part only. -/
theorem isotpRxThread_failedAllocation_twoCalls
    : let s := (isotpMachine.run .boot [.semTake]).1
      let inputs : List IsotpInput :=
        [.free, .recvNet (.frags 1 [10, 11] []), .malloc none, .recvNet (.frags 0 [12] []),
          .malloc (some 0), .publish true, .waitMsg, .decode, .subscriberGive]
      ¬ DropsMessage s inputs [[10, 11], [12]]
        ∧ ((isotpMachine.run s inputs).2.filterMap publishedBytes).length = 1
        ∧ (isotpCopies.run s inputs).2.map FragCopy.frag = [[12]]
        ∧ (isotpMachine.run s inputs).1.canIsotpRxSem = 1 :=
  isotpRxThread_failedAllocation [.semTake] _ rfl rfl [10, 11] [] [12] [.frags 0 [12] []]
    (@Delivers.chain [12] [] [] [] (by decide) .done) (by decide) [some 0] (by simp; rfl)
    true _ rfl

/-- Counterexample: the only buffer of a message finds no memory. The packet published is empty,
and the buffer is not released.
-/
theorem isotpRxThread_publishes_empty
    : let s := (isotpMachine.run .boot [.semTake]).1
      let inputs : List IsotpInput :=
        [.free, .recvNet (.frags 0 [1] []), .malloc none, .publish true, .waitMsg, .decode,
          .subscriberGive]
      ¬ DropsMessage s inputs [[1]]
        ∧ (isotpMachine.run s inputs).2.filterMap publishedBytes = [(⟨0, 0, none⟩, [])]
        ∧ (isotpCopies.run s inputs).2 = [] := by
  refine ⟨?_, by decide, by decide⟩
  intro drops
  exact absurd drops.unpublished (by decide)

end GoproGateway
