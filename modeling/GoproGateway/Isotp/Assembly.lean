import GoproGateway.Isotp.Reception

/-! A message that finds memory is put together exactly.

The block is as large as the remaining length and the first buffer together. Where the first
call returns a single buffer this is the message, and every later chain is copied behind the
bytes that came before it.
-/

namespace GoproGateway

namespace IsotpState

variable {s : IsotpState} {block : HeapBuffer} {first : List UInt8} {rest : List (List UInt8)}
  {remLen : Nat}

/-- The thread has no block, and has received nothing that counts. -/
structure Unallocated (s : IsotpState) : Prop where
  receiving : s.rx = .receiving
  memPkt : s.memPkt = .zero

theorem Unallocated.data (unallocated : s.Unallocated) : s.memPkt.data = none := by
  rw [unallocated.memPkt]
  rfl

theorem free_unallocated (s : IsotpState) : s.free.1.Unallocated := by
  unfold free
  cases s.memPkt.data <;> exact ⟨rfl, rfl⟩

/-- The thread about to allocate. -/
def requesting (s : IsotpState) (first : List UInt8) (rest : List (List UInt8)) (remLen : Nat)
    : IsotpState :=
  { s with buf := .frags first rest, rx := .allocating remLen (first.length + remLen) }

/-- Without a block the thread requests one for the first buffer and what remains. -/
theorem step_requests (rest : List (List UInt8)) (unallocated : s.Unallocated)
    (small : first.length + remLen < 2 ^ 31)
    : s.step (.recvNet (.frags remLen first rest))
      = (s.requesting first rest remLen, [.dereferenced (.frags first rest)]) := by
  have size : (((remLen : Int) + first.length) % 2 ^ 32).toNat = first.length + remLen := by
    omega
  simp only [step, if_pos unallocated.receiving, recvNet, unallocated.data, RecvResult.remLen,
    RecvResult.bufLen, RecvResult.buf, size, requesting]

/-- A copy needs a block. -/
theorem stepCopies_requests (unallocated : s.Unallocated)
    : s.stepCopies (.recvNet (.frags remLen first rest)) = [] := by
  simp only [stepCopies, if_pos unallocated.receiving, turnCopies, unallocated.data]
  split <;> rfl

/-- The thread with the block for its message. -/
def granted (s : IsotpState) (block : HeapBuffer) (first : List UInt8) (rest : List (List UInt8))
    (remLen : Nat)
    : IsotpState :=
  (s.requesting first rest remLen).allocate block (first.length + remLen)

section Granted

variable (rest : List (List UInt8)) (available : s.heap block = none)
  (small : first.length + remLen < 2 ^ 31)

include available small

theorem grants : ¬ ((s.requesting first rest remLen).heap block ≠ none
    ∨ 2 ^ 31 ≤ first.length + remLen) := by
  rintro (used | large)
  · exact used available
  · omega

theorem step_granted
    : (s.requesting first rest remLen).step (.malloc (some block))
      = (((s.granted block first rest remLen).received remLen).1,
          .wrote block :: ((s.granted block first rest remLen).received remLen).2) :=
  if_neg (grants rest available small)

theorem stepCopies_granted
    : (s.requesting first rest remLen).stepCopies (.malloc (some block))
      = (s.granted block first rest remLen).turnCopies remLen :=
  if_neg (grants rest available small)

end Granted

/-- The granted block has room for the first buffer and what remains. -/
theorem Unallocated.granted (unallocated : s.Unallocated) (block : HeapBuffer)
    (rest : List (List UInt8)) (small : first.length + remLen < 2 ^ 31)
    : (s.granted block first rest remLen).Assembling block [] (first.length + remLen) := by
  constructor
  · simp [IsotpState.granted, requesting, allocate, unallocated.memPkt, RecvPkt.zero,
      intOfUint32_of_lt small]
  · simp [IsotpState.granted, requesting, allocate]

/-- A reception that ends with a packet to publish, and has released these buffers. -/
structure Completes (s : IsotpState) (inputs : List IsotpInput) (released : List (List UInt8))
    : Prop where
  rx : (isotpMachine.run s inputs).1.rx = .publishing
  quiet : (isotpMachine.run s inputs).2.filterMap publishedBytes = []
  released : (isotpCopies.run s inputs).2.map FragCopy.frag = released

/-- What was released before is released. -/
theorem Completes.after (before : List IsotpInput) {inputs : List IsotpInput}
    {released : List (List UInt8)}
    (quiet : (isotpMachine.run s before).2.filterMap publishedBytes = [])
    (completes : (isotpMachine.run s before).1.Completes inputs released)
    : s.Completes (before ++ inputs)
        ((isotpCopies.run s before).2.map FragCopy.frag ++ released) := by
  constructor
  · rw [InputMachine.run_append]
    exact completes.rx
  · rw [InputMachine.run_append, List.filterMap_append, quiet, completes.quiet]
    rfl
  · rw [InputMachine.run_append, isotpCopies_state s before, List.map_append, completes.released]

end IsotpState

-----------------------------------------------------------------------------------------
-- A message with memory
-----------------------------------------------------------------------------------------

section Message

open IsotpState

variable {s : IsotpState} {block : HeapBuffer} {first later : List UInt8}
  (rest : List (List UInt8)) (unallocated : s.Unallocated)
  (available : s.heap block = none) (small : first.length + later.length < 2 ^ 31)

include unallocated available small

/-- The thread behind the first chain of its message. -/
theorem run_granted
    : isotpMachine.run s
          [.recvNet (.frags later.length first rest), .malloc (some block)]
        = (((s.granted block first rest later.length).received later.length).1,
            .dereferenced (.frags first rest) :: .wrote block
              :: ((s.granted block first rest later.length).received later.length).2)
      ∧ (isotpCopies.run s
          [.recvNet (.frags later.length first rest), .malloc (some block)]).2
        = (s.granted block first rest later.length).turnCopies later.length := by
  have requests := step_requests rest unallocated small
  have nothing : s.stepCopies (.recvNet (.frags later.length first rest)) = [] :=
    stepCopies_requests unallocated
  have grants := step_granted rest available small
  have copies := stepCopies_granted rest available small
  constructor
  · simp only [InputMachine.run_cons, InputMachine.run_nil, isotpMachine, requests, grants,
      List.append_nil]
    rfl
  · simp only [InputMachine.run_cons, InputMachine.run_nil, isotpCopies, requests, nothing,
      copies, List.nil_append, List.append_nil]

/-- From the chain with the block on, all buffers are released. -/
theorem reception_completes {results : List RecvResult} (delivers : Delivers later results)
    : s.Completes (receptionInputs (.frags later.length first rest :: results) [some block])
        (first :: rest ++ results.flatMap RecvResult.fragments) := by
  obtain ⟨run, copies⟩ := run_granted rest unallocated available small
  have filling := (unallocated.granted block rest small).filling
  obtain ⟨filled, rx, quiet, released⟩ := filling.received rfl later.length
  obtain ⟨-, finalRx, laterQuiet, laterReleased⟩ := delivers.fills filled rx
  rw [← released, ← copies]
  refine Completes.after [_, _] ?_ ?_
  · rw [run, List.filterMap_cons_none rfl, List.filterMap_cons_none rfl, quiet]
  · rw [run]
    exact ⟨finalRx, laterQuiet, laterReleased⟩

end Message

/-- A message that the first call begins with a single buffer is in the block in the end. -/
theorem reception_assembles {s : IsotpState} (unallocated : s.Unallocated) {block : HeapBuffer}
    (available : s.heap block = none) {first later : List UInt8} {results : List RecvResult}
    (delivers : Delivers later results) (small : first.length + later.length < 2 ^ 31)
    {inputs : List IsotpInput}
    (received : inputs
      = receptionInputs (.frags later.length first [] :: results) [some block])
    : (isotpMachine.run s inputs).1.Assembling block (first ++ later) 0
      ∧ ∀ copy ∈ (isotpCopies.run s inputs).2, copy.Within (first.length + later.length) := by
  obtain ⟨run, copies⟩ := run_granted [] unallocated available small
  have single : [first].flatten = first := by simp
  have granted := unallocated.granted block [] small
  have opened : (s.granted block first [] later.length).Assembling block []
      ([first].flatten.length + later.length) := by
    rw [single]
    exact granted
  obtain ⟨assembling, within⟩ := opened.received rfl
  obtain ⟨-, rx, -, -⟩ := granted.filling.received rfl later.length
  rw [single, List.nil_append] at assembling
  rw [single, List.length_nil, Nat.zero_add] at within
  obtain ⟨final, laterWithin⟩ := delivers.assembles assembling rx
  have split : inputs
      = [.recvNet (.frags later.length first []), .malloc (some block)]
        ++ results.map .recvNet := received
  rw [split, InputMachine.run_append, InputMachine.run_append, isotpCopies_state s [_, _], run,
    copies]
  exact ⟨final, List.forall_mem_append.mpr ⟨within, laterWithin⟩⟩

/-- The step that publishes an assembled message. -/
theorem IsotpState.Assembling.publishes {s : IsotpState} {block : HeapBuffer}
    {message : List UInt8} (assembling : s.Assembling block message 0)
    (publishing : s.rx = .publishing)
    : (isotpMachine.run s [.publish true]).2
      = [.published ⟨message.length, message.length, some block⟩ message] := by
  have bytes : s.memPkt.bytes s.heap = message := by
    rw [RecvPkt.bytes, assembling.memPkt, Option.bind_some, assembling.heap]
    simp
  have step : s.step (.publish true) = s.publish true := by
    simp only [IsotpState.step, if_pos publishing]
  simp only [InputMachine.run_cons, InputMachine.run_nil, isotpMachine, step, publish, if_true]
  rw [bytes, assembling.memPkt]
  rfl

/-- When the first call returns a single buffer and the allocation behind it succeeds, all copies
stay inside a block of the message's size, every buffer is released once, in order, and the
packet published holds exactly the message. Witness: the block holds the bytes received so far
and has room for the remaining length.
-/
theorem isotpRxThread_assembles (s : IsotpState) (freeing : s.rx = .freeing)
    (message first later : List UInt8) (split : message = first ++ later)
    (results : List RecvResult) (delivers : Delivers later results) (block : HeapBuffer)
    (available : s.free.1.heap block = none) (small : message.length < 2 ^ 31)
    (inputs : List IsotpInput)
    (received : inputs
      = receptionInputs (.frags later.length first [] :: results) [some block])
    : (∀ copy ∈ (isotpCopies.run s (.free :: (inputs ++ [.publish true]))).2,
        copy.room = message.length ∧ copy.index + copy.frag.length ≤ message.length)
      ∧ (isotpCopies.run s (.free :: (inputs ++ [.publish true]))).2.map FragCopy.frag
        = first :: results.flatMap RecvResult.fragments
      ∧ (isotpMachine.run s (.free :: (inputs ++ [.publish true]))).2.filterMap publishedBytes
        = [(⟨message.length, message.length, some block⟩, message)] := by
  subst split
  rw [List.length_append] at small
  have completes := reception_completes [] s.free_unallocated available small delivers
  rw [← received] at completes
  obtain ⟨assembled, within⟩ :=
    reception_assembles s.free_unallocated available delivers small received
  rw [message_copies inputs [.publish true] freeing (by simp [IsotpState.stepCopies]),
    message_published inputs [.publish true] freeing, completes.quiet,
    assembled.publishes completes.rx]
  refine ⟨?_, completes.released, rfl⟩
  rw [List.length_append]
  exact within

/-- Witness: two bytes come with the first call, and a third one later. -/
theorem isotpRxThread_assembles_three
    : let inputs : List IsotpInput :=
        [.free, .recvNet (.frags 1 [10, 11] []), .malloc (some 0), .recvNet (.frags 0 [12] []),
          .publish true]
      (isotpCopies.run { IsotpState.boot with rx := .freeing } inputs).2.map FragCopy.frag
          = [[10, 11], [12]]
        ∧ (isotpMachine.run { IsotpState.boot with rx := .freeing } inputs).2.filterMap
          publishedBytes = [(⟨3, 3, some 0⟩, [10, 11, 12])] :=
  (isotpRxThread_assembles { IsotpState.boot with rx := .freeing } rfl [10, 11, 12] [10, 11] [12]
    rfl [.frags 0 [12] []] (@Delivers.chain [12] [] [] [] (by decide) .done) 0 rfl
    (by decide) _ rfl).2

end GoproGateway
