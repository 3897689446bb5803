import GoproGateway.Isotp.Failures

/-! The reception of one ISO-TP message, call by call.

The library returns a message in chains of buffers, each with the length that then remains. The
allocation is tried again on every chain until it succeeds, and the inner loop over a chain is
the only place where buffers are released.
-/

namespace GoproGateway

/-- A turn of the `while` loop: a buffer is copied to an index of a block of `room` bytes, and
released.
-/
structure FragCopy where
  room : Nat
  index : Nat
  frag : List UInt8
  deriving DecidableEq, Repr

/-- The turns of the loop over a chain. -/
def fragCopies (room index : Nat) : List (List UInt8) → List FragCopy
  | [] => []
  | frag :: rest => ⟨room, index, frag⟩ :: fragCopies room (index + frag.length) rest

namespace IsotpState

/-- The turns in one turn of the receive loop, which ends early on an error. -/
def turnCopies (s : IsotpState) (remLen : Int) : List FragCopy :=
  if remLen < 0 then []
  else
    match s.memPkt.data, s.buf with
    | some block, .frags first rest =>
        fragCopies ((s.heap block).getD []).length s.memPkt.index (first :: rest)
    | _, _ => []

/-- A block for the message. -/
def allocate (s : IsotpState) (block : HeapBuffer) (size : Nat) : IsotpState :=
  {
    s with
    heap := Function.update s.heap block (some (List.replicate size 0))
    memPkt := { s.memPkt with data := some block, len := intOfUint32 size }
  }

/-- The copies that a step makes. -/
def stepCopies (s : IsotpState) : IsotpInput → List FragCopy
  | .recvNet result =>
      if s.rx = .receiving then
        { s with buf := result.buf s.buf : IsotpState }.turnCopies result.remLen
      else []
  | .malloc (some block) =>
      match s.rx with
      | .allocating remLen size =>
          if s.heap block ≠ none ∨ 2 ^ 31 ≤ size then []
          else (s.allocate block size).turnCopies remLen
      | _ => []
  | _ => []

end IsotpState

/-- The receive path with the copies that it makes. -/
def isotpCopies : InputMachine IsotpState IsotpInput FragCopy where
  step s input := ((s.step input).1, s.stepCopies input)

/-- The messages on the channel, with their bytes. -/
def publishedBytes : IsotpEvent → Option (RecvPkt × List UInt8)
  | .published pkt bytes => some (pkt, bytes)
  | _ => none

/-- The buffers that a call returns. -/
def RecvResult.fragments : RecvResult → List (List UInt8)
  | frags _ first rest => first :: rest
  | error _ _ => []

/-- Calls of `isotp_recv_net` that return bytes of a message chain by chain, each with the
length that then remains, until nothing does.
-/
inductive Delivers : List UInt8 → List RecvResult → Prop
  | done : Delivers [] []
  | chain {first : List UInt8} {rest : List (List UInt8)} {later : List UInt8}
      {results : List RecvResult} (more : (first :: rest).flatten ++ later ≠ [])
      (delivers : Delivers later results)
      : Delivers ((first :: rest).flatten ++ later) (.frags later.length first rest :: results)

/-- What the receive thread does for these results: until it has a block it calls `k_malloc`
behind every one of them. An outcome that is not listed is `NULL`.
-/
def receptionInputs : List RecvResult → List (Option HeapBuffer) → List IsotpInput
  | [], _ => []
  | result :: results, some block :: _ =>
      .recvNet result :: .malloc (some block) :: results.map .recvNet
  | result :: results, none :: outcomes =>
      .recvNet result :: .malloc none :: receptionInputs results outcomes
  | result :: results, [] => .recvNet result :: .malloc none :: receptionInputs results []

-----------------------------------------------------------------------------------------
-- The loop over a chain
-----------------------------------------------------------------------------------------

/-- The loop makes these copies one after the other. -/
theorem copyFrags_eq (pkt : RecvPkt) (room : Nat) (block : List UInt8)
    (frags : List (List UInt8))
    : pkt.copyFrags block frags
      = ({ pkt with index := pkt.index + frags.flatten.length },
          (fragCopies room pkt.index frags).foldl
            (fun block copy => ByteBuffer.write block copy.index copy.frag) block) := by
  induction frags generalizing pkt block with
  | nil => rfl
  | cons frag rest ih =>
      rw [RecvPkt.copyFrags, ih]
      simp only [fragCopies, List.foldl_cons, List.flatten_cons, List.length_append,
        Nat.add_assoc]

/-- Every buffer of the chain is released once, in order. -/
@[simp] theorem fragCopies_frags (room index : Nat) (frags : List (List UInt8))
    : (fragCopies room index frags).map FragCopy.frag = frags := by
  induction frags generalizing index with
  | nil => rfl
  | cons frag rest ih => rw [fragCopies, List.map_cons, ih]

/-- A copy that stays inside a block of `room` bytes. -/
def FragCopy.Within (room : Nat) (copy : FragCopy) : Prop :=
  copy.room = room ∧ copy.index + copy.frag.length ≤ room

theorem fragCopies_within {room index : Nat} {frags : List (List UInt8)}
    (fits : index + frags.flatten.length ≤ room)
    : ∀ copy ∈ fragCopies room index frags, copy.Within room := by
  induction frags generalizing index with
  | nil => simp [fragCopies]
  | cons frag rest ih =>
      rw [List.flatten_cons, List.length_append] at fits
      exact List.forall_mem_cons.mpr ⟨⟨rfl, by simp only; omega⟩, ih (by omega)⟩

/-- In a cleared block the copies put the chain behind what is there. -/
theorem fragCopies_fold (room left : Nat) (done : List UInt8) (frags : List (List UInt8))
    : (fragCopies room done.length frags).foldl
        (fun block copy => ByteBuffer.write block copy.index copy.frag)
        (done ++ List.replicate (frags.flatten.length + left) 0)
      = done ++ frags.flatten ++ List.replicate left 0 := by
  induction frags generalizing done with
  | nil => simp [fragCopies]
  | cons frag rest ih =>
      have room : frag.length
          ≤ (List.replicate ((frag :: rest).flatten.length + left) (0 : UInt8)).length := by
        simp only [List.flatten_cons, List.length_append, List.length_replicate]
        omega
      have cleared : (List.replicate ((frag :: rest).flatten.length + left) (0 : UInt8)).drop
          frag.length = List.replicate (rest.flatten.length + left) 0 := by
        rw [List.drop_replicate]
        congr 1
        simp only [List.flatten_cons, List.length_append]
        omega
      rw [fragCopies, List.foldl_cons, ByteBuffer.write_append, ByteBuffer.write_front room,
        cleared, ← List.append_assoc, ← List.length_append, ih, List.flatten_cons,
        ← List.append_assoc]

-----------------------------------------------------------------------------------------
-- One turn of the receive loop
-----------------------------------------------------------------------------------------

namespace IsotpState

variable {s : IsotpState} {block : HeapBuffer} {first : List UInt8} {rest : List (List UInt8)}

/-- With a block, a chain is copied to it. -/
theorem copy_chain (data : s.memPkt.data = some block) (buf : s.buf = .frags first rest)
    : s.copy
      = ({
          s with
          memPkt := (s.memPkt.copyFrags ((s.heap block).getD []) (first :: rest)).1
          buf := .null
          heap := Function.update s.heap block
            (some (s.memPkt.copyFrags ((s.heap block).getD []) (first :: rest)).2)
        }, [.dereferenced s.buf, .wrote block]) := by
  simp only [copy, data, buf]

theorem copy_unallocated (data : s.memPkt.data = none) : s.copy = (s, []) := by
  simp only [copy, data]

/-- After a turn without an error the thread waits for the next chain, or has a message to
publish; it has published nothing.
-/
theorem received_rx (len : 0 ≤ s.memPkt.len) (remLen : Nat)
    : (s.received remLen).1.rx = (if remLen = 0 then .publishing else .receiving)
      ∧ (s.received remLen).2.filterMap publishedBytes = []
      ∧ (s.received remLen).1.memPkt = s.copy.1.memPkt
      ∧ (s.received remLen).1.heap = s.copy.1.heap := by
  have kept : 0 ≤ s.copy.1.memPkt.len := by
    unfold copy
    split
    · exact (s.memPkt.copyFrags_keeps _ _).2 ▸ len
    · exact len
  have quiet : s.copy.2.filterMap publishedBytes = [] := by
    unfold copy
    split <;> rfl
  have received : ¬ (remLen : Int) < 0 := by omega
  by_cases last : remLen = 0
  · subst last
    have complete : ¬ s.copy.1.memPkt.len < 0 := by omega
    simp [IsotpState.received, complete, quiet, publishedBytes]
  · have more : (remLen : Int) ≠ 0 := by omega
    have step : s.received remLen = ({ s.copy.1 with rx := .receiving }, s.copy.2) := by
      simp only [IsotpState.received, if_neg received, if_pos more]
    rw [step, if_neg last]
    exact ⟨rfl, quiet, rfl, rfl⟩

/-- The thread has a block for the message, and a length that is none of an error. -/
structure Filling (s : IsotpState) (block : HeapBuffer) : Prop where
  data : s.memPkt.data = some block
  len : 0 ≤ s.memPkt.len

theorem turnCopies_eq (data : s.memPkt.data = some block) (buf : s.buf = .frags first rest)
    (remLen : Nat)
    : s.turnCopies remLen
      = fragCopies ((s.heap block).getD []).length s.memPkt.index (first :: rest) := by
  have received : ¬ (remLen : Int) < 0 := by omega
  simp only [turnCopies, if_neg received, data, buf]

/-- A turn with a block releases the chain, and keeps the block. -/
theorem Filling.received (filling : s.Filling block) (buf : s.buf = .frags first rest)
    (remLen : Nat)
    : (s.received remLen).1.Filling block
      ∧ (s.received remLen).1.rx = (if remLen = 0 then .publishing else .receiving)
      ∧ (s.received remLen).2.filterMap publishedBytes = []
      ∧ (s.turnCopies remLen).map FragCopy.frag = first :: rest := by
  obtain ⟨rx, quiet, memPkt, -⟩ := received_rx filling.len remLen
  obtain ⟨data, len⟩ := s.memPkt.copyFrags_keeps ((s.heap block).getD []) (first :: rest)
  rw [copy_chain filling.data buf] at memPkt
  refine ⟨⟨?_, ?_⟩, rx, quiet, ?_⟩
  · rw [memPkt]
    exact data.trans filling.data
  · rw [memPkt]
    exact len ▸ filling.len
  · rw [turnCopies_eq filling.data buf, fragCopies_frags]

/-- The first bytes of the message are in the block, which has room for exactly the others. -/
structure Assembling (s : IsotpState) (block : HeapBuffer) (done : List UInt8) (left : Nat)
    : Prop where
  memPkt : s.memPkt = ⟨done.length, (done.length + left : Nat), some block⟩
  heap : s.heap block = some (done ++ List.replicate left 0)

theorem Assembling.filling {done : List UInt8} {left : Nat}
    (assembling : s.Assembling block done left)
    : s.Filling block := by
  constructor
  · rw [assembling.memPkt]
  · rw [assembling.memPkt]
    exact Int.natCast_nonneg _

/-- A turn adds the chain to the bytes in the block, and copies within it. -/
theorem Assembling.received {done : List UInt8} {left : Nat}
    (assembling : s.Assembling block done ((first :: rest).flatten.length + left))
    (buf : s.buf = .frags first rest)
    : (s.received left).1.Assembling block (done ++ (first :: rest).flatten) left
      ∧ ∀ copy ∈ s.turnCopies left,
        copy.Within (done.length + ((first :: rest).flatten.length + left)) := by
  have filling := assembling.filling
  obtain ⟨-, -, memPkt, heap⟩ := received_rx filling.len left
  have held : (s.heap block).getD []
      = done ++ List.replicate ((first :: rest).flatten.length + left) 0 := by
    rw [assembling.heap, Option.getD_some]
  have size : ((s.heap block).getD []).length
      = done.length + ((first :: rest).flatten.length + left) := by
    rw [held, List.length_append, List.length_replicate]
  rw [copy_chain filling.data buf, held,
    copyFrags_eq _ (done.length + ((first :: rest).flatten.length + left))] at memPkt heap
  have index : s.memPkt.index = done.length := by rw [assembling.memPkt]
  refine ⟨⟨?_, ?_⟩, ?_⟩
  · rw [memPkt, assembling.memPkt, List.length_append]
    simp only [RecvPkt.mk.injEq, and_true, true_and]
    omega
  · rw [heap, index, fragCopies_fold]
    exact Function.update_self ..
  · rw [turnCopies_eq filling.data buf, size, index]
    exact fragCopies_within (by omega)

end IsotpState

-----------------------------------------------------------------------------------------
-- The calls behind the allocation
-----------------------------------------------------------------------------------------

section Later

open IsotpState

variable {later : List UInt8} {results : List RecvResult} {s : IsotpState}
  {block : HeapBuffer}

/-- Where the thread is when so many bytes remain. -/
def rxAfter (remLen : Nat) : RxPhase := if remLen = 0 then .publishing else .receiving

theorem step_recvNet (receiving : s.rx = .receiving) (filling : s.Filling block)
    (remLen : Nat) (first : List UInt8) (rest : List (List UInt8))
    : s.step (.recvNet (.frags remLen first rest))
      = { s with buf := .frags first rest : IsotpState }.received remLen := by
  simp only [step, if_pos receiving, recvNet, filling.data]
  rfl

theorem stepCopies_recvNet (receiving : s.rx = .receiving) (remLen : Nat)
    (first : List UInt8) (rest : List (List UInt8))
    : s.stepCopies (.recvNet (.frags remLen first rest))
      = { s with buf := .frags first rest : IsotpState }.turnCopies remLen := by
  simp only [stepCopies, if_pos receiving]
  rfl

/-- What is delivered behind the allocation is all released, and the thread ends with a packet
to publish, by induction on the calls.
-/
theorem Delivers.fills (delivers : Delivers later results) (filling : s.Filling block)
    (rx : s.rx = rxAfter later.length)
    : (isotpMachine.run s (results.map .recvNet)).1.Filling block
      ∧ (isotpMachine.run s (results.map .recvNet)).1.rx = .publishing
      ∧ (isotpMachine.run s (results.map .recvNet)).2.filterMap publishedBytes = []
      ∧ (isotpCopies.run s (results.map .recvNet)).2.map FragCopy.frag
        = results.flatMap RecvResult.fragments := by
  induction delivers generalizing s with
  | done => exact ⟨filling, rx, rfl, rfl⟩
  | @chain first rest later results more delivers ih =>
      have receiving : s.rx = .receiving := by
        rw [rx, rxAfter, if_neg (mt List.length_eq_zero_iff.mp more)]
      have filled : { s with buf := .frags first rest : IsotpState }.Filling block :=
        ⟨filling.data, filling.len⟩
      obtain ⟨next, nextRx, quiet, released⟩ := filled.received rfl later.length
      rw [← step_recvNet receiving filling] at next nextRx quiet
      rw [← stepCopies_recvNet receiving] at released
      obtain ⟨final, finalRx, laterQuiet, laterReleased⟩ := ih next nextRx
      refine ⟨final, finalRx, ?_, ?_⟩
      · rw [List.map_cons, InputMachine.run_cons, List.filterMap_append]
        simp only [isotpMachine] at laterQuiet ⊢
        rw [quiet, laterQuiet]
        rfl
      · rw [List.map_cons, InputMachine.run_cons, List.map_append, List.flatMap_cons]
        simp only [isotpCopies] at laterReleased ⊢
        rw [released, laterReleased]
        rfl

/-- In a block of the right size the message is put together, by induction on the calls. -/
theorem Delivers.assembles (delivers : Delivers later results) {done : List UInt8}
    (assembling : s.Assembling block done later.length) (rx : s.rx = rxAfter later.length)
    : (isotpMachine.run s (results.map .recvNet)).1.Assembling block (done ++ later) 0
      ∧ ∀ copy ∈ (isotpCopies.run s (results.map .recvNet)).2,
        copy.Within (done.length + later.length) := by
  induction delivers generalizing s done with
  | done =>
      rw [List.append_nil]
      exact ⟨assembling, by simp⟩
  | @chain first rest later results more delivers ih =>
      have receiving : s.rx = .receiving := by
        rw [rx, rxAfter, if_neg (mt List.length_eq_zero_iff.mp more)]
      rw [List.length_append] at assembling ⊢
      have filling := assembling.filling
      let chained : IsotpState := { s with buf := .frags first rest }
      have filled : chained.Filling block := ⟨filling.data, filling.len⟩
      have front : chained.Assembling block done
          ((first :: rest).flatten.length + later.length) :=
        ⟨assembling.memPkt, assembling.heap⟩
      obtain ⟨-, nextRx, -, -⟩ := filled.received rfl later.length
      obtain ⟨next, within⟩ := front.received rfl
      rw [← step_recvNet receiving filling] at next nextRx
      rw [← stepCopies_recvNet receiving] at within
      obtain ⟨final, laterWithin⟩ := ih next nextRx
      rw [List.append_assoc] at final
      refine ⟨final, ?_⟩
      rw [List.map_cons, InputMachine.run_cons]
      refine List.forall_mem_append.mpr ⟨within, ?_⟩
      rw [List.length_append, Nat.add_assoc] at laterWithin
      exact laterWithin

end Later

-----------------------------------------------------------------------------------------
-- From the last block to the end of a message
-----------------------------------------------------------------------------------------

section Message

variable (s : IsotpState) (inputs closing : List IsotpInput)

theorem isotpCopies_state : (isotpCopies.run s inputs).1 = (isotpMachine.run s inputs).1 := by
  induction inputs generalizing s with
  | nil => rfl
  | cons input rest ih => exact ih (s.step input).1

variable {s} (freeing : s.rx = .freeing)

include freeing

theorem step_free : s.step .free = s.free := by
  simp only [IsotpState.step, if_pos freeing]

/-- What is published of a message, and behind it. -/
theorem message_published
    : (isotpMachine.run s (.free :: (inputs ++ closing))).2.filterMap publishedBytes
      = (isotpMachine.run s.free.1 inputs).2.filterMap publishedBytes
        ++ (isotpMachine.run (isotpMachine.run s.free.1 inputs).1 closing).2.filterMap
          publishedBytes := by
  have unpublished : s.free.2.filterMap publishedBytes = [] := by
    unfold IsotpState.free
    split <;> rfl
  have step : isotpMachine.step s .free = s.free := step_free freeing
  rw [InputMachine.run_cons, step, InputMachine.run_append, List.filterMap_append, unpublished,
    List.nil_append, List.filterMap_append]

/-- Steps that copy nothing do not matter for the copies. -/
theorem message_copies (quiet : ∀ input ∈ closing, ∀ s : IsotpState, s.stepCopies input = [])
    : (isotpCopies.run s (.free :: (inputs ++ closing))).2
      = (isotpCopies.run s.free.1 inputs).2 := by
  have step : isotpCopies.step s .free = (s.free.1, []) := by
    rw [← step_free freeing]
    rfl
  have ends (s : IsotpState) : (isotpCopies.run s closing).2 = [] := by
    induction closing generalizing s with
    | nil => rfl
    | cons input rest ih =>
        rw [InputMachine.run_cons, ih fun other member => quiet other (by simp [member])]
        exact (List.append_nil _).trans (quiet input (by simp) s)
  rw [InputMachine.run_cons, step, InputMachine.run_append, ends, List.append_nil]
  rfl

end Message

end GoproGateway
