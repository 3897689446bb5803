import GoproGateway.Client.Declarations
import GoproGateway.Library.ByteBuffer
import GoproGateway.Library.InputMachine
import Mathlib.Algebra.Group.Int.Defs
import Mathlib.Algebra.Group.Nat.Defs
import Mathlib.Logic.Function.Basic

/-! The receive path from the CAN bus: `isotp_rx_thread` of `canbus_isotp.c`, and its subscriber
`can_rx_ble_subscriber_task` of `gopro_protobuf.c`.

Both threads run up to their next call into the kernel or the library; one input is one such
call with its outcome. An input that does not fit leaves the state as it is.
-/

namespace GoproGateway

/-- `struct mem_pkt_t` of the receive thread. -/
structure RecvPkt where
  index : Nat
  len : Int
  /-- `NULL`, or an allocated block. -/
  data : Option HeapBuffer
  deriving DecidableEq, Repr

def RecvPkt.zero : RecvPkt := ⟨0, 0, none⟩

/-- `buf` of the receive thread. -/
inductive NetBufPtr where
  | uninitialised
  | null
  /-- A chain of fragments that `isotp_recv_net` has returned. -/
  | frags (first : List UInt8) (rest : List (List UInt8))
  deriving DecidableEq, Repr

/-- The outcome of `isotp_recv_net`. -/
inductive RecvResult where
  /-- Returns the remaining length, and sets `*buffer`. -/
  | frags (remLen : Nat) (first : List UInt8) (rest : List (List UInt8))
  /-- Returns a negative number, and leaves `*buffer` alone; `wild` is what a pointer to no
  buffer gives for `buf->len`. -/
  | error (code : Nat) (wild : Nat)
  deriving DecidableEq, Repr

namespace RecvResult

/-- The returned number. -/
def remLen : RecvResult → Int
  | frags remLen _ _ => remLen
  | error code _ => -(code : Int) - 1

/-- `buf` after the call. -/
def buf (result : RecvResult) (before : NetBufPtr) : NetBufPtr :=
  match result with
  | frags _ first rest => .frags first rest
  | error _ _ => before

end RecvResult

/-- Where `isotp_rx_thread` is, once it has bound its address. -/
inductive RxPhase where
  /-- About to take the semaphore. -/
  | taking
  /-- About to free the block of the last message. -/
  | freeing
  /-- About to call `isotp_recv_net`. -/
  | receiving
  /-- About to allocate a block for the message, with the remaining length in hand. -/
  | allocating (remLen : Int) (size : Nat)
  | publishing
  /-- About to give the semaphore and to break out of the loop. -/
  | failing
  | exited
  deriving DecidableEq, Repr

/-- Where `can_rx_ble_subscriber_task` is. -/
inductive RxSubscriberPhase where
  | waiting
  | received (pkt : RecvPkt)
  /-- About to give the semaphore. -/
  | handled (pkt : RecvPkt)
  deriving DecidableEq, Repr

structure IsotpState where
  /-- The count of `can_isotp_rx_sem`, at most 1. -/
  canIsotpRxSem : Nat
  rx : RxPhase
  memPkt : RecvPkt
  buf : NetBufPtr
  /-- The messages of `can_rx_ble_subscriber`. -/
  queue : List RecvPkt
  subscriber : RxSubscriberPhase
  /-- The allocated blocks, with their bytes. -/
  heap : HeapBuffer → Option (List UInt8)

/-- After the successful bind. -/
def IsotpState.boot : IsotpState where
  canIsotpRxSem := 1
  rx := .taking
  memPkt := .zero
  buf := .uninitialised
  queue := []
  subscriber := .waiting
  heap _ := none

inductive IsotpInput where
  /-- `k_sem_take` returns: 0, or an error after 2 s without a permit. -/
  | semTake
  /-- The block of the last message is freed, if there is one. -/
  | free
  | recvNet (result : RecvResult)
  /-- `k_malloc` returns a block, or `NULL`. -/
  | malloc (block : Option HeapBuffer)
  | publish (room : Bool)
  /-- The receive thread gives the semaphore and breaks out of its loop. -/
  | giveAndBreak
  /-- `zbus_sub_wait_msg` returns a message to the subscriber. -/
  | waitMsg
  /-- The subscriber decodes its message and sends it on. -/
  | decode
  /-- The subscriber gives the semaphore. -/
  | subscriberGive
  deriving DecidableEq, Repr

inductive IsotpEvent where
  | freed (block : HeapBuffer)
  /-- The receive thread has written to a block. -/
  | wrote (block : HeapBuffer)
  /-- The receive thread has read through `buf`. -/
  | dereferenced (buf : NetBufPtr)
  /-- The last part of a message was received. -/
  | completed (pkt : RecvPkt)
  /-- A message is on the channel, with these bytes in its block. -/
  | published (pkt : RecvPkt) (bytes : List UInt8)
  /-- The subscriber has processed a message and these bytes. -/
  | processed (pkt : RecvPkt) (bytes : List UInt8)
  deriving DecidableEq, Repr

/-- A `uint32_t` stored to an `int`. -/
def intOfUint32 (value : Nat) : Int := (value : Int).bmod (2 ^ 32)

/-- `buf->len` after a call of `isotp_recv_net`. -/
def RecvResult.bufLen (result : RecvResult) (buf : NetBufPtr) : Nat :=
  match buf, result with
  | .frags first _, _ => first.length
  | _, error _ wild => wild
  | _, frags _ _ _ => 0

namespace RecvPkt

/-- The bytes of a packet's block. -/
def bytes (pkt : RecvPkt) (heap : HeapBuffer → Option (List UInt8)) : List UInt8 :=
  (pkt.data.bind heap).getD []

/-- The `while` loop over the fragments of a chain, which are copied to `block` one after the
other. What would land behind the block is dropped here.
-/
def copyFrags (pkt : RecvPkt) (block : List UInt8) : List (List UInt8) → RecvPkt × List UInt8
  | [] => (pkt, block)
  | frag :: rest =>
      copyFrags { pkt with index := pkt.index + frag.length }
        (ByteBuffer.write block pkt.index frag) rest

/-- The copying moves the index only. -/
theorem copyFrags_keeps (pkt : RecvPkt) (block : List UInt8) (frags : List (List UInt8))
    : (pkt.copyFrags block frags).1.data = pkt.data
      ∧ (pkt.copyFrags block frags).1.len = pkt.len := by
  induction frags generalizing pkt block with
  | nil => exact ⟨rfl, rfl⟩
  | cons frag rest ih => exact ih { pkt with index := pkt.index + frag.length } _

end RecvPkt

namespace IsotpState

/-- The copying of a received chain, if there is a block to copy it to. -/
def copy (s : IsotpState) : IsotpState × List IsotpEvent :=
  match s.memPkt.data, s.buf with
  | some block, .frags first rest =>
      let (memPkt, bytes) := s.memPkt.copyFrags ((s.heap block).getD []) (first :: rest)
      ({
        s with
        memPkt
        buf := .null
        heap := Function.update s.heap block (some bytes)
      }, [.dereferenced s.buf, .wrote block])
  | _, _ => (s, [])

/-- The body of the receive loop behind the allocation, and the end of the loop. -/
def received (s : IsotpState) (remLen : Int) : IsotpState × List IsotpEvent :=
  if remLen < 0 then ({ s with memPkt := { s.memPkt with len := -1 }, rx := .failing }, [])
  else
    let (s, events) := s.copy
    if remLen ≠ 0 then ({ s with rx := .receiving }, events)
    else if s.memPkt.len < 0 then ({ s with rx := .failing }, events)
    else ({ s with rx := .publishing }, events ++ [.completed s.memPkt])

/-- One turn of the receive loop up to the allocation, if it makes one. The size is computed from
`buf` also after an error.
-/
def recvNet (s : IsotpState) (result : RecvResult) : IsotpState × List IsotpEvent :=
  let s := { s with buf := result.buf s.buf }
  match s.memPkt.data with
  | none =>
      let size := ((result.remLen + result.bufLen s.buf) % 2 ^ 32).toNat
      ({ s with rx := .allocating result.remLen size }, [.dereferenced s.buf])
  | some _ => s.received result.remLen

/-- `k_malloc`; the heap does not hand out blocks that are in use, nor of 2 GiB. -/
def malloc (s : IsotpState) (remLen : Int) (size : Nat) (block : Option HeapBuffer)
    : IsotpState × List IsotpEvent :=
  match block with
  | none => s.received remLen
  | some block =>
      if s.heap block ≠ none ∨ 2 ^ 31 ≤ size then (s, [])
      else
        let (s, events) :=
          {
            s with
            heap := Function.update s.heap block (some (List.replicate size 0))
            memPkt := { s.memPkt with data := some block, len := intOfUint32 size }
            : IsotpState
          }.received remLen
        (s, .wrote block :: events)

def publish (s : IsotpState) (room : Bool) : IsotpState × List IsotpEvent :=
  if room then
    ({ s with queue := s.queue ++ [s.memPkt], rx := .taking },
      [.published s.memPkt (s.memPkt.bytes s.heap)])
  else ({ s with rx := .failing }, [])

/-- `k_free`, and the clearing of the packet. -/
def free (s : IsotpState) : IsotpState × List IsotpEvent :=
  let next := { s with memPkt := .zero, rx := .receiving }
  match s.memPkt.data with
  | some block => ({ next with heap := Function.update s.heap block none }, [.freed block])
  | none => (next, [])

/-- `k_sem_give(&can_isotp_rx_sem)`. -/
def semGive (s : IsotpState) : IsotpState :=
  { s with canIsotpRxSem := min (s.canIsotpRxSem + 1) 1 }

/-- One input. -/
def step (s : IsotpState) : IsotpInput → IsotpState × List IsotpEvent
  | .semTake =>
      if s.rx = .taking ∧ 0 < s.canIsotpRxSem then
        ({ s with canIsotpRxSem := s.canIsotpRxSem - 1, rx := .freeing }, [])
      else (s, [])
  | .free => if s.rx = .freeing then s.free else (s, [])
  | .recvNet result => if s.rx = .receiving then s.recvNet result else (s, [])
  | .malloc block =>
      match s.rx with
      | .allocating remLen size => s.malloc remLen size block
      | _ => (s, [])
  | .publish room => if s.rx = .publishing then s.publish room else (s, [])
  | .giveAndBreak =>
      if s.rx = .failing then ({ s with rx := .exited }.semGive, []) else (s, [])
  | .waitMsg =>
      match s.subscriber, s.queue with
      | .waiting, pkt :: rest => ({ s with queue := rest, subscriber := .received pkt }, [])
      | _, _ => (s, [])
  | .decode =>
      match s.subscriber with
      | .received pkt =>
          ({ s with subscriber := .handled pkt }, [.processed pkt (pkt.bytes s.heap)])
      | _ => (s, [])
  | .subscriberGive =>
      match s.subscriber with
      | .handled _ => ({ s with subscriber := .waiting }.semGive, [])
      | _ => (s, [])

end IsotpState

/-- The receive path over whole input sequences. -/
def isotpMachine : InputMachine IsotpState IsotpInput IsotpEvent where
  step := IsotpState.step

end GoproGateway
