import Mathlib.Logic.Function.Basic
import GoproGateway.Library.InputMachine
import GoproGateway.Send.Fragmenter

/-! The reply path to the CAN bus: `can_reply` of `gopro_protobuf.c`, and `isotp_tx_thread` and
`isotpsend_callback` of `canbus_isotp.c`.

Threads run until their next call into the kernel or a library; one input is one such call
with its outcome, so runs are interleavings. An input that does not fit what its thread is
about to do leaves the state as it is.
-/

namespace GoproGateway

def einval : Int := 22
def enomem : Int := 12
def eio : Int := 5

abbrev Thread := Nat

/-- `struct mem_pkt_t`. -/
structure MemPkt where
  data : HeapBuffer
  len : Nat
  deriving DecidableEq, Repr

/-- How far a thread's call of `can_reply` is. -/
inductive CanReplyPhase where
  /-- No call is executing. -/
  | returned
  /-- Waiting for the semaphore. -/
  | entered
  | semTaken
  | allocated (buffer : HeapBuffer)
  | encoded (pkt : MemPkt)
  /-- About to free the buffer, give the semaphore, and return the code. -/
  | failed (buffer : HeapBuffer) (code : Int)
  /-- About to give the semaphore and return the code. -/
  | freed (code : Int)
  deriving DecidableEq, Repr

structure ReplyState where
  /-- The count of `can_reply_sem`, at most 1. -/
  canReplySem : Nat
  calls : Thread → CanReplyPhase
  /-- The messages of `can_tx_ble_subscriber`. -/
  queue : List MemPkt
  /-- The message that `isotp_tx_thread` has taken and not yet passed to `isotp_send`. -/
  txPkt : Option MemPkt
  /-- Transmissions on `send_ctx` whose callback was not called yet. -/
  inFlight : List MemPkt
  /-- Transmissions whose callback is between `k_free` and `k_sem_give`. -/
  completing : List MemPkt
  /-- Reply buffers that are allocated. -/
  live : List HeapBuffer

/-- After the static initialisation. -/
def ReplyState.boot : ReplyState where
  canReplySem := 1
  calls _ := .returned
  queue := []
  txPkt := none
  inFlight := []
  completing := []
  live := []

inductive ReplyInput where
  /-- A thread calls `can_reply` with `len` bytes. -/
  | canReply (thread : Thread) (len : Nat)
  /-- `k_sem_take` returns, with a timeout if the semaphore is not available. -/
  | semTake (thread : Thread)
  /-- `k_malloc` returns a buffer, or `NULL`. -/
  | malloc (thread : Thread) (buffer : Option HeapBuffer)
  /-- `pb_encode` returns, with the bytes written if it succeeds. -/
  | encode (thread : Thread) (bytesWritten : Option Nat)
  | publish (thread : Thread) (ok : Bool)
  | free (thread : Thread)
  | semGive (thread : Thread)
  /-- `zbus_sub_wait_msg` returns a message to `isotp_tx_thread`. -/
  | waitMsg
  | isotpSend (ok : Bool)
  /-- `isotpsend_callback` is called for a transmission, and frees its buffer. -/
  | isotpsendCallback (pkt : MemPkt)
  /-- A callback gives the semaphore. -/
  | callbackGive
  deriving DecidableEq, Repr

inductive ReplyEvent where
  /-- A call of `can_reply` returns `code`. -/
  | returned (thread : Thread) (code : Int)
  | freed (buffer : HeapBuffer)
  /-- A packet is passed to `isotp_send`. -/
  | sent (pkt : MemPkt)
  deriving DecidableEq, Repr

namespace ReplyState

def setCall (s : ReplyState) (thread : Thread) (phase : CanReplyPhase) : ReplyState :=
  { s with calls := Function.update s.calls thread phase }

/-- `k_sem_give(&can_reply_sem)`. -/
def semGive (s : ReplyState) : ReplyState :=
  { s with canReplySem := min (s.canReplySem + 1) 1 }

def semTake (s : ReplyState) (thread : Thread) : ReplyState × List ReplyEvent :=
  if 0 < s.canReplySem then
    ({ s with canReplySem := s.canReplySem - 1 }.setCall thread .semTaken, [])
  else (s.setCall thread .returned, [.returned thread (-einval)])

/-- Without memory, `can_reply` returns at once. -/
def malloc (s : ReplyState) (thread : Thread) (buffer : Option HeapBuffer)
    : ReplyState × List ReplyEvent :=
  match buffer with
  | some buffer =>
      -- The kernel does not hand out memory that is in use.
      if buffer ∈ s.live then (s, [])
      else ({ s with live := buffer :: s.live }.setCall thread (.allocated buffer), [])
  | none => (s.setCall thread .returned, [.returned thread (-enomem)])

def encode (s : ReplyState) (thread : Thread) (buffer : HeapBuffer)
    (bytesWritten : Option Nat)
    : ReplyState :=
  match bytesWritten with
  | some len => s.setCall thread (.encoded ⟨buffer, len⟩)
  | none => s.setCall thread (.failed buffer (-einval))

def publish (s : ReplyState) (thread : Thread) (pkt : MemPkt) (ok : Bool)
    : ReplyState × List ReplyEvent :=
  if ok then
    ({ s with queue := s.queue ++ [pkt] }.setCall thread .returned, [.returned thread 0])
  else (s.setCall thread (.failed pkt.data (-eio)), [])

/-- An error of `isotp_send` is only logged. -/
def isotpSend (s : ReplyState) (pkt : MemPkt) (ok : Bool) : ReplyState × List ReplyEvent :=
  if ok then ({ s with txPkt := none, inFlight := s.inFlight ++ [pkt] }, [.sent pkt])
  else ({ s with txPkt := none }, [.sent pkt])

/-- One input. -/
def step (s : ReplyState) : ReplyInput → ReplyState × List ReplyEvent
  | .canReply thread len =>
      match s.calls thread with
      | .returned =>
          if len > workBuffSize then (s, [.returned thread (-einval)])
          else (s.setCall thread .entered, [])
      | _ => (s, [])
  | .semTake thread =>
      match s.calls thread with
      | .entered => s.semTake thread
      | _ => (s, [])
  | .malloc thread buffer =>
      match s.calls thread with
      | .semTaken => s.malloc thread buffer
      | _ => (s, [])
  | .encode thread bytesWritten =>
      match s.calls thread with
      | .allocated buffer => (s.encode thread buffer bytesWritten, [])
      | _ => (s, [])
  | .publish thread ok =>
      match s.calls thread with
      | .encoded pkt => s.publish thread pkt ok
      | _ => (s, [])
  | .free thread =>
      match s.calls thread with
      | .failed buffer code =>
          ({ s with live := s.live.erase buffer }.setCall thread (.freed code),
            [.freed buffer])
      | _ => (s, [])
  | .semGive thread =>
      match s.calls thread with
      | .freed code => (s.semGive.setCall thread .returned, [.returned thread code])
      | _ => (s, [])
  | .waitMsg =>
      match s.txPkt, s.queue with
      | none, pkt :: rest => ({ s with queue := rest, txPkt := some pkt }, [])
      | _, _ => (s, [])
  | .isotpSend ok =>
      match s.txPkt with
      | some pkt => s.isotpSend pkt ok
      | none => (s, [])
  | .isotpsendCallback pkt =>
      if pkt ∈ s.inFlight then
        ({
          s with
          inFlight := s.inFlight.erase pkt
          completing := pkt :: s.completing
          live := s.live.erase pkt.data
        }, [.freed pkt.data])
      else (s, [])
  | .callbackGive =>
      match s.completing with
      | _ :: rest => ({ s with completing := rest }.semGive, [])
      | [] => (s, [])

end ReplyState

/-- The reply path over whole input sequences. -/
def replyMachine : InputMachine ReplyState ReplyInput ReplyEvent where
  step := ReplyState.step

end GoproGateway
