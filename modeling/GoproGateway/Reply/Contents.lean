import GoproGateway.Reply.Exclusive
import GoproGateway.Reply.RoundTrip

/-! What the reply path carries.

Calls of `can_reply` come with an address and data, and what `pb_encode` writes stays in its
reply buffer until the callback of the transmission. So the bytes that are passed to
`isotp_send` can be compared with the arguments of the calls.
-/

namespace GoproGateway

/-- `ble_addr` and the data of a call of `can_reply`. -/
structure Reply where
  bleAddr : Int
  data : List UInt8
  inRange : IsInt32 bleAddr

/-- The reply path with the arguments of its calls and the contents of its buffers. -/
structure ReplyContents where
  path : ReplyState
  /-- The arguments of each thread's last call. -/
  args : Thread → Reply
  /-- What was last encoded into each buffer. -/
  memory : HeapBuffer → List UInt8

inductive ContentsInput where
  /-- A thread calls `can_reply`. -/
  | canReply (thread : Thread) (reply : Reply)
  /-- `pb_encode` returns. -/
  | encode (thread : Thread)
  /-- Any other input of the reply path. -/
  | path (input : ReplyInput)

inductive ContentsEvent where
  | called (thread : Thread) (reply : Reply)
  /-- Bytes are passed to `isotp_send`. -/
  | sent (bytes : List UInt8)

/-- The packets that are passed to `isotp_send`. -/
def ReplyState.sentPkts (events : List ReplyEvent) : List MemPkt :=
  events.filterMap fun
    | .sent pkt => some pkt
    | _ => none

namespace ReplyContents

def boot : ReplyContents where
  path := .boot
  args _ := ⟨0, [], by decide, by decide⟩
  memory _ := []

/-- The bytes of a packet. -/
def bytesOf (s : ReplyContents) (pkt : MemPkt) : List UInt8 := (s.memory pkt.data).take pkt.len

def callCanReply (s : ReplyContents) (thread : Thread) (reply : Reply)
    : ReplyContents × List ContentsEvent :=
  match s.path.calls thread with
  | .returned =>
      ({
        s with
        path := (s.path.step (.canReply thread reply.data.length)).1
        args := Function.update s.args thread reply
      }, [.called thread reply])
  | _ => (s, [])

def pbEncode (encoder : PbEncoder) (s : ReplyContents) (thread : Thread) : ReplyContents :=
  match s.path.calls thread with
  | .allocated buffer =>
      let written := canReplyEncoded encoder (s.args thread).bleAddr (s.args thread).data
      {
        s with
        path := (s.path.step (.encode thread (written.map List.length))).1
        memory := Function.update s.memory buffer (written.getD (s.memory buffer))
      }
  | _ => s

/-- Calls and encodings come with their data, not as inputs of the bare path. -/
def pathStep (s : ReplyContents) : ReplyInput → ReplyContents × List ContentsEvent
  | .canReply _ _ => (s, [])
  | .encode _ _ => (s, [])
  | input =>
      ({ s with path := (s.path.step input).1 },
        (ReplyState.sentPkts (s.path.step input).2).map fun pkt => .sent (s.bytesOf pkt))

/-- One input. -/
def step (encoder : PbEncoder) (s : ReplyContents)
    : ContentsInput → ReplyContents × List ContentsEvent
  | .canReply thread reply => s.callCanReply thread reply
  | .encode thread => (s.pbEncode encoder thread, [])
  | .path input => s.pathStep input

end ReplyContents

def ContentsEvent.called? (thread : Thread) : ContentsEvent → Option Reply
  | .called caller reply => if caller = thread then some reply else none
  | .sent _ => none

def ContentsEvent.sent? : ContentsEvent → Option (List UInt8)
  | .sent bytes => some bytes
  | .called _ _ => none

/-- What a thread called `can_reply` with, in order. -/
def calledBy (thread : Thread) (events : List ContentsEvent) : List Reply :=
  events.filterMap (ContentsEvent.called? thread)

/-- What was passed to `isotp_send`, in order. -/
def sentBytes (events : List ContentsEvent) : List (List UInt8) :=
  events.filterMap ContentsEvent.sent?

/-- The replies of a thread among those of all. -/
def repliesOf (thread : Thread) (replies : List (Thread × Reply)) : List Reply :=
  (replies.filter fun entry => entry.1 = thread).map Prod.snd

/-- Decoding by the task of the gateway gives the arguments of a call. -/
def Conveys (nanopb : Nanopb) (bytes : List UInt8) (entry : Thread × Reply) : Prop :=
  DecodesTo nanopb bytes entry.2.bleAddr entry.2.data

@[simp] theorem calledBy_append (thread : Thread) (before after : List ContentsEvent)
    : calledBy thread (before ++ after) = calledBy thread before ++ calledBy thread after :=
  List.filterMap_append

@[simp] theorem sentBytes_append (before after : List ContentsEvent)
    : sentBytes (before ++ after) = sentBytes before ++ sentBytes after :=
  List.filterMap_append

@[simp] theorem repliesOf_append (thread : Thread) (before after : List (Thread × Reply))
    : repliesOf thread (before ++ after) = repliesOf thread before ++ repliesOf thread after := by
  simp [repliesOf]

/-- An entry of the thread itself. -/
theorem repliesOf_self (thread : Thread) (reply : Reply)
    : repliesOf thread [(thread, reply)] = [reply] := by
  simp [repliesOf]

/-- Entries of other threads do not count. -/
theorem repliesOf_other {thread other : Thread} (reply : Reply) (different : other ≠ thread)
    : repliesOf thread [(other, reply)] = [] := by
  simp [repliesOf, different]

-----------------------------------------------------------------------------------------
-- What one input of the path does with the calls and the packets
-----------------------------------------------------------------------------------------

/-- A call that may still publish. -/
def CanReplyPhase.Awaits : CanReplyPhase → Prop
  | .entered | .semTaken | .allocated _ | .encoded _ => True
  | _ => False

instance (phase : CanReplyPhase) : Decidable phase.Awaits := by
  cases phase <;> unfold CanReplyPhase.Awaits <;> infer_instance

namespace ReplyState

/-- Packets that were published and not yet passed to `isotp_send`, the next one first. -/
def unsent (s : ReplyState) : List MemPkt := s.txPkt.toList ++ s.queue

/-- What an input other than a call and an encoding does with the calls and the packets. -/
inductive Moves (s : ReplyState) : ReplyState × List ReplyEvent → Prop
  | keeps {after : ReplyState} {events : List ReplyEvent} (calls : after.calls = s.calls)
      (unsent : after.unsent = s.unsent) (silent : sentPkts events = [])
      : Moves s (after, events)
  /-- A call proceeds, without an encoding, or is given up. -/
  | proceeds {after : ReplyState} {events : List ReplyEvent} {thread : Thread}
      {phase : CanReplyPhase} (calls : after.calls = Function.update s.calls thread phase)
      (awaits : phase.Awaits → (s.calls thread).Awaits) (blank : ∀ pkt, phase ≠ .encoded pkt)
      (unsent : after.unsent = s.unsent) (silent : sentPkts events = [])
      : Moves s (after, events)
  | publishes {after : ReplyState} {events : List ReplyEvent} {thread : Thread} {pkt : MemPkt}
      (encoded : s.calls thread = .encoded pkt)
      (calls : after.calls = Function.update s.calls thread .returned)
      (unsent : after.unsent = s.unsent ++ [pkt]) (silent : sentPkts events = [])
      : Moves s (after, events)
  | sends {after : ReplyState} {events : List ReplyEvent} {pkt : MemPkt}
      (calls : after.calls = s.calls) (unsent : s.unsent = pkt :: after.unsent)
      (sent : sentPkts events = [pkt])
      : Moves s (after, events)

variable {s : ReplyState}

/-- A thread gets the semaphore, or gives its call up. -/
theorem semTake_moves (thread : Thread) : s.Moves (s.step (.semTake thread)) := by
  simp only [step]
  split
  case h_1 phase =>
      unfold semTake
      split
      · exact .proceeds rfl (fun _ => by rw [phase]; trivial) (by simp) rfl rfl
      · exact .proceeds rfl False.elim (by simp) rfl rfl
  case h_2 => exact .keeps rfl rfl rfl

/-- A failed allocation gives the call up. -/
theorem malloc_moves (thread : Thread) (buffer : Option HeapBuffer)
    : s.Moves (s.step (.malloc thread buffer)) := by
  simp only [step]
  split
  case h_1 phase =>
      unfold malloc
      split
      · split
        · exact .keeps rfl rfl rfl
        · exact .proceeds rfl (fun _ => by rw [phase]; trivial) (by simp) rfl rfl
      · exact .proceeds rfl False.elim (by simp) rfl rfl
  case h_2 => exact .keeps rfl rfl rfl

/-- A published packet is behind all others; a failed publication loses it. -/
theorem publish_moves (thread : Thread) (ok : Bool)
    : s.Moves (s.step (.publish thread ok)) := by
  simp only [step]
  split
  case h_1 pkt encoded =>
      unfold publish
      split
      · refine .publishes encoded rfl ?_ rfl
        exact (List.append_assoc _ _ _).symm
      · exact .proceeds rfl False.elim (by simp) rfl rfl
  case h_2 => exact .keeps rfl rfl rfl

/-- A call that failed frees its buffer. -/
theorem free_moves (thread : Thread) : s.Moves (s.step (.free thread)) := by
  simp only [step]
  split
  · exact .proceeds rfl False.elim (by simp) rfl rfl
  · exact .keeps rfl rfl rfl

/-- A call that failed gives the semaphore and returns. -/
theorem semGive_moves (thread : Thread) : s.Moves (s.step (.semGive thread)) := by
  simp only [step]
  split
  · exact .proceeds rfl False.elim (by simp) rfl rfl
  · exact .keeps rfl rfl rfl

/-- A received packet stays the next one to be sent. -/
theorem waitMsg_moves : s.Moves (s.step .waitMsg) := by
  simp only [step]
  split
  case h_1 pkt rest tx queue =>
      exact .keeps rfl (by simp [unsent, tx, queue]) rfl
  case h_2 => exact .keeps rfl rfl rfl

/-- `isotp_send` is called with the packet that was received last, whether it accepts it or
not.
-/
theorem isotpSend_moves (ok : Bool) : s.Moves (s.step (.isotpSend ok)) := by
  simp only [step]
  split
  case h_1 pkt tx =>
      unfold isotpSend
      split
      · exact .sends rfl (by simp [unsent, tx]) rfl
      · exact .sends rfl (by simp [unsent, tx]) rfl
  case h_2 => exact .keeps rfl rfl rfl

/-- The callback frees a packet that has been sent. -/
theorem isotpsendCallback_moves (pkt : MemPkt) : s.Moves (s.step (.isotpsendCallback pkt)) := by
  simp only [step]
  split
  · exact .keeps rfl rfl rfl
  · exact .keeps rfl rfl rfl

/-- The callback gives the semaphore back and touches no packet. -/
theorem callbackGive_moves : s.Moves (s.step .callbackGive) := by
  simp only [step]
  split
  · exact .keeps rfl rfl rfl
  · exact .keeps rfl rfl rfl

/-- An input other than a call and an encoding makes one move. -/
theorem step_moves {input : ReplyInput} (noCall : ∀ thread len, input ≠ .canReply thread len)
    (noEncoding : ∀ thread written, input ≠ .encode thread written)
    : s.Moves (s.step input) := by
  cases input with
  | canReply thread len => exact absurd rfl (noCall thread len)
  | encode thread written => exact absurd rfl (noEncoding thread written)
  | semTake thread => exact semTake_moves thread
  | malloc thread buffer => exact malloc_moves thread buffer
  | publish thread ok => exact publish_moves thread ok
  | free thread => exact free_moves thread
  | semGive thread => exact semGive_moves thread
  | waitMsg => exact waitMsg_moves
  | isotpSend ok => exact isotpSend_moves ok
  | isotpsendCallback pkt => exact isotpsendCallback_moves pkt
  | callbackGive => exact callbackGive_moves

end ReplyState

end GoproGateway
