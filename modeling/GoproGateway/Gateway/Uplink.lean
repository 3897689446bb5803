import GoproGateway.Packet.Concatenation
import GoproGateway.Packet.SharedBuffer
import GoproGateway.Reply.Deliveries

/-! From the camera's notifications to the CAN bus.

The Bluetooth receive thread reassembles notifications, and `gopro_packet_parse` begins with a
call of `can_reply` for the message. Other threads call `can_reply` as well, such as the one
that answers a request for the camera's name. The receive thread takes its next notification
after its call has returned.
-/

namespace GoproGateway

open Reassembly

/-- The thread of the notification callback. -/
def btRxThread : Thread := 0

structure UplinkState where
  client : NotifyClient
  packet : GoproPacket
  contents : ReplyContents

inductive UplinkInput where
  | notify (call : NotifyCall)
  /-- An input of the reply path. -/
  | reply (input : ContentsInput)

inductive UplinkEvent where
  | packet (event : PacketEvent)
  | reply (event : ContentsEvent)

/-- What `gopro_packet_parse` calls `can_reply` with: the `uint8_t` type and the message. -/
def GoproPacket.reply (packet : GoproPacket) : Reply where
  bleAddr := (packet.packetType % 256 : Nat)
  data := ByteBuffer.read ((packet.data.map Block.bytes).getD []) 0 packet.totalLen
  inRange := by unfold IsInt32; omega

/-- The reply path over whole input sequences. -/
def contentsMachine (encoder : PbEncoder)
    : InputMachine ReplyContents ContentsInput ContentsEvent where
  step := ReplyContents.step encoder

namespace UplinkState

def boot (client : NotifyClient) : UplinkState := ⟨client, .zero, .boot⟩

/-- The call of `can_reply` for each packet that is parsed. -/
def replyCalls (events : List PacketEvent) : List ContentsInput :=
  (parsedPackets events).map fun packet => .canReply btRxThread packet.reply

def notify (encoder : PbEncoder) (s : UplinkState) (call : NotifyCall)
    : UplinkState × List UplinkEvent :=
  let received := notifyReceiver.step (s.client, s.packet) call
  let replied := (contentsMachine encoder).run s.contents (replyCalls received.2)
  (⟨received.1.1, received.1.2, replied.1⟩,
    received.2.map .packet ++ replied.2.map .reply)

/-- An input of the reply path. The receive thread calls `can_reply` for its messages only. -/
def replyStep (encoder : PbEncoder) (s : UplinkState) (input : ContentsInput)
    : UplinkState × List UplinkEvent :=
  ({ s with contents := (s.contents.step encoder input).1 },
    (s.contents.step encoder input).2.map .reply)

def step (encoder : PbEncoder) (s : UplinkState) : UplinkInput → UplinkState × List UplinkEvent
  | .notify call =>
      if s.contents.path.calls btRxThread = .returned then s.notify encoder call else (s, [])
  | .reply (.canReply thread reply) =>
      if thread = btRxThread then (s, []) else s.replyStep encoder (.canReply thread reply)
  | .reply input => s.replyStep encoder input

end UplinkState

/-- The way from the camera to the CAN bus over whole input sequences. -/
def uplinkMachine (encoder : PbEncoder) : InputMachine UplinkState UplinkInput UplinkEvent where
  step := UplinkState.step encoder

def UplinkEvent.packet? : UplinkEvent → Option PacketEvent
  | .packet event => some event
  | .reply _ => none

def UplinkEvent.reply? : UplinkEvent → Option ContentsEvent
  | .packet _ => none
  | .reply event => some event

/-- The messages of the camera, in order. -/
def parsedReplies (events : List UplinkEvent) : List Reply :=
  (parsedPackets (events.filterMap UplinkEvent.packet?)).map GoproPacket.reply

def replyEvents (events : List UplinkEvent) : List ContentsEvent :=
  events.filterMap UplinkEvent.reply?

theorem replyEvents_append (before after : List UplinkEvent)
    : replyEvents (before ++ after) = replyEvents before ++ replyEvents after :=
  List.filterMap_append

theorem parsedReplies_append (before after : List UplinkEvent)
    : parsedReplies (before ++ after) = parsedReplies before ++ parsedReplies after := by
  simp [parsedReplies, parsedPackets]

theorem replyEvents_reply (events : List ContentsEvent)
    : replyEvents (events.map .reply) = events := by
  simp [replyEvents, UplinkEvent.reply?, List.filterMap_map, Function.comp_def]

theorem replyEvents_packet (events : List PacketEvent)
    : replyEvents (events.map .packet) = [] := by
  simp [replyEvents, UplinkEvent.reply?]

/-- The replies of parsed packets are the calls that `gopro_packet_parse` makes of `can_reply`.
-/
theorem parsedReplies_packet (events : List PacketEvent)
    : parsedReplies (events.map .packet) = (parsedPackets events).map GoproPacket.reply := by
  simp [parsedReplies, UplinkEvent.packet?, List.filterMap_map, Function.comp_def]

theorem parsedReplies_reply (events : List ContentsEvent)
    : parsedReplies (events.map .reply) = [] := by
  simp [parsedReplies, parsedPackets, UplinkEvent.packet?]

-----------------------------------------------------------------------------------------
-- Every run
-----------------------------------------------------------------------------------------

section Run

variable {encoder : PbEncoder} (writes : encoder.FollowsWireFormat) {nanopb : Nanopb}
  (reads : FollowsWireFormat nanopb)

include writes reads

/-- A run of the reply path sends what its calls were made with. -/
theorem ReplyContents.Conveyed.run {s : ReplyContents} {events : List ContentsEvent}
    (conveyed : s.Conveyed nanopb events) (inputs : List ContentsInput)
    : ((contentsMachine encoder).run s inputs).1.Conveyed nanopb
        (events ++ ((contentsMachine encoder).run s inputs).2) :=
  (contentsMachine encoder).run_history (Conveyed nanopb)
    (fun _ _ input conveyed => conveyed.step writes reads input) conveyed inputs

/-- One input of the whole way is some inputs of the reply path. -/
theorem UplinkState.step_conveyed {s : UplinkState} {events : List UplinkEvent}
    (conveyed : s.contents.Conveyed nanopb (replyEvents events)) (input : UplinkInput)
    : (s.step encoder input).1.contents.Conveyed nanopb
        (replyEvents (events ++ (s.step encoder input).2)) := by
  have replied (input : ContentsInput)
      : (s.replyStep encoder input).1.contents.Conveyed nanopb
          (replyEvents (events ++ (s.replyStep encoder input).2)) := by
    rw [UplinkState.replyStep, replyEvents_append, replyEvents_reply]
    exact conveyed.step writes reads input
  have refused : s.contents.Conveyed nanopb (replyEvents (events ++ [])) := by
    rw [List.append_nil]
    exact conveyed
  unfold UplinkState.step
  split
  · split
    · rw [UplinkState.notify, replyEvents_append, replyEvents_append, replyEvents_packet,
        replyEvents_reply, List.nil_append]
      exact conveyed.run writes reads _
    · exact refused
  · split
    · exact refused
    · exact replied _
  · exact replied _

/-- What is sent has been called, over a whole run. -/
theorem UplinkState.run_conveyed (client : NotifyClient) (inputs : List UplinkInput)
    : ((uplinkMachine encoder).run (.boot client) inputs).1.contents.Conveyed nanopb
        (replyEvents ((uplinkMachine encoder).run (.boot client) inputs).2) := by
  have start : (UplinkState.boot client).contents.Conveyed nanopb (replyEvents []) :=
    ReplyContents.boot_conveyed nanopb
  have final := (uplinkMachine encoder).run_history
    (fun s events => s.contents.Conveyed nanopb (replyEvents events))
    (fun _ _ input conveyed => UplinkState.step_conveyed writes reads conveyed input) start
    inputs
  rwa [List.nil_append] at final

end Run

/-- The receive thread calls `can_reply` with nothing but the messages of the camera. -/
theorem contentsMachine_called (encoder : PbEncoder) (s : ReplyContents)
    (packets : List GoproPacket)
    : (calledBy btRxThread ((contentsMachine encoder).run s
        (packets.map fun packet => .canReply btRxThread packet.reply)).2).Sublist
        (packets.map GoproPacket.reply) := by
  induction packets generalizing s with
  | nil => exact .slnil
  | cons packet packets ih =>
      rw [List.map_cons, InputMachine.run_cons, calledBy_append, List.map_cons,
        ← List.singleton_append]
      apply List.Sublist.append
      · simp only [contentsMachine, ReplyContents.step, ReplyContents.callCanReply]
        split
        · rw [ReplyContents.calledBy_called_self]
        · exact List.nil_sublist _
      · exact ih _

/-- Only a parsed packet has the receive thread call `can_reply`. -/
theorem replyStep_called {encoder : PbEncoder} {s : UplinkState} {input : ContentsInput}
    (other : ∀ reply, input ≠ .canReply btRxThread reply)
    : calledBy btRxThread (replyEvents (s.replyStep encoder input).2) = [] := by
  rw [UplinkState.replyStep, replyEvents_reply]
  cases input with
  | canReply thread reply =>
      have different : btRxThread ≠ thread := by
        rintro rfl
        exact other reply rfl
      simp only [ReplyContents.step, ReplyContents.callCanReply]
      split
      · exact ReplyContents.calledBy_called_other reply different
      · rfl
  | encode thread => rfl
  | path input => exact ReplyContents.calledBy_pathStep _ input

/-- The calls of the receive thread are among the parsed packets. A packet makes none while the
thread is still in an earlier call.
-/
theorem UplinkState.step_called (encoder : PbEncoder) (s : UplinkState) (input : UplinkInput)
    : (calledBy btRxThread (replyEvents (s.step encoder input).2)).Sublist
        (parsedReplies (s.step encoder input).2) := by
  have none {input : ContentsInput} (other : ∀ reply, input ≠ .canReply btRxThread reply)
      : (calledBy btRxThread (replyEvents (s.replyStep encoder input).2)).Sublist
        (parsedReplies (s.replyStep encoder input).2) := by
    rw [replyStep_called other]
    exact List.nil_sublist _
  unfold UplinkState.step
  split
  · split
    · rw [UplinkState.notify, replyEvents_append, replyEvents_packet, replyEvents_reply,
        List.nil_append, parsedReplies_append, parsedReplies_packet, parsedReplies_reply,
        List.append_nil]
      exact contentsMachine_called encoder s.contents _
    · exact List.nil_sublist _
  · split
    · exact List.nil_sublist _
    · rename_i different
      apply none
      rintro reply ⟨⟩
      exact different rfl
  · rename_i noCall
    apply none
    rintro reply rfl
    exact noCall btRxThread reply rfl

/-- Along a run, the receive thread calls `can_reply` with messages of the camera, in order. -/
theorem UplinkState.run_called (encoder : PbEncoder) (s : UplinkState)
    (inputs : List UplinkInput)
    : (calledBy btRxThread (replyEvents ((uplinkMachine encoder).run s inputs).2)).Sublist
        (parsedReplies ((uplinkMachine encoder).run s inputs).2) := by
  induction inputs generalizing s with
  | nil => exact .slnil
  | cons input inputs ih =>
      rw [InputMachine.run_cons, replyEvents_append, calledBy_append, parsedReplies_append]
      exact (UplinkState.step_called encoder s input).append (ih _)

/-- In every run, whatever the threads do and however often calls fail: from every buffer that is
passed to `isotp_send`, the task of the gateway decodes the address and the data of one call
of `can_reply`. A thread's calls come in their order and none twice, and those of the receive
thread are messages that the camera sent.
-/
theorem uplinkMachine_conveys (encoder : PbEncoder) (writes : encoder.FollowsWireFormat)
    (nanopb : Nanopb) (reads : FollowsWireFormat nanopb) (client : NotifyClient)
    (inputs : List UplinkInput)
    : let events := ((uplinkMachine encoder).run (.boot client) inputs).2
      ∃ sent : List (Thread × Reply),
        List.Forall₂ (Conveys nanopb) (sentBytes (replyEvents events)) sent
        ∧ (repliesOf btRxThread sent).Sublist (parsedReplies events)
        ∧ ∀ thread, (repliesOf thread sent).Sublist (calledBy thread (replyEvents events)) := by
  intro events
  obtain ⟨sent, conveys, inOrder⟩ :=
    (UplinkState.run_conveyed writes reads client inputs).inOrder
  exact ⟨sent, conveys, (inOrder btRxThread).trans (UplinkState.run_called _ _ inputs), inOrder⟩

/-- The name of the camera is asked for while a message is on its way: the call of the other
thread gets no semaphore.
-/
def messageAndName : List UplinkInput :=
  [
    .notify (notified 0 [0x01, 0x05]),
    .reply (.canReply 1 ⟨255, [0x47], by decide, by decide⟩),
    .reply (.path (.semTake btRxThread)),
    .reply (.path (.semTake 1)),
    .reply (.path (.malloc btRxThread (some 7))),
    .reply (.encode btRxThread),
    .reply (.path (.publish btRxThread true)),
    .reply (.path .waitMsg),
    .reply (.path (.isotpSend true))
  ]

theorem uplinkMachine_conveys_message
    : let events := ((uplinkMachine referencePbEncoder).run (.boot numberedClient)
        messageAndName).2
      sentBytes (replyEvents events) = [[0x12, 0x01, 0x05]]
      ∧ ∃ sent : List (Thread × Reply),
        List.Forall₂ (Conveys referenceNanopb) (sentBytes (replyEvents events)) sent
        ∧ (repliesOf btRxThread sent).Sublist (parsedReplies events)
        ∧ ∀ thread, (repliesOf thread sent).Sublist (calledBy thread (replyEvents events)) :=
  ⟨by decide, uplinkMachine_conveys referencePbEncoder referencePbEncoder_follows referenceNanopb
    referenceNanopb_follows numberedClient messageAndName⟩

end GoproGateway
