import GoproGateway.Gateway.Uplink

/-! Messages that come one at a time reach the CAN bus.

Whatever an earlier message left in the packet, the frames of a message parse it on the last
one. If its call of `can_reply` then goes through, the bus gets its encoding, and the path is
ready for the next message.
-/

namespace GoproGateway

open Reassembly

/-- What follows a call of `can_reply` that goes through: the rest of the call, the transmit
thread, and the callback.
-/
def transmission (thread : Thread) (buffer : HeapBuffer) (len : Nat) : List ContentsInput :=
  [
    .path (.semTake thread),
    .path (.malloc thread (some buffer)),
    .encode thread,
    .path (.publish thread true),
    .path .waitMsg,
    .path (.isotpSend true),
    .path (.isotpsendCallback ⟨buffer, len⟩),
    .path .callbackGive
  ]

/-- A message of the camera, the notifications that bring it, and the buffer its reply gets. -/
structure CameraMessage where
  framing : Framing Nat UInt8
  calls : List NotifyCall
  buffer : HeapBuffer

namespace CameraMessage

/-- What the bus gets. -/
def encoding (message : CameraMessage) : List UInt8 :=
  bledataEncoding message.framing.key message.framing.body

def inputs (message : CameraMessage) : List UplinkInput :=
  message.calls.map .notify
    ++ (transmission btRxThread message.buffer message.encoding.length).map .reply

/-- The message belongs to one of the four handles, its notifications are its frames, and a
reply buffer has room for its encoding.
-/
structure Arrives (message : CameraMessage) : Prop where
  known : message.framing.key < gpCntrlHandleEnd
  notify : List.Forall₂ Notifies
    (message.framing.frames.map fun frame => (message.framing.key, frame)) message.calls
  fits : message.encoding.length ≤ workBuffSize

end CameraMessage

/-- Nothing is on the reply path, and a thread may call `can_reply`. -/
structure ReplyState.Settled (s : ReplyState) (thread : Thread) : Prop where
  sem : s.canReplySem = 1
  idle : s.calls thread = .returned
  queue : s.queue = []
  txPkt : s.txPkt = none
  inFlight : s.inFlight = []
  completing : s.completing = []
  live : s.live = []

theorem ReplyState.boot_settled (thread : Thread) : ReplyState.boot.Settled thread :=
  ⟨rfl, rfl, rfl, rfl, rfl, rfl, rfl⟩

theorem data_length_le_bledataEncoding (bleAddr : Int) (data : List UInt8)
    : data.length ≤ (bledataEncoding bleAddr data).length := by
  have whole : (bledataEncoding bleAddr data).length
      = (WireFormat.encodeMessage (if bleAddr = 0 then [] else [int32Record 1 bleAddr])).length
        + (WireFormat.Record.encode ⟨2, .lengthDelimited data⟩).length := by
    simp [bledataEncoding, bledataRecords, WireFormat.encodeMessage]
  have last : data.length ≤ (WireFormat.Record.encode ⟨2, .lengthDelimited data⟩).length := by
    simp only [WireFormat.Record.encode, WireFormat.Value.encode, List.length_append]
    omega
  omega

-----------------------------------------------------------------------------------------
-- A call that goes through
-----------------------------------------------------------------------------------------

section Transmission

variable {encoder : PbEncoder} (writes : encoder.FollowsWireFormat)

include writes

/-- A call that goes through sends the encoding of its arguments, and leaves the path as it was.
-/
theorem transmission_sends {s : ReplyContents} {thread : Thread}
    (settled : s.path.Settled thread) (buffer : HeapBuffer) (reply : Reply)
    (fits : (bledataEncoding reply.bleAddr reply.data).length ≤ workBuffSize)
    : (contentsMachine encoder).run s (.canReply thread reply
        :: transmission thread buffer (bledataEncoding reply.bleAddr reply.data).length)
      = ({
          s with
          args := Function.update s.args thread reply
          memory := Function.update s.memory buffer (bledataEncoding reply.bleAddr reply.data)
        }, [.called thread reply, .sent (bledataEncoding reply.bleAddr reply.data)]) := by
  have short := Nat.le_trans (data_length_le_bledataEncoding reply.bleAddr reply.data) fits
  have encoded := canReplyEncoded_eq writes reply.inRange short
  rw [if_pos fits] at encoded
  obtain ⟨sem, idle, queue, tx, flight, completing, live⟩ := settled
  obtain ⟨⟨canReplySem, calls, queue, txPkt, inFlight, completing, live⟩, args, memory⟩ := s
  simp only at *
  subst sem queue tx flight completing live
  simp [transmission, contentsMachine, ReplyContents.step, ReplyContents.callCanReply,
    ReplyContents.pbEncode, ReplyContents.pathStep, ReplyState.step, ReplyState.semTake,
    ReplyState.malloc, ReplyState.encode, ReplyState.publish, ReplyState.isotpSend,
    ReplyState.semGive, ReplyState.setCall, ReplyState.sentPkts, idle, encoded,
    Nat.not_lt.mpr short, ReplyContents.bytesOf]

end Transmission

-----------------------------------------------------------------------------------------
-- The frames of a message
-----------------------------------------------------------------------------------------

section Frames

variable {client : NotifyClient} (distinct : client.Distinct)

include distinct

/-- A notified start frame reaches the reassembler. -/
theorem Notifies.isStart {handle total : Nat} {chunk : List UInt8} {call : NotifyCall}
    (notifies : Notifies (handle, .start handle total chunk) call)
    (known : handle < gpCntrlHandleEnd)
    : ∃ cmd, call.built client = some ⟨cmd, call.kMalloc⟩
        ∧ cmd.IsStart handle total chunk := by
  obtain ⟨params, ⟨bytes, data, onAir⟩, -⟩ := notifies
  have type : client.cmdType call.params = handle := by
    rw [params]
    exact distinct.cmdType_eq known
  refine ⟨receivedCmd call.stack handle bytes, ?_, ?_⟩
  · simp [NotifyCall.built, onNotifyReceived, data, type, ne_control_of_lt known]
  · cases onAir with
    | @start _ _ header _ wellFormed short =>
        refine ⟨rfl, receivedCmd_small _ _ _, header, wellFormed, ?_⟩
        rw [receivedCmd_payload, List.take_of_length_le short]

theorem Notifies.isCont {handle : Nat} {chunk : List UInt8} {call : NotifyCall}
    (notifies : Notifies (handle, .more chunk) call) (known : handle < gpCntrlHandleEnd)
    : ∃ cmd, call.built client = some ⟨cmd, call.kMalloc⟩ ∧ cmd.IsCont handle chunk := by
  obtain ⟨params, ⟨bytes, data, onAir⟩, -⟩ := notifies
  have type : client.cmdType call.params = handle := by
    rw [params]
    exact distinct.cmdType_eq known
  refine ⟨receivedCmd call.stack handle bytes, ?_, ?_⟩
  · simp [NotifyCall.built, onNotifyReceived, data, type, ne_control_of_lt known]
  · cases onAir with
    | @more first _ continues short =>
        refine ⟨rfl, receivedCmd_small _ _ _, first, continues, ?_⟩
        rw [receivedCmd_payload, List.take_of_length_le short]

theorem notified_conts {handle : Nat} (known : handle < gpCntrlHandleEnd)
    {rest : List (List UInt8)} {calls : List NotifyCall}
    (notify : List.Forall₂ Notifies ((rest.map Frame.more).map (handle, ·)) calls)
    : ∃ builds : List BuildCall,
        calls.map (·.built client) = builds.map some
        ∧ List.Forall₂ (fun cmd chunk => GoproCmd.IsCont cmd handle chunk)
          (builds.map BuildCall.cmd) rest
        ∧ ∀ build ∈ builds, build.kMalloc ≠ none := by
  induction rest generalizing calls with
  | nil =>
      cases notify
      exact ⟨[], rfl, .nil, nofun⟩
  | cons chunk rest ih =>
      cases notify with
      | @cons _ call _ calls here later =>
          obtain ⟨builds, built, continues, allocate⟩ := ih later
          obtain ⟨cmd, received, isCont⟩ := here.isCont distinct known
          refine ⟨⟨cmd, call.kMalloc⟩ :: builds, ?_, .cons isCont continues, ?_⟩
          · simp [received, built]
          · exact List.forall_mem_cons.mpr ⟨here.allocates, allocate⟩

/-- The notifications of a message are calls of `gopro_packet_build` with its frames. -/
theorem notified_message {framing : Framing Nat UInt8} {calls : List NotifyCall}
    (known : framing.key < gpCntrlHandleEnd)
    (notify : List.Forall₂ Notifies (framing.frames.map fun frame => (framing.key, frame)) calls)
    : ∃ builds : List BuildCall,
        calls.map (·.built client) = builds.map some
        ∧ IsMessage framing.key framing.body.length framing.first framing.rest
          (builds.map BuildCall.cmd)
        ∧ ∀ build ∈ builds, build.kMalloc ≠ none := by
  cases notify with
  | @cons _ call _ calls here later =>
      obtain ⟨builds, built, continues, allocate⟩ := notified_conts distinct known later
      obtain ⟨cmd, received, isStart⟩ := here.isStart distinct known
      refine ⟨⟨cmd, call.kMalloc⟩ :: builds, ?_, .frames isStart continues, ?_⟩
      · simp [received, built]
      · exact List.forall_mem_cons.mpr ⟨here.allocates, allocate⟩

end Frames

-----------------------------------------------------------------------------------------
-- One message
-----------------------------------------------------------------------------------------

theorem built_notified {client : NotifyClient} {calls : List NotifyCall}
    {builds : List BuildCall} (built : calls.map (·.built client) = builds.map some)
    : calls.filterMap (·.built client) = builds ∧ ∀ call ∈ calls, call.data ≠ none := by
  constructor
  · have same : calls.filterMap (·.built client) = (calls.map (·.built client)).filterMap id := by
      simp [List.filterMap_map]
    rw [same, built]
    simp [List.filterMap_map]
  · intro call member none
    have reached : call.built client ∈ builds.map some := by
      rw [← built]
      exact List.mem_map_of_mem member
    simp [NotifyCall.built, onNotifyReceived, none] at reached

/-- The reassembler's calls behind notifications are its run over what they are turned into. -/
theorem built_run {client : NotifyClient} {calls : List NotifyCall} {builds : List BuildCall}
    (built : calls.map (·.built client) = builds.map some) (packet : GoproPacket)
    : notifyReceiver.run (client, packet) calls
      = ((client, (packetBuilder.run packet builds).1), (packetBuilder.run packet builds).2) := by
  obtain ⟨received, notified⟩ := built_notified built
  rw [notifyReceiver_run client packet notified, received]

/-- The notifications of a message parse it on the last one, whatever the packet held. -/
theorem CameraMessage.Arrives.parses {client : NotifyClient} (distinct : client.Distinct)
    {message : CameraMessage} (arrives : message.Arrives) (packet : GoproPacket)
    : ∃ early last middle,
        message.calls = early ++ [last]
        ∧ (notifyReceiver.run (client, packet) early).1 = (client, middle)
        ∧ parsedPackets (notifyReceiver.run (client, packet) early).2 = []
        ∧ (notifyReceiver.step (client, middle) last).1.1 = client
        ∧ ∃ parsed,
          parsedPackets (notifyReceiver.step (client, middle) last).2 = [parsed]
          ∧ parsed.Carries message.framing := by
  obtain ⟨builds, built, isMessage, allocate⟩ :=
    notified_message distinct arrives.known arrives.notify
  obtain ⟨⟨parsed, only, carries⟩, -⟩ := isMessage.parses arrives.known allocate packet
  have quiet := isMessage.parses_nothing_early arrives.known allocate packet
  rcases List.eq_nil_or_concat builds with rfl | ⟨earlyBuilds, lastBuild, rfl⟩
  · cases isMessage
  rw [List.concat_eq_append] at built only quiet
  rw [List.dropLast_concat] at quiet
  rw [List.map_append] at built
  obtain ⟨early, final, split, earlyBuilt, finalBuilt⟩ := List.map_eq_append_iff.mp built
  obtain ⟨last, rfl, lastBuilt⟩ := List.map_eq_singleton_iff.mp finalBuilt
  have ran := built_run earlyBuilt packet
  have stepped := notifyReceiver_step client (packetBuilder.run packet earlyBuilds).1
    ((built_notified finalBuilt).2 last (List.mem_singleton_self last))
  rw [lastBuilt] at stepped
  refine ⟨early, last, (packetBuilder.run packet earlyBuilds).1, split, ?_, ?_, ?_, parsed, ?_,
    carries⟩
  · rw [ran]
  · rw [ran]
    exact quiet
  · rw [stepped]
  · rw [stepped]
    rw [InputMachine.run_append, parsedPackets_append, quiet, List.nil_append,
      InputMachine.run_cons, InputMachine.run_nil, List.append_nil] at only
    exact only

/-- What the parser calls `can_reply` with is the message. -/
theorem GoproPacket.Carries.reply {parsed : GoproPacket} {framing : Framing Nat UInt8}
    (carries : parsed.Carries framing) (known : framing.key < gpCntrlHandleEnd)
    : parsed.reply.bleAddr = framing.key ∧ parsed.reply.data = framing.body := by
  unfold gpCntrlHandleEnd at known
  constructor
  · simp only [GoproPacket.reply, carries.packetType]
    omega
  · simp [GoproPacket.reply, carries.data, carries.totalLen]

section Uplink

variable (encoder : PbEncoder)

/-- Notifications that parse nothing leave the reply path alone. -/
theorem uplink_silent {calls : List NotifyCall} {state : NotifyClient × GoproPacket}
    {contents : ReplyContents} (idle : contents.path.calls btRxThread = .returned)
    (silent : parsedPackets (notifyReceiver.run state calls).2 = [])
    : ((uplinkMachine encoder).run ⟨state.1, state.2, contents⟩ (calls.map .notify)).1
        = ⟨(notifyReceiver.run state calls).1.1, (notifyReceiver.run state calls).1.2, contents⟩
      ∧ replyEvents ((uplinkMachine encoder).run ⟨state.1, state.2, contents⟩
        (calls.map .notify)).2 = [] := by
  induction calls generalizing state with
  | nil => exact ⟨rfl, rfl⟩
  | cons call calls ih =>
      rw [InputMachine.run_cons, parsedPackets_append, List.append_eq_nil_iff] at silent
      obtain ⟨here, later⟩ := silent
      have stepped : (uplinkMachine encoder).step ⟨state.1, state.2, contents⟩ (.notify call)
          = (⟨(notifyReceiver.step state call).1.1, (notifyReceiver.step state call).1.2,
              contents⟩, (notifyReceiver.step state call).2.map .packet) := by
        simp [uplinkMachine, UplinkState.step, idle, UplinkState.notify, UplinkState.replyCalls,
          here]
      obtain ⟨final, quiet⟩ := ih later
      rw [List.map_cons, InputMachine.run_cons, stepped, InputMachine.run_cons]
      refine ⟨final, ?_⟩
      rw [replyEvents_append, replyEvents_packet, List.nil_append]
      exact quiet

/-- A run of inputs of the reply path is one of the path alone. -/
theorem uplink_replies (s : UplinkState) {inputs : List ContentsInput}
    (contents : ReplyContents)
    (noCall : ∀ input ∈ inputs, ∀ thread reply, input ≠ .canReply thread reply)
    : (uplinkMachine encoder).run { s with contents } (inputs.map .reply)
      = ({ s with contents := ((contentsMachine encoder).run contents inputs).1 },
          ((contentsMachine encoder).run contents inputs).2.map .reply) := by
  induction inputs generalizing contents with
  | nil => rfl
  | cons input inputs ih =>
      have stepped : (uplinkMachine encoder).step { s with contents } (.reply input)
          = ({ s with contents := ((contentsMachine encoder).step contents input).1 },
              ((contentsMachine encoder).step contents input).2.map .reply) := by
        cases input with
        | canReply thread reply => exact absurd rfl (noCall _ (by simp) thread reply)
        | encode | path => rfl
      rw [List.map_cons, InputMachine.run_cons, stepped,
        ih _ (fun input member => noCall input (by simp [member]))]
      simp

variable {encoder} {s : UplinkState}

/-- The inputs of a message send its encoding, and leave the reply path as it was. -/
theorem CameraMessage.Arrives.sends (writes : encoder.FollowsWireFormat)
    (distinct : s.client.Distinct) (settled : s.contents.path.Settled btRxThread)
    {message : CameraMessage} (arrives : message.Arrives)
    : ((uplinkMachine encoder).run s message.inputs).1.client = s.client
      ∧ ((uplinkMachine encoder).run s message.inputs).1.contents.path = s.contents.path
      ∧ sentBytes (replyEvents ((uplinkMachine encoder).run s message.inputs).2)
        = [message.encoding] := by
  obtain ⟨early, last, middle, split, ran, quiet, kept, parsed, parses, carries⟩ :=
    arrives.parses distinct s.packet
  obtain ⟨addr, data⟩ := carries.reply arrives.known
  obtain ⟨before, silent⟩ := uplink_silent encoder settled.idle quiet
  rw [ran] at before
  have encoding : bledataEncoding parsed.reply.bleAddr parsed.reply.data = message.encoding := by
    rw [addr, data, CameraMessage.encoding]
  have sends := transmission_sends writes settled message.buffer parsed.reply
    (by rw [encoding]; exact arrives.fits)
  rw [encoding, InputMachine.run_cons] at sends
  obtain ⟨after, events⟩ := Prod.mk.inj sends
  have stepped : (uplinkMachine encoder).step ⟨s.client, middle, s.contents⟩ (.notify last)
      = (⟨(notifyReceiver.step (s.client, middle) last).1.1,
            (notifyReceiver.step (s.client, middle) last).1.2,
            ((contentsMachine encoder).step s.contents
              (.canReply btRxThread parsed.reply)).1⟩,
          (notifyReceiver.step (s.client, middle) last).2.map .packet
            ++ ((contentsMachine encoder).step s.contents
              (.canReply btRxThread parsed.reply)).2.map .reply) := by
    simp [uplinkMachine, UplinkState.step, settled.idle, UplinkState.notify,
      UplinkState.replyCalls, parses]
  have noCall : ∀ input ∈ transmission btRxThread message.buffer message.encoding.length,
      ∀ thread reply, input ≠ .canReply thread reply := by
    simp [transmission]
  have inputs : message.inputs = early.map .notify ++ .notify last
      :: (transmission btRxThread message.buffer message.encoding.length).map .reply := by
    simp [CameraMessage.inputs, split]
  have replies := uplink_replies encoder
    ((uplinkMachine encoder).step ⟨s.client, middle, s.contents⟩ (.notify last)).1
    ((contentsMachine encoder).step s.contents (.canReply btRxThread parsed.reply)).1 noCall
  simp only [stepped] at replies
  rw [inputs, InputMachine.run_append, before, InputMachine.run_cons, stepped, replies]
  simp only [replyEvents_append, silent, replyEvents_packet, replyEvents_reply, List.nil_append,
    events, after]
  exact ⟨kept, trivial, rfl⟩

/-- Message after message is sent, and the reply path is left as it was, by induction on the
messages.
-/
theorem messages_sent (writes : encoder.FollowsWireFormat) (distinct : s.client.Distinct)
    (settled : s.contents.path.Settled btRxThread) {messages : List CameraMessage}
    (arrive : ∀ message ∈ messages, message.Arrives)
    : let (final, events) := (uplinkMachine encoder).run s
        (messages.flatMap CameraMessage.inputs)
      final.client = s.client ∧ final.contents.path = s.contents.path
        ∧ sentBytes (replyEvents events) = messages.map CameraMessage.encoding := by
  induction messages generalizing s with
  | nil => exact ⟨rfl, rfl, rfl⟩
  | cons message messages ih =>
      obtain ⟨arrives, later⟩ := List.forall_mem_cons.mp arrive
      obtain ⟨client, path, sent⟩ := arrives.sends writes distinct settled
      obtain ⟨sameClient, samePath, rest⟩ :=
        ih (by rw [client]; exact distinct) (by rw [path]; exact settled) later
      rw [List.flatMap_cons, InputMachine.run_append]
      refine ⟨sameClient.trans client, samePath.trans path, ?_⟩
      rw [replyEvents_append, sentBytes_append, sent, rest, List.map_cons]
      rfl

end Uplink

/-- Messages that come one after another, each in frames of any size and on any of the four
handles, all reach the CAN bus, in order and once: what is passed to `isotp_send` are their
encodings, from which the task of the gateway decodes handle and message. The reply path is ready
for the next message then. Witness: each message leaves the path as it found it.
-/
theorem uplinkMachine_forwards (encoder : PbEncoder) (writes : encoder.FollowsWireFormat)
    (nanopb : Nanopb) (reads : FollowsWireFormat nanopb) (s : UplinkState)
    (distinct : s.client.Distinct) (settled : s.contents.path.Settled btRxThread)
    (messages : List CameraMessage) (arrive : ∀ message ∈ messages, message.Arrives)
    : let (final, events) := (uplinkMachine encoder).run s
        (messages.flatMap CameraMessage.inputs)
      sentBytes (replyEvents events) = messages.map CameraMessage.encoding
        ∧ (∀ message ∈ messages,
          DecodesTo nanopb message.encoding message.framing.key message.framing.body)
        ∧ final.client.Distinct ∧ final.contents.path.Settled btRxThread := by
  obtain ⟨client, path, sent⟩ := messages_sent writes distinct settled arrive
  refine ⟨sent, ?_, by rw [client]; exact distinct, by rw [path]; exact settled⟩
  intro message member
  have arrives := arrive message member
  have known := arrives.known
  unfold gpCntrlHandleEnd at known
  apply bledataEncoding_decodes reads (by unfold IsInt32; omega)
  exact Nat.le_trans (data_length_le_bledataEncoding _ _) arrives.fits

/-- A command reply of two frames, and a status notification of one. -/
def replyThenStatus : List CameraMessage :=
  [
    ⟨commandReply, [notified 0 [0x02, 0x01], notified 0 [0x80, 0x02]], 7⟩,
    ⟨statusNotification, [notified 2 [0x02, 0x93, 0x00]], 7⟩
  ]

theorem replyThenStatus_arrive : ∀ message ∈ replyThenStatus, message.Arrives := by
  intro message member
  simp only [replyThenStatus, List.mem_cons, List.not_mem_nil, or_false] at member
  rcases member with rfl | rfl
  · exact ⟨by decide, .cons notifies_opening (.cons notifies_remainder .nil), by decide⟩
  · exact ⟨by decide, .cons notifies_status .nil, by decide⟩

theorem uplinkMachine_forwards_two
    : let (final, events) := (uplinkMachine referencePbEncoder).run (.boot numberedClient)
        (replyThenStatus.flatMap CameraMessage.inputs)
      sentBytes (replyEvents events)
          = [[0x12, 0x02, 0x01, 0x02], [0x08, 0x02, 0x12, 0x02, 0x93, 0x00]]
        ∧ (∀ message ∈ replyThenStatus,
          DecodesTo referenceNanopb message.encoding message.framing.key message.framing.body)
        ∧ final.client.Distinct ∧ final.contents.path.Settled btRxThread :=
  uplinkMachine_forwards referencePbEncoder referencePbEncoder_follows referenceNanopb
    referenceNanopb_follows (.boot numberedClient) numberedClient_distinct
    (ReplyState.boot_settled btRxThread) replyThenStatus replyThenStatus_arrive

end GoproGateway
