import GoproGateway.Gateway.Forwarding
import GoproGateway.Gateway.Routing
import GoproGateway.Isotp.Assembly
import GoproGateway.Isotp.Handover
import GoproGateway.Reply.RoundTrip
import GoproGateway.Send.BufFraming

/-! From the CAN bus to the camera.

The subscriber decodes the bytes that the receive thread has published, while the receive thread
may be anywhere else. What it makes of them depends on the state of the client at that moment, and
the frames it sends on the bytes that lie on its stack.
-/

namespace GoproGateway

open Reassembly

structure DownlinkState where
  isotp : IsotpState
  /-- `ble_data_buff`. -/
  buff : BleDataBuff

def DownlinkState.boot : DownlinkState := ⟨.boot, .zero⟩

inductive DownlinkInput where
  | isotp (input : IsotpInput)
  /-- The subscriber decodes its message and sends it on, in this state of the client. -/
  | decode (state : GoproStateList) (stack : StackBytes)

inductive DownlinkEvent where
  | isotp (event : IsotpEvent)
  | gateway (event : GatewayEvent)
  /-- A publication for the camera is attempted. -/
  | attempted (cmd : GoproCmd)

/-- The bytes of the messages that the subscriber has processed. -/
def processedBytes (events : List IsotpEvent) : List (List UInt8) :=
  (events.filterMap IsotpState.left).map Prod.snd

namespace DownlinkState

def decode (nanopb : Nanopb) (s : DownlinkState) (state : GoproStateList) (stack : StackBytes)
    : DownlinkState × List DownlinkEvent :=
  let processed := s.isotp.step .decode
  let handled := (canRxBleSubscriber nanopb).run s.buff
    ((processedBytes processed.2).map fun bytes => ⟨bytes, state⟩)
  (⟨processed.1, handled.1⟩,
    processed.2.map .isotp ++ handled.2.map .gateway
      ++ (attemptedCmds stack handled.2).map .attempted)

/-- One input. The subscriber's decoding comes with the circumstances. -/
def step (nanopb : Nanopb) (s : DownlinkState)
    : DownlinkInput → DownlinkState × List DownlinkEvent
  | .decode state stack => s.decode nanopb state stack
  | .isotp input =>
      if input = .decode then (s, [])
      else ({ s with isotp := (s.isotp.step input).1 }, (s.isotp.step input).2.map .isotp)

end DownlinkState

/-- The way from the CAN bus to the camera over whole input sequences. -/
def downlinkMachine (nanopb : Nanopb)
    : InputMachine DownlinkState DownlinkInput DownlinkEvent where
  step := DownlinkState.step nanopb

def DownlinkEvent.isotp? : DownlinkEvent → Option IsotpEvent
  | .isotp event => some event
  | _ => none

def DownlinkEvent.gateway? : DownlinkEvent → Option GatewayEvent
  | .gateway event => some event
  | _ => none

def DownlinkEvent.attempted? : DownlinkEvent → Option GoproCmd
  | .attempted cmd => some cmd
  | _ => none

/-- The bytes of the messages that the receive thread has published, in order. -/
def publishedMessages (events : List DownlinkEvent) : List (List UInt8) :=
  ((events.filterMap DownlinkEvent.isotp?).filterMap IsotpState.entered).map Prod.snd

def gatewayEvents (events : List DownlinkEvent) : List GatewayEvent :=
  events.filterMap DownlinkEvent.gateway?

/-- The commands that are attempted for the camera, in order. -/
def cameraCmds (events : List DownlinkEvent) : List GoproCmd :=
  events.filterMap DownlinkEvent.attempted?

@[simp] theorem publishedMessages_append (before after : List DownlinkEvent)
    : publishedMessages (before ++ after)
      = publishedMessages before ++ publishedMessages after := by
  simp [publishedMessages]

@[simp] theorem gatewayEvents_append (before after : List DownlinkEvent)
    : gatewayEvents (before ++ after) = gatewayEvents before ++ gatewayEvents after :=
  List.filterMap_append

@[simp] theorem cameraCmds_append (before after : List DownlinkEvent)
    : cameraCmds (before ++ after) = cameraCmds before ++ cameraCmds after :=
  List.filterMap_append

/-- What the receive thread publishes are the packets that enter the queue. -/
theorem publishedMessages_isotp (events : List IsotpEvent)
    : publishedMessages (events.map .isotp)
      = (events.filterMap IsotpState.entered).map Prod.snd := by
  simp [publishedMessages, DownlinkEvent.isotp?, List.filterMap_map, Function.comp_def]

@[simp] theorem gatewayEvents_isotp (events : List IsotpEvent)
    : gatewayEvents (events.map .isotp) = [] := by
  simp [gatewayEvents, DownlinkEvent.gateway?]

@[simp] theorem cameraCmds_isotp (events : List IsotpEvent)
    : cameraCmds (events.map .isotp) = [] := by
  simp [cameraCmds, DownlinkEvent.attempted?]

@[simp] theorem publishedMessages_gateway (events : List GatewayEvent)
    : publishedMessages (events.map .gateway) = [] := by
  simp [publishedMessages, DownlinkEvent.isotp?]

@[simp] theorem gatewayEvents_gateway (events : List GatewayEvent)
    : gatewayEvents (events.map .gateway) = events := by
  simp [gatewayEvents, DownlinkEvent.gateway?, List.filterMap_map, Function.comp_def]

@[simp] theorem cameraCmds_gateway (events : List GatewayEvent)
    : cameraCmds (events.map .gateway) = [] := by
  simp [cameraCmds, DownlinkEvent.attempted?]

@[simp] theorem publishedMessages_attempted (cmds : List GoproCmd)
    : publishedMessages (cmds.map .attempted) = [] := by
  simp [publishedMessages, DownlinkEvent.isotp?]

@[simp] theorem gatewayEvents_attempted (cmds : List GoproCmd)
    : gatewayEvents (cmds.map .attempted) = [] := by
  simp [gatewayEvents, DownlinkEvent.gateway?]

@[simp] theorem cameraCmds_attempted (cmds : List GoproCmd)
    : cameraCmds (cmds.map .attempted) = cmds := by
  simp [cameraCmds, DownlinkEvent.attempted?, List.filterMap_map, Function.comp_def]

-----------------------------------------------------------------------------------------
-- Every run
-----------------------------------------------------------------------------------------

namespace DownlinkState

variable {nanopb : Nanopb} {s : DownlinkState} {events : List DownlinkEvent}

/-- The bytes of the published messages that the subscriber has not processed. -/
def unprocessedBytes (s : DownlinkState) : List (List UInt8) :=
  s.isotp.unprocessed.map Prod.snd

/-- What is not processed is not finished. -/
theorem unprocessedBytes_length (s : DownlinkState)
    : s.unprocessedBytes.length ≤ s.isotp.unfinished.length := by
  simp only [unprocessedBytes, IsotpState.unprocessed, IsotpState.unfinished, List.length_map,
    List.length_append]
  cases s.isotp.subscriber with
  | waiting | received => exact Nat.le_refl _
  | handled pkt => exact Nat.add_le_add_right (Nat.zero_le _) _

/-- The subscriber's loop has run over the published messages that it has processed, each in
some state of the client.
-/
structure Handles (nanopb : Nanopb) (s : DownlinkState) (events : List DownlinkEvent)
    (messages : List CanMessage) : Prop where
  handsOver : s.isotp.HandsOver
  loop : (canRxBleSubscriber nanopb).run .zero messages = (s.buff, gatewayEvents events)
  published : publishedMessages events = messages.map CanMessage.bytes ++ s.unprocessedBytes

/-- At boot nothing has been published and nothing handled. -/
theorem boot_handles (nanopb : Nanopb) : boot.Handles nanopb [] [] :=
  ⟨IsotpState.boot_handsOver, rfl, rfl⟩

/-- A step of the receive path, seen as bytes: what it publishes waits for the subscriber, in
order.
-/
theorem step_conserves (handsOver : s.isotp.HandsOver) (input : IsotpInput)
    : s.unprocessedBytes
          ++ ((s.isotp.step input).2.filterMap IsotpState.entered).map Prod.snd
        = processedBytes (s.isotp.step input).2
          ++ (s.isotp.step input).1.unprocessed.map Prod.snd := by
  have conserved := (IsotpState.step_good input handsOver).conserved
  rw [unprocessedBytes, processedBytes, ← List.map_append, conserved, List.map_append]

/-- The subscriber handles the published message that it has received, with the bytes of its
publication.
-/
theorem Handles.decode {messages : List CanMessage}
    (handles : s.Handles nanopb events messages) (state : GoproStateList) (stack : StackBytes)
    : (s.decode nanopb state stack).1.Handles nanopb
        (events ++ (s.decode nanopb state stack).2)
        (messages ++ (processedBytes (s.isotp.step .decode).2).map fun bytes =>
          ⟨bytes, state⟩) := by
  have good := IsotpState.step_good .decode handles.handsOver
  have conserves := step_conserves handles.handsOver .decode
  refine ⟨good.handsOver, ?_, ?_⟩
  · rw [InputMachine.run_append, handles.loop]
    simp [DownlinkState.decode]
  · have bytes : ((processedBytes (s.isotp.step .decode).2).map fun bytes =>
        (⟨bytes, state⟩ : CanMessage)).map CanMessage.bytes
        = processedBytes (s.isotp.step .decode).2 := by
      simp [Function.comp_def]
    rw [publishedMessages_append, handles.published, List.map_append, bytes, List.append_assoc,
      List.append_assoc]
    refine congrArg _ ?_
    simp only [DownlinkState.decode, publishedMessages_append, publishedMessages_isotp,
      publishedMessages_gateway, publishedMessages_attempted, List.append_nil]
    exact conserves

/-- A step of the receive path that processes nothing may publish one more message. -/
theorem Handles.isotp {messages : List CanMessage}
    (handles : s.Handles nanopb events messages) {input : IsotpInput}
    (unprocessed : processedBytes (s.isotp.step input).2 = [])
    : ({ s with isotp := (s.isotp.step input).1 } : DownlinkState).Handles nanopb
        (events ++ (s.isotp.step input).2.map .isotp) messages := by
  have good := IsotpState.step_good input handles.handsOver
  have conserves := step_conserves handles.handsOver input
  rw [unprocessed, List.nil_append] at conserves
  refine ⟨good.handsOver, ?_, ?_⟩
  · rw [gatewayEvents_append, gatewayEvents_isotp, List.append_nil]
    exact handles.loop
  · rw [publishedMessages_append, handles.published, publishedMessages_isotp, List.append_assoc,
      conserves]
    rfl

/-- Nothing but the subscriber's decoding processes a message. -/
theorem step_processes_nothing {isotp : IsotpState} (handsOver : isotp.HandsOver)
    {input : IsotpInput} (other : input ≠ .decode)
    : processedBytes (isotp.step input).2 = [] := by
  have internal {next : IsotpState} {events : List IsotpEvent}
      (works : isotp.Works next events) : processedBytes events = [] := by
    rw [processedBytes, (IsotpState.filterMap_internal works.internal).2, List.map_nil]
  cases input with
  | semTake | giveAndBreak | waitMsg | subscriberGive =>
      simp only [IsotpState.step]
      split <;> rfl
  | decode => exact absurd rfl other
  | free =>
      simp only [IsotpState.step]
      split
      · exact internal (IsotpState.free_works handsOver.allocated)
      · rfl
  | recvNet result =>
      simp only [IsotpState.step]
      split
      case isTrue rx =>
          exact internal (IsotpState.recvNet_works result handsOver.allocated
            (IsotpState.holds_of_eq rx trivial))
      case isFalse => rfl
  | malloc block =>
      simp only [IsotpState.step]
      split
      case h_1 remLen size rx =>
          exact internal (IsotpState.malloc_works remLen size block handsOver.allocated
            (IsotpState.holds_of_eq rx trivial))
      case h_2 => rfl
  | publish room =>
      simp only [IsotpState.step, IsotpState.publish]
      split
      · split <;> rfl
      · rfl

/-- One input has the subscriber handle the next message, or none. -/
theorem Handles.step {messages : List CanMessage} (handles : s.Handles nanopb events messages)
    (input : DownlinkInput)
    : ∃ more, (s.step nanopb input).1.Handles nanopb (events ++ (s.step nanopb input).2)
        (messages ++ more) := by
  cases input with
  | decode state stack => exact ⟨_, handles.decode state stack⟩
  | isotp input =>
      refine ⟨[], ?_⟩
      simp only [DownlinkState.step, List.append_nil]
      split
      · rw [List.append_nil]
        exact handles
      case isFalse other => exact handles.isotp (step_processes_nothing handles.handsOver other)

end DownlinkState

/-- In every run the subscriber's task does what its loop does with the messages that the
receive thread has published, in order and with the bytes they were published with, however
the two threads interleave: at most the last one is still to be handled. Witness: a message
waits with its bytes until the subscriber has it.
-/
theorem downlinkMachine_handles (nanopb : Nanopb) (inputs : List DownlinkInput)
    : let result := (downlinkMachine nanopb).run .boot inputs
      ∃ messages : List CanMessage,
        (canRxBleSubscriber nanopb).run .zero messages
          = (result.1.buff, gatewayEvents result.2)
        ∧ publishedMessages result.2
          = messages.map CanMessage.bytes ++ result.1.unprocessedBytes
        ∧ result.1.unprocessedBytes.length ≤ 1 := by
  intro result
  have final := (downlinkMachine nanopb).run_history
    (fun s events => ∃ messages, s.Handles nanopb events messages)
    (fun s events input => by
      rintro ⟨messages, handles⟩
      obtain ⟨more, later⟩ := handles.step input
      exact ⟨messages ++ more, later⟩)
    ⟨[], DownlinkState.boot_handles nanopb⟩ inputs
  obtain ⟨messages, handles⟩ := final
  refine ⟨messages, handles.loop, handles.published, ?_⟩
  exact Nat.le_trans (DownlinkState.unprocessedBytes_length _) handles.handsOver.permit.single

end GoproGateway
