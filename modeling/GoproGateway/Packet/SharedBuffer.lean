import GoproGateway.Client.Notify
import GoproGateway.Library.Interleaving
import GoproGateway.Packet.Refinement

/-! Four notification streams and one packet.

Every frame says which characteristic it came from, but continuation frames are stored
without looking at that, and a start frame drops whatever message is in progress. So the
characteristics do not disturb each other iff their messages arrive back to back.
-/

namespace GoproGateway

open Reassembly

/-- The bytes of a frame on the air. -/
inductive OnAir : Frame Nat UInt8 → List UInt8 → Prop
  | start {handle total : Nat} {header chunk : List UInt8}
      (wellFormed : StartHeader total header)
      (short : (header ++ chunk).length ≤ goproCmdDataLen)
      : OnAir (.start handle total chunk) (header ++ chunk)
  | more {first : UInt8} {chunk : List UInt8} (continues : first &&& 0x80 ≠ 0)
      (short : (first :: chunk).length ≤ goproCmdDataLen)
      : OnAir (.more chunk) (first :: chunk)

/-- A notification of one handle's frame, with memory for it. -/
structure Notifies (arrival : Nat × Frame Nat UInt8) (call : NotifyCall) : Prop where
  params : call.params = arrival.1
  onAir : ∃ bytes, call.data = some bytes ∧ OnAir arrival.2 bytes
  allocates : call.kMalloc ≠ none

/-- Each of the four handles sends its own messages; there are no others. -/
def FourStreams (streams : Nat → List (Framing Nat UInt8)) : Prop :=
  ∀ handle, gpCntrlHandleEnd ≤ handle → streams handle = []

/-- A start frame that declares what its message has brings at most that. -/
def Declares : Nat × Frame Nat UInt8 → Prop
  | (handle, .start key total chunk) => key = handle ∧ chunk.length ≤ total
  | _ => True

/-- Frames of the streams are well placed: their handle is one of the four, and start frames
declare at least what they bring.
-/
theorem streams_placed {streams : Nat → List (Framing Nat UInt8)}
    {arrivals : List (Nat × Frame Nat UInt8)} (interleaves : Interleaves streams arrivals)
    (four : FourStreams streams)
    : ∀ arrival ∈ arrivals, arrival.1 < gpCntrlHandleEnd ∧ Declares arrival := by
  rintro ⟨handle, frame⟩ member
  have sent : frame ∈ project handle arrivals := by
    refine List.mem_map.mpr ⟨(handle, frame), ?_, rfl⟩
    simpa using member
  rw [interleaves.merged handle] at sent
  obtain ⟨framing, listed, part⟩ := List.mem_flatMap.mp sent
  constructor
  · refine Nat.lt_of_not_le fun beyond => ?_
    rw [four handle beyond] at listed
    simp at listed
  · have key := interleaves.keyed handle framing listed
    simp only [Framing.frames, List.mem_cons, List.mem_map] at part
    rcases part with rfl | ⟨chunk, _, rfl⟩
    · exact ⟨key, by simp [Framing.body]⟩
    · trivial

/-- A notified frame reaches the reassembler as the frame it is. -/
theorem Notifies.built {client : NotifyClient} (distinct : client.Distinct)
    {arrival : Nat × Frame Nat UInt8} {call : NotifyCall} (notifies : Notifies arrival call)
    (known : arrival.1 < gpCntrlHandleEnd) (declares : Declares arrival)
    : ∃ built, call.built client = some built ∧ built.frame = arrival.2 ∧ built.Fits := by
  obtain ⟨handle, frame⟩ := arrival
  obtain ⟨rfl, ⟨bytes, data, onAir⟩, allocates⟩ := notifies
  have type : client.cmdType call.params = call.params := distinct.cmdType_eq known
  have isHandle : call.params ≠ cmdTypeControl := ne_control_of_lt known
  have received : call.built client
      = some ⟨receivedCmd call.stack call.params bytes, call.kMalloc⟩ := by
    simp [NotifyCall.built, onNotifyReceived, data, type, isHandle]
  refine ⟨_, received, ?_⟩
  have small := receivedCmd_small call.stack call.params bytes
  cases onAir with
  | @start key total header chunk wellFormed short =>
      obtain ⟨rfl, within⟩ := declares
      have opens : (receivedCmd call.stack call.params (header ++ chunk)).IsStart call.params
          total chunk := by
        refine ⟨rfl, small, header, wellFormed, ?_⟩
        rw [receivedCmd_payload, List.take_of_length_le short]
      exact ⟨opens.frame known allocates, opens.fits within⟩
  | @more first chunk continues short =>
      have conts : (receivedCmd call.stack call.params (first :: chunk)).IsCont call.params
          chunk := by
        refine ⟨rfl, small, first, continues, ?_⟩
        rw [receivedCmd_payload, List.take_of_length_le short]
      exact ⟨conts.frame, conts.fits⟩

/-- The notifications of an interleaving are the assembler's frames. -/
theorem notifications_frames {client : NotifyClient} (distinct : client.Distinct)
    {arrivals : List (Nat × Frame Nat UInt8)} {calls : List NotifyCall}
    (notify : List.Forall₂ Notifies arrivals calls)
    (placed : ∀ arrival ∈ arrivals, arrival.1 < gpCntrlHandleEnd ∧ Declares arrival)
    : (calls.filterMap (·.built client)).map BuildCall.frame = arrivals.map Prod.snd
      ∧ (∀ call ∈ calls.filterMap (·.built client), call.Fits)
      ∧ ∀ call ∈ calls, call.data ≠ none := by
  induction notify with
  | nil => simp
  | @cons arrival call arrivals calls here _ ih =>
      obtain ⟨frames, fit, notified⟩ :=
        ih (fun arrival member => placed arrival (by simp [member]))
      obtain ⟨known, declares⟩ := placed arrival (by simp)
      obtain ⟨built, received, frame, fits⟩ := here.built distinct known declares
      have data : call.data ≠ none := by
        obtain ⟨bytes, data, -⟩ := here.onAir
        simp [data]
      rw [List.filterMap_cons, received]
      exact ⟨by simp [frame, frames], List.forall_mem_cons.mpr ⟨fits, fit⟩,
        List.forall_mem_cons.mpr ⟨data, notified⟩⟩

/-- What the parser gets to see of an interleaving is what the assembler delivers. -/
theorem notifications_deliver {client : NotifyClient} (distinct : client.Distinct)
    {streams : Nat → List (Framing Nat UInt8)} (four : FourStreams streams)
    {arrivals : List (Nat × Frame Nat UInt8)} (interleaves : Interleaves streams arrivals)
    {calls : List NotifyCall} (notify : List.Forall₂ Notifies arrivals calls)
    (packet : GoproPacket)
    : (parsedPackets (notifyReceiver.run (client, packet) calls).2).map GoproPacket.message
      = (assembler.run none (arrivals.map Prod.snd)).2 := by
  have placed := streams_placed interleaves four
  obtain ⟨frames, fit, notified⟩ := notifications_frames distinct notify placed
  rw [notifyReceiver_run client packet notified, ← filterMap_message?, ← frames]
  generalize calls.filterMap (·.built client) = builds at frames fit ⊢
  cases builds with
  | nil => rfl
  | cons first rest =>
      -- The first arrival is the head of its own stream, hence a start frame.
      refine (packetBuilder_refines_from_start packet none ?_ fit).2
      cases arrivals with
      | nil => simp at frames
      | cons arrival arrivals =>
          obtain ⟨handle, frame⟩ := arrival
          obtain ⟨_, _, _, rfl, _⟩ :=
            head_opens interleaves (project_cons_same handle frame arrivals)
          intro cont
          simp only [List.map_cons, List.cons.injEq, BuildCall.frame, if_pos cont] at frames
          exact absurd frames.1 (by simp)

/-- Every handle gets exactly its own messages, in order and unchanged, iff the frames of
each message arrive back to back. Witness: the assembler behind the four streams keeps one
message at a time, and a start frame of another stream costs the message in progress.
-/
theorem onNotifyReceived_independent_iff (client : NotifyClient) (distinct : client.Distinct)
    (streams : Nat → List (Framing Nat UInt8)) (four : FourStreams streams)
    (arrivals : List (Nat × Frame Nat UInt8)) (interleaves : Interleaves streams arrivals)
    (calls : List NotifyCall) (notify : List.Forall₂ Notifies arrivals calls)
    (packet : GoproPacket)
    : (∀ handle,
        delivered handle ((parsedPackets (notifyReceiver.run (client, packet) calls).2).map
          GoproPacket.message)
        = (streams handle).map Framing.body)
      ↔ BackToBack streams arrivals := by
  rw [notifications_deliver distinct four interleaves notify packet]
  exact delivers_iff_backToBack interleaves none

/-- A two-frame command reply. -/
def commandReply : Framing Nat UInt8 where
  key := gpCntrlHandleCmd
  first := [0x01]
  rest := [[0x02]]
  rest_nonempty := by simp
  nonempty := by simp

/-- A one-frame status notification. -/
def statusNotification : Framing Nat UInt8 where
  key := gpCntrlHandleQuery
  first := [0x93, 0x00]
  rest := []
  rest_nonempty := by simp
  nonempty := by simp

def replyAndStatus (handle : Nat) : List (Framing Nat UInt8) :=
  if handle = gpCntrlHandleCmd then [commandReply]
  else if handle = gpCntrlHandleQuery then [statusNotification]
  else []

theorem replyAndStatus_four : FourStreams replyAndStatus := by
  intro handle beyond
  unfold gpCntrlHandleEnd at beyond
  simp [replyAndStatus, gpCntrlHandleCmd, gpCntrlHandleQuery, show handle ≠ 0 by omega,
    show handle ≠ 2 by omega]

theorem replyAndStatus_keyed (handle : Nat)
    : ∀ framing ∈ replyAndStatus handle, framing.key = handle := by
  unfold replyAndStatus
  split_ifs with command query
  · simp [command, commandReply]
  · simp [query, statusNotification]
  · simp

/-- The two messages in any order of arrival that keeps the reply's two frames in order. -/
theorem replyAndStatus_interleaves {arrivals : List (Nat × Frame Nat UInt8)}
    (command : project gpCntrlHandleCmd arrivals = commandReply.frames)
    (query : project gpCntrlHandleQuery arrivals = statusNotification.frames)
    (others : ∀ arrival ∈ arrivals,
      arrival.1 = gpCntrlHandleCmd ∨ arrival.1 = gpCntrlHandleQuery)
    : Interleaves replyAndStatus arrivals := by
  refine ⟨replyAndStatus_keyed, fun handle => ?_⟩
  unfold replyAndStatus
  split_ifs with isCommand isQuery
  · simpa [isCommand] using command
  · simpa [isQuery] using query
  · have none : arrivals.filter (fun entry => entry.1 = handle) = [] := by
      rw [List.filter_eq_nil_iff]
      intro arrival member
      rcases others arrival member with same | same <;>
        simp [same, Ne.symm isCommand, Ne.symm isQuery]
    simp [project, none]

theorem notifies_opening : Notifies (0, .start 0 2 [0x01]) (notified 0 [0x02, 0x01]) :=
  ⟨rfl, ⟨_, rfl, .start (.bit5 (by decide)) (by decide)⟩, by simp [notified]⟩

theorem notifies_remainder : Notifies (0, .more [0x02]) (notified 0 [0x80, 0x02]) :=
  ⟨rfl, ⟨_, rfl, .more (by decide) (by decide)⟩, by simp [notified]⟩

theorem notifies_status
    : Notifies (2, .start 2 2 [0x93, 0x00]) (notified 2 [0x02, 0x93, 0x00]) :=
  ⟨rfl, ⟨_, rfl, .start (.bit5 (by decide)) (by decide)⟩, by simp [notified]⟩

/-- The reply's frames in a row, then the status: both arrive. -/
theorem onNotifyReceived_independent_backToBack
    : let messages := (parsedPackets (notifyReceiver.run (numberedClient, .zero)
          [notified 0 [0x02, 0x01], notified 0 [0x80, 0x02],
            notified 2 [0x02, 0x93, 0x00]]).2).map GoproPacket.message
      delivered 0 messages = [[0x01, 0x02]] ∧ delivered 2 messages = [[0x93, 0x00]] := by
  have independent := (onNotifyReceived_independent_iff numberedClient numberedClient_distinct
    replyAndStatus replyAndStatus_four
    [(0, .start 0 2 [0x01]), (0, .more [0x02]), (2, .start 2 2 [0x93, 0x00])]
    (replyAndStatus_interleaves rfl rfl (by simp [gpCntrlHandleCmd, gpCntrlHandleQuery])) _
    (.cons notifies_opening (.cons notifies_remainder (.cons notifies_status .nil)))
    .zero).mpr ⟨[commandReply, statusNotification], rfl, fun handle => ?_⟩
  · exact ⟨independent 0, independent 2⟩
  unfold replyAndStatus
  split_ifs with command query
  · subst command
    rfl
  · subst query
    rfl
  · simp [commandReply, statusNotification, Ne.symm command, Ne.symm query]

/-- The status between the reply's frames: the reply is lost. -/
theorem onNotifyReceived_loses_message
    : ¬ ∀ (client : NotifyClient) (streams : Nat → List (Framing Nat UInt8))
        (arrivals : List (Nat × Frame Nat UInt8)) (calls : List NotifyCall),
      client.Distinct → FourStreams streams → Interleaves streams arrivals
      → List.Forall₂ Notifies arrivals calls
      → ∀ handle,
        delivered handle ((parsedPackets (notifyReceiver.run (client, .zero) calls).2).map
          GoproPacket.message)
        = (streams handle).map Framing.body := by
  intro every
  have lost := every numberedClient replyAndStatus
    [(0, .start 0 2 [0x01]), (2, .start 2 2 [0x93, 0x00]), (0, .more [0x02])]
    [notified 0 [0x02, 0x01], notified 2 [0x02, 0x93, 0x00], notified 0 [0x80, 0x02]]
    numberedClient_distinct replyAndStatus_four
    (replyAndStatus_interleaves rfl rfl (by simp [gpCntrlHandleCmd, gpCntrlHandleQuery]))
    (.cons notifies_opening (.cons notifies_status (.cons notifies_remainder .nil)))
    gpCntrlHandleCmd
  exact absurd lost (by decide)

end GoproGateway
