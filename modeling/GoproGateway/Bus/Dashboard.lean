import GoproGateway.Bus.CanTx
import GoproGateway.Parse.StatusReply

/-! What the gateway tells the CAN bus about the camera, and what it lets the bus ask for.

The dashboard remembers the statuses that it takes from packets, and shows of each kind the last
one. Of a registration's reply or a notification it takes every status. Of a reply to GET_STATUS
it takes the first one only, and what the camera reports behind it is never shown. It knows no
queue and no parser: packets are read by the format of their entries.
-/

namespace GoproGateway

open Tlv

-----------------------------------------------------------------------------------------
-- Reported statuses
-----------------------------------------------------------------------------------------

namespace QueryPacket

/-- The packet is a registration's reply or a notification, with its result 0. -/
def IsRegistered (packet : QueryPacket) : Prop :=
  packet.action = 0
    ∧ (packet.feature = goproQueryStatusRegStatus
      ∨ packet.feature = goproQueryStatusRegStatusNotify)

/-- The packet is a reply to GET_STATUS, with its result 0. -/
def IsReply (packet : QueryPacket) : Prop :=
  packet.action = 0 ∧ packet.feature = goproQueryStatusGetStatus

instance (packet : QueryPacket) : Decidable packet.IsRegistered := by
  unfold IsRegistered
  infer_instance

instance (packet : QueryPacket) : Decidable packet.IsReply := by
  unfold IsReply
  infer_instance

/-- The entries behind the header. -/
def entries (packet : QueryPacket) : List Tlv :=
  (decodeAll (packet.data.bytes.drop 2)).getD []

/-- The statuses that are taken from a packet: all of a registration or a notification, and the
first one of a reply, however many it has.
-/
def statuses (packet : QueryPacket) : List Tlv :=
  if packet.IsRegistered then packet.entries
  else if packet.IsReply then packet.entries.take 1
  else []

/-- A packet with statuses has its header in front of them, and a length of 16 bits. Its
entries can be read, flags are single bytes, and a reply has a status.
-/
structure Readable (packet : QueryPacket) : Prop where
  header : packet.data.bytes.take 2 = [packet.feature, packet.action]
  totalLen : packet.totalLen = packet.data.bytes.length
  short : packet.totalLen ≤ 65535
  entries : (decodeAll (packet.data.bytes.drop 2)).isSome
  flags : ∀ tlv ∈ packet.statuses,
    tlv.id = goproStatusIdEncoding ∨ tlv.id = goproStatusIdBatPercent → tlv.value.length = 1
  nonempty : packet.IsReply → packet.entries ≠ []

end QueryPacket

/-- Packets with statuses can be read. -/
def CanTxInput.Readable : CanTxInput → Prop
  | .query packet => packet.IsRegistered ∨ packet.IsReply → packet.Readable
  | _ => True

-----------------------------------------------------------------------------------------
-- The dashboard
-----------------------------------------------------------------------------------------

structure Dashboard where
  state : GoproStateList
  /-- The statuses that have been taken from packets, in order. -/
  taken : List Tlv

def Dashboard.boot : Dashboard := ⟨.unknown, []⟩

namespace Dashboard

/-- The flag that was taken last for an identifier. -/
def flag (d : Dashboard) (id : UInt8) : UInt8 :=
  ((lastValue id d.taken).map (·.headD 0)).getD 0

/-- The last byte of the number of videos that was taken last. -/
def videoCount (d : Dashboard) : UInt8 :=
  ((lastValue goproStatusIdVideoNum d.taken).map (·.getLastD 0)).getD 0

def heartBeat (d : Dashboard) : TxFrame :=
  GoproGateway.heartBeat d.state.toByte (d.flag goproStatusIdEncoding)
    (d.flag goproStatusIdBatPercent) d.videoCount

end Dashboard

inductive DashboardEvent where
  /-- A frame for the bus. -/
  | frame (frame : TxFrame)
  /-- A command for the camera. -/
  | command (cmdType : Nat) (bytes : List UInt8)

/-- A frame from the bus is a command for a handle, or for the gateway itself. Commands for the
camera are passed on while it is connected, and answered with an error otherwise. The button
stops a recording when the last encoding flag says so, and starts one otherwise.
-/
def dashboardMachine : InputMachine Dashboard CanTxInput DashboardEvent where
  step d
    | .setSate requested =>
        ({ d with state := if requested = .stateEnd then d.state else requested }, [])
    | .query packet => ({ d with taken := d.taken ++ packet.statuses }, [])
    | .canTxWork room => (d, if room then [.frame d.heartBeat] else [])
    | .rxCallback frame cmdRoom txRoom =>
        match frame.cmdType with
        | none => (d, [])
        | some cmdType =>
            if frame.dlc = 0 then (d, [])
            else if cmdType = cmdTypeControl ∨ d.state = .connected then
              (d, if cmdRoom then [.command cmdType (frame.data.take frame.dlc)] else [])
            else (d, if txRoom then [.frame errStateFrame] else [])
    | .buttonPressed room =>
        let recording := d.flag goproStatusIdEncoding = 1
        (d, if d.state = .connected ∧ room then
          [.command gpCntrlHandleCmd [0x03, 0x01, 0x01, if recording then 0x00 else 0x01]]
          else [])
    | _ => (d, [])

/-- What the bus and the camera get of an event. -/
def CanTxEvent.shown : CanTxEvent → Option DashboardEvent
  | .published frame => some (.frame frame)
  | .command cmd => some (.command cmd.cmdType cmd.payload)
  | _ => none

def DashboardEvent.frame? : DashboardEvent → Option TxFrame
  | .frame own => some own
  | .command _ _ => none

-----------------------------------------------------------------------------------------
-- One input
-----------------------------------------------------------------------------------------

/-- The fields of `gopro_state` are what the dashboard would show. -/
def CanTxState.Shows (s : CanTxState) (d : Dashboard) : Prop :=
  s.gopro = lastStatuses { GoproState.zero with state := d.state } d.taken

theorem lastStatuses_append (state : GoproState) (before after : List Tlv)
    : lastStatuses state (before ++ after) = lastStatuses (lastStatuses state before) after := by
  simp only [← foldl_applyStatus, List.foldl_append]

/-- Of the video count, a heartbeat has the last byte of the status. -/
theorem canTxWorkHandler_lastStatuses (d : Dashboard)
    : canTxWorkHandler (lastStatuses { GoproState.zero with state := d.state } d.taken)
      = d.heartBeat := by
  have count : (((lastValue goproStatusIdVideoNum d.taken).map fun value =>
      UInt32.ofNat (bigEndian value)).getD 0).toUInt8 = d.videoCount := by
    unfold Dashboard.videoCount
    cases lastValue goproStatusIdVideoNum d.taken with
    | none => rfl
    | some value =>
        apply UInt8.toNat_inj.mp
        have low := bigEndian_mod value
        simp only [Option.map_some, Option.getD_some, UInt32.toNat_toUInt8, UInt32.toNat_ofNat']
        omega
  simp only [canTxWorkHandler, lastStatuses, Dashboard.heartBeat, Dashboard.flag]
  rw [← count]
  rfl

namespace QueryPacket

variable {packet : QueryPacket}

/-- A readable packet is its header and the encoding of its entries. -/
theorem Readable.message (readable : packet.Readable)
    : packet.data.bytes = packet.feature :: packet.action :: encodeAll packet.entries
      ∧ ∀ tlv ∈ packet.entries, tlv.Fits := by
  obtain ⟨tlvs, reads⟩ := Option.isSome_iff_exists.mp readable.entries
  have known : packet.entries = tlvs := by
    rw [QueryPacket.entries, reads, Option.getD_some]
  obtain ⟨encoded, fits⟩ := encodeAll_of_decodeAll reads
  rw [known, encoded]
  refine ⟨?_, fits⟩
  calc packet.data.bytes
      = packet.data.bytes.take 2 ++ packet.data.bytes.drop 2 := (List.take_append_drop 2 _).symm
    _ = packet.feature :: packet.action :: packet.data.bytes.drop 2 := by
        rw [readable.header]
        rfl

/-- Reading a packet sets the fields of the statuses that it reports. -/
theorem parsed (readable : packet.IsRegistered ∨ packet.IsReply → packet.Readable)
    (state : GoproState)
    : (goproPacketParseQuery packet.feature packet.action packet.data packet.totalLen state).value
      = lastStatuses state packet.statuses := by
  by_cases registered : packet.IsRegistered
  · obtain ⟨noError, known⟩ := registered
    have whole := readable (.inl ⟨noError, known⟩)
    obtain ⟨message, fits⟩ := whole.message
    have all : packet.statuses = packet.entries := if_pos ⟨noError, known⟩
    have wellFormed : IsStatuses packet.entries := fun tlv member =>
      ⟨fits tlv member, whole.flags tlv (by rw [all]; exact member)⟩
    have short : packet.data.bytes.length ≤ 65535 := whole.totalLen ▸ whole.short
    rw [noError] at message ⊢
    rw [goproPacketParseQuery_notify _ _ _ known, whole.totalLen,
      goproParseQueryStatusNotify_foldl known wellFormed message short, all, foldl_applyStatus]
  · by_cases reply : packet.IsReply
    · obtain ⟨noError, isGet⟩ := reply
      have whole := readable (.inr ⟨noError, isGet⟩)
      obtain ⟨message, fits⟩ := whole.message
      have first : packet.statuses = packet.entries.take 1 := by
        rw [statuses, if_neg registered, if_pos ⟨noError, isGet⟩]
      have flags := whole.flags
      rw [first] at flags ⊢
      have nonempty := whole.nonempty ⟨noError, isGet⟩
      cases known : packet.entries with
      | nil => exact absurd known nonempty
      | cons tlv rest =>
          rw [known] at message fits flags
          have entry : EntryAt packet.data 2 tlv (encodeAll rest) :=
            .of_drop (fits tlv (by simp)) (by rw [message]; rfl)
          rw [noError, isGet, goproPacketParseQuery_reply,
            goproParseQueryStatusReply_value entry (flags tlv (by simp))]
          exact foldl_applyStatus state [tlv]
    · have none : packet.statuses = [] := by rw [statuses, if_neg registered, if_neg reply]
      rw [none]
      simp only [IsRegistered, IsReply, not_and] at registered reply
      by_cases noError : packet.action = 0
      · simp only [goproPacketParseQuery, registered noError, reply noError, if_false]
        repeat' split
        all_goals rfl
      · simp only [goproPacketParseQuery, noError, if_false]
        repeat' split
        all_goals rfl

end QueryPacket

/-- The validator accepts control commands always, and commands of a frame for the camera while
it is connected.
-/
theorem goproCmdValidator_frame {frame : CanFrame} {cmdType : Nat}
    (known : frame.cmdType = some cmdType) (cmd : GoproCmd) (type : cmd.cmdType = cmdType)
    (small : cmd.len ≤ goproCmdDataLen) (state : GoproStateList)
    : goproCmdValidator state cmd = true ↔ cmdType = cmdTypeControl ∨ state = .connected := by
  rw [goproCmdValidator_iff, type]
  have handle : cmdType = cmdTypeControl ∨ cmdType < gpCntrlHandleEnd := by
    unfold CanFrame.cmdType at known
    split_ifs at known <;> cases known
    · exact .inr (by decide)
    · exact .inr (by decide)
    · exact .inr (by decide)
    · exact .inr (by decide)
    · exact .inl rfl
  constructor
  · rintro (control | ⟨connected, -, -⟩)
    · exact .inl control
    · exact .inr connected
  · rintro (control | connected)
    · exact .inl control
    · rcases handle with control | camera
      · exact .inl control
      · exact .inr ⟨connected, small, camera⟩

namespace CanTxState

/-- A valid frame is published when the bus has room for it. -/
theorem pub_shown {s : CanTxState} {frame : TxFrame} (valid : canMsgValidator frame = true)
    (room : Bool)
    : (s.pub frame room).1.gopro = s.gopro
      ∧ (s.pub frame room).2.filterMap CanTxEvent.shown
        = if room then [.frame frame] else [] := by
  unfold pub
  rw [valid]
  cases room
  · exact ⟨rfl, rfl⟩
  · exact ⟨rfl, rfl⟩

theorem restored_shown (s : CanTxState)
    : s.restored.1.gopro = s.gopro ∧ s.restored.2.filterMap CanTxEvent.shown = [] := by
  unfold restored
  refine ⟨rfl, ?_⟩
  split
  · rfl
  · rfl

/-- The task and the controller show nothing. -/
theorem task_shown (s : CanTxState) {input : CanTxInput}
    (task : (∃ err, input = .waitMsg err) ∨ input = .semTake ∨ input = .timeout
      ∨ input = .canTxCallback)
    : (s.step input).1.gopro = s.gopro
      ∧ (s.step input).2.filterMap CanTxEvent.shown = [] := by
  rcases task with ⟨err, rfl⟩ | rfl | rfl | rfl
  · simp only [step, canSend]
    repeat' split
    all_goals exact ⟨rfl, rfl⟩
  · simp only [step]
    split
    · split
      · exact restored_shown _
      · exact ⟨rfl, rfl⟩
    · exact ⟨rfl, rfl⟩
  · simp only [step]
    repeat' split
    all_goals exact ⟨rfl, rfl⟩
  · simp only [step, canTxCallback]
    repeat' split
    all_goals first | exact restored_shown _ | exact ⟨rfl, rfl⟩

end CanTxState

namespace CanTxState.Shows

variable {s : CanTxState} {d : Dashboard} (shows : s.Shows d)

include shows

theorem state_eq : s.gopro.state = d.state := congrArg GoproState.state shows

theorem record_eq : s.gopro.record = d.flag goproStatusIdEncoding :=
  congrArg GoproState.record shows

theorem rxCallback (frame : CanFrame) (cmdRoom txRoom : Bool)
    : (s.step (.rxCallback frame cmdRoom txRoom)).1.Shows
        (dashboardMachine.step d (.rxCallback frame cmdRoom txRoom)).1
      ∧ (s.step (.rxCallback frame cmdRoom txRoom)).2.filterMap CanTxEvent.shown
        = (dashboardMachine.step d (.rxCallback frame cmdRoom txRoom)).2 := by
  simp only [CanTxState.step, rxCallbackFunction, dashboardMachine]
  cases known : frame.cmdType with
  | none => exact ⟨shows, rfl⟩
  | some cmdType =>
      by_cases empty : frame.dlc = 0
      · simp only [empty]
        exact ⟨shows, rfl⟩
      · have within : frame.dlc > 0 ∧ frame.dlc ≤ goproCmdDataLen :=
          ⟨Nat.pos_of_ne_zero empty, Nat.le_trans frame.dlc_le (by decide)⟩
        have size : (frame.data.take frame.dlc).length = frame.dlc := by
          rw [List.length_take, frame.data_length, Nat.min_eq_left frame.dlc_le]
        have payload := (GoproCmd.zeroed cmdType).fill_payload size within.2
        have valid := goproCmdValidator_frame known
          ((GoproCmd.zeroed cmdType).fill (frame.data.take frame.dlc) frame.dlc) rfl within.2
          s.gopro.state
        rw [shows.state_eq] at valid
        simp only [if_pos within, if_neg empty, shows.state_eq]
        by_cases accepted : cmdType = cmdTypeControl ∨ d.state = .connected
        · rw [if_pos (valid.mpr accepted), if_pos accepted]
          refine ⟨shows, ?_⟩
          cases cmdRoom
          · rfl
          · simp only [if_true, List.filterMap_cons, CanTxEvent.shown, payload,
              List.filterMap_nil]
            rfl
        · rw [if_neg (mt valid.mp accepted), if_neg accepted]
          obtain ⟨same, shown⟩ :=
            s.pub_shown (by decide : canMsgValidator errStateFrame = true) txRoom
          exact ⟨same.trans shows, shown⟩

theorem buttonPressed (room : Bool)
    : (s.step (.buttonPressed room)).2.filterMap CanTxEvent.shown
      = (dashboardMachine.step d (.buttonPressed room)).2 := by
  have type (record : Nat) : (GoproGateway.buttonPressed record).cmdType = gpCntrlHandleCmd := by
    unfold GoproGateway.buttonPressed
    split <;> rfl
  have small (record : Nat) : (GoproGateway.buttonPressed record).len ≤ goproCmdDataLen := by
    unfold GoproGateway.buttonPressed
    split <;> decide
  have valid (record : Nat) : goproCmdValidator d.state (GoproGateway.buttonPressed record) = true
      ↔ d.state = .connected := by
    rw [goproCmdValidator_iff, type]
    constructor
    · rintro (control | ⟨connected, -⟩)
      · exact absurd control (by decide)
      · exact connected
    · exact fun connected => .inr ⟨connected, small record, by decide⟩
  have payload : (GoproGateway.buttonPressed s.gopro.record.toNat).payload
      = [0x03, 0x01, 0x01, if d.flag goproStatusIdEncoding = 1 then 0x00 else 0x01] := by
    have recording : s.gopro.record.toNat = 1 ↔ d.flag goproStatusIdEncoding = 1 := by
      rw [shows.record_eq]
      exact UInt8.toNat_inj (b := 1)
    unfold GoproGateway.buttonPressed
    by_cases one : s.gopro.record.toNat = 1
    · rw [if_pos one, if_pos (recording.mp one)]
      rfl
    · rw [if_neg one, if_neg (mt recording.mpr one)]
      rfl
  simp only [CanTxState.step, dashboardMachine, shows.state_eq, Bool.and_eq_true, valid]
  split
  · simp [CanTxEvent.shown, payload, type]
  · rfl

/-- A step shows what the dashboard's does, when packets with statuses can be read. -/
theorem step (input : CanTxInput) (readable : input.Readable)
    : (s.step input).1.Shows (dashboardMachine.step d input).1
      ∧ (s.step input).2.filterMap CanTxEvent.shown = (dashboardMachine.step d input).2 := by
  have unchanged (task : (∃ err, input = .waitMsg err) ∨ input = .semTake ∨ input = .timeout
      ∨ input = .canTxCallback)
      : (s.step input).1.Shows d ∧ (s.step input).2.filterMap CanTxEvent.shown = [] := by
    obtain ⟨same, shown⟩ := s.task_shown task
    exact ⟨same.trans shows, shown⟩
  cases input with
  | setSate requested =>
      refine ⟨?_, rfl⟩
      simp only [CanTxState.step, goproClientSetSate, dashboardMachine, CanTxState.Shows]
      by_cases invalid : requested = .stateEnd
      · rw [if_pos invalid, if_pos invalid]
        exact shows
      · rw [if_neg invalid, if_neg invalid]
        split
        · rw [shows]
          rfl
        case isFalse same =>
          rw [← not_ne_iff.mp same, shows.state_eq]
          exact shows
  | query packet =>
      constructor
      · simp only [CanTxState.step, CanTxState.Shows, dashboardMachine,
          QueryPacket.parsed readable, lastStatuses_append]
        exact congrArg (lastStatuses · packet.statuses) shows
      · simp [CanTxState.step, dashboardMachine, CanTxEvent.shown, List.filterMap_map,
          Function.comp_def]
  | canTxWork room =>
      have valid : canMsgValidator (canTxWorkHandler s.gopro) = true := rfl
      obtain ⟨same, shown⟩ := s.pub_shown valid room
      refine ⟨same.trans shows, shown.trans ?_⟩
      rw [shows, canTxWorkHandler_lastStatuses]
      rfl
  | rxCallback frame cmdRoom txRoom => exact shows.rxCallback frame cmdRoom txRoom
  | buttonPressed room => exact ⟨shows, shows.buttonPressed room⟩
  | waitMsg err => exact unchanged (.inl ⟨err, rfl⟩)
  | semTake => exact unchanged (.inr (.inl rfl))
  | timeout => exact unchanged (.inr (.inr (.inl rfl)))
  | canTxCallback => exact unchanged (.inr (.inr (.inr rfl)))

end CanTxState.Shows

theorem CanTxState.boot_shows : boot.Shows .boot := rfl

-----------------------------------------------------------------------------------------
-- Runs
-----------------------------------------------------------------------------------------

namespace CanTxState

/-- An operation without such events that leaves the queue alone. -/
theorem conserves_of_quiet {before after : CanTxState} {events : List CanTxEvent}
    (same : after.queue = before.queue)
    (published : events.filterMap CanTxEvent.published? = [])
    (sent : events.filterMap CanTxEvent.sent? = [])
    : before.queue ++ events.filterMap CanTxEvent.published?
      = events.filterMap CanTxEvent.sent? ++ after.queue := by
  rw [published, sent, same, List.append_nil, List.nil_append]

theorem pub_conserves (s : CanTxState) (frame : TxFrame) (room : Bool)
    : s.queue ++ (s.pub frame room).2.filterMap CanTxEvent.published?
      = (s.pub frame room).2.filterMap CanTxEvent.sent? ++ (s.pub frame room).1.queue := by
  unfold pub
  split
  · rfl
  · exact conserves_of_quiet rfl rfl rfl

theorem restored_conserves (s : CanTxState)
    : s.queue ++ s.restored.2.filterMap CanTxEvent.published?
      = s.restored.2.filterMap CanTxEvent.sent? ++ s.restored.1.queue := by
  unfold restored
  split
  · exact conserves_of_quiet rfl rfl rfl
  · exact conserves_of_quiet rfl rfl rfl

/-- The task hands the first frame to the controller, whatever comes of it. -/
theorem canSend_conserves {s : CanTxState} {frame : TxFrame} {rest : List TxFrame}
    (first : s.queue = frame :: rest) (err : Int)
    : s.queue ++ (s.canSend frame rest err).2.filterMap CanTxEvent.published?
      = (s.canSend frame rest err).2.filterMap CanTxEvent.sent?
        ++ (s.canSend frame rest err).1.queue := by
  rw [first]
  unfold canSend
  split
  · cases s.canErrorFlag
    · exact List.append_nil _
    · exact List.append_nil _
  · exact List.append_nil _

/-- What is queued and what is published is sent or still queued. -/
theorem step_conserves (s : CanTxState) (input : CanTxInput)
    : s.queue ++ (s.step input).2.filterMap CanTxEvent.published?
      = (s.step input).2.filterMap CanTxEvent.sent? ++ (s.step input).1.queue := by
  cases input with
  | setSate requested => exact conserves_of_quiet rfl rfl rfl
  | query packet =>
      refine conserves_of_quiet rfl ?_ ?_ <;>
        simp [step, CanTxEvent.published?, CanTxEvent.sent?]
  | canTxWork room => exact s.pub_conserves _ room
  | rxCallback frame cmdRoom txRoom =>
      simp only [step]
      split
      · exact conserves_of_quiet rfl rfl rfl
      · split
        · cases cmdRoom <;> exact conserves_of_quiet rfl rfl rfl
        · exact s.pub_conserves _ txRoom
  | buttonPressed room =>
      simp only [step]
      split <;> exact conserves_of_quiet rfl rfl rfl
  | waitMsg err =>
      simp only [step]
      split
      · exact conserves_of_quiet rfl rfl rfl
      case h_2 frame rest first =>
        split
        · exact conserves_of_quiet rfl rfl rfl
        · exact canSend_conserves first err
  | semTake =>
      simp only [step]
      split
      · split
        · exact restored_conserves { s with sent := false, canTxSem := s.canTxSem.take.1 }
        · exact conserves_of_quiet rfl rfl rfl
      · exact conserves_of_quiet rfl rfl rfl
  | timeout =>
      simp only [step]
      split
      · cases s.canTxTimeoutFlag <;> exact conserves_of_quiet rfl rfl rfl
      · exact conserves_of_quiet rfl rfl rfl
  | canTxCallback =>
      simp only [step, canTxCallback]
      split
      · split
        · exact restored_conserves
            { s with canTxSem := s.canTxSem.give.1, inFlight := s.inFlight - 1 }
        · split <;> exact conserves_of_quiet rfl rfl rfl
      · exact conserves_of_quiet rfl rfl rfl

end CanTxState

/-- In every run in which packets with statuses can be read, the gateway publishes the heartbeats,
errors and commands of the dashboard, in order, and the frames among them are handed to the
controller in that order and once: those that are not are still in the queue. Witness: the
state's fields are the last ones that were taken.
-/
theorem canTxMachine_shows (inputs : List CanTxInput)
    (readable : ∀ input ∈ inputs, input.Readable)
    : let (s, events) := canTxMachine.run .boot inputs
      let shown := (dashboardMachine.run .boot inputs).2
      events.filterMap CanTxEvent.shown = shown
        ∧ events.filterMap CanTxEvent.sent? ++ s.queue
          = shown.filterMap DashboardEvent.frame? := by
  have steps (s : CanTxState) (d : Dashboard) (input : CanTxInput) (shows : s.Shows d)
      (readable : input.Readable)
      : (canTxMachine.step s input).1.Shows (dashboardMachine.step d input).1
        ∧ (canTxMachine.step s input).2.filterMap CanTxEvent.shown
          = (dashboardMachine.step d input).2 :=
    shows.step input readable
  have conserves (s : CanTxState) (input : CanTxInput) (_ : True)
      : s.queue ++ (canTxMachine.step s input).2.filterMap CanTxEvent.published?
        = (canTxMachine.step s input).2.filterMap CanTxEvent.sent?
          ++ (canTxMachine.step s input).1.queue :=
    s.step_conserves input
  obtain ⟨-, shown⟩ := InputMachine.run_simulates steps CanTxState.boot_shows readable
  have frames : CanTxState.boot.queue
        ++ (canTxMachine.run .boot inputs).2.filterMap CanTxEvent.published?
      = (canTxMachine.run .boot inputs).2.filterMap CanTxEvent.sent?
        ++ (canTxMachine.run .boot inputs).1.queue :=
    InputMachine.run_conserves CanTxState.queue (fun _ _ _ => trivial) conserves trivial inputs
  have published : CanTxEvent.published? = fun event =>
      event.shown.bind DashboardEvent.frame? := by
    funext event
    cases event <;> rfl
  rw [List.map_id'] at shown
  refine ⟨shown, frames.symm.trans ?_⟩
  rw [← shown, List.filterMap_filterMap, published]
  rfl

/-- A reply: 87%. -/
def batteryReply : QueryPacket := ⟨0x13, 0x00, ⟨[0x13, 0x00, 70, 1, 87], fun _ => 0⟩, 5⟩

/-- A notification: recording, and 260 videos. -/
def recordingNotify : QueryPacket :=
  ⟨0x93, 0x00, ⟨[0x93, 0x00, 10, 1, 1, 39, 2, 1, 4], fun _ => 0⟩, 9⟩

theorem batteryReply_entries : batteryReply.entries = [⟨70, [87]⟩] := by
  simp [batteryReply, QueryPacket.entries, decodeAll]

theorem recordingNotify_entries
    : recordingNotify.entries = [⟨10, [1]⟩, ⟨39, [1, 4]⟩] := by
  simp [recordingNotify, QueryPacket.entries, decodeAll]

theorem batteryReply_statuses : batteryReply.statuses = [⟨70, [87]⟩] := by
  rw [QueryPacket.statuses, batteryReply_entries]
  rfl

theorem recordingNotify_statuses
    : recordingNotify.statuses = [⟨10, [1]⟩, ⟨39, [1, 4]⟩] := by
  rw [QueryPacket.statuses, recordingNotify_entries]
  rfl

/-- The camera says how it is, the button is pressed, and the camera goes away. -/
def statusAndButton : List CanTxInput :=
  [
    .setSate .connected,
    .query batteryReply,
    .query recordingNotify,
    .buttonPressed true,
    .canTxWork true,
    .setSate .unknown,
    .rxCallback ⟨0x772, 1, [5, 0, 0, 0, 0, 0, 0, 0], by decide, rfl⟩ true true,
    .waitMsg 0
  ]

theorem statusAndButton_readable : ∀ input ∈ statusAndButton, input.Readable := by
  have reply : batteryReply.Readable := by
    refine ⟨rfl, rfl, by decide, by simp [batteryReply, decodeAll], ?_, ?_⟩
    · rw [batteryReply_statuses]
      simp
    · rw [batteryReply_entries]
      simp
  have notify : recordingNotify.Readable := by
    refine ⟨rfl, rfl, by decide, by simp [recordingNotify, decodeAll], ?_, ?_⟩
    · rw [recordingNotify_statuses]
      simp [goproStatusIdEncoding, goproStatusIdBatPercent]
    · rw [recordingNotify_entries]
      simp
  simp only [statusAndButton, List.forall_mem_cons]
  exact ⟨trivial, fun _ => reply, fun _ => notify, trivial, trivial, trivial, trivial, trivial,
    by simp⟩

/-- The heartbeat is sent, and the error is still queued. -/
theorem canTxMachine_shows_statusAndButton
    : let (s, events) := canTxMachine.run .boot statusAndButton
      events.filterMap CanTxEvent.shown
          = [.command 0 [3, 1, 1, 0], .frame (heartBeat 3 1 87 4), .frame errStateFrame]
        ∧ events.filterMap CanTxEvent.sent? ++ s.queue
          = [heartBeat 3 1 87 4, errStateFrame] := by
  have shown : (dashboardMachine.run .boot statusAndButton).2
      = [.command 0 [3, 1, 1, 0], .frame (heartBeat 3 1 87 4), .frame errStateFrame] := by
    simp only [statusAndButton, InputMachine.run_cons, dashboardMachine, Dashboard.boot,
      batteryReply_statuses, recordingNotify_statuses]
    rfl
  have shows := canTxMachine_shows statusAndButton statusAndButton_readable
  rw [shown] at shows
  exact shows

end GoproGateway
