import GoproGateway.Command.Publishers
import GoproGateway.Client.Commands
import GoproGateway.Library.BinarySemaphore
import GoproGateway.Library.InputMachine
import GoproGateway.Parse.Status

/-! The gateway's own frames on the CAN bus: the heartbeat, and an error for refused commands.

The heartbeat shows four fields of `gopro_state`. It is built in a work queue, and the packets
that set the fields are read in the receive thread of the Bluetooth stack; both threads are
cooperative, so each of the two is one step. `can_tx_subscriber_task` hands the frames to the
controller and waits after each of them for its callback, for 50 ms at most.
-/

namespace GoproGateway

-----------------------------------------------------------------------------------------
-- Frames
-----------------------------------------------------------------------------------------

/-- `struct can_frame`, with any values in its fields. -/
structure TxFrame where
  id : Nat
  dlc : Nat
  flags : Nat
  data : List UInt8
  data_length : data.length = 8

/-- `can_msg_validator`. -/
def canMsgValidator (frame : TxFrame) : Bool :=
  if frame.dlc = 0 ∨ frame.dlc > 8 then false
  else if frame.id > 0x7FF then false
  else if frame.flags ≠ 0 then false
  else true

def gpcanHeartBeatId : Nat := 0x734
def gpcanReplyMsgErrId : Nat := 0x740

def errStateFrame : TxFrame where
  id := gpcanReplyMsgErrId
  dlc := 1
  flags := 0
  data := [0xFF, 0, 0, 0, 0, 0, 0, 0]
  data_length := rfl

/-- The number of a state. -/
def GoproStateList.toByte : GoproStateList → UInt8
  | .unknown => 0
  | .offline => 1
  | .online => 2
  | .connected => 3
  | .needPairing => 4
  | .pairing => 5
  | .stateEnd => 6

/-- A heartbeat with four bytes. -/
def heartBeat (state record battery videoCount : UInt8) : TxFrame where
  id := gpcanHeartBeatId
  dlc := 4
  flags := 0
  data := [state, record, battery, videoCount, 0, 0, 0, 0]
  data_length := rfl

/-- The frame of `can_tx_work_handler`; of the video count its byte takes the low bits. -/
def canTxWorkHandler (state : GoproState) : TxFrame :=
  heartBeat state.state.toByte state.record state.battery state.videoCount.toUInt8

/-- `gopro_client_set_sate`. -/
def goproClientSetSate (requested : GoproStateList) (state : GoproState) : GoproState × Int :=
  if requested = .stateEnd then (state, -1)
  else if state.state ≠ requested then ({ state with state := requested }, 0)
  else (state, 0)

-----------------------------------------------------------------------------------------
-- Threads
-----------------------------------------------------------------------------------------

/-- A packet as `gopro_packet_parse_query` gets it. -/
structure QueryPacket where
  feature : UInt8
  action : UInt8
  data : DataPtr
  totalLen : Nat

structure CanTxState where
  gopro : GoproState
  /-- The messages of `can_tx_subscriber`. -/
  queue : List TxFrame
  /-- The task has called `can_send`, and not `k_sem_take` yet. -/
  sent : Bool
  /-- `can_tx_sem`, and whether the task waits for it. -/
  canTxSem : BinarySemaphore
  /-- How many frames the controller has accepted and not completed. -/
  inFlight : Nat
  canErrorFlag : Bool
  canTxTimeoutFlag : Bool

def CanTxState.boot : CanTxState := ⟨.zero, [], false, .empty, 0, false, false⟩

/-- `room` tells whether the bus has room for a message that its validator accepts. -/
inductive CanTxInput where
  | setSate (requested : GoproStateList)
  /-- A packet of the query handle is complete. -/
  | query (packet : QueryPacket)
  | canTxWork (room : Bool)
  /-- A frame comes in; the rooms are for its command and for the error. -/
  | rxCallback (frame : CanFrame) (cmdRoom txRoom : Bool)
  | buttonPressed (room : Bool)
  /-- The task gets a message; `can_send` returns `err`. -/
  | waitMsg (err : Int)
  /-- The task calls `k_sem_take`. -/
  | semTake
  /-- `k_sem_take` returns after 50 ms. -/
  | timeout
  /-- The controller is done with a frame. -/
  | canTxCallback

inductive CanTxEvent where
  /-- A command is published for the camera. -/
  | command (cmd : GoproCmd)
  /-- A frame is published on `can_tx_chan`. -/
  | published (frame : TxFrame)
  /-- `can_send` returns `err` for a frame. -/
  | canSend (frame : TxFrame) (err : Int)
  | semTimeout
  /-- `k_sem_give` finds the semaphore at its limit. -/
  | lostGive
  /-- What the reader of a packet does. -/
  | parse (event : StateEvent)
  | logSendingFailed (err : Int)
  | logSendTimeout
  | logSendRestore

namespace CanTxState

/-- `zbus_chan_pub` on `can_tx_chan`. -/
def pub (s : CanTxState) (frame : TxFrame) (room : Bool) : CanTxState × List CanTxEvent :=
  if canMsgValidator frame && room then
    ({ s with queue := s.queue ++ [frame] }, [.published frame])
  else (s, [])

/-- `can_tx_subscriber_task` with a message, up to its wait for the semaphore. -/
def canSend (s : CanTxState) (frame : TxFrame) (rest : List TxFrame) (err : Int)
    : CanTxState × List CanTxEvent :=
  let s := { s with queue := rest, sent := true }
  if err ≠ 0 then
    ({ s with canErrorFlag := true },
      .canSend frame err :: if s.canErrorFlag then [] else [.logSendingFailed err])
  else
    ({ s with canErrorFlag := false, inFlight := s.inFlight + 1 }, [.canSend frame err])

/-- The task has the semaphore. -/
def restored (s : CanTxState) : CanTxState × List CanTxEvent :=
  ({ s with canTxTimeoutFlag := false }, if s.canTxTimeoutFlag then [.logSendRestore] else [])

/-- `can_tx_callback`, which lets the task run when it waits. -/
def canTxCallback (s : CanTxState) : CanTxState × List CanTxEvent :=
  let next := { s with canTxSem := s.canTxSem.give.1, inFlight := s.inFlight - 1 }
  if s.canTxSem.waiting then next.restored
  else (next, if s.canTxSem.give.2 then [.lostGive] else [])

/-- One input. One that does not fit leaves the state as it is. -/
def step (s : CanTxState) : CanTxInput → CanTxState × List CanTxEvent
  | .setSate requested => ({ s with gopro := (goproClientSetSate requested s.gopro).1 }, [])
  | .query packet =>
      let traced :=
        goproPacketParseQuery packet.feature packet.action packet.data packet.totalLen s.gopro
      ({ s with gopro := traced.value }, traced.events.map .parse)
  | .canTxWork room => s.pub (canTxWorkHandler s.gopro) room
  | .rxCallback frame cmdRoom txRoom =>
      match rxCallbackFunction frame with
      | [] => (s, [])
      | cmd :: _ =>
          if goproCmdValidator s.gopro.state cmd then
            (s, if cmdRoom then [.command cmd] else [])
          -- The publication returns -ENOMSG.
          else s.pub errStateFrame txRoom
  | .buttonPressed room =>
      let cmd := buttonPressed s.gopro.record.toNat
      (s, if goproCmdValidator s.gopro.state cmd && room then [.command cmd] else [])
  | .waitMsg err =>
      match s.queue with
      | [] => (s, [])
      | frame :: rest =>
          if s.sent || s.canTxSem.waiting then (s, []) else s.canSend frame rest err
  | .semTake =>
      if s.sent then
        let next := { s with sent := false, canTxSem := s.canTxSem.take.1 }
        if s.canTxSem.take.2 then next.restored else (next, [])
      else (s, [])
  | .timeout =>
      if s.canTxSem.waiting then
        ({ s with canTxSem := s.canTxSem.expire, canTxTimeoutFlag := true },
          .semTimeout :: if s.canTxTimeoutFlag then [] else [.logSendTimeout])
      else (s, [])
  | .canTxCallback => if 0 < s.inFlight then s.canTxCallback else (s, [])

end CanTxState

/-- The gateway's own frames over whole input sequences. -/
def canTxMachine : InputMachine CanTxState CanTxInput CanTxEvent where
  step := CanTxState.step

namespace CanTxEvent

def published? : CanTxEvent → Option TxFrame
  | .published frame => some frame
  | _ => none

/-- The frame of a `can_send`. -/
def sent? : CanTxEvent → Option TxFrame
  | .canSend frame _ => some frame
  | _ => none

/-- The controller has not accepted a frame. -/
def refused : CanTxEvent → Bool
  | .canSend _ err => err ≠ 0
  | _ => false

def isTimeout : CanTxEvent → Bool
  | .semTimeout => true
  | _ => false

def isLostGive : CanTxEvent → Bool
  | .lostGive => true
  | _ => false

end CanTxEvent

-----------------------------------------------------------------------------------------
-- Frames that are out
-----------------------------------------------------------------------------------------

/-- What the task is behind: the frames with the controller and the level of the semaphore, less
the take that is still due for a frame.
-/
def CanTxState.due (s : CanTxState) : Int :=
  s.inFlight + s.canTxSem.level - s.sent.toNat

/-- What events leave undone: tokens that are lost and frames without a callback, less the waits
that ended without a token.
-/
def undone (events : List CanTxEvent) : Int :=
  (events.countP CanTxEvent.isLostGive : Int) + events.countP CanTxEvent.refused
    - events.countP CanTxEvent.isTimeout

theorem undone_append (before after : List CanTxEvent)
    : undone (before ++ after) = undone before + undone after := by
  simp only [undone, List.countP_append]
  omega

/-- Events of other kinds leave nothing undone. -/
theorem undone_eq_zero {events : List CanTxEvent}
    (others : ∀ event ∈ events, event.isLostGive = false ∧ event.refused = false
      ∧ event.isTimeout = false)
    : undone events = 0 := by
  have none (counted : CanTxEvent → Bool) (never : ∀ event ∈ events, counted event = false)
      : events.countP counted = 0 := by
    rw [List.countP_eq_zero]
    intro event member
    simp [never event member]
  rw [undone, none _ fun event member => (others event member).1,
    none _ fun event member => (others event member).2.1,
    none _ fun event member => (others event member).2.2]
  rfl

namespace CanTxState

/-- A step without such events that leaves alone what is due. -/
theorem due_of_quiet {before after : CanTxState} {events : List CanTxEvent}
    (same : after.due = before.due) (quiet : undone events = 0)
    : after.due + undone events = before.due := by
  rw [same, quiet, Int.add_zero]

theorem pub_due (s : CanTxState) (frame : TxFrame) (room : Bool)
    : (s.pub frame room).1.due + undone (s.pub frame room).2 = s.due := by
  unfold pub
  split
  · exact due_of_quiet rfl rfl
  · exact due_of_quiet rfl rfl

theorem restored_due (s : CanTxState)
    : s.restored.1.due + undone s.restored.2 = s.due := by
  unfold restored
  split
  · exact due_of_quiet rfl rfl
  · exact due_of_quiet rfl rfl

/-- A frame comes with a take that is due for it; it is with the controller, or refused. -/
theorem canSend_due {s : CanTxState} (free : s.sent = false) (frame : TxFrame)
    (rest : List TxFrame) (err : Int)
    : (s.canSend frame rest err).1.due + undone (s.canSend frame rest err).2 = s.due := by
  by_cases accepted : err = 0
  · have events : undone (s.canSend frame rest err).2 = 0 := by
      simp [canSend, accepted, undone, CanTxEvent.isLostGive, CanTxEvent.refused,
        CanTxEvent.isTimeout]
    refine due_of_quiet ?_ events
    simp only [canSend, accepted, ne_eq, not_true_eq_false, if_false, due, free,
      Bool.toNat_true, Bool.toNat_false]
    omega
  · have logged (logs : List CanTxEvent) (quiet : undone logs = 0)
        : undone (.canSend frame err :: logs) = 1 := by
      rw [← List.singleton_append, undone_append, quiet]
      simp [undone, accepted, CanTxEvent.isLostGive, CanTxEvent.refused, CanTxEvent.isTimeout]
    have events : undone (s.canSend frame rest err).2 = 1 := by
      simp only [canSend, ne_eq, accepted, not_false_eq_true, if_true]
      refine logged _ ?_
      split
      · rfl
      · rfl
    rw [events]
    simp only [canSend, accepted, ne_eq, not_false_eq_true, if_true, due, free,
      Bool.toNat_true, Bool.toNat_false]
    omega

/-- The task takes the token of a callback that was early, or waits. -/
theorem semTake_due {s : CanTxState} (sent : s.sent = true)
    (runs : s.canTxSem.waiting = false)
    : (s.step .semTake).1.due + undone (s.step .semTake).2 = s.due := by
  have level := BinarySemaphore.level_take runs
  have same : { s with sent := false, canTxSem := s.canTxSem.take.1 }.due = s.due := by
    simp only [due, sent, level, Bool.toNat_true, Bool.toNat_false]
    omega
  simp only [step, sent, if_true]
  split
  · rw [restored_due, same]
  · exact due_of_quiet same rfl

/-- A wait that ends without a token is undone. -/
theorem timeout_due {s : CanTxState} (waits : s.canTxSem.waiting = true)
    : (s.step .timeout).1.due + undone (s.step .timeout).2 = s.due := by
  have level := BinarySemaphore.level_expire waits
  have logged (logs : List CanTxEvent) (quiet : undone logs = 0)
      : undone (.semTimeout :: logs) = -1 := by
    rw [← List.singleton_append, undone_append, quiet]
    rfl
  have events : undone (s.step .timeout).2 = -1 := by
    simp only [step, waits, if_true]
    refine logged _ ?_
    split
    · rfl
    · rfl
  rw [events]
  simp only [step, waits, if_true, due, level]
  omega

/-- A callback takes a frame from the controller, and its token reaches the task or is lost. -/
theorem canTxCallback_due {s : CanTxState} (out : 0 < s.inFlight)
    : s.canTxCallback.1.due + undone s.canTxCallback.2 = s.due := by
  have level := s.canTxSem.level_give
  have fewer : { s with canTxSem := s.canTxSem.give.1, inFlight := s.inFlight - 1 }.due
      = s.due - s.canTxSem.give.2.toNat := by
    simp only [due]
    omega
  unfold canTxCallback
  split
  case isTrue waits =>
    have kept : s.canTxSem.give.2 = false := by simp [BinarySemaphore.give, waits]
    rw [restored_due, fewer, kept]
    exact Int.sub_zero _
  case isFalse =>
    rw [fewer]
    cases s.canTxSem.give.2
    case false => exact (Int.add_zero _).trans (Int.sub_zero _)
    case true => exact Int.sub_add_cancel _ 1

/-- The task is at one place: it does not wait for the semaphore before it takes it. -/
def Placed (s : CanTxState) : Prop := s.sent = true → s.canTxSem.waiting = false

theorem pub_placed {s : CanTxState} (placed : s.Placed) (frame : TxFrame) (room : Bool)
    : (s.pub frame room).1.Placed := by
  unfold pub
  split
  · exact placed
  · exact placed

/-- A step leaves the task at one place, and keeps what is due and undone together. -/
theorem step_due {s : CanTxState} (placed : s.Placed) (input : CanTxInput)
    : (s.step input).1.Placed ∧ (s.step input).1.due + undone (s.step input).2 = s.due := by
  have unchanged (events : List CanTxEvent) (quiet : undone events = 0)
      : s.Placed ∧ s.due + undone events = s.due :=
    ⟨placed, due_of_quiet rfl quiet⟩
  cases input with
  | setSate requested => exact ⟨placed, due_of_quiet rfl rfl⟩
  | query packet =>
      refine ⟨placed, due_of_quiet rfl (undone_eq_zero ?_)⟩
      simp [step, CanTxEvent.isLostGive, CanTxEvent.refused, CanTxEvent.isTimeout]
  | canTxWork room => exact ⟨pub_placed placed _ room, s.pub_due _ room⟩
  | rxCallback frame cmdRoom txRoom =>
      simp only [step]
      split
      · exact unchanged [] rfl
      · split
        · apply unchanged
          cases cmdRoom <;> rfl
        · exact ⟨pub_placed placed _ txRoom, s.pub_due _ txRoom⟩
  | buttonPressed room =>
      apply unchanged
      simp only [step]
      split <;> rfl
  | waitMsg err =>
      simp only [step]
      split
      · exact unchanged [] rfl
      · split
        case isTrue => exact unchanged [] rfl
        case isFalse busy =>
          obtain ⟨free, runs⟩ := Bool.or_eq_false_iff.mp (Bool.eq_false_iff.mpr busy)
          refine ⟨fun _ => ?_, canSend_due free _ _ err⟩
          unfold canSend
          split <;> exact runs
  | semTake =>
      by_cases sent : s.sent = true
      · refine ⟨?_, semTake_due sent (placed sent)⟩
        simp only [step, sent, if_true]
        split <;> exact fun again => absurd again (by simp [restored])
      · rw [step, if_neg sent]
        exact unchanged [] rfl
  | timeout =>
      by_cases waits : s.canTxSem.waiting = true
      · refine ⟨?_, timeout_due waits⟩
        rw [step, if_pos waits]
        exact fun _ => rfl
      · rw [step, if_neg waits]
        exact unchanged [] rfl
  | canTxCallback =>
      by_cases out : 0 < s.inFlight
      · rw [step, if_pos out]
        refine ⟨fun _ => ?_, canTxCallback_due out⟩
        unfold canTxCallback
        split <;> exact s.canTxSem.give_waiting
      · rw [step, if_neg out]
        exact unchanged [] rfl

end CanTxState

/-- In every run, the frames that the controller has not completed, the token that is there, the
tokens that were lost and the frames that the controller refused are together as many as the
waits that ended without a callback, and one more while the task is busy with a frame. So before
the first such wait at most one frame is out, and a refused one costs the wait. Witness: each
take is due for one frame, and each callback raises the level.
-/
theorem canTxMachine_balances (inputs : List CanTxInput)
    : let (s, events) := canTxMachine.run .boot inputs
      s.inFlight + s.canTxSem.available.toNat + events.countP CanTxEvent.isLostGive
          + events.countP CanTxEvent.refused
        = events.countP CanTxEvent.isTimeout + (s.sent || s.canTxSem.waiting).toNat := by
  have step (s : CanTxState) (events : List CanTxEvent) (input : CanTxInput)
      (before : s.Placed ∧ s.due + undone events = 0)
      : (canTxMachine.step s input).1.Placed
        ∧ (canTxMachine.step s input).1.due
            + undone (events ++ (canTxMachine.step s input).2) = 0 := by
    obtain ⟨placed, kept⟩ := CanTxState.step_due before.1 input
    refine ⟨placed, ?_⟩
    rw [undone_append]
    have sum := before.2
    simp only [canTxMachine]
    omega
  have boot : CanTxState.boot.Placed ∧ CanTxState.boot.due + undone [] = 0 :=
    ⟨fun sent => absurd sent (by simp [CanTxState.boot]), rfl⟩
  obtain ⟨placed, sum⟩ := canTxMachine.run_history _ step boot inputs
  generalize canTxMachine.run .boot inputs = run at placed sum ⊢
  obtain ⟨s, events⟩ := run
  simp only [List.nil_append, CanTxState.due, BinarySemaphore.level, undone] at sum
  cases sent : s.sent
  case false =>
    simp only [sent, Bool.toNat_false, Bool.false_or] at sum ⊢
    omega
  case true =>
    have runs : s.canTxSem.waiting = false := placed sent
    simp only [sent, runs, Bool.toNat_false, Bool.toNat_true, Bool.true_or] at sum ⊢
    omega

end GoproGateway
