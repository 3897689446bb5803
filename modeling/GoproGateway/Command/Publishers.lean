import GoproGateway.Send.Fragmenter

/-! The publishers of `gopro_cmd_chan`, and the commands their calls publish.

A call is modelled by the publications it attempts, one command after the other; what it
publishes does not depend on the results.
-/

namespace GoproGateway

/-- The contexts that publish commands, two of which are interrupts. -/
inductive Publisher where
  /-- `can_rx_ble_subscriber_task`. -/
  | canRxBleSubscriber
  /-- The thread of the notification callback. -/
  | bleReceive
  | discoveryWork
  /-- `rx_callback_function`. -/
  | canReceive
  /-- `button_pressed`. -/
  | button
  deriving DecidableEq, Repr

def gpcanInputCmdId : Nat := 0x772
def gpcanInputSetId : Nat := 0x774
def gpcanInputQueryId : Nat := 0x776
def gpcanInputNetId : Nat := 0x778
def gpcanInputControlId : Nat := 0x77A

/-- `struct can_frame`, of a classic bus. -/
structure CanFrame where
  id : Nat
  dlc : Nat
  data : List UInt8
  dlc_le : dlc ≤ 8
  data_length : data.length = 8
  deriving DecidableEq, Repr

/-- The command type for a frame id. -/
def CanFrame.cmdType (frame : CanFrame) : Option Nat :=
  if frame.id = gpcanInputCmdId then some gpCntrlHandleCmd
  else if frame.id = gpcanInputSetId then some gpCntrlHandleSettings
  else if frame.id = gpcanInputQueryId then some gpCntrlHandleQuery
  else if frame.id = gpcanInputNetId then some gpCntrlHandleNet
  else if frame.id = gpcanInputControlId then some cmdTypeControl
  else none

theorem zeros_length : (List.replicate goproCmdDataLen (0 : UInt8)).length = goproCmdDataLen :=
  List.length_replicate

/-- A command with its type set and everything else 0. -/
def GoproCmd.zeroed (cmdType : Nat) : GoproCmd where
  len := 0
  cmdType
  data := List.replicate goproCmdDataLen 0
  data_length := zeros_length

/-- `rx_callback_function`: what it publishes for a frame. -/
def rxCallbackFunction (frame : CanFrame) : List GoproCmd :=
  match frame.cmdType with
  | none => []
  | some cmdType =>
      if frame.dlc > 0 ∧ frame.dlc ≤ goproCmdDataLen then
        [(GoproCmd.zeroed cmdType).fill (frame.data.take frame.dlc) frame.dlc]
      else []

/-- A static command of the firmware, with zeros behind its bytes. -/
def staticCmd (cmdType : Nat) (bytes : List UInt8) : GoproCmd :=
  (GoproCmd.zeroed cmdType).fill bytes bytes.length

def goproStartRecMsg : GoproCmd := staticCmd gpCntrlHandleCmd [0x03, 0x01, 0x01, 0x01]
def goproStopRecMsg : GoproCmd := staticCmd gpCntrlHandleCmd [0x03, 0x01, 0x01, 0x00]

/-- `button_pressed`, with `gopro_state.record`. -/
def buttonPressed (record : Nat) : GoproCmd :=
  if record = 1 then goproStopRecMsg else goproStartRecMsg

/-- A call of a publisher. -/
inductive PublishCall where
  | goproSendBuf (stack : StackBytes) (data : List UInt8) (len : Nat) (type : UInt8)
  | goproSendBigData (stack : StackBytes) (data : List UInt8) (len : Nat)
    (type feature action : UInt8)
  | rxCallbackFunction (frame : CanFrame)
  | buttonPressed (record : Nat)
  /-- A single command of the caller's own: the request for access points, or one that
  discovery sends at the end. -/
  | zbusChanPub (cmd : GoproCmd)
  deriving DecidableEq, Repr

/-- The publications that a call attempts, in order. -/
def PublishCall.cmds : PublishCall → List GoproCmd
  | goproSendBuf stack data len type => GoproGateway.goproSendBuf stack data len type
  | goproSendBigData stack data len type feature action =>
      GoproGateway.goproSendBigData stack data len type feature action
  | rxCallbackFunction frame => GoproGateway.rxCallbackFunction frame
  | buttonPressed record => [GoproGateway.buttonPressed record]
  | zbusChanPub cmd => [cmd]

end GoproGateway
