import GoproGateway.Packet.Frames
import Mathlib.Logic.Function.Basic

/-! The notification callback in front of the reassembler.

All four characteristics share one callback, and it passes every notification to one packet.
What it adds to the bytes is the command type, which it finds by the value handle.
-/

namespace GoproGateway

/-- The part of `struct bt_gopro_client` that the callback uses: by control handle, the value
handle of the subscription, and whether its notifications are enabled.
-/
structure NotifyClient where
  valueHandle : Nat → Nat
  notifEnabled : Nat → Bool

/-- `BT_GATT_ITER_*`. -/
inductive BtGattIter where
  | stop
  | continue
  deriving DecidableEq, Repr

/-- One call of the callback: the subscription it is for, the notified bytes (`none` is the
NULL pointer of an unsubscription), what the stack held, and the outcome of an allocation.
-/
structure NotifyCall where
  params : Nat
  data : Option (List UInt8)
  stack : StackBytes
  kMalloc : Option Nat

namespace NotifyClient

/-- Clears a subscription's value handle and its enabled flag. -/
def clear (client : NotifyClient) (params handle : Nat) : NotifyClient where
  valueHandle := Function.update client.valueHandle params 0
  notifEnabled := Function.update client.notifEnabled handle false

/-- The unsubscription branch. -/
def unsubscribed (client : NotifyClient) (params : Nat) : NotifyClient × BtGattIter :=
  let valueHandle := client.valueHandle params
  if valueHandle = client.valueHandle gpCntrlHandleSettings then
    (client.clear params gpCntrlHandleSettings, .stop)
  else if valueHandle = client.valueHandle gpCntrlHandleCmd then
    (client.clear params gpCntrlHandleCmd, .stop)
  else if valueHandle = client.valueHandle gpCntrlHandleQuery then
    (client.clear params gpCntrlHandleQuery, .stop)
  else if valueHandle = client.valueHandle gpCntrlHandleNet then
    (client.clear params gpCntrlHandleNet, .stop)
  else
    (client, .continue)

/-- The command type of a notification: the first control handle with its value handle. -/
def cmdType (client : NotifyClient) (params : Nat) : Nat :=
  ((List.range gpCntrlHandleEnd).find?
    fun i => client.valueHandle params = client.valueHandle i).getD cmdTypeControl

/-- Distinct subscriptions have distinct value handles. -/
def Distinct (client : NotifyClient) : Prop :=
  ∀ i < gpCntrlHandleEnd, ∀ j < gpCntrlHandleEnd,
    client.valueHandle i = client.valueHandle j → i = j

end NotifyClient

/-- The command on the callback's stack once the notified bytes are copied into it. -/
def receivedCmd (stack : StackBytes) (cmdType : Nat) (bytes : List UInt8) : GoproCmd :=
  let len := if bytes.length > goproCmdDataLen then goproCmdDataLen else bytes.length
  {
    len
    cmdType
    data := ByteBuffer.write stack.bytes 0 (bytes.take len)
    data_length := by rw [ByteBuffer.write_length, stack.bytes_length]
  }

/-- The callback up to its call of `gopro_packet_build`, if it makes one. -/
def onNotifyReceived (client : NotifyClient) (call : NotifyCall)
    : NotifyClient × Option GoproCmd × BtGattIter :=
  match call.data with
  | none =>
      let (client, iter) := client.unsubscribed call.params
      (client, none, iter)
  | some bytes =>
      let cmdType := client.cmdType call.params
      if cmdType = cmdTypeControl then
        (client, none, .continue)
      else
        (client, some (receivedCmd call.stack cmdType bytes), .continue)

/-- The callback with the packet behind it, over whole notification sequences. -/
def notifyReceiver : InputMachine (NotifyClient × GoproPacket) NotifyCall PacketEvent where
  step state call :=
    let (client, cmd?, _) := onNotifyReceived state.1 call
    match cmd? with
    | none => ((client, state.2), [])
    | some cmd =>
        let (packet, events) := packetBuilder.step state.2 ⟨cmd, call.kMalloc⟩
        ((client, packet), events)

theorem receivedCmd_len (stack : StackBytes) (cmdType : Nat) (bytes : List UInt8)
    : (receivedCmd stack cmdType bytes).len = min bytes.length goproCmdDataLen := by
  simp only [receivedCmd]
  split <;> omega

theorem receivedCmd_small (stack : StackBytes) (cmdType : Nat) (bytes : List UInt8)
    : (receivedCmd stack cmdType bytes).len ≤ goproCmdDataLen := by
  rw [receivedCmd_len]
  exact Nat.min_le_right ..

/-- The received bytes that count are the notified ones, cut at the command's size. -/
theorem receivedCmd_payload (stack : StackBytes) (cmdType : Nat) (bytes : List UInt8)
    : (receivedCmd stack cmdType bytes).payload = bytes.take goproCmdDataLen := by
  have taken : bytes.take (min bytes.length goproCmdDataLen) = bytes.take goproCmdDataLen := by
    rw [List.take_eq_take_iff]
    omega
  have size : (bytes.take (min bytes.length goproCmdDataLen)).length
      = min bytes.length goproCmdDataLen := by
    rw [List.length_take]
    omega
  have front : (ByteBuffer.write stack.bytes 0
        (bytes.take (min bytes.length goproCmdDataLen))).take
          (min bytes.length goproCmdDataLen)
      = bytes.take (min bytes.length goproCmdDataLen) := by
    have room : (bytes.take (min bytes.length goproCmdDataLen)).length
        ≤ stack.bytes.length := by
      rw [size, stack.bytes_length]
      omega
    have written := ByteBuffer.take_write_front room
    rwa [size] at written
  have len := receivedCmd_len stack cmdType bytes
  rw [GoproCmd.payload, ← taken, ← front, ← len]
  rfl

/-- A value handle that no earlier subscription has leads to its own control handle. -/
theorem NotifyClient.cmdType_of_unique {client : NotifyClient} {handle : Nat}
    (handle_lt : handle < gpCntrlHandleEnd)
    (unique : ∀ j < gpCntrlHandleEnd, client.valueHandle handle = client.valueHandle j
      → handle = j)
    : client.cmdType handle = handle := by
  have found : (List.range gpCntrlHandleEnd).find?
      (fun i => client.valueHandle handle = client.valueHandle i) = some handle := by
    rw [List.find?_range_eq_some]
    refine ⟨by simp, List.mem_range.mpr handle_lt, ?_⟩
    intro j before
    simp only [Bool.not_eq_true', decide_eq_false_iff_not]
    intro same
    have equal := unique j (Nat.lt_trans before handle_lt) same
    exact Nat.ne_of_gt before equal
  rw [NotifyClient.cmdType, found, Option.getD_some]

/-- With distinct value handles a subscription's notifications carry its control handle. -/
theorem NotifyClient.Distinct.cmdType_eq {client : NotifyClient} (distinct : client.Distinct)
    {handle : Nat} (handle_lt : handle < gpCntrlHandleEnd)
    : client.cmdType handle = handle :=
  cmdType_of_unique handle_lt (distinct handle handle_lt)

-----------------------------------------------------------------------------------------
-- Runs of notifications
-----------------------------------------------------------------------------------------

/-- The call of `gopro_packet_build` that a notification leads to. -/
def NotifyCall.built (client : NotifyClient) (call : NotifyCall) : Option BuildCall :=
  (onNotifyReceived client call).2.1.map fun cmd => ⟨cmd, call.kMalloc⟩

theorem onNotifyReceived_client {call : NotifyCall} (client : NotifyClient)
    (notified : call.data ≠ none)
    : (onNotifyReceived client call).1 = client := by
  obtain ⟨bytes, data⟩ := Option.ne_none_iff_exists'.mp notified
  simp only [onNotifyReceived, data]
  split <;> rfl

theorem notifyReceiver_step {call : NotifyCall} (client : NotifyClient) (packet : GoproPacket)
    (notified : call.data ≠ none)
    : notifyReceiver.step (client, packet) call
      = match call.built client with
        | none => ((client, packet), [])
        | some built =>
            ((client, (packetBuilder.step packet built).1),
              (packetBuilder.step packet built).2) := by
  have same := onNotifyReceived_client client notified
  simp only [notifyReceiver, NotifyCall.built]
  cases received : (onNotifyReceived client call).2.1 <;> simp [same]

/-- Notifications leave the client as it is, so a run of them is a run of the reassembler
over the commands they are turned into.
-/
theorem notifyReceiver_run (client : NotifyClient) (packet : GoproPacket)
    {calls : List NotifyCall} (notified : ∀ call ∈ calls, call.data ≠ none)
    : notifyReceiver.run (client, packet) calls
      = ((client, (packetBuilder.run packet (calls.filterMap (·.built client))).1),
          (packetBuilder.run packet (calls.filterMap (·.built client))).2) := by
  induction calls generalizing packet with
  | nil => rfl
  | cons call rest ih =>
      have later (packet : GoproPacket) :=
        ih packet (fun call member => notified call (by simp [member]))
      rw [InputMachine.run_cons, notifyReceiver_step client packet (notified call (by simp)),
        List.filterMap_cons]
      cases built : call.built client with
      | none => simp [later]
      | some built => simp [later]

/-- A client whose four subscriptions have the value handles 1 to 4. -/
def numberedClient : NotifyClient where
  valueHandle := fun handle => handle + 1
  notifEnabled := fun _ => true

theorem numberedClient_distinct : numberedClient.Distinct := by
  intro i _ j _ same
  exact Nat.succ.inj same

def notified (params : Nat) (bytes : List UInt8) : NotifyCall :=
  { params, data := some bytes, stack := .zero, kMalloc := some 0 }

end GoproGateway
