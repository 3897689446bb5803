import GoproGateway.Client.Notify

/-! Subscriptions: `gopro_set_subscribe`, and the callbacks that the stack makes for them.

The stack ends a subscription with one callback without data. The callback finds the flag by the
value handle, and clears the value handle, so the values of ended subscriptions are 0.
-/

namespace GoproGateway

/-- The client, and the subscriptions that the stack has accepted and not ended. -/
structure SubscribeState where
  client : NotifyClient
  active : List Nat

inductive SubscribeInput where
  /-- A call of `gopro_set_subscribe`, in which `bt_gatt_subscribe` returns `err`. -/
  | setSubscribe (handle : Nat) (err : Int)
  | notification (params : Nat) (bytes : List UInt8) (stack : StackBytes)
  /-- The stack ends a subscription. -/
  | unsubscribed (params : Nat)
  deriving DecidableEq, Repr

inductive SubscribeEvent where
  /-- `gopro_set_subscribe` returns `code`. -/
  | returned (code : Int)
  /-- A notification is passed on to `gopro_packet_build`. -/
  | passedOn (cmd : GoproCmd)
  deriving DecidableEq, Repr

namespace NotifyClient

/-- The value handle and the flag as `gopro_set_subscribe` stores them. -/
def subscribing (client : NotifyClient) (notifyHandle : Nat → Nat) (handle : Nat)
    : NotifyClient where
  valueHandle := Function.update client.valueHandle handle (notifyHandle handle)
  notifEnabled := Function.update client.notifEnabled handle true

end NotifyClient

namespace SubscribeState

/-- Before the first subscription; the parameters are static, and so are 0. -/
def boot : SubscribeState where
  client := { valueHandle := fun _ => 0, notifEnabled := fun _ => false }
  active := []

/-- `gopro_set_subscribe`, where `notifyHandle` is `handles[i].notify`. An error of the stack
takes the flag back, and the call returns 0.
-/
def setSubscribe (notifyHandle : Nat → Nat) (s : SubscribeState) (handle : Nat) (err : Int)
    : SubscribeState × Int :=
  if handle ≥ gpCntrlHandleEnd then (s, -1)
  else if s.client.notifEnabled handle then (s, -ealready)
  else
    let client := s.client.subscribing notifyHandle handle
    if err = 0 then ({ client, active := handle :: s.active }, 0)
    else
      let notifEnabled := Function.update client.notifEnabled handle false
      ({ s with client := { client with notifEnabled } }, 0)

/-- One input; the stack makes callbacks for active subscriptions. -/
def step (notifyHandle : Nat → Nat) (s : SubscribeState)
    : SubscribeInput → SubscribeState × List SubscribeEvent
  | .setSubscribe handle err =>
      let (s, code) := s.setSubscribe notifyHandle handle err
      (s, [.returned code])
  | .notification params bytes stack =>
      if params ∈ s.active then
        let call := { params, data := some bytes, stack, kMalloc := none }
        let (client, cmd, _) := onNotifyReceived s.client call
        ({ s with client }, (cmd.map .passedOn).toList)
      else (s, [])
  | .unsubscribed params =>
      if params ∈ s.active then
        let call := { params, data := none, stack := .zero, kMalloc := none }
        ({
          client := (onNotifyReceived s.client call).1
          active := s.active.erase params
        }, [])
      else (s, [])

end SubscribeState

namespace SubscribeState

variable {notifyHandle : Nat → Nat} {s : SubscribeState}

/-- The flags are those of the active subscriptions, whose parameters hold their own handle. -/
structure FollowsActive (notifyHandle : Nat → Nat) (s : SubscribeState) : Prop where
  enabled : ∀ i < gpCntrlHandleEnd, s.client.notifEnabled i = true ↔ i ∈ s.active
  once : s.active.Nodup
  small : ∀ i ∈ s.active, i < gpCntrlHandleEnd
  stale : ∀ i, s.client.valueHandle i = 0 ∨ s.client.valueHandle i = notifyHandle i
  current : ∀ i ∈ s.active, s.client.valueHandle i = notifyHandle i

/-- The parameters of an active subscription are found under their own index. -/
theorem FollowsActive.match_iff (follows : s.FollowsActive notifyHandle)
    (handles : DistinctHandles notifyHandle) {params j : Nat} (active : params ∈ s.active)
    (other : j < gpCntrlHandleEnd)
    : s.client.valueHandle params = s.client.valueHandle j ↔ params = j :=
  handles.match_iff s.client.valueHandle follows.stale (follows.current params active)
    (follows.small params active) other

/-- A notification of an active subscription is taken for its own handle, since the handles
differ.
-/
theorem FollowsActive.cmdType (follows : s.FollowsActive notifyHandle)
    (handles : DistinctHandles notifyHandle) {params : Nat} (active : params ∈ s.active)
    : s.client.cmdType params = params :=
  NotifyClient.cmdType_of_unique (follows.small params active)
    fun _ other => (follows.match_iff handles active other).mp

/-- The end of an active subscription clears its own value handle and flag. -/
theorem FollowsActive.unsubscribed (follows : s.FollowsActive notifyHandle)
    (handles : DistinctHandles notifyHandle) {params : Nat} (active : params ∈ s.active)
    : (s.client.unsubscribed params).1 = s.client.clear params params := by
  have small := follows.small params active
  have match_iff (j : Nat) (other : j < gpCntrlHandleEnd) :=
    follows.match_iff handles active other
  unfold NotifyClient.unsubscribed
  simp only [match_iff gpCntrlHandleSettings (by decide), match_iff gpCntrlHandleCmd (by decide),
    match_iff gpCntrlHandleQuery (by decide), match_iff gpCntrlHandleNet (by decide)]
  rcases lt_handleEnd_iff.mp small with rfl | rfl | rfl | rfl <;> rfl

end SubscribeState

end GoproGateway
