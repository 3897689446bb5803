import GoproGateway.Client.Declarations
import GoproGateway.Library.InputMachine
import Mathlib.Algebra.Group.Nat.Defs
import Mathlib.Logic.Function.Basic

/-! Writes to the camera: `bt_gopro_client_send` and `on_sent_data` of `gopro_client.c`.

A call runs up to its next access to what it shares with other threads and with the stack, so
calls and completions interleave. An input that does not fit what its thread is about to do
leaves the state as it is.
-/

namespace GoproGateway

def enotconn : Int := 128
def enotsup : Int := 134

/-- `struct bt_gatt_write_params`, whose callback is always `on_sent_data`. -/
structure WriteParams where
  handle : Nat
  offset : Nat
  /-- The array that `data` points to. -/
  data : List UInt8
  length : Nat
  deriving DecidableEq, Repr

def WriteParams.zero : WriteParams := ⟨0, 0, [], 0⟩

/-- The part of `struct bt_gopro_client` that writes use, by control handle. -/
structure WriteClient where
  /-- `conn` is not `NULL`. -/
  hasConn : Bool
  /-- `handles[i].write`. -/
  writeHandle : Nat → Nat
  /-- The `WRITE_PENDING` flags of `state`. -/
  writePending : Nat → Bool
  writeParams : Nat → WriteParams

namespace WriteClient

def setPending (client : WriteClient) (index : Nat) (pending : Bool) : WriteClient :=
  { client with writePending := Function.update client.writePending index pending }

/-- The handle index of a command, or the error that the call returns at once. Every index
below the end has a flag of its own.
-/
def sendIndex (client : WriteClient) (cmd : GoproCmd) : Except Int Nat :=
  if !client.hasConn then .error (-enotconn)
  else if cmd.cmdType ≥ gpCntrlHandleEnd then .error (-enotsup)
  else .ok cmd.cmdType

/-- The stores to `write_params[handle_index]`; the length is a `uint16_t`. -/
def storeParams (client : WriteClient) (cmd : GoproCmd) : WriteClient :=
  {
    client with
    writeParams := Function.update client.writeParams cmd.cmdType {
      handle := client.writeHandle cmd.cmdType
      offset := 0
      data := cmd.data
      length := cmd.len % 2 ^ 16
    }
  }

/-- `bt_gopro_client_send` with nothing in between, when `bt_gatt_write` returns `err`: the
code it returns, and the write it has passed to the stack.
-/
def btGoproClientSend (client : WriteClient) (cmd : GoproCmd) (err : Int)
    : WriteClient × Int × Option WriteParams :=
  match client.sendIndex cmd with
  | .error code => (client, code, none)
  | .ok index =>
      if client.writePending index then (client, -ealready, none)
      else
        let client := (client.setPending index true).storeParams cmd
        let params := client.writeParams index
        if err = 0 then (client, err, some params)
        else (client.setPending index false, err, some params)

/-- `on_sent_data` for the parameters at `params`: the flag it clears is the one of the first
parameters with their handle. The result tells whether it gives `ble_write_sem`.
-/
def onSentData (client : WriteClient) (params : Nat) : WriteClient × Bool :=
  let handle := (client.writeParams params).handle
  if handle = (client.writeParams gpCntrlHandleSettings).handle then
    (client.setPending gpCntrlHandleSettings false, true)
  else if handle = (client.writeParams gpCntrlHandleCmd).handle then
    (client.setPending gpCntrlHandleCmd false, true)
  else if handle = (client.writeParams gpCntrlHandleQuery).handle then
    (client.setPending gpCntrlHandleQuery false, true)
  else if handle = (client.writeParams gpCntrlHandleNet).handle then
    (client.setPending gpCntrlHandleNet false, true)
  else (client, false)

/-- The parameters of a handle match themselves, so a completion gives the semaphore. -/
theorem onSentData_gives (client : WriteClient) {params : Nat} (small : params < gpCntrlHandleEnd)
    : (client.onSentData params).2 = true := by
  simp only [onSentData]
  split_ifs with settings cmd query net
  · rfl
  · rfl
  · rfl
  · rfl
  · rcases lt_handleEnd_iff.mp small with rfl | rfl | rfl | rfl
    · exact absurd rfl cmd
    · exact absurd rfl settings
    · exact absurd rfl query
    · exact absurd rfl net

theorem setPending_other {client : WriteClient} {index i : Nat} (pending : Bool)
    (different : i ≠ index)
    : (client.setPending index pending).writePending i = client.writePending i := by
  simp [setPending, different]

theorem storeParams_other {client : WriteClient} {cmd : GoproCmd} {i : Nat}
    (different : i ≠ cmd.cmdType)
    : (client.storeParams cmd).writeParams i = client.writeParams i := by
  simp [storeParams, different]

theorem sendIndex_small {client : WriteClient} {cmd : GoproCmd} {index : Nat}
    (accepted : client.sendIndex cmd = .ok index)
    : index = cmd.cmdType ∧ cmd.cmdType < gpCntrlHandleEnd := by
  unfold sendIndex at accepted
  split_ifs at accepted with conn range
  exact ⟨(Except.ok.inj accepted).symm, Nat.lt_of_not_le range⟩

/-- What is passed to the stack are the command's bytes, for the handle of its type. -/
theorem btGoproClientSend_write {client : WriteClient} {cmd : GoproCmd} {err : Int}
    {params : WriteParams} (written : (client.btGoproClientSend cmd err).2.2 = some params)
    : cmd.cmdType < gpCntrlHandleEnd
      ∧ params = {
        handle := client.writeHandle cmd.cmdType
        offset := 0
        data := cmd.data
        length := cmd.len % 2 ^ 16
      } := by
  unfold btGoproClientSend at written
  split at written
  case h_1 => cases written
  case h_2 index accepted =>
      obtain ⟨rfl, small⟩ := sendIndex_small accepted
      split at written
      · cases written
      · dsimp only at written
        have stored : ((client.setPending cmd.cmdType true).storeParams cmd).writeParams
            cmd.cmdType = params := by
          split at written <;> exact Option.some.inj written
        refine ⟨small, ?_⟩
        rw [← stored]
        simp [storeParams, setPending]

/-- After discovery has assigned the handles. -/
def assigned (writeHandle : Nat → Nat) : WriteClient where
  hasConn := true
  writeHandle
  writePending _ := false
  writeParams _ := .zero

end WriteClient

/-- How far a thread's call of `bt_gopro_client_send` is. -/
inductive SendPhase where
  /-- No call is executing. -/
  | returned
  /-- About to test and set the flag. -/
  | entered (cmd : GoproCmd)
  /-- About to store the parameters. -/
  | flagged (cmd : GoproCmd)
  /-- About to call `bt_gatt_write`. -/
  | stored (cmd : GoproCmd)
  /-- About to clear the flag and return the code. -/
  | failed (index : Nat) (code : Int)
  deriving DecidableEq, Repr

structure SendState where
  client : WriteClient
  calls : Nat → SendPhase
  /-- The writes that the stack has accepted and not completed: the index of the parameters it
  was passed, and what they were. -/
  inFlight : List (Nat × WriteParams)

inductive SendInput where
  | send (thread : Nat) (cmd : GoproCmd)
  | testAndSetBit (thread : Nat)
  | storeParams (thread : Nat)
  /-- `bt_gatt_write` returns `err`. -/
  | gattWrite (thread : Nat) (err : Int)
  | clearBit (thread : Nat)
  /-- The stack completes a write on these parameters. -/
  | onSentData (params : Nat)
  deriving DecidableEq, Repr

/-- A call of `bt_gopro_client_send` returns `code`. -/
structure SendReturned where
  thread : Nat
  code : Int
  deriving DecidableEq, Repr

namespace SendState

/-- After discovery has assigned the handles, and before the first call. -/
def assigned (writeHandle : Nat → Nat) : SendState where
  client := .assigned writeHandle
  calls _ := .returned
  inFlight := []

def setCall (s : SendState) (thread : Nat) (phase : SendPhase) : SendState :=
  { s with calls := Function.update s.calls thread phase }

@[simp] theorem setCall_calls_self (s : SendState) (thread : Nat) (phase : SendPhase)
    : (s.setCall thread phase).calls thread = phase := by
  simp [setCall]

@[simp] theorem setCall_client (s : SendState) (thread : Nat) (phase : SendPhase)
    : (s.setCall thread phase).client = s.client := rfl

/-- Forgets one write on the parameters. -/
def completed (params : Nat) (inFlight : List (Nat × WriteParams)) : List (Nat × WriteParams) :=
  inFlight.eraseP fun write => write.1 = params

/-- One input. -/
def step (s : SendState) : SendInput → SendState × List SendReturned
  | .send thread cmd =>
      match s.calls thread with
      | .returned =>
          match s.client.sendIndex cmd with
          | .error code => (s, [⟨thread, code⟩])
          | .ok _ => (s.setCall thread (.entered cmd), [])
      | _ => (s, [])
  | .testAndSetBit thread =>
      match s.calls thread with
      | .entered cmd =>
          if s.client.writePending cmd.cmdType then
            (s.setCall thread .returned, [⟨thread, -ealready⟩])
          else
            ({ s with client := s.client.setPending cmd.cmdType true }.setCall thread
              (.flagged cmd), [])
      | _ => (s, [])
  | .storeParams thread =>
      match s.calls thread with
      | .flagged cmd =>
          ({ s with client := s.client.storeParams cmd }.setCall thread (.stored cmd), [])
      | _ => (s, [])
  | .gattWrite thread err =>
      match s.calls thread with
      | .stored cmd =>
          if err = 0 then
            let write := (cmd.cmdType, s.client.writeParams cmd.cmdType)
            ({ s with inFlight := s.inFlight ++ [write] }.setCall thread .returned,
              [⟨thread, err⟩])
          else (s.setCall thread (.failed cmd.cmdType err), [])
      | _ => (s, [])
  | .clearBit thread =>
      match s.calls thread with
      | .failed index code =>
          ({ s with client := s.client.setPending index false }.setCall thread .returned,
            [⟨thread, code⟩])
      | _ => (s, [])
  | .onSentData params =>
      if params ∈ s.inFlight.map Prod.fst then
        ({ s with
          client := (s.client.onSentData params).1
          inFlight := completed params s.inFlight
        }, [])
      else (s, [])

end SendState

/-- Writes over whole input sequences. -/
def sendMachine : InputMachine SendState SendInput SendReturned where
  step := SendState.step

end GoproGateway
