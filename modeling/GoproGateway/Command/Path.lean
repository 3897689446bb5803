import GoproGateway.Client.Commands
import GoproGateway.Client.Writes
import GoproGateway.Command.Publishers

/-! The path of commands to the camera: `gopro_cmd_chan`, its publishers, and
`gopro_cmd_subscriber_task`, which writes one command after the other.

Publishers run one publication at a time, and the task up to its next wait. What the bus, the
stack and the timeouts make of it is part of the inputs. An input that does not fit leaves the
state as it is.
-/

namespace GoproGateway

/-- Where `gopro_cmd_subscriber_task` is. -/
inductive CmdTaskPhase where
  /-- Waiting for a message. -/
  | waiting
  | received (cmd : GoproCmd)
  /-- Waiting for `ble_write_sem`. -/
  | taking
  deriving DecidableEq, Repr

/-- A write that the stack has accepted and not completed. -/
structure CmdWrite where
  /-- The iteration of the task that submitted it. -/
  iteration : Nat
  /-- The index of its parameters. -/
  params : Nat
  deriving DecidableEq, Repr

structure CommandState where
  /-- `gopro_state.state`. -/
  state : GoproStateList
  /-- What each publisher's call has yet to publish. -/
  remaining : Publisher → List GoproCmd
  /-- How many calls each publisher has made. -/
  calls : Publisher → Nat
  /-- The messages of `gopro_cmd_subscriber`. -/
  queue : List GoproCmd
  task : CmdTaskPhase
  /-- How many commands the task has submitted. -/
  iteration : Nat
  client : WriteClient
  /-- The count of `ble_write_sem`, at most 1. -/
  bleWriteSem : Nat
  inFlight : List CmdWrite
  /-- The iterations whose write has completed. -/
  completed : List Nat

/-- Before discovery has assigned a handle. -/
def CommandState.boot : CommandState where
  state := .unknown
  remaining _ := []
  calls _ := 0
  queue := []
  task := .waiting
  iteration := 0
  client := { WriteClient.assigned (fun _ => 0) with hasConn := false }
  bleWriteSem := 0
  inFlight := []
  completed := []

inductive CommandInput where
  /-- A thread sets `gopro_state.state`. -/
  | setState (state : GoproStateList)
  /-- Discovery assigns the write handles and the connection. -/
  | handlesAssign (writeHandle : Nat → Nat)
  | call (publisher : Publisher) (call : PublishCall)
  /-- A publisher's next publication; `room` tells whether the bus has room for it. -/
  | publish (publisher : Publisher) (room : Bool)
  /-- `zbus_sub_wait_msg` returns a message to the task. -/
  | waitMsg
  /-- The task handles its message; `bt_gatt_write` returns `err`, if it is called. -/
  | handle (err : Int)
  /-- `k_sem_take` returns 0. -/
  | semTake
  /-- `k_sem_take` returns after `BLE_WRITE_TIMEOUT`. -/
  | timeout
  /-- The stack completes a write. -/
  | onSentData (write : CmdWrite)

/-- A command on the channel: whose it is, of which of its calls, and the state that the
validator has seen.
-/
structure PublishedCmd where
  publisher : Publisher
  call : Nat
  state : GoproStateList
  cmd : GoproCmd
  deriving DecidableEq, Repr

inductive CommandEvent where
  | published (entry : PublishedCmd)
  /-- The task has handled a command without a write. -/
  | skipped (cmd : GoproCmd)
  /-- The task has called `bt_gatt_write` for a command. -/
  | written (client : WriteClient) (cmd : GoproCmd) (params : WriteParams)

namespace CommandState

/-- `zbus_chan_pub` of a publisher's next command. -/
def publish (s : CommandState) (publisher : Publisher) (cmd : GoproCmd) (rest : List GoproCmd)
    (room : Bool)
    : CommandState × List CommandEvent :=
  let s := { s with remaining := Function.update s.remaining publisher rest }
  if goproCmdValidator s.state cmd && room then
    ({ s with queue := s.queue ++ [cmd] },
      [.published ⟨publisher, s.calls publisher, s.state, cmd⟩])
  else (s, [])

/-- The task's handling of a command, up to its wait for the semaphore: the error of a refused
one is only logged.
-/
def handle (s : CommandState) (cmd : GoproCmd) (err : Int) : CommandState × List CommandEvent :=
  if (goproCtrlParse cmd).1 = 1 then ({ s with task := .waiting }, [.skipped cmd])
  else
    let (client, _, write) := s.client.btGoproClientSend cmd err
    let next := { s with client, task := .taking, iteration := s.iteration + 1 }
    match write with
    | none => (next, [.skipped cmd])
    | some params =>
        let inFlight :=
          if err = 0 then s.inFlight ++ [⟨s.iteration + 1, cmd.cmdType⟩] else s.inFlight
        ({ next with inFlight }, [.written s.client cmd params])

/-- `on_sent_data` for a write. -/
def onSentData (s : CommandState) (write : CmdWrite) : CommandState :=
  let (client, gives) := s.client.onSentData write.params
  {
    s with
    client
    bleWriteSem := if gives then min (s.bleWriteSem + 1) 1 else s.bleWriteSem
    inFlight := s.inFlight.erase write
    completed := write.iteration :: s.completed
  }

/-- One input. -/
def step (s : CommandState) : CommandInput → CommandState × List CommandEvent
  | .setState state => ({ s with state }, [])
  | .handlesAssign writeHandle =>
      ({ s with client := { s.client with hasConn := true, writeHandle } }, [])
  | .call publisher call =>
      match s.remaining publisher with
      | [] =>
          ({
            s with
            remaining := Function.update s.remaining publisher call.cmds
            calls := Function.update s.calls publisher (s.calls publisher + 1)
          }, [])
      | _ => (s, [])
  | .publish publisher room =>
      match s.remaining publisher with
      | cmd :: rest => s.publish publisher cmd rest room
      | [] => (s, [])
  | .waitMsg =>
      match s.task, s.queue with
      | .waiting, cmd :: rest => ({ s with queue := rest, task := .received cmd }, [])
      | _, _ => (s, [])
  | .handle err =>
      match s.task with
      | .received cmd => s.handle cmd err
      | _ => (s, [])
  | .semTake =>
      if s.task = .taking ∧ 0 < s.bleWriteSem then
        ({ s with task := .waiting, bleWriteSem := s.bleWriteSem - 1 }, [])
      else (s, [])
  | .timeout =>
      if s.task = .taking ∧ s.bleWriteSem = 0 then ({ s with task := .waiting }, []) else (s, [])
  | .onSentData write => if write ∈ s.inFlight then (s.onSentData write, []) else (s, [])

/-- A publication leaves the publisher with the rest, and brings a valid command onto the
channel or nothing.
-/
theorem publish_cases (s : CommandState) (publisher : Publisher) (cmd : GoproCmd)
    (rest : List GoproCmd) (room : Bool)
    : let remaining := Function.update s.remaining publisher rest;
      (goproCmdValidator s.state cmd = true
        ∧ s.publish publisher cmd rest room
          = ({ s with remaining, queue := s.queue ++ [cmd] },
            [.published ⟨publisher, s.calls publisher, s.state, cmd⟩]))
      ∨ s.publish publisher cmd rest room = ({ s with remaining }, []) := by
  simp only [publish]
  split
  case isTrue valid => exact .inl ⟨(Bool.and_eq_true_iff.mp valid).1, rfl⟩
  case isFalse => exact .inr rfl

/-- The task skips a control command, or waits after a command that is refused or written. -/
theorem handle_cases (s : CommandState) (cmd : GoproCmd) (err : Int)
    : s.handle cmd err = ({ s with task := .waiting }, [.skipped cmd])
      ∨ (∃ client, s.handle cmd err
        = ({ s with client, task := .taking, iteration := s.iteration + 1 }, [.skipped cmd]))
      ∨ ∃ client params, (s.client.btGoproClientSend cmd err).2.2 = some params
        ∧ s.handle cmd err
          = ({
              s with
              client
              task := .taking
              iteration := s.iteration + 1
              inFlight :=
                if err = 0 then s.inFlight ++ [⟨s.iteration + 1, cmd.cmdType⟩] else s.inFlight
            }, [.written s.client cmd params]) := by
  simp only [handle]
  split
  · exact .inl rfl
  · split
    case h_1 => exact .inr (.inl ⟨_, rfl⟩)
    case h_2 params write => exact .inr (.inr ⟨_, params, write, rfl⟩)

end CommandState

/-- The commands on the channel, in the order of their publication. -/
def publications (events : List CommandEvent) : List PublishedCmd :=
  events.filterMap fun
    | .published entry => some entry
    | _ => none

/-- The command path over whole input sequences. -/
def commandMachine : InputMachine CommandState CommandInput CommandEvent where
  step := CommandState.step

end GoproGateway
