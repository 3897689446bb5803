import Mathlib.Data.List.Forall2
import GoproGateway.Command.Path

/-! What reaches the camera.

The queue and the task hand commands on in order, each once. The validator has seen every one of
them, and what it lets through unseen, the sender refuses.
-/

namespace GoproGateway

/-- A call of `bt_gatt_write`. -/
structure GattWrite where
  /-- The client at the time of the call. -/
  client : WriteClient
  params : WriteParams

/-- The calls of `bt_gatt_write`, in order. -/
def gattWrites (events : List CommandEvent) : List GattWrite :=
  events.filterMap fun
    | .written client _ params => some ⟨client, params⟩
    | _ => none

/-- A write brings the bytes of a command, which was published in the connected state for one of
the four handles, to that handle.
-/
structure GattWrite.Carries (write : GattWrite) (entry : PublishedCmd) : Prop where
  connected : entry.state = .connected
  small : entry.cmd.len ≤ goproCmdDataLen
  forCamera : entry.cmd.cmdType < gpCntrlHandleEnd
  handle : write.params.handle = write.client.writeHandle entry.cmd.cmdType
  bytes : write.params.data.take write.params.length = entry.cmd.data.take entry.cmd.len
  length : write.params.length = entry.cmd.len

namespace CommandState

/-- The commands on their way: the one that the task has received, and the queue. -/
def onTheWay (s : CommandState) : List GoproCmd :=
  match s.task with
  | .received cmd => cmd :: s.queue
  | _ => s.queue

end CommandState

/-- The command that an event brings onto the channel. -/
def CommandEvent.entered : CommandEvent → Option GoproCmd
  | published entry => some entry.cmd
  | _ => none

/-- The command that the task is done with by an event. -/
def CommandEvent.left : CommandEvent → Option GoproCmd
  | skipped cmd | written _ cmd _ => some cmd
  | published _ => none

/-- An event is possible: what is published is valid, and what is written are the bytes of its
command.
-/
def CommandEvent.Sound : CommandEvent → Prop
  | published entry => goproCmdValidator entry.state entry.cmd = true
  | skipped _ => True
  | written client cmd params => cmd.cmdType < gpCntrlHandleEnd
      ∧ params = {
        handle := client.writeHandle cmd.cmdType
        offset := 0
        data := cmd.data
        length := cmd.len % 2 ^ 16
      }

namespace CommandState

/-- The received command leaves the way, with a write only if the client is connected. -/
theorem handle_onTheWay {s : CommandState} {cmd : GoproCmd} (err : Int)
    (task : s.task = .received cmd)
    : s.onTheWay ++ (s.handle cmd err).2.filterMap CommandEvent.entered
        = (s.handle cmd err).2.filterMap CommandEvent.left ++ (s.handle cmd err).1.onTheWay
      ∧ ∀ event ∈ (s.handle cmd err).2, event.Sound := by
  have before : s.onTheWay = cmd :: s.queue := by simp [onTheWay, task]
  rw [before]
  rcases s.handle_cases cmd err with skipped | ⟨_, refused⟩ | ⟨_, params, write, written⟩
  · rw [skipped]
    exact ⟨List.append_nil _, List.forall_mem_singleton.mpr trivial⟩
  · rw [refused]
    exact ⟨List.append_nil _, List.forall_mem_singleton.mpr trivial⟩
  · rw [written]
    refine ⟨List.append_nil _, List.forall_mem_singleton.mpr ?_⟩
    exact WriteClient.btGoproClientSend_write write

/-- A step hands commands on in order, and its events are possible. -/
theorem step_onTheWay (s : CommandState) (input : CommandInput)
    : s.onTheWay ++ (s.step input).2.filterMap CommandEvent.entered
        = (s.step input).2.filterMap CommandEvent.left ++ (s.step input).1.onTheWay
      ∧ ∀ event ∈ (s.step input).2, event.Sound := by
  have nothing {next : CommandState} (task : next.task = s.task) (queue : next.queue = s.queue)
      : s.onTheWay ++ ([] : List CommandEvent).filterMap CommandEvent.entered
          = ([] : List CommandEvent).filterMap CommandEvent.left ++ next.onTheWay
        ∧ ∀ event ∈ ([] : List CommandEvent), event.Sound := by
    simp [onTheWay, task, queue]
  cases input with
  | setState | handlesAssign => exact nothing rfl rfl
  | call publisher call =>
      simp only [step]
      split <;> exact nothing rfl rfl
  | publish publisher room =>
      simp only [step]
      split
      case h_1 cmd rest _ =>
          rcases s.publish_cases publisher cmd rest room with ⟨valid, published⟩ | refused
          · rw [published]
            refine ⟨?_, List.forall_mem_singleton.mpr valid⟩
            cases task : s.task <;> simp [onTheWay, task, CommandEvent.entered, CommandEvent.left]
          · rw [refused]
            exact nothing rfl rfl
      case h_2 => exact nothing rfl rfl
  | waitMsg =>
      simp only [step]
      split
      case h_1 cmd rest task queue => simp [onTheWay, task, queue]
      case h_2 => exact nothing rfl rfl
  | handle err =>
      simp only [step]
      split
      case h_1 cmd task => exact handle_onTheWay err task
      case h_2 => exact nothing rfl rfl
  | semTake | timeout =>
      simp only [step]
      split
      case isTrue taking => simp [onTheWay, taking.1]
      case isFalse => exact nothing rfl rfl
  | onSentData write =>
      simp only [step]
      split <;> exact nothing rfl rfl

end CommandState

/-- A valid command that is written arrives as it was published, and where it was meant to. -/
theorem GattWrite.carries {client : WriteClient} {entry : PublishedCmd} {params : WriteParams}
    (valid : (CommandEvent.published entry).Sound)
    (sound : (CommandEvent.written client entry.cmd params).Sound)
    : (⟨client, params⟩ : GattWrite).Carries entry := by
  obtain ⟨forCamera, rfl⟩ := sound
  rcases goproCmdValidator_iff.mp valid with control | ⟨connected, small, -⟩
  · exact absurd control (ne_control_of_lt forCamera)
  · have length : entry.cmd.len % 2 ^ 16 = entry.cmd.len := by
      unfold goproCmdDataLen at small
      omega
    exact ⟨connected, small, forCamera, rfl, by simp only [length], length⟩

/-- The written commands, each with its write. -/
def writtenCmds (events : List CommandEvent) : List (GattWrite × GoproCmd) :=
  events.filterMap fun
    | .written client cmd params => some (⟨client, params⟩, cmd)
    | _ => none

theorem gattWrites_eq (events : List CommandEvent)
    : gattWrites events = (writtenCmds events).map Prod.fst := by
  rw [gattWrites, writtenCmds, List.map_filterMap]
  congr 1
  funext event
  cases event <;> rfl

theorem entered_eq (events : List CommandEvent)
    : events.filterMap CommandEvent.entered = (publications events).map PublishedCmd.cmd := by
  rw [publications, List.map_filterMap]
  congr 1
  funext event
  cases event <;> rfl

/-- The written commands are among those that have left the way, in order. -/
theorem writtenCmds_sublist (events : List CommandEvent)
    : ((writtenCmds events).map Prod.snd).Sublist (events.filterMap CommandEvent.left) := by
  induction events with
  | nil => exact .slnil
  | cons event rest ih =>
      cases event with
      | published entry => exact ih
      | skipped cmd => exact ih.cons cmd
      | written client cmd params => exact ih.cons_cons cmd

theorem mem_publications {events : List CommandEvent} {entry : PublishedCmd}
    (member : entry ∈ publications events)
    : .published entry ∈ events := by
  obtain ⟨event, inEvents, isEntry⟩ := List.mem_filterMap.mp member
  cases event with
  | published other => exact Option.some.inj isEntry ▸ inEvents
  | skipped | written => cases isEntry

theorem mem_writtenCmds {events : List CommandEvent} {write : GattWrite × GoproCmd}
    (member : write ∈ writtenCmds events)
    : .written write.1.client write.2 write.1.params ∈ events := by
  obtain ⟨event, inEvents, isWrite⟩ := List.mem_filterMap.mp member
  cases event with
  | written client cmd params => exact Option.some.inj isWrite ▸ inEvents
  | published | skipped => cases isWrite

/-- In every run, the writes to the camera bring commands that were published while connected,
unchanged, to the handle of their type, in the order of publication and each once at most.
-/
theorem commandMachine_checked (inputs : List CommandInput)
    : let events := (commandMachine.run .boot inputs).2;
      ∃ sources, sources.Sublist (publications events)
        ∧ List.Forall₂ GattWrite.Carries (gattWrites events) sources := by
  intro events
  have sound : ∀ event ∈ events, event.Sound := by
    refine (commandMachine.forall_events_iff CommandEvent.Sound .boot inputs).mpr ?_
    exact .of_invariant (fun _ => True) (fun _ _ _ => trivial)
      (fun s input _ => (s.step_onTheWay input).2) trivial inputs
  have conserves (s : CommandState) (input : CommandInput) (_ : True)
      : s.onTheWay ++ (commandMachine.step s input).2.filterMap CommandEvent.entered
        = (commandMachine.step s input).2.filterMap CommandEvent.left
          ++ (commandMachine.step s input).1.onTheWay :=
    (s.step_onTheWay input).1
  have conserved : CommandState.boot.onTheWay ++ events.filterMap CommandEvent.entered
      = events.filterMap CommandEvent.left ++ (commandMachine.run .boot inputs).1.onTheWay :=
    InputMachine.run_conserves CommandState.onTheWay (fun _ _ _ => trivial) conserves trivial
      inputs
  have ordered : ((writtenCmds events).map Prod.snd).Sublist
      ((publications events).map PublishedCmd.cmd) := by
    have entered : events.filterMap CommandEvent.entered = _ := conserved
    rw [← entered_eq, entered]
    exact (writtenCmds_sublist events).trans (List.sublist_append_left _ _)
  obtain ⟨sources, inOrder, same⟩ := List.sublist_map_iff.mp ordered
  refine ⟨sources, inOrder, ?_⟩
  rw [gattWrites_eq, List.forall₂_map_left_iff]
  have matched
      : List.Forall₂ (fun write entry => write.2 = entry.cmd) (writtenCmds events) sources := by
    refine List.forall₂_map_left_iff.mp (List.forall₂_map_right_iff.mp ?_)
    rw [List.forall₂_eq_eq_eq]
    exact same
  rw [List.forall₂_iff_zip] at matched ⊢
  refine ⟨matched.1, fun {write entry} paired => ?_⟩
  obtain ⟨written, source⟩ := List.of_mem_zip paired
  have written_sound := sound _ (mem_writtenCmds written)
  rw [matched.2 paired] at written_sound
  exact GattWrite.carries (sound _ (mem_publications (inOrder.subset source))) written_sound

end GoproGateway
