import GoproGateway.Command.Path
import GoproGateway.Packet.Frames

/-! Pacing: what releases the task after a command.

The semaphore counts completions, and does not tell of which write. While no write outlives the
wait of its own iteration, there is only one that can complete.
-/

namespace GoproGateway

namespace CommandState

/-- The task is released when the write that its iteration submitted has completed. -/
def Paced (s : CommandState) : CommandInput → Prop
  | .semTake => s.task = .taking → 0 < s.bleWriteSem → s.iteration ∈ s.completed
  | _ => True

/-- The wait of an iteration does not time out while the stack has the iteration's write. -/
def CompletesInTime (s : CommandState) : CommandInput → Prop
  | .timeout => s.task = .taking → ∀ write ∈ s.inFlight, write.iteration ≠ s.iteration
  | _ => True

/-- Between two commands, nothing is in flight and no permit is left. While the task waits, the
write of its iteration is in flight, or has completed and left its permit, or was refused.
-/
inductive Turn (s : CommandState) : Prop where
  | between (task : s.task ≠ .taking) (inFlight : s.inFlight = []) (sem : s.bleWriteSem = 0)
  | submitted (write : CmdWrite) (task : s.task = .taking) (own : write.iteration = s.iteration)
    (small : write.params < gpCntrlHandleEnd) (inFlight : s.inFlight = [write])
    (sem : s.bleWriteSem = 0)
  | completed (task : s.task = .taking) (own : s.iteration ∈ s.completed)
    (inFlight : s.inFlight = []) (sem : s.bleWriteSem = 1)
  | refused (task : s.task = .taking) (inFlight : s.inFlight = []) (sem : s.bleWriteSem = 0)

theorem boot_turn : boot.Turn :=
  .between nofun rfl rfl

/-- The variables that the turns are about. -/
def pacing (s : CommandState) : CmdTaskPhase × Nat × Nat × List CmdWrite × List Nat :=
  (s.task, s.iteration, s.bleWriteSem, s.inFlight, s.completed)

/-- A step that leaves the pacing alone keeps the turn. -/
theorem Turn.frame {before after : CommandState} (turn : before.Turn)
    (same : after.pacing = before.pacing)
    : after.Turn := by
  simp only [pacing, Prod.mk.injEq] at same
  obtain ⟨task, iteration, sem, inFlight, completed⟩ := same
  cases turn with
  | between isTask isFlight isSem =>
      exact .between (task ▸ isTask) (inFlight ▸ isFlight) (sem ▸ isSem)
  | submitted write isTask own small isFlight isSem =>
      exact .submitted write (task ▸ isTask) (iteration ▸ own) small (inFlight ▸ isFlight)
        (sem ▸ isSem)
  | completed isTask own isFlight isSem =>
      refine .completed (task ▸ isTask) ?_ (inFlight ▸ isFlight) (sem ▸ isSem)
      rw [iteration, completed]
      exact own
  | refused isTask isFlight isSem =>
      exact .refused (task ▸ isTask) (inFlight ▸ isFlight) (sem ▸ isSem)

variable {s : CommandState}

/-- A command that is handled between two turns starts one, or is a control command. -/
theorem handle_turn (cmd : GoproCmd) (err : Int) (inFlight : s.inFlight = [])
    (sem : s.bleWriteSem = 0)
    : (s.handle cmd err).1.Turn := by
  rcases s.handle_cases cmd err with skipped | ⟨_, refused⟩ | ⟨_, params, write, written⟩
  · rw [skipped]
    exact .between nofun inFlight sem
  · rw [refused]
    exact .refused rfl inFlight sem
  · rw [written, inFlight]
    obtain ⟨small, -⟩ := WriteClient.btGoproClientSend_write write
    by_cases accepted : err = 0
    · exact .submitted ⟨s.iteration + 1, cmd.cmdType⟩ rfl rfl small (if_pos accepted) sem
    · exact .refused rfl (if_neg accepted) sem

/-- The task is released only by the permit of its own write, which ends the turn. -/
theorem semTake_turn (turn : s.Turn) : (s.step .semTake).1.Turn := by
  simp only [step]
  split
  case isFalse => exact turn
  case isTrue released =>
      obtain ⟨taking, permit⟩ := released
      cases turn with
      | between task => exact absurd taking task
      | submitted _ _ _ _ _ sem | refused _ _ sem => exact absurd sem (Nat.ne_of_gt permit)
      | completed _ own inFlight sem => exact .between nofun inFlight (by simp [sem])

/-- In time, only the wait of a refused write runs out, and nothing is left of it. -/
theorem timeout_turn (turn : s.Turn) (inTime : s.CompletesInTime .timeout)
    : (s.step .timeout).1.Turn := by
  simp only [step]
  split
  case isFalse => exact turn
  case isTrue expired =>
      obtain ⟨taking, noPermit⟩ := expired
      cases turn with
      | between task => exact absurd taking task
      | submitted write _ own _ inFlight _ =>
          exact absurd own (inTime taking write (by simp [inFlight]))
      | completed _ _ _ sem => exact absurd (noPermit.symm.trans sem) nofun
      | refused _ inFlight sem => exact .between nofun inFlight sem

/-- Only the write of the turn can complete, and it leaves the one permit. -/
theorem onSentData_turn (write : CmdWrite) (turn : s.Turn)
    : (s.step (.onSentData write)).1.Turn := by
  simp only [step]
  split
  case isFalse => exact turn
  case isTrue member =>
      cases turn with
      | between _ inFlight | completed _ _ inFlight | refused _ inFlight =>
          rw [inFlight] at member
          cases member
      | submitted own task iteration small inFlight sem =>
          obtain rfl : write = own := by simpa [inFlight] using member
          refine .completed task ?_ ?_ ?_
          · simp [onSentData, iteration]
          · simp [onSentData, inFlight]
          · simp [onSentData, s.client.onSentData_gives small, sem]

/-- Every input keeps the turn if the writes complete in time; most of them do not touch the
pacing.
-/
theorem step_turn (input : CommandInput) (turn : s.Turn) (inTime : s.CompletesInTime input)
    : (s.step input).1.Turn := by
  cases input with
  | setState | handlesAssign => exact turn.frame rfl
  | call publisher call =>
      simp only [step]
      split
      · exact turn.frame rfl
      · exact turn
  | publish publisher room =>
      simp only [step]
      split
      case h_1 cmd rest _ =>
          rcases s.publish_cases publisher cmd rest room with ⟨-, published⟩ | refused
          · rw [published]
            exact turn.frame rfl
          · rw [refused]
            exact turn.frame rfl
      case h_2 => exact turn
  | waitMsg =>
      simp only [step]
      split
      case h_1 cmd rest task queue =>
          cases turn with
          | between _ inFlight sem => exact .between nofun inFlight sem
          | submitted _ taking | completed taking | refused taking => simp [task] at taking
      case h_2 => exact turn
  | handle err =>
      simp only [step]
      split
      case h_1 cmd task =>
          cases turn with
          | between _ inFlight sem => exact handle_turn cmd err inFlight sem
          | submitted _ taking | completed taking | refused taking => simp [task] at taking
      case h_2 => exact turn
  | semTake => exact semTake_turn turn
  | timeout => exact timeout_turn turn inTime
  | onSentData write => exact onSentData_turn write turn

/-- A permit is that of the iteration's own write. -/
theorem Turn.paced (turn : s.Turn) (input : CommandInput) : s.Paced input := by
  cases input with
  | semTake =>
      intro taking permit
      cases turn with
      | between task => exact absurd taking task
      | submitted _ _ _ _ _ sem | refused _ _ sem => exact absurd sem (Nat.ne_of_gt permit)
      | completed _ own => exact own
  | setState | handlesAssign | call | publish | waitMsg | handle | timeout | onSentData => trivial

end CommandState

/-- In every run in which no wait times out before its own write has completed, the task is only
released by the write that its iteration submitted.
-/
theorem commandMachine_paced {inputs : List CommandInput}
    (inTime : commandMachine.Along CommandState.CompletesInTime .boot inputs)
    : commandMachine.Along CommandState.Paced .boot inputs :=
  inTime.imp (fun _ input turn inTime => CommandState.step_turn input turn inTime)
    (fun _ input turn _ => turn.paced input) CommandState.boot_turn

/-- Two commands on the channel, the first of which the task has received. -/
def twoCommands : List CommandInput :=
  [
    .setState .connected, .handlesAssign Nat.succ,
    .call .button (.buttonPressed 0), .publish .button true,
    .call .bleReceive (.zbusChanPub (.ofBytes 2 [0x01, 0x05])), .publish .bleReceive true,
    .waitMsg
  ]

/-- The first command is refused, and its wait times out; the second one completes. -/
def refusedThenSent : List CommandInput :=
  twoCommands
    ++ [.handle (-enotconn), .timeout, .waitMsg, .handle 0, .onSentData ⟨2, 2⟩, .semTake]

theorem commandMachine_paced_refusedThenSent
    : commandMachine.Along CommandState.Paced .boot refusedThenSent := by
  apply commandMachine_paced
  have timeout : CommandState.CompletesInTime
      (commandMachine.run .boot (twoCommands ++ [.handle (-enotconn)])).1 .timeout :=
    fun _ write member => (List.not_mem_nil member).elim
  exact ⟨trivial, trivial, trivial, trivial, trivial, trivial, trivial, trivial, timeout, trivial,
    trivial, trivial, trivial, trivial⟩

/-- Up to the wait of the second command: the first one's write completes after its wait has
timed out.
-/
def lateCompletion : List CommandInput :=
  twoCommands ++ [.handle 0, .timeout, .waitMsg, .onSentData ⟨1, 0⟩, .handle 0]

/-- Witness: the late completion releases the task while the second write is in flight. -/
theorem commandMachine_not_paced
    : ¬commandMachine.Along CommandState.Paced .boot (lateCompletion ++ [.semTake]) := by
  intro paced
  have own := (commandMachine.along_iff_splits _ _ _).mp paced lateCompletion .semTake [] rfl
  have released : 2 ∈ (commandMachine.run .boot lateCompletion).1.completed := own rfl (by decide)
  have inFlight : (commandMachine.run .boot lateCompletion).1.completed = [1] := rfl
  simp [inFlight] at released

end GoproGateway
