import GoproGateway.Command.Path
import GoproGateway.Send.Holes

/-! Which frames come between the fragments of a message.

Every fragment is a publication of its own, and nothing keeps the publishers apart. A publisher
itself makes one call after the other.
-/

namespace GoproGateway

/-- Frames of one message. -/
def PublishedCmd.SameMessage (entry other : PublishedCmd) : Prop :=
  entry.publisher = other.publisher ∧ entry.call = other.call

/-- What comes between two frames of a message, on the same handle, is of the same message. -/
def KeptTogether (entries : List PublishedCmd) : Prop :=
  ∀ i j k : Nat, i < j → j < k → ∀ first between last,
    entries[i]? = some first → entries[j]? = some between → entries[k]? = some last
    → first.SameMessage last → between.cmd.cmdType = first.cmd.cmdType
    → first.SameMessage between

/-- What comes between two frames of a message is of the same message, or of another publisher. -/
def KeptByPublisher (entries : List PublishedCmd) : Prop :=
  ∀ i j k : Nat, i < j → j < k → ∀ first between last,
    entries[i]? = some first → entries[j]? = some between → entries[k]? = some last
    → first.SameMessage last → between.publisher = first.publisher
    → first.SameMessage between

/-- Every publisher's calls come one after the other. -/
def CallsInOrder (entries : List PublishedCmd) : Prop :=
  entries.Pairwise fun earlier later =>
    earlier.publisher = later.publisher → earlier.call ≤ later.call

theorem CallsInOrder.keptByPublisher {entries : List PublishedCmd} (order : CallsInOrder entries)
    : KeptByPublisher entries := by
  intro i j k before after first between last atFirst atBetween atLast same own
  have ordered {m n : Nat} (lt : m < n) {earlier later : PublishedCmd}
      (atEarlier : entries[m]? = some earlier) (atLater : entries[n]? = some later)
      (publisher : earlier.publisher = later.publisher)
      : earlier.call ≤ later.call := by
    obtain ⟨earlierBound, rfl⟩ := List.getElem?_eq_some_iff.mp atEarlier
    obtain ⟨laterBound, rfl⟩ := List.getElem?_eq_some_iff.mp atLater
    exact List.pairwise_iff_getElem.mp order m n earlierBound laterBound lt publisher
  have upward := ordered before atFirst atBetween own.symm
  have downward := ordered after atBetween atLast (own.trans same.1)
  refine ⟨own.symm, Nat.le_antisymm upward ?_⟩
  rw [same.2]
  exact downward

namespace CommandState

theorem handle_publications (s : CommandState) (cmd : GoproCmd) (err : Int)
    : (s.handle cmd err).1.calls = s.calls ∧ publications (s.handle cmd err).2 = [] := by
  rcases s.handle_cases cmd err with skipped | ⟨_, refused⟩ | ⟨_, _, -, written⟩
  · rw [skipped]
    exact ⟨rfl, rfl⟩
  · rw [refused]
    exact ⟨rfl, rfl⟩
  · rw [written]
    exact ⟨rfl, rfl⟩

/-- A step publishes one command at most, which belongs to its publisher's latest call. -/
theorem step_publications (s : CommandState) (input : CommandInput)
    : (∀ publisher, s.calls publisher ≤ (s.step input).1.calls publisher)
      ∧ (publications (s.step input).2 = []
        ∨ ∃ entry, publications (s.step input).2 = [entry]
          ∧ entry.call = (s.step input).1.calls entry.publisher) := by
  have nothing {next : CommandState × List CommandEvent} (calls : next.1.calls = s.calls)
      (quiet : publications next.2 = [])
      : (∀ publisher, s.calls publisher ≤ next.1.calls publisher)
        ∧ (publications next.2 = []
          ∨ ∃ entry, publications next.2 = [entry]
            ∧ entry.call = next.1.calls entry.publisher) :=
    ⟨fun publisher => by rw [calls], .inl quiet⟩
  cases input with
  | setState | handlesAssign => exact nothing rfl rfl
  | call publisher call =>
      simp only [step]
      split
      · refine ⟨fun other => ?_, .inl rfl⟩
        rcases eq_or_ne other publisher with rfl | different
        · simp
        · simp [different]
      · exact nothing rfl rfl
  | publish publisher room =>
      simp only [step]
      split
      case h_1 cmd rest _ =>
          rcases s.publish_cases publisher cmd rest room with ⟨-, published⟩ | refused
          · rw [published]
            exact ⟨fun _ => Nat.le_refl _, .inr ⟨_, rfl, rfl⟩⟩
          · rw [refused]
            exact nothing rfl rfl
      case h_2 => exact nothing rfl rfl
  | waitMsg =>
      simp only [step]
      split <;> exact nothing rfl rfl
  | handle err =>
      simp only [step]
      split
      case h_1 cmd _ =>
          obtain ⟨calls, quiet⟩ := s.handle_publications cmd err
          exact nothing calls quiet
      case h_2 => exact nothing rfl rfl
  | semTake | timeout | onSentData write =>
      simp only [step]
      split <;> exact nothing rfl rfl

end CommandState

theorem publications_append (before after : List CommandEvent)
    : publications (before ++ after) = publications before ++ publications after :=
  List.filterMap_append

/-- By induction on the run, entries come in the order of their publishers' calls, and behind
the calls that were made before.
-/
theorem commandMachine_callsInOrder (s : CommandState) (inputs : List CommandInput)
    : CallsInOrder (publications (commandMachine.run s inputs).2)
      ∧ ∀ entry ∈ publications (commandMachine.run s inputs).2,
        s.calls entry.publisher ≤ entry.call := by
  induction inputs generalizing s with
  | nil => exact ⟨.nil, nofun⟩
  | cons input rest ih =>
      obtain ⟨grows, published⟩ := s.step_publications input
      obtain ⟨order, behind⟩ := ih (s.step input).1
      have later (entry : PublishedCmd)
          (member : entry ∈ publications (commandMachine.run (s.step input).1 rest).2)
          : s.calls entry.publisher ≤ entry.call :=
        Nat.le_trans (grows entry.publisher) (behind entry member)
      have split : publications (commandMachine.run s (input :: rest)).2
          = publications (s.step input).2
            ++ publications (commandMachine.run (s.step input).1 rest).2 :=
        publications_append _ _
      rw [split]
      rcases published with quiet | ⟨entry, one, latest⟩
      · rw [quiet]
        exact ⟨order, later⟩
      · rw [one]
        refine ⟨List.pairwise_cons.mpr ⟨?_, order⟩, List.forall_mem_cons.mpr ⟨?_, later⟩⟩
        · intro other member publisher
          rw [latest, publisher]
          exact behind other member
        · rw [latest]
          exact grows entry.publisher

/-- In every run, what comes between two fragments of a message is of the same message, or of
another publisher.
-/
theorem commandMachine_keptByPublisher (inputs : List CommandInput)
    : KeptByPublisher (publications (commandMachine.run .boot inputs).2) :=
  (commandMachine_callsInOrder .boot inputs).1.keptByPublisher

/-- The button is pressed while a message of two fragments is published. -/
def buttonBetween : List CommandInput :=
  [
    .setState .connected,
    .call .canRxBleSubscriber (.goproSendBuf .zero (List.replicate 21 0x61) 21 0),
    .publish .canRxBleSubscriber true,
    .call .button (.buttonPressed 0),
    .publish .button true,
    .publish .canRxBleSubscriber true
  ]

/-- Witness: the frame of the button comes between the two fragments, on the same handle. -/
theorem commandMachine_not_keptTogether
    : ¬KeptTogether (publications (commandMachine.run .boot buttonBetween).2) := by
  have two : (goproSendBuf .zero (List.replicate 21 0x61) 21 0).length = fragmentCount 18 21 :=
    goproSendBuf_length _ _ _ (by decide) (by decide)
  obtain ⟨start, cont, frames⟩ := List.length_eq_two.mp two
  have typed := goproSendBuf_typed .zero (List.replicate 21 0x61) 21 0
  rw [frames] at typed
  have valid (cmd : GoproCmd) (member : cmd ∈ [start, cont])
      : goproCmdValidator .connected cmd = true := by
    obtain ⟨type, small⟩ := typed cmd member
    refine goproCmdValidator_iff.mpr (.inr ⟨rfl, small, ?_⟩)
    rw [type]
    decide
  have button : goproCmdValidator .connected goproStartRecMsg = true := by decide
  have published : publications (commandMachine.run .boot buttonBetween).2
      = [⟨.canRxBleSubscriber, 1, .connected, start⟩, ⟨.button, 1, .connected, goproStartRecMsg⟩,
          ⟨.canRxBleSubscriber, 1, .connected, cont⟩] := by
    simp [-List.reduceReplicate, commandMachine, buttonBetween, CommandState.step,
      CommandState.publish, CommandState.boot, PublishCall.cmds, frames, valid, button,
      buttonPressed, publications]
  intro together
  rw [published] at together
  have same := together 0 1 2 (by decide) (by decide) _ _ _ rfl rfl rfl ⟨rfl, rfl⟩
    (typed start (by simp)).1.symm
  cases same.1

end GoproGateway
