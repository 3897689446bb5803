import GoproGateway.Parse.HwInfo

/-! Hardware information that the reader refuses.

The reader stores each string before it looks at the next length, and its caller does not hear
how it ended: the semaphore that the connection set-up polls for is given in any case.
-/

namespace GoproGateway

/-- A CMD message that has been reassembled. -/
structure CmdMessage where
  feature : UInt8
  action : UInt8
  data : DataPtr
  packetLen : Nat

def CmdMessage.parse (message : CmdMessage) (state : GoproState) : StateTrace GoproState :=
  goproPacketParseCmd message.feature message.action message.data message.packetLen state

/-- Messages parsed one after the other. -/
def parseCmds (state : GoproState) : List CmdMessage → StateTrace GoproState
  | [] => return state
  | message :: rest => do
      let state ← message.parse state
      parseCmds state rest

/-- `GET_HW_POLL_COUNT`. -/
def getHwPollCount : Nat := 20

/-- The polling loop of `discovery_finish_work_handler`, and how often it asks. `waits` lists
for every turn the messages that are parsed while it waits for `get_hw_sem`.
-/
def pollHwInfo (state : GoproState) : (turns : Nat) → (waits : List (List CmdMessage)) → Nat
  | 0, _ => 0
  | turns + 1, waits =>
      let parsed := parseCmds state waits.headI
      if .giveGetHwSem ∈ parsed.events then 1
      else 1 + pollHwInfo parsed.value turns waits.tail

/-- The message has been refused by one of the length checks. -/
def CmdMessage.RejectedIn (message : CmdMessage) (state : GoproState) : Prop :=
  message.feature = 0x3C ∧ message.action = 0
    ∧ (goproParseResponseHwInfo message.data message.packetLen state).value.2.Rejected

/-- The message leaves the state as it was, does not give the semaphore, and the polling that
waits for it goes on.
-/
structure CmdMessage.HasNoEffect (message : CmdMessage) (state : GoproState) : Prop where
  state_eq : (message.parse state).value = state
  given : .giveGetHwSem ∉ (message.parse state).events
  polls : ∀ waits, 1 < pollHwInfo state getHwPollCount ([message] :: waits)

/-- The semaphore is given however the reader ends. -/
theorem goproPacketParseCmd_gives (data : DataPtr) (packetLen : Nat) (state : GoproState)
    : .giveGetHwSem ∈ (goproPacketParseCmd 0x3C 0 data packetLen state).events := by
  simp [goproPacketParseCmd]

/-- A message that gives the semaphore ends the polling. -/
theorem pollHwInfo_of_gives {message : CmdMessage} {state : GoproState}
    (gives : .giveGetHwSem ∈ (message.parse state).events) (turns : Nat)
    (waits : List (List CmdMessage))
    : pollHwInfo state (turns + 1) ([message] :: waits) = 1 := by
  have parsed : .giveGetHwSem ∈ (parseCmds state [message]).events := by
    simp [parseCmds, gives]
  rw [pollHwInfo, List.headI_cons, if_pos parsed]

/-- Whatever check refuses it, a message has an effect: the semaphore is given, and the
connection set-up asks no further.
-/
theorem goproPacketParseCmd_rejected (message : CmdMessage) (state : GoproState)
    (rejected : message.RejectedIn state)
    : ¬ message.HasNoEffect state
      ∧ ∀ waits, pollHwInfo state getHwPollCount ([message] :: waits) = 1 := by
  obtain ⟨feature, action, data, packetLen⟩ := message
  obtain ⟨rfl, rfl, _⟩ := rejected
  have gives : .giveGetHwSem ∈ ((CmdMessage.mk 0x3C 0 data packetLen).parse state).events :=
    goproPacketParseCmd_gives data packetLen state
  exact ⟨fun noEffect => noEffect.given gives, pollHwInfo_of_gives gives _⟩

theorem goproPacketParseCmd_rejected_modelNumber
    : ¬ (CmdMessage.mk 0x3C 0 ⟨[0x3C, 0x00, 5], fun _ => 0⟩ 1).HasNoEffect .zero
      ∧ ∀ waits, pollHwInfo .zero getHwPollCount
        ([CmdMessage.mk 0x3C 0 ⟨[0x3C, 0x00, 5], fun _ => 0⟩ 1] :: waits) = 1 :=
  goproPacketParseCmd_rejected _ .zero ⟨rfl, rfl, by decide⟩

/-- A firmware version of twenty bytes behind the model name "H": the message is refused, and
the name is in the state.
-/
theorem goproPacketParseCmd_keeps_name
    : ¬ ∀ (message : CmdMessage) (state : GoproState),
      message.RejectedIn state → message.HasNoEffect state := by
  intro every
  have noEffect := every ⟨0x3C, 0, ⟨[0x3C, 0x00, 0, 1, 0x48, 0, 20], fun _ => 0⟩, 5⟩ .zero
    ⟨rfl, rfl, by decide +kernel⟩
  have name := congrArg (fun state => state.strings.array .modelName) noEffect.state_eq
  exact absurd name (by decide +kernel)

end GoproGateway
