import GoproGateway.Client.Declarations

/-! The command channel: its validator, its publications, and the control commands. -/

namespace GoproGateway

/-- `gopro_cmd_validator`, in the state the client has at the time of the publication. -/
def goproCmdValidator (state : GoproStateList) (cmd : GoproCmd) : Bool :=
  if cmd.cmdType = 0xFF then true
  else if state ≠ .connected then false
  else if cmd.len > goproCmdDataLen then false
  else if
    cmd.cmdType = gpCntrlHandleCmd
    ∨ cmd.cmdType = gpCntrlHandleSettings
    ∨ cmd.cmdType = gpCntrlHandleQuery
    ∨ cmd.cmdType = gpCntrlHandleNet then true
  else false

/-- What a publication meets: the client's state, and whether the bus has room for it. -/
structure Publication where
  state : GoproStateList
  room : Bool
  deriving DecidableEq, Repr

/-- The commands out of `cmds` that `zbus_chan_pub` puts on the channel, each under its own
circumstances.
-/
def published (circumstances : List Publication) (cmds : List GoproCmd) : List GoproCmd :=
  ((cmds.zip circumstances).filter fun (cmd, publication) =>
    goproCmdValidator publication.state cmd && publication.room).map Prod.fst

/-- What a control command makes the client do. -/
inductive ControlAction where
  | unpair
  | forceConnect
  | replyName
  deriving DecidableEq, Repr

/-- `gopro_ctrl_parse`: 1 for a control command, with the action it triggers. -/
def goproCtrlParse (cmd : GoproCmd) : Nat × Option ControlAction :=
  if cmd.cmdType = 0xFF ∧ cmd.len = 1 then
    if cmd.byte 0 = 0xDA then (1, some .unpair)
    else if cmd.byte 0 = 0xAF then (1, some .forceConnect)
    else if cmd.byte 0 = 0xBB then (1, some .replyName)
    else (0, none)
  else (0, none)

/-- Accepted commands are control commands, or they are for one of the four handles while
the client is connected, and fit.
-/
theorem goproCmdValidator_iff {state : GoproStateList} {cmd : GoproCmd}
    : goproCmdValidator state cmd = true
      ↔ cmd.cmdType = cmdTypeControl
        ∨ (state = .connected ∧ cmd.len ≤ goproCmdDataLen
          ∧ cmd.cmdType < gpCntrlHandleEnd) := by
  simp only [goproCmdValidator, cmdTypeControl, ← lt_handleEnd_iff]
  by_cases control : cmd.cmdType = 0xFF
  · simp [control]
  · by_cases connected : state = .connected
    · by_cases small : cmd.len ≤ goproCmdDataLen
      · simp [control, connected, small, Nat.not_lt.mpr small]
      · simp [control, connected, small, Nat.lt_of_not_le small]
    · simp [control, connected]

/-- Every published command is one of the attempted ones, and was accepted. -/
theorem mem_published {circumstances : List Publication} {cmds : List GoproCmd}
    {cmd : GoproCmd} (member : cmd ∈ published circumstances cmds)
    : cmd ∈ cmds ∧ ∃ publication ∈ circumstances, goproCmdValidator publication.state cmd = true
    := by
  simp only [published, List.mem_map, List.mem_filter, Prod.exists, Bool.and_eq_true] at member
  obtain ⟨_, publication, ⟨paired, valid, _⟩, rfl⟩ := member
  have parts := List.of_mem_zip paired
  exact ⟨parts.1, publication, parts.2, valid⟩

/-- An accepted command is published when the bus has room for it. -/
theorem published_head {cmd : GoproCmd} {cmds : List GoproCmd} {state : GoproStateList}
    (valid : goproCmdValidator state cmd = true)
    : published [⟨state, true⟩] (cmd :: cmds) = [cmd] := by
  simp [published, valid]

end GoproGateway
