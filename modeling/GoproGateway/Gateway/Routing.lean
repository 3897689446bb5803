import GoproGateway.Gateway.CanRxBle
import GoproGateway.Send.Fragmenter

/-! Which decoded messages become commands.

The address is compared as a signed number with the number of handles, and reaches the
command as its low byte. A negative address passes the comparison, so what becomes of it is
up to the validator, which accepts the four handles and the control type.
-/

namespace GoproGateway

/-- The commands that the task attempts to publish for what it does with a message. -/
def attemptedCmds (stack : StackBytes) (events : List GatewayEvent) : List GoproCmd :=
  events.flatMap fun
    | .goproSendBuf data type => goproSendBuf stack data data.length type
    | .goproDecodeWifiCred _ | .giveCanIsotpRxSem => []

/-- A published command is routed exactly: its type is the address, one of the four handles,
and it is no control command.
-/
structure RoutedTo (bleAddr : Int) (cmd : GoproCmd) : Prop where
  handle : 0 ≤ bleAddr ∧ bleAddr < gpCntrlHandleEnd
  cmdType : cmd.cmdType = bleAddr
  noControl : goproCtrlParse cmd = (0, none)

/-- The low bytes that the validator accepts while connected. -/
def AcceptedByte (byte : Int) : Prop :=
  byte = 0 ∨ byte = 1 ∨ byte = 2 ∨ byte = 3 ∨ byte = 255

theorem attemptedCmds_route {stack : StackBytes} {state : GoproStateList} {bleAddr : Int}
    {data : List UInt8}
    : attemptedCmds stack (routeBledata state bleAddr data)
      = if bleAddr < gpCntrlHandleEnd ∧ state = .connected then
          goproSendBuf stack data data.length (UInt8.ofInt bleAddr)
        else [] := by
  unfold routeBledata attemptedCmds
  by_cases below : bleAddr < gpCntrlHandleEnd
  · by_cases connected : state = .connected <;> simp [below, connected]
  · have elsewhere : ¬ (bleAddr < gpCntrlHandleEnd ∧ state = .connected) :=
      fun both => below both.1
    rw [if_neg below, if_neg elsewhere]
    split <;> rfl

/-- While connected, the validator lets a command of this type pass iff it accepts the byte; in
other states it lets no more pass.
-/
theorem validated_iff {cmd : GoproCmd} {byte : Int} (type : (cmd.cmdType : Int) = byte)
    (small : cmd.len ≤ goproCmdDataLen) (state : GoproStateList)
    : (goproCmdValidator .connected cmd = true ↔ AcceptedByte byte)
      ∧ (goproCmdValidator state cmd = true → AcceptedByte byte) := by
  have accepts : AcceptedByte byte
      ↔ cmd.cmdType = cmdTypeControl ∨ cmd.cmdType < gpCntrlHandleEnd := by
    rw [← type]
    unfold AcceptedByte cmdTypeControl gpCntrlHandleEnd
    omega
  rw [goproCmdValidator_iff, goproCmdValidator_iff, accepts]
  constructor
  · simp only [true_and, small]
  · rintro (control | ⟨_, _, handle⟩)
    · exact Or.inl control
    · exact Or.inr handle

/-- Every message is routed exactly, whatever becomes of its publications, iff the client is
not connected, or the address is not negative, or its low byte is no type that the validator
accepts. Witness: a negative address with such a byte is published under that byte.
-/
theorem routeBledata_exact_iff (stack : StackBytes) (state : GoproStateList) (bleAddr : Int)
    (data : List UInt8) (fits : data.length ≤ bledataBuffSize)
    : (∀ circumstances,
        ∀ cmd ∈ published circumstances
          (attemptedCmds stack (routeBledata state bleAddr data)),
        RoutedTo bleAddr cmd)
      ↔ state ≠ .connected ∨ 0 ≤ bleAddr ∨ ¬ AcceptedByte (bleAddr % 256) := by
  unfold bledataBuffSize at fits
  have byte := ofInt_toNat bleAddr
  have typed := goproSendBuf_typed stack data data.length (UInt8.ofInt bleAddr)
  rw [attemptedCmds_route]
  constructor
  · intro every
    by_contra wrong
    simp only [not_or, not_not, Int.not_le] at wrong
    obtain ⟨connected, negative, accepted⟩ := wrong
    have below : bleAddr < gpCntrlHandleEnd := by
      unfold gpCntrlHandleEnd
      omega
    rw [if_pos ⟨below, connected⟩] at every
    obtain ⟨cmd, rest, sent⟩ := List.exists_cons_of_ne_nil
      (goproSendBuf_ne_nil stack data (UInt8.ofInt bleAddr) (show data.length < 8191 by omega))
    obtain ⟨type, small⟩ := typed cmd (by simp [sent])
    have valid : goproCmdValidator .connected cmd = true :=
      (validated_iff (type ▸ byte) small .connected).1.mpr accepted
    have routed := every [⟨.connected, true⟩] cmd (by rw [sent, published_head valid]; simp)
    have handle := routed.handle
    omega
  · intro condition circumstances cmd member
    obtain ⟨attempted, publication, _, valid⟩ := mem_published member
    split at attempted
    · rename_i sends
      obtain ⟨type, small⟩ := typed cmd attempted
      have below := sends.1
      have accepted : AcceptedByte (bleAddr % 256) :=
        (validated_iff (type ▸ byte) small _).2 valid
      have positive : 0 ≤ bleAddr := by
        rcases condition with offline | positive | refused
        · exact absurd sends.2 offline
        · exact positive
        · exact absurd accepted refused
      unfold gpCntrlHandleEnd at below
      have isAddr : (cmd.cmdType : Int) = bleAddr := by omega
      refine ⟨⟨positive, sends.1⟩, isAddr, ?_⟩
      rw [goproCtrlParse, if_neg (by omega)]
    · simp at attempted

theorem routeBledata_exact_query
    : let cmds := published [⟨.connected, true⟩]
        (attemptedCmds .zero (routeBledata .connected 2 [0x02, 0x53, 0x0A]))
      cmds.length = 1 ∧ ∀ cmd ∈ cmds, RoutedTo 2 cmd :=
  ⟨by decide, (routeBledata_exact_iff .zero .connected 2 [0x02, 0x53, 0x0A] (by decide)).mpr
    (Or.inr (Or.inl (by decide))) _⟩

/-- The address -1 makes a control command: one data byte unpairs all cameras. -/
theorem routeBledata_reaches_control
    : ¬ ∀ (stack : StackBytes) (state : GoproStateList) (bleAddr : Int) (data : List UInt8)
        (circumstances : List Publication),
      data.length ≤ bledataBuffSize
      → ∀ cmd ∈ published circumstances
          (attemptedCmds stack (routeBledata state bleAddr data)),
        RoutedTo bleAddr cmd := by
  intro every
  have sent : (GoproCmd.onStack .zero (UInt8.ofInt (-1))).fill [0xDA] 1
      ∈ published [⟨.connected, true⟩]
        (attemptedCmds .zero (routeBledata .connected (-1) [0xDA])) := by
    decide
  have routed := every .zero .connected (-1) [0xDA] [⟨.connected, true⟩] (by decide) _ sent
  have unpairs : goproCtrlParse ((GoproCmd.onStack .zero (UInt8.ofInt (-1))).fill [0xDA] 1)
      = (1, some .unpair) := by
    decide
  rw [routed.noControl] at unpairs
  contradiction

end GoproGateway
