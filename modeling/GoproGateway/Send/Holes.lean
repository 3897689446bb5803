import GoproGateway.Client.Commands
import GoproGateway.Send.Fragmenter

/-! Holes in a fragmented message.

The other publishers leave off where a publication fails. The fragmenter logs that it skips the
command, and goes on with the next fragment.
-/

namespace GoproGateway

/-- The publication of `cmd` returns 0. -/
def Publication.Succeeds (publication : Publication) (cmd : GoproCmd) : Prop :=
  goproCmdValidator publication.state cmd = true ∧ publication.room = true

/-- No fragment is published after one that was not. -/
def WithoutHoles (circumstances : List Publication) (cmds : List GoproCmd) : Prop :=
  (cmds.zip circumstances).Pairwise fun earlier later =>
    later.2.Succeeds later.1 → earlier.2.Succeeds earlier.1

/-- The channel takes commands of a type: control commands in every state, and those of the
four handles while connected.
-/
def Publication.Takes (publication : Publication) (type : UInt8) : Prop :=
  publication.room = true
  ∧ (type.toNat = cmdTypeControl
    ∨ (publication.state = .connected ∧ type.toNat < gpCntrlHandleEnd))

/-- What keeps the channel from taking a type at one fragment still does at the later ones. -/
def Lasting (type : UInt8) (circumstances : List Publication) : Prop :=
  circumstances.Pairwise fun earlier later => later.Takes type → earlier.Takes type

/-- The fragments of the 13-bit branch, when the start frame brings `first` bytes. -/
def fragmentCount (first len : Nat) : Nat := 1 + (len - first + 18) / 19

-----------------------------------------------------------------------------------------
-- The fragments
-----------------------------------------------------------------------------------------

theorem sendConts_length (cmd : GoproCmd) (data : List UInt8) (offset len : Nat)
    (packetNum : UInt8)
    : (sendConts cmd data offset len packetNum).length = (len + 18) / 19 := by
  fun_induction sendConts cmd data offset len packetNum with
  | case1 cmd offset len packetNum positive dataLen frame ih =>
      simp only [List.length_cons, ih, dataLen]
      split <;> omega
  | case2 cmd offset len packetNum empty => simp; omega

section

variable (stack : StackBytes) (data : List UInt8) {len : Nat} (type feature action : UInt8)

theorem goproSendBigData_length (long : 17 < len) (fits : len < 8191)
    : (goproSendBigData stack data len type feature action).length = fragmentCount 16 len := by
  rw [goproSendBigData, if_neg (by omega), if_pos fits, List.length_cons, sendConts_length,
    fragmentCount, Nat.add_comm]

theorem goproSendBuf_length (long : 20 < len) (fits : len < 8191)
    : (goproSendBuf stack data len type).length = fragmentCount 18 len := by
  rw [goproSendBuf, if_neg (by omega), if_pos fits, List.length_cons, sendConts_length,
    fragmentCount, Nat.add_comm]

/-- Every fragment of a payload has the type it is sent under, and fits. -/
theorem goproSendBigData_typed (len : Nat)
    : ∀ frame ∈ goproSendBigData stack data len type feature action,
        frame.cmdType = type.toNat ∧ frame.len ≤ goproCmdDataLen := by
  unfold goproSendBigData
  split
  · rename_i short
    simp only [List.mem_singleton, forall_eq, GoproCmd.fill_cmdType, GoproCmd.onStack_cmdType,
      GoproCmd.fill_len, goproCmdDataLen, true_and]
    omega
  · split
    · exact List.forall_mem_cons.mpr ⟨⟨rfl, Nat.le_refl 20⟩, sendConts_typed _ _ _ _ _⟩
    · simp

end

-----------------------------------------------------------------------------------------
-- What is published
-----------------------------------------------------------------------------------------

/-- Fragments are published whenever the channel takes their type. -/
theorem Publication.succeeds_iff {publication : Publication} {cmd : GoproCmd} {type : UInt8}
    (typed : cmd.cmdType = type.toNat) (small : cmd.len ≤ goproCmdDataLen)
    : publication.Succeeds cmd ↔ publication.Takes type := by
  simp only [Succeeds, Takes, goproCmdValidator_iff, typed, small, true_and]
  exact and_comm

theorem withoutHoles_iff {circumstances : List Publication} {cmds : List GoproCmd} {type : UInt8}
    (typed : ∀ cmd ∈ cmds, cmd.cmdType = type.toNat ∧ cmd.len ≤ goproCmdDataLen)
    (each : circumstances.length = cmds.length)
    : WithoutHoles circumstances cmds ↔ Lasting type circumstances := by
  have own : (cmds.zip circumstances).map Prod.snd = circumstances :=
    List.map_snd_zip (Nat.le_of_eq each)
  have takes (entry : GoproCmd × Publication) (member : entry ∈ cmds.zip circumstances)
      : entry.2.Succeeds entry.1 ↔ entry.2.Takes type := by
    obtain ⟨isTyped, small⟩ := typed entry.1 (List.of_mem_zip member).1
    exact Publication.succeeds_iff isTyped small
  have zipped : Lasting type circumstances
      ↔ (cmds.zip circumstances).Pairwise fun earlier later =>
        later.2.Takes type → earlier.2.Takes type := by
    rw [Lasting, ← own, List.pairwise_map, own]
  rw [zipped]
  refine List.Pairwise.iff_of_mem fun earlier later => ?_
  rw [takes _ earlier, takes _ later]

theorem published_cons {publication : Publication} {cmd : GoproCmd}
    {circumstances : List Publication} {cmds : List GoproCmd}
    : (publication.Succeeds cmd
        → published (publication :: circumstances) (cmd :: cmds)
          = cmd :: published circumstances cmds)
      ∧ (¬publication.Succeeds cmd
        → published (publication :: circumstances) (cmd :: cmds)
          = published circumstances cmds) := by
  constructor
  · rintro ⟨valid, room⟩
    simp [published, valid, room]
  · intro fails
    simp only [published, List.zip_cons_cons]
    rw [List.filter_cons_of_neg]
    simpa [Publication.Succeeds] using fails

/-- Without holes, the published fragments are the first ones of the message, by induction on
the fragments: behind one that is not published there are none.
-/
theorem WithoutHoles.published_prefix {circumstances : List Publication} {cmds : List GoproCmd}
    (noHoles : WithoutHoles circumstances cmds)
    : published circumstances cmds <+: cmds := by
  induction cmds generalizing circumstances with
  | nil => simp [published]
  | cons cmd rest ih =>
      cases circumstances with
      | nil => simp [published]
      | cons publication later =>
          obtain ⟨first, others⟩ := List.pairwise_cons.mp noHoles
          by_cases succeeds : publication.Succeeds cmd
          · rw [published_cons.1 succeeds]
            exact (List.prefix_cons_inj cmd).mpr (ih others)
          · have nothing : published later rest = [] := by
              rw [published, List.map_eq_nil_iff, List.filter_eq_nil_iff]
              intro entry member
              have fails := mt (first entry member) succeeds
              simpa [Publication.Succeeds] using fails
            rw [published_cons.2 succeeds, nothing]
            exact List.nil_prefix

/-- What a sender of a long payload publishes has no holes iff what keeps the channel from
taking its type lasts until the message is over.
-/
theorem senders_withoutHoles_iff (stack : StackBytes) (data : List UInt8) (len : Nat)
    (type feature action : UInt8) (circumstances : List Publication) (fits : len < 8191)
    : (17 < len → circumstances.length = fragmentCount 16 len
        → (WithoutHoles circumstances (goproSendBigData stack data len type feature action)
          ↔ Lasting type circumstances))
      ∧ (20 < len → circumstances.length = fragmentCount 18 len
        → (WithoutHoles circumstances (goproSendBuf stack data len type)
          ↔ Lasting type circumstances)) := by
  constructor
  · intro long each
    rw [← goproSendBigData_length stack data type feature action long fits] at each
    exact withoutHoles_iff (goproSendBigData_typed stack data type feature action len) each
  · intro long each
    rw [← goproSendBuf_length stack data type long fits] at each
    exact withoutHoles_iff (goproSendBuf_typed stack data len type) each

/-- Witness: a payload of three fragments is sent while the bus is full for the second one. -/
theorem senders_withoutHoles_full_bus
    : ¬WithoutHoles [⟨.connected, true⟩, ⟨.connected, false⟩, ⟨.connected, true⟩]
        (goproSendBigData .zero (List.replicate 40 0x61) 40 3 0x02 0x05) := by
  rw [withoutHoles_iff (goproSendBigData_typed .zero _ 3 0x02 0x05 40)]
  · simp [Lasting, Publication.Takes, cmdTypeControl, gpCntrlHandleEnd]
  · rw [goproSendBigData_length .zero _ 3 0x02 0x05 (by decide) (by decide)]
    decide

/-- A payload of three fragments that is cut off by the end of the session. -/
theorem senders_withoutHoles_disconnected
    : WithoutHoles [⟨.connected, true⟩, ⟨.unknown, true⟩, ⟨.unknown, true⟩]
        (goproSendBigData .zero (List.replicate 40 0x61) 40 3 0x02 0x05) := by
  have cut : Lasting 3 [⟨.connected, true⟩, ⟨.unknown, true⟩, ⟨.unknown, true⟩] := by
    simp [Lasting, Publication.Takes, cmdTypeControl, gpCntrlHandleEnd]
  exact ((senders_withoutHoles_iff .zero (List.replicate 40 0x61) 40 3 0x02 0x05 _
    (by decide)).1 (by decide) (by decide)).mpr cut

end GoproGateway
