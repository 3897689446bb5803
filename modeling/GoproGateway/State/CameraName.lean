import GoproGateway.Client.Commands
import GoproGateway.State.StringWriters

/-! The camera's name, from its advertisements to the reply on the CAN bus.

The writer leaves the array alone when the new name compares equal over its own length. So a
name that the stored one starts with is taken for the stored one.
-/

namespace GoproGateway

/-- What `gopro_ctrl_parse` passes to `can_reply`: an address, and `strlen` bytes of the name. -/
def ctrlReply (cmd : GoproCmd) (strings : StateStrings) : Option (Int × List UInt8) :=
  match (goproCtrlParse cmd).2 with
  | some .replyName => some (0xFF, strings.text .name)
  | _ => none

/-- A name in an advertising report, and what stands behind it in memory; the length of an
element of a report is a `uint8_t`.
-/
structure AdvName where
  bytes : List UInt8
  behind : Nat → UInt8
  plain : 0 ∉ bytes
  nonempty : bytes ≠ []
  short : bytes.length < 256

/-- The callers of `gopro_client_setname`. -/
inductive NameInput where
  /-- `eir_found` on an element of type 9. -/
  | eirFound (name : AdvName)
  /-- `led_idle_handler`, in a state of the client. -/
  | ledIdleHandler (state : GoproStateList)

def NameInput.setname (strings : StateStrings) : NameInput → StateTrace (StateStrings × Int)
  | .eirFound name =>
      goproClientSetname (some ⟨name.bytes, name.behind⟩) (UInt8.ofNat name.bytes.length) strings
  | .ledIdleHandler state =>
      if state ≠ .unknown then goproClientSetname none 0 strings else return (strings, 0)

/-- The name to report after an input: the last one accepted, or none after a reset. -/
def NameInput.nameAfter (last : List UInt8) : NameInput → List UInt8
  | .eirFound name => if name.bytes.length < goproNameLen then name.bytes else last
  | .ledIdleHandler state => if state ≠ .unknown then [] else last

/-- The strings, next to the name to report. -/
structure CameraName where
  strings : StateStrings
  last : List UInt8

def CameraName.zero : CameraName := ⟨.zero, []⟩

def cameraName : InputMachine CameraName NameInput StateEvent where
  step state input :=
    let traced := input.setname state.strings
    (⟨traced.value.1, input.nameAfter state.last⟩, traced.events)

/-- A request for the name is answered with the last one. -/
def CameraName.ReportsLast (state : CameraName) : Prop :=
  ∀ cmd : GoproCmd, cmd.cmdType = cmdTypeControl → cmd.len = 1 → cmd.byte 0 = 0xBB
    → ctrlReply cmd state.strings = some (0xFF, state.last)

/-- The input does not shorten the name: no advertised name is a proper beginning of the last
one.
-/
def DoesNotShorten (state : CameraName) : NameInput → Prop
  | .eirFound name => name.bytes <+: state.last → name.bytes = state.last
  | .ledIdleHandler _ => True

-----------------------------------------------------------------------------------------
-- One call
-----------------------------------------------------------------------------------------

/-- The array holds a name with its terminator. -/
def StateStrings.Named (strings : StateStrings) (name : List UInt8) : Prop :=
  0 ∉ name ∧ ∃ rest, strings.array .name = name ++ 0 :: rest

namespace StateStrings

variable {strings : StateStrings} {name : List UInt8}

theorem Named.text (named : strings.Named name) : strings.text .name = name := by
  obtain ⟨plain, rest, array⟩ := named
  have front : strings.bytes = strings.array .name ++ strings.bytes.drop goproNameLen := by
    rw [StateStrings.array, ByteBuffer.read]
    exact (List.take_append_drop goproNameLen strings.bytes).symm
  have bytes : strings.bytes.drop StringField.name.offset
      = name ++ 0 :: (rest ++ strings.bytes.drop goproNameLen) := by
    rw [← List.cons_append, ← List.append_assoc, ← array, ← front]
    rfl
  rw [StateStrings.text, bytes, CString.text_append_nul plain]

/-- What is stored behind a terminator does not matter. -/
theorem named_put (strings : StateStrings) (plain : 0 ∉ name)
    (short : name.length < goproNameLen)
    : (strings.put .name name).Named name :=
  ⟨plain, _, array_put_same strings .name short⟩

theorem named_clear (strings : StateStrings)
    : (strings.store .name 0 (List.replicate goproNameLen 0)).Named [] := by
  refine ⟨List.not_mem_nil, List.replicate 19 0, ?_⟩
  rw [array_store_same _ _ (by simp), ByteBuffer.write_front (by simp)]
  simp [goproNameLen]

end StateStrings

section Setname

variable {strings : StateStrings} {last : List UInt8} (named : strings.Named last)

/-- A name that is too long is refused. -/
theorem goproClientSetname_long (strings : StateStrings) (name : Option DataPtr) {len : UInt8}
    (long : goproNameLen ≤ len.toNat)
    : (goproClientSetname name len strings).value = (strings, -1) := by
  rw [goproClientSetname, if_pos long]
  rfl

include named

/-- An accepted name is stored, except where the name stored before starts with it. -/
theorem setname_accepted (name : AdvName) (accepted : name.bytes.length < goproNameLen)
    : ((NameInput.eirFound name).setname strings).value.1
      = if name.bytes <+: last then strings else strings.put .name name.bytes := by
  obtain ⟨plain, rest, array⟩ := named
  have len : (UInt8.ofNat name.bytes.length).toNat = name.bytes.length := by
    rw [UInt8.toNat_ofNat']
    exact Nat.mod_eq_of_lt name.short
  have positive : UInt8.ofNat name.bytes.length > 0 := by
    have some := List.length_pos_iff.mpr name.nonempty
    rw [gt_iff_lt, UInt8.lt_iff_toNat_lt, len]
    exact some
  have block : (DataPtr.mk name.bytes name.behind).block 0 name.bytes.length = name.bytes := by
    rw [DataPtr.block_eq_read _ (by simp), ByteBuffer.read_zero_length]
  have compares := CString.strncmp_length_eq_zero_iff name.plain (strings.array .name)
  rw [array, CString.prefix_append_nul_iff name.plain] at compares
  rw [NameInput.setname, goproClientSetname, len, if_neg (Nat.not_le.mpr accepted),
    if_pos positive]
  simp only [block]
  by_cases starts : name.bytes <+: last
  · rw [if_pos starts, array, if_pos (compares.mpr starts)]
    rfl
  · rw [if_neg starts, array, if_neg (mt compares.mp starts)]
    rfl

end Setname

/-- A step that does not shorten the name leaves the array with the name to report. -/
theorem cameraName_named {state : CameraName} (named : state.strings.Named state.last)
    {input : NameInput} (keeps : DoesNotShorten state input)
    : (cameraName.step state input).1.strings.Named (cameraName.step state input).1.last := by
  cases input with
  | eirFound name =>
      simp only [cameraName, NameInput.nameAfter]
      rcases Nat.lt_or_ge name.bytes.length goproNameLen with accepted | long
      · rw [setname_accepted named name accepted, if_pos accepted]
        split_ifs with starts
        · rw [keeps starts]
          exact named
        · exact StateStrings.named_put state.strings name.plain accepted
      · have refused : goproNameLen ≤ (UInt8.ofNat name.bytes.length).toNat := by
          rw [UInt8.toNat_ofNat', Nat.mod_eq_of_lt name.short]
          exact long
        rw [NameInput.setname, goproClientSetname_long _ _ refused,
          if_neg (Nat.not_lt.mpr long)]
        exact named
  | ledIdleHandler client =>
      simp only [cameraName, NameInput.nameAfter, NameInput.setname]
      split_ifs with active
      · exact StateStrings.named_clear state.strings
      · exact named

/-- Where a name is stored, it is what is reported. -/
theorem CameraName.reportsLast_iff {state : CameraName} {name : List UInt8}
    (named : state.strings.Named name)
    : state.ReportsLast ↔ name = state.last := by
  have reply (cmd : GoproCmd) (control : cmd.cmdType = cmdTypeControl) (single : cmd.len = 1)
      (request : cmd.byte 0 = 0xBB)
      : ctrlReply cmd state.strings = some (0xFF, name) := by
    have action : (goproCtrlParse cmd).2 = some .replyName := by
      rw [goproCtrlParse, if_pos ⟨control, single⟩, request]
      rfl
    rw [ctrlReply, action, named.text]
  constructor
  · intro reports
    let cmd : GoproCmd := ⟨1, cmdTypeControl, 0xBB :: List.replicate 19 0, rfl⟩
    have same := (reply cmd rfl rfl rfl).symm.trans (reports cmd rfl rfl rfl)
    simpa using same
  · rintro rfl cmd control single request
    exact reply cmd control single request

/-- From a state that reports the last name, a step does so too iff it does not shorten it. -/
theorem cameraName_reportsLast_iff {state : CameraName}
    (named : state.strings.Named state.last) (input : NameInput)
    : (cameraName.step state input).1.ReportsLast ↔ DoesNotShorten state input := by
  constructor
  · intro reports
    cases input with
    | eirFound name =>
        intro starts
        have accepted : name.bytes.length < goproNameLen := by
          obtain ⟨plain, rest, array⟩ := named
          have size := congrArg List.length array
          have within := starts.length_le
          simp only [StateStrings.array_length, List.length_append, List.length_cons] at size
          omega
        have kept : (cameraName.step state (.eirFound name)).1.strings = state.strings := by
          simp only [cameraName, setname_accepted named name accepted, if_pos starts]
        have reported := (CameraName.reportsLast_iff (by rw [kept]; exact named)).mp reports
        rw [reported]
        simp only [cameraName, NameInput.nameAfter, if_pos accepted]
    | ledIdleHandler client => trivial
  · intro keeps
    exact (CameraName.reportsLast_iff (cameraName_named named keeps)).mpr rfl

-----------------------------------------------------------------------------------------
-- Runs
-----------------------------------------------------------------------------------------

theorem CameraName.zero_named : CameraName.zero.strings.Named CameraName.zero.last :=
  ⟨List.not_mem_nil, List.replicate 19 0, by decide⟩

/-- From the zeroed state, the name reported is the last one accepted, or empty after a reset,
all the way, iff no advertised name is a proper beginning of the name that was last at the
time. Witness: the comparison over the new name's length.
-/
theorem ctrlReply_reportsLast_iff (inputs : List NameInput)
    : cameraName.Always (·.ReportsLast) .zero inputs
      ↔ cameraName.Along DoesNotShorten .zero inputs := by
  have first : CameraName.zero.ReportsLast :=
    (CameraName.reportsLast_iff CameraName.zero_named).mpr rfl
  have every : ∀ input ∈ inputs, True := fun _ _ => trivial
  rw [InputMachine.always_iff, and_iff_right first]
  refine InputMachine.along_congr (fun state => state.strings.Named state.last) ?_ ?_
    CameraName.zero_named every
  · intro state input named _ keeps
    exact cameraName_named named keeps
  · intro state input named _
    exact cameraName_reportsLast_iff named input

def advName (bytes : List UInt8) (plain : 0 ∉ bytes) (nonempty : bytes ≠ [])
    (short : bytes.length < 256)
    : NameInput :=
  .eirFound ⟨bytes, fun _ => 0, plain, nonempty, short⟩

/-- A name, a longer one that starts with it, and a reset. -/
theorem ctrlReply_reportsLast_longer
    : cameraName.Always (·.ReportsLast) .zero
        [advName [0x47, 0x50] (by decide) (by decide) (by decide),
          advName [0x47, 0x50, 0x31] (by decide) (by decide) (by decide),
          .ledIdleHandler .offline] :=
  (ctrlReply_reportsLast_iff _).mpr
    ⟨fun starts : [0x47, 0x50] <+: [] => absurd starts (by decide),
      fun starts : [0x47, 0x50, 0x31] <+: [0x47, 0x50] => absurd starts (by decide),
      trivial, trivial⟩

/-- A name and then a shorter one that it starts with: the longer one is still reported. -/
theorem ctrlReply_reports_longer_name
    : ¬ ∀ inputs : List NameInput, cameraName.Always (·.ReportsLast) .zero inputs := by
  intro every
  have reported := every
    [advName [0x47, 0x50] (by decide) (by decide) (by decide),
      advName [0x47] (by decide) (by decide) (by decide)] _ [] (List.append_nil _).symm
    ⟨1, cmdTypeControl, 0xBB :: List.replicate 19 0, rfl⟩ rfl rfl rfl
  exact absurd reported (by decide +kernel)

end GoproGateway
