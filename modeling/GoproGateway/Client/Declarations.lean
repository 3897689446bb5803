import Mathlib.Data.List.Basic

/-! The client's shared declarations: states, control handles, and the command record. -/

namespace GoproGateway

/-- `enum gopro_state_list_t`. -/
inductive GoproStateList where
  | unknown
  | offline
  | online
  | connected
  | needPairing
  | pairing
  | stateEnd
  deriving DecidableEq, Repr

/-- `enum gopro_control_handle_list_t`, as the numbers the commands carry. -/
def gpCntrlHandleCmd : Nat := 0
def gpCntrlHandleSettings : Nat := 1
def gpCntrlHandleQuery : Nat := 2
def gpCntrlHandleNet : Nat := 3
def gpCntrlHandleEnd : Nat := 4

/-- The command type of control commands, which are not meant for the camera. -/
def cmdTypeControl : Nat := 0xFF

/-- The indexes below the end are the four handles. -/
theorem lt_handleEnd_iff {i : Nat}
    : i < gpCntrlHandleEnd
      ↔ i = gpCntrlHandleCmd ∨ i = gpCntrlHandleSettings ∨ i = gpCntrlHandleQuery
        ∨ i = gpCntrlHandleNet := by
  unfold gpCntrlHandleCmd gpCntrlHandleSettings gpCntrlHandleQuery gpCntrlHandleNet
    gpCntrlHandleEnd
  omega

/-- Control commands are for no handle. -/
theorem ne_control_of_lt {i : Nat} (small : i < gpCntrlHandleEnd) : i ≠ cmdTypeControl := by
  rcases lt_handleEnd_iff.mp small with rfl | rfl | rfl | rfl <;> decide

def goproCmdDataLen : Nat := 20

def ealready : Int := 120

/-- `struct gopro_cmd_t`: the payload array has its fixed size, of which `len` bytes count. -/
structure GoproCmd where
  len : Nat
  cmdType : Nat
  data : List UInt8
  data_length : data.length = goproCmdDataLen
  deriving DecidableEq, Repr

namespace GoproCmd

/-- `gopro_cmd->data[index]`. -/
def byte (cmd : GoproCmd) (index : Nat) : UInt8 := cmd.data.getD index 0

/-- The bytes that count. -/
def payload (cmd : GoproCmd) : List UInt8 := cmd.data.take cmd.len

end GoproCmd

/-- An automatic array of the command's size, holding whatever the stack held before. -/
structure StackBytes where
  bytes : List UInt8
  bytes_length : bytes.length = goproCmdDataLen
  deriving DecidableEq, Repr

def StackBytes.zero : StackBytes := ⟨List.replicate goproCmdDataLen 0, by simp⟩

/-- An address from the kernel heap. -/
abbrev HeapBuffer := Nat

/-- What discovery assigns to the control handles: no null handles, and all different. -/
structure DistinctHandles (handle : Nat → Nat) : Prop where
  nonzero : ∀ i < gpCntrlHandleEnd, handle i ≠ 0
  distinct : ∀ i < gpCntrlHandleEnd, ∀ j < gpCntrlHandleEnd, handle i = handle j → i = j

/-- Among parameters that hold their own handle, or none yet, a handle tells its parameters. -/
theorem DistinctHandles.match_iff {handle : Nat → Nat} (handles : DistinctHandles handle)
    (values : Nat → Nat) (stale : ∀ i, values i = 0 ∨ values i = handle i) {i j : Nat}
    (own : values i = handle i) (small : i < gpCntrlHandleEnd) (other : j < gpCntrlHandleEnd)
    : values i = values j ↔ i = j := by
  constructor
  · intro same
    rw [own] at same
    rcases stale j with null | assigned
    · exact absurd (same.trans null) (handles.nonzero i small)
    · exact handles.distinct i small j other (same.trans assigned)
  · rintro rfl
    rfl

end GoproGateway
