import GoproGateway.Library.Tlv
import GoproGateway.Parse.Status

/-! What the status notifications decode to.

The loop's counter starts one short of the bytes behind the header and stays so after every
entry, which is just enough: one byte is never an entry, and two are one.
-/

namespace GoproGateway

open Tlv

/-- A list of statuses: values fit their length byte, and the flags are single bytes. -/
def IsStatuses (tlvs : List Tlv) : Prop :=
  ∀ tlv ∈ tlvs, tlv.Fits
    ∧ (tlv.id = goproStatusIdEncoding ∨ tlv.id = goproStatusIdBatPercent
      → tlv.value.length = 1)

/-- What one status says about the camera. -/
def applyStatus (state : GoproState) (tlv : Tlv) : GoproState :=
  if tlv.id = goproStatusIdEncoding then { state with record := tlv.value.headD 0 }
  else if tlv.id = goproStatusIdVideoNum then
    { state with videoCount := .ofNat (bigEndian tlv.value) }
  else if tlv.id = goproStatusIdBatPercent then { state with battery := tlv.value.headD 0 }
  else state

/-- The state in which every status that occurs has its last value, and nothing else has
changed.
-/
def lastStatuses (state : GoproState) (tlvs : List Tlv) : GoproState where
  state := state.state
  videoCount :=
    ((lastValue goproStatusIdVideoNum tlvs).map fun value => .ofNat (bigEndian value)).getD
      state.videoCount
  record := ((lastValue goproStatusIdEncoding tlvs).map (·.headD 0)).getD state.record
  battery := ((lastValue goproStatusIdBatPercent tlvs).map (·.headD 0)).getD state.battery
  strings := state.strings

/-- Statuses applied in order leave the last ones. -/
theorem foldl_applyStatus (state : GoproState) (tlvs : List Tlv)
    : tlvs.foldl applyStatus state = lastStatuses state tlvs := by
  induction tlvs generalizing state with
  | nil => rfl
  | cons tlv rest ih =>
      rw [List.foldl_cons, ih]
      simp only [lastStatuses, applyStatus, lastValue_cons]
      by_cases encoding : tlv.id = goproStatusIdEncoding
      · cases lastValue goproStatusIdEncoding rest <;>
          simp [encoding, goproStatusIdEncoding, goproStatusIdVideoNum, goproStatusIdBatPercent]
      · by_cases videoNum : tlv.id = goproStatusIdVideoNum
        · cases lastValue goproStatusIdVideoNum rest <;>
            simp [videoNum, goproStatusIdEncoding, goproStatusIdVideoNum,
              goproStatusIdBatPercent]
        · by_cases battery : tlv.id = goproStatusIdBatPercent
          · cases lastValue goproStatusIdBatPercent rest <;>
              simp [battery, goproStatusIdEncoding, goproStatusIdVideoNum,
                goproStatusIdBatPercent]
          · simp [encoding, videoNum, battery]

-----------------------------------------------------------------------------------------
-- The reader on encoded statuses
-----------------------------------------------------------------------------------------

theorem videoCountLoop_value (data : DataPtr) (index count : Nat) (videoCount : UInt32)
    : (videoCountLoop data index count videoCount).value
      = (data.block index count).foldl (fun total byte => total * 256 + byte.toUInt32)
          videoCount := by
  induction count generalizing index videoCount with
  | zero => rfl
  | succ count ih =>
      have split : data.block index (count + 1)
          = data.byte index :: data.block (index + 1) count := by
        simp [DataPtr.block, List.range_succ_eq_map, Function.comp_def, Nat.add_assoc,
          Nat.add_comm 1]
      rw [split, List.foldl_cons, videoCountLoop, Traced.bind_value, ih]
      rfl

/-- The count is the big-endian number, in 32 bits. -/
theorem foldl_videoCount (bytes : List UInt8)
    : bytes.foldl (fun total byte => total * 256 + byte.toUInt32) (0 : UInt32)
      = .ofNat (bigEndian bytes) := by
  suffices general : ∀ (total : UInt32) (number : Nat), total = .ofNat number
      → bytes.foldl (fun total byte => total * 256 + byte.toUInt32) total
        = .ofNat (bytes.foldl (fun value byte => value * 256 + byte.toNat) number) from
    general 0 0 rfl
  induction bytes with
  | nil => exact fun total number same => same
  | cons byte rest ih =>
      intro total number same
      refine ih _ _ ?_
      subst same
      simp [UInt32.ofNat_add, UInt32.ofNat_mul]

/-- At an entry's value, the loop computes the value's number. -/
theorem videoCountLoop_of_drop {data : DataPtr} {index : Nat} {value rest : List UInt8}
    (remaining : data.bytes.drop index = value ++ rest)
    : (videoCountLoop data index value.length 0).value = .ofNat (bigEndian value) := by
  rw [videoCountLoop_value, DataPtr.block_of_drop remaining, foldl_videoCount]

/-- An entry stands at an index, in front of the rest of a message. -/
structure EntryAt (data : DataPtr) (index : Nat) (tlv : Tlv) (rest : List UInt8) : Prop where
  id : data.byte index = tlv.id
  length : (data.byte (index + 1)).toNat = tlv.value.length
  value : data.bytes.drop (index + 2) = tlv.value ++ rest
  after : data.bytes.drop (index + 2 + tlv.value.length) = rest

theorem EntryAt.of_drop {data : DataPtr} {index : Nat} {tlv : Tlv} {rest : List Tlv}
    (fits : tlv.Fits) (remaining : data.bytes.drop index = encodeAll (tlv :: rest))
    : EntryAt data index tlv (encodeAll rest) := by
  rw [encodeAll_cons] at remaining
  have behindId := ByteBuffer.drop_succ_of_drop remaining
  have behindLength := ByteBuffer.drop_succ_of_drop behindId
  refine ⟨DataPtr.byte_of_drop remaining, ?_, behindLength,
    ByteBuffer.drop_of_drop behindLength⟩
  rw [DataPtr.byte_of_drop behindId, length_byte fits]

/-- A flag's byte is the first one of its value. -/
theorem EntryAt.flag {data : DataPtr} {index : Nat} {tlv : Tlv} {rest : List UInt8}
    (entry : EntryAt data index tlv rest) (single : tlv.value.length = 1)
    : data.byte (index + 2) = tlv.value.headD 0 := by
  obtain ⟨byte, value⟩ := List.length_eq_one_iff.mp single
  have here := entry.value
  rw [value] at here ⊢
  exact DataPtr.byte_of_drop here

/-- One turn of the loop applies the status that it stands at, and steps behind it. -/
theorem statusNotifyLoop_entry {data : DataPtr} {index : Nat} {tlv : Tlv} {rest : List UInt8}
    (entry : EntryAt data index tlv rest)
    (single : tlv.id = goproStatusIdEncoding ∨ tlv.id = goproStatusIdBatPercent
      → tlv.value.length = 1)
    {totalDataLen : Int} (positive : 0 < totalDataLen) (state : GoproState)
    : (statusNotifyLoop data index totalDataLen state).value
      = (statusNotifyLoop data (index + 2 + tlv.value.length)
          (totalDataLen - 2 - tlv.value.length) (applyStatus state tlv)).value := by
  rw [statusNotifyLoop, if_pos positive]
  simp only [Traced.bind_value, DataPtr.load, entry.id, entry.length, applyStatus]
  by_cases encoding : tlv.id = goproStatusIdEncoding
  · have one := single (.inl encoding)
    rw [if_pos encoding, if_pos encoding, one, ← entry.flag one]
    rfl
  rw [if_neg encoding, if_neg encoding]
  by_cases videoNum : tlv.id = goproStatusIdVideoNum
  · rw [if_pos videoNum, if_pos videoNum, Traced.bind_value,
      videoCountLoop_of_drop entry.value]
  rw [if_neg videoNum, if_neg videoNum]
  by_cases battery : tlv.id = goproStatusIdBatPercent
  · have one := single (.inr battery)
    rw [if_pos battery, if_pos battery, one, ← entry.flag one]
    rfl
  · rw [if_neg battery, if_neg battery]

/-- On encoded statuses, with its counter one short of them, the loop applies each in turn. -/
theorem statusNotifyLoop_value {data : DataPtr} {index : Nat} {tlvs : List Tlv}
    (wellFormed : IsStatuses tlvs) (remaining : data.bytes.drop index = encodeAll tlvs)
    (state : GoproState)
    : (statusNotifyLoop data index ((encodeAll tlvs).length - 1) state).value
      = tlvs.foldl applyStatus state := by
  induction tlvs generalizing index state with
  | nil =>
      rw [statusNotifyLoop, if_neg (by simp)]
      rfl
  | cons tlv rest ih =>
      obtain ⟨⟨fits, single⟩, wellFormed⟩ := List.forall_mem_cons.mp wellFormed
      have entry := EntryAt.of_drop fits remaining
      have size : (encodeAll (tlv :: rest)).length
          = 2 + tlv.value.length + (encodeAll rest).length := by
        simp only [encodeAll_cons, List.length_cons, List.length_append]
        omega
      have counter : ((encodeAll (tlv :: rest)).length : Int) - 1 - 2 - tlv.value.length
          = (encodeAll rest).length - 1 := by omega
      rw [statusNotifyLoop_entry entry single (by omega), counter, List.foldl_cons]
      exact ih wellFormed entry.after _

/-- A registration reply or a notification applies its statuses one by one. -/
theorem goproParseQueryStatusNotify_foldl {data : DataPtr} {id : UInt8} {tlvs : List Tlv}
    (registered : id = goproQueryStatusRegStatus ∨ id = goproQueryStatusRegStatusNotify)
    (wellFormed : IsStatuses tlvs) (message : data.bytes = id :: 0 :: encodeAll tlvs)
    (short : data.bytes.length ≤ 65535) (state : GoproState)
    : (goproParseQueryStatusNotify data data.bytes.length state).value
      = (tlvs.foldl applyStatus state, 0) := by
  have isId : data.byte 0 = id := DataPtr.byte_of_drop (by rw [List.drop_zero, message])
  have isResult : data.byte 1 = 0 := DataPtr.byte_of_drop (by rw [message]; rfl)
  have known : ¬ (id ≠ goproQueryStatusRegStatusNotify ∧ id ≠ goproQueryStatusRegStatus) :=
    fun ⟨notNotify, notReply⟩ => registered.elim notReply notNotify
  have counter : ((data.bytes.length % 65536 : Nat) : Int) - 3
      = (encodeAll tlvs).length - 1 := by
    have size := congrArg List.length message
    simp only [List.length_cons] at size
    omega
  have entries : data.bytes.drop 2 = encodeAll tlvs := by rw [message]; rfl
  simp only [goproParseQueryStatusNotify, Traced.bind_value, DataPtr.load, isId, isResult,
    if_neg known, ne_eq, not_true_eq_false, if_false, Traced.pure_value, counter]
  rw [statusNotifyLoop_value wellFormed entries]

/-- A registration reply or a notification, with any list of statuses, leaves each status that
it lists at its last value and everything else as it was. Witness: the counter is one short of
the entries left at every turn, so the loop ends with the last entry.
-/
theorem goproParseQueryStatusNotify_decodes (data : DataPtr) (id : UInt8) (tlvs : List Tlv)
    (state : GoproState)
    (registered : id = goproQueryStatusRegStatus ∨ id = goproQueryStatusRegStatusNotify)
    (wellFormed : IsStatuses tlvs) (message : data.bytes = id :: 0 :: encodeAll tlvs)
    (short : data.bytes.length ≤ 65535)
    : (goproParseQueryStatusNotify data data.bytes.length state).value
      = (lastStatuses state tlvs, 0) := by
  rw [goproParseQueryStatusNotify_foldl registered wellFormed message short,
    foldl_applyStatus]

/-- A REGISTER_STATUS reply that says: not recording, an unknown status, two videos, 87%. -/
theorem goproParseQueryStatusNotify_decodes_reply
    : (goproParseQueryStatusNotify
        ⟨[0x53, 0x00, 10, 1, 0, 2, 1, 3, 39, 4, 0, 0, 1, 2, 70, 1, 87], fun _ => 0⟩ 17
        .zero).value
      = ({ GoproState.zero with videoCount := 258, battery := 87 }, 0) := by
  have decodes := goproParseQueryStatusNotify_decodes
    ⟨[0x53, 0x00, 10, 1, 0, 2, 1, 3, 39, 4, 0, 0, 1, 2, 70, 1, 87], fun _ => 0⟩ 0x53
    [⟨10, [0]⟩, ⟨2, [3]⟩, ⟨39, [0, 0, 1, 2]⟩, ⟨70, [87]⟩] .zero (.inl rfl)
    (by simp [IsStatuses, Tlv.Fits, goproStatusIdEncoding, goproStatusIdBatPercent])
    rfl (by decide)
  exact decodes

end GoproGateway
