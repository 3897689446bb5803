import GoproGateway.Parse.StatusNotify

/-! The two ways of asking for a status.

A registration or notification is read to its end; the reply to GET_STATUS is read up to the
first status. So they agree on lists whose later statuses say nothing new.
-/

namespace GoproGateway

open Tlv

/-- The reply's reader applies the status behind the header. -/
theorem goproParseQueryStatusReply_value {data : DataPtr} {tlv : Tlv} {rest : List UInt8}
    (entry : EntryAt data 2 tlv rest)
    (single : tlv.id = goproStatusIdEncoding ∨ tlv.id = goproStatusIdBatPercent
      → tlv.value.length = 1)
    (length : Nat) (state : GoproState)
    : (goproParseQueryStatusReply data length state).value = (applyStatus state tlv, 0) := by
  have isId : data.byte 2 = tlv.id := entry.id
  have isLength : (data.byte 3).toNat = tlv.value.length := entry.length
  simp only [goproParseQueryStatusReply, Traced.bind_value, DataPtr.load, isId, isLength,
    applyStatus]
  by_cases videoNum : tlv.id = goproStatusIdVideoNum
  · have value := videoCountLoop_of_drop entry.value
    rw [if_pos videoNum, if_pos videoNum, Traced.bind_value, value, if_neg]
    · rfl
    · rw [videoNum]
      decide
  rw [if_neg videoNum, if_neg videoNum]
  by_cases battery : tlv.id = goproStatusIdBatPercent
  · have flag := entry.flag (single (.inr battery))
    rw [if_pos battery, if_pos battery, if_neg, ← flag]
    · rfl
    · rw [battery]
      decide
  rw [if_neg battery, if_neg battery]
  by_cases encoding : tlv.id = goproStatusIdEncoding
  · have flag := entry.flag (single (.inl encoding))
    rw [if_pos encoding, if_pos encoding, ← flag]
    rfl
  · rw [if_neg encoding, if_neg encoding]
    rfl

theorem goproPacketParseQuery_reply (data : DataPtr) (totalLen : Nat) (state : GoproState)
    : (goproPacketParseQuery goproQueryStatusGetStatus 0 data totalLen state).value
      = (goproParseQueryStatusReply data totalLen state).value.1 := by
  simp [goproPacketParseQuery, goproQueryStatusGetStatus, goproQueryStatusRegStatus,
    goproQueryStatusRegStatusNotify]

theorem goproPacketParseQuery_notify {id : UInt8} (data : DataPtr) (totalLen : Nat)
    (state : GoproState)
    (registered : id = goproQueryStatusRegStatus ∨ id = goproQueryStatusRegStatusNotify)
    : (goproPacketParseQuery id 0 data totalLen state).value
      = (goproParseQueryStatusNotify data totalLen state).value.1 := by
  rcases registered with rfl | rfl <;>
    simp [goproPacketParseQuery, goproQueryStatusGetStatus, goproQueryStatusRegStatus,
      goproQueryStatusRegStatusNotify]

/-- The later statuses say nothing new: of each of the three identifiers, the last later value
is the one that the first status gives, or, when that is about something else, the one that
the state already holds.
-/
structure SaysNothingNew (state : GoproState) (first : Tlv) (later : List Tlv) : Prop where
  encoding : ∀ value, lastValue goproStatusIdEncoding later = some value
    → value.headD 0
      = if first.id = goproStatusIdEncoding then first.value.headD 0 else state.record
  batPercent : ∀ value, lastValue goproStatusIdBatPercent later = some value
    → value.headD 0
      = if first.id = goproStatusIdBatPercent then first.value.headD 0 else state.battery
  videoNum : ∀ value, lastValue goproStatusIdVideoNum later = some value
    → UInt32.ofNat (bigEndian value)
      = if first.id = goproStatusIdVideoNum then .ofNat (bigEndian first.value)
        else state.videoCount

/-- The three status fields of two states agree. -/
def SameStatuses (state other : GoproState) : Prop :=
  state.record = other.record ∧ state.battery = other.battery
    ∧ state.videoCount = other.videoCount

/-- A field keeps its value under later ones iff the last of them is the same. -/
theorem eq_getD_map_iff {α β : Type} {field : α} {read : β → α} {last : Option β}
    : field = (last.map read).getD field ↔ ∀ value, last = some value → read value = field := by
  cases last with
  | none => simp
  | some value => simp [eq_comm]

theorem sameStatuses_lastStatuses_iff (state : GoproState) (first : Tlv) (later : List Tlv)
    : SameStatuses (applyStatus state first) (lastStatuses (applyStatus state first) later)
      ↔ SaysNothingNew state first later := by
  have record : (applyStatus state first).record
      = if first.id = goproStatusIdEncoding then first.value.headD 0 else state.record := by
    unfold applyStatus
    split_ifs <;> rfl
  have battery : (applyStatus state first).battery
      = if first.id = goproStatusIdBatPercent then first.value.headD 0 else state.battery := by
    unfold applyStatus
    split_ifs with encoding videoNum battery <;>
      simp_all [goproStatusIdEncoding, goproStatusIdVideoNum, goproStatusIdBatPercent]
  have videoCount : (applyStatus state first).videoCount
      = if first.id = goproStatusIdVideoNum then .ofNat (bigEndian first.value)
        else state.videoCount := by
    unfold applyStatus
    split_ifs with encoding videoNum battery <;>
      simp_all [goproStatusIdEncoding, goproStatusIdVideoNum, goproStatusIdBatPercent]
  simp only [SameStatuses, lastStatuses, eq_getD_map_iff, record, battery, videoCount]
  constructor
  · rintro ⟨encoding, batPercent, videoNum⟩
    exact ⟨encoding, batPercent, videoNum⟩
  · rintro ⟨encoding, batPercent, videoNum⟩
    exact ⟨encoding, batPercent, videoNum⟩

/-- The reply to GET_STATUS and the registration or notification with the same statuses leave
the same three fields iff the statuses behind the first one say nothing new. Witness: the
reply's reader has no loop.
-/
theorem goproPacketParseQuery_agree_iff (replied registered : DataPtr) (id : UInt8)
    (first : Tlv) (later : List Tlv) (state : GoproState)
    (isRegistered : id = goproQueryStatusRegStatus ∨ id = goproQueryStatusRegStatusNotify)
    (wellFormed : IsStatuses (first :: later))
    (reply : replied.bytes = goproQueryStatusGetStatus :: 0 :: encodeAll (first :: later))
    (registration : registered.bytes = id :: 0 :: encodeAll (first :: later))
    (short : registered.bytes.length ≤ 65535)
    : SameStatuses
        (goproPacketParseQuery goproQueryStatusGetStatus 0 replied replied.bytes.length
          state).value
        (goproPacketParseQuery id 0 registered registered.bytes.length state).value
      ↔ SaysNothingNew state first later := by
  obtain ⟨⟨fits, single⟩, _⟩ := List.forall_mem_cons.mp wellFormed
  have entry : EntryAt replied 2 first (encodeAll later) :=
    .of_drop fits (by rw [reply]; rfl)
  rw [goproPacketParseQuery_reply, goproPacketParseQuery_notify _ _ _ isRegistered,
    goproParseQueryStatusReply_value entry single,
    goproParseQueryStatusNotify_foldl isRegistered wellFormed registration short,
    List.foldl_cons, foldl_applyStatus]
  exact sameStatuses_lastStatuses_iff state first later

/-- Both ways give the battery of a list that ends with an unknown status. -/
theorem goproPacketParseQuery_agree_battery
    : SameStatuses
        (goproPacketParseQuery 0x13 0 ⟨[0x13, 0x00, 70, 1, 87, 2, 1, 3], fun _ => 0⟩ 8
          .zero).value
        (goproPacketParseQuery 0x93 0 ⟨[0x93, 0x00, 70, 1, 87, 2, 1, 3], fun _ => 0⟩ 8
          .zero).value := by
  refine (goproPacketParseQuery_agree_iff ⟨[0x13, 0x00, 70, 1, 87, 2, 1, 3], fun _ => 0⟩
    ⟨[0x93, 0x00, 70, 1, 87, 2, 1, 3], fun _ => 0⟩ 0x93 ⟨70, [87]⟩ [⟨2, [3]⟩] .zero (.inr rfl)
    (by simp [IsStatuses, Tlv.Fits, goproStatusIdEncoding, goproStatusIdBatPercent]) rfl rfl
    (by decide)).mpr ?_
  constructor <;>
    simp [lastValue_cons, goproStatusIdEncoding, goproStatusIdBatPercent, goproStatusIdVideoNum]

/-- The battery in front of the number of videos: only a registration counts the videos. -/
theorem goproPacketParseQuery_disagrees
    : ¬ ∀ (replied registered : DataPtr) (tlvs : List Tlv) (state : GoproState),
      tlvs ≠ [] → IsStatuses tlvs
      → replied.bytes = goproQueryStatusGetStatus :: 0 :: encodeAll tlvs
      → registered.bytes = goproQueryStatusRegStatus :: 0 :: encodeAll tlvs
      → SameStatuses
        (goproPacketParseQuery goproQueryStatusGetStatus 0 replied replied.bytes.length
          state).value
        (goproPacketParseQuery goproQueryStatusRegStatus 0 registered registered.bytes.length
          state).value := by
  intro every
  have wellFormed : IsStatuses [⟨70, [87]⟩, ⟨39, [5]⟩] := by
    simp [IsStatuses, Tlv.Fits, goproStatusIdEncoding, goproStatusIdBatPercent]
  have same := every ⟨[0x13, 0x00, 70, 1, 87, 39, 1, 5], fun _ => 0⟩
    ⟨[0x53, 0x00, 70, 1, 87, 39, 1, 5], fun _ => 0⟩ [⟨70, [87]⟩, ⟨39, [5]⟩] .zero (by simp)
    wellFormed rfl rfl
  have entry : EntryAt ⟨[0x13, 0x00, 70, 1, 87, 39, 1, 5], fun _ => 0⟩ 2 ⟨70, [87]⟩
      (encodeAll [⟨39, [5]⟩]) := .of_drop (by simp [Tlv.Fits]) rfl
  rw [goproPacketParseQuery_reply, goproPacketParseQuery_notify _ _ _ (.inl rfl),
    goproParseQueryStatusReply_value entry (fun _ => rfl),
    goproParseQueryStatusNotify_foldl (.inl rfl) wellFormed rfl (by decide)] at same
  exact absurd same.2.2 (by decide)

end GoproGateway
