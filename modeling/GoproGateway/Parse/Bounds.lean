import GoproGateway.Parse.HwInfo
import GoproGateway.Parse.Status

/-! Which bytes the three readers look at.

None of them compares an index with the length of the message. For each there is a grammar of
the messages that keep it inside; every rule says what the length bytes may promise.
-/

namespace GoproGateway

/-- A computation reads bytes of a message of `total` bytes only. -/
def StateTrace.Stays {α : Type} (total : Nat) (traced : StateTrace α) : Prop :=
  ∀ event ∈ traced.events, event.ReadsWithin total

section Stays

variable {α β : Type} {total : Nat}

theorem stays_bind {first : StateTrace α} {next : α → StateTrace β}
    : StateTrace.Stays total (first >>= next)
      ↔ first.Stays total ∧ (next first.value).Stays total :=
  Traced.forall_events_bind

@[simp] theorem stays_pure (value : α) : (pure value : StateTrace α).Stays total := by
  simp [StateTrace.Stays]

@[simp] theorem stays_load (data : DataPtr) (index : Nat)
    : (data.load index).Stays total ↔ index < total := by
  simp only [StateTrace.Stays, DataPtr.load, List.forall_mem_singleton, StateEvent.ReadsWithin]
  exact ⟨fun within => within index (Nat.le_refl _) (Nat.lt_succ_self _),
    fun inside other low high => by omega⟩

/-- No byte is read of an empty block. -/
@[simp] theorem stays_loadBlock (data : DataPtr) (start count : Nat)
    : (data.loadBlock start count).Stays total ↔ count = 0 ∨ start + count ≤ total := by
  simp only [StateTrace.Stays, DataPtr.loadBlock, List.forall_mem_singleton,
    StateEvent.ReadsWithin]
  constructor
  · intro within
    by_cases empty : count = 0
    · exact .inl empty
    · have last := within (start + count - 1) (by omega) (by omega)
      exact .inr (by omega)
  · intro within index low high
    omega

@[simp] theorem stays_storeString (strings : StateStrings) (field : StringField)
    (index : Nat) (block : List UInt8)
    : (storeString strings field index block).Stays total := by
  simp [StateTrace.Stays, storeString, StateEvent.ReadsWithin]

@[simp] theorem stays_storeTerminated (strings : StateStrings) (field : StringField)
    (block : List UInt8)
    : (storeTerminated strings field block).Stays total := by
  simp [storeTerminated, stays_bind]

@[simp] theorem stays_setRecord (state : GoproState) (record : UInt8)
    : (setRecord state record).Stays total := by
  simp [StateTrace.Stays, setRecord, StateEvent.ReadsWithin]

@[simp] theorem stays_videoCountLoop (data : DataPtr) (index count : Nat) (videoCount : UInt32)
    : (videoCountLoop data index count videoCount).Stays total
      ↔ count = 0 ∨ index + count ≤ total := by
  induction count generalizing index videoCount with
  | zero => simp [videoCountLoop]
  | succ count ih =>
      rw [videoCountLoop, stays_bind, stays_load, ih]
      omega

end Stays

-----------------------------------------------------------------------------------------
-- The reply to GET_STATUS
-----------------------------------------------------------------------------------------

/-- The header and the first two bytes of a status are there, and so is the value that the
status' reader takes.
-/
def ReplyFits : List UInt8 → Prop
  | _ :: _ :: statusId :: statusLen :: rest =>
      if statusId = goproStatusIdVideoNum then statusLen.toNat ≤ rest.length
      else statusId = goproStatusIdBatPercent ∨ statusId = goproStatusIdEncoding → rest ≠ []
  | _ => False

theorem goproParseQueryStatusReply_stays_iff (data : DataPtr) (length : Nat)
    (state : GoproState)
    : (goproParseQueryStatusReply data length state).Stays data.bytes.length
      ↔ ReplyFits data.bytes := by
  obtain ⟨bytes, behind⟩ := data
  rcases bytes with _ | ⟨id, _ | ⟨result, _ | ⟨statusId, _ | ⟨statusLen, rest⟩⟩⟩⟩
  case cons.cons.cons.cons =>
    have isId : (DataPtr.mk (id :: result :: statusId :: statusLen :: rest) behind).byte 2
        = statusId := rfl
    have isLength : (DataPtr.mk (id :: result :: statusId :: statusLen :: rest) behind).byte 3
        = statusLen := rfl
    have positive : rest ≠ [] ↔ 0 < rest.length := List.length_pos_iff.symm
    simp only [goproParseQueryStatusReply, stays_bind, stays_load, DataPtr.load_value, isId,
      isLength, ReplyFits, List.length_cons]
    by_cases videoNum : statusId = goproStatusIdVideoNum
    · rw [if_pos videoNum, if_pos videoNum, stays_bind, stays_videoCountLoop]
      simp only [stays_pure, and_true]
      omega
    rw [if_neg videoNum, if_neg videoNum, positive]
    by_cases battery : statusId = goproStatusIdBatPercent
    · rw [if_pos battery, stays_bind, stays_load]
      simp only [stays_pure, and_true, battery, true_or, true_implies]
      omega
    rw [if_neg battery]
    by_cases encoding : statusId = goproStatusIdEncoding
    · rw [if_pos encoding, stays_bind, stays_load, stays_bind]
      simp only [stays_setRecord, stays_pure, and_true, encoding, or_true, true_implies]
      omega
    · rw [if_neg encoding]
      simp only [stays_pure, battery, encoding, or_self, false_implies, and_true, iff_true]
      omega
  all_goals simp [goproParseQueryStatusReply, stays_bind, ReplyFits]

-----------------------------------------------------------------------------------------
-- Registrations and notifications
-----------------------------------------------------------------------------------------

/-- The entries are there as far as the loop reads them: a flag has a value byte, whatever its
length byte says; the number of videos has all of its bytes; the other values may end behind
the message.
-/
def StatusesFit : List UInt8 → Prop
  | id :: idLen :: rest =>
      if id = goproStatusIdEncoding ∨ id = goproStatusIdBatPercent then
        rest ≠ [] ∧ StatusesFit rest.tail
      else if id = goproStatusIdVideoNum then
        idLen.toNat ≤ rest.length ∧ StatusesFit (rest.drop idLen.toNat)
      else StatusesFit (rest.drop idLen.toNat)
  | _ => True
termination_by bytes => bytes.length

/-- The header is there, and the entries fit when they are looked at. Of a message that does
not fit 16 bits, the loop reads only a part.
-/
def NotifyFits : List UInt8 → Prop
  | id :: result :: rest =>
      id = goproQueryStatusRegStatusNotify ∨ id = goproQueryStatusRegStatus
      → result = 0
      → rest.length + 2 < 65536
      → StatusesFit rest
  | _ => False

/-- What one turn of the loop reads. -/
theorem stays_statusNotifyLoop (data : DataPtr) (index : Nat) {totalDataLen : Int}
    (positive : 0 < totalDataLen) (state : GoproState) (total : Nat)
    : (statusNotifyLoop data index totalDataLen state).Stays total
      ↔ index + 1 < total
        ∧ if data.byte index = goproStatusIdEncoding then
            index + 2 < total
            ∧ (statusNotifyLoop data (index + 3) (totalDataLen - 2 - 1)
              { state with record := data.byte (index + 2) }).Stays total
          else if data.byte index = goproStatusIdVideoNum then
            ((data.byte (index + 1)).toNat = 0
              ∨ index + 2 + (data.byte (index + 1)).toNat ≤ total)
            ∧ (statusNotifyLoop data (index + 2 + (data.byte (index + 1)).toNat)
              (totalDataLen - 2 - (data.byte (index + 1)).toNat)
              { state with
                videoCount := (videoCountLoop data (index + 2)
                  (data.byte (index + 1)).toNat 0).value }).Stays total
          else if data.byte index = goproStatusIdBatPercent then
            index + 2 < total
            ∧ (statusNotifyLoop data (index + 3) (totalDataLen - 2 - 1)
              { state with battery := data.byte (index + 2) }).Stays total
          else
            (statusNotifyLoop data (index + 2 + (data.byte (index + 1)).toNat)
              (totalDataLen - 2 - (data.byte (index + 1)).toNat) state).Stays total := by
  have header : index < total ∧ index + 1 < total ↔ index + 1 < total := by omega
  rw [statusNotifyLoop, if_pos positive]
  rw [stays_bind, stays_load, stays_bind, stays_load, ← and_assoc, header]
  refine and_congr_right fun _ => ?_
  generalize isId : (data.load index).value = id
  generalize isLength : (data.load (index + 1)).value = idLen
  rw [DataPtr.load_value] at isId isLength
  rw [isId, isLength]
  split_ifs
  · rw [stays_bind, stays_load, stays_bind]
    simp only [stays_setRecord, true_and]
    rfl
  · rw [stays_bind, stays_videoCountLoop]
  · rw [stays_bind, stays_load]
    rfl
  · rfl

/-- Where an entry starts, its first two bytes are read, and the rest stands behind them. -/
theorem entry_of_drop {data : DataPtr} {index : Nat} {id idLen : UInt8} {rest : List UInt8}
    (remaining : data.bytes.drop index = id :: idLen :: rest)
    : data.byte index = id ∧ data.byte (index + 1) = idLen
      ∧ data.bytes.drop (index + 2) = rest
      ∧ data.bytes.length = index + 2 + rest.length := by
  have behindId := ByteBuffer.drop_succ_of_drop remaining
  have size := congrArg List.length remaining
  simp only [List.length_drop, List.length_cons] at size
  exact ⟨DataPtr.byte_of_drop remaining, DataPtr.byte_of_drop behindId,
    ByteBuffer.drop_succ_of_drop behindId, by omega⟩

/-- The counter is one short of what is left, or behind the end. -/
def OneShort (totalDataLen : Int) (rest : List UInt8) : Prop :=
  rest.length = 0 ∧ totalDataLen < 0 ∨ 0 < rest.length ∧ totalDataLen = rest.length - 1

/-- With the counter one short of what is left, the loop stays inside iff the entries fit. -/
theorem stays_statusNotifyLoop_iff {data : DataPtr} {index : Nat} {rest : List UInt8}
    (remaining : data.bytes.drop index = rest) {totalDataLen : Int}
    (counter : OneShort totalDataLen rest) (state : GoproState)
    : (statusNotifyLoop data index totalDataLen state).Stays data.bytes.length
      ↔ StatusesFit rest := by
  fun_induction StatusesFit rest generalizing index totalDataLen state with
  | case1 id idLen rest isFlag ih =>
      obtain ⟨isId, isLength, behind, size⟩ := entry_of_drop remaining
      simp only [OneShort, List.length_cons] at counter
      have value : rest ≠ [] ↔ index + 2 < data.bytes.length := by
        rw [← List.length_pos_iff]
        omega
      have tail : data.bytes.drop (index + 3) = rest.tail := by
        rw [← behind, List.tail_drop]
      have later (state : GoproState) (inside : index + 2 < data.bytes.length)
          : (statusNotifyLoop data (index + 3) (totalDataLen - 2 - 1) state).Stays
              data.bytes.length ↔ StatusesFit rest.tail := by
        refine ih tail ?_ state
        rw [OneShort, List.length_tail]
        omega
      rw [stays_statusNotifyLoop _ _ (by omega), isId, and_iff_right (by omega), value]
      rcases isFlag with rfl | rfl
      · rw [if_pos rfl]
        exact and_congr_right (later _)
      · rw [if_neg (by decide), if_neg (by decide), if_pos rfl]
        exact and_congr_right (later _)
  | case2 idLen rest notFlag ih =>
      obtain ⟨isId, isLength, behind, size⟩ := entry_of_drop remaining
      simp only [OneShort, List.length_cons] at counter
      have fits : (idLen.toNat = 0 ∨ index + 2 + idLen.toNat ≤ data.bytes.length)
          ↔ idLen.toNat ≤ rest.length := by omega
      rw [stays_statusNotifyLoop _ _ (by omega), isId, isLength, and_iff_right (by omega),
        if_neg (by decide), if_pos rfl, fits]
      refine and_congr_right fun within => ih ?_ ?_ _
      · rw [← List.drop_drop, behind]
      · rw [OneShort, List.length_drop]
        omega
  | case3 id idLen rest notFlag notVideoNum ih =>
      obtain ⟨isId, isLength, behind, size⟩ := entry_of_drop remaining
      simp only [OneShort, List.length_cons] at counter
      rw [stays_statusNotifyLoop _ _ (by omega), isId, isLength, and_iff_right (by omega),
        if_neg (fun encoding => notFlag (.inl encoding)), if_neg notVideoNum,
        if_neg (fun battery => notFlag (.inr battery))]
      refine ih ?_ ?_ _
      · rw [← List.drop_drop, behind]
      · rw [OneShort, List.length_drop]
        omega
  | case4 rest short =>
      have finished : ¬ 0 < totalDataLen := by
        rcases rest with _ | ⟨id, _ | ⟨idLen, rest⟩⟩
        · simp [OneShort] at counter
          omega
        · simp [OneShort] at counter
          omega
        · exact (short id idLen rest rfl).elim
      rw [statusNotifyLoop, if_neg finished]
      exact iff_true_intro (stays_pure _)

/-- With more behind the counter than an entry can skip, the loop stays inside. -/
theorem stays_statusNotifyLoop_of_room {data : DataPtr} {index total : Nat}
    {totalDataLen : Int} (room : index + totalDataLen + 257 ≤ total) (state : GoproState)
    : (statusNotifyLoop data index totalDataLen state).Stays total := by
  generalize turns : totalDataLen.toNat = bound
  induction bound using Nat.strongRecOn generalizing index totalDataLen state with
  | _ bound ih =>
      by_cases positive : 0 < totalDataLen
      · have short := (data.byte (index + 1)).toNat_lt
        rw [stays_statusNotifyLoop _ _ positive]
        refine ⟨by omega, ?_⟩
        split_ifs
        · exact ⟨by omega, ih _ (by omega) (by omega) _ rfl⟩
        · exact ⟨.inr (by omega), ih _ (by omega) (by omega) _ rfl⟩
        · exact ⟨by omega, ih _ (by omega) (by omega) _ rfl⟩
        · exact ih _ (by omega) (by omega) _ rfl
      · rw [statusNotifyLoop, if_neg positive]
        exact stays_pure _

theorem goproParseQueryStatusNotify_stays_iff (data : DataPtr) (state : GoproState)
    : (goproParseQueryStatusNotify data data.bytes.length state).Stays data.bytes.length
      ↔ NotifyFits data.bytes := by
  obtain ⟨bytes, behind⟩ := data
  rcases bytes with _ | ⟨id, _ | ⟨result, rest⟩⟩
  · simp [goproParseQueryStatusNotify, stays_bind, NotifyFits]
  · simp [goproParseQueryStatusNotify, stays_bind, NotifyFits]
  have isId : (DataPtr.mk (id :: result :: rest) behind).byte 0 = id := rfl
  have isResult : (DataPtr.mk (id :: result :: rest) behind).byte 1 = result := rfl
  rw [goproParseQueryStatusNotify, stays_bind, stays_load, stays_bind, stays_load,
    DataPtr.load_value, DataPtr.load_value, isId, isResult, and_iff_right (by simp),
    and_iff_right (by simp), NotifyFits]
  by_cases registered
      : id = goproQueryStatusRegStatusNotify ∨ id = goproQueryStatusRegStatus
  · rw [if_neg (by tauto)]
    by_cases ok : result = 0
    · rw [if_neg (not_not.mpr ok), stays_bind, and_iff_left (stays_pure _)]
      simp only [registered, ok, true_implies]
      by_cases short : rest.length + 2 < 65536
      · simp only [short, true_implies]
        refine stays_statusNotifyLoop_iff (show List.drop 2 _ = rest from rfl) ?_ state
        simp only [OneShort, List.length_cons, Nat.mod_eq_of_lt short]
        omega
      · simp only [short, false_implies, iff_true]
        refine stays_statusNotifyLoop_of_room ?_ state
        simp only [List.length_cons]
        omega
    · simp [ok]
  · rw [if_pos (by tauto)]
    simp [registered]

-----------------------------------------------------------------------------------------
-- Hardware information
-----------------------------------------------------------------------------------------

/-- A length byte is there; below the limit it promises what is there, and `next` holds behind
that. From the limit on, the message is refused.
-/
def FieldFits (limit : Nat) (next : List UInt8 → Prop) : List UInt8 → Prop
  | [] => False
  | length :: rest =>
      length.toNat < limit → length.toNat ≤ rest.length ∧ next (rest.drop length.toNat)

/-- A field that fits starts inside. -/
theorem FieldFits.inside {limit : Nat} {fits : List UInt8 → Prop} {bytes : List UInt8}
    {index : Nat} (field : FieldFits limit fits (bytes.drop index))
    : index < bytes.length := by
  refine Nat.lt_of_not_le fun outside => ?_
  rw [List.drop_eq_nil_iff.mpr outside] at field
  exact field

/-- The chain of the seven fields. -/
def HwInfoFits : List UInt8 → Prop :=
  FieldFits 5 <| FieldFits goproNameLen <| FieldFits 256 <| FieldFits goproNameLen
    <| FieldFits goproNameLen <| FieldFits goproNameLen <| FieldFits goproNameLen
    <| fun _ => True

/-- A length byte with what is done about it: at the limit and above nothing is read, below it
what follows stays inside iff the field is there and `fits` holds behind it.
-/
theorem stays_lengthByte {α : Type} {data : DataPtr} {index limit : Nat}
    {next : UInt8 → StateTrace α} {fits : List UInt8 → Prop}
    (refused : ∀ length : UInt8, limit ≤ length.toNat
      → (next length).Stays data.bytes.length)
    (admitted : ∀ length : UInt8, length.toNat < limit → index < data.bytes.length
      → ((next length).Stays data.bytes.length
        ↔ index + 1 + length.toNat ≤ data.bytes.length
          ∧ fits (data.bytes.drop (index + 1 + length.toNat))))
    : StateTrace.Stays data.bytes.length (data.load index >>= next)
      ↔ FieldFits limit fits (data.bytes.drop index) := by
  rw [stays_bind, stays_load, DataPtr.load_value]
  cases remaining : data.bytes.drop index with
  | nil =>
      have outside := List.drop_eq_nil_iff.mp remaining
      simp only [FieldFits, iff_false, not_and]
      omega
  | cons length rest =>
      have size := congrArg List.length remaining
      rw [List.length_drop, List.length_cons] at size
      have behind : data.bytes.drop (index + 1) = rest := ByteBuffer.drop_succ_of_drop remaining
      rw [DataPtr.byte_of_drop remaining, and_iff_right (by omega), FieldFits]
      by_cases short : length.toNat < limit
      · have room : index + 1 + length.toNat ≤ data.bytes.length
            ↔ length.toNat ≤ rest.length := by omega
        rw [admitted length short (by omega), room, ← List.drop_drop, behind]
        exact ⟨fun fits _ => fits, fun fits => fits short⟩
      · exact iff_of_true (refused length (Nat.le_of_not_lt short)) fun low => absurd low short

/-- A string field and what follows it. -/
theorem stays_hwInfoString {α : Type} {data : DataPtr} (field : StringField) (index : Nat)
    (strings : StateStrings) {next : Option (Nat × StateStrings) → StateTrace α}
    {fits : List UInt8 → Prop} (refused : (next none).Stays data.bytes.length)
    (continues : ∀ index strings, (next (some (index, strings))).Stays data.bytes.length
      ↔ fits (data.bytes.drop (2 + index)))
    : StateTrace.Stays data.bytes.length (hwInfoString data field index strings >>= next)
      ↔ FieldFits goproNameLen fits (data.bytes.drop (2 + index)) := by
  rw [hwInfoString, Traced.bind_assoc]
  refine stays_lengthByte (fun length long => ?_) fun length short inside => ?_
  · rw [if_pos long, stays_bind]
    exact ⟨stays_pure _, refused⟩
  · have place : 2 + (index + 1 + length.toNat) = 2 + index + 1 + length.toNat := by omega
    have block : length.toNat = 0 ∨ 2 + (index + 1) + length.toNat ≤ data.bytes.length
        ↔ 2 + index + 1 + length.toNat ≤ data.bytes.length := by omega
    rw [if_neg (Nat.not_le.mpr short), stays_bind, stays_bind, stays_loadBlock, block]
    simp only [stays_bind, stays_storeTerminated, stays_pure, and_true]
    refine and_congr_right fun _ => ?_
    rw [← place]
    exact continues (index + 1 + length.toNat) _

theorem goproParseResponseHwInfo_stays_iff (data : DataPtr) (packetLen : Nat)
    (state : GoproState)
    : (goproParseResponseHwInfo data packetLen state).Stays data.bytes.length
      ↔ HwInfoFits (data.bytes.drop 2) := by
  unfold goproParseResponseHwInfo HwInfoFits
  refine stays_lengthByte (fun length long => ?_) fun length short inside => ?_
  · rw [if_pos (by omega)]
    exact stays_pure _
  have block : length.toNat = 0 ∨ 2 + 1 + length.toNat ≤ data.bytes.length
      ↔ 2 + 1 + length.toNat ≤ data.bytes.length := by omega
  rw [if_neg (by omega), stays_bind, stays_loadBlock, block]
  refine and_congr_right fun _ => ?_
  rw [Nat.add_assoc 2]
  refine stays_hwInfoString .modelName _ _ (stays_pure _) fun index strings => ?_
  refine stays_lengthByte (fun length long => ?_) fun length _ inside => ?_
  · have byte := length.toNat_lt
    omega
  have place : 2 + index + 1 + length.toNat = 2 + (index + 1 + length.toNat) := by omega
  rw [and_iff_right_of_imp fun field => Nat.le_of_lt field.inside, place]
  refine stays_hwInfoString .firmwareVersion _ _ (stays_pure _) fun index strings => ?_
  refine stays_hwInfoString .serialNumber _ _ (stays_pure _) fun index strings => ?_
  refine stays_hwInfoString .wifiSsid _ _ (stays_pure _) fun index strings => ?_
  refine stays_hwInfoString .apMac _ _ (stays_pure _) fun index strings => ?_
  dsimp only
  split_ifs <;> exact iff_of_true (stays_pure _) trivial

/-- Each of the three readers looks at bytes of the message only iff the message is made as its
grammar says. Witness: behind the end of a message that does not fit, the readers go on with
whatever is in memory.
-/
theorem parsers_stay_iff (data : DataPtr) (length packetLen : Nat) (state : GoproState)
    : ((goproParseQueryStatusNotify data data.bytes.length state).Stays data.bytes.length
        ↔ NotifyFits data.bytes)
      ∧ ((goproParseQueryStatusReply data length state).Stays data.bytes.length
        ↔ ReplyFits data.bytes)
      ∧ ((goproParseResponseHwInfo data packetLen state).Stays data.bytes.length
        ↔ HwInfoFits (data.bytes.drop 2)) :=
  ⟨goproParseQueryStatusNotify_stays_iff data state,
    goproParseQueryStatusReply_stays_iff data length state,
    goproParseResponseHwInfo_stays_iff data packetLen state⟩

/-- A notification that ends with the length byte of a flag: the flag is read behind it. -/
theorem parsers_leave_message
    : ¬ ∀ (data : DataPtr) (state : GoproState), 2 ≤ data.bytes.length
      → (goproParseQueryStatusNotify data data.bytes.length state).Stays data.bytes.length
        ∧ (goproParseQueryStatusReply data data.bytes.length state).Stays data.bytes.length
        ∧ (goproParseResponseHwInfo data (data.bytes.length - 2) state).Stays
          data.bytes.length := by
  intro every
  obtain ⟨notify, -, -⟩ := every ⟨[0x93, 0x00, 10, 1], fun _ => 0⟩ .zero (by decide)
  rw [goproParseQueryStatusNotify_stays_iff] at notify
  have fits : StatusesFit [10, 1] := notify (.inl rfl) rfl (by decide)
  rw [StatusesFit, if_pos (.inl rfl)] at fits
  exact fits.1 rfl

end GoproGateway
