import GoproGateway.Wifi.ConnectAp
import GoproGateway.Wifi.DecodeCred

/-! Which credentials are used.

The decoder copies a value to the front of its array and writes no terminator. The array shows
the value in full when nothing longer stood there, and a rejected message leaves the array as
it was when all that it stored is what the array had.
-/

namespace GoproGateway

open ByteBuffer hiding read

/-- The strings, and the values of the last message that was decoded. -/
structure Credentials where
  strings : StateStrings
  last : CohnString → List UInt8

def Credentials.zero : Credentials := ⟨.zero, fun _ => []⟩

/-- The decoder over any sequence of messages. -/
def credentials (nanopb : CredNanopb) : InputMachine Credentials (List UInt8) StateEvent where
  step state data :=
    let traced := goproDecodeWifiCred nanopb data state.strings
    let last :=
      if traced.value.2 then fun string => (occurrencesOf string (nanopb data).1).getLastD []
      else state.last
    (⟨traced.value.1, last⟩, traced.events)

/-- Both requests have the values of the last message that was decoded. -/
def Credentials.UsesLast (state : Credentials) : Prop :=
  goproPrepareConnectNew state.strings
      = .connectNew (state.last .wifiSsid) (state.last .wifiPass)
    ∧ goproPrepareConnectSaved state.strings = .connect (state.last .wifiSsid)

/-- The values of a message have at most 19 bytes, none of them a NUL. -/
def ShortValues (nanopb : CredNanopb) (data : List UInt8) : Prop :=
  ∀ occurrence ∈ (nanopb data).1, occurrence.bytes.length < goproNameLen
    ∧ 0 ∉ occurrence.bytes

/-- A message decodes when it can be read and no value of it is longer than its array or than
the value before it.
-/
def Decodes (nanopb : CredNanopb) (data : List UInt8) : Prop :=
  (nanopb data).2 = true
    ∧ ∀ string, Descending goproNameLen (occurrencesOf string (nanopb data).1)

/-- A message leaves no trace of other values. When it decodes, no value that it replaces is
longer than its last one; when it does not, what it has stored shows the value that was there.
-/
def LeavesNoTrace (nanopb : CredNanopb) (state : Credentials) (data : List UInt8) : Prop :=
  (Decodes nanopb data → ∀ string,
    ∀ value ∈ state.last string :: occurrencesOf string (nanopb data).1,
      value.length ≤ ((occurrencesOf string (nanopb data).1).getLastD []).length)
  ∧ (¬ Decodes nanopb data → ∀ string, ShowsOf (state.last string)
      (storedOccurrences string (fun _ => goproNameLen) (nanopb data).1))

-----------------------------------------------------------------------------------------
-- Decoding
-----------------------------------------------------------------------------------------

theorem decodeCred_ok_iff (strings : StateStrings) (sizes : CohnString → Nat)
    (occurrences : List CredOccurrence)
    : (decodeCred strings sizes occurrences).value.2 = true
      ↔ ∀ string, Descending (sizes string) (occurrencesOf string occurrences) := by
  induction occurrences generalizing strings sizes with
  | nil => exact iff_of_true rfl fun _ => trivial
  | cons occurrence rest ih =>
      obtain ⟨other, bytes⟩ := occurrence
      have own : occurrencesOf other (⟨other, bytes⟩ :: rest)
          = bytes :: occurrencesOf other rest := by
        simp [occurrencesOf]
      by_cases long : bytes.length > sizes other
      · rw [decodeCred_refuses long]
        refine iff_of_false (by simp) fun every => ?_
        have first := every other
        rw [own] at first
        exact absurd first.1 (Nat.not_le.mpr long)
      rw [decodeCred_stores (Nat.le_of_not_lt long), Traced.bind_value, ih]
      refine forall_congr' fun string => ?_
      by_cases same : other = string
      · subst same
        rw [Function.update_self, own]
        exact (and_iff_right (Nat.le_of_not_lt long)).symm
      · rw [Function.update_of_ne (Ne.symm same)]
        simp [occurrencesOf, same]

theorem goproDecodeWifiCred_ok_iff (nanopb : CredNanopb) (data : List UInt8)
    (strings : StateStrings)
    : (goproDecodeWifiCred nanopb data strings).value.2 = true ↔ Decodes nanopb data := by
  have decoded := decodeCred_ok_iff strings (fun _ => goproNameLen) (nanopb data).1
  rw [Decodes, ← decoded]
  exact (Bool.and_eq_true_iff).trans and_comm

-----------------------------------------------------------------------------------------
-- One message
-----------------------------------------------------------------------------------------

/-- The array holds the text, and zeros behind it. -/
structure StateStrings.Holds (strings : StateStrings) (field : StringField)
    (text : List UInt8) : Prop where
  array : strings.array field = text ++ List.replicate (goproNameLen - text.length) 0
  short : text.length < goproNameLen
  plain : 0 ∉ text

theorem StateStrings.Holds.text {strings : StateStrings} {field : StringField}
    {value : List UInt8} (holds : strings.Holds field value)
    : strings.text field = value := by
  have room : goproNameLen - value.length = goproNameLen - value.length - 1 + 1 := by
    have short := holds.short
    omega
  have region : strings.bytes.drop field.offset
      = strings.array field ++ (strings.bytes.drop field.offset).drop goproNameLen := by
    rw [StateStrings.array, ByteBuffer.read, List.take_append_drop]
  rw [StateStrings.text, region, holds.array, room, List.replicate_succ, List.append_assoc,
    List.cons_append, CString.text_append_nul holds.plain]

/-- The stored values are laid over the text that an array holds. -/
theorem goproDecodeWifiCred_holds (nanopb : CredNanopb) {data : List UInt8}
    (short : ShortValues nanopb data) {strings : StateStrings} {string : CohnString}
    {text : List UInt8} (holds : strings.Holds string.field text)
    : (goproDecodeWifiCred nanopb data strings).value.1.Holds string.field
        (overlay text
          (storedOccurrences string (fun _ => goproNameLen) (nanopb data).1)) := by
  have descending := storedOccurrences_descending string (fun _ => goproNameLen)
    (nanopb data).1
  have values : ∀ value
      ∈ text :: storedOccurrences string (fun _ => goproNameLen) (nanopb data).1,
      value.length ≤ goproNameLen - 1 ∧ 0 ∉ value := by
    intro value member
    rcases List.mem_cons.mp member with rfl | stored
    · exact ⟨Nat.le_pred_of_lt holds.short, holds.plain⟩
    · obtain ⟨occurrence, occurs, rfl⟩ := List.mem_map.mp (storedOccurrences_mem stored)
      obtain ⟨small, plain⟩ := short occurrence (List.mem_of_mem_filter occurs)
      exact ⟨Nat.le_pred_of_lt small, plain⟩
  have laid := decodeCred_array strings (fun _ => Nat.le_refl goproNameLen) (nanopb data).1 string
  refine ⟨?_, ?_, fun nul => ?_⟩
  · have longer := length_overlay_le_iff.mp (Nat.le_refl (overlay text
      (storedOccurrences string (fun _ => goproNameLen) (nanopb data).1)).length) text (by simp)
    refine laid.trans ?_
    rw [holds.array, overlay_append_back descending, List.drop_replicate]
    congr 2
    omega
  · have reach := length_overlay_le_iff.mpr fun value member => (values value member).1
    exact Nat.lt_of_le_of_lt reach (by decide)
  · obtain ⟨value, member, inside⟩ := mem_overlay nul
    exact (values value member).2 inside

/-- A step sets the last values, or keeps them. -/
theorem credentials_last (nanopb : CredNanopb) (state : Credentials) (data : List UInt8)
    (string : CohnString)
    : (Decodes nanopb data → ((credentials nanopb).step state data).1.last string
        = (occurrencesOf string (nanopb data).1).getLastD [])
      ∧ (¬ Decodes nanopb data
        → ((credentials nanopb).step state data).1.last string = state.last string) := by
  have ok := goproDecodeWifiCred_ok_iff nanopb data state.strings
  constructor
  · intro decodes
    exact congrFun (if_pos (ok.mpr decodes)) string
  · intro rejected
    exact congrFun (if_neg (mt ok.mp rejected)) string

/-- The stored values show the last ones iff the message leaves no trace of others. -/
theorem overlay_eq_last_iff (nanopb : CredNanopb) (state : Credentials) (data : List UInt8)
    : (∀ string, overlay (state.last string)
          (storedOccurrences string (fun _ => goproNameLen) (nanopb data).1)
        = ((credentials nanopb).step state data).1.last string)
      ↔ LeavesNoTrace nanopb state data := by
  have step := credentials_last nanopb state data
  by_cases decodes : Decodes nanopb data
  · rw [LeavesNoTrace, and_iff_left (fun rejected => absurd decodes rejected),
      forall_prop_of_true decodes]
    have ok := (goproDecodeWifiCred_ok_iff nanopb data state.strings).mpr decodes
    refine forall_congr' fun string => ?_
    rw [(step string).1 decodes, storedOccurrences_of_ok (Bool.and_eq_true_iff.mp ok).1]
    rcases List.eq_nil_or_concat (occurrencesOf string (nanopb data).1)
      with none | ⟨init, last, all⟩
    · simp [none]
    · rw [all, List.concat_eq_append, List.getLastD_concat, overlay_concat_eq_iff]
      simp [or_imp, forall_and]
  · rw [LeavesNoTrace, and_iff_right (fun accepted => absurd accepted decodes),
      forall_prop_of_true decodes]
    refine forall_congr' fun string => ?_
    rw [(step string).2 decodes, overlay_eq_self_iff
      (storedOccurrences_descending string (fun _ => goproNameLen) (nanopb data).1)]

-----------------------------------------------------------------------------------------
-- Runs
-----------------------------------------------------------------------------------------

/-- Each array holds the last value of its string. -/
def Credentials.Settled (state : Credentials) : Prop :=
  ∀ string : CohnString, state.strings.Holds string.field (state.last string)

theorem Credentials.zero_settled : Credentials.zero.Settled := by
  intro string
  refine ⟨?_, by simp [zero, goproNameLen], by simp [zero]⟩
  cases string <;> decide

/-- Where the arrays hold texts, the requests use the last values iff those are the texts. -/
theorem Credentials.usesLast_iff {state : Credentials} {texts : CohnString → List UInt8}
    (holds : ∀ string : CohnString, state.strings.Holds string.field (texts string))
    : state.UsesLast ↔ ∀ string, texts string = state.last string := by
  have ssid : state.strings.text .cohnWifiSsid = texts .wifiSsid := (holds .wifiSsid).text
  have password : state.strings.text .cohnWifiPass = texts .wifiPass := (holds .wifiPass).text
  rw [UsesLast, goproPrepareConnectNew, goproPrepareConnectSaved, ssid, password,
    ConnectRequest.connectNew.injEq, ConnectRequest.connect.injEq]
  constructor
  · rintro ⟨⟨ssid, password⟩, -⟩ string
    cases string with
    | wifiSsid => exact ssid
    | wifiPass => exact password
  · intro every
    exact ⟨⟨every .wifiSsid, every .wifiPass⟩, every .wifiSsid⟩

theorem credentials_holds (nanopb : CredNanopb) {state : Credentials} (settled : state.Settled)
    {data : List UInt8} (short : ShortValues nanopb data) (string : CohnString)
    : ((credentials nanopb).step state data).1.strings.Holds string.field
        (overlay (state.last string)
          (storedOccurrences string (fun _ => goproNameLen) (nanopb data).1)) :=
  goproDecodeWifiCred_holds nanopb short (settled string)

/-- From the zeroed state, the requests have the credentials of the last message that was
decoded, all the way, iff no message leaves a trace of other values.
-/
theorem credentials_usesLast_iff (nanopb : CredNanopb) (messages : List (List UInt8))
    (short : ∀ data ∈ messages, ShortValues nanopb data)
    : (credentials nanopb).Always (·.UsesLast) .zero messages
      ↔ (credentials nanopb).Along (LeavesNoTrace nanopb) .zero messages := by
  have first : Credentials.zero.UsesLast :=
    (Credentials.usesLast_iff Credentials.zero_settled).mpr fun _ => rfl
  rw [InputMachine.always_iff, and_iff_right first]
  refine InputMachine.along_congr (·.Settled) ?_ ?_ Credentials.zero_settled short
  · intro state data settled short leaves string
    have holds := credentials_holds nanopb settled short string
    rw [(overlay_eq_last_iff nanopb state data).mpr leaves string] at holds
    exact holds
  · intro state data settled short
    rw [Credentials.usesLast_iff (credentials_holds nanopb settled short)]
    exact overlay_eq_last_iff nanopb state data

/-- An SSID and a password, and then longer ones. -/
theorem credentials_usesLast_longer
    : (credentials referenceCredNanopb).Always (·.UsesLast) .zero
        [[0x0A, 2, 0x61, 0x62, 0x12, 1, 0x70],
          [0x0A, 3, 0x78, 0x79, 0x7A, 0x12, 2, 0x70, 0x71]] := by
  refine (credentials_usesLast_iff referenceCredNanopb _ (by unfold ShortValues; decide)).mpr ?_
  refine ⟨⟨fun _ string => ?_, fun rejected => absurd ⟨by decide, fun string => ?_⟩ rejected⟩,
    ⟨fun _ string => ?_, fun rejected => absurd ⟨by decide, fun string => ?_⟩ rejected⟩, trivial⟩
  all_goals cases string <;> decide

/-- A shorter SSID: the end of the one before still stands behind it. -/
theorem credentials_leave_trace
    : ¬ ∀ (nanopb : CredNanopb) (messages : List (List UInt8)),
      (∀ data ∈ messages, ShortValues nanopb data)
      → (credentials nanopb).Always (·.UsesLast) .zero messages := by
  intro every
  have reached := every referenceCredNanopb
    [[0x0A, 6, 0x61, 0x62, 0x63, 0x64, 0x65, 0x66, 0x12, 1, 0x70],
      [0x0A, 3, 0x78, 0x79, 0x7A, 0x12, 1, 0x70]] (by unfold ShortValues; decide) _ []
    (List.append_nil _).symm
  exact absurd reached.2 (by decide +kernel)

end GoproGateway
