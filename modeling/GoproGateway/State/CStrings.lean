import GoproGateway.Wifi.DecodeCred

/-! Which writers leave C strings.

Four of the arrays' writers keep a byte for the terminator, each in its own way. The two read
callbacks do so for every length but one, and the decoder of credentials writes no terminator
at all: there the old contents have to end the string.
-/

namespace GoproGateway

open ByteBuffer hiding read

/-- Every array has a NUL. -/
def StateStrings.Terminated (strings : StateStrings) : Prop :=
  ∀ field, 0 ∈ strings.array field

/-- A write stays inside one of the arrays. -/
def StateEvent.WritesTo (arrays : List StringField) : StateEvent → Prop
  | .store field index count => field ∈ arrays ∧ index + count ≤ goproNameLen
  | _ => True

namespace StateStrings

variable {strings : StateStrings}

/-- An array that has a NUL after a write to it keeps all arrays terminated. -/
theorem Terminated.store (terminated : strings.Terminated) (field : StringField) {index : Nat}
    {block : List UInt8} (within : index + block.length ≤ goproNameLen)
    (ends : 0 ∈ write (strings.array field) index block)
    : (strings.store field index block).Terminated := by
  intro other
  by_cases same : field = other
  · subst same
    rw [array_store_same _ _ within]
    exact ends
  · rw [array_store_other _ same within]
    exact terminated other

/-- A short text leaves room for its NUL. -/
theorem Terminated.put (terminated : strings.Terminated) (field : StringField)
    {text : List UInt8} (short : text.length < goproNameLen)
    : (strings.put field text).Terminated := by
  intro other
  by_cases same : field = other
  · subst same
    rw [array_put_same _ _ short]
    simp
  · rw [array_put_other _ same short]
    exact terminated other

theorem Terminated.clear (terminated : strings.Terminated) (field : StringField)
    : (strings.store field 0 (List.replicate goproNameLen 0)).Terminated := by
  refine terminated.store field (by simp) ?_
  rw [write_front (by simp)]
  simp [goproNameLen]

end StateStrings

-----------------------------------------------------------------------------------------
-- One call of each writer
-----------------------------------------------------------------------------------------

/-- A computation writes to the arrays only, and what it yields satisfies `post`. -/
abbrev Writes {α : Type} (arrays : List StringField) (post : α → Prop) (traced : StateTrace α)
    : Prop :=
  traced.Ensures (·.WritesTo arrays) post

section Calls

variable {arrays : List StringField}

theorem load_writes (data : DataPtr) (index : Nat)
    : Writes arrays (fun _ => True) (data.load index) :=
  ⟨by simp [DataPtr.load, StateEvent.WritesTo], trivial⟩

theorem loadBlock_writes (data : DataPtr) (start count : Nat)
    : Writes arrays (·.length = count) (data.loadBlock start count) :=
  ⟨by simp [DataPtr.loadBlock, StateEvent.WritesTo], data.block_length start count⟩

variable {field : StringField} (member : field ∈ arrays) {strings : StateStrings}
  (terminated : strings.Terminated)

include member terminated

/-- A text that is shorter than its array is stored with its NUL within it. -/
theorem storeTerminated_writes {text : List UInt8} (short : text.length < goproNameLen)
    : Writes arrays StateStrings.Terminated (storeTerminated strings field text) := by
  refine ⟨?_, terminated.put field short⟩
  simp only [storeTerminated, storeString, Traced.bind_events, List.forall_mem_append,
    List.forall_mem_singleton, StateEvent.WritesTo, List.length_singleton]
  exact ⟨⟨member, by omega⟩, member, by omega⟩

theorem clearString_writes
    : Writes arrays StateStrings.Terminated
        (storeString strings field 0 (List.replicate goproNameLen 0)) := by
  refine ⟨?_, terminated.clear field⟩
  simpa [storeString, StateEvent.WritesTo] using member

end Calls

section Members

variable {strings : StateStrings} (terminated : strings.Terminated)

include terminated

/-- A name that leaves no room for its NUL is refused. -/
theorem goproClientSetname_writes (name : Option DataPtr) (len : UInt8)
    : Writes [.name] (·.1.Terminated) (goproClientSetname name len strings) := by
  unfold goproClientSetname
  by_cases long : len.toNat ≥ goproNameLen
  · rw [if_pos long]
    exact .pure terminated
  rw [if_neg long]
  cases (if len > 0 then name else none) with
  | none =>
      refine (clearString_writes (by simp) terminated).bind fun strings terminated => ?_
      exact .pure terminated
  | some name =>
      dsimp only
      split_ifs
      · exact .pure terminated
      · have short : (name.block 0 len.toNat).length < goproNameLen := by
          simpa using Nat.lt_of_not_le long
        refine (storeTerminated_writes (by simp) terminated short).bind
          fun strings terminated => ?_
        exact .pure terminated

/-- A read callback keeps to its array, and the array terminated, unless exactly twenty bytes
were read. Witness: of twenty it keeps all, and the terminator goes behind the array.
-/
theorem onRead_writes_iff (field : StringField) (read : ReadResult)
    : Writes [field] StateStrings.Terminated (onRead field read strings)
      ↔ (read.err = 0 → read.handle = read.wifiHandle → read.length ≠ goproNameLen) := by
  constructor
  · intro writes err own twenty
    have past : StateEvent.store field goproNameLen 1 ∈ (onRead field read strings).events := by
      simp [onRead, err, own, twenty, storeTerminated, storeString, goproNameLen]
    obtain ⟨_, within⟩ := writes.events _ past
    omega
  · intro notTwenty
    have given : Writes [field] (fun _ => True) (Traced.log .giveBleReadSem) := .log trivial
    unfold onRead
    refine given.bind fun _ _ => ?_
    by_cases err : read.err ≠ 0
    · rw [if_pos err]
      exact .pure terminated
    rw [if_neg err]
    by_cases own : read.handle = read.wifiHandle
    · rw [if_pos own]
      refine (clearString_writes (by simp) terminated).bind fun strings terminated => ?_
      refine storeTerminated_writes (by simp) terminated ?_
      have other := notTwenty (not_not.mp err) own
      unfold goproNameLen at *
      rw [DataPtr.block_length]
      split_ifs <;> omega
    · rw [if_neg own]
      exact .pure terminated

/-- A string field keeps to its array, and what reads on from there finds terminated arrays. -/
theorem hwInfoString_writes {β : Type} {post : β → Prop} {arrays : List StringField}
    {field : StringField} (member : field ∈ arrays) (data : DataPtr) (index : Nat)
    {next : Option (Nat × StateStrings) → StateTrace β}
    (refused : Writes arrays post (next none))
    (continues : ∀ index strings, strings.Terminated
      → Writes arrays post (next (some (index, strings))))
    : Writes arrays post (hwInfoString data field index strings >>= next) := by
  rw [hwInfoString, Traced.bind_assoc]
  refine (load_writes data _).bind fun length _ => ?_
  by_cases long : length.toNat ≥ goproNameLen
  · rw [if_pos long]
    exact refused
  · rw [if_neg long, Traced.bind_assoc]
    refine (loadBlock_writes data _ _).bind fun block size => ?_
    rw [Traced.bind_assoc]
    refine (storeTerminated_writes member terminated (by omega)).bind
      fun strings terminated => ?_
    exact continues _ strings terminated

end Members

/-- The hardware information is stored string by string behind the checks of its lengths. -/
theorem goproParseResponseHwInfo_writes (data : DataPtr) (packetLen : Nat) {state : GoproState}
    (terminated : state.strings.Terminated)
    : Writes (StringCall.hwInfo data packetLen).arrays (·.1.strings.Terminated)
        (goproParseResponseHwInfo data packetLen state) := by
  unfold goproParseResponseHwInfo
  refine (load_writes data _).bind fun _ _ => ?_
  split_ifs
  · exact .pure terminated
  refine (loadBlock_writes data _ _).bind fun _ _ => ?_
  refine hwInfoString_writes terminated (by simp [StringCall.arrays]) data _ (.pure terminated)
    fun index strings terminated => ?_
  refine (load_writes data _).bind fun _ _ => ?_
  refine hwInfoString_writes terminated (by simp [StringCall.arrays]) data _ (.pure terminated)
    fun index strings terminated => ?_
  refine hwInfoString_writes terminated (by simp [StringCall.arrays]) data _ (.pure terminated)
    fun index strings terminated => ?_
  refine hwInfoString_writes terminated (by simp [StringCall.arrays]) data _ (.pure terminated)
    fun index strings terminated => ?_
  refine hwInfoString_writes terminated (by simp [StringCall.arrays]) data _ (.pure terminated)
    fun index strings terminated => ?_
  dsimp only
  split_ifs <;> exact .pure terminated

-----------------------------------------------------------------------------------------
-- Credentials
-----------------------------------------------------------------------------------------

/-- A NUL is left when blocks are laid over a text: in the last block, in what a block leaves
of the one before, or in what the first one leaves of the text.
-/
def NulSurvives (old : List UInt8) : List (List UInt8) → Prop
  | [] => 0 ∈ old
  | block :: later => NulSurvives block later ∨ 0 ∈ old.drop block.length

/-- Blocks that are laid one over the other leave a NUL in one of two ways, by induction on
them.
-/
theorem nul_mem_overlay_iff {old : List UInt8} {blocks : List (List UInt8)}
    (descending : Descending old.length blocks)
    : 0 ∈ overlay old blocks ↔ NulSurvives old blocks := by
  induction blocks generalizing old with
  | nil => rfl
  | cons block later ih =>
      rw [overlay_cons descending.2, List.mem_append, ih descending.2, NulSurvives]

/-- The decoder never writes past its arrays. -/
theorem decodeCred_writes {sizes : CohnString → Nat} (strings : StateStrings)
    (small : ∀ string, sizes string ≤ goproNameLen) (occurrences : List CredOccurrence)
    : Writes [.cohnWifiSsid, .cohnWifiPass] (fun _ => True)
        (decodeCred strings sizes occurrences) := by
  induction occurrences generalizing strings sizes with
  | nil => exact .pure trivial
  | cons occurrence rest ih =>
      obtain ⟨other, bytes⟩ := occurrence
      by_cases long : bytes.length > sizes other
      · rw [decodeCred_refuses long]
        exact .pure trivial
      have fits := Nat.le_of_not_lt long
      have room := small other
      have stored : Writes [.cohnWifiSsid, .cohnWifiPass] (fun _ => True)
          (storeString strings other.field 0 bytes) := by
        refine ⟨?_, trivial⟩
        simp only [storeString, List.forall_mem_singleton, StateEvent.WritesTo]
        refine ⟨?_, by omega⟩
        cases other <;> simp [CohnString.field]
      rw [decodeCred_stores fits]
      exact stored.bind fun strings _ => ih strings (update_small small fits)

/-- The decoder leaves its arrays terminated iff a NUL survives in each. -/
theorem goproDecodeWifiCred_writes_iff (nanopb : CredNanopb) (data : List UInt8)
    {strings : StateStrings} (terminated : strings.Terminated)
    : Writes [.cohnWifiSsid, .cohnWifiPass] (·.1.Terminated)
        (goproDecodeWifiCred nanopb data strings)
      ↔ ∀ string : CohnString, NulSurvives (strings.array string.field)
          (storedOccurrences string (fun _ => goproNameLen) (nanopb data).1) := by
  have small (_ : CohnString) : goproNameLen ≤ goproNameLen := Nat.le_refl _
  have arrays (string : CohnString)
      : 0 ∈ (goproDecodeWifiCred nanopb data strings).value.1.array string.field
        ↔ NulSurvives (strings.array string.field)
          (storedOccurrences string (fun _ => goproNameLen) (nanopb data).1) := by
    have descending := (storedOccurrences_descending string (fun _ => goproNameLen)
      (nanopb data).1).mono (Nat.le_of_eq (strings.array_length string.field).symm)
    rw [← nul_mem_overlay_iff descending, ← decodeCred_array strings small]
    rfl
  constructor
  · intro ensures string
    exact (arrays string).mp (ensures.value string.field)
  · intro survives
    have writes := (decodeCred_writes strings small (nanopb data).1).events
    refine ⟨by simpa [goproDecodeWifiCred] using writes, fun field => ?_⟩
    by_cases own : ∃ string : CohnString, string.field = field
    · obtain ⟨string, rfl⟩ := own
      exact (arrays string).mpr (survives string)
    · have kept := decodeCred_array_other strings small (nanopb data).1
        (fun string same => own ⟨string, same⟩)
      have same : (goproDecodeWifiCred nanopb data strings).value.1.array field
          = strings.array field := kept
      rw [same]
      exact terminated field

-----------------------------------------------------------------------------------------
-- Runs
-----------------------------------------------------------------------------------------

/-- The calls that leave C strings: all but the reads of exactly twenty bytes of the client's
own handle, and the credentials that leave no NUL.
-/
def LeavesNul (nanopb : CredNanopb) (state : GoproState) : StringCall → Prop
  | .setname _ _ | .hwInfo _ _ => True
  | .readSsid result | .readPass result =>
      result.err = 0 → result.handle = result.wifiHandle → result.length ≠ goproNameLen
  | .wifiCred data => ∀ string : CohnString,
      NulSurvives (state.strings.array string.field)
        (storedOccurrences string (fun _ => goproNameLen) (nanopb data).1)

theorem StringCall.writes_iff (nanopb : CredNanopb) {state : GoproState} (call : StringCall)
    (terminated : state.strings.Terminated)
    : Writes call.arrays (·.strings.Terminated) (call.run nanopb state)
      ↔ LeavesNul nanopb state call := by
  cases call with
  | setname name len =>
      refine iff_true_intro (Traced.ensures_bind_pure_iff.mpr ?_)
      exact goproClientSetname_writes terminated name len
  | readSsid result =>
      exact Traced.ensures_bind_pure_iff.trans (onRead_writes_iff terminated .wifiSsid result)
  | readPass result =>
      exact Traced.ensures_bind_pure_iff.trans (onRead_writes_iff terminated .wifiPass result)
  | hwInfo data packetLen =>
      refine iff_true_intro (Traced.ensures_bind_pure_iff.mpr ?_)
      exact goproParseResponseHwInfo_writes data packetLen terminated
  | wifiCred data =>
      exact Traced.ensures_bind_pure_iff.trans
        (goproDecodeWifiCred_writes_iff nanopb data terminated)

theorem zero_terminated : StateStrings.Terminated GoproState.zero.strings := by
  intro field
  cases field <;> decide

/-- From the zeroed state, every array holds a C string all the way and every writer keeps to
its arrays iff no read of an own handle brings exactly twenty bytes and no credentials leave an
array without a NUL.
-/
theorem stringWriters_cStrings_iff (nanopb : CredNanopb) (calls : List StringCall)
    : ((stringWriters nanopb).Always (·.strings.Terminated) .zero calls
        ∧ (stringWriters nanopb).Along (fun state call =>
          ∀ event ∈ ((stringWriters nanopb).step state call).2, event.WritesTo call.arrays)
          .zero calls)
      ↔ (stringWriters nanopb).Along (LeavesNul nanopb) .zero calls := by
  rw [InputMachine.always_iff, and_iff_right zero_terminated, ← InputMachine.along_and]
  have every : ∀ call ∈ calls, (fun _ : StringCall => True) call := fun _ _ => trivial
  refine InputMachine.along_congr (·.strings.Terminated) ?_ ?_ zero_terminated every
  · intro state call terminated _ leaves
    exact ((call.writes_iff nanopb terminated).mpr leaves).value
  · intro state call terminated _
    rw [← call.writes_iff nanopb terminated]
    exact ⟨fun ⟨value, events⟩ => ⟨events, value⟩, fun writes => ⟨writes.value, writes.events⟩⟩

/-- Twenty bytes read for the SSID: the terminator is written to the password's array. -/
theorem stringWriters_overrun
    : ¬ ∀ (nanopb : CredNanopb) (calls : List StringCall),
      (stringWriters nanopb).Always (·.strings.Terminated) .zero calls
      ∧ (stringWriters nanopb).Along (fun state call =>
        ∀ event ∈ ((stringWriters nanopb).step state call).2, event.WritesTo call.arrays)
        .zero calls := by
  intro every
  obtain ⟨-, owned, -⟩ := every (fun _ => ([], true))
    [.readSsid ⟨0, 5, 5, ⟨List.replicate 20 0x41, fun _ => 0⟩, 20, by decide⟩]
  have overrun := owned (.store .wifiSsid 20 1) (by
    simp [stringWriters, StringCall.run, onReadSsid, onRead, storeTerminated, storeString,
      goproNameLen])
  exact absurd overrun.2 (by decide)

end GoproGateway
