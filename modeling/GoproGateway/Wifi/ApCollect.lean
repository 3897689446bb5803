import GoproGateway.Library.WireFormat
import GoproGateway.Wifi.ApNames
import Mathlib.Data.List.Forall2

/-! What the reader collects of a list of access points.

The index stops at the last element, which is then written again by every further entry and is
never handed over; and a name as long as its array is terminated behind it.
-/

namespace GoproGateway

/-- The decodable entries of a response. -/
def decodedEntries (nanopb : ScanEntryNanopb) (entries : List (List UInt8)) : List ScanEntry :=
  entries.filterMap (decodedEntry nanopb)

/-- An element has the numbers of an access point, and its name with a terminator. -/
structure ApListT.Shows (element : ApListT) (entry : ScanEntry) : Prop where
  frequency : element.signalFrequencyMhz = entry.signalFrequencyMhz
  bars : element.signalStrengthBars = entry.signalStrengthBars
  flags : element.flags = entry.scanEntryFlags
  name : element.ssid.take (entry.ssid.length + 1) = entry.ssid ++ [0]

/-- A write stays in an element of the array. -/
def ApEvent.InBounds : ApEvent → Prop
  | .store element offset count => element < maxApListCount ∧ offset + count ≤ apListTLen
  | _ => True

/-- The lists handed over. -/
def connected (events : List ApEvent) : List (List ApEntry) :=
  events.filterMap fun
    | .goproConnectAp entries => some entries
    | _ => none

/-- A response is collected: every write stays in bounds, and the first thirty decodable
entries are handed over, once and in order.
-/
structure Collects (decoded : List ScanEntry) (traced : ApTrace ApScan) : Prop where
  inBounds : ∀ event ∈ traced.events, event.InBounds
  receives : ∃ received, connected traced.events = [received]
    ∧ List.Forall₂ (fun entry (element : ApEntry) => element.toApListT.Shows entry)
        (decoded.take maxApListCount) received

/-- No name that is stored fills its array. -/
def KeepsTerminator (fields : List ScanEntryField) : Prop :=
  ∀ bytes ∈ storedSsids fields, bytes.length ≠ maxSsidLen

-----------------------------------------------------------------------------------------
-- Collecting
-----------------------------------------------------------------------------------------

/-- The elements in front of the index show the entries decoded so far. -/
structure ApScan.Collected (scan : ApScan) (done : List ScanEntry) : Prop where
  index : scan.index = done.length
  shows : List.Forall₂ (fun entry element => element.Shows entry) done
    (scan.list.elements.take scan.index)

section Steps

variable {nanopb : ScanEntryNanopb} {entry : List UInt8} {scan : ApScan}
  {done : List ScanEntry}

theorem storedSsids_fits {fields : List ScanEntryField} {bytes : List UInt8}
    (stored : bytes ∈ storedSsids fields)
    : bytes.length ≤ maxSsidLen := by
  have fits := List.mem_takeWhile_imp stored
  exact of_decide_eq_true fits

theorem KeepsTerminator.short {fields : List ScanEntryField} (keeps : KeepsTerminator fields)
    : ∀ bytes ∈ storedSsids fields, bytes.length < maxSsidLen := by
  intro bytes stored
  exact Nat.lt_of_le_of_ne (storedSsids_fits stored) (keeps bytes stored)

theorem storedSsids_of_fits {fields : List ScanEntryField}
    (fits : (ssids fields).all (·.length ≤ maxSsidLen) = true)
    : storedSsids fields = ssids fields :=
  List.takeWhile_eq_self_iff.mpr (List.all_eq_true.mp fits)

theorem ApScan.Collected.skips (collected : scan.Collected done)
    (keeps : KeepsTerminator (nanopb entry).1)
    (room : entry.length ≤ respApEntriesBufLen) (fails : decodedEntry nanopb entry = none)
    : (readApEntriesCallback nanopb entry scan).value.1.Collected done := by
  rw [readApEntriesCallback_skips room scan fails]
  refine ⟨collected.index, ?_⟩
  change List.Forall₂ _ done ((scan.list.putSsids scan.index _).elements.take scan.index)
  rw [ApList.putSsids_take _ keeps.short]
  exact collected.shows

/-- An entry that decodes is shown by the element at the index. -/
theorem ApScan.Collected.decodes (collected : scan.Collected done)
    (keeps : KeepsTerminator (nanopb entry).1) (named : ssids (nanopb entry).1 ≠ [])
    (room : entry.length ≤ respApEntriesBufLen) {value : ScanEntry}
    (decodes : decodedEntry nanopb entry = some value)
    (below : done.length < maxApListCount - 1)
    : (readApEntriesCallback nanopb entry scan).value.1.Collected (done ++ [value]) := by
  rw [readApEntriesCallback_decodes room scan decodes]
  obtain ⟨-, fits, rfl⟩ := decodedEntry_eq_some_iff.mp decodes
  rw [← collected.index] at below
  have short := keeps.short
  have inside : scan.index < maxApListCount := by omega
  rw [storedSsids_of_fits fits] at short ⊢
  obtain ⟨element, there, name⟩ := ApList.putSsids_name scan.list inside named short
  have front : (storeResp (scan.list.putSsids scan.index (ssids (nanopb entry).1)) scan.index
        ((nanopb entry).1.foldl ScanEntryField.set .initZero)).value.elements.take scan.index
      = scan.list.elements.take scan.index := by
    rw [storeResp, ApList.modify_take, ApList.putSsids_take _ short]
  have last : (storeResp (scan.list.putSsids scan.index (ssids (nanopb entry).1)) scan.index
        ((nanopb entry).1.foldl ScanEntryField.set .initZero)).value.elements[scan.index]?
      = some (element.writeResp ((nanopb entry).1.foldl ScanEntryField.set .initZero)) := by
    simp [storeResp, ApList.modify, there]
  simp only [if_pos below]
  refine ⟨by simp [collected.index], ?_⟩
  rw [List.take_add_one, front, last]
  exact List.rel_append collected.shows (.cons ⟨rfl, rfl, rfl, name⟩ .nil)

end Steps

-----------------------------------------------------------------------------------------
-- One response
-----------------------------------------------------------------------------------------

section Response

variable {nanopb : ScanEntryNanopb}

/-- The index stays in front of the end of the array. -/
theorem readApEntriesCallback_index {entry : List UInt8}
    (room : entry.length ≤ respApEntriesBufLen) {scan : ApScan}
    (inside : scan.index < maxApListCount)
    : (readApEntriesCallback nanopb entry scan).value.1.index < maxApListCount := by
  cases decoded : decodedEntry nanopb entry with
  | none =>
      rw [readApEntriesCallback_skips room scan decoded]
      exact inside
  | some value =>
      rw [readApEntriesCallback_decodes room scan decoded]
      dsimp only
      split_ifs <;> omega

theorem nameStores_inBounds_iff {index : Nat} (inside : index < maxApListCount)
    (fields : List ScanEntryField)
    : (∀ event ∈ nameStores index (storedSsids fields), event.InBounds)
      ↔ KeepsTerminator fields := by
  simp only [nameStores, List.forall_mem_flatMap]
  refine forall₂_congr fun bytes stored => ?_
  have fits := storedSsids_fits stored
  simp only [List.forall_mem_cons, ApEvent.InBounds, maxSsidLen, apListTLen, ssidOffset] at fits ⊢
  constructor
  · rintro ⟨-, ⟨-, terminator⟩, -⟩
    omega
  · intro short
    exact ⟨⟨inside, by omega⟩, ⟨inside, by omega⟩, by simp⟩

theorem respStores_inBounds {index : Nat} (inside : index < maxApListCount)
    : ∀ event ∈ respStores index, event.InBounds := by
  simp only [respStores, List.forall_mem_cons, ApEvent.InBounds]
  exact ⟨⟨inside, by decide⟩, ⟨inside, by decide⟩, ⟨inside, by decide⟩, by simp⟩

/-- One entry stays in bounds iff no name that it stores fills its array. -/
theorem readApEntriesCallback_inBounds_iff {entry : List UInt8}
    (room : entry.length ≤ respApEntriesBufLen) {scan : ApScan}
    (inside : scan.index < maxApListCount)
    : (∀ event ∈ (readApEntriesCallback nanopb entry scan).events, event.InBounds)
      ↔ KeepsTerminator (nanopb entry).1 := by
  cases decoded : decodedEntry nanopb entry with
  | none =>
      rw [readApEntriesCallback_skips room scan decoded]
      exact nameStores_inBounds_iff inside _
  | some value =>
      rw [readApEntriesCallback_decodes room scan decoded, List.forall_mem_append,
        and_iff_left (respStores_inBounds inside)]
      exact nameStores_inBounds_iff inside _

/-- The reader goes on behind every entry that the buffer has room for. -/
theorem decodeApEntries_cons {entry : List UInt8} (room : entry.length ≤ respApEntriesBufLen)
    (scan : ApScan) (rest : List (List UInt8))
    : decodeApEntries nanopb scan (entry :: rest)
      = readApEntriesCallback nanopb entry scan
        >>= fun result => decodeApEntries nanopb result.1 rest := by
  have ok : (readApEntriesCallback nanopb entry scan).value.2 = true := by
    cases decoded : decodedEntry nanopb entry with
    | none => rw [readApEntriesCallback_skips room scan decoded]
    | some value => rw [readApEntriesCallback_decodes room scan decoded]
  rw [decodeApEntries]
  ext1
  · simp only [Traced.bind_value, ok, if_true]
  · simp only [Traced.bind_events, ok, if_true]

variable {entries : List (List UInt8)}
  (sizes : ∀ entry ∈ entries, entry.length ≤ respApEntriesBufLen)

include sizes

theorem decodeApEntries_ok (scan : ApScan)
    : (decodeApEntries nanopb scan entries).value.2 = true := by
  induction entries generalizing scan with
  | nil => rfl
  | cons entry rest ih =>
      obtain ⟨room, sizes⟩ := List.forall_mem_cons.mp sizes
      rw [decodeApEntries_cons room, Traced.bind_value]
      exact ih sizes _

theorem decodeApEntries_index {scan : ApScan} (inside : scan.index < maxApListCount)
    : (decodeApEntries nanopb scan entries).value.1.index < maxApListCount := by
  induction entries generalizing scan with
  | nil => exact inside
  | cons entry rest ih =>
      obtain ⟨room, sizes⟩ := List.forall_mem_cons.mp sizes
      rw [decodeApEntries_cons room, Traced.bind_value]
      exact ih sizes (readApEntriesCallback_index room inside)

theorem decodeApEntries_inBounds_iff {scan : ApScan} (inside : scan.index < maxApListCount)
    : (∀ event ∈ (decodeApEntries nanopb scan entries).events, event.InBounds)
      ↔ ∀ entry ∈ entries, KeepsTerminator (nanopb entry).1 := by
  induction entries generalizing scan with
  | nil => simp [decodeApEntries]
  | cons entry rest ih =>
      obtain ⟨room, sizes⟩ := List.forall_mem_cons.mp sizes
      rw [decodeApEntries_cons room, Traced.forall_events_bind,
        readApEntriesCallback_inBounds_iff room inside,
        ih sizes (readApEntriesCallback_index room inside), List.forall_mem_cons]

/-- Nothing is handed over while entries are read. -/
theorem decodeApEntries_connected (scan : ApScan)
    : connected (decodeApEntries nanopb scan entries).events = [] := by
  have names (index : Nat) (stored : List (List UInt8))
      : connected (nameStores index stored) = [] := by
    simp [connected, nameStores, List.filterMap_flatMap]
  induction entries generalizing scan with
  | nil => rfl
  | cons entry rest ih =>
      obtain ⟨room, sizes⟩ := List.forall_mem_cons.mp sizes
      have first : connected (readApEntriesCallback nanopb entry scan).events = [] := by
        cases decoded : decodedEntry nanopb entry with
        | none =>
            rw [readApEntriesCallback_skips room scan decoded]
            exact names _ _
        | some value =>
            rw [readApEntriesCallback_decodes room scan decoded, connected,
              List.filterMap_append]
            exact congrArg (· ++ []) (names _ _)
      rw [decodeApEntries_cons room, Traced.bind_events, connected, List.filterMap_append]
      exact congrArg₂ (· ++ ·) first (ih sizes _)

/-- While there are elements left, the decodable entries are collected in order. -/
theorem decodeApEntries_collected {scan : ApScan} {done : List ScanEntry}
    (required : ∀ bytes, (nanopb bytes).2 = true → ssids (nanopb bytes).1 ≠ [])
    (keeps : ∀ entry ∈ entries, KeepsTerminator (nanopb entry).1)
    (few : done.length + (decodedEntries nanopb entries).length < maxApListCount)
    (collected : scan.Collected done)
    : (decodeApEntries nanopb scan entries).value.1.Collected
        (done ++ decodedEntries nanopb entries) := by
  induction entries generalizing scan done with
  | nil => simpa [decodedEntries, decodeApEntries] using collected
  | cons entry rest ih =>
      obtain ⟨room, sizes⟩ := List.forall_mem_cons.mp sizes
      obtain ⟨first, keeps⟩ := List.forall_mem_cons.mp keeps
      rw [decodeApEntries_cons room, Traced.bind_value]
      cases decoded : decodedEntry nanopb entry with
      | none =>
          have none : decodedEntries nanopb (entry :: rest) = decodedEntries nanopb rest :=
            List.filterMap_cons_none decoded
          rw [none] at few ⊢
          exact ih sizes keeps few (collected.skips first room decoded)
      | some value =>
          have some : decodedEntries nanopb (entry :: rest)
              = value :: decodedEntries nanopb rest :=
            List.filterMap_cons_some decoded
          rw [some, List.length_cons] at few
          obtain ⟨complete, -⟩ := decodedEntry_eq_some_iff.mp decoded
          have next := collected.decodes first (required entry complete) room decoded (by omega)
          have later := ih sizes keeps (by rw [List.length_append, List.length_singleton]; omega)
            next
          rwa [some, List.append_cons]

end Response

theorem apEntries_toApListT (elements : List ApListT)
    : (apEntries elements).map ApEntry.toApListT = elements := by
  induction elements with
  | nil => rfl
  | cons element rest ih => rw [apEntries, List.map_cons, ih]

/-- The elements in front of the index show the entries iff what is handed over does. -/
theorem apEntries_shows_iff {decoded : List ScanEntry} (scan : ApScan)
    : List.Forall₂ (fun entry (element : ApEntry) => element.toApListT.Shows entry) decoded
        ((apEntries scan.list.elements).take scan.index)
      ↔ List.Forall₂ (fun entry element => element.Shows entry) decoded
        (scan.list.elements.take scan.index) := by
  conv => rhs; rw [← apEntries_toApListT scan.list.elements, ← List.map_take]
  rw [List.forall₂_map_right_iff]

/-- The state in which the entries of a response are read. -/
def ApScan.restart (scan : ApScan) : ApScan := ⟨(clearElement scan.list 0).value, 0⟩

theorem ApScan.restart_inside (scan : ApScan) : scan.restart.index < maxApListCount := by
  change 0 < maxApListCount
  decide

section Parse

variable {response : ApEntriesNanopb} (nanopb : ScanEntryNanopb) {data : DataPtr}
  {packetLen : Nat} {entries : List (List UInt8)}
  (decodes : response (data.block 2 packetLen) = (entries, true))
  (sizes : ∀ entry ∈ entries, entry.length ≤ respApEntriesBufLen) (scan : ApScan)

include decodes sizes

/-- A response that decodes: the first element is cleared, the entries are read, and the
elements in front of the index are handed over.
-/
theorem goproParseApEntries_events
    : (goproParseApEntries response nanopb data packetLen scan).events
      = .store 0 0 apListTLen
        :: ((decodeApEntries nanopb scan.restart entries).events
          ++ [.goproConnectAp
            ((apEntries (decodeApEntries nanopb scan.restart entries).value.1.list.elements).take
              (decodeApEntries nanopb scan.restart entries).value.1.index)]) := by
  have ok : (decodeApEntries nanopb scan.restart entries).value.2 = true :=
    decodeApEntries_ok sizes scan.restart
  simp only [ApScan.restart] at ok ⊢
  simp only [goproParseApEntries, Traced.bind_events, decodes, ok]
  rfl

theorem goproParseApEntries_inBounds_iff
    : (∀ event ∈ (goproParseApEntries response nanopb data packetLen scan).events,
        event.InBounds)
      ↔ ∀ entry ∈ entries, KeepsTerminator (nanopb entry).1 := by
  have cleared : ApEvent.InBounds (.store 0 0 apListTLen) := ⟨by decide, by decide⟩
  rw [goproParseApEntries_events nanopb decodes sizes, List.forall_mem_cons,
    and_iff_right cleared, List.forall_mem_append, List.forall_mem_singleton,
    decodeApEntries_inBounds_iff sizes scan.restart_inside]
  exact and_iff_left trivial

/-- One list is handed over. -/
theorem goproParseApEntries_connected
    : connected (goproParseApEntries response nanopb data packetLen scan).events
      = [(apEntries (decodeApEntries nanopb scan.restart entries).value.1.list.elements).take
          (decodeApEntries nanopb scan.restart entries).value.1.index] := by
  have silent : connected (decodeApEntries nanopb scan.restart entries).events = [] :=
    decodeApEntries_connected sizes scan.restart
  rw [connected] at silent
  rw [goproParseApEntries_events nanopb decodes sizes, connected,
    List.filterMap_cons_none rfl, List.filterMap_append, silent]
  rfl

end Parse

/-- In any state, a response with entries that the buffer has room for is collected iff none of
the names that it stores fills its array and fewer than thirty entries decode.
-/
theorem goproParseApEntries_collects_iff (response : ApEntriesNanopb) (nanopb : ScanEntryNanopb)
    (required : ∀ bytes, (nanopb bytes).2 = true → ssids (nanopb bytes).1 ≠ [])
    (data : DataPtr) (packetLen : Nat) (scan : ApScan) (entries : List (List UInt8))
    (decodes : response (data.block 2 packetLen) = (entries, true))
    (sizes : ∀ entry ∈ entries, entry.length ≤ respApEntriesBufLen)
    : Collects (decodedEntries nanopb entries)
        (goproParseApEntries response nanopb data packetLen scan)
      ↔ (∀ entry ∈ entries, KeepsTerminator (nanopb entry).1)
        ∧ (decodedEntries nanopb entries).length < maxApListCount := by
  have bounds := goproParseApEntries_inBounds_iff nanopb decodes sizes scan
  have handed := goproParseApEntries_connected nanopb decodes sizes scan
  constructor
  · rintro ⟨inBounds, received, isReceived, shows⟩
    refine ⟨bounds.mp inBounds, ?_⟩
    obtain rfl := List.singleton_inj.mp (handed.symm.trans isReceived)
    -- The index never reaches the end of the array, so at most 29 elements are handed over.
    have inside : (decodeApEntries nanopb scan.restart entries).value.1.index < maxApListCount :=
      decodeApEntries_index sizes scan.restart_inside
    have lengths := shows.length_eq
    rw [List.length_take, List.length_take] at lengths
    omega
  · rintro ⟨keeps, few⟩
    have empty : scan.restart.Collected [] := ⟨rfl, .nil⟩
    have collected := decodeApEntries_collected sizes required keeps
      (by rwa [List.length_nil, Nat.zero_add]) empty
    rw [List.nil_append] at collected
    refine ⟨bounds.mpr keeps, _, handed, ?_⟩
    rw [List.take_of_length_le (Nat.le_of_lt few), apEntries_shows_iff]
    exact collected.shows

/-- What shows an access point is found under its name, whatever stands behind the array. -/
theorem ApListT.Shows.name_eq {element : ApEntry} {entry : ScanEntry}
    (shows : element.toApListT.Shows entry) (plain : 0 ∉ entry.ssid)
    : element.name = entry.ssid := by
  have array : element.ssid = entry.ssid ++ 0 :: element.ssid.drop (entry.ssid.length + 1) := by
    conv => lhs; rw [← List.take_append_drop (entry.ssid.length + 1) element.ssid, shows.name]
    rw [List.append_assoc, List.singleton_append]
  rw [ApEntry.name, array, List.append_assoc, List.cons_append, CString.text_append_nul plain]

/-- The list that is searched has the names of the response's entries. -/
theorem Collects.names {decoded : List ScanEntry} {traced : ApTrace ApScan}
    (collects : Collects decoded traced) (plain : ∀ entry ∈ decoded, 0 ∉ entry.ssid)
    : (connected traced.events).map (·.map ApEntry.name)
      = [(decoded.take maxApListCount).map ScanEntry.ssid] := by
  obtain ⟨received, handed, shows⟩ := collects.receives
  have named : ∀ entry ∈ decoded.take maxApListCount, 0 ∉ entry.ssid :=
    fun entry member => plain entry (List.mem_of_mem_take member)
  rw [handed, List.map_singleton, List.singleton_inj]
  clear handed
  generalize decoded.take maxApListCount = front at shows named
  induction shows with
  | nil => rfl
  | cons first later ih =>
      obtain ⟨head, tail⟩ := List.forall_mem_cons.mp named
      rw [List.map_cons, List.map_cons, first.name_eq head, ih tail]

-----------------------------------------------------------------------------------------
-- Responses in the wire format
-----------------------------------------------------------------------------------------

/-- The field that a record of an entry is for; other records are skipped. -/
def scanEntryField : WireFormat.Record → Option ScanEntryField
  | ⟨1, .lengthDelimited bytes⟩ => some (.ssid bytes)
  | ⟨2, .varint value⟩ => some (.signalStrengthBars (Int32.ofNat value))
  | ⟨4, .varint value⟩ => some (.signalFrequencyMhz (Int32.ofNat value))
  | ⟨5, .varint value⟩ => some (.scanEntryFlags (Int32.ofNat value))
  | _ => none

/-- A library that reads the wire format as it is; all fields of an entry are required. -/
def referenceScanEntryNanopb : ScanEntryNanopb := fun bytes =>
  let (records, complete) := WireFormat.readMessage bytes
  let fields := records.filterMap scanEntryField
  (fields, !(ssids fields).isEmpty && complete
    && [2, 4, 5].all fun number => records.any (·.number = number))

/-- The same for a response, which has two required numbers in front of its entries. -/
def referenceApEntriesNanopb : ApEntriesNanopb := fun bytes =>
  let (records, complete) := WireFormat.readMessage bytes
  (records.filterMap fun
      | ⟨3, .lengthDelimited entry⟩ => some entry
      | _ => none,
    complete && [1, 2].all fun number => records.any (·.number = number))

theorem referenceScanEntryNanopb_required (bytes : List UInt8)
    (complete : (referenceScanEntryNanopb bytes).2 = true)
    : ssids (referenceScanEntryNanopb bytes).1 ≠ [] := by
  have both := (Bool.and_eq_true_iff.mp complete).1
  have occurs : (!(ssids (referenceScanEntryNanopb bytes).1).isEmpty) = true :=
    (Bool.and_eq_true_iff.mp both).1
  intro empty
  rw [empty] at occurs
  cases occurs

/-- An entry "lab", and one that is cut off. -/
theorem goproParseApEntries_collects_lab
    : Collects (decodedEntries referenceScanEntryNanopb
          [[0x0A, 3, 0x6C, 0x61, 0x62, 0x10, 3, 0x20, 0xEC, 0x12, 0x28, 8], [0x0A, 4, 0x6C]])
        (goproParseApEntries referenceApEntriesNanopb referenceScanEntryNanopb
          ⟨[0x02, 0x83, 0x08, 1, 0x10, 1, 0x1A, 12, 0x0A, 3, 0x6C, 0x61, 0x62, 0x10, 3, 0x20,
            0xEC, 0x12, 0x28, 8, 0x1A, 3, 0x0A, 4, 0x6C], fun _ => 0⟩ 23 .zero) :=
  (goproParseApEntries_collects_iff referenceApEntriesNanopb referenceScanEntryNanopb
    referenceScanEntryNanopb_required _ 23 .zero _ (by decide +kernel) (by decide)).mpr
    ⟨by unfold KeepsTerminator; decide +kernel, by decide +kernel⟩

/-- A name of forty bytes: its terminator is written to the next element. -/
theorem goproParseApEntries_leaves_element
    : ¬ ∀ (response : ApEntriesNanopb) (nanopb : ScanEntryNanopb),
      (∀ bytes, (nanopb bytes).2 = true → ssids (nanopb bytes).1 ≠ [])
      → ∀ (data : DataPtr) (packetLen : Nat) (scan : ApScan) (entries : List (List UInt8)),
        response (data.block 2 packetLen) = (entries, true)
        → (∀ entry ∈ entries, entry.length ≤ respApEntriesBufLen)
        → Collects (decodedEntries nanopb entries)
            (goproParseApEntries response nanopb data packetLen scan) := by
  intro every
  have collects := every referenceApEntriesNanopb referenceScanEntryNanopb
    referenceScanEntryNanopb_required
    ⟨[0x02, 0x83, 0x08, 1, 0x10, 1, 0x1A, 49, 0x0A, 40] ++ List.replicate 40 0x61
      ++ [0x10, 3, 0x20, 0xEC, 0x12, 0x28, 0], fun _ => 0⟩ 55 .zero
    [[0x0A, 40] ++ List.replicate 40 0x61 ++ [0x10, 3, 0x20, 0xEC, 0x12, 0x28, 0]]
    (by decide +kernel) (by decide +kernel)
  have beyond := collects.inBounds (.store 0 52 1) (by decide +kernel)
  exact absurd beyond.2 (by decide)

end GoproGateway
