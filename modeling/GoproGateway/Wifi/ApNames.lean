import GoproGateway.Wifi.ApEntries
import Mathlib.Data.List.TakeWhile

/-! What one entry of the list of access points writes.

Its names are stored while it is decoded, one over the other, up to the first one that is too
long; its numbers are stored when it has been decoded to its end.
-/

namespace GoproGateway

/-- The names that occur in an entry. -/
def ssids (fields : List ScanEntryField) : List (List UInt8) :=
  fields.filterMap fun
    | .ssid bytes => some bytes
    | _ => none

/-- An access point as an entry describes it. -/
structure ScanEntry extends ScanEntryResp where
  ssid : List UInt8
  deriving DecidableEq, Repr

/-- Stores the number of a field. -/
def ScanEntryField.set (resp : ScanEntryResp) : ScanEntryField → ScanEntryResp
  | .ssid _ => resp
  | .signalStrengthBars value => { resp with signalStrengthBars := value }
  | .signalFrequencyMhz value => { resp with signalFrequencyMhz := value }
  | .scanEntryFlags value => { resp with scanEntryFlags := value }

/-- An entry that can be read to its end, with names that fit: the last name and the last
numbers in it.
-/
def decodedEntry (nanopb : ScanEntryNanopb) (entry : List UInt8) : Option ScanEntry :=
  let (fields, complete) := nanopb entry
  if complete && (ssids fields).all (·.length ≤ maxSsidLen) then
    some ⟨fields.foldl ScanEntryField.set .initZero, (ssids fields).getLastD []⟩
  else none

/-- The names of an entry that are stored: those in front of the first one that is too long. -/
def storedSsids (fields : List ScanEntryField) : List (List UInt8) :=
  (ssids fields).takeWhile (·.length ≤ maxSsidLen)

-----------------------------------------------------------------------------------------
-- Writes
-----------------------------------------------------------------------------------------

/-- A name that is longer than the field is refused before anything is written. -/
theorem readSsidCallback_refuses {bytes : List UInt8} (long : bytes.length > maxSsidLen)
    (index : Nat) (list : ApList)
    : readSsidCallback index bytes list = pure (list, false) := by
  rw [readSsidCallback, if_pos long]

/-- A name that fits, with its terminator. -/
def ApList.putSsid (list : ApList) (index : Nat) (bytes : List UInt8) : ApList :=
  (terminateSsid (storeSsid list index bytes).value index bytes.length).value

def ApList.putSsids (list : ApList) (index : Nat) (names : List (List UInt8)) : ApList :=
  names.foldl (·.putSsid index ·) list

/-- The writes for names. -/
def nameStores (index : Nat) (names : List (List UInt8)) : List ApEvent :=
  names.flatMap fun bytes =>
    [.store index ssidOffset bytes.length, .store index (ssidOffset + bytes.length) 1]

/-- The writes for numbers. -/
def respStores (index : Nat) : List ApEvent :=
  [.store index 0 4, .store index 4 4, .store index 8 4]

/-- A name that fits is written with its NUL behind it, one byte past the field if it fills it.
-/
theorem readSsidCallback_stores {bytes : List UInt8} (fits : bytes.length ≤ maxSsidLen)
    (index : Nat) (list : ApList)
    : readSsidCallback index bytes list
      = ⟨(list.putSsid index bytes, true),
        [.store index ssidOffset bytes.length,
          .store index (ssidOffset + bytes.length) 1]⟩ := by
  rw [readSsidCallback, if_neg (Nat.not_lt.mpr fits)]
  rfl

-----------------------------------------------------------------------------------------
-- Elements
-----------------------------------------------------------------------------------------

/-- A change of an element leaves those in front of it alone. -/
theorem ApList.modify_take (list : ApList) (index : Nat) (change : ApListT → ApListT)
    : (list.modify index change).elements.take index = list.elements.take index := by
  rw [modify, List.take_modify, List.modify_eq_self (List.length_take_le _ _)]

theorem ApList.element_there (list : ApList) {index : Nat} (inside : index < maxApListCount)
    : ∃ element, list.elements[index]? = some element :=
  ⟨_, List.getElem?_eq_getElem (by rwa [list.elements_length])⟩

section Names

variable (list : ApList) {index : Nat}

theorem ApList.putSsid_eq {bytes : List UInt8} (short : bytes.length < maxSsidLen)
    : list.putSsid index bytes
      = (list.modify index (·.writeSsid 0 bytes)).modify index (·.writeSsid bytes.length [0]) :=
  if_pos short

/-- Short names leave the elements in front of theirs alone. -/
theorem ApList.putSsids_take {names : List (List UInt8)}
    (short : ∀ bytes ∈ names, bytes.length < maxSsidLen)
    : (list.putSsids index names).elements.take index = list.elements.take index := by
  induction names generalizing list with
  | nil => rfl
  | cons bytes rest ih =>
      obtain ⟨first, later⟩ := List.forall_mem_cons.mp short
      have step : list.putSsids index (bytes :: rest)
          = (list.putSsid index bytes).putSsids index rest := rfl
      rw [step, ih _ later, putSsid_eq _ first, modify_take, modify_take]

/-- The element of a name that is shorter than its array has the name and a terminator. -/
theorem ApList.putSsid_name (inside : index < maxApListCount) {bytes : List UInt8}
    (short : bytes.length < maxSsidLen)
    : ∃ element, (list.putSsid index bytes).elements[index]? = some element
      ∧ element.ssid.take (bytes.length + 1) = bytes ++ [0] := by
  obtain ⟨element, there⟩ := list.element_there inside
  refine ⟨(element.writeSsid 0 bytes).writeSsid bytes.length [0], ?_, ?_⟩
  · rw [putSsid_eq _ short]
    simp [modify, there]
  · have size := element.ssid_length
    have front : (element.writeSsid 0 bytes).ssid
        = bytes ++ element.ssid.drop bytes.length :=
      ByteBuffer.write_front (by omega)
    have room : bytes.length + [(0 : UInt8)].length
        ≤ (element.writeSsid 0 bytes).ssid.length := by
      rw [(element.writeSsid 0 bytes).ssid_length]
      exact short
    have written := ByteBuffer.take_write room
    rw [front, List.take_left] at written
    rw [← front] at written
    exact written

/-- Of several names, the last one stays. -/
theorem ApList.putSsids_name (inside : index < maxApListCount) {names : List (List UInt8)}
    (occurs : names ≠ []) (short : ∀ bytes ∈ names, bytes.length < maxSsidLen)
    : ∃ element, (list.putSsids index names).elements[index]? = some element
      ∧ element.ssid.take ((names.getLastD []).length + 1) = names.getLastD [] ++ [0] := by
  rcases List.eq_nil_or_concat names with none | ⟨init, last, all⟩
  · exact absurd none occurs
  · rw [all, List.concat_eq_append] at short ⊢
    have final : list.putSsids index (init ++ [last])
        = (list.putSsids index init).putSsid index last := by
      rw [putSsids, List.foldl_append]
      rfl
    rw [final, List.getLastD_concat]
    exact putSsid_name _ inside (short last (by simp))

end Names

-----------------------------------------------------------------------------------------
-- One entry
-----------------------------------------------------------------------------------------

@[simp] theorem ssids_cons (bytes : List UInt8) (rest : List ScanEntryField)
    : ssids (.ssid bytes :: rest) = bytes :: ssids rest := rfl

section Decode

variable (index : Nat) (list : ApList) (resp : ScanEntryResp)

/-- A refused name ends the decoding of its entry. -/
theorem decodeScanEntry_refuses {bytes : List UInt8} (long : bytes.length > maxSsidLen)
    (rest : List ScanEntryField)
    : decodeScanEntry index list resp (.ssid bytes :: rest) = pure (list, resp, false) := by
  rw [decodeScanEntry, readSsidCallback_refuses long]
  rfl

/-- A name that fits is stored, and the decoding goes on behind it. -/
theorem decodeScanEntry_stores {bytes : List UInt8} (fits : bytes.length ≤ maxSsidLen)
    (rest : List ScanEntryField)
    : decodeScanEntry index list resp (.ssid bytes :: rest)
      = (⟨(), [.store index ssidOffset bytes.length,
          .store index (ssidOffset + bytes.length) 1]⟩ : ApTrace Unit)
        >>= fun _ => decodeScanEntry index (list.putSsid index bytes) resp rest := by
  rw [decodeScanEntry, readSsidCallback_stores fits]
  rfl

theorem storedSsids_refuses {bytes : List UInt8} (long : bytes.length > maxSsidLen)
    (rest : List ScanEntryField)
    : storedSsids (.ssid bytes :: rest) = [] := by
  simp [storedSsids, long]

theorem storedSsids_stores {bytes : List UInt8} (fits : bytes.length ≤ maxSsidLen)
    (rest : List ScanEntryField)
    : storedSsids (.ssid bytes :: rest) = bytes :: storedSsids rest := by
  simp [storedSsids, fits]

/-- The decoder of an entry, as a whole: the names that it stores go to the element, one after
the other. It succeeds when all names fit, and the numbers are then those of the entry.
-/
theorem decodeScanEntry_eq (fields : List ScanEntryField)
    : ∃ numbers, decodeScanEntry index list resp fields
        = ⟨(list.putSsids index (storedSsids fields), numbers,
            (ssids fields).all (·.length ≤ maxSsidLen)),
          nameStores index (storedSsids fields)⟩
      ∧ ((ssids fields).all (·.length ≤ maxSsidLen) = true
        → numbers = fields.foldl ScanEntryField.set resp) := by
  induction fields generalizing list resp with
  | nil => exact ⟨resp, rfl, fun _ => rfl⟩
  | cons field rest ih =>
      cases field with
      | ssid bytes =>
          by_cases long : bytes.length > maxSsidLen
          · have refused : ((ssids (.ssid bytes :: rest)).all (·.length ≤ maxSsidLen)) = false := by
              rw [ssids_cons, List.all_cons, decide_eq_false (Nat.not_le.mpr long),
                Bool.false_and]
            rw [decodeScanEntry_refuses _ _ _ long, storedSsids_refuses long, refused]
            exact ⟨resp, rfl, nofun⟩
          · have fits := Nat.le_of_not_lt long
            have goesOn : (ssids (.ssid bytes :: rest)).all (·.length ≤ maxSsidLen)
                = (ssids rest).all (·.length ≤ maxSsidLen) := by
              rw [ssids_cons, List.all_cons, decide_eq_true fits, Bool.true_and]
            obtain ⟨numbers, later, isLater⟩ := ih (list.putSsid index bytes) resp
            rw [decodeScanEntry_stores _ _ _ fits, later, storedSsids_stores fits, goesOn]
            exact ⟨numbers, rfl, isLater⟩
      | signalStrengthBars value => exact ih _ _
      | signalFrequencyMhz value => exact ih _ _
      | scanEntryFlags value => exact ih _ _

end Decode

section Callback

variable {nanopb : ScanEntryNanopb} {entry : List UInt8}

/-- An entry is decoded if the library reads it to its end and no name is refused. It then has
the last name.
-/
theorem decodedEntry_eq_some_iff {value : ScanEntry}
    : decodedEntry nanopb entry = some value
      ↔ (nanopb entry).2 = true ∧ (ssids (nanopb entry).1).all (·.length ≤ maxSsidLen) = true
        ∧ (⟨(nanopb entry).1.foldl ScanEntryField.set .initZero,
          (ssids (nanopb entry).1).getLastD []⟩ : ScanEntry) = value := by
  simp only [decodedEntry]
  split_ifs with both
  · simp [Bool.and_eq_true_iff.mp both]
  · simp only [false_iff]
    rintro ⟨complete, fits, -⟩
    exact both (Bool.and_eq_true_iff.mpr ⟨complete, fits⟩)

theorem decodedEntry_eq_none_iff
    : decodedEntry nanopb entry = none
      ↔ ((ssids (nanopb entry).1).all (·.length ≤ maxSsidLen) && (nanopb entry).2) = false := by
  simp only [decodedEntry, Bool.and_comm]
  split_ifs with both
  · simp [both]
  · simpa using both

variable (room : entry.length ≤ respApEntriesBufLen) (scan : ApScan)

include room

/-- An entry that decodes: its names and its numbers are stored, and the index advances up to
the last element.
-/
theorem readApEntriesCallback_decodes {value : ScanEntry}
    (decodes : decodedEntry nanopb entry = some value)
    : readApEntriesCallback nanopb entry scan
      = ⟨(⟨(storeResp (scan.list.putSsids scan.index (storedSsids (nanopb entry).1)) scan.index
            value.toScanEntryResp).value,
          if scan.index < maxApListCount - 1 then scan.index + 1 else scan.index⟩, true),
        nameStores scan.index (storedSsids (nanopb entry).1) ++ respStores scan.index⟩ := by
  obtain ⟨complete, fits, rfl⟩ := decodedEntry_eq_some_iff.mp decodes
  obtain ⟨numbers, decoded, isEntry⟩ :=
    decodeScanEntry_eq scan.index scan.list .initZero (nanopb entry).1
  rw [fits] at decoded
  rw [← isEntry fits, readApEntriesCallback, if_neg (Nat.not_lt.mpr room)]
  ext1
  · simp only [Traced.bind_value, decoded, complete]
    rfl
  · simp only [Traced.bind_events, decoded, complete]
    rfl

/-- An entry that does not decode: the names that it has stored stay, and the index does. -/
theorem readApEntriesCallback_skips (fails : decodedEntry nanopb entry = none)
    : readApEntriesCallback nanopb entry scan
      = ⟨({ scan with list := scan.list.putSsids scan.index (storedSsids (nanopb entry).1) },
          true),
        nameStores scan.index (storedSsids (nanopb entry).1)⟩ := by
  have incomplete := decodedEntry_eq_none_iff.mp fails
  obtain ⟨numbers, decoded, -⟩ :=
    decodeScanEntry_eq scan.index scan.list .initZero (nanopb entry).1
  rw [readApEntriesCallback, if_neg (Nat.not_lt.mpr room)]
  ext1
  · simp only [Traced.bind_value, decoded, incomplete]
    rfl
  · simp only [Traced.bind_events, decoded, incomplete, Traced.pure_events, Bool.false_eq_true,
      if_false, List.append_nil]

end Callback

end GoproGateway
