import GoproGateway.Gatt.Handles
import GoproGateway.Link.Connection
import GoproGateway.State.GoproState

/-! The filters of the scan, from `nrf_hal/scan.c`.

There is room for one address and for one UUID; the arrays of the other kinds of filters have no
elements, and their kinds are never enabled. A report comes as its elements, as the stack's
parser finds them, with the memory behind each.
-/

namespace GoproGateway

-----------------------------------------------------------------------------------------
-- Reports
-----------------------------------------------------------------------------------------

/-- `struct bt_data`: an element of an advertising report. -/
structure BtData where
  type : UInt8
  data : DataPtr

inductive BtUuidType where
  | type16
  | type32
  | type128
  deriving DecidableEq, Repr

/-- The bytes of a UUID on the air. -/
def BtUuidType.size : BtUuidType → Nat
  | .type16 => 2
  | .type32 => 4
  | .type128 => 16

theorem BtUuidType.size_pos (type : BtUuidType) : 0 < type.size := by
  cases type <;> exact Nat.succ_pos _

/-- The value of bytes in memory, the lowest one first. -/
def leValue (bytes : List UInt8) : Nat := bytes.foldr (fun byte high => byte.toNat + 256 * high) 0

/-- `bt_uuid_create`. -/
def btUuidCreate (type : BtUuidType) (bytes : List UInt8) : BtUuid :=
  match type with
  | .type16 => .uuid16 (leValue bytes)
  | .type32 => .uuid32 (leValue bytes)
  | .type128 => .uuid128 (leValue bytes)

/-- The kind of UUIDs that an element lists, as `adv_data_found` tells by its type. -/
def BtData.uuidType (element : BtData) : Option BtUuidType :=
  if element.type = 0x02 ∨ element.type = 0x03 then some .type16
  else if element.type = 0x04 ∨ element.type = 0x05 then some .type32
  else if element.type = 0x06 ∨ element.type = 0x07 then some .type128
  else none

-----------------------------------------------------------------------------------------
-- Setting the filters
-----------------------------------------------------------------------------------------

/-- `CONFIG_BT_SCAN_ADDRESS_CNT`. -/
def scanAddressCnt : Nat := 1

/-- `CONFIG_BT_SCAN_UUID_CNT`. -/
def scanUuidCnt : Nat := 1

/-- `struct bt_scan_filters`, with the used parts of the arrays. -/
structure ScanFilters where
  targetAddr : List Peer
  addrEnabled : Bool
  uuid : List BtUuid
  uuidEnabled : Bool
  allMode : Bool
  addr_le : targetAddr.length ≤ scanAddressCnt
  uuid_le : uuid.length ≤ scanUuidCnt
  deriving DecidableEq, Repr

namespace ScanFilters

/-- After `bt_scan_init`. -/
def init : ScanFilters where
  targetAddr := []
  addrEnabled := false
  uuid := []
  uuidEnabled := false
  allMode := false
  addr_le := Nat.zero_le _
  uuid_le := Nat.zero_le _

def addrFilterAdd (filters : ScanFilters) (peer : Peer) : ScanFilters × Int :=
  if room : filters.targetAddr.length < scanAddressCnt then
    if peer ∈ filters.targetAddr then (filters, 0)
    else
      ({
        filters with
        targetAddr := filters.targetAddr ++ [peer]
        addr_le := by
          rw [List.length_append]
          exact room
      }, 0)
  else (filters, -enomem)

def uuidFilterAdd (filters : ScanFilters) (uuid : BtUuid) : ScanFilters × Int :=
  if room : filters.uuid.length < scanUuidCnt then
    if filters.uuid.any fun other => other.Same uuid then (filters, 0)
    else
      ({
        filters with
        uuid := filters.uuid ++ [uuid]
        uuid_le := by
          rw [List.length_append]
          exact room
      }, 0)
  else (filters, -enomem)

/-- `bt_scan_filter_remove_all`; what is enabled stays enabled. -/
def removeAll (filters : ScanFilters) : ScanFilters where
  targetAddr := []
  addrEnabled := filters.addrEnabled
  uuid := []
  uuidEnabled := filters.uuidEnabled
  allMode := filters.allMode
  addr_le := Nat.zero_le _
  uuid_le := Nat.zero_le _

end ScanFilters

def btScanAddrFilter : UInt8 := 0x02
def btScanUuidFilter : UInt8 := 0x04

/-- `MODE_CHECK`. -/
def scanModeCheck : UInt8 := 0x3F

/-- `bt_scan_filter_enable`. -/
def ScanFilters.enable (filters : ScanFilters) (mode : UInt8) (matchAll : Bool)
    : ScanFilters × Int :=
  if mode &&& scanModeCheck = 0 then (filters, -einval)
  else
    ({
      filters with
      addrEnabled := mode &&& btScanAddrFilter ≠ 0
      uuidEnabled := mode &&& btScanUuidFilter ≠ 0
      allMode := matchAll
    }, 0)

-----------------------------------------------------------------------------------------
-- Comparing a report
-----------------------------------------------------------------------------------------

/-- `struct bt_scan_control`, without what is only told to the callbacks. -/
structure ScanControl where
  filterCnt : UInt8
  filterMatchCnt : UInt8
  filterMatch : Bool
  allMode : Bool
  deriving DecidableEq, Repr

/-- A filter has been found to match. -/
def ScanControl.fitted (control : ScanControl) : ScanControl :=
  { control with filterMatchCnt := control.filterMatchCnt + 1, filterMatch := true }

/-- `find_uuid`. A last UUID that is cut off is read on behind the data. -/
def findUuid (data : DataPtr) (type : BtUuidType) (target : BtUuid) : Bool :=
  (List.range ((data.bytes.length + type.size - 1) / type.size)).any fun index =>
    (btUuidCreate type (data.block (index * type.size) type.size)).Same target

/-- How many UUIDs the loop of `adv_uuid_compare` finds before it ends. -/
def uuidMatchCnt (allMode : Bool) (found : BtUuid → Bool) : List BtUuid → Nat
  | [] => 0
  | uuid :: rest =>
      if found uuid then if allMode then 1 + uuidMatchCnt allMode found rest else 1
      else if allMode then 0
      else uuidMatchCnt allMode found rest

namespace ScanFilters

variable (filters : ScanFilters)

def advUuidCompare (data : DataPtr) (type : BtUuidType) : Bool :=
  let matchCnt := uuidMatchCnt filters.allMode (findUuid data type) filters.uuid
  (filters.allMode && matchCnt == filters.uuid.length)
    || (!filters.allMode && decide (0 < matchCnt))

/-- `adv_data_found`. -/
def advDataFound (control : ScanControl) (element : BtData) : ScanControl :=
  match element.uuidType with
  | some type =>
      if filters.uuidEnabled && filters.advUuidCompare element.data type then control.fitted
      else control
  | none => control

def checkAddr (control : ScanControl) (peer : Peer) : ScanControl :=
  if filters.addrEnabled && decide (peer ∈ filters.targetAddr) then control.fitted else control

/-- `check_enabled_filters`. -/
def filterCnt : UInt8 :=
  (if filters.addrEnabled then 1 else 0) + (if filters.uuidEnabled then 1 else 0)

/-- `scan_recv`, and whether it calls `filter_match`. -/
def scanRecv (peer : Peer) (elements : List BtData) : Bool :=
  let control : ScanControl := ⟨filters.filterCnt, 0, false, filters.allMode⟩
  let control := filters.checkAddr control peer
  let control := elements.foldl filters.advDataFound control
  if control.allMode && control.filterMatchCnt == control.filterCnt then true
  else !control.allMode && control.filterMatch

end ScanFilters

-----------------------------------------------------------------------------------------
-- What matches
-----------------------------------------------------------------------------------------

/-- The UUIDs that an element lists in full. -/
def BtData.uuids (element : BtData) : List BtUuid :=
  element.uuidType.toList.flatMap fun type =>
    (List.range (element.data.bytes.length / type.size)).map fun index =>
      btUuidCreate type (ByteBuffer.read element.data.bytes (index * type.size) type.size)

/-- A list of UUIDs has no UUID that is cut off. -/
def BtData.Whole (element : BtData) : Prop :=
  ∀ type, element.uuidType = some type → type.size ∣ element.data.bytes.length

/-- In a list that has only whole UUIDs, the search is for one of them. -/
theorem findUuid_iff {data : DataPtr} {type : BtUuidType} (whole : type.size ∣ data.bytes.length)
    (target : BtUuid)
    : findUuid data type target = true
      ↔ ∃ index < data.bytes.length / type.size,
        (btUuidCreate type (ByteBuffer.read data.bytes (index * type.size) type.size)).Same
          target := by
  have positive := type.size_pos
  obtain ⟨count, length⟩ := whole
  have exact : data.bytes.length / type.size = count := by
    rw [length, Nat.mul_div_cancel_left _ positive]
  have rounded : (data.bytes.length + type.size - 1) / type.size = count := by
    rw [length, Nat.add_sub_assoc positive, Nat.mul_add_div positive,
      Nat.div_eq_of_lt (by omega), Nat.add_zero]
  have read (index : Nat) (inside : index < count)
      : data.block (index * type.size) type.size
        = ByteBuffer.read data.bytes (index * type.size) type.size := by
    apply DataPtr.block_eq_read
    rw [length, ← Nat.succ_mul, Nat.mul_comm]
    exact Nat.mul_le_mul_left _ inside
  rw [findUuid, rounded, exact, List.any_eq_true]
  simp only [List.mem_range, decide_eq_true_eq]
  refine exists_congr fun index => and_congr_right fun inside => ?_
  rw [read index inside]

/-- An element fits a UUID filter when the search finds one of the UUIDs. -/
def ScanFilters.Fits (filters : ScanFilters) (element : BtData) : Prop :=
  ∃ type, element.uuidType = some type
    ∧ ∃ uuid ∈ filters.uuid, findUuid element.data type uuid = true

namespace ScanFilters

theorem advDataFound_allMode (filters : ScanFilters) (control : ScanControl) (element : BtData)
    : (filters.advDataFound control element).allMode = control.allMode := by
  rw [advDataFound]
  split
  · split <;> rfl
  · rfl

variable {filters : ScanFilters} (normal : filters.allMode = false)

include normal

theorem advUuidCompare_iff (data : DataPtr) (type : BtUuidType)
    : filters.advUuidCompare data type = true
      ↔ ∃ uuid ∈ filters.uuid, findUuid data type uuid = true := by
  have counts (uuids : List BtUuid)
      : 0 < uuidMatchCnt false (findUuid data type) uuids
        ↔ ∃ uuid ∈ uuids, findUuid data type uuid = true := by
    induction uuids with
    | nil => simp [uuidMatchCnt]
    | cons uuid rest ih =>
        rw [uuidMatchCnt]
        by_cases found : findUuid data type uuid = true
        · simp [found]
        · simp [found, ih]
  rw [advUuidCompare, normal]
  simpa using counts filters.uuid

theorem advDataFound_iff (control : ScanControl) (element : BtData)
    : (filters.advDataFound control element).filterMatch = true
      ↔ control.filterMatch = true ∨ (filters.uuidEnabled = true ∧ filters.Fits element) := by
  rw [advDataFound, Fits]
  cases element.uuidType with
  | none => simp
  | some type =>
      have compare := advUuidCompare_iff normal element.data type
      by_cases fits : filters.uuidEnabled = true ∧ filters.advUuidCompare element.data type = true
      · simp [fits, ScanControl.fitted, ← compare]
      · have skips : ¬ (filters.uuidEnabled && filters.advUuidCompare element.data type) = true :=
          mt Bool.and_eq_true_iff.mp fits
        rw [compare] at fits
        simp [skips, fits]

theorem foldl_advDataFound (control : ScanControl) (elements : List BtData)
    : (elements.foldl filters.advDataFound control).allMode = control.allMode
      ∧ ((elements.foldl filters.advDataFound control).filterMatch = true
        ↔ control.filterMatch = true
          ∨ (filters.uuidEnabled = true ∧ ∃ element ∈ elements, filters.Fits element)) := by
  induction elements generalizing control with
  | nil => simp
  | cons element elements ih =>
      obtain ⟨mode, found⟩ := ih (filters.advDataFound control element)
      rw [List.foldl_cons]
      refine ⟨mode.trans (filters.advDataFound_allMode control element), ?_⟩
      rw [found, advDataFound_iff normal, List.exists_mem_cons_iff, and_or_left, or_assoc]

/-- In the normal mode, one filter that fits is enough. -/
theorem scanRecv_iff (peer : Peer) (elements : List BtData)
    : filters.scanRecv peer elements = true
      ↔ (filters.addrEnabled = true ∧ peer ∈ filters.targetAddr)
        ∨ (filters.uuidEnabled = true ∧ ∃ element ∈ elements, filters.Fits element) := by
  have addr (control : ScanControl) (unmatched : control.filterMatch = false)
      : (filters.checkAddr control peer).allMode = control.allMode
        ∧ ((filters.checkAddr control peer).filterMatch = true
          ↔ filters.addrEnabled = true ∧ peer ∈ filters.targetAddr) := by
    rw [checkAddr]
    split
    case isTrue fits =>
        simpa [ScanControl.fitted] using fits
    case isFalse skips =>
        refine ⟨rfl, iff_of_false (by simp [unmatched]) ?_⟩
        simpa using skips
  obtain ⟨mode, matched⟩ := addr ⟨filters.filterCnt, 0, false, filters.allMode⟩ rfl
  obtain ⟨modeLater, found⟩ := foldl_advDataFound normal
    (filters.checkAddr ⟨filters.filterCnt, 0, false, filters.allMode⟩ peer) elements
  rw [matched] at found
  have normalLater := modeLater.trans (mode.trans normal)
  rw [← found]
  simp only [scanRecv, normalLater]
  simp

end ScanFilters

end GoproGateway
