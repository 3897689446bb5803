import GoproGateway.Wifi.ConnectAp

/-! The list of access points, as the reader of a response collects it.

The protobuf library is a parameter, for the response and for its entries. Name and numbers of
an entry are written to the element of `ap_list` that `ap_list_index` points to; the name is
written while the entry is decoded.
-/

namespace GoproGateway

/-- Size of `resp_ap_entries_buf`. -/
def respApEntriesBufLen : Nat := 128

/-- Size of `struct ap_list_t`. -/
def apListTLen : Nat := 52

/-- Where the name starts in a `struct ap_list_t`, behind the three numbers. -/
def ssidOffset : Nat := 12

/-- `ap_list`. -/
structure ApList where
  elements : List ApListT
  elements_length : elements.length = maxApListCount
  deriving DecidableEq, Repr

/-- `ap_list` and `ap_list_index`. -/
structure ApScan where
  list : ApList
  index : Nat
  deriving DecidableEq, Repr

def ApListT.zero : ApListT := ⟨0, 0, 0, List.replicate maxSsidLen 0, by simp⟩

def ApScan.zero : ApScan := ⟨⟨List.replicate maxApListCount .zero, by simp⟩, 0⟩

/-- The bytes of a number in memory, the lowest one first. -/
def int32Bytes (value : Int32) : List UInt8 :=
  ([0, 8, 16, 24] : List UInt32).map fun shift => (value.toUInt32 >>> shift).toUInt8

def ApListT.bytes (element : ApListT) : List UInt8 :=
  int32Bytes element.signalFrequencyMhz ++ int32Bytes element.signalStrengthBars
    ++ int32Bytes element.flags ++ element.ssid

/-- Elements in a row; behind a name there are the elements that follow. -/
def apEntries : List ApListT → List ApEntry
  | [] => []
  | element :: rest => ⟨element, rest.flatMap ApListT.bytes⟩ :: apEntries rest

/-- What the reader of the list does. -/
inductive ApEvent where
  /-- Writes `count` bytes from `offset` of an element on. -/
  | store (element offset count : Nat)
  /-- The call of `gopro_connect_ap`. -/
  | goproConnectAp (entries : List ApEntry)
  deriving DecidableEq, Repr

abbrev ApTrace := Traced ApEvent

-----------------------------------------------------------------------------------------
-- Writes
-----------------------------------------------------------------------------------------

/-- Replaces an element; what is behind the array is not modelled. -/
def ApList.modify (list : ApList) (index : Nat) (change : ApListT → ApListT) : ApList where
  elements := list.elements.modify index change
  elements_length := by rw [List.length_modify, list.elements_length]

def ApListT.writeSsid (element : ApListT) (offset : Nat) (block : List UInt8) : ApListT :=
  { element with
    ssid := ByteBuffer.write element.ssid offset block
    ssid_length := by rw [ByteBuffer.write_length, element.ssid_length] }

def ApListT.clearLowByte (element : ApListT) : ApListT :=
  { element with signalFrequencyMhz := element.signalFrequencyMhz &&& ~~~0xFF }

/-- The copy of a name. -/
def storeSsid (list : ApList) (index : Nat) (bytes : List UInt8) : ApTrace ApList :=
  ⟨list.modify index (·.writeSsid 0 bytes), [.store index ssidOffset bytes.length]⟩

/-- `ssid[length] = '\0'`. Behind the name there is the lowest byte of the next frequency. -/
def terminateSsid (list : ApList) (index length : Nat) : ApTrace ApList :=
  ⟨if length < maxSsidLen then list.modify index (·.writeSsid length [0])
    else list.modify (index + 1) ApListT.clearLowByte,
    [.store index (ssidOffset + length) 1]⟩

/-- The `memset` of one element. -/
def clearElement (list : ApList) (index : Nat) : ApTrace ApList :=
  ⟨list.modify index fun _ => .zero, [.store index 0 apListTLen]⟩

-----------------------------------------------------------------------------------------
-- Entries
-----------------------------------------------------------------------------------------

/-- What the protobuf library does with one field of an entry. -/
inductive ScanEntryField where
  /-- Calls the callback of `ssid` on an occurrence of the field. -/
  | ssid (bytes : List UInt8)
  | signalStrengthBars (value : Int32)
  | signalFrequencyMhz (value : Int32)
  | scanEntryFlags (value : Int32)
  deriving DecidableEq, Repr

/-- The library as the reader uses it for an entry: the fields in order, and whether the entry
could be read to its end.
-/
abbrev ScanEntryNanopb := List UInt8 → List ScanEntryField × Bool

/-- The library for a response: the entries in order, and whether it could be read. -/
abbrev ApEntriesNanopb := List UInt8 → List (List UInt8) × Bool

/-- The numbers of an `open_gopro_ResponseGetApEntries_ScanEntry`. -/
structure ScanEntryResp where
  signalStrengthBars : Int32
  signalFrequencyMhz : Int32
  scanEntryFlags : Int32
  deriving DecidableEq, Repr

def ScanEntryResp.initZero : ScanEntryResp := ⟨0, 0, 0⟩

/-- `read_ssid_callback`; reading all that is left of a field in memory does not fail. -/
def readSsidCallback (index : Nat) (bytes : List UInt8) (list : ApList)
    : ApTrace (ApList × Bool) := do
  if bytes.length > maxSsidLen then
    return (list, false)
  else
    let list ← storeSsid list index bytes
    let list ← terminateSsid list index bytes.length
    return (list, true)

/-- `pb_decode` over the fields of an entry; a callback that fails ends it. -/
def decodeScanEntry (index : Nat) (list : ApList) (resp : ScanEntryResp)
    : List ScanEntryField → ApTrace (ApList × ScanEntryResp × Bool)
  | [] => return (list, resp, true)
  | .ssid bytes :: rest => do
      let (list, ok) ← readSsidCallback index bytes list
      if ok then decodeScanEntry index list resp rest else return (list, resp, false)
  | .signalStrengthBars value :: rest =>
      decodeScanEntry index list { resp with signalStrengthBars := value } rest
  | .signalFrequencyMhz value :: rest =>
      decodeScanEntry index list { resp with signalFrequencyMhz := value } rest
  | .scanEntryFlags value :: rest =>
      decodeScanEntry index list { resp with scanEntryFlags := value } rest

def ApListT.writeResp (element : ApListT) (resp : ScanEntryResp) : ApListT :=
  { element with
    signalFrequencyMhz := resp.signalFrequencyMhz
    signalStrengthBars := resp.signalStrengthBars
    flags := resp.scanEntryFlags }

/-- The numbers of an entry, stored to its element. -/
def storeResp (list : ApList) (index : Nat) (resp : ScanEntryResp) : ApTrace ApList :=
  ⟨list.modify index (·.writeResp resp),
    [.store index 0 4, .store index 4 4, .store index 8 4]⟩

/-- `read_ap_entries_callback`. -/
def readApEntriesCallback (nanopb : ScanEntryNanopb) (bytes : List UInt8) (scan : ApScan)
    : ApTrace (ApScan × Bool) := do
  if bytes.length > respApEntriesBufLen then
    return (scan, false)
  else
    let (fields, complete) := nanopb bytes
    let (list, resp, ok) ← decodeScanEntry scan.index scan.list .initZero fields
    if ok && complete then
      let list ← storeResp list scan.index resp
      let index := if scan.index < maxApListCount - 1 then scan.index + 1 else scan.index
      return (⟨list, index⟩, true)
    else
      return ({ scan with list }, true)

/-- `pb_decode` over the entries of a response; a callback that fails ends it. -/
def decodeApEntries (nanopb : ScanEntryNanopb) (scan : ApScan)
    : List (List UInt8) → ApTrace (ApScan × Bool)
  | [] => return (scan, true)
  | entry :: rest => do
      let (scan, ok) ← readApEntriesCallback nanopb entry scan
      if ok then decodeApEntries nanopb scan rest else return (scan, false)

/-- `gopro_parse_ap_entries`; `packetLen` counts the bytes behind feature and action. -/
def goproParseApEntries (response : ApEntriesNanopb) (nanopb : ScanEntryNanopb)
    (data : DataPtr) (packetLen : Nat) (scan : ApScan)
    : ApTrace ApScan := do
  let list ← clearElement scan.list 0
  let (entries, complete) := response (data.block 2 packetLen)
  let (scan, ok) ← decodeApEntries nanopb ⟨list, 0⟩ entries
  if ok && complete then
    Traced.log (.goproConnectAp ((apEntries scan.list.elements).take scan.index))
  return scan

end GoproGateway
