import GoproGateway.Link.Filters
import GoproGateway.Link.Scanning

/-! Which cameras the gateway connects to.

The handler of `scan_work` sets the filters anew from the stored bonds, and reports that match
them are searched for the camera's state. So the scan aims at one camera, or at any one, until
the handler runs again.
-/

namespace GoproGateway

-----------------------------------------------------------------------------------------
-- The handler of the scan
-----------------------------------------------------------------------------------------

/-- A stored bond, and whether its peer is connected. -/
structure Bond where
  peer : Peer
  connected : Bool
  deriving DecidableEq, Repr

/-- `try_add_address_filter`, with the mode of the filters. -/
def tryAddAddressFilter (filters : ScanFilters × UInt8) (bond : Bond) : ScanFilters × UInt8 :=
  if bond.connected then filters
  else
    let (added, err) := filters.1.addrFilterAdd bond.peer
    if err ≠ 0 then (added, filters.2) else (added, filters.2 ||| btScanAddrFilter)

/-- The end of `scan_work_handler`: the filters are turned on, and the scan starts. -/
def startScan (filters : ScanFilters) (mode : UInt8) (start : Int) : ScanFilters × ScanOutcome :=
  let (filters, err) := filters.enable mode false
  if err ≠ 0 then (filters, .setupFails)
  else if start ≠ 0 then (filters, .setupFails)
  else (filters, .starts)

/-- `scan_work_handler`; `stop` and `start` are what the stack returns. -/
def scanWorkHandler (filters : ScanFilters) (stop : Int) (bonds : List Bond) (start : Int)
    : ScanFilters × ScanOutcome :=
  if stop ≠ 0 ∧ stop ≠ -ealready then (filters, .stopFails)
  else
    let (filters, mode) := bonds.foldl tryAddAddressFilter (filters.removeAll, 0)
    if mode &&& btScanAddrFilter = 0 then
      let (filters, err) := filters.uuidFilterAdd btUuidGoproService
      if err ≠ 0 then (filters, .setupFails) else startScan filters btScanUuidFilter start
    else startScan filters mode start

-----------------------------------------------------------------------------------------
-- Runs
-----------------------------------------------------------------------------------------

structure ScannerState where
  filters : ScanFilters
  link : LinkState

def ScannerState.boot : ScannerState := ⟨.init, .boot⟩

inductive ScannerInput where
  | scanWorkHandler (stop : Int) (bonds : List Bond) (start : Int)
  /-- A report of any device, with what comes of a connection attempt at each element. -/
  | report (peer : Peer) (elements : List (BtData × ConnectOutcome))
  /-- Any other input of the connection. -/
  | link (input : LinkInput)

inductive ScannerEvent where
  /-- `scan_filter_match`. -/
  | filterMatch (peer : Peer)
  /-- `ble_connect`, which connects to the address that has just been stored. -/
  | connect (peer : Peer) (outcome : ConnectOutcome)
  deriving DecidableEq, Repr

/-- What `eir_found` looks at in an element. -/
def advElement (element : BtData × ConnectOutcome) : AdvElement :=
  if element.1.type = 9 then .other
  else if element.1.type = 255 ∧ element.1.data.bytes.length = 14 then
    .cameraState (element.1.data.byte 3) element.2
  else .other

/-- `scan_filter_match` and the search of its report. -/
def LinkState.filterMatch (s : LinkState) (peer : Peer)
    (elements : List (BtData × ConnectOutcome))
    : LinkState × List ScannerEvent :=
  (s.step (.advReport peer (elements.map advElement)),
    .filterMatch peer :: (s.connectAttempts (elements.map advElement)).map (.connect peer))

/-- Reports come while the scan is on, and the work item runs when it is scheduled. -/
def scannerMachine : InputMachine ScannerState ScannerInput ScannerEvent where
  step s
    | .scanWorkHandler stop bonds start =>
        if s.link.scanWork then
          let (filters, outcome) := scanWorkHandler s.filters stop bonds start
          (⟨filters, s.link.step (.scanWorkHandler outcome)⟩, [])
        else (s, [])
    | .report peer elements =>
        if s.link.scanning ∧ s.filters.scanRecv peer (elements.map Prod.fst) then
          let (link, events) := s.link.filterMatch peer elements
          ({ s with link }, events)
        else (s, [])
    | .link (.scanWorkHandler _) | .link (.advReport _ _) => (s, [])
    | .link input => ({ s with link := s.link.step input }, [])

-----------------------------------------------------------------------------------------
-- What the scan is for
-----------------------------------------------------------------------------------------

inductive ScanAim where
  | nobody
  | camera (peer : Peer)
  | anyCamera
  deriving DecidableEq, Repr

/-- The first bonded camera that is not connected; without one, any camera. -/
def ScanAim.of (bonds : List Bond) : ScanAim :=
  ((bonds.find? (!·.connected)).map fun bond => ScanAim.camera bond.peer).getD .anyCamera

/-- A camera lists the service of the cameras. -/
def ScanAim.Accepts (aim : ScanAim) (peer : Peer) (elements : List BtData) : Prop :=
  match aim with
  | .nobody => False
  | .camera target => peer = target
  | .anyCamera => ∃ element ∈ elements, ∃ uuid ∈ element.uuids, uuid.Same btUuidGoproService

instance ScanAim.decidableAccepts
    : (aim : ScanAim) → (peer : Peer) → (elements : List BtData)
      → Decidable (aim.Accepts peer elements)
  | .nobody, _, _ => inferInstanceAs (Decidable False)
  | .camera target, peer, _ => inferInstanceAs (Decidable (peer = target))
  | .anyCamera, _, elements =>
      inferInstanceAs (Decidable (∃ element ∈ elements, ∃ uuid ∈ element.uuids,
        uuid.Same btUuidGoproService))

/-- The connection with a scan that aims. -/
structure AimState where
  aim : ScanAim
  link : LinkState

def AimState.boot : AimState := ⟨.nobody, .boot⟩

/-- How the handler ends that sets the filters. -/
def startOutcome (stop start : Int) : ScanOutcome :=
  if stop ≠ 0 ∧ stop ≠ -ealready then .stopFails
  else if start ≠ 0 then .setupFails
  else .starts

/-- The scan as it is meant: only reports that the aim accepts are looked at, and the handler
aims anew once it has stopped the scan.
-/
def aimMachine : InputMachine AimState ScannerInput ScannerEvent where
  step s
    | .scanWorkHandler stop bonds start =>
        if s.link.scanWork then
          let outcome := startOutcome stop start
          (⟨if outcome = .stopFails then s.aim else .of bonds,
            s.link.step (.scanWorkHandler outcome)⟩, [])
        else (s, [])
    | .report peer elements =>
        if s.link.scanning ∧ s.aim.Accepts peer (elements.map Prod.fst) then
          let (link, events) := s.link.filterMatch peer elements
          ({ s with link }, events)
        else (s, [])
    | .link (.scanWorkHandler _) | .link (.advReport _ _) => (s, [])
    | .link input => ({ s with link := s.link.step input }, [])

-----------------------------------------------------------------------------------------
-- The filters of an aim
-----------------------------------------------------------------------------------------

/-- The filters are set for the aim. -/
structure ScanFilters.Sets (filters : ScanFilters) (aim : ScanAim) : Prop where
  normal : filters.allMode = false
  addr : filters.addrEnabled = true ↔ ∃ peer, aim = .camera peer
  target : ∀ peer, aim = .camera peer → filters.targetAddr = [peer]
  uuid : filters.uuidEnabled = true ↔ aim = .anyCamera
  service : aim = .anyCamera → filters.uuid = [btUuidGoproService]

theorem ScanFilters.init_sets : init.Sets .nobody where
  normal := rfl
  addr := iff_of_false (by simp [init]) (by simp)
  target := by simp
  uuid := iff_of_false (by simp [init]) (by simp)
  service := by simp

/-- A search in whole lists of UUIDs finds what they list. -/
theorem BtData.Whole.fits_iff {element : BtData} (whole : element.Whole) {filters : ScanFilters}
    {uuid : BtUuid} (single : filters.uuid = [uuid])
    : filters.Fits element ↔ ∃ listed ∈ element.uuids, listed.Same uuid := by
  rw [ScanFilters.Fits, BtData.uuids, single]
  cases lists : element.uuidType with
  | none => simp
  | some type =>
      have found := findUuid_iff (whole type lists) uuid
      simp [found]

/-- Filters that are set for an aim match what it accepts. -/
theorem ScanFilters.Sets.matches_iff {filters : ScanFilters} {aim : ScanAim}
    (sets : filters.Sets aim) {peer : Peer} {elements : List BtData}
    (whole : ∀ element ∈ elements, element.Whole)
    : filters.scanRecv peer elements = true ↔ aim.Accepts peer elements := by
  rw [scanRecv_iff sets.normal, sets.addr, sets.uuid]
  cases aim with
  | nobody => simp [ScanAim.Accepts]
  | camera target => simp [ScanAim.Accepts, sets.target target rfl]
  | anyCamera =>
      have single := sets.service rfl
      simp only [reduceCtorEq, exists_false, false_and, false_or, true_and, ScanAim.Accepts]
      refine exists_congr fun element => and_congr_right fun listed => ?_
      exact (whole element listed).fits_iff single

/-- With an address set, no bond changes the filters. -/
theorem tryAddAddressFilter_full {filters : ScanFilters} {peer : Peer}
    (full : filters.targetAddr = [peer]) (mode : UInt8) (bond : Bond)
    : tryAddAddressFilter (filters, mode) bond = (filters, mode) := by
  have noRoom : filters.addrFilterAdd bond.peer = (filters, -enomem) := by
    rw [ScanFilters.addrFilterAdd, dif_neg (by simp [full, scanAddressCnt])]
  have refused : (-enomem : Int) ≠ 0 := by decide
  rw [tryAddAddressFilter, noRoom]
  split
  · rfl
  · exact if_pos refused

/-- The first bond that is not connected sets the address. -/
theorem foldl_tryAddAddressFilter {filters : ScanFilters} (empty : filters.targetAddr = [])
    (bonds : List Bond)
    : (bonds.foldl tryAddAddressFilter (filters, 0)).1.uuid = filters.uuid
      ∧ match bonds.find? (!·.connected) with
        | some bond =>
            (bonds.foldl tryAddAddressFilter (filters, 0)).1.targetAddr = [bond.peer]
            ∧ (bonds.foldl tryAddAddressFilter (filters, 0)).2 = btScanAddrFilter
        | none => bonds.foldl tryAddAddressFilter (filters, 0) = (filters, 0) := by
  induction bonds with
  | nil => exact ⟨rfl, rfl⟩
  | cons bond bonds ih =>
      rw [List.foldl_cons, List.find?_cons]
      cases connected : bond.connected with
      | true =>
          have skips : tryAddAddressFilter (filters, 0) bond = (filters, 0) := by
            rw [tryAddAddressFilter, if_pos connected]
          rw [skips]
          exact ih
      | false =>
          have room : filters.targetAddr.length < scanAddressCnt := by
            rw [empty]
            exact Nat.one_pos
          obtain ⟨added, adds, target, uuid⟩ : ∃ added,
              tryAddAddressFilter (filters, 0) bond = (added, btScanAddrFilter)
              ∧ added.targetAddr = [bond.peer] ∧ added.uuid = filters.uuid := by
            rw [tryAddAddressFilter, connected, ScanFilters.addrFilterAdd, dif_pos room]
            simp only [empty]
            exact ⟨_, rfl, rfl, rfl⟩
          have stays : bonds.foldl tryAddAddressFilter (added, btScanAddrFilter)
              = (added, btScanAddrFilter) :=
            List.foldl_fixed' (tryAddAddressFilter_full target btScanAddrFilter) bonds
          rw [adds, stays]
          exact ⟨uuid, target, rfl⟩

/-- Turning on the filters of one kind. -/
theorem startScan_address (filters : ScanFilters) (start : Int)
    : startScan filters btScanAddrFilter start
      = ({ filters with addrEnabled := true, uuidEnabled := false, allMode := false },
          if start ≠ 0 then .setupFails else .starts) := by
  have mode : ¬ btScanAddrFilter &&& scanModeCheck = 0 := by decide
  have addr : decide (btScanAddrFilter &&& btScanAddrFilter ≠ 0) = true := rfl
  have uuid : decide (btScanAddrFilter &&& btScanUuidFilter ≠ 0) = false := rfl
  simp only [startScan, ScanFilters.enable, if_neg mode, addr, uuid]
  by_cases started : start = 0 <;> simp [started]

theorem startScan_uuid (filters : ScanFilters) (start : Int)
    : startScan filters btScanUuidFilter start
      = ({ filters with addrEnabled := false, uuidEnabled := true, allMode := false },
          if start ≠ 0 then .setupFails else .starts) := by
  have mode : ¬ btScanUuidFilter &&& scanModeCheck = 0 := by decide
  have addr : decide (btScanUuidFilter &&& btScanAddrFilter ≠ 0) = false := rfl
  have uuid : decide (btScanUuidFilter &&& btScanUuidFilter ≠ 0) = true := rfl
  simp only [startScan, ScanFilters.enable, if_neg mode, addr, uuid]
  by_cases started : start = 0 <;> simp [started]

/-- The handler aims anew, unless it cannot stop the scan. -/
theorem scanWorkHandler_sets (filters : ScanFilters) (stop : Int) (bonds : List Bond)
    (start : Int)
    : (scanWorkHandler filters stop bonds start).2 = startOutcome stop start
      ∧ (startOutcome stop start = .stopFails
        → (scanWorkHandler filters stop bonds start).1 = filters)
      ∧ (startOutcome stop start ≠ .stopFails
        → (scanWorkHandler filters stop bonds start).1.Sets (.of bonds)) := by
  rw [scanWorkHandler, startOutcome]
  split
  case isTrue fails => exact ⟨rfl, fun _ => rfl, fun other => absurd rfl other⟩
  case isFalse =>
      have goes : ¬ (if start ≠ 0 then ScanOutcome.setupFails else .starts) = .stopFails := by
        split <;> simp
      obtain ⟨uuid, set⟩ :=
        foldl_tryAddAddressFilter (show filters.removeAll.targetAddr = [] from rfl) bonds
      rw [ScanAim.of]
      cases found : bonds.find? (!·.connected) with
      | some bond =>
          rw [found] at set
          obtain ⟨target, mode⟩ := set
          have isSet : ¬ btScanAddrFilter &&& btScanAddrFilter = 0 := by decide
          simp only [mode, if_neg isSet, startScan_address]
          refine ⟨trivial, fun fails => absurd fails goes, fun _ => ?_⟩
          exact ⟨rfl, by simp, by simp [target], by simp, by simp⟩
      | none =>
          rw [found] at set
          have added : filters.removeAll.uuidFilterAdd btUuidGoproService
              = ({ filters.removeAll with
                  uuid := [btUuidGoproService], uuid_le := Nat.le_refl 1 }, 0) := rfl
          have unset : (0 : UInt8) &&& btScanAddrFilter = 0 := by decide
          simp only [set, if_pos unset, added, startScan_uuid]
          refine ⟨rfl, fun fails => absurd fails goes, fun _ => ?_⟩
          exact ⟨rfl, by simp, by simp, by simp, by simp⟩

-----------------------------------------------------------------------------------------
-- Every run
-----------------------------------------------------------------------------------------

/-- Reports whose lists of UUIDs are whole. -/
def ScannerInput.Whole : ScannerInput → Prop
  | .report _ elements => ∀ element ∈ elements, element.1.Whole
  | _ => True

/-- The filters are set for the aim, and the connection is the same. -/
structure ScannerState.Follows (s : ScannerState) (abstract : AimState) : Prop where
  sets : s.filters.Sets abstract.aim
  link : s.link = abstract.link

theorem ScannerState.Follows.step {s : ScannerState} {abstract : AimState}
    (follows : s.Follows abstract) {input : ScannerInput} (whole : input.Whole)
    : (scannerMachine.step s input).1.Follows (aimMachine.step abstract input).1
      ∧ (scannerMachine.step s input).2.filterMap some = (aimMachine.step abstract input).2 := by
  obtain ⟨filters, link⟩ := s
  obtain ⟨sets, rfl⟩ := follows
  rw [List.filterMap_some]
  cases input with
  | scanWorkHandler stop bonds start =>
      obtain ⟨outcome, kept, aims⟩ := scanWorkHandler_sets filters stop bonds start
      simp only [scannerMachine, aimMachine]
      split
      case isFalse => exact ⟨⟨sets, rfl⟩, rfl⟩
      case isTrue =>
          refine ⟨⟨?_, by rw [outcome]⟩, rfl⟩
          by_cases fails : startOutcome stop start = .stopFails
          · simp only [if_pos fails, kept fails]
            exact sets
          · simp only [if_neg fails]
            exact aims fails
  | report peer elements =>
      have accepts : filters.scanRecv peer (elements.map Prod.fst) = true
          ↔ abstract.aim.Accepts peer (elements.map Prod.fst) :=
        sets.matches_iff (List.forall_mem_map.mpr whole)
      simp only [scannerMachine, aimMachine, accepts]
      split
      · exact ⟨⟨sets, rfl⟩, rfl⟩
      · exact ⟨⟨sets, rfl⟩, rfl⟩
  | link input => cases input <;> exact ⟨⟨sets, rfl⟩, rfl⟩

/-- In every run the gateway looks at exactly the reports that its scan is for, and connects to
no other camera: to the first bonded camera that was not connected when the handler last stopped
the scan, or, when there was none, to any camera that lists the service. Witness: the filters
are set for the aim whenever the scan can be on.
-/
theorem scannerMachine_aims (inputs : List ScannerInput)
    (whole : ∀ input ∈ inputs, input.Whole)
    : (scannerMachine.run .boot inputs).1.link = (aimMachine.run .boot inputs).1.link
      ∧ (scannerMachine.run .boot inputs).2 = (aimMachine.run .boot inputs).2 := by
  have initial : ScannerState.boot.Follows .boot := ⟨ScanFilters.init_sets, rfl⟩
  have steps (s : ScannerState) (abstract : AimState) (input : ScannerInput)
      (follows : s.Follows abstract) (whole : input.Whole)
      : (scannerMachine.step s input).1.Follows (aimMachine.step abstract (id input)).1
        ∧ (scannerMachine.step s input).2.filterMap some
          = (aimMachine.step abstract (id input)).2 :=
    follows.step whole
  obtain ⟨final, events⟩ := InputMachine.run_simulates steps initial whole
  rw [List.map_id] at final events
  rw [List.filterMap_some] at events
  exact ⟨final.link, events⟩

/-- The service of the cameras, and a camera that is on. -/
def cameraReport : List (BtData × ConnectOutcome) :=
  [
    (⟨0x03, ⟨[0xA6, 0xFE], fun _ => 0⟩⟩, .creates 7),
    (⟨0xFF, ⟨[0xF2, 0x02, 0x02, 1, 0, 0, 0, 0, 0, 0, 0, 0, 0, 0], fun _ => 0⟩⟩, .creates 7)
  ]

theorem cameraReport_whole : ∀ element ∈ cameraReport, element.1.Whole := by
  intro element member
  rcases List.mem_pair.mp member with rfl | rfl
  · intro type lists
    obtain rfl : BtUuidType.type16 = type := Option.some.inj lists
    exact Nat.dvd_refl 2
  · intro type lists
    cases lists

/-- With two bonded cameras, only the first one's report is looked at. -/
theorem scannerMachine_aims_first
    : let inputs : List ScannerInput :=
        [.scanWorkHandler 0 [⟨1, false⟩, ⟨2, false⟩] 0, .report 2 cameraReport,
          .report 1 cameraReport]
      (scannerMachine.run .boot inputs).1.link = (aimMachine.run .boot inputs).1.link
        ∧ (scannerMachine.run .boot inputs).2 = [.filterMatch 1, .connect 1 (.creates 7)] := by
  intro inputs
  have whole : ∀ input ∈ inputs, input.Whole := by
    simp only [inputs, List.forall_mem_cons]
    exact ⟨trivial, cameraReport_whole, cameraReport_whole, by simp⟩
  obtain ⟨link, events⟩ := scannerMachine_aims inputs whole
  refine ⟨link, events.trans ?_⟩
  decide

end GoproGateway
