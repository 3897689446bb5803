import GoproGateway.Wifi.ApCollect
import GoproGateway.Wifi.Credentials
import GoproGateway.Wifi.Requests

/-! The provisioning of the home network, from the packets of the camera to the requests.

Credentials come over the CAN bus, and everything else is an answer to a packet of the network
handle: a finished scan is answered with a request for its list of access points, and that list
with a request to connect. Calls are taken whole, one at a time.
-/

namespace GoproGateway

open Reassembly WireFormat

-----------------------------------------------------------------------------------------
-- Packets of the network handle
-----------------------------------------------------------------------------------------

/-- The protobuf library as the provisioning uses it. -/
structure ProvisioningLibrary where
  encoder : PbEncoder
  scan : ScanNanopb
  apEntries : ApEntriesNanopb
  scanEntry : ScanEntryNanopb
  cred : CredNanopb

/-- A packet as `gopro_packet_parse_net` gets it. -/
structure NetPacket where
  feature : UInt8
  action : UInt8
  data : DataPtr
  packetLen : Nat

/-- Readers of replies and notifications that log them only. -/
inductive NetReader where
  | responseStartScanning
  | responseConnect
  | responseConnectNew
  | notifProvisioningState
  | responseGeneric
  deriving DecidableEq, Repr

inductive ProvisioningEvent where
  /-- What the reader of the list of access points does. -/
  | ap (event : ApEvent)
  /-- Hands the packet to a reader. -/
  | read (reader : NetReader)
  /-- A publication for the camera is attempted. -/
  | attempted (cmd : GoproCmd)

/-- The readers of the packets that change nothing. -/
def netReader (feature action : UInt8) : Option NetReader :=
  if feature = 0x02 then
    if action = 0x82 then some .responseStartScanning
    else if action = 0x84 then some .responseConnect
    else if action = 0x85 then some .responseConnectNew
    else if action = 0x0C then some .notifProvisioningState
    else none
  else if feature = 0xF1 then
    if action = 0xE6 ∨ action = 0xE7 then some .responseGeneric else none
  else if feature = 0x03 then
    if action = 0x81 then some .responseGeneric else none
  else none

/-- What a call of `gopro_connect_ap` publishes. -/
def apCmds (encoder : PbEncoder) (memory : SendMemory) (strings : StateStrings)
    : ApEvent → List GoproCmd
  | .store _ _ _ => []
  | .goproConnectAp entries =>
      (goproConnectAp (fun request => memory.encoded encoder (.connect request)) strings
        entries).flatMap (BigData.send memory)

/-- `gopro_packet_parse_net`. -/
def goproPacketParseNet (library : ProvisioningLibrary) (memory : SendMemory)
    (strings : StateStrings) (packet : NetPacket) (scan : ApScan)
    : ApScan × List ProvisioningEvent :=
  if packet.feature = 0x02 ∧ packet.action = 0x0B then
    (scan, (goproParseStartScaning library.scan library.encoder memory.stack
      (packet.data.block 2 packet.packetLen)).map .attempted)
  else if packet.feature = 0x02 ∧ packet.action = 0x83 then
    let traced :=
      goproParseApEntries library.apEntries library.scanEntry packet.data packet.packetLen scan
    (traced.value, traced.events.flatMap fun event =>
      .ap event :: (apCmds library.encoder memory strings event).map .attempted)
  else
    (scan, (netReader packet.feature packet.action).toList.map .read)

-----------------------------------------------------------------------------------------
-- Runs
-----------------------------------------------------------------------------------------

structure Provisioning where
  credentials : Credentials
  scan : ApScan

def Provisioning.boot : Provisioning := ⟨.zero, .zero⟩

inductive ProvisioningInput where
  /-- `gopro_decode_wifi_cred`, on a message from the CAN bus. -/
  | credentials (data : List UInt8)
  | packet (packet : NetPacket)
  | finishPairing

/-- The provisioning over whole input sequences; an input comes with what lies in memory. -/
def provisioningMachine (library : ProvisioningLibrary)
    : InputMachine Provisioning (ProvisioningInput × SendMemory) ProvisioningEvent where
  step s := fun
    | (.credentials data, _) =>
        ({ s with credentials := ((credentials library.cred).step s.credentials data).1 }, [])
    | (.packet packet, memory) =>
        let (scan, events) :=
          goproPacketParseNet library memory s.credentials.strings packet s.scan
        ({ s with scan }, events)
    | (.finishPairing, memory) =>
        (s, (goproFinishPairing library.encoder memory).map .attempted)

def ProvisioningEvent.attempted? : ProvisioningEvent → Option GoproCmd
  | .attempted cmd => some cmd
  | _ => none

/-- The commands that are attempted for the camera, in order. -/
def provisioningCmds (events : List ProvisioningEvent) : List GoproCmd :=
  events.filterMap ProvisioningEvent.attempted?

@[simp] theorem provisioningCmds_append (before after : List ProvisioningEvent)
    : provisioningCmds (before ++ after) = provisioningCmds before ++ provisioningCmds after :=
  List.filterMap_append

@[simp] theorem provisioningCmds_attempted (cmds : List GoproCmd)
    : provisioningCmds (cmds.map .attempted) = cmds := by
  simp [provisioningCmds, ProvisioningEvent.attempted?, List.filterMap_map, Function.comp_def]

-----------------------------------------------------------------------------------------
-- What is asked for
-----------------------------------------------------------------------------------------

/-- The network that the camera is to join. -/
structure HomeNetwork where
  ssid : List UInt8
  password : List UInt8
  deriving DecidableEq, Repr

namespace HomeNetwork

variable (network : HomeNetwork)

/-- The request to connect. -/
def connects : Connects → List CameraRequest
  | .nothing => []
  | .saved => [.connect (.connect network.ssid)]
  | .new => [.connect (.connectNew network.ssid network.password)]

/-- What a list of access points is answered with: the first one that shares a prefix with the
network's name decides, and for a network without a name none does.
-/
def answers (entries : List ApEntry) : List CameraRequest :=
  if network.ssid = [] then []
  else network.connects (connectsFirst (·.SharesPrefix network.ssid) entries)

/-- What an input is answered with. The request for the list has the low bytes of the scan's
number and of the count of access points.
-/
def requests (library : ProvisioningLibrary) (scan : ApScan)
    : ProvisioningInput → List CameraRequest
  | .credentials _ => []
  | .packet packet =>
      if packet.feature = 0x02 ∧ packet.action = 0x0B then
        let notif := scanResp library.scan (packet.data.block 2 packet.packetLen)
        if notif.scanningState = scanningSuccess then
          [.getApEntries ⟨0, notif.totalEntries % 256, notif.scanId % 256⟩]
        else []
      else if packet.feature = 0x02 ∧ packet.action = 0x83 then
        (connected (goproParseApEntries library.apEntries library.scanEntry packet.data
          packet.packetLen scan).events).flatMap network.answers
      else []
  | .finishPairing => [goproPrepareFinishPairing]

end HomeNetwork

/-- The network in the arrays of `gopro_state`. -/
def StateStrings.network (strings : StateStrings) : HomeNetwork :=
  ⟨strings.text .cohnWifiSsid, strings.text .cohnWifiPass⟩

/-- The requests over whole input sequences, for the network that is stored at the time. -/
def requestMachine (library : ProvisioningLibrary)
    : InputMachine Provisioning (ProvisioningInput × SendMemory) CameraRequest where
  step s input :=
    (((provisioningMachine library).step s input).1,
      s.credentials.strings.network.requests library s.scan input.1)

-----------------------------------------------------------------------------------------
-- One input
-----------------------------------------------------------------------------------------

theorem StateStrings.text_length (strings : StateStrings) (field : StringField)
    : (strings.text field).length ≤ stringsLen := by
  have within : (strings.text field).length ≤ (strings.bytes.drop field.offset).length :=
    (List.takeWhile_sublist _).length_le
  have bytes := strings.bytes_length
  rw [List.length_drop] at within
  omega

/-- The requests for a network with names of at most 180 bytes have small fields. -/
theorem HomeNetwork.connects_small {network : HomeNetwork}
    (ssid : network.ssid.length ≤ stringsLen) (password : network.password.length ≤ stringsLen)
    (connects : Connects)
    : ∀ request ∈ network.connects connects, request.Small := by
  cases connects <;>
    simp [HomeNetwork.connects, CameraRequest.Small, CameraRequest.fields, PbField.Small, ssid,
      password]

theorem goproPrepareFinishPairing_small : goproPrepareFinishPairing.Small := by
  simp [CameraRequest.Small, goproPrepareFinishPairing, CameraRequest.fields, PbField.Small,
    pairingFinishSuccess, pairingStr, stringsLen, IsInt32]

/-- A network without a name is not looked for. -/
theorem goproConnectAp_unnamed (encode : ConnectRequest → List UInt8) {strings : StateStrings}
    (unnamed : strings.text .cohnWifiSsid = []) (entries : List ApEntry)
    : goproConnectAp encode strings entries = [] := by
  induction entries with
  | nil => rfl
  | cons entry rest ih =>
      have empty : (CString.text (strings.bytes.drop StringField.cohnWifiSsid.offset)).length = 0 :=
        List.length_eq_zero_iff.mpr unnamed
      simp only [goproConnectAp, empty, ih]
      simp

section Published

variable {encoder : PbEncoder} (follows : encoder.FollowsWireFormat) (memory : SendMemory)
  (strings : StateStrings)

include follows

/-- What is sent for an entry is the request with the stored names. -/
theorem connects_published (connects : Connects)
    : Requests ((connects.sends (fun request => memory.encoded encoder (.connect request))
          strings).flatMap (BigData.send memory))
        (strings.network.connects connects) := by
  have small : ∀ request ∈ strings.network.connects connects, request.Small :=
    HomeNetwork.connects_small (strings.text_length .cohnWifiSsid)
      (strings.text_length .cohnWifiPass) connects
  have sent (request : CameraRequest) (small : request.Small)
      : AreFramesOf (goproSendBigData memory.stack (memory.encoded encoder request)
          (memory.encoded encoder request).length (UInt8.ofNat gpCntrlHandleNet)
          request.feature request.action) request.message := by
    rw [small.encoded_eq follows memory]
    exact goproSendBigData_framed memory.stack small.records_length
      (UInt8.ofNat gpCntrlHandleNet) request.feature request.action
  cases connects with
  | nothing => exact .nil
  | saved | new =>
      have own := small _ (List.mem_singleton_self _)
      have framed := sent _ own
      simp only [Connects.sends, List.flatMap_singleton]
      exact .single framed own

/-- A list of access points is answered as the network asks for. -/
theorem goproConnectAp_published (entries : List ApEntry)
    : Requests (apCmds encoder memory strings (.goproConnectAp entries))
        (strings.network.answers entries) := by
  rw [apCmds, HomeNetwork.answers]
  split
  case isTrue unnamed =>
      rw [goproConnectAp_unnamed _ unnamed]
      exact .nil
  case isFalse named =>
      rw [goproConnectAp_eq named]
      exact connects_published follows memory strings _

theorem apEvents_published (events : List ApEvent)
    : Requests (provisioningCmds (events.flatMap fun event =>
          .ap event :: (apCmds encoder memory strings event).map .attempted))
        ((connected events).flatMap strings.network.answers) := by
  induction events with
  | nil => exact .nil
  | cons event events ih =>
      have own : provisioningCmds
          (.ap event :: (apCmds encoder memory strings event).map .attempted)
          = apCmds encoder memory strings event :=
        provisioningCmds_attempted _
      rw [List.flatMap_cons, provisioningCmds_append, own]
      cases event with
      | store element offset count => exact ih
      | goproConnectAp entries =>
          exact (goproConnectAp_published follows memory strings entries).append ih

/-- A finished scan is answered with a request for its list. -/
theorem goproParseStartScaning_published (nanopb : ScanNanopb) (data : List UInt8)
    : Requests (goproParseStartScaning nanopb encoder memory.stack data)
        (if (scanResp nanopb data).scanningState = scanningSuccess then
          [.getApEntries ⟨0, (scanResp nanopb data).totalEntries % 256,
            (scanResp nanopb data).scanId % 256⟩]
        else []) := by
  rw [goproParseStartScaning]
  split
  case isFalse => exact .nil
  case isTrue =>
      obtain ⟨cmd, requested, framed⟩ := goproPbReqAp_framed follows memory.stack
        (UInt8.ofInt (scanResp nanopb data).scanId) 0
        (UInt8.ofInt (scanResp nanopb data).totalEntries)
      rw [ofInt_toNat, ofInt_toNat] at framed
      rw [requested]
      refine .single framed ?_
      have count := isInt32_byte (UInt8.ofInt (scanResp nanopb data).totalEntries)
      have scanId := isInt32_byte (UInt8.ofInt (scanResp nanopb data).scanId)
      rw [ofInt_toNat] at count scanId
      have zero : IsInt32 0 := isInt32_byte 0
      simp [CameraRequest.Small, CameraRequest.fields, PbField.Small, zero, count, scanId]

theorem goproFinishPairing_published
    : Requests (goproFinishPairing encoder memory) [goproPrepareFinishPairing] := by
  have small := goproPrepareFinishPairing_small
  have framed := goproSendBigData_framed memory.stack small.records_length
    (UInt8.ofNat gpCntrlHandleNet) 0x03 0x01
  rw [goproFinishPairing, small.encoded_eq follows memory]
  exact .single framed small

end Published

/-- What an input publishes are the requests for the stored network. -/
theorem provisioningMachine_published {library : ProvisioningLibrary}
    (follows : library.encoder.FollowsWireFormat) (s : Provisioning)
    (input : ProvisioningInput × SendMemory)
    : Requests (provisioningCmds ((provisioningMachine library).step s input).2)
        (s.credentials.strings.network.requests library s.scan input.1) := by
  obtain ⟨input, memory⟩ := input
  cases input with
  | credentials data => exact .nil
  | finishPairing =>
      simp only [provisioningMachine, provisioningCmds_attempted]
      exact goproFinishPairing_published follows memory
  | packet packet =>
      simp only [provisioningMachine, goproPacketParseNet, HomeNetwork.requests]
      split
      case isTrue =>
          rw [provisioningCmds_attempted]
          exact goproParseStartScaning_published follows memory library.scan _
      case isFalse =>
          split
          case isTrue => exact apEvents_published follows memory s.credentials.strings _
          case isFalse =>
              have silent (reader : Option NetReader)
                  : provisioningCmds (reader.toList.map .read) = [] := by
                cases reader <;> rfl
              rw [silent]
              exact .nil

theorem provisioningMachine_run_published {library : ProvisioningLibrary}
    (follows : library.encoder.FollowsWireFormat) (s : Provisioning)
    (inputs : List (ProvisioningInput × SendMemory))
    : Requests (provisioningCmds ((provisioningMachine library).run s inputs).2)
        ((requestMachine library).run s inputs).2 := by
  induction inputs generalizing s with
  | nil => exact .nil
  | cons input inputs ih =>
      rw [InputMachine.run_cons, InputMachine.run_cons, provisioningCmds_append]
      exact (provisioningMachine_published follows s input).append (ih _)

/-- In every run, a camera that reassembles what is published reads the requests of the run, in
order and once: for every finished scan a request for its list, for every list a request to
connect to the stored network, if one of its access points is taken for it, and one for the end
of the pairing. Witness: frames of requests in a row are parsed to the requests.
-/
theorem provisioningMachine_requests (library : ProvisioningLibrary)
    (follows : library.encoder.FollowsWireFormat) (s : Provisioning)
    (inputs : List (ProvisioningInput × SendMemory)) (packet : GoproPacket)
    (calls : List BuildCall)
    (published : calls.map BuildCall.cmd
      = provisioningCmds ((provisioningMachine library).run s inputs).2)
    (allocate : ∀ call ∈ calls, call.kMalloc ≠ none)
    : (parsedPackets (packetBuilder.run packet calls).2).map (readCameraRequest ·.message)
      = ((requestMachine library).run s inputs).2.map some :=
  (provisioningMachine_run_published follows s inputs).read_back packet published allocate

/-- A library that follows the wire format. -/
def referenceProvisioning : ProvisioningLibrary :=
  ⟨referencePbEncoder, referenceScanNanopb, referenceApEntriesNanopb, referenceScanEntryNanopb,
    referenceCredNanopb⟩

/-- Credentials for "lab", scan 7 with one access point, the list with "lab", and the end of the
pairing.
-/
def joinLab : List (ProvisioningInput × SendMemory) :=
  [
    (.credentials [0x0A, 3, 0x6C, 0x61, 0x62, 0x12, 1, 0x70], .zero),
    (.packet ⟨0x02, 0x0B, ⟨[0x02, 0x0B, 0x08, 5, 0x10, 7, 0x18, 1, 0x20, 0], fun _ => 0⟩, 8⟩,
      .zero),
    (.packet ⟨0x02, 0x83, ⟨[0x02, 0x83, 0x08, 1, 0x10, 1, 0x1A, 12, 0x0A, 3, 0x6C, 0x61, 0x62,
      0x10, 3, 0x20, 0xEC, 0x12, 0x28, 0], fun _ => 0⟩, 18⟩, .zero),
    (.finishPairing, .zero)
  ]

/-- Without credentials no network is joined. -/
theorem provisioningMachine_requests_unnamed
    : (parsedPackets (packetBuilder.run GoproPacket.zero
        ((provisioningCmds ((provisioningMachine referenceProvisioning).run .boot
          joinLab.tail).2).map (⟨·, some 0⟩))).2).map (readCameraRequest ·.message)
      = [some (.getApEntries ⟨0, 1, 7⟩), some goproPrepareFinishPairing] := by
  have asked : ((requestMachine referenceProvisioning).run .boot joinLab.tail).2
      = [.getApEntries ⟨0, 1, 7⟩, goproPrepareFinishPairing] := by
    decide +kernel
  refine (provisioningMachine_requests referenceProvisioning referencePbEncoder_follows .boot
    joinLab.tail GoproPacket.zero _ (by simp [Function.comp_def]) (by simp)).trans ?_
  rw [asked]
  rfl

-----------------------------------------------------------------------------------------
-- The network that was given last
-----------------------------------------------------------------------------------------

instance (nanopb : CredNanopb) (data : List UInt8) : Decidable (Decodes nanopb data) :=
  decidable_of_iff
    ((nanopb data).2 = true
      ∧ ByteBuffer.Descending goproNameLen (occurrencesOf .wifiSsid (nanopb data).1)
      ∧ ByteBuffer.Descending goproNameLen (occurrencesOf .wifiPass (nanopb data).1))
    (and_congr_right fun _ =>
      ⟨fun both string => by cases string <;> simp [both], fun every => ⟨every _, every _⟩⟩)

/-- The network whose credentials came last, and the list of access points. -/
structure HomeState where
  network : HomeNetwork
  scan : ApScan

/-- No network yet. -/
def HomeState.boot : HomeState := ⟨⟨[], []⟩, .zero⟩

/-- The provisioning as it is meant: credentials that can be read replace the ones before, and
the network is answered for.
-/
def homeMachine (library : ProvisioningLibrary)
    : InputMachine HomeState ProvisioningInput CameraRequest where
  step s
    | .credentials data =>
        let value (string : CohnString) : List UInt8 :=
          (occurrencesOf string (library.cred data).1).getLastD []
        (if Decodes library.cred data then
          { s with network := ⟨value .wifiSsid, value .wifiPass⟩ }
        else s, [])
    | .packet packet =>
        ({ s with scan :=
            if packet.feature = 0x02 ∧ packet.action = 0x83 then
              (goproParseApEntries library.apEntries library.scanEntry packet.data
                packet.packetLen s.scan).value
            else s.scan },
          s.network.requests library s.scan (.packet packet))
    | .finishPairing => (s, s.network.requests library s.scan .finishPairing)

/-- Credentials of at most 19 bytes that leave no trace of others. -/
def ReplacesCredentials (library : ProvisioningLibrary) (s : Provisioning)
    : ProvisioningInput × SendMemory → Prop
  | (.credentials data, _) =>
      ShortValues library.cred data ∧ LeavesNoTrace library.cred s.credentials data
  | _ => True

/-- The arrays hold the network that came last. -/
structure Provisioning.Shows (s : Provisioning) (home : HomeState) : Prop where
  settled : s.credentials.Settled
  ssid : s.credentials.last .wifiSsid = home.network.ssid
  password : s.credentials.last .wifiPass = home.network.password
  scan : s.scan = home.scan

theorem Provisioning.boot_shows : boot.Shows .boot :=
  ⟨Credentials.zero_settled, rfl, rfl, rfl⟩

theorem Provisioning.Shows.network {s : Provisioning} {home : HomeState} (shows : s.Shows home)
    : s.credentials.strings.network = home.network := by
  have ssid : s.credentials.strings.text .cohnWifiSsid = home.network.ssid :=
    (shows.settled .wifiSsid).text.trans shows.ssid
  have password : s.credentials.strings.text .cohnWifiPass = home.network.password :=
    (shows.settled .wifiPass).text.trans shows.password
  rw [StateStrings.network, ssid, password]

theorem Provisioning.Shows.credentials {library : ProvisioningLibrary} {s : Provisioning}
    {home : HomeState} (shows : s.Shows home) {data : List UInt8}
    (short : ShortValues library.cred data)
    (leaves : LeavesNoTrace library.cred s.credentials data) (memory : SendMemory)
    : ((provisioningMachine library).step s (.credentials data, memory)).1.Shows
        ((homeMachine library).step home (.credentials data)).1 := by
  have last := credentials_last library.cred s.credentials data
  have settled : ((GoproGateway.credentials library.cred).step s.credentials data).1.Settled := by
    intro string
    have holds := credentials_holds library.cred shows.settled short string
    rw [(overlay_eq_last_iff library.cred s.credentials data).mpr leaves string] at holds
    exact holds
  by_cases decodes : Decodes library.cred data
  · simp only [homeMachine, if_pos decodes]
    exact ⟨settled, (last .wifiSsid).1 decodes, (last .wifiPass).1 decodes, shows.scan⟩
  · simp only [homeMachine, if_neg decodes]
    exact ⟨settled, ((last .wifiSsid).2 decodes).trans shows.ssid,
      ((last .wifiPass).2 decodes).trans shows.password, shows.scan⟩

theorem Provisioning.Shows.packet {library : ProvisioningLibrary} {s : Provisioning}
    {home : HomeState} (shows : s.Shows home) (packet : NetPacket) (memory : SendMemory)
    : ((provisioningMachine library).step s (.packet packet, memory)).1.Shows
        ((homeMachine library).step home (.packet packet)).1 := by
  refine ⟨shows.settled, shows.ssid, shows.password, ?_⟩
  simp only [provisioningMachine, goproPacketParseNet, homeMachine]
  by_cases notif : packet.feature = 0x02 ∧ packet.action = 0x0B
  · have other : ¬ (packet.feature = 0x02 ∧ packet.action = 0x83) := by
      simp [notif.2]
    rw [if_pos notif, if_neg other]
    exact shows.scan
  · rw [if_neg notif]
    split
    · rw [← shows.scan]
    · exact shows.scan

/-- The requests of a step are those for the network that came last. -/
theorem requestMachine_shows {library : ProvisioningLibrary} {s : Provisioning}
    {home : HomeState} (shows : s.Shows home) (input : ProvisioningInput × SendMemory)
    (replaces : ReplacesCredentials library s input)
    : ((requestMachine library).step s input).1.Shows
        ((homeMachine library).step home input.1).1
      ∧ ((requestMachine library).step s input).2.filterMap some
        = ((homeMachine library).step home input.1).2 := by
  obtain ⟨input, memory⟩ := input
  rw [List.filterMap_some]
  simp only [requestMachine, shows.network, shows.scan]
  cases input with
  | credentials data => exact ⟨shows.credentials replaces.1 replaces.2 memory, rfl⟩
  | packet packet => exact ⟨shows.packet packet memory, rfl⟩
  | finishPairing => exact ⟨shows, rfl⟩

/-- A condition on steps is the same for both machines over the provisioning's states. -/
theorem requestMachine_along {library : ProvisioningLibrary}
    {P : Provisioning → ProvisioningInput × SendMemory → Prop} {s : Provisioning}
    {inputs : List (ProvisioningInput × SendMemory)}
    (steps : (provisioningMachine library).Along P s inputs)
    : (requestMachine library).Along P s inputs := by
  induction inputs generalizing s with
  | nil => trivial
  | cons input inputs ih => exact ⟨steps.1, ih steps.2⟩

/-- In every run from the start in which credentials of at most 19 bytes leave no trace of others,
a camera that reassembles what is published reads what the provisioning is meant to ask for:
requests to connect to the network whose credentials came last.
-/
theorem provisioningMachine_refines_home (library : ProvisioningLibrary)
    (follows : library.encoder.FollowsWireFormat)
    (inputs : List (ProvisioningInput × SendMemory))
    (replace : (provisioningMachine library).Along (ReplacesCredentials library) .boot inputs)
    (packet : GoproPacket) (calls : List BuildCall)
    (published : calls.map BuildCall.cmd
      = provisioningCmds ((provisioningMachine library).run .boot inputs).2)
    (allocate : ∀ call ∈ calls, call.kMalloc ≠ none)
    : (parsedPackets (packetBuilder.run packet calls).2).map (readCameraRequest ·.message)
      = ((homeMachine library).run .boot (inputs.map Prod.fst)).2.map some := by
  have simulated : ((requestMachine library).run .boot inputs).1.Shows
        ((homeMachine library).run .boot (inputs.map Prod.fst)).1
      ∧ ((requestMachine library).run .boot inputs).2.filterMap some
        = ((homeMachine library).run .boot (inputs.map Prod.fst)).2 :=
    (requestMachine_along replace).simulates
      (fun _ _ input shows replaces => requestMachine_shows shows input replaces)
      Provisioning.boot_shows
  rw [← simulated.2, List.filterMap_some]
  exact (provisioningMachine_run_published follows .boot inputs).read_back packet published
    allocate

theorem joinLab_replaces
    : (provisioningMachine referenceProvisioning).Along
        (ReplacesCredentials referenceProvisioning) .boot joinLab := by
  refine ⟨⟨by unfold ShortValues; decide, fun _ string => ?_, fun rejected => ?_⟩, trivial,
    trivial, trivial, trivial⟩
  · cases string <;> decide
  · exact absurd (by decide) rejected

theorem provisioningMachine_refines_home_lab
    : (parsedPackets (packetBuilder.run GoproPacket.zero
        ((provisioningCmds ((provisioningMachine referenceProvisioning).run .boot joinLab).2).map
          (⟨·, some 0⟩))).2).map (readCameraRequest ·.message)
      = [
          some (.getApEntries ⟨0, 1, 7⟩),
          some (.connect (.connectNew [0x6C, 0x61, 0x62] [0x70])),
          some (.pairingFinish 0 [0x6E, 0x72, 0x66, 0x35, 0x32])
        ] := by
  have asked : ((homeMachine referenceProvisioning).run .boot (joinLab.map Prod.fst)).2
      = [
          .getApEntries ⟨0, 1, 7⟩,
          .connect (.connectNew [0x6C, 0x61, 0x62] [0x70]),
          .pairingFinish 0 [0x6E, 0x72, 0x66, 0x35, 0x32]
        ] := by
    decide +kernel
  refine (provisioningMachine_refines_home referenceProvisioning referencePbEncoder_follows
    joinLab joinLab_replaces GoproPacket.zero _ (by simp [Function.comp_def]) (by simp)).trans ?_
  rw [asked]
  rfl

end GoproGateway
