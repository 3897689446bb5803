import GoproGateway.Gatt.Procedure
import GoproGateway.Client.Writes
import Mathlib.Logic.Function.Basic

/-! From discovered services to the client's handles, from `gopro_client.c`.

The control service is looked up before the network service, since its assignment clears the
handles of both.
-/

namespace GoproGateway

/-- `BT_UUID_128_ENCODE` of the camera's own UUIDs. -/
def goproUuid (short : Nat) : BtUuid :=
  .uuid128 ((0xb5f90000 + short) * 0x1000000000000000000000000 + 0xaa8d11e390460002a5d5c51b)

def btUuidGoproCmdWrite : BtUuid := goproUuid 0x72
def btUuidGoproCmdNotify : BtUuid := goproUuid 0x73
def btUuidGoproSettingsWrite : BtUuid := goproUuid 0x74
def btUuidGoproSettingsNotify : BtUuid := goproUuid 0x75
def btUuidGoproQueryWrite : BtUuid := goproUuid 0x76
def btUuidGoproQueryNotify : BtUuid := goproUuid 0x77
def btUuidGoproNetWrite : BtUuid := goproUuid 0x91
def btUuidGoproNetNotify : BtUuid := goproUuid 0x92
def btUuidGoproWifiService : BtUuid := goproUuid 0x01
def btUuidGoproNetService : BtUuid := goproUuid 0x90
def btUuidGoproWifiSsid : BtUuid := goproUuid 0x02
def btUuidGoproWifiPass : BtUuid := goproUuid 0x03
def btUuidGoproWifiPower : BtUuid := goproUuid 0x04
def btUuidGoproWifiState : BtUuid := goproUuid 0x05
def btUuidGoproService : BtUuid := .uuid16 0xFEA6

/-- `struct bt_gopro_client_handles`. -/
structure GoproClientHandles where
  write : Nat
  notify : Nat
  notifyCcc : Nat
  deriving DecidableEq, Repr

/-- The handles and the connection of `struct bt_gopro_client`. -/
structure HandlesClient where
  conn : Option Conn
  handles : Nat → GoproClientHandles
  wifihandles : Nat → Nat

/-- A lookup of a characteristic and of an attribute of it, and where its handle goes. -/
structure HandleLookup where
  chrc : BtUuid
  desc : BtUuid
  store : HandlesClient → Nat → HandlesClient

namespace HandlesClient

/-- `memset` with `0xFF`. -/
def unassigned : GoproClientHandles := ⟨0xFFFF, 0xFFFF, 0xFFFF⟩

def setHandles (client : HandlesClient) (index : Nat)
    (change : GoproClientHandles → GoproClientHandles) : HandlesClient :=
  { client with
    handles := Function.update client.handles index (change (client.handles index)) }

def setWifihandle (client : HandlesClient) (index handle : Nat) : HandlesClient :=
  { client with wifihandles := Function.update client.wifihandles index handle }

/-- The lookups in turn, up to the first one that finds nothing. -/
def assignEach (attrs : List GattDmAttr) : List HandleLookup → HandlesClient
    → HandlesClient × Int
  | [], client => (client, 0)
  | lookup :: rest, client =>
      match descHandle attrs lookup.chrc lookup.desc with
      | none => (client, -einval)
      | some handle => assignEach attrs rest (lookup.store client handle)

/-- The three lookups for a control handle. -/
def controlLookups (index : Nat) (notify write : BtUuid) : List HandleLookup :=
  [⟨notify, notify, fun client handle => client.setHandles index ({ · with notify := handle })⟩,
    ⟨notify, btUuidGattCcc,
      fun client handle => client.setHandles index ({ · with notifyCcc := handle })⟩,
    ⟨write, write, fun client handle => client.setHandles index ({ · with write := handle })⟩]

def wifiLookup (index : Nat) (chrc : BtUuid) : HandleLookup :=
  ⟨chrc, chrc, fun client handle => client.setWifihandle index handle⟩

/-- What the three assignments share: the check of the service, the clearing of the handles,
the lookups, and the connection at the end. Without a service record the check accesses NULL.
-/
def assign (client : HandlesClient) (conn : Option Conn) (attrs : List GattDmAttr)
    (service : BtUuid) (clear : HandlesClient → HandlesClient) (lookups : List HandleLookup)
    : Option (HandlesClient × Int) :=
  (attrs.head?.bind GattDmAttr.serviceVal).map fun val =>
    if ¬ val.uuid.Same service then (client, -enotsup)
    else
      let (assigned, err) := assignEach attrs lookups (clear client)
      if err = 0 then ({ assigned with conn }, 0) else (assigned, err)

/-- Every lookup of the control service, in the order of the source. -/
def controlServiceLookups : List HandleLookup :=
  controlLookups gpCntrlHandleCmd btUuidGoproCmdNotify btUuidGoproCmdWrite
    ++ controlLookups gpCntrlHandleSettings btUuidGoproSettingsNotify btUuidGoproSettingsWrite
    ++ controlLookups gpCntrlHandleQuery btUuidGoproQueryNotify btUuidGoproQueryWrite

def netServiceLookups : List HandleLookup :=
  controlLookups gpCntrlHandleNet btUuidGoproNetNotify btUuidGoproNetWrite

def wifiServiceLookups : List HandleLookup :=
  [wifiLookup 0 btUuidGoproWifiSsid, wifiLookup 1 btUuidGoproWifiPass,
    wifiLookup 2 btUuidGoproWifiPower, wifiLookup 3 btUuidGoproWifiState]

def btGoproHandlesAssign (client : HandlesClient) (conn : Option Conn)
    (attrs : List GattDmAttr) : Option (HandlesClient × Int) :=
  client.assign conn attrs btUuidGoproService ({ · with handles := fun _ => unassigned })
    controlServiceLookups

def btGoproNetHandleAssign (client : HandlesClient) (conn : Option Conn)
    (attrs : List GattDmAttr) : Option (HandlesClient × Int) :=
  client.assign conn attrs btUuidGoproNetService (·.setHandles gpCntrlHandleNet fun _ => unassigned)
    netServiceLookups

def btGoproWifiHandlesAssign (client : HandlesClient) (conn : Option Conn)
    (attrs : List GattDmAttr) : Option (HandlesClient × Int) :=
  client.assign conn attrs btUuidGoproWifiService ({ · with wifihandles := fun _ => 0xFFFF })
    wifiServiceLookups

/-- `handles_assign` of `gopro_ble_discovery.c`. -/
def handlesAssign (client : HandlesClient) (conn : Option Conn) (attrs : List GattDmAttr)
    : Option (HandlesClient × Int) :=
  (attrs.head?.bind GattDmAttr.serviceVal).bind fun val =>
    if val.uuid.Same btUuidGoproService then client.btGoproHandlesAssign conn attrs
    else if val.uuid.Same btUuidGoproWifiService then client.btGoproWifiHandlesAssign conn attrs
    else if val.uuid.Same btUuidGoproNetService then client.btGoproNetHandleAssign conn attrs
    else some (client, -1)

-----------------------------------------------------------------------------------------
-- The lookups
-----------------------------------------------------------------------------------------

/-- The lookups succeed iff each finds its handle, and store what they find. -/
theorem assignEach_eq (attrs : List GattDmAttr) (lookups : List HandleLookup)
    (client : HandlesClient)
    : (assignEach attrs lookups client).2
      = if ∀ lookup ∈ lookups, (descHandle attrs lookup.chrc lookup.desc).isSome then 0
        else -einval := by
  induction lookups generalizing client with
  | nil => simp [assignEach]
  | cons lookup rest ih =>
      rw [assignEach]
      cases found : descHandle attrs lookup.chrc lookup.desc with
      | none => simp [found]
      | some handle => simp [ih, found]

theorem assignEach_append (attrs : List GattDmAttr) (first second : List HandleLookup)
    (client : HandlesClient)
    : assignEach attrs (first ++ second) client
      = if (assignEach attrs first client).2 = 0 then
          assignEach attrs second (assignEach attrs first client).1
        else assignEach attrs first client := by
  induction first generalizing client with
  | nil => rfl
  | cons lookup rest ih =>
      rw [List.cons_append, assignEach, assignEach]
      cases descHandle attrs lookup.chrc lookup.desc with
      | none => rfl
      | some handle => exact ih _

/-- The handles of one control handle, in the table. -/
structure FoundIn (attrs : List GattDmAttr) (notify write : BtUuid) (found : GoproClientHandles)
    : Prop where
  isNotify : descHandle attrs notify notify = some found.notify
  isNotifyCcc : descHandle attrs notify btUuidGattCcc = some found.notifyCcc
  isWrite : descHandle attrs write write = some found.write

/-- What a control handle's lookups leave when none of them fails. -/
theorem assignEach_control {attrs : List GattDmAttr} {index : Nat} {notify write : BtUuid}
    {client : HandlesClient}
    (succeeds : (assignEach attrs (controlLookups index notify write) client).2 = 0)
    : ∃ found, FoundIn attrs notify write found
      ∧ (assignEach attrs (controlLookups index notify write) client).1
        = client.setHandles index fun _ => found := by
  rw [assignEach_eq] at succeeds
  have each : ∀ lookup ∈ controlLookups index notify write,
      (descHandle attrs lookup.chrc lookup.desc).isSome := by
    by_contra fails
    rw [if_neg fails] at succeeds
    cases succeeds
  simp only [controlLookups, List.forall_mem_cons, Option.isSome_iff_exists] at each
  obtain ⟨⟨isNotify, findsNotify⟩, ⟨isCcc, findsCcc⟩, ⟨isWrite, findsWrite⟩, -⟩ := each
  refine ⟨⟨isWrite, isNotify, isCcc⟩, ⟨findsNotify, findsCcc, findsWrite⟩, ?_⟩
  simp [controlLookups, assignEach, findsNotify, findsCcc, findsWrite, setHandles]

/-- A successful assignment leaves what its lookups leave, and the connection. -/
theorem assign_succeeds {client after : HandlesClient} {conn : Option Conn}
    {attrs : List GattDmAttr} {service : BtUuid} {clear : HandlesClient → HandlesClient}
    {lookups : List HandleLookup}
    (succeeds : client.assign conn attrs service clear lookups = some (after, 0))
    : (assignEach attrs lookups (clear client)).2 = 0
      ∧ after = { (assignEach attrs lookups (clear client)).1 with conn } := by
  obtain ⟨val, -, assigned⟩ := Option.map_eq_some_iff.mp succeeds
  split at assigned
  · cases congrArg Prod.snd assigned
  · dsimp only at assigned
    split at assigned
    · next none => exact ⟨none, (congrArg Prod.fst assigned).symm⟩
    · next fails => exact absurd (congrArg Prod.snd assigned) fails

/-- A successful assignment of the control service. -/
theorem btGoproHandlesAssign_succeeds {client after : HandlesClient} {conn : Option Conn}
    {attrs : List GattDmAttr}
    (succeeds : client.btGoproHandlesAssign conn attrs = some (after, 0))
    : after.conn = conn
      ∧ FoundIn attrs btUuidGoproCmdNotify btUuidGoproCmdWrite
          (after.handles gpCntrlHandleCmd)
      ∧ FoundIn attrs btUuidGoproSettingsNotify btUuidGoproSettingsWrite
          (after.handles gpCntrlHandleSettings)
      ∧ FoundIn attrs btUuidGoproQueryNotify btUuidGoproQueryWrite
          (after.handles gpCntrlHandleQuery) := by
  obtain ⟨lookups, rfl⟩ := assign_succeeds succeeds
  rw [controlServiceLookups, List.append_assoc, assignEach_append] at lookups ⊢
  split at lookups
  · next first =>
      rw [if_pos first]
      obtain ⟨cmd, foundCmd, isCmd⟩ := assignEach_control first
      rw [isCmd, assignEach_append] at lookups ⊢
      split at lookups
      · next second =>
          rw [if_pos second]
          obtain ⟨settings, foundSettings, isSettings⟩ := assignEach_control second
          rw [isSettings] at lookups ⊢
          obtain ⟨query, foundQuery, isQuery⟩ := assignEach_control lookups
          rw [isQuery]
          simp only [setHandles, Function.update_apply, gpCntrlHandleCmd,
            gpCntrlHandleSettings, gpCntrlHandleQuery]
          exact ⟨trivial, foundCmd, foundSettings, foundQuery⟩
      · next fails => exact absurd lookups fails
  · next fails => exact absurd lookups fails

/-- A successful assignment of the network service leaves the other handles alone. -/
theorem btGoproNetHandleAssign_succeeds {client after : HandlesClient} {conn : Option Conn}
    {attrs : List GattDmAttr}
    (succeeds : client.btGoproNetHandleAssign conn attrs = some (after, 0))
    : after.conn = conn
      ∧ FoundIn attrs btUuidGoproNetNotify btUuidGoproNetWrite (after.handles gpCntrlHandleNet)
      ∧ ∀ index, index ≠ gpCntrlHandleNet → after.handles index = client.handles index := by
  obtain ⟨lookups, rfl⟩ := assign_succeeds succeeds
  obtain ⟨net, foundNet, isNet⟩ := assignEach_control lookups
  rw [netServiceLookups, isNet]
  refine ⟨rfl, by simpa [setHandles] using foundNet, ?_⟩
  intro index other
  simp [setHandles, Function.update_of_ne other]

end HandlesClient

-----------------------------------------------------------------------------------------
-- The handles of a service
-----------------------------------------------------------------------------------------

namespace GattService

variable {service other : GattService} {u v : BtUuid} {h k : Nat}

/-- A characteristic's own UUID finds its value. -/
theorem handleOf_value (found : service.handleOf u u = some h)
    : ∃ characteristic ∈ service.characteristics,
        u.Same characteristic.val.uuid ∧ characteristic.val.valueHandle = h := by
  obtain ⟨characteristic, first, isMember⟩ := Option.bind_eq_some_iff.mp found
  have same : u.Same characteristic.val.uuid := by
    simpa using List.find?_some first
  refine ⟨characteristic, List.mem_of_find?_eq_some first, same, ?_⟩
  rw [GattCharacteristic.memberHandle, GattCharacteristic.members,
    List.find?_cons_of_pos (by simpa using same)] at isMember
  exact Option.some.inj isMember

theorem value_mem_rows {characteristic : GattCharacteristic}
    (member : characteristic ∈ service.characteristics)
    : plainRow (characteristic.val.valueHandle, characteristic.val.uuid)
      ∈ serviceRows service.leading service.characteristics := by
  apply List.mem_append_right
  exact List.mem_flatMap.mpr ⟨characteristic, member,
    List.mem_cons_of_mem _ List.mem_cons_self⟩

/-- A value's handle lies behind the declaration of its service. -/
theorem handleOf_range (found : service.handleOf u u = some h)
    : service.handle < h ∧ h ≤ service.val.endHandle := by
  obtain ⟨characteristic, member, -, rfl⟩ := handleOf_value found
  exact service.inRange _ (value_mem_rows member)

/-- The values' handles ascend. -/
theorem values_ascend (service : GattService)
    : service.characteristics.Pairwise fun a b => a.val.valueHandle < b.val.valueHandle := by
  have rows : (service.characteristics.flatMap GattCharacteristic.rows).Pairwise
      fun a b => a.handle < b.handle := by
    have all := List.pairwise_map.mp service.ascending
    exact (List.pairwise_append.mp all).2.1
  refine (List.pairwise_flatMap.mp rows).2.imp fun apart => ?_
  exact apart _ (List.mem_cons_of_mem _ List.mem_cons_self) _
    (List.mem_cons_of_mem _ List.mem_cons_self)

/-- Different characteristics of a service have different handles. -/
theorem handleOf_ne (found : service.handleOf u u = some h)
    (foundOther : service.handleOf v v = some k) (differ : ¬ u.Same v) : h ≠ k := by
  rintro rfl
  obtain ⟨one, inOne, isOne, isValue⟩ := handleOf_value found
  obtain ⟨two, inTwo, isTwo, isSame⟩ := handleOf_value foundOther
  obtain ⟨i, inRange, rfl⟩ := List.getElem_of_mem inOne
  obtain ⟨j, inRange', rfl⟩ := List.getElem_of_mem inTwo
  have ascend := List.pairwise_iff_getElem.mp service.values_ascend
  rcases Nat.lt_trichotomy i j with less | rfl | more
  · have lower := ascend i j inRange inRange' less
    omega
  · exact differ (isOne.trans isTwo.symm)
  · have lower := ascend j i inRange' inRange more
    omega

/-- The services' ranges share no handle. -/
def Apart (service other : GattService) : Prop :=
  service.val.endHandle < other.handle ∨ other.val.endHandle < service.handle

instance (service other : GattService) : Decidable (service.Apart other) :=
  inferInstanceAs (Decidable (_ ∨ _))

/-- Characteristics of services apart from each other have different handles. -/
theorem Apart.handleOf_ne (apart : service.Apart other) (found : service.handleOf u u = some h)
    (foundOther : other.handleOf v v = some k) : h ≠ k := by
  have one := handleOf_range found
  have two := handleOf_range foundOther
  rcases apart with before | after
  · omega
  · omega

end GattService

/-- The UUIDs by control handle. -/
def notifyUuid : Nat → BtUuid
  | 0 => btUuidGoproCmdNotify
  | 1 => btUuidGoproSettingsNotify
  | 2 => btUuidGoproQueryNotify
  | _ => btUuidGoproNetNotify

def writeUuid : Nat → BtUuid
  | 0 => btUuidGoproCmdWrite
  | 1 => btUuidGoproSettingsWrite
  | 2 => btUuidGoproQueryWrite
  | _ => btUuidGoproNetWrite

/-- The control handles of the control service. -/
theorem lt_handleNet_iff {i : Nat}
    : i < gpCntrlHandleNet
      ↔ i = gpCntrlHandleCmd ∨ i = gpCntrlHandleSettings ∨ i = gpCntrlHandleQuery := by
  unfold gpCntrlHandleCmd gpCntrlHandleSettings gpCntrlHandleQuery gpCntrlHandleNet
  omega

/-- Four handles that are found in the control service and in the network service. -/
theorem distinctHandles_found {control net : GattService} {handle : Nat → Nat}
    (uuid : Nat → BtUuid) (apart : control.Apart net)
    (inControl : ∀ i, i < gpCntrlHandleNet
      → control.handleOf (uuid i) (uuid i) = some (handle i))
    (inNet : net.handleOf (uuid gpCntrlHandleNet) (uuid gpCntrlHandleNet)
      = some (handle gpCntrlHandleNet))
    (differ : ∀ i, i < gpCntrlHandleNet → ∀ j, j < gpCntrlHandleNet → i ≠ j
      → ¬ (uuid i).Same (uuid j))
    : DistinctHandles handle := by
  have split {i : Nat} (small : i < gpCntrlHandleEnd)
      : i < gpCntrlHandleNet ∨ i = gpCntrlHandleNet := by
    unfold gpCntrlHandleEnd gpCntrlHandleNet at *
    omega
  constructor
  · intro i small
    rcases split small with control | rfl
    · have range := GattService.handleOf_range (inControl i control)
      omega
    · have range := GattService.handleOf_range inNet
      omega
  · intro i small j other same
    by_contra different
    rcases split small with iControl | rfl
    · rcases split other with jControl | rfl
      · exact GattService.handleOf_ne (inControl i iControl) (inControl j jControl)
          (differ i iControl j jControl different) same
      · exact apart.handleOf_ne (inControl i iControl) inNet same
    · rcases split other with jControl | rfl
      · exact apart.handleOf_ne (inControl j jControl) inNet same.symm
      · exact different rfl

-----------------------------------------------------------------------------------------
-- From discoveries to handles
-----------------------------------------------------------------------------------------

/-- The service has what the lookups look for. -/
def GattService.Offers (service : GattService) (lookups : List HandleLookup) : Prop :=
  ∀ lookup ∈ lookups, (service.handleOf lookup.chrc lookup.desc).isSome

instance (service : GattService) (lookups : List HandleLookup)
    : Decidable (service.Offers lookups) :=
  inferInstanceAs (Decidable (∀ lookup ∈ lookups, _))

/-- A table that `discovery_complete` is called with, after the discovery of a service. -/
inductive DiscoveredTable (conn : Option Conn) (service : GattService)
    : List GattDmAttr → Prop where
  | intro {dm : BtGattDm} {svcUuid : Option BtUuid} {inputs : List GattDmInput}
      (idle : dm.In .idle) (supported : ∀ val, svcUuid ≠ some (.uuid32 val))
      (fits : service.rows.length ≤ gattDmMaxAttrs)
      (discovery : BtGattDm.ServiceDiscovery conn svcUuid service inputs)
      : DiscoveredTable conn service (gattDm.run dm inputs).1.table.attrs

theorem DiscoveredTable.rows {conn : Option Conn} {service : GattService}
    {attrs : List GattDmAttr} (discovered : DiscoveredTable conn service attrs)
    : attrs.map GattDmAttr.row = service.rows := by
  obtain ⟨idle, supported, fits, discovery⟩ := discovered
  exact (BtGattDm.gattDm_discovers idle supported fits discovery).1.rows

theorem serviceVal_of_rows {service : GattService} {attrs : List GattDmAttr}
    (rows : attrs.map GattDmAttr.row = service.rows)
    : attrs.head?.bind GattDmAttr.serviceVal = some service.val := by
  obtain ⟨first, others, rfl, isFirst, -⟩ := List.map_eq_cons_iff.mp rows
  have uuid : first.uuid = btUuidGattPrimary := congrArg AttrRow.uuid isFirst
  have userData : first.userData = .service service.val := congrArg AttrRow.userData isFirst
  rw [List.head?_cons, Option.bind_some, GattDmAttr.serviceVal, uuid, userData]
  rfl

namespace HandlesClient

variable {conn : Option Conn} {service : GattService} {attrs : List GattDmAttr}

/-- An assignment succeeds iff the service has what it looks for. -/
theorem assign_iff (rows : attrs.map GattDmAttr.row = service.rows) (client : HandlesClient)
    {uuid : BtUuid} (known : service.val.uuid.Same uuid)
    (clear : HandlesClient → HandlesClient) (lookups : List HandleLookup)
    : (∃ after, client.assign conn attrs uuid clear lookups = some (after, 0))
      ↔ service.Offers lookups := by
  have offers : (∀ lookup ∈ lookups, (descHandle attrs lookup.chrc lookup.desc).isSome)
      ↔ service.Offers lookups := by
    simp only [descHandle_service rows]
    rfl
  have result := assignEach_eq attrs lookups (clear client)
  rw [assign, serviceVal_of_rows rows, Option.map_some, if_neg (not_not_intro known)]
  dsimp only
  constructor
  · rintro ⟨after, succeeds⟩
    by_contra lacks
    rw [if_neg (fun all => lacks (offers.mp all))] at result
    rw [result] at succeeds
    cases congrArg Prod.snd (Option.some.inj succeeds)
  · intro all
    rw [if_pos (offers.mpr all)] at result
    rw [if_pos result]
    exact ⟨_, rfl⟩

/-- Each service is left to its own assignment. -/
theorem handlesAssign_control (rows : attrs.map GattDmAttr.row = service.rows)
    (isControl : service.val.uuid.Same btUuidGoproService) (client : HandlesClient)
    : client.handlesAssign conn attrs = client.btGoproHandlesAssign conn attrs := by
  rw [handlesAssign, serviceVal_of_rows rows, Option.bind_some, if_pos isControl]

theorem handlesAssign_net (rows : attrs.map GattDmAttr.row = service.rows)
    (isNet : service.val.uuid.Same btUuidGoproNetService) (client : HandlesClient)
    : client.handlesAssign conn attrs = client.btGoproNetHandleAssign conn attrs := by
  have notControl : ¬ service.val.uuid.Same btUuidGoproService := fun isControl =>
    absurd (isNet.symm.trans isControl) (by decide)
  have notWifi : ¬ service.val.uuid.Same btUuidGoproWifiService := fun isWifi =>
    absurd (isNet.symm.trans isWifi) (by decide)
  rw [handlesAssign, serviceVal_of_rows rows, Option.bind_some, if_neg notControl,
    if_neg notWifi, if_pos isNet]

/-- After the discoveries of the control service and the network service, in this order, both
assignments succeed iff the camera has what they look for. Then the client is connected, and
its notification handles and its write handles are those of the camera, none of them null and
all different.
-/
theorem handlesAssign_distinct {control net : GattService} {controlAttrs netAttrs
    : List GattDmAttr} (isControl : control.val.uuid.Same btUuidGoproService)
    (isNet : net.val.uuid.Same btUuidGoproNetService) (apart : control.Apart net)
    (controlFound : DiscoveredTable conn control controlAttrs)
    (netFound : DiscoveredTable conn net netAttrs) (client : HandlesClient)
    : ((∃ between after, client.handlesAssign conn controlAttrs = some (between, 0)
          ∧ between.handlesAssign conn netAttrs = some (after, 0))
        ↔ control.Offers controlServiceLookups ∧ net.Offers netServiceLookups)
      ∧ ∀ between after, client.handlesAssign conn controlAttrs = some (between, 0)
        → between.handlesAssign conn netAttrs = some (after, 0)
        → after.conn = conn
          ∧ DistinctHandles (fun i => (after.handles i).notify)
          ∧ DistinctHandles (fun i => (after.handles i).write) := by
  have controlRows := controlFound.rows
  have netRows := netFound.rows
  simp only [handlesAssign_control controlRows isControl, handlesAssign_net netRows isNet]
  refine ⟨?_, ?_⟩
  · constructor
    · rintro ⟨between, after, first, second⟩
      exact ⟨(assign_iff controlRows client isControl _ _).mp ⟨between, first⟩,
        (assign_iff netRows between isNet _ _).mp ⟨after, second⟩⟩
    · rintro ⟨offersControl, offersNet⟩
      obtain ⟨between, first⟩ := (assign_iff controlRows client isControl _ _).mpr offersControl
      obtain ⟨after, second⟩ := (assign_iff netRows between isNet _ _).mpr offersNet
      exact ⟨between, after, first, second⟩
  · intro between after first second
    obtain ⟨-, cmd, settings, query⟩ := btGoproHandlesAssign_succeeds first
    obtain ⟨connected, found, others⟩ := btGoproNetHandleAssign_succeeds second
    rw [← others _ (by decide)] at cmd settings query
    have inControl (uuid : BtUuid) := descHandle_service controlRows uuid uuid
    have inNet (uuid : BtUuid) := descHandle_service netRows uuid uuid
    refine ⟨connected, ?_, ?_⟩
    · refine distinctHandles_found notifyUuid apart ?_
        ((inNet _).symm.trans found.isNotify) ?_
      · intro i small
        rcases lt_handleNet_iff.mp small with rfl | rfl | rfl
        · exact (inControl _).symm.trans cmd.isNotify
        · exact (inControl _).symm.trans settings.isNotify
        · exact (inControl _).symm.trans query.isNotify
      · intro i small j other differ
        rcases lt_handleNet_iff.mp small with rfl | rfl | rfl <;>
          rcases lt_handleNet_iff.mp other with rfl | rfl | rfl <;>
          first | exact absurd rfl differ | decide
    · refine distinctHandles_found writeUuid apart ?_
        ((inNet _).symm.trans found.isWrite) ?_
      · intro i small
        rcases lt_handleNet_iff.mp small with rfl | rfl | rfl
        · exact (inControl _).symm.trans cmd.isWrite
        · exact (inControl _).symm.trans settings.isWrite
        · exact (inControl _).symm.trans query.isWrite
      · intro i small j other differ
        rcases lt_handleNet_iff.mp small with rfl | rfl | rfl <;>
          rcases lt_handleNet_iff.mp other with rfl | rfl | rfl <;>
          first | exact absurd rfl differ | decide

/-- A characteristic that is written to, and one behind it that notifies. -/
def writeNotify (handle : Nat) (write notify : BtUuid) : List GattCharacteristic :=
  [⟨handle, ⟨write, handle + 1, 0x08⟩, []⟩,
    ⟨handle + 2, ⟨notify, handle + 3, 0x10⟩, [(handle + 4, btUuidGattCcc)]⟩]

def cameraControlService : GattService where
  handle := 10
  val := ⟨btUuidGoproService, 25⟩
  leading := []
  characteristics := writeNotify 11 btUuidGoproCmdWrite btUuidGoproCmdNotify
    ++ writeNotify 16 btUuidGoproSettingsWrite btUuidGoproSettingsNotify
    ++ writeNotify 21 btUuidGoproQueryWrite btUuidGoproQueryNotify
  nonzero := by decide
  ascending := by decide
  inRange := by decide
  endsWithin := by decide
  plain := by decide

def cameraNetService : GattService where
  handle := 30
  val := ⟨btUuidGoproNetService, 35⟩
  leading := []
  characteristics := writeNotify 31 btUuidGoproNetWrite btUuidGoproNetNotify
  nonzero := by decide
  ascending := by decide
  inRange := by decide
  endsWithin := by decide
  plain := by decide

/-- The calls that discover a service with attributes. -/
def fullDiscovery (conn : Option Conn) (svcUuid : BtUuid) (service : GattService)
    : List GattDmInput :=
  [.btGattDmStart conn (some svcUuid) 0,
      .discoveryCallback conn (.service service.handle 0 service.val) (some 7) (some 8),
      .gattDiscoverWork 0]
    ++ attributeReports conn 9 service.attributes ++ [finishes conn, .gattDiscoverWork 0]
    ++ characteristicReports conn 9 service.characteristics ++ [finishes conn]

/-- The table that the discovery of a service on a fresh instance ends with. -/
def freshTable (svcUuid : BtUuid) (service : GattService) : List GattDmAttr :=
  (gattDm.run .boot (fullDiscovery (some 1) svcUuid service)).1.table.attrs

theorem freshTable_control
    : DiscoveredTable (some 1) cameraControlService
        (freshTable btUuidGoproService cameraControlService) :=
  .intro rfl (by simp [btUuidGoproService]) (by decide)
    (.full (by decide) (attributeReports_report _ _ _) (characteristicReports_report _ _ _))

theorem freshTable_net
    : DiscoveredTable (some 1) cameraNetService
        (freshTable btUuidGoproNetService cameraNetService) :=
  .intro rfl (by simp [btUuidGoproNetService, goproUuid]) (by decide)
    (.full (by decide) (attributeReports_report _ _ _) (characteristicReports_report _ _ _))

theorem handlesAssign_distinct_camera
    : ∃ between after, handlesAssign ⟨none, fun _ => unassigned, fun _ => 0xFFFF⟩ (some 1)
          (freshTable btUuidGoproService cameraControlService) = some (between, 0)
      ∧ between.handlesAssign (some 1) (freshTable btUuidGoproNetService cameraNetService)
        = some (after, 0)
      ∧ after.conn = some 1
      ∧ DistinctHandles (fun i => (after.handles i).notify)
      ∧ DistinctHandles (fun i => (after.handles i).write) := by
  have isControl : cameraControlService.val.uuid.Same btUuidGoproService := rfl
  have isNet : cameraNetService.val.uuid.Same btUuidGoproNetService := rfl
  obtain ⟨succeeds, distinct⟩ := handlesAssign_distinct isControl isNet (by decide)
    freshTable_control freshTable_net ⟨none, fun _ => unassigned, fun _ => 0xFFFF⟩
  obtain ⟨between, after, first, second⟩ := succeeds.mpr ⟨by decide, by decide⟩
  exact ⟨between, after, first, second, distinct between after first second⟩

end HandlesClient

end GoproGateway
