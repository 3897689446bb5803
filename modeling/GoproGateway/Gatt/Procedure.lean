import GoproGateway.Gatt.Ownership

/-! What the discovery of a service brings.

The stack reports what the server has in the range of a request, and then the end of it; the
heap has room. A service that fits the table is handed to the application row by row. The 35th
attribute behind a declaration is one too many.
-/

namespace GoproGateway

/-- What the outside sees of a step, apart from the heap. -/
def GattDmEvent.outward (event : GattDmEvent) : Bool := event.heapAction.isNone

namespace GattDmEvent

@[simp] theorem outward_discover (conn : Option Conn) (params : GattDiscoverParams)
    : (discover conn params).outward = true := rfl

@[simp] theorem outward_completed (conn : Option Conn) (attrs : List GattDmAttr)
    : (completed conn attrs).outward = true := rfl

@[simp] theorem outward_errorFound (conn : Option Conn) (err : Int)
    : (errorFound conn err).outward = true := rfl

@[simp] theorem outward_returned (err : Int) : (returned err).outward = true := rfl

@[simp] theorem outward_fault : fault.outward = true := rfl

end GattDmEvent

/-- What is known of a row before the characteristics are discovered. -/
def AttrRow.found (handle : Nat) (uuid : BtUuid) : AttrRow :=
  ⟨handle, uuid, if uuid.Same btUuidGattChrc then .chrc ⟨uuid, 0, 0⟩ else .none⟩

/-- The stack reports an attribute, and the heap has room. -/
inductive ReportsAttribute (conn : Option Conn) (row : AttrRow) : GattDmInput → Prop where
  | intro (perm : Nat) (first second : HeapBuffer)
      : ReportsAttribute conn row
          (.discoveryCallback conn (.plain row.handle perm row.uuid) (some first) (some second))

/-- The stack reports a characteristic, and the heap has room. -/
inductive ReportsCharacteristic (conn : Option Conn) (characteristic : GattCharacteristic)
    : GattDmInput → Prop where
  | intro (first second : HeapBuffer)
      : ReportsCharacteristic conn characteristic
          (.discoveryCallback conn (.chrc characteristic.handle characteristic.val)
            (some first) (some second))

/-- Reports of attributes, with the same chunk from the heap whenever one is needed. -/
def attributeReports (conn : Option Conn) (chunk : HeapBuffer) (rows : List AttrRow)
    : List GattDmInput :=
  rows.map fun row =>
    .discoveryCallback conn (.plain row.handle 0 row.uuid) (some chunk) (some chunk)

def characteristicReports (conn : Option Conn) (chunk : HeapBuffer)
    (characteristics : List GattCharacteristic) : List GattDmInput :=
  characteristics.map fun characteristic =>
    .discoveryCallback conn (.chrc characteristic.handle characteristic.val) (some chunk)
      (some chunk)

theorem attributeReports_report (conn : Option Conn) (chunk : HeapBuffer) (rows : List AttrRow)
    : List.Forall₂ (ReportsAttribute conn) rows (attributeReports conn chunk rows) := by
  induction rows with
  | nil => exact .nil
  | cons row rest ih => exact .cons ⟨0, chunk, chunk⟩ ih

theorem characteristicReports_report (conn : Option Conn) (chunk : HeapBuffer)
    (characteristics : List GattCharacteristic)
    : List.Forall₂ (ReportsCharacteristic conn) characteristics
        (characteristicReports conn chunk characteristics) := by
  induction characteristics with
  | nil => exact .nil
  | cons characteristic rest ih => exact .cons ⟨chunk, chunk⟩ ih

/-- The stack ends a request. -/
def finishes (conn : Option Conn) : GattDmInput := .discoveryCallback conn .finished none none

namespace BtGattDm

/-- In a phase with a request in mind, the table has these rows. -/
structure HoldingIn (phase : GattDmPhase) (dm : BtGattDm) (conn : Option Conn)
    (params : GattDiscoverParams) (rows : List AttrRow) : Prop where
  isIn : dm.In phase
  conn : dm.conn = conn
  params : dm.discoverParams = params
  rows : dm.table.attrs.map GattDmAttr.row = rows

/-- A request is outstanding. -/
abbrev Holding (dm : BtGattDm) (conn : Option Conn) (params : GattDiscoverParams)
    (rows : List AttrRow) : Prop := HoldingIn .asking dm conn params rows

variable {dm : BtGattDm} {conn : Option Conn} {params : GattDiscoverParams}
  {rows : List AttrRow}

theorem HoldingIn.callback (holding : dm.Holding conn params rows) (report : DiscoverReport)
    (first second : Option HeapBuffer)
    : dm.step (.discoveryCallback conn report first second)
      = dm.discoveryCallback conn report first second := by
  have healthy : dm.faulted = false := congrArg (·.2.2.2.2) holding.isIn
  have requested : dm.requested = true := congrArg (·.2.2.2.1) holding.isIn
  simp [step, healthy, requested]

theorem callocs_outward (before after : GattDmTable)
    : (callocs before after).filter GattDmEvent.outward = [] := by
  simp [callocs, GattDmEvent.outward, GattDmEvent.heapAction]

theorem frees_outward (table : GattDmTable)
    : (frees table).filter GattDmEvent.outward = [] := by
  simp [frees, GattDmEvent.outward, GattDmEvent.heapAction]

/-- With room in the table and the heap, an attribute is stored. -/
theorem attrStore_some (table : GattDmTable) (room : table.attrs.length < gattDmMaxAttrs)
    (handle perm : Nat) (uuid : BtUuid) (userData : UserData) (chunk : HeapBuffer)
    : ∃ after, table.attrStore handle perm uuid userData (some chunk) = some after
      ∧ after.attrs.map GattDmAttr.row
        = table.attrs.map GattDmAttr.row ++ [⟨handle, uuid, userData⟩] := by
  obtain ⟨pool, data, allocated⟩ := ChunkPool.alloc_some chunkDataSize
    ((userData.size + getUuidSize uuid + dataAlign - 1) / dataAlign * dataAlign) table.pool chunk
  refine ⟨⟨table.attrs ++ [⟨uuid, handle, perm, userData, data, none⟩], pool⟩, ?_, ?_⟩
  · exact attrStore_eq_some_iff.mpr ⟨room, data, allocated, rfl⟩
  · simp [GattDmAttr.row]

/-- The rows of a table in which one attribute's data is overwritten. -/
theorem modify_rows (attrs : List GattDmAttr) (position : Nat) (userData : UserData)
    (data : Extent HeapBuffer)
    : (attrs.modify position fun attr => { attr with userData, uuidData := some data }).map
        GattDmAttr.row
      = (attrs.map GattDmAttr.row).modify position fun row => { row with userData } := by
  induction attrs generalizing position with
  | nil => simp
  | cons attr rest ih =>
      cases position with
      | zero => rfl
      | succ position => simp [ih]

theorem uuidStore_some (table : GattDmTable) (position : Nat) (userData : UserData)
    (uuid : BtUuid) (chunk : HeapBuffer)
    : ∃ after, table.uuidStore position userData uuid (some chunk) = some after
      ∧ after.attrs.map GattDmAttr.row
        = (table.attrs.map GattDmAttr.row).modify position
            fun row => { row with userData } := by
  obtain ⟨pool, data, allocated⟩ := ChunkPool.alloc_some chunkDataSize
    ((getUuidSize uuid + dataAlign - 1) / dataAlign * dataAlign) table.pool chunk
  refine ⟨⟨table.attrs.modify position
    fun attr => { attr with userData, uuidData := some data }, pool⟩, ?_, ?_⟩
  · exact uuidStore_eq_some_iff.mpr ⟨data, allocated, rfl⟩
  · exact modify_rows _ _ _ _

-----------------------------------------------------------------------------------------
-- The attributes
-----------------------------------------------------------------------------------------

/-- A reported attribute becomes the last row. -/
theorem HoldingIn.attribute (holding : dm.Holding conn params rows)
    (type : params.type = .attribute) (room : rows.length < gattDmMaxAttrs) {row : AttrRow}
    {input : GattDmInput} (reports : ReportsAttribute conn row input)
    : (dm.step input).1.Holding conn params (rows ++ [.found row.handle row.uuid])
      ∧ (dm.step input).2.filter GattDmEvent.outward = [] := by
  obtain ⟨perm, first, second⟩ := reports
  have within : dm.table.attrs.length < gattDmMaxAttrs := by
    rwa [← holding.rows, List.length_map] at room
  have stores (userData : UserData) := attrStore_some dm.table within row.handle perm row.uuid
    userData first
  have settled {table : GattDmTable} {userData : UserData}
      (isRow : table.attrs.map GattDmAttr.row
        = dm.table.attrs.map GattDmAttr.row ++ [⟨row.handle, row.uuid, userData⟩])
      (data : (AttrRow.found row.handle row.uuid).userData = userData)
      : (dm.setTable table).1.Holding conn params (rows ++ [.found row.handle row.uuid])
        ∧ (dm.setTable table).2.filter GattDmEvent.outward = [] := by
    subst data
    refine ⟨⟨holding.isIn, holding.conn, holding.params, ?_⟩, callocs_outward _ _⟩
    rw [← holding.rows]
    exact isRow
  rw [holding.callback]
  simp only [discoveryCallback, holding.conn, holding.params, type, ne_eq, not_true_eq_false,
    if_false, discoveryProcessAttribute]
  split
  · next declares =>
      obtain ⟨table, stored, isRow⟩ := stores (.chrc ⟨row.uuid, 0, 0⟩)
      rw [stored]
      exact settled isRow (if_pos declares)
  · next plain =>
      obtain ⟨table, stored, isRow⟩ := stores .none
      rw [stored]
      exact settled isRow (if_neg plain)

/-- Reported attributes become the last rows. -/
theorem HoldingIn.attributes {dm : BtGattDm} {found : List AttrRow} {inputs : List GattDmInput}
    (holding : dm.Holding conn params rows)
    (type : params.type = .attribute) (room : rows.length + found.length ≤ gattDmMaxAttrs)
    (reports : List.Forall₂ (ReportsAttribute conn) found inputs)
    : (gattDm.run dm inputs).1.Holding conn params
        (rows ++ found.map fun row => .found row.handle row.uuid)
      ∧ (gattDm.run dm inputs).2.filter GattDmEvent.outward = [] := by
  induction reports generalizing dm rows with
  | nil => simpa using holding
  | cons report later ih =>
      rw [List.length_cons] at room
      obtain ⟨stored, quiet⟩ := holding.attribute type (by omega) report
      obtain ⟨reached, quietLater⟩ := ih stored (by simp; omega)
      rw [List.append_assoc] at reached
      refine ⟨reached, ?_⟩
      rw [InputMachine.run_cons, List.filter_append]
      exact (congrArg₂ _ quiet quietLater).trans rfl

-----------------------------------------------------------------------------------------
-- The characteristics
-----------------------------------------------------------------------------------------

/-- Where handles ascend, the search by handle finds the only attribute that has it. -/
theorem attrFindByHandle_append {attrs : List GattDmAttr} {before after : List AttrRow}
    {row : AttrRow} (split : attrs.map GattDmAttr.row = before ++ row :: after)
    (ascending : ((before ++ row :: after).map AttrRow.handle).Pairwise (· < ·))
    : attrFindByHandle attrs row.handle = some before.length := by
  obtain ⟨front, back, rfl, isBefore, isRest⟩ := List.map_eq_append_iff.mp split
  obtain ⟨attr, rest, rfl, isRow, -⟩ := List.map_eq_cons_iff.mp isRest
  have ordered : (front ++ attr :: rest).Pairwise fun a b => a.handle < b.handle := by
    rw [← split, List.map_map] at ascending
    exact List.pairwise_map.mp ascending
  have own : attr.handle = row.handle := congrArg AttrRow.handle isRow
  have first : (front ++ attr :: rest).find? (·.handle = row.handle) = some attr := by
    refine List.find?_eq_some_iff_append.mpr ⟨by simpa using own, front, rest, rfl, ?_⟩
    intro other member
    have less := (List.pairwise_append.mp ordered).2.2 other member attr List.mem_cons_self
    simpa using (own ▸ less).ne
  have found := attrFindByHandle_eq ordered row.handle
  rw [first] at found
  obtain ⟨position, isFound, read⟩ := Option.bind_eq_some_iff.mp found
  rw [isFound, ← isBefore, List.length_map]
  congr 1
  obtain ⟨within, isAttr⟩ := List.getElem?_eq_some_iff.mp read
  have inFront : front.length < (front ++ attr :: rest).length := by simp
  have here : (front ++ attr :: rest)[front.length] = attr := by simp
  have apart := List.pairwise_iff_getElem.mp ordered
  rcases Nat.lt_trichotomy position front.length with less | same | more
  · have lower := apart position front.length within inFront less
    rw [isAttr, here] at lower
    exact absurd lower (Nat.lt_irrefl _)
  · exact same
  · have lower := apart front.length position inFront within more
    rw [isAttr, here] at lower
    exact absurd lower (Nat.lt_irrefl _)

theorem modify_middle {α : Type} (before after : List α) (entry : α) (f : α → α)
    : (before ++ entry :: after).modify before.length f = before ++ f entry :: after := by
  induction before with
  | nil => rfl
  | cons head rest ih => simp [ih]

/-- The rows of a characteristic before it is discovered. -/
def foundRows (characteristic : GattCharacteristic) : List AttrRow :=
  .found characteristic.handle btUuidGattChrc :: characteristic.members.map plainRow

/-- A reported characteristic fills its declaration in. -/
theorem HoldingIn.characteristic {before after : List AttrRow}
    {characteristic : GattCharacteristic} {input : GattDmInput}
    (holding : dm.Holding conn params (before ++ foundRows characteristic ++ after))
    (type : params.type = .characteristic)
    (ascending : ((before ++ characteristic.rows ++ after).map AttrRow.handle).Pairwise (· < ·))
    (reports : ReportsCharacteristic conn characteristic input)
    : (dm.step input).1.Holding conn params (before ++ characteristic.rows ++ after)
      ∧ (dm.step input).2.filter GattDmEvent.outward = [] := by
  obtain ⟨first, second⟩ := reports
  have rows : dm.table.attrs.map GattDmAttr.row
      = before ++ .found characteristic.handle btUuidGattChrc
        :: (characteristic.members.map plainRow ++ after) := by
    simpa [foundRows] using holding.rows
  have position := attrFindByHandle_append rows
    (by simpa [GattCharacteristic.rows, GattCharacteristic.declaration, AttrRow.found]
      using ascending)
  have read : ∃ val, dm.table.attrs[before.length]?.bind GattDmAttr.chrcVal = some val := by
    have row := congrArg (·[before.length]?) rows
    simp only [List.getElem?_map, List.getElem?_append_right (Nat.le_refl _), Nat.sub_self,
      List.getElem?_cons_zero] at row
    obtain ⟨attr, isAttr, isRow⟩ := Option.map_eq_some_iff.mp row
    refine ⟨⟨btUuidGattChrc, 0, 0⟩, ?_⟩
    have uuid : attr.uuid = btUuidGattChrc := congrArg AttrRow.uuid isRow
    have userData : attr.userData = .chrc ⟨btUuidGattChrc, 0, 0⟩ := congrArg AttrRow.userData isRow
    rw [isAttr, Option.bind_some, GattDmAttr.chrcVal, uuid, userData]
    rfl
  obtain ⟨val, isVal⟩ := read
  obtain ⟨table, copied, isRows⟩ := uuidStore_some dm.table before.length
    (.chrc characteristic.val) characteristic.val.uuid first
  have found : attrFindByHandle dm.table.attrs characteristic.handle = some before.length :=
    position
  rw [holding.callback]
  simp only [discoveryCallback, holding.conn, holding.params, type, ne_eq, not_true_eq_false,
    if_false, discoveryProcessCharacteristic, found, isVal, copied]
  refine ⟨⟨holding.isIn, holding.conn, holding.params, ?_⟩, callocs_outward _ _⟩
  rw [setTable, isRows, rows, modify_middle]
  simp [GattCharacteristic.rows, GattCharacteristic.declaration, AttrRow.found]

theorem foundRows_handles (characteristics : List GattCharacteristic)
    : (characteristics.flatMap foundRows).map AttrRow.handle
      = (characteristics.flatMap GattCharacteristic.rows).map AttrRow.handle := by
  induction characteristics with
  | nil => rfl
  | cons characteristic rest ih =>
      rw [List.flatMap_cons, List.flatMap_cons, List.map_append, List.map_append, ih]
      rfl

/-- Reported characteristics fill their declarations in. -/
theorem HoldingIn.characteristics {dm : BtGattDm} {before : List AttrRow}
    {characteristics : List GattCharacteristic} {inputs : List GattDmInput}
    (holding : dm.Holding conn params (before ++ characteristics.flatMap foundRows))
    (type : params.type = .characteristic)
    (ascending : ((before ++ characteristics.flatMap GattCharacteristic.rows).map
      AttrRow.handle).Pairwise (· < ·))
    (reports : List.Forall₂ (ReportsCharacteristic conn) characteristics inputs)
    : (gattDm.run dm inputs).1.Holding conn params
        (before ++ characteristics.flatMap GattCharacteristic.rows)
      ∧ (gattDm.run dm inputs).2.filter GattDmEvent.outward = [] := by
  induction reports generalizing dm before with
  | nil => exact ⟨holding, rfl⟩
  | @cons characteristic input rest inputs report later ih =>
      rw [List.flatMap_cons, ← List.append_assoc] at holding ascending
      have handles : ((before ++ characteristic.rows ++ rest.flatMap foundRows).map
          AttrRow.handle).Pairwise (· < ·) := by
        rwa [List.map_append, foundRows_handles, ← List.map_append]
      obtain ⟨filled, quiet⟩ := holding.characteristic type handles report
      obtain ⟨reached, quietLater⟩ := ih filled ascending
      rw [List.flatMap_cons, ← List.append_assoc]
      refine ⟨reached, ?_⟩
      rw [InputMachine.run_cons, List.filter_append]
      exact (congrArg₂ _ quiet quietLater).trans rfl

-----------------------------------------------------------------------------------------
-- The requests
-----------------------------------------------------------------------------------------

theorem start_holding (idle : dm.In .idle) (conn : Option Conn) {svcUuid : Option BtUuid}
    (supported : ∀ val, svcUuid ≠ some (.uuid32 val))
    : (dm.step (.btGattDmStart conn svcUuid 0)).1.Holding conn ⟨.primary, svcUuid, 1, 0xffff⟩ []
      ∧ (dm.step (.btGattDmStart conn svcUuid 0)).2
        = [.discover conn ⟨.primary, svcUuid, 1, 0xffff⟩, .returned 0] := by
  have healthy : dm.faulted = false := congrArg (·.2.2.2.2) idle
  have unlocked : dm.locked = false := congrArg (·.1) idle
  have pending : dm.releasePending = false := congrArg (·.2.1) idle
  have started : dm.step (.btGattDmStart conn svcUuid 0)
      = ({ dm with
          conn, discoverParams := ⟨.primary, svcUuid, 1, 0xffff⟩, table := .empty,
          discoverWork := false, locked := true, requested := true },
        [.discover conn ⟨.primary, svcUuid, 1, 0xffff⟩, .returned 0]) := by
    simp only [step, healthy, Bool.false_eq_true, if_false, btGattDmStart, unlocked, ne_eq,
      not_true_eq_false]
  rw [started]
  refine ⟨⟨?_, rfl, rfl, rfl⟩, rfl⟩
  simp [In, flags, GattDmPhase.flags, healthy, pending]

/-- The work item sends the request that is in mind. -/
theorem HoldingIn.work (queued : HoldingIn .queued dm conn params rows)
    : (dm.step (.gattDiscoverWork 0)).1.Holding conn params rows
      ∧ (dm.step (.gattDiscoverWork 0)).2 = [.discover conn params] := by
  obtain ⟨isIn, rfl, rfl, rfl⟩ := queued
  have healthy : dm.faulted = false := congrArg (·.2.2.2.2) isIn
  have submitted : dm.discoverWork = true := congrArg (·.2.2.1) isIn
  have locked : dm.locked = true := congrArg (·.1) isIn
  have pending : dm.releasePending = false := congrArg (·.2.1) isIn
  have sends : dm.step (.gattDiscoverWork 0)
      = ({ dm with discoverWork := false, requested := true },
        [.discover dm.conn dm.discoverParams]) := by
    simp [step, healthy, submitted, gattDiscoverWork, locked]
  rw [sends]
  refine ⟨⟨?_, rfl, rfl, rfl⟩, rfl⟩
  simp [In, flags, GattDmPhase.flags, healthy, locked, pending]

/-- The table is with the application. -/
theorem HoldingIn.completes (holding : dm.Holding conn params rows)
    : HoldingIn .complete dm.discoveryComplete.1 conn params rows := by
  refine ⟨?_, holding.conn, holding.params, holding.rows⟩
  have asking := holding.isIn
  simp_all [In, flags, GattDmPhase.flags, discoveryComplete]

/-- The request `params` is left to the work item. -/
theorem HoldingIn.submits (holding : dm.Holding conn params rows) (next : GattDiscoverParams)
    : HoldingIn .queued (dm.submitDiscoverWork next) conn next rows := by
  refine ⟨?_, holding.conn, rfl, holding.rows⟩
  have asking := holding.isIn
  simp_all [In, flags, GattDmPhase.flags, submitDiscoverWork]

/-- A service takes its place at the head of the table. -/
theorem HoldingIn.service (holding : dm.Holding conn params [])
    (type : params.type = .primary) (service : GattService) (perm : Nat)
    (first second : HeapBuffer)
    : ∃ stored : BtGattDm, ∃ heap : List GattDmEvent,
      stored.Holding conn { params with endHandle := service.val.endHandle }
        [⟨service.handle, btUuidGattPrimary, .service service.val⟩]
      ∧ heap.filter GattDmEvent.outward = []
      ∧ dm.step (.discoveryCallback conn (.service service.handle perm service.val)
            (some first) (some second))
        = if service.handle = service.val.endHandle then
            (stored.discoveryComplete.1, heap ++ stored.discoveryComplete.2)
          else
            (stored.submitDiscoverWork ⟨.attribute, none, service.handle + 1,
              service.val.endHandle⟩, heap) := by
  have vacant : dm.table.attrs = [] := List.map_eq_nil_iff.mp holding.rows
  obtain ⟨between, stored, isRow⟩ := attrStore_some dm.table (by simp [vacant, gattDmMaxAttrs])
    service.handle perm btUuidGattPrimary (.service service.val) first
  obtain ⟨table, copied, isRows⟩ := uuidStore_some between (between.attrs.length - 1)
    (.service service.val) service.val.uuid second
  have single : between.attrs.length = 1 := by
    have length := congrArg List.length isRow
    simpa [vacant] using length
  refine ⟨{ dm with
      table, discoverParams := { params with endHandle := service.val.endHandle } },
    callocs dm.table between ++ callocs between table,
    ⟨holding.isIn, holding.conn, rfl, ?_⟩, ?_, ?_⟩
  · rw [isRows, isRow, vacant, single]
    rfl
  · rw [List.filter_append, callocs_outward, callocs_outward]
    rfl
  · have small : service.handle ≠ service.val.endHandle
        → (service.handle + 1) % 0x10000 = service.handle + 1 := by
      intro differs
      obtain ⟨within, bounded⟩ := service.endsWithin
      omega
    rw [holding.callback]
    simp only [discoveryCallback, holding.conn, holding.params, type, ne_eq, not_true_eq_false,
      if_false, discoveryProcessService, stored, copied, setTable]
    split
    · simp [callocs]
    · next differs => simp [callocs, small differs, submitDiscoverWork]

-----------------------------------------------------------------------------------------
-- A whole discovery
-----------------------------------------------------------------------------------------

/-- The calls that discover a service: a request is answered with what the server has in its
range. The stack stops where the manager asks it to, which an empty service brings about.
-/
inductive ServiceDiscovery (conn : Option Conn) (svcUuid : Option BtUuid)
    (service : GattService) : List GattDmInput → Prop where
  | empty {perm : Nat} {first second : HeapBuffer}
      (nothing : service.handle = service.val.endHandle)
      : ServiceDiscovery conn svcUuid service
          [.btGattDmStart conn svcUuid 0,
            .discoveryCallback conn (.service service.handle perm service.val) (some first)
              (some second)]
  | bare {perm : Nat} {first second : HeapBuffer}
      (range : service.handle ≠ service.val.endHandle) (nothing : service.attributes = [])
      : ServiceDiscovery conn svcUuid service
          [.btGattDmStart conn svcUuid 0,
            .discoveryCallback conn (.service service.handle perm service.val) (some first)
              (some second),
            .gattDiscoverWork 0, finishes conn]
  | full {perm : Nat} {first second : HeapBuffer}
      {attributes characteristics : List GattDmInput} (some : service.attributes ≠ [])
      (reported : List.Forall₂ (ReportsAttribute conn) service.attributes attributes)
      (described : List.Forall₂ (ReportsCharacteristic conn) service.characteristics
        characteristics)
      : ServiceDiscovery conn svcUuid service
          ([.btGattDmStart conn svcUuid 0,
              .discoveryCallback conn (.service service.handle perm service.val) (.some first)
                (.some second),
              .gattDiscoverWork 0]
            ++ attributes ++ [finishes conn, .gattDiscoverWork 0]
            ++ characteristics ++ [finishes conn])

/-- The requests for a service, as the stack takes them. -/
def serviceRequests (conn : Option Conn) (svcUuid : Option BtUuid) (service : GattService)
    : List GattDmEvent :=
  [.discover conn ⟨.primary, svcUuid, 1, 0xffff⟩, .returned 0]
    ++ (if service.handle = service.val.endHandle then [] else
        [.discover conn ⟨.attribute, none, service.handle + 1, service.val.endHandle⟩])
    ++ if service.attributes = [] then [] else
        [.discover conn ⟨.characteristic, none, service.handle + 1, service.val.endHandle⟩]

/-- The end of the reports of attributes. -/
theorem HoldingIn.attributesEnd (holding : dm.Holding conn params rows)
    (type : params.type = .attribute)
    : dm.step (finishes conn) = dm.discoveryAttributesEnd := by
  rw [finishes, holding.callback]
  simp [discoveryCallback, holding.conn, holding.params, type]

/-- The end of the reports of characteristics. -/
theorem HoldingIn.characteristicsEnd (holding : dm.Holding conn params rows)
    (type : params.type = .characteristic)
    : dm.step (finishes conn) = dm.discoveryComplete := by
  rw [finishes, holding.callback]
  simp [discoveryCallback, holding.conn, holding.params, type]

/-- Behind the attributes, the characteristics are asked for. -/
theorem HoldingIn.asksCharacteristics {service next : AttrRow} {rest : List AttrRow}
    (holding : dm.Holding conn params (service :: next :: rest))
    (type : params.type = .attribute) (small : service.handle < 0xffff)
    : HoldingIn .queued (dm.step (finishes conn)).1 conn
          { params with type := .characteristic, startHandle := service.handle + 1 }
          (service :: next :: rest)
      ∧ (dm.step (finishes conn)).2 = [] := by
  obtain ⟨first, others, attrs, isFirst, isOthers⟩ := List.map_eq_cons_iff.mp holding.rows
  obtain ⟨second, more, rfl, -, -⟩ := List.map_eq_cons_iff.mp isOthers
  have handle : first.handle = service.handle := congrArg AttrRow.handle isFirst
  have wraps : (service.handle + 1) % 0x10000 = service.handle + 1 := by omega
  have asks : dm.step (finishes conn) = (dm.submitDiscoverWork { params with
      type := .characteristic, startHandle := service.handle + 1 }, []) := by
    rw [holding.attributesEnd type, discoveryAttributesEnd, attrs]
    simp only [handle, wraps, holding.params]
  rw [asks]
  exact ⟨holding.submits _, rfl⟩

theorem attributes_of_empty {service : GattService}
    (empty : service.handle = service.val.endHandle) : service.attributes = [] := by
  rcases isCons : service.attributes with _ | ⟨row, rest⟩
  · rfl
  · have member : row ∈ serviceRows service.leading service.characteristics := by
      change row ∈ service.attributes
      rw [isCons]
      exact List.mem_cons_self
    obtain ⟨above, below⟩ := service.inRange row member
    omega

/-- What the attributes tell of the rows. -/
theorem found_attributes (service : GattService)
    : service.attributes.map (fun row => AttrRow.found row.handle row.uuid)
      = service.leading.map plainRow ++ service.characteristics.flatMap foundRows := by
  have plain {member : Nat × BtUuid} (isPlain : ¬ btUuidGattChrc.Same member.2)
      : AttrRow.found (plainRow member).handle (plainRow member).uuid = plainRow member := by
    have different : ¬ (plainRow member).uuid.Same btUuidGattChrc := fun same =>
      isPlain same.symm
    rw [AttrRow.found, if_neg different]
    rfl
  have plains {members : List (Nat × BtUuid)}
      (arePlain : ∀ member ∈ members, ¬ btUuidGattChrc.Same member.2)
      : (members.map plainRow).map (fun row => AttrRow.found row.handle row.uuid)
        = members.map plainRow := by
    rw [List.map_map]
    exact List.map_congr_left fun member isMember => plain (arePlain member isMember)
  obtain ⟨leading, others⟩ := List.forall_mem_append.mp service.plain
  rw [GattService.attributes, serviceRows, List.map_append, plains leading, List.map_flatMap]
  congr 1
  refine List.flatMap_congr fun characteristic isOne => ?_
  rw [GattCharacteristic.rows, foundRows, List.map_cons, plains]
  · rfl
  · intro member isMember
    exact others member (List.mem_flatMap.mpr ⟨characteristic, isOne, isMember⟩)

theorem rows_ascending (service : GattService)
    : (service.rows.map AttrRow.handle).Pairwise (· < ·) := by
  rw [GattService.rows, List.map_cons, List.pairwise_cons]
  refine ⟨fun handle member => ?_, service.ascending⟩
  obtain ⟨row, isRow, rfl⟩ := List.mem_map.mp member
  exact (service.inRange row isRow).1

/-- A run from one state to another, and what the outside sees of it. -/
def Takes (dm : BtGattDm) (inputs : List GattDmInput) (after : BtGattDm)
    (events : List GattDmEvent) : Prop :=
  (gattDm.run dm inputs).1 = after ∧ (gattDm.run dm inputs).2.filter GattDmEvent.outward = events

theorem Takes.trans {between after : BtGattDm} {inputs more : List GattDmInput}
    {events others : List GattDmEvent} (first : Takes dm inputs between events)
    (second : Takes between more after others)
    : Takes dm (inputs ++ more) after (events ++ others) := by
  obtain ⟨rfl, rfl⟩ := first
  obtain ⟨rfl, rfl⟩ := second
  unfold Takes
  rw [InputMachine.run_append, List.filter_append]
  exact ⟨rfl, rfl⟩

theorem takes_step (dm : BtGattDm) (input : GattDmInput)
    : Takes dm [input] (dm.step input).1 ((dm.step input).2.filter GattDmEvent.outward) := by
  unfold Takes
  rw [InputMachine.run_cons, InputMachine.run_nil, List.append_nil]
  exact ⟨rfl, rfl⟩

/-- The work item sends the request that is in mind, and nothing else. -/
theorem HoldingIn.takes_work (queued : HoldingIn .queued dm conn params rows)
    : Takes dm [.gattDiscoverWork 0] (dm.step (.gattDiscoverWork 0)).1
        [.discover conn params] := by
  have takes := takes_step dm (.gattDiscoverWork 0)
  rwa [queued.work.2] at takes

theorem HoldingIn.takes_completion (holding : dm.Holding conn params rows)
    {input : GattDmInput} (ends : dm.step input = dm.discoveryComplete)
    : Takes dm [input] dm.discoveryComplete.1 [.completed conn dm.table.attrs] := by
  have takes := takes_step dm input
  rw [ends] at takes
  rw [← holding.conn]
  exact takes

/-- The calls that bring the service's declaration, and what is left to do behind it. -/
theorem takes_service (idle : dm.In .idle) (conn : Option Conn) {svcUuid : Option BtUuid}
    (supported : ∀ val, svcUuid ≠ some (.uuid32 val)) (service : GattService) (perm : Nat)
    (first second : HeapBuffer)
    : ∃ stored : BtGattDm,
      stored.Holding conn ⟨.primary, svcUuid, 1, service.val.endHandle⟩
        [⟨service.handle, btUuidGattPrimary, .service service.val⟩]
      ∧ if service.handle = service.val.endHandle then
          Takes dm [.btGattDmStart conn svcUuid 0,
              .discoveryCallback conn (.service service.handle perm service.val) (some first)
                (some second)]
            stored.discoveryComplete.1
            ([.discover conn ⟨.primary, svcUuid, 1, 0xffff⟩, .returned 0]
              ++ stored.discoveryComplete.2)
        else
          Takes dm [.btGattDmStart conn svcUuid 0,
              .discoveryCallback conn (.service service.handle perm service.val) (some first)
                (some second)]
            (stored.submitDiscoverWork
              ⟨.attribute, none, service.handle + 1, service.val.endHandle⟩)
            [.discover conn ⟨.primary, svcUuid, 1, 0xffff⟩, .returned 0] := by
  obtain ⟨started, events⟩ := start_holding idle conn supported
  obtain ⟨stored, heap, holding, quiet, reported⟩ :=
    started.service rfl service perm first second
  have start := takes_step dm (.btGattDmStart conn svcUuid 0)
  have report := start.trans (takes_step _
    (.discoveryCallback conn (.service service.handle perm service.val) (some first)
      (some second)))
  rw [events] at report
  refine ⟨stored, holding, ?_⟩
  split
  · next empty =>
      rw [reported, if_pos empty, List.filter_append, quiet] at report
      exact report
  · next range =>
      rw [reported, if_neg range, quiet] at report
      exact report

/-- From the attributes' request to the table, for a service with attributes. -/
theorem HoldingIn.full {service : GattService} {attributes characteristics : List GattDmInput}
    (queued : HoldingIn .queued dm conn
      ⟨.attribute, none, service.handle + 1, service.val.endHandle⟩
      [⟨service.handle, btUuidGattPrimary, .service service.val⟩])
    (fits : service.rows.length ≤ gattDmMaxAttrs) (some : service.attributes ≠ [])
    (reported : List.Forall₂ (ReportsAttribute conn) service.attributes attributes)
    (described : List.Forall₂ (ReportsCharacteristic conn) service.characteristics
      characteristics)
    : ∃ filled : BtGattDm,
      filled.Holding conn
        ⟨.characteristic, none, service.handle + 1, service.val.endHandle⟩ service.rows
      ∧ Takes dm ([.gattDiscoverWork 0] ++ attributes ++ [finishes conn]
          ++ [.gattDiscoverWork 0] ++ characteristics ++ [finishes conn])
        filled.discoveryComplete.1
        [.discover conn ⟨.attribute, none, service.handle + 1, service.val.endHandle⟩,
          .discover conn ⟨.characteristic, none, service.handle + 1, service.val.endHandle⟩,
          .completed conn filled.table.attrs] := by
  have range : service.handle < 0xffff := by
    have differs : service.handle ≠ service.val.endHandle := fun empty =>
      some (attributes_of_empty empty)
    obtain ⟨within, bounded⟩ := service.endsWithin
    omega
  obtain ⟨asked, asking⟩ := queued.work
  obtain ⟨found, quiet⟩ := asked.attributes rfl (by simpa [GattService.rows, Nat.add_comm]
    using fits) reported
  obtain ⟨next, rest, isCons⟩ : ∃ next rest, (service.attributes.map fun row =>
      AttrRow.found row.handle row.uuid) = next :: rest :=
    List.exists_cons_of_ne_nil (by simpa using some)
  rw [List.singleton_append, isCons] at found
  obtain ⟨queuedNext, nothing⟩ := found.asksCharacteristics rfl range
  obtain ⟨askedNext, askingNext⟩ := queuedNext.work
  rw [← isCons, found_attributes, ← List.cons_append] at askedNext
  obtain ⟨filled, quietNext⟩ := askedNext.characteristics rfl
    (by simpa [GattService.rows, GattService.attributes, serviceRows]
      using rows_ascending service) described
  refine ⟨_, filled, ?_⟩
  have reports := queued.takes_work.trans ⟨rfl, quiet⟩
  have ends := reports.trans (takes_step _ (finishes conn))
  rw [nothing] at ends
  have describes := (ends.trans queuedNext.takes_work).trans ⟨rfl, quietNext⟩
  exact describes.trans (filled.takes_completion (filled.characteristicsEnd rfl))

/-- A service that fits the table is handed to the application as the server has it, after
requests for its own range.
-/
theorem gattDm_discovers {conn : Option Conn} {svcUuid : Option BtUuid} {service : GattService}
    {inputs : List GattDmInput} (idle : dm.In .idle)
    (supported : ∀ val, svcUuid ≠ some (.uuid32 val))
    (fits : service.rows.length ≤ gattDmMaxAttrs)
    (discovery : ServiceDiscovery conn svcUuid service inputs)
    : HoldingIn .complete (gattDm.run dm inputs).1 conn
        (gattDm.run dm inputs).1.discoverParams service.rows
      ∧ (gattDm.run dm inputs).2.filter GattDmEvent.outward
        = serviceRequests conn svcUuid service
          ++ [.completed conn (gattDm.run dm inputs).1.table.attrs] := by
  have settled {filled : BtGattDm} {params : GattDiscoverParams} {inputs : List GattDmInput}
      (holding : filled.Holding conn params service.rows)
      (takes : Takes dm inputs filled.discoveryComplete.1
        (serviceRequests conn svcUuid service ++ [.completed conn filled.table.attrs]))
      : HoldingIn .complete (gattDm.run dm inputs).1 conn
          (gattDm.run dm inputs).1.discoverParams service.rows
        ∧ (gattDm.run dm inputs).2.filter GattDmEvent.outward
          = serviceRequests conn svcUuid service
            ++ [.completed conn (gattDm.run dm inputs).1.table.attrs] := by
    rw [takes.1, takes.2]
    exact ⟨{ holding.completes with params := rfl }, rfl⟩
  cases discovery with
  | @empty perm first second nothing =>
      obtain ⟨stored, holding, takes⟩ :=
        takes_service idle conn supported service perm first second
      have none := attributes_of_empty nothing
      have rows : stored.Holding conn ⟨.primary, svcUuid, 1, service.val.endHandle⟩
          service.rows := by
        rw [GattService.rows, none]
        exact holding
      rw [if_pos nothing] at takes
      apply settled rows
      rw [serviceRequests, if_pos nothing, if_pos none]
      refine ⟨takes.1, takes.2.trans ?_⟩
      simp [discoveryComplete, holding.conn]
  | @bare perm first second range nothing =>
      obtain ⟨stored, holding, takes⟩ :=
        takes_service idle conn supported service perm first second
      rw [if_neg range] at takes
      obtain ⟨asked, asking⟩ := (holding.submits _).work
      have isRows : [⟨service.handle, btUuidGattPrimary, .service service.val⟩]
          = service.rows := by
        rw [GattService.rows, nothing]
      obtain ⟨first, others, attrs, -, isOthers⟩ := List.map_eq_cons_iff.mp asked.rows
      obtain rfl := List.map_eq_nil_iff.mp isOthers
      have type : (⟨.attribute, none, service.handle + 1, service.val.endHandle⟩
          : GattDiscoverParams).type = .attribute := rfl
      have ends := asked.attributesEnd type
      rw [discoveryAttributesEnd, attrs] at ends
      have completes := (takes.trans (holding.submits _).takes_work).trans
        (asked.takes_completion ends)
      apply settled (isRows ▸ asked)
      rw [serviceRequests, if_neg range, if_pos nothing]
      exact completes
  | @full perm first second attributes characteristics some reported described =>
      obtain ⟨stored, holding, takes⟩ :=
        takes_service idle conn supported service perm first second
      have range : service.handle ≠ service.val.endHandle := fun empty =>
        some (attributes_of_empty empty)
      rw [if_neg range] at takes
      obtain ⟨filled, rows, fills⟩ :=
        (holding.submits _).full fits some reported described
      have all := takes.trans fills
      apply settled rows
      refine ⟨?_, ?_⟩
      · rw [← all.1]
        simp
      · rw [serviceRequests, if_neg range, if_neg some, List.append_assoc]
        refine Eq.trans ?_ all.2
        simp

-----------------------------------------------------------------------------------------
-- A service that does not fit
-----------------------------------------------------------------------------------------

/-- An attribute that the table has no room for ends the discovery, a declaration the program. -/
theorem HoldingIn.overflows (holding : dm.Holding conn params rows)
    (type : params.type = .attribute) (full : rows.length = gattDmMaxAttrs) {row : AttrRow}
    {input : GattDmInput} (reports : ReportsAttribute conn row input)
    : dm.step input
      = if row.uuid.Same btUuidGattChrc then dm.fault
        else dm.discoveryCompleteError (-enomem) := by
  obtain ⟨perm, first, second⟩ := reports
  have refuses (userData : UserData)
      : dm.table.attrStore row.handle perm row.uuid userData (some first) = none := by
    have length : dm.table.attrs.length = gattDmMaxAttrs := by
      rw [← full, ← holding.rows, List.length_map]
    rw [GattDmTable.attrStore, if_pos length.ge]
  rw [holding.callback]
  simp only [discoveryCallback, holding.conn, holding.params, type, ne_eq, not_true_eq_false,
    if_false, discoveryProcessAttribute, refuses]

theorem HoldingIn.faults (holding : dm.Holding conn params rows)
    : dm.fault.1.In .faulted := by
  have asking := holding.isIn
  simp_all [In, flags, GattDmPhase.flags, fault]

theorem HoldingIn.gives_up (holding : dm.Holding conn params rows) (err : Int)
    : (dm.discoveryCompleteError err).1.In .idle
      ∧ (dm.discoveryCompleteError err).2.filter GattDmEvent.outward
        = [.errorFound conn err] := by
  have asking := holding.isIn
  constructor
  · simp_all [In, flags, GattDmPhase.flags, discoveryCompleteError, discoveryEnds,
      memoryRelease]
  · have quiet := frees_outward dm.table
    unfold frees at quiet
    rw [discoveryCompleteError, discoveryEnds, memoryRelease, List.filter_append, quiet,
      holding.conn]
    rfl

/-- A battery service: one characteristic, with its descriptor. -/
def batteryService : GattService where
  handle := 40
  val := ⟨.uuid16 0x180F, 43⟩
  leading := []
  characteristics := [⟨41, ⟨.uuid16 0x2A19, 42, 0x12⟩, [(43, btUuidGattCcc)]⟩]
  nonzero := by decide
  ascending := by decide
  inRange := by decide
  endsWithin := by decide
  plain := by decide

/-- The calls of its discovery. -/
def batteryInputs : List GattDmInput :=
  [.btGattDmStart (some 1) (some (.uuid16 0x180F)) 0,
      .discoveryCallback (some 1) (.service 40 0 batteryService.val) (some 7) (some 8),
      .gattDiscoverWork 0]
    ++ attributeReports (some 1) 9 batteryService.attributes
    ++ [finishes (some 1), .gattDiscoverWork 0]
    ++ characteristicReports (some 1) 9 batteryService.characteristics ++ [finishes (some 1)]

theorem batteryInputs_discover
    : ServiceDiscovery (some 1) (some (.uuid16 0x180F)) batteryService batteryInputs :=
  .full (by decide) (attributeReports_report _ _ _) (characteristicReports_report _ _ _)

theorem gattDm_discovers_battery
    : HoldingIn .complete (gattDm.run boot batteryInputs).1 (some 1)
        (gattDm.run boot batteryInputs).1.discoverParams batteryService.rows
      ∧ (gattDm.run boot batteryInputs).2.filter GattDmEvent.outward
        = serviceRequests (some 1) (some (.uuid16 0x180F)) batteryService
          ++ [.completed (some 1) (gattDm.run boot batteryInputs).1.table.attrs] :=
  gattDm_discovers rfl nofun (by decide) batteryInputs_discover

/-- With the service, the table has room for 34 attributes. The next one makes the discovery
fail if it declares nothing; a declaration is stored through NULL.
-/
theorem gattDm_overflows {conn : Option Conn} {svcUuid : Option BtUuid} {service : GattService}
    {perm : Nat} {first second : HeapBuffer} {front rest : List AttrRow} {row : AttrRow}
    {attributes : List GattDmInput} {input : GattDmInput} (idle : dm.In .idle)
    (supported : ∀ val, svcUuid ≠ some (.uuid32 val))
    (split : service.attributes = front ++ row :: rest)
    (full : front.length + 1 = gattDmMaxAttrs)
    (reported : List.Forall₂ (ReportsAttribute conn) front attributes)
    (report : ReportsAttribute conn row input)
    : ∃ after : BtGattDm,
      Takes dm ([.btGattDmStart conn svcUuid 0,
            .discoveryCallback conn (.service service.handle perm service.val) (some first)
              (some second)]
          ++ [.gattDiscoverWork 0] ++ attributes ++ [input]) after
        [.discover conn ⟨.primary, svcUuid, 1, 0xffff⟩, .returned 0,
          .discover conn ⟨.attribute, none, service.handle + 1, service.val.endHandle⟩,
          if row.uuid.Same btUuidGattChrc then .fault else .errorFound conn (-enomem)]
      ∧ after.In (if row.uuid.Same btUuidGattChrc then .faulted else .idle) := by
  have range : service.handle ≠ service.val.endHandle := by
    intro empty
    have none := attributes_of_empty empty
    rw [split] at none
    exact List.append_ne_nil_of_right_ne_nil _ (List.cons_ne_nil _ _) none
  obtain ⟨stored, holding, takes⟩ := takes_service idle conn supported service perm first second
  rw [if_neg range] at takes
  have queued := holding.submits
    ⟨.attribute, none, service.handle + 1, service.val.endHandle⟩
  obtain ⟨found, quiet⟩ := queued.work.1.attributes rfl (by simp; omega) reported
  have last := found.overflows rfl (by simp; omega) report
  have reaches := (takes.trans queued.takes_work).trans ⟨rfl, quiet⟩
  have all := reaches.trans (takes_step _ input)
  rw [last] at all
  split at all
  · next declares =>
      rw [if_pos declares, if_pos declares]
      exact ⟨_, all, found.faults⟩
  · next plain =>
      obtain ⟨freed, told⟩ := found.gives_up (-enomem)
      rw [told] at all
      rw [if_neg plain, if_neg plain]
      exact ⟨_, all, freed⟩

/-- A service with 34 attributes in front of its only characteristic. -/
def crowdedService : GattService where
  handle := 1
  val := ⟨.uuid16 0x180F, 37⟩
  leading := (List.range 34).map fun i => (i + 2, .uuid16 0x2802)
  characteristics := [⟨36, ⟨.uuid16 0x2A19, 37, 0x12⟩, []⟩]
  nonzero := by decide
  ascending := by decide
  inRange := by decide
  endsWithin := by decide
  plain := by decide

theorem gattDm_overflows_crowded
    : ∃ after : BtGattDm,
      Takes boot ([.btGattDmStart (some 1) none 0,
            .discoveryCallback (some 1) (.service 1 0 crowdedService.val) (some 7) (some 8)]
          ++ [.gattDiscoverWork 0]
          ++ attributeReports (some 1) 9 (crowdedService.leading.map plainRow)
          ++ [.discoveryCallback (some 1) (.plain 36 0 btUuidGattChrc) (some 9) (some 9)]) after
        [.discover (some 1) ⟨.primary, none, 1, 0xffff⟩, .returned 0,
          .discover (some 1) ⟨.attribute, none, 2, 37⟩, .fault]
      ∧ after.In .faulted :=
  @gattDm_overflows boot (some 1) none crowdedService 0 7 8
    (crowdedService.leading.map plainRow) _ ⟨36, btUuidGattChrc, .chrc ⟨.uuid16 0x2A19, 37, 0x12⟩⟩
    _ _ rfl nofun rfl (by decide) (attributeReports_report (some 1) 9 _) (.intro 0 9 9)

end BtGattDm

end GoproGateway
