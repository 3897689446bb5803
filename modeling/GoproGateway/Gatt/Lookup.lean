import GoproGateway.Gatt.Table

/-! Lookups in a discovered service.

A server's service is a list of characteristics, each with the attributes behind its
declaration. Where the table holds the rows of a service, the two loops over positions find
what a reader of the service finds.
-/

namespace GoproGateway

/-- An attribute without its memory. -/
structure AttrRow where
  handle : Nat
  uuid : BtUuid
  userData : UserData
  deriving DecidableEq, Repr

def GattDmAttr.row (attr : GattDmAttr) : AttrRow := ⟨attr.handle, attr.uuid, attr.userData⟩

/-- The attribute declares a characteristic. -/
def AttrRow.declares (row : AttrRow) : Bool := btUuidGattChrc.Same row.uuid

/-- The attribute declares a characteristic with this UUID. -/
def AttrRow.declaresUuid (uuid : BtUuid) (row : AttrRow) : Bool :=
  match row.userData with
  | .chrc val => row.declares && decide (uuid.Same val.uuid)
  | .none | .service _ => false

/-- An attribute that declares nothing. -/
def plainRow (member : Nat × BtUuid) : AttrRow := ⟨member.1, member.2, .none⟩

/-- A characteristic of a server: its declaration, and the attributes behind its value. -/
structure GattCharacteristic where
  handle : Nat
  val : GattChrc
  descriptors : List (Nat × BtUuid)
  deriving DecidableEq, Repr

namespace GattCharacteristic

/-- The attributes behind the declaration: the value and its descriptors. -/
def members (characteristic : GattCharacteristic) : List (Nat × BtUuid) :=
  (characteristic.val.valueHandle, characteristic.val.uuid) :: characteristic.descriptors

def declaration (characteristic : GattCharacteristic) : AttrRow :=
  ⟨characteristic.handle, btUuidGattChrc, .chrc characteristic.val⟩

def rows (characteristic : GattCharacteristic) : List AttrRow :=
  characteristic.declaration :: characteristic.members.map plainRow

/-- The handle of the first attribute behind the declaration that has the UUID. -/
def memberHandle (characteristic : GattCharacteristic) (uuid : BtUuid) : Option Nat :=
  (characteristic.members.find? fun member => uuid.Same member.2).map (·.1)

end GattCharacteristic

/-- The rows behind a service's declaration. -/
def serviceRows (leading : List (Nat × BtUuid)) (characteristics : List GattCharacteristic)
    : List AttrRow :=
  leading.map plainRow ++ characteristics.flatMap GattCharacteristic.rows

/-- A primary service of a server. Handles ascend, and only declarations have the UUID of
declarations. `leading` are the attributes in front of the first characteristic.
-/
structure GattService where
  handle : Nat
  val : GattServiceVal
  leading : List (Nat × BtUuid)
  characteristics : List GattCharacteristic
  nonzero : 0 < handle
  ascending : ((serviceRows leading characteristics).map AttrRow.handle).Pairwise (· < ·)
  inRange : ∀ row ∈ serviceRows leading characteristics,
    handle < row.handle ∧ row.handle ≤ val.endHandle
  endsWithin : handle ≤ val.endHandle ∧ val.endHandle ≤ 0xFFFF
  plain : ∀ member ∈ leading ++ characteristics.flatMap GattCharacteristic.members,
    ¬ btUuidGattChrc.Same member.2

namespace GattService

def attributes (service : GattService) : List AttrRow :=
  serviceRows service.leading service.characteristics

def rows (service : GattService) : List AttrRow :=
  ⟨service.handle, btUuidGattPrimary, .service service.val⟩ :: service.attributes

/-- The handle of the attribute `desc` of the first characteristic `chrc`. -/
def handleOf (service : GattService) (chrc desc : BtUuid) : Option Nat :=
  (service.characteristics.find? fun characteristic => chrc.Same characteristic.val.uuid).bind
    (·.memberHandle desc)

end GattService

-----------------------------------------------------------------------------------------
-- The loops as searches over rows
-----------------------------------------------------------------------------------------

section Loops

variable {attrs : List GattDmAttr}

theorem any_declaresUuid (uuid : BtUuid) (attr : GattDmAttr)
    : attr.chrcVal.any (fun val => uuid.Same val.uuid) = attr.row.declaresUuid uuid := by
  unfold GattDmAttr.chrcVal AttrRow.declaresUuid AttrRow.declares GattDmAttr.row
  cases attr.userData with
  | none | service val => split <;> rfl
  | chrc val =>
      dsimp only
      split
      · next declares => simp [declares]
      · next plain => simp [plain]

/-- What a position and what is behind it say about the list. -/
theorem drop_cons {start : Nat} {attr : GattDmAttr} {rest : List GattDmAttr}
    (suffix : attrs.drop start = attr :: rest)
    : attrs[start]? = some attr ∧ attrs.drop (start + 1) = rest := by
  constructor
  · have head := congrArg List.head? suffix
    rwa [List.head?_drop] at head
  · rw [← List.drop_drop, suffix]
    rfl

theorem charNext_nil {curr : Option Nat} (suffix : attrs.drop (curr.getD 0 + 1) = [])
    : btGattDmCharNext attrs curr = none := by
  simp [btGattDmCharNext, suffix]

theorem map_shift (found : Option Nat) (start : Nat)
    : (found.map (· + 1)).map (start + ·) = found.map (start + 1 + ·) := by
  rw [Option.map_map]
  congr 1
  funext i
  simp only [Function.comp_apply]
  omega

theorem charNext_cons {curr : Option Nat} {attr : GattDmAttr} {rest : List GattDmAttr}
    (suffix : attrs.drop (curr.getD 0 + 1) = attr :: rest)
    : btGattDmCharNext attrs curr
      = if attr.row.declares then some (curr.getD 0 + 1)
        else btGattDmCharNext attrs (some (curr.getD 0 + 1)) := by
  obtain ⟨-, behind⟩ := drop_cons suffix
  have decides : decide (btUuidGattChrc.Same attr.uuid) = attr.row.declares := rfl
  unfold btGattDmCharNext
  simp only [suffix, List.findIdx?_cons, Option.getD_some, behind, decides, ← map_shift]
  split
  · rfl
  · rfl

/-- The loop finds the first declaration with the UUID behind its position. -/
theorem charByUuidLoop_eq (uuid : BtUuid) {fuel : Nat} {curr : Option Nat}
    (fueled : (attrs.drop (curr.getD 0 + 1)).length ≤ fuel)
    : charByUuidLoop attrs uuid fuel curr
      = ((attrs.drop (curr.getD 0 + 1)).findIdx? fun attr => attr.row.declaresUuid uuid).map
          (curr.getD 0 + 1 + ·) := by
  obtain ⟨suffix, isSuffix⟩ : ∃ suffix, attrs.drop (curr.getD 0 + 1) = suffix := ⟨_, rfl⟩
  rw [isSuffix] at fueled ⊢
  induction suffix generalizing fuel curr with
  | nil =>
      cases fuel with
      | zero => rfl
      | succ fuel =>
          rw [charByUuidLoop, charNext_nil isSuffix]
          rfl
  | cons attr rest ih =>
      obtain ⟨here, behind⟩ := drop_cons isSuffix
      cases fuel with
      | zero => simp at fueled
      | succ fuel =>
          have later : rest.length ≤ fuel := Nat.le_of_succ_le_succ fueled
          rw [List.findIdx?_cons]
          by_cases declares : attr.row.declares = true
          · rw [charByUuidLoop, charNext_cons isSuffix, if_pos declares]
            dsimp only
            rw [here, Option.bind_some, any_declaresUuid]
            split
            · simp
            · rw [@ih fuel (some (curr.getD 0 + 1)) later behind, map_shift]
              rfl
          · have other : attr.row.declaresUuid uuid = false := by
              unfold AttrRow.declaresUuid
              split <;> simp [declares]
            have skipped : charByUuidLoop attrs uuid (fuel + 1) curr
                = charByUuidLoop attrs uuid (fuel + 1) (some (curr.getD 0 + 1)) := by
              rw [charByUuidLoop, charByUuidLoop, charNext_cons isSuffix, if_neg declares]
            rw [skipped, other, if_neg Bool.false_ne_true, map_shift,
              @ih _ (some (curr.getD 0 + 1)) (Nat.le_succ_of_le later) behind]
            rfl

theorem btGattDmCharByUuid_eq (attrs : List GattDmAttr) (uuid : BtUuid)
    : btGattDmCharByUuid attrs uuid
      = ((attrs.drop 1).findIdx? fun attr => attr.row.declaresUuid uuid).map (1 + ·) := by
  have fueled : (attrs.drop 1).length ≤ attrs.length := by simp
  exact @charByUuidLoop_eq _ uuid _ none fueled

/-- The attribute at a position ends the characteristic in front of it. -/
theorem descNext_nil {curr : Nat} (suffix : attrs.drop (curr + 1) = [])
    : btGattDmDescNext attrs (some curr) = none := by
  have short : ¬ curr + 1 < attrs.length := by
    have length := congrArg List.length suffix
    simp only [List.length_drop, List.length_nil] at length
    omega
  simp [btGattDmDescNext, btGattDmAttrNext, short]

theorem descNext_cons {curr : Nat} {attr : GattDmAttr} {rest : List GattDmAttr}
    (suffix : attrs.drop (curr + 1) = attr :: rest)
    : btGattDmDescNext attrs (some curr)
      = if attr.row.declares then none else some (curr + 1) := by
  obtain ⟨here, -⟩ := drop_cons suffix
  have long : curr + 1 < attrs.length := (List.getElem?_eq_some_iff.mp here).1
  simp only [btGattDmDescNext, btGattDmAttrNext, Option.getD_some, if_pos long, here,
    Option.any_some]
  rfl

/-- The loop finds the first attribute with the UUID, up to the next declaration. -/
theorem descByUuidLoop_eq (uuid : BtUuid) {fuel curr : Nat}
    (fueled : (attrs.drop (curr + 1)).length ≤ fuel)
    : descByUuidLoop attrs uuid fuel (some curr)
      = (((attrs.drop (curr + 1)).takeWhile fun attr => !attr.row.declares).findIdx?
          fun attr => uuid.Same attr.uuid).map (curr + 1 + ·) := by
  obtain ⟨suffix, isSuffix⟩ : ∃ suffix, attrs.drop (curr + 1) = suffix := ⟨_, rfl⟩
  rw [isSuffix] at fueled ⊢
  induction suffix generalizing fuel curr with
  | nil =>
      cases fuel with
      | zero => rfl
      | succ fuel =>
          rw [descByUuidLoop, descNext_nil isSuffix]
          rfl
  | cons attr rest ih =>
      obtain ⟨here, behind⟩ := drop_cons isSuffix
      cases fuel with
      | zero => simp at fueled
      | succ fuel =>
          have later : rest.length ≤ fuel := Nat.le_of_succ_le_succ fueled
          rw [descByUuidLoop, descNext_cons isSuffix, List.takeWhile_cons]
          cases attr.row.declares with
          | true => rfl
          | false =>
              simp only [Bool.false_eq_true, if_false, Bool.not_false, if_true,
                List.findIdx?_cons, here, Option.any_some]
              split
              · simp
              · rw [ih later behind, map_shift]

theorem btGattDmDescByUuid_eq (attrs : List GattDmAttr) (attrChrc : Nat) (uuid : BtUuid)
    : btGattDmDescByUuid attrs attrChrc uuid
      = (((attrs.drop (attrChrc + 1)).takeWhile fun attr => !attr.row.declares).findIdx?
          fun attr => uuid.Same attr.uuid).map (attrChrc + 1 + ·) := by
  have fueled : (attrs.drop (attrChrc + 1)).length ≤ attrs.length := by simp
  exact descByUuidLoop_eq uuid fueled

end Loops

-----------------------------------------------------------------------------------------
-- A table that holds a service
-----------------------------------------------------------------------------------------

/-- The handle of the attribute `desc` of the first characteristic `chrc`, as the handle
assignments look it up.
-/
def descHandle (attrs : List GattDmAttr) (chrc desc : BtUuid) : Option Nat :=
  ((btGattDmCharByUuid attrs chrc).bind (btGattDmDescByUuid attrs · desc)).bind
    fun position => attrs[position]?.map GattDmAttr.handle

/-- The same lookup in the rows behind a service's declaration. -/
def rowHandle (rows : List AttrRow) (chrc desc : BtUuid) : Option Nat :=
  (rows.findIdx? (AttrRow.declaresUuid chrc)).bind fun position =>
    (((rows.drop (position + 1)).takeWhile fun row => !row.declares).find?
      fun row => desc.Same row.uuid).map AttrRow.handle

/-- What a search finds in the entries from a position on is at the position it returns. -/
theorem findIdx?_bind_getElem? {α : Type} {p : α → Bool} {entries kept : List α} {start : Nat}
    (isPrefix : kept <+: entries.drop start)
    : ((kept.findIdx? p).map (start + ·)).bind (entries[·]?) = kept.find? p := by
  obtain ⟨rest, split⟩ := isPrefix
  rw [List.find?_eq_bind_findIdx?_getElem?]
  cases isFound : kept.findIdx? p with
  | none => rfl
  | some found =>
      have within := (List.findIdx?_eq_some_iff_getElem.mp isFound).1
      simp only [Option.map_some, Option.bind_some, ← List.getElem?_drop, ← split]
      exact List.getElem?_append_left within

theorem descHandle_eq (attrs : List GattDmAttr) (chrc desc : BtUuid)
    : descHandle attrs chrc desc
      = rowHandle ((attrs.drop 1).map GattDmAttr.row) chrc desc := by
  unfold descHandle rowHandle
  rw [btGattDmCharByUuid_eq, List.findIdx?_map, Option.bind_map, Option.bind_assoc]
  congr 1
  funext position
  have after : 1 + position + 1 = 1 + (position + 1) := by omega
  have isPrefix : ((attrs.drop (1 + position + 1)).takeWhile fun attr => !attr.row.declares)
      <+: attrs.drop (1 + position + 1) := List.takeWhile_prefix _
  have handles (index : Option Nat)
      : (index.bind fun position => attrs[position]?.map GattDmAttr.handle)
        = (index.bind (attrs[·]?)).map GattDmAttr.handle := by
    cases index <;> rfl
  rw [Function.comp_apply, btGattDmDescByUuid_eq, handles, findIdx?_bind_getElem? isPrefix,
    after, ← List.drop_drop, ← List.map_drop, List.takeWhile_map, List.find?_map,
    Option.map_map]
  rfl

/-- A row that does not declare the characteristic is passed over. -/
theorem rowHandle_cons {row : AttrRow} {chrc : BtUuid} (other : row.declaresUuid chrc = false)
    (rows : List AttrRow) (desc : BtUuid)
    : rowHandle (row :: rows) chrc desc = rowHandle rows chrc desc := by
  unfold rowHandle
  rw [List.findIdx?_cons, other, if_neg Bool.false_ne_true, Option.bind_map]
  rfl

/-- Attributes that declare nothing are passed over. -/
theorem rowHandle_plain (members : List (Nat × BtUuid)) (rows : List AttrRow)
    (chrc desc : BtUuid)
    : rowHandle (members.map plainRow ++ rows) chrc desc = rowHandle rows chrc desc := by
  induction members with
  | nil => rfl
  | cons member rest ih =>
      rw [List.map_cons, List.cons_append, rowHandle_cons rfl]
      exact ih

/-- A declaration with another UUID is passed over. -/
theorem rowHandle_other {characteristic : GattCharacteristic} {chrc : BtUuid}
    (other : ¬ chrc.Same characteristic.val.uuid) (rows : List AttrRow) (desc : BtUuid)
    : rowHandle (characteristic.rows ++ rows) chrc desc = rowHandle rows chrc desc := by
  have passed : characteristic.declaration.declaresUuid chrc = false := by
    simp [AttrRow.declaresUuid, GattCharacteristic.declaration, other]
  rw [GattCharacteristic.rows, List.cons_append, rowHandle_cons passed]
  exact rowHandle_plain _ _ _ _

/-- A declaration with the UUID ends the search for it. -/
theorem rowHandle_same {characteristic : GattCharacteristic} {chrc : BtUuid}
    (same : chrc.Same characteristic.val.uuid)
    (plain : ∀ member ∈ characteristic.members, ¬ btUuidGattChrc.Same member.2)
    (characteristics : List GattCharacteristic) (desc : BtUuid)
    : rowHandle (characteristic.rows ++ characteristics.flatMap GattCharacteristic.rows)
        chrc desc
      = characteristic.memberHandle desc := by
  have declared : characteristic.declaration.declaresUuid chrc = true := by
    have own : btUuidGattChrc.Same btUuidGattChrc := rfl
    simp [AttrRow.declaresUuid, AttrRow.declares, GattCharacteristic.declaration, same, own]
  have stops : ((characteristics.flatMap GattCharacteristic.rows).takeWhile
      fun row => !row.declares) = [] := by
    cases characteristics with
    | nil => rfl
    | cons next rest => rfl
  have members : ∀ row ∈ characteristic.members.map plainRow, (!row.declares) = true := by
    intro row isMember
    obtain ⟨member, inMembers, rfl⟩ := List.mem_map.mp isMember
    have silent : (plainRow member).declares = false := decide_eq_false (plain member inMembers)
    rw [silent]
    rfl
  unfold rowHandle
  rw [GattCharacteristic.rows, List.cons_append, List.findIdx?_cons, declared, if_pos rfl,
    Option.bind_some, List.drop_succ_cons, List.drop_zero,
    List.takeWhile_append_of_pos members, stops, List.append_nil, List.find?_map,
    Option.map_map]
  rfl

/-- Lookups by row find what the service has. -/
theorem rowHandle_characteristics {characteristics : List GattCharacteristic}
    (plain : ∀ characteristic ∈ characteristics,
      ∀ member ∈ characteristic.members, ¬ btUuidGattChrc.Same member.2)
    (chrc desc : BtUuid)
    : rowHandle (characteristics.flatMap GattCharacteristic.rows) chrc desc
      = (characteristics.find? fun characteristic => chrc.Same characteristic.val.uuid).bind
          (·.memberHandle desc) := by
  induction characteristics with
  | nil => rfl
  | cons characteristic rest ih =>
      obtain ⟨here, later⟩ := List.forall_mem_cons.mp plain
      rw [List.flatMap_cons, List.find?_cons]
      by_cases same : chrc.Same characteristic.val.uuid
      · rw [rowHandle_same same here, decide_eq_true same]
        rfl
      · rw [rowHandle_other same, decide_eq_false same]
        exact ih later

/-- Where the table holds a service, the loops find the handles that the service has. -/
theorem descHandle_service {attrs : List GattDmAttr} {service : GattService}
    (holds : attrs.map GattDmAttr.row = service.rows) (chrc desc : BtUuid)
    : descHandle attrs chrc desc = service.handleOf chrc desc := by
  have plain : ∀ characteristic ∈ service.characteristics,
      ∀ member ∈ characteristic.members, ¬ btUuidGattChrc.Same member.2 := by
    intro characteristic isOne member isMember
    apply service.plain
    exact List.mem_append_right _ (List.mem_flatMap.mpr ⟨characteristic, isOne, isMember⟩)
  rw [descHandle_eq, List.map_drop, holds]
  exact (rowHandle_plain _ _ _ _).trans (rowHandle_characteristics plain chrc desc)

end GoproGateway
