import GoproGateway.Client.Declarations
import GoproGateway.Library.ChunkPool
import GoproGateway.Library.SortedSearch
import Mathlib.Data.Nat.Basic

/-! The attribute table of the GATT Discovery Manager, from `nrf_hal/gatt_dm.c`.

The table is the used part of `attrs`, and a pointer into it is a position. An attribute keeps
its UUID, and the data in front of it, in a piece of the instance's chunks; sizes are those of
a 32-bit target.
-/

namespace GoproGateway

/-- `struct bt_uuid` with its three kinds of values. -/
inductive BtUuid where
  | uuid16 (val : Nat)
  | uuid32 (val : Nat)
  | uuid128 (val : Nat)
  deriving DecidableEq, Repr

namespace BtUuid

/-- The 128-bit value; the short kinds stand in the Bluetooth base UUID. -/
def value128 : BtUuid → Nat
  | .uuid16 val | .uuid32 val =>
      val * 0x1000000000000000000000000 + 0x0000000000001000800000805F9B34FB
  | .uuid128 val => val

/-- `bt_uuid_cmp(u, v) == 0`. -/
def Same (u v : BtUuid) : Prop := u.value128 = v.value128

instance (u v : BtUuid) : Decidable (u.Same v) := inferInstanceAs (Decidable (_ = _))

theorem Same.symm {u v : BtUuid} (same : u.Same v) : v.Same u := Eq.symm same

theorem Same.trans {u v w : BtUuid} (first : u.Same v) (second : v.Same w) : u.Same w :=
  Eq.trans first second

end BtUuid

def btUuidGattPrimary : BtUuid := .uuid16 0x2800
def btUuidGattChrc : BtUuid := .uuid16 0x2803
def btUuidGattCcc : BtUuid := .uuid16 0x2902

/-- `struct bt_gatt_service_val`. -/
structure GattServiceVal where
  uuid : BtUuid
  endHandle : Nat
  deriving DecidableEq, Repr

/-- `struct bt_gatt_chrc`. -/
structure GattChrc where
  uuid : BtUuid
  valueHandle : Nat
  properties : Nat
  deriving DecidableEq, Repr

/-- What stands in front of an attribute's UUID. -/
inductive UserData where
  | none
  | service (val : GattServiceVal)
  | chrc (val : GattChrc)
  deriving DecidableEq, Repr

/-- `struct bt_gatt_dm_attr`, with the data in front of its UUID. `data` is the piece of memory
that holds both, and `uuidData` the one that holds the copy of the UUID inside the data.
-/
structure GattDmAttr where
  uuid : BtUuid
  handle : Nat
  perm : Nat
  userData : UserData
  data : Extent HeapBuffer
  uuidData : Option (Extent HeapBuffer)
  deriving DecidableEq, Repr

/-- `CONFIG_BT_GATT_DM_MAX_ATTRS`. -/
def gattDmMaxAttrs : Nat := 35

/-- `CHUNK_DATA_SIZE`. -/
def chunkDataSize : Nat := 128 - 4 - 4

/-- `DATA_ALIGN`. -/
def dataAlign : Nat := 4

/-- The stored attributes, in order, and the memory behind them. -/
structure GattDmTable where
  attrs : List GattDmAttr
  pool : ChunkPool HeapBuffer
  deriving DecidableEq, Repr

/-- Size of the UUID structure. -/
def getUuidSize : BtUuid → Nat
  | .uuid16 _ => 4
  | .uuid32 _ => 8
  | .uuid128 _ => 17

/-- Size of the additional buffer. -/
def UserData.size : UserData → Nat
  | .none => 0
  | .service _ | .chrc _ => 8

def userDataAlloc (pool : ChunkPool HeapBuffer) (len : Nat) (fresh : Option HeapBuffer)
    : Option (ChunkPool HeapBuffer × Extent HeapBuffer) :=
  pool.alloc chunkDataSize ((len + dataAlign - 1) / dataAlign * dataAlign) fresh

namespace GattDmTable

def empty : GattDmTable := ⟨[], .empty⟩

/-- `attr_store`, and what its callers put in front of the UUID. `fresh` is what `k_calloc`
answers if a chunk is needed.
-/
def attrStore (table : GattDmTable) (handle perm : Nat) (uuid : BtUuid) (userData : UserData)
    (fresh : Option HeapBuffer) : Option GattDmTable :=
  if gattDmMaxAttrs ≤ table.attrs.length then none
  else
    (userDataAlloc table.pool (userData.size + getUuidSize uuid) fresh).map
      fun (pool, data) =>
        { attrs := table.attrs ++ [⟨uuid, handle, perm, userData, data, none⟩], pool }

/-- The data of the attribute at a position is overwritten, and its UUID copied with
`uuid_store`.
-/
def uuidStore (table : GattDmTable) (position : Nat) (userData : UserData) (uuid : BtUuid)
    (fresh : Option HeapBuffer) : Option GattDmTable :=
  (userDataAlloc table.pool (getUuidSize uuid) fresh).map fun (pool, data) =>
    { attrs := table.attrs.modify position
        fun attr => { attr with userData, uuidData := some data }
      pool }

end GattDmTable

-----------------------------------------------------------------------------------------
-- Lookups
-----------------------------------------------------------------------------------------

/-- `bt_gatt_dm_attr_chrc_val`: what stands in front of the UUID of a declaration. -/
def GattDmAttr.chrcVal (attr : GattDmAttr) : Option GattChrc :=
  if btUuidGattChrc.Same attr.uuid then
    match attr.userData with
    | .chrc val => some val
    | .none | .service _ => none
  else none

/-- `bt_gatt_dm_attr_service_val` for a primary service. -/
def GattDmAttr.serviceVal (attr : GattDmAttr) : Option GattServiceVal :=
  if btUuidGattPrimary.Same attr.uuid then
    match attr.userData with
    | .service val => some val
    | .none | .chrc _ => none
  else none

def attrFindByHandle (attrs : List GattDmAttr) (handle : Nat) : Option Nat :=
  if attrs.length = 0 then none
  else
    SortedSearch.search (SortedSearch.probeKey GattDmAttr.handle attrs handle) attrs.length
      0 (attrs.length - 1)

/-- The next declaration behind `prev`, or behind the first attribute. -/
def btGattDmCharNext (attrs : List GattDmAttr) (prev : Option Nat) : Option Nat :=
  let start := prev.getD 0 + 1
  ((attrs.drop start).findIdx? fun attr => btUuidGattChrc.Same attr.uuid).map (start + ·)

/-- The loop of `bt_gatt_dm_char_by_uuid`; `fuel` bounds the number of its turns. -/
def charByUuidLoop (attrs : List GattDmAttr) (uuid : BtUuid) : Nat → Option Nat → Option Nat
  | 0, _ => none
  | fuel + 1, curr =>
      match btGattDmCharNext attrs curr with
      | none => none
      | some next =>
          if (attrs[next]?.bind GattDmAttr.chrcVal).any fun val => uuid.Same val.uuid then some next
          else charByUuidLoop attrs uuid fuel (some next)

def btGattDmCharByUuid (attrs : List GattDmAttr) (uuid : BtUuid) : Option Nat :=
  charByUuidLoop attrs uuid attrs.length none

def btGattDmAttrNext (attrs : List GattDmAttr) (prev : Option Nat) : Option Nat :=
  let next := prev.getD 0 + 1
  if next < attrs.length then some next else none

def btGattDmDescNext (attrs : List GattDmAttr) (prev : Option Nat) : Option Nat :=
  match btGattDmAttrNext attrs prev with
  | none => none
  | some curr =>
      if attrs[curr]?.any fun attr => btUuidGattChrc.Same attr.uuid then none else some curr

/-- The loop of `bt_gatt_dm_desc_by_uuid`; `fuel` bounds the number of its turns. -/
def descByUuidLoop (attrs : List GattDmAttr) (uuid : BtUuid) : Nat → Option Nat → Option Nat
  | 0, _ => none
  | fuel + 1, curr =>
      match btGattDmDescNext attrs curr with
      | none => none
      | some next =>
          if attrs[next]?.any fun attr => uuid.Same attr.uuid then some next
          else descByUuidLoop attrs uuid fuel (some next)

def btGattDmDescByUuid (attrs : List GattDmAttr) (attrChrc : Nat) (uuid : BtUuid) : Option Nat :=
  descByUuidLoop attrs uuid attrs.length (some attrChrc)

-----------------------------------------------------------------------------------------
-- What the two stores do
-----------------------------------------------------------------------------------------

/-- Every request for user data fits a chunk. -/
theorem userData_fits (userData : UserData) (uuid : BtUuid)
    : (userData.size + getUuidSize uuid + dataAlign - 1) / dataAlign * dataAlign
      ≤ chunkDataSize := by
  have pieces : userData.size ≤ 8 ∧ getUuidSize uuid ≤ 17 := by
    cases userData <;> cases uuid <;> simp [UserData.size, getUuidSize]
  simp only [dataAlign, chunkDataSize]
  omega

theorem attrStore_eq_some_iff {table after : GattDmTable} {handle perm : Nat} {uuid : BtUuid}
    {userData : UserData} {fresh : Option HeapBuffer}
    : table.attrStore handle perm uuid userData fresh = some after
      ↔ table.attrs.length < gattDmMaxAttrs
        ∧ ∃ data, userDataAlloc table.pool (userData.size + getUuidSize uuid) fresh
            = some (after.pool, data)
          ∧ after.attrs = table.attrs ++ [⟨uuid, handle, perm, userData, data, none⟩] := by
  rw [GattDmTable.attrStore]
  split
  · next full => simp [Nat.not_lt_of_le full]
  · next room =>
      simp only [Nat.lt_of_not_le room, true_and, Option.map_eq_some_iff, Prod.exists]
      constructor
      · rintro ⟨pool, data, allocated, rfl⟩
        exact ⟨data, allocated, rfl⟩
      · rintro ⟨data, allocated, attrs⟩
        exact ⟨after.pool, data, allocated, by rw [← attrs]⟩

theorem uuidStore_eq_some_iff {table after : GattDmTable} {position : Nat}
    {userData : UserData} {uuid : BtUuid} {fresh : Option HeapBuffer}
    : table.uuidStore position userData uuid fresh = some after
      ↔ ∃ data, userDataAlloc table.pool (getUuidSize uuid) fresh = some (after.pool, data)
        ∧ after.attrs = table.attrs.modify position
            fun attr => { attr with userData, uuidData := some data } := by
  simp only [GattDmTable.uuidStore, Option.map_eq_some_iff, Prod.exists]
  constructor
  · rintro ⟨pool, data, allocated, rfl⟩
    exact ⟨data, allocated, rfl⟩
  · rintro ⟨data, allocated, attrs⟩
    exact ⟨after.pool, data, allocated, by rw [← attrs]⟩

/-- Where the handles ascend, the search by handle is a lookup. -/
theorem attrFindByHandle_eq {attrs : List GattDmAttr}
    (ascending : attrs.Pairwise fun a b => a.handle < b.handle) (handle : Nat)
    : (attrFindByHandle attrs handle).bind (attrs[·]?)
      = attrs.find? (·.handle = handle) := by
  rw [attrFindByHandle]
  split
  · next nothing => simp [List.length_eq_zero_iff.mp nothing]
  · exact SortedSearch.search_probeKey ascending handle

end GoproGateway
