import GoproGateway.Gatt.Lookup
import GoproGateway.Library.InputMachine
import GoproGateway.Link.Connection
import GoproGateway.Reply.CanReply

/-! The discovery procedure of the GATT Discovery Manager, from `nrf_hal/gatt_dm.c`.

One input is one call from outside: of the interface, of the work item, or of the callback by
the stack, with the stack's and the heap's answers. The stack calls back while a request is
outstanding, with what the request's type asks for. Access through NULL ends the program.
-/

namespace GoproGateway

def esrch : Int := 3
def efault : Int := 14

/-- `params->type`, of the types that the manager asks for. -/
inductive GattDiscoverType where
  | primary
  | attribute
  | characteristic
  deriving DecidableEq, Repr

structure GattDiscoverParams where
  type : GattDiscoverType
  uuid : Option BtUuid
  startHandle : Nat
  endHandle : Nat
  deriving DecidableEq, Repr

/-- `struct bt_gatt_dm`, with what the stack and the work queue hold of it. -/
structure BtGattDm where
  conn : Option Conn
  discoverParams : GattDiscoverParams
  table : GattDmTable
  /-- `STATE_ATTRS_LOCKED`. -/
  locked : Bool
  /-- `STATE_ATTRS_RELEASE_PENDING`. -/
  releasePending : Bool
  /-- `discover_work` is submitted. -/
  discoverWork : Bool
  /-- The stack has taken a request and not been told to stop. -/
  requested : Bool
  faulted : Bool
  deriving DecidableEq, Repr

/-- An attribute that the stack reports, or the end of a request. -/
inductive DiscoverReport where
  | service (handle perm : Nat) (val : GattServiceVal)
  | plain (handle perm : Nat) (uuid : BtUuid)
  | chrc (handle : Nat) (val : GattChrc)
  | finished
  deriving DecidableEq, Repr

inductive GattDmEvent where
  /-- `k_calloc` brought a chunk. -/
  | calloc (chunk : HeapBuffer)
  | free (chunk : HeapBuffer)
  /-- `bt_gatt_discover` takes a request. -/
  | discover (conn : Option Conn) (params : GattDiscoverParams)
  /-- `callback->completed`, which may read the table until it releases it. -/
  | completed (conn : Option Conn) (attrs : List GattDmAttr)
  | serviceNotFound (conn : Option Conn)
  | errorFound (conn : Option Conn) (err : Int)
  /-- Access through NULL. -/
  | fault
  | returned (err : Int)
  deriving DecidableEq, Repr

inductive GattDmInput where
  /-- `err` is what `bt_gatt_discover` returns, if it is called. -/
  | btGattDmStart (conn : Option Conn) (svcUuid : Option BtUuid) (err : Int)
  | gattDiscoverWork (err : Int)
  /-- `first` and `second` are what `k_calloc` answers, if it is called. -/
  | discoveryCallback (conn : Option Conn) (report : DiscoverReport)
      (first second : Option HeapBuffer)
  | btGattDmDataRelease
  deriving DecidableEq, Repr

namespace BtGattDm

/-- `bt_gatt_dm_inst` at boot. -/
def boot : BtGattDm where
  conn := none
  discoverParams := ⟨.primary, none, 0, 0⟩
  table := .empty
  locked := false
  releasePending := false
  discoverWork := false
  requested := false
  faulted := false

/-- `svc_attr_memory_release`. -/
def memoryRelease (dm : BtGattDm) : BtGattDm × List GattDmEvent :=
  ({ dm with table := .empty }, dm.table.pool.chunks.map .free)

/-- `discovery_complete`. -/
def discoveryComplete (dm : BtGattDm) : BtGattDm × List GattDmEvent :=
  ({ dm with releasePending := true, requested := false }, [.completed dm.conn dm.table.attrs])

/-- The end of a discovery without a table, for `callback`. -/
def discoveryEnds (dm : BtGattDm) (callback : GattDmEvent) : BtGattDm × List GattDmEvent :=
  let (released, events) := dm.memoryRelease
  ({ released with locked := false, requested := false }, events ++ [callback])

/-- `discovery_complete_not_found`. -/
def discoveryCompleteNotFound (dm : BtGattDm) : BtGattDm × List GattDmEvent :=
  dm.discoveryEnds (.serviceNotFound dm.conn)

/-- `discovery_complete_error`. -/
def discoveryCompleteError (dm : BtGattDm) (err : Int) : BtGattDm × List GattDmEvent :=
  dm.discoveryEnds (.errorFound dm.conn err)

def fault (dm : BtGattDm) : BtGattDm × List GattDmEvent :=
  ({ dm with faulted := true, requested := false }, [.fault])

/-- The table takes the place of the old one, whose chunks it has. -/
def setTable (dm : BtGattDm) (table : GattDmTable) : BtGattDm × List GattDmEvent :=
  ({ dm with table }, (dm.table.pool.acquired table.pool).map .calloc)

/-- The next request is left to the work item. -/
def submitDiscoverWork (dm : BtGattDm) (params : GattDiscoverParams) : BtGattDm :=
  { dm with discoverParams := params, discoverWork := true, requested := false }

def discoveryProcessService (dm : BtGattDm) (handle perm : Nat) (val : GattServiceVal)
    (first second : Option HeapBuffer) : BtGattDm × List GattDmEvent :=
  match dm.table.attrStore handle perm btUuidGattPrimary (.service val) first with
  | none => dm.discoveryCompleteError (-enomem)
  | some stored =>
      let (dm, storing) := dm.setTable stored
      match stored.uuidStore (stored.attrs.length - 1) (.service val) val.uuid second with
      | none =>
          let (dm, events) := dm.discoveryCompleteError (-enomem)
          (dm, storing ++ events)
      | some table =>
          let (dm, copying) := dm.setTable table
          let params := { dm.discoverParams with endHandle := val.endHandle }
          if handle = val.endHandle then
            -- an empty service
            let (dm, events) := { dm with discoverParams := params }.discoveryComplete
            (dm, storing ++ copying ++ events)
          else
            (dm.submitDiscoverWork { params with
                type := .attribute, uuid := none, startHandle := (handle + 1) % 0x10000 },
              storing ++ copying)

def discoveryProcessAttribute (dm : BtGattDm) (handle perm : Nat) (uuid : BtUuid)
    (fresh : Option HeapBuffer) : BtGattDm × List GattDmEvent :=
  if uuid.Same btUuidGattChrc then
    -- the data is looked up through the pointer before the pointer is checked
    match dm.table.attrStore handle perm uuid (.chrc ⟨uuid, 0, 0⟩) fresh with
    | none => dm.fault
    | some table => dm.setTable table
  else
    match dm.table.attrStore handle perm uuid .none fresh with
    | none => dm.discoveryCompleteError (-enomem)
    | some table => dm.setTable table

/-- `discovery_process_attribute` without an attribute. -/
def discoveryAttributesEnd (dm : BtGattDm) : BtGattDm × List GattDmEvent :=
  match dm.table.attrs with
  | service :: _ :: _ =>
      (dm.submitDiscoverWork { dm.discoverParams with
          type := .characteristic, startHandle := (service.handle + 1) % 0x10000 }, [])
  | _ => dm.discoveryComplete

def discoveryProcessCharacteristic (dm : BtGattDm) (handle : Nat) (val : GattChrc)
    (fresh : Option HeapBuffer) : BtGattDm × List GattDmEvent :=
  match attrFindByHandle dm.table.attrs handle with
  | none => dm.discoveryCompleteError (-esrch)
  | some position =>
      match dm.table.attrs[position]?.bind GattDmAttr.chrcVal with
      | none => dm.fault
      | some _ =>
          match dm.table.uuidStore position (.chrc val) val.uuid fresh with
          | none => dm.discoveryCompleteError (-enomem)
          | some table => dm.setTable table

def discoveryCallback (dm : BtGattDm) (conn : Option Conn) (report : DiscoverReport)
    (first second : Option HeapBuffer) : BtGattDm × List GattDmEvent :=
  if conn ≠ dm.conn then dm.discoveryCompleteError (-efault)
  else
    match dm.discoverParams.type, report with
    | .primary, .finished => dm.discoveryCompleteNotFound
    | .primary, .service handle perm val =>
        dm.discoveryProcessService handle perm val first second
    | .attribute, .finished => dm.discoveryAttributesEnd
    | .attribute, .plain handle perm uuid =>
        dm.discoveryProcessAttribute handle perm uuid first
    | .characteristic, .finished => dm.discoveryComplete
    | .characteristic, .chrc handle val => dm.discoveryProcessCharacteristic handle val first
    | _, _ => (dm, [])

def gattDiscoverWork (dm : BtGattDm) (err : Int) : BtGattDm × List GattDmEvent :=
  let dm := { dm with discoverWork := false }
  if dm.locked = false then (dm, [])
  else if err ≠ 0 then dm.discoveryCompleteError (-enomem)
  else ({ dm with requested := true }, [.discover dm.conn dm.discoverParams])

def btGattDmStart (dm : BtGattDm) (conn : Option Conn) (svcUuid : Option BtUuid) (err : Int)
    : BtGattDm × List GattDmEvent :=
  match svcUuid with
  | some (.uuid32 _) => (dm, [.returned (-einval)])
  | _ =>
      if dm.locked then (dm, [.returned (-ealready)])
      else
        let params : GattDiscoverParams := ⟨.primary, svcUuid, 0x0001, 0xffff⟩
        -- the list of chunks starts anew, whatever was on it
        let dm := { dm with
          conn, discoverParams := params, table := .empty, discoverWork := false }
        if err ≠ 0 then (dm, [.returned err])
        else ({ dm with locked := true, requested := true },
          [.discover conn params, .returned 0])

def btGattDmDataRelease (dm : BtGattDm) : BtGattDm × List GattDmEvent :=
  if dm.releasePending then
    let (dm, events) := { dm with releasePending := false, discoverWork := false }.memoryRelease
    ({ dm with locked := false }, events ++ [.returned 0])
  else (dm, [.returned (-ealready)])

def step (dm : BtGattDm) (input : GattDmInput) : BtGattDm × List GattDmEvent :=
  if dm.faulted then (dm, [])
  else
    match input with
    | .btGattDmStart conn svcUuid err => dm.btGattDmStart conn svcUuid err
    | .gattDiscoverWork err => if dm.discoverWork then dm.gattDiscoverWork err else (dm, [])
    | .discoveryCallback conn report first second =>
        if dm.requested then dm.discoveryCallback conn report first second else (dm, [])
    | .btGattDmDataRelease => dm.btGattDmDataRelease

end BtGattDm

def gattDm : InputMachine BtGattDm GattDmInput GattDmEvent where
  step := BtGattDm.step

end GoproGateway
