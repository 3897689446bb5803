import GoproGateway.Client.Declarations
import GoproGateway.Library.InputMachine

/-! The connection to the camera, from `gopro_ble_discovery.c`.

One input is one callback, one turn of a work item, or one resumption of the finish handler
after a semaphore. The Bluetooth stack's answers are part of the inputs. An input that the
stack or the kernel cannot deliver in a state leaves the state as it is.
-/

namespace GoproGateway

/-- A connection object; the stack may use one again after a disconnection. -/
abbrev Conn := Nat

/-- A camera's address. -/
abbrev Peer := Nat

/-- Number of services in `uuid_list`. -/
def uuidListLength : Nat := 3

/-- The stack's only connection, or its attempt at one. -/
inductive Link where
  | down
  | connecting (conn : Conn) (peer : Peer)
  | up (conn : Conn) (peer : Peer)
  deriving DecidableEq, Repr

/-- A service discovery that the stack has not finished: for which connection, and for which
entry of `uuid_list`.
-/
structure Discovery where
  conn : Conn
  peer : Peer
  index : Nat
  deriving DecidableEq, Repr

/-- Where `discovery_finish_work_handler` is: not running, waiting for one of the two reads,
or past the setting of the connected state.
-/
inductive FinishPhase where
  | idle
  | ssid
  | pass
  | polling
  deriving DecidableEq, Repr

structure LinkState where
  /-- `gopro_state.state`. -/
  state : GoproStateList
  /-- `GP_FLAG_FORCE_CONNECT` of `gopro_client.state`. -/
  forceConnect : Bool
  defaultConn : Option Conn
  /-- `gopro_client.conn`. -/
  clientConn : Option Conn
  link : Link
  /-- The peer of the latest connection, current or past. -/
  latestPeer : Option Peer
  scanning : Bool
  /-- `scan_work` is scheduled. -/
  scanWork : Bool
  /-- `discovery_start_work` is submitted. -/
  startWork : Bool
  /-- The static variable of `discovery_start_work_handler`. -/
  uuidIndex : Nat
  discovery : Option Discovery
  /-- `discovery_finish_work` is submitted. -/
  finishWork : Bool
  finish : FinishPhase
  /-- Reads that the stack has accepted and not answered. -/
  reads : Nat
  bleReadSem : Bool
  /-- The services whose handles were assigned with result 0, by peer. -/
  assigned : List (Peer × Nat)
  deriving DecidableEq, Repr

/-- After `gopro_bt_start`. -/
def LinkState.boot : LinkState where
  state := .unknown
  forceConnect := false
  defaultConn := none
  clientConn := none
  link := .down
  latestPeer := none
  scanning := false
  scanWork := true
  startWork := false
  uuidIndex := 0
  discovery := none
  finishWork := false
  finish := .idle
  reads := 0
  bleReadSem := false
  assigned := []

/-- How `scan_work_handler` ends. -/
inductive ScanOutcome where
  | stopFails
  | setupFails
  | starts
  deriving DecidableEq, Repr

/-- How `ble_connect` ends, if it is called; a creation brings a new connection object. -/
inductive ConnectOutcome where
  | stopFails
  | createFails
  | creates (conn : Conn)
  deriving DecidableEq, Repr

/-- An element of an advertising report: the camera's state, with what comes of a connection
attempt, or one that does not matter here.
-/
inductive AdvElement where
  | cameraState (value : UInt8) (connect : ConnectOutcome)
  | other
  deriving DecidableEq, Repr

/-- The result of a security procedure. -/
inductive SecurityResult where
  | success
  | pinOrKeyMissing
  | otherError
  deriving DecidableEq, Repr

inductive LinkInput where
  | scanWorkHandler (outcome : ScanOutcome)
  /-- An advertising report of a matching peer, element by element. -/
  | advReport (peer : Peer) (elements : List AdvElement)
  /-- `connected` for the pending attempt; `security` tells whether the request for security
  is accepted. -/
  | connected (failed security : Bool)
  | disconnected
  | securityChanged (result : SecurityResult)
  /-- `discovery_start_work_handler`, with whether the stack accepts the discovery. -/
  | discoveryStartWorkHandler (accepted : Bool)
  /-- `discovery_complete`, with whether the handles are assigned with result 0. -/
  | discoveryComplete (assigned : Bool)
  | discoveryServiceNotFound
  | discoveryError
  /-- `discovery_finish_work_handler` starts, and its first read is accepted or not. -/
  | finishStart (accepted : Bool)
  /-- It resumes after the first read, and its second read is accepted or not. -/
  | finishSsidRead (accepted : Bool)
  /-- It resumes after the second read and sets the connected state. -/
  | finishPassRead
  | finishEnd
  /-- A read callback, which gives the semaphore whatever the result of the read. -/
  | onRead
  | ledIdleHandler
  /-- The control command that forces a connection. -/
  | forceConnectCmd
  deriving DecidableEq, Repr

namespace LinkState

def scanWorkHandler (s : LinkState) (outcome : ScanOutcome) : LinkState :=
  match outcome with
  | .stopFails => { s with scanWork := false }
  | .setupFails => { s with scanWork := false, scanning := false }
  | .starts => { s with scanWork := false, scanning := true }

/-- `ble_connect`; the stack refuses to create a connection over one that is still held. -/
def bleConnect (s : LinkState) (peer : Peer) (outcome : ConnectOutcome) : LinkState :=
  match outcome with
  | .stopFails => s
  | .createFails => { s with scanning := false }
  | .creates conn =>
      if s.defaultConn = none ∧ s.link = .down then
        { s with scanning := false, defaultConn := some conn, link := .connecting conn peer }
      else { s with scanning := false }

/-- `eir_found`. -/
def eirFound (s : LinkState) (peer : Peer) (element : AdvElement) : LinkState :=
  match element with
  | .other => s
  | .cameraState value connect =>
      if value = 0 then
        let s := { s with state := .offline }
        if s.forceConnect then s.bleConnect peer connect else s
      else if value = 1 then
        let s := { s with state := .online }
        s.bleConnect peer connect
      else if value = 5 then
        let s := { s with state := .pairing }
        s.bleConnect peer connect
      else s

def gattDiscover (s : LinkState) (conn : Conn) : LinkState :=
  if s.defaultConn = some conn then { s with startWork := true } else s

def connected (s : LinkState) (conn : Conn) (peer : Peer) (failed security : Bool)
    : LinkState :=
  if failed then
    let s := { s with link := .down }
    if s.defaultConn = some conn then { s with defaultConn := none, scanWork := true } else s
  else
    let s := { s with link := .up conn peer, latestPeer := some peer }
    if security then s else s.gattDiscover conn

def disconnected (s : LinkState) (conn : Conn) : LinkState :=
  let s := { s with link := .down }
  if s.defaultConn = some conn then { s with defaultConn := none, scanWork := true } else s

def securityChanged (s : LinkState) (conn : Conn) (result : SecurityResult) : LinkState :=
  match result with
  | .success => s.gattDiscover conn
  -- The disconnection that follows an error is an input of its own.
  | .pinOrKeyMissing => { s with state := .needPairing }
  | .otherError => s

/-- The index is advanced whether or not the stack accepts the discovery, which it does for a
live connection with no other discovery in progress.
-/
def discoveryStartWorkHandler (s : LinkState) (accepted : Bool) : LinkState :=
  let s := { s with startWork := false }
  if s.uuidIndex ≥ uuidListLength then { s with finishWork := true }
  else
    let discovery :=
      match s.discovery, s.link with
      | none, .up conn peer =>
          if accepted ∧ s.defaultConn = some conn then some ⟨conn, peer, s.uuidIndex⟩ else none
      | discovery, _ => discovery
    { s with discovery, uuidIndex := s.uuidIndex + 1 }

/-- The result of the assignment is not looked at, but only a successful one stores the
connection.
-/
def discoveryComplete (s : LinkState) (discovery : Discovery) (assigned : Bool)
    : LinkState :=
  let s :=
    if assigned then
      {
        s with
        clientConn := some discovery.conn
        assigned := (discovery.peer, discovery.index) :: s.assigned
      }
    else s
  { s with discovery := none, startWork := true }

/-- `bt_gopro_client_get`, without a look at its result. -/
def clientGet (s : LinkState) (accepted : Bool) : LinkState :=
  if accepted ∧ s.clientConn ≠ none then { s with reads := s.reads + 1 } else s

def ledIdleHandler (s : LinkState) : LinkState :=
  if s.state ≠ .unknown then { s with state := .unknown } else s

/-- One input. -/
def step (s : LinkState) : LinkInput → LinkState
  | .scanWorkHandler outcome => if s.scanWork then s.scanWorkHandler outcome else s
  | .advReport peer elements =>
      if s.scanning then elements.foldl (fun s element => s.eirFound peer element) s else s
  | .connected failed security =>
      match s.link with
      | .connecting conn peer => s.connected conn peer failed security
      | _ => s
  | .disconnected =>
      match s.link with
      | .up conn _ => s.disconnected conn
      | _ => s
  | .securityChanged result =>
      match s.link with
      | .up conn _ => s.securityChanged conn result
      | _ => s
  | .discoveryStartWorkHandler accepted =>
      if s.startWork then s.discoveryStartWorkHandler accepted else s
  | .discoveryComplete assigned =>
      match s.discovery with
      | some discovery => s.discoveryComplete discovery assigned
      | none => s
  | .discoveryServiceNotFound =>
      if s.discovery ≠ none then { s with discovery := none, startWork := true } else s
  | .discoveryError => { s with discovery := none }
  | .finishStart accepted =>
      if s.finishWork ∧ s.finish = .idle then
        ({ s with finishWork := false, finish := .ssid } : LinkState).clientGet accepted
      else s
  | .finishSsidRead accepted =>
      if s.finish = .ssid ∧ s.bleReadSem then
        ({ s with finish := .pass, bleReadSem := false } : LinkState).clientGet accepted
      else s
  | .finishPassRead =>
      if s.finish = .pass ∧ s.bleReadSem then
        { s with finish := .polling, bleReadSem := false, state := .connected }
      else s
  | .finishEnd =>
      if s.finish = .polling then { s with finish := .idle, forceConnect := false } else s
  | .onRead => if 0 < s.reads then { s with reads := s.reads - 1, bleReadSem := true } else s
  | .ledIdleHandler => s.ledIdleHandler
  | .forceConnectCmd => { s with forceConnect := true }

end LinkState

/-- The connection over whole input sequences. -/
def linkMachine : InputMachine LinkState LinkInput Empty where
  step s input := (s.step input, [])

/-- A first session, from the scan to the connected state. -/
def firstSession : List LinkInput :=
  [
    .scanWorkHandler .starts, .advReport 1 [.cameraState 1 (.creates 7)],
    .connected false true, .securityChanged .success,
    .discoveryStartWorkHandler true, .discoveryComplete true,
    .discoveryStartWorkHandler true, .discoveryComplete true,
    .discoveryStartWorkHandler true, .discoveryComplete true,
    .discoveryStartWorkHandler true,
    .finishStart true, .onRead, .finishSsidRead true, .onRead, .finishPassRead
  ]

end GoproGateway
