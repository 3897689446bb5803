import GoproGateway.Link.Connection

/-! When a session starts with every service discovered.

The index of `discovery_start_work_handler` counts attempts: a refused start, a missing
service, an error and a failed assignment all leave their service behind for good, and the
index outlives the connection. Without these, it counts services with assigned handles.
-/

namespace GoproGateway

namespace LinkState

/-- `discovery_finish_work_handler` is about to set the connected state. -/
def SetsConnected (s : LinkState) (input : LinkInput) : Prop :=
  input = .finishPassRead ∧ s.finish = .pass ∧ s.bleReadSem = true

/-- Each service of `uuid_list` was assigned with result 0 for the latest peer. -/
def AllAssigned (s : LinkState) : Prop :=
  ∃ peer, s.latestPeer = some peer ∧ ∀ index < uuidListLength, (peer, index) ∈ s.assigned

instance (s : LinkState) (input : LinkInput) : Decidable (s.SetsConnected input) :=
  inferInstanceAs (Decidable (_ ∧ _ ∧ _))

/-- `bt_gatt_dm_start` starts a discovery. -/
def Starts (s : LinkState) (accepted : Bool) : Prop :=
  accepted = true ∧ ∃ conn peer, s.link = .up conn peer ∧ s.defaultConn = some conn

/-- Steps that leave no service behind: no attempt at a service is refused, overtaken by
another turn of the work item, or fails, and progress made for one peer is not counted for
another.
-/
def Discovers (s : LinkState) : LinkInput → Prop
  | .discoveryStartWorkHandler accepted => s.startWork = true
      → s.discovery = none ∧ (s.uuidIndex < uuidListLength → s.Starts accepted)
  | .discoveryComplete assigned => s.discovery ≠ none → assigned = true
  | .discoveryServiceNotFound => s.discovery = none
  | .discoveryError => s.discovery = none
  | .connected failed _ => ∀ conn peer, s.link = .connecting conn peer → failed = false
      → 0 < s.uuidIndex → s.latestPeer = some peer
  | _ => True

/-- What the index says while no service is left behind. -/
structure DiscoveryOrder (s : LinkState) : Prop where
  reached : ∀ index < s.uuidIndex, ∃ peer, s.latestPeer = some peer
    ∧ ((peer, index) ∈ s.assigned ∨ ∃ conn, s.discovery = some ⟨conn, peer, index⟩)
  finishing : s.finishWork = true ∨ s.finish = .ssid ∨ s.finish = .pass
    → uuidListLength ≤ s.uuidIndex ∧ s.discovery = none
  linked : ∀ conn peer, s.link = .up conn peer → s.latestPeer = some peer

/-- At the end of the list and with nothing in progress, every service is assigned. -/
theorem DiscoveryOrder.allAssigned {s : LinkState} (order : s.DiscoveryOrder)
    (listEnd : uuidListLength ≤ s.uuidIndex) (settled : s.discovery = none)
    : s.AllAssigned := by
  have first : 0 < s.uuidIndex := Nat.lt_of_lt_of_le (by decide) listEnd
  obtain ⟨peer, latest, -⟩ := order.reached 0 first
  refine ⟨peer, latest, ?_⟩
  intro index inList
  obtain ⟨other, isLatest, assigned | ⟨conn, pending⟩⟩ :=
    order.reached index (Nat.lt_of_lt_of_le inList listEnd)
  · obtain rfl : peer = other := Option.some.inj (latest.symm.trans isLatest)
    exact assigned
  · rw [settled] at pending
    cases pending

/-- The variables that the order is about, apart from the link. -/
def progress (s : LinkState)
    : Nat × Option Peer × List (Peer × Nat) × Option Discovery × Bool × FinishPhase :=
  (s.uuidIndex, s.latestPeer, s.assigned, s.discovery, s.finishWork, s.finish)

/-- A step that makes no progress and brings no link up keeps the order. -/
theorem DiscoveryOrder.frame {before after : LinkState} (order : before.DiscoveryOrder)
    (same : after.progress = before.progress)
    (links : ∀ conn peer, after.link = .up conn peer → before.link = .up conn peer)
    : after.DiscoveryOrder := by
  simp only [progress, Prod.mk.injEq] at same
  obtain ⟨index, latest, assigned, discovery, finishWork, finish⟩ := same
  constructor
  · rw [index, latest, assigned, discovery]
    exact order.reached
  · rw [index, discovery, finishWork, finish]
    exact order.finishing
  · intro conn peer up
    rw [latest]
    exact order.linked conn peer (links conn peer up)

theorem bleConnect_progress (s : LinkState) (peer : Peer) (outcome : ConnectOutcome)
    : (s.bleConnect peer outcome).progress = s.progress := by
  cases outcome with
  | stopFails | createFails => rfl
  | creates conn =>
      simp only [bleConnect]
      split <;> rfl

theorem bleConnect_link {s : LinkState} {peer : Peer} {outcome : ConnectOutcome}
    {conn : Conn} {linked : Peer} (up : (s.bleConnect peer outcome).link = .up conn linked)
    : s.link = .up conn linked := by
  cases outcome with
  | stopFails | createFails => exact up
  | creates created =>
      simp only [bleConnect] at up
      split at up
      · cases up
      · exact up

theorem eirFound_discoveryOrder {s : LinkState} (peer : Peer) (element : AdvElement)
    (order : s.DiscoveryOrder)
    : (s.eirFound peer element).DiscoveryOrder := by
  have connects (state : GoproStateList) (outcome : ConnectOutcome)
      : (({ s with state } : LinkState).bleConnect peer outcome).DiscoveryOrder := by
    have told : ({ s with state } : LinkState).DiscoveryOrder :=
      order.frame rfl fun _ _ up => up
    exact told.frame (bleConnect_progress _ peer outcome) fun _ _ up => bleConnect_link up
  cases element with
  | other => exact order
  | cameraState value outcome =>
      simp only [eirFound]
      split_ifs
      · exact connects .offline outcome
      · exact order.frame rfl fun _ _ up => up
      · exact connects .online outcome
      · exact connects .pairing outcome
      · exact order

theorem advReport_discoveryOrder {s : LinkState} (peer : Peer) (elements : List AdvElement)
    (order : s.DiscoveryOrder)
    : (elements.foldl (fun s element => s.eirFound peer element) s).DiscoveryOrder := by
  induction elements generalizing s with
  | nil => exact order
  | cons element rest ih => exact ih (eirFound_discoveryOrder peer element order)

theorem gattDiscover_discoveryOrder {s : LinkState} (conn : Conn) (order : s.DiscoveryOrder)
    : (s.gattDiscover conn).DiscoveryOrder := by
  simp only [gattDiscover]
  split
  · exact order.frame rfl fun _ _ up => up
  · exact order

theorem clientGet_discoveryOrder {s : LinkState} (accepted : Bool) (order : s.DiscoveryOrder)
    : (s.clientGet accepted).DiscoveryOrder := by
  simp only [clientGet]
  split
  · exact order.frame rfl fun _ _ up => up
  · exact order

/-- A new connection keeps the order if no progress was made for another peer. -/
theorem connected_discoveryOrder {s : LinkState} {conn : Conn} {peer : Peer}
    {failed security : Bool} (order : s.DiscoveryOrder)
    (samePeer : failed = false → 0 < s.uuidIndex → s.latestPeer = some peer)
    : (s.connected conn peer failed security).DiscoveryOrder := by
  cases failed with
  | true =>
      simp only [connected, if_true]
      split <;> exact order.frame rfl fun _ _ up => by cases up
  | false =>
      have linked :
          ({ s with link := .up conn peer, latestPeer := some peer } : LinkState).DiscoveryOrder
          := by
        constructor
        · intro index reached
          obtain ⟨other, latest, progress⟩ := order.reached index reached
          have isPeer := samePeer rfl (Nat.zero_lt_of_lt reached)
          obtain rfl : other = peer := Option.some.inj (latest.symm.trans isPeer)
          exact ⟨other, rfl, progress⟩
        · exact order.finishing
        · intro upConn upPeer up
          cases up
          rfl
      simp only [connected, Bool.false_eq_true, if_false]
      split
      · exact linked
      · exact gattDiscover_discoveryOrder conn linked

theorem disconnected_discoveryOrder {s : LinkState} (conn : Conn) (order : s.DiscoveryOrder)
    : (s.disconnected conn).DiscoveryOrder := by
  simp only [disconnected]
  split <;> exact order.frame rfl fun _ _ up => by cases up

/-- The work item submits the finish handler at the end of the list, and starts on the next
service before it.
-/
theorem discoveryStartWorkHandler_discoveryOrder {s : LinkState} {accepted : Bool}
    (order : s.DiscoveryOrder) (settled : s.discovery = none)
    (starts : s.uuidIndex < uuidListLength → s.Starts accepted)
    : (s.discoveryStartWorkHandler accepted).DiscoveryOrder := by
  rcases Nat.lt_or_ge s.uuidIndex uuidListLength with inList | listEnd
  · obtain ⟨rfl, conn, peer, up, default⟩ := starts inList
    have notFinishing : ¬(s.finishWork = true ∨ s.finish = .ssid ∨ s.finish = .pass) :=
      fun finishing => absurd (order.finishing finishing).1 (Nat.not_le_of_lt inList)
    have begun : s.discoveryStartWorkHandler true
        = {
          s with
          startWork := false
          discovery := some ⟨conn, peer, s.uuidIndex⟩
          uuidIndex := s.uuidIndex + 1
        } := by
      simp [discoveryStartWorkHandler, Nat.not_le_of_lt inList, settled, up, default]
    rw [begun]
    refine ⟨?_, fun finishing => absurd finishing notFinishing, order.linked⟩
    intro index reached
    rcases Nat.lt_or_eq_of_le (Nat.le_of_lt_succ reached) with earlier | rfl
    · obtain ⟨latest, isLatest, assigned | ⟨_, pending⟩⟩ := order.reached index earlier
      · exact ⟨latest, isLatest, .inl assigned⟩
      · rw [settled] at pending
        cases pending
    · exact ⟨peer, order.linked conn peer up, .inr ⟨conn, rfl⟩⟩
  · simp only [discoveryStartWorkHandler, ge_iff_le, listEnd, if_true]
    exact ⟨order.reached, fun _ => ⟨listEnd, settled⟩, order.linked⟩

/-- A successful assignment moves a service from in progress to assigned. -/
theorem discoveryComplete_discoveryOrder {s : LinkState} {discovery : Discovery}
    (order : s.DiscoveryOrder) (pending : s.discovery = some discovery)
    : (s.discoveryComplete discovery true).DiscoveryOrder := by
  simp only [discoveryComplete, if_true]
  constructor
  · intro index reached
    obtain ⟨peer, latest, assigned | ⟨conn, inProgress⟩⟩ := order.reached index reached
    · exact ⟨peer, latest, .inl (List.mem_cons_of_mem _ assigned)⟩
    · obtain rfl : discovery = ⟨conn, peer, index⟩ :=
        Option.some.inj (pending.symm.trans inProgress)
      exact ⟨peer, latest, .inl (List.mem_cons_self ..)⟩
  · intro finishing
    exact ⟨(order.finishing finishing).1, rfl⟩
  · exact order.linked

/-- The end of a phase of the finish handler, which only moves on from a phase that waits. -/
theorem finish_discoveryOrder {s : LinkState} (finishWork : Bool) (finish : FinishPhase)
    (bleReadSem : Bool) (order : s.DiscoveryOrder)
    (finishing : finishWork = true ∨ finish = .ssid ∨ finish = .pass
      → s.finishWork = true ∨ s.finish = .ssid ∨ s.finish = .pass)
    : ({ s with finishWork, finish, bleReadSem } : LinkState).DiscoveryOrder :=
  ⟨order.reached, fun later => order.finishing (finishing later), order.linked⟩

/-- Steps that leave no service behind keep the order. -/
theorem step_discoveryOrder {s : LinkState} (input : LinkInput) (order : s.DiscoveryOrder)
    (discovers : s.Discovers input)
    : (s.step input).DiscoveryOrder := by
  cases input with
  | scanWorkHandler outcome =>
      simp only [step]
      split
      · cases outcome <;> exact order.frame rfl fun _ _ up => up
      · exact order
  | advReport peer elements =>
      simp only [step]
      split
      · exact advReport_discoveryOrder peer elements order
      · exact order
  | connected failed security =>
      cases link : s.link with
      | down | up => simpa only [step, link] using order
      | connecting conn peer =>
          simp only [step, link]
          exact connected_discoveryOrder order (discovers conn peer link)
  | disconnected =>
      cases link : s.link with
      | down | connecting => simpa only [step, link] using order
      | up conn peer =>
          simp only [step, link]
          exact disconnected_discoveryOrder conn order
  | securityChanged result =>
      cases link : s.link with
      | down | connecting => simpa only [step, link] using order
      | up conn peer =>
          simp only [step, link]
          cases result with
          | success => exact gattDiscover_discoveryOrder conn order
          | pinOrKeyMissing => exact order.frame rfl fun _ _ up => up
          | otherError => exact order
  | discoveryStartWorkHandler accepted =>
      simp only [step]
      split
      case isTrue submitted =>
          obtain ⟨settled, starts⟩ := discovers submitted
          exact discoveryStartWorkHandler_discoveryOrder order settled starts
      case isFalse => exact order
  | discoveryComplete assigned =>
      cases pending : s.discovery with
      | none => simpa only [step, pending] using order
      | some discovery =>
          obtain rfl : assigned = true := discovers (by simp [pending])
          simp only [step, pending]
          exact discoveryComplete_discoveryOrder order pending
  | discoveryServiceNotFound =>
      have settled : s.discovery = none := discovers
      simpa [step, settled] using order
  | discoveryError =>
      have settled : s.discovery = none := discovers
      have same : s.step .discoveryError = s := by
        simp only [step]
        rw [← settled]
      rw [same]
      exact order
  | finishStart accepted =>
      simp only [step]
      split
      case isTrue submitted =>
          exact clientGet_discoveryOrder accepted
            (finish_discoveryOrder false .ssid _ order fun _ => .inl submitted.1)
      case isFalse => exact order
  | finishSsidRead accepted =>
      simp only [step]
      split
      case isTrue resumed =>
          exact clientGet_discoveryOrder accepted
            (finish_discoveryOrder _ .pass false order fun _ => .inr (.inl resumed.1))
      case isFalse => exact order
  | finishPassRead =>
      simp only [step]
      split
      case isTrue resumed =>
          have moved :=
            finish_discoveryOrder s.finishWork .polling false order fun _ => .inr (.inr resumed.1)
          exact moved.frame rfl fun _ _ up => up
      case isFalse => exact order
  | finishEnd =>
      simp only [step]
      split
      · have moved := finish_discoveryOrder s.finishWork .idle s.bleReadSem order (by simp_all)
        exact moved.frame rfl fun _ _ up => up
      · exact order
  | onRead =>
      simp only [step]
      split
      · exact order.frame rfl fun _ _ up => up
      · exact order
  | ledIdleHandler =>
      simp only [step, ledIdleHandler]
      split
      · exact order.frame rfl fun _ _ up => up
      · exact order
  | forceConnectCmd => exact order.frame rfl fun _ _ up => up

end LinkState

open LinkState

theorem boot_discoveryOrder : LinkState.boot.DiscoveryOrder := by
  refine ⟨?_, ?_, ?_⟩ <;> simp [LinkState.boot]

/-- In every run that leaves no service behind, the connected state is only set once every
service was assigned for the peer.
-/
theorem linkMachine_discovered {inputs : List LinkInput}
    (steps : linkMachine.Along Discovers .boot inputs)
    : linkMachine.Along (fun s input => s.SetsConnected input → s.AllAssigned) .boot
        inputs := by
  refine steps.imp (fun s input order discovers => ?_) ?_ boot_discoveryOrder
  · exact step_discoveryOrder input order discovers
  · rintro s input order - ⟨-, phase, -⟩
    obtain ⟨listEnd, settled⟩ := order.finishing (.inr (.inr phase))
    exact order.allAssigned listEnd settled

/-- Witness: a first session that leaves no service behind. -/
theorem linkMachine_discovered_firstSession
    : linkMachine.Along Discovers .boot firstSession
      ∧ linkMachine.Along (fun s input => s.SetsConnected input → s.AllAssigned) .boot
          firstSession := by
  have starts {s : LinkState} (settled : s.discovery = none) (up : s.link = .up 7 1)
      (default : s.defaultConn = some 7)
      : s.Discovers (.discoveryStartWorkHandler true) :=
    fun _ => ⟨settled, fun _ => ⟨rfl, 7, 1, up, default⟩⟩
  have steps : linkMachine.Along Discovers .boot firstSession := by
    simp only [firstSession, InputMachine.along_cons, InputMachine.along_nil, and_true]
    refine ⟨trivial, trivial, fun _ _ _ _ index => absurd index (by decide), trivial,
      starts rfl rfl rfl, fun _ => rfl, starts rfl rfl rfl, fun _ => rfl,
      starts rfl rfl rfl, fun _ => rfl, starts rfl rfl rfl,
      trivial, trivial, trivial, trivial, trivial⟩
  exact ⟨steps, linkMachine_discovered steps⟩

/-- The camera switches off while the second service is being discovered, and comes back. -/
def interruptedRun : List LinkInput :=
  [
    .scanWorkHandler .starts, .advReport 1 [.cameraState 1 (.creates 7)],
    .connected false true, .securityChanged .success,
    .discoveryStartWorkHandler true, .discoveryComplete true,
    .discoveryStartWorkHandler true, .disconnected, .discoveryError,
    .scanWorkHandler .starts, .advReport 1 [.cameraState 1 (.creates 8)],
    .connected false true, .securityChanged .success,
    .discoveryStartWorkHandler true, .discoveryComplete true,
    .discoveryStartWorkHandler true,
    .finishStart true, .onRead, .finishSsidRead true, .onRead, .finishPassRead
  ]

/-- Witness: the connected state is set although the second service was never discovered. -/
theorem linkMachine_skips_service
    : ¬linkMachine.Along (fun s input => s.SetsConnected input → s.AllAssigned) .boot
        interruptedRun := by
  intro every
  rw [InputMachine.along_iff_splits] at every
  obtain ⟨peer, latest, assigned⟩ :=
    every interruptedRun.dropLast .finishPassRead [] rfl (by decide)
  obtain rfl : 1 = peer := Option.some.inj latest
  exact absurd (assigned 1 (by decide)) (by decide)

end GoproGateway
