import GoproGateway.Link.Connection

/-! The way back to the camera.

A failed connection and a disconnection schedule `scan_work` again. The errors before a
connection exists, of the creation and in the handler of `scan_work`, schedule nothing.
-/

namespace GoproGateway

/-- The connection of a link that is up or an attempt. -/
def Link.conn : Link → Option Conn
  | down => none
  | connecting conn _ | up conn _ => some conn

namespace LinkState

/-- Without a connection, there is scanning, or a scan to come, or an attempt whose callback
is to come.
-/
def NotWedged (s : LinkState) : Prop :=
  (∀ conn peer, s.link ≠ .up conn peer)
    → s.scanning = true ∨ s.scanWork = true ∨ ∃ conn peer, s.link = .connecting conn peer

/-- What `eir_found` gets from `ble_connect`, if it calls it. -/
def connectAttempt (s : LinkState) : AdvElement → Option ConnectOutcome
  | .cameraState value outcome =>
      if (value = 0 ∧ s.forceConnect = true) ∨ value = 1 ∨ value = 5 then some outcome else none
  | .other => none

/-- The calls of `ble_connect` over an advertising report. -/
def connectAttempts (s : LinkState) (elements : List AdvElement) : List ConnectOutcome :=
  elements.filterMap s.connectAttempt

/-- Steps that leave a way back: `scan_work_handler` starts the scan, and where a creation
fails, another one of the same report does not.
-/
def KeepsScanning (s : LinkState) : LinkInput → Prop
  | .scanWorkHandler outcome => s.scanWork = true → outcome = .starts
  | .advReport _ elements => s.scanning = true → .createFails ∈ s.connectAttempts elements
      → ∃ conn, .creates conn ∈ s.connectAttempts elements
  | _ => True

/-- The scan, the work item and the link take turns. -/
structure ScanOrder (s : LinkState) : Prop where
  scanning : s.scanning = true → s.link = .down ∧ s.scanWork = false
  scanWork : s.scanWork = true → s.link = .down
  default : s.defaultConn = s.link.conn

/-- The scan and the work item rest while the link is not down. -/
theorem ScanOrder.quiet {s : LinkState} (order : s.ScanOrder) (link : s.link ≠ .down)
    : s.scanning = false ∧ s.scanWork = false := by
  constructor
  · exact Bool.eq_false_iff.mpr fun scanning => link (order.scanning scanning).1
  · exact Bool.eq_false_iff.mpr fun scanWork => link (order.scanWork scanWork)

theorem boot_scanOrder : boot.ScanOrder :=
  ⟨nofun, fun _ => rfl, rfl⟩

theorem boot_notWedged : boot.NotWedged :=
  fun _ => .inr (.inl rfl)

/-- The variables that the order is about. -/
def radio (s : LinkState) : Link × Option Conn × Bool × Bool :=
  (s.link, s.defaultConn, s.scanning, s.scanWork)

theorem ScanOrder.frame {before after : LinkState} (order : before.ScanOrder)
    (same : after.radio = before.radio)
    : after.ScanOrder := by
  simp only [radio, Prod.mk.injEq] at same
  obtain ⟨link, default, scanning, scanWork⟩ := same
  constructor
  · rw [scanning, link, scanWork]
    exact order.scanning
  · rw [scanWork, link]
    exact order.scanWork
  · rw [default, link]
    exact order.default

theorem notWedged_congr {before after : LinkState} (same : after.radio = before.radio)
    : after.NotWedged ↔ before.NotWedged := by
  simp only [radio, Prod.mk.injEq] at same
  obtain ⟨link, -, scanning, scanWork⟩ := same
  simp only [NotWedged, link, scanning, scanWork]

/-- What attempts make of the link and of the scan. -/
structure Attempted (before after : LinkState) (outcomes : List ConnectOutcome) : Prop where
  order : after.ScanOrder
  link : after.link = .down ↔ before.link = .down ∧ ∀ conn, .creates conn ∉ outcomes
  notUp : ∀ conn peer, after.link ≠ .up conn peer
  scanning : after.scanning = true
    ↔ before.scanning = true ∧ ∀ outcome ∈ outcomes, outcome = .stopFails
  scanWork : after.scanWork = false
  forceConnect : after.forceConnect = before.forceConnect

theorem Attempted.refl {s : LinkState} (order : s.ScanOrder)
    (notUp : ∀ conn peer, s.link ≠ .up conn peer) (scanWork : s.scanWork = false)
    : s.Attempted s [] :=
  ⟨order, by simp, notUp, by simp, scanWork, rfl⟩

theorem Attempted.trans {first second third : LinkState} {earlier later : List ConnectOutcome}
    (before : first.Attempted second earlier) (after : second.Attempted third later)
    : first.Attempted third (earlier ++ later) := by
  refine ⟨after.order, ?_, after.notUp, ?_, after.scanWork, ?_⟩
  · simp only [after.link, before.link, List.mem_append, not_or, forall_and, and_assoc]
  · simp only [after.scanning, before.scanning, List.mem_append, or_imp, forall_and, and_assoc]
  · exact after.forceConnect.trans before.forceConnect

/-- `ble_connect` stops the scan for a creation, and a creation over a link that is down
succeeds.
-/
theorem ScanOrder.bleConnect {s : LinkState} (order : s.ScanOrder)
    (notUp : ∀ conn peer, s.link ≠ .up conn peer) (scanWork : s.scanWork = false) (peer : Peer)
    (outcome : ConnectOutcome)
    : s.Attempted (s.bleConnect peer outcome) [outcome] := by
  cases outcome with
  | stopFails =>
      refine ⟨order, ?_, notUp, ?_, scanWork, rfl⟩
      · simp [LinkState.bleConnect]
      · simp [LinkState.bleConnect]
  | createFails =>
      refine ⟨⟨nofun, order.scanWork, order.default⟩, ?_, notUp, ?_, scanWork, rfl⟩
      · simp [LinkState.bleConnect]
      · simp [LinkState.bleConnect]
  | creates conn =>
      simp only [LinkState.bleConnect]
      split
      case isTrue free =>
          refine ⟨⟨nofun, ?_, rfl⟩, ?_, nofun, ?_, scanWork, rfl⟩
          · exact fun scheduled => absurd (scanWork.symm.trans scheduled) nofun
          · simp
          · simp
      case isFalse held =>
          have pending : s.link ≠ .down := by
            intro down
            refine held ⟨?_, down⟩
            rw [order.default, down, Link.conn]
          refine ⟨⟨nofun, order.scanWork, order.default⟩, ?_, notUp, ?_, scanWork, rfl⟩
          · simp [pending]
          · simp

/-- `eir_found` sets the state, and makes its attempt. -/
theorem eirFound_eq (s : LinkState) (peer : Peer) (element : AdvElement)
    : ∃ state, s.eirFound peer element
      = match s.connectAttempt element with
        | some outcome => ({ s with state } : LinkState).bleConnect peer outcome
        | none => { s with state } := by
  cases element with
  | other => exact ⟨s.state, rfl⟩
  | cameraState value outcome =>
      simp only [eirFound, connectAttempt]
      by_cases offline : value = 0
      · refine ⟨.offline, ?_⟩
        cases force : s.forceConnect <;> simp [offline]
      · by_cases online : value = 1
        · exact ⟨.online, by simp [online]⟩
        · by_cases pairing : value = 5
          · exact ⟨.pairing, by simp [pairing]⟩
          · exact ⟨s.state, by simp [offline, online, pairing]⟩

theorem connectAttempts_congr {before after : LinkState}
    (same : after.forceConnect = before.forceConnect) (elements : List AdvElement)
    : after.connectAttempts elements = before.connectAttempts elements := by
  have each : after.connectAttempt = before.connectAttempt := by
    funext element
    cases element with
    | other => rfl
    | cameraState value outcome => simp only [connectAttempt, same]
  simp only [connectAttempts, each]

theorem connectAttempts_cons (s : LinkState) (element : AdvElement) (rest : List AdvElement)
    : s.connectAttempts (element :: rest)
      = (s.connectAttempt element).toList ++ s.connectAttempts rest := by
  simp only [connectAttempts, List.filterMap_cons]
  cases s.connectAttempt element <;> rfl

theorem ScanOrder.eirFound {s : LinkState} (order : s.ScanOrder)
    (notUp : ∀ conn peer, s.link ≠ .up conn peer) (scanWork : s.scanWork = false) (peer : Peer)
    (element : AdvElement)
    : s.Attempted (s.eirFound peer element) (s.connectAttempt element).toList := by
  obtain ⟨state, result⟩ := eirFound_eq s peer element
  have order : ({ s with state } : LinkState).ScanOrder := order.frame rfl
  rw [result]
  cases s.connectAttempt element with
  | none => exact ⟨order, by simp, notUp, by simp, scanWork, rfl⟩
  | some outcome =>
      have attempted := order.bleConnect notUp scanWork peer outcome
      exact ⟨attempted.order, attempted.link, attempted.notUp, attempted.scanning,
        attempted.scanWork, attempted.forceConnect⟩

/-- The attempts of a report are made one after the other, whatever comes of them. -/
theorem ScanOrder.advReport {s : LinkState} (order : s.ScanOrder)
    (notUp : ∀ conn peer, s.link ≠ .up conn peer) (scanWork : s.scanWork = false) (peer : Peer)
    (elements : List AdvElement)
    : s.Attempted (elements.foldl (fun s element => s.eirFound peer element) s)
        (s.connectAttempts elements) := by
  induction elements generalizing s with
  | nil => exact .refl order notUp scanWork
  | cons element rest ih =>
      have first := order.eirFound notUp scanWork peer element
      have later := ih first.order first.notUp first.scanWork
      rw [connectAttempts_congr first.forceConnect] at later
      rw [connectAttempts_cons]
      exact first.trans later

/-- What remains of a scan after the attempts of a report. -/
theorem Attempted.notWedged_iff {before after : LinkState} {outcomes : List ConnectOutcome}
    (attempted : before.Attempted after outcomes) (link : before.link = .down)
    (scanning : before.scanning = true)
    : after.NotWedged
      ↔ (.createFails ∈ outcomes → ∃ conn, .creates conn ∈ outcomes) := by
  have down : after.link = .down ↔ ¬∃ conn, .creates conn ∈ outcomes := by
    simp [attempted.link, link]
  have stays : after.scanning = true ↔ ∀ outcome ∈ outcomes, outcome = .stopFails := by
    simp [attempted.scanning, scanning]
  by_cases creates : ∃ conn, .creates conn ∈ outcomes
  · refine iff_of_true (fun notUp => .inr (.inr ?_)) fun _ => creates
    cases pending : after.link with
    | down => exact absurd creates (down.mp pending)
    | connecting conn peer => exact ⟨conn, peer, rfl⟩
    | up conn peer => exact absurd pending (notUp conn peer)
  · have isDown := down.mpr creates
    have wedged_iff : after.NotWedged ↔ after.scanning = true := by
      simp [NotWedged, isDown, attempted.scanWork]
    rw [wedged_iff, stays]
    constructor
    · exact fun stopped fails => absurd (stopped _ fails) nofun
    · intro noFailure outcome member
      cases outcome with
      | stopFails => rfl
      | createFails => exact absurd (noFailure member) creates
      | creates conn => exact absurd ⟨conn, member⟩ creates

/-- Inputs that move the scan, the work item or the link. -/
def IsRadio : LinkInput → Prop
  | .scanWorkHandler _ | .advReport _ _ | .connected _ _ | .disconnected => True
  | _ => False

theorem step_radio {s : LinkState} (input : LinkInput) (other : ¬IsRadio input)
    : (s.step input).radio = s.radio := by
  cases input with
  | scanWorkHandler | advReport | connected | disconnected => exact absurd trivial other
  | securityChanged result =>
      simp only [step, securityChanged, gattDiscover]
      split
      · cases result with
        | success =>
            dsimp only
            split <;> rfl
        | pinOrKeyMissing | otherError => rfl
      · rfl
  | discoveryStartWorkHandler accepted =>
      simp only [step, discoveryStartWorkHandler]
      split
      · split <;> rfl
      · rfl
  | discoveryComplete assigned =>
      simp only [step, discoveryComplete]
      split
      · split <;> rfl
      · rfl
  | finishStart accepted | finishSsidRead accepted =>
      simp only [step, clientGet]
      split
      · split <;> rfl
      · rfl
  | discoveryServiceNotFound | finishPassRead | finishEnd | onRead =>
      simp only [step]
      split <;> rfl
  | ledIdleHandler =>
      simp only [step, ledIdleHandler]
      split <;> rfl
  | discoveryError | forceConnectCmd => rfl

/-- Where a connection is lost, `scan_work` is scheduled. -/
theorem lost_scanOrder {s : LinkState} {conn : Conn} (scanning : s.scanning = false)
    (default : s.defaultConn = some conn)
    : (s.disconnected conn).ScanOrder ∧ (s.disconnected conn).NotWedged := by
  have lost : s.disconnected conn
      = { s with link := .down, defaultConn := none, scanWork := true } :=
    if_pos default
  rw [lost]
  refine ⟨⟨?_, fun _ => rfl, rfl⟩, fun _ => .inr (.inl rfl)⟩
  exact fun active => absurd (scanning.symm.trans active) nofun

theorem connected_scanOrder {s : LinkState} {conn : Conn} {peer : Peer} (failed security : Bool)
    (order : s.ScanOrder) (link : s.link = .connecting conn peer)
    : (s.connected conn peer failed security).ScanOrder
      ∧ (s.connected conn peer failed security).NotWedged := by
  have default : s.defaultConn = some conn := by rw [order.default, link, Link.conn]
  obtain ⟨scanning, scanWork⟩ := order.quiet (by simp [link])
  cases failed with
  | true => exact lost_scanOrder scanning default
  | false =>
      have isUp : (s.connected conn peer false security).radio
          = (.up conn peer, some conn, false, false) := by
        simp only [connected, radio, gattDiscover, default]
        cases security <;> simp [scanning, scanWork]
      simp only [radio, Prod.mk.injEq] at isUp
      obtain ⟨up, some_conn, idle, unscheduled⟩ := isUp
      refine ⟨⟨?_, ?_, ?_⟩, fun notUp => absurd up (notUp conn peer)⟩
      · exact fun active => absurd (idle.symm.trans active) nofun
      · exact fun active => absurd (unscheduled.symm.trans active) nofun
      · rw [some_conn, up, Link.conn]

theorem scanWorkHandler_scanOrder {s : LinkState} (outcome : ScanOutcome) (order : s.ScanOrder)
    (scheduled : s.scanWork = true)
    : (s.scanWorkHandler outcome).ScanOrder
      ∧ ((s.scanWorkHandler outcome).NotWedged ↔ outcome = .starts) := by
  have down : s.link = .down := order.scanWork scheduled
  have idle : s.scanning ≠ true := by
    intro scanning
    have unscheduled := (order.scanning scanning).2
    exact absurd (scheduled.symm.trans unscheduled) nofun
  cases outcome with
  | stopFails =>
      refine ⟨⟨fun scanning => absurd scanning idle, nofun, order.default⟩, ?_⟩
      simp [scanWorkHandler, NotWedged, down, idle]
  | setupFails =>
      refine ⟨⟨nofun, nofun, order.default⟩, ?_⟩
      simp [scanWorkHandler, NotWedged, down]
  | starts =>
      refine ⟨⟨fun _ => ⟨down, rfl⟩, nofun, order.default⟩, ?_⟩
      simp [scanWorkHandler, NotWedged]

/-- The attempts of a report while scanning. -/
theorem ScanOrder.attempted {s : LinkState} (order : s.ScanOrder) (scanning : s.scanning = true)
    (peer : Peer) (elements : List AdvElement)
    : s.Attempted (elements.foldl (fun s element => s.eirFound peer element) s)
        (s.connectAttempts elements) := by
  obtain ⟨down, scanWork⟩ := order.scanning scanning
  exact order.advReport (by simp [down]) scanWork peer elements

/-- The scan, the work item and the link take turns, whatever fails, and a step wedges iff it
leaves no way back.
-/
theorem step_notWedged_iff {s : LinkState} (input : LinkInput) (order : s.ScanOrder)
    (notWedged : s.NotWedged)
    : (s.step input).ScanOrder ∧ ((s.step input).NotWedged ↔ s.KeepsScanning input) := by
  by_cases isRadio : IsRadio input
  case neg =>
      have same : (s.step input).radio = s.radio := step_radio input isRadio
      refine ⟨order.frame same, ?_⟩
      rw [notWedged_congr same]
      refine iff_of_true notWedged ?_
      cases input <;> first | trivial | exact absurd trivial isRadio
  cases input with
  | scanWorkHandler outcome =>
      simp only [step, KeepsScanning]
      split
      case isTrue scheduled =>
          obtain ⟨orderAfter, keeps⟩ := scanWorkHandler_scanOrder outcome order scheduled
          refine ⟨orderAfter, ?_⟩
          simp [keeps, scheduled]
      case isFalse unscheduled =>
          exact ⟨order, iff_of_true notWedged fun scheduled => absurd scheduled unscheduled⟩
  | advReport peer elements =>
      simp only [step, KeepsScanning]
      split
      case isTrue scanning =>
          have attempted := order.attempted scanning peer elements
          refine ⟨attempted.order, ?_⟩
          rw [attempted.notWedged_iff (order.scanning scanning).1 scanning]
          simp [scanning]
      case isFalse idle =>
          exact ⟨order, iff_of_true notWedged fun scanning => absurd scanning idle⟩
  | connected failed security =>
      simp only [step, KeepsScanning, iff_true]
      split
      case h_1 conn peer link => exact connected_scanOrder failed security order link
      case h_2 => exact ⟨order, notWedged⟩
  | disconnected =>
      simp only [step, KeepsScanning, iff_true]
      split
      case h_1 conn peer link =>
          have default : s.defaultConn = some conn := by rw [order.default, link, Link.conn]
          exact lost_scanOrder (order.quiet (by simp [link])).1 default
      case h_2 => exact ⟨order, notWedged⟩
  | securityChanged | discoveryStartWorkHandler | discoveryComplete | discoveryServiceNotFound
  | discoveryError | finishStart | finishSsidRead | finishPassRead | finishEnd | onRead
  | ledIdleHandler | forceConnectCmd => exact isRadio.elim

end LinkState

/-- In every run, the remote never wedges without a connection iff every step leaves a way
back.
-/
theorem linkMachine_notWedged_iff (inputs : List LinkInput)
    : linkMachine.Always LinkState.NotWedged .boot inputs
      ↔ linkMachine.Along LinkState.KeepsScanning .boot inputs := by
  rw [linkMachine.always_iff, and_iff_right LinkState.boot_notWedged]
  refine InputMachine.along_congr (fun s => s.ScanOrder ∧ s.NotWedged) ?_ ?_
    ⟨LinkState.boot_scanOrder, LinkState.boot_notWedged⟩ (fun _ _ => trivial)
  · intro s input inv _ keeps
    obtain ⟨order, iff⟩ := LinkState.step_notWedged_iff input inv.1 inv.2
    exact ⟨order, iff.mpr keeps⟩
  · intro s input inv _
    exact (LinkState.step_notWedged_iff input inv.1 inv.2).2

/-- Witness: the connection to a camera found by the first scan cannot be created. The scan is
stopped by then, and nothing starts it again.
-/
theorem linkMachine_wedges
    : ¬linkMachine.Always LinkState.NotWedged .boot
        [.scanWorkHandler .starts, .advReport 1 [.cameraState 1 .createFails]] := by
  intro always
  have wedged := always _ [] (List.append_nil _).symm
  have final : (linkMachine.run .boot
      [.scanWorkHandler .starts, .advReport 1 [.cameraState 1 .createFails]]).1
      = { LinkState.boot with state := .online, scanWork := false } := by
    decide
  rw [final] at wedged
  simp [LinkState.NotWedged, LinkState.boot] at wedged

end GoproGateway
