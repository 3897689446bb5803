import GoproGateway.Client.Commands
import GoproGateway.Link.Connection
import GoproGateway.Packet.Frames

/-! When the connected state means a live connection.

Only the finish handler sets the connected state, and nothing takes it back when the camera
disconnects: that is left to the next advertising report or to the idle timer.
-/

namespace GoproGateway

namespace LinkState

/-- The default connection is up, and it is the client's. -/
def Linked (s : LinkState) : Prop :=
  ∃ conn peer, s.defaultConn = some conn ∧ s.link = .up conn peer ∧ s.clientConn = some conn

/-- Connected means linked, and the validator accepts no command for the camera without a
camera.
-/
structure SessionIsLive (s : LinkState) : Prop where
  connected : s.state = .connected → s.Linked
  validator : ∀ cmd : GoproCmd, cmd.cmdType < gpCntrlHandleEnd
    → goproCmdValidator s.state cmd = true → ∃ conn peer, s.link = .up conn peer

/-- Steps that do not leave the connected state behind: the camera does not disconnect in it,
the finish handler sets it over a linked connection, and handles assigned in it are those of
the default connection.
-/
def KeepsSession (s : LinkState) : LinkInput → Prop
  | .disconnected => ∀ conn peer, s.link = .up conn peer → s.state ≠ .connected
  | .finishPassRead => s.finish = .pass → s.bleReadSem = true → s.Linked
  | .discoveryComplete assigned => ∀ discovery, s.discovery = some discovery
      → assigned = true → s.state = .connected → s.defaultConn = some discovery.conn
  | _ => True

/-- What the validator accepts follows from what connected means. -/
theorem sessionIsLive_iff (s : LinkState)
    : s.SessionIsLive ↔ (s.state = .connected → s.Linked) := by
  refine ⟨SessionIsLive.connected, fun linked => ⟨linked, ?_⟩⟩
  intro cmd handle valid
  rw [goproCmdValidator_iff] at valid
  rcases valid with control | ⟨connected, -, -⟩
  · exact absurd control (ne_control_of_lt handle)
  · obtain ⟨conn, peer, -, up, -⟩ := linked connected
    exact ⟨conn, peer, up⟩

/-- The variables that the session is about. -/
def session (s : LinkState) : GoproStateList × Option Conn × Option Conn × Link :=
  (s.state, s.defaultConn, s.clientConn, s.link)

theorem sessionIsLive_congr {before after : LinkState} (same : after.session = before.session)
    (live : before.SessionIsLive)
    : after.SessionIsLive := by
  simp only [session, Prod.mk.injEq] at same
  obtain ⟨state, default, client, link⟩ := same
  rw [sessionIsLive_iff] at live ⊢
  unfold Linked at *
  rw [state, default, client, link]
  exact live

theorem sessionIsLive_of_state {s : LinkState} (state : s.state ≠ .connected)
    : s.SessionIsLive :=
  (sessionIsLive_iff s).mpr fun connected => absurd connected state

@[simp] theorem bleConnect_state (s : LinkState) (peer : Peer) (outcome : ConnectOutcome)
    : (s.bleConnect peer outcome).state = s.state := by
  cases outcome with
  | stopFails | createFails => rfl
  | creates conn =>
      simp only [bleConnect]
      split <;> rfl

/-- An advertising report leaves the session alone, or sets a state without a session. -/
theorem eirFound_sessionIsLive {s : LinkState} (peer : Peer) (element : AdvElement)
    (live : s.SessionIsLive)
    : (s.eirFound peer element).SessionIsLive := by
  cases element with
  | other => exact live
  | cameraState value connect =>
      simp only [eirFound]
      split_ifs
      · exact sessionIsLive_of_state (by simp)
      · exact sessionIsLive_of_state (by simp)
      · exact sessionIsLive_of_state (by simp)
      · exact sessionIsLive_of_state (by simp)
      · exact live

theorem advReport_sessionIsLive {s : LinkState} (peer : Peer) (elements : List AdvElement)
    (live : s.SessionIsLive)
    : (elements.foldl (fun s element => s.eirFound peer element) s).SessionIsLive := by
  induction elements generalizing s with
  | nil => exact live
  | cons element rest ih => exact ih (eirFound_sessionIsLive peer element live)

theorem gattDiscover_session (s : LinkState) (conn : Conn)
    : (s.gattDiscover conn).session = s.session := by
  unfold gattDiscover
  split <;> rfl

theorem discoveryStartWorkHandler_session (s : LinkState) (accepted : Bool)
    : (s.discoveryStartWorkHandler accepted).session = s.session := by
  simp only [discoveryStartWorkHandler]
  split <;> rfl

theorem clientGet_session (s : LinkState) (accepted : Bool)
    : (s.clientGet accepted).session = s.session := by
  unfold clientGet
  split <;> rfl

theorem scanWorkHandler_session (s : LinkState) (outcome : ScanOutcome)
    : (s.scanWorkHandler outcome).session = s.session := by
  cases outcome <;> rfl

/-- There is no session to lose before the link is up. -/
theorem state_of_not_up {s : LinkState} (live : s.SessionIsLive)
    (notUp : ∀ conn peer, s.link ≠ .up conn peer)
    : s.state ≠ .connected := by
  intro connected
  obtain ⟨conn, peer, -, up, -⟩ := live.connected connected
  exact notUp conn peer up

theorem connected_state (s : LinkState) (conn : Conn) (peer : Peer) (failed security : Bool)
    : (s.connected conn peer failed security).state = s.state := by
  simp only [connected, gattDiscover]
  split_ifs <;> rfl

theorem securityChanged_sessionIsLive {s : LinkState} (conn : Conn) (result : SecurityResult)
    (live : s.SessionIsLive)
    : (s.securityChanged conn result).SessionIsLive := by
  cases result with
  | success => exact sessionIsLive_congr (gattDiscover_session s conn) live
  | pinOrKeyMissing => exact sessionIsLive_of_state (by simp [securityChanged])
  | otherError => exact live

theorem ledIdleHandler_sessionIsLive {s : LinkState} (live : s.SessionIsLive)
    : s.ledIdleHandler.SessionIsLive := by
  unfold ledIdleHandler
  split
  · exact sessionIsLive_of_state (by simp)
  · exact live

/-- A disconnection keeps the state and drops the link. -/
theorem disconnected_sessionIsLive_iff (s : LinkState) (conn : Conn)
    : (s.disconnected conn).SessionIsLive ↔ s.state ≠ .connected := by
  have dropped :
      (s.disconnected conn).link = .down ∧ (s.disconnected conn).state = s.state := by
    simp only [disconnected]
    split <;> exact ⟨rfl, rfl⟩
  constructor
  · intro live
    rw [← dropped.2]
    exact state_of_not_up live (by simp [dropped.1])
  · intro state
    exact sessionIsLive_of_state (by rw [dropped.2]; exact state)

/-- Handles assigned while connected have to be those of the default connection. -/
theorem discoveryComplete_sessionIsLive_iff {s : LinkState} (discovery : Discovery)
    (assigned : Bool) (live : s.SessionIsLive)
    : (s.discoveryComplete discovery assigned).SessionIsLive
      ↔ (assigned = true → s.state = .connected → s.defaultConn = some discovery.conn) := by
  cases assigned with
  | false =>
      have same : (s.discoveryComplete discovery false).session = s.session := rfl
      simp [sessionIsLive_congr same live]
  | true =>
      rw [sessionIsLive_iff]
      simp only [discoveryComplete, Linked, if_true, true_implies, Option.some.injEq]
      constructor
      · intro linked connected
        obtain ⟨conn, peer, default, -, rfl⟩ := linked connected
        exact default
      · intro default connected
        obtain ⟨conn, peer, isDefault, up, -⟩ := live.connected connected
        refine ⟨conn, peer, isDefault, up, ?_⟩
        exact Option.some.inj ((default connected).symm.trans isDefault)

-----------------------------------------------------------------------------------------
-- Steps and runs
-----------------------------------------------------------------------------------------

/-- A live session is live after a step iff the step keeps it. -/
theorem step_sessionIsLive_iff {s : LinkState} (input : LinkInput) (live : s.SessionIsLive)
    : (s.step input).SessionIsLive ↔ s.KeepsSession input := by
  cases input with
  | scanWorkHandler outcome =>
      refine iff_of_true ?_ trivial
      simp only [step]
      split
      · exact sessionIsLive_congr (scanWorkHandler_session s outcome) live
      · exact live
  | advReport peer elements =>
      refine iff_of_true ?_ trivial
      simp only [step]
      split
      · exact advReport_sessionIsLive peer elements live
      · exact live
  | connected failed security =>
      refine iff_of_true ?_ trivial
      cases link : s.link with
      | down | up => simpa only [step, link] using live
      | connecting conn peer =>
          simp only [step, link]
          apply sessionIsLive_of_state
          rw [connected_state]
          exact state_of_not_up live (by simp [link])
  | disconnected =>
      cases link : s.link with
      | down | connecting => simp [step, KeepsSession, link, live]
      | up conn peer => simp [step, KeepsSession, link, disconnected_sessionIsLive_iff]
  | securityChanged result =>
      refine iff_of_true ?_ trivial
      cases link : s.link with
      | down | connecting => simpa only [step, link] using live
      | up conn peer =>
          simp only [step, link]
          exact securityChanged_sessionIsLive conn result live
  | discoveryStartWorkHandler accepted =>
      refine iff_of_true ?_ trivial
      simp only [step]
      split
      · exact sessionIsLive_congr (discoveryStartWorkHandler_session s accepted) live
      · exact live
  | discoveryComplete assigned =>
      cases pending : s.discovery with
      | none => simp [step, KeepsSession, pending, live]
      | some discovery =>
          simp [step, KeepsSession, pending, discoveryComplete_sessionIsLive_iff, live]
  | discoveryServiceNotFound =>
      refine iff_of_true (sessionIsLive_congr ?_ live) trivial
      simp only [step]
      split <;> rfl
  | discoveryError =>
      have same : (s.step .discoveryError).session = s.session := rfl
      exact iff_of_true (sessionIsLive_congr same live) trivial
  | finishStart accepted =>
      refine iff_of_true (sessionIsLive_congr ?_ live) trivial
      simp only [step]
      split
      · rw [clientGet_session]
        rfl
      · rfl
  | finishSsidRead accepted =>
      refine iff_of_true (sessionIsLive_congr ?_ live) trivial
      simp only [step]
      split
      · rw [clientGet_session]
        rfl
      · rfl
  | finishPassRead =>
      simp only [step, KeepsSession]
      split
      case isTrue resumed => simp [sessionIsLive_iff, Linked, resumed]
      case isFalse waiting =>
          refine iff_of_true live fun phase given => ?_
          exact absurd ⟨phase, given⟩ waiting
  | finishEnd =>
      refine iff_of_true (sessionIsLive_congr ?_ live) trivial
      simp only [step]
      split <;> rfl
  | onRead =>
      refine iff_of_true (sessionIsLive_congr ?_ live) trivial
      simp only [step]
      split <;> rfl
  | ledIdleHandler => exact iff_of_true (ledIdleHandler_sessionIsLive live) trivial
  | forceConnectCmd =>
      have same : (s.step .forceConnectCmd).session = s.session := rfl
      exact iff_of_true (sessionIsLive_congr same live) trivial

end LinkState

open LinkState

theorem boot_sessionIsLive : LinkState.boot.SessionIsLive :=
  sessionIsLive_of_state (by decide)

/-- In every run, the connected state always means a live connection iff every step keeps
the session.
-/
theorem linkMachine_session_iff (inputs : List LinkInput)
    : linkMachine.Always SessionIsLive .boot inputs
      ↔ linkMachine.Along KeepsSession .boot inputs := by
  rw [InputMachine.always_iff, and_iff_right boot_sessionIsLive]
  have every : ∀ input ∈ inputs, True := fun _ _ => trivial
  refine InputMachine.along_congr SessionIsLive ?_ ?_ boot_sessionIsLive every
  · intro s input live _ keeps
    exact (step_sessionIsLive_iff input live).mpr keeps
  · intro s input live _
    exact step_sessionIsLive_iff input live

/-- Witness: the camera switches off in a session. The state stays connected, no connection
is left, and a command for the camera is still accepted.
-/
theorem linkMachine_session_outlives_camera
    : let final := (linkMachine.run .boot (firstSession ++ [.disconnected])).1
      final.state = .connected ∧ final.defaultConn = none ∧ final.link = .down
        ∧ goproCmdValidator final.state (.ofBytes gpCntrlHandleCmd [3, 1, 1, 1]) = true
        ∧ ¬linkMachine.Always SessionIsLive .boot (firstSession ++ [.disconnected]) := by
  have state :
      (linkMachine.run .boot (firstSession ++ [.disconnected])).1.state = .connected := by
    decide
  have default :
      (linkMachine.run .boot (firstSession ++ [.disconnected])).1.defaultConn = none := by
    decide
  refine ⟨state, default, by decide, by decide, ?_⟩
  intro every
  obtain ⟨conn, peer, up, -, -⟩ := (every _ [] (by simp)).connected state
  rw [default] at up
  cases up

end GoproGateway
