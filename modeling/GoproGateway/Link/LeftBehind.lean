import GoproGateway.Link.Discovery

/-! A service left behind stays behind.

The index only moves forward and each value of it leads to at most one discovery, so a failed
attempt is final: no later step assigns the service, on any connection.
-/

namespace GoproGateway

namespace LinkState

/-- The index has passed a service that was not assigned and is not in progress. -/
structure LeftBehind (s : LinkState) (index : Nat) : Prop where
  passed : index < s.uuidIndex
  unassigned : ∀ peer, (peer, index) ∉ s.assigned
  settled : ∀ discovery, s.discovery = some discovery → discovery.index ≠ index

/-- An attempt at a service that does not end in an assignment. -/
def Fails (s : LinkState) : LinkInput → Prop
  | .discoveryStartWorkHandler accepted => s.startWork = true ∧ s.uuidIndex < uuidListLength
      ∧ ¬(s.discovery = none ∧ s.Starts accepted)
  | .discoveryComplete assigned => s.discovery ≠ none ∧ assigned = false
  | .discoveryServiceNotFound => s.discovery ≠ none
  | .discoveryError => s.discovery ≠ none
  | _ => False

/-- Each index in the list leads to one attempt at most, in order. -/
structure AttemptOrder (s : LinkState) : Prop where
  assigned_lt : ∀ peer index, (peer, index) ∈ s.assigned → index < s.uuidIndex
  pending_lt : ∀ discovery, s.discovery = some discovery
    → discovery.index < s.uuidIndex ∧ discovery.index < uuidListLength
  once : ∀ discovery, s.discovery = some discovery
    → ∀ peer, (peer, discovery.index) ∉ s.assigned

/-- The variables that attempts are about. -/
def attempts (s : LinkState) : Nat × List (Peer × Nat) × Option Discovery :=
  (s.uuidIndex, s.assigned, s.discovery)

theorem LeftBehind.not_allAssigned {s : LinkState} {index : Nat} (left : s.LeftBehind index)
    (inList : index < uuidListLength)
    : ¬s.AllAssigned := by
  rintro ⟨peer, -, assigned⟩
  exact left.unassigned peer (assigned index inList)

/-- Without a discovery, nothing has to be settled. -/
theorem LeftBehind.of_idle {s : LinkState} {index : Nat} (passed : index < s.uuidIndex)
    (unassigned : ∀ peer, (peer, index) ∉ s.assigned) (idle : s.discovery = none)
    : s.LeftBehind index := by
  refine ⟨passed, unassigned, ?_⟩
  intro discovery pending
  cases idle.symm.trans pending

theorem AttemptOrder.of_idle {s : LinkState}
    (assigned_lt : ∀ peer index, (peer, index) ∈ s.assigned → index < s.uuidIndex)
    (idle : s.discovery = none)
    : s.AttemptOrder := by
  refine ⟨assigned_lt, ?_, ?_⟩
  · intro discovery pending
    cases idle.symm.trans pending
  · intro discovery pending
    cases idle.symm.trans pending

theorem LeftBehind.frame {before after : LinkState} {index : Nat}
    (left : before.LeftBehind index) (same : after.attempts = before.attempts)
    : after.LeftBehind index := by
  simp only [attempts, Prod.mk.injEq] at same
  obtain ⟨uuidIndex, assigned, discovery⟩ := same
  constructor
  · exact uuidIndex ▸ left.passed
  · exact assigned ▸ left.unassigned
  · exact discovery ▸ left.settled

theorem AttemptOrder.frame {before after : LinkState} (order : before.AttemptOrder)
    (same : after.attempts = before.attempts)
    : after.AttemptOrder := by
  simp only [attempts, Prod.mk.injEq] at same
  obtain ⟨uuidIndex, assigned, discovery⟩ := same
  constructor
  · rw [assigned, uuidIndex]
    exact order.assigned_lt
  · rw [discovery, uuidIndex]
    exact order.pending_lt
  · rw [discovery, assigned]
    exact order.once

theorem eirFound_attempts (s : LinkState) (peer : Peer) (element : AdvElement)
    : (s.eirFound peer element).attempts = s.attempts := by
  have connects (s : LinkState) (outcome : ConnectOutcome)
      : (s.bleConnect peer outcome).attempts = s.attempts := by
    cases outcome with
    | stopFails | createFails => rfl
    | creates conn =>
        simp only [bleConnect]
        split <;> rfl
  cases element with
  | other => rfl
  | cameraState value outcome =>
      simp only [eirFound]
      split_ifs <;> first | rfl | exact connects _ outcome

theorem advReport_attempts (s : LinkState) (peer : Peer) (elements : List AdvElement)
    : (elements.foldl (fun s element => s.eirFound peer element) s).attempts
      = s.attempts := by
  induction elements generalizing s with
  | nil => rfl
  | cons element rest ih => exact (ih _).trans (eirFound_attempts s peer element)

theorem clientGet_attempts (s : LinkState) (accepted : Bool)
    : (s.clientGet accepted).attempts = s.attempts := by
  simp only [clientGet]
  split <;> rfl

/-- Inputs that are part of an attempt at a service. -/
def IsAttempt : LinkInput → Prop
  | .discoveryStartWorkHandler _ | .discoveryComplete _ | .discoveryServiceNotFound
  | .discoveryError => True
  | _ => False

/-- Other inputs leave the attempts alone. -/
theorem step_attempts {s : LinkState} (input : LinkInput) (other : ¬IsAttempt input)
    : (s.step input).attempts = s.attempts := by
  cases input with
  | discoveryStartWorkHandler | discoveryComplete | discoveryServiceNotFound
  | discoveryError => exact absurd trivial other
  | scanWorkHandler outcome =>
      simp only [step]
      split
      · cases outcome <;> rfl
      · rfl
  | advReport peer elements =>
      simp only [step]
      split
      · exact advReport_attempts s peer elements
      · rfl
  | connected failed security =>
      simp only [step, connected, gattDiscover]
      split
      · split_ifs <;> rfl
      · rfl
  | disconnected =>
      simp only [step, disconnected]
      split
      · split <;> rfl
      · rfl
  | securityChanged result =>
      simp only [step, gattDiscover, securityChanged]
      split
      · cases result with
        | success =>
            dsimp only
            split <;> rfl
        | pinOrKeyMissing | otherError => rfl
      · rfl
  | finishStart accepted | finishSsidRead accepted =>
      simp only [step]
      split
      · exact clientGet_attempts _ accepted
      · rfl
  | finishPassRead | finishEnd | onRead =>
      simp only [step]
      split <;> rfl
  | ledIdleHandler =>
      simp only [step, ledIdleHandler]
      split <;> rfl
  | forceConnectCmd => rfl

/-- A turn of the work item in the list moves the index, and starts a discovery only if none
is in progress and the stack accepts it.
-/
theorem discoveryStartWorkHandler_attempts {s : LinkState} (accepted : Bool)
    (inList : s.uuidIndex < uuidListLength)
    : ∃ discovery, (s.discoveryStartWorkHandler accepted).attempts
        = (s.uuidIndex + 1, s.assigned, discovery)
      ∧ ((discovery = s.discovery ∧ ¬(s.discovery = none ∧ s.Starts accepted))
        ∨ ((s.discovery = none ∧ s.Starts accepted)
          ∧ ∃ conn peer, discovery = some ⟨conn, peer, s.uuidIndex⟩)) := by
  refine ⟨(s.discoveryStartWorkHandler accepted).discovery, ?_, ?_⟩
  · simp [attempts, discoveryStartWorkHandler, Nat.not_le_of_lt inList]
  · simp only [discoveryStartWorkHandler, ge_iff_le, Nat.not_le_of_lt inList, if_false]
    cases pending : s.discovery with
    | some discovery => exact .inl ⟨rfl, by simp⟩
    | none =>
        cases link : s.link with
        | down | connecting => exact .inl ⟨rfl, by simp [Starts, link]⟩
        | up conn peer =>
            by_cases starts : accepted = true ∧ s.defaultConn = some conn
            · exact .inr ⟨⟨rfl, starts.1, conn, peer, link, starts.2⟩, conn, peer, if_pos starts⟩
            · refine .inl ⟨if_neg starts, ?_⟩
              rintro ⟨-, isAccepted, other, otherPeer, up, default⟩
              obtain ⟨rfl, rfl⟩ := Link.up.inj (link.symm.trans up)
              exact starts ⟨isAccepted, default⟩

theorem discoveryStartWorkHandler_listEnd {s : LinkState} {accepted : Bool}
    (listEnd : uuidListLength ≤ s.uuidIndex)
    : (s.discoveryStartWorkHandler accepted).attempts = s.attempts := by
  simp [attempts, discoveryStartWorkHandler, listEnd]

/-- No step assigns a service left behind. -/
theorem step_leftBehind {s : LinkState} {index : Nat} (input : LinkInput)
    (left : s.LeftBehind index)
    : (s.step input).LeftBehind index := by
  by_cases attempt : IsAttempt input
  case neg => exact left.frame (step_attempts input attempt)
  cases input with
  | discoveryStartWorkHandler accepted =>
      simp only [step]
      split
      case isFalse => exact left
      rcases Nat.lt_or_ge s.uuidIndex uuidListLength with inList | listEnd
      · obtain ⟨discovery, same, outcome⟩ :=
          discoveryStartWorkHandler_attempts accepted inList
        simp only [attempts, Prod.mk.injEq] at same
        obtain ⟨uuidIndex, assigned, isDiscovery⟩ := same
        refine ⟨?_, assigned ▸ left.unassigned, ?_⟩
        · rw [uuidIndex]
          exact Nat.lt_succ_of_lt left.passed
        · rw [isDiscovery]
          rcases outcome with ⟨rfl, -⟩ | ⟨-, conn, peer, rfl⟩
          · exact left.settled
          · rintro _ ⟨⟩
            exact Nat.ne_of_gt left.passed
      · exact left.frame (discoveryStartWorkHandler_listEnd listEnd)
  | discoveryComplete assigned =>
      cases pending : s.discovery with
      | none => simpa only [step, pending] using left
      | some discovery =>
          have different := left.settled discovery pending
          simp only [step, pending]
          cases assigned with
          | false => exact .of_idle left.passed left.unassigned rfl
          | true =>
              refine .of_idle left.passed ?_ rfl
              intro peer
              simp only [discoveryComplete, if_true, List.mem_cons, not_or]
              refine ⟨fun same => different ?_, left.unassigned peer⟩
              exact (congrArg Prod.snd same).symm
  | discoveryServiceNotFound =>
      simp only [step]
      split
      · exact .of_idle left.passed left.unassigned rfl
      · exact left
  | discoveryError => exact .of_idle left.passed left.unassigned rfl
  | _ => exact absurd attempt id

theorem boot_attemptOrder : boot.AttemptOrder := by
  refine ⟨?_, ?_, ?_⟩ <;> simp [boot]

theorem step_attemptOrder {s : LinkState} (input : LinkInput) (order : s.AttemptOrder)
    : (s.step input).AttemptOrder := by
  by_cases attempt : IsAttempt input
  case neg => exact order.frame (step_attempts input attempt)
  cases input with
  | discoveryStartWorkHandler accepted =>
      simp only [step]
      split
      case isFalse => exact order
      rcases Nat.lt_or_ge s.uuidIndex uuidListLength with inList | listEnd
      · obtain ⟨discovery, same, outcome⟩ :=
          discoveryStartWorkHandler_attempts accepted inList
        simp only [attempts, Prod.mk.injEq] at same
        obtain ⟨uuidIndex, assigned, isDiscovery⟩ := same
        constructor
        · intro peer index member
          rw [assigned] at member
          rw [uuidIndex]
          exact Nat.lt_succ_of_lt (order.assigned_lt peer index member)
        · rw [isDiscovery, uuidIndex]
          rcases outcome with ⟨rfl, -⟩ | ⟨-, conn, peer, rfl⟩
          · intro discovery pending
            obtain ⟨passed, listed⟩ := order.pending_lt discovery pending
            exact ⟨Nat.lt_succ_of_lt passed, listed⟩
          · rintro _ ⟨⟩
            exact ⟨Nat.lt_succ_self _, inList⟩
        · rw [isDiscovery, assigned]
          rcases outcome with ⟨rfl, -⟩ | ⟨-, conn, peer, rfl⟩
          · exact order.once
          · rintro _ ⟨⟩ peer member
            exact Nat.lt_irrefl _ (order.assigned_lt peer _ member)
      · exact order.frame (discoveryStartWorkHandler_listEnd listEnd)
  | discoveryComplete assigned =>
      cases pending : s.discovery with
      | none => simpa only [step, pending] using order
      | some discovery =>
          simp only [step, pending]
          cases assigned with
          | false => exact .of_idle order.assigned_lt rfl
          | true =>
              refine .of_idle ?_ rfl
              intro peer index member
              simp only [discoveryComplete, if_true, List.mem_cons] at member ⊢
              rcases member with same | member
              · cases same
                exact (order.pending_lt discovery pending).1
              · exact order.assigned_lt peer index member
  | discoveryServiceNotFound =>
      simp only [step]
      split
      · exact .of_idle order.assigned_lt rfl
      · exact order
  | discoveryError => exact .of_idle order.assigned_lt rfl
  | _ => exact absurd attempt id

/-- A discovery that ends without an assignment leaves its service behind. -/
theorem AttemptOrder.leftBehind {s after : LinkState} (order : s.AttemptOrder)
    {discovery : Discovery} (pending : s.discovery = some discovery)
    (same : after.attempts = (s.uuidIndex, s.assigned, none))
    : after.LeftBehind discovery.index := by
  simp only [attempts, Prod.mk.injEq] at same
  obtain ⟨uuidIndex, assigned, settled⟩ := same
  refine ⟨?_, ?_, ?_⟩
  · rw [uuidIndex]
    exact (order.pending_lt discovery pending).1
  · rw [assigned]
    exact order.once discovery pending
  · rw [settled]
    nofun

/-- Every failing attempt leaves a service of the list behind. -/
theorem step_fails {s : LinkState} (input : LinkInput) (order : s.AttemptOrder)
    (fails : s.Fails input)
    : ∃ index < uuidListLength, (s.step input).LeftBehind index := by
  cases input with
  | discoveryStartWorkHandler accepted =>
      obtain ⟨submitted, inList, refused⟩ := fails
      obtain ⟨discovery, same, outcome⟩ := discoveryStartWorkHandler_attempts accepted inList
      simp only [attempts, Prod.mk.injEq] at same
      obtain ⟨uuidIndex, assigned, isDiscovery⟩ := same
      rcases outcome with ⟨rfl, -⟩ | ⟨starts, -⟩
      · refine ⟨s.uuidIndex, inList, ?_⟩
        simp only [step, submitted, if_true]
        refine ⟨?_, ?_, ?_⟩
        · rw [uuidIndex]
          exact Nat.lt_succ_self _
        · intro peer member
          rw [assigned] at member
          exact Nat.lt_irrefl _ (order.assigned_lt peer _ member)
        · intro discovery pending
          rw [isDiscovery] at pending
          exact Nat.ne_of_lt (order.pending_lt discovery pending).1
      · exact absurd starts refused
  | discoveryComplete assigned =>
      obtain ⟨inProgress, rfl⟩ := fails
      obtain ⟨discovery, pending⟩ := Option.ne_none_iff_exists'.mp inProgress
      refine ⟨discovery.index, (order.pending_lt discovery pending).2, ?_⟩
      exact order.leftBehind pending (by simp [step, pending, discoveryComplete, attempts])
  | discoveryServiceNotFound =>
      obtain ⟨discovery, pending⟩ := Option.ne_none_iff_exists'.mp fails
      refine ⟨discovery.index, (order.pending_lt discovery pending).2, ?_⟩
      exact order.leftBehind pending (by simp [step, pending, attempts])
  | discoveryError =>
      obtain ⟨discovery, pending⟩ := Option.ne_none_iff_exists'.mp fails
      exact ⟨discovery.index, (order.pending_lt discovery pending).2,
        order.leftBehind pending rfl⟩
  | _ => exact absurd fails id

end LinkState

open LinkState

/-- Once an attempt has failed, no later state of the run has every service assigned, for any
peer: the session that `discovery_finish_work_handler` announces is never complete again.
-/
theorem linkMachine_fails_forever (before : List LinkInput) (input : LinkInput)
    (after : List LinkInput) (fails : (linkMachine.run .boot before).1.Fails input)
    : linkMachine.Always (fun s => ¬s.AllAssigned)
        (linkMachine.run .boot (before ++ [input])).1 after := by
  have order : (linkMachine.run .boot before).1.AttemptOrder :=
    InputMachine.Always.of_preserved (fun _ input => step_attemptOrder input)
      boot_attemptOrder before before [] (by simp)
  obtain ⟨index, inList, left⟩ := step_fails input order fails
  have stays : linkMachine.Always (fun s => s.LeftBehind index)
      (linkMachine.run .boot (before ++ [input])).1 after := by
    refine InputMachine.Always.of_preserved (fun _ input => step_leftBehind input) ?_ after
    rw [InputMachine.run_append]
    exact left
  intro reached rest split
  exact (stays reached rest split).not_allAssigned inList

end GoproGateway
