import GoproGateway.Command.Publishers
import GoproGateway.Library.BinarySemaphore
import GoproGateway.Library.InputMachine
import GoproGateway.Parse.HwInfoRejected

/-! The start of a session: `discovery_finish_work_handler`, which has a work queue of its own.

The handler reads two names, subscribes, polls for the hardware information, and asks for the
statuses. For the callback of a read it waits without a limit, and for the answer to a poll for
one second. An input that does not fit leaves the state as it is.
-/

namespace GoproGateway

def goproGetHwInfo : GoproCmd := staticCmd gpCntrlHandleCmd [1, 0x3C]

def goproQueryRegister : GoproCmd := staticCmd gpCntrlHandleQuery [4, 0x53, 10, 39, 70]
def goproQueryVideoNum : GoproCmd := staticCmd gpCntrlHandleQuery [2, 0x13, 39]
def goproQueryBattery : GoproCmd := staticCmd gpCntrlHandleQuery [2, 0x13, 70]
def goproQueryEncoding : GoproCmd := staticCmd gpCntrlHandleQuery [2, 0x13, 10]

def startupQueryList : List GoproCmd :=
  [goproQueryRegister, goproQueryVideoNum, goproQueryBattery, goproQueryEncoding]

/-- The names that are read: `GP_WIFI_HANDLE_SSID` and `GP_WIFI_HANDLE_PASS`. -/
inductive WifiRead where
  | ssid
  | pass
  deriving DecidableEq, Repr

/-- Where the handler is. -/
inductive StartupPhase where
  | idle
  /-- Before the request for a name. -/
  | read (name : WifiRead)
  /-- Between the request and the end of the wait for `ble_read_sem`. -/
  | reading (name : WifiRead)
  | subscribe
  /-- Before a poll; `polls` of them have been made. -/
  | poll (polls : Nat)
  /-- Between a poll and the end of the wait for `get_hw_sem`. -/
  | polled (polls : Nat)
  | finish
  deriving DecidableEq, Repr

/-- Behind the wait for a name. -/
def WifiRead.next : WifiRead → StartupPhase
  | .ssid => .read .pass
  | .pass => .subscribe

structure StartupState where
  phase : StartupPhase
  /-- `discovery_finish_work` is queued. -/
  queued : Bool
  bleReadSem : BinarySemaphore
  getHwSem : BinarySemaphore
  /-- How many reads the stack has accepted and not called back for. -/
  reads : Nat
  /-- `GP_FLAG_JUST_PAIRED` of `gopro_client.state`. -/
  justPaired : Bool

def StartupState.boot : StartupState := ⟨.idle, false, .empty, .empty, 0, false⟩

inductive StartupInput where
  /-- Discovery is at its end and submits the work. -/
  | submit
  /-- The work queue runs up to the next call that waits, or the next one of these phases;
  `bt_gopro_client_get` returns `err`, if it is called. -/
  | turn (err : Int)
  /-- `on_read_ssid` or `on_read_pass`. -/
  | onRead
  /-- `gopro_packet_parse_cmd` on hardware information, whatever its reader makes of it. -/
  | hwInfo
  /-- `k_sem_take` of `get_hw_sem` returns after one second. -/
  | pollTimeout
  | pairingComplete

inductive StartupEvent where
  /-- `bt_gopro_client_get` returns `err` for a name. -/
  | read (name : WifiRead) (err : Int)
  /-- `gopro_set_subscribe` for a handle. -/
  | setSubscribe (handle : Nat)
  | setSate (state : GoproStateList)
  /-- A publication on `gopro_cmd_chan` is attempted. -/
  | attempted (cmd : GoproCmd)
  /-- The wait for `get_hw_sem` has ended with it. -/
  | answered
  | finishPairing
  /-- The end of the handler: `GP_FLAG_FORCE_CONNECT` is cleared. -/
  | clearForceConnect
  /-- Hardware information gives `get_hw_sem`, unless the semaphore is at its limit. -/
  | hwInfo (lost : Bool)
  /-- A pairing sets the flag, unless it is set. -/
  | paired (again : Bool)
  deriving DecidableEq

namespace StartupState

/-- The task of a wait for a name has `ble_read_sem`. -/
def hasRead (s : StartupState) : StartupState :=
  match s.phase with
  | .reading name => { s with phase := name.next }
  | _ => s

/-- The wait behind a poll ends without an answer. -/
def pollEnds (s : StartupState) : StartupState :=
  match s.phase with
  | .polled polls =>
      { s with phase := if polls < getHwPollCount then .poll polls else .finish }
  | _ => s

/-- `discovery_finish_work_handler`, by one of its phases. -/
def turn (s : StartupState) (err : Int) : StartupState × List StartupEvent :=
  match s.phase with
  | .idle => (if s.queued then { s with phase := .read .ssid, queued := false } else s, [])
  | .read name =>
      ({ s with phase := .reading name, reads := if err = 0 then s.reads + 1 else s.reads },
        [.read name err])
  | .reading _ =>
      if s.bleReadSem.waiting then (s, [])
      else
        let next := { s with bleReadSem := s.bleReadSem.take.1 }
        (if s.bleReadSem.take.2 then next.hasRead else next, [])
  | .subscribe =>
      ({ s with phase := .poll 0 },
        [.setSubscribe gpCntrlHandleCmd, .setSubscribe gpCntrlHandleSettings,
          .setSubscribe gpCntrlHandleQuery, .setSubscribe gpCntrlHandleNet,
          .setSate .connected])
  | .poll polls => ({ s with phase := .polled (polls + 1) }, [.attempted goproGetHwInfo])
  | .polled _ =>
      if s.getHwSem.waiting then (s, [])
      else
        let next := { s with getHwSem := s.getHwSem.take.1 }
        if s.getHwSem.take.2 then ({ next with phase := .finish }, [.answered]) else (next, [])
  | .finish =>
      ({ s with phase := .idle, justPaired := false },
        (if s.justPaired then [.finishPairing] else [])
          ++ startupQueryList.map .attempted ++ [.clearForceConnect])

/-- One input. -/
def step (s : StartupState) : StartupInput → StartupState × List StartupEvent
  | .submit => ({ s with queued := true }, [])
  | .turn err => s.turn err
  | .onRead =>
      if 0 < s.reads then
        let next := { s with bleReadSem := s.bleReadSem.give.1, reads := s.reads - 1 }
        (if s.bleReadSem.waiting then next.hasRead else next, [])
      else (s, [])
  | .hwInfo =>
      let next := { s with getHwSem := s.getHwSem.give.1 }
      if s.getHwSem.waiting then ({ next with phase := .finish }, [.hwInfo false, .answered])
      else (next, [.hwInfo s.getHwSem.give.2])
  | .pollTimeout =>
      if s.getHwSem.waiting then ({ s with getHwSem := s.getHwSem.expire }.pollEnds, [])
      else (s, [])
  | .pairingComplete => ({ s with justPaired := true }, [.paired s.justPaired])

end StartupState

/-- The starts of sessions over whole input sequences. -/
def startupMachine : InputMachine StartupState StartupInput StartupEvent where
  step := StartupState.step

/-- Events of the handler itself. -/
def StartupEvent.own : StartupEvent → Bool
  | .hwInfo _ | .paired _ => false
  | _ => true

-----------------------------------------------------------------------------------------
-- Sessions
-----------------------------------------------------------------------------------------

/-- Both reads have been accepted. -/
def namesRead : List StartupEvent := [.read .ssid 0, .read .pass 0]

/-- The session is set up, and polls have been made. -/
def afterPolls (polls : Nat) : List StartupEvent :=
  namesRead
    ++ [.setSubscribe gpCntrlHandleCmd, .setSubscribe gpCntrlHandleSettings,
      .setSubscribe gpCntrlHandleQuery, .setSubscribe gpCntrlHandleNet, .setSate .connected]
    ++ List.replicate polls (.attempted goproGetHwInfo)

/-- What the handler does in front of the pairing: it polls until it has an answer, or to the
limit.
-/
inductive Polls : List StartupEvent → Prop where
  | answered {polls : Nat} (positive : 0 < polls) (within : polls ≤ getHwPollCount)
    : Polls (afterPolls polls ++ [.answered])
  | unanswered : Polls (afterPolls getHwPollCount)

/-- A session from its start to its end: what is in front of the pairing, the end of the pairing
when there is one, and the queries.
-/
def IsSession (events : List StartupEvent) : Prop :=
  ∃ (front : List StartupEvent) (paired : Bool), Polls front
    ∧ events = front ++ ((if paired then [.finishPairing] else [])
      ++ startupQueryList.map .attempted ++ [.clearForceConnect])

/-- What the handler has done where it is. `pending` is 1 when the callback of a read is yet to
come or has left a token; there is none for a read that was refused.
-/
inductive Wrote : StartupPhase → Nat → List StartupEvent → Prop where
  | idle : Wrote .idle 0 []
  | readSsid : Wrote (.read .ssid) 0 []
  | readingSsid (err : Int)
    : Wrote (.reading .ssid) (if err = 0 then 1 else 0) [.read .ssid err]
  | readPass : Wrote (.read .pass) 0 [.read .ssid 0]
  | readingPass (err : Int)
    : Wrote (.reading .pass) (if err = 0 then 1 else 0) [.read .ssid 0, .read .pass err]
  | subscribe : Wrote .subscribe 0 namesRead
  | poll {polls : Nat} (within : polls < getHwPollCount)
    : Wrote (.poll polls) 0 (afterPolls polls)
  | polled {polls : Nat} (positive : 0 < polls) (within : polls ≤ getHwPollCount)
    : Wrote (.polled polls) 0 (afterPolls polls)
  | finish {events : List StartupEvent} (polls : Polls events) : Wrote .finish 0 events

namespace Wrote

variable {phase : StartupPhase} {pending : Nat} {name : WifiRead} {events : List StartupEvent}

theorem pending_le_one (wrote : Wrote phase pending events) : pending ≤ 1 := by
  cases wrote <;> first | exact Nat.zero_le 1 | (split <;> decide)

/-- Callbacks are pending in a wait for a name only. -/
theorem reading_of_pending (wrote : Wrote phase pending events) (some : 0 < pending)
    : ∃ name, phase = .reading name := by
  cases wrote with
  | readingSsid => exact ⟨.ssid, rfl⟩
  | readingPass => exact ⟨.pass, rfl⟩
  | _ => exact absurd some (Nat.lt_irrefl 0)

theorem begins (wrote : Wrote .idle pending events) : Wrote (.read .ssid) pending events := by
  cases wrote with
  | idle => exact .readSsid

/-- The request for a name. -/
theorem request (wrote : Wrote (.read name) pending events) (err : Int)
    : pending = 0
      ∧ Wrote (.reading name) (if err = 0 then 1 else 0) (events ++ [.read name err]) := by
  cases wrote with
  | readSsid => exact ⟨rfl, .readingSsid err⟩
  | readPass => exact ⟨rfl, .readingPass err⟩

/-- The callback of a read lets the handler run on. -/
theorem next (wrote : Wrote (.reading name) 1 events) : Wrote name.next 0 events := by
  generalize one : 1 = pending at wrote
  cases wrote with
  | readingSsid err =>
      obtain rfl : err = 0 := by
        by_contra refused
        exact absurd one (by simp [refused])
      exact .readPass
  | readingPass err =>
      obtain rfl : err = 0 := by
        by_contra refused
        exact absurd one (by simp [refused])
      exact .subscribe

/-- The subscriptions come in front of the polls. -/
theorem setUp (wrote : Wrote .subscribe pending events)
    : pending = 0
      ∧ Wrote (.poll 0) 0 (events
        ++ [.setSubscribe gpCntrlHandleCmd, .setSubscribe gpCntrlHandleSettings,
          .setSubscribe gpCntrlHandleQuery, .setSubscribe gpCntrlHandleNet,
          .setSate .connected]) := by
  cases wrote with
  | subscribe => exact ⟨rfl, .poll (by decide)⟩

variable {polls : Nat}

/-- One more poll. -/
theorem ask (wrote : Wrote (.poll polls) pending events)
    : pending = 0
      ∧ Wrote (.polled (polls + 1)) 0 (events ++ [.attempted goproGetHwInfo]) := by
  cases wrote with
  | poll within =>
      have more : afterPolls polls ++ [.attempted goproGetHwInfo] = afterPolls (polls + 1) := by
        rw [afterPolls, afterPolls, List.append_assoc, List.replicate_succ']
      rw [more]
      exact ⟨rfl, .polled (Nat.succ_pos polls) within⟩

theorem answer (wrote : Wrote (.polled polls) pending events)
    : pending = 0 ∧ Wrote .finish 0 (events ++ [.answered]) := by
  cases wrote with
  | polled positive within => exact ⟨rfl, .finish (.answered positive within)⟩

/-- Without an answer, there is another poll up to the limit. -/
theorem silence (wrote : Wrote (.polled polls) pending events)
    : pending = 0
      ∧ Wrote (if polls < getHwPollCount then .poll polls else .finish) 0 events := by
  cases wrote with
  | polled positive within =>
      refine ⟨rfl, ?_⟩
      split
      case isTrue more => exact .poll more
      case isFalse last =>
        obtain rfl : polls = getHwPollCount := Nat.le_antisymm within (Nat.le_of_not_lt last)
        exact .finish .unanswered

theorem finished (wrote : Wrote .finish pending events) : pending = 0 ∧ Polls events := by
  cases wrote with
  | finish polls => exact ⟨rfl, polls⟩

end Wrote

namespace StartupState

/-- The callbacks that are yet to come, and the token of one that has come. -/
def pending (s : StartupState) : Nat := s.reads + s.bleReadSem.available.toNat

/-- The handler waits for a semaphore only where its phase is. -/
structure Placed (s : StartupState) : Prop where
  read : s.bleReadSem.waiting = true → ∃ name, s.phase = .reading name
  hwInfo : s.getHwSem.waiting = true → ∃ polls, s.phase = .polled polls

theorem Placed.read_runs {s : StartupState} (placed : s.Placed)
    (elsewhere : ∀ name, s.phase ≠ .reading name)
    : s.bleReadSem.waiting = false := by
  by_contra waits
  obtain ⟨name, here⟩ := placed.read (by simpa using waits)
  exact elsewhere name here

theorem Placed.hwInfo_runs {s : StartupState} (placed : s.Placed)
    (elsewhere : ∀ polls, s.phase ≠ .polled polls)
    : s.getHwSem.waiting = false := by
  by_contra waits
  obtain ⟨polls, here⟩ := placed.hwInfo (by simpa using waits)
  exact elsewhere polls here

/-- A step has gone on with the session, or has ended it. -/
def Follows (s : StartupState) (events : List StartupEvent) : Prop :=
  s.Placed
    ∧ (Wrote s.phase s.pending events ∨ IsSession events ∧ Wrote s.phase s.pending [])

variable {s : StartupState} {events : List StartupEvent}

theorem Follows.of_quiet {next : StartupState} (placed : next.Placed)
    (wrote : Wrote next.phase next.pending events)
    : next.Follows (events ++ []) := by
  rw [List.append_nil]
  exact ⟨placed, .inl wrote⟩

section Steps

variable (placed : s.Placed) (wrote : Wrote s.phase s.pending events)

include placed wrote

/-- The callback of a read. -/
theorem onRead_follows : (s.step .onRead).1.Follows (events ++ []) := by
  by_cases some : 0 < s.reads
  · have pending := wrote.pending_le_one
    obtain ⟨name, here⟩ :=
      wrote.reading_of_pending (Nat.lt_of_lt_of_le some (Nat.le_add_right _ _))
    have runs := placed.hwInfo_runs (by simp [here])
    have one : s.pending = 1 ∧ s.reads = 1 ∧ s.bleReadSem.available = false := by
      unfold StartupState.pending at pending ⊢
      cases available : s.bleReadSem.available
      · simp only [available, Bool.toNat_false] at pending ⊢
        exact ⟨by omega, by omega, trivial⟩
      · simp only [available, Bool.toNat_true] at pending
        omega
    rw [here, one.1] at wrote
    rw [step, if_pos some]
    by_cases waits : s.bleReadSem.waiting = true
    · simp only [if_pos waits, hasRead, here, BinarySemaphore.give_of_waiting waits]
      refine .of_quiet ⟨by simp [BinarySemaphore.empty], by simp [runs]⟩ ?_
      simpa [StartupState.pending, one.2.1, BinarySemaphore.empty] using wrote.next
    · simp only [if_neg waits]
      refine .of_quiet ⟨fun _ => ⟨name, here⟩, by simp [runs]⟩ ?_
      simpa [StartupState.pending, one.2.1, here,
        BinarySemaphore.give_available (by simpa using waits)] using wrote
  · rw [step, if_neg some]
    exact .of_quiet placed wrote

theorem hwInfo_follows
    : (s.step .hwInfo).1.Follows (events ++ (s.step .hwInfo).2.filter StartupEvent.own) := by
  by_cases waits : s.getHwSem.waiting = true
  · obtain ⟨polls, here⟩ := placed.hwInfo waits
    have runs := placed.read_runs (by simp [here])
    rw [here] at wrote
    obtain ⟨none, answered⟩ := wrote.answer
    simp only [step, if_pos waits]
    refine ⟨⟨by simp [runs], by simp [BinarySemaphore.give_of_waiting waits,
      BinarySemaphore.empty]⟩, .inl ?_⟩
    exact none ▸ answered
  · simp only [step, if_neg waits]
    exact .of_quiet ⟨placed.read, by simp [s.getHwSem.give_waiting]⟩ wrote

theorem pollTimeout_follows : (s.step .pollTimeout).1.Follows (events ++ []) := by
  by_cases waits : s.getHwSem.waiting = true
  · obtain ⟨polls, here⟩ := placed.hwInfo waits
    have runs := placed.read_runs (by simp [here])
    rw [here] at wrote
    obtain ⟨none, silent⟩ := wrote.silence
    simp only [step, if_pos waits, pollEnds, here]
    exact .of_quiet ⟨by simp [runs], by simp [BinarySemaphore.expire]⟩ (none ▸ silent)
  · rw [step, if_neg waits]
    exact .of_quiet placed wrote

theorem turn_follows (err : Int)
    : (s.turn err).1.Follows (events ++ (s.turn err).2.filter StartupEvent.own) := by
  cases here : s.phase with
  | idle =>
      have runs := placed.read_runs (by simp [here])
      have quiet := placed.hwInfo_runs (by simp [here])
      rw [here] at wrote
      simp only [turn, here]
      split
      · refine .of_quiet ⟨by simp [runs], by simp [quiet]⟩ ?_
        exact wrote.begins
      · exact .of_quiet placed (here ▸ wrote)
  | read name =>
      have quiet := placed.hwInfo_runs (by simp [here])
      rw [here] at wrote
      obtain ⟨none, requested⟩ := wrote.request err
      obtain ⟨noReads, noToken⟩ := Nat.add_eq_zero_iff.mp none
      simp only [turn, here]
      refine ⟨⟨fun _ => ⟨name, rfl⟩, by simp [quiet]⟩, .inl ?_⟩
      simp only [StartupState.pending, noReads, noToken, Nat.zero_add, Nat.add_zero]
      exact requested
  | reading name =>
      have quiet := placed.hwInfo_runs (by simp [here])
      have pending := wrote.pending_le_one
      rw [here] at wrote
      by_cases waits : s.bleReadSem.waiting = true
      · simp only [turn, here, if_pos waits]
        exact .of_quiet placed (here ▸ wrote)
      simp only [turn, here, if_neg waits]
      cases token : s.bleReadSem.available with
      | true =>
          simp only [BinarySemaphore.take_of_available token, if_true, hasRead]
          refine .of_quiet ⟨by simp [BinarySemaphore.empty], by simp [quiet]⟩ ?_
          have noReads : s.reads = 0 := by
            simp only [StartupState.pending, token, Bool.toNat_true] at pending
            omega
          simp only [StartupState.pending, token, noReads] at wrote ⊢
          exact wrote.next
      | false =>
          rw [BinarySemaphore.take_of_unavailable token]
          refine .of_quiet ⟨fun _ => ⟨name, rfl⟩, by simp [quiet]⟩ ?_
          simp only [StartupState.pending, token] at wrote
          exact wrote
  | subscribe =>
      have runs := placed.read_runs (by simp [here])
      have quiet := placed.hwInfo_runs (by simp [here])
      rw [here] at wrote
      obtain ⟨none, subscribed⟩ := wrote.setUp
      simp only [turn, here]
      exact ⟨⟨by simp [runs], by simp [quiet]⟩, .inl (none ▸ subscribed)⟩
  | poll polls =>
      have runs := placed.read_runs (by simp [here])
      have quiet := placed.hwInfo_runs (by simp [here])
      rw [here] at wrote
      obtain ⟨none, asked⟩ := wrote.ask
      simp only [turn, here]
      exact ⟨⟨by simp [runs], by simp [quiet]⟩, .inl (none ▸ asked)⟩
  | polled polls =>
      have runs := placed.read_runs (by simp [here])
      rw [here] at wrote
      obtain ⟨none, answered⟩ := wrote.answer
      by_cases waits : s.getHwSem.waiting = true
      · simp only [turn, here, if_pos waits]
        exact .of_quiet placed (here ▸ wrote)
      simp only [turn, here, if_neg waits]
      cases token : s.getHwSem.available with
      | true =>
          simp only [BinarySemaphore.take_of_available token, if_true]
          exact ⟨⟨by simp [runs], by simp [BinarySemaphore.empty]⟩, .inl (none ▸ answered)⟩
      | false =>
          rw [BinarySemaphore.take_of_unavailable token]
          exact .of_quiet ⟨by simp [runs], fun _ => ⟨polls, rfl⟩⟩ wrote
  | finish =>
      have runs := placed.read_runs (by simp [here])
      have quiet := placed.hwInfo_runs (by simp [here])
      rw [here] at wrote
      obtain ⟨none, polled⟩ := wrote.finished
      simp only [turn, here]
      refine ⟨⟨by simp [runs], by simp [quiet]⟩, .inr ⟨⟨events, s.justPaired, polled, ?_⟩, ?_⟩⟩
      · cases s.justPaired <;> rfl
      · exact none ▸ .idle

/-- A step goes on with the session. -/
theorem step_follows (input : StartupInput)
    : (s.step input).1.Follows (events ++ (s.step input).2.filter StartupEvent.own) := by
  cases input with
  | submit => exact .of_quiet ⟨placed.read, placed.hwInfo⟩ wrote
  | turn err => exact turn_follows placed wrote err
  | onRead =>
      have none : (s.step .onRead).2 = [] := by
        simp only [step]
        split <;> rfl
      rw [none]
      exact onRead_follows placed wrote
  | hwInfo => exact hwInfo_follows placed wrote
  | pollTimeout =>
      have none : (s.step .pollTimeout).2 = [] := by
        simp only [step]
        split <;> rfl
      rw [none]
      exact pollTimeout_follows placed wrote
  | pairingComplete => exact .of_quiet ⟨placed.read, placed.hwInfo⟩ wrote

end Steps

end StartupState

/-- In every run, what the handler does is whole sessions, one after the other, and what it has
done in the one that it is in. Each session reads both names, subscribes to the four handles,
polls until it has an answer or 20 times, ends a pairing when there was one, and asks for the
statuses. A read that is refused is the last thing that the handler ever does: no session goes
past it, and the wait behind it has no limit.
-/
theorem startupMachine_sessions (inputs : List StartupInput)
    : let (s, events) := startupMachine.run .boot inputs
      ∃ (sessions : List (List StartupEvent)) (last : List StartupEvent),
        events.filter StartupEvent.own = sessions.flatten ++ last
          ∧ (∀ session ∈ sessions, IsSession session) ∧ Wrote s.phase s.pending last := by
  have step (s : StartupState) (events : List StartupEvent) (input : StartupInput)
      (before : s.Placed ∧ ∃ (sessions : List (List StartupEvent)) (last : List StartupEvent),
        events.filter StartupEvent.own = sessions.flatten ++ last
          ∧ (∀ session ∈ sessions, IsSession session) ∧ Wrote s.phase s.pending last)
      : (startupMachine.step s input).1.Placed
        ∧ ∃ (sessions : List (List StartupEvent)) (last : List StartupEvent),
          (events ++ (startupMachine.step s input).2).filter StartupEvent.own
              = sessions.flatten ++ last
            ∧ (∀ session ∈ sessions, IsSession session)
            ∧ Wrote (startupMachine.step s input).1.phase
                (startupMachine.step s input).1.pending last := by
    obtain ⟨placed, sessions, last, split, whole, wrote⟩ := before
    obtain ⟨next, goesOn | ⟨ended, fresh⟩⟩ := StartupState.step_follows placed wrote input
    · refine ⟨next, sessions, _, ?_, whole, goesOn⟩
      rw [List.filter_append, split, List.append_assoc]
      rfl
    · refine ⟨next, sessions ++ [last ++ (s.step input).2.filter StartupEvent.own], [], ?_, ?_,
        fresh⟩
      · rw [List.filter_append, split, List.flatten_append, List.flatten_singleton,
          List.append_nil, List.append_assoc]
        rfl
      · exact List.forall_mem_append.mpr ⟨whole, List.forall_mem_singleton.mpr ended⟩
  have placed : StartupState.boot.Placed := by
    constructor <;> simp [StartupState.boot, BinarySemaphore.empty]
  have boot : StartupState.boot.Placed
      ∧ ∃ (sessions : List (List StartupEvent)) (last : List StartupEvent),
        ([] : List StartupEvent).filter StartupEvent.own = sessions.flatten ++ last
          ∧ (∀ session ∈ sessions, IsSession session)
          ∧ Wrote StartupState.boot.phase StartupState.boot.pending last :=
    ⟨placed, [], [], rfl, by simp, .idle⟩
  exact (startupMachine.run_history _ step boot inputs).2

-----------------------------------------------------------------------------------------
-- Answers and pairings
-----------------------------------------------------------------------------------------

def StartupEvent.isHwInfo : StartupEvent → Bool
  | .hwInfo _ => true
  | _ => false

def StartupEvent.isPaired : StartupEvent → Bool
  | .paired _ => true
  | _ => false

/-- Of the hardware information and the pairings in `events`, what is not an answer or an end of
pairing, was not lost, and did not find the flag set, is there in `s`, next to what was there
in `before`.
-/
def StartupAccounts (before s : StartupState) (events : List StartupEvent) : Prop :=
  events.count .answered + events.count (.hwInfo true) + s.getHwSem.available.toNat
      = events.countP StartupEvent.isHwInfo + before.getHwSem.available.toNat
    ∧ events.count .finishPairing + events.count (.paired true) + s.justPaired.toNat
      = events.countP StartupEvent.isPaired + before.justPaired.toNat

theorem StartupAccounts.trans {before middle after : StartupState}
    {events more : List StartupEvent}
    (first : StartupAccounts before middle events) (second : StartupAccounts middle after more)
    : StartupAccounts before after (events ++ more) := by
  obtain ⟨hwInfo, paired⟩ := first
  obtain ⟨hwInfoMore, pairedMore⟩ := second
  simp only [StartupAccounts, List.count_append, List.countP_append]
  omega

/-- An operation without such events that leaves the token and the flag alone. -/
theorem StartupAccounts.of_quiet {before s : StartupState}
    (token : s.getHwSem.available = before.getHwSem.available)
    (flag : s.justPaired = before.justPaired)
    : StartupAccounts before s [] := by
  simp [StartupAccounts, token, flag]

namespace StartupState

theorem hasRead_accounts (s : StartupState) : StartupAccounts s s.hasRead [] := by
  unfold hasRead
  split <;> exact .of_quiet rfl rfl

theorem pollEnds_accounts (s : StartupState) : StartupAccounts s s.pollEnds [] := by
  unfold pollEnds
  split <;> exact .of_quiet rfl rfl

theorem turn_accounts (s : StartupState) (err : Int)
    : StartupAccounts s (s.turn err).1 (s.turn err).2 := by
  unfold turn
  split
  · split <;> exact .of_quiet rfl rfl
  · simp [StartupAccounts, StartupEvent.isHwInfo, StartupEvent.isPaired]
  · split
    · exact .of_quiet rfl rfl
    · split
      · exact hasRead_accounts { s with bleReadSem := s.bleReadSem.take.1 }
      · exact .of_quiet rfl rfl
  · simp [StartupAccounts, StartupEvent.isHwInfo, StartupEvent.isPaired]
  · simp [StartupAccounts, StartupEvent.isHwInfo, StartupEvent.isPaired]
  · split
    · exact .of_quiet rfl rfl
    · cases token : s.getHwSem.available with
      | true =>
          simp [StartupAccounts, BinarySemaphore.take_of_available token, token,
            BinarySemaphore.empty, StartupEvent.isHwInfo, StartupEvent.isPaired]
      | false =>
          rw [BinarySemaphore.take_of_unavailable token]
          exact .of_quiet token.symm rfl
  · cases flag : s.justPaired <;>
      simp [StartupAccounts, flag, startupQueryList, StartupEvent.isHwInfo, StartupEvent.isPaired]

theorem step_accounts (s : StartupState) (input : StartupInput)
    : StartupAccounts s (s.step input).1 (s.step input).2 := by
  cases input with
  | submit => exact .of_quiet rfl rfl
  | turn err => exact s.turn_accounts err
  | onRead =>
      simp only [step]
      split
      · split
        · exact hasRead_accounts
            { s with bleReadSem := s.bleReadSem.give.1, reads := s.reads - 1 }
        · exact .of_quiet rfl rfl
      · exact .of_quiet rfl rfl
  | hwInfo =>
      have level := s.getHwSem.level_give
      have wakes := s.getHwSem.give_waiting
      by_cases waits : s.getHwSem.waiting = true
      · have none : s.getHwSem.available = false := by
          by_contra there
          exact absurd waits (by simp [s.getHwSem.apart (by simpa using there)])
        simp [step, waits, StartupAccounts, BinarySemaphore.give_of_waiting waits, none,
          BinarySemaphore.empty, StartupEvent.isPaired]
        rfl
      · simp only [BinarySemaphore.level, wakes, Bool.eq_false_iff.mpr waits] at level
        cases lost : s.getHwSem.give.2 <;>
          simp [step, waits, lost, StartupAccounts, StartupEvent.isHwInfo,
            StartupEvent.isPaired] at level ⊢ <;>
          omega
  | pollTimeout =>
      simp only [step]
      split
      · exact pollEnds_accounts { s with getHwSem := s.getHwSem.expire }
      · exact .of_quiet rfl rfl
  | pairingComplete =>
      cases flag : s.justPaired <;>
        simp [step, StartupAccounts, flag, StartupEvent.isHwInfo, StartupEvent.isPaired]

end StartupState

/-- In every run, each piece of hardware information ends the polling of one session, is lost, or
is there for the next poll of any session; and each pairing is ended by one session, comes
before another one that is not ended yet, or is still to be ended.
-/
theorem startupMachine_accounts (inputs : List StartupInput)
    : let (s, events) := startupMachine.run .boot inputs
      events.count .answered + events.count (.hwInfo true) + s.getHwSem.available.toNat
          = events.countP StartupEvent.isHwInfo
        ∧ events.count .finishPairing + events.count (.paired true) + s.justPaired.toNat
          = events.countP StartupEvent.isPaired := by
  have accounts : StartupAccounts .boot (startupMachine.run .boot inputs).1
      (startupMachine.run .boot inputs).2 :=
    startupMachine.run_history (StartupAccounts .boot)
      (fun s events input before => before.trans (s.step_accounts input))
      (.of_quiet rfl rfl) inputs
  exact accounts

end GoproGateway
