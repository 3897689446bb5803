import Mathlib.Data.List.Perm.Basic

/-! Heap ledgers: which blocks are live while a program allocates, uses and frees.

A use or a release of what is not live has no outcome, so a run that has one uses no dangling
pointer and frees nothing twice. How many blocks were live at once is read off the run's
prefixes.
-/

namespace Ledger

variable {ρ : Type*}

inductive Action (ρ : Type*) where
  | acquire (block : ρ)
  /-- Access through a pointer, which may be null. -/
  | use (pointer : Option ρ)
  | release (block : ρ)
  deriving DecidableEq, Repr

def Action.released : Action ρ → Option ρ
  | .release block => some block
  | _ => none

variable [DecidableEq ρ]

/-- The live blocks after an action, if it may be done. -/
def step (live : List ρ) : Action ρ → Option (List ρ)
  | .acquire block => some (block :: live)
  | .use pointer => if ∃ block ∈ live, pointer = some block then some live else none
  | .release block => if block ∈ live then some (live.erase block) else none

def run (live : List ρ) (actions : List (Action ρ)) : Option (List ρ) :=
  actions.foldlM step live

@[simp] theorem run_nil (live : List ρ) : run live [] = some live := rfl

@[simp] theorem run_cons (live : List ρ) (action : Action ρ) (rest : List (Action ρ))
    : run live (action :: rest) = (step live action).bind (run · rest) := rfl

@[simp] theorem run_append (live : List ρ) (before after : List (Action ρ))
    : run live (before ++ after) = (run live before).bind (run · after) :=
  List.foldlM_append

/-- A run reaches `final`, and at every point of it at most `limit` blocks are live. -/
structure Goes (limit : Nat) (live : List ρ) (actions : List (Action ρ)) (final : List ρ)
    : Prop where
  reaches : run live actions = some final
  within : ∀ before after, actions = before ++ after
    → ∀ reached, run live before = some reached → reached.length ≤ limit

theorem Goes.refl {limit : Nat} {live : List ρ} (within : live.length ≤ limit)
    : Goes limit live [] live := by
  refine ⟨rfl, fun before after split reached isReached => ?_⟩
  obtain ⟨rfl, rfl⟩ := List.append_eq_nil_iff.mp split.symm
  obtain rfl := Option.some.inj isReached
  exact within

theorem Goes.cons {limit : Nat} {live next final : List ρ} {action : Action ρ}
    {rest : List (Action ρ)} (within : live.length ≤ limit)
    (does : step live action = some next) (later : Goes limit next rest final)
    : Goes limit live (action :: rest) final := by
  refine ⟨by simp [does, later.reaches], fun before after split reached isReached => ?_⟩
  cases before with
  | nil =>
      obtain rfl := Option.some.inj isReached
      exact within
  | cons head before =>
      obtain ⟨rfl, rfl⟩ := List.cons.inj split
      rw [run_cons, does, Option.bind_some] at isReached
      exact later.within before after rfl reached isReached

/-- Runs compose. -/
theorem Goes.append {limit : Nat} {live middle final : List ρ} {before after : List (Action ρ)}
    (first : Goes limit live before middle) (second : Goes limit middle after final)
    : Goes limit live (before ++ after) final := by
  refine ⟨by simp [first.reaches, second.reaches], fun head tail split reached isReached => ?_⟩
  rcases List.append_eq_append_iff.mp split with ⟨more, rfl, rfl⟩ | ⟨more, rfl, rfl⟩
  · rw [run_append, first.reaches, Option.bind_some] at isReached
    exact second.within more tail rfl reached isReached
  · exact first.within head more rfl reached isReached

/-- Every point of a run is reached. -/
theorem Goes.splits {limit : Nat} {live final : List ρ} {actions : List (Action ρ)}
    (goes : Goes limit live actions final) {before after : List (Action ρ)}
    (split : actions = before ++ after)
    : ∃ reached, run live before = some reached ∧ reached.length ≤ limit
      ∧ run reached after = some final := by
  have whole := goes.reaches
  rw [split, run_append] at whole
  obtain ⟨reached, isReached, later⟩ := Option.bind_eq_some_iff.mp whole
  exact ⟨reached, isReached, goes.within before after split reached isReached, later⟩

/-- Without acquisitions, what was live was released or still is. -/
theorem perm_released {live final : List ρ} {actions : List (Action ρ)}
    (reaches : run live actions = some final)
    (acquiresNothing : ∀ block, .acquire block ∉ actions)
    : live.Perm (actions.filterMap Action.released ++ final) := by
  induction actions generalizing live with
  | nil =>
      obtain rfl := Option.some.inj reaches
      exact .refl _
  | cons action rest ih =>
      have later : ∀ block, .acquire block ∉ rest := fun block member =>
        acquiresNothing block (List.mem_cons_of_mem _ member)
      obtain ⟨next, does, reaches⟩ := Option.bind_eq_some_iff.mp reaches
      cases action with
      | acquire block => exact absurd List.mem_cons_self (acquiresNothing block)
      | use pointer =>
          obtain ⟨_, rfl⟩ : _ ∧ live = next := by simpa [step] using does
          exact ih reaches later
      | release block =>
          obtain ⟨member, rfl⟩ : block ∈ live ∧ live.erase block = next := by
            simpa [step] using does
          exact (List.perm_cons_erase member).trans ((ih reaches later).cons block)

/-- Where one block is live at most, what is acquired is released once, and nothing else is,
before the next acquisition.
-/
theorem Goes.released_once {live final : List ρ} {before middle after : List (Action ρ)}
    {block next : ρ}
    (goes : Goes 1 live (before ++ .acquire block :: (middle ++ .acquire next :: after)) final)
    (acquiresNothing : ∀ other, .acquire other ∉ middle)
    : middle.filterMap Action.released = [block] := by
  obtain ⟨held, reached, _, later⟩ := goes.splits rfl
  have alone := goes.within (before ++ [.acquire block]) (middle ++ .acquire next :: after)
    (by simp) (block :: held) (by simp [reached, step])
  obtain rfl := List.length_eq_zero_iff.mp (Nat.le_zero.mp (Nat.le_of_succ_le_succ alone))
  simp only [run_cons, step, Option.bind_some, run_append] at later
  obtain ⟨kept, released, _⟩ := Option.bind_eq_some_iff.mp later
  have room := goes.within (before ++ .acquire block :: (middle ++ [.acquire next])) after
    (by simp) (next :: kept) (by simp [reached, step, released])
  obtain rfl := List.length_eq_zero_iff.mp (Nat.le_zero.mp (Nat.le_of_succ_le_succ room))
  have perm := perm_released released acquiresNothing
  rw [List.append_nil] at perm
  exact List.perm_singleton.mp perm.symm

end Ledger
