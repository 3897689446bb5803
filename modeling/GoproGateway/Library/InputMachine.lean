import Mathlib.Data.List.Basic

/-! Deterministic machines that consume one input at a time and emit events.

The environment's choices are part of the input, so a run is a function of its input list.
The rules package the inductions: step conditions that agree, or imply one another, under
an invariant do so along every run.
-/

/-- A machine turns a state and an input into the next state and the events it emits. -/
structure InputMachine (σ ι ε : Type*) where
  step : σ → ι → σ × List ε

namespace InputMachine

variable {σ ι ε : Type*} (M : InputMachine σ ι ε)

/-- The final state of a run and everything emitted on the way, in order. -/
def run : σ → List ι → σ × List ε
  | state, [] => (state, [])
  | state, input :: rest =>
      let head := M.step state input
      let tail := run head.1 rest
      (tail.1, head.2 ++ tail.2)

@[simp] theorem run_nil (state : σ) : M.run state [] = (state, []) := rfl

@[simp] theorem run_cons (state : σ) (input : ι) (rest : List ι)
    : M.run state (input :: rest)
      = ((M.run (M.step state input).1 rest).1,
          (M.step state input).2 ++ (M.run (M.step state input).1 rest).2) := rfl

/-- A run over a concatenation is the second run from where the first one stopped. -/
theorem run_append (state : σ) (before after : List ι)
    : M.run state (before ++ after)
      = ((M.run (M.run state before).1 after).1,
          (M.run state before).2 ++ (M.run (M.run state before).1 after).2) := by
  induction before generalizing state with
  | nil => simp
  | cons input rest ih => simp [ih, List.append_assoc]

/-- `Along P state inputs`: every step of the run meets `P`, which sees the state before
the step and the input of the step.
-/
def Along (P : σ → ι → Prop) : σ → List ι → Prop
  | _, [] => True
  | state, input :: rest => P state input ∧ Along P (M.step state input).1 rest

@[simp] theorem along_nil (P : σ → ι → Prop) (state : σ) : M.Along P state [] := trivial

@[simp] theorem along_cons (P : σ → ι → Prop) (state : σ) (input : ι) (rest : List ι)
    : M.Along P state (input :: rest)
      ↔ P state input ∧ M.Along P (M.step state input).1 rest := Iff.rfl

/-- A condition holds along a run iff it holds at every way to split the run at a step. -/
theorem along_iff_splits (P : σ → ι → Prop) (state : σ) (inputs : List ι)
    : M.Along P state inputs
      ↔ ∀ before input after, inputs = before ++ input :: after
          → P (M.run state before).1 input := by
  induction inputs generalizing state with
  | nil => simp
  | cons head rest ih =>
      rw [along_cons, ih]
      constructor
      · rintro ⟨first, later⟩ before input after split
        cases before with
        | nil =>
            obtain ⟨rfl, rfl⟩ := List.cons.inj split
            exact first
        | cons skipped before =>
            obtain ⟨rfl, rfl⟩ := List.cons.inj split
            exact later before input after rfl
      · intro every
        refine ⟨every [] head rest rfl, ?_⟩
        intro before input after split
        exact every (head :: before) input after (by rw [split, List.cons_append])

theorem along_and (P Q : σ → ι → Prop) (state : σ) (inputs : List ι)
    : M.Along (fun state input => P state input ∧ Q state input) state inputs
      ↔ M.Along P state inputs ∧ M.Along Q state inputs := by
  induction inputs generalizing state with
  | nil => simp
  | cons head rest ih =>
      simp only [along_cons, ih]
      exact and_and_and_comm

/-- A condition on inputs alone holds along a run iff it holds of every input. -/
theorem along_input_iff (P : ι → Prop) (state : σ) (inputs : List ι)
    : M.Along (fun _ input => P input) state inputs ↔ ∀ input ∈ inputs, P input := by
  induction inputs generalizing state with
  | nil => simp
  | cons head rest ih => simp [ih]

/-- Events of a run are events of its steps. -/
theorem forall_events_iff (E : ε → Prop) (state : σ) (inputs : List ι)
    : (∀ event ∈ (M.run state inputs).2, E event)
      ↔ M.Along (fun state input => ∀ event ∈ (M.step state input).2, E event)
          state inputs := by
  induction inputs generalizing state with
  | nil => simp
  | cons head rest ih =>
      simp only [run_cons, List.mem_append, or_imp, forall_and, along_cons, ih]

/-- What every step preserves of the state and everything emitted so far, a run preserves. -/
theorem run_history (History : σ → List ε → Prop)
    (preserved : ∀ state events input, History state events
      → History (M.step state input).1 (events ++ (M.step state input).2))
    {state : σ} {events : List ε} (initial : History state events) (inputs : List ι)
    : History (M.run state inputs).1 (events ++ (M.run state inputs).2) := by
  induction inputs generalizing state events with
  | nil => simpa using initial
  | cons input rest ih =>
      rw [run_cons, ← List.append_assoc]
      exact ih (preserved state events input initial)

/-- Every state a run passes through, the first one included, satisfies `P`. -/
def Always (P : σ → Prop) (state : σ) (inputs : List ι) : Prop :=
  ∀ before after, inputs = before ++ after → P (M.run state before).1

/-- Reached states are the first state and the states after the steps. -/
theorem always_iff (P : σ → Prop) (state : σ) (inputs : List ι)
    : M.Always P state inputs
      ↔ P state ∧ M.Along (fun state input => P (M.step state input).1) state inputs := by
  rw [along_iff_splits]
  constructor
  · intro every
    refine ⟨every [] inputs rfl, ?_⟩
    intro before input after split
    have reached := every (before ++ [input]) after (by simpa using split)
    simpa [run_append] using reached
  · rintro ⟨first, later⟩ before after split
    rcases List.eq_nil_or_concat before with rfl | ⟨init, input, rfl⟩
    · exact first
    · rw [List.concat_eq_append] at split ⊢
      have reached := later init input after (by simpa using split)
      simpa [run_append] using reached

-----------------------------------------------------------------------------------------
-- Induction rules
-----------------------------------------------------------------------------------------

variable {M}

/-- A step condition that keeps an invariant brings every condition that it implies under
the invariant along the run.
-/
theorem Along.imp {P Q : σ → ι → Prop} {Inv : σ → Prop} {state : σ} {inputs : List ι}
    (steps : M.Along P state inputs)
    (preserved : ∀ state input, Inv state → P state input → Inv (M.step state input).1)
    (implied : ∀ state input, Inv state → P state input → Q state input)
    (initial : Inv state)
    : M.Along Q state inputs := by
  induction inputs generalizing state with
  | nil => trivial
  | cons head rest ih =>
      obtain ⟨step, later⟩ := steps
      exact ⟨implied state head initial step, ih later (preserved state head initial step)⟩

/-- What every step preserves holds in every state of a run. -/
theorem Always.of_preserved {Inv : σ → Prop} {state : σ}
    (preserved : ∀ state input, Inv state → Inv (M.step state input).1)
    (initial : Inv state) (inputs : List ι)
    : M.Always Inv state inputs := by
  rintro before after -
  induction before generalizing state with
  | nil => exact initial
  | cons head rest ih => exact ih (preserved state head initial)

theorem Always.imp {P Q : σ → Prop} {state : σ} {inputs : List ι}
    (reached : M.Always P state inputs) (implied : ∀ state, P state → Q state)
    : M.Always Q state inputs :=
  fun before after split => implied _ (reached before after split)

/-- What holds wherever an invariant does holds of every step of a run. -/
theorem Along.of_invariant {Q : σ → ι → Prop} (Inv : σ → Prop) {state : σ}
    (preserved : ∀ state input, Inv state → Inv (M.step state input).1)
    (implied : ∀ state input, Inv state → Q state input)
    (initial : Inv state) (inputs : List ι)
    : M.Along Q state inputs := by
  induction inputs generalizing state with
  | nil => trivial
  | cons head rest ih => exact ⟨implied state head initial, ih (preserved state head initial)⟩

/-- Conservation: where steps keep, in order, what is held and let in, so does a run of them.
`entered` and `left` are what events show of it.
-/
theorem Along.conserves {α : Type*} {P : σ → ι → Prop} {Inv : σ → Prop} (held : σ → List α)
    {entered left : ε → Option α} {state : σ} {inputs : List ι}
    (steps : M.Along P state inputs)
    (preserved : ∀ state input, Inv state → P state input → Inv (M.step state input).1)
    (conserves : ∀ state input, Inv state → P state input
      → held state ++ (M.step state input).2.filterMap entered
        = (M.step state input).2.filterMap left ++ held (M.step state input).1)
    (initial : Inv state)
    : held state ++ (M.run state inputs).2.filterMap entered
      = (M.run state inputs).2.filterMap left ++ held (M.run state inputs).1 := by
  induction inputs generalizing state with
  | nil => simp
  | cons input rest ih =>
      obtain ⟨step, later⟩ := steps
      rw [run_cons, List.filterMap_append, List.filterMap_append, ← List.append_assoc,
        conserves state input initial step, List.append_assoc,
        ih later (preserved state input initial step), List.append_assoc]

/-- Conservation where every step keeps what is held. -/
theorem run_conserves {α : Type*} {Inv : σ → Prop} (held : σ → List α)
    {entered left : ε → Option α}
    (preserved : ∀ state input, Inv state → Inv (M.step state input).1)
    (conserves : ∀ state input, Inv state
      → held state ++ (M.step state input).2.filterMap entered
        = (M.step state input).2.filterMap left ++ held (M.step state input).1)
    {state : σ} (initial : Inv state) (inputs : List ι)
    : held state ++ (M.run state inputs).2.filterMap entered
      = (M.run state inputs).2.filterMap left ++ held (M.run state inputs).1 :=
  have every : M.Along (fun _ _ => True) state inputs :=
    (along_input_iff M (fun _ => True) state inputs).mpr fun _ _ => trivial
  every.conserves held (fun state input inv _ => preserved state input inv)
    (fun state input inv _ => conserves state input inv) initial

/-- Step conditions that agree on admitted inputs wherever an invariant holds agree along
whole runs, when either of them preserves the invariant.
-/
theorem along_congr {P Q : σ → ι → Prop} (Inv : σ → Prop) {admitted : ι → Prop} {state : σ}
    {inputs : List ι}
    (preserved : ∀ state input, Inv state → admitted input → Q state input
      → Inv (M.step state input).1)
    (agree : ∀ state input, Inv state → admitted input → (P state input ↔ Q state input))
    (initial : Inv state) (every : ∀ input ∈ inputs, admitted input)
    : M.Along P state inputs ↔ M.Along Q state inputs := by
  induction inputs generalizing state with
  | nil => simp
  | cons head rest ih =>
      have first := every head (by simp)
      rw [along_cons, along_cons, agree state head initial first]
      refine and_congr_right fun step => ?_
      exact ih (preserved state head initial first step)
        (fun input member => every input (by simp [member]))

/-- A machine whose steps simulate those of another one, where they meet a condition, does so
along a run that meets it.
-/
theorem Along.simulates {τ κ δ : Type*} {N : InputMachine τ κ δ} {P : σ → ι → Prop}
    {related : σ → τ → Prop} {encode : ι → κ} {view : ε → Option δ} {state : σ} {abstract : τ}
    {inputs : List ι} (steps : M.Along P state inputs)
    (simulates : ∀ state abstract input, related state abstract → P state input
      → related (M.step state input).1 (N.step abstract (encode input)).1
        ∧ (M.step state input).2.filterMap view = (N.step abstract (encode input)).2)
    (initial : related state abstract)
    : related (M.run state inputs).1 (N.run abstract (inputs.map encode)).1
      ∧ (M.run state inputs).2.filterMap view = (N.run abstract (inputs.map encode)).2 := by
  induction inputs generalizing state abstract with
  | nil => exact ⟨initial, rfl⟩
  | cons head rest ih =>
      obtain ⟨first, later⟩ := steps
      obtain ⟨step, shown⟩ := simulates state abstract head initial first
      obtain ⟨final, shownLater⟩ := ih later step
      refine ⟨final, ?_⟩
      rw [List.map_cons, run_cons, run_cons, List.filterMap_append, shown, shownLater]

/-- A machine that simulates another one step by step does so along runs; `view` is what
the simulated machine shows of an event.
-/
theorem run_simulates {τ κ δ : Type*} {N : InputMachine τ κ δ} {related : σ → τ → Prop}
    {encode : ι → κ} {view : ε → Option δ} {admitted : ι → Prop}
    (simulates : ∀ state abstract input, related state abstract → admitted input
      → related (M.step state input).1 (N.step abstract (encode input)).1
        ∧ (M.step state input).2.filterMap view = (N.step abstract (encode input)).2)
    {state : σ} {abstract : τ} {inputs : List ι} (initial : related state abstract)
    (every : ∀ input ∈ inputs, admitted input)
    : related (M.run state inputs).1 (N.run abstract (inputs.map encode)).1
      ∧ (M.run state inputs).2.filterMap view = (N.run abstract (inputs.map encode)).2 :=
  ((along_input_iff M admitted state inputs).mpr every).simulates simulates initial

end InputMachine
