/-! Computations that return a value and log what they did on the way. -/

/-- A value with the events of its computation, in order. -/
@[ext] structure Traced (ε α : Type) where
  value : α
  events : List ε

namespace Traced

variable {ε α β : Type}

/-- A computation that does nothing else than log one event. -/
def log (event : ε) : Traced ε Unit := ⟨(), [event]⟩

instance : Monad (Traced ε) where
  pure value := ⟨value, []⟩
  bind first next := ⟨(next first.value).value, first.events ++ (next first.value).events⟩

@[simp] theorem pure_value (value : α) : (pure value : Traced ε α).value = value := rfl

@[simp] theorem pure_events (value : α) : (pure value : Traced ε α).events = [] := rfl

@[simp] theorem bind_value (first : Traced ε α) (next : α → Traced ε β)
    : (first >>= next).value = (next first.value).value := rfl

@[simp] theorem bind_events (first : Traced ε α) (next : α → Traced ε β)
    : (first >>= next).events = first.events ++ (next first.value).events := rfl

@[simp] theorem log_value (event : ε) : (log event).value = () := rfl

@[simp] theorem log_events (event : ε) : (log event).events = [event] := rfl

/-- Calls in a row may be grouped in any way: the values pass on, and the events are appended.
-/
theorem bind_assoc {γ : Type} (first : Traced ε α) (next : α → Traced ε β)
    (last : β → Traced ε γ)
    : first >>= next >>= last = first >>= fun value => next value >>= last := by
  ext1
  · rfl
  · simp only [bind_events, bind_value, List.append_assoc]

/-- What holds of every event of a sequence holds of the events of both parts. -/
theorem forall_events_bind {P : ε → Prop} {first : Traced ε α} {next : α → Traced ε β}
    : (∀ event ∈ (first >>= next).events, P event)
      ↔ (∀ event ∈ first.events, P event) ∧ ∀ event ∈ (next first.value).events, P event := by
  rw [bind_events, List.forall_mem_append]

-----------------------------------------------------------------------------------------
-- Rules for events and results together
-----------------------------------------------------------------------------------------

/-- Every event of a computation satisfies `E`, and its result satisfies `post`. -/
structure Ensures (E : ε → Prop) (post : α → Prop) (traced : Traced ε α) : Prop where
  events : ∀ event ∈ traced.events, E event
  value : post traced.value

variable {E : ε → Prop}

/-- A value without effects keeps any property of events. -/
theorem Ensures.pure {post : α → Prop} {value : α} (holds : post value)
    : Ensures E post (Pure.pure value) :=
  ⟨by simp, holds⟩

/-- One event has what every event of it is to have. -/
theorem Ensures.log {event : ε} (holds : E event) : Ensures E (fun _ => True) (log event) :=
  ⟨by simpa using holds, trivial⟩

/-- What the first part ensures is what the second part may assume. -/
theorem Ensures.bind {first : Traced ε α} {next : α → Traced ε β} {mid : α → Prop}
    {post : β → Prop} (before : Ensures E mid first)
    (after : ∀ value, mid value → Ensures E post (next value))
    : Ensures E post (first >>= next) :=
  have later := after first.value before.value
  ⟨forall_events_bind.mpr ⟨before.events, later.events⟩, later.value⟩

/-- What is only repackaged ensures the same. -/
theorem ensures_bind_pure_iff {first : Traced ε α} {f : α → β} {post : β → Prop}
    : Ensures E post (first >>= fun value => Pure.pure (f value))
      ↔ Ensures E (fun value => post (f value)) first := by
  constructor
  · intro ensures
    exact ⟨(forall_events_bind.mp ensures.events).1, ensures.value⟩
  · intro ensures
    exact ensures.bind fun _ holds => .pure holds

end Traced
