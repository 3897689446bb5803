import Mathlib.Data.Bool.Basic

/-! A semaphore with a limit of one, which a single thread takes.

A token that comes while another one is there is lost, and one that comes while the thread waits
wakes it. The level counts a token as 1 and the waiting thread as -1, so every operation moves it
by one.
-/

/-- Whether a token is there, and whether the thread waits for one. -/
structure BinarySemaphore where
  available : Bool
  waiting : Bool
  /-- The thread does not wait next to a token. -/
  apart : available = true → waiting = false
  deriving DecidableEq, Repr

namespace BinarySemaphore

def empty : BinarySemaphore := ⟨false, false, fun _ => rfl⟩

/-- A token comes: the semaphore after it, and whether the token is lost. -/
def give (sem : BinarySemaphore) : BinarySemaphore × Bool :=
  if sem.waiting then (empty, false)
  else if sem.available then (sem, true)
  else (⟨true, false, fun _ => rfl⟩, false)

/-- The thread takes a token, or waits for one. The result tells whether it has one. -/
def take (sem : BinarySemaphore) : BinarySemaphore × Bool :=
  if sem.available then (empty, true) else (⟨false, true, fun there => there.symm⟩, false)

/-- The thread gives up waiting. -/
def expire (sem : BinarySemaphore) : BinarySemaphore := ⟨sem.available, false, fun _ => rfl⟩

def level (sem : BinarySemaphore) : Int := sem.available.toNat - sem.waiting.toNat

@[simp] theorem level_empty : empty.level = 0 := rfl

theorem give_of_waiting {sem : BinarySemaphore} (waits : sem.waiting = true)
    : sem.give = (empty, false) :=
  if_pos waits

theorem take_of_available {sem : BinarySemaphore} (there : sem.available = true)
    : sem.take = (empty, true) :=
  if_pos there

theorem take_of_unavailable {sem : BinarySemaphore} (missing : sem.available = false)
    : sem.take = (⟨false, true, fun there => there.symm⟩, false) :=
  if_neg (by simp [missing])

/-- Without the thread waiting, a token is there afterwards. -/
theorem give_available {sem : BinarySemaphore} (runs : sem.waiting = false)
    : sem.give.1.available = true := by
  unfold give
  rw [if_neg (by simp [runs])]
  split
  case isTrue there => exact there
  case isFalse => rfl

/-- A token leaves nobody waiting. -/
theorem give_waiting (sem : BinarySemaphore) : sem.give.1.waiting = false := by
  unfold give
  split
  · rfl
  · split
    case isTrue there => exact sem.apart there
    case isFalse => rfl

/-- A token raises the level, unless it is lost. -/
theorem level_give (sem : BinarySemaphore)
    : sem.give.1.level + sem.give.2.toNat = sem.level + 1 := by
  obtain ⟨available, waiting, apart⟩ := sem
  cases waiting
  case true =>
    cases available
    case true => exact absurd (apart rfl) (by simp)
    case false => rfl
  case false => cases available <;> rfl

/-- Taking lowers the level, whether the token is there or is yet to come. -/
theorem level_take {sem : BinarySemaphore} (runs : sem.waiting = false)
    : sem.take.1.level = sem.level - 1 := by
  obtain ⟨available, waiting, apart⟩ := sem
  obtain rfl : waiting = false := runs
  cases available <;> rfl

/-- Giving up raises the level as a token would. -/
theorem level_expire {sem : BinarySemaphore} (waits : sem.waiting = true)
    : sem.expire.level = sem.level + 1 := by
  obtain ⟨available, waiting, apart⟩ := sem
  obtain rfl : waiting = true := waits
  cases available
  case true => exact absurd (apart rfl) (by simp)
  case false => rfl

end BinarySemaphore
