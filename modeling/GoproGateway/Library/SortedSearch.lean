import Mathlib.Data.List.Basic
import Mathlib.Order.Lattice

/-! Binary search between two inclusive bounds, the upper of which may fall below zero.

A probe compares an entry with what is sought. Where no entry above a larger one is smaller,
the search finds an equal entry if there is one between the bounds.
-/

namespace SortedSearch

variable {probe : Nat → Ordering}

/-- The search; `fuel` bounds the number of entries that are looked at. -/
def search (probe : Nat → Ordering) : Nat → Int → Int → Option Nat
  | 0, _, _ => none
  | fuel + 1, lower, upper =>
      if lower ≤ upper then
        let middle := (lower + upper) / 2
        match probe middle.toNat with
        | .lt => search probe fuel (middle + 1) upper
        | .gt => search probe fuel lower (middle - 1)
        | .eq => some middle.toNat
      else none

/-- Entries below a smaller one are smaller, and entries above a larger one are larger. -/
structure Sorted (probe : Nat → Ordering) (count : Nat) : Prop where
  below : ∀ i j, i ≤ j → j < count → probe j = .lt → probe i = .lt
  above : ∀ i j, i ≤ j → j < count → probe i = .gt → probe j = .gt

/-- A found entry is an equal one, whatever the order. -/
theorem search_sound {fuel : Nat} {lower upper : Int} {i : Nat}
    (found : search probe fuel lower upper = some i) : probe i = .eq := by
  induction fuel generalizing lower upper with
  | zero => cases found
  | succ fuel ih =>
      simp only [search] at found
      split at found
      · split at found
        · exact ih found
        · exact ih found
        · next same =>
            cases found
            exact same
      · cases found

/-- A search with as much fuel as there are entries between the bounds finds one of the equal
entries among them.
-/
theorem search_finds {count fuel : Nat} {lower upper : Int} {i : Nat}
    (sorted : Sorted probe count) (start : 0 ≤ lower) (within : upper < count)
    (fueled : upper + 1 - lower ≤ fuel) (atLeast : lower ≤ i) (atMost : i ≤ upper)
    (same : probe i = .eq)
    : ∃ found, search probe fuel lower upper = some found := by
  induction fuel generalizing lower upper with
  | zero => omega
  | succ fuel ih =>
      obtain ⟨middle, isMiddle⟩ : ∃ middle : Nat, (lower + upper) / 2 = middle :=
        ⟨((lower + upper) / 2).toNat, by omega⟩
      have nonempty : lower ≤ upper := Int.le_trans atLeast atMost
      have inside : middle < count := by omega
      simp only [search, if_pos nonempty, isMiddle, Int.toNat_natCast]
      rcases compared : probe middle with _ | _ | _
      · have right : middle < i := by
          by_contra notRight
          have smaller := sorted.below i middle (Nat.le_of_not_lt notRight) inside compared
          rw [same] at smaller
          cases smaller
        exact ih (by omega) within (by omega) (by omega) atMost
      · exact ⟨middle, rfl⟩
      · have left : i < middle := by
          by_contra notLeft
          have larger := sorted.above middle i (Nat.le_of_not_lt notLeft) (by omega) compared
          rw [same] at larger
          cases larger
        exact ih start (by omega) (by omega) atLeast (by omega)

section Entries

variable {α κ : Type*} [LinearOrder κ]

/-- How the entry at an index compares with the sought key. -/
def probeKey (key : α → κ) (entries : List α) (target : κ) (i : Nat) : Ordering :=
  (entries[i]?.map fun entry =>
    if key entry < target then .lt else if target < key entry then .gt else .eq).getD .gt

variable {key : α → κ} {entries : List α} {target : κ}

theorem probeKey_lt_iff {i : Nat} (within : i < entries.length)
    : probeKey key entries target i = .lt ↔ key entries[i] < target := by
  rw [probeKey, List.getElem?_eq_getElem within, Option.map_some, Option.getD_some]
  split_ifs with smaller larger
  · simp [smaller]
  · simp [smaller]
  · simp [smaller]

theorem probeKey_gt_iff {i : Nat} (within : i < entries.length)
    : probeKey key entries target i = .gt ↔ target < key entries[i] := by
  rw [probeKey, List.getElem?_eq_getElem within, Option.map_some, Option.getD_some]
  split_ifs with smaller larger
  · simp [smaller.le]
  · simp [larger]
  · simp [larger]

theorem probeKey_eq_iff {i : Nat}
    : probeKey key entries target i = .eq
      ↔ ∃ entry, entries[i]? = some entry ∧ key entry = target := by
  rw [probeKey]
  cases read : entries[i]? with
  | none => simp
  | some entry =>
      rw [Option.map_some, Option.getD_some]
      constructor
      · intro compared
        split_ifs at compared with smaller larger
        exact ⟨entry, rfl, le_antisymm (not_lt.mp larger) (not_lt.mp smaller)⟩
      · rintro ⟨same, isSame, rfl⟩
        obtain rfl := Option.some.inj isSame
        simp

/-- Entries with ascending keys are sorted for every key. -/
theorem probeKey_sorted (ascending : entries.Pairwise fun a b => key a < key b)
    : Sorted (probeKey key entries target) entries.length := by
  have ordered {i j : Nat} (le : i ≤ j) (before : i < entries.length)
      (within : j < entries.length) : key entries[i] ≤ key entries[j] := by
    rcases Nat.lt_or_eq_of_le le with lt | rfl
    · exact (List.pairwise_iff_getElem.mp ascending i j before within lt).le
    · exact le_rfl
  constructor
  · intro i j le within smaller
    have before := Nat.lt_of_le_of_lt le within
    apply (probeKey_lt_iff before).mpr
    exact lt_of_le_of_lt (ordered le before within) ((probeKey_lt_iff within).mp smaller)
  · intro i j le within larger
    have before := Nat.lt_of_le_of_lt le within
    apply (probeKey_gt_iff within).mpr
    exact lt_of_lt_of_le ((probeKey_gt_iff before).mp larger) (ordered le before within)

/-- Among ascending keys, the search over all entries is the first entry with the key. -/
theorem search_probeKey (ascending : entries.Pairwise fun a b => key a < key b) (target : κ)
    : (search (probeKey key entries target) entries.length 0 (entries.length - 1)).bind
        (entries[·]?)
      = entries.find? (key · = target) := by
  cases isFirst : entries.find? (key · = target) with
  | none =>
      cases isFound : search (probeKey key entries target) entries.length 0
        (entries.length - 1) with
      | none => rfl
      | some i =>
          obtain ⟨entry, read, same⟩ := probeKey_eq_iff.mp (search_sound isFound)
          have absent := List.find?_eq_none.mp isFirst entry (List.mem_of_getElem? read)
          simp [same] at absent
  | some entry =>
      have same : key entry = target := by simpa using List.find?_some isFirst
      obtain ⟨i, within, isEntry⟩ := List.getElem_of_mem (List.mem_of_find?_eq_some isFirst)
      have compared : probeKey key entries target i = .eq :=
        probeKey_eq_iff.mpr ⟨entry, by rw [List.getElem?_eq_getElem within, isEntry], same⟩
      have fueled : ((entries.length : Int) - 1) + 1 - 0 ≤ entries.length := by omega
      have atMost : (i : Int) ≤ entries.length - 1 := by omega
      obtain ⟨found, isFound⟩ := search_finds (probeKey_sorted ascending) (Int.le_refl 0)
        (by omega) fueled (by omega) atMost compared
      obtain ⟨other, read, isTarget⟩ := probeKey_eq_iff.mp (search_sound isFound)
      rw [isFound, Option.bind_some, read]
      -- no two of the ascending keys are the same
      obtain ⟨inEntries, isOther⟩ := List.getElem?_eq_some_iff.mp read
      by_contra different
      rcases Nat.lt_trichotomy found i with before | rfl | after
      · have less := List.pairwise_iff_getElem.mp ascending found i inEntries within before
        rw [isOther, isEntry, isTarget, same] at less
        exact lt_irrefl _ less
      · exact different (by rw [← isOther, ← isEntry])
      · have less := List.pairwise_iff_getElem.mp ascending i found within inEntries after
        rw [isOther, isEntry, isTarget, same] at less
        exact lt_irrefl _ less

end Entries

end SortedSearch
