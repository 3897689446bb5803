import Mathlib.Data.List.Basic

/-! A pool that hands out memory from chunks of one size, front to back, and gives all of it
back at once.

Only the newest chunk has room left. What was handed out lies inside the pool's chunks, and no
two pieces share a byte.
-/

/-- A piece of a chunk. -/
structure Extent (ρ : Type*) where
  chunk : ρ
  offset : Nat
  length : Nat
  deriving DecidableEq, Repr

namespace Extent

variable {ρ : Type*}

def stop (extent : Extent ρ) : Nat := extent.offset + extent.length

/-- Two pieces share no byte. -/
def Apart (a b : Extent ρ) : Prop := a.chunk ≠ b.chunk ∨ a.stop ≤ b.offset ∨ b.stop ≤ a.offset

theorem Apart.symm {a b : Extent ρ} (apart : a.Apart b) : b.Apart a := by
  rcases apart with chunks | before | after
  · exact .inl chunks.symm
  · exact .inr (.inr before)
  · exact .inr (.inl after)

end Extent

/-- The chunks in the order of their allocation, and how much of the last one is used. -/
structure ChunkPool (ρ : Type*) where
  chunks : List ρ
  used : Nat
  deriving DecidableEq, Repr

namespace ChunkPool

variable {ρ : Type*}

def empty : ChunkPool ρ := ⟨[], 0⟩

/-- A piece at the front of a new chunk. -/
def grow (pool : ChunkPool ρ) (length : Nat) (chunk : ρ) : ChunkPool ρ × Extent ρ :=
  (⟨pool.chunks ++ [chunk], length⟩, ⟨chunk, 0, length⟩)

/-- A piece of the last chunk, or of a new one when the last has no room for it. `fresh` is
what the heap answers if it is asked for a chunk.
-/
def alloc (capacity : Nat) (pool : ChunkPool ρ) (length : Nat) (fresh : Option ρ)
    : Option (ChunkPool ρ × Extent ρ) :=
  match pool.chunks.getLast? with
  | none => fresh.map (pool.grow length)
  | some last =>
      if capacity < pool.used + length then fresh.map (pool.grow length)
      else some ({ pool with used := pool.used + length }, ⟨last, pool.used, length⟩)

/-- The chunks that `after` has and `before` had not. -/
def acquired (before after : ChunkPool ρ) : List ρ := after.chunks.drop before.chunks.length

/-- An allocation uses the last chunk, or takes a new one. -/
theorem alloc_cases {capacity length : Nat} {pool after : ChunkPool ρ} {fresh : Option ρ}
    {extent : Extent ρ} (allocated : pool.alloc capacity length fresh = some (after, extent))
    : (∃ last, pool.chunks.getLast? = some last ∧ pool.used + length ≤ capacity
        ∧ after = { pool with used := pool.used + length }
        ∧ extent = ⟨last, pool.used, length⟩)
      ∨ ∃ chunk, fresh = some chunk ∧ after = ⟨pool.chunks ++ [chunk], length⟩
        ∧ extent = ⟨chunk, 0, length⟩ := by
  have grows (grown : fresh.map (pool.grow length) = some (after, extent))
      : ∃ chunk, fresh = some chunk ∧ after = ⟨pool.chunks ++ [chunk], length⟩
        ∧ extent = ⟨chunk, 0, length⟩ := by
    obtain ⟨chunk, isFresh, same⟩ := Option.map_eq_some_iff.mp grown
    obtain ⟨rfl, rfl⟩ := Prod.mk.inj same
    exact ⟨chunk, isFresh, rfl, rfl⟩
  rw [alloc] at allocated
  cases newest : pool.chunks.getLast? with
  | none =>
      rw [newest] at allocated
      exact .inr (grows allocated)
  | some last =>
      rw [newest] at allocated
      dsimp only at allocated
      split at allocated
      · exact .inr (grows allocated)
      · next room =>
          obtain ⟨rfl, rfl⟩ := Prod.mk.inj (Option.some.inj allocated)
          exact .inl ⟨last, rfl, Nat.le_of_not_lt room, rfl, rfl⟩

/-- An allocation never fails while the heap answers with a chunk. -/
theorem alloc_some (capacity length : Nat) (pool : ChunkPool ρ) (chunk : ρ)
    : ∃ after extent, pool.alloc capacity length (some chunk) = some (after, extent) := by
  rw [alloc]
  split
  · exact ⟨_, _, rfl⟩
  · split
    · exact ⟨_, _, rfl⟩
    · exact ⟨_, _, rfl⟩

/-- The chunks grow by what was acquired. -/
theorem alloc_chunks {capacity length : Nat} {pool after : ChunkPool ρ} {fresh : Option ρ}
    {extent : Extent ρ} (allocated : pool.alloc capacity length fresh = some (after, extent))
    : after.chunks = pool.chunks ++ pool.acquired after := by
  rcases alloc_cases allocated with ⟨last, -, -, rfl, -⟩ | ⟨chunk, -, rfl, -⟩
  · simp [acquired]
  · simp [acquired]

/-- The pieces in use lie in the pool's chunks and share no byte; the newest chunk has none
behind the used part.
-/
structure Holds (capacity : Nat) (pool : ChunkPool ρ) (extents : List (Extent ρ)) : Prop where
  nodup : pool.chunks.Nodup
  inChunk : ∀ extent ∈ extents, extent.chunk ∈ pool.chunks ∧ extent.stop ≤ capacity
  inUse : ∀ extent ∈ extents, pool.chunks.getLast? = some extent.chunk
    → extent.stop ≤ pool.used
  apart : extents.Pairwise Extent.Apart

theorem holds_empty (capacity : Nat) : (empty : ChunkPool ρ).Holds capacity [] :=
  ⟨List.nodup_nil, by simp, by simp, .nil⟩

/-- Pieces may be forgotten. -/
theorem Holds.sublist {capacity : Nat} {pool : ChunkPool ρ} {extents kept : List (Extent ρ)}
    (holds : pool.Holds capacity extents) (sub : kept.Sublist extents)
    : pool.Holds capacity kept :=
  ⟨holds.nodup, fun extent member => holds.inChunk extent (sub.subset member),
    fun extent member => holds.inUse extent (sub.subset member), holds.apart.sublist sub⟩

theorem Holds.perm {capacity : Nat} {pool : ChunkPool ρ} {extents other : List (Extent ρ)}
    (holds : pool.Holds capacity extents) (perm : extents.Perm other)
    : pool.Holds capacity other :=
  ⟨holds.nodup, fun extent member => holds.inChunk extent (perm.mem_iff.mpr member),
    fun extent member => holds.inUse extent (perm.mem_iff.mpr member),
    (perm.pairwise_iff fun apart => apart.symm).mp holds.apart⟩

/-- What is handed out next shares no byte with what is in use. -/
theorem Holds.alloc {capacity length : Nat} {pool after : ChunkPool ρ} {fresh : Option ρ}
    {extent : Extent ρ} {extents : List (Extent ρ)} (holds : pool.Holds capacity extents)
    (small : length ≤ capacity) (isFresh : ∀ chunk ∈ fresh, chunk ∉ pool.chunks)
    (allocated : pool.alloc capacity length fresh = some (after, extent))
    : after.Holds capacity (extent :: extents) := by
  rcases alloc_cases allocated with ⟨last, newest, room, rfl, rfl⟩ | ⟨chunk, answer, rfl, rfl⟩
  · have member : last ∈ pool.chunks := List.mem_of_getLast? newest
    refine ⟨holds.nodup, ?_, ?_, ?_⟩
    · rw [List.forall_mem_cons]
      exact ⟨⟨member, room⟩, holds.inChunk⟩
    · rw [List.forall_mem_cons]
      exact ⟨fun _ => Nat.le_refl _, fun other inUse isLast =>
        Nat.le_trans (holds.inUse other inUse isLast) (Nat.le_add_right _ _)⟩
    · refine List.pairwise_cons.mpr ⟨fun other inUse => ?_, holds.apart⟩
      by_cases same : last = other.chunk
      · exact .inr (.inr (holds.inUse other inUse (same ▸ newest)))
      · exact .inl same
  · have absent : chunk ∉ pool.chunks := isFresh chunk answer
    have once : (pool.chunks ++ [chunk]).Nodup :=
      List.nodup_append.mpr ⟨holds.nodup, by simp, by
        rintro a member b isChunk rfl
        exact absent (List.mem_singleton.mp isChunk ▸ member)⟩
    have elsewhere (other : Extent ρ) (inUse : other ∈ extents) : chunk ≠ other.chunk := by
      rintro rfl
      exact absent (holds.inChunk other inUse).1
    refine ⟨once, ?_, ?_, ?_⟩
    · rw [List.forall_mem_cons]
      refine ⟨⟨by simp, by simpa [Extent.stop] using small⟩, fun other inUse => ?_⟩
      obtain ⟨member, within⟩ := holds.inChunk other inUse
      exact ⟨List.mem_append_left _ member, within⟩
    · rw [List.forall_mem_cons]
      refine ⟨by simp [Extent.stop], fun other inUse isLast => ?_⟩
      rw [List.getLast?_concat] at isLast
      exact absurd (Option.some.inj isLast) (elsewhere other inUse)
    · exact List.pairwise_cons.mpr
        ⟨fun other inUse => .inl (elsewhere other inUse), holds.apart⟩

end ChunkPool
