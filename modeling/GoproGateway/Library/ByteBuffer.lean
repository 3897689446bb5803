import Mathlib.Data.List.Basic

/-! Fixed-size buffers as lists: block reads, block writes, and the written prefix.

A write keeps the size of its destination. What would land past the end is dropped here;
whether a program may reach that case is stated about its accesses, not about the result.
-/

namespace ByteBuffer

variable {α : Type*}

/-- The `count` cells of `source` from `start` on. -/
def read (source : List α) (start count : Nat) : List α :=
  (source.drop start).take count

/-- Copies `block` over the cells of `target` from `offset` on. -/
def write (target : List α) (offset : Nat) (block : List α) : List α :=
  (target.take offset ++ block ++ target.drop (offset + block.length)).take target.length

@[simp] theorem write_length (target : List α) (offset : Nat) (block : List α)
    : (write target offset block).length = target.length := by
  simp only [write, List.length_take, List.length_append, List.length_drop]
  omega

@[simp] theorem read_zero_length (source : List α) : read source 0 source.length = source := by
  simp [read]

/-- A read inside the source yields exactly the requested number of cells. -/
theorem read_length {source : List α} {start count : Nat}
    (within : start + count ≤ source.length)
    : (read source start count).length = count := by
  simp only [read, List.length_take, List.length_drop]
  omega

/-- Two reads in a row are one read. -/
theorem read_append_read {source : List α} {start part count : Nat} (le : part ≤ count)
    : read source start part ++ read source (start + part) (count - part)
      = read source start count := by
  have split : count = part + (count - part) := by omega
  conv => rhs; rw [read, split, List.take_add, List.drop_drop]
  rfl

/-- Reading a block that follows a header of known size. -/
theorem read_after_header {source header block : List α} {start count : Nat}
    (prefixEq : source.take (start + count) = header ++ block)
    (size : header.length = start)
    : read source start count = block := by
  have taken : (source.drop start).take count = (source.take (start + count)).drop start := by
    rw [List.drop_take, Nat.add_sub_cancel_left]
  rw [read, taken, prefixEq, ← size, List.drop_left]

/-- An in-bounds write extends the prefix before it by the written block. -/
theorem take_write {target : List α} {offset : Nat} {block : List α}
    (within : offset + block.length ≤ target.length)
    : (write target offset block).take (offset + block.length)
      = target.take offset ++ block := by
  have size : (target.take offset ++ block).length = offset + block.length := by
    simp only [List.length_append, List.length_take]
    omega
  rw [write, List.take_take, Nat.min_eq_left within, ← size, List.take_left]

/-- A write at the front makes its block the buffer's prefix. -/
theorem take_write_front {target block : List α} (within : block.length ≤ target.length)
    : (write target 0 block).take block.length = block := by
  have written : (write target 0 block).take (0 + block.length) = target.take 0 ++ block :=
    take_write (by simpa using within)
  simpa using written

/-- A write at the front, in full. -/
theorem write_front {target block : List α} (within : block.length ≤ target.length)
    : write target 0 block = block ++ target.drop block.length := by
  rw [write, List.take_zero, List.nil_append, Nat.zero_add, List.take_of_length_le]
  rw [List.length_append, List.length_drop]
  omega

/-- A write behind a front leaves the front alone. -/
theorem write_append (front rest block : List α)
    : write (front ++ rest) front.length block = front ++ write rest 0 block := by
  rw [write, write, List.take_left, ← List.drop_drop, List.drop_left, List.append_assoc,
    List.length_append, List.take_length_add_append, List.take_zero, List.nil_append,
    Nat.zero_add]

/-- What remains behind a front that is there. -/
theorem drop_of_drop {bytes front rest : List α} {index : Nat}
    (remaining : bytes.drop index = front ++ rest)
    : bytes.drop (index + front.length) = rest := by
  rw [← List.drop_drop, remaining, List.drop_left]

theorem drop_succ_of_drop {bytes rest : List α} {cell : α} {index : Nat}
    (remaining : bytes.drop index = cell :: rest)
    : bytes.drop (index + 1) = rest := by
  rw [← List.drop_drop, remaining, List.drop_succ_cons, List.drop_zero]

theorem getElem?_read (source : List α) (start count i : Nat)
    : (read source start count)[i]? = if i < count then source[start + i]? else none := by
  rw [read, List.getElem?_take, List.getElem?_drop]

/-- An in-bounds write, cell by cell. -/
theorem getElem?_write {target : List α} {offset : Nat} {block : List α}
    (within : offset + block.length ≤ target.length) (i : Nat)
    : (write target offset block)[i]?
      = if offset ≤ i ∧ i < offset + block.length then block[i - offset]? else target[i]? := by
  have front : (target.take offset).length = offset := by
    rw [List.length_take]
    omega
  have middle : (target.take offset ++ block).length = offset + block.length := by
    rw [List.length_append, front]
  rw [write, List.getElem?_take]
  by_cases inside : i < target.length
  · rw [if_pos inside]
    by_cases behind : i < offset + block.length
    · rw [List.getElem?_append_left (by omega)]
      by_cases before : i < offset
      · rw [List.getElem?_append_left (by omega), List.getElem?_take_of_lt before,
          if_neg (by omega)]
      · rw [List.getElem?_append_right (by omega), front, if_pos (by omega)]
    · rw [List.getElem?_append_right (by omega), middle, List.getElem?_drop, if_neg (by omega)]
      congr 1
      omega
  · rw [if_neg inside, if_neg (by omega), List.getElem?_eq_none (by omega)]

/-- A read beside a write sees nothing of it. -/
theorem read_write_beside {target : List α} {offset start count : Nat} {block : List α}
    (within : offset + block.length ≤ target.length)
    (beside : start + count ≤ offset ∨ offset + block.length ≤ start)
    : read (write target offset block) start count = read target start count := by
  refine List.ext_getElem? fun i => ?_
  rw [getElem?_read, getElem?_read, getElem?_write within]
  by_cases inside : i < count
  · rw [if_pos inside, if_pos inside, if_neg (by omega)]
  · rw [if_neg inside, if_neg inside]

/-- A read around a write sees the write at its own place. -/
theorem read_write_around {target : List α} {index start count : Nat} {block : List α}
    (within : start + count ≤ target.length) (around : index + block.length ≤ count)
    : read (write target (start + index) block) start count
      = write (read target start count) index block := by
  refine List.ext_getElem? fun i => ?_
  rw [getElem?_read, getElem?_write (by omega), getElem?_write (by rw [read_length within]; omega),
    getElem?_read]
  by_cases inside : i < count
  · rw [if_pos inside, if_pos inside]
    by_cases written : index ≤ i ∧ i < index + block.length
    · rw [if_pos (by omega), if_pos written]
      congr 1
      omega
    · rw [if_neg (by omega), if_neg written]
  · rw [if_neg inside, if_neg inside, if_neg (by omega)]

-----------------------------------------------------------------------------------------
-- Blocks written over one another
-----------------------------------------------------------------------------------------

/-- Blocks written to the front of a buffer, one after the other. -/
def overlay (target : List α) (blocks : List (List α)) : List α :=
  blocks.foldl (fun target block => block ++ target.drop block.length) target

/-- No block is longer than the limit or the block before it. -/
def Descending : (limit : Nat) → List (List α) → Prop
  | _, [] => True
  | limit, block :: later => block.length ≤ limit ∧ Descending block.length later

instance Descending.decidable
    : (limit : Nat) → (blocks : List (List α)) → Decidable (Descending limit blocks)
  | _, [] => .isTrue trivial
  | limit, block :: later =>
      have := Descending.decidable block.length later
      inferInstanceAs (Decidable (block.length ≤ limit ∧ Descending block.length later))

@[simp] theorem overlay_nil (target : List α) : overlay target [] = target := rfl

theorem Descending.mono {limit more : Nat} {blocks : List (List α)}
    (descending : Descending limit blocks) (le : limit ≤ more)
    : Descending more blocks := by
  cases blocks with
  | nil => trivial
  | cons block later => exact ⟨Nat.le_trans descending.1 le, descending.2⟩

/-- What stands behind the blocks stays. -/
theorem overlay_append {front : List α} {blocks : List (List α)}
    (descending : Descending front.length blocks) (back : List α)
    : overlay (front ++ back) blocks = overlay front blocks ++ back := by
  induction blocks generalizing front with
  | nil => rfl
  | cons block later ih =>
      obtain ⟨within, descending⟩ := descending
      have size : (block ++ front.drop block.length).length = front.length := by
        rw [List.length_append, List.length_drop]
        omega
      rw [overlay, overlay, List.foldl_cons, List.foldl_cons,
        List.drop_append_of_le_length within, ← List.append_assoc]
      exact ih (descending.mono (by omega))

/-- The first block keeps what the later ones leave of it, and the target what the first one
leaves.
-/
theorem overlay_cons {block : List α} {later : List (List α)}
    (descending : Descending block.length later) (target : List α)
    : overlay target (block :: later) = overlay block later ++ target.drop block.length :=
  overlay_append descending _

theorem overlay_length {target : List α} {blocks : List (List α)}
    (descending : Descending target.length blocks)
    : (overlay target blocks).length = target.length := by
  induction blocks generalizing target with
  | nil => rfl
  | cons block later ih =>
      rw [overlay_cons descending.2, List.length_append, ih descending.2, List.length_drop]
      have within := descending.1
      omega

/-- Blocks that reach further take from what stands behind. -/
theorem overlay_append_back {front : List α} {limit : Nat} {blocks : List (List α)}
    (descending : Descending limit blocks) (back : List α)
    : overlay (front ++ back) blocks
      = overlay front blocks ++ back.drop ((overlay front blocks).length - front.length) := by
  cases blocks with
  | nil => simp
  | cons block later =>
      have beyond : (overlay front (block :: later)).length - front.length
          = block.length - front.length := by
        rw [overlay_cons descending.2, List.length_append, overlay_length descending.2,
          List.length_drop]
        omega
      rw [beyond, overlay_cons descending.2, overlay_cons descending.2, List.drop_append,
        List.append_assoc]

/-- The last block stands in front of what the others leave. -/
theorem overlay_concat (target : List α) (blocks : List (List α)) (last : List α)
    : overlay target (blocks ++ [last])
      = last ++ (overlay target blocks).drop last.length := by
  rw [overlay, List.foldl_append]
  rfl

/-- The blocks reach as far as the longest of them does. -/
theorem length_overlay_le_iff {target : List α} {blocks : List (List α)} {limit : Nat}
    : (overlay target blocks).length ≤ limit
      ↔ ∀ block ∈ target :: blocks, block.length ≤ limit := by
  induction blocks generalizing target with
  | nil => simp
  | cons block later ih =>
      have step : overlay target (block :: later)
          = overlay (block ++ target.drop block.length) later := rfl
      have size : (block ++ target.drop block.length).length ≤ limit
          ↔ target.length ≤ limit ∧ block.length ≤ limit := by
        rw [List.length_append, List.length_drop]
        omega
      simp only [step, ih, List.forall_mem_cons, size, and_assoc]

/-- A block laid over others shows in full iff none of them is longer. -/
theorem overlay_concat_eq_iff {target : List α} {blocks : List (List α)} {last : List α}
    : overlay target (blocks ++ [last]) = last
      ↔ ∀ block ∈ target :: blocks, block.length ≤ last.length := by
  rw [overlay_concat, List.append_right_eq_self, List.drop_eq_nil_iff, length_overlay_le_iff]

/-- What stands in the blocks is from one of them. -/
theorem mem_overlay {target : List α} {blocks : List (List α)} {cell : α}
    (member : cell ∈ overlay target blocks)
    : ∃ block ∈ target :: blocks, cell ∈ block := by
  induction blocks generalizing target with
  | nil => exact ⟨target, by simp, member⟩
  | cons block later ih =>
      obtain ⟨source, among, inside⟩ := ih member
      rcases List.mem_cons.mp among with rfl | old
      · rcases List.mem_append.mp inside with first | rest
        · exact ⟨block, by simp, first⟩
        · exact ⟨target, by simp, List.mem_of_mem_drop rest⟩
      · exact ⟨source, by simp [old], inside⟩

/-- What no later block covers of a block is what `whole` has there. -/
def ShowsOf (whole : List α) : List (List α) → Prop
  | [] => True
  | block :: later =>
      block.drop (later.headD []).length <+: whole.drop (later.headD []).length
      ∧ ShowsOf whole later

theorem append_prefix_iff {front back whole : List α}
    : front ++ back <+: whole ↔ front <+: whole ∧ back <+: whole.drop front.length := by
  constructor
  · rintro ⟨rest, rfl⟩
    rw [List.append_assoc, List.drop_left]
    exact ⟨List.prefix_append _ _, List.prefix_append _ _⟩
  · rintro ⟨⟨tail, rfl⟩, within⟩
    rw [List.drop_left] at within
    exact (List.prefix_append_right_inj front).mpr within

/-- Descending blocks show the front of `whole` iff each does where it shows. -/
theorem overlay_prefix_iff {whole block : List α} {later : List (List α)}
    (descending : Descending block.length later)
    : overlay block later <+: whole ↔ ShowsOf whole (block :: later) := by
  induction later generalizing block with
  | nil => simp [ShowsOf]
  | cons next later ih =>
      have size : (overlay next later).length = next.length := overlay_length descending.2
      rw [overlay_cons descending.2, append_prefix_iff, ih descending.2, size]
      exact and_comm

/-- Blocks leave a target unchanged iff all that shows of them is of the target. -/
theorem overlay_eq_self_iff {target : List α} {limit : Nat} {blocks : List (List α)}
    (descending : Descending limit blocks)
    : overlay target blocks = target ↔ ShowsOf target blocks := by
  cases blocks with
  | nil => exact iff_true_intro rfl
  | cons block later =>
      have size : (overlay block later).length = block.length := overlay_length descending.2
      rw [← overlay_prefix_iff descending.2, overlay_cons descending.2,
        List.prefix_iff_eq_append, size]

end ByteBuffer
