import Mathlib.Data.List.Basic

/-! C strings in byte arrays: the text up to the first NUL, and bounded comparison. -/

namespace CString

/-- The bytes in front of the first NUL; `strlen` is its length. -/
def text (bytes : List UInt8) : List UInt8 := bytes.takeWhile (· ≠ 0)

/-- `strncmp`; memory that is not given counts as a NUL. -/
def strncmp (left right : List UInt8) : Nat → Int
  | 0 => 0
  | count + 1 =>
      if left.headD 0 ≠ right.headD 0 then
        ((left.headD 0).toNat : Int) - (right.headD 0).toNat
      else if left.headD 0 = 0 then 0
      else strncmp left.tail right.tail count

/-- A text in front of a NUL is read back, whatever stands behind. -/
theorem text_append_nul {string : List UInt8} (plain : 0 ∉ string) (rest : List UInt8)
    : text (string ++ 0 :: rest) = string := by
  have nonzero : ∀ byte ∈ string, decide (byte ≠ 0) = true := by
    intro byte member
    exact decide_eq_true (ne_of_mem_of_not_mem member plain)
  rw [text, List.takeWhile_append_of_pos nonzero]
  simp

/-- The text of a string that does not start with a NUL. -/
theorem text_cons {byte : UInt8} (plain : byte ≠ 0) (rest : List UInt8)
    : text (byte :: rest) = byte :: text rest := by
  simp [text, plain]

/-- Up to the length of the shorter text, a comparison looks at text only. -/
theorem strncmp_eq_zero_iff {left right : List UInt8} {count : Nat}
    (inLeft : count ≤ (text left).length) (inRight : count ≤ (text right).length)
    : strncmp left right count = 0 ↔ (text left).take count = (text right).take count := by
  induction count generalizing left right with
  | zero => simp [strncmp]
  | succ count ih =>
      have head (bytes : List UInt8) (long : count + 1 ≤ (text bytes).length)
          : ∃ byte rest, bytes = byte :: rest ∧ byte ≠ 0 ∧ text bytes = byte :: text rest := by
        cases bytes with
        | nil => simp [text] at long
        | cons byte rest =>
            have plain : byte ≠ 0 := by
              rintro rfl
              simp [text] at long
            exact ⟨byte, rest, rfl, plain, text_cons plain rest⟩
      obtain ⟨first, left, rfl, plain, isLeft⟩ := head left inLeft
      obtain ⟨second, right, rfl, -, isRight⟩ := head right inRight
      rw [isLeft, List.length_cons] at inLeft
      rw [isRight, List.length_cons] at inRight
      rw [strncmp, isLeft, isRight, List.take_succ_cons, List.take_succ_cons, List.cons.injEq]
      by_cases same : first = second
      · rw [if_neg (show ¬ (first :: left).headD 0 ≠ (second :: right).headD 0 from
            not_not.mpr same),
          if_neg (show ¬ (first :: left).headD 0 = 0 from plain)]
        have tails := ih (Nat.le_of_succ_le_succ inLeft) (Nat.le_of_succ_le_succ inRight)
        exact tails.trans (and_iff_right same).symm
      · rw [if_pos (show (first :: left).headD 0 ≠ (second :: right).headD 0 from same)]
        refine iff_of_false (fun zero => same ?_) (fun both => same both.1)
        change ((first.toNat : Int) - second.toNat) = 0 at zero
        exact UInt8.toNat_inj.mp (by omega)

/-- A bounded comparison with a text, over all of it, finds out whether the other string starts
with it.
-/
theorem strncmp_length_eq_zero_iff {name : List UInt8} (plain : 0 ∉ name) (left : List UInt8)
    : strncmp left name name.length = 0 ↔ name <+: left := by
  induction name generalizing left with
  | nil => simp [strncmp]
  | cons byte rest ih =>
      obtain ⟨nonzero, plainRest⟩ := List.ne_and_not_mem_of_not_mem_cons plain
      rw [List.length_cons, strncmp, List.headD_cons, List.tail_cons]
      cases left with
      | nil =>
          have other : (0 : UInt8) ≠ byte := nonzero
          have positive : byte.toNat ≠ 0 := fun zero => other (UInt8.toNat_inj.mp zero.symm)
          rw [List.headD_nil, if_pos other]
          simp [positive]
      | cons first left =>
          rw [List.headD_cons, List.tail_cons, List.cons_prefix_cons]
          by_cases same : first = byte
          · subst same
            rw [if_neg (not_not.mpr rfl), if_neg (Ne.symm nonzero), ih plainRest]
            exact (and_iff_right rfl).symm
          · rw [if_pos same]
            refine iff_of_false (fun zero => same ?_) (fun both => same both.1.symm)
            exact UInt8.toNat_inj.mp (by omega)

/-- A text that is in front of a NUL is in front of what the NUL ends. -/
theorem prefix_append_nul_iff {name : List UInt8} (plain : 0 ∉ name) (text rest : List UInt8)
    : name <+: text ++ 0 :: rest ↔ name <+: text := by
  constructor
  · intro within
    by_contra outside
    have ended : text ++ [0] <+: text ++ 0 :: rest := ⟨rest, by simp⟩
    rcases Nat.lt_or_ge text.length name.length with longer | shorter
    · have covers : (text ++ [0]).length ≤ name.length := by simpa [Nat.succ_le_iff] using longer
      have nul := List.prefix_of_prefix_length_le ended within covers
      exact plain (nul.subset (by simp))
    · exact outside
        (List.prefix_of_prefix_length_le within (List.prefix_append text _) shorter)
  · rintro ⟨later, rfl⟩
    exact ⟨later ++ 0 :: rest, by simp⟩

end CString
