import Mathlib.Algebra.Group.Nat.Defs
import Mathlib.Data.Nat.Basic

/-! Unsigned 32-bit arithmetic on natural numbers, with the wrap-around written out. -/

namespace Word32

/-- Number of 32-bit words. -/
def size : Nat := 2 ^ 32

/-- Conversion of a signed value to an unsigned word. -/
def ofInt (a : Int) : Nat := (a % size).toNat

def add (a b : Nat) : Nat := (a + b) % size

def sub (a b : Nat) : Nat := ofInt ((a : Int) - b)

theorem ofInt_natCast {n : Nat} (fits : n < size) : ofInt n = n := by
  unfold ofInt
  unfold size at *
  omega

theorem ofInt_lt (a : Int) : ofInt a < size := by
  unfold ofInt size
  omega

theorem add_of_lt {a b : Nat} (fits : a + b < size) : add a b = a + b :=
  Nat.mod_eq_of_lt fits

/-- An addition of words that does not fit drops exactly one `size`. -/
theorem add_of_ge {a b : Nat} (overflows : size ≤ a + b) (left : a < size) (right : b < size)
    : add a b = a + b - size := by
  rw [add, Nat.mod_eq_sub_mod overflows, Nat.mod_eq_of_lt (by omega)]

theorem sub_of_le {a b : Nat} (le : b ≤ a) (fits : a < size) : sub a b = a - b := by
  rw [sub, ← Int.ofNat_sub le, ofInt_natCast (by omega)]

end Word32
