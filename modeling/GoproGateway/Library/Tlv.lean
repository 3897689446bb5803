import Mathlib.Data.List.Basic

/-! Values behind a length byte, and lists of them with an identifier in front of each. -/

/-- A value with its length in front. -/
def lengthPrefixed (value : List UInt8) : List UInt8 :=
  UInt8.ofNat value.length :: value

/-- A length byte holds the length of a value that is short enough. -/
theorem length_byte {value : List UInt8} (fits : value.length ≤ 255)
    : (UInt8.ofNat value.length).toNat = value.length := by
  rw [UInt8.toNat_ofNat']
  omega

@[simp] theorem lengthPrefixed_length (value : List UInt8)
    : (lengthPrefixed value).length = value.length + 1 := rfl

/-- An entry of the list; its length byte holds the length of its value. -/
structure Tlv where
  id : UInt8
  value : List UInt8
  deriving DecidableEq, Repr

namespace Tlv

/-- An entry's value is short enough for its length byte. -/
def Fits (tlv : Tlv) : Prop := tlv.value.length ≤ 255

def encode (tlv : Tlv) : List UInt8 :=
  tlv.id :: lengthPrefixed tlv.value

def encodeAll (tlvs : List Tlv) : List UInt8 := tlvs.flatMap encode

/-- The number that bytes spell, the most significant one first. -/
def bigEndian (bytes : List UInt8) : Nat :=
  bytes.foldl (fun value byte => value * 256 + byte.toNat) 0

/-- The value of the last entry with an identifier. -/
def lastValue (id : UInt8) : List Tlv → Option (List UInt8)
  | [] => none
  | tlv :: rest => (lastValue id rest).or (if tlv.id = id then some tlv.value else none)

@[simp] theorem encodeAll_nil : encodeAll [] = [] := rfl

@[simp] theorem encodeAll_cons (tlv : Tlv) (rest : List Tlv)
    : encodeAll (tlv :: rest)
      = tlv.id :: UInt8.ofNat tlv.value.length :: (tlv.value ++ encodeAll rest) := rfl

@[simp] theorem lastValue_nil (id : UInt8) : lastValue id [] = none := rfl

theorem lastValue_cons (id : UInt8) (tlv : Tlv) (rest : List Tlv)
    : lastValue id (tlv :: rest)
      = (lastValue id rest).or (if tlv.id = id then some tlv.value else none) := rfl

/-- Reads a list of entries, up to its last byte. -/
def decodeAll : List UInt8 → Option (List Tlv)
  | [] => some []
  | [_] => none
  | id :: length :: rest =>
      if length.toNat ≤ rest.length then
        (decodeAll (rest.drop length.toNat)).map (⟨id, rest.take length.toNat⟩ :: ·)
      else none
termination_by bytes => bytes.length
decreasing_by
  rw [List.length_drop, List.length_cons, List.length_cons]
  exact Nat.lt_succ_of_le (Nat.le_succ_of_le (Nat.sub_le _ _))

/-- What is read as a list of entries encodes it, and its values fit. -/
theorem encodeAll_of_decodeAll {bytes : List UInt8} {tlvs : List Tlv}
    (reads : decodeAll bytes = some tlvs)
    : encodeAll tlvs = bytes ∧ ∀ tlv ∈ tlvs, tlv.Fits := by
  induction bytes using decodeAll.induct generalizing tlvs with
  | case1 =>
      obtain rfl : [] = tlvs := by simpa [decodeAll] using reads
      exact ⟨rfl, by simp⟩
  | case2 byte => simp [decodeAll] at reads
  | case3 id length rest within ih =>
      rw [decodeAll, if_pos within] at reads
      obtain ⟨later, readsLater, rfl⟩ := Option.map_eq_some_iff.mp reads
      obtain ⟨encoded, fits⟩ := ih readsLater
      have size : (rest.take length.toNat).length = length.toNat := by
        rw [List.length_take, Nat.min_eq_left within]
      refine ⟨?_, List.forall_mem_cons.mpr ⟨?_, fits⟩⟩
      · rw [encodeAll_cons, encoded, size, UInt8.ofNat_toNat, List.take_append_drop]
      · have byte := length.toNat_lt
        rw [Fits, size]
        omega
  | case4 id length rest beyond => simp [decodeAll, if_neg beyond] at reads

/-- The low byte of the number is the last one. -/
theorem bigEndian_mod (bytes : List UInt8)
    : bigEndian bytes % 256 = (bytes.getLastD 0).toNat := by
  rcases List.eq_nil_or_concat bytes with rfl | ⟨front, byte, rfl⟩
  · rfl
  · have below := byte.toNat_lt
    simp only [List.concat_eq_append, bigEndian, List.foldl_append, List.foldl_cons,
      List.foldl_nil, List.getLastD_concat]
    omega

end Tlv
