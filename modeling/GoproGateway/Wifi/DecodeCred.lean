import GoproGateway.State.StringWriters

/-! What the decoder of credentials leaves in its two arrays.

Every occurrence is copied to the front of its array, and its length is the capacity for the
next occurrence of the same string. So an array ends up with the stored occurrences laid over
what it held before, each no longer than the one before it.
-/

namespace GoproGateway

open ByteBuffer

/-- The occurrences of a string, in order. -/
def occurrencesOf (string : CohnString) (occurrences : List CredOccurrence)
    : List (List UInt8) :=
  (occurrences.filter (·.string = string)).map (·.bytes)

/-- The occurrences of a string that are stored: those in front of the first occurrence, of
either string, that does not fit.
-/
def storedOccurrences (string : CohnString) (sizes : CohnString → Nat)
    : List CredOccurrence → List (List UInt8)
  | [] => []
  | ⟨other, bytes⟩ :: rest =>
      if bytes.length > sizes other then []
      else
        let later := storedOccurrences string (Function.update sizes other bytes.length) rest
        if other = string then bytes :: later else later

theorem storedOccurrences_descending (string : CohnString) (sizes : CohnString → Nat)
    (occurrences : List CredOccurrence)
    : Descending (sizes string) (storedOccurrences string sizes occurrences) := by
  induction occurrences generalizing sizes with
  | nil => trivial
  | cons occurrence rest ih =>
      obtain ⟨other, bytes⟩ := occurrence
      have later := ih (Function.update sizes other bytes.length)
      simp only [storedOccurrences]
      by_cases long : bytes.length > sizes other
      · rw [if_pos long]
        trivial
      rw [if_neg long]
      by_cases same : other = string
      · subst same
        rw [Function.update_self] at later
        rw [if_pos rfl]
        exact ⟨Nat.le_of_not_lt long, later⟩
      · rw [Function.update_of_ne (Ne.symm same)] at later
        rw [if_neg same]
        exact later

/-- Nothing is stored that does not occur. -/
theorem storedOccurrences_mem {string : CohnString} {sizes : CohnString → Nat}
    {occurrences : List CredOccurrence} {bytes : List UInt8}
    (member : bytes ∈ storedOccurrences string sizes occurrences)
    : bytes ∈ occurrencesOf string occurrences := by
  induction occurrences generalizing sizes with
  | nil => exact member
  | cons occurrence rest ih =>
      obtain ⟨other, first⟩ := occurrence
      simp only [storedOccurrences] at member
      by_cases long : first.length > sizes other
      · simp [long] at member
      rw [if_neg long] at member
      by_cases same : other = string
      · rw [if_pos same] at member
        rcases List.mem_cons.mp member with rfl | later
        · simp [occurrencesOf, same]
        · simpa [occurrencesOf, same] using .inr (by simpa [occurrencesOf] using ih later)
      · rw [if_neg same] at member
        simpa [occurrencesOf, same] using ih member

section Decode

variable {strings : StateStrings} {sizes : CohnString → Nat} {other : CohnString}
  {bytes : List UInt8}

theorem decodeCred_refuses (long : bytes.length > sizes other) (rest : List CredOccurrence)
    : decodeCred strings sizes (⟨other, bytes⟩ :: rest) = pure (strings, false) := by
  rw [decodeCred, if_pos long]

theorem decodeCred_stores (fits : bytes.length ≤ sizes other) (rest : List CredOccurrence)
    : decodeCred strings sizes (⟨other, bytes⟩ :: rest)
      = storeString strings other.field 0 bytes
        >>= fun strings =>
          decodeCred strings (Function.update sizes other bytes.length) rest := by
  rw [decodeCred, if_neg (Nat.not_lt.mpr fits)]

theorem update_small (small : ∀ string, sizes string ≤ goproNameLen)
    (fits : bytes.length ≤ sizes other) (string : CohnString)
    : Function.update sizes other bytes.length string ≤ goproNameLen := by
  rw [Function.update_apply]
  split_ifs
  · exact Nat.le_trans fits (small other)
  · exact small string

/-- A decoder that succeeds has stored all that occurs. -/
theorem storedOccurrences_of_ok {occurrences : List CredOccurrence}
    (ok : (decodeCred strings sizes occurrences).value.2 = true) (string : CohnString)
    : storedOccurrences string sizes occurrences = occurrencesOf string occurrences := by
  induction occurrences generalizing strings sizes with
  | nil => rfl
  | cons occurrence rest ih =>
      obtain ⟨other, bytes⟩ := occurrence
      by_cases long : bytes.length > sizes other
      · rw [decodeCred_refuses long] at ok
        cases ok
      rw [decodeCred_stores (Nat.le_of_not_lt long), Traced.bind_value] at ok
      simp only [storedOccurrences, if_neg long, ih ok]
      by_cases same : other = string <;> simp [same, occurrencesOf]

theorem CohnString.field_injective {string other : CohnString} (ne : string ≠ other)
    : string.field ≠ other.field := by
  revert ne
  cases string <;> cases other <;> decide

/-- An array of the credentials holds the stored occurrences, laid over what it held. -/
theorem decodeCred_array (strings : StateStrings)
    (small : ∀ string, sizes string ≤ goproNameLen) (occurrences : List CredOccurrence)
    (string : CohnString)
    : (decodeCred strings sizes occurrences).value.1.array string.field
      = overlay (strings.array string.field) (storedOccurrences string sizes occurrences) := by
  induction occurrences generalizing strings sizes with
  | nil => rfl
  | cons occurrence rest ih =>
      obtain ⟨other, bytes⟩ := occurrence
      by_cases long : bytes.length > sizes other
      · rw [decodeCred_refuses long, storedOccurrences, if_pos long]
        rfl
      have fits := Nat.le_of_not_lt long
      have within : 0 + bytes.length ≤ goproNameLen := by
        have room := small other
        omega
      rw [decodeCred_stores fits, Traced.bind_value, ih _ (update_small small fits),
        storedOccurrences, if_neg long, storeString]
      by_cases same : other = string
      · subst same
        rw [if_pos rfl, StateStrings.array_store_same _ _ within,
          write_front (by simpa using within)]
        rfl
      · rw [if_neg same,
          StateStrings.array_store_other _ (CohnString.field_injective same) within]

/-- The other arrays stay. -/
theorem decodeCred_array_other (strings : StateStrings)
    (small : ∀ string, sizes string ≤ goproNameLen) (occurrences : List CredOccurrence)
    {field : StringField} (foreign : ∀ string : CohnString, string.field ≠ field)
    : (decodeCred strings sizes occurrences).value.1.array field = strings.array field := by
  induction occurrences generalizing strings sizes with
  | nil => rfl
  | cons occurrence rest ih =>
      obtain ⟨other, bytes⟩ := occurrence
      by_cases long : bytes.length > sizes other
      · rw [decodeCred_refuses long]
        rfl
      have fits := Nat.le_of_not_lt long
      have room := small other
      rw [decodeCred_stores fits, Traced.bind_value, ih _ (update_small small fits), storeString,
        StateStrings.array_store_other _ (foreign other) (by omega)]

end Decode

end GoproGateway
