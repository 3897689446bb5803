import GoproGateway.Send.RoundTrip

/-! The length that a sent start frame declares.

`gopro_send_big_data` checks the length of its payload, and declares two bytes more. The
longest payload that it admits therefore overflows the 13 bits of the header.
-/

namespace GoproGateway

/-- The message bytes that frames bring, all together. -/
def carriedBytes (frames : List GoproCmd) : Nat :=
  (frames.flatMap GoproCmd.chunk).length

/-- The length decoded from the first frame is the number of message bytes in all of them. -/
def DeclaresCarried (frames : List GoproCmd) : Prop :=
  ∃ start conts, frames = start :: conts
    ∧ (goproPacketGetLen start).value = (carriedBytes frames : Int)

section Message

variable {handle total : Nat} {first : List UInt8} {rest : List (List UInt8)}

theorem carriedBytes_cons (frame : GoproCmd) (frames : List GoproCmd)
    : carriedBytes (frame :: frames) = frame.chunk.length + carriedBytes frames := by
  rw [carriedBytes, List.flatMap_cons, List.length_append]
  rfl

theorem carriedBytes_conts {conts : List GoproCmd}
    (continues : List.Forall₂ (fun cmd chunk => GoproCmd.IsCont cmd handle chunk) conts rest)
    : carriedBytes conts = rest.flatten.length := by
  induction continues with
  | nil => rfl
  | cons here _ ih =>
      rw [List.flatten_cons, List.length_append, carriedBytes_cons, ih, here.reads.2.1]

theorem IsMessage.carriedBytes {frames : List GoproCmd}
    (message : IsMessage handle total first rest frames)
    : carriedBytes frames = (first ++ rest.flatten).length := by
  cases message with
  | frames opens continues =>
      rw [List.length_append, carriedBytes_cons, carriedBytes_conts continues,
        opens.reads.2.2.2.1]

/-- The frames of a message declare what they bring iff the declared total is its size. -/
theorem IsMessage.declaresCarried_iff {frames : List GoproCmd}
    (message : IsMessage handle total first rest frames)
    : DeclaresCarried frames ↔ total = (first ++ rest.flatten).length := by
  have carried := message.carriedBytes
  cases message with
  | @frames start conts opens continues =>
      obtain ⟨header, wellFormed, framed⟩ := opens.framed
      have declared := (wellFormed.decodes framed).2.2.2.1
      constructor
      · rintro ⟨_, _, same, exact⟩
        obtain ⟨rfl, rfl⟩ := List.cons.inj same
        rw [declared, carried] at exact
        exact Int.ofNat.inj exact
      · intro size
        refine ⟨start, conts, rfl, ?_⟩
        rw [declared, carried, size]

end Message

section Senders

variable (stack : StackBytes) {data : List UInt8} {len : Nat} (type : UInt8)
  (within : len ≤ data.length)

include within

/-- A buffer of more than 20 bytes goes out as a start frame with its first 18 bytes and
continuation frames with the others.
-/
theorem goproSendBuf_long (long : 20 < len) (guard : len < 8191)
    : ∃ start rest,
        goproSendBuf stack data len type = start :: sendConts start data 18 (len - 18) 0
        ∧ IsMessage type.toNat len (data.take 18) rest (goproSendBuf stack data len type)
        ∧ (∀ chunk ∈ rest, chunk ≠ [])
        ∧ data.take 18 ++ rest.flatten = data.take len := by
  obtain ⟨start, rest, isStart, message, nonempty, whole⟩ :=
    sent13bit_message (GoproCmd.onStack stack type) [] 18 len rfl (by omega) within
  have sent : goproSendBuf stack data len type
      = start :: sendConts start data 18 (len - 18) 0 := by
    rw [goproSendBuf, if_neg (by omega), if_pos guard, isStart]
    rfl
  refine ⟨start, rest, sent, ?_, nonempty, whole⟩
  rw [Nat.mod_eq_of_lt (by omega)] at message
  rw [sent]
  exact message

/-- What `gopro_send_big_data` declares has lost the 14th bit. -/
theorem goproSendBigData_declaresCarried_iff (feature action : UInt8) (long : 17 < len)
    (guard : len < 8191)
    : DeclaresCarried (goproSendBigData stack data len type feature action)
      ↔ len + 2 < 8192 := by
  obtain ⟨start, rest, _, message, _, whole⟩ :=
    goproSendBigData_long stack type feature action within long guard
  have size : (feature :: action :: data.take len).length = len + 2 := by
    simp [Nat.min_eq_left within]
  rw [message.declaresCarried_iff, whole, size]
  omega

theorem goproSendBuf_declaresCarried (long : 20 < len) (guard : len < 8191)
    : DeclaresCarried (goproSendBuf stack data len type) := by
  obtain ⟨start, rest, _, message, _, whole⟩ := goproSendBuf_long stack type within long guard
  rw [message.declaresCarried_iff, whole, List.length_take, Nat.min_eq_left within]

end Senders

/-- For every payload that the guards of the 13-bit branches admit, the decoded length is the
number of bytes carried: always for `gopro_send_buf`, and for `gopro_send_big_data` iff the
payload has at most 8189 bytes. Witness: the header keeps the sum modulo 8192, and the frames
carry all of it.
-/
theorem senders_declareCarried_iff (stack : StackBytes) (data : List UInt8) (len : Nat)
    (within : len ≤ data.length) (guard : len < 8191) (type feature action : UInt8)
    : (17 < len
        → (DeclaresCarried (goproSendBigData stack data len type feature action)
          ↔ len ≤ 8189))
      ∧ (20 < len → DeclaresCarried (goproSendBuf stack data len type)) := by
  constructor
  · intro long
    rw [goproSendBigData_declaresCarried_iff stack type within feature action long guard]
    omega
  · intro long
    exact goproSendBuf_declaresCarried stack type within long guard

theorem senders_declareCarried_thirty
    : DeclaresCarried (goproSendBigData .zero (List.replicate 30 0x61) 30 3 0x02 0x04)
      ∧ DeclaresCarried (goproSendBuf .zero (List.replicate 30 0x61) 30 2) := by
  have bigData := senders_declareCarried_iff .zero (List.replicate 30 0x61) 30 (by decide)
    (by decide) 3 0x02 0x04
  have buf := senders_declareCarried_iff .zero (List.replicate 30 0x61) 30 (by decide)
    (by decide) 2 0 0
  exact ⟨(bigData.1 (by decide)).mpr (by decide), buf.2 (by decide)⟩

/-- A payload of 8190 bytes is admitted and declared to have none. -/
theorem goproSendBigData_length_overflows
    : ¬ ∀ (stack : StackBytes) (data : List UInt8) (len : Nat) (type feature action : UInt8),
      len ≤ data.length
      → (17 < len → len < 8191
        → DeclaresCarried (goproSendBigData stack data len type feature action))
      ∧ (20 < len → len < 8191 → DeclaresCarried (goproSendBuf stack data len type)) := by
  intro every
  have within : 8190 ≤ (List.replicate 8190 (0x61 : UInt8)).length := by
    rw [List.length_replicate]
  have exact := (every .zero (List.replicate 8190 0x61) 8190 3 0x02 0x04 within).1 (by omega)
    (by omega)
  rw [goproSendBigData_declaresCarried_iff .zero 3 within 0x02 0x04 (by omega) (by omega)]
    at exact
  omega

end GoproGateway
