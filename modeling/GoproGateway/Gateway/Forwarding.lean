import GoproGateway.Gateway.CanRxBle

/-! What the gateway forwards.

The decode buffer's capacity is overwritten by the length of what was read, so the task sends
the last occurrence of the data field iff the field occurs and no occurrence is longer than
one before it.
-/

namespace GoproGateway

/-- No occurrence is longer than an earlier one. -/
def Shrinking (occurrences : List (List UInt8)) : Prop :=
  occurrences.Pairwise fun earlier later => later.length ≤ earlier.length

section Decode

variable {decode : DecodeState} {occurrence : List UInt8}

theorem pbDecodeBytes_fits (fits : occurrence.length ≤ decode.size)
    : pbDecodeBytes decode occurrence
      = ({ decode with buff := decode.buff.write occurrence, size := occurrence.length },
          true) := by
  rw [pbDecodeBytes, if_neg (Nat.not_lt.mpr fits)]

theorem pbDecodeBytes_refused (long : decode.size < occurrence.length)
    : pbDecodeBytes decode occurrence = ({ decode with size := 0 }, false) := by
  rw [pbDecodeBytes, if_pos long]

/-- What was read last is what the buffer starts with. -/
theorem read_written (buff : BleDataBuff) (short : occurrence.length ≤ bledataBuffSize)
    : ByteBuffer.read (buff.write occurrence).bytes 0 occurrence.length = occurrence := by
  rw [ByteBuffer.read, List.drop_zero]
  apply ByteBuffer.take_write_front
  rw [buff.bytes_length]
  exact short

end Decode

/-- Decoding succeeds iff every occurrence fits what is left of the capacity: the first one
the capacity itself, and every other one the occurrence before it. Witness: induction on the
fields, with the length that was read last as the capacity.
-/
theorem pbDecode_ok_iff (decode : DecodeState) (fields : List BledataField)
    : (pbDecode decode fields).2 = true
      ↔ (∀ occurrence ∈ dataOccurrences fields, occurrence.length ≤ decode.size)
        ∧ Shrinking (dataOccurrences fields) := by
  induction fields generalizing decode with
  | nil => simp [pbDecode, dataOccurrences, Shrinking]
  | cons field rest ih =>
      cases field with
      | bleAddr value =>
          rw [pbDecode, ih]
          rfl
      | data occurrence =>
          have listed : dataOccurrences (.data occurrence :: rest)
              = occurrence :: dataOccurrences rest := rfl
          rw [listed, List.forall_mem_cons, Shrinking, List.pairwise_cons, pbDecode]
          rcases Nat.lt_or_ge decode.size occurrence.length with long | fits
          · simp only [pbDecodeBytes_refused long]
            simp
            omega
          · simp only [pbDecodeBytes_fits fits, if_true]
            rw [ih]
            constructor
            · rintro ⟨within, shrinking⟩
              exact ⟨⟨fits, fun other member => Nat.le_trans (within other member) fits⟩,
                within, shrinking⟩
            · rintro ⟨_, within, shrinking⟩
              exact ⟨within, shrinking⟩

/-- After a successful decoding the buffer starts with the last occurrence, or it is as it
was, and the address is the last one given.
-/
theorem pbDecode_result (decode : DecodeState) (fields : List BledataField)
    (capacity : decode.size ≤ bledataBuffSize) (ok : (pbDecode decode fields).2 = true)
    : ByteBuffer.read (pbDecode decode fields).1.buff.bytes 0 (pbDecode decode fields).1.size
        = (dataOccurrences fields).getLastD
          (ByteBuffer.read decode.buff.bytes 0 decode.size)
      ∧ (pbDecode decode fields).1.bleAddr = (bleAddrs fields).getLastD decode.bleAddr := by
  induction fields generalizing decode with
  | nil => exact ⟨rfl, rfl⟩
  | cons field rest ih =>
      cases field with
      | bleAddr value =>
          rw [pbDecode] at ok ⊢
          obtain ⟨bytes, addr⟩ := ih { decode with bleAddr := value } capacity ok
          refine ⟨bytes, ?_⟩
          have listed : bleAddrs (.bleAddr value :: rest) = value :: bleAddrs rest := rfl
          rw [addr, listed, List.getLastD_cons]
      | data occurrence =>
          rcases Nat.lt_or_ge decode.size occurrence.length with long | fits
          · simp [pbDecode, pbDecodeBytes_refused long] at ok
          · simp only [pbDecode, pbDecodeBytes_fits fits, if_true] at ok ⊢
            have short := Nat.le_trans fits capacity
            obtain ⟨bytes, addr⟩ := ih
              { decode with buff := decode.buff.write occurrence, size := occurrence.length }
              short ok
            refine ⟨?_, addr⟩
            have listed : dataOccurrences (.data occurrence :: rest)
                = occurrence :: dataOccurrences rest := rfl
            rw [bytes, read_written decode.buff short, listed, List.getLastD_cons]

/-- What a message is decoded to: its last data, or all that the buffer held. -/
theorem pbDecode_init_result (buff : BleDataBuff) {fields : List BledataField}
    (ok : (pbDecode (.init buff) fields).2 = true)
    : ByteBuffer.read (pbDecode (.init buff) fields).1.buff.bytes 0
          (pbDecode (.init buff) fields).1.size
        = (dataOccurrences fields).getLastD buff.bytes
      ∧ (pbDecode (.init buff) fields).1.bleAddr = lastBleAddr fields := by
  obtain ⟨data, addr⟩ := pbDecode_result (.init buff) fields (Nat.le_refl bledataBuffSize) ok
  have whole : ByteBuffer.read buff.bytes 0 bledataBuffSize = buff.bytes := by
    rw [← buff.bytes_length, ByteBuffer.read_zero_length]
  refine ⟨?_, addr⟩
  rw [data]
  exact congrArg _ whole

/-- The buffers sent for a message with an address of the camera while connected: one, if
decoding succeeds, and it is what the buffer starts with.
-/
theorem canRxBleStep_sends (nanopb : Nanopb) (buff : BleDataBuff) {bytes : List UInt8}
    {fields : List BledataField} (decodes : nanopb bytes = (fields, true))
    (handle : 0 ≤ lastBleAddr fields ∧ lastBleAddr fields < gpCntrlHandleEnd)
    : sentBuffers (canRxBleStep nanopb buff ⟨bytes, .connected⟩).2
      = if (pbDecode (.init buff) fields).2 = true then
          [((dataOccurrences fields).getLastD buff.bytes, UInt8.ofInt (lastBleAddr fields))]
        else [] := by
  simp only [canRxBleStep, decodes, Bool.and_true]
  split
  · rename_i ok
    obtain ⟨content, isAddr⟩ := pbDecode_init_result buff ok
    rw [routeBledata, isAddr, if_pos handle.2, if_pos rfl, content]
    rfl
  · rfl

/-- The credentials handed over for a message with their address, in any state of the client.
-/
theorem canRxBleStep_wifiCred (nanopb : Nanopb) (buff : BleDataBuff) {message : CanMessage}
    {fields : List BledataField} (decodes : nanopb message.bytes = (fields, true))
    (address : lastBleAddr fields = bleAddrSetWifiCred)
    : wifiCredMessages (canRxBleStep nanopb buff message).2
      = if (pbDecode (.init buff) fields).2 = true then
          [(dataOccurrences fields).getLastD buff.bytes]
        else [] := by
  simp only [canRxBleStep, decodes, Bool.and_true]
  split
  · rename_i ok
    obtain ⟨content, isAddr⟩ := pbDecode_init_result buff ok
    rw [routeBledata, isAddr, if_neg (by rw [address]; decide), if_pos address, content]
    rfl
  · rfl

/-- Whatever messages came before, the task sends exactly the last data occurrence of a
message, and nothing but it, iff the message has one and no occurrence is longer than an
earlier one. Witness: without one the whole buffer is sent, and a longer one is refused.
-/
theorem canRxBleSubscriber_forwards_iff (nanopb : Nanopb) (follows : FollowsWireFormat nanopb)
    (buff : BleDataBuff) (history : List CanMessage) (records : List WireFormat.Record)
    (bytes : List UInt8) (encoding : WireFormat.IsMessage records bytes)
    (typed : IsBledata records)
    (handle : 0 ≤ lastBleAddr (records.filterMap bledataField)
      ∧ lastBleAddr (records.filterMap bledataField) < gpCntrlHandleEnd)
    (sizes : ∀ occurrence ∈ dataOccurrences (records.filterMap bledataField),
      occurrence.length ≤ bledataBuffSize)
    : sentBuffers ((canRxBleSubscriber nanopb).step
          ((canRxBleSubscriber nanopb).run buff history).1 ⟨bytes, .connected⟩).2
        = [((dataOccurrences (records.filterMap bledataField)).getLastD [],
          UInt8.ofInt (lastBleAddr (records.filterMap bledataField)))]
      ↔ dataOccurrences (records.filterMap bledataField) ≠ []
        ∧ Shrinking (dataOccurrences (records.filterMap bledataField)) := by
  have decodes := follows records bytes encoding typed
  generalize ((canRxBleSubscriber nanopb).run buff history).1 = buff
  generalize records.filterMap bledataField = fields at *
  have sends := canRxBleStep_sends nanopb buff decodes handle
  have ok := pbDecode_ok_iff (.init buff) fields
  simp only [canRxBleSubscriber] at *
  rw [sends]
  cases occurrences : dataOccurrences fields with
  | nil =>
      -- The length of what is sent is the size of the buffer.
      have stale : buff.bytes ≠ [] := by
        rw [← List.length_pos_iff, buff.bytes_length]
        decide
      simp only [occurrences] at ok
      simp [ok, Shrinking, stale]
  | cons first rest =>
      rw [occurrences] at ok sizes
      have shrinks : (pbDecode (.init buff) fields).2 = true ↔ Shrinking (first :: rest) := by
        rw [ok]
        exact and_iff_right sizes
      rw [List.getLastD_cons, List.getLastD_cons]
      by_cases shrinking : Shrinking (first :: rest)
      · simp [shrinks, shrinking]
      · simp [shrinks, shrinking]

/-- A one-byte encoding of a small value. -/
theorem varint_small {value : Nat} (small : value < 128)
    : WireFormat.Varint value [UInt8.ofNat value] :=
  ⟨.last small, by simp, by omega⟩

/-- The record of an address below 128. -/
theorem encodes_addr {addr : Nat} (small : addr < 128)
    : WireFormat.Encodes ⟨1, .varint addr⟩ ([0x08] ++ [UInt8.ofNat addr]) :=
  .record Nat.one_pos (show 1 < 2 ^ 29 by decide)
    (varint_small (show 8 * 1 + 0 < 128 by decide))
    (.varint (varint_small small))

theorem canRxBleSubscriber_forwards_one_byte
    : sentBuffers ((canRxBleSubscriber referenceNanopb).step
        ((canRxBleSubscriber referenceNanopb).run .zero []).1
        ⟨[0x08, 0x02, 0x12, 0x01, 0x7A], .connected⟩).2
      = [([0x7A], 2)] := by
  have encoding : WireFormat.IsMessage
      [⟨1, .varint 2⟩, ⟨2, .lengthDelimited [0x7A]⟩]
      (([0x08] ++ [0x02]) ++ (([0x12] ++ ([0x01] ++ [0x7A])) ++ [])) :=
    .cons (encodes_addr (by decide))
      (.cons (.record (by decide) (by decide) (varint_small (by decide))
        (.lengthDelimited (by decide) (varint_small (by decide)))) .nil)
  exact (canRxBleSubscriber_forwards_iff referenceNanopb referenceNanopb_follows .zero []
    _ _ encoding (by unfold IsBledata; decide) (by decide) (by decide)).mpr
    ⟨by decide, by unfold Shrinking; decide⟩

/-- An address without data: all that the buffer holds is sent. -/
theorem canRxBleSubscriber_sends_stale_bytes
    : ¬ ∀ (nanopb : Nanopb) (buff : BleDataBuff) (history : List CanMessage)
        (records : List WireFormat.Record) (bytes : List UInt8),
      FollowsWireFormat nanopb → WireFormat.IsMessage records bytes → IsBledata records
      → (0 ≤ lastBleAddr (records.filterMap bledataField)
        ∧ lastBleAddr (records.filterMap bledataField) < gpCntrlHandleEnd)
      → (∀ occurrence ∈ dataOccurrences (records.filterMap bledataField),
        occurrence.length ≤ bledataBuffSize)
      → sentBuffers ((canRxBleSubscriber nanopb).step
            ((canRxBleSubscriber nanopb).run buff history).1 ⟨bytes, .connected⟩).2
          = [((dataOccurrences (records.filterMap bledataField)).getLastD [],
            UInt8.ofInt (lastBleAddr (records.filterMap bledataField)))] := by
  intro every
  have encoding : WireFormat.IsMessage [⟨1, .varint 2⟩] (([0x08] ++ [0x02]) ++ []) :=
    .cons (encodes_addr (by decide)) .nil
  have sent := every referenceNanopb .zero [] _ _ referenceNanopb_follows encoding
    (by unfold IsBledata; decide) (by decide) (by decide)
  have stale := canRxBleStep_sends referenceNanopb .zero
    (referenceNanopb_follows _ _ encoding (by unfold IsBledata; decide)) (by decide)
  rw [InputMachine.run_nil, canRxBleSubscriber, stale, if_pos (by decide)] at sent
  have nothing : BleDataBuff.zero.bytes = [] :=
    congrArg Prod.fst (List.cons.inj sent).1
  have size := BleDataBuff.zero.bytes_length
  rw [nothing] at size
  exact absurd size (by decide)

end GoproGateway
