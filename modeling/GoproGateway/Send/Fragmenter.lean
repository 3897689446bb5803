import GoproGateway.Packet.Frames

/-! The fragmenter of `gopro_protobuf.c`.

Both senders fill one command on their stack and publish it again and again, so the bytes of
a frame past its length are those of an earlier frame, or whatever the stack held. The result
of a publication is only logged; the senders are modelled by the publications they attempt.
-/

namespace GoproGateway

/-- The size of the buffers the senders are called on. -/
def workBuffSize : Nat := 2048

namespace GoproCmd

/-- The uninitialised command of a sender, once its type is set. -/
def onStack (stack : StackBytes) (type : UInt8) : GoproCmd where
  len := 0
  cmdType := type.toNat
  data := stack.bytes
  data_length := stack.bytes_length

/-- Stores `bytes` at the front of the data array, and the command's length. -/
def fill (cmd : GoproCmd) (bytes : List UInt8) (len : Nat) : GoproCmd where
  len
  cmdType := cmd.cmdType
  data := ByteBuffer.write cmd.data 0 bytes
  data_length := by rw [ByteBuffer.write_length, cmd.data_length]

@[simp] theorem fill_len (cmd : GoproCmd) (bytes : List UInt8) (len : Nat)
    : (cmd.fill bytes len).len = len := rfl

@[simp] theorem fill_cmdType (cmd : GoproCmd) (bytes : List UInt8) (len : Nat)
    : (cmd.fill bytes len).cmdType = cmd.cmdType := rfl

@[simp] theorem onStack_cmdType (stack : StackBytes) (type : UInt8)
    : (onStack stack type).cmdType = type.toNat := rfl

theorem fill_byte_zero (cmd : GoproCmd) (first : UInt8) (bytes : List UInt8) (len : Nat)
    : (cmd.fill (first :: bytes) len).byte 0 = first := by
  simp [fill, byte, ByteBuffer.write, cmd.data_length, goproCmdDataLen]

/-- A command filled with as many bytes as it counts has these bytes as its payload. -/
theorem fill_payload (cmd : GoproCmd) {bytes : List UInt8} {len : Nat}
    (size : bytes.length = len) (small : len ≤ goproCmdDataLen)
    : (cmd.fill bytes len).payload = bytes := by
  subst size
  exact ByteBuffer.take_write_front (by rw [cmd.data_length]; exact small)

end GoproCmd

/-- The loop over continuation frames: `data_ptr` is at `offset`, and `len` bytes are left. -/
def sendConts (cmd : GoproCmd) (data : List UInt8) (offset len : Nat) (packetNum : UInt8)
    : List GoproCmd :=
  if len > 0 then
    let dataLen := if len > 19 then 19 else len
    let cmd :=
      cmd.fill ((0x80 ||| (packetNum &&& 0x0F)) :: ByteBuffer.read data offset dataLen)
        (dataLen + 1)
    cmd :: sendConts cmd data (offset + dataLen) (len - dataLen) (packetNum + 1)
  else []
  termination_by len
  decreasing_by
    split <;> omega

def goproSendBigData (stack : StackBytes) (data : List UInt8) (len : Nat)
    (type feature action : UInt8)
    : List GoproCmd :=
  let cmd := GoproCmd.onStack stack type
  if len ≤ 20 - 3 then
    [cmd.fill
      (UInt8.ofNat ((len + 2) &&& 0x1F) :: feature :: action :: ByteBuffer.read data 0 len)
      (len + 3)]
  else if len < 8191 then
    let cmd :=
      cmd.fill
        (UInt8.ofNat ((((len + 2) >>> 8) &&& 0x1F) ||| (1 <<< 5))
          :: UInt8.ofNat ((len + 2) &&& 0xFF) :: feature :: action
          :: ByteBuffer.read data 0 16)
        20
    cmd :: sendConts cmd data 16 (len - 16) 0
  else
    -- The 16-bit branch sends nothing yet, and longer payloads are refused.
    []

def goproSendBuf (stack : StackBytes) (data : List UInt8) (len : Nat) (type : UInt8)
    : List GoproCmd :=
  let cmd := GoproCmd.onStack stack type
  if len ≤ 20 then
    [cmd.fill (ByteBuffer.read data 0 len) len]
  else if len < 8191 then
    let cmd :=
      cmd.fill
        (UInt8.ofNat ((len >>> 8 &&& 0x1F) ||| (1 <<< 5)) :: UInt8.ofNat (len &&& 0xFF)
          :: ByteBuffer.read data 0 18)
        20
    cmd :: sendConts cmd data 18 (len - 18) 0
  else
    -- The 16-bit branch sends nothing yet, and longer payloads are refused.
    []

-----------------------------------------------------------------------------------------
-- Continuation frames
-----------------------------------------------------------------------------------------

set_option maxRecDepth 4000 in
/-- The first byte of a continuation frame, for every value of the counter. -/
theorem contByte : ∀ number < 256,
    (0x80 ||| (UInt8.ofNat number &&& 0x0F)) &&& 0x80 ≠ 0
    ∧ ((0x80 ||| (UInt8.ofNat number &&& 0x0F)) &&& 0x0F).toNat = number % 16 := by
  decide

theorem contByte_continues (packetNum : UInt8)
    : (0x80 ||| (packetNum &&& 0x0F)) &&& 0x80 ≠ 0 := by
  simpa using (contByte packetNum.toNat packetNum.toNat_lt).1

theorem contByte_number (packetNum : UInt8)
    : ((0x80 ||| (packetNum &&& 0x0F)) &&& 0x0F).toNat = packetNum.toNat % 16 := by
  simpa using (contByte packetNum.toNat packetNum.toNat_lt).2

/-- The first continuation frame of the loop carries its number and its part of the data. -/
theorem fill_isCont (cmd : GoproCmd) {data : List UInt8} {offset dataLen : Nat}
    (packetNum : UInt8) (within : offset + dataLen ≤ data.length) (short : dataLen ≤ 19)
    : (cmd.fill ((0x80 ||| (packetNum &&& 0x0F)) :: ByteBuffer.read data offset dataLen)
        (dataLen + 1)).IsCont cmd.cmdType (ByteBuffer.read data offset dataLen) := by
  have size : ((0x80 ||| (packetNum &&& 0x0F)) :: ByteBuffer.read data offset dataLen).length
      = dataLen + 1 := by
    rw [List.length_cons, ByteBuffer.read_length within]
  have small : dataLen + 1 ≤ goproCmdDataLen := by
    unfold goproCmdDataLen
    omega
  exact ⟨rfl, small, _, contByte_continues packetNum, cmd.fill_payload size small⟩

/-- The loop cuts what is left of the data into non-empty chunks, one for each frame, by
induction on the remaining length.
-/
theorem sendConts_frames (cmd : GoproCmd) (data : List UInt8) (offset len : Nat)
    (packetNum : UInt8) (within : offset + len ≤ data.length)
    : ∃ rest,
        List.Forall₂ (fun frame chunk => GoproCmd.IsCont frame cmd.cmdType chunk)
          (sendConts cmd data offset len packetNum) rest
        ∧ (∀ chunk ∈ rest, chunk ≠ [])
        ∧ rest.flatten = ByteBuffer.read data offset len := by
  fun_induction sendConts cmd data offset len packetNum with
  | case1 cmd offset len packetNum positive dataLen frame ih =>
      have short : dataLen ≤ 19 ∧ dataLen ≤ len ∧ 0 < dataLen := by
        simp only [dataLen]
        split <;> omega
      obtain ⟨rest, continues, nonempty, covered⟩ := ih (by omega)
      refine ⟨ByteBuffer.read data offset dataLen :: rest, .cons ?_ continues, ?_, ?_⟩
      · exact fill_isCont cmd packetNum (by omega) short.1
      · refine List.forall_mem_cons.mpr ⟨?_, nonempty⟩
        apply List.ne_nil_of_length_pos
        rw [ByteBuffer.read_length (by omega)]
        exact short.2.2
      · rw [List.flatten_cons, covered]
        exact ByteBuffer.read_append_read short.2.1
  | case2 cmd offset len packetNum empty =>
      obtain rfl : len = 0 := by omega
      exact ⟨[], .nil, by simp, by simp [ByteBuffer.read]⟩

/-- The low nibble of the `index`-th frame counts the frames modulo 16. -/
theorem sendConts_number (cmd : GoproCmd) (data : List UInt8) (offset len : Nat)
    (packetNum : UInt8) (index : Nat) (frame : GoproCmd)
    (sent : (sendConts cmd data offset len packetNum)[index]? = some frame)
    : (frame.byte 0 &&& 0x0F).toNat = (packetNum.toNat + index) % 16 := by
  fun_induction sendConts cmd data offset len packetNum generalizing index with
  | case1 cmd offset len packetNum positive dataLen first ih =>
      cases index with
      | zero =>
          obtain rfl := Option.some.inj sent
          rw [GoproCmd.fill_byte_zero]
          exact contByte_number packetNum
      | succ index =>
          rw [ih index sent, UInt8.toNat_add]
          simp only [UInt8.reduceToNat]
          omega
  | case2 => simp at sent

/-- Continuation frames keep the type of the command they reuse, and fit. -/
theorem sendConts_typed (cmd : GoproCmd) (data : List UInt8) (offset len : Nat)
    (packetNum : UInt8)
    : ∀ frame ∈ sendConts cmd data offset len packetNum,
        frame.cmdType = cmd.cmdType ∧ frame.len ≤ goproCmdDataLen := by
  fun_induction sendConts cmd data offset len packetNum with
  | case1 cmd offset len packetNum positive dataLen frame ih =>
      have short : dataLen ≤ 19 := by
        simp only [dataLen]
        split <;> omega
      refine List.forall_mem_cons.mpr ⟨⟨rfl, ?_⟩, ih⟩
      simp only [frame, GoproCmd.fill_len, goproCmdDataLen]
      omega
  | case2 => simp

/-- Every frame of a buffer has the type it is sent under, and fits. -/
theorem goproSendBuf_typed (stack : StackBytes) (data : List UInt8) (len : Nat) (type : UInt8)
    : ∀ frame ∈ goproSendBuf stack data len type,
        frame.cmdType = type.toNat ∧ frame.len ≤ goproCmdDataLen := by
  unfold goproSendBuf
  split
  · rename_i short
    simpa [goproCmdDataLen] using short
  · split
    · exact List.forall_mem_cons.mpr ⟨⟨rfl, Nat.le_refl 20⟩, sendConts_typed _ _ _ _ _⟩
    · simp

/-- A buffer that is not too long takes at least one frame, even when it is empty. -/
theorem goproSendBuf_ne_nil (stack : StackBytes) (data : List UInt8) {len : Nat}
    (type : UInt8) (fits : len < 8191)
    : goproSendBuf stack data len type ≠ [] := by
  by_cases short : len ≤ 20
  · simp [goproSendBuf, short]
  · simp [goproSendBuf, short, fits]

end GoproGateway
