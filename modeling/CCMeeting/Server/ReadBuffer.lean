import CCMeeting.Lib.Machine
import CCMeeting.Server.Wire

/-! # The read buffer

`network::Buffer` grows and compacts while `Connection::do_read` appends to it
and `Codec::try_decode` takes frames off it. What it holds unread is a byte
string, and on that byte string it does what `tryDecode` does.
-/

namespace CCMeeting

open ByteString

/-! ## The buffer -/

/-- `InitBufferSize`. -/
def initBufferSize : ℕ := 4096

/-- `Buffer`: what lies between the two positions has not been read. -/
structure Buffer where
  bytes : ByteString
  readPos : ℕ
  writePos : ℕ
  readPos_le : readPos ≤ writePos
  writePos_le : writePos ≤ bytes.length

namespace Buffer

/-- `Buffer::Buffer`. -/
def init : Buffer where
  bytes := List.replicate initBufferSize 0
  readPos := 0
  writePos := 0
  readPos_le := Nat.le_refl 0
  writePos_le := Nat.zero_le _

/-- `Buffer::readable_size`. -/
def readableSize (b : Buffer) : ℕ := b.writePos - b.readPos

/-- `Buffer::writable_size`. -/
def writableSize (b : Buffer) : ℕ := b.bytes.length - b.writePos

/-- `Buffer::read_begin`: the bytes from there to the end of the vector. -/
def readBegin (b : Buffer) : ByteString := b.bytes.drop b.readPos

/-- What has not been read. -/
def readable (b : Buffer) : ByteString := b.readBegin.take b.readableSize

/-- `Buffer::move_read_pos`; the assertion is the hypothesis. -/
def moveReadPos (b : Buffer) (size : ℕ) (h : size ≤ b.readableSize) : Buffer :=
  { b with
    readPos := b.readPos + size
    readPos_le := by
      have := b.readPos_le
      unfold readableSize at h
      omega }

/-- `memmove` of the unread bytes to the front of the vector. -/
def compacted (b : Buffer) : ByteString := b.readable ++ b.bytes.drop b.readableSize

theorem length_readable (b : Buffer) : b.readable.length = b.readableSize := by
  have hread := b.readPos_le
  have hwrite := b.writePos_le
  rw [readable, readBegin, List.length_take, List.length_drop, readableSize]
  omega

@[simp] theorem length_compacted (b : Buffer) : b.compacted.length = b.bytes.length := by
  have hwrite := b.writePos_le
  rw [compacted, List.length_append, length_readable, List.length_drop, readableSize]
  omega

/-- `Buffer::normalize`. -/
def normalize (b : Buffer) : Buffer :=
  if b.readPos = 0 then b
  else
    { bytes := if b.readPos = b.writePos then b.bytes else b.compacted
      readPos := 0
      writePos := b.writePos - b.readPos
      readPos_le := Nat.zero_le _
      writePos_le := by
        have hwrite := b.writePos_le
        split_ifs
        · omega
        · rw [length_compacted]
          omega }

/-- `_buffer.resize(size)` to a greater size. -/
def grow (b : Buffer) (size : ℕ) : Buffer :=
  { b with
    bytes := b.bytes ++ List.replicate (size - b.bytes.length) 0
    writePos_le := by
      have hwrite := b.writePos_le
      rw [List.length_append]
      omega }

/-- `Buffer::expand_if_need`. -/
def expandIfNeed (b : Buffer) (size : ℕ) : Buffer :=
  if b.writableSize < size then
    let b := b.normalize
    if b.writableSize < size then b.grow (max (2 * b.bytes.length) (b.writePos + size)) else b
  else b

/-- The room `write` asks for is there. -/
theorem le_writableSize_expandIfNeed (b : Buffer) (size : ℕ) :
    size ≤ (b.expandIfNeed size).writableSize := by
  unfold expandIfNeed
  dsimp only
  split_ifs with h1 h2
  · simp only [writableSize, grow, List.length_append, List.length_replicate]
    have hmax := le_max_right (2 * b.normalize.bytes.length) (b.normalize.writePos + size)
    omega
  · exact Nat.not_lt.mp h2
  · exact Nat.not_lt.mp h1

/-- `memcpy` to the writing position, and `move_write_pos`. -/
def copy (b : Buffer) (data : ByteString) (_h : data.length ≤ b.writableSize) : Buffer :=
  { bytes := b.bytes.take b.writePos ++ (data ++ b.bytes.drop (b.writePos + data.length))
    readPos := b.readPos
    writePos := b.writePos + data.length
    readPos_le := Nat.le_add_right_of_le b.readPos_le
    writePos_le := by
      have hwrite := b.writePos_le
      rw [List.length_append, List.length_append, List.length_take]
      omega }

/-- `Buffer::write`. -/
def write (b : Buffer) (data : ByteString) : Buffer :=
  if data.isEmpty then b
  else (b.expandIfNeed data.length).copy data (b.le_writableSize_expandIfNeed data.length)

end Buffer

/-! ## What is unread -/

namespace Buffer

@[simp] theorem readable_init : init.readable = [] := rfl

theorem readable_moveReadPos (b : Buffer) {size : ℕ} (h : size ≤ b.readableSize) :
    (b.moveReadPos size h).readable = b.readable.drop size := by
  simp only [readable, readBegin, moveReadPos, readableSize, List.drop_take, List.drop_drop]
  congr 1
  omega

theorem readable_normalize (b : Buffer) : b.normalize.readable = b.readable := by
  unfold normalize
  split_ifs with hzero hempty
  · rfl
  · -- nothing was unread, and nothing is moved
    simp [readable, readableSize, hempty]
  · have hlength := b.length_readable
    rw [readableSize] at hlength
    simp only [readable, readBegin, readableSize, compacted, List.drop_zero, Nat.sub_zero]
    simp only [readable, readBegin, readableSize] at hlength
    rw [List.take_append_of_le_length (by rw [hlength]), List.take_take, Nat.min_self]

theorem readable_grow (b : Buffer) (size : ℕ) : (b.grow size).readable = b.readable := by
  have hread := b.readPos_le
  have hwrite := b.writePos_le
  simp only [readable, readBegin, readableSize, grow]
  rw [List.drop_append_of_le_length (by omega),
    List.take_append_of_le_length (by rw [List.length_drop]; omega)]

theorem readable_expandIfNeed (b : Buffer) (size : ℕ) :
    (b.expandIfNeed size).readable = b.readable := by
  unfold expandIfNeed
  dsimp only
  split_ifs
  · rw [readable_grow, readable_normalize]
  · exact b.readable_normalize
  · rfl

theorem readable_copy (b : Buffer) {data : ByteString} (h : data.length ≤ b.writableSize) :
    (b.copy data h).readable = b.readable ++ data := by
  have hread := b.readPos_le
  have hwrite := b.writePos_le
  have hlength : (b.bytes.take b.writePos).length = b.writePos := by
    rw [List.length_take]
    omega
  have hold : (b.bytes.take b.writePos).drop b.readPos = b.readable := by
    rw [List.drop_take]
    rfl
  have hend : b.writePos + data.length - b.readPos = b.readable.length + data.length := by
    rw [length_readable, readableSize]
    omega
  show ((b.bytes.take b.writePos ++ (data ++ b.bytes.drop (b.writePos + data.length))).drop
    b.readPos).take (b.writePos + data.length - b.readPos) = b.readable ++ data
  rw [List.drop_append_of_le_length (by omega), hold, hend, List.take_length_add_append,
    List.take_left]

/-- Writing appends, whether the buffer is compacted, grown or neither. -/
theorem readable_write (b : Buffer) (data : ByteString) :
    (b.write data).readable = b.readable ++ data := by
  unfold write
  split_ifs with hempty
  · rw [List.isEmpty_iff.mp hempty, List.append_nil]
  · rw [readable_copy, readable_expandIfNeed]

end Buffer

/-! ## What the codec does to a buffer -/

/-- `append_uint32_be`. -/
def appendUint32Be (b : Buffer) (value : UInt32) : Buffer := b.write (writeBe32 value)

/-- What `do_read` does with a message: the size it casts to `uint32_t`, then
the bytes. -/
def Buffer.appendMessage (b : Buffer) (message : ByteString) : Buffer :=
  (appendUint32Be b (UInt32.ofNat message.length)).write message

/-- `DecodeStatus`. -/
inductive DecodeStatus where
  | needMore
  | ok
  | invalid
deriving DecidableEq, Repr

/-- `try_decode` after the parse: the packet is filled member by member, and an
exception leaves it half filled and the frame in the buffer. -/
def readDocument (platform : Platform) (document : Json) (b after : Buffer) (packet : Packet) :
    Except JsonException DecodeStatus × Buffer × Packet :=
  match valueString document (ascii "t") (ascii "unknown") with
  | .error e => (.error e, b, packet)
  | .ok typeText =>
    match MessageType.typeFromName typeText with
    | none => (.ok .invalid, after, packet)
    | some type =>
      let packet := { packet with type }
      match valueDouble document (ascii "u") (.ofInt 0) with
      | .error e => (.error e, b, packet)
      | .ok u =>
        let packet := { packet with userId := platform.u64OfDouble u }
        match decodePayload document with
        | .error e => (.error e, b, packet)
        | .ok payload => (.ok .ok, after, { packet with payload })

/-- `Codec::try_decode` with the buffer and the packet it is given. -/
def tryDecodeInto (platform : Platform) (b : Buffer) (packet : Packet) :
    Except JsonException DecodeStatus × Buffer × Packet :=
  if b.readableSize < kLengthPrefixSize then (.ok .needMore, b, packet)
  else
    let jsonSize := (readBe32 b.readBegin).toNat
    if jsonSize = 0 then (.ok .invalid, b, packet)
    else if h : b.readableSize < kLengthPrefixSize + jsonSize then (.ok .needMore, b, packet)
    else
      let after := b.moveReadPos (kLengthPrefixSize + jsonSize) (Nat.not_lt.mp h)
      match platform.parse ((b.readBegin.drop kLengthPrefixSize).take jsonSize) with
      | none => (.ok .invalid, after, packet)
      | some document => readDocument platform document b after packet

/-- What a call of `try_decode` comes to. -/
inductive DecodeOutcome where
  | needMore
  | packet (p : Packet)
  | invalid
  | raised (e : JsonException)
deriving DecidableEq, Repr

/-- What the caller of `try_decode` learns from the status and the packet. -/
def outcomeOf : Except JsonException DecodeStatus × Buffer × Packet → DecodeOutcome
  | (.error e, _, _) => .raised e
  | (.ok .needMore, _, _) => .needMore
  | (.ok .ok, _, p) => .packet p
  | (.ok .invalid, _, _) => .invalid

/-- What `tryDecode` learns from a byte string. -/
def Decoded.outcome : Except JsonException Decoded → DecodeOutcome
  | .error e => .raised e
  | .ok .needMore => .needMore
  | .ok (.ok p _) => .packet p
  | .ok (.invalid _) => .invalid

/-- What `tryDecode` leaves of a byte string. -/
def Decoded.remaining (unread : ByteString) : Except JsonException Decoded → ByteString
  | .ok (.ok _ rest) => rest
  | .ok (.invalid rest) => rest
  | _ => unread

theorem readable_appendMessage (b : Buffer) (message : ByteString) :
    (b.appendMessage message).readable = b.readable ++ framed message := by
  have hprefix : writeBe32 (UInt32.ofNat message.length) = toBe 4 message.length := by
    rw [writeBe32, UInt32.toNat_ofNat']
    exact toBe_mod (Nat.le_refl 4) message.length
  rw [Buffer.appendMessage, appendUint32Be, Buffer.readable_write, Buffer.readable_write, hprefix,
    framed, List.append_assoc]

theorem readBe32_readBegin {b : Buffer} (h : kLengthPrefixSize ≤ b.readableSize) :
    readBe32 b.readBegin = readBe32 b.readable := by
  have hmin : min 4 b.readableSize = 4 := Nat.min_eq_left h
  rw [readBe32, readBe32, Buffer.readable, List.take_take, hmin]

/-- The document lies in what is unread. -/
theorem take_drop_readable {b : Buffer} {size : ℕ} (h : kLengthPrefixSize + size ≤ b.readableSize) :
    (b.readable.drop kLengthPrefixSize).take size =
      (b.readBegin.drop kLengthPrefixSize).take size := by
  rw [Buffer.readable, List.drop_take, List.take_take, Nat.min_eq_left (by omega)]

/-- The packet of an earlier frame shows in nothing that is returned. -/
theorem outcomeOf_readDocument (platform : Platform) (document : Json) (b after : Buffer)
    (packet : Packet) {rest : ByteString} :
    outcomeOf (readDocument platform document b after packet) =
      Decoded.outcome (decodeDocument platform document rest) := by
  unfold readDocument decodeDocument
  cases valueString document (ascii "t") (ascii "unknown") with
  | error e => rfl
  | ok typeText =>
    simp only [bind, Except.bind]
    cases MessageType.typeFromName typeText with
    | none => rfl
    | some type =>
      cases valueDouble document (ascii "u") (.ofInt 0) with
      | error e => rfl
      | ok u => cases decodePayload document <;> rfl

theorem readable_readDocument (platform : Platform) (document : Json) {b after : Buffer}
    (packet : Packet) {rest : ByteString} (hafter : after.readable = rest) :
    (readDocument platform document b after packet).2.1.readable =
      Decoded.remaining b.readable (decodeDocument platform document rest) := by
  unfold readDocument decodeDocument
  cases valueString document (ascii "t") (ascii "unknown") with
  | error e => rfl
  | ok typeText =>
    simp only [bind, Except.bind]
    cases MessageType.typeFromName typeText with
    | none => exact hafter
    | some type =>
      cases valueDouble document (ascii "u") (.ofInt 0) with
      | error e => rfl
      | ok u =>
        cases decodePayload document with
        | error e => rfl
        | ok payload => exact hafter

/-- On what is unread `try_decode` is `tryDecode`, and it leaves the same. -/
theorem tryDecodeInto_eq (platform : Platform) (b : Buffer) (packet : Packet) :
    outcomeOf (tryDecodeInto platform b packet) =
        Decoded.outcome (tryDecode platform b.readable) ∧
      (tryDecodeInto platform b packet).2.1.readable =
        Decoded.remaining b.readable (tryDecode platform b.readable) := by
  unfold tryDecodeInto tryDecode
  dsimp only
  rw [b.length_readable]
  by_cases hprefix : b.readableSize < kLengthPrefixSize
  · rw [if_pos hprefix, if_pos hprefix]
    exact ⟨rfl, rfl⟩
  rw [if_neg hprefix, if_neg hprefix, ← readBe32_readBegin (Nat.not_lt.mp hprefix)]
  by_cases hzero : (readBe32 b.readBegin).toNat = 0
  · rw [if_pos hzero, if_pos hzero]
    exact ⟨rfl, rfl⟩
  rw [if_neg hzero, if_neg hzero]
  by_cases hpart : b.readableSize < kLengthPrefixSize + (readBe32 b.readBegin).toNat
  · rw [dif_pos hpart, if_pos hpart]
    exact ⟨rfl, rfl⟩
  rw [dif_neg hpart, if_neg hpart, take_drop_readable (Nat.not_lt.mp hpart)]
  have hafter := b.readable_moveReadPos (Nat.not_lt.mp hpart)
  cases platform.parse ((b.readBegin.drop kLengthPrefixSize).take
      (readBe32 b.readBegin).toNat) with
  | none => exact ⟨rfl, hafter⟩
  | some document =>
    exact ⟨outcomeOf_readDocument platform document b _ packet,
      readable_readDocument platform document packet hafter⟩

end CCMeeting
