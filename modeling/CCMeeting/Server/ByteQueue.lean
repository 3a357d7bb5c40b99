import CCMeeting.Lib.Transition
import CCMeeting.Server.ReadBuffer

/-! # The buffer as a byte queue

`Buffer` once more, with the positions in `size_t`, copies that would leave the
vector, and a vector that may not grow. From any initial size it is a queue of
the bytes that have been written and not consumed, and no copy leaves the vector.
-/

namespace CCMeeting

open ByteString Transition

/-! ## The vector -/

/-- `_buffer.max_size()`; no array has more bytes. -/
def maxSize : ℕ := 2 ^ 63 - 1

/-- An array with its size, as `write` is given it. -/
structure Chunk where
  bytes : ByteString
  length_le : bytes.length ≤ maxSize

def Chunk.size (data : Chunk) : UInt64 := UInt64.ofNat data.bytes.length

/-- How a call ends. -/
inductive Ending where
  | returned
  | lengthError
  | badAlloc
deriving DecidableEq, Repr

/-- `_buffer.resize(size)`; `granted` says whether the memory can be had. -/
def resizeVector (bytes : ByteString) (size : UInt64) (granted : Bool) : Except Ending ByteString :=
  if size.toNat ≤ bytes.length then .ok (bytes.take size.toNat)
  else if maxSize < size.toNat then .error .lengthError
  else if granted then .ok (bytes ++ List.replicate (size.toNat - bytes.length) 0)
  else .error .badAlloc

theorem length_le_of_resizeVector {bytes grown : ByteString} {size : UInt64} {granted : Bool}
    (h : bytes.length ≤ maxSize) (hgrown : resizeVector bytes size granted = .ok grown) :
    grown.length ≤ maxSize := by
  unfold resizeVector at hgrown
  split_ifs at hgrown with hshort hmax hmemory
  · cases hgrown
    rw [List.length_take]
    omega
  · cases hgrown
    rw [List.length_append, List.length_replicate]
    omega

/-- `memcpy` into the vector, `none` where it would leave it. -/
def memcpy (bytes : ByteString) (dst : ℕ) (data : ByteString) : Option ByteString :=
  if dst + data.length ≤ bytes.length then
    some (bytes.take dst ++ (data ++ bytes.drop (dst + data.length)))
  else none

/-- `memmove` within the vector. -/
def memmove (bytes : ByteString) (dst src size : ℕ) : Option ByteString :=
  if src + size ≤ bytes.length then memcpy bytes dst ((bytes.drop src).take size) else none

/-! ## The buffer -/

/-- `Buffer`, with any positions. -/
structure RawBuffer where
  bytes : ByteString
  readPos : UInt64
  writePos : UInt64
deriving DecidableEq

namespace RawBuffer

/-- `Buffer::Buffer`. -/
def construct (size : UInt64) (granted : Bool) : Except Ending RawBuffer := do
  let bytes ← resizeVector [] size granted
  return { bytes, readPos := 0, writePos := 0 }

/-- `Buffer::reset`. -/
def reset (b : RawBuffer) : RawBuffer := { b with readPos := 0, writePos := 0 }

/-- `Buffer::size`. -/
def size (b : RawBuffer) : UInt64 := UInt64.ofNat b.bytes.length

/-- `Buffer::readable_size`. -/
def readableSize (b : RawBuffer) : UInt64 := b.writePos - b.readPos

/-- `Buffer::writable_size`. -/
def writableSize (b : RawBuffer) : UInt64 := b.size - b.writePos

/-- `Buffer::move_read_pos`, `none` where the assertion fails. -/
def moveReadPos (b : RawBuffer) (size : UInt64) : Option RawBuffer :=
  if size ≤ b.readableSize then some { b with readPos := b.readPos + size } else none

/-- `Buffer::move_write_pos`. -/
def moveWritePos (b : RawBuffer) (size : UInt64) : Option RawBuffer :=
  if size ≤ b.writableSize then some { b with writePos := b.writePos + size } else none

/-- `Buffer::normalize`. -/
def normalize (b : RawBuffer) : Option RawBuffer :=
  if b.readPos ≠ 0 then do
    let bytes ←
      if b.readPos ≠ b.writePos then
        memmove b.bytes 0 b.readPos.toNat b.readableSize.toNat
      else some b.bytes
    return { bytes, readPos := 0, writePos := b.writePos - b.readPos }
  else some b

/-- `Buffer::resize`; an exception leaves the vector as it was. -/
def resize (b : RawBuffer) (size : UInt64) (granted : Bool) : Ending × RawBuffer :=
  match resizeVector b.bytes size granted with
  | .ok bytes => (.returned, { b with bytes })
  | .error e => (e, b)

/-- `Buffer::expand_if_need`; the sum wraps around. -/
def expandIfNeed (b : RawBuffer) (size : UInt64) (granted : Bool) : Option (Ending × RawBuffer) :=
  if b.writableSize < size then do
    let b ← b.normalize
    if b.writableSize < size then
      return b.resize (max (2 * b.size) (b.writePos + size)) granted
    else return (.returned, b)
  else some (.returned, b)

/-- `Buffer::write`. -/
def write (b : RawBuffer) (data : Chunk) (granted : Bool) : Option (Ending × RawBuffer) :=
  if data.size = 0 then some (.returned, b)
  else do
    let (ending, b) ← b.expandIfNeed data.size granted
    match ending with
    | .returned =>
      let bytes ← memcpy b.bytes b.writePos.toNat data.bytes
      let b ← { b with bytes }.moveWritePos data.size
      return (.returned, b)
    | raised => return (raised, b)

/-- The bytes between the two positions. -/
def readable (b : RawBuffer) : ByteString :=
  (b.bytes.drop b.readPos.toNat).take b.readableSize.toNat

end RawBuffer

/-! ## Calls -/

/-- A call on the buffer. -/
inductive BufferCall where
  | write (data : Chunk) (granted : Bool)
  | expandIfNeed (size : UInt64) (granted : Bool)
  | normalize
  | moveReadPos (size : UInt64)
  | reset

namespace BufferCall

/-- `move_read_pos` is called with at most `readable_size`. -/
def Allowed (b : RawBuffer) : BufferCall → Prop
  | moveReadPos size => size ≤ b.readableSize
  | _ => True

/-- The room a call asks for. -/
def room : BufferCall → ℕ
  | write data _ => data.bytes.length
  | expandIfNeed size _ => size.toNat
  | _ => 0

/-- The memory a call asks for can be had. -/
def granted : BufferCall → Bool
  | write _ granted => granted
  | expandIfNeed _ granted => granted
  | _ => true

end BufferCall

/-- A call carried out, `none` where it would leave the vector or an assertion fails. -/
def RawBuffer.call (b : RawBuffer) : BufferCall → Option (Ending × RawBuffer)
  | .write data granted => b.write data granted
  | .expandIfNeed size granted => b.expandIfNeed size granted
  | .normalize => b.normalize.map fun b => (.returned, b)
  | .moveReadPos size => (b.moveReadPos size).map fun b => (.returned, b)
  | .reset => some (.returned, b.reset)

/-- What has gone into the queue, and how much of it is out again. -/
structure Traffic where
  written : ByteString
  consumed : ℕ
deriving DecidableEq

/-- The traffic after a call; a `write` that raises has written nothing, and
`reset` drops what is left. -/
def Traffic.after (t : Traffic) : BufferCall → Ending → Traffic
  | .write data _, .returned => { t with written := t.written ++ data.bytes }
  | .moveReadPos size, _ => { t with consumed := t.consumed + size.toNat }
  | .reset, _ => { t with consumed := t.written.length }
  | _, _ => t

/-- A buffer of any initial size, with the calls made on it and their traffic. -/
def bufferSystem : System (RawBuffer × Traffic) BufferCall where
  Init s := (∃ size granted, RawBuffer.construct size granted = .ok s.1) ∧ s.2 = ⟨[], 0⟩
  Step s call s' :=
    call.Allowed s.1 ∧
      ∃ ending, s.1.call call = some (ending, s'.1) ∧ s'.2 = s.2.after call ending

/-! ## The code's buffer and the queue -/

namespace Buffer

/-- The positions of a buffer in `size_t`. -/
def raw (b : Buffer) : RawBuffer where
  bytes := b.bytes
  readPos := UInt64.ofNat b.readPos
  writePos := UInt64.ofNat b.writePos

/-- A size that an array can have is its own `size_t`. -/
theorem toNat_ofNat_of_le {n : ℕ} (h : n ≤ maxSize) : (UInt64.ofNat n).toNat = n := by
  apply UInt64.toNat_ofNat_of_lt'
  have hsize : UInt64.size = 2 ^ 64 := rfl
  unfold maxSize at h
  omega

/-- The bytes that are moved are all in the vector. -/
theorem memmove_readable (b : Buffer) :
    memmove b.bytes 0 b.readPos b.readableSize = some b.compacted := by
  have hread := b.readPos_le
  have hwrite := b.writePos_le
  have hsize : b.readPos + b.readableSize ≤ b.bytes.length := by
    unfold readableSize
    omega
  have hlength := b.length_readable
  unfold memmove memcpy
  rw [if_pos hsize]
  show (if 0 + b.readable.length ≤ b.bytes.length then
    some (b.bytes.take 0 ++ (b.readable ++ b.bytes.drop (0 + b.readable.length))) else none) = _
  rw [if_pos (by omega), List.take_zero, List.nil_append, Nat.zero_add, hlength]
  rfl

theorem length_normalize (b : Buffer) : b.normalize.bytes.length = b.bytes.length := by
  unfold normalize
  split_ifs
  · rfl
  · rfl
  · exact b.length_compacted

theorem writePos_normalize (b : Buffer) : b.normalize.writePos = b.readableSize := by
  unfold normalize readableSize
  by_cases hzero : b.readPos = 0
  · rw [if_pos hzero, hzero, Nat.sub_zero]
  · rw [if_neg hzero]

/-- A vector in which nothing is unread. -/
def empty (bytes : ByteString) : Buffer := { init with bytes, writePos_le := Nat.zero_le _ }

/-- `Buffer::reset`. -/
def reset (b : Buffer) : Buffer := empty b.bytes

section Raw

variable {b : Buffer} (hb : b.bytes.length ≤ maxSize)
include hb

theorem raw_writePos : b.raw.writePos.toNat = b.writePos :=
  toNat_ofNat_of_le (b.writePos_le.trans hb)

theorem raw_readPos : b.raw.readPos.toNat = b.readPos :=
  toNat_ofNat_of_le (b.readPos_le.trans (b.writePos_le.trans hb))

theorem raw_size : b.raw.size.toNat = b.bytes.length := toNat_ofNat_of_le hb

theorem raw_readPos_le : b.raw.readPos ≤ b.raw.writePos := by
  rw [UInt64.le_iff_toNat_le, raw_readPos hb, raw_writePos hb]
  exact b.readPos_le

theorem raw_writePos_le : b.raw.writePos ≤ b.raw.size := by
  rw [UInt64.le_iff_toNat_le, raw_writePos hb, raw_size hb]
  exact b.writePos_le

theorem raw_readableSize : b.raw.readableSize.toNat = b.readableSize := by
  rw [RawBuffer.readableSize, UInt64.toNat_sub_of_le _ _ (raw_readPos_le hb), raw_readPos hb,
    raw_writePos hb, readableSize]

theorem raw_writableSize : b.raw.writableSize.toNat = b.writableSize := by
  rw [RawBuffer.writableSize, UInt64.toNat_sub_of_le _ _ (raw_writePos_le hb), raw_writePos hb,
    raw_size hb, writableSize]

theorem raw_readable : b.raw.readable = b.readable := by
  rw [RawBuffer.readable, raw_readPos hb, raw_readableSize hb]
  rfl

theorem raw_moveReadPos {size : UInt64} (h : size.toNat ≤ b.readableSize) :
    b.raw.moveReadPos size = some (b.moveReadPos size.toNat h).raw := by
  have hle : size ≤ b.raw.readableSize := by
    rw [UInt64.le_iff_toNat_le, raw_readableSize hb]
    exact h
  rw [RawBuffer.moveReadPos, if_pos hle]
  simp only [raw, moveReadPos, UInt64.ofNat_add, UInt64.ofNat_toNat]

theorem raw_normalize : b.raw.normalize = some b.normalize.raw := by
  have hzero : b.raw.readPos ≠ 0 ↔ b.readPos ≠ 0 := by
    rw [Ne, ← UInt64.toNat_inj, raw_readPos hb]
    rfl
  have hempty : b.raw.readPos ≠ b.raw.writePos ↔ b.readPos ≠ b.writePos := by
    rw [Ne, ← UInt64.toNat_inj, raw_readPos hb, raw_writePos hb]
  have hsub : b.raw.writePos - b.raw.readPos = UInt64.ofNat (b.writePos - b.readPos) := by
    rw [← UInt64.toNat_inj, UInt64.toNat_sub_of_le _ _ (raw_readPos_le hb), raw_readPos hb,
      raw_writePos hb, toNat_ofNat_of_le ((Nat.sub_le _ _).trans (b.writePos_le.trans hb))]
  unfold RawBuffer.normalize normalize
  rw [raw_readPos hb, raw_readableSize hb, hsub]
  by_cases h0 : b.readPos = 0
  · rw [if_neg (fun h => hzero.mp h h0), if_pos h0]
  rw [if_pos (hzero.mpr h0), if_neg h0]
  by_cases h1 : b.readPos = b.writePos
  · rw [if_neg (fun h => hempty.mp h h1)]
    simp only [if_pos h1]
    rfl
  · rw [if_pos (hempty.mpr h1)]
    simp only [if_neg h1]
    show (memmove b.bytes 0 b.readPos b.readableSize >>= _) = _
    rw [b.memmove_readable]
    rfl

/-- The vector grows or is left as it was. -/
theorem raw_resize {size : UInt64} (granted : Bool) (h : b.bytes.length ≤ size.toNat) :
    (b.raw.resize size granted = (.returned, (b.grow size.toNat).raw) ∧ size.toNat ≤ maxSize) ∨
      ∃ ending, ending ≠ .returned ∧ b.raw.resize size granted = (ending, b.raw) ∧
        (granted = false ∨ maxSize < size.toNat) := by
  have htake : b.raw.bytes.length = b.bytes.length := rfl
  unfold RawBuffer.resize resizeVector
  rw [htake]
  by_cases hle : size.toNat ≤ b.bytes.length
  · -- the size stays the same
    left
    have heq : size.toNat = b.bytes.length := Nat.le_antisymm hle h
    rw [if_pos hle]
    refine ⟨?_, hle.trans hb⟩
    simp [raw, grow, heq]
  rw [if_neg hle]
  by_cases hmax : maxSize < size.toNat
  · right
    rw [if_pos hmax]
    exact ⟨.lengthError, Ending.noConfusion, rfl, .inr hmax⟩
  rw [if_neg hmax]
  cases granted with
  | true => exact .inl ⟨rfl, Nat.not_lt.mp hmax⟩
  | false => exact .inr ⟨.badAlloc, Ending.noConfusion, rfl, .inl rfl⟩

end Raw

end Buffer

/-! ## What a call does to the queue -/

theorem toNat_max (x y : UInt64) : (max x y).toNat = max x.toNat y.toNat := by
  rw [UInt64.max_def, Nat.max_def]
  simp only [UInt64.le_iff_toNat_le]
  split_ifs <;> rfl

/-- The size that is asked for when the vector is too short. -/
theorem wanted_toNat {b : Buffer} (hb : b.bytes.length ≤ maxSize) (size : UInt64) :
    (max (2 * b.raw.size) (b.raw.writePos + size)).toNat =
      max (2 * b.bytes.length) ((b.writePos + size.toNat) % 2 ^ 64) := by
  have htwo : (2 * b.raw.size).toNat = 2 * b.bytes.length := by
    rw [UInt64.toNat_mul, Buffer.raw_size hb]
    unfold maxSize at hb
    have h2 : (2 : UInt64).toNat = 2 := rfl
    rw [h2]
    omega
  rw [toNat_max, htwo, UInt64.toNat_add, Buffer.raw_writePos hb]

/-- A call raises only where the memory cannot be had or the vector would be too long. -/
def RaiseExcused (size unread room : ℕ) (granted : Bool) : Prop :=
  granted = false ∨ maxSize < max (2 * size) (unread + room)

/-- What `expand_if_need` leaves. -/
structure BufferExpanded (b : Buffer) (size : UInt64) (granted : Bool) (ending : Ending) (b' : Buffer) :
    Prop where
  length_le : b'.bytes.length ≤ maxSize
  readable : b'.readable = b.readable
  room : ending = .returned → b.readableSize + size.toNat < 2 ^ 64 → size.toNat ≤ b'.writableSize
  returned : ending = .returned ∨ RaiseExcused b.bytes.length b.readable.length size.toNat granted

/-- Whatever size is asked for, also one whose sum with the position wraps around. -/
theorem raw_expandIfNeed {b : Buffer} (hb : b.bytes.length ≤ maxSize) (size : UInt64)
    (granted : Bool) : ∃ ending b', b.raw.expandIfNeed size granted = some (ending, b'.raw) ∧
      BufferExpanded b size granted ending b' := by
  have hb' : b.normalize.bytes.length ≤ maxSize := by
    rw [b.length_normalize]
    exact hb
  unfold RawBuffer.expandIfNeed
  by_cases hroom : b.raw.writableSize < size
  · rw [if_pos hroom, Buffer.raw_normalize hb]
    show ∃ ending b', (if b.normalize.raw.writableSize < size then _ else _) = _ ∧ _
    by_cases hroom' : b.normalize.raw.writableSize < size
    · rw [if_pos hroom']
      have hwanted := wanted_toNat hb' size
      have hle : b.normalize.bytes.length ≤
          (max (2 * b.normalize.raw.size) (b.normalize.raw.writePos + size)).toNat := by
        rw [hwanted]
        omega
      rw [b.length_normalize, b.writePos_normalize] at hwanted
      rcases Buffer.raw_resize hb' granted hle with ⟨hgrow, hmax⟩ | ⟨ending, hne, hsame, hwhy⟩
      · refine ⟨.returned, _, congrArg some hgrow, ?_, ?_, ?_, .inl rfl⟩
        · rw [Buffer.grow, List.length_append, List.length_replicate]
          omega
        · rw [Buffer.readable_grow, Buffer.readable_normalize]
        · intro _ hsum
          rw [Nat.mod_eq_of_lt hsum] at hwanted
          rw [Buffer.writableSize, Buffer.grow, List.length_append, List.length_replicate,
            b.writePos_normalize]
          omega
      · refine ⟨ending, _, congrArg some hsame, hb', b.readable_normalize, ?_, .inr ?_⟩
        · intro h
          exact absurd h hne
        · -- the wrapped sum is no greater than the sum
          rw [hwanted] at hwhy
          have hmod := Nat.mod_le (b.readableSize + size.toNat) (2 ^ 64)
          unfold RaiseExcused
          rw [b.length_readable]
          exact hwhy.imp_right fun h => h.trans_le (max_le_max_left _ hmod)
    · rw [if_neg hroom']
      refine ⟨.returned, _, rfl, hb', b.readable_normalize, ?_, .inl rfl⟩
      intro _ _
      rw [UInt64.lt_iff_toNat_lt, Buffer.raw_writableSize hb', Nat.not_lt] at hroom'
      exact hroom'
  · rw [if_neg hroom]
    refine ⟨.returned, b, rfl, hb, rfl, ?_, .inl rfl⟩
    intro _ _
    rw [UInt64.lt_iff_toNat_lt, Buffer.raw_writableSize hb, Nat.not_lt] at hroom
    exact hroom

/-- What `write` leaves. -/
structure BufferWritten (b : Buffer) (data : Chunk) (granted : Bool) (ending : Ending) (b' : Buffer) :
    Prop where
  length_le : b'.bytes.length ≤ maxSize
  readable : b'.readable = if ending = .returned then b.readable ++ data.bytes else b.readable
  returned : ending = .returned ∨
      RaiseExcused b.bytes.length b.readable.length data.bytes.length granted

theorem Chunk.size_toNat (data : Chunk) : data.size.toNat = data.bytes.length :=
  Buffer.toNat_ofNat_of_le data.length_le

/-- The copy stays in the vector, and the position after it too. -/
theorem raw_copy {b : Buffer} (hb : b.bytes.length ≤ maxSize) (data : Chunk)
    (h : data.bytes.length ≤ b.writableSize) :
    memcpy b.raw.bytes b.raw.writePos.toNat data.bytes = some (b.copy data.bytes h).bytes ∧
      { b.raw with bytes := (b.copy data.bytes h).bytes }.moveWritePos data.size =
        some (b.copy data.bytes h).raw := by
  have hwrite := b.writePos_le
  have hfits : b.writePos + data.bytes.length ≤ b.bytes.length := by
    unfold Buffer.writableSize at h
    omega
  have hlength : (b.copy data.bytes h).bytes.length = b.bytes.length := by
    rw [Buffer.copy, List.length_append, List.length_append, List.length_take, List.length_drop]
    omega
  constructor
  · rw [memcpy, Buffer.raw_writePos hb]
    exact if_pos hfits
  · have hsize : { b.raw with bytes := (b.copy data.bytes h).bytes }.size = b.raw.size := by
      rw [RawBuffer.size, RawBuffer.size, hlength]
      rfl
    have hle : data.size ≤
        { b.raw with bytes := (b.copy data.bytes h).bytes }.writableSize := by
      rw [RawBuffer.writableSize, hsize, UInt64.le_iff_toNat_le, data.size_toNat]
      exact h.trans_eq (Buffer.raw_writableSize hb).symm
    rw [RawBuffer.moveWritePos, if_pos hle]
    simp only [Buffer.raw, Buffer.copy, Chunk.size, UInt64.ofNat_add]

theorem raw_write {b : Buffer} (hb : b.bytes.length ≤ maxSize) (data : Chunk) (granted : Bool) :
    ∃ ending b', b.raw.write data granted = some (ending, b'.raw) ∧
      BufferWritten b data granted ending b' := by
  have hzero : data.size = 0 ↔ data.bytes.length = 0 := by
    rw [← UInt64.toNat_inj, data.size_toNat]
    rfl
  unfold RawBuffer.write
  by_cases hempty : data.size = 0
  · refine ⟨.returned, b, if_pos hempty, hb, ?_, .inl rfl⟩
    rw [if_pos rfl, List.length_eq_zero_iff.mp (hzero.mp hempty), List.append_nil]
  · rw [if_neg hempty]
    rcases raw_expandIfNeed hb data.size granted with ⟨ending, b', hcall, hexpanded⟩
    rw [hcall]
    by_cases hreturned : ending = .returned
    · -- no sum wraps around: the bytes and the vector are both arrays
      have hsum : b.readableSize + data.size.toNat < 2 ^ 64 := by
        have hread := b.writePos_le
        have hdata := data.length_le
        rw [data.size_toNat]
        unfold maxSize at hb hdata
        unfold Buffer.readableSize
        omega
      have hroom := hexpanded.room hreturned hsum
      rw [data.size_toNat] at hroom
      rcases raw_copy hexpanded.length_le data hroom with ⟨hcopy, hmove⟩
      subst hreturned
      refine ⟨.returned, b'.copy data.bytes hroom, ?_, ?_, ?_, .inl rfl⟩
      · simp only [hcopy, hmove, Option.bind_eq_bind, Option.bind_some, pure]
      · rw [Buffer.copy, List.length_append, List.length_append, List.length_take,
          List.length_drop]
        have hlength := hexpanded.length_le
        unfold Buffer.writableSize at hroom
        omega
      · rw [if_pos rfl, Buffer.readable_copy, hexpanded.readable]
    · refine ⟨ending, b', ?_, hexpanded.length_le, ?_, ?_⟩
      · cases ending with
        | returned => exact absurd rfl hreturned
        | lengthError => rfl
        | badAlloc => rfl
      · rw [if_neg hreturned]
        exact hexpanded.readable
      · have hwhy := hexpanded.returned
        rw [data.size_toNat] at hwhy
        exact hwhy

/-! ## Every run -/

/-- The buffer is one that keeps its positions in order, and what is unread is what
has been written after the part that is consumed. -/
structure HoldsQueue (s : RawBuffer × Traffic) (b : Buffer) : Prop where
  raw : s.1 = b.raw
  length_le : b.bytes.length ≤ maxSize
  readable : b.readable = s.2.written.drop s.2.consumed
  consumed_le : s.2.consumed ≤ s.2.written.length

/-- A call that is allowed does not leave the vector, and the queue goes on. -/
theorem HoldsQueue.call {s : RawBuffer × Traffic} {b : Buffer} (h : HoldsQueue s b) {call : BufferCall}
    (hallowed : call.Allowed s.1) :
    ∃ ending b', s.1.call call = some (ending, b'.raw) ∧
      (ending = .returned ∨
        RaiseExcused b.bytes.length b.readable.length call.room call.granted) ∧
      HoldsQueue (b'.raw, s.2.after call ending) b' := by
  rcases h with ⟨hraw, hb, hreadable, hconsumed⟩
  rw [hraw] at hallowed ⊢
  cases call with
  | write data granted =>
    rcases raw_write hb data granted with ⟨ending, b', hcall, hwritten⟩
    refine ⟨ending, b', hcall, hwritten.returned, ?_⟩
    have hafter := hwritten.readable
    by_cases hreturned : ending = .returned
    · subst hreturned
      rw [if_pos rfl, hreadable, ← List.drop_append_of_le_length hconsumed] at hafter
      refine ⟨rfl, hwritten.length_le, hafter, ?_⟩
      show s.2.consumed ≤ (s.2.written ++ data.bytes).length
      rw [List.length_append]
      exact Nat.le_add_right_of_le hconsumed
    · -- what raises has written nothing
      rw [if_neg hreturned] at hafter
      have hsame : s.2.after (.write data granted) ending = s.2 := by
        cases ending with
        | returned => exact absurd rfl hreturned
        | lengthError => rfl
        | badAlloc => rfl
      rw [hsame]
      exact ⟨rfl, hwritten.length_le, hafter.trans hreadable, hconsumed⟩
  | expandIfNeed size granted =>
    rcases raw_expandIfNeed hb size granted with ⟨ending, b', hcall, hexpanded⟩
    exact ⟨ending, b', hcall, hexpanded.returned, rfl, hexpanded.length_le,
      hexpanded.readable.trans hreadable, hconsumed⟩
  | normalize =>
    refine ⟨.returned, b.normalize, ?_, .inl rfl, rfl, ?_, ?_, hconsumed⟩
    · exact congrArg (Option.map _) (Buffer.raw_normalize hb)
    · rw [b.length_normalize]
      exact hb
    · exact b.readable_normalize.trans hreadable
  | moveReadPos size =>
    have hsize : size.toNat ≤ b.readableSize := by
      rw [← Buffer.raw_readableSize hb]
      exact UInt64.le_iff_toNat_le.mp hallowed
    refine ⟨.returned, b.moveReadPos size.toNat hsize, ?_, .inl rfl, rfl, hb, ?_, ?_⟩
    · exact congrArg (Option.map _) (Buffer.raw_moveReadPos hb hsize)
    · rw [Buffer.readable_moveReadPos, hreadable, List.drop_drop]
      rfl
    · -- no more is consumed than is left of what has been written
      rw [← b.length_readable, hreadable, List.length_drop] at hsize
      show s.2.consumed + size.toNat ≤ s.2.written.length
      omega
  | reset =>
    refine ⟨.returned, b.reset, rfl, .inl rfl, rfl, hb, ?_, Nat.le_refl _⟩
    show b.reset.readable = s.2.written.drop s.2.written.length
    rw [List.drop_length]
    rfl

theorem holdsQueue_of_init {s : RawBuffer × Traffic} (h : bufferSystem.Init s) :
    ∃ b, HoldsQueue s b := by
  rcases h with ⟨⟨size, granted, hsize⟩, htraffic⟩
  unfold RawBuffer.construct at hsize
  cases hvector : resizeVector [] size granted with
  | error e =>
    rw [hvector] at hsize
    cases hsize
  | ok bytes =>
    rw [hvector] at hsize
    have hraw : s.1 = (Buffer.empty bytes).raw := (Except.ok.inj hsize).symm
    refine ⟨Buffer.empty bytes, hraw, length_le_of_resizeVector (Nat.zero_le _) hvector, ?_, ?_⟩
    · rw [htraffic]
      rfl
    · rw [htraffic]
      exact Nat.le_refl 0

/-- From any initial size and after any calls, the positions are in order within the
vector, what is unread is what has been written after the part that is consumed, and the
next call stays within the vector. -/
theorem buffer_byte_queue {s : RawBuffer × Traffic} (h : Reachable bufferSystem s) :
    (s.1.readPos ≤ s.1.writePos ∧ s.1.writePos.toNat ≤ s.1.bytes.length) ∧
      (s.1.readable = s.2.written.drop s.2.consumed ∧ s.2.consumed ≤ s.2.written.length) ∧
      ∀ call : BufferCall, call.Allowed s.1 → ∃ ending b, s.1.call call = some (ending, b) ∧
        (ending = .returned ∨
          RaiseExcused s.1.bytes.length s.1.readable.length call.room call.granted) := by
  have hholding : ∃ b, HoldsQueue s b := by
    refine Reachable.invariant (I := fun s => ∃ b, HoldsQueue s b) ?_ ?_ h
    · intro s
      exact holdsQueue_of_init
    · intro s call s' _ hs hstep
      rcases hs with ⟨b, hb⟩
      rcases hstep with ⟨hallowed, ending, hcall, htraffic⟩
      rcases hb.call hallowed with ⟨ending', b', hcall', _, hb'⟩
      rw [hcall, Option.some.injEq, Prod.mk.injEq] at hcall'
      rcases hcall' with ⟨rfl, hraw⟩
      rw [← hraw, ← htraffic] at hb'
      exact ⟨b', hb'⟩
  rcases hholding with ⟨b, hb⟩
  have hlength := hb.length_le
  refine ⟨?_, ?_, ?_⟩
  · rw [hb.raw, Buffer.raw_writePos hlength]
    exact ⟨Buffer.raw_readPos_le hlength, b.writePos_le⟩
  · rw [hb.raw, Buffer.raw_readable hlength]
    exact ⟨hb.readable, hb.consumed_le⟩
  · intro call hallowed
    rcases hb.call hallowed with ⟨ending, b', hcall, hreturned, _⟩
    refine ⟨ending, b'.raw, hcall, ?_⟩
    rw [hb.raw, Buffer.raw_readable hlength]
    exact hreturned

/-- A buffer of no bytes at first: a write, two bytes taken off, and a write of more
than twice the size. -/
theorem buffer_byte_queue_of_empty :
    ({ bytes := ascii "CDEFGHIJK", readPos := 0, writePos := 9 } : RawBuffer).readable =
      (ascii "ABCDEFGHIJK").drop 2 := by
  have hreach : Reachable bufferSystem
      (({ bytes := ascii "CDEFGHIJK", readPos := 0, writePos := 9 } : RawBuffer),
        (⟨ascii "ABCDEFGHIJK", 2⟩ : Traffic)) := by
    have h0 : Reachable bufferSystem ((⟨[], 0, 0⟩ : RawBuffer), (⟨[], 0⟩ : Traffic)) :=
      .init ⟨⟨0, true, rfl⟩, rfl⟩
    have h1 : Reachable bufferSystem
        ((⟨ascii "ABC", 0, 3⟩ : RawBuffer), (⟨ascii "ABC", 0⟩ : Traffic)) := by
      apply h0.step (e := .write ⟨ascii "ABC", by decide +kernel⟩ true)
      refine ⟨trivial, .returned, ?_, rfl⟩
      decide +kernel
    have h2 : Reachable bufferSystem
        ((⟨ascii "ABC", 2, 3⟩ : RawBuffer), (⟨ascii "ABC", 2⟩ : Traffic)) := by
      apply h1.step (e := .moveReadPos 2)
      refine ⟨?_, .returned, ?_, rfl⟩
      · show (2 : UInt64) ≤ 3 - 0
        decide
      · decide +kernel
    apply h2.step (e := .write ⟨ascii "DEFGHIJK", by decide +kernel⟩ true)
    refine ⟨trivial, .returned, ?_, rfl⟩
    decide +kernel
  exact (buffer_byte_queue hreach).2.1.1

end CCMeeting
