import CCMeeting.Lib.Bytes

/-! # Packets

`protocol::MessageType`, `protocol::Packet` and the wire names of the types.
The layout of a payload is binary and big-endian; the fields are read and
written with `ByteString.ofBe` and `ByteString.toBe`.
-/

namespace CCMeeting

open ByteString

/-- `protocol::MessageType`. -/
inductive MessageType where
  | imgSend
  | imgRecv
  | audioSend
  | audioRecv
  | textSend
  | textRecv
  | createMeeting
  | exitMeeting
  | joinMeeting
  | closeCamera
  | roomSettings
  | createMeetingResponse
  | partnerExit
  | partnerJoin
  | joinMeetingResponse
  | partnerJoin2
  | userProfile
  | roomSettingsNotify
deriving DecidableEq, Repr

namespace MessageType

/-- `Codec::type_name`: the `t` member of a frame. -/
def typeName : MessageType → ByteString
  | imgSend => ascii "img_send"
  | imgRecv => ascii "img_recv"
  | audioSend => ascii "audio_send"
  | audioRecv => ascii "audio_recv"
  | textSend => ascii "text_send"
  | textRecv => ascii "text_recv"
  | createMeeting => ascii "create_meeting"
  | exitMeeting => ascii "exit_meeting"
  | joinMeeting => ascii "join_meeting"
  | closeCamera => ascii "close_camera"
  | roomSettings => ascii "room_settings"
  | createMeetingResponse => ascii "create_meeting_response"
  | partnerExit => ascii "partner_exit"
  | partnerJoin => ascii "partner_join"
  | joinMeetingResponse => ascii "join_meeting_response"
  | partnerJoin2 => ascii "partner_join2"
  | userProfile => ascii "user_profile"
  | roomSettingsNotify => ascii "room_settings_notify"

/-- `kAll` of `Codec::type_from_name`. -/
def kAll : List MessageType :=
  [imgSend, imgRecv, audioSend, audioRecv, textSend, textRecv, createMeeting, exitMeeting,
    joinMeeting, closeCamera, roomSettings, createMeetingResponse, partnerExit, partnerJoin,
    joinMeetingResponse, partnerJoin2, userProfile, roomSettingsNotify]

/-- `Codec::type_from_name`: the first type of `kAll` with the name. -/
def typeFromName (name : ByteString) : Option MessageType :=
  kAll.find? (fun type => name = type.typeName)

/-- Every type is found under its own name. -/
theorem typeFromName_typeName (type : MessageType) : typeFromName type.typeName = some type := by
  cases type <;> decide

/-- `Codec::is_text_type`: the types carried in the plain `s` member. -/
def isTextType (type : MessageType) : Bool := type = textSend || type = textRecv

end MessageType

/-- `protocol::Packet`. -/
structure Packet where
  type : MessageType
  userId : UInt64 := 0
  payload : ByteString := []
deriving DecidableEq, Repr

/-! ## Payload integers -/

/-- `read_be64` of `room.cpp`: the first eight bytes. -/
def readBe64 (data : ByteString) : UInt64 := UInt64.ofNat (ofBe (data.take 8))

/-- `write_be64` of `room.cpp`. -/
def writeBe64 (value : UInt64) : ByteString := toBe 8 value.toNat

/-- `memcpy` of four bytes and `ntohl`. -/
def readBe32 (data : ByteString) : UInt32 := UInt32.ofNat (ofBe (data.take 4))

/-- `htonl` and `memcpy` of four bytes. -/
def writeBe32 (value : UInt32) : ByteString := toBe 4 value.toNat

/-- `memcpy` of two bytes and `ntohs`. -/
def readBe16 (data : ByteString) : ℕ := ofBe (data.take 2)

/-- `static_cast<uint16_t>`, `htons` and `memcpy` of two bytes. -/
def writeBe16 (value : ℕ) : ByteString := toBe 2 value

@[simp] theorem length_writeBe64 (v : UInt64) : (writeBe64 v).length = 8 := by simp [writeBe64]

@[simp] theorem length_writeBe32 (v : UInt32) : (writeBe32 v).length = 4 := by simp [writeBe32]

@[simp] theorem length_writeBe16 (v : ℕ) : (writeBe16 v).length = 2 := by simp [writeBe16]

@[simp] theorem readBe64_writeBe64 (v : UInt64) (rest : ByteString) :
    readBe64 (writeBe64 v ++ rest) = v := by
  have htake : (writeBe64 v ++ rest).take 8 = writeBe64 v := by
    rw [← length_writeBe64 v, List.take_left]
  have hv : v.toNat % 256 ^ 8 = v.toNat := Nat.mod_eq_of_lt v.toNat_lt
  rw [readBe64, htake, writeBe64, ofBe_toBe, hv, UInt64.ofNat_toNat]

@[simp] theorem readBe32_writeBe32 (v : UInt32) (rest : ByteString) :
    readBe32 (writeBe32 v ++ rest) = v := by
  have htake : (writeBe32 v ++ rest).take 4 = writeBe32 v := by
    rw [← length_writeBe32 v, List.take_left]
  have hv : v.toNat % 256 ^ 4 = v.toNat := Nat.mod_eq_of_lt v.toNat_lt
  rw [readBe32, htake, writeBe32, ofBe_toBe, hv, UInt32.ofNat_toNat]

/-- A four-byte integer with nothing after it. -/
theorem readBe32_writeBe32_self (v : UInt32) : readBe32 (writeBe32 v) = v := by
  have hread := readBe32_writeBe32 v []
  rwa [List.append_nil] at hread

/-- Switches that are there are read. -/
theorem readBe32_of_length (v settings : UInt32) :
    (if 4 ≤ (writeBe32 v).length then readBe32 (writeBe32 v) else settings) = v := by
  rw [length_writeBe32, if_pos (Nat.le_refl 4), readBe32_writeBe32_self]

/-- The big-endian integers of a `PartnerJoin2` payload; a tail of less than
eight bytes is not read. -/
def readBe64List (data : ByteString) : List UInt64 :=
  (List.range (data.length / 8)).map fun i => readBe64 (data.drop (8 * i))

theorem readBe64List_flatMap (ids : List UInt64) : readBe64List (ids.flatMap writeBe64) = ids := by
  induction ids with
  | nil => rfl
  | cons id ids ih =>
    have hlength : (writeBe64 id ++ ids.flatMap writeBe64).length / 8 =
        (ids.flatMap writeBe64).length / 8 + 1 := by
      rw [List.length_append, length_writeBe64]
      omega
    have hdrop : ∀ i, (writeBe64 id ++ ids.flatMap writeBe64).drop (8 * (i + 1)) =
        (ids.flatMap writeBe64).drop (8 * i) := by
      intro i
      rw [Nat.mul_succ, Nat.add_comm, ← List.drop_drop,
        List.drop_left' (length_writeBe64 id)]
    have htail : (List.range ((ids.flatMap writeBe64).length / 8)).map
        ((fun i => readBe64 ((writeBe64 id ++ ids.flatMap writeBe64).drop (8 * i))) ∘ Nat.succ) =
          readBe64List (ids.flatMap writeBe64) := by
      refine List.map_congr_left fun i _ => ?_
      show readBe64 ((writeBe64 id ++ ids.flatMap writeBe64).drop (8 * (i + 1))) = _
      rw [hdrop]
    rw [List.flatMap_cons, readBe64List, hlength, List.range_succ_eq_map, List.map_cons,
      List.map_map, htail, ih]
    simp

theorem readBe64List_map {α : Type} (f : α → UInt64) (xs : List α) :
    readBe64List (xs.flatMap fun x => writeBe64 (f x)) = xs.map f := by
  rw [← readBe64List_flatMap (xs.map f), List.flatMap_map]

theorem readBe16_writeBe16 {v : ℕ} (h : v < 65536) (rest : ByteString) :
    readBe16 (writeBe16 v ++ rest) = v := by
  have htake : (writeBe16 v ++ rest).take 2 = writeBe16 v := by
    rw [← length_writeBe16 v, List.take_left]
  rw [readBe16, htake, writeBe16, ofBe_toBe]
  exact Nat.mod_eq_of_lt h

theorem readBe16_lt (data : ByteString) : readBe16 data < 65536 := by
  have hlength : (data.take 2).length ≤ 2 := List.length_take_le 2 data
  calc readBe16 data < 256 ^ (data.take 2).length := ofBe_lt _
    _ ≤ 256 ^ 2 := Nat.pow_le_pow_right (by decide) hlength

/-! ## Room switches -/

/-- `kRoomSettingsAllowRecord`. -/
def kRoomSettingsAllowRecord : UInt32 := (1 : UInt32) <<< 0

/-- `kRoomSettingsAllowMemberShare`. -/
def kRoomSettingsAllowMemberShare : UInt32 := (1 : UInt32) <<< 1

/-- `kRoomSettingsDefault`: recording and member sharing are both allowed. -/
def kRoomSettingsDefault : UInt32 := kRoomSettingsAllowRecord ||| kRoomSettingsAllowMemberShare

end CCMeeting
