import Mathlib.Data.List.TakeWhile
import CCMeeting.Client.Frames
import CCMeeting.Client.Reference
import CCMeeting.Server.Texts

/-! # The two codecs agree

Every message shape of the client arrives at the server, and every packet of
the server at the client, with the fields it was sent with.
-/

namespace CCMeeting

open ByteString State

/-! ## Payloads -/

/-- The fields of a profile are found where they were put. -/
theorem profile_fields (payload : ByteString) {name avatar : ByteString} {userId : UInt64}
    (hpayload : payload = writeBe64 userId ++ writeBe16 name.length ++ name ++
      writeBe16 avatar.length ++ avatar)
    (hname : name.length < 65536) (havatar : avatar.length < 65536) :
    payload.length = 12 + name.length + avatar.length ∧ readBe64 payload = userId ∧
      readBe16 (payload.drop 8) = name.length ∧ (payload.drop 10).take name.length = name ∧
      readBe16 (payload.drop (10 + name.length)) = avatar.length ∧
      (payload.drop (10 + name.length + 2)).take avatar.length = avatar := by
  -- the offsets are those of the decoder: 8 for the id, 2 for each length
  have h8 : payload.drop 8 = writeBe16 name.length ++ (name ++ (writeBe16 avatar.length ++
      avatar)) := by
    rw [hpayload]
    simp only [List.append_assoc]
    exact List.drop_left' (length_writeBe64 userId)
  have h10 : payload.drop 10 = name ++ (writeBe16 avatar.length ++ avatar) := by
    have : payload.drop 10 = (payload.drop 8).drop 2 := by rw [List.drop_drop]
    rw [this, h8]
    exact List.drop_left' (length_writeBe16 _)
  have hlen : payload.drop (10 + name.length) = writeBe16 avatar.length ++ avatar := by
    rw [← List.drop_drop, h10, List.drop_left]
  have htail : payload.drop (10 + name.length + 2) = avatar := by
    rw [← List.drop_drop, hlen]
    exact List.drop_left' (length_writeBe16 _)
  refine ⟨?_, ?_, ?_, ?_, ?_, ?_⟩
  · rw [hpayload]
    simp only [List.length_append, length_writeBe64, length_writeBe16]
    omega
  · rw [hpayload]
    simp only [List.append_assoc, readBe64_writeBe64]
  · rw [h8, readBe16_writeBe16 hname]
  · rw [h10, List.take_left]
  · rw [hlen, readBe16_writeBe16 havatar]
  · rw [htail, List.take_length]

/-- The server writes the fields of a client's profile over the participant. -/
theorem applyProfile_encode (p : Participant) {userId : Int64} {name avatar : ByteString}
    (hname : name.length < 65536) (havatar : avatar.length < 65536) :
    p.applyProfile (encodeUserProfilePayload userId name avatar) =
      { p with userId := userId.toUInt64, displayName := name, avatarUrl := avatar } := by
  rcases profile_fields (encodeUserProfilePayload userId name avatar) rfl hname havatar
    with ⟨hlength, hid, hn, htake, ha, hrest⟩
  unfold Participant.applyProfile
  rw [if_pos (by omega)]
  simp only [hn]
  rw [if_pos (by omega)]
  simp only [ha, hid, htake, hrest]
  rw [if_pos (by omega)]

theorem cString_eq {text : ByteString} (h : (0 : UInt8) ∉ text) : cString text = text := by
  unfold cString
  rw [List.takeWhile_eq_self_iff]
  intro b hb
  have hne : b ≠ 0 := by
    rintro rfl
    exact h hb
  simpa using hne

/-- The client reads the fields of a profile of the server. -/
theorem decodeUserProfile_make (qt : Qt) {p : Participant} {senderUserId : Int64}
    (hsender : senderUserId ≠ 0) (hname : p.displayName.length < 65536)
    (havatar : p.avatarUrl.length < 65536) :
    decodeUserProfile qt (makeUserProfilePacket p).payload senderUserId =
      some (.userProfileNotify senderUserId (cString (qt.utf8 p.displayName))
        (cString (qt.utf8 p.avatarUrl))) := by
  rcases profile_fields (makeUserProfilePacket p).payload rfl hname havatar
    with ⟨hlength, _, hn, htake, ha, hrest⟩
  unfold decodeUserProfile
  rw [if_neg (by omega)]
  simp only [hn]
  rw [if_neg (by omega)]
  simp only [ha, htake, hrest]
  rw [if_neg (by omega), if_pos hsender]

/-! ## The agreement -/

/-- The server decodes the frame of a message to a packet. -/
def Delivers (platform : Platform) (qt : Qt) (msg : Message) (userId : Int64)
    (packet : Packet) : Prop :=
  ∀ rest, tryDecode platform (framed (encodeWireFrame qt msg userId) ++ rest) =
    .ok (.ok packet rest)

/-- The client decodes the frame of a packet to a message. -/
def Announces (platform : Platform) (qt : Qt) (packet : Packet) (msg : Message) : Prop :=
  ∃ text, encode platform packet = .ok text ∧ decodeJsonFrame qt text = some msg

/-- The user ids of the agreement, on both sides. -/
def IsWireId (userId : Int64) : Prop := 0 < userId.toInt ∧ userId.toInt < 2 ^ 53

/-- Every message shape, up and down, arrives with exactly the fields it was
sent with. -/
structure WireAgreement (platform : Platform) (qt : Qt) : Prop where
  createMeeting : ∀ {userId}, IsWireId userId → ∀ maxParticipants durationMinutes,
    ∃ packet, Delivers platform qt (.createMeeting maxParticipants durationMinutes) userId packet ∧
      packet.type = .createMeeting ∧ packet.userId = userId.toUInt64 ∧
      8 ≤ packet.payload.length ∧ readBe32 packet.payload = maxParticipants ∧
      readBe32 (packet.payload.drop 4) = durationMinutes ∧
      ∀ config, parseCreateMeetingOptions packet config =
        ⟨(clamp maxParticipants kMinParticipants
            (UInt32.ofNat config.maxParticipantsPerRoom)).toNat,
          clamp durationMinutes kMinDurationMinutes kMaxDurationMinutes⟩
  joinMeeting : ∀ {userId}, IsWireId userId → ∀ roomNo : UInt32,
    ∃ packet, Delivers platform qt (.joinMeeting (JsonText.decimal roomNo.toNat)) userId packet ∧
      packet.type = .joinMeeting ∧ packet.userId = userId.toUInt64 ∧
      4 ≤ packet.payload.length ∧ readBe32 packet.payload = roomNo
  roomSettings : ∀ {userId}, IsWireId userId → ∀ flags,
    ∃ packet, Delivers platform qt (.roomSettings flags) userId packet ∧
      packet.type = .roomSettings ∧ packet.userId = userId.toUInt64 ∧
      ∀ settings, requestedSettings packet settings = flags
  closeCamera : ∀ {userId}, IsWireId userId →
    ∃ packet, Delivers platform qt .closeCamera userId packet ∧
      packet.type = .closeCamera ∧ packet.userId = userId.toUInt64
  /-- the length of the frame fits the four bytes it is stored in, and that of
  the text the `int` it is cast to -/
  sendText : ∀ {userId}, IsWireId userId → ∀ {text}, Utf8.Plain text → text.length < 2 ^ 31 →
    (encodeWireFrame qt (.sendText text) userId).length < 2 ^ 32 →
    ∃ packet, Delivers platform qt (.sendText text) userId packet ∧
      packet.type = .textSend ∧ packet.userId = userId.toUInt64 ∧ packet.payload = text
  sendUserProfile : ∀ {userId}, IsWireId userId → ∀ {name avatar : ByteString},
    name.length < 2 ^ 16 → avatar.length < 2 ^ 16 →
    ∃ packet, Delivers platform qt (.sendUserProfile userId name avatar) userId packet ∧
      packet.type = .userProfile ∧ packet.userId = userId.toUInt64 ∧
      ∀ p : Participant, p.applyProfile packet.payload =
        { p with userId := userId.toUInt64, displayName := name, avatarUrl := avatar }
  createMeetingResponse : ∀ roomNo, Announces platform qt
    (response .createMeetingResponse roomNo).packet (.createMeetingResponse roomNo)
  joinMeetingResponse : ∀ code : UInt32, Announces platform qt
    (response .joinMeetingResponse code).packet (.joinMeetingResponse code.toInt32)
  partnerJoin : ∀ {p : Participant}, IsWireId p.userId.toInt64 →
    Announces platform qt (joinNotice p).packet (.partnerJoin p.userId.toInt64)
  partnerExit : ∀ {p : Participant}, IsWireId p.userId.toInt64 →
    Announces platform qt (exitNotice p).packet (.partnerExit p.userId.toInt64)
  partnerJoin2 : ∀ ps : List Participant, Announces platform qt (partnerList ps).packet
    (.partnerJoin2 (ps.map fun p => p.userId.toInt64))
  textRecv : ∀ {p : Participant}, IsWireId p.userId.toInt64 → ∀ {text}, Utf8.Valid text →
    Announces platform qt (textNotice p text).packet (.recvText p.userId.toInt64 text)
  closeCameraNotify : ∀ {p : Participant}, IsWireId p.userId.toInt64 →
    Announces platform qt { type := .closeCamera, userId := p.userId }
      (.closeCameraNotify p.userId.toInt64)
  /-- for a newcomer without a user id, after a change with the owner's -/
  roomSettingsNotify : ∀ {userId : UInt64}, userId = 0 ∨ IsWireId userId.toInt64 → ∀ flags,
    Announces platform qt { makeRoomSettingsPacket flags with userId } (.roomSettingsNotify flags)
  userProfile : ∀ {p : Participant}, IsWireId p.userId.toInt64 →
    p.displayName.length < 2 ^ 16 → p.avatarUrl.length < 2 ^ 16 →
    (0 : UInt8) ∉ p.displayName → (0 : UInt8) ∉ p.avatarUrl →
    Utf8.Plain p.displayName → Utf8.Plain p.avatarUrl →
    Announces platform qt (makeUserProfilePacket p)
      (.userProfileNotify p.userId.toInt64 p.displayName p.avatarUrl)

section Agreement

variable {platform : Platform} {qt : Qt}

/-- A signed id in range, as a natural number. -/
theorem IsWireId.ofNat {userId : Int64} (h : IsWireId userId) :
    userId = Int64.ofNat userId.toInt.toNat ∧ userId.toInt.toNat < 2 ^ 53 ∧
      UInt64.ofNat userId.toInt.toNat = userId.toUInt64 := by
  rcases h with ⟨hpos, hlt⟩
  have heq : userId = Int64.ofNat userId.toInt.toNat := by
    rw [← Int64.ofInt_eq_ofNat, Int.toNat_of_nonneg (by omega), Int64.ofInt_toInt]
  refine ⟨heq, by omega, ?_⟩
  conv_rhs => rw [heq]
  rfl

/-- What the server makes of a message of the client. -/
theorem delivers_of_message (interop : Interop platform qt) {userId : Int64}
    (hid : IsWireId userId) {msg : Message} {type : MessageType}
    (htype : MessageType.typeFromName msg.toWireType.typeName = some type)
    (hlength : (encodeWireFrame qt msg userId).length < 2 ^ 32) :
    Delivers platform qt msg userId
      { type, userId := userId.toUInt64, payload := msg.content qt } := by
  rcases hid.ofNat with ⟨heq, hn, hcast⟩
  have hlength' : (encodeWireFrame qt msg (Int64.ofNat userId.toInt.toNat)).length < 2 ^ 32 := by
    rw [← heq]
    exact hlength
  intro rest
  have hdecode := tryDecode_of_message interop htype hn hlength' rest
  rwa [hcast, ← heq] at hdecode

/-- Messages with a binary payload fit a frame. -/
theorem delivers_of_payload (interop : Interop platform qt) {userId : Int64}
    (hid : IsWireId userId) {msg : Message} {type : MessageType}
    (htype : MessageType.typeFromName msg.toWireType.typeName = some type)
    (hbinary : msg.isText = false) (hpayload : msg.payload.length < 2 ^ 28) :
    Delivers platform qt msg userId
      { type, userId := userId.toUInt64, payload := msg.content qt } := by
  rcases hid.ofNat with ⟨heq, hn, _⟩
  apply delivers_of_message interop hid htype
  rw [heq]
  exact encodeWireFrame_length hn hbinary hpayload

/-- What the client makes of a packet of the server. -/
theorem announces_of_packet (interop : Interop platform qt) {packet : Packet} {msg : Message}
    (hid : packet.userId = 0 ∨ IsWireId packet.userId.toInt64)
    (htext : packet.type.isTextType = true → Utf8.Valid packet.payload)
    (hmsg : MessageCodec.decodePayload qt packet.payload packet.userId.toInt64
      packet.type.received = some msg) : Announces platform qt packet msg := by
  have hexact : Exact packet.userId ∧
      Int64.ofNat packet.userId.toNat = packet.userId.toInt64 := by
    rcases hid with hzero | hid
    · rw [hzero]
      decide
    · rcases hid.ofNat with ⟨heq, hn, hcast⟩
      have huser : UInt64.ofNat packet.userId.toInt64.toInt.toNat = packet.userId := by
        rw [hcast]
        rfl
      constructor
      · rw [← huser]
        exact exact_ofNat hn
      · rw [← UInt64.toInt64_ofNat', UInt64.ofNat_toNat]
  rcases decodeJsonFrame_of_packet interop hexact.1 htext with ⟨text, hencode, hdecode⟩
  rw [hexact.2] at hdecode
  exact ⟨text, hencode, hdecode.trans hmsg⟩

/-- Up: what the server reads from the messages of the client. -/
theorem createMeeting_up (interop : Interop platform qt) {userId : Int64} (hid : IsWireId userId)
    (maxParticipants durationMinutes : UInt32) :
    ∃ packet, Delivers platform qt (.createMeeting maxParticipants durationMinutes) userId packet ∧
      packet.type = .createMeeting ∧ packet.userId = userId.toUInt64 ∧
      8 ≤ packet.payload.length ∧ readBe32 packet.payload = maxParticipants ∧
      readBe32 (packet.payload.drop 4) = durationMinutes ∧
      ∀ config, parseCreateMeetingOptions packet config =
        ⟨(clamp maxParticipants kMinParticipants
            (UInt32.ofNat config.maxParticipantsPerRoom)).toNat,
          clamp durationMinutes kMinDurationMinutes kMaxDurationMinutes⟩ := by
  have hlength : (writeBe32 maxParticipants ++ writeBe32 durationMinutes).length = 8 := by simp
  have hdrop : readBe32 ((writeBe32 maxParticipants ++ writeBe32 durationMinutes).drop 4) =
      durationMinutes := by
    rw [List.drop_left' (length_writeBe32 _), readBe32_writeBe32_self]
  refine ⟨_,
    delivers_of_payload interop hid (MessageType.typeFromName_typeName .createMeeting) rfl ?_,
    rfl, rfl, ?_, ?_, hdrop, ?_⟩
  · show (writeBe32 maxParticipants ++ writeBe32 durationMinutes).length < 2 ^ 28
    omega
  · exact hlength.ge
  · exact readBe32_writeBe32 _ _
  · intro config
    show parseCreateMeetingOptions ⟨_, _, writeBe32 maxParticipants ++ writeBe32 durationMinutes⟩
      config = _
    simp only [parseCreateMeetingOptions, hlength, Nat.le_refl, if_true,
      readBe32_writeBe32, hdrop]

theorem sendUserProfile_up (interop : Interop platform qt) {userId : Int64}
    (hid : IsWireId userId) {name avatar : ByteString} (hname : name.length < 2 ^ 16)
    (havatar : avatar.length < 2 ^ 16) :
    ∃ packet, Delivers platform qt (.sendUserProfile userId name avatar) userId packet ∧
      packet.type = .userProfile ∧ packet.userId = userId.toUInt64 ∧
      ∀ p : Participant, p.applyProfile packet.payload =
        { p with userId := userId.toUInt64, displayName := name, avatarUrl := avatar } := by
  have hlength : (encodeUserProfilePayload userId name avatar).length =
      12 + name.length + avatar.length :=
    (profile_fields (encodeUserProfilePayload userId name avatar) rfl
      (by omega) (by omega)).1
  refine ⟨_,
    delivers_of_payload interop hid (MessageType.typeFromName_typeName .userProfile) rfl ?_,
    rfl, rfl, ?_⟩
  · show (encodeUserProfilePayload userId name avatar).length < 2 ^ 28
    omega
  · intro p
    exact applyProfile_encode p (by omega) (by omega)

/-- Down: what the client reads from the lists and the profiles of the server. -/
theorem partnerJoin2_down (interop : Interop platform qt) (ps : List Participant) :
    Announces platform qt (partnerList ps).packet
      (.partnerJoin2 (ps.map fun p => p.userId.toInt64)) := by
  refine announces_of_packet interop (Or.inl rfl) (fun h => by cases h) ?_
  show some (decodePartnerJoin2 (ps.flatMap fun p => writeBe64 p.userId)) = _
  rw [decodePartnerJoin2, readBe64List_map Participant.userId ps, List.map_map]
  rfl

theorem userProfile_down (interop : Interop platform qt) {p : Participant}
    (hid : IsWireId p.userId.toInt64) (hname : p.displayName.length < 2 ^ 16)
    (havatar : p.avatarUrl.length < 2 ^ 16) (hzero : (0 : UInt8) ∉ p.displayName)
    (hzero' : (0 : UInt8) ∉ p.avatarUrl) (hplain : Utf8.Plain p.displayName)
    (hplain' : Utf8.Plain p.avatarUrl) :
    Announces platform qt (makeUserProfilePacket p)
      (.userProfileNotify p.userId.toInt64 p.displayName p.avatarUrl) := by
  have hsender : p.userId.toInt64 ≠ 0 := by
    intro h
    rw [IsWireId, h] at hid
    exact absurd hid.1 (by decide)
  refine announces_of_packet interop (Or.inr hid) (fun h => by cases h) ?_
  show decodeUserProfile qt (makeUserProfilePacket p).payload p.userId.toInt64 = _
  rw [decodeUserProfile_make qt hsender (by omega) (by omega), qt.utf8_eq hplain,
    qt.utf8_eq hplain', cString_eq hzero, cString_eq hzero']

/-- **Wire agreement.** Whatever JSON libraries the two sides use, as long as
they read each other's documents. -/
theorem wire_agreement (interop : Interop platform qt) : WireAgreement platform qt where
  createMeeting hid := createMeeting_up interop hid
  joinMeeting {userId} hid roomNo := by
    have hroom : (Message.joinMeeting (JsonText.decimal roomNo.toNat)).payload =
        writeBe32 roomNo := by
      rw [Message.payload, roomNoU32_decimal roomNo.toNat_lt, UInt32.ofNat_toNat]
    refine ⟨_,
      delivers_of_payload interop hid (MessageType.typeFromName_typeName .joinMeeting) rfl ?_,
      rfl, rfl, ?_, ?_⟩
    · rw [hroom, length_writeBe32]
      decide
    · show 4 ≤ (Message.joinMeeting (JsonText.decimal roomNo.toNat)).payload.length
      rw [hroom, length_writeBe32]
    · show readBe32 (Message.joinMeeting (JsonText.decimal roomNo.toNat)).payload = roomNo
      rw [hroom, readBe32_writeBe32_self]
  roomSettings {userId} hid flags := by
    refine ⟨_,
      delivers_of_payload interop hid (MessageType.typeFromName_typeName .roomSettings) rfl ?_,
      rfl, rfl, ?_⟩
    · show (writeBe32 flags).length < 2 ^ 28
      rw [length_writeBe32]
      decide
    · intro settings
      show (if 4 ≤ (writeBe32 flags).length then readBe32 (writeBe32 flags) else settings) = flags
      rw [readBe32_of_length]
  closeCamera hid :=
    ⟨_,
      delivers_of_payload interop hid (MessageType.typeFromName_typeName .closeCamera) rfl (by decide),
      rfl, rfl⟩
  sendText hid _ hplain _ hlength :=
    ⟨_, delivers_of_message interop hid (MessageType.typeFromName_typeName .textSend) hlength,
      rfl, rfl, qt.utf8_eq hplain⟩
  sendUserProfile hid _ _ hname havatar := sendUserProfile_up interop hid hname havatar
  -- from here on the server's packets, read by the client
  createMeetingResponse roomNo := by
    refine announces_of_packet interop (Or.inl rfl) (fun h => by cases h) ?_
    exact congrArg some (decodeCreateMeetingResponse_writeBe32 roomNo)
  joinMeetingResponse code := by
    refine announces_of_packet interop (Or.inl rfl) (fun h => by cases h) ?_
    exact congrArg some (decodeJoinMeetingResponse_writeBe32 code)
  partnerJoin hid := announces_of_packet interop (Or.inr hid) (fun h => by cases h) rfl
  partnerExit hid := announces_of_packet interop (Or.inr hid) (fun h => by cases h) rfl
  partnerJoin2 ps := partnerJoin2_down interop ps
  textRecv hid _ hplain := announces_of_packet interop (Or.inr hid) (fun _ => hplain) rfl
  closeCameraNotify hid := announces_of_packet interop (Or.inr hid) (fun h => by cases h) rfl
  roomSettingsNotify hid flags := by
    refine announces_of_packet interop hid (fun h => by cases h) ?_
    show some (Message.roomSettingsNotify
      (if 4 ≤ (writeBe32 flags).length then readBe32 (writeBe32 flags) else 0)) = _
    rw [readBe32_of_length]
  userProfile hid hname havatar hzero hzero' hplain hplain' :=
    userProfile_down interop hid hname havatar hzero hzero' hplain hplain'

end Agreement

theorem wire_agreement_of_reference : WireAgreement reference referenceQt :=
  wire_agreement reference_interop

/-- A name the server relays need not be text, and a `QString` holds nothing
else: the profile then arrives with another name. -/
theorem name_not_text : ¬∀ (platform : Platform) (qt : Qt), Interop platform qt →
    ∀ p : Participant, IsWireId p.userId.toInt64 → p.displayName.length < 2 ^ 16 →
      p.avatarUrl.length < 2 ^ 16 → (0 : UInt8) ∉ p.displayName → (0 : UInt8) ∉ p.avatarUrl →
      Announces platform qt (makeUserProfilePacket p)
        (.userProfileNotify p.userId.toInt64 p.displayName p.avatarUrl) := by
  intro h
  let p : Participant := { connection := 1, userId := 7, isOwner := false, displayName := [0xFF] }
  have hid : IsWireId p.userId.toInt64 := by
    show 0 < (7 : UInt64).toInt64.toInt ∧ (7 : UInt64).toInt64.toInt < 2 ^ 53
    decide
  have hsent : Announces reference referenceQt (makeUserProfilePacket p)
      (.userProfileNotify 7 replacement []) :=
    announces_of_packet reference_interop (Or.inr hid) (fun h => by cases h) (by decide)
  rcases hsent with ⟨text, hencode, hdecode⟩
  rcases h reference referenceQt reference_interop p hid (by decide) (by decide) (by decide)
    (by decide) with ⟨text', hencode', hdecode'⟩
  have htext : text = text' := Except.ok.inj (hencode.symm.trans hencode')
  rw [htext, hdecode'] at hdecode
  exact absurd hdecode (by decide)

end CCMeeting
