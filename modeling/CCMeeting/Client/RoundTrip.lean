import CCMeeting.Client.Agreement

/-! # One-sided round trips

`encode_wire_frame` also writes the messages of the server, so that the client
can test the protocol alone. What it writes for a text it has received lacks
the text.
-/

namespace CCMeeting

open ByteString

/-- Qt reads what it wrote, and `QString::fromUtf8` drops a byte order mark. -/
structure Qt.ReadsBack (qt : Qt) : Prop where
  json : ∀ {fields}, Json.PlainFields fields →
    ∃ ms, qt.fromJson (qt.toJson (Json.flat fields)) = some (.object ms) ∧
      Json.ReadFields fields ms
  mark : ∀ {rest}, Utf8.Valid rest → qt.utf8 (Utf8.mark ++ rest) = rest

/-- The messages of the server, with the user id they carry where they carry
one: texts, and the names and avatars of a profile, are well formed, and what
is kept as a C string has no zero byte. -/
def Downlink (n : ℕ) : Message → Prop
  | .createMeetingResponse _ | .joinMeetingResponse _ | .partnerJoin2 _
  | .roomSettingsNotify _ => True
  | .recvText userId text => userId = Int64.ofNat n ∧ Utf8.Valid text
  | .partnerJoin userId | .partnerExit userId | .closeCameraNotify userId =>
    userId = Int64.ofNat n
  | .userProfileNotify userId displayName avatarUrl =>
    userId = Int64.ofNat n ∧
      (displayName.length < 2 ^ 16 ∧ Utf8.Valid displayName ∧ (0 : UInt8) ∉ displayName) ∧
      avatarUrl.length < 2 ^ 16 ∧ Utf8.Valid avatarUrl ∧ (0 : UInt8) ∉ avatarUrl
  | _ => False

/-- The messages whose frame holds all of them: a received text must be empty,
and a name or an avatar must not begin with a byte order mark. -/
def WrittenWhole : Message → Prop
  | .recvText _ text => text = []
  | .userProfileNotify _ displayName avatarUrl =>
    ¬Utf8.mark.isPrefixOf displayName = true ∧ ¬Utf8.mark.isPrefixOf avatarUrl = true
  | _ => True

theorem MsgType.typeFromName_typeName (type : MsgType) :
    MsgType.typeFromName type.typeName = some type := by
  cases type <;> decide

section RoundTrip

variable {qt : Qt} {n : ℕ}

/-- What the client reads from its own frame of a message. -/
theorem decodeJsonFrame_of_message (hqt : qt.ReadsBack) (msg : Message) (hn : n < 2 ^ 53) :
    decodeJsonFrame qt (encodeWireFrame qt msg (Int64.ofNat n)) =
      MessageCodec.decodePayload qt (msg.content qt) (Int64.ofNat n) msg.toWireType := by
  obtain ⟨ms, hparse, hread⟩ := hqt.json (message_plain qt msg hn)
  rw [encodeWireFrame, wireDocument_eq hn]
  exact decodeJsonFrame_of_frame hparse hread (MsgType.typeFromName_typeName _) (by omega)

/-- The client finds the fields of a profile where it puts them. -/
theorem decodeUserProfile_encode (qt : Qt) {userId : Int64} {name avatar : ByteString}
    (hid : userId ≠ 0) (hname : name.length < 2 ^ 16) (havatar : avatar.length < 2 ^ 16) :
    decodeUserProfile qt (encodeUserProfilePayload userId name avatar) userId =
      some (.userProfileNotify userId (cString (qt.utf8 name)) (cString (qt.utf8 avatar))) := by
  rcases profile_fields (encodeUserProfilePayload userId name avatar) rfl hname havatar
    with ⟨hlength, _, hn, htake, ha, hrest⟩
  unfold decodeUserProfile
  rw [if_neg (by omega)]
  simp only [hn]
  rw [if_neg (by omega)]
  simp only [ha, htake, hrest]
  rw [if_neg (by omega), if_pos hid]

/-- A text goes through a `QString` and a C string unless it begins with a byte
order mark. -/
theorem cString_utf8_eq_iff (hqt : qt.ReadsBack) {text : ByteString} (hvalid : Utf8.Valid text)
    (hzero : (0 : UInt8) ∉ text) :
    cString (qt.utf8 text) = text ↔ ¬Utf8.mark.isPrefixOf text = true := by
  by_cases hmark : Utf8.mark.isPrefixOf text = true
  · obtain ⟨rest, rfl⟩ := List.isPrefixOf_iff_prefix.mp hmark
    have hrest : Utf8.Valid rest := by
      have hrun : Utf8.run [] (Utf8.mark ++ rest) = some [] := hvalid
      rw [Utf8.run_append] at hrun
      exact hrun
    rw [hqt.mark hrest]
    constructor
    · intro heq
      -- the text came out shorter
      have hlength := congrArg List.length heq
      have hle : (cString rest).length ≤ rest.length := (List.takeWhile_prefix _).length_le
      have hthree : Utf8.mark.length = 3 := rfl
      rw [List.length_append] at hlength
      omega
    · intro hnot
      exact absurd hmark hnot
  · rw [qt.utf8_eq ⟨hvalid, hmark⟩, cString_eq hzero]
    exact iff_of_true rfl hmark

/-- Encoded and decoded by the client, a message of the server is the same
message exactly when its frame holds all of it. -/
theorem one_sided_round_trip (hqt : qt.ReadsBack) {msg : Message} (hmsg : Downlink n msg)
    (hpos : 1 ≤ n) (hn : n < 2 ^ 53) :
    decodeJsonFrame qt (encodeWireFrame qt msg (Int64.ofNat n)) = some msg ↔
      WrittenWhole msg := by
  have hid : Int64.ofNat n ≠ 0 := by
    intro hzero
    have hint : (Int64.ofNat n).toInt = n := Int64.toInt_ofNat_of_lt (by omega)
    rw [hzero] at hint
    have hnone : (0 : Int64).toInt = 0 := rfl
    omega
  rw [decodeJsonFrame_of_message hqt msg hn]
  cases msg with
  | createMeetingResponse roomNo =>
    refine iff_of_true ?_ trivial
    exact congrArg some (decodeCreateMeetingResponse_writeBe32 roomNo)
  | joinMeetingResponse responseCode =>
    refine iff_of_true ?_ trivial
    show some (decodeJoinMeetingResponse (writeBe32 responseCode.toUInt32)) = _
    rw [decodeJoinMeetingResponse_writeBe32, Int32.toInt32_toUInt32]
  | partnerJoin2 partnerUserIds =>
    refine iff_of_true ?_ trivial
    show some (decodePartnerJoin2 (partnerUserIds.flatMap fun id => writeBe64 id.toUInt64)) = _
    rw [decodePartnerJoin2, readBe64List_map Int64.toUInt64 partnerUserIds, List.map_map]
    have hback : UInt64.toInt64 ∘ Int64.toUInt64 = id := by
      funext id
      exact Int64.toInt64_toUInt64 id
    rw [hback, List.map_id]
  | roomSettingsNotify flags =>
    refine iff_of_true ?_ trivial
    show some (Message.roomSettingsNotify
      (if 4 ≤ (writeBe32 flags).length then readBe32 (writeBe32 flags) else 0)) = _
    rw [readBe32_of_length]
  | partnerJoin userId =>
    cases hmsg
    exact iff_of_true rfl trivial
  | partnerExit userId =>
    cases hmsg
    exact iff_of_true rfl trivial
  | closeCameraNotify userId =>
    cases hmsg
    exact iff_of_true rfl trivial
  | recvText userId text =>
    -- the frame has no payload, whatever the text was
    rcases hmsg with ⟨rfl, _⟩
    show some (Message.recvText (Int64.ofNat n) []) = some (.recvText (Int64.ofNat n) text) ↔
      text = []
    rw [Option.some.injEq, Message.recvText.injEq, eq_comm (a := ([] : ByteString))]
    exact and_iff_right rfl
  | userProfileNotify userId displayName avatarUrl =>
    rcases hmsg with ⟨rfl, ⟨hname, hnameValid, hnameZero⟩, havatar, havatarValid, havatarZero⟩
    show decodeUserProfile qt (encodeUserProfilePayload (Int64.ofNat n) displayName avatarUrl)
      (Int64.ofNat n) = _ ↔ ¬Utf8.mark.isPrefixOf displayName = true ∧
        ¬Utf8.mark.isPrefixOf avatarUrl = true
    rw [decodeUserProfile_encode qt hid hname havatar, Option.some.injEq,
      Message.userProfileNotify.injEq, cString_utf8_eq_iff hqt hnameValid hnameZero,
      cString_utf8_eq_iff hqt havatarValid havatarZero]
    exact and_iff_right rfl
  | createMeeting _ _ => exact hmsg.elim
  | joinMeeting _ => exact hmsg.elim
  | exitMeeting => exact hmsg.elim
  | closeCamera => exact hmsg.elim
  | sendText _ => exact hmsg.elim
  | sendUserProfile _ _ _ => exact hmsg.elim
  | roomSettings _ => exact hmsg.elim
  | remoteHostClosedError => exact hmsg.elim
  | otherNetError => exact hmsg.elim

end RoundTrip

/-- The Qt of concrete runs reads what it wrote. -/
theorem referenceQt_readsBack : referenceQt.ReadsBack where
  json {fields} hplain := by
    refine ⟨_, read_writeCompact fields, JsonText.readFields_readBack (g := fun n => .integer n) hplain
      fun n hn => ?_⟩
    show (Double.ofInt (Double.roundNat n)).Is n
    rw [hn]
    exact Double.is_ofInt n
  mark {rest} hrest := by
    have hmark : Utf8.mark.isPrefixOf (Utf8.mark ++ rest) = true :=
      List.isPrefixOf_iff_prefix.mpr (List.prefix_append _ _)
    have hdrop : (Utf8.mark ++ rest).drop 3 = rest := rfl
    show throughQString (Utf8.mark ++ rest) = rest
    simp only [throughQString, hmark, if_true, hdrop, hrest]

/-- A profile goes around. -/
theorem one_sided_round_trip_of_profile :
    decodeJsonFrame referenceQt (encodeWireFrame referenceQt
      (.userProfileNotify 7 (ascii "Ann") (ascii "/a.png")) 7) =
        some (.userProfileNotify 7 (ascii "Ann") (ascii "/a.png")) :=
  (one_sided_round_trip (n := 7) referenceQt_readsBack (by
    refine ⟨rfl, ⟨by decide, by decide, by decide⟩, by decide, by decide, by decide⟩)
    (by decide) (by decide)).mpr ⟨by decide, by decide⟩

/-- A text that was received comes back empty. -/
theorem received_text_lost :
    ¬∀ (qt : Qt), qt.ReadsBack → ∀ (n : ℕ) (msg : Message), Downlink n msg → 1 ≤ n → n < 2 ^ 53 →
      decodeJsonFrame qt (encodeWireFrame qt msg (Int64.ofNat n)) = some msg := by
  intro h
  have htext := h referenceQt referenceQt_readsBack 7 (.recvText 7 (ascii "hi"))
    ⟨rfl, by decide⟩ (by decide) (by decide)
  have hempty : decodeJsonFrame referenceQt (encodeWireFrame referenceQt
      (.recvText 7 (ascii "hi")) (Int64.ofNat 7)) = some (.recvText 7 []) := by decide +kernel
  rw [hempty] at htext
  exact absurd htext (by decide)

end CCMeeting
