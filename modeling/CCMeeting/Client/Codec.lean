import CCMeeting.Client.Message
import CCMeeting.Client.Qt

/-! # The client's codec

`MessageCodec`: the payload layouts are those of the server, written and read
by the client's own code, inside the same JSON frame.
-/

namespace CCMeeting

open ByteString

/-! ## `encode_wire_frame` -/

/-- `encode_user_profile_payload`. -/
def encodeUserProfilePayload (userId : Int64) (name avatar : ByteString) : ByteString :=
  writeBe64 userId.toUInt64 ++ writeBe16 name.length ++ name ++ writeBe16 avatar.length ++ avatar

/-- The binary payload of a message. -/
def Message.payload : Message → ByteString
  | createMeeting maxParticipants durationMinutes =>
    writeBe32 maxParticipants ++ writeBe32 durationMinutes
  | joinMeeting roomNo => writeBe32 (roomNoU32 roomNo)
  | roomSettings flags => writeBe32 flags
  | sendUserProfile userId displayName avatarUrl =>
    encodeUserProfilePayload userId displayName avatarUrl
  | createMeetingResponse roomNo => writeBe32 roomNo
  | joinMeetingResponse responseCode => writeBe32 responseCode.toUInt32
  | partnerJoin2 partnerUserIds => partnerUserIds.flatMap fun id => writeBe64 id.toUInt64
  | roomSettingsNotify flags => writeBe32 flags
  | userProfileNotify userId displayName avatarUrl =>
    encodeUserProfilePayload userId displayName avatarUrl
  | _ => []

/-- The document of a frame, in the key order `QJsonObject` keeps. -/
def wireDocument (qt : Qt) (msg : Message) (localUserId : Int64) : Json :=
  let body :=
    match msg with
    | .sendText text => [(ascii "s", Json.string (qt.utf8 text))]
    | _ =>
      if msg.payload = [] then []
      else [(ascii "p", Json.string (qt.fromLatin1 (qt.toBase64 msg.payload)))]
  .object (body ++ [(ascii "t", .string (qt.fromLatin1 msg.toWireType.typeName)),
    (ascii "u", .number (.float (.roundInt localUserId.toInt)))])

/-- `MessageCodec::encode_wire_frame`. -/
def encodeWireFrame (qt : Qt) (msg : Message) (localUserId : Int64) : ByteString :=
  qt.toJson (wireDocument qt msg localUserId)

/-! ## `decode_json_frame` -/

/-- `constData()` taken for a C string. -/
def cString (text : ByteString) : ByteString := text.takeWhile (· ≠ 0)

/-- `decode_create_meeting_response`. -/
def decodeCreateMeetingResponse (body : ByteString) : Message :=
  .createMeetingResponse (if 4 ≤ body.length then readBe32 body else 0)

/-- `decode_join_meeting_response`. -/
def decodeJoinMeetingResponse (body : ByteString) : Message :=
  .joinMeetingResponse (if 4 ≤ body.length then (readBe32 body).toInt32 else 0)

/-- `decode_partner_join2`. -/
def decodePartnerJoin2 (body : ByteString) : Message :=
  .partnerJoin2 ((readBe64List body).map UInt64.toInt64)

/-- `decode_user_profile`. -/
def decodeUserProfile (qt : Qt) (body : ByteString) (senderUserId : Int64) : Option Message :=
  if body.length < 12 then none
  else
    let nameLen := readBe16 (body.drop 8)
    if body.length < 10 + nameLen + 2 then none
    else
      let name := qt.utf8 ((body.drop 10).take nameLen)
      let avatarLen := readBe16 (body.drop (10 + nameLen))
      if body.length < 10 + nameLen + 2 + avatarLen then none
      else
        let avatar := qt.utf8 ((body.drop (10 + nameLen + 2)).take avatarLen)
        some (.userProfileNotify
          (if senderUserId ≠ 0 then senderUserId else (readBe64 body).toInt64)
          (cString name) (cString avatar))

/-- `MessageCodec::decode_payload`. -/
def MessageCodec.decodePayload (qt : Qt) (payload : ByteString) (userId : Int64) :
    MsgType → Option Message
  | .createMeetingResponse => some (decodeCreateMeetingResponse payload)
  | .joinMeetingResponse => some (decodeJoinMeetingResponse payload)
  | .partnerJoin2 => some (decodePartnerJoin2 payload)
  | .textRecv => some (.recvText userId payload)
  | .userProfile => decodeUserProfile qt payload userId
  | .roomSettingsNotify =>
    some (.roomSettingsNotify (if 4 ≤ payload.length then readBe32 payload else 0))
  | .partnerJoin => some (.partnerJoin userId)
  | .partnerExit => some (.partnerExit userId)
  | .closeCamera => some (.closeCameraNotify userId)
  | _ => none

/-- A message is of the type it is decoded as. -/
theorem MessageCodec.toWireType_of_decodePayload {qt : Qt} {payload : ByteString} {userId : Int64}
    {type : MsgType} {msg : Message} (h : decodePayload qt payload userId type = some msg) :
    msg.toWireType = type := by
  cases type with
  | userProfile =>
    change decodeUserProfile qt payload userId = some msg at h
    unfold decodeUserProfile at h
    dsimp only at h
    split_ifs at h <;>
      · cases h
        rfl
  | _ => cases h <;> rfl

/-- `MessageCodec::decode_json_frame`. -/
def decodeJsonFrame (qt : Qt) (frame : ByteString) : Option Message :=
  match qt.fromJson frame with
  | some (.object ms) =>
    match MsgType.typeFromName (jsonText (ms.lookup (ascii "t"))) with
    | none => none
    | some type =>
      let userId := qt.i64OfDouble (jsonDouble (ms.lookup (ascii "u")))
      match ms.lookup (ascii "s") with
      | some s => MessageCodec.decodePayload qt (jsonText (some s)) userId type
      | none =>
        let payload :=
          match ms.lookup (ascii "p") with
          | some p => qt.fromBase64 (qt.toLatin1 (jsonText (some p)))
          | none => []
        MessageCodec.decodePayload qt payload userId type
  | _ => none

end CCMeeting
