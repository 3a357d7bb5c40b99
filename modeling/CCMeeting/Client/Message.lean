import CCMeeting.Lib.JsonText
import CCMeeting.Protocol.Packet

/-! # The client's messages

`MSG_TYPE` with its wire names, and `Message` with its subclasses. The client
has its own enumeration and its own table of names.
-/

namespace CCMeeting

open ByteString

/-- `MSG_TYPE` of the client. -/
inductive MsgType where
  | imgSend
  | imgRecv
  | audioSend
  | audioRecv
  | textSend
  | textRecv
  | createMeeting
  | exitMeeting
  | joinMeeting
  | closeCamera
  | roomSettings
  | createMeetingResponse
  | partnerExit
  | partnerJoin
  | joinMeetingResponse
  | partnerJoin2
  | userProfile
  | roomSettingsNotify
  | remoteHostClosedError
  | otherNetError
deriving DecidableEq, Repr

namespace MsgType

/-- `MessageCodec::type_name`. -/
def typeName : MsgType → ByteString
  | imgSend => ascii "img_send"
  | imgRecv => ascii "img_recv"
  | audioSend => ascii "audio_send"
  | audioRecv => ascii "audio_recv"
  | textSend => ascii "text_send"
  | textRecv => ascii "text_recv"
  | createMeeting => ascii "create_meeting"
  | exitMeeting => ascii "exit_meeting"
  | joinMeeting => ascii "join_meeting"
  | closeCamera => ascii "close_camera"
  | roomSettings => ascii "room_settings"
  | createMeetingResponse => ascii "create_meeting_response"
  | partnerExit => ascii "partner_exit"
  | partnerJoin => ascii "partner_join"
  | joinMeetingResponse => ascii "join_meeting_response"
  | partnerJoin2 => ascii "partner_join2"
  | userProfile => ascii "user_profile"
  | roomSettingsNotify => ascii "room_settings_notify"
  | remoteHostClosedError => ascii "remote_host_closed"
  | otherNetError => ascii "other_net_error"

/-- `kAll` of `MessageCodec::type_from_name`. -/
def kAll : List MsgType :=
  [imgSend, imgRecv, audioSend, audioRecv, textSend, textRecv, createMeeting, exitMeeting,
    joinMeeting, closeCamera, roomSettings, createMeetingResponse, partnerExit, partnerJoin,
    joinMeetingResponse, partnerJoin2, userProfile, roomSettingsNotify, remoteHostClosedError,
    otherNetError]

/-- `MessageCodec::type_from_name`. -/
def typeFromName (name : ByteString) : Option MsgType :=
  kAll.find? (fun type => name = type.typeName)

end MsgType

/-- `Message` and its subclasses. -/
inductive Message where
  | createMeeting (maxParticipants durationMinutes : UInt32)
  | joinMeeting (roomNo : ByteString)
  | exitMeeting
  | closeCamera
  | sendText (text : ByteString)
  | sendUserProfile (userId : Int64) (displayName avatarUrl : ByteString)
  | roomSettings (flags : UInt32)
  | createMeetingResponse (roomNo : UInt32)
  | joinMeetingResponse (responseCode : Int32)
  | recvText (userId : Int64) (text : ByteString)
  | partnerJoin (userId : Int64)
  | partnerExit (userId : Int64)
  | partnerJoin2 (partnerUserIds : List Int64)
  | closeCameraNotify (userId : Int64)
  | userProfileNotify (userId : Int64) (displayName avatarUrl : ByteString)
  | roomSettingsNotify (flags : UInt32)
  | remoteHostClosedError
  | otherNetError
deriving DecidableEq, Repr

/-- `MessageCodec::to_wire_type` of the kind of a message. -/
def Message.toWireType : Message → MsgType
  | createMeeting .. => .createMeeting
  | joinMeeting .. => .joinMeeting
  | exitMeeting => .exitMeeting
  | closeCamera => .closeCamera
  | sendText .. => .textSend
  | createMeetingResponse .. => .createMeetingResponse
  | joinMeetingResponse .. => .joinMeetingResponse
  | recvText .. => .textRecv
  | partnerJoin .. => .partnerJoin
  | partnerExit .. => .partnerExit
  | partnerJoin2 .. => .partnerJoin2
  | sendUserProfile .. | userProfileNotify .. => .userProfile
  | roomSettings .. => .roomSettings
  | roomSettingsNotify .. => .roomSettingsNotify
  | closeCameraNotify .. => .closeCamera
  | remoteHostClosedError => .remoteHostClosedError
  | otherNetError => .otherNetError

/-- `MessagePriority`. -/
inductive MessagePriority where
  | control
  | text
deriving DecidableEq, Repr

/-- `Message::send_priority`: only texts wait. -/
def Message.sendPriority : Message → MessagePriority
  | sendText .. => .text
  | _ => .control

/-! ## Room numbers as text -/

/-- `std::isspace`. -/
def isSpace (b : UInt8) : Bool := b = 32 || (9 ≤ b && b ≤ 13)

/-- `std::stoul`: blanks, a sign, decimal digits; none where it throws. The
result has 64 bits. -/
def stoul (text : ByteString) : Option ℕ :=
  let text := text.dropWhile isSpace
  let (negative, text) :=
    match text with
    | 45 :: rest => (true, rest)
    | 43 :: rest => (false, rest)
    | _ => (false, text)
  if text.head?.any JsonText.isDigit then
    let value := (JsonText.readDigits 0 text).1
    if value < 2 ^ 64 then some (if negative then (2 ^ 64 - value) % 2 ^ 64 else value) else none
  else none

/-- `JoinMeetingMessage::room_no_u32`. -/
def roomNoU32 (roomNo : ByteString) : UInt32 :=
  if roomNo.isEmpty then 0
  else
    match stoul roomNo with
    | some value => UInt32.ofNat value
    | none => 0

/-- A number below `2 ^ 32` in decimal is read back. -/
theorem roomNoU32_decimal {n : ℕ} (hn : n < 2 ^ 32) :
    roomNoU32 (JsonText.decimal n) = UInt32.ofNat n := by
  rcases JsonText.decimal_head n with ⟨b, rest, hb, hdigit⟩
  have hread : JsonText.readDigits 0 (b :: rest) = (n, []) := by
    have hends : JsonText.EndsNumber [] := by
      intro x hx
      cases hx
    have := JsonText.readDigits_decimal (n := n) hends
    rwa [List.append_nil, hb] at this
  have hrange : 48 ≤ b.toNat ∧ b.toNat ≤ 57 := by simpa [JsonText.isDigit] using hdigit
  have hspace : isSpace b = false := by
    have h9 : ¬b.toNat ≤ 13 := by omega
    have h32 : b ≠ 32 := by
      rintro rfl
      exact absurd hrange.1 (by decide)
    simp [isSpace, h32, UInt8.le_iff_toNat_le, h9]
  have h45 : b ≠ 45 := by
    rintro rfl
    exact absurd hrange.1 (by decide)
  have h43 : b ≠ 43 := by
    rintro rfl
    exact absurd hrange.1 (by decide)
  have hn64 : n < 18446744073709551616 := by omega
  simp [roomNoU32, stoul, hb, hspace, h45, h43, hdigit, hread, hn64]

end CCMeeting
