import Mathlib.Data.Finset.Image
import CCMeeting.Client.Frames

/-! # The client in a meeting

`MeetingWidget` with its `ParticipantsController` and its
`RoomSettingsController`, as far as a message of the server changes them: the
partners and the room switches. What is only shown (names, tiles, the media
session) is left out. The three signals a message goes through end in one
event queue, so the messages are handled in the order they were received.
-/

namespace CCMeeting

open ByteString State

/-- `MeetingWidget` and its controllers. -/
structure Client where
  /-- the connection to the server, while there is one -/
  connection : Option ConnId
  /-- `_state._createmeet` -/
  createmeet : Bool
  /-- `_state._joinmeet` -/
  joinmeet : Bool
  /-- `_state._sessionEnding` -/
  sessionEnding : Bool
  /-- the keys of `ParticipantsController::_partners` -/
  partners : Finset Int64
  /-- `RoomSettingsController::_flags` -/
  flags : UInt32
  /-- `RoomSettingsController::_isHost` -/
  isHost : Bool
  /-- a history variable: the switches have been edited on this client -/
  edited : Bool
deriving DecidableEq

/-- `ROOM_SETTINGS_DEFAULT`. -/
def roomSettingsDefault : UInt32 := 3

namespace Client

/-- A client just started. -/
def fresh : Client where
  connection := none
  createmeet := false
  joinmeet := false
  sessionEnding := false
  partners := ∅
  flags := 0
  isHost := false
  edited := false

/-! ## The controllers -/

/-- `ParticipantsController::add`. -/
def add (c : Client) (userId : Int64) : Client := { c with partners := insert userId c.partners }

/-- `ParticipantsController::remove`. -/
def remove (c : Client) (userId : Int64) : Client := { c with partners := c.partners.erase userId }

/-- `ParticipantsController::clear`. -/
def clear (c : Client) : Client := { c with partners := ∅ }

/-- `ParticipantsController::apply_profile`: a partner not known yet is added. -/
def applyProfile (c : Client) (userId : Int64) : Client := c.add userId

/-- `RoomSettingsController::apply_flags`. -/
def applyFlags (c : Client) (flags : UInt32) : Client := { c with flags }

/-- `RoomSettingsController::set_host`. -/
def setHost (c : Client) (isHost : Bool) : Client := { c with isHost }

/-- `MeetingSettingsPopup::emit_settings`, which the check boxes call: the
flags to send. The popup belongs to a meeting and shows the current flags; only
the host can tick its boxes, and nothing is sent when nothing has changed. -/
def emitSettings (c : Client) (allowRecord allowShare : Bool) : Option UInt32 :=
  let flags := (if allowRecord then kRoomSettingsAllowRecord else 0) |||
    (if allowShare then kRoomSettingsAllowMemberShare else 0)
  if c.isHost && (c.createmeet || c.joinmeet) && flags != c.flags then some flags else none

/-- The slots of `settingsChanged` and `settings_edited`, but for the sending:
the edit is applied before the server answers. -/
def settingsEdited (c : Client) (flags : UInt32) : Client :=
  { c with flags, edited := true }.applyFlags flags

/-! ## `MeetingWidget` -/

/-- `MeetingWidget::end_meeting_session`, with `reset_meeting_ui`. -/
def endMeetingSession (c : Client) : Client :=
  ({ c with createmeet := false, joinmeet := false, sessionEnding := true }.clear).applyFlags
    roomSettingsDefault

/-- `MeetingWidget::close_meeting_window`. -/
def closeMeetingWindow (c : Client) : Client :=
  if c.sessionEnding then c else c.endMeetingSession

/-- `MeetingWidget::on_create_meeting_result`. -/
def onCreateMeetingResult (localUserId : Int64) (c : Client) (roomno : Int32) : Client :=
  if roomno ≠ 0 then
    (({ c with createmeet := true }.applyProfile localUserId).add localUserId).setHost true
  else c.closeMeetingWindow

/-- `MeetingWidget::on_join_meeting_result`. -/
def onJoinMeetingResult (localUserId : Int64) (c : Client) (result : Int32) : Client :=
  if result = 0 then c.closeMeetingWindow
  else if result = -1 then c.closeMeetingWindow
  else if 0 < result then
    ({ (c.applyProfile localUserId).add localUserId with joinmeet := true }).setHost false
  else c

/-- `MeetingWidget::on_partners_snapshot`. -/
def onPartnersSnapshot (c : Client) (userIds : List Int64) : Client := userIds.foldl add c

/-- `MeetingProtocolDispatcher` and the slots it is connected to. -/
def dispatch (localUserId : Int64) (c : Client) : Message → Client
  | .createMeetingResponse roomNo => c.onCreateMeetingResult localUserId roomNo.toInt32
  | .joinMeetingResponse responseCode => c.onJoinMeetingResult localUserId responseCode
  | .remoteHostClosedError | .otherNetError => c.closeMeetingWindow
  | .partnerJoin userId => c.add userId
  | .partnerExit userId => c.remove userId
  | .partnerJoin2 userIds => c.onPartnersSnapshot userIds
  | .roomSettingsNotify flags => c.applyFlags flags
  | .userProfileNotify userId _ _ => c.applyProfile userId
  | _ => c

end Client

/-- A packet of the server, decoded. -/
def Queued.heard (q : Queued) (qt : Qt) : Option Message :=
  MessageCodec.decodePayload qt q.packet.payload q.packet.userId.toInt64 q.packet.type.received

namespace Client

/-- A packet of the server is handled, unless nothing came of decoding it. -/
def hear (qt : Qt) (localUserId : Int64) (c : Client) (q : Queued) : Client :=
  match q.heard qt with
  | some msg => c.dispatch localUserId msg
  | none => c

/-! ## What a handler changes -/

@[simp] theorem closeMeetingWindow_sessionEnding (c : Client) :
    c.closeMeetingWindow.sessionEnding = true := by
  unfold closeMeetingWindow
  split_ifs with h
  · exact h
  · rfl

/-- A snapshot of partners is about partners. -/
theorem onPartnersSnapshot_eq (c : Client) (userIds : List Int64) :
    c.onPartnersSnapshot userIds = { c with partners := (c.onPartnersSnapshot userIds).partners } := by
  induction userIds generalizing c with
  | nil => rfl
  | cons userId userIds ih => exact ih (c.add userId)

@[simp] theorem onPartnersSnapshot_sessionEnding (c : Client) (userIds : List Int64) :
    (c.onPartnersSnapshot userIds).sessionEnding = c.sessionEnding := by
  rw [onPartnersSnapshot_eq]

@[simp] theorem onPartnersSnapshot_flags (c : Client) (userIds : List Int64) :
    (c.onPartnersSnapshot userIds).flags = c.flags := by
  rw [onPartnersSnapshot_eq]

@[simp] theorem onPartnersSnapshot_isHost (c : Client) (userIds : List Int64) :
    (c.onPartnersSnapshot userIds).isHost = c.isHost := by
  rw [onPartnersSnapshot_eq]

@[simp] theorem onPartnersSnapshot_edited (c : Client) (userIds : List Int64) :
    (c.onPartnersSnapshot userIds).edited = c.edited := by
  rw [onPartnersSnapshot_eq]

@[simp] theorem onPartnersSnapshot_connection (c : Client) (userIds : List Int64) :
    (c.onPartnersSnapshot userIds).connection = c.connection := by
  rw [onPartnersSnapshot_eq]

theorem mem_onPartnersSnapshot {c : Client} {userIds : List Int64} {userId : Int64} :
    userId ∈ (c.onPartnersSnapshot userIds).partners ↔ userId ∈ c.partners ∨ userId ∈ userIds := by
  induction userIds generalizing c with
  | nil => simp [onPartnersSnapshot]
  | cons x userIds ih =>
    have hcons : c.onPartnersSnapshot (x :: userIds) = (c.add x).onPartnersSnapshot userIds := rfl
    rw [hcons, ih]
    simp only [add, Finset.mem_insert, List.mem_cons]
    tauto

/-- A session that is ending is not taken up again. -/
theorem dispatch_sessionEnding {localUserId : Int64} {c : Client} (msg : Message)
    (h : c.sessionEnding = true) : (c.dispatch localUserId msg).sessionEnding = true := by
  cases msg with
  | createMeetingResponse roomNo =>
    show (c.onCreateMeetingResult localUserId roomNo.toInt32).sessionEnding = true
    unfold onCreateMeetingResult
    split_ifs
    · exact h
    · exact c.closeMeetingWindow_sessionEnding
  | joinMeetingResponse responseCode =>
    show (c.onJoinMeetingResult localUserId responseCode).sessionEnding = true
    unfold onJoinMeetingResult
    split_ifs
    · exact c.closeMeetingWindow_sessionEnding
    · exact c.closeMeetingWindow_sessionEnding
    · exact h
    · exact h
  | remoteHostClosedError | otherNetError => exact c.closeMeetingWindow_sessionEnding
  | partnerJoin2 userIds => exact (c.onPartnersSnapshot_sessionEnding userIds).trans h
  | _ => exact h

/-- Ending a session leaves no partner behind. -/
theorem dispatch_partners_of_ending {localUserId : Int64} {c : Client} {msg : Message}
    (h : c.sessionEnding = false) (hend : (c.dispatch localUserId msg).sessionEnding = true) :
    (c.dispatch localUserId msg).partners = ∅ := by
  have hclose : c.closeMeetingWindow.partners = ∅ := by
    rw [closeMeetingWindow, if_neg (by simp [h])]
    rfl
  -- the session ends in this step only through `closeMeetingWindow`, which clears the partners
  cases msg with
  | createMeetingResponse roomNo =>
    change (c.onCreateMeetingResult localUserId roomNo.toInt32).sessionEnding = true at hend
    show (c.onCreateMeetingResult localUserId roomNo.toInt32).partners = ∅
    unfold onCreateMeetingResult at hend ⊢
    split_ifs at hend ⊢
    · exact absurd (h.symm.trans hend) Bool.false_ne_true
    · exact hclose
  | joinMeetingResponse responseCode =>
    change (c.onJoinMeetingResult localUserId responseCode).sessionEnding = true at hend
    show (c.onJoinMeetingResult localUserId responseCode).partners = ∅
    unfold onJoinMeetingResult at hend ⊢
    split_ifs at hend ⊢
    · exact hclose
    · exact hclose
    · exact absurd (h.symm.trans hend) Bool.false_ne_true
    · exact absurd (h.symm.trans hend) Bool.false_ne_true
  | remoteHostClosedError | otherNetError => exact hclose
  | partnerJoin2 userIds =>
    change (c.onPartnersSnapshot userIds).sessionEnding = true at hend
    rw [onPartnersSnapshot_sessionEnding, h] at hend
    cases hend
  | _ => exact absurd (h.symm.trans hend) Bool.false_ne_true

/-- Handlers do not touch the connection. -/
@[simp] theorem closeMeetingWindow_connection (c : Client) :
    c.closeMeetingWindow.connection = c.connection := by
  unfold closeMeetingWindow
  split_ifs <;> rfl

theorem dispatch_connection (localUserId : Int64) (c : Client) (msg : Message) :
    (c.dispatch localUserId msg).connection = c.connection := by
  cases msg with
  | createMeetingResponse roomNo =>
    show (c.onCreateMeetingResult localUserId roomNo.toInt32).connection = _
    unfold onCreateMeetingResult
    split_ifs
    · rfl
    · exact c.closeMeetingWindow_connection
  | joinMeetingResponse responseCode =>
    show (c.onJoinMeetingResult localUserId responseCode).connection = _
    unfold onJoinMeetingResult
    split_ifs
    · exact c.closeMeetingWindow_connection
    · exact c.closeMeetingWindow_connection
    · rfl
    · rfl
  | remoteHostClosedError | otherNetError => exact c.closeMeetingWindow_connection
  | partnerJoin2 userIds => exact c.onPartnersSnapshot_connection userIds
  | _ => rfl

/-- Only a notice of the room changes the switches of a session that goes on. -/
theorem dispatch_flags {localUserId : Int64} {c : Client} {msg : Message}
    (h : ∀ flags, msg ≠ .roomSettingsNotify flags) :
    (c.dispatch localUserId msg).sessionEnding = true ∨
      (c.dispatch localUserId msg).flags = c.flags := by
  cases msg with
  | createMeetingResponse roomNo =>
    show (c.onCreateMeetingResult localUserId roomNo.toInt32).sessionEnding = true ∨
      (c.onCreateMeetingResult localUserId roomNo.toInt32).flags = c.flags
    unfold onCreateMeetingResult
    split_ifs
    · exact Or.inr rfl
    · exact Or.inl c.closeMeetingWindow_sessionEnding
  | joinMeetingResponse responseCode =>
    show (c.onJoinMeetingResult localUserId responseCode).sessionEnding = true ∨
      (c.onJoinMeetingResult localUserId responseCode).flags = c.flags
    unfold onJoinMeetingResult
    split_ifs
    · exact Or.inl c.closeMeetingWindow_sessionEnding
    · exact Or.inl c.closeMeetingWindow_sessionEnding
    · exact Or.inr rfl
    · exact Or.inr rfl
  | remoteHostClosedError | otherNetError => exact Or.inl c.closeMeetingWindow_sessionEnding
  | partnerJoin2 userIds => exact Or.inr (c.onPartnersSnapshot_flags userIds)
  | roomSettingsNotify flags => exact absurd rfl (h flags)
  | _ => exact Or.inr rfl

/-- Only the answer to `CreateMeeting` makes a client the host. -/
theorem dispatch_isHost {localUserId : Int64} {c : Client} {msg : Message}
    (h : ∀ roomNo, msg ≠ .createMeetingResponse roomNo) (hc : c.isHost = false) :
    (c.dispatch localUserId msg).isHost = false := by
  have hclose : c.closeMeetingWindow.isHost = false := by
    unfold closeMeetingWindow
    split_ifs <;> exact hc
  cases msg with
  | createMeetingResponse roomNo => exact absurd rfl (h roomNo)
  | joinMeetingResponse responseCode =>
    show (c.onJoinMeetingResult localUserId responseCode).isHost = false
    unfold onJoinMeetingResult
    split_ifs
    · exact hclose
    · exact hclose
    · rfl
    · exact hc
  | remoteHostClosedError | otherNetError => exact hclose
  | partnerJoin2 userIds => exact (c.onPartnersSnapshot_isHost userIds).trans hc
  | _ => exact hc

/-- Only the user edits. -/
theorem dispatch_edited (localUserId : Int64) (c : Client) (msg : Message) :
    (c.dispatch localUserId msg).edited = c.edited := by
  have hclose : c.closeMeetingWindow.edited = c.edited := by
    unfold closeMeetingWindow
    split_ifs <;> rfl
  cases msg with
  | createMeetingResponse roomNo =>
    show (c.onCreateMeetingResult localUserId roomNo.toInt32).edited = _
    unfold onCreateMeetingResult
    split_ifs
    · rfl
    · exact hclose
  | joinMeetingResponse responseCode =>
    show (c.onJoinMeetingResult localUserId responseCode).edited = _
    unfold onJoinMeetingResult
    split_ifs
    · exact hclose
    · exact hclose
    · rfl
    · rfl
  | remoteHostClosedError | otherNetError => exact hclose
  | partnerJoin2 userIds => exact c.onPartnersSnapshot_edited userIds
  | _ => rfl

/-! ## What is heard from the server -/

section Hear

variable (qt : Qt) (localUserId : Int64) (c : Client)

@[simp] theorem hear_connection (q : Queued) :
    (c.hear qt localUserId q).connection = c.connection := by
  unfold hear
  split
  · exact dispatch_connection ..
  · rfl

theorem hear_sessionEnding {q : Queued} (h : c.sessionEnding = true) :
    (c.hear qt localUserId q).sessionEnding = true := by
  unfold hear
  split
  · exact dispatch_sessionEnding _ h
  · exact h

theorem hear_partners_of_ending {q : Queued} (h : c.sessionEnding = false)
    (hend : (c.hear qt localUserId q).sessionEnding = true) :
    (c.hear qt localUserId q).partners = ∅ := by
  unfold hear at hend ⊢
  split at hend
  · exact dispatch_partners_of_ending h hend
  · exact absurd (h.symm.trans hend) Bool.false_ne_true

/-- Only a notice of the room changes the switches of a session that goes on. -/
theorem hear_flags {q : Queued} (h : q.packet.type ≠ .roomSettingsNotify) :
    (c.hear qt localUserId q).sessionEnding = true ∨
      (c.hear qt localUserId q).flags = c.flags := by
  unfold hear
  split
  · rename_i msg hmsg
    refine dispatch_flags ?_
    rintro flags rfl
    apply h
    have htype := MessageCodec.toWireType_of_decodePayload hmsg
    cases hq : q.packet.type <;> rw [hq] at htype <;> first | rfl | cases htype
  · exact Or.inr rfl

/-- Only the answer to `CreateMeeting` makes a client the host. -/
theorem hear_isHost {q : Queued} (h : q.packet.type ≠ .createMeetingResponse)
    (hc : c.isHost = false) : (c.hear qt localUserId q).isHost = false := by
  unfold hear
  split
  · rename_i msg hmsg
    refine dispatch_isHost ?_ hc
    rintro roomNo rfl
    apply h
    have htype := MessageCodec.toWireType_of_decodePayload hmsg
    cases hq : q.packet.type <;> rw [hq] at htype <;> first | rfl | cases htype
  · exact hc

@[simp] theorem hear_edited (q : Queued) : (c.hear qt localUserId q).edited = c.edited := by
  unfold hear
  split
  · exact dispatch_edited ..
  · rfl

theorem hear_createMeetingResponse (roomNo : UInt32) :
    c.hear qt localUserId (response .createMeetingResponse roomNo) =
      c.onCreateMeetingResult localUserId roomNo.toInt32 := by
  show c.dispatch localUserId (decodeCreateMeetingResponse (writeBe32 roomNo)) = _
  rw [decodeCreateMeetingResponse_writeBe32]
  rfl

theorem hear_joinMeetingResponse (code : UInt32) :
    c.hear qt localUserId (response .joinMeetingResponse code) =
      c.onJoinMeetingResult localUserId code.toInt32 := by
  show c.dispatch localUserId (decodeJoinMeetingResponse (writeBe32 code)) = _
  rw [decodeJoinMeetingResponse_writeBe32]
  rfl

theorem hear_partnerList (ps : List Participant) :
    c.hear qt localUserId (partnerList ps) =
      c.onPartnersSnapshot (ps.map fun p => p.userId.toInt64) := by
  show c.onPartnersSnapshot
    ((readBe64List (ps.flatMap fun p => writeBe64 p.userId)).map UInt64.toInt64) = _
  rw [readBe64List_map Participant.userId ps, List.map_map]
  rfl

theorem hear_settings (userId : UInt64) (flags : UInt32) (source : List ConnId) :
    c.hear qt localUserId
      ⟨{ type := .roomSettingsNotify, userId, payload := writeBe32 flags }, source⟩ =
        c.applyFlags flags := by
  show c.applyFlags (if 4 ≤ (writeBe32 flags).length then readBe32 (writeBe32 flags) else 0) = _
  rw [readBe32_of_length]

/-- A profile adds its sender, if it can be read. -/
theorem hear_profile {q : Queued} (htype : q.packet.type = .userProfile)
    (hid : q.packet.userId.toInt64 ≠ 0) :
    c.hear qt localUserId q = c ∨ c.hear qt localUserId q = c.add q.packet.userId.toInt64 := by
  have hdecode : decodeUserProfile qt q.packet.payload q.packet.userId.toInt64 = none ∨
      ∃ name avatar, decodeUserProfile qt q.packet.payload q.packet.userId.toInt64 =
        some (.userProfileNotify q.packet.userId.toInt64 name avatar) := by
    unfold decodeUserProfile
    dsimp only
    split_ifs
    · exact Or.inl rfl
    · exact Or.inl rfl
    · exact Or.inl rfl
    · exact Or.inr ⟨_, _, rfl⟩
  unfold hear Queued.heard
  rw [htype]
  show (match decodeUserProfile qt q.packet.payload q.packet.userId.toInt64 with
    | some msg => c.dispatch localUserId msg
    | none => c) = c ∨ (match decodeUserProfile qt q.packet.payload q.packet.userId.toInt64 with
    | some msg => c.dispatch localUserId msg
    | none => c) = c.add q.packet.userId.toInt64
  rcases hdecode with hnone | ⟨name, avatar, hsome⟩
  · left
    rw [hnone]
  · right
    rw [hsome]
    rfl

/-- Texts and camera notices change neither the partners nor the switches. -/
theorem hear_other {q : Queued} (htype : q.packet.type = .textRecv ∨ q.packet.type = .closeCamera) :
    c.hear qt localUserId q = c := by
  unfold hear Queued.heard
  rcases htype with htype | htype <;> (rw [htype]; rfl)

end Hear

end Client

end CCMeeting
