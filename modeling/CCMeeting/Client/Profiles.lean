import Mathlib.Logic.Function.Basic
import CCMeeting.Client.Agreement
import CCMeeting.Client.Meeting

/-! # The profiles a client holds

`ParticipantsController` keeps a name and an avatar for every partner. What a
packet of the server does to them goes through three classes: the frame is
decoded by the codec, the message is handed out by `MeetingProtocolDispatcher`,
and a slot of `MeetingWidget` calls the controller.
-/

namespace CCMeeting

open ByteString State

/-- The profile of a `Partner`: `m_displayName` and `m_avatarUrl`. -/
structure PartnerProfile where
  displayName : ByteString
  avatarUrl : ByteString
deriving DecidableEq, Repr

/-- The profile of a partner just added. -/
def PartnerProfile.blank : PartnerProfile where
  displayName := []
  avatarUrl := []

/-- `UserSession`: the user of a client. -/
structure LocalUser where
  userId : Int64
  /-- `name` and `avatar` -/
  profile : PartnerProfile
deriving DecidableEq, Repr

/-- What becomes of a text of a profile on its way to a `Partner`: the codec
makes a `QString` of it and a C string of that, the dispatcher a `QString`
again. -/
def Qt.held (qt : Qt) (text : ByteString) : ByteString := qt.utf8 (cString (qt.utf8 text))

/-- `ParticipantsController::_partners`, by user id. -/
abbrev Partners := Int64 → Option PartnerProfile

namespace Partners

/-- Nobody is there. -/
def empty : Partners := fun _ => none

/-- `ParticipantsController::add`: one who is there already is left as it is. -/
def add (ps : Partners) (userId : Int64) : Partners :=
  if ps userId = none then Function.update ps userId (some .blank) else ps

/-- `ParticipantsController::remove`. -/
def remove (ps : Partners) (userId : Int64) : Partners := Function.update ps userId none

/-- `ParticipantsController::apply_profile`, with `Partner::setProfile`. -/
def applyProfile (ps : Partners) (userId : Int64) (profile : PartnerProfile) : Partners :=
  Function.update (ps.add userId) userId (some profile)

/-- `MeetingWidget::close_meeting_window`. -/
def closeMeetingWindow (ps : Partners) (c : Client) : Partners :=
  if c.sessionEnding then ps else empty

/-- The user is let in. -/
def enter (ps : Partners) (me : LocalUser) : Partners :=
  (ps.applyProfile me.userId me.profile).add me.userId

/-- `MeetingWidget::on_create_meeting_result`. -/
def onCreateMeetingResult (me : LocalUser) (ps : Partners) (c : Client) (roomno : Int32) :
    Partners :=
  if roomno ≠ 0 then ps.enter me else ps.closeMeetingWindow c

/-- `MeetingWidget::on_join_meeting_result`. -/
def onJoinMeetingResult (me : LocalUser) (ps : Partners) (c : Client) (result : Int32) :
    Partners :=
  if result = 0 then ps.closeMeetingWindow c
  else if result = -1 then ps.closeMeetingWindow c
  else if 0 < result then ps.enter me
  else ps

/-- `MeetingProtocolDispatcher` and the slots it is connected to. -/
def dispatch (qt : Qt) (me : LocalUser) (ps : Partners) (c : Client) : Message → Partners
  | .createMeetingResponse roomNo => ps.onCreateMeetingResult me c roomNo.toInt32
  | .joinMeetingResponse responseCode => ps.onJoinMeetingResult me c responseCode
  | .remoteHostClosedError | .otherNetError => ps.closeMeetingWindow c
  | .partnerJoin userId => ps.add userId
  | .partnerExit userId => ps.remove userId
  | .partnerJoin2 userIds => userIds.foldl add ps
  | .userProfileNotify userId displayName avatarUrl =>
    ps.applyProfile userId ⟨qt.utf8 displayName, qt.utf8 avatarUrl⟩
  | _ => ps

/-! ## What a handler does to one partner -/

section

variable {ps : Partners} {userId x : Int64}

theorem add_self : ps.add userId userId = some ((ps userId).getD .blank) := by
  unfold add
  split_ifs with h
  · rw [Function.update_self, h]
    rfl
  · rcases Option.ne_none_iff_exists'.mp h with ⟨profile, hprofile⟩
    rw [hprofile]
    rfl

theorem add_of_ne (h : x ≠ userId) : ps.add userId x = ps x := by
  unfold add
  split_ifs
  · exact Function.update_of_ne h _ _
  · rfl

theorem remove_of_ne (h : x ≠ userId) : ps.remove userId x = ps x := Function.update_of_ne h _ _

theorem applyProfile_self (profile : PartnerProfile) :
    ps.applyProfile userId profile userId = some profile := Function.update_self ..

theorem applyProfile_of_ne (profile : PartnerProfile) (h : x ≠ userId) :
    ps.applyProfile userId profile x = ps x :=
  (Function.update_of_ne h _ _).trans (add_of_ne h)

theorem enter_of_ne {me : LocalUser} (h : x ≠ me.userId) : ps.enter me x = ps x :=
  (add_of_ne h).trans (applyProfile_of_ne _ h)

/-- A snapshot adds who is not there yet, and leaves everyone else. -/
theorem foldl_add (userIds : List Int64) :
    userIds.foldl add ps x = if x ∈ userIds then some ((ps x).getD .blank) else ps x := by
  induction userIds generalizing ps with
  | nil => rfl
  | cons userId userIds ih =>
    rw [List.foldl_cons, ih]
    by_cases hx : x = userId
    · subst hx
      rw [add_self]
      simp
    · rw [add_of_ne hx]
      simp [hx]

end

/-- The partners with a profile are those of `Client`. -/
def Of (ps : Partners) (c : Client) : Prop := ∀ userId, ps userId ≠ none ↔ userId ∈ c.partners

section

variable {ps : Partners} {c : Client} {me : LocalUser}

theorem Of.add (h : ps.Of c) (userId : Int64) : (ps.add userId).Of (c.add userId) := by
  intro x
  show _ ↔ x ∈ insert userId c.partners
  rw [Finset.mem_insert]
  by_cases hx : x = userId
  · subst hx
    rw [add_self]
    simp
  · rw [add_of_ne hx, h x]
    simp [hx]

theorem Of.applyProfile (h : ps.Of c) (userId : Int64) (profile : PartnerProfile) :
    (ps.applyProfile userId profile).Of (c.applyProfile userId) := by
  intro x
  refine Iff.trans ?_ (h.add userId x)
  by_cases hx : x = userId
  · subst hx
    rw [applyProfile_self, add_self]
    simp
  · rw [applyProfile_of_ne _ hx, add_of_ne hx]

theorem Of.remove (h : ps.Of c) (userId : Int64) : (ps.remove userId).Of (c.remove userId) := by
  intro x
  show _ ↔ x ∈ c.partners.erase userId
  rw [Finset.mem_erase]
  by_cases hx : x = userId
  · subst hx
    simp [Partners.remove]
  · rw [remove_of_ne hx, h x]
    simp [hx]

theorem Of.closeMeetingWindow (h : ps.Of c) :
    (ps.closeMeetingWindow c).Of c.closeMeetingWindow := by
  unfold Partners.closeMeetingWindow Client.closeMeetingWindow
  split_ifs
  · exact h
  · intro x
    simp [empty, Client.endMeetingSession, Client.clear, Client.applyFlags]

theorem Of.enter (h : ps.Of c) : (ps.enter me).Of ((c.applyProfile me.userId).add me.userId) :=
  (h.applyProfile me.userId me.profile).add me.userId

theorem Of.foldl_add (h : ps.Of c) (userIds : List Int64) :
    (userIds.foldl Partners.add ps).Of (c.onPartnersSnapshot userIds) := by
  induction userIds generalizing ps c with
  | nil => exact h
  | cons userId userIds ih => exact ih (h.add userId)

/-- The handlers do to the profiles what those of `Client` do to the partners. -/
theorem Of.dispatch (h : ps.Of c) (qt : Qt) (msg : Message) :
    (ps.dispatch qt me c msg).Of (c.dispatch me.userId msg) := by
  cases msg with
  | createMeetingResponse roomNo =>
    show (ps.onCreateMeetingResult me c roomNo.toInt32).Of
      (c.onCreateMeetingResult me.userId roomNo.toInt32)
    unfold onCreateMeetingResult Client.onCreateMeetingResult
    split_ifs
    · exact h.enter
    · exact h.closeMeetingWindow
  | joinMeetingResponse responseCode =>
    show (ps.onJoinMeetingResult me c responseCode).Of
      (c.onJoinMeetingResult me.userId responseCode)
    unfold onJoinMeetingResult Client.onJoinMeetingResult
    split_ifs
    · exact h.closeMeetingWindow
    · exact h.closeMeetingWindow
    · exact h.enter
    · exact h
  | remoteHostClosedError | otherNetError => exact h.closeMeetingWindow
  | partnerJoin userId => exact h.add userId
  | partnerExit userId => exact h.remove userId
  | partnerJoin2 userIds => exact h.foldl_add userIds
  | userProfileNotify userId _ _ => exact h.applyProfile userId _
  | _ => exact h

end

end Partners

/-! ## What is heard of the server -/

/-- What a client makes of the frame of a packet. -/
def Queued.decoded (platform : Platform) (qt : Qt) (q : Queued) : Option Message :=
  match encode platform q.packet with
  | .ok text => decodeJsonFrame qt text
  | .error _ => none

/-- A client in a meeting, with the profiles of its partners. -/
structure ProfileClient where
  meeting : Client
  partners : Partners

namespace ProfileClient

/-- A client just started. -/
def fresh : ProfileClient where
  meeting := .fresh
  partners := .empty

variable (platform : Platform) (qt : Qt) (me : LocalUser)

/-- A packet of the server is handled, unless nothing came of decoding it. -/
def hear (c : ProfileClient) (q : Queued) : ProfileClient :=
  match q.decoded platform qt with
  | some msg =>
    { meeting := c.meeting.dispatch me.userId msg
      partners := c.partners.dispatch qt me c.meeting msg }
  | none => c

/-- The client after some packets. -/
def hearAll (c : ProfileClient) (qs : List Queued) : ProfileClient :=
  qs.foldl (hear platform qt me) c

theorem hearAll_append (c : ProfileClient) (qs qs' : List Queued) :
    c.hearAll platform qt me (qs ++ qs') =
      (c.hearAll platform qt me qs).hearAll platform qt me qs' := List.foldl_append

end ProfileClient

end CCMeeting
