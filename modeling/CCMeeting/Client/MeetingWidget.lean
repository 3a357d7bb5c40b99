import CCMeeting.Lib.Transition
import CCMeeting.Client.Meeting

/-! # The client's threads in a meeting

`MeetingWidget` on the UI thread, `MeetingController` on its own and
`Connection` on the IO thread, with the queues between them. A slot of the
widget gives the widget after it and the calls it posts to the controller.

The send queue is not a part of it. Connecting waits for the send worker and
clears the queue, so nothing reaches a connection that was enqueued before it
was opened.
-/

namespace CCMeeting

open ByteString Transition

/-- `ConnectAction`. -/
inductive ConnectAction where
  | createMeeting
  | joinMeeting
deriving DecidableEq, Repr

/-- The arguments of `request_connect_to_server_slot`. The number tells the
requests of the user apart. -/
structure ConnectRequest where
  number : ℕ
  ip : ByteString
  port : ByteString
  action : ConnectAction
  roomNo : ByteString
  maxParticipants : UInt32
  durationMinutes : UInt32
deriving DecidableEq, Repr

/-- What the user has asked for. -/
def ConnectRequest.message (r : ConnectRequest) : Message :=
  match r.action with
  | .createMeeting => .createMeeting r.maxParticipants r.durationMinutes
  | .joinMeeting => .joinMeeting r.roomNo

/-- A call of a slot of `MeetingController`. The request whose completion has
led to it is a history variable. -/
inductive Command where
  | connectToServer (request : ConnectRequest)
  | createMeeting (origin : ConnectRequest) (maxParticipants durationMinutes : UInt32)
  | joinMeeting (origin : ConnectRequest) (roomNo : ByteString)
  | disconnectFromHost
deriving DecidableEq, Repr

namespace Command

/-- The connect a command asks for. -/
def connect? : Command → Option ConnectRequest
  | connectToServer r => some r
  | _ => none

/-- The request a command is to enqueue a message for. -/
def origin? : Command → Option ConnectRequest
  | createMeeting origin .. | joinMeeting origin .. => some origin
  | _ => none

/-- The message a command is to enqueue. -/
def message? : Command → Option Message
  | createMeeting _ maxParticipants durationMinutes =>
    some (.createMeeting maxParticipants durationMinutes)
  | joinMeeting _ roomNo => some (.joinMeeting roomNo)
  | _ => none

end Command

/-- The expression `on_join_meet_btn_slot` checks room numbers with. -/
def roomNoAcceptable : ByteString → Bool
  | [] => false
  | b :: rest => 49 ≤ b && b ≤ 57 && rest.length ≤ 10 && rest.all JsonText.isDigit

/-! ## `MeetingWidget` -/

/-- `MeetingWidget`. The roster, the switches and the flags `_createmeet`,
`_joinmeet` and `_sessionEnding` are those of `Client`. -/
structure MeetingWidget where
  meeting : Client
  /-- `_state._connecting` -/
  connecting : Bool
  /-- `_state._sessionActive` -/
  sessionActive : Bool
  /-- the pending connect, while `_state._hasPendingConnect` -/
  pendingConnect : Option ConnectRequest
  createMaxParticipants : UInt32
  createDurationMinutes : UInt32
  /-- `isVisible()` -/
  visible : Bool
  /-- the timers of `end_meeting_session` that have not run out -/
  timers : ℕ
  /-- the warnings of failed connects on the screen; the slot that shows one
  goes on when it is dismissed -/
  warnings : ℕ
  /-- a history variable: the request of the session, until
  `end_meeting_session` -/
  session : Option ConnectRequest
  /-- a history variable: the last connect posted -/
  posted : Option ConnectRequest
deriving DecidableEq

/-- What a slot leaves and posts. -/
abbrev Slot := MeetingWidget × List Command

namespace MeetingWidget

/-- A widget just made. -/
def fresh : MeetingWidget where
  meeting := .fresh
  connecting := false
  sessionActive := false
  pendingConnect := none
  createMaxParticipants := 8
  createDurationMinutes := 60
  visible := false
  timers := 0
  warnings := 0
  session := none
  posted := none

/-- `MeetingWidget::end_meeting_session`, with `reset_meeting_ui`. -/
def endMeetingSession (w : MeetingWidget) : Slot :=
  let meeting := ({ w.meeting with createmeet := false, joinmeet := false }.clear).applyFlags
    roomSettingsDefault
  let ended := { w with meeting, connecting := false, session := none }
  if w.sessionActive || w.connecting then
    ({ ended with
        meeting := { meeting with sessionEnding := true }
        sessionActive := false
        timers := w.timers + 1 }, [.disconnectFromHost])
  else (ended, [])

/-- `MeetingWidget::close_meeting_window`. -/
def closeMeetingWindow (w : MeetingWidget) : Slot :=
  let closed := { w with pendingConnect := none }
  let (closed, commands) :=
    if w.meeting.sessionEnding then (closed, []) else closed.endMeetingSession
  ({ closed with visible := false }, commands)

/-- `MeetingWidget::request_connect_to_server_slot`. -/
def requestConnectToServer (w : MeetingWidget) (r : ConnectRequest) : Slot :=
  if w.meeting.sessionEnding || w.connecting then ({ w with pendingConnect := some r }, [])
  else
    ({ w with
        connecting := true
        createMaxParticipants := r.maxParticipants
        createDurationMinutes := r.durationMinutes
        session := some r
        posted := some r }, [.connectToServer r])

/-- `MeetingWidget::flush_pending_connect`. -/
def flushPendingConnect (w : MeetingWidget) : Slot :=
  match w.pendingConnect with
  | some r => { w with pendingConnect := none }.requestConnectToServer r
  | none => (w, [])

/-- The session is over. -/
def release (w : MeetingWidget) : MeetingWidget :=
  { w with
    sessionActive := false
    meeting := { w.meeting with sessionEnding := false }
    connecting := false }

/-- `MeetingWidget::on_network_disconnected_slot`. -/
def onNetworkDisconnected (w : MeetingWidget) : Slot := w.release.flushPendingConnect

/-- The timer of `end_meeting_session` runs out. -/
def onTimeout (w : MeetingWidget) : Slot :=
  if w.meeting.sessionEnding then w.release.flushPendingConnect else (w, [])

/-- `MeetingWidget::on_join_meet_btn_slot`. -/
def onJoinMeetBtn (origin : ConnectRequest) (roomNo : ByteString) : List Command :=
  if roomNoAcceptable roomNo then [.joinMeeting origin roomNo] else []

/-- `MeetingWidget::on_connect_finished_slot`, with the slot of the main window
that hides the widget and warns. After the warning the slot closes the window. -/
def onConnectFinished (w : MeetingWidget) (ok : Bool) (r : ConnectRequest) : Slot :=
  let finished := { w with connecting := false }
  if ok then
    ({ finished with sessionActive := true },
      match r.action with
      | .createMeeting => [.createMeeting r w.createMaxParticipants w.createDurationMinutes]
      | .joinMeeting => onJoinMeetBtn r r.roomNo)
  else ({ finished with visible := false, warnings := w.warnings + 1 }, [])

/-- The messages at which a slot closes the window. -/
def closes : Message → Bool
  | .createMeetingResponse roomNo => roomNo.toInt32 = 0
  | .joinMeetingResponse responseCode => responseCode = 0 || responseCode = -1
  | .remoteHostClosedError | .otherNetError => true
  | _ => false

theorem closes_joinMeetingResponse {responseCode : Int32} :
    closes (.joinMeetingResponse responseCode) = true ↔ responseCode = 0 ∨ responseCode = -1 := by
  show (decide (responseCode = 0) || decide (responseCode = -1)) = true ↔ _
  rw [Bool.or_eq_true, decide_eq_true_iff, decide_eq_true_iff]

/-- `MeetingProtocolDispatcher` and the slots it is connected to. -/
def dispatch (localUserId : Int64) (w : MeetingWidget) (msg : Message) : Slot :=
  if closes msg then
    -- a lost connection is no news while the session is ending
    if (msg = .remoteHostClosedError ∨ msg = .otherNetError) ∧ w.meeting.sessionEnding = true then
      (w, [])
    else w.closeMeetingWindow
  else ({ w with meeting := w.meeting.dispatch localUserId msg }, [])

section

variable {localUserId : Int64} {w : MeetingWidget} {msg : Message}

/-- What closing the window does to a part of the meeting as `Client` does it,
the slots do as those of `Client` do. -/
theorem dispatch_part {α : Type} {f : Client → α}
    (hclose : f w.closeMeetingWindow.1.meeting = f w.meeting.closeMeetingWindow) :
    f (w.dispatch localUserId msg).1.meeting = f (w.meeting.dispatch localUserId msg) := by
  have hlost : w.meeting.sessionEnding = true → w.meeting.closeMeetingWindow = w.meeting :=
    fun hending => if_pos hending
  -- the window closes here or not; when the session is ending already, closing it again is a
  -- no-op
  unfold dispatch
  split_ifs with hcloses hending
  · rcases hending with ⟨rfl | rfl, hending⟩ <;> exact congrArg f (hlost hending).symm
  · rw [hclose]
    apply congrArg f
    cases msg with
    | createMeetingResponse roomNo =>
      show _ = w.meeting.onCreateMeetingResult localUserId roomNo.toInt32
      have hzero : roomNo.toInt32 = 0 := of_decide_eq_true hcloses
      rw [Client.onCreateMeetingResult, if_neg (not_not.mpr hzero)]
    | joinMeetingResponse responseCode =>
      have hcode := closes_joinMeetingResponse.mp hcloses
      show _ = w.meeting.onJoinMeetingResult localUserId responseCode
      unfold Client.onJoinMeetingResult
      split_ifs with hzero hfull
      · rfl
      · rfl
      · exact absurd hcode (not_or.mpr ⟨hzero, hfull⟩)
      · exact absurd hcode (not_or.mpr ⟨hzero, hfull⟩)
    | remoteHostClosedError | otherNetError => rfl
    | _ => cases hcloses
  · rfl

theorem closeMeetingWindow_partners :
    w.closeMeetingWindow.1.meeting.partners = w.meeting.closeMeetingWindow.partners := by
  unfold closeMeetingWindow Client.closeMeetingWindow
  by_cases hending : w.meeting.sessionEnding = true
  · simp only [if_pos hending]
  · simp only [if_neg hending, endMeetingSession]
    split_ifs <;> rfl

/-- The roster is that of `Client` in any case. -/
theorem dispatch_partners : (w.dispatch localUserId msg).1.meeting.partners =
    (w.meeting.dispatch localUserId msg).partners :=
  dispatch_part (f := Client.partners) closeMeetingWindow_partners

end

end MeetingWidget

end CCMeeting
