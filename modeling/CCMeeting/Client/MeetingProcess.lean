import CCMeeting.Client.MeetingWidget

/-! # The runs of the client in a meeting

What the user, the three threads and the server can do. The queue of a thread
is served in order; what crosses from the IO thread to the widget is posted
twice, once to the object that takes it and once to the widget.
-/

namespace CCMeeting

open ByteString Transition

/-- A posted call in the queue of the UI thread. -/
inductive UiEvent where
  /-- `MeetingController::connect_finished_signal` -/
  | connectFinished (ok : Bool) (request : ConnectRequest)
  /-- `Connection::disconnected`, which `NetworkManager` passes on -/
  | connectionDisconnected
  /-- `NetworkManager::disconnected` -/
  | networkDisconnected
  /-- `MessageHub::emit_incoming`; the connection is a history variable -/
  | emitIncoming (connection : ConnectRequest) (msg : Message)
  /-- the signals of `NetworkManager` for messages -/
  | messageReady (connection : ConnectRequest) (msg : Message)
deriving DecidableEq, Repr

/-- The kinds `MessageHub::emit_incoming` passes on. -/
def Message.isIncoming : Message → Bool
  | createMeetingResponse .. | joinMeetingResponse .. | remoteHostClosedError | otherNetError
  | partnerJoin .. | partnerExit .. | partnerJoin2 .. | closeCameraNotify ..
  | userProfileNotify .. | roomSettingsNotify .. | recvText .. => true
  | _ => false

/-- A request to create or to join a meeting, enqueued while a connection is open. -/
structure Enqueued where
  connection : ConnectRequest
  origin : ConnectRequest
  message : Message
deriving DecidableEq, Repr

/-- The client's threads, and what is on the way between them. -/
structure MeetingProcess where
  widget : MeetingWidget
  /-- the queue of the UI thread -/
  ui : List UiEvent
  /-- the queue of the controller's thread -/
  commands : List Command
  /-- the calls of `disconnectOnIoThread` in the queue of the IO thread -/
  disconnects : ℕ
  /-- the request `Connection::m_socket` was opened for -/
  socket : Option ConnectRequest
  /-- how many requests the user has made -/
  requests : ℕ
  /-- a history variable: the requests enqueued while a connection was open -/
  enqueued : List Enqueued
deriving DecidableEq

namespace MeetingProcess

/-- The process just started. -/
def fresh : MeetingProcess where
  widget := .fresh
  ui := []
  commands := []
  disconnects := 0
  socket := none
  requests := 0
  enqueued := []

/-- A slot of the widget has run. -/
def run (p : MeetingProcess) (slot : Slot) : MeetingProcess :=
  { p with widget := slot.1, commands := p.commands ++ slot.2 }

/-- The call of a slot of the UI thread. -/
def handle (localUserId : Int64) (p : MeetingProcess) : UiEvent → MeetingProcess
  | .connectFinished ok r => p.run (p.widget.onConnectFinished ok r)
  | .connectionDisconnected => { p with ui := p.ui ++ [.networkDisconnected] }
  | .networkDisconnected => p.run p.widget.onNetworkDisconnected
  | .emitIncoming connection msg =>
    if msg.isIncoming then { p with ui := p.ui ++ [.messageReady connection msg] } else p
  | .messageReady _ msg => p.run (p.widget.dispatch localUserId msg)

/-- `MessageHub::enqueue_send` of a request. -/
def enqueueSend (p : MeetingProcess) (origin : ConnectRequest) (message : Message) :
    MeetingProcess :=
  match p.socket with
  | some connection => { p with enqueued := p.enqueued ++ [{ connection, origin, message }] }
  | none => p

theorem enqueueSend_cases (p : MeetingProcess) (origin : ConnectRequest) (message : Message) :
    p.enqueueSend origin message = p ∨ ∃ connection, p.socket = some connection ∧
      p.enqueueSend origin message =
        { p with enqueued := p.enqueued ++ [{ connection, origin, message }] } := by
  unfold enqueueSend
  cases p.socket with
  | none => exact Or.inl rfl
  | some connection => exact Or.inr ⟨connection, rfl, rfl⟩

/-- A slot of `MeetingController`, where it need not wait; `ok` is how a
handshake ends. -/
def perform (p : MeetingProcess) (ok : Bool) : Command → Option MeetingProcess
  | .connectToServer r =>
    -- posted to the IO thread as well, behind the calls that are there
    if p.disconnects = 0 then
      some { p with
        socket := if ok then some r else none
        ui := p.ui ++ [.connectFinished ok r] }
    else none
  | .createMeeting origin maxParticipants durationMinutes =>
    some (p.enqueueSend origin (.createMeeting maxParticipants durationMinutes))
  | .joinMeeting origin roomNo => some (p.enqueueSend origin (.joinMeeting roomNo))
  | .disconnectFromHost => some { p with disconnects := p.disconnects + 1 }

/-- What can happen. -/
inductive Event where
  /-- `main_window::CreateMeeting_button_clicked` -/
  | createMeeting (ip port : ByteString) (maxParticipants durationMinutes : UInt32)
  /-- `main_window::JoinMeeting_button_clicked` -/
  | joinMeeting (ip port : ByteString) (roomNo : ByteString)
  /-- `MeetingWidget::closeEvent` -/
  | closeWindow
  /-- the user changes the switches of the room -/
  | editSettings (allowRecord allowShare : Bool)
  /-- the user has seen the warning of a failed connect -/
  | dismissWarning
  | timer
  | ui
  | controller (ok : Bool)
  /-- the IO thread runs `disconnectOnIoThread` -/
  | io
  /-- `Connection::onTextMessage` or `onSocketError` -/
  | receive (msg : Message)
deriving DecidableEq

/-- The user has no window in the way. -/
def atRest (p : MeetingProcess) : Prop := p.widget.visible = false ∧ p.widget.warnings = 0

instance (p : MeetingProcess) : Decidable p.atRest := inferInstanceAs (Decidable (_ ∧ _))

/-- The user makes a request: the window is shown first. -/
def request (p : MeetingProcess) (r : ConnectRequest) : MeetingProcess :=
  { p with requests := p.requests + 1 }.run
    ({ p.widget with visible := true }.requestConnectToServer r)

/-- What an event does, where it can happen. -/
def next (localUserId : Int64) (p : MeetingProcess) : Event → Option MeetingProcess
  | .createMeeting ip port maxParticipants durationMinutes =>
    if p.atRest then
      some (p.request
        { number := p.requests, ip, port, action := .createMeeting, roomNo := [], maxParticipants,
          durationMinutes })
    else none
  | .joinMeeting ip port roomNo =>
    if p.atRest ∧ roomNo ≠ [] then
      some (p.request
        { number := p.requests, ip, port, action := .joinMeeting, roomNo, maxParticipants := 8,
          durationMinutes := 60 })
    else none
  | .closeWindow =>
    if p.widget.visible = true ∧ p.widget.warnings = 0 then some (p.run p.widget.closeMeetingWindow)
    else none
  | .editSettings allowRecord allowShare =>
    if p.widget.visible = true ∧ p.widget.warnings = 0 then
      (p.widget.meeting.emitSettings allowRecord allowShare).map fun flags =>
        { p with widget := { p.widget with meeting := p.widget.meeting.settingsEdited flags } }
    else none
  | .dismissWarning =>
    if p.widget.warnings = 0 then none
    else
      some (p.run { p.widget with warnings := p.widget.warnings - 1 }.closeMeetingWindow)
  | .timer =>
    if p.widget.timers = 0 then none
    else some (p.run { p.widget with timers := p.widget.timers - 1 }.onTimeout)
  | .ui =>
    match p.ui with
    | e :: rest => some ({ p with ui := rest }.handle localUserId e)
    | [] => none
  | .controller ok =>
    match p.commands with
    | c :: commands => { p with commands }.perform ok c
    | [] => none
  | .io =>
    if p.disconnects = 0 then none
    else
      some { p with
        disconnects := p.disconnects - 1
        socket := none
        ui := p.ui ++ [.connectionDisconnected] }
  | .receive msg =>
    p.socket.map fun connection => { p with ui := p.ui ++ [.emitIncoming connection msg] }

/-- The runs of the client in a meeting. -/
def system (localUserId : Int64) : System MeetingProcess Event where
  Init p := p = fresh
  Step p e p' := p.next localUserId e = some p'

/-- What a step can be. -/
inductive Step (localUserId : Int64) (p : MeetingProcess) : Event → MeetingProcess → Prop where
  | request {e : Event} {r : ConnectRequest} :
      p.atRest → r.number = p.requests → Step localUserId p e (p.request r)
  | closeWindow : Step localUserId p .closeWindow (p.run p.widget.closeMeetingWindow)
  | editSettings (allowRecord allowShare : Bool) (flags : UInt32) :
      Step localUserId p (.editSettings allowRecord allowShare)
        { p with widget := { p.widget with meeting := p.widget.meeting.settingsEdited flags } }
  | dismissWarning : Step localUserId p .dismissWarning
      (p.run { p.widget with warnings := p.widget.warnings - 1 }.closeMeetingWindow)
  | timer : Step localUserId p .timer
      (p.run { p.widget with timers := p.widget.timers - 1 }.onTimeout)
  | ui {e : UiEvent} {rest : List UiEvent} :
      p.ui = e :: rest → Step localUserId p .ui ({ p with ui := rest }.handle localUserId e)
  | connect {ok : Bool} {r : ConnectRequest} {commands : List Command} :
      p.commands = .connectToServer r :: commands → Step localUserId p (.controller ok)
        { p with
          commands
          socket := if ok then some r else none
          ui := p.ui ++ [.connectFinished ok r] }
  | enqueue {ok : Bool} {c : Command} {commands : List Command} {origin : ConnectRequest}
      {message : Message} :
      p.commands = c :: commands → c.connect? = none → c.origin? = some origin →
        c.message? = some message →
          Step localUserId p (.controller ok) ({ p with commands }.enqueueSend origin message)
  | disconnect {ok : Bool} {commands : List Command} :
      p.commands = .disconnectFromHost :: commands → Step localUserId p (.controller ok)
        { p with commands, disconnects := p.disconnects + 1 }
  | io : Step localUserId p .io
      { p with
        disconnects := p.disconnects - 1
        socket := none
        ui := p.ui ++ [.connectionDisconnected] }
  | receive {connection : ConnectRequest} {msg : Message} :
      p.socket = some connection → Step localUserId p (.receive msg)
        { p with ui := p.ui ++ [.emitIncoming connection msg] }

theorem Step.of_next {localUserId : Int64} {p p' : MeetingProcess} {e : Event}
    (hstep : p.next localUserId e = some p') : Step localUserId p e p' := by
  cases e with
  | createMeeting ip port maxParticipants durationMinutes =>
    simp only [next] at hstep
    split_ifs at hstep with hrest
    cases hstep
    exact .request hrest rfl
  | joinMeeting ip port roomNo =>
    simp only [next] at hstep
    split_ifs at hstep with hrest
    cases hstep
    exact .request hrest.1 rfl
  | closeWindow =>
    simp only [next] at hstep
    split_ifs at hstep
    cases hstep
    exact .closeWindow
  | editSettings allowRecord allowShare =>
    simp only [next] at hstep
    split_ifs at hstep
    rcases Option.map_eq_some_iff.mp hstep with ⟨flags, _, rfl⟩
    exact .editSettings allowRecord allowShare flags
  | dismissWarning =>
    simp only [next] at hstep
    split_ifs at hstep
    cases hstep
    exact .dismissWarning
  | timer =>
    simp only [next] at hstep
    split_ifs at hstep
    cases hstep
    exact .timer
  | ui =>
    cases hui : p.ui with
    | nil =>
      simp only [next, hui] at hstep
      cases hstep
    | cons e rest =>
      simp only [next, hui] at hstep
      cases hstep
      exact .ui hui
  | controller ok =>
    cases hcommands : p.commands with
    | nil =>
      simp only [next, hcommands] at hstep
      cases hstep
    | cons c commands =>
      simp only [next, hcommands] at hstep
      cases c with
      | connectToServer r =>
        simp only [perform] at hstep
        by_cases hidle : p.disconnects = 0
        · rw [if_pos hidle] at hstep
          cases hstep
          exact .connect hcommands
        · rw [if_neg hidle] at hstep
          cases hstep
      | createMeeting origin maxParticipants durationMinutes =>
        cases hstep
        exact .enqueue hcommands rfl rfl rfl
      | joinMeeting origin roomNo =>
        cases hstep
        exact .enqueue hcommands rfl rfl rfl
      | disconnectFromHost =>
        cases hstep
        exact .disconnect hcommands
  | io =>
    simp only [next] at hstep
    split_ifs at hstep
    cases hstep
    exact .io
  | receive msg =>
    rcases Option.map_eq_some_iff.mp hstep with ⟨connection, hsocket, rfl⟩
    exact .receive hsocket

theorem reachable_of_guarded {localUserId : Int64} {C : MeetingProcess → Event → Prop}
    [∀ p e, Decidable (C p e)] {es : List Event} {p : MeetingProcess}
    (hrun : replay (guarded C (next localUserId)) fresh es = some p) :
    Reachable ((system localUserId).restrict C) p :=
  (Run.of_replay (fun _ _ _ => guarded_step fun _ _ _ => id) hrun).reachable (.init rfl)

/-! ## What concrete runs begin with -/

/-- The user asks for a new meeting. -/
def createsMeeting : Event := .createMeeting (ascii "10.0.0.1") (ascii "9000") 5 60

/-- The user asks to join room 123. -/
def joinsMeeting : Event := .joinMeeting (ascii "10.0.0.1") (ascii "9000") (ascii "123")

end MeetingProcess

end CCMeeting
