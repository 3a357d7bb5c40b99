import CCMeeting.Client.RoomNumber

/-! # The local media of a meeting

`MeetingMediaController` owns the engine and the three switches of the local
media, `RoomSettingsController` the permissions and the recorder, and
`MeetingWidget` connects them: it keeps a copy of the switches, shows them on its
buttons and hears the engine's callbacks. A slot runs to its end, but for a box
it opens: while the box is open other slots run, and the slot goes on when it is
dismissed.

The engine is not part of the repository. What it answers is part of the event
that leads to the call; what it has been asked is kept in order.
-/

namespace CCMeeting

open ByteString Transition

/-! ## The engine -/

/-- `XRTCJoinConfig`, but for what is taken from the configuration file and the
session of the user. -/
structure JoinConfig where
  roomId : UInt64
  createRoomIfMissing : Bool
  maxPublishers : UInt32
  videoDeviceId : ByteString
  audioDeviceId : ByteString
  playoutDeviceId : ByteString
deriving DecidableEq, Repr

/-- A call of the engine with what it has answered, or a message to the other
members. -/
inductive MediaCall where
  | createXrtcEngine
  | setVideoCaptureRequest
  | join (config : JoinConfig)
  | startLocalVideo (ok : Bool)
  | stopLocalVideo
  | startLocalAudio (ok : Bool)
  | stopLocalAudio
  | startLocalScreen (screenId : ByteString) (ok : Bool)
  | stopLocalScreen
  | setVideoDevice (deviceId : ByteString)
  | setAudioDevice (deviceId : ByteString)
  | setPlayoutDevice (deviceId : ByteString)
  | destroyXrtcEngine
  /-- `NetworkManager::sendCloseCamera` -/
  | sendCloseCamera
deriving DecidableEq, Repr

/-- Whether there is an engine: one is created where there is none, and one that is
not there is neither asked for anything nor given up. -/
def engineNext : Bool → MediaCall → Option Bool
  | there, .sendCloseCamera => some there
  | false, .createXrtcEngine => some true
  | false, _ => none
  | true, .createXrtcEngine => none
  | true, .destroyXrtcEngine => some false
  | true, _ => some true

/-- What an engine is in use for. -/
structure EngineUse where
  camera : Bool
  microphone : Bool
  screen : Bool
  /-- the others have still to be told that the picture has stopped -/
  untold : Bool
deriving DecidableEq, Repr

namespace EngineUse

/-- An engine that captures nothing. -/
def idle : EngineUse where
  camera := false
  microphone := false
  screen := false
  untold := false

/-- The calls there may be while an engine exists. Camera and screen feed one
track: starting one stops the other. -/
def call (u : EngineUse) : MediaCall → Option (Option EngineUse)
  | .createXrtcEngine => none
  | .setVideoCaptureRequest => some (some u)
  | .join _ => if u = idle then some (some u) else none
  | .startLocalVideo ok =>
    if u.camera then none
    else some (some { u with camera := ok, screen := u.screen && !ok })
  | .stopLocalVideo =>
    if u.camera then some (some { u with camera := false, untold := true }) else none
  | .startLocalAudio ok => if u.microphone then none else some (some { u with microphone := ok })
  | .stopLocalAudio => if u.microphone then some (some { u with microphone := false }) else none
  | .startLocalScreen screenId ok =>
    if u.screen || screenId.isEmpty then none
    else some (some { u with screen := ok, camera := u.camera && !ok })
  | .stopLocalScreen =>
    if u.screen then some (some { u with screen := false, untold := true }) else none
  | .setVideoDevice deviceId | .setAudioDevice deviceId | .setPlayoutDevice deviceId =>
    if deviceId.isEmpty then none else some (some u)
  | .destroyXrtcEngine => some none
  | .sendCloseCamera => none

/-- How an engine is used by a careful program: there is one at most, it joins while
it captures nothing, what is started is not running, what is stopped is, and a
stopped picture is made known at once. -/
def next : Option EngineUse → MediaCall → Option (Option EngineUse)
  | none, .createXrtcEngine => some (some idle)
  | none, _ => none
  | some u, c =>
    if u.untold then
      match c with
      | .sendCloseCamera => some (some { u with untold := false })
      | _ => none
    else u.call c

end EngineUse

/-! ## `MeetingMediaController` -/

/-- `MeetingMediaController`. -/
structure MeetingMediaController where
  /-- `_rtc` is not null -/
  rtc : Bool
  joined : Bool
  videoOn : Bool
  audioOn : Bool
  screenOn : Bool
  videoDeviceId : ByteString
  audioDeviceId : ByteString
  playoutDeviceId : ByteString
deriving DecidableEq, Repr

/-- What a method does outside of the controller, in order. -/
inductive MediaEffect where
  | call (c : MediaCall)
  | stateChanged
  | localCameraStopped
  /-- `notice`, and `state_changed` once its box is dismissed -/
  | notice
deriving DecidableEq, Repr

/-- The devices there are, and the ones saved in the preferences. -/
structure Devices where
  cameras : List ByteString
  microphones : List ByteString
  speakers : List ByteString
  savedVideo : ByteString
  savedAudio : ByteString
deriving DecidableEq, Repr

/-- Where `start` may throw. -/
inductive StartFault where
  | createEngine
  | captureRequest
  | buildConfig
  | join
deriving DecidableEq, Repr

/-- A screen, and whether it is the primary one. -/
structure ScreenInfo where
  screenId : ByteString
  primary : Bool
deriving DecidableEq, Repr

namespace MeetingMediaController

/-- A controller just made. -/
def fresh : MeetingMediaController where
  rtc := false
  joined := false
  videoOn := false
  audioOn := false
  screenOn := false
  videoDeviceId := []
  audioDeviceId := []
  playoutDeviceId := []

/-- What the engine is in use for, by the switches. -/
def use (c : MeetingMediaController) : Option EngineUse :=
  if c.rtc then
    some { camera := c.videoOn, microphone := c.audioOn, screen := c.screenOn, untold := false }
  else none

/-- The device of a kind `build_join_config` asks for: the one selected, else the
one saved, else the first. -/
def chooseDevice (selected saved : ByteString) (devices : List ByteString) : ByteString :=
  if selected ≠ [] then selected else if saved ≠ [] then saved else devices.headD []

/-- `StartOptions`. -/
structure StartOptions where
  roomNo : Int32
  createRoom : Bool
  maxParticipants : UInt32
deriving DecidableEq, Repr

/-- `build_join_config`, with an engine. No playout device is saved. -/
def buildJoinConfig (c : MeetingMediaController) (options : StartOptions) (devices : Devices) :
    JoinConfig where
  roomId := options.roomNo.toInt64.toUInt64
  createRoomIfMissing := options.createRoom
  maxPublishers := options.maxParticipants
  videoDeviceId := chooseDevice c.videoDeviceId devices.savedVideo devices.cameras
  audioDeviceId := chooseDevice c.audioDeviceId devices.savedAudio devices.microphones
  playoutDeviceId := chooseDevice c.playoutDeviceId [] devices.speakers

/-- The switches off and the room left. -/
def off (c : MeetingMediaController) : MeetingMediaController :=
  { c with joined := false, videoOn := false, audioOn := false, screenOn := false }

/-- `shutdown`. -/
def shutdown (c : MeetingMediaController) : MeetingMediaController × List MediaEffect :=
  ({ c.off with rtc := false }, if c.rtc then [.call .destroyXrtcEngine] else [])

/-- `stop`. -/
def stop (c : MeetingMediaController) : MeetingMediaController × List MediaEffect :=
  (c.shutdown.1, c.shutdown.2 ++ [.stateChanged])

/-- What `start` does with an engine, until it returns or throws. -/
def startEffects (c : MeetingMediaController) (options : StartOptions)
    (fault : Option StartFault) (devices : Devices) : List MediaEffect :=
  (if c.rtc then [] else [.call .createXrtcEngine]) ++
    [.stateChanged, .call .setVideoCaptureRequest] ++
    match fault with
    | some .captureRequest | some .buildConfig => []
    | _ => [.call (.join (c.buildJoinConfig options devices))]

/-- `start`, with where it throws. Nothing is created, and so nothing fails to be,
where there is an engine already. -/
def start (c : MeetingMediaController) (options : StartOptions) (fault : Option StartFault)
    (devices : Devices) : MeetingMediaController × List MediaEffect :=
  if options.roomNo ≤ 0 then (c, [])
  else if !c.rtc && fault = some .createEngine then c.stop
  else
    let started := { c.off with rtc := true }
    let effects := c.startEffects options fault devices
    match fault with
    | none | some .createEngine => (started, effects)
    | _ => (started.stop.1, effects ++ started.stop.2)

/-- `set_video_on`; `ok` is the engine's answer. -/
def setVideoOn (c : MeetingMediaController) (on ok : Bool) :
    MeetingMediaController × List MediaEffect :=
  if !c.rtc || !c.joined || on = c.videoOn then (c, [])
  else if on then
    if ok then
      ({ c with screenOn := false, videoOn := true },
        [.call (.startLocalVideo true), .stateChanged])
    else (c, [.call (.startLocalVideo false), .notice])
  else
    ({ c with videoOn := false }, [.call .stopLocalVideo, .localCameraStopped, .stateChanged])

/-- `set_audio_on`. -/
def setAudioOn (c : MeetingMediaController) (on ok : Bool) :
    MeetingMediaController × List MediaEffect :=
  if !c.rtc || !c.joined || on = c.audioOn then (c, [])
  else if on && !ok then (c, [.call (.startLocalAudio false), .notice])
  else
    ({ c with audioOn := on },
      [.call (if on then .startLocalAudio true else .stopLocalAudio), .stateChanged])

/-- `preferred_screen_id`, with an engine. -/
def preferredScreenId (screens : List ScreenInfo) : ByteString :=
  match screens.find? (·.primary) with
  | some screen => screen.screenId
  | none => (screens.map (·.screenId)).headD []

/-- `set_screen_on`, with the screens the engine lists. -/
def setScreenOn (c : MeetingMediaController) (on : Bool) (screens : List ScreenInfo) (ok : Bool) :
    MeetingMediaController × List MediaEffect :=
  if !c.rtc || !c.joined || on = c.screenOn then (c, [])
  else if on then
    let target := preferredScreenId screens
    if target.isEmpty then (c, [.notice])
    else if ok then
      ({ c with screenOn := true, videoOn := false },
        [.call (.startLocalScreen target true), .stateChanged])
    else (c, [.call (.startLocalScreen target false), .notice])
  else
    ({ c with screenOn := false }, [.call .stopLocalScreen, .localCameraStopped, .stateChanged])

/-- `select_video_device`, `select_audio_device` and `select_playout_device`: where
the identifier goes, and the call there is for it. -/
def selectDevice (set : ByteString → MeetingMediaController) (call : ByteString → MediaCall)
    (c : MeetingMediaController) (deviceId : ByteString) :
    MeetingMediaController × List MediaEffect :=
  if deviceId.isEmpty then (c, [])
  else (set deviceId, if c.rtc then [.call (call deviceId)] else [])

/-- `select_video_device`. -/
def selectVideoDevice (c : MeetingMediaController) :
    ByteString → MeetingMediaController × List MediaEffect :=
  selectDevice (fun videoDeviceId => { c with videoDeviceId }) .setVideoDevice c

/-- `select_audio_device`. -/
def selectAudioDevice (c : MeetingMediaController) :
    ByteString → MeetingMediaController × List MediaEffect :=
  selectDevice (fun audioDeviceId => { c with audioDeviceId }) .setAudioDevice c

/-- `select_playout_device`. -/
def selectPlayoutDevice (c : MeetingMediaController) :
    ByteString → MeetingMediaController × List MediaEffect :=
  selectDevice (fun playoutDeviceId => { c with playoutDeviceId }) .setPlayoutDevice c

end MeetingMediaController

/-! ## `MeetingWidget` -/

/-- What the recorder reports from inside a call, or on its own: nothing, that it has
stopped, or an error. `finalize` looks whether the file is any good. -/
inductive RecorderReport where
  | silent
  | stopped (fileOk : Bool)
  | error (fileOk : Bool)
deriving DecidableEq, Repr

/-- What a slot has still to do. -/
inductive MediaTask where
  /-- `RoomSettingsController::stop_recording`, where something is recorded -/
  | stopRecording
  /-- the slots of the recorder's signals, `finalize` and `failed` among them -/
  | recorderReports (report : RecorderReport)
  /-- `finalize` after `finished` -/
  | releasePipeline
  /-- a box with a text -/
  | warning
  /-- `MeetingRecorder::start` after `record()` -/
  | recordingStarted
  /-- `apply_flags` after the recorder has been stopped -/
  | emitFlagsApplied
  /-- `stop_meeting_media` after the recorder has been stopped -/
  | stopMedia
  /-- `end_meeting_session` after the recorder has been stopped -/
  | endSession
  /-- `close_meeting_window` after the session has been ended -/
  | hide
  /-- `shutdown_all_workers` after the recorder has been stopped, and the rest of
  `~MeetingWidget` -/
  | shutDown
deriving DecidableEq, Repr

/-- A box a slot has opened and waits for. -/
inductive MediaBox where
  | notice
  /-- the one of `handle_rtc_session_lost` -/
  | sessionLost
  /-- one about the recorder, with what is left of the slot -/
  | slot (rest : List MediaTask)
deriving DecidableEq, Repr

/-- `MeetingWidget` with its `MeetingMediaController` and its
`RoomSettingsController`. The session is that of the widget's slots before. -/
structure MediaWidget where
  widget : MeetingWidget
  /-- `_roomNo` -/
  roomNo : Int32
  /-- `_state._rtcJoined` -/
  rtcJoined : Bool
  /-- `_state._localVideoOn` -/
  localVideoOn : Bool
  /-- `_state._localAudioOn` -/
  localAudioOn : Bool
  /-- `_state._localScreenOn` -/
  localScreenOn : Bool
  media : MeetingMediaController
  /-- `RoomSettingsController::_sessionActive` -/
  roomSessionActive : Bool
  /-- `MeetingRecorder::is_recording` -/
  recording : Bool
  /-- `MeetingRecorder::_recorder` is not null; without it no frame is recorded -/
  recorder : Bool
  /-- `MeetingRecorder::_finalized` -/
  finalized : Bool
  /-- what the recorder reports from inside `stop()`, should it be called next -/
  stopReport : RecorderReport
  /-- `ui.shareScreenBtn` is enabled -/
  shareScreenBtn : Bool
  /-- the boxes that are open, the last one at the head -/
  boxes : List MediaBox
  /-- not destroyed yet -/
  alive : Bool
  /-- a history variable: the calls of the engine and the messages, in order -/
  calls : List MediaCall
deriving DecidableEq

namespace MediaWidget

/-- A widget just made. -/
def fresh : MediaWidget where
  widget := .fresh
  roomNo := 0
  rtcJoined := false
  localVideoOn := false
  localAudioOn := false
  localScreenOn := false
  media := .fresh
  roomSessionActive := false
  recording := false
  recorder := false
  finalized := true
  stopReport := .silent
  shareScreenBtn := false
  boxes := []
  alive := true
  calls := []

/-- A meeting has been created or joined. -/
def inMeeting (w : MediaWidget) : Bool := w.widget.meeting.createmeet || w.widget.meeting.joinmeet

/-- `RoomSettingsController::can_share_screen`. -/
def canShareScreen (w : MediaWidget) : Bool :=
  w.widget.meeting.isHost || w.widget.meeting.flags &&& kRoomSettingsAllowMemberShare != 0

/-- `RoomSettingsController::can_record`. -/
def canRecord (w : MediaWidget) : Bool :=
  w.widget.meeting.flags &&& kRoomSettingsAllowRecord != 0

/-- `sync_av_button_ui`, as far as a slot relies on a button: those of camera and
microphone check again what their buttons show. -/
def syncAvButtonUi (w : MediaWidget) : MediaWidget :=
  { w with shareScreenBtn := w.inMeeting && w.rtcJoined && w.canShareScreen }

/-- The switches of the controller shown. -/
def onStateChanged (w : MediaWidget) : MediaWidget :=
  { w with
    localVideoOn := w.media.videoOn
    localAudioOn := w.media.audioOn
    localScreenOn := w.media.screenOn }.syncAvButtonUi

/-- The copies of the switches cleared, before the controller does the same. -/
def clearLocal (w : MediaWidget) : MediaWidget :=
  { w with
    rtcJoined := false
    localVideoOn := false
    localAudioOn := false
    localScreenOn := false }

/-- The slots of the controller's signals. -/
def react (w : MediaWidget) : MediaEffect → MediaWidget
  | .call c => { w with calls := w.calls ++ [c] }
  | .stateChanged => w.onStateChanged
  | .localCameraStopped => { w with calls := w.calls ++ [.sendCloseCamera] }
  | .notice => { w with boxes := .notice :: w.boxes }

/-- A method of the controller is called. The switches are set before the signals,
or set once more to what they are. -/
def run (w : MediaWidget) (r : MeetingMediaController × List MediaEffect) : MediaWidget :=
  r.2.foldl react { w with media := r.1 }

/-- The slot of `flags_applied`. -/
def onFlagsApplied (w : MediaWidget) : MediaWidget :=
  if !w.canShareScreen && w.localScreenOn then
    (w.run (w.media.setScreenOn false [] false)).syncAvButtonUi
  else w.syncAvButtonUi

/-- The flags set in `RoomSettingsController::apply_flags`. -/
def setFlags (w : MediaWidget) (flags : UInt32) : MediaWidget :=
  { w with widget := { w.widget with meeting := w.widget.meeting.applyFlags flags } }

/-- `stop_meeting_media`, after the recorder has been stopped. -/
def stopMeetingMedia (w : MediaWidget) : MediaWidget := w.clearLocal.run w.media.stop

/-- `reset_meeting_ui`. -/
def resetMeetingUi (w : MediaWidget) : MediaWidget :=
  let reset := { w with shareScreenBtn := false, roomNo := 0 }.clearLocal
  -- the default allows recording: `apply_flags` does not stop the recorder
  { (reset.setFlags roomSettingsDefault).onFlagsApplied with roomSessionActive := false }

example (w : MediaWidget) : (w.setFlags roomSettingsDefault).canRecord = true := by
  show (roomSettingsDefault &&& kRoomSettingsAllowRecord != 0) = true
  decide

/-- `end_meeting_session`, after the recorder has been stopped. -/
def endMeetingSession (w : MediaWidget) : MediaWidget :=
  { w.stopMeetingMedia with widget := w.widget.endMeetingSession.1 }.resetMeetingUi

/-- The end of `~MeetingWidget`, after the recorder has been stopped: when the
controller is deleted, nothing is connected to it. -/
def shutDown (w : MediaWidget) : MediaWidget :=
  let ended := w.endMeetingSession
  { ended.run ended.media.shutdown with alive := false }

/-- `MeetingRecorder::release_pipeline`. -/
def releasePipeline (w : MediaWidget) : MediaWidget := { w with recorder := false }

/-- `MeetingRecorder::finalize`: the state it leaves, and what is left of it where the
slot of `finished` opens a box, as it does if the file is no good. -/
def finalize (w : MediaWidget) (fileOk : Bool) : MediaWidget × Option (List MediaTask) :=
  if w.finalized then (w, none)
  else
    let w := { w with finalized := true }
    if fileOk then (w.releasePipeline, none) else (w, some [.releasePipeline])

/-- What the recorder's callbacks do, up to a box. `failed` always opens one. -/
def onReport (w : MediaWidget) : RecorderReport → MediaWidget × Option (List MediaTask)
  | .silent => (w, none)
  | .stopped fileOk => w.finalize fileOk
  | .error fileOk =>
    match { w with recording := false }.finalize fileOk with
    | (w, none) => (w, some [])
    | (w, some left) => (w, some (left ++ [.warning]))

/-- A part of a slot: the state it leaves, and what is left of it where it opens a
box. -/
def perform (w : MediaWidget) : MediaTask → MediaWidget × Option (List MediaTask)
  | .stopRecording =>
    if w.recording then
      -- without a recorder `stop` itself finalizes, what has been finalized already
      { w with recording := false }.onReport (if w.recorder then w.stopReport else .stopped true)
    else (w, none)
  | .recorderReports report => w.onReport report
  | .releasePipeline => (w.releasePipeline, none)
  | .warning => (w, some [])
  | .recordingStarted => ({ w with recording := true }, none)
  | .emitFlagsApplied => (w.onFlagsApplied, none)
  | .stopMedia => (w.stopMeetingMedia, none)
  | .endSession => (w.endMeetingSession, none)
  | .hide => ({ w with widget := { w.widget with visible := false } }, none)
  | .shutDown => (w.shutDown, none)

/-- A box is opened, and a slot waits for it. -/
def waiting (w : MediaWidget) (rest : List MediaTask) : MediaWidget :=
  { w with boxes := .slot rest :: w.boxes }

/-- A slot goes on until it is done or opens a box. -/
def exec (w : MediaWidget) : List MediaTask → MediaWidget
  | [] => w
  | task :: rest =>
    match w.perform task with
    | (w', none) => exec w' rest
    | (w', some left) => w'.waiting (left ++ rest)

/-- `RoomSettingsController::apply_flags`. -/
def applyFlags (w : MediaWidget) (flags : UInt32) : MediaWidget :=
  let w := w.setFlags flags
  w.exec
    (if !w.canRecord && w.recording then [.stopRecording, .emitFlagsApplied]
    else [.emitFlagsApplied])

/-- `RoomSettingsController::start_recording` and `stop_recording`; `report` is what
the recorder reports from inside `record()`. -/
def recordToggled (w : MediaWidget) (start : Bool) (report : RecorderReport) : MediaWidget :=
  if !start then w.exec [.stopRecording]
  else if w.recording then w
  else if !w.roomSessionActive || !w.canRecord then w.exec [.warning]
  else
    { w with recorder := true, finalized := false }.exec
      [.recorderReports report, .recordingStarted]

/-- `close_meeting_window`. -/
def closeMeetingWindow (w : MediaWidget) : MediaWidget :=
  { w with widget := { w.widget with pendingConnect := none } }.exec
    (if w.widget.meeting.sessionEnding then [.hide] else [.stopRecording, .endSession, .hide])

/-- What the engine makes of a start. -/
structure StartAnswer where
  fault : Option StartFault
  devices : Devices
deriving DecidableEq, Repr

/-- `start_meeting_media`. -/
def startMeetingMedia (w : MediaWidget) (answer : StartAnswer) : MediaWidget :=
  if w.roomNo ≤ 0 then w
  else
    w.clearLocal.syncAvButtonUi.run
      (w.media.start
        { roomNo := w.roomNo
          createRoom := w.widget.meeting.createmeet
          maxParticipants := w.widget.createMaxParticipants } answer.fault answer.devices)

/-- `on_create_meeting_result`. The share button is off until the room is joined,
so it does not matter that the host is set only after the start. -/
def onCreateMeetingResult (localUserId : Int64) (w : MediaWidget) (roomno : Int32)
    (answer : StartAnswer) : MediaWidget :=
  if roomno ≠ 0 then
    let meeting := w.widget.meeting.onCreateMeetingResult localUserId roomno
    let entered := { w with roomNo := roomno, widget := { w.widget with meeting } }
    { entered.startMeetingMedia answer with roomSessionActive := true }
  else w.closeMeetingWindow

/-- `on_join_meeting_result`. -/
def onJoinMeetingResult (localUserId : Int64) (w : MediaWidget) (result : Int32)
    (answer : StartAnswer) : MediaWidget :=
  if result = 0 then w.closeMeetingWindow
  else if result = -1 then w.closeMeetingWindow
  else if 0 < result then
    let meeting := w.widget.meeting.onJoinMeetingResult localUserId result
    let entered := { w with widget := { w.widget with meeting } }
    { entered.startMeetingMedia answer with roomSessionActive := true }
  else w

/-- `MeetingProtocolDispatcher` and the slots it is connected to. -/
def dispatch (localUserId : Int64) (w : MediaWidget) (msg : Message) (answer : StartAnswer) :
    MediaWidget :=
  match msg with
  | .createMeetingResponse roomNo => w.onCreateMeetingResult localUserId roomNo.toInt32 answer
  | .joinMeetingResponse responseCode => w.onJoinMeetingResult localUserId responseCode answer
  | .remoteHostClosedError | .otherNetError =>
    if w.widget.meeting.sessionEnding then w else w.closeMeetingWindow
  | .roomSettingsNotify flags => w.applyFlags flags
  | msg => { w with widget := (w.widget.dispatch localUserId msg).1 }

/-- `on_connect_finished_slot`. A join keeps the room number. -/
def onConnectFinished (w : MediaWidget) (ok : Bool) (r : ConnectRequest) : MediaWidget :=
  { w with
    widget := (w.widget.onConnectFinished ok r).1
    roomNo :=
      if ok && r.action == .joinMeeting && roomNoAcceptable r.roomNo then QString.toInt r.roomNo
      else w.roomNo }

/-- The check of the slots of the three buttons. -/
def mayToggle (w : MediaWidget) : Bool := w.media.rtc && w.rtcJoined && w.inMeeting

/-- `on_open_vedio_clicked_slot`. -/
def onOpenVedioClicked (w : MediaWidget) (ok : Bool) : MediaWidget :=
  if w.mayToggle then w.run (w.media.setVideoOn (!w.localVideoOn) ok) else w

/-- `on_open_audio_clicked_slot`. -/
def onOpenAudioClicked (w : MediaWidget) (ok : Bool) : MediaWidget :=
  if w.mayToggle then w.run (w.media.setAudioOn (!w.localAudioOn) ok) else w

/-- `on_share_screen_clicked_slot`. -/
def onShareScreenClicked (w : MediaWidget) (screens : List ScreenInfo) (ok : Bool) : MediaWidget :=
  if w.mayToggle then w.run (w.media.setScreenOn (!w.localScreenOn) screens ok) else w

/-- `on_rtc_joined`. -/
def onRtcJoined (w : MediaWidget) : MediaWidget :=
  { w with rtcJoined := true, media := { w.media with joined := true } }.syncAvButtonUi

/-- `on_rtc_join_failed`. -/
def onRtcJoinFailed (w : MediaWidget) : MediaWidget :=
  { w with media := { w.media with joined := false } }.clearLocal.closeMeetingWindow

/-- `handle_rtc_session_lost`, until its box. -/
def handleRtcSessionLost (w : MediaWidget) : MediaWidget :=
  if w.rtcJoined then { w.clearLocal.syncAvButtonUi with boxes := .sessionLost :: w.boxes } else w

/-- The box on top is dismissed, and its slot goes on. -/
def dismiss (w : MediaWidget) : MediaWidget :=
  match w.boxes with
  | .notice :: boxes => { w with boxes }.onStateChanged
  | .sessionLost :: boxes => { w with boxes }.closeMeetingWindow
  | .slot rest :: boxes => { w with boxes }.exec rest
  | [] => w

/-- `~MeetingWidget`: the media are stopped, then the session is ended as well. -/
def destroy (w : MediaWidget) : MediaWidget :=
  w.exec [.stopRecording, .stopMedia, .stopRecording, .shutDown]

/-! ## The runs -/

/-- What can happen. The engine's callbacks may come at any time, also those of an
engine destroyed since, and so may the messages. -/
inductive Event where
  | request (r : ConnectRequest)
  | connectFinished (ok : Bool) (r : ConnectRequest)
  | networkDisconnected
  | timeout
  /-- the warning of a failed connect is dismissed -/
  | dismissWarning
  | message (msg : Message) (answer : StartAnswer)
  | closeWindow
  | editSettings (allowRecord allowShare : Bool)
  | recordToggled (start : Bool) (report : RecorderReport)
  /-- `QMediaRecorder` reports, or the timer of `MeetingRecorder::stop` runs out -/
  | recorderReports (report : RecorderReport)
  /-- it is settled what the recorder is going to report from inside `stop()` -/
  | stopWillReport (report : RecorderReport)
  | openVedio (ok : Bool)
  | openAudio (ok : Bool)
  | shareScreen (screens : List ScreenInfo) (ok : Bool)
  | selectVideoDevice (deviceId : ByteString)
  | selectAudioDevice (deviceId : ByteString)
  | selectPlayoutDevice (deviceId : ByteString)
  | rtcJoined
  | rtcJoinFailed
  /-- `signaling_error` or `connection_lost` -/
  | rtcSessionLost
  | dismiss
  | destroy
deriving DecidableEq

/-- A button is pressed while no box is in the way, and the share button while it is
enabled. The widget goes with the main window, which no box lets close. -/
def enabled (w : MediaWidget) : Event → Bool
  | .dismissWarning => w.widget.warnings != 0
  | .openVedio _ | .openAudio _ | .recordToggled _ _ | .destroy => w.boxes.isEmpty
  | .shareScreen _ _ => w.boxes.isEmpty && w.shareScreenBtn
  | _ => true

/-- What an event does. -/
def handle (localUserId : Int64) (w : MediaWidget) : Event → MediaWidget
  | .request r => { w with widget := (w.widget.requestConnectToServer r).1 }
  | .connectFinished ok r => w.onConnectFinished ok r
  | .networkDisconnected => { w with widget := w.widget.onNetworkDisconnected.1 }
  | .timeout => { w with widget := w.widget.onTimeout.1 }
  | .dismissWarning =>
    { w with widget := { w.widget with warnings := w.widget.warnings - 1 } }.closeMeetingWindow
  | .message msg answer => w.dispatch localUserId msg answer
  | .closeWindow => w.closeMeetingWindow
  | .editSettings allowRecord allowShare =>
    match w.widget.meeting.emitSettings allowRecord allowShare with
    | some flags =>
      let meeting := w.widget.meeting.settingsEdited flags
      { w with widget := { w.widget with meeting } }.applyFlags flags
    | none => w
  | .recordToggled start report => w.recordToggled start report
  | .recorderReports report => if w.recorder then w.exec [.recorderReports report] else w
  | .stopWillReport stopReport => { w with stopReport }
  | .openVedio ok => w.onOpenVedioClicked ok
  | .openAudio ok => w.onOpenAudioClicked ok
  | .shareScreen screens ok => w.onShareScreenClicked screens ok
  | .selectVideoDevice deviceId => w.run (w.media.selectVideoDevice deviceId)
  | .selectAudioDevice deviceId => w.run (w.media.selectAudioDevice deviceId)
  | .selectPlayoutDevice deviceId => w.run (w.media.selectPlayoutDevice deviceId)
  | .rtcJoined => w.onRtcJoined
  | .rtcJoinFailed => w.onRtcJoinFailed
  | .rtcSessionLost => w.handleRtcSessionLost
  | .dismiss => w.dismiss
  | .destroy => w.destroy

/-- What an event does, where it can happen. -/
def next (localUserId : Int64) (w : MediaWidget) (e : Event) : Option MediaWidget :=
  if w.alive && w.enabled e then some (w.handle localUserId e) else none

/-- The runs of the widget. -/
def system (localUserId : Int64) : System MediaWidget Event where
  Init w := w = fresh
  Step w e w' := w.next localUserId e = some w'

end MediaWidget

end CCMeeting
