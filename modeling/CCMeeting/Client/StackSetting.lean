import CCMeeting.Lib.Bytes
import CCMeeting.Lib.Choice
import CCMeeting.Lib.Transition

/-! # The settings page

`stack_setting` lists the cameras and what they can do, and shows a preview. The
preview is prepared by a worker, whose result is posted back to the page and is
dropped where the page has moved on; a camera that is no longer wanted is stopped
by the event loop later. A slot runs to its end, but for a box it opens: while the
box is open other slots run, and the slot goes on when it is dismissed.

The cameras are those the system lists at the time, part of the event.
-/

namespace CCMeeting

open ByteString Transition

/-! ## Cameras -/

/-- `VideoCap`; the frame rate is rounded. -/
structure VideoCap where
  width : ℤ
  height : ℤ
  fps : ℤ
deriving DecidableEq, Repr

/-- `QCameraFormat`. -/
structure CameraFormat extends VideoCap where
  pixelFormat : ℕ
deriving DecidableEq, Repr

/-- `QCameraDevice`. -/
structure CameraDevice where
  id : ByteString
  videoFormats : List CameraFormat
deriving DecidableEq, Repr

/-- `findCameraById`. -/
def findCameraById (cameras : List CameraDevice) (id : ByteString) : Option CameraDevice :=
  cameras.find? (·.id = id)

/-- The formats of a camera that can be offered. -/
def videoCaps (device : Option CameraDevice) : List VideoCap :=
  (((device.map (·.videoFormats)).getD []).map (·.toVideoCap)).filter fun c =>
    0 < c.width && 0 < c.height && 0 < c.fps

/-- How far a format is from what is asked for. -/
def formatScore (asked : VideoCap) (f : CameraFormat) : ℤ :=
  |f.width - asked.width| + |f.height - asked.height| + |f.fps - asked.fps| * 10

/-- `INT_MAX`. -/
def intMax : ℤ := 2 ^ 31 - 1

/-- The format the worker picks; none is a null format. -/
def bestFormat (device : CameraDevice) (asked : VideoCap) : Option CameraFormat :=
  Choice.least (formatScore asked) intMax device.videoFormats

/-! ## The lists -/

/-- The preferences of the page. -/
structure VideoPrefs where
  deviceId : ByteString
  width : ℤ
  height : ℤ
  fps : ℤ
deriving DecidableEq, Repr

/-- The combo boxes of the page with their indices, and `video_caps_`. -/
structure VideoLists where
  /-- the data of `videoDeviceCombo` -/
  devices : List ByteString := []
  device : ℕ := 0
  deviceEnabled : Bool := true
  caps : List VideoCap := []
  /-- the data of `videoResolution` -/
  resolutions : List (ℤ × ℤ) := []
  resolution : ℕ := 0
  /-- the data of `videoFps` -/
  fpsList : List ℤ := []
  fps : ℕ := 0
deriving DecidableEq, Repr

namespace VideoLists

/-- `currentVideoDeviceId`. -/
def currentVideoDeviceId (l : VideoLists) : ByteString :=
  if l.deviceEnabled then (l.devices[l.device]?).getD [] else []

/-- `currentResolution`; an empty box has no valid size. -/
def currentResolution (l : VideoLists) : ℤ × ℤ :=
  match l.resolutions[l.resolution]? with
  | some size => if 0 ≤ size.1 ∧ 0 ≤ size.2 then size else (640, 480)
  | none => (640, 480)

/-- `currentFps`. -/
def currentFps (l : VideoLists) : ℤ := (l.fpsList[l.fps]?).getD 30

/-- What the boxes show. -/
def selection (l : VideoLists) : ByteString × VideoCap :=
  (l.currentVideoDeviceId, ⟨l.currentResolution.1, l.currentResolution.2, l.currentFps⟩)

/-- The frame rates `rebuildFpsList` offers. -/
def offeredFps (caps : List VideoCap) (size : ℤ × ℤ) : List ℤ :=
  let fpsSet := Choice.ascending
    ((caps.filter fun c => c.width = size.1 ∧ c.height = size.2 ∧ 0 < c.fps).map (·.fps))
  if fpsSet = [] then [15, 24, 30] else fpsSet

/-- `rebuildFpsList`. -/
def rebuildFpsList (l : VideoLists) (prefs : VideoPrefs) : VideoLists :=
  let fpsList := offeredFps l.caps l.currentResolution
  { l with fpsList, fps := Choice.lastIndex (· = prefs.fps) fpsList }

/-- The sizes `rebuildResolutionList` offers. -/
def offeredSizes (caps : List VideoCap) : List (ℤ × ℤ) :=
  let seen := Choice.keepFirst (caps.map fun c => (c.width, c.height))
  if seen = [] then [(640, 480), (1280, 720)] else seen

/-- The index it selects; the sizes for a camera without formats are not looked
through. -/
def selectedSize (caps : List VideoCap) (prefs : VideoPrefs) : ℕ :=
  Choice.lastIndex (· = (prefs.width, prefs.height))
    (Choice.keepFirst (caps.map fun c => (c.width, c.height)))

/-- `rebuildResolutionList`. -/
def rebuildResolutionList (l : VideoLists) (prefs : VideoPrefs) (cameras : List CameraDevice) :
    VideoLists :=
  let caps := videoCaps (findCameraById cameras l.currentVideoDeviceId)
  { l with
    caps
    resolutions := offeredSizes caps
    resolution := selectedSize caps prefs }.rebuildFpsList prefs

/-- The index `refreshVideoDevices` selects. -/
def selectedDevice (ids : List ByteString) (prefs : VideoPrefs) : ℕ :=
  Choice.lastIndex (fun id => prefs.deviceId ≠ [] ∧ id = prefs.deviceId) ids

/-- `refreshVideoDevices`; the item that says there is no camera has no data. -/
def refreshVideoDevices (l : VideoLists) (prefs : VideoPrefs) (cameras : List CameraDevice) :
    VideoLists :=
  if cameras = [] then
    { l with devices := [[]], device := 0, deviceEnabled := false }.rebuildResolutionList prefs
      cameras
  else
    let ids := cameras.map (·.id)
    { l with
      devices := ids
      device := selectedDevice ids prefs
      deviceEnabled := true }.rebuildResolutionList prefs cameras

/-- `saveUiPrefs`. -/
def saveUiPrefs (l : VideoLists) (prefs : VideoPrefs) : VideoPrefs where
  deviceId := if l.deviceEnabled then (l.devices[l.device]?).getD [] else prefs.deviceId
  width := l.currentResolution.1
  height := l.currentResolution.2
  fps := l.currentFps

end VideoLists

/-! ## The page -/

/-- What `beginVideoPreviewAsync` hands to a worker. The generation counts the
increments of `preview_generation_`, which holds it modulo `2^32`. -/
structure PreviewJob where
  generation : ℕ
  deviceId : ByteString
  asked : VideoCap
deriving DecidableEq, Repr

/-- What the worker posts back. -/
structure PreviewFunctor where
  generation : ℕ
  device : Option CameraDevice
  best : Option CameraFormat
deriving DecidableEq, Repr

/-- The worker's part. -/
def PreviewJob.run (job : PreviewJob) (cameras : List CameraDevice) : PreviewFunctor where
  generation := job.generation
  device := findCameraById cameras job.deviceId
  best := (findCameraById cameras job.deviceId).bind fun device => bestFormat device job.asked

/-- The camera of the page, with its session and its sink. The number tells cameras
apart. -/
structure Preview where
  camera : ℕ
  device : CameraDevice
  format : Option CameraFormat
deriving DecidableEq, Repr

/-- A box a slot has opened and waits for. -/
inductive SettingBox where
  /-- nothing is done after it -/
  | notice
  | cameraError
  /-- the question of `onResetClicked` -/
  | reset
deriving DecidableEq, Repr

/-- `stack_setting`, with what it has left to the event loop and the thread pool. -/
structure StackSetting where
  alive : Bool := true
  /-- `isVisible()` -/
  visible : Bool := false
  /-- the current row of `categoryList` -/
  row : ℕ := 0
  /-- `video_preview_enabled_` -/
  previewEnabled : Bool
  generation : ℕ := 0
  /-- `preview_start_timer_` is active -/
  startTimer : Bool := false
  preview : Option Preview := none
  lists : VideoLists := {}
  prefs : VideoPrefs
  /-- `mic_testing_` -/
  micTesting : Bool := false
  /-- the boxes that are open, the last one at the head -/
  boxes : List SettingBox := []
  /-- the refreshes a `showEvent` has put off -/
  refreshes : ℕ := 0
  /-- in the thread pool -/
  jobs : List PreviewJob := []
  /-- posted to the page -/
  functors : List PreviewFunctor := []
  /-- the cameras that the event loop has still to stop -/
  cleanups : List ℕ := []
  /-- history variables: how many cameras have been made, those stopped and deleted in
  order, whether the page has been destroyed while something of it was under way, and
  whether code has run on a page that was destroyed -/
  cameras : ℕ := 0
  released : List ℕ := []
  abandoned : Bool := false
  dangling : Bool := false
deriving DecidableEq, Repr

namespace StackSetting

/-- `releasePreviewHardware`. -/
def releasePreviewHardware (p : StackSetting) (deferHardware : Bool) : StackSetting :=
  match p.preview with
  | none => p
  | some v =>
    if deferHardware then { p with preview := none, cleanups := p.cleanups ++ [v.camera] }
    else { p with preview := none, released := p.released ++ [v.camera] }

/-- `stopVideoPreview`. -/
def stopVideoPreview (p : StackSetting) (deferHardware : Bool) : StackSetting :=
  { p with generation := p.generation + 1, startTimer := false }.releasePreviewHardware
    deferHardware

/-- `scheduleVideoPreview`. -/
def scheduleVideoPreview (p : StackSetting) : StackSetting :=
  if p.previewEnabled then
    { { p with
        generation := p.generation + 1
        startTimer := false }.releasePreviewHardware true with startTimer := true }
  else p

/-- The page is visible, on the row of the video. -/
def onVideoPage (p : StackSetting) : Bool := p.visible && p.row == 0

/-- What the page asks a worker for. -/
def job (p : StackSetting) : PreviewJob where
  generation := p.generation
  deviceId := p.lists.currentVideoDeviceId
  asked := p.lists.selection.2

/-- `beginVideoPreviewAsync`, when the timer has run out. -/
def beginVideoPreviewAsync (p : StackSetting) : StackSetting :=
  let p := { p with startTimer := false }
  if !p.onVideoPage then p
  else if p.lists.currentVideoDeviceId = [] then p
  else { p with jobs := p.jobs ++ [p.job] }

/-- `applyVideoPreview`. -/
def applyVideoPreview (p : StackSetting) (device : Option CameraDevice)
    (format : Option CameraFormat) : StackSetting :=
  let p := p.releasePreviewHardware true
  match device with
  | none => p
  | some device =>
    { p with preview := some ⟨p.cameras, device, format⟩, cameras := p.cameras + 1 }

/-- The same value of an `atomic<int>`. -/
def sameGeneration (g g' : ℕ) : Bool := g % 2 ^ 32 == g' % 2 ^ 32

/-- What has been posted back is run. -/
def runFunctor (p : StackSetting) (f : PreviewFunctor) : StackSetting :=
  if !sameGeneration f.generation p.generation || !p.onVideoPage then p
  else p.applyVideoPreview f.device f.best

/-- `stopMicTest`. -/
def stopMicTest (p : StackSetting) : StackSetting := { p with micTesting := false }

/-- `startMicTest`: whether the device is found, and whether it starts. -/
def startMicTest (p : StackSetting) (found ok : Bool) : StackSetting :=
  let p := p.stopMicTest
  if !found || !ok then { p with boxes := .notice :: p.boxes } else { p with micTesting := true }

/-- `syncPreviewForCategory`. -/
def syncPreviewForCategory (p : StackSetting) (row : ℕ) : StackSetting :=
  if row = 0 then
    if p.previewEnabled then p.stopMicTest.scheduleVideoPreview
    else p.stopMicTest.stopVideoPreview true
  else if row = 1 then p.stopVideoPreview true
  else p.stopMicTest.stopVideoPreview true

/-- The end of the slots of the three combo boxes. -/
def listsChanged (p : StackSetting) (lists : VideoLists) : StackSetting :=
  let p := { p with lists }
  if p.onVideoPage then p.scheduleVideoPreview else p

/-- `onVideoDeviceChanged`. -/
def onVideoDeviceChanged (p : StackSetting) (cameras : List CameraDevice) : StackSetting :=
  p.listsChanged (p.lists.rebuildResolutionList p.prefs cameras)

/-- `onVideoResolutionChanged`. -/
def onVideoResolutionChanged (p : StackSetting) : StackSetting :=
  p.listsChanged (p.lists.rebuildFpsList p.prefs)

/-- `onVideoFpsChanged`. -/
def onVideoFpsChanged (p : StackSetting) : StackSetting := p.listsChanged p.lists

/-- `showEvent`. The placeholder is an item as well: adding it changes the index of
the box before the box is disabled. -/
def showEvent (p : StackSetting) (cameras : List CameraDevice) : StackSetting :=
  let p :=
    if p.lists.devices = [] then
      let p := { p with
        lists := { p.lists with devices := [[]], device := 0 } }.onVideoDeviceChanged cameras
      { p with lists := { p.lists with deviceEnabled := false } }
    else p
  { p with refreshes := p.refreshes + 1 }

/-- `hideEvent`. -/
def hideEvent (p : StackSetting) : StackSetting :=
  ({ p with generation := p.generation + 1, startTimer := false }.stopMicTest).stopVideoPreview true

/-- What a `showEvent` has put off. -/
def refresh (p : StackSetting) (cameras : List CameraDevice) : StackSetting :=
  if p.visible then
    { p with lists := p.lists.refreshVideoDevices p.prefs cameras }.syncPreviewForCategory p.row
  else p

/-- `onVideoPreviewToggleClicked`. -/
def onVideoPreviewToggleClicked (p : StackSetting) : StackSetting :=
  let p := { p with previewEnabled := !p.previewEnabled }
  if p.previewEnabled then p.scheduleVideoPreview else p.stopVideoPreview true

/-- What `onResetClicked` goes back to. -/
def defaultPrefs : VideoPrefs := { deviceId := [], width := 640, height := 480, fps := 30 }

/-- `onResetClicked`, after a yes. -/
def reset (p : StackSetting) (cameras : List CameraDevice) : StackSetting :=
  let p := p.stopMicTest.stopVideoPreview true
  let p := { p with
    prefs := defaultPrefs
    lists := p.lists.refreshVideoDevices defaultPrefs cameras }
  if p.row = 0 then p.scheduleVideoPreview else p

/-- The slot of the box on top goes on; `yes` answers a question. -/
def dismiss (p : StackSetting) (yes : Bool) (cameras : List CameraDevice) : StackSetting :=
  match p.boxes with
  | .cameraError :: boxes => { p with boxes }.stopVideoPreview true
  | .reset :: boxes => if yes then { p with boxes }.reset cameras else { p with boxes }
  | .notice :: boxes => { p with boxes }
  | [] => p

/-- `~stack_setting`. What is posted to the page goes with it, but not what a worker
or a slot that waits for a box still does. -/
def destroy (p : StackSetting) : StackSetting :=
  let p := ({ p with generation := p.generation + 1 }.stopMicTest).stopVideoPreview false
  { p with
    alive := false
    visible := false
    refreshes := 0
    functors := []
    abandoned := !p.jobs.isEmpty || !p.boxes.isEmpty }

/-! ## The runs -/

/-- What can happen. -/
inductive Event where
  | shown (cameras : List CameraDevice)
  | hidden
  /-- the window is minimized: the page hears of it, and is still visible to itself -/
  | minimized
  | restored (cameras : List CameraDevice)
  | refreshed (cameras : List CameraDevice)
  | categoryChanged (row : ℕ)
  /-- an item of a box is picked -/
  | devicePicked (i : ℕ) (cameras : List CameraDevice)
  | resolutionPicked (i : ℕ)
  | fpsPicked (i : ℕ)
  | previewToggled
  | saved
  | resetClicked
  | micTestClicked (found ok : Bool)
  | timerFired
  /-- a worker is done -/
  | prepared (i : ℕ) (cameras : List CameraDevice)
  | functorRun
  | cameraFailed
  | dismissed (yes : Bool) (cameras : List CameraDevice)
  /-- the event loop stops a camera -/
  | cleanedUp
  | destroyed
deriving DecidableEq

/-- Where an event can happen: a button is pressed where it is seen. What has been
left to the event loop and the thread pool goes on after the page. -/
def enabled (p : StackSetting) : Event → Bool
  | .shown _ => p.alive && !p.visible
  | .hidden | .minimized | .restored _ | .saved | .resetClicked => p.alive && p.visible
  | .refreshed _ => p.alive && p.refreshes != 0
  | .categoryChanged row => p.alive && p.visible && row < 4 && row != p.row
  | .devicePicked i _ =>
    p.alive && p.onVideoPage && p.lists.deviceEnabled && i < p.lists.devices.length &&
      i != p.lists.device
  | .resolutionPicked i =>
    p.alive && p.onVideoPage && i < p.lists.resolutions.length && i != p.lists.resolution
  | .fpsPicked i => p.alive && p.onVideoPage && i < p.lists.fpsList.length && i != p.lists.fps
  | .previewToggled => p.alive && p.onVideoPage
  | .micTestClicked _ _ => p.alive && p.visible && p.row == 1
  | .timerFired => p.alive && p.startTimer
  | .prepared i _ => i < p.jobs.length
  | .functorRun => !p.functors.isEmpty
  | .cameraFailed => p.preview.isSome
  | .dismissed _ _ => !p.boxes.isEmpty
  | .cleanedUp => !p.cleanups.isEmpty
  | .destroyed => p.alive

/-- What an event does. -/
def handle (p : StackSetting) : Event → StackSetting
  | .shown cameras => { p with visible := true }.showEvent cameras
  | .hidden => { p with visible := false }.hideEvent
  | .minimized => p.hideEvent
  | .restored cameras => p.showEvent cameras
  | .refreshed cameras => { p with refreshes := p.refreshes - 1 }.refresh cameras
  | .categoryChanged row => { p with row }.syncPreviewForCategory row
  | .devicePicked i cameras =>
    { p with lists := { p.lists with device := i } }.onVideoDeviceChanged cameras
  | .resolutionPicked i =>
    { p with lists := { p.lists with resolution := i } }.onVideoResolutionChanged
  | .fpsPicked i => { p with lists := { p.lists with fps := i } }.onVideoFpsChanged
  | .previewToggled => p.onVideoPreviewToggleClicked
  | .saved => { p with prefs := p.lists.saveUiPrefs p.prefs, boxes := .notice :: p.boxes }
  | .resetClicked => { p with boxes := .reset :: p.boxes }
  | .micTestClicked found ok => if p.micTesting then p.stopMicTest else p.startMicTest found ok
  | .timerFired => p.beginVideoPreviewAsync
  | .prepared i cameras =>
    match p.jobs[i]? with
    | some job =>
      let p := { p with jobs := p.jobs.eraseIdx i }
      if p.alive then { p with functors := p.functors ++ [job.run cameras] }
      else { p with dangling := true }
    | none => p
  | .functorRun =>
    match p.functors with
    | f :: functors => { p with functors }.runFunctor f
    | [] => p
  | .cameraFailed => { p with boxes := .cameraError :: p.boxes }
  | .dismissed yes cameras =>
    if p.alive then p.dismiss yes cameras
    else { p with boxes := p.boxes.tail, dangling := true }
  | .cleanedUp =>
    match p.cleanups with
    | camera :: cleanups => { p with cleanups, released := p.released ++ [camera] }
    | [] => p
  | .destroyed => p.destroy

/-- What an event does, where it can happen. -/
def next (p : StackSetting) (e : Event) : Option StackSetting :=
  if p.enabled e then some (p.handle e) else none

/-- The runs of a page that is made with these preferences. -/
def system (previewEnabled : Bool) (prefs : VideoPrefs) : System StackSetting Event where
  Init p := p = { previewEnabled, prefs }
  Step p e p' := p.next e = some p'

end StackSetting

end CCMeeting
