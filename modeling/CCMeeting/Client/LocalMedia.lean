import CCMeeting.Client.MediaCalls

/-! # What the local media can come to

The switches of the controller, their copies in the widget and the recorder
agree with each other, the permissions and the meeting, in every order of
clicks, messages and callbacks, also while slots wait for their boxes.
-/

namespace CCMeeting

open ByteString Transition

/-! ## What is left of a slot -/

namespace MediaTask

/-- What a task may be done in: the session ends with nothing recorded, and `start`
goes on without a recorder. -/
def relies (taping recorder : Bool) : MediaTask → Bool
  | .endSession | .shutDown => !taping
  | .recordingStarted => !recorder
  | _ => true

/-- The recorder is gone once the task is done. -/
def releases (task : MediaTask) : Bool := task = .releasePipeline

/-- Nothing is recorded once the task is done. -/
def stops (task : MediaTask) : Bool := task = .stopRecording

/-- Each task of a slot finds what it relies on, whatever other slots do to it
meanwhile. -/
def Safe (taping recorder : Bool) : List MediaTask → Prop
  | [] => True
  | task :: rest => task.relies taping recorder = true ∧
      Safe (taping && !task.stops) (recorder && !task.releases) rest

/-- A slot is as safe while less is recorded. -/
theorem Safe.mono {taping recorder taping' recorder' : Bool} {rest : List MediaTask}
    (htaping : taping' = true → taping = true) (hrecorder : recorder' = true → recorder = true)
    (h : Safe taping recorder rest) : Safe taping' recorder' rest := by
  induction rest generalizing taping recorder taping' recorder' with
  | nil => trivial
  | cons task rest ih =>
    refine ⟨?_, ih ?_ ?_ h.2⟩
    · have hrelies := h.1
      cases task <;> simp_all [relies]
    · simp only [Bool.and_eq_true]
      exact And.imp_left htaping
    · simp only [Bool.and_eq_true]
      exact And.imp_left hrecorder

/-- Boxes, and a recorder released, leave the rest of a slot as safe as it was. -/
theorem Safe.of_telling {taping recorder : Bool} {first rest : List MediaTask}
    (hfirst : ∀ task ∈ first, task = .releasePipeline ∨ task = .warning)
    (h : Safe taping recorder rest) :
    Safe taping recorder (first ++ rest) := by
  induction first generalizing taping recorder with
  | nil => exact h
  | cons task first ih =>
    refine ⟨?_, ih (fun other hother => hfirst other (List.mem_cons_of_mem _ hother)) ?_⟩
    · rcases hfirst task List.mem_cons_self with rfl | rfl <;> rfl
    · refine h.mono ?_ ?_
      · exact fun hon => (Bool.and_eq_true_iff.mp hon).1
      · exact fun hon => (Bool.and_eq_true_iff.mp hon).1

end MediaTask

namespace MediaWidget

variable {w : MediaWidget} {r : MeetingMediaController × List MediaEffect}

/-! ## The invariant -/

/-- Frames are recorded: `push_frame` takes none without a recorder. -/
def taping (w : MediaWidget) : Bool := w.recording && w.recorder

/-- What the media, the copies in the widget, the meeting, the recorder and the
slots that wait have to do with each other; `strict` says that every meeting has begun
while the widget was in none. -/
structure Sound (w : MediaWidget) (strict : Prop) : Prop where
  controller : w.media.Sound
  engine : replay engineNext false w.calls = some w.media.rtc
  used : strict → replay EngineUse.next none w.calls = some w.media.use
  shown : w.shown.Below w.media.switches
  meeting : w.media.rtc = true → w.alive = true ∧ w.inMeeting = true
  active : w.roomSessionActive = true → w.inMeeting = true
  taping : w.taping = true → w.roomSessionActive = true ∧ w.canRecord = true
  slots : ∀ rest, .slot rest ∈ w.boxes → MediaTask.Safe w.taping w.recorder rest

variable {strict : Prop}

theorem inMeeting_congr {w' : MediaWidget} (h : w'.widget = w.widget) :
    w'.inMeeting = w.inMeeting := by
  rw [inMeeting, h, inMeeting]

theorem canRecord_congr {w' : MediaWidget} (h : w'.widget = w.widget) :
    w'.canRecord = w.canRecord := by
  rw [canRecord, h, canRecord]

theorem Framed.taping {w' : MediaWidget} (h : w.Framed w') : w'.taping = w.taping := by
  rw [MediaWidget.taping, h.recording, h.recorder, MediaWidget.taping]

theorem Sound.run (h : w.Sound strict) (hr : w.media.Leads r) (huses : strict → w.media.Uses r)
    (hmeeting : r.1.rtc = true → w.alive = true ∧ w.inMeeting = true) :
    (w.run r).Sound strict := by
  have hframe := run_framed (w := w) (r := r)
  constructor
  · rw [hframe.media]
    exact hr.sound h.controller
  · rw [run_calls, replay_append, h.engine, hframe.media]
    exact hr.engine
  · intro hstrict
    rw [run_calls, replay_append, h.used hstrict, hframe.media]
    exact huses hstrict
  · rw [hframe.media]
    rcases run_shown hr with hnow | ⟨hsame, hswitches⟩
    · rw [hnow]
      exact .refl _
    · rw [hsame]
      show w.shown.Below r.1.switches
      rw [hswitches]
      exact h.shown
  · rw [hframe.media, hframe.alive, inMeeting_congr hframe.widget]
    exact hmeeting
  · rw [hframe.roomSessionActive, inMeeting_congr hframe.widget]
    exact h.active
  · rw [hframe.taping, hframe.roomSessionActive, canRecord_congr hframe.widget]
    exact h.taping
  · intro rest hrest
    rw [hframe.taping, hframe.recorder]
    rcases mem_boxes_of_run hrest with hnotice | hbefore
    · cases hnotice
    · exact h.slots rest hbefore

theorem Sound.toggle (h : w.Sound strict) (hr : w.media.Toggles r) : (w.run r).Sound strict := by
  refine h.run hr.leads (fun _ => hr.uses) ?_
  rw [hr.rtc]
  exact h.meeting

/-- The slots that wait may be others, if they are safe. -/
theorem Sound.withBoxes (h : w.Sound strict) {boxes : List MediaBox}
    (hslots : ∀ rest, .slot rest ∈ boxes → MediaTask.Safe w.taping w.recorder rest) :
    MediaWidget.Sound { w with boxes } strict :=
  ⟨h.controller, h.engine, h.used, h.shown, h.meeting, h.active, h.taping, hslots⟩

theorem Sound.waiting (h : w.Sound strict) {rest : List MediaTask}
    (hsafe : MediaTask.Safe w.taping w.recorder rest) : (w.waiting rest).Sound strict := by
  refine h.withBoxes fun rest' hrest' => ?_
  rcases List.mem_cons.mp hrest' with htop | hbelow
  · rw [MediaBox.slot.inj htop]
    exact hsafe
  · exact h.slots rest' hbelow

theorem Sound.popped {box : MediaBox} {boxes : List MediaBox} (h : w.Sound strict)
    (hboxes : w.boxes = box :: boxes) : MediaWidget.Sound { w with boxes } strict := by
  refine h.withBoxes fun rest hrest => h.slots rest ?_
  rw [hboxes]
  exact List.mem_cons_of_mem _ hrest

/-- Less is recorded, or more without a recorder. -/
theorem Sound.withRecorder (h : w.Sound strict) {recording recorder finalized : Bool}
    (hrecorder : recorder = true → w.recorder = true)
    (htaping : (recording && recorder) = true → w.taping = true) :
    MediaWidget.Sound { w with recording, recorder, finalized } strict := by
  refine ⟨h.controller, h.engine, h.used, h.shown, h.meeting, h.active, ?_, ?_⟩
  · exact fun htaped => h.taping (htaping htaped)
  · exact fun rest hrest => (h.slots rest hrest).mono htaping hrecorder

/-! ## The tasks -/

/-- What `stop` has the recorder report, it reports with nothing recorded. -/
theorem exec_stopRecording (h : w.recording = true) (rest : List MediaTask) :
    w.exec (.stopRecording :: rest) =
      MediaWidget.exec { w with recording := false }
        (.recorderReports (if w.recorder then w.stopReport else .stopped true) :: rest) := by
  simp only [exec, perform, h, if_true]

/-- What holds of a slot that waits, and is preserved by its tasks, holds once it is
done. -/
theorem exec_invariant {I : MediaWidget → Prop} (hdone : ∀ w, I (w.waiting []) → I w)
    (htask : ∀ (w : MediaWidget) (task : MediaTask) (rest : List MediaTask),
      I (w.waiting (task :: rest)) →
        I ((w.perform task).1.waiting ((w.perform task).2.getD [] ++ rest)))
    {rest : List MediaTask} (h : I (w.waiting rest)) : I (w.exec rest) := by
  induction rest generalizing w with
  | nil => exact hdone w h
  | cons task rest ih =>
    have hnext := htask w task rest h
    unfold exec
    rcases hperform : w.perform task with ⟨w', _ | left⟩
    · rw [hperform] at hnext
      exact ih hnext
    · rw [hperform] at hnext
      exact hnext

theorem finalize_cases (w : MediaWidget) (fileOk : Bool) :
    w.finalize fileOk = (w, none) ∨
      w.finalize fileOk = (MediaWidget.releasePipeline { w with finalized := true }, none) ∨
      w.finalize fileOk = ({ w with finalized := true }, some [.releasePipeline]) := by
  unfold finalize
  dsimp only
  split_ifs
  · exact Or.inl rfl
  · exact Or.inr (Or.inl rfl)
  · exact Or.inr (Or.inr rfl)

/-- What a report comes to: nothing more is recorded than before, and what is left of
the slots only tells, and releases the recorder. -/
theorem onReport_cases (w : MediaWidget) (report : RecorderReport) :
    ∃ recording recorder finalized : Bool,
      (w.onReport report).1 = { w with recording, recorder, finalized } ∧
        (recording = true → w.recording = true) ∧ (recorder = true → w.recorder = true) ∧
        ∀ task ∈ (w.onReport report).2.getD [], task = .releasePipeline ∨ task = .warning := by
  rcases report with _ | fileOk | fileOk
  · exact ⟨w.recording, w.recorder, w.finalized, rfl, id, id, by simp [onReport]⟩
  · dsimp only [onReport]
    rcases finalize_cases w fileOk with heq | heq | heq <;> rw [heq]
    · exact ⟨w.recording, w.recorder, w.finalized, rfl, id, id, by simp⟩
    · exact ⟨w.recording, false, true, rfl, id, by simp, by simp⟩
    · exact ⟨w.recording, w.recorder, true, rfl, id, id, by simp⟩
  · dsimp only [onReport]
    rcases finalize_cases { w with recording := false } fileOk with heq | heq | heq <;> rw [heq]
    · exact ⟨false, w.recorder, w.finalized, rfl, by simp, id, by simp⟩
    · exact ⟨false, false, true, rfl, by simp, by simp, by simp⟩
    · exact ⟨false, w.recorder, true, rfl, by simp, id, by simp⟩

theorem Sound.onReport (h : w.Sound strict) (report : RecorderReport) :
    (w.onReport report).1.Sound strict := by
  rcases onReport_cases w report with ⟨_, _, _, heq, hrecording, hrecorder, _⟩
  rw [heq]
  refine h.withRecorder hrecorder fun hon => ?_
  rcases Bool.and_eq_true_iff.mp hon with ⟨hrec, hthere⟩
  exact Bool.and_eq_true_iff.mpr ⟨hrecording hrec, hrecorder hthere⟩

/-- The slot that has made the recorder report is as safe as before. -/
theorem onReport_safe {report : RecorderReport} {rest : List MediaTask}
    (hsafe : MediaTask.Safe w.taping w.recorder rest) :
    MediaTask.Safe (w.onReport report).1.taping (w.onReport report).1.recorder
      ((w.onReport report).2.getD [] ++ rest) := by
  rcases onReport_cases w report with ⟨_, _, _, heq, hrecording, hrecorder, htelling⟩
  rw [heq]
  refine .of_telling htelling (hsafe.mono (fun hon => ?_) hrecorder)
  rcases Bool.and_eq_true_iff.mp hon with ⟨hrec, hthere⟩
  exact Bool.and_eq_true_iff.mpr ⟨hrecording hrec, hrecorder hthere⟩

theorem Sound.clearLocal (h : w.Sound strict) : w.clearLocal.Sound strict :=
  ⟨h.controller, h.engine, h.used, .off _, h.meeting, h.active, h.taping, h.slots⟩

theorem Sound.stopMeetingMedia (h : w.Sound strict) : w.stopMeetingMedia.Sound strict :=
  h.clearLocal.run MeetingMediaController.stop_leads
    (fun _ => MeetingMediaController.stop_uses) fun hrtc => nomatch hrtc

theorem stopMeetingMedia_eq : w.stopMeetingMedia =
    { w.clearLocal with
      media := { w.media.off with rtc := false }
      shareScreenBtn := false
      calls := w.calls ++ if w.media.rtc then [.destroyXrtcEngine] else [] } := by
  unfold stopMeetingMedia
  cases hrtc : w.media.rtc <;>
    simp [run, MeetingMediaController.stop, MeetingMediaController.shutdown, hrtc, react,
      onStateChanged, syncAvButtonUi, clearLocal, MeetingMediaController.off]

/-- Nothing is shared that would have to be stopped. -/
theorem resetMeetingUi_eq : w.resetMeetingUi =
    { w.clearLocal with
      widget := { w.widget with meeting := w.widget.meeting.applyFlags roomSettingsDefault }
      roomNo := 0
      shareScreenBtn := false
      roomSessionActive := false } := by
  simp [resetMeetingUi, setFlags, clearLocal, onFlagsApplied, syncAvButtonUi]

/-- Nothing is captured or shown, and there is no meeting. -/
structure Ended (w : MediaWidget) : Prop where
  rtc : w.media.rtc = false
  switches : w.media.switches = ⟨false, false, false⟩
  shown : w.shown = ⟨false, false, false⟩
  roomSessionActive : w.roomSessionActive = false
  shareScreenBtn : w.shareScreenBtn = false

theorem endMeetingSession_ended : w.endMeetingSession.Ended := by
  unfold endMeetingSession
  rw [resetMeetingUi_eq, stopMeetingMedia_eq]
  exact ⟨rfl, rfl, rfl, rfl, rfl⟩

/-- The recorder is left alone. -/
structure SameRecorder (w w' : MediaWidget) : Prop where
  taping : w'.taping = w.taping
  recorder : w'.recorder = w.recorder

theorem stopMeetingMedia_sameRecorder : w.SameRecorder w.stopMeetingMedia := by
  rw [stopMeetingMedia_eq]
  exact ⟨rfl, rfl⟩

theorem endMeetingSession_sameRecorder : w.SameRecorder w.endMeetingSession := by
  unfold endMeetingSession
  rw [resetMeetingUi_eq, stopMeetingMedia_eq]
  exact ⟨rfl, rfl⟩

/-- The session ends with nothing recorded. -/
theorem Sound.endMeetingSession (h : w.Sound strict) (htaping : w.taping = false) :
    w.endMeetingSession.Sound strict := by
  have hstopped := h.stopMeetingMedia
  have hended := endMeetingSession_ended (w := w)
  have hsame : w.endMeetingSession.media = w.stopMeetingMedia.media ∧
      w.endMeetingSession.calls = w.stopMeetingMedia.calls ∧
      w.endMeetingSession.boxes = w.boxes := by
    unfold MediaWidget.endMeetingSession
    rw [resetMeetingUi_eq, stopMeetingMedia_eq]
    exact ⟨rfl, rfl, rfl⟩
  rcases hsame with ⟨hmedia, hcalls, hboxes⟩
  rcases endMeetingSession_sameRecorder (w := w) with ⟨htaped, hrecorder⟩
  constructor
  · rw [hmedia]
    exact hstopped.controller
  · rw [hmedia, hcalls]
    exact hstopped.engine
  · rw [hmedia, hcalls]
    exact hstopped.used
  · rw [hended.shown]
    exact .off _
  · rw [hended.rtc]
    exact fun hrtc => nomatch hrtc
  · rw [hended.roomSessionActive]
    exact fun hactive => nomatch hactive
  · rw [htaped, htaping]
    exact fun hon => nomatch hon
  · rw [htaped, hrecorder, hboxes]
    exact h.slots

/-- What the widget's other slots leave of the meeting. -/
structure SameMeeting (c c' : Client) : Prop where
  createmeet : c'.createmeet = c.createmeet
  joinmeet : c'.joinmeet = c.joinmeet
  flags : c'.flags = c.flags
  isHost : c'.isHost = c.isHost
  ending : c'.sessionEnding = true → c.sessionEnding = true

theorem Sound.withWidget (h : w.Sound strict) {widget : MeetingWidget}
    (hsame : SameMeeting w.widget.meeting widget.meeting) : { w with widget }.Sound strict := by
  have hmeeting : MediaWidget.inMeeting { w with widget } = w.inMeeting := by
    show (widget.meeting.createmeet || widget.meeting.joinmeet) = _
    rw [hsame.createmeet, hsame.joinmeet]
    rfl
  refine ⟨h.controller, h.engine, h.used, h.shown, ?_, ?_, ?_, h.slots⟩
  · rw [hmeeting]
    exact h.meeting
  · rw [hmeeting]
    exact h.active
  · show w.taping = true → w.roomSessionActive = true ∧
      (widget.meeting.flags &&& kRoomSettingsAllowRecord != 0) = true
    rw [hsame.flags]
    exact h.taping

/-- Fields no part of the invariant reads. -/
theorem Sound.syncAvButtonUi (h : w.Sound strict) : w.syncAvButtonUi.Sound strict :=
  ⟨h.controller, h.engine, h.used, h.shown, h.meeting, h.active, h.taping, h.slots⟩

theorem Sound.onFlagsApplied (h : w.Sound strict) : w.onFlagsApplied.Sound strict := by
  unfold MediaWidget.onFlagsApplied
  split_ifs
  · exact (h.toggle (MeetingMediaController.setScreenOn_toggles _ _ _)).syncAvButtonUi
  · exact h.syncAvButtonUi

theorem onFlagsApplied_sameRecorder : w.SameRecorder w.onFlagsApplied := by
  unfold onFlagsApplied
  split_ifs
  · exact ⟨run_framed.taping, run_framed.recorder⟩
  · exact ⟨rfl, rfl⟩

/-- The controller is deleted after it has been stopped: it has no engine to give up. -/
theorem shutDown_eq : w.shutDown = { w.endMeetingSession with
    media := w.endMeetingSession.media.shutdown.1
    alive := false } := by
  have hnone : w.endMeetingSession.media.shutdown.2 = [] := by
    rw [MeetingMediaController.shutdown, endMeetingSession_ended.rtc]
    rfl
  unfold shutDown run
  dsimp only
  rw [hnone]
  rfl

theorem shutDown_ended : w.shutDown.Ended := by
  have hended := endMeetingSession_ended (w := w)
  rw [shutDown_eq]
  exact ⟨rfl, rfl, hended.shown, hended.roomSessionActive, hended.shareScreenBtn⟩

theorem shutDown_sameRecorder : w.SameRecorder w.shutDown := by
  rw [shutDown_eq]
  exact ⟨endMeetingSession_sameRecorder.taping, endMeetingSession_sameRecorder.recorder⟩

theorem Sound.shutDown (h : w.Sound strict) (htaping : w.taping = false) :
    w.shutDown.Sound strict := by
  have hended := endMeetingSession_ended (w := w)
  have hsound := h.endMeetingSession htaping
  have hshown : w.endMeetingSession.shown = ⟨false, false, false⟩ := hended.shown
  have huse : w.endMeetingSession.media.use = none := by
    rw [MeetingMediaController.use, hended.rtc]
    rfl
  rw [shutDown_eq]
  refine ⟨⟨?_, ?_⟩, ?_, ?_, ?_, ?_, hsound.active, hsound.taping, hsound.slots⟩
  · intro hon
    simp [MeetingMediaController.shutdown, MeetingMediaController.off] at hon
  · intro hon
    simp [MeetingMediaController.shutdown, MeetingMediaController.off] at hon
  · show replay engineNext false w.endMeetingSession.calls = some false
    rw [hsound.engine, hended.rtc]
  · intro hstrict
    show replay EngineUse.next none w.endMeetingSession.calls = some none
    rw [hsound.used hstrict, huse]
  · show w.endMeetingSession.shown.Below _
    rw [hshown]
    exact .off _
  · intro hon
    simp [MeetingMediaController.shutdown, MeetingMediaController.off] at hon

/-- Where anything is recorded, the recorder is told to stop; what it reports is then
reported with nothing recorded. -/
theorem perform_stopRecording : (∃ report, w.perform .stopRecording =
      MediaWidget.onReport { w with recording := false } report) ∨
    w.recording = false ∧ w.perform .stopRecording = (w, none) := by
  cases hrecording : w.recording with
  | true =>
    refine Or.inl ⟨if w.recorder then w.stopReport else .stopped true, ?_⟩
    simp only [perform, hrecording, if_true]
  | false => exact Or.inr ⟨rfl, by simp [perform, hrecording]⟩

theorem Sound.perform (h : w.Sound strict) {task : MediaTask} {rest : List MediaTask}
    (hsafe : MediaTask.Safe w.taping w.recorder (task :: rest)) :
    (w.perform task).1.Sound strict := by
  cases task with
  | stopRecording =>
    rcases perform_stopRecording (w := w) with ⟨report, heq⟩ | ⟨_, heq⟩
    · rw [heq]
      have hhalted : MediaWidget.Sound { w with recording := false } strict :=
        h.withRecorder id fun hnone => nomatch hnone
      exact hhalted.onReport report
    · rw [heq]
      exact h
  | recorderReports report => exact h.onReport report
  | releasePipeline => exact h.withRecorder (fun hnone => nomatch hnone) (by simp)
  | warning => exact h
  | recordingStarted =>
    have hnone : w.recorder = false := by simpa [MediaTask.relies] using hsafe.1
    exact h.withRecorder id (by simp [hnone])
  | emitFlagsApplied => exact h.onFlagsApplied
  | stopMedia => exact h.stopMeetingMedia
  | endSession => exact h.endMeetingSession (by simpa [MediaTask.relies] using hsafe.1)
  | hide => exact h.withWidget ⟨rfl, rfl, rfl, rfl, id⟩
  | shutDown => exact h.shutDown (by simpa [MediaTask.relies] using hsafe.1)

theorem perform_safe {task : MediaTask} {rest : List MediaTask}
    (hsafe : MediaTask.Safe w.taping w.recorder (task :: rest)) :
    MediaTask.Safe (w.perform task).1.taping (w.perform task).1.recorder
      ((w.perform task).2.getD [] ++ rest) := by
  have hless (w' : MediaWidget) (hstops : task.stops = false) (hreleases : task.releases = false)
      (htaping : w'.taping = true → w.taping = true)
      (hrecorder : w'.recorder = true → w.recorder = true) :
      MediaTask.Safe w'.taping w'.recorder rest := by
    refine hsafe.2.mono ?_ ?_
    · rw [hstops, Bool.not_false, Bool.and_true]
      exact htaping
    · rw [hreleases, Bool.not_false, Bool.and_true]
      exact hrecorder
  -- a task that leaves the recorder alone leaves the rest as safe as it was
  have hsame (w' : MediaWidget) (hstops : task.stops = false) (hreleases : task.releases = false)
      (hkept : w.SameRecorder w') : MediaTask.Safe w'.taping w'.recorder rest := by
    refine hless w' hstops hreleases ?_ ?_
    · rw [hkept.taping]
      exact id
    · rw [hkept.recorder]
      exact id
  cases task with
  | stopRecording =>
    have hrest : MediaTask.Safe false w.recorder rest := hsafe.2.mono (fun hon => nomatch hon)
      (by simp [MediaTask.releases])
    rcases perform_stopRecording (w := w) with ⟨report, heq⟩ | ⟨hidle, heq⟩
    · rw [heq]
      exact onReport_safe (w := { w with recording := false }) hrest
    · rw [heq]
      exact hrest.mono (by simp [taping, hidle]) id
  | recorderReports report => exact onReport_safe (hsame w rfl rfl ⟨rfl, rfl⟩)
  | releasePipeline =>
    exact hsafe.2.mono (by simp [perform, releasePipeline, taping]) (fun hon => nomatch hon)
  | warning => exact hsame w rfl rfl ⟨rfl, rfl⟩
  | recordingStarted =>
    have hnone : w.recorder = false := by simpa [MediaTask.relies] using hsafe.1
    exact hless { w with recording := true } rfl rfl (by simp [taping, hnone]) id
  | emitFlagsApplied => exact hsame w.onFlagsApplied rfl rfl onFlagsApplied_sameRecorder
  | stopMedia => exact hsame w.stopMeetingMedia rfl rfl stopMeetingMedia_sameRecorder
  | endSession => exact hsame w.endMeetingSession rfl rfl endMeetingSession_sameRecorder
  | hide => exact hsame _ rfl rfl ⟨rfl, rfl⟩
  | shutDown => exact hsame w.shutDown rfl rfl shutDown_sameRecorder

theorem Sound.perform_waiting {task : MediaTask} {rest : List MediaTask}
    (h : (w.waiting (task :: rest)).Sound strict) :
    ((w.perform task).1.waiting ((w.perform task).2.getD [] ++ rest)).Sound strict := by
  have hbefore : w.Sound strict := h.popped rfl
  have hsafe := h.slots (task :: rest) List.mem_cons_self
  exact (hbefore.perform hsafe).waiting (perform_safe hsafe)

/-- A slot goes on: it is done in the end, or waits again. -/
theorem Sound.exec (h : w.Sound strict) {rest : List MediaTask}
    (hsafe : MediaTask.Safe w.taping w.recorder rest) : (w.exec rest).Sound strict := by
  refine exec_invariant (I := fun w => w.Sound strict) ?_ ?_ (h.waiting hsafe)
  · exact fun w hw => hw.popped rfl
  · exact fun w task rest hw => hw.perform_waiting

/-! ## The events -/

/-- The window is closed with nothing recorded once the session ends. -/
theorem Sound.closeMeetingWindow (h : w.Sound strict) : w.closeMeetingWindow.Sound strict := by
  have hclosed : { w with widget := { w.widget with pendingConnect := none } }.Sound strict :=
    h.withWidget ⟨rfl, rfl, rfl, rfl, id⟩
  unfold MediaWidget.closeMeetingWindow
  refine hclosed.exec ?_
  split_ifs <;> simp [MediaTask.Safe, MediaTask.relies, MediaTask.stops]

theorem Sound.setFlags (h : w.Sound strict) (flags : UInt32) {recording : Bool}
    (hrecording : recording = true → w.recording = true)
    (hallowed : recording = true → (w.setFlags flags).canRecord = true) :
    MediaWidget.Sound { w.setFlags flags with recording } strict := by
  have hless : (recording && w.recorder) = true → w.taping = true := by
    intro hon
    rcases Bool.and_eq_true_iff.mp hon with ⟨hrec, hrecorder⟩
    exact Bool.and_eq_true_iff.mpr ⟨hrecording hrec, hrecorder⟩
  refine ⟨h.controller, h.engine, h.used, h.shown, h.meeting, h.active, ?_, ?_⟩
  · intro hon
    exact ⟨(h.taping (hless hon)).1, hallowed (Bool.and_eq_true_iff.mp hon).1⟩
  · exact fun rest hrest => (h.slots rest hrest).mono hless id

/-- A recording that is no longer allowed is stopped before anything else runs. -/
theorem applyFlags_cases (h : w.Sound strict) (flags : UInt32) :
    ∃ (recording : Bool) (rest : List MediaTask),
      w.applyFlags flags = MediaWidget.exec { w.setFlags flags with recording } rest ∧
        MediaWidget.Sound { w.setFlags flags with recording } strict ∧
        (∀ taping recorder, MediaTask.Safe taping recorder rest) ∧
        .emitFlagsApplied ∈ rest := by
  unfold MediaWidget.applyFlags
  dsimp only
  split_ifs with hrevoked
  · rw [exec_stopRecording (Bool.and_eq_true_iff.mp hrevoked).2]
    refine ⟨false, _, rfl, h.setFlags flags ?_ ?_, fun _ _ => ⟨rfl, rfl, trivial⟩, ?_⟩
    · exact fun hon => nomatch hon
    · exact fun hon => nomatch hon
    · exact List.mem_cons_of_mem _ (List.mem_singleton_self _)
  · refine ⟨w.recording, _, rfl, h.setFlags flags id fun hrecording => ?_,
      fun _ _ => ⟨rfl, trivial⟩, List.mem_singleton_self _⟩
    have hstill : (w.setFlags flags).recording = true := hrecording
    simpa [hstill] using hrevoked

theorem Sound.applyFlags (h : w.Sound strict) (flags : UInt32) :
    (w.applyFlags flags).Sound strict := by
  rcases applyFlags_cases h flags with ⟨_, _, heq, hset, hsafe, _⟩
  rw [heq]
  exact hset.exec (hsafe _ _)

theorem Sound.startMeetingMedia (h : w.Sound strict) (halive : w.alive = true)
    (hmeeting : w.inMeeting = true) (hnone : strict → w.media.rtc = false)
    (answer : StartAnswer) : (w.startMeetingMedia answer).Sound strict := by
  unfold MediaWidget.startMeetingMedia
  split_ifs
  · exact h
  · refine h.clearLocal.syncAvButtonUi.run (MeetingMediaController.start_leads _ _ _) ?_ ?_
    · exact fun hstrict => MeetingMediaController.start_uses (hnone hstrict) _ _ _
    · exact fun _ => ⟨halive, hmeeting⟩

/-- A meeting begins: the widget is in it, and then the recorder may be started. -/
theorem Sound.begin (h : w.Sound strict) (halive : w.alive = true) {widget : MeetingWidget}
    {roomNo : Int32} (hmeeting : (widget.meeting.createmeet || widget.meeting.joinmeet) = true)
    (hflags : widget.meeting.flags = w.widget.meeting.flags)
    (hturn : strict → w.inMeeting = false) (answer : StartAnswer) :
    { MediaWidget.startMeetingMedia { w with widget, roomNo } answer with
      roomSessionActive := true }.Sound strict := by
  have hentered : MediaWidget.Sound { w with widget, roomNo } strict := by
    refine ⟨h.controller, h.engine, h.used, h.shown, ?_, fun _ => hmeeting, ?_, h.slots⟩
    · exact fun _ => ⟨halive, hmeeting⟩
    · show w.taping = true → w.roomSessionActive = true ∧
        (widget.meeting.flags &&& kRoomSettingsAllowRecord != 0) = true
      rw [hflags]
      exact h.taping
  -- outside of a meeting there is no engine
  have hnone : strict → w.media.rtc = false := by
    intro hstrict
    by_contra hrtc
    have hin := (h.meeting (Bool.of_not_eq_false hrtc)).2
    rw [hturn hstrict] at hin
    cases hin
  have hstarted := hentered.startMeetingMedia halive hmeeting hnone answer
  have hwidget : (MediaWidget.startMeetingMedia { w with widget, roomNo } answer).widget =
      widget := by
    unfold MediaWidget.startMeetingMedia
    split_ifs
    · rfl
    · exact run_framed.widget
  refine ⟨hstarted.controller, hstarted.engine, hstarted.used, hstarted.shown, hstarted.meeting,
    fun _ => ?_, fun htaping => ⟨rfl, (hstarted.taping htaping).2⟩, hstarted.slots⟩
  show (_ || _) = true
  rw [hwidget]
  exact hmeeting

/-- The number of the meeting an event begins, if it does. -/
def begun? (w : MediaWidget) : Event → Option Int32
  | .message (.createMeetingResponse roomNo) _ =>
    if roomNo.toInt32 ≠ 0 then some roomNo.toInt32 else none
  | .message (.joinMeetingResponse code) _ => if 0 < code then some w.roomNo else none
  | _ => none

/-- A meeting begins while the widget is in none. -/
def InTurn (w : MediaWidget) (e : Event) : Prop :=
  (w.begun? e).isSome = true → w.inMeeting = false

instance (w : MediaWidget) (e : Event) : Decidable (w.InTurn e) :=
  inferInstanceAs (Decidable (_ → _))

theorem Sound.onCreateMeetingResult (h : w.Sound strict) (halive : w.alive = true)
    {localUserId : Int64} {roomNo : UInt32} {answer : StartAnswer}
    (hturn : strict → w.InTurn (.message (.createMeetingResponse roomNo) answer)) :
    (w.onCreateMeetingResult localUserId roomNo.toInt32 answer).Sound strict := by
  unfold MediaWidget.onCreateMeetingResult
  split_ifs with hroom
  · refine h.begin halive ?_ ?_ (fun hstrict => hturn hstrict ?_) answer
    · simp [Client.onCreateMeetingResult, hroom, Client.applyProfile, Client.add, Client.setHost]
    · simp [Client.onCreateMeetingResult, hroom, Client.applyProfile, Client.add, Client.setHost]
    · simp [begun?, hroom]
  · exact h.closeMeetingWindow

theorem Sound.onJoinMeetingResult (h : w.Sound strict) (halive : w.alive = true)
    {localUserId : Int64} {code : Int32} {answer : StartAnswer}
    (hturn : strict → w.InTurn (.message (.joinMeetingResponse code) answer)) :
    (w.onJoinMeetingResult localUserId code answer).Sound strict := by
  unfold MediaWidget.onJoinMeetingResult
  split_ifs with hzero hfull hjoined
  · exact h.closeMeetingWindow
  · exact h.closeMeetingWindow
  · refine h.begin halive ?_ ?_ (fun hstrict => hturn hstrict ?_) answer
    · simp [Client.onJoinMeetingResult, hzero, hfull, hjoined, Client.applyProfile, Client.add,
        Client.setHost]
    · simp [Client.onJoinMeetingResult, hzero, hfull, hjoined, Client.applyProfile, Client.add,
        Client.setHost]
    · simp [begun?, hjoined]
  · exact h

theorem onPartnersSnapshot_sameMeeting (meeting : Client) (userIds : List Int64) :
    SameMeeting meeting (meeting.onPartnersSnapshot userIds) := by
  rw [Client.onPartnersSnapshot_eq]
  exact ⟨rfl, rfl, rfl, rfl, id⟩

theorem Sound.dispatch (h : w.Sound strict) (halive : w.alive = true) {localUserId : Int64}
    {msg : Message} {answer : StartAnswer} (hturn : strict → w.InTurn (.message msg answer)) :
    (w.dispatch localUserId msg answer).Sound strict := by
  have hclosed :
      (if w.widget.meeting.sessionEnding then w else w.closeMeetingWindow).Sound strict := by
    split_ifs
    · exact h
    · exact h.closeMeetingWindow
  cases msg with
  | createMeetingResponse roomNo => exact h.onCreateMeetingResult halive hturn
  | joinMeetingResponse code => exact h.onJoinMeetingResult halive hturn
  | remoteHostClosedError => exact hclosed
  | otherNetError => exact hclosed
  | roomSettingsNotify flags => exact h.applyFlags _
  -- the other messages are about the partners
  | partnerJoin2 userIds => exact h.withWidget (onPartnersSnapshot_sameMeeting _ _)
  | _ => exact h.withWidget ⟨rfl, rfl, rfl, rfl, id⟩

theorem Sound.handleRtcSessionLost (h : w.Sound strict) :
    w.handleRtcSessionLost.Sound strict := by
  unfold MediaWidget.handleRtcSessionLost
  split_ifs
  · refine h.clearLocal.syncAvButtonUi.withBoxes fun rest hrest => h.slots rest ?_
    rcases List.mem_cons.mp hrest with htop | hbelow
    · cases htop
    · exact hbelow
  · exact h

/-- The box on top is dismissed: its slot has waited, and goes on. -/
theorem Sound.dismiss (h : w.Sound strict) : w.dismiss.Sound strict := by
  unfold MediaWidget.dismiss
  split
  · next boxes hboxes =>
    have hbefore := h.popped hboxes
    exact Sound.syncAvButtonUi ⟨hbefore.controller, hbefore.engine, hbefore.used, .refl _,
      hbefore.meeting, hbefore.active, hbefore.taping, hbefore.slots⟩
  · next boxes hboxes => exact (h.popped hboxes).closeMeetingWindow
  · next rest boxes hboxes =>
    exact (h.popped hboxes).exec (h.slots rest (by rw [hboxes]; exact List.mem_cons_self))
  · exact h

/-- A recording begins while no slot waits. Where the recorder reports from inside
`record()`, it is released before the start goes on. -/
theorem recordToggled_cases (h : w.Sound strict) (hnone : w.boxes = []) (start : Bool)
    (report : RecorderReport) :
    ∃ (recording recorder finalized : Bool) (rest : List MediaTask),
      w.recordToggled start report =
          MediaWidget.exec { w with recording, recorder, finalized } rest ∧
        MediaWidget.Sound { w with recording, recorder, finalized } strict ∧
        MediaTask.Safe (recording && recorder) recorder rest := by
  unfold MediaWidget.recordToggled
  split_ifs with hstart hrecording hrefused
  · exact ⟨w.recording, w.recorder, w.finalized, _, rfl, h, rfl, trivial⟩
  · exact ⟨w.recording, w.recorder, w.finalized, [], rfl, h, trivial⟩
  · exact ⟨w.recording, w.recorder, w.finalized, _, rfl, h, rfl, trivial⟩
  · have hallowed : w.roomSessionActive = true ∧ w.canRecord = true := by simpa using hrefused
    have hready (recording recorder finalized : Bool) :
        MediaWidget.Sound { w with recording, recorder, finalized } strict := by
      refine ⟨h.controller, h.engine, h.used, h.shown, h.meeting, h.active, fun _ => hallowed, ?_⟩
      rw [hnone]
      exact fun rest hrest => nomatch hrest
    rcases report with _ | fileOk | fileOk
    · exact ⟨true, true, false, [], rfl, hready _ _ _, trivial⟩
    · cases fileOk with
      | true =>
        exact ⟨w.recording, false, true, [.recordingStarted], rfl, hready _ _ _, rfl, trivial⟩
      | false =>
        refine ⟨w.recording, true, true, [.warning, .releasePipeline, .recordingStarted], rfl,
          hready _ _ _, ?_⟩
        simp [MediaTask.Safe, MediaTask.relies, MediaTask.releases]
    · cases fileOk with
      | true =>
        exact ⟨false, false, true, [.warning, .recordingStarted], rfl, hready _ _ _, rfl, rfl,
          trivial⟩
      | false =>
        refine ⟨false, true, true, [.warning, .releasePipeline, .warning, .recordingStarted], rfl,
          hready _ _ _, ?_⟩
        simp [MediaTask.Safe, MediaTask.relies, MediaTask.releases]

theorem Sound.recordToggled (h : w.Sound strict) (hnone : w.boxes = []) (start : Bool)
    (report : RecorderReport) : (w.recordToggled start report).Sound strict := by
  rcases recordToggled_cases h hnone start report with ⟨_, _, _, _, heq, hready, hsafe⟩
  rw [heq]
  exact hready.exec hsafe

/-- A button of the three is pressed: the slot has checked for the meeting. -/
theorem Sound.press (h : w.Sound strict) (hr : w.media.Toggles r) :
    (if w.mayToggle then w.run r else w).Sound strict := by
  split_ifs
  · exact h.toggle hr
  · exact h

theorem Sound.destroy (h : w.Sound strict) : w.destroy.Sound strict :=
  h.exec (by simp [MediaTask.Safe, MediaTask.relies, MediaTask.stops])

/-- The widget's slots for the session leave the meeting alone. -/
theorem requestConnectToServer_sameMeeting (widget : MeetingWidget) (request : ConnectRequest) :
    SameMeeting widget.meeting (widget.requestConnectToServer request).1.meeting := by
  unfold MeetingWidget.requestConnectToServer
  split_ifs <;> exact ⟨rfl, rfl, rfl, rfl, id⟩

theorem flushPendingConnect_sameMeeting (widget : MeetingWidget) :
    SameMeeting widget.meeting widget.release.flushPendingConnect.1.meeting := by
  unfold MeetingWidget.flushPendingConnect
  split
  · rcases requestConnectToServer_sameMeeting
      { widget.release with pendingConnect := none } _ with
      ⟨hcreate, hjoin, hflags, hhost, hending⟩
    exact ⟨hcreate, hjoin, hflags, hhost, fun h => nomatch hending h⟩
  · exact ⟨rfl, rfl, rfl, rfl, fun h => nomatch h⟩

theorem onTimeout_sameMeeting (widget : MeetingWidget) :
    SameMeeting widget.meeting widget.onTimeout.1.meeting := by
  unfold MeetingWidget.onTimeout
  split_ifs
  · exact flushPendingConnect_sameMeeting widget
  · exact ⟨rfl, rfl, rfl, rfl, id⟩

theorem onConnectFinished_sameMeeting (widget : MeetingWidget) (ok : Bool) (r : ConnectRequest) :
    SameMeeting widget.meeting (widget.onConnectFinished ok r).1.meeting := by
  unfold MeetingWidget.onConnectFinished
  dsimp only
  split_ifs <;> exact ⟨rfl, rfl, rfl, rfl, id⟩

theorem Sound.editSettings (h : w.Sound strict) (flags : UInt32) :
    (MediaWidget.applyFlags
      { w with
        widget := { w.widget with meeting := w.widget.meeting.settingsEdited flags } }
      flags).Sound strict := by
  -- the switches are set twice, the first time without a look at the recorder
  have hedited : MediaWidget.Sound { w with
      widget := { w.widget with meeting := { w.widget.meeting with edited := true } } } strict :=
    h.withWidget ⟨rfl, rfl, rfl, rfl, id⟩
  exact hedited.applyFlags flags

theorem Sound.handle (h : w.Sound strict) (localUserId : Int64) {e : Event}
    (halive : w.alive = true) (henabled : w.enabled e = true) (hturn : strict → w.InTurn e) :
    (w.handle localUserId e).Sound strict := by
  cases e with
  | request r => exact h.withWidget (requestConnectToServer_sameMeeting _ _)
  | connectFinished ok r =>
    have hsame := h.withWidget (onConnectFinished_sameMeeting w.widget ok r)
    exact ⟨hsame.controller, hsame.engine, hsame.used, hsame.shown, hsame.meeting, hsame.active,
      hsame.taping, hsame.slots⟩
  | networkDisconnected => exact h.withWidget (flushPendingConnect_sameMeeting w.widget)
  | timeout => exact h.withWidget (onTimeout_sameMeeting w.widget)
  | dismissWarning =>
    have hseen : MediaWidget.Sound { w with
        widget := { w.widget with warnings := w.widget.warnings - 1 } } strict :=
      h.withWidget ⟨rfl, rfl, rfl, rfl, id⟩
    exact hseen.closeMeetingWindow
  | message msg answer => exact h.dispatch halive hturn
  | closeWindow => exact h.closeMeetingWindow
  | editSettings allowRecord allowShare =>
    unfold MediaWidget.handle
    dsimp only
    split
    · exact h.editSettings _
    · exact h
  | recordToggled start report => exact h.recordToggled (List.isEmpty_iff.mp henabled) _ _
  | recorderReports report =>
    unfold MediaWidget.handle
    dsimp only
    split_ifs
    · exact h.exec ⟨rfl, trivial⟩
    · exact h
  | stopWillReport report =>
    exact ⟨h.controller, h.engine, h.used, h.shown, h.meeting, h.active, h.taping, h.slots⟩
  | openVedio ok => exact h.press (MeetingMediaController.setVideoOn_toggles _ _)
  | openAudio ok => exact h.press (MeetingMediaController.setAudioOn_toggles _ _)
  | shareScreen screens ok => exact h.press (MeetingMediaController.setScreenOn_toggles _ _ _)
  | selectVideoDevice deviceId =>
    exact h.toggle (MeetingMediaController.selectVideoDevice_toggles _)
  | selectAudioDevice deviceId =>
    exact h.toggle (MeetingMediaController.selectAudioDevice_toggles _)
  | selectPlayoutDevice deviceId =>
    exact h.toggle (MeetingMediaController.selectPlayoutDevice_toggles _)
  | rtcJoined =>
    exact Sound.syncAvButtonUi ⟨⟨h.controller.exclusive, h.controller.engine⟩, h.engine, h.used,
      h.shown, h.meeting, h.active, h.taping, h.slots⟩
  | rtcJoinFailed =>
    have hleft : MediaWidget.Sound { w with media := { w.media with joined := false } } strict :=
      ⟨⟨h.controller.exclusive, h.controller.engine⟩, h.engine, h.used, h.shown, h.meeting,
        h.active, h.taping, h.slots⟩
    exact hleft.clearLocal.closeMeetingWindow
  | rtcSessionLost => exact h.handleRtcSessionLost
  | dismiss => exact h.dismiss
  | destroy => exact h.destroy

theorem handle_of_step {localUserId : Int64} {e : Event} {w' : MediaWidget}
    (hstep : (system localUserId).Step w e w') :
    w.alive = true ∧ w.enabled e = true ∧ w' = w.handle localUserId e := by
  change (if _ then _ else _) = some w' at hstep
  split_ifs at hstep with hcan
  rcases Bool.and_eq_true_iff.mp hcan with ⟨halive, henabled⟩
  exact ⟨halive, henabled, (Option.some.inj hstep).symm⟩

theorem Sound.init (strict : Prop) : fresh.Sound strict where
  controller := ⟨fun _ => rfl, fun hon => by simp [fresh, MeetingMediaController.fresh] at hon⟩
  engine := rfl
  used _ := rfl
  shown := .refl _
  meeting h := nomatch h
  active h := nomatch h
  taping h := nomatch h
  slots _ hrest := nomatch hrest

theorem reachable_sound {localUserId : Int64} (h : Reachable (system localUserId) w) :
    w.Sound False := by
  refine Reachable.invariant (I := fun w => w.Sound False) ?_ ?_ h
  · intro w hinit
    rw [show w = fresh from hinit]
    exact .init False
  · intro w e w' _ hw hstep
    rcases handle_of_step hstep with ⟨halive, henabled, rfl⟩
    exact hw.handle localUserId halive henabled fun hstrict => hstrict.elim

/-- What a run comes to; nothing more, once an event cannot happen. -/
def after (localUserId : Int64) (es : List Event) : MediaWidget :=
  (replay (next localUserId) fresh es).getD fresh

theorem reachable_after {localUserId : Int64} {es : List Event}
    (h : (replay (next localUserId) fresh es).isSome = true) :
    Reachable (system localUserId) (after localUserId es) := by
  rcases Option.isSome_iff_exists.mp h with ⟨w, hw⟩
  rw [after, hw]
  exact (Run.of_replay (fun _ _ _ => id) hw).reachable (.init rfl)

theorem reachable_of_guarded {C : MediaWidget → Event → Prop} [∀ w e, Decidable (C w e)]
    (localUserId : Int64) (es : List Event)
    (h : replay (guarded C (next localUserId)) fresh es = some w) :
    Reachable ((system localUserId).restrict C) w :=
  (Run.of_replay (fun _ _ _ => guarded_step fun _ _ _ => id) h).reachable (.init rfl)

/-- The devices of a computer with one camera. -/
def oneCamera : StartAnswer where
  fault := none
  devices :=
    { cameras := [ascii "cam0"], microphones := [], speakers := [], savedVideo := []
      savedAudio := [] }

/-- The host of room 7 opens the camera, shares the screen instead, stops that and
records. -/
def hosting : List Event :=
  [.message (.createMeetingResponse 7) oneCamera, .rtcJoined,
    .message (.roomSettingsNotify 1) oneCamera, .openVedio true,
    .shareScreen [⟨ascii "0", true⟩] true, .shareScreen [] true, .recordToggled true .silent]

/-- The widget goes while the host records: the file is no good, which a box says before
the media are stopped. -/
def leaving : List Event := hosting ++ [.stopWillReport (.stopped false), .destroy]

/-! ## Main results -/

example : (after 5 (leaving ++ [.dismiss])).calls =
    [.createXrtcEngine, .setVideoCaptureRequest,
      .join
        { roomId := 7, createRoomIfMissing := true, maxPublishers := 8
          videoDeviceId := ascii "cam0", audioDeviceId := [], playoutDeviceId := [] },
      .startLocalVideo true, .startLocalScreen (ascii "0") true, .stopLocalScreen,
      .sendCloseCamera, .destroyXrtcEngine] := by
  decide

/-- A meeting that begins within another has an engine join that is in use. -/
example : replay EngineUse.next none (after 5
    [.message (.createMeetingResponse 7) oneCamera, .rtcJoined, .openVedio true,
      .message (.createMeetingResponse 8) oneCamera]).calls = none := by
  decide

/-- Camera and screen exclude each other; what is on, is on in a meeting and with an
engine; the buttons show nothing as on that is off; and frames are recorded only in a
meeting that allows it. A start whose recorder has failed from inside `record()` goes
on later, but without a recorder. -/
theorem local_media_safe {localUserId : Int64} (h : Reachable (system localUserId) w) :
    ¬ (w.media.videoOn = true ∧ w.media.screenOn = true) ∧
      (w.media.videoOn = true ∨ w.media.audioOn = true ∨ w.media.screenOn = true →
        w.media.rtc = true ∧ w.inMeeting = true) ∧
      (w.localVideoOn = true → w.media.videoOn = true) ∧
      (w.localAudioOn = true → w.media.audioOn = true) ∧
      (w.localScreenOn = true → w.media.screenOn = true) ∧
      (w.recording = true → w.recorder = true → w.inMeeting = true ∧ w.canRecord = true) := by
  have hw := reachable_sound h
  refine ⟨?_, fun hon => ?_, hw.shown.video, hw.shown.audio, hw.shown.screen,
    fun hrecording hrecorder => ?_⟩
  · rintro ⟨hvideo, hscreen⟩
    rw [hw.controller.exclusive hvideo] at hscreen
    cases hscreen
  · have hrtc := hw.controller.engine hon
    exact ⟨hrtc, (hw.meeting hrtc).2⟩
  · rcases hw.taping (Bool.and_eq_true_iff.mpr ⟨hrecording, hrecorder⟩) with ⟨hactive, hallowed⟩
    exact ⟨hw.active hactive, hallowed⟩

theorem local_media_safe_hosting :
    (after 5 hosting).inMeeting = true ∧ (after 5 hosting).canRecord = true :=
  (local_media_safe (reachable_after (by decide))).2.2.2.2.2 (by decide) (by decide)

/-- The session ends while the box about a failed recorder is open. -/
example :
    let failing := [.recordToggled true (.error true), .closeWindow, .dismiss]
    let w := after 5 (hosting.dropLast ++ failing)
    w.recording = true ∧ w.recorder = false ∧ w.inMeeting = false := by
  decide

end MediaWidget

end CCMeeting
