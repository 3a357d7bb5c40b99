import CCMeeting.Client.LocalMedia

/-! # Nobody shares a screen unpermitted

The slot of the share button does not look at the permission: it relies on the
button being disabled, and on `flags_applied` to stop what is no longer allowed.
That is enough while the meetings are in order and no slot waits for a box with an
end of the session, or with new permissions, still before it. Until such a box is
dismissed the widget may take the screen for not shared, or share it forbidden.
-/

namespace CCMeeting

open ByteString Transition

namespace MediaTask

/-- The task ends the session, or at least the media. -/
def ends : MediaTask → Bool
  | .stopMedia | .endSession | .shutDown => true
  | _ => false

end MediaTask

namespace MediaBox

/-- The slot that waits for the box ends the session. -/
def ends : MediaBox → Bool
  | .notice => false
  | .sessionLost => true
  | .slot rest => rest.any (·.ends)

/-- The slot that waits for the box has yet to tell of new permissions. -/
def applies : MediaBox → Bool
  | .slot rest => rest.contains .emitFlagsApplied
  | _ => false

/-- The slot that waits for the box has nothing left that matters to the media. -/
def settled (box : MediaBox) : Bool := !box.ends && !box.applies

end MediaBox

namespace MediaWidget

variable {w : MediaWidget} {r : MeetingMediaController × List MediaEffect} {strict : Prop}

/-- A meeting begins under a number there can be, and not before the last session
has ended. -/
def Orderly (w : MediaWidget) (e : Event) : Prop :=
  (w.begun? e).all (fun roomNo => !w.widget.meeting.sessionEnding && decide (0 < roomNo)) = true

instance (w : MediaWidget) (e : Event) : Decidable (w.Orderly e) :=
  inferInstanceAs (Decidable (_ = true))

theorem Orderly.begun {e : Event} {roomNo : Int32} (h : w.Orderly e)
    (hbegun : w.begun? e = some roomNo) :
    w.widget.meeting.sessionEnding = false ∧ 0 < roomNo := by
  rw [Orderly, hbegun] at h
  simpa using h

/-! ## The invariant -/

/-- All switches off. -/
def allOff : Switches := ⟨false, false, false⟩

/-- No slot that waits ends the session. -/
def Lasting (w : MediaWidget) : Prop := ∀ box ∈ w.boxes, box.ends = false

/-- No slot that waits has to tell of new permissions. -/
def Told (w : MediaWidget) : Prop := ∀ box ∈ w.boxes, box.applies = false

/-- What holds between the media, the slots that wait and the permission while the
meetings are in order. -/
structure Steady (w : MediaWidget) : Prop where
  ending : w.widget.meeting.sessionEnding = true → w.media.rtc = false
  shown : w.Lasting → w.shown = w.media.switches
  joined : w.Lasting → w.media.switches ≠ allOff → w.media.joined = true
  button : w.Told → w.shareScreenBtn = true → w.canShareScreen = true
  screen : w.Lasting → w.Told → w.media.screenOn = true → w.canShareScreen = true

/-- With everything off, only the button matters. -/
theorem Steady.of_off (hending : w.widget.meeting.sessionEnding = true → w.media.rtc = false)
    (hshown : w.shown = allOff) (hswitches : w.media.switches = allOff)
    (hbutton : w.Told → w.shareScreenBtn = true → w.canShareScreen = true) : w.Steady where
  ending := hending
  shown _ := hshown.trans hswitches.symm
  joined _ hon := absurd hswitches hon
  button := hbutton
  screen _ _ hon := by
    have hoff : w.media.screenOn = false := congrArg Switches.screen hswitches
    rw [hoff] at hon
    cases hon

theorem Steady.of_ended (h : w.Ended) : w.Steady := by
  refine .of_off (fun _ => h.rtc) h.shown h.switches fun _ hon => ?_
  rw [h.shareScreenBtn] at hon
  cases hon

/-- A slot waits that ends the session: little else matters. -/
theorem Steady.of_ends (hending : w.widget.meeting.sessionEnding = true → w.media.rtc = false)
    (hends : ¬ w.Lasting)
    (hbutton : w.Told → w.shareScreenBtn = true → w.canShareScreen = true) : w.Steady where
  ending := hending
  shown hlasting := absurd hlasting hends
  joined hlasting := absurd hlasting hends
  button := hbutton
  screen hlasting := absurd hlasting hends

/-- Without an engine nothing is on. -/
theorem Sound.off (h : w.Sound strict) (hrtc : w.media.rtc = false) :
    w.media.switches = allOff ∧ w.shown = allOff := by
  have hoff : ∀ b, (b = true → w.media.rtc = true) → b = false := by
    intro b hb
    cases b with
    | false => rfl
    | true => exact absurd (hb rfl) (by rw [hrtc]; decide)
  have hswitches : w.media.switches = allOff := by
    unfold MeetingMediaController.switches allOff
    rw [hoff _ fun hon => h.controller.engine (Or.inl hon),
      hoff _ fun hon => h.controller.engine (Or.inr (Or.inl hon)),
      hoff _ fun hon => h.controller.engine (Or.inr (Or.inr hon))]
  -- nothing is shown as on that is off
  have hbelow := h.shown
  rw [hswitches] at hbelow
  exact ⟨hswitches, hbelow.eq_off⟩

/-- A slot that leaves media, boxes and permission alone. -/
theorem Steady.withWidget (h : w.Steady) {widget : MeetingWidget}
    (hsame : SameMeeting w.widget.meeting widget.meeting) :
    MediaWidget.Steady { w with widget } := by
  have hcan : MediaWidget.canShareScreen { w with widget } = w.canShareScreen := by
    show (widget.meeting.isHost || widget.meeting.flags &&& kRoomSettingsAllowMemberShare != 0) = _
    rw [hsame.isHost, hsame.flags]
    rfl
  refine ⟨fun hending => h.ending (hsame.ending hending), h.shown, h.joined, ?_, ?_⟩
  · rw [hcan]
    exact h.button
  · rw [hcan]
    exact h.screen

/-- The slots that wait may be others, if no more of them matter to the media. -/
theorem Steady.withBoxes (h : w.Steady) {boxes : List MediaBox}
    (hlasting : (∀ box ∈ boxes, box.ends = false) → w.Lasting)
    (htold : (∀ box ∈ boxes, box.applies = false) → w.Told) :
    MediaWidget.Steady { w with boxes } where
  ending := h.ending
  shown hnew := h.shown (hlasting hnew)
  joined hnew := h.joined (hlasting hnew)
  button hnew := h.button (htold hnew)
  screen hnew hnew' := h.screen (hlasting hnew) (htold hnew')

/-- What the recorder does changes nothing. -/
theorem Steady.withRecorder (h : w.Steady) (recording recorder finalized : Bool) :
    MediaWidget.Steady { w with recording, recorder, finalized } :=
  ⟨h.ending, h.shown, h.joined, h.button, h.screen⟩

/-- Another slot may wait instead, or the same with less left, if what is left matters
as much. -/
theorem Steady.swap {rest rest' : List MediaTask} (h : (w.waiting rest).Steady)
    (hends : rest.any (·.ends) = true → rest'.any (·.ends) = true)
    (happlies : .emitFlagsApplied ∈ rest → .emitFlagsApplied ∈ rest') :
    (w.waiting rest').Steady := by
  refine Steady.withBoxes h ?_ ?_
  · intro hnew
    rcases List.forall_mem_cons.mp hnew with ⟨htop, hbelow⟩
    refine List.forall_mem_cons.mpr ⟨?_, hbelow⟩
    rw [MediaBox.ends, Bool.eq_false_iff] at htop ⊢
    intro hon
    exact htop (hends hon)
  · intro hnew
    rcases List.forall_mem_cons.mp hnew with ⟨htop, hbelow⟩
    refine List.forall_mem_cons.mpr ⟨?_, hbelow⟩
    simp only [MediaBox.applies, List.contains_eq_mem, decide_eq_false_iff_not] at htop ⊢
    intro hmem
    exact htop (happlies hmem)

/-- Whatever a slot has left when it begins to wait. -/
theorem Steady.waiting (h : w.Steady) (rest : List MediaTask) : (w.waiting rest).Steady :=
  h.withBoxes (fun hnew => (List.forall_mem_cons.mp hnew).2)
    fun hnew => (List.forall_mem_cons.mp hnew).2

theorem Steady.done (h : (w.waiting []).Steady) : w.Steady := by
  show MediaWidget.Steady { w.waiting [] with boxes := w.boxes }
  refine h.withBoxes ?_ ?_
  · intro hlasting
    exact List.forall_mem_cons.mpr ⟨rfl, hlasting⟩
  · intro htold
    exact List.forall_mem_cons.mpr ⟨rfl, htold⟩

/-! ## The signals of the controller -/

theorem canShareScreen_congr {w' : MediaWidget} (h : w'.widget = w.widget) :
    w'.canShareScreen = w.canShareScreen := by
  rw [canShareScreen, h, canShareScreen]

theorem syncAvButtonUi_button : w.syncAvButtonUi.shareScreenBtn = true →
    w.canShareScreen = true := fun hon => (Bool.and_eq_true_iff.mp hon).2

/-- The button is as it was, or set anew by the room switches. -/
theorem foldl_react_button (effects : List MediaEffect)
    (h : w.shareScreenBtn = true → w.canShareScreen = true) :
    (effects.foldl react w).shareScreenBtn = true → w.canShareScreen = true := by
  induction effects generalizing w with
  | nil => exact h
  | cons effect effects ih =>
    rw [List.foldl_cons, ← canShareScreen_congr (react_framed effect).widget]
    apply ih
    rw [canShareScreen_congr (react_framed effect).widget]
    cases effect with
    | stateChanged => exact syncAvButtonUi_button
    | call c | localCameraStopped | notice => exact h

/-- The slots that wait still do, after a call of the controller. -/
theorem mem_boxes_run {box : MediaBox} (hbox : box ∈ w.boxes) : box ∈ (w.run r).boxes := by
  rw [MediaWidget.run, foldl_react_boxes]
  exact List.mem_append_right _ hbox

/-- What is shown, and what is on belongs to a joined room, also once a button is
pressed. -/
theorem Steady.toggled (h : w.Steady) (hr : w.media.Toggles r) (hlasting : w.Lasting) :
    (w.run r).shown = (w.run r).media.switches ∧
      ((w.run r).media.switches ≠ allOff → (w.run r).media.joined = true) := by
  rw [(run_framed (w := w) (r := r)).media]
  constructor
  · rcases run_shown hr.leads with hnow | ⟨hsame, hswitches⟩
    · exact hnow
    · rw [hsame, h.shown hlasting]
      exact hswitches.symm
  · intro hon
    refine hr.joined.trans ?_
    rcases hr.switched with hsame | hjoined
    · exact h.joined hlasting (hsame ▸ hon)
    · exact hjoined

/-- A button is pressed while no box is open; sharing begins only if it may. -/
theorem Steady.press (h : w.Steady) (hnone : w.boxes = []) (hr : w.media.Toggles r)
    (hscreen : r.1.screenOn = true → w.canShareScreen = true) :
    (if w.mayToggle then w.run r else w).Steady := by
  split_ifs
  swap
  · exact h
  have hframe := run_framed (w := w) (r := r)
  have hlasting : w.Lasting := by
    rw [Lasting, hnone]
    exact List.forall_mem_nil _
  have htold : w.Told := by
    rw [Told, hnone]
    exact List.forall_mem_nil _
  have hcan : (w.run r).canShareScreen = w.canShareScreen := canShareScreen_congr hframe.widget
  rcases h.toggled hr hlasting with ⟨hshown, hjoined⟩
  refine ⟨fun hending => ?_, fun _ => hshown, fun _ => hjoined, fun _ => ?_, fun _ _ hon => ?_⟩
  · rw [hframe.widget] at hending
    rw [hframe.media]
    exact hr.rtc.trans (h.ending hending)
  · rw [hcan]
    exact foldl_react_button (w := { w with media := r.1 }) r.2 (h.button htold)
  · rw [hframe.media] at hon
    exact hcan.trans (hscreen hon)

/-! ## The permission changes -/

/-- What is shared no longer permitted is stopped: where no slot ends the session,
the widget knows what is shared. -/
theorem Steady.onFlagsApplied (hcontroller : w.media.Sound)
    (hending : w.widget.meeting.sessionEnding = true → w.media.rtc = false)
    (hshown : w.Lasting → w.shown = w.media.switches)
    (hjoined : w.Lasting → w.media.switches ≠ allOff → w.media.joined = true) :
    w.onFlagsApplied.Steady := by
  unfold MediaWidget.onFlagsApplied
  split_ifs with hrevoked
  · rcases Bool.and_eq_true_iff.mp hrevoked with ⟨_, hlocal⟩
    have htoggles := MeetingMediaController.setScreenOn_toggles (c := w.media) false [] false
    have hframe := run_framed (w := w) (r := w.media.setScreenOn false [] false)
    have hending' : (w.run (w.media.setScreenOn false [] false)).widget.meeting.sessionEnding =
        true → (w.run (w.media.setScreenOn false [] false)).media.rtc = false := by
      intro hstill
      rw [hframe.widget] at hstill
      rw [hframe.media]
      exact htoggles.rtc.trans (hending hstill)
    by_cases hlasting : w.Lasting
    · have hscreen : w.media.screenOn = true :=
        (congrArg Switches.screen (hshown hlasting)).symm.trans hlocal
      have hrtc : w.media.rtc = true := hcontroller.engine (Or.inr (Or.inr hscreen))
      have hin : w.media.joined = true := by
        refine hjoined hlasting fun hoff => ?_
        rw [show w.media.screenOn = false from congrArg Switches.screen hoff] at hscreen
        cases hscreen
      have hstop : w.media.setScreenOn false [] false = ({ w.media with screenOn := false },
          [.call .stopLocalScreen, .localCameraStopped, .stateChanged]) := by
        simp [MeetingMediaController.setScreenOn, hrtc, hin, hscreen]
      rw [hstop]
      exact ⟨hending, fun _ => rfl, fun _ _ => hin, fun _ => syncAvButtonUi_button,
        fun _ _ hon => nomatch hon⟩
    · refine .of_ends hending' (fun hnew => hlasting ?_) fun _ => syncAvButtonUi_button
      exact fun box hbox => hnew box (mem_boxes_run hbox)
  · refine ⟨hending, hshown, hjoined, fun _ => syncAvButtonUi_button, fun hlasting _ hon => ?_⟩
    have hlocal : w.localScreenOn = true :=
      (congrArg Switches.screen (hshown hlasting)).trans hon
    show w.canShareScreen = true
    simpa [hlocal] using hrevoked

/-- A slot waits meanwhile: calls that open no box do the same. -/
theorem run_waiting (hnotice : .notice ∉ r.2) (rest : List MediaTask) :
    (w.waiting rest).run r = (w.run r).waiting rest := by
  have hfold : ∀ (effects : List MediaEffect) (w : MediaWidget), .notice ∉ effects →
      effects.foldl react (w.waiting rest) = (effects.foldl react w).waiting rest := by
    intro effects
    induction effects with
    | nil => exact fun _ _ => rfl
    | cons effect effects ih =>
      intro w hnot
      rw [List.foldl_cons, List.foldl_cons, ← ih _ fun hmem => hnot (List.mem_cons_of_mem _ hmem)]
      cases effect with
      | notice => exact absurd List.mem_cons_self hnot
      | call c | stateChanged | localCameraStopped => rfl
  exact hfold r.2 { w with media := r.1 } hnotice

theorem onFlagsApplied_waiting (rest : List MediaTask) :
    (w.waiting rest).onFlagsApplied = w.onFlagsApplied.waiting rest := by
  have hquiet : .notice ∉ (w.media.setScreenOn false [] false).2 := by
    unfold MeetingMediaController.setScreenOn
    simp only [Bool.false_eq_true, if_false]
    split_ifs <;> simp
  have hrun := run_waiting (w := w) hquiet rest
  have hcan : (w.waiting rest).canShareScreen = w.canShareScreen := rfl
  have hlocal : (w.waiting rest).localScreenOn = w.localScreenOn := rfl
  unfold onFlagsApplied
  rw [hcan, hlocal]
  split_ifs
  · exact congrArg syncAvButtonUi hrun
  · rfl

/-! ## The tasks of a slot -/

theorem Ended.waiting (h : w.Ended) (rest : List MediaTask) : (w.waiting rest).Ended :=
  ⟨h.rtc, h.switches, h.shown, h.roomSessionActive, h.shareScreenBtn⟩

/-- The recorder's boxes come before whatever the slot has left. -/
theorem Steady.onReport {rest : List MediaTask} (h : (w.waiting rest).Steady)
    (report : RecorderReport) :
    ((w.onReport report).1.waiting ((w.onReport report).2.getD [] ++ rest)).Steady := by
  have hmore (first : List MediaTask) : (w.waiting (first ++ rest)).Steady := by
    refine h.swap (fun hends => ?_) (List.mem_append_right _)
    rw [List.any_append, hends, Bool.or_true]
  rcases onReport_cases w report with ⟨recording, recorder, finalized, heq, _⟩
  rw [heq]
  exact (hmore _).withRecorder recording recorder finalized

/-- A task of the slot is done. One that leaves media and permission alone is one less
that waits. -/
theorem Steady.perform_waiting {task : MediaTask} {rest : List MediaTask}
    (hsound : (w.waiting (task :: rest)).Sound strict) (h : (w.waiting (task :: rest)).Steady) :
    ((w.perform task).1.waiting ((w.perform task).2.getD [] ++ rest)).Steady := by
  have hless (hends : task.ends = false) (happlies : task ≠ .emitFlagsApplied) :
      (w.waiting rest).Steady := by
    refine h.swap ?_ ?_
    · rw [List.any_cons, hends, Bool.false_or]
      exact id
    · exact fun hmem => (List.mem_cons.mp hmem).resolve_left happlies.symm
  cases task with
  | stopRecording =>
    have hrest := hless rfl (by decide)
    rcases perform_stopRecording (w := w) with ⟨report, heq⟩ | ⟨_, heq⟩
    · rw [heq]
      exact Steady.onReport (hrest.withRecorder false w.recorder w.finalized) report
    · rw [heq]
      exact hrest
  | recorderReports report => exact (hless rfl (by simp)).onReport report
  | releasePipeline => exact (hless rfl (by decide)).withRecorder w.recording false w.finalized
  | warning => exact hless rfl (by decide)
  | recordingStarted => exact (hless rfl (by decide)).withRecorder true w.recorder w.finalized
  | emitFlagsApplied =>
    have hlasting (hnew : (w.waiting rest).Lasting) :
        (w.waiting (.emitFlagsApplied :: rest)).Lasting := by
      rcases List.forall_mem_cons.mp hnew with ⟨htop, hbelow⟩
      exact List.forall_mem_cons.mpr ⟨htop, hbelow⟩
    have happlied : (w.waiting rest).onFlagsApplied.Steady :=
      Steady.onFlagsApplied (w := w.waiting rest) hsound.controller h.ending
        (fun hnew => h.shown (hlasting hnew)) fun hnew => h.joined (hlasting hnew)
    rw [onFlagsApplied_waiting] at happlied
    exact happlied
  | stopMedia =>
    refine .of_off (fun _ => ?_) ?_ ?_ ?_
    · show w.stopMeetingMedia.media.rtc = false
      rw [stopMeetingMedia_eq]
    · show w.stopMeetingMedia.shown = allOff
      rw [stopMeetingMedia_eq]
      rfl
    · show w.stopMeetingMedia.media.switches = allOff
      rw [stopMeetingMedia_eq]
      rfl
    · intro _ hon
      have hbutton : w.stopMeetingMedia.shareScreenBtn = true := hon
      rw [stopMeetingMedia_eq] at hbutton
      cases hbutton
  | endSession => exact .of_ended (endMeetingSession_ended.waiting rest)
  | hide =>
    have hsame : SameMeeting w.widget.meeting { w.widget with visible := false }.meeting :=
      ⟨rfl, rfl, rfl, rfl, id⟩
    exact (hless rfl (by decide)).withWidget hsame
  | shutDown => exact .of_ended (shutDown_ended.waiting rest)

/-- A slot goes on that has waited. -/
theorem Steady.exec_waiting {rest : List MediaTask} (hsound : (w.waiting rest).Sound strict)
    (h : (w.waiting rest).Steady) : (w.exec rest).Steady := by
  refine (exec_invariant (I := fun w => w.Sound strict ∧ w.Steady) ?_ ?_ ⟨hsound, h⟩).2
  · exact fun w hw => ⟨hw.1.popped rfl, hw.2.done⟩
  · exact fun w task rest hw => ⟨hw.1.perform_waiting, hw.2.perform_waiting hw.1⟩

theorem Steady.exec {rest : List MediaTask} (h : w.Steady) (hsound : w.Sound strict)
    (hsafe : MediaTask.Safe w.taping w.recorder rest) : (w.exec rest).Steady :=
  Steady.exec_waiting (hsound.waiting hsafe) (h.waiting rest)

/-- A slot that ends the session may find what it likes. -/
theorem Sound.exec_ends {rest : List MediaTask} (hsound : w.Sound strict)
    (hsafe : MediaTask.Safe w.taping w.recorder rest) (hends : rest.any (·.ends) = true)
    (hending : w.widget.meeting.sessionEnding = true → w.media.rtc = false)
    (hbutton : w.Told → w.shareScreenBtn = true → w.canShareScreen = true) :
    (w.exec rest).Steady := by
  refine Steady.exec_waiting (hsound.waiting hsafe) (.of_ends hending ?_ ?_)
  · intro hlasting
    have htop : (MediaBox.slot rest).ends = false := hlasting _ List.mem_cons_self
    rw [MediaBox.ends, hends] at htop
    cases htop
  · intro htold
    exact hbutton (List.forall_mem_cons.mp htold).2

/-- The window is closed. What is still ending has no engine. -/
theorem Sound.closeMeetingWindow_steady (hsound : w.Sound strict)
    (hending : w.widget.meeting.sessionEnding = true → w.media.rtc = false)
    (hbutton : w.Told → w.shareScreenBtn = true → w.canShareScreen = true) :
    w.closeMeetingWindow.Steady := by
  have hclosed : { w with widget := { w.widget with pendingConnect := none } }.Sound strict :=
    hsound.withWidget ⟨rfl, rfl, rfl, rfl, id⟩
  unfold MediaWidget.closeMeetingWindow
  split_ifs with hstill
  · rcases hsound.off (hending hstill) with ⟨hswitches, hshown⟩
    exact .of_off hending hshown hswitches hbutton
  · refine hclosed.exec_ends ?_ rfl hending hbutton
    simp [MediaTask.Safe, MediaTask.relies, MediaTask.stops]

theorem Steady.closeMeetingWindow (h : w.Steady) (hsound : w.Sound strict) :
    w.closeMeetingWindow.Steady :=
  hsound.closeMeetingWindow_steady h.ending h.button

/-- The slot has yet to tell of the new permissions. -/
theorem Steady.applyFlags (h : w.Steady) (hsound : w.Sound strict) (flags : UInt32) :
    (w.applyFlags flags).Steady := by
  rcases applyFlags_cases hsound flags with ⟨recording, rest, heq, hset, hsafe, hmem⟩
  rw [heq]
  refine Steady.exec_waiting (hset.waiting (hsafe _ _)) ?_
  have huntold : ¬ MediaWidget.Told
      (MediaWidget.waiting { w.setFlags flags with recording } rest) := by
    intro htold
    have htop : (MediaBox.slot rest).applies = false := htold _ List.mem_cons_self
    simp [MediaBox.applies, hmem] at htop
  have hlasting (hnew : MediaWidget.Lasting
      (MediaWidget.waiting { w.setFlags flags with recording } rest)) : w.Lasting :=
    (List.forall_mem_cons.mp hnew).2
  exact ⟨h.ending, fun hnew => h.shown (hlasting hnew), fun hnew => h.joined (hlasting hnew),
    fun htold => absurd htold huntold, fun _ htold => absurd htold huntold⟩

/-! ## A meeting begins -/

theorem start_off (c : MeetingMediaController)
    {options : MeetingMediaController.StartOptions} (hroom : 0 < options.roomNo)
    (fault : Option StartFault) (devices : Devices) :
    (c.start options fault devices).1.switches = allOff := by
  unfold MeetingMediaController.start
  rw [if_neg (Int32.not_le.mpr hroom)]
  dsimp only
  split_ifs
  · rfl
  split <;> rfl

/-- A meeting begins with everything off. -/
theorem Steady.begin {widget : MeetingWidget} {roomNo : Int32} (hroom : 0 < roomNo)
    (hending : widget.meeting.sessionEnding = false) (answer : StartAnswer) :
    { MediaWidget.startMeetingMedia { w with widget, roomNo } answer with
      roomSessionActive := true }.Steady := by
  let options : MeetingMediaController.StartOptions :=
    ⟨roomNo, widget.meeting.createmeet, widget.createMaxParticipants⟩
  let before := (MediaWidget.clearLocal { w with widget, roomNo }).syncAvButtonUi
  let started := w.media.start options answer.fault answer.devices
  have hstart : MediaWidget.startMeetingMedia { w with widget, roomNo } answer =
      before.run started := if_neg (Int32.not_le.mpr hroom)
  have hoff := start_off w.media (show 0 < options.roomNo from hroom) answer.fault
    answer.devices
  have hframe : MediaWidget.Framed { before with media := started.1 } (before.run started) :=
    run_framed
  rw [hstart]
  refine .of_off ?_ ?_ ?_ ?_
  · intro hstill
    rw [hframe.widget] at hstill
    rw [show widget.meeting.sessionEnding = true from hstill] at hending
    cases hending
  · show (before.run started).shown = allOff
    have hleads := MeetingMediaController.start_leads (c := w.media) options answer.fault
      answer.devices
    rcases run_shown (w := before) hleads with hnow | ⟨hsame, _⟩
    · exact hnow.trans hoff
    · exact hsame
  · rw [hframe.media]
    exact hoff
  · show _ → (before.run started).shareScreenBtn = true → (before.run started).canShareScreen = true
    rw [canShareScreen_congr hframe.widget]
    exact fun _ => foldl_react_button (w := { before with media := started.1 }) started.2
      syncAvButtonUi_button

/-! ## Every event -/

theorem Steady.onCreateMeetingResult (h : w.Steady) (hsound : w.Sound strict)
    {localUserId : Int64} {roomNo : UInt32} {answer : StartAnswer}
    (horderly : w.Orderly (.message (.createMeetingResponse roomNo) answer)) :
    (w.onCreateMeetingResult localUserId roomNo.toInt32 answer).Steady := by
  unfold MediaWidget.onCreateMeetingResult
  split_ifs with hroom
  · rcases horderly.begun (if_pos hroom) with ⟨hending, hpos⟩
    refine Steady.begin hpos ?_ answer
    rw [Client.onCreateMeetingResult, if_pos hroom]
    exact hending
  · exact h.closeMeetingWindow hsound

theorem Steady.onJoinMeetingResult (h : w.Steady) (hsound : w.Sound strict)
    {localUserId : Int64} {code : Int32} {answer : StartAnswer}
    (horderly : w.Orderly (.message (.joinMeetingResponse code) answer)) :
    (w.onJoinMeetingResult localUserId code answer).Steady := by
  unfold MediaWidget.onJoinMeetingResult
  split_ifs with hzero hfull hjoined
  · exact h.closeMeetingWindow hsound
  · exact h.closeMeetingWindow hsound
  · rcases horderly.begun (if_pos hjoined) with ⟨hending, hpos⟩
    refine Steady.begin hpos ?_ answer
    rw [Client.onJoinMeetingResult, if_neg hzero, if_neg hfull, if_pos hjoined]
    exact hending
  · exact h

theorem Steady.dispatch (h : w.Steady) (hsound : w.Sound strict) {localUserId : Int64}
    {msg : Message} {answer : StartAnswer} (horderly : w.Orderly (.message msg answer)) :
    (w.dispatch localUserId msg answer).Steady := by
  have hclosed : (if w.widget.meeting.sessionEnding then w else w.closeMeetingWindow).Steady := by
    split_ifs
    · exact h
    · exact h.closeMeetingWindow hsound
  cases msg with
  | createMeetingResponse roomNo => exact h.onCreateMeetingResult hsound horderly
  | joinMeetingResponse code => exact h.onJoinMeetingResult hsound horderly
  | remoteHostClosedError => exact hclosed
  | otherNetError => exact hclosed
  | roomSettingsNotify flags => exact h.applyFlags hsound _
  | partnerJoin2 userIds => exact h.withWidget (onPartnersSnapshot_sameMeeting _ _)
  | _ => exact h.withWidget ⟨rfl, rfl, rfl, rfl, id⟩

/-- The session is lost: nothing is shown as on, and the slot ends the session once its
box is dismissed. -/
theorem Steady.handleRtcSessionLost (h : w.Steady) : w.handleRtcSessionLost.Steady := by
  unfold MediaWidget.handleRtcSessionLost
  split_ifs
  · refine .of_ends h.ending (fun hlasting => ?_) fun _ => syncAvButtonUi_button
    cases hlasting .sessionLost List.mem_cons_self
  · exact h

/-- After a notice the switches are shown once more; a lost session ends; any other slot
goes on. -/
theorem Steady.dismiss (h : w.Steady) (hsound : w.Sound strict) : w.dismiss.Steady := by
  unfold MediaWidget.dismiss
  split
  · next boxes hboxes =>
    have hlasting (hnew : ∀ box ∈ boxes, box.ends = false) : w.Lasting := by
      rw [Lasting, hboxes]
      exact List.forall_mem_cons.mpr ⟨rfl, hnew⟩
    have htold (hnew : ∀ box ∈ boxes, box.applies = false) : w.Told := by
      rw [Told, hboxes]
      exact List.forall_mem_cons.mpr ⟨rfl, hnew⟩
    exact ⟨h.ending, fun _ => rfl, fun hnew => h.joined (hlasting hnew),
      fun _ => syncAvButtonUi_button,
      fun hnew hnew' => h.screen (hlasting hnew) (htold hnew')⟩
  · next boxes hboxes =>
    refine (hsound.popped hboxes).closeMeetingWindow_steady h.ending fun htold => h.button ?_
    rw [Told, hboxes]
    exact List.forall_mem_cons.mpr ⟨rfl, htold⟩
  · next rest boxes hboxes =>
    have hsame : MediaWidget.waiting { w with boxes } rest = w := by
      show { w with boxes := .slot rest :: boxes } = w
      rw [← hboxes]
    have hwaits : (MediaWidget.waiting { w with boxes } rest).Sound strict := by
      rw [hsame]
      exact hsound
    refine Steady.exec_waiting hwaits ?_
    rw [hsame]
    exact h
  · exact h

theorem Steady.selectDevice (h : w.Steady) {set : ByteString → MeetingMediaController}
    {call : ByteString → MediaCall}
    {deviceId videoDeviceId audioDeviceId playoutDeviceId : ByteString}
    (hset : set deviceId = { w.media with videoDeviceId, audioDeviceId, playoutDeviceId }) :
    (w.run (MeetingMediaController.selectDevice set call w.media deviceId)).Steady := by
  unfold MeetingMediaController.selectDevice
  split_ifs
  · exact h
  · rw [hset]
    exact ⟨h.ending, h.shown, h.joined, h.button, h.screen⟩
  · rw [hset]
    exact ⟨h.ending, h.shown, h.joined, h.button, h.screen⟩

theorem setVideoOn_screen {c : MeetingMediaController} {on ok : Bool}
    (hon : (c.setVideoOn on ok).1.screenOn = true) : c.screenOn = true := by
  unfold MeetingMediaController.setVideoOn at hon
  split_ifs at hon <;> exact hon

theorem setAudioOn_screen {c : MeetingMediaController} {on ok : Bool}
    (hon : (c.setAudioOn on ok).1.screenOn = true) : c.screenOn = true := by
  unfold MeetingMediaController.setAudioOn at hon
  split_ifs at hon <;> exact hon

theorem Steady.handle (h : w.Steady) (hsound : w.Sound strict) {localUserId : Int64} {e : Event}
    (henabled : w.enabled e = true) (horderly : w.Orderly e) :
    (w.handle localUserId e).Steady := by
  -- while no box is open, the permission is what it seems
  have hscreen (hnone : w.boxes = []) (hon : w.media.screenOn = true) :
      w.canShareScreen = true := by
    refine h.screen ?_ ?_ hon
    · rw [Lasting, hnone]
      exact List.forall_mem_nil _
    · rw [Told, hnone]
      exact List.forall_mem_nil _
  cases e with
  | request r => exact h.withWidget (requestConnectToServer_sameMeeting _ _)
  | connectFinished ok r =>
    have hsame := h.withWidget (onConnectFinished_sameMeeting w.widget ok r)
    exact ⟨hsame.ending, hsame.shown, hsame.joined, hsame.button, hsame.screen⟩
  | networkDisconnected => exact h.withWidget (flushPendingConnect_sameMeeting w.widget)
  | timeout => exact h.withWidget (onTimeout_sameMeeting w.widget)
  | dismissWarning =>
    have hseen : MediaWidget.Steady { w with
        widget := { w.widget with warnings := w.widget.warnings - 1 } } :=
      h.withWidget ⟨rfl, rfl, rfl, rfl, id⟩
    exact hseen.closeMeetingWindow (hsound.withWidget ⟨rfl, rfl, rfl, rfl, id⟩)
  | message msg answer => exact h.dispatch hsound horderly
  | closeWindow => exact h.closeMeetingWindow hsound
  | editSettings allowRecord allowShare =>
    unfold MediaWidget.handle
    dsimp only
    split
    · next flags _ =>
      have hedited : MediaWidget.Steady { w with
          widget := { w.widget with meeting := { w.widget.meeting with edited := true } } } :=
        h.withWidget ⟨rfl, rfl, rfl, rfl, id⟩
      exact hedited.applyFlags (hsound.withWidget ⟨rfl, rfl, rfl, rfl, id⟩) flags
    · exact h
  | recordToggled start report =>
    show (w.recordToggled start report).Steady
    rcases recordToggled_cases hsound (List.isEmpty_iff.mp henabled) start report with
      ⟨recording, recorder, finalized, rest, heq, hready, hsafe⟩
    rw [heq]
    exact (h.withRecorder recording recorder finalized).exec hready hsafe
  | recorderReports report =>
    unfold MediaWidget.handle
    dsimp only
    split_ifs
    · exact h.exec hsound ⟨rfl, trivial⟩
    · exact h
  | stopWillReport report => exact ⟨h.ending, h.shown, h.joined, h.button, h.screen⟩
  | openVedio ok =>
    have hnone := List.isEmpty_iff.mp henabled
    exact h.press hnone (MeetingMediaController.setVideoOn_toggles _ _) fun hon =>
      hscreen hnone (setVideoOn_screen hon)
  | openAudio ok =>
    have hnone := List.isEmpty_iff.mp henabled
    exact h.press hnone (MeetingMediaController.setAudioOn_toggles _ _) fun hon =>
      hscreen hnone (setAudioOn_screen hon)
  | shareScreen screens ok =>
    rcases Bool.and_eq_true_iff.mp henabled with ⟨hempty, hbutton⟩
    have hnone := List.isEmpty_iff.mp hempty
    refine h.press hnone (MeetingMediaController.setScreenOn_toggles _ _ _) fun _ =>
      h.button ?_ hbutton
    rw [Told, hnone]
    exact List.forall_mem_nil _
  | selectVideoDevice deviceId | selectAudioDevice deviceId | selectPlayoutDevice deviceId =>
    exact h.selectDevice rfl
  | rtcJoined =>
    exact ⟨h.ending, h.shown, fun _ _ => rfl, fun _ => syncAvButtonUi_button, h.screen⟩
  | rtcJoinFailed =>
    have hleft : MediaWidget.Sound { w with media := { w.media with joined := false } } strict :=
      ⟨⟨hsound.controller.exclusive, hsound.controller.engine⟩, hsound.engine, hsound.used,
        hsound.shown, hsound.meeting, hsound.active, hsound.taping, hsound.slots⟩
    exact hleft.clearLocal.closeMeetingWindow_steady h.ending h.button
  | rtcSessionLost => exact h.handleRtcSessionLost
  | dismiss => exact h.dismiss hsound
  | destroy =>
    refine hsound.exec_ends ?_ rfl h.ending h.button
    simp [MediaTask.Safe, MediaTask.relies, MediaTask.stops]

theorem reachable_steady {localUserId : Int64}
    (h : Reachable ((system localUserId).restrict Orderly) w) : w.Steady := by
  have hboth : w.Sound False ∧ w.Steady := by
    refine Reachable.invariant (I := fun w => w.Sound False ∧ w.Steady) ?_ ?_ h
    · intro w hinit
      rw [show w = fresh from hinit]
      exact ⟨.init False, .of_off (fun _ => rfl) rfl rfl fun _ hon => nomatch hon⟩
    · intro w e w' _ hw hstep
      rcases handle_of_step hstep.2 with ⟨halive, henabled, rfl⟩
      refine ⟨hw.1.handle localUserId halive henabled fun hstrict => hstrict.elim, ?_⟩
      exact hw.2.handle hw.1 henabled hstep.1
  exact hboth.2

/-! ## Main result -/

/-- While the meetings are in order and no slot waits that ends the session or has to
tell of new permissions, the buttons show what is on, what is on belongs to a joined
room, and a screen is shared only by a host or where members may share. -/
theorem shared_only_if_permitted {localUserId : Int64}
    (h : Reachable ((system localUserId).restrict Orderly) w)
    (hsettled : ∀ box ∈ w.boxes, box.settled = true) :
    w.localVideoOn = w.media.videoOn ∧ w.localAudioOn = w.media.audioOn ∧
      w.localScreenOn = w.media.screenOn ∧
      (w.media.videoOn = true ∨ w.media.audioOn = true ∨ w.media.screenOn = true →
        w.media.joined = true) ∧
      (w.media.screenOn = true →
        w.widget.meeting.isHost = true ∨
          w.widget.meeting.flags &&& kRoomSettingsAllowMemberShare ≠ 0) := by
  have hw := reachable_steady h
  have hboth : ∀ box ∈ w.boxes, box.ends = false ∧ box.applies = false := by
    intro box hbox
    simpa [MediaBox.settled] using hsettled box hbox
  have hlasting : w.Lasting := fun box hbox => (hboth box hbox).1
  have htold : w.Told := fun box hbox => (hboth box hbox).2
  have hshown := hw.shown hlasting
  refine ⟨congrArg Switches.video hshown, congrArg Switches.audio hshown,
    congrArg Switches.screen hshown, fun hon => hw.joined hlasting fun hoff => ?_, fun hon => ?_⟩
  · have hvideo : w.media.videoOn = false := congrArg Switches.video hoff
    have haudio : w.media.audioOn = false := congrArg Switches.audio hoff
    have hscreen : w.media.screenOn = false := congrArg Switches.screen hoff
    simp [hvideo, haudio, hscreen] at hon
  · have hcan := hw.screen hlasting htold hon
    simpa [canShareScreen] using hcan

/-- A member of room 7, where members may share and record, records and shares the
screen. -/
def sharing : List Event :=
  [.connectFinished true
      { number := 0, ip := [], port := [], action := .joinMeeting, roomNo := ascii "7"
        maxParticipants := 8, durationMinutes := 60 },
    .message (.joinMeetingResponse 1) oneCamera, .rtcJoined,
    .message (.roomSettingsNotify 3) oneCamera, .recordToggled true .silent,
    .shareScreen [⟨ascii "0", true⟩] true]

theorem shared_only_if_permitted_member :
    (after 5 sharing).widget.meeting.isHost = true ∨
      (after 5 sharing).widget.meeting.flags &&& kRoomSettingsAllowMemberShare ≠ 0 :=
  (shared_only_if_permitted (w := after 5 sharing)
    (reachable_of_guarded 5 sharing (by decide)) (by decide)).2.2.2.2 (by decide)

/-- Both are forbidden: the screen is shared until the box about the recording is
dismissed. -/
example :
    let forbidden := sharing ++
      [.stopWillReport (.stopped false), .message (.roomSettingsNotify 0) oneCamera]
    (after 5 forbidden).boxes = [.slot [.releasePipeline, .emitFlagsApplied]] ∧
      (after 5 forbidden).media.screenOn = true ∧
      (after 5 (forbidden ++ [.dismiss])).media.screenOn = false := by
  decide

end MediaWidget

end CCMeeting
