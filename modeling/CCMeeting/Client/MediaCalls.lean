import CCMeeting.Client.MeetingMedia

/-! # The calls of the media controller

What a method of `MeetingMediaController` does to the switches and to the engine, and
what the slots of its signals make of it in the widget.
-/

namespace CCMeeting

open ByteString Transition

/-! ## One call of the controller -/

/-- The call or message an effect comes to. -/
@[simp]
def MediaEffect.calls : MediaEffect → List MediaCall
  | .call c => [c]
  | .localCameraStopped => [.sendCloseCamera]
  | .stateChanged => []
  | .notice => []

/-- The three switches, in the controller or as the widget shows them. -/
structure Switches where
  video : Bool
  audio : Bool
  screen : Bool

/-- What is on here is on there. -/
structure Switches.Below (s t : Switches) : Prop where
  video : s.video = true → t.video = true
  audio : s.audio = true → t.audio = true
  screen : s.screen = true → t.screen = true

theorem Switches.Below.refl (s : Switches) : s.Below s := ⟨id, id, id⟩

theorem Switches.Below.off (s : Switches) : Switches.Below ⟨false, false, false⟩ s where
  video h := nomatch h
  audio h := nomatch h
  screen h := nomatch h

theorem Switches.Below.eq_off {s : Switches} (h : s.Below ⟨false, false, false⟩) :
    s = ⟨false, false, false⟩ := by
  rcases s with ⟨video, audio, screen⟩
  have hvideo : video = false := Bool.eq_false_iff.mpr fun hon => nomatch h.video hon
  have haudio : audio = false := Bool.eq_false_iff.mpr fun hon => nomatch h.audio hon
  have hscreen : screen = false := Bool.eq_false_iff.mpr fun hon => nomatch h.screen hon
  rw [hvideo, haudio, hscreen]

namespace MeetingMediaController

/-- The switches themselves. -/
def switches (c : MeetingMediaController) : Switches := ⟨c.videoOn, c.audioOn, c.screenOn⟩

/-- Camera and screen are not both on, and without an engine nothing is. -/
structure Sound (c : MeetingMediaController) : Prop where
  exclusive : c.videoOn = true → c.screenOn = false
  engine : c.videoOn = true ∨ c.audioOn = true ∨ c.screenOn = true → c.rtc = true

/-- What a call of a method leads to. -/
structure Leads (c : MeetingMediaController) (r : MeetingMediaController × List MediaEffect) :
    Prop where
  sound : c.Sound → r.1.Sound
  engine : replay engineNext c.rtc (r.2.flatMap MediaEffect.calls) = some r.1.rtc
  told : .stateChanged ∈ r.2 ∨ r.1.switches = c.switches

/-- The method uses the engine as it may be used. -/
def Uses (c : MeetingMediaController) (r : MeetingMediaController × List MediaEffect) : Prop :=
  replay EngineUse.next c.use (r.2.flatMap MediaEffect.calls) = some r.1.use

variable {c : MeetingMediaController}

theorem Leads.refl : c.Leads (c, []) := ⟨id, rfl, Or.inr rfl⟩

theorem Uses.refl : c.Uses (c, []) := rfl

theorem stop_leads : c.Leads c.stop := by
  refine ⟨fun _ => ⟨fun h => ?_, fun hon => ?_⟩, ?_, Or.inl ?_⟩
  · cases h
  · simp [stop, shutdown, off] at hon
  · cases hrtc : c.rtc <;> simp [stop, shutdown, hrtc, replay, engineNext]
  · exact List.mem_append_right _ (List.mem_singleton_self _)

theorem stop_uses : c.Uses c.stop := by
  cases hrtc : c.rtc <;>
    simp [Uses, stop, shutdown, use, hrtc, replay, EngineUse.next, EngineUse.call]

/-- A button is pressed, or sharing is stopped: the engine stays. -/
structure Toggles (c : MeetingMediaController) (r : MeetingMediaController × List MediaEffect) :
    Prop where
  leads : c.Leads r
  uses : c.Uses r
  rtc : r.1.rtc = c.rtc
  joined : r.1.joined = c.joined
  switched : r.1.switches = c.switches ∨ c.joined = true

theorem Toggles.refl : c.Toggles (c, []) := ⟨.refl, .refl, rfl, rfl, Or.inl rfl⟩

theorem setVideoOn_toggles (on ok : Bool) : c.Toggles (c.setVideoOn on ok) := by
  unfold setVideoOn
  split_ifs with hoff hon hok
  · exact .refl
  · refine ⟨⟨fun h => ⟨fun _ => rfl, fun _ => ?_⟩, ?_, Or.inl ?_⟩, ?_, rfl, rfl, Or.inr ?_⟩
    · show c.rtc = true
      simp_all
    · simp_all [replay, engineNext]
    · simp
    · simp_all [Uses, use, replay, EngineUse.next, EngineUse.call]
    · simp_all
  · refine ⟨⟨id, ?_, Or.inr rfl⟩, ?_, rfl, rfl, Or.inl rfl⟩
    · simp_all [replay, engineNext]
    · simp_all [Uses, use, replay, EngineUse.next, EngineUse.call]
  · refine ⟨⟨fun h => ⟨fun hvideo => ?_, fun hon => ?_⟩, ?_, Or.inl ?_⟩, ?_, rfl, rfl, Or.inr ?_⟩
    · cases hvideo
    · exact h.engine (hon.imp (fun hvideo => nomatch hvideo) id)
    · simp_all [replay, engineNext]
    · simp
    · simp_all [Uses, use, replay, EngineUse.next, EngineUse.call]
    · simp_all

theorem setAudioOn_toggles (on ok : Bool) : c.Toggles (c.setAudioOn on ok) := by
  unfold setAudioOn
  split_ifs with hoff hon hon'
  · exact .refl
  · refine ⟨⟨id, ?_, Or.inr rfl⟩, ?_, rfl, rfl, Or.inl rfl⟩
    · simp_all [replay, engineNext]
    · simp_all [Uses, use, replay, EngineUse.next, EngineUse.call]
  · refine ⟨⟨fun h => ⟨h.exclusive, fun _ => ?_⟩, ?_, Or.inl ?_⟩, ?_, rfl, rfl, Or.inr ?_⟩
    · show c.rtc = true
      simp_all
    · simp_all [replay, engineNext]
    · simp
    · simp_all [Uses, use, replay, EngineUse.next, EngineUse.call]
    · simp_all
  · refine ⟨⟨fun h => ⟨h.exclusive, fun hother => ?_⟩, ?_, Or.inl ?_⟩, ?_, rfl, rfl, Or.inr ?_⟩
    · show c.rtc = true
      simp_all
    · simp_all [replay, engineNext]
    · simp
    · simp_all [Uses, use, replay, EngineUse.next, EngineUse.call]
    · simp_all

theorem setScreenOn_toggles (on : Bool) (screens : List ScreenInfo) (ok : Bool) :
    c.Toggles (c.setScreenOn on screens ok) := by
  unfold setScreenOn
  dsimp only
  split_ifs with hoff hon hnone hok
  · exact .refl
  · exact ⟨⟨id, rfl, Or.inr rfl⟩, rfl, rfl, rfl, Or.inl rfl⟩
  · refine ⟨⟨fun h => ⟨fun hvideo => ?_, fun _ => ?_⟩, ?_, Or.inl ?_⟩, ?_, rfl, rfl, Or.inr ?_⟩
    · cases hvideo
    · show c.rtc = true
      simp_all
    · simp_all [replay, engineNext]
    · simp
    · simp_all [Uses, use, replay, EngineUse.next, EngineUse.call]
    · simp_all
  · refine ⟨⟨id, ?_, Or.inr rfl⟩, ?_, rfl, rfl, Or.inl rfl⟩
    · simp_all [replay, engineNext]
    · simp_all [Uses, use, replay, EngineUse.next, EngineUse.call]
  · refine ⟨⟨fun h => ⟨fun _ => rfl, fun hother => ?_⟩, ?_, Or.inl ?_⟩, ?_, rfl, rfl, Or.inr ?_⟩
    · show c.rtc = true
      simp_all
    · simp_all [replay, engineNext]
    · simp
    · simp_all [Uses, use, replay, EngineUse.next, EngineUse.call]
    · simp_all

theorem startEffects_engine (options : StartOptions) (fault : Option StartFault)
    (devices : Devices) :
    replay engineNext c.rtc ((c.startEffects options fault devices).flatMap MediaEffect.calls) =
      some true := by
  unfold startEffects
  cases hrtc : c.rtc <;> rcases fault with _ | _ | _ | _ | _ <;> simp [replay, engineNext]

/-- An engine just made joins. One that captures would not be asked to stop before. -/
theorem startEffects_uses (hnone : c.rtc = false) (options : StartOptions)
    (fault : Option StartFault) (devices : Devices) :
    replay EngineUse.next c.use
        ((c.startEffects options fault devices).flatMap MediaEffect.calls) =
      some { c.off with rtc := true }.use := by
  unfold startEffects
  rcases fault with _ | _ | _ | _ | _ <;>
    simp [use, off, hnone, replay, EngineUse.next, EngineUse.call, EngineUse.idle]

theorem Sound.joining : { c.off with rtc := true }.Sound where
  exclusive h := nomatch h
  engine _ := rfl

theorem start_leads (options : StartOptions) (fault : Option StartFault) (devices : Devices) :
    c.Leads (c.start options fault devices) := by
  have hengine := startEffects_engine (c := c) options fault devices
  have hstop := stop_leads (c := { c.off with rtc := true })
  have hshown : MediaEffect.stateChanged ∈ c.startEffects options fault devices := by
    simp [startEffects]
  unfold start
  dsimp only
  split_ifs with hroom hcreate
  · exact .refl
  · exact stop_leads
  split
  · exact ⟨fun _ => .joining, hengine, Or.inl hshown⟩
  · exact ⟨fun _ => .joining, hengine, Or.inl hshown⟩
  · refine ⟨fun _ => hstop.sound .joining, ?_, Or.inl (List.mem_append_left _ hshown)⟩
    rw [List.flatMap_append, replay_append, hengine]
    exact hstop.engine

theorem start_uses (hnone : c.rtc = false) (options : StartOptions) (fault : Option StartFault)
    (devices : Devices) : c.Uses (c.start options fault devices) := by
  have huses := startEffects_uses hnone options fault devices
  unfold start
  dsimp only
  split_ifs with hroom hcreate
  · exact .refl
  · exact stop_uses
  split
  · exact huses
  · exact huses
  · rw [Uses, List.flatMap_append, replay_append, huses]
    exact stop_uses (c := { c.off with rtc := true })

/-- Only an identifier is set, and the engine told it. -/
theorem selectDevice_toggles {set : ByteString → MeetingMediaController}
    {call : ByteString → MediaCall}
    {deviceId videoDeviceId audioDeviceId playoutDeviceId : ByteString}
    (hset : set deviceId = { c with videoDeviceId, audioDeviceId, playoutDeviceId })
    (hengine : engineNext true (call deviceId) = some true)
    (hcall : ∀ u : EngineUse, u.call (call deviceId) =
      if deviceId.isEmpty then none else some (some u)) :
    c.Toggles (selectDevice set call c deviceId) := by
  unfold selectDevice
  split_ifs with hnone hrtc
  · exact .refl
  · rw [hset]
    refine ⟨⟨fun h => ⟨h.exclusive, h.engine⟩, ?_, Or.inr rfl⟩, ?_, rfl, rfl, Or.inl rfl⟩
    · simp [hrtc, replay, hengine]
    · simp [Uses, use, hrtc, replay, EngineUse.next, hcall, hnone]
  · rw [hset]
    exact ⟨⟨fun h => ⟨h.exclusive, h.engine⟩, rfl, Or.inr rfl⟩, rfl, rfl, rfl, Or.inl rfl⟩

theorem selectVideoDevice_toggles (deviceId : ByteString) :
    c.Toggles (c.selectVideoDevice deviceId) :=
  selectDevice_toggles rfl rfl fun _ => rfl

theorem selectAudioDevice_toggles (deviceId : ByteString) :
    c.Toggles (c.selectAudioDevice deviceId) :=
  selectDevice_toggles rfl rfl fun _ => rfl

theorem selectPlayoutDevice_toggles (deviceId : ByteString) :
    c.Toggles (c.selectPlayoutDevice deviceId) :=
  selectDevice_toggles rfl rfl fun _ => rfl

end MeetingMediaController

/-! ## The slots of the controller's signals -/

namespace MediaWidget

variable {w : MediaWidget} {r : MeetingMediaController × List MediaEffect}

theorem foldl_react_calls (effects : List MediaEffect) :
    (effects.foldl react w).calls = w.calls ++ effects.flatMap MediaEffect.calls := by
  induction effects generalizing w with
  | nil => exact (List.append_nil _).symm
  | cons effect effects ih =>
    rw [List.foldl_cons, ih, List.flatMap_cons, ← List.append_assoc]
    cases effect <;> simp [react, onStateChanged, syncAvButtonUi]

/-- What the slots of the signals leave alone. -/
structure Framed (w w' : MediaWidget) : Prop where
  media : w'.media = w.media
  widget : w'.widget = w.widget
  rtcJoined : w'.rtcJoined = w.rtcJoined
  roomSessionActive : w'.roomSessionActive = w.roomSessionActive
  recording : w'.recording = w.recording
  recorder : w'.recorder = w.recorder
  alive : w'.alive = w.alive

theorem Framed.trans {w' w'' : MediaWidget} (h : w.Framed w') (h' : w'.Framed w'') :
    w.Framed w'' where
  media := h'.media.trans h.media
  widget := h'.widget.trans h.widget
  rtcJoined := h'.rtcJoined.trans h.rtcJoined
  roomSessionActive := h'.roomSessionActive.trans h.roomSessionActive
  recording := h'.recording.trans h.recording
  recorder := h'.recorder.trans h.recorder
  alive := h'.alive.trans h.alive

theorem react_framed (effect : MediaEffect) : w.Framed (w.react effect) := by
  cases effect <;> exact ⟨rfl, rfl, rfl, rfl, rfl, rfl, rfl⟩

theorem foldl_react_framed (effects : List MediaEffect) : w.Framed (effects.foldl react w) := by
  induction effects generalizing w with
  | nil => exact ⟨rfl, rfl, rfl, rfl, rfl, rfl, rfl⟩
  | cons effect effects ih => exact (react_framed effect).trans ih

/-- The boxes of the controller are notices, and come on top. -/
theorem foldl_react_boxes (effects : List MediaEffect) : (effects.foldl react w).boxes =
    List.replicate (effects.count .notice) .notice ++ w.boxes := by
  induction effects generalizing w with
  | nil => rfl
  | cons effect effects ih =>
    rw [List.foldl_cons, ih]
    cases effect with
    | notice =>
      rw [List.count_cons_self, List.replicate_succ', List.append_assoc]
      rfl
    | _ => rw [List.count_cons_of_ne (by simp)]; rfl

/-- The switches as the widget shows them. -/
def shown (w : MediaWidget) : Switches := ⟨w.localVideoOn, w.localAudioOn, w.localScreenOn⟩

/-- What is shown is what was shown before, or what the controller has. -/
theorem foldl_react_shown (effects : List MediaEffect) :
    (effects.foldl react w).shown = w.media.switches ∨
      .stateChanged ∉ effects ∧ (effects.foldl react w).shown = w.shown := by
  induction effects generalizing w with
  | nil => exact Or.inr ⟨List.not_mem_nil, rfl⟩
  | cons effect effects ih =>
    rw [List.foldl_cons]
    rcases ih (w := w.react effect) with hlast | ⟨hnot, hsame⟩
    · rw [(react_framed effect).media] at hlast
      exact Or.inl hlast
    · rw [hsame]
      cases effect with
      | stateChanged => exact Or.inl rfl
      | call c => exact Or.inr ⟨by simpa using hnot, rfl⟩
      | localCameraStopped => exact Or.inr ⟨by simpa using hnot, rfl⟩
      | notice => exact Or.inr ⟨by simpa using hnot, rfl⟩

theorem run_framed : MediaWidget.Framed { w with media := r.1 } (w.run r) := foldl_react_framed r.2

theorem run_calls : (w.run r).calls = w.calls ++ r.2.flatMap MediaEffect.calls :=
  foldl_react_calls r.2

theorem mem_boxes_of_run {box : MediaBox} (hbox : box ∈ (w.run r).boxes) :
    box = .notice ∨ box ∈ w.boxes := by
  rw [MediaWidget.run, foldl_react_boxes] at hbox
  exact (List.mem_append.mp hbox).imp_left List.eq_of_mem_replicate

/-- After a call that tells of what it changes, what is shown agrees with the
controller where it has before. -/
theorem run_shown (hr : w.media.Leads r) :
    (w.run r).shown = r.1.switches ∨
      (w.run r).shown = w.shown ∧ r.1.switches = w.media.switches := by
  rcases foldl_react_shown (w := { w with media := r.1 }) r.2 with hlast | ⟨hnot, hsame⟩
  · exact Or.inl hlast
  · exact Or.inr ⟨hsame, hr.told.resolve_left hnot⟩

end MediaWidget

end CCMeeting
