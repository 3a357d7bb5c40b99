import CCMeeting.Client.StackSetting

/-! # The life of the settings page

What the slots leave alone, and what becomes of the cameras: each one that is made is
stopped once, by the event loop where the page goes on and by the page where it is
destroyed. A slot that waits for a box, and a worker, go on after the page: they are
the only ones that do.
-/

namespace CCMeeting

open ByteString Transition

namespace StackSetting

variable {p p' : StackSetting}

/-- The camera of the page, where there is one. -/
def held (p : StackSetting) : List ℕ := (p.preview.map (·.camera)).toList

theorem releasePreviewHardware_true (p : StackSetting) : p.releasePreviewHardware true =
    { p with preview := none, cleanups := p.cleanups ++ p.held } := by
  unfold releasePreviewHardware held
  rcases p with ⟨_, _, _, _, _, _, _ | v⟩
  · simp
  · rfl

theorem releasePreviewHardware_false (p : StackSetting) : p.releasePreviewHardware false =
    { p with preview := none, released := p.released ++ p.held } := by
  unfold releasePreviewHardware held
  rcases p with ⟨_, _, _, _, _, _, _ | v⟩
  · simp
  · rfl

/-- What a slot of the page leaves alone, but where it lets the camera go or stops the
test of the microphone. -/
def fixed (p : StackSetting) :
    (Bool × Bool × ℕ × Bool × Bool) × Option Preview × List ℕ × List ℕ × ℕ :=
  ((p.alive, p.visible, p.row, p.dangling, p.micTesting), p.preview, p.cleanups, p.released,
    p.cameras)

/-- The page is as it was, but for a microphone test that may have been stopped, and a
camera that may have been let go. -/
structure Frame (p p' : StackSetting) : Prop where
  alive : p'.alive = p.alive
  visible : p'.visible = p.visible
  row : p'.row = p.row
  dangling : p'.dangling = p.dangling
  micTesting : p'.micTesting = true → p.micTesting = true
  cameras : p'.cameras = p.cameras
  kept : (p'.held ++ p'.cleanups ++ p'.released).Perm (p.held ++ p.cleanups ++ p.released)

theorem Frame.same (h : p'.fixed = p.fixed) : Frame p p' := by
  simp only [fixed, Prod.mk.injEq] at h
  rcases h with ⟨⟨halive, hvisible, hrow, hdangling, hmic⟩, hpreview, hcleanups, hreleased,
    hcameras⟩
  refine ⟨halive, hvisible, hrow, hdangling, fun hon => hmic ▸ hon, hcameras, ?_⟩
  rw [held, held, hpreview, hcleanups, hreleased]

theorem Frame.trans {p₁ : StackSetting} (h : Frame p p₁) (h' : Frame p₁ p') : Frame p p' :=
  ⟨h'.alive.trans h.alive, h'.visible.trans h.visible, h'.row.trans h.row,
    h'.dangling.trans h.dangling, fun hmic => h.micTesting (h'.micTesting hmic),
    h'.cameras.trans h.cameras, h'.kept.trans h.kept⟩

theorem frame_stopMicTest (p : StackSetting) : Frame p p.stopMicTest :=
  ⟨rfl, rfl, rfl, rfl, nofun, rfl, List.Perm.refl _⟩

theorem frame_releasePreviewHardware (p : StackSetting) (deferHardware : Bool) :
    Frame p (p.releasePreviewHardware deferHardware) := by
  cases deferHardware with
  | true =>
    rw [releasePreviewHardware_true]
    refine ⟨rfl, rfl, rfl, rfl, id, rfl, ?_⟩
    show (p.cleanups ++ p.held ++ p.released).Perm (p.held ++ p.cleanups ++ p.released)
    exact List.perm_append_comm.append_right p.released
  | false =>
    rw [releasePreviewHardware_false]
    refine ⟨rfl, rfl, rfl, rfl, id, rfl, ?_⟩
    show (p.cleanups ++ (p.released ++ p.held)).Perm (p.held ++ p.cleanups ++ p.released)
    rw [← List.append_assoc, List.append_assoc p.held]
    exact List.perm_append_comm

theorem frame_stopVideoPreview (p : StackSetting) (deferHardware : Bool) :
    Frame p (p.stopVideoPreview deferHardware) := by
  have hnext : Frame p { p with generation := p.generation + 1, startTimer := false } := .same rfl
  exact hnext.trans (frame_releasePreviewHardware _ deferHardware)

theorem frame_scheduleVideoPreview (p : StackSetting) : Frame p p.scheduleVideoPreview := by
  unfold scheduleVideoPreview
  split_ifs
  · have hnext : Frame p { p with generation := p.generation + 1, startTimer := false } := .same rfl
    have hreleased := hnext.trans (frame_releasePreviewHardware _ true)
    exact hreleased.trans (.same rfl)
  · exact .same rfl

theorem frame_syncPreviewForCategory (p : StackSetting) (row : ℕ) :
    Frame p (p.syncPreviewForCategory row) := by
  have hstop : Frame p (p.stopMicTest.stopVideoPreview true) :=
    (frame_stopMicTest p).trans (frame_stopVideoPreview _ true)
  unfold syncPreviewForCategory
  split_ifs
  · exact (frame_stopMicTest p).trans (frame_scheduleVideoPreview _)
  · exact hstop
  · exact frame_stopVideoPreview p true
  · exact hstop

theorem frame_listsChanged (p : StackSetting) (lists : VideoLists) :
    Frame p (p.listsChanged lists) := by
  have hlists : Frame p { p with lists } := .same rfl
  unfold listsChanged
  dsimp only
  split_ifs
  · exact hlists.trans (frame_scheduleVideoPreview _)
  · exact hlists

theorem frame_showEvent (p : StackSetting) (cameras : List CameraDevice) :
    Frame p (p.showEvent cameras) := by
  unfold showEvent
  dsimp only
  split_ifs
  · have h := frame_listsChanged p (VideoLists.rebuildResolutionList
      { p.lists with devices := [[]], device := 0 } p.prefs cameras)
    exact h.trans (.same rfl)
  · exact .same rfl

theorem frame_hideEvent (p : StackSetting) : Frame p p.hideEvent := by
  have hnext : Frame p { p with generation := p.generation + 1, startTimer := false } := .same rfl
  exact (hnext.trans (frame_stopMicTest _)).trans (frame_stopVideoPreview _ true)

theorem frame_refresh (p : StackSetting) (cameras : List CameraDevice) :
    Frame p (p.refresh cameras) := by
  unfold refresh
  split_ifs
  · have hlists : Frame p { p with lists := p.lists.refreshVideoDevices p.prefs cameras } :=
      .same rfl
    exact hlists.trans (frame_syncPreviewForCategory _ p.row)
  · exact .same rfl

theorem frame_toggle (p : StackSetting) : Frame p p.onVideoPreviewToggleClicked := by
  have htoggled : Frame p { p with previewEnabled := !p.previewEnabled } := .same rfl
  unfold onVideoPreviewToggleClicked
  dsimp only
  split_ifs
  · exact htoggled.trans (frame_scheduleVideoPreview _)
  · exact htoggled.trans (frame_stopVideoPreview _ true)

theorem frame_beginVideoPreviewAsync (p : StackSetting) : Frame p p.beginVideoPreviewAsync := by
  unfold beginVideoPreviewAsync
  dsimp only
  split_ifs
  · exact .same rfl
  · exact .same rfl
  · exact .same rfl

theorem frame_reset (p : StackSetting) (cameras : List CameraDevice) :
    Frame p (p.reset cameras) := by
  have hstopped := (frame_stopMicTest p).trans (frame_stopVideoPreview _ true)
  unfold reset
  generalize p.stopMicTest.stopVideoPreview true = p₁ at hstopped ⊢
  have hlists (lists : VideoLists) (prefs : VideoPrefs) : Frame p { p₁ with prefs, lists } :=
    hstopped.trans (.same rfl)
  dsimp only
  split_ifs
  · exact (hlists _ _).trans (frame_scheduleVideoPreview _)
  · exact hlists _ _

theorem frame_dismiss (p : StackSetting) (yes : Bool) (cameras : List CameraDevice) :
    Frame p (p.dismiss yes cameras) := by
  unfold dismiss
  rcases p.boxes with _ | ⟨box, boxes⟩
  · exact .same rfl
  have htaken : Frame p { p with boxes } := .same rfl
  cases box with
  | notice => exact htaken
  | cameraError => exact htaken.trans (frame_stopVideoPreview _ true)
  | reset =>
    dsimp only
    split_ifs
    · exact htaken.trans (frame_reset _ cameras)
    · exact htaken

theorem micTesting_syncPreviewForCategory (p : StackSetting) {row : ℕ} (hrow : row ≠ 1) :
    (p.syncPreviewForCategory row).micTesting = false := by
  have hstop : (p.stopMicTest.stopVideoPreview true).micTesting = false :=
    Bool.eq_false_iff.mpr fun hmic => nomatch (frame_stopVideoPreview _ true).micTesting hmic
  unfold syncPreviewForCategory
  split_ifs
  · exact Bool.eq_false_iff.mpr fun hmic => nomatch (frame_scheduleVideoPreview _).micTesting hmic
  · exact hstop
  · exact hstop

/-! ## The invariant -/

/-- What a page keeps. -/
structure PageInv (p : StackSetting) : Prop where
  /-- a page that is visible exists -/
  alive : p.visible = true → p.alive = true
  /-- the microphone is tested while the page is visible, on its own row -/
  micTesting : p.micTesting = true → p.visible = true ∧ p.row = 1
  /-- each camera that was made is the one of the page, to be stopped or stopped -/
  cameras : (p.held ++ p.cleanups ++ p.released).Perm (List.range p.cameras)
  /-- no code has run on a page that was destroyed while there is one -/
  dangling : p.alive = true → p.dangling = false
  gone : p.alive = false → p.preview = none ∧ p.functors = [] ∧
    (p.abandoned = true ∨ p.dangling = false ∧ p.jobs = [] ∧ p.boxes = [])

theorem PageInv.frame (h : p.PageInv) (halive : p.alive = true) (hframe : Frame p p') :
    p'.PageInv := by
  refine ⟨fun _ => hframe.alive.trans halive, fun hmic => ?_, ?_, fun _ => ?_, fun hgone => ?_⟩
  · rw [hframe.visible, hframe.row]
    exact h.micTesting (hframe.micTesting hmic)
  · rw [hframe.cameras]
    exact hframe.kept.trans h.cameras
  · exact hframe.dangling.trans (h.dangling halive)
  · rw [hframe.alive, halive] at hgone
    cases hgone

theorem PageInv.runFunctor (h : p.PageInv) (halive : p.alive = true) (f : PreviewFunctor) :
    (p.runFunctor f).PageInv := by
  unfold StackSetting.runFunctor applyVideoPreview
  split_ifs
  · exact h
  have hreleased := h.frame halive (frame_releasePreviewHardware p true)
  cases f.device with
  | none => exact hreleased
  | some device =>
    rw [releasePreviewHardware_true] at hreleased ⊢
    refine ⟨hreleased.alive, hreleased.micTesting, ?_, hreleased.dangling, fun hgone => ?_⟩
    · -- the new camera has the next number
      show (p.cameras :: (p.cleanups ++ p.held ++ p.released)).Perm (List.range (p.cameras + 1))
      rw [List.range_succ]
      exact (hreleased.cameras.cons p.cameras).trans (List.perm_append_singleton _ _).symm
    · exact absurd halive (Bool.eq_false_iff.mp hgone)

theorem preview_stopVideoPreview (p : StackSetting) (deferHardware : Bool) :
    (p.stopVideoPreview deferHardware).preview = none := by
  unfold stopVideoPreview
  cases deferHardware with
  | true => rw [releasePreviewHardware_true]
  | false => rw [releasePreviewHardware_false]

theorem PageInv.destroy (h : p.PageInv) (halive : p.alive = true) : p.destroy.PageInv := by
  unfold StackSetting.destroy
  have hnext : Frame p { p with generation := p.generation + 1, micTesting := false } :=
    ⟨rfl, rfl, rfl, rfl, nofun, rfl, List.Perm.refl _⟩
  have hframe := hnext.trans (frame_stopVideoPreview _ false)
  have hpreview := preview_stopVideoPreview
    { p with generation := p.generation + 1, micTesting := false } false
  have hoff := (frame_stopVideoPreview
    { p with generation := p.generation + 1, micTesting := false } false).micTesting
  unfold StackSetting.stopMicTest
  dsimp only
  generalize stopVideoPreview { p with generation := p.generation + 1, micTesting := false } false =
    p₁ at hframe hpreview hoff ⊢
  have hinv := h.frame halive hframe
  refine ⟨nofun, fun hmic => absurd (hoff hmic) nofun, hinv.cameras, nofun, fun _ =>
    ⟨hpreview, rfl, ?_⟩⟩
  cases hjobs : p₁.jobs with
  | cons job jobs => exact Or.inl (by simp)
  | nil =>
    cases hboxes : p₁.boxes with
    | cons box boxes => exact Or.inl (by simp)
    | nil => exact Or.inr ⟨hframe.dangling.trans (h.dangling halive), rfl, rfl⟩

/-- The event loop stops a camera. -/
theorem PageInv.cleanedUp (h : p.PageInv) : (p.handle .cleanedUp).PageInv := by
  unfold StackSetting.handle
  dsimp only
  cases hcleanups : p.cleanups with
  | nil => exact h
  | cons camera cleanups =>
    refine ⟨h.alive, h.micTesting, ?_, h.dangling, h.gone⟩
    have hcameras := h.cameras
    rw [hcleanups] at hcameras
    refine List.Perm.trans ?_ hcameras
    show (p.held ++ cleanups ++ (p.released ++ [camera])).Perm
      (p.held ++ (camera :: cleanups) ++ p.released)
    rw [List.append_assoc, List.append_assoc, ← List.append_assoc cleanups]
    exact (List.perm_append_singleton camera _).append_left p.held

/-- An event of a page that exists keeps the invariant. -/
theorem PageInv.handle_alive (h : p.PageInv) (halive : p.alive = true) {e : Event}
    (henabled : p.enabled e = true) : (p.handle e).PageInv := by
  cases e with
  | shown cameras =>
    have hshown : PageInv { p with visible := true } :=
      ⟨fun _ => halive, fun hmic => ⟨rfl, (h.micTesting hmic).2⟩, h.cameras, h.dangling, h.gone⟩
    exact hshown.frame halive (frame_showEvent _ cameras)
  | hidden =>
    have hhidden : PageInv { p with visible := false, micTesting := false } :=
      ⟨nofun, nofun, h.cameras, h.dangling, h.gone⟩
    have hnext : Frame { p with visible := false, micTesting := false } { p with
        visible := false
        micTesting := false
        generation := p.generation + 1
        startTimer := false } := .same rfl
    exact hhidden.frame halive (hnext.trans (frame_stopVideoPreview _ true))
  | minimized => exact h.frame halive (frame_hideEvent p)
  | restored cameras => exact h.frame halive (frame_showEvent p cameras)
  | refreshed cameras =>
    have htaken : Frame p { p with refreshes := p.refreshes - 1 } := .same rfl
    exact h.frame halive (htaken.trans (frame_refresh _ cameras))
  | categoryChanged row =>
    simp only [enabled, Bool.and_eq_true, bne_iff_ne] at henabled
    have hframe := frame_syncPreviewForCategory { p with row } row
    -- the test stops on other rows, and it was not on from another row
    have hoff : (syncPreviewForCategory { p with row } row).micTesting = false := by
      by_cases hrow : row = 1
      · refine Bool.eq_false_iff.mpr fun hmic => henabled.2 ?_
        exact hrow.trans (h.micTesting (hframe.micTesting hmic)).2.symm
      · exact micTesting_syncPreviewForCategory { p with row } hrow
    have hpicked : PageInv { p with row, micTesting := false } :=
      ⟨h.alive, nofun, h.cameras, h.dangling, h.gone⟩
    exact hpicked.frame halive ⟨hframe.alive, hframe.visible, hframe.row, hframe.dangling,
      fun hmic => absurd hmic (Bool.eq_false_iff.mp hoff), hframe.cameras, hframe.kept⟩
  | devicePicked i cameras =>
    have hpicked : Frame p { p with lists := { p.lists with device := i } } := .same rfl
    exact h.frame halive (hpicked.trans (frame_listsChanged _ _))
  | resolutionPicked i =>
    have hpicked : Frame p { p with lists := { p.lists with resolution := i } } := .same rfl
    exact h.frame halive (hpicked.trans (frame_listsChanged _ _))
  | fpsPicked i =>
    have hpicked : Frame p { p with lists := { p.lists with fps := i } } := .same rfl
    exact h.frame halive (hpicked.trans (frame_listsChanged _ _))
  | previewToggled => exact h.frame halive (frame_toggle p)
  | saved => exact h.frame halive (.same rfl)
  | resetClicked => exact h.frame halive (.same rfl)
  | micTestClicked found ok =>
    simp only [enabled, Bool.and_eq_true, beq_iff_eq] at henabled
    unfold StackSetting.handle startMicTest
    dsimp only
    split_ifs
    · exact h.frame halive (frame_stopMicTest p)
    · exact h.frame halive ((frame_stopMicTest p).trans (.same rfl))
    · exact ⟨h.alive, fun _ => ⟨henabled.1.2, henabled.2⟩, h.cameras, h.dangling, h.gone⟩
  | timerFired => exact h.frame halive (frame_beginVideoPreviewAsync p)
  | prepared i cameras =>
    unfold StackSetting.handle
    dsimp only
    cases p.jobs[i]? with
    | none => exact h
    | some job =>
      dsimp only
      rw [if_pos halive]
      exact h.frame halive (.same rfl)
  | functorRun =>
    unfold StackSetting.handle
    dsimp only
    cases p.functors with
    | nil => exact h
    | cons f functors =>
      have htaken : PageInv { p with functors } := h.frame halive (.same rfl)
      exact htaken.runFunctor halive f
  | cameraFailed => exact h.frame halive (.same rfl)
  | dismissed yes cameras =>
    unfold StackSetting.handle
    dsimp only
    rw [if_pos halive]
    exact h.frame halive (frame_dismiss p yes cameras)
  | cleanedUp => exact h.cleanedUp
  | destroyed => exact h.destroy halive

/-- What is left of a page that was destroyed keeps the invariant. -/
theorem PageInv.handle_gone (h : p.PageInv) (hgone : p.alive = false) {e : Event}
    (henabled : p.enabled e = true) : (p.handle e).PageInv := by
  rcases h.gone hgone with ⟨hpreview, hfunctors, hrest⟩
  have hnot : ¬p.alive = true := Bool.eq_false_iff.mp hgone
  cases e with
  | prepared i cameras =>
    unfold StackSetting.handle
    dsimp only
    cases hjob : p.jobs[i]? with
    | none => exact h
    | some job =>
      have habandoned : p.abandoned = true := hrest.resolve_right fun hidle => by
        rw [hidle.2.1] at hjob
        cases hjob
      dsimp only
      rw [if_neg hnot]
      exact ⟨h.alive, h.micTesting, h.cameras, fun halive => absurd halive hnot,
        fun _ => ⟨hpreview, hfunctors, Or.inl habandoned⟩⟩
  | functorRun => simp [enabled, hfunctors] at henabled
  | cameraFailed => simp [enabled, hpreview] at henabled
  | dismissed yes cameras =>
    have habandoned : p.abandoned = true := hrest.resolve_right fun hidle => by
      rw [enabled, hidle.2.2] at henabled
      cases henabled
    unfold StackSetting.handle
    dsimp only
    rw [if_neg hnot]
    exact ⟨h.alive, h.micTesting, h.cameras, fun halive => absurd halive hnot,
        fun _ => ⟨hpreview, hfunctors, Or.inl habandoned⟩⟩
  | cleanedUp => exact h.cleanedUp
  | _ => simp [enabled, hgone] at henabled

theorem reachable_pageInv {previewEnabled : Bool} {prefs : VideoPrefs}
    (h : Reachable (system previewEnabled prefs) p) : p.PageInv := by
  refine Reachable.invariant ?_ ?_ h
  · rintro _ rfl
    exact ⟨nofun, nofun, List.Perm.refl _, fun _ => rfl, nofun⟩
  · rintro s e s' _ hinv hstep
    rcases Option.ite_none_right_eq_some.mp hstep with ⟨henabled, heq⟩
    rcases Option.some.inj heq with rfl
    by_cases halive : s.alive = true
    · exact hinv.handle_alive halive henabled
    · exact hinv.handle_gone (Bool.eq_false_iff.mpr halive) henabled

/-- A page after some events, where they can happen. -/
def after (C : StackSetting → Event → Prop) [∀ p e, Decidable (C p e)] (previewEnabled : Bool)
    (prefs : VideoPrefs) (es : List Event) : StackSetting :=
  (replay (guarded C next) { previewEnabled, prefs } es).getD { previewEnabled, prefs }

theorem reachable_after (C : StackSetting → Event → Prop) [∀ p e, Decidable (C p e)]
    (previewEnabled : Bool) (prefs : VideoPrefs) (es : List Event) :
    Reachable ((system previewEnabled prefs).restrict C) (after C previewEnabled prefs es) := by
  unfold after
  cases hrun : replay (guarded C next) { previewEnabled, prefs } es with
  | none => exact .init rfl
  | some p =>
    exact (Run.of_replay (fun _ _ _ => guarded_step fun _ _ _ h => h) hrun).reachable (.init rfl)

/-- In every run each camera that was made is the one of the page, to be stopped or
stopped, and none of them twice; a page that was destroyed has none; and code only
runs on it where a worker or a box was left behind. -/
theorem cameras_accounted {previewEnabled : Bool} {prefs : VideoPrefs}
    (h : Reachable (system previewEnabled prefs) p) :
    (p.held ++ p.cleanups ++ p.released).Perm (List.range p.cameras) ∧
      (p.alive = false → p.held = []) ∧ (p.dangling = true → p.abandoned = true) := by
  have hinv := reachable_pageInv h
  refine ⟨hinv.cameras, fun hgone => ?_, fun hdangling => ?_⟩
  · rw [held, (hinv.gone hgone).1]
    rfl
  · cases halive : p.alive with
    | true => exact absurd hdangling (Bool.eq_false_iff.mp (hinv.dangling halive))
    | false =>
      refine (hinv.gone halive).2.2.resolve_right fun hidle => ?_
      exact Bool.eq_false_iff.mp hidle.1 hdangling

/-- A camera with two sizes, the large one at two frame rates. -/
def deskCamera : CameraDevice where
  id := ascii "desk"
  videoFormats := [⟨⟨640, 480, 30⟩, 1⟩, ⟨⟨1280, 720, 30⟩, 1⟩, ⟨⟨1280, 720, 60⟩, 1⟩]

/-- The camera has been opened twice and let go twice, and the page is destroyed while a
worker looks for it again. -/
def leftPage : StackSetting :=
  after (fun _ _ => True) true defaultPrefs
    [.shown [deskCamera], .refreshed [deskCamera], .timerFired, .prepared 0 [deskCamera], .functorRun,
      .resolutionPicked 1, .timerFired, .prepared 0 [deskCamera], .functorRun, .fpsPicked 1,
      .cleanedUp, .timerFired, .destroyed, .prepared 0 [deskCamera]]

theorem cameras_accounted_desk :
    (leftPage.held ++ leftPage.cleanups ++ leftPage.released).Perm (List.range 2) ∧
      leftPage.held = [] ∧ leftPage.dangling = true ∧ leftPage.abandoned = true := by
  have hcameras : leftPage.cameras = 2 := by decide +kernel
  have hreachable : Reachable (system true defaultPrefs) leftPage :=
    (reachable_after (fun _ _ => True) true defaultPrefs _).of_restrict
  have h := cameras_accounted hreachable
  have hdangling : leftPage.dangling = true := by decide +kernel
  exact ⟨hcameras ▸ h.1, h.2.1 (by decide +kernel), hdangling, h.2.2 hdangling⟩

end StackSetting

end CCMeeting
