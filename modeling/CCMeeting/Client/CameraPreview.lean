import CCMeeting.Client.SettingLists

/-! # The preview shows what is selected

A worker's answer is only used where nothing has changed since the question: every
change of what the page asks for starts a new generation and lets the camera go. So
there is a camera only while its row of the page is visible, as `isVisible` has it, and
it is the one that is selected, in the format that is selected.
-/

namespace CCMeeting

open ByteString Transition

/-- A format that is asked for is found. -/
theorem bestFormat_eq {device : CameraDevice} {asked : VideoCap}
    (h : ∃ f ∈ device.videoFormats, f.toVideoCap = asked) :
    ∃ f ∈ device.videoFormats, bestFormat device asked = some f ∧ f.toVideoCap = asked := by
  rcases h with ⟨g, hg, rfl⟩
  have hzero : formatScore g.toVideoCap g = 0 := by simp [formatScore]
  rcases Choice.exists_least (formatScore g.toVideoCap) (show ∃ f ∈ device.videoFormats,
    formatScore g.toVideoCap f < intMax from ⟨g, hg, by rw [hzero]; decide⟩) with
    ⟨f, hf, hbest, hleast⟩
  refine ⟨f, hf, hbest, ?_⟩
  -- no score is below zero, and only the format itself has that score
  have hle := hleast g hg
  rw [hzero, formatScore] at hle
  have hwidth := abs_nonneg (f.width - g.width)
  have hheight := abs_nonneg (f.height - g.height)
  have hfps := abs_nonneg (f.fps - g.fps)
  have h1 : f.width = g.width := sub_eq_zero.mp (abs_eq_zero.mp (by omega))
  have h2 : f.height = g.height := sub_eq_zero.mp (abs_eq_zero.mp (by omega))
  have h3 : f.fps = g.fps := sub_eq_zero.mp (abs_eq_zero.mp (by omega))
  rcases f with ⟨⟨w, h, r⟩, pf⟩
  rcases g with ⟨⟨w', h', r'⟩, pf'⟩
  cases h1
  cases h2
  cases h3
  rfl

theorem findCameraById_spec {cameras : List CameraDevice} {id : ByteString} {device : CameraDevice}
    (h : findCameraById cameras id = some device) : device ∈ cameras ∧ device.id = id := by
  unfold findCameraById at h
  exact ⟨List.mem_of_find?_eq_some h, by simpa using List.find?_some h⟩

theorem PreviewJob.run_best {job : PreviewJob} {cameras : List CameraDevice}
    {device : CameraDevice} (h : (job.run cameras).device = some device) :
    (job.run cameras).best = bestFormat device job.asked := by
  unfold PreviewJob.run at h ⊢
  dsimp only at h ⊢
  rw [h]
  rfl

/-! ## Generations -/

namespace StackSetting

variable {p p' : StackSetting} {seen : List CameraDevice → Prop}

/-- The page asks for a preview. -/
def Previewing (p : StackSetting) : Prop := p.onVideoPage = true ∧ p.previewEnabled = true

/-- There is no camera, and nothing that is on its way will open one. -/
structure Quiet (p : StackSetting) : Prop where
  preview : p.preview = none
  jobs : ∀ job ∈ p.jobs, job.generation < p.generation
  functors : ∀ f ∈ p.functors, f.generation < p.generation

/-- The page has moved on: what is on its way is of an older generation. -/
structure Left (p p' : StackSetting) : Prop where
  generation : p.generation < p'.generation
  preview : p'.preview = none
  jobs : p'.jobs = p.jobs
  functors : ∀ f ∈ p'.functors, f ∈ p.functors

theorem Left.trans {p₁ : StackSetting} (h : Left p₁ p') (hgeneration : p.generation ≤ p₁.generation)
    (hjobs : p₁.jobs = p.jobs) (hfunctors : p₁.functors = p.functors) : Left p p' :=
  ⟨lt_of_le_of_lt hgeneration h.generation, h.preview, h.jobs.trans hjobs,
    fun f hf => hfunctors ▸ h.functors f hf⟩

theorem left_stopVideoPreview (p : StackSetting) (deferHardware : Bool) :
    Left p (p.stopVideoPreview deferHardware) := by
  unfold stopVideoPreview
  cases deferHardware with
  | true =>
    rw [releasePreviewHardware_true]
    exact ⟨Nat.lt_succ_self _, rfl, rfl, fun _ => id⟩
  | false =>
    rw [releasePreviewHardware_false]
    exact ⟨Nat.lt_succ_self _, rfl, rfl, fun _ => id⟩

theorem left_scheduleVideoPreview (h : p.previewEnabled = true) :
    Left p p.scheduleVideoPreview := by
  unfold scheduleVideoPreview
  rw [if_pos h, releasePreviewHardware_true]
  exact ⟨Nat.lt_succ_self _, rfl, rfl, fun _ => id⟩

theorem left_syncPreviewForCategory (p : StackSetting) (row : ℕ) :
    Left p (p.syncPreviewForCategory row) := by
  have hstop : Left p (p.stopMicTest.stopVideoPreview true) :=
    (left_stopVideoPreview p.stopMicTest true).trans (le_refl _) rfl rfl
  unfold syncPreviewForCategory
  split_ifs with hrow henabled
  · have hschedule : Left p.stopMicTest p.stopMicTest.scheduleVideoPreview :=
      left_scheduleVideoPreview henabled
    exact hschedule.trans (le_refl _) rfl rfl
  · exact hstop
  · exact left_stopVideoPreview p true
  · exact hstop

theorem left_hideEvent (p : StackSetting) : Left p p.hideEvent := by
  unfold hideEvent
  exact (left_stopVideoPreview _ true).trans (Nat.le_succ _) rfl rfl

theorem left_toggle (p : StackSetting) : Left p p.onVideoPreviewToggleClicked := by
  unfold onVideoPreviewToggleClicked
  dsimp only
  split_ifs with henabled
  · exact (left_scheduleVideoPreview henabled).trans (le_refl _) rfl rfl
  · exact (left_stopVideoPreview _ true).trans (le_refl _) rfl rfl

theorem left_destroy (p : StackSetting) : Left p p.destroy := by
  have h := left_stopVideoPreview ({ p with generation := p.generation + 1 }.stopMicTest) false
  exact ⟨lt_trans (Nat.lt_succ_self _) h.generation, h.preview, h.jobs, fun f hf => nomatch hf⟩

/-- What is on its way, and a camera there is, is what the page asks for now. -/
structure Current (seen : List CameraDevice → Prop) (p : StackSetting) : Prop where
  deviceId : p.lists.currentVideoDeviceId ≠ []
  jobs : ∀ job ∈ p.jobs, job.generation = p.generation → job = p.job
  functors : ∀ f ∈ p.functors, f.generation = p.generation →
    ∃ cameras, seen cameras ∧ f = p.job.run cameras
  preview : ∀ v, p.preview = some v → ∃ cameras, seen cameras ∧
    (p.job.run cameras).device = some v.device ∧ (p.job.run cameras).best = v.format

/-- Nothing is of a generation to come, the timer only runs for a preview, and a page
that is not quiet asks for one. -/
structure PreviewInv (seen : List CameraDevice → Prop) (p : StackSetting) : Prop where
  jobs : ∀ job ∈ p.jobs, job.generation ≤ p.generation
  functors : ∀ f ∈ p.functors, f.generation ≤ p.generation
  timer : p.startTimer = true → p.previewEnabled = true
  current : p.Quiet ∨ p.Previewing ∧ p.Current seen

theorem PreviewInv.left (h : p.PreviewInv seen) (hleft : Left p p')
    (htimer : p'.startTimer = true → p'.previewEnabled = true) : p'.PreviewInv seen := by
  have hjobs : ∀ job ∈ p'.jobs, job.generation < p'.generation := by
    intro job hjob
    rw [hleft.jobs] at hjob
    exact lt_of_le_of_lt (h.jobs job hjob) hleft.generation
  have hfunctors : ∀ f ∈ p'.functors, f.generation < p'.generation := fun f hf =>
    lt_of_le_of_lt (h.functors f (hleft.functors f hf)) hleft.generation
  exact ⟨fun job hjob => le_of_lt (hjobs job hjob), fun f hf => le_of_lt (hfunctors f hf), htimer,
    Or.inl ⟨hleft.preview, hjobs, hfunctors⟩⟩

/-- What the preview depends on. -/
def asks (p : StackSetting) : Bool × Bool × ℕ × Bool × Option Preview × VideoLists ×
    List PreviewJob × List PreviewFunctor :=
  (p.onVideoPage, p.previewEnabled, p.generation, p.startTimer, p.preview, p.lists, p.jobs,
    p.functors)

theorem PreviewInv.same (h : p.PreviewInv seen) (hsame : p'.asks = p.asks) :
    p'.PreviewInv seen := by
  simp only [asks, Prod.mk.injEq] at hsame
  rcases hsame with ⟨hpage, henabled, hgeneration, htimer, hpreview, hlists, hjobs, hfunctors⟩
  have hjob : p'.job = p.job := by rw [job, hgeneration, hlists, ← job]
  refine ⟨?_, ?_, ?_, ?_⟩
  · rw [hjobs, hgeneration]
    exact h.jobs
  · rw [hfunctors, hgeneration]
    exact h.functors
  · rw [htimer, henabled]
    exact h.timer
  · rcases h.current with hquiet | ⟨hasks, hcurrent⟩
    · left
      refine ⟨hpreview.trans hquiet.preview, ?_, ?_⟩
      · rw [hjobs, hgeneration]
        exact hquiet.jobs
      · rw [hfunctors, hgeneration]
        exact hquiet.functors
    · right
      refine ⟨⟨hpage.trans hasks.1, henabled.trans hasks.2⟩, ?_, ?_, ?_, ?_⟩
      · rw [hlists]
        exact hcurrent.deviceId
      · rw [hjobs, hgeneration, hjob]
        exact hcurrent.jobs
      · rw [hfunctors, hgeneration, hjob]
        exact hcurrent.functors
      · rw [hpreview, hjob]
        exact hcurrent.preview

/-- A page that does not ask for a preview is quiet. -/
theorem PreviewInv.quiet (h : p.PreviewInv seen) (hnot : ¬p.Previewing) : p.Quiet :=
  h.current.resolve_right fun hcurrent => hnot hcurrent.1

theorem Quiet.inv (h : p.Quiet) (htimer : p.startTimer = true → p.previewEnabled = true) :
    p.PreviewInv seen :=
  ⟨fun job hjob => le_of_lt (h.jobs job hjob), fun f hf => le_of_lt (h.functors f hf), htimer,
    Or.inl h⟩

theorem Left.quiet (h : p.PreviewInv seen) (hleft : Left p p') : p'.Quiet where
  preview := hleft.preview
  jobs job hjob := lt_of_le_of_lt (h.jobs job (hleft.jobs ▸ hjob)) hleft.generation
  functors f hf := lt_of_le_of_lt (h.functors f (hleft.functors f hf)) hleft.generation

theorem timer_stopVideoPreview (p : StackSetting) (deferHardware : Bool) :
    (p.stopVideoPreview deferHardware).startTimer = false := by
  unfold stopVideoPreview
  cases deferHardware with
  | true => rw [releasePreviewHardware_true]
  | false => rw [releasePreviewHardware_false]

theorem enabled_scheduleVideoPreview (p : StackSetting) :
    p.scheduleVideoPreview.previewEnabled = p.previewEnabled := by
  unfold scheduleVideoPreview
  split_ifs with h
  · rw [releasePreviewHardware_true]
  · rfl

theorem PreviewInv.scheduleVideoPreview (h : p.PreviewInv seen) (hquiet : p.Quiet) :
    p.scheduleVideoPreview.PreviewInv seen ∧ p.scheduleVideoPreview.Quiet := by
  by_cases henabled : p.previewEnabled = true
  · have hleft : Left p p.scheduleVideoPreview := left_scheduleVideoPreview henabled
    exact ⟨h.left hleft fun _ => by rw [enabled_scheduleVideoPreview, henabled], hleft.quiet h⟩
  · have hsame : p.scheduleVideoPreview = p := if_neg henabled
    rw [hsame]
    exact ⟨h, hquiet⟩

theorem PreviewInv.stopVideoPreview (h : p.PreviewInv seen) (deferHardware : Bool) :
    (p.stopVideoPreview deferHardware).PreviewInv seen := by
  refine h.left (left_stopVideoPreview p deferHardware) fun htimer => ?_
  rw [timer_stopVideoPreview] at htimer
  cases htimer

theorem PreviewInv.listsChanged (h : p.PreviewInv seen) (lists : VideoLists) :
    (p.listsChanged lists).PreviewInv seen ∧ (p.listsChanged lists).Quiet := by
  by_cases hpreviewing : p.Previewing
  · -- whatever is selected, the camera there is goes
    have hleft : Left p (p.listsChanged lists) := by
      unfold StackSetting.listsChanged
      have hpage : onVideoPage { p with lists } = true := hpreviewing.1
      dsimp only
      rw [if_pos hpage]
      have hschedule : Left { p with lists } (StackSetting.scheduleVideoPreview { p with lists }) :=
        left_scheduleVideoPreview hpreviewing.2
      exact hschedule.trans (le_refl _) rfl rfl
    refine ⟨h.left hleft fun _ => ?_, hleft.quiet h⟩
    unfold StackSetting.listsChanged
    dsimp only
    split_ifs
    · rw [enabled_scheduleVideoPreview]
      exact hpreviewing.2
    · exact hpreviewing.2
  · have hquiet : Quiet { p with lists } :=
      ⟨(h.quiet hpreviewing).preview, (h.quiet hpreviewing).jobs, (h.quiet hpreviewing).functors⟩
    unfold StackSetting.listsChanged
    dsimp only
    split_ifs
    · exact PreviewInv.scheduleVideoPreview (hquiet.inv h.timer) hquiet
    · exact ⟨hquiet.inv h.timer, hquiet⟩

theorem PreviewInv.showEvent (h : p.PreviewInv seen) (cameras : List CameraDevice) :
    (p.showEvent cameras).PreviewInv seen := by
  unfold StackSetting.showEvent
  dsimp only
  split_ifs
  · have hchanged := h.listsChanged
      (VideoLists.rebuildResolutionList { p.lists with devices := [[]], device := 0 } p.prefs
        cameras)
    have hquiet := hchanged.2
    exact Quiet.inv ⟨hquiet.preview, hquiet.jobs, hquiet.functors⟩ hchanged.1.timer
  · exact h.same rfl

theorem timer_syncPreviewForCategory (p : StackSetting) (row : ℕ)
    (htimer : (p.syncPreviewForCategory row).startTimer = true) :
    (p.syncPreviewForCategory row).previewEnabled = true := by
  revert htimer
  unfold StackSetting.syncPreviewForCategory
  split_ifs with _ henabled
  · rw [enabled_scheduleVideoPreview]
    exact fun _ => henabled
  · simp [timer_stopVideoPreview]
  · simp [timer_stopVideoPreview]
  · simp [timer_stopVideoPreview]

/-! ## The events -/

/-- The timer has run out: the page asks for what is selected. -/
theorem PreviewInv.beginVideoPreviewAsync (h : p.PreviewInv seen)
    (htimer : p.startTimer = true) : p.beginVideoPreviewAsync.PreviewInv seen := by
  have hoff : PreviewInv seen { p with startTimer := false } := by
    refine ⟨h.jobs, h.functors, nofun, ?_⟩
    rcases h.current with hquiet | ⟨hasks, hcurrent⟩
    · exact Or.inl ⟨hquiet.preview, hquiet.jobs, hquiet.functors⟩
    · exact Or.inr ⟨hasks, hcurrent.deviceId, hcurrent.jobs, hcurrent.functors, hcurrent.preview⟩
  unfold StackSetting.beginVideoPreviewAsync
  dsimp only
  split_ifs with hpage hdevice
  · exact hoff
  · exact hoff
  · have hasks : p.Previewing := ⟨by simpa [onVideoPage] using hpage, h.timer htimer⟩
    refine ⟨?_, h.functors, nofun, Or.inr ⟨hasks, hdevice, ?_, ?_, ?_⟩⟩
    · intro job hjob
      rcases List.mem_append.mp hjob with hjob | hjob
      · exact h.jobs job hjob
      · rcases List.mem_singleton.mp hjob with rfl
        exact le_refl _
    · intro job hjob hgeneration
      rcases List.mem_append.mp hjob with hjob | hjob
      · rcases h.current with hquiet | hcurrent
        · exact absurd hgeneration (ne_of_lt (hquiet.jobs job hjob))
        · exact hcurrent.2.jobs job hjob hgeneration
      · exact List.mem_singleton.mp hjob
    · intro f hf hgeneration
      rcases h.current with hquiet | hcurrent
      · exact absurd hgeneration (ne_of_lt (hquiet.functors f hf))
      · exact hcurrent.2.functors f hf hgeneration
    · intro v hv
      rcases h.current with hquiet | hcurrent
      · exact absurd hv (by rw [hquiet.preview]; exact nofun)
      · exact hcurrent.2.preview v hv

theorem PreviewInv.fewer (h : p.PreviewInv seen) {jobs : List PreviewJob}
    {functors : List PreviewFunctor} (hjobs : ∀ job ∈ jobs, job ∈ p.jobs)
    (hfunctors : ∀ f ∈ functors, f ∈ p.functors) :
    PreviewInv seen { p with jobs, functors } := by
  refine ⟨fun job hjob => h.jobs job (hjobs job hjob), fun f hf => h.functors f (hfunctors f hf),
    h.timer, ?_⟩
  rcases h.current with hquiet | ⟨hasks, hcurrent⟩
  · left
    exact ⟨hquiet.preview, fun job hjob => hquiet.jobs job (hjobs job hjob),
      fun f hf => hquiet.functors f (hfunctors f hf)⟩
  · right
    exact ⟨hasks, hcurrent.deviceId, fun job hjob => hcurrent.jobs job (hjobs job hjob),
      fun f hf => hcurrent.functors f (hfunctors f hf), hcurrent.preview⟩

/-- A worker is done: its answer is on its way instead of the question. -/
theorem PreviewInv.prepared (h : p.PreviewInv seen) {i : ℕ} {job : PreviewJob}
    (hjob : p.jobs[i]? = some job) {cameras : List CameraDevice} (hseen : seen cameras) :
    PreviewInv seen { p with
      jobs := p.jobs.eraseIdx i, functors := p.functors ++ [job.run cameras] } := by
  have hmem := List.mem_of_getElem? hjob
  refine ⟨fun job' hjob' => h.jobs job' (List.mem_of_mem_eraseIdx hjob'), ?_, h.timer, ?_⟩
  · intro f hf
    rcases List.mem_append.mp hf with hf | hf
    · exact h.functors f hf
    · rcases List.mem_singleton.mp hf with rfl
      exact h.jobs job hmem
  · rcases h.current with hquiet | ⟨hasks, hcurrent⟩
    · refine Or.inl ⟨hquiet.preview, ?_, ?_⟩
      · exact fun job' hjob' => hquiet.jobs job' (List.mem_of_mem_eraseIdx hjob')
      · intro f hf
        rcases List.mem_append.mp hf with hf | hf
        · exact hquiet.functors f hf
        · rcases List.mem_singleton.mp hf with rfl
          exact hquiet.jobs job hmem
    · refine Or.inr ⟨hasks, hcurrent.deviceId, ?_, ?_, hcurrent.preview⟩
      · exact fun job' hjob' => hcurrent.jobs job' (List.mem_of_mem_eraseIdx hjob')
      · intro f hf hgeneration
        rcases List.mem_append.mp hf with hf | hf
        · exact hcurrent.functors f hf hgeneration
        · rcases List.mem_singleton.mp hf with rfl
          exact ⟨cameras, hseen,
            congrArg (PreviewJob.run · cameras) (hcurrent.jobs job hmem hgeneration)⟩

/-- A worker's answer is dropped, or it is what the page asks for. -/
theorem PreviewInv.runFunctor (h : p.PreviewInv seen) {f : PreviewFunctor}
    {functors : List PreviewFunctor} (hf : p.functors = f :: functors)
    (hrecent : p.generation < f.generation + 2 ^ 32) :
    PreviewInv seen (runFunctor { p with functors } f) := by
  have hmem : f ∈ p.functors := hf ▸ List.mem_cons_self
  have hsub : ∀ g ∈ functors, g ∈ p.functors := fun g hg => hf ▸ List.mem_cons_of_mem f hg
  have htaken : PreviewInv seen { p with functors } := h.fewer (fun _ => id) hsub
  unfold StackSetting.runFunctor
  split_ifs with hdropped
  · exact htaken
  -- as the generation is recent, the one the atomic holds tells it apart
  have hgeneration : f.generation = p.generation := by
    have hle := h.functors f hmem
    simp only [sameGeneration, Bool.or_eq_true, Bool.not_eq_true', not_or, Bool.not_eq_false,
      beq_iff_eq] at hdropped
    omega
  rcases h.current with hquiet | ⟨hasks, hcurrent⟩
  · exact absurd hgeneration (ne_of_lt (hquiet.functors f hmem))
  rcases hcurrent.functors f hmem hgeneration with ⟨cameras, hseen, hanswer⟩
  unfold applyVideoPreview
  rw [releasePreviewHardware_true]
  dsimp only
  cases hdevice : f.device with
  | none =>
    refine ⟨htaken.jobs, htaken.functors, htaken.timer, Or.inr ⟨hasks, hcurrent.deviceId,
      hcurrent.jobs, ?_, ?_⟩⟩
    · exact fun g hg => hcurrent.functors g (hsub g hg)
    · exact fun v hv => nomatch hv
  | some device =>
    refine ⟨htaken.jobs, htaken.functors, htaken.timer, Or.inr ⟨hasks, hcurrent.deviceId,
      hcurrent.jobs, ?_, ?_⟩⟩
    · exact fun g hg => hcurrent.functors g (hsub g hg)
    · rintro v hv
      cases hv
      refine ⟨cameras, hseen, ?_, ?_⟩
      · show (p.job.run cameras).device = some device
        rw [← hanswer, hdevice]
      · show (p.job.run cameras).best = f.best
        rw [← hanswer]

theorem PreviewInv.refresh (h : p.PreviewInv seen) (cameras : List CameraDevice) :
    PreviewInv seen ({ p with refreshes := p.refreshes - 1 }.refresh cameras) := by
  unfold StackSetting.refresh
  split_ifs
  · -- the page moves on from the lists that were there
    refine h.left ((left_syncPreviewForCategory _ p.row).trans (le_refl _) rfl rfl) ?_
    exact timer_syncPreviewForCategory _ p.row
  · exact h.same rfl

theorem PreviewInv.toggle (h : p.PreviewInv seen) :
    p.onVideoPreviewToggleClicked.PreviewInv seen := by
  refine h.left (left_toggle p) ?_
  unfold onVideoPreviewToggleClicked
  dsimp only
  split_ifs with henabled
  · rw [enabled_scheduleVideoPreview]
    exact fun _ => henabled
  · simp [timer_stopVideoPreview]

theorem PreviewInv.reset (h : p.PreviewInv seen) (cameras : List CameraDevice) :
    (p.reset cameras).PreviewInv seen := by
  have hoff : p.stopMicTest.PreviewInv seen := h.same rfl
  have hstopped := hoff.stopVideoPreview true
  have hquiet := (left_stopVideoPreview p.stopMicTest true).quiet hoff
  unfold StackSetting.reset
  generalize p.stopMicTest.stopVideoPreview true = p₁ at hstopped hquiet
  have hquiet' : ∀ lists prefs, Quiet { p₁ with prefs, lists } := fun _ _ =>
    ⟨hquiet.preview, hquiet.jobs, hquiet.functors⟩
  dsimp only
  split_ifs
  · exact And.left (PreviewInv.scheduleVideoPreview ((hquiet' _ _).inv hstopped.timer)
      (hquiet' _ _))
  · exact (hquiet' _ _).inv hstopped.timer

theorem PreviewInv.dismiss (h : p.PreviewInv seen) (yes : Bool) (cameras : List CameraDevice) :
    (p.dismiss yes cameras).PreviewInv seen := by
  unfold StackSetting.dismiss
  rcases hboxes : p.boxes with _ | ⟨box, boxes⟩
  · exact h
  have htaken : PreviewInv seen { p with boxes } := h.same rfl
  cases box with
  | notice => exact htaken
  | cameraError => exact htaken.stopVideoPreview true
  | reset =>
    dsimp only
    split_ifs
    · exact htaken.reset cameras
    · exact htaken

theorem PreviewInv.micTestClicked (h : p.PreviewInv seen) (found ok : Bool) :
    (if p.micTesting then p.stopMicTest else p.startMicTest found ok).PreviewInv seen := by
  unfold startMicTest
  dsimp only
  split_ifs
  · exact h.same rfl
  · exact h.same rfl
  · exact h.same rfl

/-- No answer is overtaken by `2^32` generations. -/
def Recent (p : StackSetting) : Event → Prop
  | .functorRun => ∀ f ∈ p.functors.head?, p.generation < f.generation + 2 ^ 32
  | _ => True

instance (p : StackSetting) : (e : Event) → Decidable (Recent p e)
  | .functorRun =>
    inferInstanceAs (Decidable (∀ f ∈ p.functors.head?, p.generation < f.generation + 2 ^ 32))
  | .shown _ | .hidden | .minimized | .restored _ | .refreshed _ | .categoryChanged _
  | .devicePicked _ _ | .resolutionPicked _ | .fpsPicked _ | .previewToggled | .saved
  | .resetClicked | .micTestClicked _ _ | .timerFired | .prepared _ _ | .cameraFailed
  | .dismissed _ _ | .cleanedUp | .destroyed => inferInstanceAs (Decidable True)

/-- One event keeps the invariant. -/
theorem PreviewInv.handle (h : p.PreviewInv seen) {e : Event} (henabled : p.enabled e = true)
    (hseen : ∀ cameras ∈ e.seen, seen cameras) (hrecent : Recent p e) :
    (p.handle e).PreviewInv seen := by
  cases e with
  | shown cameras =>
    -- the page was not seen: it did not ask for a preview
    have hvisible : p.visible = false := by
      simp only [enabled, Bool.and_eq_true, Bool.not_eq_true'] at henabled
      exact henabled.2
    have hquiet := h.quiet fun hasks => by simpa [onVideoPage, hvisible] using hasks.1
    have hshown : PreviewInv seen { p with visible := true } :=
      Quiet.inv ⟨hquiet.preview, hquiet.jobs, hquiet.functors⟩ h.timer
    exact hshown.showEvent cameras
  | hidden =>
    refine h.left ((left_hideEvent { p with visible := false }).trans (le_refl _) rfl rfl) ?_
    simp [StackSetting.handle, hideEvent, timer_stopVideoPreview]
  | minimized =>
    refine h.left (left_hideEvent p) ?_
    simp [StackSetting.handle, hideEvent, timer_stopVideoPreview]
  | restored cameras => exact h.showEvent cameras
  | refreshed cameras => exact h.refresh cameras
  | categoryChanged row =>
    exact h.left ((left_syncPreviewForCategory { p with row } row).trans (le_refl _) rfl rfl)
      (timer_syncPreviewForCategory { p with row } row)
  | devicePicked i cameras => exact (h.listsChanged _).1
  | resolutionPicked i => exact (h.listsChanged _).1
  | fpsPicked i => exact (h.listsChanged _).1
  | previewToggled => exact h.toggle
  | saved => exact h.same rfl
  | resetClicked => exact h.same rfl
  | micTestClicked found ok => exact h.micTestClicked found ok
  | timerFired =>
    simp only [enabled, Bool.and_eq_true] at henabled
    exact h.beginVideoPreviewAsync henabled.2
  | prepared i cameras =>
    unfold StackSetting.handle
    dsimp only
    cases hjob : p.jobs[i]? with
    | none => exact h
    | some job =>
      dsimp only
      split_ifs
      · exact h.prepared hjob (hseen cameras rfl)
      · exact (h.fewer (fun job hjob => List.mem_of_mem_eraseIdx hjob) fun _ => id).same rfl
  | functorRun =>
    unfold StackSetting.handle
    dsimp only
    cases hf : p.functors with
    | nil => exact h
    | cons f functors => exact h.runFunctor hf (hrecent f (by rw [hf]; rfl))
  | cameraFailed => exact h.same rfl
  | dismissed yes cameras =>
    unfold StackSetting.handle
    dsimp only
    split_ifs
    · exact h.dismiss yes cameras
    · exact h.same rfl
  | cleanedUp =>
    unfold StackSetting.handle
    dsimp only
    cases p.cleanups with
    | nil => exact h
    | cons camera cleanups => exact h.same rfl
  | destroyed =>
    refine h.left (left_destroy p) ?_
    simp [StackSetting.handle, destroy, timer_stopVideoPreview]

/-! ## The runs -/

/-- What a run keeps, where the cameras that are seen meet a condition. -/
theorem reachable_previewInv {previewEnabled : Bool} {prefs : VideoPrefs}
    {C : StackSetting → Event → Prop} (hseen : ∀ p e, C p e → ∀ cameras ∈ e.seen, seen cameras)
    (hrecent : ∀ p e, C p e → Recent p e)
    (h : Reachable ((system previewEnabled prefs).restrict C) p) : p.PreviewInv seen := by
  refine Reachable.invariant ?_ ?_ h
  · rintro _ rfl
    exact ⟨nofun, nofun, nofun, Or.inl ⟨rfl, nofun, nofun⟩⟩
  · rintro s e s' _ hinv ⟨hC, hstep⟩
    rcases Option.ite_none_right_eq_some.mp hstep with ⟨henabled, heq⟩
    rcases Option.some.inj heq with rfl
    exact hinv.handle henabled (hseen s e hC) (hrecent s e hC)

/-- What a camera that is open says about the page. -/
theorem PreviewInv.preview (h : p.PreviewInv seen) {v : Preview} (hv : p.preview = some v) :
    p.Previewing ∧ p.Current seen := by
  refine h.current.resolve_left fun hquiet => ?_
  rw [hquiet.preview] at hv
  cases hv

/-- A camera is only open while the page is visible on the row of the video, with the
preview switched on and no microphone test, and it is the selected one, in the format
of it that is closest to what is selected. A page in a minimized window is visible. -/
theorem preview_is_selected {previewEnabled : Bool} {prefs : VideoPrefs} {v : Preview}
    (h : Reachable ((system previewEnabled prefs).restrict Recent) p) (hv : p.preview = some v) :
    (p.alive = true ∧ p.visible = true ∧ p.row = 0 ∧ p.previewEnabled = true ∧
      p.micTesting = false) ∧ v.device.id = p.lists.currentVideoDeviceId ∧
      v.format = bestFormat v.device p.lists.selection.2 := by
  have hinv : p.PreviewInv fun _ => True :=
    reachable_previewInv (fun _ _ _ _ _ => trivial) (fun _ _ hrecent => hrecent) h
  have hpageInv := reachable_pageInv h.of_restrict
  rcases hinv.preview hv with ⟨⟨hpage, henabled⟩, hcurrent⟩
  simp only [onVideoPage, Bool.and_eq_true, beq_iff_eq] at hpage
  have hmic : p.micTesting = false := by
    refine Bool.eq_false_iff.mpr fun hmic => ?_
    have hrow := (hpageInv.micTesting hmic).2
    omega
  refine ⟨⟨hpageInv.alive hpage.1, hpage.1, hpage.2, henabled, hmic⟩, ?_⟩
  rcases hcurrent.preview v hv with ⟨cameras, _, hdevice, hbest⟩
  exact ⟨(findCameraById_spec hdevice).2, hbest.symm.trans (PreviewJob.run_best hdevice)⟩

/-- The cameras are always the same ones, and no answer is overtaken. -/
def Steady (cameras : List CameraDevice) (p : StackSetting) (e : Event) : Prop :=
  Seen cameras p e ∧ Recent p e

instance (cameras : List CameraDevice) (p : StackSetting) (e : Event) :
    Decidable (Steady cameras p e) :=
  inferInstanceAs (Decidable (Seen cameras p e ∧ Recent p e))

/-- Where the cameras stay the same, a camera with formats is open in a format of the
size and the frame rate that the boxes show. -/
theorem preview_shows_selection {previewEnabled : Bool} {prefs : VideoPrefs} {v : Preview}
    {cameras : List CameraDevice}
    (h : Reachable ((system previewEnabled prefs).restrict (Steady cameras)) p)
    (hv : p.preview = some v) (hcaps : videoCaps (some v.device) ≠ []) :
    v.device ∈ cameras ∧
      ∃ f ∈ v.device.videoFormats, v.format = some f ∧ f.toVideoCap = p.lists.selection.2 := by
  have hinv : p.PreviewInv (· = cameras) :=
    reachable_previewInv (fun _ _ hsteady => hsteady.1) (fun _ _ hsteady => hsteady.2) h
  rcases hinv.preview hv with ⟨_, hcurrent⟩
  have hlisted := reachable_listed (fun _ _ hsteady => hsteady.1) h hcurrent.deviceId
  rcases hcurrent.preview v hv with ⟨_, hseen, hdevice, hbest⟩
  rw [hseen] at hdevice hbest
  refine ⟨(findCameraById_spec hdevice).1, ?_⟩
  -- the boxes were filled from the camera that is open
  have hfound : findCameraById cameras p.lists.currentVideoDeviceId = some v.device := hdevice
  have hsame := hlisted.caps
  rw [hfound] at hsame
  have hselected := hlisted.selection_mem (hsame ▸ hcaps)
  rw [hsame] at hselected
  rcases (VideoLists.mem_videoCaps hselected).2.2.2 with ⟨_, hdev, f, hf, heq⟩
  cases hdev
  rcases bestFormat_eq ⟨f, hf, heq⟩ with ⟨g, hg, hchosen, hgeq⟩
  refine ⟨g, hg, ?_, hgeq⟩
  rw [← hbest, PreviewJob.run_best hdevice]
  exact hchosen

/-- The large size is picked while the camera is open for the small one, and the high
frame rate before a worker has answered. -/
def deskEvents : List Event :=
  [.shown [deskCamera], .refreshed [deskCamera], .timerFired, .prepared 0 [deskCamera], .functorRun,
    .resolutionPicked 1, .timerFired, .fpsPicked 1, .timerFired, .prepared 0 [deskCamera],
    .prepared 0 [deskCamera], .functorRun, .functorRun]

theorem preview_is_selected_desk : ∃ v,
    (after Recent true defaultPrefs deskEvents).preview = some v ∧ v.device.id = ascii "desk" := by
  rcases Option.isSome_iff_exists.mp (show
    (after Recent true defaultPrefs deskEvents).preview.isSome = true by
      decide +kernel) with ⟨v, hv⟩
  refine ⟨v, hv, ?_⟩
  rw [(preview_is_selected (reachable_after Recent true defaultPrefs deskEvents) hv).2.1]
  decide +kernel

theorem preview_shows_selection_desk : ∃ v,
    (after (Steady [deskCamera]) true defaultPrefs deskEvents).preview = some v ∧
      ∃ f ∈ v.device.videoFormats, v.format = some f ∧ f.toVideoCap = ⟨1280, 720, 60⟩ := by
  rcases Option.isSome_iff_exists.mp (show
    (after (Steady [deskCamera]) true defaultPrefs deskEvents).preview.isSome = true by
      decide +kernel) with ⟨v, hv⟩
  have hdevice : v.device = deskCamera := by
    have hmap : (after (Steady [deskCamera]) true defaultPrefs deskEvents).preview.map (·.device) =
        some deskCamera := by decide +kernel
    rw [hv] at hmap
    exact Option.some.inj hmap
  have hselection : (after (Steady [deskCamera]) true defaultPrefs deskEvents).lists.selection.2 =
      ⟨1280, 720, 60⟩ := by decide +kernel
  have hshows := preview_shows_selection
    (reachable_after (Steady [deskCamera]) true defaultPrefs deskEvents) hv
    (by rw [hdevice]; decide +kernel)
  rw [hselection] at hshows
  exact ⟨v, hv, hshows.2⟩

end StackSetting

end CCMeeting
