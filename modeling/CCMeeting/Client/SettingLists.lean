import CCMeeting.Client.SettingPage

/-! # What the settings page offers

Each box is filled from the one above it, and what was picked before is picked again.
The camera of the page has no part in this. So a new page comes back to the settings
that have been saved, but for one case: of the two sizes offered for a camera without
formats only the first comes back.
-/

namespace CCMeeting

open ByteString Transition

/-! ## The lists -/

namespace VideoLists

variable {cameras : List CameraDevice} {prefs : VideoPrefs} {l : VideoLists} {caps : List VideoCap}

/-- The lists show what there is: the cameras, and what the selected one can do. -/
structure Listed (cameras : List CameraDevice) (l : VideoLists) : Prop where
  devices : l.deviceEnabled = true →
    l.devices = cameras.map (·.id) ∧ l.device < l.devices.length
  caps : l.caps = videoCaps (findCameraById cameras l.currentVideoDeviceId)
  resolutions : l.resolutions = offeredSizes l.caps
  resolution : l.resolution < l.resolutions.length
  fpsList : l.fpsList = offeredFps l.caps l.currentResolution
  fps : l.fps < l.fpsList.length

theorem mem_videoCaps {device : Option CameraDevice} {c : VideoCap} (h : c ∈ videoCaps device) :
    0 < c.width ∧ 0 < c.height ∧ 0 < c.fps ∧
      ∃ d, device = some d ∧ ∃ f ∈ d.videoFormats, f.toVideoCap = c := by
  simp only [videoCaps, List.mem_filter, List.mem_map, Bool.and_eq_true, decide_eq_true_eq] at h
  rcases h with ⟨⟨f, hf, rfl⟩, ⟨hwidth, hheight⟩, hfps⟩
  cases device with
  | none => cases hf
  | some d => exact ⟨hwidth, hheight, hfps, d, rfl, f, hf, rfl⟩

theorem offeredFps_ne_nil (caps : List VideoCap) (size : ℤ × ℤ) : offeredFps caps size ≠ [] := by
  unfold offeredFps
  dsimp only
  split_ifs with h
  · exact List.cons_ne_nil _ _
  · exact h

/-- The sizes of a camera with formats are the sizes of its formats. -/
theorem mem_offeredSizes (hcaps : caps ≠ []) {size : ℤ × ℤ} :
    size ∈ offeredSizes caps ↔ ∃ c ∈ caps, (c.width, c.height) = size := by
  have hseen : Choice.keepFirst (caps.map fun c => (c.width, c.height)) ≠ [] := by
    rcases List.exists_mem_of_ne_nil caps hcaps with ⟨c, hc⟩
    refine List.ne_nil_of_mem (a := (c.width, c.height)) ?_
    exact Choice.mem_keepFirst.mpr (List.mem_map_of_mem hc)
  rw [offeredSizes, if_neg hseen, Choice.mem_keepFirst, List.mem_map]

/-- The frame rates for a size are those of the formats of that size. -/
theorem mem_offeredFps {size : ℤ × ℤ} (hsize : ∃ c ∈ caps, (c.width, c.height) = size ∧ 0 < c.fps)
    {fps : ℤ} : fps ∈ offeredFps caps size ↔
      ∃ c ∈ caps, (c.width, c.height) = size ∧ 0 < c.fps ∧ c.fps = fps := by
  have hmem : ∀ fps, fps ∈ Choice.ascending
      ((caps.filter fun c => c.width = size.1 ∧ c.height = size.2 ∧ 0 < c.fps).map (·.fps)) ↔
        ∃ c ∈ caps, (c.width, c.height) = size ∧ 0 < c.fps ∧ c.fps = fps := by
    intro fps
    rw [Choice.mem_ascending, List.mem_map]
    constructor
    · rintro ⟨c, hc, rfl⟩
      rw [List.mem_filter, decide_eq_true_eq] at hc
      exact ⟨c, hc.1, Prod.ext hc.2.1 hc.2.2.1, hc.2.2.2, rfl⟩
    · rintro ⟨c, hc, rfl, hpos, rfl⟩
      exact ⟨c, List.mem_filter.mpr ⟨hc, decide_eq_true ⟨rfl, rfl, hpos⟩⟩, rfl⟩
  rcases hsize with ⟨c, hc, hcsize, hpos⟩
  have hfound := (hmem c.fps).mpr ⟨c, hc, hcsize, hpos, rfl⟩
  rw [offeredFps, if_neg (List.ne_nil_of_mem hfound), hmem]

theorem listed_rebuildFpsList (prefs : VideoPrefs)
    (hdevices : l.deviceEnabled = true →
      l.devices = cameras.map (·.id) ∧ l.device < l.devices.length)
    (hcaps : l.caps = videoCaps (findCameraById cameras l.currentVideoDeviceId))
    (hresolutions : l.resolutions = offeredSizes l.caps)
    (hresolution : l.resolution < l.resolutions.length) :
    (l.rebuildFpsList prefs).Listed cameras where
  devices := hdevices
  caps := hcaps
  resolutions := hresolutions
  resolution := hresolution
  fpsList := rfl
  fps := Choice.lastIndex_lt (· = prefs.fps) (offeredFps_ne_nil l.caps l.currentResolution)

theorem selectedSize_lt (caps : List VideoCap) (prefs : VideoPrefs) :
    selectedSize caps prefs < (offeredSizes caps).length := by
  by_cases h : Choice.keepFirst (caps.map fun c => (c.width, c.height)) = []
  · rw [selectedSize, offeredSizes, if_pos h, h]
    exact Nat.zero_lt_succ _
  · rw [selectedSize, offeredSizes, if_neg h]
    exact Choice.lastIndex_lt _ h

theorem listed_rebuildResolutionList (prefs : VideoPrefs) (hdevices : l.deviceEnabled = true →
      l.devices = cameras.map (·.id) ∧ l.device < l.devices.length) :
    (l.rebuildResolutionList prefs cameras).Listed cameras :=
  listed_rebuildFpsList prefs hdevices rfl rfl (selectedSize_lt _ _)

theorem listed_refreshVideoDevices (prefs : VideoPrefs) (cameras : List CameraDevice)
    (l : VideoLists) : (l.refreshVideoDevices prefs cameras).Listed cameras := by
  unfold refreshVideoDevices
  split_ifs with h
  · exact listed_rebuildResolutionList prefs nofun
  · refine listed_rebuildResolutionList prefs fun _ => ⟨rfl, ?_⟩
    exact Choice.lastIndex_lt (fun id => prefs.deviceId ≠ [] ∧ id = prefs.deviceId)
      (List.map_eq_nil_iff.not.mpr h)

theorem Listed.currentFps_mem (h : l.Listed cameras) :
    l.currentFps ∈ offeredFps l.caps l.currentResolution := by
  rw [← h.fpsList, currentFps, List.getElem?_eq_getElem h.fps, Option.getD_some]
  exact List.getElem_mem _

theorem currentResolution_eq {size : ℤ × ℤ} (h : l.resolutions[l.resolution]? = some size)
    (hpos : 0 ≤ size.1 ∧ 0 ≤ size.2) : l.currentResolution = size := by
  unfold currentResolution
  rw [h]
  exact if_pos hpos

/-- What is selected of a camera with formats is one of its formats. -/
theorem Listed.selection_mem (h : l.Listed cameras) (hcaps : l.caps ≠ []) :
    l.selection.2 ∈ l.caps := by
  rcases Option.ne_none_iff_exists'.mp (List.getElem?_eq_none_iff.not.mpr
    (not_le.mpr h.resolution)) with ⟨size, hsize⟩
  have hmem : size ∈ offeredSizes l.caps := h.resolutions ▸ List.mem_of_getElem? hsize
  rcases (mem_offeredSizes hcaps).mp hmem with ⟨c, hc, rfl⟩
  have hpos := mem_videoCaps (h.caps ▸ hc)
  have hcurrent : l.currentResolution = (c.width, c.height) :=
    currentResolution_eq hsize ⟨le_of_lt hpos.1, le_of_lt hpos.2.1⟩
  have hfps := h.currentFps_mem
  rw [hcurrent] at hfps
  rcases (mem_offeredFps ⟨c, hc, rfl, hpos.2.2.1⟩).mp hfps with ⟨c', hc', hsame, _, hcfps⟩
  have heq : l.selection.2 = c' := by
    simp only [selection, hcurrent, ← hsame, ← hcfps]
  rw [heq]
  exact hc'

theorem Listed.currentVideoDeviceId_mem (h : l.Listed cameras)
    (hid : l.currentVideoDeviceId ≠ []) :
    l.deviceEnabled = true ∧ l.currentVideoDeviceId ∈ cameras.map (·.id) := by
  unfold currentVideoDeviceId at hid ⊢
  by_cases henabled : l.deviceEnabled = true
  · rw [if_pos henabled]
    rcases h.devices henabled with ⟨hdevices, hlt⟩
    refine ⟨henabled, ?_⟩
    rw [List.getElem?_eq_getElem hlt, Option.getD_some, ← hdevices]
    exact List.getElem_mem hlt
  · rw [if_neg henabled] at hid
    exact absurd rfl hid

/-! ## What has been saved is selected again -/

/-- A list that offers the saved frame rate selects it. -/
theorem currentFps_rebuildFpsList (h : prefs.fps ∈ offeredFps l.caps l.currentResolution) :
    (l.rebuildFpsList prefs).currentFps = prefs.fps := by
  rcases Choice.getElem?_lastIndex (p := (· = prefs.fps)) ⟨_, h, decide_eq_true rfl⟩ with
    ⟨fps, hfps, heq⟩
  unfold rebuildFpsList currentFps
  dsimp only
  rw [hfps]
  exact of_decide_eq_true heq

/-- The sizes of a camera with formats select the saved size, where it is one of them. -/
theorem getElem?_selectedSize (h : ∃ c ∈ caps, (c.width, c.height) = (prefs.width, prefs.height)) :
    (offeredSizes caps)[selectedSize caps prefs]? = some (prefs.width, prefs.height) := by
  have hmem : (prefs.width, prefs.height) ∈
      Choice.keepFirst (caps.map fun c => (c.width, c.height)) :=
    Choice.mem_keepFirst.mpr (List.mem_map.mpr h)
  rcases Choice.getElem?_lastIndex (p := (· = (prefs.width, prefs.height)))
    ⟨_, hmem, decide_eq_true rfl⟩ with ⟨size, hsize, heq⟩
  rw [offeredSizes, if_neg (List.ne_nil_of_mem hmem), selectedSize, hsize,
    of_decide_eq_true heq]

/-- The size that is selected, of the sizes that are offered. -/
theorem currentResolution_rebuildResolutionList {size : ℤ × ℤ}
    (hcaps : videoCaps (findCameraById cameras l.currentVideoDeviceId) = caps)
    (hsize : (offeredSizes caps)[selectedSize caps prefs]? = some size)
    (hpos : 0 ≤ size.1 ∧ 0 ≤ size.2) :
    (l.rebuildResolutionList prefs cameras).currentResolution = size := by
  refine currentResolution_eq ?_ hpos
  rw [← hcaps] at hsize
  exact hsize

theorem currentVideoDeviceId_refreshVideoDevices (hmem : prefs.deviceId ∈ cameras.map (·.id))
    (hid : prefs.deviceId ≠ []) :
    (l.refreshVideoDevices prefs cameras).currentVideoDeviceId = prefs.deviceId := by
  have hcameras : cameras ≠ [] := by
    rintro rfl
    cases hmem
  rcases Choice.getElem?_lastIndex (p := fun id => prefs.deviceId ≠ [] ∧ id = prefs.deviceId)
    ⟨_, hmem, decide_eq_true ⟨hid, rfl⟩⟩ with ⟨id, hget, heq⟩
  have hsame : id = prefs.deviceId := (of_decide_eq_true heq).2
  unfold refreshVideoDevices
  rw [if_neg hcameras]
  show ((cameras.map (·.id))[selectedDevice (cameras.map (·.id)) prefs]?).getD [] = prefs.deviceId
  unfold selectedDevice
  rw [hget]
  exact hsame

theorem refreshVideoDevices_eq (l : VideoLists) (prefs : VideoPrefs) (cameras : List CameraDevice) :
    ∃ l₁, l.refreshVideoDevices prefs cameras = rebuildResolutionList l₁ prefs cameras := by
  unfold refreshVideoDevices
  split_ifs
  · exact ⟨_, rfl⟩
  · exact ⟨_, rfl⟩

/-- The lists made with what has been saved from other lists select what those did,
but for the size of a camera without formats: there the first size is selected. -/
theorem selection_saved (h : l.Listed cameras) (hid : l.currentVideoDeviceId ≠ [])
    (l' : VideoLists) :
    (l'.refreshVideoDevices (l.saveUiPrefs prefs) cameras).selection = l.selection ↔
      l.caps ≠ [] ∨ l.currentResolution = (640, 480) := by
  rcases h.currentVideoDeviceId_mem hid with ⟨henabled, hmem⟩
  have hdevice : (l.saveUiPrefs prefs).deviceId = l.currentVideoDeviceId := by
    rw [saveUiPrefs, currentVideoDeviceId, if_pos henabled, if_pos henabled]
  have hcurrent := currentVideoDeviceId_refreshVideoDevices (l := l')
    (hdevice.symm ▸ hmem) (hdevice.symm ▸ hid)
  rw [hdevice] at hcurrent
  rcases refreshVideoDevices_eq l' (l.saveUiPrefs prefs) cameras with ⟨l₁, heq⟩
  rw [heq] at hcurrent ⊢
  have hcaps : videoCaps (findCameraById cameras l₁.currentVideoDeviceId) = l.caps := by
    rw [show l₁.currentVideoDeviceId = l.currentVideoDeviceId from hcurrent, ← h.caps]
  -- once the size is the same, the frame rates that are offered are
  have hsame (hsize : (l₁.rebuildResolutionList (l.saveUiPrefs prefs) cameras).currentResolution =
      l.currentResolution) :
      (l₁.rebuildResolutionList (l.saveUiPrefs prefs) cameras).selection = l.selection := by
    have hfps : (l₁.rebuildResolutionList (l.saveUiPrefs prefs) cameras).currentFps =
        l.currentFps := by
      refine currentFps_rebuildFpsList ?_
      show l.currentFps ∈ offeredFps (videoCaps (findCameraById cameras l₁.currentVideoDeviceId))
        (l₁.rebuildResolutionList (l.saveUiPrefs prefs) cameras).currentResolution
      rw [hcaps, hsize]
      exact h.currentFps_mem
    rw [selection, selection, hcurrent, hsize, hfps]
  by_cases hnone : l.caps = []
  · have hfirst : (l₁.rebuildResolutionList (l.saveUiPrefs prefs) cameras).currentResolution =
        (640, 480) :=
      currentResolution_rebuildResolutionList (hcaps.trans hnone) rfl (by decide)
    constructor
    · intro hselection
      right
      have hsize := congrArg (fun s : ByteString × VideoCap => (s.2.width, s.2.height)) hselection
      exact hsize.symm.trans hfirst
    · rintro (hsome | hsize)
      · exact absurd hnone hsome
      · exact hsame (hfirst.trans hsize.symm)
  · refine iff_of_true (hsame ?_) (Or.inl hnone)
    have hformat := h.selection_mem hnone
    have hpos := mem_videoCaps (h.caps ▸ hformat)
    exact currentResolution_rebuildResolutionList hcaps
      (getElem?_selectedSize ⟨_, hformat, rfl⟩) ⟨le_of_lt hpos.1, le_of_lt hpos.2.1⟩

end VideoLists

/-! ## The slots -/

namespace StackSetting

variable {p : StackSetting} {cameras : List CameraDevice}

/-! ## The boxes -/

/-- What the boxes show, and what is stored. -/
def choice (p : StackSetting) : VideoLists × VideoPrefs := (p.lists, p.prefs)

theorem choice_stopVideoPreview (p : StackSetting) (deferHardware : Bool) :
    (p.stopVideoPreview deferHardware).choice = p.choice := by
  unfold stopVideoPreview
  cases deferHardware with
  | true =>
    rw [releasePreviewHardware_true]
    rfl
  | false =>
    rw [releasePreviewHardware_false]
    rfl

theorem choice_scheduleVideoPreview (p : StackSetting) :
    p.scheduleVideoPreview.choice = p.choice := by
  unfold scheduleVideoPreview
  split_ifs
  · rw [releasePreviewHardware_true]
    rfl
  · rfl

theorem choice_syncPreviewForCategory (p : StackSetting) (row : ℕ) :
    (p.syncPreviewForCategory row).choice = p.choice := by
  unfold syncPreviewForCategory
  split_ifs
  · exact choice_scheduleVideoPreview _
  · exact choice_stopVideoPreview _ true
  · exact choice_stopVideoPreview p true
  · exact choice_stopVideoPreview _ true

theorem choice_listsChanged (p : StackSetting) (lists : VideoLists) :
    (p.listsChanged lists).choice = (lists, p.prefs) := by
  unfold listsChanged
  dsimp only
  split_ifs
  · exact choice_scheduleVideoPreview _
  · rfl

/-- The lists while the cameras are looked for. -/
def detecting (p : StackSetting) (cameras : List CameraDevice) : VideoLists :=
  if p.lists.devices = [] then
    { ({ p.lists with devices := [[]], device := 0 }.rebuildResolutionList p.prefs cameras) with
      deviceEnabled := false }
  else p.lists

/-- The choice after an event: the camera of the page has no part in it. -/
def choiceAfter (p : StackSetting) : Event → VideoLists × VideoPrefs
  | .shown cameras | .restored cameras => (p.detecting cameras, p.prefs)
  | .refreshed cameras =>
    if p.visible then (p.lists.refreshVideoDevices p.prefs cameras, p.prefs) else p.choice
  | .devicePicked i cameras =>
    ({ p.lists with device := i }.rebuildResolutionList p.prefs cameras, p.prefs)
  | .resolutionPicked i => ({ p.lists with resolution := i }.rebuildFpsList p.prefs, p.prefs)
  | .fpsPicked i => ({ p.lists with fps := i }, p.prefs)
  | .saved => (p.lists, p.lists.saveUiPrefs p.prefs)
  | .dismissed yes cameras =>
    if p.alive = true ∧ p.boxes.head? = some .reset ∧ yes = true then
      (p.lists.refreshVideoDevices defaultPrefs cameras, defaultPrefs)
    else p.choice
  | _ => p.choice

theorem choice_showEvent (p : StackSetting) (cameras : List CameraDevice) :
    (p.showEvent cameras).choice = (p.detecting cameras, p.prefs) := by
  unfold showEvent detecting
  dsimp only
  split_ifs
  · exact congrArg (fun c : VideoLists × VideoPrefs => ({ c.1 with deviceEnabled := false }, c.2))
      (choice_listsChanged _ _)
  · rfl

theorem choice_dismiss (p : StackSetting) (yes : Bool) (cameras : List CameraDevice) :
    (p.dismiss yes cameras).choice =
      if p.boxes.head? = some .reset ∧ yes = true then
        (p.lists.refreshVideoDevices defaultPrefs cameras, defaultPrefs)
      else p.choice := by
  unfold dismiss
  rcases p.boxes with _ | ⟨box, boxes⟩
  · rfl
  cases box with
  | notice => rfl
  | cameraError => exact choice_stopVideoPreview _ true
  | reset =>
    cases yes with
    | false => rfl
    | true =>
      have hlists := congrArg
        (fun c : VideoLists × VideoPrefs =>
          (c.1.refreshVideoDevices defaultPrefs cameras, defaultPrefs))
        (choice_stopVideoPreview (stopMicTest { p with boxes }) true)
      show (reset { p with boxes } cameras).choice =
        (p.lists.refreshVideoDevices defaultPrefs cameras, defaultPrefs)
      unfold reset
      dsimp only
      split_ifs
      · rw [choice_scheduleVideoPreview]
        exact hlists
      · exact hlists

theorem choice_handle (p : StackSetting) (e : Event) : (p.handle e).choice = p.choiceAfter e := by
  cases e with
  | shown cameras => exact choice_showEvent _ cameras
  | restored cameras => exact choice_showEvent p cameras
  | hidden => exact choice_stopVideoPreview _ true
  | minimized => exact choice_stopVideoPreview _ true
  | refreshed cameras =>
    unfold StackSetting.handle refresh choiceAfter
    dsimp only
    split_ifs
    · exact choice_syncPreviewForCategory _ p.row
    · rfl
  | categoryChanged row => exact choice_syncPreviewForCategory _ row
  | devicePicked i cameras => exact choice_listsChanged _ _
  | resolutionPicked i => exact choice_listsChanged _ _
  | fpsPicked i => exact choice_listsChanged _ _
  | previewToggled =>
    show p.onVideoPreviewToggleClicked.choice = p.choice
    unfold onVideoPreviewToggleClicked
    dsimp only
    split_ifs
    · exact choice_scheduleVideoPreview _
    · exact choice_stopVideoPreview _ true
  | saved => rfl
  | resetClicked => rfl
  | micTestClicked found ok =>
    show (if p.micTesting then p.stopMicTest else p.startMicTest found ok).choice = p.choice
    unfold startMicTest
    dsimp only
    split_ifs
    · rfl
    · rfl
    · rfl
  | timerFired =>
    show p.beginVideoPreviewAsync.choice = p.choice
    unfold beginVideoPreviewAsync
    dsimp only
    split_ifs
    · rfl
    · rfl
    · rfl
  | prepared i cameras =>
    unfold StackSetting.handle
    dsimp only
    cases p.jobs[i]? with
    | none => rfl
    | some job =>
      dsimp only
      split_ifs
      · rfl
      · rfl
  | functorRun =>
    unfold StackSetting.handle
    dsimp only
    cases p.functors with
    | nil => rfl
    | cons f functors =>
      show (runFunctor { p with functors } f).choice = p.choice
      unfold runFunctor applyVideoPreview
      rw [releasePreviewHardware_true]
      dsimp only
      split_ifs
      · rfl
      · cases f.device with
        | none => rfl
        | some device => rfl
  | cameraFailed => rfl
  | dismissed yes cameras =>
    unfold StackSetting.handle choiceAfter
    dsimp only
    split_ifs with halive hreset hreset
    · rw [choice_dismiss, if_pos hreset.2]
    · rw [choice_dismiss, if_neg fun h => hreset ⟨halive, h⟩]
    · exact absurd hreset.1 halive
    · rfl
  | cleanedUp =>
    unfold StackSetting.handle
    dsimp only
    cases p.cleanups with
    | nil => rfl
    | cons camera cleanups => rfl
  | destroyed => exact choice_stopVideoPreview _ false

theorem listed_detecting (h : p.lists.devices = [] ∨ p.lists.Listed cameras) :
    (p.detecting cameras).Listed cameras := by
  unfold detecting
  split_ifs with hdevices
  · -- the placeholder has no data, whether its box is enabled or not
    have hnone : (VideoLists.rebuildResolutionList { p.lists with devices := [[]], device := 0 }
        p.prefs cameras).currentVideoDeviceId = [] := by
      show (if p.lists.deviceEnabled = true then [] else []) = []
      exact ite_self _
    refine ⟨nofun, ?_, rfl, VideoLists.selectedSize_lt _ _, rfl, ?_⟩
    · exact congrArg (fun id => videoCaps (findCameraById cameras id)) hnone
    · exact Choice.lastIndex_lt (· = p.prefs.fps) (VideoLists.offeredFps_ne_nil _ _)
  · exact h.resolve_left hdevices

/-- The cameras that an event sees. -/
def Event.seen : Event → Option (List CameraDevice)
  | .shown cameras | .restored cameras | .refreshed cameras | .devicePicked _ cameras
  | .prepared _ cameras | .dismissed _ cameras => some cameras
  | _ => none

/-- Once there is anything in the boxes, it is what there is. -/
theorem listed_handle (h : p.lists.devices = [] ∨ p.lists.Listed cameras) {e : Event}
    (henabled : p.enabled e = true) (hseen : ∀ seen ∈ e.seen, seen = cameras) :
    (p.handle e).lists.devices = [] ∨ (p.handle e).lists.Listed cameras := by
  have hlists := congrArg Prod.fst (choice_handle p e)
  rw [show (p.handle e).lists = (p.choiceAfter e).1 from hlists]
  cases e with
  | shown seen =>
    rcases hseen seen rfl with rfl
    exact Or.inr (listed_detecting h)
  | restored seen =>
    rcases hseen seen rfl with rfl
    exact Or.inr (listed_detecting h)
  | refreshed seen =>
    rcases hseen seen rfl with rfl
    unfold choiceAfter
    dsimp only
    split_ifs
    · exact Or.inr (VideoLists.listed_refreshVideoDevices p.prefs seen p.lists)
    · exact h
  | devicePicked i seen =>
    rcases hseen seen rfl with rfl
    simp only [enabled, Bool.and_eq_true, decide_eq_true_eq] at henabled
    refine h.imp id fun hlisted => VideoLists.listed_rebuildResolutionList p.prefs fun hon => ?_
    exact ⟨(hlisted.devices hon).1, henabled.1.2⟩
  | resolutionPicked i =>
    simp only [enabled, Bool.and_eq_true, decide_eq_true_eq] at henabled
    exact h.imp id fun hlisted => VideoLists.listed_rebuildFpsList p.prefs hlisted.devices
      hlisted.caps hlisted.resolutions henabled.1.2
  | fpsPicked i =>
    simp only [enabled, Bool.and_eq_true, decide_eq_true_eq] at henabled
    exact h.imp id fun hlisted => ⟨hlisted.devices, hlisted.caps, hlisted.resolutions,
      hlisted.resolution, hlisted.fpsList, henabled.1.2⟩
  | dismissed yes seen =>
    rcases hseen seen rfl with rfl
    unfold choiceAfter
    dsimp only
    split_ifs
    · exact Or.inr (VideoLists.listed_refreshVideoDevices defaultPrefs seen p.lists)
    · exact h
  | _ => exact h

/-- The cameras are always the same ones. -/
def Seen (cameras : List CameraDevice) (_ : StackSetting) (e : Event) : Prop :=
  ∀ seen ∈ e.seen, seen = cameras

instance (cameras : List CameraDevice) (p : StackSetting) (e : Event) :
    Decidable (Seen cameras p e) :=
  inferInstanceAs (Decidable (∀ seen ∈ e.seen, seen = cameras))

/-- A page with a camera selected shows what there is. -/
theorem reachable_listed {previewEnabled : Bool} {prefs : VideoPrefs}
    {C : StackSetting → Event → Prop} (hC : ∀ p e, C p e → Seen cameras p e)
    (h : Reachable ((system previewEnabled prefs).restrict C) p)
    (hid : p.lists.currentVideoDeviceId ≠ []) : p.lists.Listed cameras := by
  have hlisted : p.lists.devices = [] ∨ p.lists.Listed cameras := by
    refine Reachable.invariant (I := fun p => p.lists.devices = [] ∨ p.lists.Listed cameras)
      ?_ ?_ h
    · rintro _ rfl
      exact Or.inl rfl
    · rintro s e s' _ hs ⟨hmeets, hstep⟩
      rcases Option.ite_none_right_eq_some.mp hstep with ⟨henabled, heq⟩
      exact Option.some.inj heq ▸ listed_handle hs henabled (hC s e hmeets)
  refine hlisted.resolve_left fun hnone => hid ?_
  rw [VideoLists.currentVideoDeviceId, hnone]
  exact ite_self _

/-- The user picks nothing, and changes nothing of what is stored. -/
def Event.undecided : Event → Bool
  | .devicePicked _ _ | .resolutionPicked _ | .fpsPicked _ | .saved => false
  | .dismissed yes _ => !yes
  | _ => true

/-- A page that has found its cameras shows what is stored. -/
def ShowsStored (cameras : List CameraDevice) (prefs : VideoPrefs) (p : StackSetting) : Prop :=
  p.prefs = prefs ∧ (p.lists.currentVideoDeviceId ≠ [] →
    ∃ l : VideoLists, p.lists = l.refreshVideoDevices prefs cameras)

theorem ShowsStored.handle {prefs : VideoPrefs} (h : p.ShowsStored cameras prefs) {e : Event}
    (hseen : Seen cameras p e) (hundecided : e.undecided = true) :
    (p.handle e).ShowsStored cameras prefs := by
  rcases h with ⟨hprefs, hlists⟩
  have hdetecting (seen : List CameraDevice) (hid : (p.detecting seen).currentVideoDeviceId ≠ []) :
      ∃ l : VideoLists, p.detecting seen = l.refreshVideoDevices prefs cameras := by
    unfold detecting at hid ⊢
    split_ifs at hid ⊢
    · exact absurd rfl hid
    · exact hlists hid
  have hchoice := choice_handle p e
  have hkept (heq : p.choiceAfter e = p.choice) : (p.handle e).ShowsStored cameras prefs := by
    rw [heq] at hchoice
    rcases Prod.mk.inj hchoice with ⟨hsame, hsamePrefs⟩
    exact ⟨hsamePrefs.trans hprefs, hsame ▸ hlists⟩
  cases e with
  | shown seen =>
    rcases Prod.mk.inj hchoice with ⟨hsame, hsamePrefs⟩
    exact ⟨hsamePrefs.trans hprefs, hsame ▸ hdetecting seen⟩
  | restored seen =>
    rcases Prod.mk.inj hchoice with ⟨hsame, hsamePrefs⟩
    exact ⟨hsamePrefs.trans hprefs, hsame ▸ hdetecting seen⟩
  | refreshed seen =>
    rcases hseen seen rfl with rfl
    by_cases hvisible : p.visible = true
    · rw [choiceAfter, if_pos hvisible, hprefs] at hchoice
      rcases Prod.mk.inj hchoice with ⟨hsame, hsamePrefs⟩
      exact ⟨hsamePrefs, fun _ => ⟨p.lists, hsame⟩⟩
    · exact hkept (if_neg hvisible)
  | devicePicked i seen => cases hundecided
  | resolutionPicked i => cases hundecided
  | fpsPicked i => cases hundecided
  | saved => cases hundecided
  | dismissed yes seen =>
    refine hkept (if_neg fun hreset => ?_)
    rw [Event.undecided, hreset.2.2] at hundecided
    cases hundecided
  | _ => exact hkept rfl

/-- Where the cameras stay the same, a new page comes back to what was selected when
it was saved, unless that was another size than the first for a camera without
formats. -/
theorem saved_settings_return {previewEnabled previewEnabled' : Bool} {prefs : VideoPrefs}
    {q : StackSetting}
    (hp : Reachable ((system previewEnabled prefs).restrict (Seen cameras)) p)
    (hpid : p.lists.currentVideoDeviceId ≠ [])
    (hq : Reachable ((system previewEnabled' (p.handle .saved).prefs).restrict fun q e =>
      Seen cameras q e ∧ e.undecided = true) q)
    (hqid : q.lists.currentVideoDeviceId ≠ []) :
    q.lists.selection = p.lists.selection ↔
      p.lists.caps ≠ [] ∨ p.lists.currentResolution = (640, 480) := by
  have hlisted := reachable_listed (fun _ _ hseen => hseen) hp
  have hstored : q.ShowsStored cameras (p.handle .saved).prefs := by
    refine Reachable.invariant (I := ShowsStored cameras (p.handle .saved).prefs) ?_ ?_ hq
    · rintro _ rfl
      exact ⟨rfl, fun hid => absurd rfl hid⟩
    · rintro s e s' _ hs ⟨⟨hseen, hundecided⟩, hstep⟩
      rcases Option.ite_none_right_eq_some.mp hstep with ⟨_, heq⟩
      exact Option.some.inj heq ▸ hs.handle hseen hundecided
  rcases hstored.2 hqid with ⟨l, heq⟩
  rw [heq]
  exact VideoLists.selection_saved (hlisted hpid) hpid l

/-- The large size is picked, and the high frame rate. -/
def pickedPage : StackSetting :=
  after (Seen [deskCamera]) false defaultPrefs
    [.shown [deskCamera], .refreshed [deskCamera], .resolutionPicked 1, .fpsPicked 1]

/-- The page of the next start. -/
def nextPage : StackSetting :=
  after (fun q e => Seen [deskCamera] q e ∧ e.undecided = true) true
    (pickedPage.handle .saved).prefs [.shown [deskCamera], .refreshed [deskCamera]]

theorem saved_settings_return_desk :
    nextPage.lists.selection = pickedPage.lists.selection ∧
      pickedPage.lists.selection = (ascii "desk", ⟨1280, 720, 60⟩) :=
  ⟨(saved_settings_return (reachable_after (Seen [deskCamera]) false defaultPrefs _)
      (by decide +kernel)
      (reachable_after (fun q e => Seen [deskCamera] q e ∧ e.undecided = true) true _ _)
      (by decide +kernel)).mpr (Or.inl (by decide +kernel)), by decide +kernel⟩

end StackSetting

end CCMeeting
