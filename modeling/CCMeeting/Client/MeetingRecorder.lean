import CCMeeting.Lib.Transition
import CCMeeting.Client.DateTime

/-! # The recorder of a meeting

`MeetingRecorder` ends a recording in `finalize`, which three callers share: the
state and the errors of the `QMediaRecorder`, and a timer armed by `stop`. All of
them work on the fields of the recording begun last. What the recorder reports
from inside `record()` and `stop()` is an argument of the event.
-/

namespace CCMeeting

open ByteString Transition

/-- `RecordingLibrary::make_output_path`, in the directory of recordings. -/
def makeOutputPath (recordingsDir : ByteString) (roomNo : Int32) (startedAt : DateTime) :
    ByteString :=
  let name :=
    if 0 < roomNo then
      ascii "CCMeeting_" ++ startedAt.stamp ++ ascii "_room" ++ JsonText.writeInt roomNo.toInt ++
        ascii ".mp4"
    else ascii "CCMeeting_" ++ startedAt.stamp ++ ascii ".mp4"
  -- `QDir::filePath`
  if recordingsDir.getLast? = some 47 then recordingsDir ++ name else recordingsDir ++ 47 :: name

/-- The signal `finished`, with what `write_meta` is given. -/
structure RecordingFinished where
  path : ByteString
  roomNo : Int32
  startedAt : Option DateTime
  durationMs : ℤ
  ok : Bool
  /-- a history variable: the recording whose timer has called `finalize` -/
  timer : Option ℕ
deriving DecidableEq, Repr

/-- A history variable: what has become of a recording. -/
structure Recording where
  /-- how many recordings had begun, with this one -/
  number : ℕ
  /-- the output path, that of the second try if there was one -/
  path : ByteString
  finished : List RecordingFinished
deriving DecidableEq, Repr

/-- `MeetingRecorder`. -/
structure MeetingRecorder where
  /-- whether there is a `_recorder` -/
  recorder : Bool
  /-- whether there is a `_frameInput` -/
  frameInput : Bool
  recording : Bool
  retriedWithMjpeg : Bool
  finalized : Bool
  roomNo : Int32
  outputPath : ByteString
  startedAt : Option DateTime
  startedMs : ℤ
  lastPushMs : ℤ
  pushedFrames : ℕ
  minFrameIntervalMs : ℤ
  /-- the timers of `stop` that have not run out; the recording that armed one is
  a history variable -/
  timers : List ℕ
  /-- a history variable: the recordings `start` has begun, the last one first -/
  recordings : List Recording
deriving DecidableEq, Repr

namespace MeetingRecorder

/-- A recorder just made. -/
def fresh : MeetingRecorder where
  recorder := false
  frameInput := false
  recording := false
  retriedWithMjpeg := false
  finalized := true
  roomNo := 0
  outputPath := []
  startedAt := none
  startedMs := 0
  lastPushMs := 0
  pushedFrames := 0
  minFrameIntervalMs := 66
  timers := []
  recordings := []

/-! ## The pipeline -/

/-- `MeetingRecorder::release_pipeline`. The recorder is disconnected first. -/
def releasePipeline (m : MeetingRecorder) : MeetingRecorder :=
  { m with recorder := false, frameInput := false }

/-- `MeetingRecorder::setup_pipeline`, with the frame rate of the settings. -/
def setupPipeline (m : MeetingRecorder) (fps : ℤ) : MeetingRecorder :=
  { m.releasePipeline with
    recorder := true
    frameInput := true
    minFrameIntervalMs := max 16 (1000 / max 10 (min fps 60)) }

/-- `_recording = false`. -/
def halt (m : MeetingRecorder) : MeetingRecorder := { m with recording := false }

/-- What `finalize` reads. -/
structure Reading where
  /-- `QDateTime::currentMSecsSinceEpoch` -/
  now : ℤ
  /-- the size of the file at `_outputPath`, where there is one -/
  size : Option ℤ
deriving DecidableEq, Repr

/-- What `finalize` emits. -/
def finished (m : MeetingRecorder) (reading : Reading) (timer : Option ℕ) : RecordingFinished where
  path := m.outputPath
  roomNo := m.roomNo
  startedAt := m.startedAt
  durationMs := if 0 < m.startedMs then reading.now - m.startedMs else 0
  ok := reading.size.any (0 < ·)
  timer

/-- `MeetingRecorder::finalize`. -/
def finalize (m : MeetingRecorder) (reading : Reading) (timer : Option ℕ) : MeetingRecorder :=
  if m.finalized then m
  else
    { m with
      finalized := true
      recordings := m.recordings.modifyHead fun r =>
        { r with finished := r.finished ++ [m.finished reading timer] } }.releasePipeline

/-! ## What the recorder reports -/

/-- A signal of `QMediaRecorder`. -/
inductive Report where
  /-- `recorderStateChanged`, to `StoppedState` or to another one -/
  | stateChanged (stopped : Bool)
  /-- `errorOccurred`, with `FormatError` or with another one -/
  | errorOccurred (format : Bool)
deriving DecidableEq, Repr

/-- The slots of `_recorder`, while it is connected. -/
def onReport (reading : Reading) (retry : MeetingRecorder → MeetingRecorder) (m : MeetingRecorder) :
    Report → MeetingRecorder
  | .stateChanged stopped =>
    if m.recorder && stopped && !m.recording then m.finalize reading none else m
  | .errorOccurred format =>
    if !m.recorder then m
    else if m.recording && !m.retriedWithMjpeg && format then retry m
    else m.halt.finalize reading none

/-- Reports from inside a call that leaves no second try. -/
def onReports (reading : Reading) (m : MeetingRecorder) (reports : List Report) : MeetingRecorder :=
  reports.foldl (onReport reading id) m

/-- The second try up to `record()`. -/
def again (m : MeetingRecorder) (outputPath : ByteString) (fps : ℤ) : MeetingRecorder :=
  { m with
    retriedWithMjpeg := true
    outputPath
    recordings := m.recordings.modifyHead fun r => { r with path := outputPath } }.setupPipeline fps

/-- The second try, with what `record()` reports. -/
def retry (reading : Reading) (recordingsDir : ByteString) (fps : ℤ) (reports : List Report)
    (m : MeetingRecorder) : MeetingRecorder :=
  let outputPath :=
    match m.startedAt with
    | some startedAt => makeOutputPath recordingsDir m.roomNo startedAt
    | none => []
  (m.again outputPath fps).onReports reading reports

/-! ## The slots -/

/-- What `start` reads, and what `record()` reports. -/
structure Start where
  roomNo : Int32
  startedAt : DateTime
  startedMs : ℤ
  recordingsDir : ByteString
  fps : ℤ
  reports : List Report
  reading : Reading
deriving DecidableEq, Repr

/-- `start` up to `record()`. The pipeline is there: `new` gives no null pointer. -/
def begin (m : MeetingRecorder) (x : Start) : MeetingRecorder :=
  let outputPath := makeOutputPath x.recordingsDir x.roomNo x.startedAt
  { m with
    roomNo := x.roomNo
    startedAt := some x.startedAt
    startedMs := x.startedMs
    lastPushMs := 0
    pushedFrames := 0
    retriedWithMjpeg := false
    finalized := false
    outputPath
    recordings :=
      { number := m.recordings.length + 1, path := outputPath, finished := [] } ::
        m.recordings }.setupPipeline x.fps

/-- `MeetingRecorder::start`. -/
def start (m : MeetingRecorder) (x : Start) : MeetingRecorder :=
  if m.recording then m
  else { (m.begin x).onReports x.reading x.reports with recording := true }

/-- What `push_frame` is given, and whether the `QVideoFrame` can be mapped. -/
structure Frame where
  now : ℤ
  /-- `data_y`, `data_u` and `data_v` are there -/
  planes : Bool
  width : ℤ
  height : ℤ
  mapped : Bool
deriving DecidableEq, Repr

/-- `MeetingRecorder::push_frame`. -/
def pushFrame (m : MeetingRecorder) (frame : Frame) : MeetingRecorder :=
  if !m.recording || !m.frameInput || !frame.planes then m
  else if frame.now - m.lastPushMs < m.minFrameIntervalMs then m
  else if frame.width / 2 * 2 < 16 || frame.height / 2 * 2 < 16 then m
  else if !frame.mapped then m
  else { m with lastPushMs := frame.now, pushedFrames := m.pushedFrames + 1 }

/-- `MeetingRecorder::stop`, with what the recorder reports from inside its own
`stop()`. -/
def stop (m : MeetingRecorder) (reading : Reading) (reports : List Report) : MeetingRecorder :=
  if !m.recording then m
  else
    let stopped :=
      if m.recorder then m.halt.onReports reading reports else m.halt.finalize reading none
    { stopped with timers := m.recordings.length :: stopped.timers }

/-! ## The runs of the recorder -/

/-- What can happen. -/
inductive Event where
  | start (x : Start)
  | stop (reading : Reading) (reports : List Report)
  | pushFrame (frame : Frame)
  /-- a signal of `_recorder`; the rest is for the second try -/
  | report (report : Report) (reading : Reading) (recordingsDir : ByteString) (fps : ℤ)
      (reports : List Report)
  /-- the timer of a recording runs out -/
  | timer (recording : ℕ) (reading : Reading)
deriving DecidableEq

/-- What an event does, where it can happen. -/
def next (m : MeetingRecorder) : Event → Option MeetingRecorder
  | .start x => some (m.start x)
  | .stop reading reports => some (m.stop reading reports)
  | .pushFrame frame => some (m.pushFrame frame)
  | .report report reading recordingsDir fps reports =>
    if m.recorder then
      some (m.onReport reading (retry reading recordingsDir fps reports) report)
    else none
  | .timer recording reading =>
    if recording ∈ m.timers then
      some ({ m with timers := m.timers.erase recording }.finalize reading (some recording))
    else none

/-- The runs of the recorder. -/
def system : System MeetingRecorder Event where
  Init m := m = fresh
  Step m e m' := m.next e = some m'

end MeetingRecorder

/-! ## The property and its condition -/

/-- The recording was finished once, under its own path. -/
def Recording.Closed (r : Recording) : Prop := r.finished.map (·.path) = [r.path]

namespace MeetingRecorder

/-- The life cycle of the recordings. -/
structure Orderly (m : MeetingRecorder) : Prop where
  pipeline : m.recording = true → m.recorder = true ∧ m.frameInput = true
  /-- the recordings before the last one are finished -/
  past : ∀ r ∈ m.recordings.tail, r.Closed
  /-- the last one is not, while it goes on -/
  ongoing : m.recording = true → ∀ r, m.recordings.head? = some r → r.finished = []
  /-- afterwards it is, or its own timer is still to run out -/
  ended : m.recording = false →
    ∀ r, m.recordings.head? = some r → r.Closed ∨ r.finished = [] ∧ r.number ∈ m.timers
  /-- a timer ends the recording that has armed it -/
  punctual : ∀ r ∈ m.recordings, ∀ f ∈ r.finished, ∀ j, f.timer = some j → j = r.number

/-- The reports at which a recorder that does not record is finalized. -/
def Report.ends : Report → Bool
  | .stateChanged stopped => stopped
  | .errorOccurred _ => true

/-- A recording begins when the last one is finalized, and `record()` reports
neither an error nor a stop from inside; a timer that runs out is that of the last
recording, or finds it finalized. -/
def keeps (m : MeetingRecorder) : Event → Bool
  | .start x => m.recording || m.finalized && x.reports.all fun report => !report.ends
  | .timer recording _ => m.finalized || recording = m.recordings.length
  | _ => true

/-! ## What holds in any run -/

/-- How the fields go with the recordings. -/
structure Sound (m : MeetingRecorder) : Prop where
  frameInput : m.frameInput = m.recorder
  released : m.finalized = true → m.recorder = false
  none : m.recordings = [] → m.finalized = true ∧ m.recording = false
  /-- the fields are those of the last recording -/
  last : ∀ r, m.recordings.head? = some r → r.number = m.recordings.length ∧
    r.path = m.outputPath ∧ r.finished.map (·.path) = if m.finalized then [r.path] else []
  timers : ∀ j ∈ m.timers, j ≤ m.recordings.length
  armed : m.recording = true → m.recordings.length ∉ m.timers

section

variable {m : MeetingRecorder} {c : Reading} {t : Option ℕ} {reports : List Report}

theorem finalize_of_finalized (h : m.finalized = true) : m.finalize c t = m := if_pos h

theorem finalize_finalized : (m.finalize c t).finalized = true := by
  unfold finalize
  split_ifs with h
  · exact h
  · rfl

@[simp] theorem finalize_recording : (m.finalize c t).recording = m.recording := by
  unfold finalize
  split_ifs <;> rfl

@[simp] theorem finalize_outputPath : (m.finalize c t).outputPath = m.outputPath := by
  unfold finalize
  split_ifs <;> rfl

@[simp] theorem finalize_timers : (m.finalize c t).timers = m.timers := by
  unfold finalize
  split_ifs <;> rfl

@[simp] theorem finalize_tail : (m.finalize c t).recordings.tail = m.recordings.tail := by
  unfold finalize
  split_ifs
  · rfl
  · cases m.recordings <;> rfl

@[simp] theorem finalize_length :
    (m.finalize c t).recordings.length = m.recordings.length := by
  unfold finalize
  split_ifs
  · rfl
  · exact List.length_modifyHead

/-- A recording that has not been finalized has one to finalize. -/
theorem Sound.exists_last (h : m.Sound) (hopen : m.finalized = false) :
    ∃ r rs, m.recordings = r :: rs := by
  cases hrecordings : m.recordings with
  | nil => exact absurd ((h.none hrecordings).1.symm.trans hopen) Bool.noConfusion
  | cons r rs => exact ⟨r, rs, rfl⟩

theorem Sound.finalize (h : m.Sound) : (m.finalize c t).Sound := by
  cases hfinal : m.finalized with
  | true =>
    rw [finalize_of_finalized hfinal]
    exact h
  | false =>
    rcases h.exists_last hfinal with ⟨r, rs, hrecordings⟩
    rcases h.last r (by rw [hrecordings]; rfl) with ⟨hnumber, hpath, hfinished⟩
    refine ⟨?_, ?_, ?_, ?_, ?_, ?_⟩
    · simp [MeetingRecorder.finalize, hfinal, releasePipeline]
    · simp [MeetingRecorder.finalize, hfinal, releasePipeline]
    · intro hnil
      have hlength := congrArg List.length hnil
      rw [finalize_length, hrecordings] at hlength
      exact absurd hlength (Nat.succ_ne_zero _)
    · intro r' hr'
      rw [finalize_length, finalize_finalized, if_pos rfl]
      simp only [MeetingRecorder.finalize, hfinal, releasePipeline, hrecordings] at hr'
      cases hr'
      refine ⟨hnumber, ?_, ?_⟩
      · rw [finalize_outputPath]
        exact hpath
      · rw [hfinal] at hfinished
        simp [hfinished, hpath, finished]
    · simpa using h.timers
    · simpa using h.armed

/-- What finalizes the last recording leaves all in order. -/
theorem orderly_finalize (h : m.Sound) (hstopped : m.recording = false)
    (hpast : ∀ r ∈ m.recordings.tail, r.Closed)
    (hpunctual : ∀ r ∈ m.recordings, ∀ f ∈ r.finished, ∀ j, f.timer = some j → j = r.number)
    (htimer : m.finalized = true ∨ ∀ j, t = some j → j = m.recordings.length) :
    (m.finalize c t).Orderly := by
  refine ⟨?_, ?_, ?_, ?_, ?_⟩
  · intro hrec
    rw [finalize_recording, hstopped] at hrec
    cases hrec
  · rw [finalize_tail]
    exact hpast
  · intro hrec
    rw [finalize_recording, hstopped] at hrec
    cases hrec
  · intro _ r hr
    left
    have hlast := ((h.finalize (c := c) (t := t)).last r hr).2.2
    rw [finalize_finalized] at hlast
    exact hlast
  · cases hfinal : m.finalized with
    | true =>
      rw [finalize_of_finalized hfinal]
      exact hpunctual
    | false =>
      rcases h.exists_last hfinal with ⟨r, rs, hrecordings⟩
      have hnumber := (h.last r (by rw [hrecordings]; rfl)).1
      intro r' hr' f hf j hj
      simp only [finalize, hfinal, releasePipeline, hrecordings] at hr'
      rcases List.mem_cons.mp hr' with rfl | hmem
      · rcases List.mem_append.mp hf with hf | hf
        · exact hpunctual r (by rw [hrecordings]; exact List.mem_cons_self ..) f hf j hj
        · cases List.mem_singleton.mp hf
          rw [hfinal] at htimer
          exact (htimer.resolve_left Bool.false_ne_true j hj).trans hnumber.symm
      · exact hpunctual r' (by rw [hrecordings]; exact List.mem_cons_of_mem _ hmem) f hf j hj

theorem halt_of_stopped (h : m.recording = false) : m.halt = m := by
  unfold halt
  rw [← h]

theorem Sound.halt (h : m.Sound) : m.halt.Sound :=
  ⟨h.frameInput, h.released, fun hnil => ⟨(h.none hnil).1, rfl⟩, h.last, h.timers, nofun⟩

/-! ## What the reports do -/

theorem onReports_of_released (h : m.recorder = false) : m.onReports c reports = m := by
  unfold onReports
  induction reports with
  | nil => rfl
  | cons report reports ih =>
    have hreport : m.onReport c id report = m := by
      cases report <;> simp [onReport, h]
    rw [List.foldl_cons, hreport]
    exact ih

/-- Where no second try is left, a report that ends the recording finalizes it. -/
theorem onReport_cases (h : m.recording = false ∨ m.retriedWithMjpeg = true) (report : Report) :
    m.onReport c id report = m ∨ m.recorder = true ∧ report.ends = true ∧
      m.onReport c id report = m.halt.finalize c none := by
  cases hrecorder : m.recorder with
  | false =>
    left
    cases report <;> simp [onReport, hrecorder]
  | true =>
    cases report with
    | stateChanged stopped =>
      cases hrec : m.recording with
      | true =>
        left
        simp [onReport, hrec]
      | false =>
        cases stopped with
        | false =>
          left
          simp [onReport]
        | true =>
          right
          refine ⟨rfl, rfl, ?_⟩
          simp [onReport, hrecorder, hrec, halt_of_stopped hrec]
    | errorOccurred format =>
      right
      refine ⟨rfl, rfl, ?_⟩
      rcases h with hrec | hretried
      · simp [onReport, hrecorder, hrec]
      · simp [onReport, hrecorder, hretried]

/-- Reports from inside a call leave the recorder alone, or finalize it. -/
theorem onReports_cases (h : m.recording = false ∨ m.retriedWithMjpeg = true) (hs : m.Sound)
    (reports : List Report) :
    m.onReports c reports = m ∨ m.recorder = true ∧ (∃ r ∈ reports, r.ends = true) ∧
      m.onReports c reports = m.halt.finalize c none := by
  induction reports with
  | nil => exact Or.inl rfl
  | cons report reports ih =>
    have hcons : m.onReports c (report :: reports) =
        (m.onReport c id report).onReports c reports := rfl
    rw [hcons]
    rcases onReport_cases h report with hsame | ⟨hrecorder, hends, hfinal⟩
    · rw [hsame]
      refine ih.imp_right ?_
      rintro ⟨hrecorder, ⟨r, hmem, hends⟩, heq⟩
      exact ⟨hrecorder, ⟨r, List.mem_cons_of_mem _ hmem, hends⟩, heq⟩
    · right
      refine ⟨hrecorder, ⟨report, List.mem_cons_self .., hends⟩, ?_⟩
      -- the recorder is disconnected by now
      rw [hfinal]
      apply onReports_of_released
      exact hs.halt.finalize.released finalize_finalized

/-- Of a recorder that is open and does not record, a report that ends it is
enough. -/
theorem onReports_of_ends (hs : m.Sound) (hrec : m.recording = false)
    (hrecorder : m.recorder = true)
    (hends : ∃ r ∈ reports, r.ends = true) :
    m.onReports c reports = m.finalize c none := by
  induction reports with
  | nil =>
    rcases hends with ⟨r, hmem, _⟩
    cases hmem
  | cons report reports ih =>
    have hcons : m.onReports c (report :: reports) =
        (m.onReport c id report).onReports c reports := rfl
    rw [hcons]
    cases hreport : report.ends with
    | true =>
      have hfinal : m.onReport c id report = m.finalize c none := by
        cases report with
        | stateChanged stopped =>
          cases hreport
          simp [onReport, hrecorder, hrec]
        | errorOccurred format => simp [onReport, hrecorder, hrec, halt_of_stopped hrec]
      rw [hfinal]
      exact onReports_of_released (hs.finalize.released finalize_finalized)
    | false =>
      have hsame : m.onReport c id report = m := by
        cases report with
        | stateChanged stopped =>
          cases hreport
          simp [onReport]
        | errorOccurred format => cases hreport
      rw [hsame]
      refine ih ?_
      rcases hends with ⟨r, hmem, hr⟩
      rcases List.mem_cons.mp hmem with rfl | hmem
      · exact absurd (hreport.symm.trans hr) Bool.false_ne_true
      · exact ⟨r, hmem, hr⟩

/-! ## What a step preserves -/

theorem Sound.onReports (h : m.Sound) (hlast : m.recording = false ∨ m.retriedWithMjpeg = true)
    (reports : List Report) :
    (m.onReports c reports).Sound := by
  rcases onReports_cases hlast h reports with hsame | ⟨_, _, hfinal⟩
  · rw [hsame]
    exact h
  · rw [hfinal]
    exact h.halt.finalize

theorem begin_sound (h : m.Sound) (hrec : m.recording = false) (x : Start) : (m.begin x).Sound := by
  refine ⟨rfl, nofun, nofun, ?_, ?_, ?_⟩
  · rintro r ⟨⟩
    exact ⟨rfl, rfl, rfl⟩
  · intro j hj
    exact Nat.le_succ_of_le (h.timers j hj)
  · intro hrec'
    exact absurd (hrec.symm.trans hrec') Bool.false_ne_true

/-- The state in which the second try calls `record()`. -/
theorem Sound.again (h : m.Sound) (hrecorder : m.recorder = true) (path : ByteString) (fps : ℤ) :
    (m.again path fps).Sound := by
  have hopen : m.finalized = false := by
    cases hfinal : m.finalized with
    | false => rfl
    | true => exact absurd ((h.released hfinal).symm.trans hrecorder) Bool.false_ne_true
  rcases h.exists_last hopen with ⟨r, rs, hrecordings⟩
  rcases h.last r (by rw [hrecordings]; rfl) with ⟨hnumber, _, hfinished⟩
  have hlength : (m.recordings.modifyHead fun r => { r with path }).length = m.recordings.length :=
    List.length_modifyHead
  refine ⟨rfl, ?_, ?_, ?_, ?_, ?_⟩
  · intro hfinal
    exact absurd (hopen.symm.trans hfinal) Bool.false_ne_true
  · intro hnil
    have := congrArg List.length hnil
    simp [MeetingRecorder.again, setupPipeline, releasePipeline, hrecordings] at this
  · intro r' hr'
    simp only [MeetingRecorder.again, setupPipeline, releasePipeline, hrecordings,
      List.modifyHead_cons, List.head?_cons, Option.some.injEq] at hr'
    subst hr'
    refine ⟨?_, rfl, ?_⟩
    · show r.number = (m.recordings.modifyHead fun r => { r with path }).length
      rw [hlength]
      exact hnumber
    · show r.finished.map (·.path) = if m.finalized then [path] else []
      rw [hfinished, hopen]
      rfl
  · intro j hj
    show j ≤ (m.recordings.modifyHead fun r => { r with path }).length
    rw [hlength]
    exact h.timers j hj
  · intro hrec
    show (m.recordings.modifyHead fun r => { r with path }).length ∉ m.timers
    rw [hlength]
    exact h.armed hrec

theorem Sound.open_of_recorder (h : m.Sound) (hrecorder : m.recorder = true) :
    m.finalized = false := by
  cases hfinal : m.finalized with
  | false => rfl
  | true => exact absurd ((h.released hfinal).symm.trans hrecorder) Bool.false_ne_true

theorem onReports_timers (hlast : m.recording = false ∨ m.retriedWithMjpeg = true) (h : m.Sound)
    (reports : List Report) :
    (m.onReports c reports).timers = m.timers := by
  rcases onReports_cases hlast h reports with hsame | ⟨_, _, hfinal⟩
  · rw [hsame]
  · rw [hfinal]
    exact finalize_timers

theorem onReports_length (hlast : m.recording = false ∨ m.retriedWithMjpeg = true) (h : m.Sound)
    (reports : List Report) :
    (m.onReports c reports).recordings.length = m.recordings.length := by
  rcases onReports_cases hlast h reports with hsame | ⟨_, _, hfinal⟩
  · rw [hsame]
  · rw [hfinal]
    exact finalize_length

theorem onReports_tail (hlast : m.recording = false ∨ m.retriedWithMjpeg = true) (h : m.Sound)
    (reports : List Report) :
    (m.onReports c reports).recordings.tail = m.recordings.tail := by
  rcases onReports_cases hlast h reports with hsame | ⟨_, _, hfinal⟩
  · rw [hsame]
  · rw [hfinal]
    exact finalize_tail

theorem Sound.start (h : m.Sound) (x : Start) : (m.start x).Sound := by
  unfold MeetingRecorder.start
  by_cases hrec : m.recording = true
  · rw [if_pos hrec]
    exact h
  · rw [if_neg hrec]
    have hstopped : m.recording = false := Bool.eq_false_iff.mpr hrec
    have hbegin : (m.begin x).Sound := begin_sound h hstopped x
    have hlast : (m.begin x).recording = false ∨ (m.begin x).retriedWithMjpeg = true :=
      Or.inl hstopped
    have hreports := hbegin.onReports (c := x.reading) hlast x.reports
    have hlength := onReports_length (c := x.reading) hlast hbegin x.reports
    have htimers := onReports_timers (c := x.reading) hlast hbegin x.reports
    refine ⟨hreports.frameInput, hreports.released, ?_, hreports.last, hreports.timers, ?_⟩
    · intro hnil
      rw [hnil] at hlength
      exact absurd hlength (Nat.succ_ne_zero _).symm
    · intro _ hmem
      -- the timers are those of recordings before this one
      rw [hlength, htimers] at hmem
      exact absurd (h.timers _ hmem) (Nat.not_succ_le_self _)

theorem Sound.stop (h : m.Sound) (reading : Reading) (reports : List Report) :
    (m.stop reading reports).Sound := by
  unfold MeetingRecorder.stop
  by_cases hrec : m.recording = true
  · have harm : ∀ s : MeetingRecorder, s.Sound → s.recording = false →
        s.recordings.length = m.recordings.length →
          { s with timers := m.recordings.length :: s.timers }.Sound := by
      intro s hs hstopped hlength
      refine ⟨hs.frameInput, hs.released, hs.none, hs.last, ?_, ?_⟩
      · intro j hj
        rcases List.mem_cons.mp hj with rfl | hj
        · exact hlength.ge
        · exact hs.timers j hj
      · intro hrec'
        exact absurd (hstopped.symm.trans hrec') Bool.false_ne_true
    have hhalt : m.halt.recording = false ∨ m.halt.retriedWithMjpeg = true := Or.inl rfl
    simp only [hrec, Bool.not_true, Bool.false_eq_true, if_false]
    apply harm
    · split_ifs
      · exact h.halt.onReports hhalt reports
      · exact h.halt.finalize
    · split_ifs
      · rcases onReports_cases (c := reading) hhalt h.halt reports with
          hsame | ⟨_, _, hfinal⟩
        · rw [hsame]
          rfl
        · rw [hfinal, finalize_recording]
          rfl
      · exact finalize_recording
    · split_ifs
      · exact onReports_length hhalt h.halt reports
      · exact finalize_length
  · rw [Bool.eq_false_iff.mpr hrec]
    exact h

theorem pushFrame_cases (m : MeetingRecorder) (frame : Frame) :
    m.pushFrame frame = m ∨
      m.pushFrame frame =
        { m with lastPushMs := frame.now, pushedFrames := m.pushedFrames + 1 } := by
  unfold pushFrame
  split_ifs
  · exact Or.inl rfl
  · exact Or.inl rfl
  · exact Or.inl rfl
  · exact Or.inl rfl
  · exact Or.inr rfl

/-- What a signal of the recorder can do. -/
theorem onReport_retry_cases (hrecorder : m.recorder = true) (report : Report)
    (recordingsDir : ByteString) (fps : ℤ) (reports : List Report) :
    m.onReport c (retry c recordingsDir fps reports) report = m ∨
      m.onReport c (retry c recordingsDir fps reports) report = m.halt.finalize c none ∨
      m.recording = true ∧ ∃ path,
        m.onReport c (retry c recordingsDir fps reports) report =
          (m.again path fps).onReports c reports := by
  cases report with
  | stateChanged stopped =>
    simp only [onReport, hrecorder, Bool.true_and, Bool.and_eq_true, Bool.not_eq_true']
    split_ifs with hstop
    · right
      left
      rw [halt_of_stopped hstop.2]
    · exact Or.inl rfl
  | errorOccurred format =>
    simp only [onReport, hrecorder, Bool.not_true, Bool.false_eq_true, if_false]
    split_ifs with hretry
    · simp only [Bool.and_eq_true] at hretry
      exact Or.inr (Or.inr ⟨hretry.1.1, _, rfl⟩)
    · exact Or.inr (Or.inl rfl)

/-- The fields go with the recordings after any step. -/
theorem Sound.step {e : Event} {m' : MeetingRecorder} (h : m.Sound) (hstep : system.Step m e m') :
    m'.Sound := by
  change m.next e = some m' at hstep
  cases e with
  | start x =>
    cases hstep
    exact h.start x
  | stop reading reports =>
    cases hstep
    exact h.stop reading reports
  | pushFrame frame =>
    cases hstep
    rcases pushFrame_cases m frame with hsame | hpushed
    · rw [hsame]
      exact h
    · rw [hpushed]
      exact ⟨h.frameInput, h.released, h.none, h.last, h.timers, h.armed⟩
  | report report reading recordingsDir fps reports =>
    simp only [next] at hstep
    split_ifs at hstep with hrecorder
    cases hstep
    rcases onReport_retry_cases (c := reading) hrecorder report recordingsDir fps reports with
      hsame | hfinal | ⟨_, path, hagain⟩
    · rw [hsame]
      exact h
    · rw [hfinal]
      exact h.halt.finalize
    · rw [hagain]
      exact (h.again hrecorder path fps).onReports (Or.inr rfl) reports
  | timer recording reading =>
    simp only [next] at hstep
    split_ifs at hstep with hmem
    cases hstep
    apply Sound.finalize
    refine ⟨h.frameInput, h.released, h.none, h.last, ?_, ?_⟩
    · intro j hj
      exact h.timers j (List.mem_of_mem_erase hj)
    · intro hrec hmem'
      exact h.armed hrec (List.mem_of_mem_erase hmem')

/-! ## What a step does to the order -/

/-- The last recording is finished as often as the fields say. -/
theorem Sound.closed (h : m.Sound) (hfinal : m.finalized = true) (r : Recording)
    (hr : m.recordings.head? = some r) : r.Closed := by
  have hfinished := (h.last r hr).2.2
  rw [hfinal] at hfinished
  exact hfinished

/-- With the last recording all are closed. -/
theorem Orderly.closed_of_head (ho : m.Orderly)
    (hlast : ∀ r, m.recordings.head? = some r → r.Closed) : ∀ r ∈ m.recordings, r.Closed := by
  intro r hr
  cases hrecordings : m.recordings with
  | nil =>
    rw [hrecordings] at hr
    cases hr
  | cons r' rs =>
    rw [hrecordings] at hr
    rcases List.mem_cons.mp hr with rfl | hr
    · exact hlast r (by rw [hrecordings]; rfl)
    · exact ho.past r (by rw [hrecordings]; exact hr)

/-- A recording begins in order exactly where the last one is finalized and
`record()` reports nothing that ends it. -/
theorem orderly_start (hs : m.Sound) (ho : m.Orderly) (x : Start) :
    (m.start x).Orderly ↔ m.keeps (.start x) = true := by
  unfold start
  simp only [keeps, Bool.or_eq_true, Bool.and_eq_true]
  by_cases hrec : m.recording = true
  · rw [if_pos hrec]
    exact iff_of_true ho (Or.inl hrec)
  have hstopped : m.recording = false := Bool.eq_false_iff.mpr hrec
  have hbegin : (m.begin x).Sound := begin_sound hs hstopped x
  have hlast : (m.begin x).recording = false ∨ (m.begin x).retriedWithMjpeg = true :=
    Or.inl hstopped
  rw [if_neg hrec]
  constructor
  · intro horder
    refine Or.inr ⟨?_, ?_⟩
    · -- an open recording would be left unfinished for good
      by_contra hopen
      have hopen : m.finalized = false := Bool.eq_false_iff.mpr hopen
      rcases hs.exists_last hopen with ⟨r, rs, hrecordings⟩
      have hmem : r ∈ ((m.begin x).onReports x.reading x.reports).recordings.tail := by
        rw [onReports_tail hlast hbegin x.reports]
        show r ∈ m.recordings
        rw [hrecordings]
        exact List.mem_cons_self ..
      have hfinished := (hs.last r (by rw [hrecordings]; rfl)).2.2
      rw [hopen] at hfinished
      have hclosed := horder.past r hmem
      rw [Recording.Closed, hfinished] at hclosed
      exact absurd hclosed.symm (List.cons_ne_nil _ _)
    · -- an end reported from inside `record()` releases the pipeline
      by_contra hends
      rw [List.all_eq_true] at hends
      push Not at hends
      rcases hends with ⟨report, hmem, hreport⟩
      have hreport : report.ends = true := by simpa using hreport
      have hrecorder := (horder.pipeline rfl).1
      have hfinal :
      (m.begin x).onReports x.reading x.reports = (m.begin x).finalize x.reading none :=
        onReports_of_ends hbegin hstopped rfl ⟨report, hmem, hreport⟩
      change ((m.begin x).onReports x.reading x.reports).recorder = true at hrecorder
      rw [hfinal, hbegin.finalize.released finalize_finalized] at hrecorder
      cases hrecorder
  · intro hkeep
    rcases hkeep.resolve_left hrec with ⟨hfinal, hquiet⟩
    have hsame : (m.begin x).onReports x.reading x.reports = m.begin x := by
      rcases onReports_cases (c := x.reading) hlast hbegin x.reports with
        hsame | ⟨_, ⟨report, hmem, hends⟩, _⟩
      · exact hsame
      · have hno := List.all_eq_true.mp hquiet report hmem
        rw [hends] at hno
        cases hno
    rw [hsame]
    refine ⟨fun _ => ⟨rfl, rfl⟩, ?_, ?_, nofun, ?_⟩
    · exact ho.closed_of_head fun r hr => hs.closed hfinal r hr
    · rintro _ r ⟨⟩
      rfl
    · intro r hr f hf
      rcases List.mem_cons.mp hr with rfl | hr
      · cases hf
      · exact ho.punctual r hr f hf

theorem Orderly.arm (ho : m.Orderly) (j : ℕ) : { m with timers := j :: m.timers }.Orderly := by
  refine ⟨ho.pipeline, ho.past, ho.ongoing, ?_, ho.punctual⟩
  intro hstopped r hr
  refine (ho.ended hstopped r hr).imp_right ?_
  rintro ⟨hnone, hmem⟩
  exact ⟨hnone, List.mem_cons_of_mem _ hmem⟩

theorem orderly_stop (hs : m.Sound) (ho : m.Orderly) (reading : Reading) (reports : List Report) :
    (m.stop reading reports).Orderly := by
  unfold stop
  cases hrec : m.recording with
  | false => exact ho
  | true =>
    simp only [(ho.pipeline hrec).1, Bool.not_true, Bool.false_eq_true, if_false, if_true]
    rcases onReports_cases (c := reading) (Or.inl rfl) hs.halt reports with
      hsame | ⟨_, _, hfinal⟩
    · -- nothing has been reported, and the timer is armed
      rw [hsame]
      refine ⟨nofun, ho.past, nofun, ?_, ho.punctual⟩
      intro _ r hr
      refine Or.inr ⟨ho.ongoing hrec r hr, ?_⟩
      rw [(hs.last r hr).1]
      exact List.mem_cons_self ..
    · rw [hfinal, halt_of_stopped rfl]
      exact (orderly_finalize hs.halt rfl ho.past ho.punctual (Or.inr (by rintro _ ⟨⟩))).arm _

theorem orderly_report (hs : m.Sound) (ho : m.Orderly) (hrecorder : m.recorder = true)
    (report : Report) (recordingsDir : ByteString) (fps : ℤ) (reports : List Report) :
    (m.onReport c (retry c recordingsDir fps reports) report).Orderly := by
  rcases onReport_retry_cases (c := c) hrecorder report recordingsDir fps reports with
    hsame | hfinal | ⟨hrec, path, hagain⟩
  · rw [hsame]
    exact ho
  · rw [hfinal]
    exact orderly_finalize hs.halt rfl ho.past ho.punctual (Or.inr (by rintro _ ⟨⟩))
  · -- the second try goes on with the recording, under another path
    have hopen := hs.open_of_recorder hrecorder
    rcases hs.exists_last hopen with ⟨r, rs, hrecordings⟩
    have hnone := ho.ongoing hrec r (by rw [hrecordings]; rfl)
    have hlist : (m.again path fps).recordings = { r with path } :: rs := by
      show m.recordings.modifyHead _ = _
      rw [hrecordings]
      rfl
    have hpast : ∀ r ∈ (m.again path fps).recordings.tail, r.Closed := by
      rw [hlist]
      intro r' hr'
      exact ho.past r' (by rw [hrecordings]; exact hr')
    have hpunctual : ∀ r ∈ (m.again path fps).recordings, ∀ f ∈ r.finished, ∀ j,
        f.timer = some j → j = r.number := by
      rw [hlist]
      intro r' hr' f hf
      rcases List.mem_cons.mp hr' with rfl | hr'
      · rw [hnone] at hf
        cases hf
      · exact ho.punctual r' (by rw [hrecordings]; exact List.mem_cons_of_mem _ hr') f hf
    have hagainSound := hs.again hrecorder path fps
    rw [hagain]
    rcases onReports_cases (c := c) (Or.inr rfl) hagainSound reports with
      hsame | ⟨_, _, hfinal⟩
    · rw [hsame]
      refine ⟨fun _ => ⟨rfl, rfl⟩, hpast, ?_, ?_, hpunctual⟩
      · rw [hlist]
        rintro _ r' ⟨⟩
        exact hnone
      · intro hstopped
        exact absurd (hrec.symm.trans hstopped) Bool.noConfusion
    · rw [hfinal]
      exact orderly_finalize hagainSound.halt rfl hpast hpunctual (Or.inr (by rintro _ ⟨⟩))

/-- A timer leaves all in order exactly where it is that of the last recording, or
finds it finalized. -/
theorem orderly_timer (hs : m.Sound) (ho : m.Orderly) {j : ℕ} (hmem : j ∈ m.timers) :
    ({ m with timers := m.timers.erase j }.finalize c (some j)).Orderly ↔
      m.keeps (.timer j c) = true := by
  have herased : { m with timers := m.timers.erase j }.Sound := by
    refine ⟨hs.frameInput, hs.released, hs.none, hs.last, ?_, ?_⟩
    · intro i hi
      exact hs.timers i (List.mem_of_mem_erase hi)
    · intro hrec hi
      exact hs.armed hrec (List.mem_of_mem_erase hi)
  simp only [keeps, Bool.or_eq_true, decide_eq_true_eq]
  constructor
  · intro horder
    by_contra hother
    rw [not_or] at hother
    have hopen : m.finalized = false := Bool.eq_false_iff.mpr hother.1
    rcases hs.exists_last hopen with ⟨r, rs, hrecordings⟩
    have hnumber := (hs.last r (by rw [hrecordings]; rfl)).1
    have hlist : ({ m with timers := m.timers.erase j }.finalize c (some j)).recordings =
        { r with finished := r.finished ++ [m.finished c (some j)] } :: rs := by
      unfold finalize
      rw [hopen]
      show m.recordings.modifyHead _ = _
      rw [hrecordings]
      rfl
    have hpunctual := horder.punctual
    rw [hlist] at hpunctual
    have hlate := hpunctual _ (List.mem_cons_self ..) (m.finished c (some j))
      (List.mem_append_right _ (List.mem_singleton_self _)) j rfl
    exact hother.2 (hlate.trans hnumber)
  · intro hkeep
    have hstopped : m.recording = false := by
      rcases hkeep with hfinal | rfl
      · cases hrec : m.recording with
        | false => rfl
        | true =>
          exact absurd ((hs.released hfinal).symm.trans (ho.pipeline hrec).1) Bool.false_ne_true
      · cases hrec : m.recording with
        | false => rfl
        | true => exact absurd hmem (hs.armed hrec)
    refine orderly_finalize herased hstopped ho.past ho.punctual (hkeep.imp_right ?_)
    rintro hj i ⟨⟩
    exact hj

end

variable {m m' : MeetingRecorder} {e : Event}

/-- The life cycle goes on exactly where the step meets the condition. -/
theorem orderly_step (hs : m.Sound) (ho : m.Orderly) (hstep : system.Step m e m') :
    m'.Orderly ↔ m.keeps e = true := by
  change m.next e = some m' at hstep
  cases e with
  | start x =>
    cases hstep
    exact orderly_start hs ho x
  | stop reading reports =>
    cases hstep
    exact iff_of_true (orderly_stop hs ho reading reports) rfl
  | pushFrame frame =>
    cases hstep
    refine iff_of_true ?_ rfl
    rcases pushFrame_cases m frame with hsame | hpushed
    · rw [hsame]
      exact ho
    · rw [hpushed]
      exact ⟨ho.pipeline, ho.past, ho.ongoing, ho.ended, ho.punctual⟩
  | report report reading recordingsDir fps reports =>
    simp only [next] at hstep
    split_ifs at hstep with hrecorder
    cases hstep
    exact iff_of_true (orderly_report hs ho hrecorder report recordingsDir fps reports) rfl
  | timer recording reading =>
    simp only [next] at hstep
    split_ifs at hstep with hmem
    cases hstep
    exact orderly_timer hs ho hmem

theorem sound_fresh : fresh.Sound :=
  ⟨rfl, fun _ => rfl, fun _ => ⟨rfl, rfl⟩, nofun, nofun, nofun⟩

theorem orderly_fresh : fresh.Orderly := ⟨nofun, nofun, nofun, nofun, nofun⟩

/-- With nothing going on and no timer left, every recording was finished once. -/
theorem Orderly.closed (ho : m.Orderly) (hstopped : m.recording = false) (htimers : m.timers = []) :
    ∀ r ∈ m.recordings, r.Closed := by
  refine ho.closed_of_head ?_
  intro r hr
  rcases ho.ended hstopped r hr with hclosed | ⟨_, hmem⟩
  · exact hclosed
  · rw [htimers] at hmem
    cases hmem

end MeetingRecorder

open MeetingRecorder

/-- While every step meets the condition, the recordings go through their life
cycle in every state, and these are all the runs in which they do. Once nothing is
recorded and no timer is left, each was finished exactly once, under its own path. -/
theorem recorder_lifecycle (m : MeetingRecorder) :
    (Reachable (MeetingRecorder.system.restrict fun m e => m.keeps e = true) m →
        m.Orderly ∧ (m.recording = false → m.timers = [] → ∀ r ∈ m.recordings, r.Closed)) ∧
      ∀ es, Run (MeetingRecorder.system.within Orderly) .fresh es m ↔
        Run (MeetingRecorder.system.restrict fun m e => m.keeps e = true) .fresh es m := by
  have hinv : ∀ m e m', Sound m → MeetingRecorder.system.Step m e m' → Sound m' :=
    fun m e m' hs hstep => hs.step hstep
  constructor
  · intro hreach
    have horder : m.Orderly := by
      refine hreach.within_of_restrict hinv ?_ ?_
      · intro m e m' hs ho hstep hkeep
        exact (orderly_step hs ho hstep).mpr hkeep
      · rintro m rfl
        exact ⟨sound_fresh, orderly_fresh⟩
    exact ⟨horder, horder.closed⟩
  · intro es
    exact run_within_iff_of_invariant hinv (fun _ _ _ => orderly_step) sound_fresh orderly_fresh

namespace MeetingRecorder

/-- A file of a kilobyte, two seconds after the start. -/
def reading : Reading where
  now := 1714554002000
  size := some 1024

/-- Room 123456 is recorded. -/
def starts (second : Fin 60) : Event :=
  .start
    { roomNo := 123456
      startedAt := .mayDay 0 second 0
      startedMs := 1714554000000
      recordingsDir := ascii "/home/ann/Videos/CCMeeting"
      fps := 15
      reports := []
      reading }

theorem reachable_of_guarded {C : MeetingRecorder → Event → Prop} [∀ m e, Decidable (C m e)]
    {es : List Event} {m : MeetingRecorder} (hrun : replay (guarded C next) fresh es = some m) :
    Reachable (system.restrict C) m :=
  (Run.of_replay (fun _ _ _ => guarded_step fun _ _ _ => id) hrun).reachable (.init rfl)

end MeetingRecorder

/-- A recording on the second try, ended by its timer, and one that stops at once. -/
theorem recorder_lifecycle_of_retry :
    ∃ m : MeetingRecorder, m.recordings.length = 2 ∧ ∀ r ∈ m.recordings, r.Closed := by
  have hrun : (replay (guarded (fun m e => m.keeps e = true) MeetingRecorder.next) .fresh
      [starts 0, .report (.errorOccurred true) reading (ascii "/tmp") 15 [], .stop reading [],
        .timer 1 reading, starts 30, .stop reading [.stateChanged true], .timer 2 reading]).any
      (fun m => m.recordings.length = 2 ∧ m.recording = false ∧ m.timers = []) = true := by
    decide +kernel
  rcases (Option.any_eq_true _ _).mp hrun with ⟨m, hrun, htest⟩
  rcases of_decide_eq_true htest with ⟨hlength, hstopped, htimers⟩
  have hreach := MeetingRecorder.reachable_of_guarded hrun
  exact ⟨m, hlength, ((recorder_lifecycle m).1 hreach).2 hstopped htimers⟩

/-- A recording begins before the timer of the last one has run out. -/
theorem recording_ended_by_earlier_timer :
    ¬∀ m, Reachable MeetingRecorder.system m → m.Orderly := by
  intro hall
  have hrun : (replay (guarded (fun _ _ => True) MeetingRecorder.next) .fresh
      [starts 0, .stop reading [], starts 1, .timer 1 reading]).any
      (fun m => m.recording = true ∧ m.recorder = false) = true := by
    decide +kernel
  rcases (Option.any_eq_true _ _).mp hrun with ⟨m, hrun, htest⟩
  rcases of_decide_eq_true htest with ⟨hrecording, hreleased⟩
  have horder := hall m (MeetingRecorder.reachable_of_guarded hrun).of_restrict
  rw [(horder.pipeline hrecording).1] at hreleased
  cases hreleased

end CCMeeting
