import Mathlib.Data.Nat.Notation
import Mathlib.Logic.Function.Basic
import Mathlib.Tactic.SplitIfs
import CCMeeting.Lib.Transition

/-! # The observer of the media engine

`MeetingRtcObserver` takes the callbacks of the media threads to the UI thread. A
callback is a section under a mutex, or two of them, and then a task posted to the
UI thread; between those steps any other thread may run. What the threads that are
under way still have to do is counted here, so there may be any number of them.

The engine is not part of the repository. Its frames are of any type with a test
for the valid ones; a frame made without arguments is `none`, and is not valid.
-/

namespace CCMeeting

open Transition

/-! ## The sections -/

/-- `MeetingRtcObserver`, the fields under its two mutexes. -/
structure RtcObserver (φ : Type) where
  pendingPreview : Option φ
  previewScheduled : Bool
  previewSizeLogged : Bool
  pendingRemote : Int64 → Option φ
  remoteScheduled : Bool
  feedToUser : UInt64 → Option Int64

namespace RtcObserver

variable {φ : Type}

/-- An observer just made. -/
def fresh : RtcObserver φ where
  pendingPreview := none
  previewScheduled := false
  previewSizeLogged := false
  pendingRemote _ := none
  remoteScheduled := false
  feedToUser _ := none

/-- `reset`, under `_previewMutex`. -/
def resetPreview (o : RtcObserver φ) : RtcObserver φ :=
  { o with pendingPreview := none, previewScheduled := false, previewSizeLogged := false }

/-- `reset`, under `_remoteMutex`. -/
def resetRemote (o : RtcObserver φ) : RtcObserver φ :=
  { o with pendingRemote := fun _ => none, remoteScheduled := false, feedToUser := fun _ => none }

/-- `clear_preview`. -/
def clearPreview (o : RtcObserver φ) : RtcObserver φ :=
  { o with pendingPreview := none, previewScheduled := false }

/-- `on_video_frame`, of a valid frame, before `schedule_preview_emit`. -/
def onVideoFrame (o : RtcObserver φ) (frame : φ) : RtcObserver φ :=
  { o with previewSizeLogged := true, pendingPreview := some frame }

/-- `schedule_preview_emit`, and whether it goes on to post `emit_preview`. -/
def schedulePreviewEmit (o : RtcObserver φ) : RtcObserver φ × Bool :=
  if o.previewScheduled then (o, false) else ({ o with previewScheduled := true }, true)

/-- `emit_preview`, and the frame of `preview_frame_ready`. -/
def emitPreview (valid : φ → Bool) (o : RtcObserver φ) : RtcObserver φ × Option φ :=
  ({ o with pendingPreview := none, previewScheduled := false }, o.pendingPreview.filter valid)

/-- `on_remote_video_frame`, of a valid frame, before `schedule_remote_emit`; none
where it returns for want of a user. -/
def onRemoteVideoFrame (o : RtcObserver φ) (feedId : UInt64) (frame : φ) :
    Option (Int64 × RtcObserver φ) :=
  let userId := (o.feedToUser feedId).getD 0
  if userId = 0 then none
  else
    some (userId, { o with pendingRemote := Function.update o.pendingRemote userId (some frame) })

/-- `schedule_remote_emit`, and whether it goes on to post `emit_remote`. -/
def scheduleRemoteEmit (o : RtcObserver φ) : RtcObserver φ × Bool :=
  if o.remoteScheduled then (o, false) else ({ o with remoteScheduled := true }, true)

/-- `emit_remote`, and the frames of `remote_frame_ready`. -/
def emitRemote (valid : φ → Bool) (o : RtcObserver φ) : RtcObserver φ × (Int64 → Option φ) :=
  ({ o with pendingRemote := fun _ => none, remoteScheduled := false },
    fun userId => if userId = 0 then none else (o.pendingRemote userId).filter valid)

/-- `on_remote_user_joined`, with what `toULongLong` makes of the display name. -/
def onRemoteUserJoined (o : RtcObserver φ) (feedId : UInt64) (display : Option UInt64) :
    RtcObserver φ :=
  match display with
  | some userId =>
    if userId = 0 then o
    else { o with feedToUser := Function.update o.feedToUser feedId (some userId.toInt64) }
  | none => o

/-- `on_remote_user_left`, with the user of the notice it goes on to post. -/
def onRemoteUserLeft (o : RtcObserver φ) (feedId : UInt64) : RtcObserver φ × Int64 :=
  match o.feedToUser feedId with
  | some userId =>
    ({ o with
        feedToUser := Function.update o.feedToUser feedId none
        pendingRemote := Function.update o.pendingRemote userId none }, userId)
  | none => (o, 0)

/-- Either the feed is not known, or it is forgotten with what is pending of its user. -/
theorem onRemoteUserLeft_cases (o : RtcObserver φ) (feedId : UInt64) :
    o.onRemoteUserLeft feedId = (o, 0) ∨
      ∃ userId, o.onRemoteUserLeft feedId =
        ({ o with
            feedToUser := Function.update o.feedToUser feedId none
            pendingRemote := Function.update o.pendingRemote userId none }, userId) := by
  unfold onRemoteUserLeft
  cases o.feedToUser feedId with
  | none => exact Or.inl rfl
  | some userId => exact Or.inr ⟨userId, rfl⟩

end RtcObserver

/-! ## The threads -/

/-- A frame, with history variables. -/
structure Shot (φ : Type) where
  frame : φ
  /-- the feed it came from; 0 for the preview -/
  feedId : UInt64
  /-- how often its stream had been reset when it was stored -/
  resets : ℕ
deriving DecidableEq, Repr

/-- A task in the queue of the UI thread. -/
inductive RtcTask where
  | emitPreview
  | emitRemote
  | remoteUserLeft (userId : Int64)
deriving DecidableEq, Repr

/-- The observer, the callbacks under way and the UI thread. -/
structure RtcProcess (φ : Type) where
  observer : RtcObserver (Shot φ)
  /-- calls of `on_video_frame` that have stored a frame and not scheduled yet -/
  previewStored : ℕ
  /-- those that have set `_previewScheduled` and not posted yet -/
  previewFlagged : ℕ
  /-- the same of `on_remote_video_frame` -/
  remoteStored : ℕ
  remoteFlagged : ℕ
  /-- the notices calls of `on_remote_user_left` have still to post -/
  leaving : List Int64
  /-- the queue of the UI thread -/
  queue : List RtcTask
  /-- the UI thread is between the two sections of `reset` -/
  resetting : Bool
  /-- history variables: the frames stored since the last emission of their
  stream, the last one at the end -/
  previewStores : List (Shot φ)
  remoteStores : List (Int64 × Shot φ)
  /-- history variables: those of them that nothing has discarded since: neither a
  reset, nor `clear_preview`, nor the leaving of their user -/
  previewKept : List (Shot φ)
  remoteKept : List (Int64 × Shot φ)
  /-- history variables: how often each stream has been reset -/
  previewResets : ℕ
  remoteResets : ℕ

namespace RtcProcess

variable {φ : Type}

/-- The process just started. -/
def fresh : RtcProcess φ where
  observer := .fresh
  previewStored := 0
  previewFlagged := 0
  remoteStored := 0
  remoteFlagged := 0
  leaving := []
  queue := []
  resetting := false
  previewStores := []
  remoteStores := []
  previewKept := []
  remoteKept := []
  previewResets := 0
  remoteResets := 0

/-- The test of a frame, with its history. -/
def shotValid (valid : φ → Bool) (shot : Shot φ) : Bool := valid shot.frame

/-- What can happen. -/
inductive Event (φ : Type) where
  /-- media threads -/
  | videoFrame (frame : φ)
  | schedulePreview
  | postPreview
  | remoteVideoFrame (feedId : UInt64) (frame : φ)
  | scheduleRemote
  | postRemote
  | remoteUserJoined (feedId : UInt64) (display : Option UInt64)
  | remoteUserLeft (feedId : UInt64)
  | postLeft (userId : Int64)
  /-- the UI thread runs a task -/
  | ui
  /-- the UI thread calls `reset`, and goes on with it -/
  | reset
  | resetRemote
  /-- the UI thread calls `clear_preview` -/
  | clearPreview
deriving DecidableEq

/-- A task runs. -/
def perform (valid : φ → Bool) (p : RtcProcess φ) : RtcTask → RtcProcess φ
  | .emitPreview =>
    { p with
      observer := (p.observer.emitPreview (shotValid valid)).1
      previewStores := []
      previewKept := [] }
  | .emitRemote =>
    { p with
      observer := (p.observer.emitRemote (shotValid valid)).1
      remoteStores := []
      remoteKept := [] }
  | .remoteUserLeft _ => p

/-- What an event does, where it can happen. -/
def next (valid : φ → Bool) (p : RtcProcess φ) : Event φ → Option (RtcProcess φ)
  | .videoFrame frame =>
    if valid frame then
      let shot : Shot φ := { frame, feedId := 0, resets := p.previewResets }
      some { p with
        observer := p.observer.onVideoFrame shot
        previewStored := p.previewStored + 1
        previewStores := p.previewStores ++ [shot]
        previewKept := p.previewKept ++ [shot] }
    else some p
  | .schedulePreview =>
    if p.previewStored = 0 then none
    else
      let (observer, posts) := p.observer.schedulePreviewEmit
      some { p with
        observer
        previewStored := p.previewStored - 1
        previewFlagged := p.previewFlagged + posts.toNat }
  | .postPreview =>
    if p.previewFlagged = 0 then none
    else
      some { p with
        previewFlagged := p.previewFlagged - 1
        queue := p.queue ++ [.emitPreview] }
  | .remoteVideoFrame feedId frame =>
    if valid frame then
      let shot : Shot φ := { frame, feedId, resets := p.remoteResets }
      match p.observer.onRemoteVideoFrame feedId shot with
      | some (userId, observer) =>
        some { p with
          observer
          remoteStored := p.remoteStored + 1
          remoteStores := p.remoteStores ++ [(userId, shot)]
          remoteKept := p.remoteKept ++ [(userId, shot)] }
      | none => some p
    else some p
  | .scheduleRemote =>
    if p.remoteStored = 0 then none
    else
      let (observer, posts) := p.observer.scheduleRemoteEmit
      some { p with
        observer
        remoteStored := p.remoteStored - 1
        remoteFlagged := p.remoteFlagged + posts.toNat }
  | .postRemote =>
    if p.remoteFlagged = 0 then none
    else
      some { p with
        remoteFlagged := p.remoteFlagged - 1
        queue := p.queue ++ [.emitRemote] }
  | .remoteUserJoined feedId display =>
    some { p with observer := p.observer.onRemoteUserJoined feedId display }
  | .remoteUserLeft feedId =>
    let (observer, userId) := p.observer.onRemoteUserLeft feedId
    some { p with
      observer
      leaving := userId :: p.leaving
      remoteKept := p.remoteKept.filter (·.1 ≠ userId) }
  | .postLeft userId =>
    if userId ∈ p.leaving then
      some { p with
        leaving := p.leaving.erase userId
        queue := p.queue ++ [.remoteUserLeft userId] }
    else none
  | .ui =>
    if p.resetting then none
    else
      match p.queue with
      | task :: queue => some ({ p with queue }.perform valid task)
      | [] => none
  | .reset =>
    if p.resetting then none
    else
      some { p with
        observer := p.observer.resetPreview
        resetting := true
        previewKept := []
        previewResets := p.previewResets + 1 }
  | .resetRemote =>
    if p.resetting then
      some { p with
        observer := p.observer.resetRemote
        resetting := false
        remoteKept := []
        remoteResets := p.remoteResets + 1 }
    else none
  | .clearPreview =>
    if p.resetting then none
    else some { p with observer := p.observer.clearPreview, previewKept := [] }

/-- The runs of the observer. -/
def system (valid : φ → Bool) : System (RtcProcess φ) (Event φ) where
  Init p := p = fresh
  Step p e p' := p.next valid e = some p'

/-- What a step can be. -/
inductive Step (valid : φ → Bool) (p : RtcProcess φ) : Event φ → RtcProcess φ → Prop where
  | videoIgnored {frame : φ} : Step valid p (.videoFrame frame) p
  | videoStored {frame : φ} : valid frame = true → Step valid p (.videoFrame frame)
      { p with
        observer := p.observer.onVideoFrame ⟨frame, 0, p.previewResets⟩
        previewStored := p.previewStored + 1
        previewStores := p.previewStores ++ [⟨frame, 0, p.previewResets⟩]
        previewKept := p.previewKept ++ [⟨frame, 0, p.previewResets⟩] }
  | previewFound : 0 < p.previewStored → p.observer.previewScheduled = true →
      Step valid p .schedulePreview { p with previewStored := p.previewStored - 1 }
  | previewRaised : 0 < p.previewStored → p.observer.previewScheduled = false →
      Step valid p .schedulePreview
        { p with
          observer := { p.observer with previewScheduled := true }
          previewStored := p.previewStored - 1
          previewFlagged := p.previewFlagged + 1 }
  | previewPosted : 0 < p.previewFlagged → Step valid p .postPreview
      { p with previewFlagged := p.previewFlagged - 1, queue := p.queue ++ [.emitPreview] }
  | remoteIgnored {feedId : UInt64} {frame : φ} : Step valid p (.remoteVideoFrame feedId frame) p
  | remoteStored {feedId : UInt64} {frame : φ} (userId : Int64) : valid frame = true →
      userId ≠ 0 → (p.observer.feedToUser feedId).getD 0 = userId →
      Step valid p (.remoteVideoFrame feedId frame)
        { p with
          observer :=
            { p.observer with
              pendingRemote := Function.update p.observer.pendingRemote userId
                (some ⟨frame, feedId, p.remoteResets⟩) }
          remoteStored := p.remoteStored + 1
          remoteStores := p.remoteStores ++ [(userId, ⟨frame, feedId, p.remoteResets⟩)]
          remoteKept := p.remoteKept ++ [(userId, ⟨frame, feedId, p.remoteResets⟩)] }
  | remoteFound : 0 < p.remoteStored → p.observer.remoteScheduled = true →
      Step valid p .scheduleRemote { p with remoteStored := p.remoteStored - 1 }
  | remoteRaised : 0 < p.remoteStored → p.observer.remoteScheduled = false →
      Step valid p .scheduleRemote
        { p with
          observer := { p.observer with remoteScheduled := true }
          remoteStored := p.remoteStored - 1
          remoteFlagged := p.remoteFlagged + 1 }
  | remotePosted : 0 < p.remoteFlagged → Step valid p .postRemote
      { p with remoteFlagged := p.remoteFlagged - 1, queue := p.queue ++ [.emitRemote] }
  | joined (feedId : UInt64) (display : Option UInt64) :
      Step valid p (.remoteUserJoined feedId display)
        { p with observer := p.observer.onRemoteUserJoined feedId display }
  | left (feedId : UInt64) : Step valid p (.remoteUserLeft feedId)
      { p with
        observer := (p.observer.onRemoteUserLeft feedId).1
        leaving := (p.observer.onRemoteUserLeft feedId).2 :: p.leaving
        remoteKept := p.remoteKept.filter (·.1 ≠ (p.observer.onRemoteUserLeft feedId).2) }
  | leftPosted {userId : Int64} : userId ∈ p.leaving → Step valid p (.postLeft userId)
      { p with
        leaving := p.leaving.erase userId
        queue := p.queue ++ [.remoteUserLeft userId] }
  | performed (task : RtcTask) (queue : List RtcTask) : p.queue = task :: queue →
      Step valid p .ui ({ p with queue }.perform valid task)
  | previewReset : Step valid p .reset
      { p with
        observer := p.observer.resetPreview
        resetting := true
        previewKept := []
        previewResets := p.previewResets + 1 }
  | remoteReset : Step valid p .resetRemote
      { p with
        observer := p.observer.resetRemote
        resetting := false
        remoteKept := []
        remoteResets := p.remoteResets + 1 }
  | previewCleared : Step valid p .clearPreview
      { p with observer := p.observer.clearPreview, previewKept := [] }

theorem Step.of_next {valid : φ → Bool} {p p' : RtcProcess φ} {e : Event φ}
    (hstep : p.next valid e = some p') : Step valid p e p' := by
  cases e with
  | videoFrame frame =>
    simp only [next] at hstep
    split_ifs at hstep with hvalid
    · cases hstep
      exact .videoStored hvalid
    · cases hstep
      exact .videoIgnored
  | schedulePreview =>
    simp only [next, RtcObserver.schedulePreviewEmit] at hstep
    split_ifs at hstep with hstored hflag
    · cases hstep
      exact .previewFound (Nat.pos_of_ne_zero hstored) hflag
    · cases hstep
      exact .previewRaised (Nat.pos_of_ne_zero hstored) (Bool.eq_false_iff.mpr hflag)
  | postPreview =>
    simp only [next] at hstep
    split_ifs at hstep with hflagged
    cases hstep
    exact .previewPosted (Nat.pos_of_ne_zero hflagged)
  | remoteVideoFrame feedId frame =>
    simp only [next, RtcObserver.onRemoteVideoFrame] at hstep
    split_ifs at hstep with hvalid huser
    · cases hstep
      exact .remoteIgnored
    · cases hstep
      exact .remoteStored _ hvalid huser rfl
    · cases hstep
      exact .remoteIgnored
  | scheduleRemote =>
    simp only [next, RtcObserver.scheduleRemoteEmit] at hstep
    split_ifs at hstep with hstored hflag
    · cases hstep
      exact .remoteFound (Nat.pos_of_ne_zero hstored) hflag
    · cases hstep
      exact .remoteRaised (Nat.pos_of_ne_zero hstored) (Bool.eq_false_iff.mpr hflag)
  | postRemote =>
    simp only [next] at hstep
    split_ifs at hstep with hflagged
    cases hstep
    exact .remotePosted (Nat.pos_of_ne_zero hflagged)
  | remoteUserJoined feedId display =>
    cases hstep
    exact .joined feedId display
  | remoteUserLeft feedId =>
    cases hstep
    exact .left feedId
  | postLeft userId =>
    simp only [next] at hstep
    split_ifs at hstep with hmem
    cases hstep
    exact .leftPosted hmem
  | ui =>
    simp only [next] at hstep
    split_ifs at hstep
    split at hstep
    · rename_i task queue hqueue
      cases hstep
      exact .performed task queue hqueue
    · cases hstep
  | reset =>
    simp only [next] at hstep
    split_ifs at hstep
    cases hstep
    exact .previewReset
  | resetRemote =>
    simp only [next] at hstep
    split_ifs at hstep
    cases hstep
    exact .remoteReset
  | clearPreview =>
    simp only [next] at hstep
    split_ifs at hstep
    cases hstep
    exact .previewCleared

end RtcProcess

end CCMeeting
