import Mathlib.Data.List.Count
import Mathlib.Tactic.SplitIfs
import CCMeeting.Lib.Coalescer
import CCMeeting.Client.RtcObserver

/-! # Frames are coalesced and not lost

Both streams of the observer are coalescing producers: every step of the process
is a step of each of them, or leaves it alone.
-/

namespace CCMeeting

open Transition

namespace RtcProcess

variable {φ : Type} {valid : φ → Bool} {p p' : RtcProcess φ} {e : Event φ}

/-! ## The two streams -/

/-- The stream of `on_video_frame` and `emit_preview`. -/
def previewStream (valid : φ → Bool) (p : RtcProcess φ) : Coalescer.State where
  pending := ∃ shot, p.observer.pendingPreview = some shot ∧ valid shot.frame = true
  scheduled := p.observer.previewScheduled
  stored := p.previewStored
  flagged := p.previewFlagged
  queued := p.queue.count .emitPreview

/-- The stream of `on_remote_video_frame` and `emit_remote`. -/
def remoteStream (valid : φ → Bool) (p : RtcProcess φ) : Coalescer.State where
  pending := ∃ userId shot, p.observer.pendingRemote userId = some shot ∧ valid shot.frame = true
  scheduled := p.observer.remoteScheduled
  stored := p.remoteStored
  flagged := p.remoteFlagged
  queued := p.queue.count .emitRemote

/-- A step leaves the stream alone, or is one of a coalescing producer. -/
theorem previewStream_step (hstep : (system valid).Step p e p') :
    p'.previewStream valid = p.previewStream valid ∨
      Coalescer.Step (p.previewStream valid) (p'.previewStream valid) := by
  cases Step.of_next hstep with
  | videoStored => exact Or.inr (.store _)
  | previewFound hstored hflag => exact Or.inr (.found hstored hflag)
  | previewRaised hstored hflag => exact Or.inr (.raise hstored hflag)
  | previewPosted hflagged =>
    right
    have hpost := Coalescer.Step.post (s := p.previewStream valid) hflagged
    simpa [previewStream, List.count_append] using hpost
  | performed task queue hqueue =>
    cases task with
    | emitPreview =>
      right
      have hconsume := Coalescer.Step.consume (s := p.previewStream valid)
        (∃ shot, (none : Option (Shot φ)) = some shot ∧ valid shot.frame = true)
        (by rintro ⟨_, ⟨⟩, _⟩) (by simp [previewStream, hqueue])
      simpa [previewStream, perform, RtcObserver.emitPreview, hqueue] using hconsume
    | emitRemote =>
      left
      simp [previewStream, perform, RtcObserver.emitRemote, hqueue]
    | remoteUserLeft userId =>
      left
      simp [previewStream, perform, hqueue]
  | previewReset | previewCleared => exact Or.inr (.clear _ (by rintro ⟨_, ⟨⟩, _⟩))
  | joined feedId display =>
    left
    cases display with
    | none => rfl
    | some userId =>
      simp only [previewStream, RtcObserver.onRemoteUserJoined]
      split_ifs <;> rfl
  | left feedId =>
    left
    simp only [previewStream, RtcObserver.onRemoteUserLeft]
    cases p.observer.feedToUser feedId <;> rfl
  | remotePosted | leftPosted =>
    left
    simp [previewStream, List.count_append]
  | _ => exact Or.inl rfl

theorem remoteStream_step (hstep : (system valid).Step p e p') :
    p'.remoteStream valid = p.remoteStream valid ∨
      Coalescer.Step (p.remoteStream valid) (p'.remoteStream valid) := by
  cases Step.of_next hstep with
  | remoteStored => exact Or.inr (.store _)
  | remoteFound hstored hflag => exact Or.inr (.found hstored hflag)
  | remoteRaised hstored hflag => exact Or.inr (.raise hstored hflag)
  | remotePosted hflagged =>
    right
    have hpost := Coalescer.Step.post (s := p.remoteStream valid) hflagged
    simpa [remoteStream, List.count_append] using hpost
  | performed task queue hqueue =>
    cases task with
    | emitPreview =>
      left
      simp [remoteStream, perform, RtcObserver.emitPreview, hqueue]
    | emitRemote =>
      right
      have hconsume := Coalescer.Step.consume (s := p.remoteStream valid)
        (∃ userId shot, (fun _ => none : Int64 → Option (Shot φ)) userId = some shot ∧
          valid shot.frame = true)
        (by rintro ⟨_, _, ⟨⟩, _⟩) (by simp [remoteStream, hqueue])
      simpa [remoteStream, perform, RtcObserver.emitRemote, hqueue] using hconsume
    | remoteUserLeft userId =>
      left
      simp [remoteStream, perform, hqueue]
  | remoteReset => exact Or.inr (.clear _ (by rintro ⟨_, _, ⟨⟩, _⟩))
  | joined feedId display =>
    left
    cases display with
    | none => rfl
    | some userId =>
      simp only [remoteStream, RtcObserver.onRemoteUserJoined]
      split_ifs <;> rfl
  | left feedId =>
    -- the frame of the user is lost, whatever feed it came from
    right
    simp only [remoteStream, RtcObserver.onRemoteUserLeft]
    cases p.observer.feedToUser feedId with
    | none => exact .drop _ id
    | some userId =>
      refine .drop _ ?_
      rintro ⟨other, shot, hshot, hvalid⟩
      by_cases hother : other = userId
      · rw [hother] at hshot
        cases (Function.update_self ..).symm.trans hshot
      · exact ⟨other, shot, (Function.update_of_ne hother ..).symm.trans hshot, hvalid⟩
  | previewPosted | leftPosted =>
    left
    simp [remoteStream, List.count_append]
  | _ => exact Or.inl rfl

/-! ## What is pending is the newest frame -/

/-- What is pending was stored last since the last emission, and since the last
reset. -/
structure Newest (p : RtcProcess φ) : Prop where
  preview : ∀ shot, p.observer.pendingPreview = some shot →
    p.previewStores.getLast? = some shot ∧ shot.resets = p.previewResets
  remote : ∀ userId shot, p.observer.pendingRemote userId = some shot →
    (p.remoteStores.filter (·.1 = userId)).getLast? = some (userId, shot) ∧
      shot.resets = p.remoteResets

theorem Newest.step (h : p.Newest) (hstep : (system valid).Step p e p') : p'.Newest := by
  cases Step.of_next hstep with
  | videoStored =>
    refine ⟨?_, h.remote⟩
    rintro shot ⟨⟩
    exact ⟨List.getLast?_concat, rfl⟩
  | remoteStored user =>
    refine ⟨h.preview, ?_⟩
    intro userId shot hshot
    dsimp only at hshot ⊢
    rw [List.filter_append]
    by_cases huser : userId = user
    · subst huser
      rw [Function.update_self] at hshot
      cases hshot
      rw [List.filter_cons_of_pos (by simp)]
      exact ⟨List.getLast?_concat, rfl⟩
    · rw [Function.update_of_ne huser] at hshot
      rw [List.filter_cons_of_neg (by simpa using Ne.symm huser), List.filter_nil,
        List.append_nil]
      exact h.remote userId shot hshot
  | joined feedId display =>
    cases display with
    | none => exact ⟨h.preview, h.remote⟩
    | some userId =>
      simp only [RtcObserver.onRemoteUserJoined]
      split_ifs <;> exact ⟨h.preview, h.remote⟩
  | left feedId =>
    rcases p.observer.onRemoteUserLeft_cases feedId with hleft | ⟨user, hleft⟩ <;> rw [hleft]
    · exact ⟨h.preview, h.remote⟩
    · refine ⟨h.preview, ?_⟩
      intro other shot hshot
      by_cases hother : other = user
      · rw [hother] at hshot
        cases (Function.update_self ..).symm.trans hshot
      · exact h.remote other shot ((Function.update_of_ne hother ..).symm.trans hshot)
  | performed task queue hqueue =>
    cases task with
    | emitPreview => exact ⟨nofun, h.remote⟩
    | emitRemote => exact ⟨h.preview, nofun⟩
    | remoteUserLeft userId => exact ⟨h.preview, h.remote⟩
  | previewReset | previewCleared => exact ⟨nofun, h.remote⟩
  | remoteReset => exact ⟨h.preview, nofun⟩
  | _ => exact ⟨h.preview, h.remote⟩

/-! ## What is pending is what has to be delivered -/

/-- What of the remote frames an emission has to deliver for a user. -/
def remoteDue (p : RtcProcess φ) (userId : Int64) : Option (Shot φ) :=
  ((p.remoteKept.filter (·.1 = userId)).getLast?).map (·.2)

/-- The newest of the frames that have not been discarded are pending, and none of
them is one that an emission would leave out. -/
structure Kept (valid : φ → Bool) (p : RtcProcess φ) : Prop where
  preview : p.observer.pendingPreview = p.previewKept.getLast?
  previewValid : ∀ shot ∈ p.previewKept, valid shot.frame = true
  remote : ∀ userId, p.observer.pendingRemote userId = p.remoteDue userId
  remoteValid : ∀ entry ∈ p.remoteKept, entry.1 ≠ 0 ∧ valid entry.2.frame = true

theorem remoteDue_concat {user : Int64} {shot : Shot φ}
    (hkept : p'.remoteKept = p.remoteKept ++ [(user, shot)]) (userId : Int64) :
    p'.remoteDue userId = if userId = user then some shot else p.remoteDue userId := by
  unfold remoteDue
  rw [hkept, List.filter_append]
  split_ifs with huser
  · rw [List.filter_cons_of_pos (by simpa using huser.symm), List.filter_nil, List.getLast?_concat]
    rfl
  · rw [List.filter_cons_of_neg (by simpa using Ne.symm huser), List.filter_nil, List.append_nil]

theorem remoteDue_filter {user : Int64}
    (hkept : p'.remoteKept = p.remoteKept.filter (·.1 ≠ user)) (userId : Int64) :
    p'.remoteDue userId = if userId = user then none else p.remoteDue userId := by
  unfold remoteDue
  rw [hkept, List.filter_filter]
  split_ifs with huser
  · rw [List.filter_eq_nil_iff.mpr]
    · rfl
    · intro entry _ hboth
      simp [huser] at hboth
  · congr 3
    funext entry
    by_cases hentry : entry.1 = userId
    · simp [hentry, huser]
    · simp [hentry]

/-- No frame of user 0 is kept, whose name is that of an unknown feed. -/
theorem Kept.remote_zero (h : p.Kept valid) : p.observer.pendingRemote 0 = none := by
  rw [h.remote]
  unfold remoteDue
  rw [List.filter_eq_nil_iff.mpr]
  · rfl
  · intro entry hentry
    simpa using (h.remoteValid entry hentry).1

theorem Kept.step (h : p.Kept valid) (hstep : (system valid).Step p e p') : p'.Kept valid := by
  cases Step.of_next hstep with
  | videoStored hvalid =>
    refine ⟨List.getLast?_concat.symm, ?_, h.remote, h.remoteValid⟩
    intro shot hshot
    rcases List.mem_append.mp hshot with hshot | hshot
    · exact h.previewValid shot hshot
    · rw [List.mem_singleton.mp hshot]
      exact hvalid
  | remoteStored user hvalid huser _ =>
    refine ⟨h.preview, h.previewValid, ?_, ?_⟩
    · intro userId
      rw [remoteDue_concat rfl, ← h.remote]
      split_ifs with heq
      · rw [heq]
        exact Function.update_self ..
      · exact Function.update_of_ne heq ..
    · intro entry hentry
      rcases List.mem_append.mp hentry with hentry | hentry
      · exact h.remoteValid entry hentry
      · rw [List.mem_singleton.mp hentry]
        exact ⟨huser, hvalid⟩
  | joined feedId display =>
    cases display with
    | none => exact ⟨h.preview, h.previewValid, h.remote, h.remoteValid⟩
    | some userId =>
      simp only [RtcObserver.onRemoteUserJoined]
      split_ifs <;> exact ⟨h.preview, h.previewValid, h.remote, h.remoteValid⟩
  | left feedId =>
    rcases p.observer.onRemoteUserLeft_cases feedId with hleft | ⟨user, hleft⟩ <;> rw [hleft] <;>
      refine ⟨h.preview, h.previewValid, ?_, fun entry hentry =>
        h.remoteValid entry (List.mem_filter.mp hentry).1⟩ <;>
      intro userId <;> rw [remoteDue_filter rfl, ← h.remote]
    · split_ifs with hzero
      · rw [hzero]
        exact h.remote_zero
      · rfl
    · split_ifs with huser
      · rw [huser]
        exact Function.update_self ..
      · exact Function.update_of_ne huser ..
  | performed task queue hqueue =>
    cases task with
    | emitPreview => exact ⟨rfl, nofun, h.remote, h.remoteValid⟩
    | emitRemote => exact ⟨h.preview, h.previewValid, fun _ => rfl, nofun⟩
    | remoteUserLeft userId => exact ⟨h.preview, h.previewValid, h.remote, h.remoteValid⟩
  | previewReset | previewCleared => exact ⟨rfl, nofun, h.remote, h.remoteValid⟩
  | remoteReset => exact ⟨h.preview, h.previewValid, fun _ => rfl, nofun⟩
  | _ => exact ⟨h.preview, h.previewValid, h.remote, h.remoteValid⟩

theorem filter_shotValid {shot : Option (Shot φ)} (h : ∀ s ∈ shot, valid s.frame = true) :
    shot.filter (shotValid valid) = shot := by
  cases shot with
  | none => rfl
  | some s => exact Option.filter_some_pos (h s rfl)

/-- An emission of the preview leaves nothing out. -/
theorem Kept.emitPreview (h : p.Kept valid) :
    (p.observer.emitPreview (shotValid valid)).2 = p.previewKept.getLast? := by
  show p.observer.pendingPreview.filter _ = _
  rw [h.preview]
  refine filter_shotValid ?_
  intro shot hshot
  exact h.previewValid shot (List.mem_of_getLast? hshot)

/-- An emission of the remote frames leaves no user out. -/
theorem Kept.emitRemote (h : p.Kept valid) (userId : Int64) :
    (p.observer.emitRemote (shotValid valid)).2 userId = p.remoteDue userId := by
  simp only [RtcObserver.emitRemote]
  rw [← h.remote]
  split_ifs with hzero
  · rw [hzero]
    exact h.remote_zero.symm
  · refine filter_shotValid ?_
    intro shot hshot
    rw [h.remote] at hshot
    rcases Option.map_eq_some_iff.mp hshot with ⟨entry, hentry, rfl⟩
    exact (h.remoteValid entry (List.mem_filter.mp (List.mem_of_getLast? hentry)).1).2

/-- The streams are awake, and what is pending is the newest and all that is due. -/
structure Coalesced (valid : φ → Bool) (p : RtcProcess φ) : Prop where
  preview : Coalescer.Awake (p.previewStream valid)
  remote : Coalescer.Awake (p.remoteStream valid)
  newest : p.Newest
  kept : p.Kept valid

theorem coalesced_of_reachable (h : Reachable (system valid) p) : p.Coalesced valid := by
  refine h.invariant ?_ ?_
  · rintro p rfl
    exact ⟨⟨by rintro ⟨_, ⟨⟩, _⟩, nofun⟩, ⟨by rintro ⟨_, _, ⟨⟩, _⟩, nofun⟩, ⟨nofun, nofun⟩,
      ⟨rfl, nofun, fun _ => rfl, nofun⟩⟩
  · intro p e p' _ hp hstep
    refine ⟨?_, ?_, hp.newest.step hstep, hp.kept.step hstep⟩
    · rcases previewStream_step hstep with hsame | hstream
      · rw [hsame]
        exact hp.preview
      · exact hp.preview.step hstream
    · rcases remoteStream_step hstep with hsame | hstream
      · rw [hsame]
        exact hp.remote
      · exact hp.remote.step hstream

end RtcProcess

open RtcProcess

/-- While no callback is between storing a frame and posting, a valid frame that is
pending has its emission in the queue. An emission delivers, for every user, the
newest frame that nothing has discarded, and that one was stored last since the last
emission, and after the last reset. -/
theorem frame_coalescing {φ : Type} (valid : φ → Bool) :
    ∀ p, Reachable (RtcProcess.system valid) p →
      ((p.previewStored = 0 → p.previewFlagged = 0 → ∀ shot,
          p.observer.pendingPreview = some shot → valid shot.frame = true →
            RtcTask.emitPreview ∈ p.queue) ∧
        (p.remoteStored = 0 → p.remoteFlagged = 0 → ∀ userId shot,
          p.observer.pendingRemote userId = some shot → valid shot.frame = true →
            RtcTask.emitRemote ∈ p.queue)) ∧
      ((p.observer.emitPreview (shotValid valid)).2 = p.previewKept.getLast? ∧
        ∀ userId, (p.observer.emitRemote (shotValid valid)).2 userId = p.remoteDue userId) ∧
      (∀ shot, (p.observer.emitPreview (shotValid valid)).2 = some shot →
        p.previewStores.getLast? = some shot ∧ shot.resets = p.previewResets) ∧
      ∀ userId shot, (p.observer.emitRemote (shotValid valid)).2 userId = some shot →
        (p.remoteStores.filter (·.1 = userId)).getLast? = some (userId, shot) ∧
          shot.resets = p.remoteResets := by
  intro p hreach
  have hp := coalesced_of_reachable hreach
  refine ⟨⟨?_, ?_⟩, ⟨hp.kept.emitPreview, hp.kept.emitRemote⟩, ?_, ?_⟩
  · intro hstored hflagged shot hshot hvalid
    exact List.count_pos_iff.mp (hp.preview.queued hstored hflagged ⟨shot, hshot, hvalid⟩)
  · intro hstored hflagged userId shot hshot hvalid
    exact List.count_pos_iff.mp (hp.remote.queued hstored hflagged ⟨userId, shot, hshot, hvalid⟩)
  · intro shot hshot
    exact hp.newest.preview shot (Option.filter_eq_some_iff.mp hshot).1
  · intro userId shot hshot
    simp only [RtcObserver.emitRemote] at hshot
    split_ifs at hshot
    exact hp.newest.remote userId shot (Option.filter_eq_some_iff.mp hshot).1

/-- Of two frames of one feed the second one is delivered, by the task of the first. -/
theorem frame_coalescing_of_two :
    ∃ p : RtcProcess ℕ, p.queue = [.emitRemote] ∧ RtcTask.emitRemote ∈ p.queue ∧
      (p.observer.emitRemote (shotValid fun frame => decide (0 < frame))).2 7 =
        some ⟨6, 1, 0⟩ ∧
      (p.remoteStores.filter (·.1 = 7)).getLast? = some (7, ⟨6, 1, 0⟩) := by
  have hrun : (replay (RtcProcess.next fun frame : ℕ => 0 < frame) .fresh
      [.remoteUserJoined 1 (some 7), .remoteVideoFrame 1 5, .scheduleRemote, .postRemote,
        .remoteVideoFrame 1 6, .remoteVideoFrame 1 0, .scheduleRemote]).any
      (fun p => p.queue = [.emitRemote] ∧ p.remoteStored = 0 ∧ p.remoteFlagged = 0 ∧
        p.observer.pendingRemote 7 = some ⟨6, 1, 0⟩ ∧
        p.remoteDue 7 = some ⟨6, 1, 0⟩) = true := by
    decide +kernel
  rcases (Option.any_eq_true _ _).mp hrun with ⟨p, hrun, htest⟩
  rcases of_decide_eq_true htest with ⟨hqueue, hstored, hflagged, hshot, hdue⟩
  have hreach : Reachable (RtcProcess.system fun frame : ℕ => 0 < frame) p :=
    (Run.of_replay (fun _ _ _ => id) hrun).reachable (.init rfl)
  rcases frame_coalescing (fun frame : ℕ => decide (0 < frame)) p hreach with
    ⟨⟨_, hqueued⟩, ⟨_, hdelivered⟩, _, hnewest⟩
  have hemitted := (hdelivered 7).trans hdue
  exact ⟨p, hqueue, hqueued hstored hflagged 7 ⟨6, 1, 0⟩ hshot rfl, hemitted,
    (hnewest 7 ⟨6, 1, 0⟩ hemitted).1⟩

end CCMeeting
