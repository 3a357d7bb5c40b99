import CCMeeting.Client.RtcObserver
import Mathlib.Tactic.SplitIfs
import Mathlib.Tactic.Push

/-! # The notices that a remote user has left

The feeds of the observer are mapped to users, and a user may have several of them.
What is pending and what is told to the UI thread go by user. A feed that leaves
takes the frame of its user along and has the user reported as gone, whatever
becomes of the other feeds.
-/

namespace CCMeeting

open Transition

namespace RtcProcess

variable {φ : Type} {valid : φ → Bool} {p p' : RtcProcess φ} {e : Event φ}

/-! ## The property and its condition -/

/-- What the notices and the frames of a step are to be. -/
structure Truthful (p : RtcProcess φ) (e : Event φ) (p' : RtcProcess φ) : Prop where
  /-- `remote_user_left` is emitted of a user with no feed -/
  told : e = .ui → ∀ userId queue, p.queue = .remoteUserLeft userId :: queue → userId ≠ 0 →
    ∀ feedId, p.observer.feedToUser feedId ≠ some userId
  /-- a feed that leaves takes no frame of another feed along -/
  kept : ∀ feedId, e = .remoteUserLeft feedId → ∀ userId shot,
    p.observer.pendingRemote userId = some shot → shot.feedId ≠ feedId →
      p'.observer.pendingRemote userId = some shot

/-- The feed is the only one of its user, and a frame pending for the user is its own. -/
def LeavesLast (p : RtcProcess φ) (feedId : UInt64) : Prop :=
  ∀ userId, p.observer.feedToUser feedId = some userId →
    (∀ other, other ≠ feedId → p.observer.feedToUser other ≠ some userId) ∧
      ∀ shot, p.observer.pendingRemote userId = some shot → shot.feedId = feedId

/-- A notice of the user is still to be emitted. -/
def Announced (p : RtcProcess φ) (userId : Int64) : Prop :=
  userId ∈ p.leaving ∨ RtcTask.remoteUserLeft userId ∈ p.queue

/-- A feed that leaves is the last one of its user, and a feed joins for a user of
whom no notice is still to be emitted. -/
def keeps (p : RtcProcess φ) : Event φ → Prop
  | .remoteUserLeft feedId => p.LeavesLast feedId
  | .remoteUserJoined _ display =>
    ∀ userId, display = some userId → userId ≠ 0 → ¬p.Announced userId.toInt64
  | _ => True

/-! ## What a step does to the map and to the notices -/

/-- A step that is no join and no leave takes nothing into the map and announces
nobody. -/
theorem map_of_step (hstep : (system valid).Step p e p')
    (hjoin : ∀ feedId display, e ≠ .remoteUserJoined feedId display)
    (hleft : ∀ feedId, e ≠ .remoteUserLeft feedId) :
    (∀ feedId userId, p'.observer.feedToUser feedId = some userId →
        p.observer.feedToUser feedId = some userId) ∧
      ∀ userId, p'.Announced userId → p.Announced userId := by
  cases Step.of_next hstep with
  | joined feedId display => exact absurd rfl (hjoin feedId display)
  | left feedId => exact absurd rfl (hleft feedId)
  | previewPosted | remotePosted =>
    refine ⟨fun _ _ => id, ?_⟩
    intro userId hannounced
    simpa [Announced] using hannounced
  | leftPosted hmem =>
    refine ⟨fun _ _ => id, ?_⟩
    rintro userId (hleaving | hqueue)
    · exact Or.inl (List.mem_of_mem_erase hleaving)
    · rcases List.mem_append.mp hqueue with hqueue | hqueue
      · exact Or.inr hqueue
      · cases List.mem_singleton.mp hqueue
        exact Or.inl hmem
  | performed task queue hqueue =>
    have htail : ∀ userId, userId ∈ p.leaving ∨ RtcTask.remoteUserLeft userId ∈ queue →
        p.Announced userId := by
      intro userId hannounced
      refine hannounced.imp_right ?_
      intro hmem
      rw [hqueue]
      exact List.mem_cons_of_mem _ hmem
    cases task <;> exact ⟨fun _ _ => id, htail⟩
  | remoteReset => exact ⟨nofun, fun _ => id⟩
  | _ => exact ⟨fun _ _ => id, fun _ => id⟩

/-- A join maps its own feed. -/
theorem map_of_joined {feedId other : UInt64} {display : Option UInt64} {userId : Int64}
    (h : (p.observer.onRemoteUserJoined feedId display).feedToUser other = some userId) :
    p.observer.feedToUser other = some userId ∨
      ∃ id, display = some id ∧ id ≠ 0 ∧ userId = id.toInt64 := by
  cases display with
  | none => exact Or.inl h
  | some id =>
    simp only [RtcObserver.onRemoteUserJoined] at h
    split_ifs at h with hzero
    · exact Or.inl h
    · by_cases hother : other = feedId
      · rw [hother] at h
        cases (Function.update_self ..).symm.trans h
        exact Or.inr ⟨id, rfl, hzero, rfl⟩
      · exact Or.inl ((Function.update_of_ne hother ..).symm.trans h)

/-- A feed of nobody leaves nothing behind but a notice of 0. -/
theorem onRemoteUserLeft_of_none {o : RtcObserver (Shot φ)} {feedId : UInt64}
    (h : o.feedToUser feedId = none) : o.onRemoteUserLeft feedId = (o, 0) := by
  unfold RtcObserver.onRemoteUserLeft
  rw [h]

theorem onRemoteUserLeft_of_some {o : RtcObserver (Shot φ)} {feedId : UInt64} {userId : Int64}
    (h : o.feedToUser feedId = some userId) : o.onRemoteUserLeft feedId =
      ({ o with
          feedToUser := Function.update o.feedToUser feedId none
          pendingRemote := Function.update o.pendingRemote userId none }, userId) := by
  unfold RtcObserver.onRemoteUserLeft
  rw [h]

/-- A leave takes nothing into the map. -/
theorem map_of_left {o : RtcObserver (Shot φ)} {feedId other : UInt64} {userId : Int64}
    (h : (o.onRemoteUserLeft feedId).1.feedToUser other = some userId) :
    o.feedToUser other = some userId := by
  cases hmap : o.feedToUser feedId with
  | none =>
    rw [onRemoteUserLeft_of_none hmap] at h
    exact h
  | some user =>
    rw [onRemoteUserLeft_of_some hmap] at h
    by_cases hother : other = feedId
    · rw [hother] at h
      cases (Function.update_self ..).symm.trans h
    · exact (Function.update_of_ne hother ..).symm.trans h

/-- No feed is mapped to 0. -/
theorem feedToUser_ne_zero (h : Reachable (system valid) p) :
    ∀ feedId, p.observer.feedToUser feedId ≠ some 0 := by
  refine h.invariant (I := fun p => ∀ feedId, p.observer.feedToUser feedId ≠ some 0) ?_ ?_
  · rintro p rfl feedId ⟨⟩
  · intro p e p' _ hp hstep
    cases e with
    | remoteUserJoined feedId display =>
      cases hstep
      intro other hzero
      rcases map_of_joined hzero with hold | ⟨id, _, hid, heq⟩
      · exact hp other hold
      · exact hid (congrArg Int64.toUInt64 heq.symm)
    | remoteUserLeft feedId =>
      cases hstep
      intro other hzero
      exact hp other (map_of_left hzero)
    | _ =>
      have hmap := (map_of_step hstep (by rintro _ _ ⟨⟩) (by rintro _ ⟨⟩)).1
      intro other hzero
      exact hp other (hmap other 0 hzero)

/-! ## What a feed that leaves does -/

/-- The notice of a feed that leaves is true, and nothing of another feed is lost,
exactly where the feed is the last one of its user. -/
theorem leaves_iff {o : RtcObserver (Shot φ)} {feedId : UInt64} (hp : p.observer = o)
    (hzero : ∀ feedId, o.feedToUser feedId ≠ some 0) :
    (((o.onRemoteUserLeft feedId).2 ≠ 0 → ∀ other,
          (o.onRemoteUserLeft feedId).1.feedToUser other ≠ some (o.onRemoteUserLeft feedId).2) ∧
        ∀ userId shot, o.pendingRemote userId = some shot → shot.feedId ≠ feedId →
          (o.onRemoteUserLeft feedId).1.pendingRemote userId = some shot) ↔
      p.LeavesLast feedId := by
  subst hp
  cases hmap : p.observer.feedToUser feedId with
  | none =>
    rw [onRemoteUserLeft_of_none hmap]
    refine iff_of_true ⟨fun h => absurd rfl h, fun _ _ h _ => h⟩ ?_
    intro userId hsome
    rw [hmap] at hsome
    cases hsome
  | some userId =>
    rw [onRemoteUserLeft_of_some hmap]
    have huser : userId ≠ 0 := by
      rintro rfl
      exact hzero feedId hmap
    constructor
    · rintro ⟨htold, hkept⟩ user huserId
      cases hmap.symm.trans huserId
      refine ⟨?_, ?_⟩
      · intro other hother hmapped
        exact htold huser other ((Function.update_of_ne hother ..).trans hmapped)
      · -- a frame of another feed would have been kept, and it is gone
        intro shot hshot
        by_contra hfeed
        cases (Function.update_self ..).symm.trans (hkept userId shot hshot hfeed)
    · intro hlast
      rcases hlast userId hmap with ⟨honly, hown⟩
      refine ⟨?_, ?_⟩
      · intro _ other hmapped
        by_cases hother : other = feedId
        · rw [hother] at hmapped
          cases (Function.update_self ..).symm.trans hmapped
        · exact honly other hother ((Function.update_of_ne hother ..).symm.trans hmapped)
      · intro user shot hshot hfeed
        by_cases hsame : user = userId
        · subst hsame
          exact absurd (hown shot hshot) hfeed
        · exact (Function.update_of_ne hsame ..).trans hshot

/-! ## The notices of a run -/

/-- Nobody is announced to have left who has a feed. -/
def Gone (p : RtcProcess φ) : Prop :=
  ∀ userId, userId ≠ 0 → p.Announced userId → ∀ feedId, p.observer.feedToUser feedId ≠ some userId

theorem Gone.step (h : p.Gone) (hzero : ∀ feedId, p.observer.feedToUser feedId ≠ some 0)
    (hkeep : p.keeps e) (hstep : (system valid).Step p e p') : p'.Gone := by
  cases e with
  | remoteUserJoined feedId display =>
    cases hstep
    intro userId huser hannounced other hmapped
    rcases map_of_joined hmapped with hold | ⟨id, hdisplay, hid, rfl⟩
    · exact h userId huser hannounced other hold
    · exact hkeep id hdisplay hid hannounced
  | remoteUserLeft feedId =>
    cases hstep
    have htrue := (leaves_iff rfl hzero).mpr hkeep
    intro userId huser hannounced other hmapped
    rcases hannounced with hleaving | hqueue
    · rcases List.mem_cons.mp hleaving with rfl | hleaving
      · exact htrue.1 huser other hmapped
      · exact h userId huser (Or.inl hleaving) other (map_of_left hmapped)
    · exact h userId huser (Or.inr hqueue) other (map_of_left hmapped)
  | _ =>
    rcases map_of_step hstep (by rintro _ _ ⟨⟩) (by rintro _ ⟨⟩) with ⟨hmap, hannounce⟩
    intro userId huser hannounced other hmapped
    exact h userId huser (hannounce userId hannounced) other (hmap other userId hmapped)

end RtcProcess

open RtcProcess

/-- In runs whose steps meet the condition, a user is reported as gone only when no
feed is mapped to it, and no frame of another feed is lost. Of a single feed that
leaves, the notice is true and nothing of another feed is lost exactly when the feed
is the last one of its user. -/
theorem remote_left_notices {φ : Type} (valid : φ → Bool) :
    (∀ p e p', Reachable ((RtcProcess.system valid).restrict RtcProcess.keeps) p →
        ((RtcProcess.system valid).restrict RtcProcess.keeps).Step p e p' → Truthful p e p') ∧
      ∀ p feedId, Reachable (RtcProcess.system valid) p →
        ((((p.observer.onRemoteUserLeft feedId).2 ≠ 0 → ∀ other,
              (p.observer.onRemoteUserLeft feedId).1.feedToUser other ≠
                some (p.observer.onRemoteUserLeft feedId).2) ∧
            ∀ userId shot, p.observer.pendingRemote userId = some shot → shot.feedId ≠ feedId →
              (p.observer.onRemoteUserLeft feedId).1.pendingRemote userId = some shot) ↔
          p.LeavesLast feedId) := by
  constructor
  · intro p e p' hreach hstep
    have hgone : p.Gone := by
      refine Reachable.invariant (T := (RtcProcess.system valid).restrict RtcProcess.keeps)
        (I := Gone) ?_ ?_ hreach
      · rintro p rfl userId _ (hleaving | hqueue)
        · cases hleaving
        · cases hqueue
      · intro p e p' hr hp hst
        exact hp.step (feedToUser_ne_zero hr.of_restrict) hst.1 hst.2
    refine ⟨?_, ?_⟩
    · intro _ userId queue hqueue huser
      refine hgone userId huser (Or.inr ?_)
      rw [hqueue]
      exact List.mem_cons_self ..
    · rintro feedId rfl
      have hzero := feedToUser_ne_zero hreach.of_restrict
      have hnext := hstep.2
      cases hnext
      exact ((leaves_iff rfl hzero).mpr hstep.1).2
  · intro p feedId hreach
    exact leaves_iff rfl (feedToUser_ne_zero hreach)

namespace RtcProcess

/-- Feed 1 has joined for user 7 and sent a frame. -/
def visited : RtcProcess ℕ :=
  { fresh with
    observer :=
      { RtcObserver.fresh with
        pendingRemote := Function.update (fun _ => none) 7 (some ⟨5, 1, 0⟩)
        feedToUser := Function.update (fun _ => none) 1 (some 7) }
    remoteStored := 1
    remoteStores := [(7, ⟨5, 1, 0⟩)]
    remoteKept := [(7, ⟨5, 1, 0⟩)] }

theorem visited_reachable :
    Reachable ((system fun _ : ℕ => true).restrict keeps) visited := by
  have hjoined : Reachable ((system fun _ : ℕ => true).restrict keeps)
      { fresh with
        observer :=
          { RtcObserver.fresh with feedToUser := Function.update (fun _ => none) 1 (some 7) } } := by
    refine Reachable.step (e := .remoteUserJoined 1 (some 7)) (.init rfl) ⟨?_, rfl⟩
    rintro userId _ _ (hleaving | hqueue)
    · cases hleaving
    · cases hqueue
  exact hjoined.step (e := .remoteVideoFrame 1 5) ⟨trivial, rfl⟩

theorem visited_leavesLast : visited.keeps (.remoteUserLeft 1) := by
  intro userId hmap
  simp only [visited, Function.update_self, Option.some.injEq] at hmap
  subst hmap
  refine ⟨?_, ?_⟩
  · intro other hother hmapped
    simp [visited, Function.update_of_ne hother] at hmapped
  · intro shot hshot
    simp only [visited, Function.update_self, Option.some.injEq] at hshot
    rw [← hshot]

/-- Feed 2 joins for user 7 before feed 1 leaves. -/
def reconnect : List (Event ℕ) :=
  [.remoteUserJoined 1 (some 7), .remoteUserJoined 2 (some 7), .remoteUserLeft 1, .postLeft 7]

end RtcProcess

/-- The only feed of a user leaves, and the user is reported. -/
theorem remote_left_notices_of_visit :
    ∃ p p' : RtcProcess ℕ, p.queue = [.remoteUserLeft 7] ∧ Truthful p .ui p' ∧
      ∀ feedId, p.observer.feedToUser feedId ≠ some 7 := by
  have hleft := Reachable.step (e := Event.remoteUserLeft 1) visited_reachable
    ⟨visited_leavesLast, rfl⟩
  have hposted := Reachable.step (e := Event.postLeft 7) hleft ⟨trivial, rfl⟩
  have htrue := (remote_left_notices fun _ : ℕ => true).1 _ .ui _ hposted ⟨trivial, rfl⟩
  exact ⟨_, _, rfl, htrue, htrue.told rfl 7 [] rfl (by decide)⟩

/-- Another feed of the user is there when the notice is emitted. -/
theorem left_notice_of_present_user :
    ¬∀ p e p', Reachable (RtcProcess.system fun _ : ℕ => true) p →
      (RtcProcess.system fun _ : ℕ => true).Step p e p' → Truthful p e p' := by
  intro hall
  have hrun : (replay (RtcProcess.next fun _ : ℕ => true) .fresh reconnect).any
      (fun p => p.queue = [.remoteUserLeft 7] ∧ p.resetting = false ∧
        p.observer.feedToUser 2 = some 7) = true := by
    decide +kernel
  rcases (Option.any_eq_true _ _).mp hrun with ⟨p, hrun, htest⟩
  rcases of_decide_eq_true htest with ⟨hqueue, hresetting, hmapped⟩
  have hreach : Reachable (RtcProcess.system fun _ : ℕ => true) p :=
    (Run.of_replay (fun _ _ _ => id) hrun).reachable (.init rfl)
  have hstep : (RtcProcess.system fun _ : ℕ => true).Step p .ui { p with queue := [] } := by
    show p.next _ .ui = _
    simp only [next, hresetting, hqueue]
    rfl
  exact (hall p .ui _ hreach hstep).told rfl 7 [] hqueue (by decide) 2 hmapped

end CCMeeting
