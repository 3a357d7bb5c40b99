import Mathlib.Data.Multiset.AddSub
import Mathlib.Algebra.Order.Group.Multiset
import CCMeeting.Server.Identity

/-! # The announcements add up

What a participant has been told about the others: the ids announced to it by
`PartnerJoin` and `PartnerJoin2` are those of the participants that have left,
each told by `PartnerExit`, and of those that are still there.
-/

namespace CCMeeting

open ByteString Transition State

/-! ## What a queue announces -/

/-- The ids a packet announces. -/
def Queued.announces (q : Queued) : Multiset UInt64 :=
  match q.packet.type with
  | .partnerJoin => {q.packet.userId}
  | .partnerJoin2 => readBe64List q.packet.payload
  | _ => 0

/-- The id a packet takes back. -/
def Queued.exits (q : Queued) : Multiset UInt64 :=
  match q.packet.type with
  | .partnerExit => {q.packet.userId}
  | _ => 0

/-- The ids announced on a queue. -/
def announced (qs : List Queued) : Multiset UInt64 := (qs.map Queued.announces).sum

/-- The ids taken back on a queue. -/
def exited (qs : List Queued) : Multiset UInt64 := (qs.map Queued.exits).sum

@[simp] theorem announced_nil : announced [] = 0 := rfl

@[simp] theorem exited_nil : exited [] = 0 := rfl

@[simp] theorem announced_cons (q : Queued) (qs : List Queued) :
    announced (q :: qs) = q.announces + announced qs := by simp [announced]

@[simp] theorem exited_cons (q : Queued) (qs : List Queued) :
    exited (q :: qs) = q.exits + exited qs := by simp [exited]

@[simp] theorem announced_append (qs ps : List Queued) :
    announced (qs ++ ps) = announced qs + announced ps := by simp [announced]

@[simp] theorem exited_append (qs ps : List Queued) :
    exited (qs ++ ps) = exited qs + exited ps := by simp [exited]

/-- The packets that neither announce nor take back anybody. -/
def Queued.Silent (q : Queued) : Prop := q.announces = 0 ∧ q.exits = 0

theorem silent_sum {qs : List Queued} (h : ∀ q ∈ qs, q.Silent) :
    announced qs = 0 ∧ exited qs = 0 := by
  induction qs with
  | nil => exact ⟨rfl, rfl⟩
  | cons q qs ih =>
    rcases h q (List.mem_cons_self ..) with ⟨ha, he⟩
    rcases ih (fun x hx => h x (List.mem_cons_of_mem _ hx)) with ⟨hqa, hqe⟩
    simp [ha, he, hqa, hqe]

theorem silent_response {type : MessageType} (value : UInt32)
    (htype : type = .createMeetingResponse ∨ type = .joinMeetingResponse) :
    (response type value).Silent := by
  rcases htype with rfl | rfl <;> exact ⟨rfl, rfl⟩

/-- The list a newcomer is sent announces exactly the participants on it. -/
theorem partnerList_announces (ps : List Participant) :
    (partnerList ps).announces = (ps.map Participant.userId : List UInt64) := by
  simp only [Queued.announces, partnerList]
  rw [readBe64List_map Participant.userId ps]

section Seen

variable {s s' : State} {e : Event}

/-- A newcomer is told about the others and nobody else. -/
theorem welcome_announced (r : RoomRef) (c : ConnId) :
    announced (s.welcome r c) = ((s.others r c).map Participant.userId : List UInt64) ∧
      exited (s.welcome r c) = 0 := by
  have hprofiles : announced ((s.others r c).flatMap profileNotices) = 0 ∧
      exited ((s.others r c).flatMap profileNotices) = 0 := by
    apply silent_sum
    intro q hq
    rcases List.mem_flatMap.mp hq with ⟨p, _, hq⟩
    unfold profileNotices at hq
    split_ifs at hq
    · cases hq
    · rw [List.mem_singleton.mp hq]
      exact ⟨rfl, rfl⟩
  have hsettings : (settingsNotice (s.heap r).settings).Silent := ⟨rfl, rfl⟩
  have hlist : (partnerList (s.others r c)).exits = 0 := rfl
  simp [welcome, hprofiles, hsettings.1, hsettings.2, hlist, partnerList_announces]

/-- Relayed packets announce nobody. -/
theorem State.Relayed.silent {room room' : Room} {c exclude : ConnId} {sender : Participant}
    {packet : Packet} {q : Queued} (h : Relayed room c sender packet room' q exclude) :
    q.Silent := by
  cases h with
  | text _ => exact ⟨rfl, rfl⟩
  | camera _ => exact ⟨rfl, rfl⟩
  | profile htype => simp [Queued.Silent, Queued.announces, Queued.exits, htype]
  | settings _ _ => exact ⟨rfl, rfl⟩

end Seen

/-! ## The balance -/

namespace State

/-- The ids of the others in the meeting of a connection. -/
def peerIds (s : State) (c : ConnId) : Multiset UInt64 :=
  match s.connectionRoom c with
  | some r => ((s.others r c).map Participant.userId : List UInt64)
  | none => 0

theorem peerIds_of_route {s : State} {c : ConnId} {r : RoomRef} (h : s.connectionRoom c = some r) :
    s.peerIds c = ((s.others r c).map Participant.userId : List UInt64) := by
  rw [peerIds, h]

theorem peerIds_of_lobby {s : State} {c : ConnId} (h : s.connectionRoom c = none) :
    s.peerIds c = 0 := by
  rw [peerIds, h]

/-- One more participant in the room is one more among the others. -/
theorem others_perm {s s' : State} {r : RoomRef} {c : ConnId} {p : Participant}
    (hperm : (s'.participants r).toList.Perm (p :: (s.participants r).toList))
    (hp : p.connection ≠ c) : (s'.others r c).Perm (p :: s.others r c) := by
  have hfilter := hperm.filter (fun p => decide (p.connection ≠ c))
  rwa [List.filter_cons_of_pos (by simpa using hp)] at hfilter

/-- Everybody announced to an open connection and not taken back is in its
meeting, and the other way round. -/
def Balanced (s : State) (c : ConnId) : Prop :=
  announced (s.outbox c) = exited (s.outbox c) + s.peerIds c

end State

/-- A relayed packet leaves the ids of the others as they are, when the profile
it may be carries the id of its sender. -/
theorem State.Relayed.userIds {room room' : Room} {c exclude : ConnId} {sender : Participant}
    {packet : Packet} {q : Queued} (h : Relayed room c sender packet room' q exclude)
    (hown : packet.type = .userProfile → ∀ p ∈ room.participants, p.connection = c →
      (p.applyProfile packet.payload).userId = p.userId) (d : ConnId) :
    (room'.participants.toList.filter (fun p => p.connection ≠ d)).map Participant.userId =
      (room.participants.toList.filter (fun p => p.connection ≠ d)).map Participant.userId := by
  cases h with
  | text _ | camera _ | settings _ _ => rfl
  | profile htype =>
    simp only [KeyedList.modify, List.filter_map, List.map_map]
    have hkeep : (fun p : Participant => decide (p.connection ≠ d)) ∘
        (fun p => if p.connection = c then p.applyProfile packet.payload else p) =
          fun p => decide (p.connection ≠ d) := by
      funext p
      by_cases hp : p.connection = c <;> simp [hp]
    rw [hkeep]
    refine List.map_congr_left fun p hp => ?_
    have hmem : p ∈ room.participants := (List.mem_filter.mp hp).1
    by_cases hpc : p.connection = c
    · simp [hpc, hown htype p hmem hpc]
    · simp [hpc]

section Balance

variable {platform : Platform} {config : ServerConfig}

/-- What a connection sees of a step keeps its balance. -/
theorem Seen.balanced {s s' : State} {e : Event} {d : ConnId} {news : List Queued}
    (hseen : Seen s e s' d news) (houtbox : s'.outbox d = s.outbox d ++ news)
    (hown : ∀ r, ∀ p ∈ s.participants r, ∀ packet oracle,
      e = .packet p.connection packet oracle → packet.type = .userProfile →
        (p.applyProfile packet.payload).userId = p.userId)
    (hi : s.isOpen d = true → s.Balanced d) (hopen : s'.isOpen d = true) : s'.Balanced d := by
  unfold State.Balanced at hi ⊢
  rw [houtbox, announced_append, exited_append]
  cases hseen with
  | gone hgone =>
    rw [hgone] at hopen
    cases hopen
  | accepted _ _ hempty _ hlobby =>
    rw [hempty, peerIds_of_lobby hlobby]
    rfl
  | elsewhere ho _ hroute hheap hnews =>
    have hsilent : ∀ q ∈ news, q.Silent := by
      intro q hq
      rcases hnews q hq with ⟨_, packet, _, type, value, _, hrefusal, rfl⟩
      apply silent_response
      cases hrefusal with
      | create _ => exact Or.inl rfl
      | join _ _ => exact Or.inr rfl
    have hpeers : s'.peerIds d = s.peerIds d := by
      unfold peerIds
      rw [hroute]
      cases hr : s.connectionRoom d with
      | none => rfl
      | some r => simp only [others, participants, hheap r hr]
    rcases silent_sum hsilent with ⟨ha, he⟩
    rw [ha, he, hpeers, hi ho, add_zero, add_zero]
  | @created packet oracle r _ _ ho _ hlobby hroute _ hparticipants _ =>
    have hbefore := hi ho
    rw [peerIds_of_lobby hlobby, add_zero] at hbefore
    rcases silent_response (s'.heap r).roomId (Or.inl rfl) with ⟨ha, he⟩
    rw [announced_cons, exited_cons, ha, he, hbefore, peerIds_of_route hroute]
    simp [others, hparticipants]
  | @entered packet oracle r _ _ ho _ hlobby hroute _ _ _ _ =>
    -- everybody there is announced at once
    have hbefore := hi ho
    rw [peerIds_of_lobby hlobby, add_zero] at hbefore
    rcases welcome_announced (s := s') r d with ⟨ha, he⟩
    rcases silent_response (s'.heap r).roomId (Or.inr rfl) with ⟨hresponse, hresponse'⟩
    rw [announced_cons, exited_cons, hresponse, hresponse', ha, he, hbefore,
      peerIds_of_route hroute]
    simp
  | @joined c packet oracle r _ _ ho _ _ _ hcd hroute hroute' hperm _ =>
    have hids := (others_perm hperm (c := d) hcd).map Participant.userId
    rw [peerIds_of_route hroute', Multiset.coe_eq_coe.mpr hids, hi ho, peerIds_of_route hroute]
    simp [joinNotice, Queued.announces, Queued.exits, add_comm, add_left_comm,
      ← Multiset.cons_coe, ← Multiset.singleton_add]
  | @relayed c packet oracle r sender room q exclude heq ho _ _ hroute hrouted hsender hrel
      hheap =>
    have hsilent : ∀ q' ∈ (if d = exclude then [] else [q]), q'.Silent := by
      intro q' hq'
      split_ifs at hq'
      · cases hq'
      · rw [List.mem_singleton.mp hq']
        exact hrel.silent
    have hids := hrel.userIds (fun htype p hp hpc =>
      hown r p hp packet oracle (by rw [hpc, heq]) htype) d
    rcases silent_sum hsilent with ⟨ha, he⟩
    rw [ha, he, hi ho, peerIds_of_route hroute,
      peerIds_of_route ((congrFun hrouted d).trans hroute), add_zero, add_zero]
    simp only [others, participants, hheap]
    rw [hids]
  | @left r p _ ho _ hpd _ _ _ hroute hroute' hperm _ =>
    have hids := (others_perm hperm (c := d) hpd).map Participant.userId
    rw [hi ho, peerIds_of_route hroute, peerIds_of_route hroute', Multiset.coe_eq_coe.mpr hids]
    simp [exitNotice, Queued.announces, Queued.exits, add_assoc,
      ← Multiset.cons_coe, ← Multiset.singleton_add]

/-- For every participant whose connection is open, the announced ids less the
ids taken back are those of the other participants, at every point of a run
whose profiles carry the ids of their senders. -/
theorem announcements_balance (hmax : 2 ≤ config.maxParticipantsPerRoom) {y : State × History}
    (h : Reachable (identified platform config) y) {r : RoomRef} {m : ConnId}
    (hm : y.1.IsMember r m) (hopen : y.1.isOpen m = true) :
    exited (y.1.outbox m) ≤ announced (y.1.outbox m) ∧
      announced (y.1.outbox m) - exited (y.1.outbox m) =
        ((y.1.others r m).map Participant.userId : List UInt64) := by
  have hmax' : 0 < config.maxParticipantsPerRoom := by omega
  -- the balance is kept by every step, whatever `r` and `m` are; it is read off for `m` at the
  -- end
  have hbalanced : ∀ d, y.1.isOpen d = true → y.1.Balanced d := by
    refine h.invariant (I := fun y => ∀ d, y.1.isOpen d = true → y.1.Balanced d) ?_ ?_
    · intro y hinit d hd
      rw [observed_init hinit] at hd
      cases hd
    · intro y e y' hreach hinv hstep d hd
      have hobs := hreach.of_restrict
      have hcons := observed_consistent hmax' hobs
      rcases observed_effect hmax' hcons hstep.2 with ⟨he, _⟩
      rcases he.seen hcons d with ⟨news, hseen, houtbox⟩
      refine hseen.balanced houtbox ?_ (hinv d) hd
      rintro r p hp packet oracle rfl htype
      have hstored := (reachable_identified hmax' hreach).stored hp
      exact Participant.applyProfile_userId (hstep.1 htype _ hstored.2)
  have hroute := (observed_consistent hmax' h.of_restrict).member hm
  have hsum := hbalanced m hopen
  unfold State.Balanced at hsum
  rw [peerIds_of_route hroute] at hsum
  constructor
  · rw [hsum]
    exact Multiset.le_add_right _ _
  · rw [hsum]
    exact add_tsub_cancel_left _ _

end Balance

/-- Users 8 and 9 join the meeting of user 7, and 8 leaves. -/
def threeUsers : List Event :=
  [.accept, .accept, .accept,
    .packet 1 { type := .createMeeting, userId := 7 } .plain,
    .packet 2 { type := .joinMeeting, userId := 8, payload := writeBe32 123456 } .plain,
    .packet 3 { type := .joinMeeting, userId := 9, payload := writeBe32 123456 } .plain,
    .close 2]

/-- The creator has been told about two users and about the exit of one. -/
theorem announcements_balance_after_exit :
    ∃ y, replay (guarded OwnProfiles (observedNext reference {})) (State.start, History.start)
      threeUsers = some y ∧
      announced (y.1.outbox 1) - exited (y.1.outbox 1) =
        ((y.1.others 0 1).map Participant.userId : List UInt64) := by
  have hfacts : (replay (guarded OwnProfiles (observedNext reference {}))
      (State.start, History.start) threeUsers).map
        (fun y => (decide (y.1.IsMember 0 1), y.1.isOpen 1)) = some (true, true) := by
    decide +kernel
  rcases Option.map_eq_some_iff.mp hfacts with ⟨y, hy, hmember⟩
  rcases Prod.mk.inj hmember with ⟨hm, hopen⟩
  exact ⟨y, hy, (announcements_balance (by decide) (identified_of_replay hy)
    (of_decide_eq_true hm) hopen).2⟩

end CCMeeting
