import CCMeeting.Server.Views

/-! # Under which id a participant is known

`handle_packet` writes the id of a `UserProfile` payload over the id of the
participant. As long as the profiles a connection sends carry the id it entered
with, that id is what the server stores and what it emits for the connection.
-/

namespace CCMeeting

open ByteString Transition State

/-! ## Profiles that carry the sender's id -/

/-- If the payload is long enough to be applied, it starts with the id. -/
def OwnProfile (payload : ByteString) (userId : UInt64) : Prop :=
  12 ≤ payload.length → 10 + readBe16 (payload.drop 8) + 2 ≤ payload.length →
    readBe64 payload = userId

/-- Applying such a profile leaves the id as it is. -/
theorem Participant.applyProfile_userId {p : Participant} {payload : ByteString}
    (h : OwnProfile payload p.userId) : (p.applyProfile payload).userId = p.userId := by
  unfold Participant.applyProfile
  dsimp only
  split_ifs with h1 h2 h3
  · exact h h1 h2
  · exact h h1 h2
  · rfl
  · rfl

/-- The profiles a connection sends carry the id it entered its meeting with. -/
def OwnProfiles (y : State × History) : Event → Prop
  | .packet c p _ => p.type = .userProfile → ∀ u ∈ y.2.joinedAs c, OwnProfile p.payload u
  | _ => True

instance (payload : ByteString) (userId : UInt64) : Decidable (OwnProfile payload userId) :=
  inferInstanceAs (Decidable (_ → _ → _))

instance (y : State × History) : (e : Event) → Decidable (OwnProfiles y e)
  | .packet c p _ =>
    -- the ids are looked up, never enumerated
    have : Decidable (∀ u ∈ y.2.joinedAs c, OwnProfile p.payload u) :=
      Option.decidableForallMem (y.2.joinedAs c)
    inferInstanceAs (Decidable
      (p.type = .userProfile → ∀ u ∈ y.2.joinedAs c, OwnProfile p.payload u))
  | .accept | .close _ | .socketDown _ | .wrote _ | .expire _ => inferInstanceAs (Decidable True)

/-- The runs in which every profile carries its sender's id. -/
def identified (platform : Platform) (config : ServerConfig) : System (State × History) Event :=
  (observed platform config).restrict OwnProfiles

/-- What a replay with own profiles ends in is reachable. -/
theorem identified_of_replay {platform : Platform} {config : ServerConfig} {y : State × History}
    {es : List Event}
    (h : replay (guarded OwnProfiles (observedNext platform config))
      (State.start, History.start) es = some y) :
    Reachable (identified platform config) y :=
  (Run.of_replay (fun _ _ _ => guarded_step fun _ _ _ => observedNext_step) h).reachable
    (.init ⟨rfl, rfl⟩)

/-! ## What a step does to the participants and the queues -/

section Step

variable {config : ServerConfig} {s s' : State} {e : Event}

/-- Where a participant after a step comes from: it was one before, possibly
with another profile, or it has just entered, without a profile. -/
theorem Effect.participant (he : Effect config s e s') (h : s.Consistent) {r : RoomRef}
    {p' : Participant} (hp' : p' ∈ s'.participants r) :
    p' ∈ s.participants r ∨
    (∃ p ∈ s.participants r, ∃ packet oracle, e = .packet p.connection packet oracle ∧
      packet.type = .userProfile ∧ p' = p.applyProfile packet.payload) ∨
    (s.connectionRoom p'.connection = none ∧ s'.connectionRoom p'.connection ≠ none ∧
      ∃ packet oracle, e = .packet p'.connection packet oracle ∧ p'.userId = packet.userId ∧
        p'.displayName = [] ∧ p'.avatarUrl = []) := by
  cases he with
  | accept | socketDown _ | wrote _ | nothing _ | dropped _ _ _ _ | refused _ _ _
  | ignored _ _ _ _ => exact Or.inl hp'
  | @created c packet oracle roomId next _ hlobby _ _ _ _ =>
    by_cases hr : r = s.nextRef
    · subst hr
      rw [deliver_participants, KeyedList.mem_def, found_participants, List.mem_singleton] at hp'
      subst hp'
      exact Or.inr (Or.inr ⟨hlobby, by simp [State.found], packet, oracle, rfl, rfl, rfl, rfl⟩)
    · rw [deliver_participants, found_participants_of_ne _ _ _ _ _ _ _ _ hr] at hp'
      exact Or.inl hp'
  | @joined c packet oracle r' _ hlobby _ _ _ _ _ _ =>
    rw [deliver_participants] at hp'
    by_cases hr : r = r'
    · subst hr
      rcases (mem_enroll (h.find_of_lobby hlobby r)).mp hp' with rfl | hold
      · exact Or.inr (Or.inr ⟨hlobby, by simp [State.enroll], packet, oracle, rfl, rfl, rfl, rfl⟩)
      · exact Or.inl hold
    · rw [enroll_participants_of_ne _ _ _ _ hr] at hp'
      exact Or.inl hp'
  | @relayed c packet oracle r' sender room q exclude _ _ hsender hrel _ =>
    rw [deliver_participants] at hp'
    by_cases hr : r = r'
    swap
    · have hsame : (s.modifyRoom r' fun _ => room).participants r = s.participants r := by
        simp [State.modifyRoom, participants, hr]
      rw [hsame] at hp'
      exact Or.inl hp'
    subst hr
    have hroom : (s.modifyRoom r fun _ => room).participants r = room.participants := by
      simp [State.modifyRoom, participants]
    rw [hroom] at hp'
    cases hrel with
    | text _ | camera _ | settings _ _ => exact Or.inl hp'
    | profile htype =>
      -- only the sender's own record is rewritten
      have hmodify : p' ∈ (s.participants r).modify c (fun p => p.applyProfile packet.payload)
          (fun p => p.applyProfile_connection packet.payload) := hp'
      rcases KeyedList.mem_modify.mp hmodify with ⟨p, hp, hpp⟩
      by_cases hpc : p.connection = c
      · rw [if_pos hpc] at hpp
        exact Or.inr (Or.inl ⟨p, hp, packet, oracle, by rw [hpc], htype, hpp.symm⟩)
      · rw [if_neg hpc] at hpp
        exact Or.inl (hpp ▸ hp)
  | @left c r' p _ _ _ _ =>
    rw [deliver_participants] at hp'
    by_cases hr : r = r'
    · subst hr
      rw [depart_participants] at hp'
      exact Or.inl (KeyedList.mem_erase.mp hp').1
    · rw [depart_participants_of_ne _ _ _ _ hr] at hp'
      exact Or.inl hp'
  | @ownerLeft c r' p _ _ _ _ =>
    have hp' : p' ∈ (s.teardown r').participants r := hp'
    by_cases hr : r = r'
    · subst hr
      simp [State.teardown, participants] at hp'
    · rw [teardown_participants_of_ne _ _ _ hr] at hp'
      exact Or.inl hp'
  | @expired r' _ =>
    by_cases hr : r = r'
    · subst hr
      simp [State.teardown, participants] at hp'
    · rw [teardown_participants_of_ne _ _ _ hr] at hp'
      exact Or.inl hp'

/-- The packets that speak for one participant. -/
def SpeaksFor (q : Queued) : Prop :=
  q.packet.type = .textRecv ∨ q.packet.type = .closeCamera ∨ q.packet.type = .userProfile ∨
    q.packet.type = .partnerExit

theorem response_not_speaks {type : MessageType} {value : UInt32}
    (htype : type = .createMeetingResponse ∨ type = .joinMeetingResponse) :
    ¬SpeaksFor (response type value) := by
  rcases htype with rfl | rfl <;> simp [SpeaksFor, response]

/-- What speaks for a participant in what a newcomer is sent is the profile of
another participant. -/
theorem mem_welcome_speaks {r : RoomRef} {c : ConnId} {q : Queued} (hq : q ∈ s.welcome r c)
    (hspeaks : SpeaksFor q) :
    ∃ p ∈ s.others r c, q = ⟨makeUserProfilePacket p, [p.connection]⟩ := by
  unfold welcome at hq
  rcases List.mem_append.mp hq with hq | hq
  · simp only [List.mem_cons, List.not_mem_nil, or_false] at hq
    rcases hq with rfl | rfl
    · simp [SpeaksFor, partnerList] at hspeaks
    · simp [SpeaksFor, settingsNotice, makeRoomSettingsPacket] at hspeaks
  · rcases List.mem_flatMap.mp hq with ⟨p, hp, hq⟩
    unfold profileNotices at hq
    split_ifs at hq
    · cases hq
    · exact ⟨p, hp, List.mem_singleton.mp hq⟩

/-- A new packet that speaks for a participant carries the id stored for the
participant, or the one of the profile it is. -/
theorem Seen.speaks {d : ConnId} {news : List Queued} (hseen : Seen s e s' d news) {q : Queued}
    (hq : q ∈ news) (hspeaks : SpeaksFor q) :
    (∃ r, ∃ p ∈ s.participants r, q.source = [p.connection] ∧ q.packet.userId = p.userId) ∨
    (∃ r, ∃ p ∈ s.participants r, ∃ packet oracle, e = .packet p.connection packet oracle ∧
      packet.type = .userProfile ∧ q.source = [p.connection] ∧
      q.packet.userId = (p.applyProfile packet.payload).userId) := by
  cases hseen with
  | gone _ | accepted _ _ _ _ _ => cases hq
  | elsewhere _ _ _ _ hnews =>
    rcases hnews q hq with ⟨_, packet, oracle, type, value, _, hrefusal, rfl⟩
    refine absurd hspeaks (response_not_speaks ?_)
    cases hrefusal with
    | create _ => exact Or.inl rfl
    | join _ _ => exact Or.inr rfl
  | created _ _ _ _ _ _ _ _ _ =>
    rw [List.mem_singleton.mp hq] at hspeaks
    exact absurd hspeaks (response_not_speaks (Or.inl rfl))
  | @entered packet oracle r _ _ _ _ _ _ _ _ hperm _ =>
    rcases List.mem_cons.mp hq with rfl | hq
    · exact absurd hspeaks (response_not_speaks (Or.inr rfl))
    -- a replayed profile carries the id stored for its participant
    rcases mem_welcome_speaks hq hspeaks with ⟨p, hp, rfl⟩
    rcases List.mem_filter.mp hp with ⟨hp, hpc⟩
    rcases List.mem_cons.mp (hperm.mem_iff.mp hp) with rfl | hold
    · simp at hpc
    · exact Or.inl ⟨r, p, hold, rfl, rfl⟩
  | joined _ _ _ _ _ _ _ _ _ _ _ =>
    rw [List.mem_singleton.mp hq] at hspeaks
    simp [SpeaksFor, joinNotice] at hspeaks
  | @relayed c packet oracle r sender room q' exclude heq _ _ _ _ _ hsender hrel _ =>
    have hq' : q = q' := by
      split_ifs at hq
      · cases hq
      · exact List.mem_singleton.mp hq
    subst hq'
    rcases KeyedList.find_eq_some.mp hsender with ⟨hmem, hkey⟩
    cases hrel with
    | text _ | camera _ => exact Or.inl ⟨r, sender, hmem, by rw [hkey], rfl⟩
    | profile htype =>
      refine Or.inr ⟨r, sender, hmem, packet, oracle, ?_, htype, ?_, rfl⟩
      · rw [hkey, heq]
      · rw [hkey]
    | settings _ _ => simp [SpeaksFor] at hspeaks
  | @left r p _ _ _ _ _ _ _ _ _ hperm _ =>
    rw [List.mem_singleton.mp hq]
    exact Or.inl ⟨r, p, hperm.mem_iff.mpr (List.mem_cons_self ..), rfl, rfl⟩

end Step

/-! ## The id of a connection -/

/-- Whatever the server knows or says about a connection goes under the id the
connection entered its meeting with. -/
structure Identified (s : State) (x : History) : Prop where
  stored : ∀ {r p}, p ∈ s.participants r → p.userId ≠ 0 ∧ x.joinedAs p.connection = some p.userId
  spoken : ∀ {d q}, q ∈ s.outbox d → SpeaksFor q →
    ∃ c, q.source = [c] ∧ q.packet.userId ≠ 0 ∧ x.joinedAs c = some q.packet.userId

section Identified

variable {platform : Platform} {config : ServerConfig}

theorem Effect.identified {y : State × History} {s' : State} {e : Event}
    (he : Effect config y.1 e s') (h : y.1.Consistent) (hx : Entered y.1 y.2)
    (henabled : e.Enabled y.1) (hown : OwnProfiles y e) (hi : Identified y.1 y.2) :
    Identified s' (y.2.record y.1 e s') := by
  -- a participant with a profile of its own keeps its id
  have hsame : ∀ {r p packet oracle}, p ∈ y.1.participants r →
      e = .packet p.connection packet oracle → packet.type = .userProfile →
      (p.applyProfile packet.payload).userId = p.userId := by
    intro r p packet oracle hp heq htype
    subst heq
    exact Participant.applyProfile_userId (hown htype _ (hi.stored hp).2)
  constructor
  · intro r p' hp'
    rcases he.participant h hp' with hp | ⟨p, hp, packet, oracle, heq, htype, rfl⟩ |
      ⟨hlobby, hroute, packet, oracle, heq, huser, _⟩
    · rcases hi.stored hp with ⟨hne, hjoined⟩
      exact ⟨hne, hx.record_joinedAs henabled hjoined⟩
    · rcases hi.stored hp with ⟨hne, hjoined⟩
      rw [hsame hp heq htype, Participant.applyProfile_connection]
      exact ⟨hne, hx.record_joinedAs henabled hjoined⟩
    · rcases he.entry hlobby hroute with ⟨_, packet', oracle', heq', hne⟩
      rw [heq] at heq'
      cases heq'
      subst heq
      rw [History.record_of_entry y.2 hlobby hroute, Function.update_self, huser]
      exact ⟨hne, rfl⟩
  · intro d q hq hspeaks
    rcases he.seen h d with ⟨news, hseen, houtbox⟩
    rw [houtbox, List.mem_append] at hq
    rcases hq with hold | hnew
    · rcases hi.spoken hold hspeaks with ⟨c, hsource, hne, hjoined⟩
      exact ⟨c, hsource, hne, hx.record_joinedAs henabled hjoined⟩
    rcases hseen.speaks hnew hspeaks with ⟨r, p, hp, hsource, huser⟩ |
      ⟨r, p, hp, packet, oracle, heq, htype, hsource, huser⟩
    · rcases hi.stored hp with ⟨hne, hjoined⟩
      rw [huser]
      exact ⟨p.connection, hsource, hne, hx.record_joinedAs henabled hjoined⟩
    · rcases hi.stored hp with ⟨hne, hjoined⟩
      rw [huser, hsame hp heq htype]
      exact ⟨p.connection, hsource, hne, hx.record_joinedAs henabled hjoined⟩

/-- The invariant of the runs with own profiles. -/
theorem reachable_identified (hmax : 0 < config.maxParticipantsPerRoom) {y : State × History}
    (h : Reachable (identified platform config) y) : Identified y.1 y.2 := by
  refine h.invariant (I := fun y => Identified y.1 y.2) ?_ ?_
  · intro y hinit
    rw [observed_init hinit]
    refine ⟨?_, ?_⟩
    · intro r p hp
      simp [participants, State.start, Room.unused] at hp
    · intro d q hq
      simp [outbox, State.start, Connection.unused, Connection.accepted] at hq
  · intro y e y' hreach hinv hstep
    have hobs := hreach.of_restrict
    have hcons := observed_consistent hmax hobs
    rcases observed_effect hmax hcons hstep.2 with ⟨he, hx⟩
    rw [hx]
    exact he.identified hcons (observed_entered hmax hobs) hstep.2.1.1 hstep.1 hinv

/-- As long as every profile carries the id its sender entered with, the stored
ids and those of everything the server emits for a connection are that id. -/
theorem identity_stable (hmax : 2 ≤ config.maxParticipantsPerRoom) {y : State × History}
    (h : Reachable (identified platform config) y) : Identified y.1 y.2 := by
  have hmax' : 0 < config.maxParticipantsPerRoom := by omega
  exact reachable_identified hmax' h

end Identified

/-- User 7 creates a meeting and user 8 joins it; 7 sends its name and 8 a text,
and 8 leaves. -/
def twoUsers : List Event :=
  [.accept, .accept,
    .packet 1 { type := .createMeeting, userId := 7 } .plain,
    .packet 2 { type := .joinMeeting, userId := 8, payload := writeBe32 123456 } .plain,
    .packet 1 { type := .userProfile, userId := 7,
                payload := writeBe64 7 ++ writeBe16 1 ++ ascii "A" ++ writeBe16 0 } .plain,
    .packet 2 { type := .textSend, userId := 8, payload := ascii "hi" } .plain,
    .close 2]

/-- In a run with a profile, a text and an exit the ids are stable. -/
theorem identity_stable_for_two_users :
    ∃ y, replay (guarded OwnProfiles (observedNext reference {})) (State.start, History.start)
      twoUsers = some y ∧ Identified y.1 y.2 := by
  have hrun : (replay (guarded OwnProfiles (observedNext reference {}))
      (State.start, History.start) twoUsers).isSome = true := by decide +kernel
  rcases Option.isSome_iff_exists.mp hrun with ⟨y, hy⟩
  exact ⟨y, hy, identity_stable (by decide) (identified_of_replay hy)⟩

/-- User 7 creates a meeting and sends a profile with the id 9. -/
def borrowedId : List Event :=
  [.accept,
    .packet 1 { type := .createMeeting, userId := 7 } .plain,
    .packet 1 { type := .userProfile, userId := 7,
                payload := writeBe64 9 ++ writeBe16 1 ++ ascii "A" ++ writeBe16 0 } .plain]

/-- Not in every run: the server stores the id of the profile for user 7. -/
theorem identity_borrowed :
    ¬∀ y, Reachable (observed reference {}) y → Identified y.1 y.2 := by
  intro hall
  have hstored : (replay (observedNext reference {}) (State.start, History.start)
      borrowedId).map (fun y => (y.1.participants 0).toList.map fun p =>
        (p.userId, y.2.joinedAs p.connection)) = some [(9, some 7)] := by decide +kernel
  rcases Option.map_eq_some_iff.mp hstored with ⟨y, hy, hids⟩
  have hstable := hall y (observed_of_replay hy)
  have hmem : ((9 : UInt64), some (7 : UInt64)) ∈ (y.1.participants 0).toList.map fun p =>
      (p.userId, y.2.joinedAs p.connection) := by
    rw [hids]
    exact List.mem_singleton.mpr rfl
  rcases List.mem_map.mp hmem with ⟨p, hp, heq⟩
  have hjoined := (hstable.stored (r := 0) hp).2
  rw [(Prod.mk.inj heq).1, (Prod.mk.inj heq).2] at hjoined
  exact absurd hjoined (by decide)

end CCMeeting
