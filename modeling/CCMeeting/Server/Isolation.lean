import CCMeeting.Server.Raising

/-! # Rooms do not interfere

An event of something outside a room (a lobby connection, another room and its
participants, another room's timer) leaves the room, its place in the maps and
the connections of its participants as they are.
-/

namespace CCMeeting

open Transition State

/-- The event comes from outside the room. -/
def Event.Outside (s : State) (r : RoomRef) : Event → Prop
  | accept => True
  | packet c p _ => s.connectionRoom c ≠ some r ∧
      (s.connectionRoom c = none → p.type = .joinMeeting → 4 ≤ p.payload.length →
        s.getRoom (readBe32 p.payload) ≠ some r)
  | close c => s.connectionRoom c ≠ some r
  | socketDown c => s.connectionRoom c ≠ some r
  | wrote c => s.connectionRoom c ≠ some r
  | expire r' => r' ≠ r

/-- Everything about a room is in one state as in the other: the room object,
whether it is stored under its number, who is routed to it, and the
connections of its participants with their queues. -/
structure SameRoom (s s' : State) (r : RoomRef) : Prop where
  room : s'.heap r = s.heap r
  stored : s'.Stored r ↔ s.Stored r
  routed : ∀ c, s'.connectionRoom c = some r ↔ s.connectionRoom c = some r
  connections : ∀ c, s.IsMember r c → s'.connections c = s.connections c

namespace SameRoom

variable {s s' : State} {r : RoomRef}

theorem refl (s : State) (r : RoomRef) : SameRoom s s r :=
  ⟨rfl, Iff.rfl, fun _ => Iff.rfl, fun _ _ => rfl⟩

/-- Packets for connections outside the room do not touch it. -/
theorem deliver (h : SameRoom s s' r) {f : ConnId → List Queued}
    (hf : ∀ c, s.IsMember r c → f c = []) : SameRoom s (s'.deliver f) r where
  room := h.room
  stored := h.stored
  routed := h.routed
  connections c hc := by
    rw [deliver_connections, hf c hc, Connection.pushAll_nil]
    exact h.connections c hc

/-- Neither does a change of a connection outside it. -/
theorem modifyConnection (h : SameRoom s s' r) {c : ConnId} (f : Connection → Connection)
    (hc : ¬s.IsMember r c) : SameRoom s (s'.modifyConnection c f) r where
  room := h.room
  stored := h.stored
  routed := h.routed
  connections d hd := by
    have hdc : d ≠ c := by
      rintro rfl
      exact hc hd
    simpa [State.modifyConnection, hdc] using h.connections d hd

end SameRoom

section Isolation

variable {config : ServerConfig} {s s' : State} {r : RoomRef}

/-- A connection routed elsewhere is no participant of the room. -/
theorem State.Consistent.not_member (h : s.Consistent) {c : ConnId}
    (hc : s.connectionRoom c ≠ some r) : ¬s.IsMember r c :=
  fun hm => hc (h.member hm)

/-- Rooms have disjoint participants. -/
theorem State.Consistent.disjoint (h : s.Consistent) {r' : RoomRef} (hrr : r' ≠ r) {c : ConnId}
    (hc : s.IsMember r c) : ¬s.IsMember r' c := by
  intro hc'
  have hroute := h.member hc
  rw [h.member hc'] at hroute
  exact hrr (Option.some.inj hroute)

/-- Another room's number is not the number of a stored room. -/
theorem State.Consistent.roomId_ne (h : s.Consistent) {r' : RoomRef}
    (hr' : (s.heap r').closed = false) (hrr : r' ≠ r) (hr : s.Stored r) :
    (s.heap r).roomId ≠ (s.heap r').roomId := by
  intro hid
  have hstored : s.Stored r' := (h.stored hr').1
  rw [Stored, ← hid, hr] at hstored
  exact hrr (congrArg Prod.snd (Option.some.inj hstored)).symm

/-- Closing another room leaves the room alone. -/
theorem SameRoom.teardown (h : s.Consistent) {r' : RoomRef} (hr' : (s.heap r').closed = false)
    (hrr : r' ≠ r) : SameRoom s (s.teardown r') r where
  room := by simp [State.teardown, hrr.symm]
  stored := by
    have hheap : (s.teardown r').heap r = s.heap r := by simp [State.teardown, hrr.symm]
    rw [Stored, Stored, hheap]
    constructor
    · intro hfound
      obtain ⟨hmem, hkey⟩ := KeyedList.find_eq_some.mp hfound
      exact KeyedList.find_eq_some.mpr ⟨(KeyedList.mem_erase.mp hmem).1, hkey⟩
    · intro hfound
      exact (KeyedList.find_erase_of_ne (h.roomId_ne hr' hrr hfound)).trans hfound
  routed c := by
    by_cases hc : s.connectionRoom c = some r'
    · simp [State.teardown, hc, hrr]
    · simp [State.teardown, hc]
  connections c hc := by
    have hno := h.disjoint hrr hc
    simp [State.teardown, hno]

/-- So does founding one, under a number nobody has. -/
theorem SameRoom.found {roomId next : UInt32} {options : RoomOptions} {c : ConnId}
    {userId : UInt64} {oracle : Oracle} (hr : r < s.nextRef) (hlobby : s.connectionRoom c = none)
    (hfree : s.rooms.find roomId = none) :
    SameRoom s (s.found config roomId next options c userId oracle) r := by
  have hne : r ≠ s.nextRef := Nat.ne_of_lt hr
  have hfree' : s.rooms.find (Prod.fst (roomId, s.nextRef)) = none := hfree
  have hheap : (s.found config roomId next options c userId oracle).heap r = s.heap r := by
    simp [State.found, hne]
  refine ⟨hheap, ?_, ?_, fun _ _ => rfl⟩
  · rw [Stored, Stored, hheap]
    by_cases hid : (s.heap r).roomId = roomId
    · -- the new room takes a number nobody has, so `r` is not stored under it
      have hself := KeyedList.find_emplace_self oracle.roomOrder hfree'
      rw [hid]
      constructor
      · intro hfound
        have hnew := hself.symm.trans hfound
        exact absurd (congrArg Prod.snd (Option.some.inj hnew)).symm hne
      · intro hfound
        exact absurd (hfound.symm.trans hfree) (Option.some_ne_none _)
    · have hkeep := KeyedList.find_emplace_of_ne oracle.roomOrder hfree'
        (k := (s.heap r).roomId) (fun heq => hid heq.symm)
      exact Iff.of_eq (congrArg (· = some _) hkeep)
  · intro d
    by_cases hd : d = c
    · subst hd
      simp [State.found, hlobby, hne.symm]
    · simp [State.found, hd]

/-- Entering another room. -/
theorem SameRoom.enroll {r' : RoomRef} (hrr : r ≠ r') {c : ConnId} (userId : UInt64)
    (oracle : Oracle) (hlobby : s.connectionRoom c = none) :
    SameRoom s (s.enroll r' c userId oracle) r := by
  refine ⟨?_, ?_, ?_, fun _ _ => rfl⟩
  · simp [State.enroll, hrr]
  · simp [Stored, State.enroll, hrr]
  · intro d
    by_cases hd : d = c
    · subst hd
      simp [State.enroll, hlobby, hrr.symm]
    · simp [State.enroll, hd]

/-- Leaving another room. -/
theorem SameRoom.depart (h : s.Consistent) {r' : RoomRef} (hrr : r ≠ r') {c : ConnId}
    (hroute : s.connectionRoom c = some r') : SameRoom s (s.depart r' c) r := by
  refine ⟨?_, ?_, ?_, ?_⟩
  · simp [State.depart, hrr]
  · simp [Stored, State.depart, hrr]
  · intro d
    by_cases hd : d = c
    · subst hd
      simp [State.depart, hroute, hrr.symm]
    · simp [State.depart, hd]
  · intro d hd
    have hdc : d ≠ c := by
      rintro rfl
      rw [h.member hd] at hroute
      exact hrr (Option.some.inj hroute)
    simp [State.depart, hdc]

/-- Every effect of an event outside the room leaves the room alone. -/
theorem Effect.sameRoom {e : Event} (he : Effect config s e s') (h : s.Consistent)
    (hr : r < s.nextRef) (houtside : e.Outside s r) : SameRoom s s' r := by
  have honly : ∀ {c} qs, s.connectionRoom c ≠ some r → ∀ d, s.IsMember r d → only c qs d = [] := by
    intro c qs hc d hd
    refine only_of_ne ?_ qs
    rintro rfl
    exact h.not_member hc hd
  cases he with
  | accept =>
    refine ⟨rfl, Iff.rfl, fun _ => Iff.rfl, ?_⟩
    intro c hc
    have hne : c ≠ s.nextConnectionId :=
      Nat.ne_of_lt (h.accepted_of_route (h.member hc)).2
    simp [State.accept, hne]
  | socketDown _ => exact (SameRoom.refl s r).modifyConnection _ (h.not_member houtside)
  | wrote _ => exact (SameRoom.refl s r).modifyConnection _ (h.not_member houtside)
  | nothing _ => exact .refl s r
  | dropped _ _ hlobby _ =>
    exact (SameRoom.refl s r).modifyConnection _ (h.not_member (by simp [hlobby]))
  | refused hlobby _ _ => exact (SameRoom.refl s r).deliver (honly _ (by simp [hlobby]))
  | created _ hlobby _ _ _ hpick =>
    exact (SameRoom.found hr hlobby (pickRoomId_free hpick)).deliver (honly _ (by simp [hlobby]))
  | @joined c packet oracle r' htype hlobby hopen hlength _ hget hr' _ =>
    have hne : r ≠ r' := by
      rintro rfl
      exact houtside.2 hlobby htype hlength hget
    refine (SameRoom.enroll hne packet.userId oracle hlobby).deliver fun d hd => ?_
    have hdc : d ≠ c := by
      rintro rfl
      exact h.not_member (by simp [hlobby]) hd
    have hno : ¬(s.enroll r' c packet.userId oracle).IsMember r' d := by
      rw [isMember_enroll (h.find_of_lobby hlobby r')]
      rintro (hdc' | hm)
      · exact hdc hdc'
      · exact h.disjoint hne.symm hd hm
    simp [joinDelivery, hearing, Hears, hno, only_of_ne hdc]
  | ignored _ _ _ _ => exact .refl s r
  | @relayed c packet oracle r' sender room q exclude hroute _ _ hrel _ =>
    have hne : r ≠ r' := by
      rintro rfl
      exact houtside.1 hroute
    have hroom : SameRoom s (s.modifyRoom r' fun _ => room) r := by
      refine ⟨?_, ?_, fun _ => Iff.rfl, fun _ _ => rfl⟩
      · simp [State.modifyRoom, hne]
      · simp [Stored, State.modifyRoom, hne]
    exact hroom.deliver fun d hd => if_neg fun hh => h.disjoint hne.symm hd hh.1
  | @left c r' p hroute _ hp _ =>
    have hne : r ≠ r' := by
      rintro rfl
      exact houtside hroute
    refine (SameRoom.depart h hne hroute).deliver fun d hd => if_neg fun hh => ?_
    exact h.disjoint hne.symm hd (isMember_depart.mp hh.1).1
  | @ownerLeft c r' p hroute _ _ _ =>
    have hne : r' ≠ r := by
      rintro rfl
      exact houtside hroute
    exact (SameRoom.teardown h (h.route hroute).1 hne).modifyConnection _ (h.not_member houtside)
  | expired hr' => exact .teardown h hr' houtside

variable {platform : Platform}

/-- From every reachable state, an event outside a room whose handler returns
leaves everything about the room as it is. -/
theorem room_isolated (hmax : 2 ≤ config.maxParticipantsPerRoom)
    (hs : Reachable (system platform config) s) (hr : r < s.nextRef) {e : Event}
    (houtside : e.Outside s r) (hstep : (system platform config).Step s e s') :
    SameRoom s s' r := by
  have hmax' : 0 < config.maxParticipantsPerRoom := by omega
  have h := reachable_consistent hmax' hs
  exact (step_effect hmax' h hstep).sameRoom h hr houtside

end Isolation

/-- Two meetings; the second one has the first sequential number. -/
def twoMeetings : List Event :=
  [.accept, .accept, .accept,
    .packet 1 { type := .createMeeting, userId := 7 } .plain,
    .packet 2 { type := .joinMeeting, userId := 8, payload := writeBe32 123456 } .plain,
    .packet 3 { type := .createMeeting, userId := 9 } .plain]

/-- The owner of the second meeting leaves, and the first is as before. -/
theorem room_isolated_from_closing :
    ∃ s s', replay (next reference {}) State.start twoMeetings = some s ∧
      next reference {} s (.close 3) = some s' ∧ SameRoom s s' 0 := by
  have hrun : (replay (next reference {}) State.start twoMeetings).isSome = true := by
    decide +kernel
  obtain ⟨s, hs⟩ := Option.isSome_iff_exists.mp hrun
  have hfacts : (replay (next reference {}) State.start twoMeetings).map
      (fun s => (s.nextRef, s.connectionRoom 3, (next reference {} s (.close 3)).isSome)) =
        some (2, some 1, true) := by decide +kernel
  rw [hs] at hfacts
  simp only [Option.map_some, Option.some.injEq, Prod.mk.injEq] at hfacts
  obtain ⟨href, hroute, hnext⟩ := hfacts
  obtain ⟨s', hs'⟩ := Option.isSome_iff_exists.mp hnext
  refine ⟨s, s', hs, hs', ?_⟩
  refine room_isolated (e := .close 3) (by decide)
    (reachable_of_replay reference {} hs) ?_ ?_ (next_step reference {} hs')
  · rw [href]
    decide
  · simp [Event.Outside, hroute]

end CCMeeting
