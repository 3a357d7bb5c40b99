import CCMeeting.Lib.Fallible
import CCMeeting.Server.Consistency

/-! # What holds in every configuration

`Consistent` needs a place for at least one participant. Without one a room is
founded empty and its creator is routed to it all the same; what the close
cascade relies on still holds.
-/

namespace CCMeeting

open ByteString Fallible Transition State

namespace State

/-- What holds of the server between handlers, however it is configured. -/
structure Housed (s : State) : Prop where
  /-- a routed connection is routed to an open room -/
  route : ∀ {c r}, s.connectionRoom c = some r → (s.heap r).closed = false
  /-- a participant is routed to its room -/
  member : ∀ {c r}, s.IsMember r c → s.connectionRoom c = some r
  /-- an open room is in the table, and tells the service when it closes -/
  stored : ∀ {r}, (s.heap r).closed = false → s.Stored r ∧ (s.heap r).closeCallback = true
  /-- a participant has not been closed -/
  live : ∀ {c r}, s.IsMember r c → (s.connections c).closed = false
  /-- no room has been created under a reference to come -/
  freshRoom : ∀ {r}, s.nextRef ≤ r → (s.heap r).closed = true
  /-- an owner is its room's only one -/
  owner : ∀ {r p q}, p ∈ s.participants r → q ∈ s.participants r → p.isOwner = true →
    q.isOwner = true → q = p

theorem Consistent.housed {s : State} (h : s.Consistent) : s.Housed where
  route hroute := (h.route hroute).1
  member hm := h.member hm
  stored hr := h.stored hr
  live hm := h.live hm
  freshRoom hr := h.freshRoom hr
  owner := by
    intro r p q hp hq hpo hqo
    have hr : (s.heap r).closed = false := (h.route (h.member ⟨p, hp, rfl⟩)).1
    obtain ⟨o, _, _, huniq⟩ := h.owner hr
    rw [huniq q hq hqo, huniq p hp hpo]

/-- Two open rooms under one number are one room. -/
theorem Housed.route_inj {s : State} (h : s.Housed) {c : ConnId} {r r' : RoomRef}
    (hr : (s.heap r).closed = false) (hc : s.connectionRoom c = some r')
    (hid : (s.heap r').roomId = (s.heap r).roomId) : r' = r := by
  have hstored : s.Stored r := (h.stored hr).1
  have hstored' : s.Stored r' := (h.stored (h.route hc)).1
  rw [Stored, hid, hstored] at hstored'
  exact (congrArg Prod.snd (Option.some.inj hstored')).symm

/-! ## Rooms without places -/

/-- What holds when no room has a place: there are no participants at all. -/
structure Vacant (s : State) : Prop where
  empty : ∀ r, s.participants r = ∅
  route : ∀ {c r}, s.connectionRoom c = some r → (s.heap r).closed = false
  stored : ∀ {r}, (s.heap r).closed = false → s.Stored r ∧ (s.heap r).closeCallback = true
  places : ∀ {r}, (s.heap r).closed = false → (s.heap r).options.maxParticipants = 0
  freshRoom : ∀ {r}, s.nextRef ≤ r → (s.heap r).closed = true

namespace Vacant

variable {platform : Platform} {config : ServerConfig} {s s' : State}

theorem start : State.start.Vacant where
  empty _ := rfl
  route h := by cases h
  stored h := by cases h
  places h := by cases h
  freshRoom _ := rfl

theorem not_isMember (h : s.Vacant) (r : RoomRef) (c : ConnId) : ¬s.IsMember r c := by
  rintro ⟨p, hp, _⟩
  rw [h.empty r] at hp
  cases hp

theorem housed (h : s.Vacant) : s.Housed where
  route hroute := h.route hroute
  member hm := absurd hm (h.not_isMember _ _)
  stored hr := h.stored hr
  live hm := absurd hm (h.not_isMember _ _)
  freshRoom hr := h.freshRoom hr
  owner := by
    intro r p q hp
    rw [h.empty r] at hp
    cases hp

/-- Connections do not matter, and routes may be dropped. -/
theorem of_rooms (h : s.Vacant) (hheap : s'.heap = s.heap) (hrooms : s'.rooms = s.rooms)
    (hnext : s'.nextRef = s.nextRef)
    (hroute : ∀ {c r}, s'.connectionRoom c = some r → s.connectionRoom c = some r) :
    s'.Vacant where
  empty r := by
    rw [participants, hheap]
    exact h.empty r
  route hc := by
    rw [hheap]
    exact h.route (hroute hc)
  stored hr := by
    rw [Stored, hheap, hrooms]
    rw [hheap] at hr
    exact h.stored hr
  places hr := by
    rw [hheap] at hr ⊢
    exact h.places hr
  freshRoom hr := by
    rw [hheap]
    rw [hnext] at hr
    exact h.freshRoom hr

/-- A connection that is in no room, or in one it has no place in, just goes. -/
theorem close (h : s.Vacant) {c : ConnId} (hstep : s.close platform c = .ok s') : s'.Vacant := by
  unfold State.close closeConnection at hstep
  split_ifs at hstep with hc
  · cases hstep
    exact h
  unfold onConnectionClose at hstep
  split at hstep
  · cases hstep
    exact h.of_rooms rfl rfl rfl fun hroute => hroute
  · rename_i r hroute
    have hfind : ((s.heap r).participants.find c) = none := by
      rw [show (s.heap r).participants = ∅ from h.empty r]
      exact KeyedList.find_empty c
    simp only [removeParticipant, modifyConnection, participants, hfind, ite_self] at hstep
    cases hstep
    refine h.of_rooms rfl rfl rfl ?_
    intro d r' hd
    by_cases hdc : d = c
    · simp [hdc] at hd
    · simpa [hdc] using hd

theorem respond (h : s.Vacant) {c : ConnId} {type : MessageType} {value : UInt32}
    (hstep : s.respond platform c type value = .ok s') : s'.Vacant := by
  unfold State.respond at hstep
  obtain ⟨frame, _, hsend⟩ := bind_eq_ok_iff.mp hstep
  cases hsend
  exact h.of_rooms rfl rfl rfl fun hroute => hroute

/-- A new room that nobody is in, with its creator routed to it. -/
theorem founded (h : s.Vacant) {roomId : UInt32} (next : UInt32) (room : Room) (c : ConnId)
    (order : KeyedList.Order (UInt32 × RoomRef)) (hfree : s.rooms.find roomId = none)
    (hid : room.roomId = roomId) (hclosed : room.closed = false)
    (hcallback : room.closeCallback = true) (hempty : room.participants = ∅)
    (hplaces : room.options.maxParticipants = 0) :
    Vacant { s with
      heap := Function.update s.heap s.nextRef room
      nextRef := s.nextRef + 1
      rooms := s.rooms.emplace (roomId, s.nextRef) order
      nextRoomId := next
      connectionRoom := Function.update s.connectionRoom c (some s.nextRef) } := by
  have hfree' : s.rooms.find (Prod.fst (roomId, s.nextRef)) = none := hfree
  -- the new reference was never in use, so every room that is open is another one
  have hnotRef : ∀ {r}, (s.heap r).closed = false → r ≠ s.nextRef := by
    rintro r hr rfl
    rw [h.freshRoom (Nat.le_refl _)] at hr
    cases hr
  refine ⟨?_, ?_, ?_, ?_, ?_⟩
  · intro r
    by_cases hr : r = s.nextRef
    · simp [participants, hr, hempty]
    · simpa [participants, hr] using h.empty r
  · intro d r hd
    by_cases hdc : d = c
    · have hr : r = s.nextRef := by simpa [hdc, eq_comm] using hd
      simp [hr, hclosed]
    · have hopen := h.route (c := d) (r := r) (by simpa [hdc] using hd)
      simpa [hnotRef hopen] using hopen
  · intro r hr
    by_cases hrn : r = s.nextRef
    · have hself := KeyedList.find_emplace_self (x := (roomId, s.nextRef)) order hfree'
      simpa [Stored, hrn, hid, hcallback] using hself
    · have hr' : (s.heap r).closed = false := by simpa [hrn] using hr
      obtain ⟨hstored, hcall⟩ := h.stored hr'
      have hne : (s.heap r).roomId ≠ roomId := by
        intro heq
        rw [Stored, heq, hfree] at hstored
        cases hstored
      have hfind := KeyedList.find_emplace_of_ne (x := (roomId, s.nextRef)) order hfree'
        (k := (s.heap r).roomId) (fun heq => hne heq.symm)
      refine ⟨?_, by simpa [hrn] using hcall⟩
      simpa [Stored, hrn] using hfind.trans hstored
  · intro r hr
    by_cases hrn : r = s.nextRef
    · simp [hrn, hplaces]
    · have hr' : (s.heap r).closed = false := by simpa [hrn] using hr
      simpa [hrn] using h.places hr'
  · intro r hr
    have hr' : s.nextRef + 1 ≤ r := hr
    have hrn : r ≠ s.nextRef := by
      rintro rfl
      exact absurd hr' (Nat.not_succ_le_self _)
    simpa [hrn] using h.freshRoom (Nat.le_of_succ_le hr')

/-- A room is founded without its creator. -/
theorem create (h : s.Vacant) (hmax : config.maxParticipantsPerRoom = 0) {c : ConnId}
    {packet : Packet} {oracle : Oracle} (hlobby : s.connectionRoom c = none)
    (hstep : s.handleCreateMeeting platform config c packet oracle = .ok s') : s'.Vacant := by
  unfold handleCreateMeeting at hstep
  by_cases huser : packet.userId = 0
  · rw [if_pos huser] at hstep
    exact h.close hstep
  rw [if_neg huser] at hstep
  obtain ⟨⟨created, t⟩, hcreate, hanswer⟩ := bind_eq_ok_iff.mp hstep
  unfold createRoom at hcreate
  split_ifs at hcreate with hopen hrooms
  · cases hcreate
    exact h.respond hanswer
  · cases hcreate
    exact h.respond hanswer
  obtain ⟨⟨roomId, next⟩, hpick, hroom⟩ := bind_eq_ok_iff.mp hcreate
  have hfree : s.rooms.find (Prod.fst (roomId, s.nextRef)) = none := pickRoomId_free hpick
  have hplaces : (Room.construct config roomId
      (parseCreateMeetingOptions packet config)).options.maxParticipants = 0 := by
    simp only [Room.construct, hmax, Nat.min_zero]
  -- nobody can be added, so what is stored is the room as it was constructed
  have hadd : ∀ t : State, (t.heap s.nextRef).options.maxParticipants = 0 →
      t.addParticipant s.nextRef c true packet.userId oracle.participantOrder = (false, t) := by
    intro t ht
    simp [addParticipant, ht]
  dsimp only at hroom
  rw [hadd _ (by simpa [modifyRoom] using hplaces)] at hroom
  cases hroom
  have hget := KeyedList.find_emplace_self oracle.roomOrder hfree
  have hcreated := h.founded next { (Room.construct config roomId
      (parseCreateMeetingOptions packet config)).startExpireTimer with closeCallback := true }
    c oracle.roomOrder hfree (startExpireTimer_roomId _) (startExpireTimer_closed _) rfl
    (startExpireTimer_participants _) (by
      unfold Room.startExpireTimer
      split_ifs <;> exact hplaces)
  simp only [getRoom, modifyRoom, Function.update_self, Function.update_idem, hget,
    Option.map_some, emplaceRoute, hlobby] at hanswer
  exact hcreated.respond hanswer

/-- A joiner is told that there is no room, or that it is full. -/
theorem join (h : s.Vacant) {c : ConnId} {packet : Packet} {oracle : Oracle}
    (hopen : s.isOpen c = true)
    (hstep : s.handleJoinMeeting platform c packet oracle = .ok s') : s'.Vacant := by
  by_cases hlength : packet.payload.length < 4
  · rw [handleJoinMeeting, if_pos hlength] at hstep
    exact h.close hstep
  by_cases huser : packet.userId = 0
  · rw [handleJoinMeeting, if_neg hlength, if_pos huser] at hstep
    exact h.close hstep
  have hno : ∀ r, s.getRoom (readBe32 packet.payload) = some r → (s.heap r).closed = true ∨
      (s.heap r).options.maxParticipants ≤ (s.participants r).toList.length := by
    intro r _
    by_cases hr : (s.heap r).closed = true
    · exact Or.inl hr
    · rw [h.places (by simpa using hr)]
      exact Or.inr (Nat.zero_le _)
  obtain ⟨value, _, heq⟩ := handleJoinMeeting_of_refused platform oracle (Nat.not_lt.mp hlength)
    huser hopen hno
  rw [heq] at hstep
  cases hstep
  exact h.of_rooms rfl rfl rfl fun hroute => hroute

theorem expire (h : s.Vacant) {r : RoomRef} {depth : ℕ}
    (hstep : State.closeRoom platform (depth + 1) s r = .ok s') : s'.Vacant := by
  by_cases hr : (s.heap r).closed = true
  · rw [State.closeRoom, if_pos hr] at hstep
    cases hstep
    exact h
  have hr' : (s.heap r).closed = false := by simpa using hr
  rw [State.closeRoom_eq platform depth hr' (h.stored hr').2
    (fun c hc _ => absurd hc (h.not_isMember r c)) fun c r' hc hid => h.housed.route_inj hr' hc hid]
    at hstep
  cases hstep
  have hother : ∀ {r'}, ((s.teardown r).heap r').closed = false →
      r' ≠ r ∧ (s.heap r').closed = false := by
    intro r' hopen
    by_cases hrr : r' = r
    · simp [State.teardown, hrr] at hopen
    · exact ⟨hrr, by simpa [State.teardown, hrr] using hopen⟩
  refine ⟨?_, ?_, ?_, ?_, ?_⟩
  · intro r'
    by_cases hrr : r' = r
    · simp [participants, State.teardown, hrr]
    · simpa [participants, State.teardown, hrr] using h.empty r'
  · intro c r' hc
    by_cases hcr : s.connectionRoom c = some r
    · simp [State.teardown, hcr] at hc
    · have hroute : s.connectionRoom c = some r' := by simpa [State.teardown, hcr] using hc
      have hrr : r' ≠ r := by
        rintro rfl
        exact hcr hroute
      simpa [State.teardown, hrr] using h.route hroute
  · intro r' hopen
    obtain ⟨hrr, hopen⟩ := hother hopen
    obtain ⟨hstored, hcall⟩ := h.stored hopen
    -- two open rooms under one number would be one entry of the table
    have hne : (s.heap r').roomId ≠ (s.heap r).roomId := by
      intro hid
      have hstored' : s.Stored r := (h.stored hr').1
      rw [Stored, hid, hstored'] at hstored
      exact hrr (congrArg Prod.snd (Option.some.inj hstored)).symm
    rw [Stored]
    simp only [State.teardown, Function.update_of_ne hrr]
    exact ⟨(KeyedList.find_erase_of_ne hne).trans hstored, hcall⟩
  · intro r' hopen
    obtain ⟨hrr, hopen⟩ := hother hopen
    simpa [State.teardown, hrr] using h.places hopen
  · intro r' hnext
    by_cases hrr : r' = r
    · simp [State.teardown, hrr]
    · simpa [State.teardown, hrr] using h.freshRoom hnext

/-- Every step keeps a server without places vacant. -/
theorem step (h : s.Vacant) (hmax : config.maxParticipantsPerRoom = 0) {e : Event}
    (hstep : (system platform config).Step s e s') : s'.Vacant := by
  obtain ⟨henabled, hhandle⟩ := hstep
  cases e with
  | accept =>
    cases hhandle
    exact h.of_rooms rfl rfl rfl fun hroute => hroute
  | socketDown c =>
    cases hhandle
    exact h.of_rooms rfl rfl rfl fun hroute => hroute
  | wrote c =>
    cases hhandle
    exact h.of_rooms rfl rfl rfl fun hroute => hroute
  | close c => exact h.close hhandle
  | expire r => exact h.expire hhandle
  | packet c packet oracle =>
    simp only [Event.handle, dispatch] at hhandle
    cases hroute : s.connectionRoom c with
    | some r =>
      -- nobody takes part, so the room does not know the sender
      rw [hroute] at hhandle
      have hfind : (s.participants r).find c = none := by
        rw [h.empty r]
        exact KeyedList.find_empty c
      simp only [handlePacket, hfind, ite_self] at hhandle
      cases hhandle
      exact h
    | none =>
      rw [hroute] at hhandle
      simp only [handleLobbyPacket] at hhandle
      split at hhandle
      · exact h.create hmax hroute hhandle
      · exact h.join henabled.2 hhandle
      · exact h.close hhandle

end Vacant

end State

/-- Every reachable state, in every configuration. -/
theorem reachable_housed {platform : Platform} {config : ServerConfig} {s : State}
    (h : Reachable (system platform config) s) : s.Housed := by
  by_cases hmax : config.maxParticipantsPerRoom = 0
  · have hvacant : s.Vacant := h.invariant (fun _ hinit => hinit ▸ Vacant.start)
      fun _ _ _ _ hinv hstep => hinv.step hmax hstep
    exact hvacant.housed
  · exact (reachable_consistent (Nat.pos_of_ne_zero hmax) h).housed

end CCMeeting
