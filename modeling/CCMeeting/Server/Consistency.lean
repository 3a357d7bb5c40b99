import CCMeeting.Server.Lobby

/-! # The three maps agree

Between handlers the service routes a connection to a room exactly when the
room is open and the connection is a participant of it; the rooms of
`RoomManager` are exactly the open ones, each with one owner. Under this
invariant every step is one of a short list of effects.
-/

namespace CCMeeting

open Transition

namespace State

/-- What holds of the server between handlers. -/
structure Consistent (s : State) : Prop where
  /-- a routed connection is a participant of an open room -/
  route : ∀ {c r}, s.connectionRoom c = some r → (s.heap r).closed = false ∧ s.IsMember r c
  /-- a participant is routed to its room -/
  member : ∀ {c r}, s.IsMember r c → s.connectionRoom c = some r
  /-- the rooms of the table are open rooms under their own numbers -/
  entry : ∀ {e}, e ∈ s.rooms → (s.heap e.2).closed = false ∧ (s.heap e.2).roomId = e.1
  /-- an open room is in the table, and tells the service when it closes -/
  stored : ∀ {r}, (s.heap r).closed = false → s.Stored r ∧ (s.heap r).closeCallback = true
  /-- an open room has exactly one owner -/
  owner : ∀ {r}, (s.heap r).closed = false →
    ∃ p ∈ s.participants r, p.isOwner = true ∧ ∀ q ∈ s.participants r, q.isOwner = true → q = p
  /-- a participant has not been closed -/
  live : ∀ {c r}, s.IsMember r c → (s.connections c).closed = false
  /-- no room has been created under a reference to come -/
  freshRoom : ∀ {r}, s.nextRef ≤ r → (s.heap r).closed = true
  /-- no connection has been created under an id to come -/
  freshConnection : ∀ {c}, ¬s.Accepted c →
    s.connections c = Connection.unused ∧ s.connectionRoom c = none
  nextConnectionId_pos : 0 < s.nextConnectionId

/-! ## What a step does -/

end State

open State

/-- The connection an event is about. -/
def Event.actor : Event → Option ConnId
  | accept => none
  | packet c _ _ => some c
  | close c => some c
  | socketDown c => some c
  | wrote c => some c
  | expire _ => none

/-- The refusals of the lobby: the type and the value of the response. -/
inductive Refusal (packet : Packet) : MessageType → UInt32 → Prop where
  | create : packet.type = .createMeeting → Refusal packet .createMeetingResponse 0
  | join {value : UInt32} : packet.type = .joinMeeting → value = 0 ∨ value = 0xFFFFFFFF →
      Refusal packet .joinMeetingResponse value

/-- Everything a step can do to a consistent state. -/
inductive Effect (config : ServerConfig) (s : State) : Event → State → Prop where
  | accept : Effect config s .accept s.accept
  | socketDown {c : ConnId} : s.Accepted c →
      Effect config s (.socketDown c) (s.modifyConnection c fun k => { k with socketOpen := false })
  | wrote {c : ConnId} : s.Accepted c →
      Effect config s (.wrote c) (s.modifyConnection c Connection.written)
  /-- the timer of a closed room, or a second close -/
  | nothing {e : Event} : (∃ r, e = .expire r) ∨ (∃ c, e = .close c) → Effect config s e s
  /-- a lobby connection is closed -/
  | dropped {e : Event} {c : ConnId} : e.actor = some c → s.Accepted c →
      s.connectionRoom c = none → (s.connections c).closed = false →
      Effect config s e (s.modifyConnection c Connection.shut)
  /-- a lobby request is answered with a refusal -/
  | refused {c : ConnId} {packet : Packet} {oracle : Oracle} {type : MessageType}
      {value : UInt32} : s.connectionRoom c = none → s.isOpen c = true →
      Refusal packet type value →
      Effect config s (.packet c packet oracle) (s.deliver (only c [response type value]))
  /-- a meeting is created -/
  | created {c : ConnId} {packet : Packet} {oracle : Oracle} {roomId next : UInt32} :
      packet.type = .createMeeting → s.connectionRoom c = none → s.isOpen c = true →
      packet.userId ≠ 0 → s.rooms.toList.length < config.maxRooms →
      s.pickRoomId oracle.draws = .ok (roomId, next) →
      Effect config s (.packet c packet oracle)
        ((s.found config roomId next (parseCreateMeetingOptions packet config) c packet.userId
          oracle).deliver (only c [response .createMeetingResponse roomId]))
  /-- a meeting is joined -/
  | joined {c : ConnId} {packet : Packet} {oracle : Oracle} {r : RoomRef} :
      packet.type = .joinMeeting → s.connectionRoom c = none → s.isOpen c = true →
      4 ≤ packet.payload.length → packet.userId ≠ 0 →
      s.getRoom (readBe32 packet.payload) = some r →
      (s.heap r).closed = false →
      (s.participants r).toList.length < (s.heap r).options.maxParticipants →
      Effect config s (.packet c packet oracle)
        ((s.enroll r c packet.userId oracle).deliver
          ((s.enroll r c packet.userId oracle).joinDelivery r (readBe32 packet.payload)
            (joiner c packet.userId)))
  /-- a participant's packet changes nothing -/
  | ignored {c : ConnId} {packet : Packet} {oracle : Oracle} {r : RoomRef}
      {sender : Participant} : s.connectionRoom c = some r → s.isOpen c = true →
      (s.participants r).find c = some sender → Ignored sender packet →
      Effect config s (.packet c packet oracle) s
  /-- a participant's packet is relayed -/
  | relayed {c : ConnId} {packet : Packet} {oracle : Oracle} {r : RoomRef}
      {sender : Participant} {room : Room} {q : Queued} {exclude : ConnId} :
      s.connectionRoom c = some r → s.isOpen c = true →
      (s.participants r).find c = some sender →
      Relayed (s.heap r) c sender packet room q exclude →
      (packet.type = .textSend → Utf8.Valid packet.payload) →
      Effect config s (.packet c packet oracle)
        ((s.modifyRoom r fun _ => room).deliver (s.hearing r exclude q))
  /-- a participant that is not the owner leaves -/
  | left {c : ConnId} {r : RoomRef} {p : Participant} : s.connectionRoom c = some r →
      (s.connections c).closed = false → (s.participants r).find c = some p →
      p.isOwner = false →
      Effect config s (.close c) ((s.depart r c).deliver ((s.depart r c).hearing r 0 (exitNotice p)))
  /-- the owner leaves and the room closes -/
  | ownerLeft {c : ConnId} {r : RoomRef} {p : Participant} : s.connectionRoom c = some r →
      (s.connections c).closed = false → (s.participants r).find c = some p →
      p.isOwner = true →
      Effect config s (.close c) ((s.teardown r).modifyConnection c Connection.shut)
  /-- the time of a room is up -/
  | expired {r : RoomRef} : (s.heap r).closed = false →
      Effect config s (.expire r) (s.teardown r)

section Effect

variable {platform : Platform} {config : ServerConfig} {s s' : State}

namespace State.Consistent

/-- Routed rooms with one number are one room. -/
theorem route_inj (h : s.Consistent) {c d : ConnId} {r r' : RoomRef}
    (hc : s.connectionRoom c = some r) (hd : s.connectionRoom d = some r')
    (hid : (s.heap r').roomId = (s.heap r).roomId) : r' = r := by
  have h1 : s.Stored r := (h.stored (h.route hc).1).1
  have h2 : s.Stored r' := (h.stored (h.route hd).1).1
  rw [Stored, hid, h1] at h2
  exact (congrArg Prod.snd (Option.some.inj h2)).symm

/-- An open room is the one stored under its number. -/
theorem getRoom_eq (h : s.Consistent) {roomId : UInt32} {r : RoomRef}
    (hget : s.getRoom roomId = some r) :
    (s.heap r).closed = false ∧ (s.heap r).roomId = roomId := by
  unfold getRoom at hget
  cases hf : s.rooms.find roomId with
  | none => simp [hf] at hget
  | some e =>
    obtain ⟨he, hk⟩ := KeyedList.find_eq_some.mp hf
    have hr : e.2 = r := by simpa [hf] using hget
    obtain ⟨h1, h2⟩ := h.entry he
    rw [hr] at h1 h2
    exact ⟨h1, h2.trans hk⟩

/-- The participant record of a routed connection. -/
theorem exists_participant (h : s.Consistent) {c : ConnId} {r : RoomRef}
    (hc : s.connectionRoom c = some r) : ∃ p, (s.participants r).find c = some p := by
  obtain ⟨p, hp, hpc⟩ := (h.route hc).2
  exact ⟨p, KeyedList.find_eq_some.mpr ⟨hp, hpc⟩⟩

/-- An open connection was created. -/
theorem accepted_of_isOpen (h : s.Consistent) {c : ConnId} (hc : s.isOpen c = true) :
    s.Accepted c := by
  by_contra hno
  rw [isOpen, (h.freshConnection hno).1] at hc
  cases hc

/-- A routed connection was created. -/
theorem accepted_of_route (h : s.Consistent) {c : ConnId} {r : RoomRef}
    (hc : s.connectionRoom c = some r) : s.Accepted c := by
  by_contra hno
  rw [(h.freshConnection hno).2] at hc
  cases hc

/-- A lobby connection is nobody's participant. -/
theorem find_of_lobby (h : s.Consistent) {c : ConnId} (hc : s.connectionRoom c = none)
    (r : RoomRef) : (s.participants r).find c = none := by
  rw [KeyedList.find_eq_none]
  intro p hp hpc
  have := h.member ⟨p, hp, hpc⟩
  rw [hc] at this
  cases this

/-- An open room closes as a whole. -/
theorem closeRoom_eq (h : s.Consistent) {r : RoomRef} (hr : (s.heap r).closed = false) :
    State.closeRoom platform s.closeDepth s r = .ok (s.teardown r) := by
  refine State.closeRoom_eq platform s.nextRef hr (h.stored hr).2 (fun c hc _ => h.member hc) ?_
  -- a routed room with the number of `r` is stored where `r` is stored
  intro c r' hc hid
  have h1 : s.Stored r := (h.stored hr).1
  have h2 : s.Stored r' := (h.stored (h.route hc).1).1
  rw [Stored, hid, h1] at h2
  exact (congrArg Prod.snd (Option.some.inj h2)).symm

end State.Consistent

/-- The handlers of the lobby. -/
theorem lobby_effect (hmax : 0 < config.maxParticipantsPerRoom) (h : s.Consistent) {c : ConnId}
    {packet : Packet} {oracle : Oracle} (hlobby : s.connectionRoom c = none)
    (hc : s.isOpen c = true)
    (hstep : s.handleLobbyPacket platform config c packet oracle = .ok s') :
    Effect config s (.packet c packet oracle) s' := by
  have hclosed : (s.connections c).closed = false := Connection.closed_of_isOpen hc
  have hdrop : ∀ {t}, s.close platform c = .ok t → Effect config s (.packet c packet oracle) t := by
    intro t ht
    rw [close_of_lobby platform hclosed hlobby] at ht
    cases ht
    exact .dropped rfl (h.accepted_of_isOpen hc) hlobby hclosed
  -- create, join, or anything else, which drops the connection; the cases below follow the checks
  -- of the two handlers in their order
  unfold handleLobbyPacket at hstep
  split at hstep
  · rename_i htype
    by_cases huser : packet.userId = 0
    · rw [handleCreateMeeting, if_pos huser] at hstep
      exact hdrop hstep
    by_cases hrooms : s.rooms.toList.length < config.maxRooms
    · cases hpick : s.pickRoomId oracle.draws with
      | error stop =>
        rw [handleCreateMeeting_of_stuck platform config hc hrooms huser hpick] at hstep
        cases hstep
      | ok found =>
        obtain ⟨roomId, next⟩ := found
        rw [handleCreateMeeting_of_picked platform config hmax hc hlobby hrooms huser hpick]
          at hstep
        cases hstep
        exact .created htype hlobby hc huser hrooms hpick
    · rw [handleCreateMeeting_of_full platform config hc (Nat.not_lt.mp hrooms) huser] at hstep
      cases hstep
      exact .refused hlobby hc (.create htype)
  · rename_i htype
    by_cases hlength : packet.payload.length < 4
    · rw [handleJoinMeeting, if_pos hlength] at hstep
      exact hdrop hstep
    by_cases huser : packet.userId = 0
    · rw [handleJoinMeeting, if_neg hlength, if_pos huser] at hstep
      exact hdrop hstep
    by_cases hplace : ∃ r, s.getRoom (readBe32 packet.payload) = some r ∧
        (s.heap r).closed = false ∧
        (s.participants r).toList.length < (s.heap r).options.maxParticipants
    · obtain ⟨r, hget, hr, hfree⟩ := hplace
      rw [handleJoinMeeting_of_room platform (Nat.not_lt.mp hlength) huser hc hlobby
        (h.find_of_lobby hlobby r) hget hr hfree] at hstep
      cases hstep
      exact .joined htype hlobby hc (Nat.not_lt.mp hlength) huser hget hr hfree
    -- no room under that number, or one that is closed or full: both are told with a code
    · have hno : ∀ r, s.getRoom (readBe32 packet.payload) = some r →
          (s.heap r).closed = true ∨
            (s.heap r).options.maxParticipants ≤ (s.participants r).toList.length := by
        intro r hget
        by_cases hr : (s.heap r).closed = false
        · exact Or.inr (Nat.not_lt.mp fun hlt => hplace ⟨r, hget, hr, hlt⟩)
        · exact Or.inl (by simpa using hr)
      obtain ⟨value, hvalue, heq⟩ := handleJoinMeeting_of_refused platform oracle
        (Nat.not_lt.mp hlength) huser hc hno
      rw [heq] at hstep
      cases hstep
      exact .refused hlobby hc (.join htype hvalue)
  · exact hdrop hstep

/-- The handler of the room. -/
theorem room_effect (h : s.Consistent) {c : ConnId} {packet : Packet} {oracle : Oracle}
    {r : RoomRef} (hroute : s.connectionRoom c = some r) (hc : s.isOpen c = true)
    (hstep : s.handlePacket platform r c packet = .ok s') :
    Effect config s (.packet c packet oracle) s' := by
  have hr := (h.route hroute).1
  obtain ⟨sender, hsender⟩ := h.exists_participant hroute
  rcases relayed_or_ignored (s.heap r) c sender packet with ⟨room, q, exclude, hrel⟩ | hign
  · by_cases hvalid : packet.type = .textSend → Utf8.Valid packet.payload
    · rw [handlePacket_of_relayed platform hr hsender hrel hvalid] at hstep
      cases hstep
      exact .relayed hroute hc hsender hrel hvalid
    · obtain ⟨htype, hbroken⟩ := Classical.not_imp.mp hvalid
      rw [handlePacket_of_broken platform hr hsender htype hbroken] at hstep
      cases hstep
  · rw [handlePacket_of_ignored platform hr hsender hign] at hstep
    cases hstep
    exact .ignored hroute hc hsender hign

/-- `Connection::close` of any connection. -/
theorem close_effect (h : s.Consistent) {c : ConnId} (haccepted : s.Accepted c)
    (hstep : s.close platform c = .ok s') :
    Effect config s (.close c) s' := by
  by_cases hclosed : (s.connections c).closed = true
  · rw [close_of_closed platform hclosed] at hstep
    cases hstep
    exact .nothing (Or.inr ⟨c, rfl⟩)
  have hc : (s.connections c).closed = false := by simpa using hclosed
  cases hroute : s.connectionRoom c with
  | none =>
    rw [close_of_lobby platform hc hroute] at hstep
    cases hstep
    exact .dropped rfl haccepted hroute hc
  | some r =>
    have hr := (h.route hroute).1
    obtain ⟨p, hp⟩ := h.exists_participant hroute
    cases howner : p.isOwner with
    | false =>
      rw [close_of_member platform hc hroute hr hp howner] at hstep
      cases hstep
      exact .left hroute hc hp howner
    | true =>
      rw [close_of_owner platform hc hroute hr (h.stored hr).2 hp howner
        (fun d hd => h.member hd) (fun d r' hd hid => h.route_inj hroute hd hid)] at hstep
      cases hstep
      rw [teardown_depart hroute (h.route hroute).2]
      exact .ownerLeft hroute hc hp howner

/-- Every step of a consistent server is one of the effects. -/
theorem step_effect (hmax : 0 < config.maxParticipantsPerRoom) (h : s.Consistent) {e : Event}
    (hstep : (system platform config).Step s e s') : Effect config s e s' := by
  obtain ⟨henabled, hhandle⟩ := hstep
  cases e with
  | accept =>
    cases hhandle
    exact .accept
  | socketDown c =>
    cases hhandle
    exact .socketDown henabled
  | wrote c =>
    cases hhandle
    exact .wrote henabled.1
  | close c => exact close_effect h henabled hhandle
  | expire r =>
    by_cases hr : (s.heap r).closed = true
    · simp only [Event.handle, closeDepth, closeRoom, hr, if_true] at hhandle
      cases hhandle
      exact .nothing (Or.inl ⟨r, rfl⟩)
    -- the timer of an open room: `closeRoom` with its nested closes is one `teardown`
    · have hr : (s.heap r).closed = false := by simpa using hr
      simp only [Event.handle] at hhandle
      rw [h.closeRoom_eq hr] at hhandle
      cases hhandle
      exact .expired hr
  | packet c packet oracle =>
    simp only [Event.handle, dispatch] at hhandle
    cases hroute : s.connectionRoom c with
    | none =>
      rw [hroute] at hhandle
      exact lobby_effect hmax h hroute henabled.2 hhandle
    | some r =>
      rw [hroute] at hhandle
      exact room_effect h hroute henabled.2 hhandle

end Effect

/-! ## The invariant -/

/-- A room as it was, but for its participants and settings. -/
structure Room.Kept (room room' : Room) : Prop where
  closed : room'.closed = room.closed
  roomId : room'.roomId = room.roomId
  closeCallback : room'.closeCallback = room.closeCallback

namespace State.Consistent

variable {s : State}

theorem start : State.start.Consistent where
  route h := by cases h
  member h := by simp [IsMember, participants, State.start, Room.unused] at h
  entry h := by simp [State.start] at h
  stored h := by cases h
  owner h := by cases h
  live h := by simp [IsMember, participants, State.start, Room.unused] at h
  freshRoom _ := rfl
  freshConnection _ := ⟨rfl, rfl⟩
  nextConnectionId_pos := by decide

/-- Queued packets do not matter to the invariant. -/
theorem deliver (h : s.Consistent) {f : ConnId → List Queued}
    (hf : ∀ c, ¬s.Accepted c → f c = []) : (s.deliver f).Consistent where
  route hc := h.route hc
  member hm := h.member hm
  entry he := h.entry he
  stored hr := h.stored hr
  owner hr := h.owner hr
  live hm := by simpa using h.live hm
  freshRoom hr := h.freshRoom hr
  freshConnection := by
    intro c hc
    obtain ⟨hk, hroute⟩ := h.freshConnection hc
    exact ⟨by rw [deliver_connections, hf c hc, hk]; rfl, hroute⟩
  nextConnectionId_pos := h.nextConnectionId_pos

/-- Changing an existing connection keeps the invariant, unless it closes a
participant. -/
theorem modifyConnection (h : s.Consistent) {c : ConnId} {f : Connection → Connection}
    (hc : s.Accepted c)
    (hf : (∃ r, s.IsMember r c) → (f (s.connections c)).closed = (s.connections c).closed) :
    (s.modifyConnection c f).Consistent where
  route hr := h.route hr
  member hm := h.member hm
  entry he := h.entry he
  stored hr := h.stored hr
  owner hr := h.owner hr
  live := by
    intro d r hm
    have hd := h.live (c := d) (r := r) hm
    by_cases hdc : d = c
    · subst hdc
      simpa [State.modifyConnection] using (hf ⟨r, hm⟩).trans hd
    · simpa [State.modifyConnection, hdc] using hd
  freshRoom hr := h.freshRoom hr
  freshConnection := by
    intro d hd
    have hdc : d ≠ c := by
      rintro rfl
      exact hd hc
    simpa [State.modifyConnection, hdc] using h.freshConnection hd
  nextConnectionId_pos := h.nextConnectionId_pos

theorem accept (h : s.Consistent) : s.accept.Consistent where
  route hr := h.route hr
  member hm := h.member hm
  entry he := h.entry he
  stored hr := h.stored hr
  owner hr := h.owner hr
  live := by
    intro c r hm
    have hc := h.live (c := c) (r := r) hm
    by_cases hcn : c = s.nextConnectionId
    · simp [State.accept, hcn, Connection.accepted]
    · simpa [State.accept, hcn] using hc
  freshRoom hr := h.freshRoom hr
  freshConnection := by
    intro c hc
    have hcn : c ≠ s.nextConnectionId := by
      rintro rfl
      exact hc ⟨h.nextConnectionId_pos, Nat.lt_succ_self _⟩
    have hold : ¬s.Accepted c := fun ha => hc ⟨ha.1, Nat.lt_succ_of_lt ha.2⟩
    simpa [State.accept, hcn] using h.freshConnection hold
  nextConnectionId_pos := Nat.succ_pos _

/-- A new room with its creator. -/
theorem found (h : s.Consistent) {config : ServerConfig} {roomId next : UInt32}
    {options : RoomOptions} {c : ConnId} {userId : UInt64} {oracle : Oracle}
    (hlobby : s.connectionRoom c = none) (hc : s.isOpen c = true)
    (hfree : s.rooms.find roomId = none) :
    (s.found config roomId next options c userId oracle).Consistent := by
  have hmember : ∀ r d, (s.found config roomId next options c userId oracle).IsMember r d ↔
      if r = s.nextRef then d = c else s.IsMember r d := by
    intro r d
    by_cases hr : r = s.nextRef
    · subst hr
      rw [isMember_iff_connection]
      simp [State.found]
    · rw [isMember_iff_connection, isMember_iff_connection]
      simp [State.found, hr]
  -- the new reference was never in use, so every room that is open is another one
  have hnotRef : ∀ {r}, (s.heap r).closed = false → r ≠ s.nextRef := by
    rintro r hr rfl
    rw [h.freshRoom (Nat.le_refl _)] at hr
    cases hr
  have hfree' : s.rooms.find (Prod.fst (roomId, s.nextRef)) = none := hfree
  exact
    { route := by
        intro d r hd
        by_cases hdc : d = c
        · have hr : r = s.nextRef := by simpa [State.found, hdc, eq_comm] using hd
          exact ⟨by simp [State.found, hr], (hmember r d).mpr (by simp [hr, hdc])⟩
        · obtain ⟨h1, h2⟩ := h.route (c := d) (r := r) (by simpa [State.found, hdc] using hd)
          have hr := hnotRef h1
          exact ⟨by simpa [State.found, hr] using h1, (hmember r d).mpr (by simpa [hr] using h2)⟩
      member := by
        intro d r hm
        rw [hmember] at hm
        by_cases hr : r = s.nextRef
        · have hd : d = c := by simpa [hr] using hm
          simp [State.found, hr, hd]
        · have hroute := h.member (c := d) (r := r) (by simpa [hr] using hm)
          have hdc : d ≠ c := by
            rintro rfl
            rw [hlobby] at hroute
            cases hroute
          simpa [State.found, hdc] using hroute
      entry := by
        intro e he
        rcases (KeyedList.mem_emplace hfree').mp he with rfl | he
        · simp [State.found]
        · obtain ⟨h1, h2⟩ := h.entry he
          have hr := hnotRef h1
          simpa [State.found, hr] using And.intro h1 h2
      stored := by
        intro r hr
        by_cases hrn : r = s.nextRef
        · subst hrn
          have := KeyedList.find_emplace_self oracle.roomOrder hfree'
          simpa [State.found, Stored] using this
        · have hr' : (s.heap r).closed = false := by simpa [State.found, hrn] using hr
          obtain ⟨h1, h2⟩ := h.stored hr'
          have hid : (s.heap r).roomId ≠ roomId := by
            intro hid
            rw [Stored, hid, hfree] at h1
            cases h1
          have hfind := KeyedList.find_emplace_of_ne oracle.roomOrder hfree'
            (k := (s.heap r).roomId) (fun heq => hid heq.symm)
          refine ⟨?_, by simpa [State.found, hrn] using h2⟩
          simpa [State.found, Stored, hrn] using hfind.trans h1
      owner := by
        intro r hr
        by_cases hrn : r = s.nextRef
        · subst hrn
          simp [State.found, participants, KeyedList.mem_def]
        · have hr' : (s.heap r).closed = false := by simpa [State.found, hrn] using hr
          simpa [State.found, participants, hrn] using h.owner hr'
      live := by
        intro d r hm
        rw [hmember] at hm
        by_cases hr : r = s.nextRef
        · have hd : d = c := by simpa [hr] using hm
          rw [hd]
          exact Connection.closed_of_isOpen hc
        · exact h.live (c := d) (r := r) (by simpa [hr] using hm)
      freshRoom := by
        intro r hr
        have hr' : s.nextRef + 1 ≤ r := hr
        have hrn : r ≠ s.nextRef := by
          rintro rfl
          exact absurd hr' (Nat.not_succ_le_self _)
        have hold := h.freshRoom (Nat.le_of_succ_le hr')
        simpa [State.found, hrn] using hold
      freshConnection := by
        intro d hd
        have hdc : d ≠ c := by
          rintro rfl
          exact hd (h.accepted_of_isOpen hc)
        simpa [State.found, hdc] using h.freshConnection (c := d) hd
      nextConnectionId_pos := h.nextConnectionId_pos }

/-- The rooms stay, with their numbers and callbacks; only who takes part changes. -/
theorem of_participants (h : s.Consistent) {s' : State} (hrooms : s'.rooms = s.rooms)
    (hnext : s'.nextRef = s.nextRef) (hid : s'.nextConnectionId = s.nextConnectionId)
    (hkept : ∀ r, (s.heap r).Kept (s'.heap r))
    (hroute : ∀ {d r}, s'.connectionRoom d = some r → (s.heap r).closed = false ∧ s'.IsMember r d)
    (hmember : ∀ {d r}, s'.IsMember r d → s'.connectionRoom d = some r)
    (howner : ∀ {r}, (s.heap r).closed = false →
      ∃ p ∈ s'.participants r, p.isOwner = true ∧ ∀ q ∈ s'.participants r, q.isOwner = true → q = p)
    (hlive : ∀ {d r}, s'.IsMember r d → (s'.connections d).closed = false)
    (hfresh : ∀ {d}, ¬s.Accepted d →
      s'.connections d = Connection.unused ∧ s'.connectionRoom d = none) : s'.Consistent where
  route hd := ⟨(hkept _).closed.trans (hroute hd).1, (hroute hd).2⟩
  member hm := hmember hm
  entry he := by
    rw [hrooms] at he
    rw [(hkept _).closed, (hkept _).roomId]
    exact h.entry he
  stored hr := by
    rw [(hkept _).closed] at hr
    rw [Stored, hrooms, (hkept _).roomId, (hkept _).closeCallback]
    exact h.stored hr
  owner hr := howner ((hkept _).closed.symm.trans hr)
  live hm := hlive hm
  freshRoom hr := by
    rw [hnext] at hr
    exact (hkept _).closed.trans (h.freshRoom hr)
  freshConnection hd := by
    rw [Accepted, hid] at hd
    exact hfresh hd
  nextConnectionId_pos := by
    rw [hid]
    exact h.nextConnectionId_pos

/-- A newcomer in an open room. -/
theorem enroll (h : s.Consistent) {r : RoomRef} {c : ConnId} {userId : UInt64} {oracle : Oracle}
    (hlobby : s.connectionRoom c = none) (hc : s.isOpen c = true)
    (hr : (s.heap r).closed = false) : (s.enroll r c userId oracle).Consistent := by
  have hnew : (s.heap r).participants.find (Participant.connection (joiner c userId)) = none :=
    h.find_of_lobby hlobby r
  have hmem : ∀ r' p, p ∈ (s.enroll r c userId oracle).participants r' ↔
      (r' = r ∧ p = joiner c userId) ∨ p ∈ s.participants r' := by
    intro r' p
    by_cases hrr : r' = r
    · subst hrr
      simp [State.enroll, joinedRoom, participants, KeyedList.mem_emplace hnew]
    · simp [State.enroll, participants, hrr]
  have hmember : ∀ r' d, (s.enroll r c userId oracle).IsMember r' d ↔
      (r' = r ∧ d = c) ∨ s.IsMember r' d := by
    intro r' d
    simp only [IsMember, hmem]
    constructor
    · rintro ⟨p, ⟨hrr, rfl⟩ | hp, rfl⟩
      · exact Or.inl ⟨hrr, rfl⟩
      · exact Or.inr ⟨p, hp, rfl⟩
    · rintro (⟨hrr, rfl⟩ | ⟨p, hp, hpd⟩)
      · exact ⟨joiner d userId, Or.inl ⟨hrr, rfl⟩, rfl⟩
      · exact ⟨p, Or.inr hp, hpd⟩
  refine h.of_participants rfl rfl rfl ?_ ?_ ?_ ?_ ?_ ?_
  · intro r'
    by_cases hrr : r' = r <;> constructor <;> simp [State.enroll, joinedRoom, hrr]
  · intro d r' hd
    rw [hmember]
    by_cases hdc : d = c
    · have hrr : r' = r := by simpa [State.enroll, hdc, eq_comm] using hd
      exact ⟨by rw [hrr, hr], Or.inl ⟨hrr, hdc⟩⟩
    · obtain ⟨h1, h2⟩ := h.route (c := d) (r := r') (by simpa [State.enroll, hdc] using hd)
      exact ⟨h1, Or.inr h2⟩
  · intro d r' hm
    rcases (hmember r' d).mp hm with ⟨rfl, rfl⟩ | hm
    · simp [State.enroll]
    · have hroute := h.member hm
      have hdc : d ≠ c := by
        rintro rfl
        rw [hlobby] at hroute
        cases hroute
      simpa [State.enroll, hdc] using hroute
  -- a newcomer is never the owner
  · intro r' hr'
    obtain ⟨p, hp, howner, huniq⟩ := h.owner hr'
    refine ⟨p, (hmem r' p).mpr (Or.inr hp), howner, ?_⟩
    intro q hq hqo
    rcases (hmem r' q).mp hq with ⟨_, rfl⟩ | hq
    · cases hqo
    · exact huniq q hq hqo
  · intro d r' hm
    rcases (hmember r' d).mp hm with ⟨rfl, rfl⟩ | hm
    · exact Connection.closed_of_isOpen hc
    · exact h.live hm
  · intro d hd
    have hdc : d ≠ c := by
      rintro rfl
      exact hd (h.accepted_of_isOpen hc)
    simpa [State.enroll, hdc] using h.freshConnection (c := d) hd

/-- A relayed packet changes neither who is in the room nor who owns it. -/
theorem relayed (h : s.Consistent) {r : RoomRef} {room : Room} {c exclude : ConnId}
    {sender : Participant} {packet : Packet} {q : Queued}
    (hrel : Relayed (s.heap r) c sender packet room q exclude) :
    (s.modifyRoom r fun _ => room).Consistent := by
  refine h.of_participants rfl rfl rfl ?_ ?_ ?_ ?_ ?_ fun hd => h.freshConnection hd
  · intro r'
    by_cases hrr : r' = r
    · subst hrr
      constructor <;> simp [State.modifyRoom, hrel.closed, hrel.roomId, hrel.closeCallback]
    · constructor <;> simp [State.modifyRoom, hrr]
  · intro d r' hd
    rw [hrel.isMember]
    exact h.route hd
  · intro d r' hm
    exact h.member ((hrel.isMember r' d).mp hm)
  -- a profile may change what a participant is called, not who owns the room
  · intro r' hr'
    obtain ⟨p, hp, howner, huniq⟩ := h.owner hr'
    by_cases hrr : r' = r
    · subst hrr
      obtain ⟨f, hf, hkeep⟩ := hrel.exists_map
      have hlist : ((s.modifyRoom r' fun _ => room).participants r').toList =
          (s.participants r').toList.map f := by
        simpa [State.modifyRoom, participants] using hf
      refine ⟨f p, ?_, by rw [(hkeep p).2, howner], ?_⟩
      · rw [KeyedList.mem_def, hlist]
        exact List.mem_map_of_mem hp
      · intro q' hq' hqo
        rw [KeyedList.mem_def, hlist] at hq'
        obtain ⟨x, hx, rfl⟩ := List.mem_map.mp hq'
        rw [huniq x hx (by rw [← (hkeep x).2, hqo])]
    · have hsame : (s.modifyRoom r fun _ => room).participants r' = s.participants r' := by
        simp [State.modifyRoom, participants, hrr]
      rw [hsame]
      exact ⟨p, hp, howner, huniq⟩
  · intro d r' hm
    exact h.live ((hrel.isMember r' d).mp hm)

/-- A participant that is not the owner is gone. -/
theorem depart (h : s.Consistent) {r : RoomRef} {c : ConnId} {p : Participant}
    (hroute : s.connectionRoom c = some r) (hp : (s.participants r).find c = some p)
    (howner : p.isOwner = false) : (s.depart r c).Consistent := by
  have hother : ∀ {r'}, s.IsMember r' c → r' = r := by
    intro r' hm
    have := h.member hm
    rw [hroute] at this
    exact (Option.some.inj this).symm
  have hmember : ∀ r' d, (s.depart r c).IsMember r' d ↔ s.IsMember r' d ∧ d ≠ c := by
    intro r' d
    by_cases hrr : r' = r
    · subst hrr
      exact isMember_depart
    · have hsame : (s.depart r c).IsMember r' d ↔ s.IsMember r' d := by
        rw [isMember_iff_connection, isMember_iff_connection]
        simp [State.depart, hrr]
      rw [hsame, iff_self_and]
      rintro hm rfl
      exact hrr (hother hm)
  refine h.of_participants rfl rfl rfl ?_ ?_ ?_ ?_ ?_ ?_
  · intro r'
    by_cases hrr : r' = r <;> constructor <;> simp [State.depart, hrr]
  · intro d r' hd
    have hdc : d ≠ c := by
      rintro rfl
      simp [State.depart] at hd
    obtain ⟨h1, h2⟩ := h.route (c := d) (r := r') (by simpa [State.depart, hdc] using hd)
    rw [hmember]
    exact ⟨h1, h2, hdc⟩
  · intro d r' hm
    obtain ⟨hm, hdc⟩ := (hmember r' d).mp hm
    simpa [State.depart, hdc] using h.member hm
  -- the one that left was not the owner, so the owner is still there
  · intro r' hr'
    obtain ⟨o, ho, hoo, huniq⟩ := h.owner hr'
    by_cases hrr : r' = r
    · subst hrr
      obtain ⟨hpm, hpc⟩ := KeyedList.find_eq_some.mp hp
      have hoc : o.connection ≠ c := by
        intro hoc
        rw [KeyedList.eq_of_key ho hpm (hoc.trans hpc.symm), howner] at hoo
        cases hoo
      have hlist : ∀ q, q ∈ (s.depart r' c).participants r' ↔
          q ∈ s.participants r' ∧ q.connection ≠ c := by
        intro q
        simp [State.depart, participants]
      exact ⟨o, (hlist o).mpr ⟨ho, hoc⟩, hoo, fun q hq hqo => huniq q ((hlist q).mp hq).1 hqo⟩
    · have hsame : (s.depart r c).participants r' = s.participants r' := by
        simp [State.depart, participants, hrr]
      rw [hsame]
      exact ⟨o, ho, hoo, huniq⟩
  · intro d r' hm
    obtain ⟨hm, hdc⟩ := (hmember r' d).mp hm
    simpa [State.depart, hdc] using h.live hm
  · intro d hd
    have hdc : d ≠ c := by
      rintro rfl
      exact hd (h.accepted_of_route hroute)
    simpa [State.depart, hdc] using h.freshConnection (c := d) hd

/-- A room is gone. -/
theorem teardown (h : s.Consistent) {r : RoomRef} (hr : (s.heap r).closed = false) :
    (s.teardown r).Consistent := by
  have hgone : ((s.teardown r).heap r).closed = true := by simp [State.teardown]
  have hopen : ∀ {r'}, ((s.teardown r).heap r').closed = false →
      r' ≠ r ∧ (s.heap r').closed = false := by
    intro r' hr'
    have hrr : r' ≠ r := by
      rintro rfl
      rw [hgone] at hr'
      cases hr'
    rw [s.heap_teardown_of_ne hrr] at hr'
    exact ⟨hrr, hr'⟩
  exact
    { route := by
        intro d r' hd
        obtain ⟨hd, hrr⟩ := connectionRoom_teardown.mp hd
        obtain ⟨h1, h2⟩ := h.route hd
        exact ⟨by rw [s.heap_teardown_of_ne hrr]; exact h1, isMember_teardown.mpr ⟨h2, hrr⟩⟩
      member := by
        intro d r' hm
        obtain ⟨hm, hrr⟩ := isMember_teardown.mp hm
        exact connectionRoom_teardown.mpr ⟨h.member hm, hrr⟩
      entry := by
        intro e he
        obtain ⟨he, hne⟩ := KeyedList.mem_erase.mp he
        obtain ⟨h1, h2⟩ := h.entry he
        have hrr : e.2 ≠ r := by
          intro hrr
          rw [hrr] at h2
          exact hne h2.symm
        rw [s.heap_teardown_of_ne hrr]
        exact ⟨h1, h2⟩
      stored := by
        intro r' hr'
        obtain ⟨hrr, hr'⟩ := hopen hr'
        obtain ⟨h1, h2⟩ := h.stored hr'
        -- two open rooms under one number would be one entry of the table
        have hid : (s.heap r').roomId ≠ (s.heap r).roomId := by
          intro hid
          have h3 : s.Stored r := (h.stored hr).1
          rw [Stored, hid, h3] at h1
          exact hrr (congrArg Prod.snd (Option.some.inj h1)).symm
        rw [Stored, s.heap_teardown_of_ne hrr]
        exact ⟨(KeyedList.find_erase_of_ne hid).trans h1, h2⟩
      owner := by
        intro r' hr'
        obtain ⟨hrr, hr'⟩ := hopen hr'
        have hsame : (s.teardown r).participants r' = s.participants r' := by
          rw [participants, s.heap_teardown_of_ne hrr]
          rfl
        rw [hsame]
        exact h.owner hr'
      live := by
        intro d r' hm
        obtain ⟨hm, hrr⟩ := isMember_teardown.mp hm
        have hd : ¬s.IsMember r d := by
          intro hmr
          have h1 := h.member hm
          rw [h.member hmr] at h1
          exact hrr (Option.some.inj h1).symm
        simpa [State.teardown, hd] using h.live hm
      freshRoom := by
        intro r' hr'
        by_cases hrr : r' = r
        · rw [hrr, hgone]
        · rw [s.heap_teardown_of_ne hrr]
          exact h.freshRoom hr'
      freshConnection := by
        intro d hd
        obtain ⟨h1, h2⟩ := h.freshConnection (c := d) hd
        have hno : ¬s.IsMember r d := by
          intro hm
          rw [h.member hm] at h2
          cases h2
        simp [State.teardown, hno, h1, h2]
      nextConnectionId_pos := h.nextConnectionId_pos }

end State.Consistent

/-! ## Every reachable state -/

/-- The effects keep the invariant. -/
theorem Effect.consistent {config : ServerConfig} {s s' : State} {e : Event}
    (he : Effect config s e s') (h : s.Consistent) : s'.Consistent := by
  -- what is queued goes to open connections, so never to an id that is still to come
  have honly : ∀ {c} qs, s.isOpen c = true → ∀ d, ¬s.Accepted d → only c qs d = [] := by
    intro c qs hc d hd
    refine only_of_ne ?_ qs
    rintro rfl
    exact hd (h.accepted_of_isOpen hc)
  have hhearing : ∀ {r exclude} q, ∀ d, ¬s.Accepted d → s.hearing r exclude q d = [] := by
    intro r exclude q d hd
    refine if_neg ?_
    rintro ⟨_, _, hopen⟩
    exact hd (h.accepted_of_isOpen hopen)
  cases he with
  | accept => exact h.accept
  | socketDown hc => exact h.modifyConnection hc fun _ => rfl
  | wrote hc => exact h.modifyConnection hc fun _ => Connection.written_closed _
  | nothing _ => exact h
  | @dropped _ c _ hc hlobby _ =>
    refine h.modifyConnection hc ?_
    rintro ⟨r, hm⟩
    rw [h.member hm] at hlobby
    cases hlobby
  | refused _ hopen _ => exact h.deliver (honly _ hopen)
  | created _ hlobby hopen _ _ hpick =>
    exact (h.found hlobby hopen (pickRoomId_free hpick)).deliver (honly _ hopen)
  | @joined c packet oracle r _ hlobby hopen _ _ _ hr _ =>
    refine (h.enroll hlobby hopen hr).deliver ?_
    intro d hd
    have hd' : ¬(s.enroll r c packet.userId oracle).isOpen d = true :=
      fun ho => hd (h.accepted_of_isOpen (c := d) ho)
    have hdc : d ≠ c := by
      rintro rfl
      exact hd' hopen
    simp [joinDelivery, hearing, Hears, hd', only_of_ne hdc]
  | ignored _ _ _ _ => exact h
  | relayed _ _ _ hrel _ => exact (h.relayed hrel).deliver (hhearing _)
  | @left c r p hroute _ hp howner =>
    have hd := h.depart hroute hp howner
    refine hd.deliver ?_
    intro d hno
    refine if_neg ?_
    rintro ⟨_, _, hopen⟩
    exact hno (hd.accepted_of_isOpen hopen)
  | @ownerLeft c r p hroute _ _ _ =>
    refine (h.teardown (h.route hroute).1).modifyConnection (h.accepted_of_route hroute) ?_
    rintro ⟨r', hm⟩
    have := (h.teardown (h.route hroute).1).member hm
    simp [State.teardown, hroute] at this
  | expired hr => exact h.teardown hr

section Reachable

variable {platform : Platform} {config : ServerConfig} {s : State}

theorem reachable_consistent (hmax : 0 < config.maxParticipantsPerRoom)
    (h : Reachable (system platform config) s) : s.Consistent :=
  h.invariant (fun _ hinit => hinit ▸ State.Consistent.start)
    (fun _ _ _ _ hinv hstep => (step_effect hmax hinv hstep).consistent hinv)

end Reachable

end CCMeeting
