import CCMeeting.Server.Wire

/-! # Capacity and room parameters

The options a `CreateMeeting` payload asks for are clamped when they are read,
the constructor of `Room` caps them once more, and every way into a room checks
for a free place. What a run leaves of all this: the parameters of every room
ever created, the size of every room, and the size of the table.
-/

namespace CCMeeting

open ByteString Transition State

/-! ## Clamping -/

theorem clamp_bounds {v lo hi : UInt32} (h : lo ≤ hi) : lo ≤ clamp v lo hi ∧ clamp v lo hi ≤ hi := by
  simp only [clamp, UInt32.le_iff_toNat_le, UInt32.lt_iff_toNat_lt] at h ⊢
  split_ifs with h1 h2 <;> constructor <;> omega

/-- What every payload is read as, however long it is. -/
theorem parseCreateMeetingOptions_bounds (packet : Packet) {config : ServerConfig}
    (hmin : 2 ≤ config.maxParticipantsPerRoom) (hmax : config.maxParticipantsPerRoom < 2 ^ 32) :
    (2 ≤ (parseCreateMeetingOptions packet config).maxParticipants ∧
      (parseCreateMeetingOptions packet config).maxParticipants ≤ config.maxParticipantsPerRoom) ∧
    (1 ≤ (parseCreateMeetingOptions packet config).durationMinutes ∧
      (parseCreateMeetingOptions packet config).durationMinutes ≤ 1440) := by
  have hhard : (UInt32.ofNat config.maxParticipantsPerRoom).toNat = config.maxParticipantsPerRoom :=
    UInt32.toNat_ofNat_of_lt' hmax
  constructor
  · -- the bound is converted to 32 bits, which loses nothing below 2 ^ 32
    have hle : kMinParticipants ≤ UInt32.ofNat config.maxParticipantsPerRoom := by
      rw [UInt32.le_iff_toNat_le, hhard]
      exact hmin
    have hbounds := clamp_bounds (v := if 8 ≤ packet.payload.length then readBe32 packet.payload
      else UInt32.ofNat config.maxParticipantsPerRoom) hle
    rw [UInt32.le_iff_toNat_le, UInt32.le_iff_toNat_le, hhard] at hbounds
    exact hbounds
  · exact clamp_bounds (by decide)

/-! ## The rooms of a run -/

/-- The parameters of a room, its timer and its places, as the bounds want them. -/
structure Room.WithinLimits (config : ServerConfig) (room : Room) : Prop where
  two_le : 2 ≤ room.options.maxParticipants
  le_config : room.options.maxParticipants ≤ config.maxParticipantsPerRoom
  one_le_duration : 1 ≤ room.options.durationMinutes
  duration_le : room.options.durationMinutes ≤ 1440
  /-- the expiry timer is armed as long as the room is open -/
  armed : room.closed = false → room.expireTimer = true
  place : room.participants.toList.length ≤ room.options.maxParticipants

/-- The options a room is constructed with because of a `CreateMeeting`. -/
def constructedOptions (config : ServerConfig) (packet : Packet) : RoomOptions :=
  (Room.construct config 0 (parseCreateMeetingOptions packet config)).options

/-- What holds of a room from its construction on, whatever the bounds are. -/
structure Room.Regular (config : ServerConfig) (room : Room) : Prop where
  options : ∃ packet, room.options = constructedOptions config packet
  armed : room.closed = false → room.expireTimer = true
  place : room.participants.toList.length ≤ room.options.maxParticipants

theorem constructedOptions_pos {config : ServerConfig}
    (hpos : 0 < config.maxParticipantsPerRoom) (packet : Packet) :
    0 < (constructedOptions config packet).maxParticipants := by
  simp only [constructedOptions, Room.construct]
  split_ifs <;> omega

/-- No room is without a time limit. -/
theorem constructedOptions_duration (config : ServerConfig) (packet : Packet) :
    1 ≤ (constructedOptions config packet).durationMinutes ∧
      (constructedOptions config packet).durationMinutes ≤ 1440 :=
  clamp_bounds (by decide)

/-- The cap of the constructor changes nothing that has been clamped. -/
theorem constructedOptions_eq (packet : Packet) {config : ServerConfig}
    (hmin : 2 ≤ config.maxParticipantsPerRoom) (hmax : config.maxParticipantsPerRoom < 2 ^ 32) :
    constructedOptions config packet = parseCreateMeetingOptions packet config := by
  rcases (parseCreateMeetingOptions_bounds packet hmin hmax).1 with ⟨h1, h2⟩
  have hcap : min (if (parseCreateMeetingOptions packet config).maxParticipants = 0 then
      config.maxParticipantsPerRoom
      else (parseCreateMeetingOptions packet config).maxParticipants)
      config.maxParticipantsPerRoom =
      (parseCreateMeetingOptions packet config).maxParticipants := by
    rw [if_neg (by omega)]
    exact min_eq_left h2
  simp [constructedOptions, Room.construct, hcap]

namespace Room.Regular

variable {config : ServerConfig} {room : Room}

theorem withinLimits (h : room.Regular config) (hmin : 2 ≤ config.maxParticipantsPerRoom)
    (hmax : config.maxParticipantsPerRoom < 2 ^ 32) : room.WithinLimits config := by
  rcases h.options with ⟨packet, hoptions⟩
  rw [constructedOptions_eq packet hmin hmax] at hoptions
  rcases parseCreateMeetingOptions_bounds packet hmin hmax with ⟨⟨h1, h2⟩, h3, h4⟩
  rw [← hoptions] at h1 h2 h3 h4
  exact ⟨h1, h2, h3, h4, h.armed, h.place⟩

/-- The parameters stay, whatever happens to the participants. -/
theorem of_participants (h : room.Regular config) {participants : Participants}
    (hle : participants.toList.length ≤ room.options.maxParticipants) :
    ({ room with participants := participants } : Room).Regular config :=
  { h with place := hle }

/-- A new room: the timer is started because no duration is zero. -/
theorem founded (hpos : 0 < config.maxParticipantsPerRoom) (roomId : UInt32) (packet : Packet)
    (c : ConnId) (userId : UInt64) (oracle : Oracle) :
    (foundedRoom config roomId (parseCreateMeetingOptions packet config) c userId
      oracle).Regular config := by
  have hduration : (parseCreateMeetingOptions packet config).durationMinutes ≠ 0 := by
    intro h0
    have h1 : 1 ≤ (parseCreateMeetingOptions packet config).durationMinutes :=
      (constructedOptions_duration config packet).1
    rw [h0] at h1
    exact absurd h1 (by decide)
  have hoptions : (foundedRoom config roomId (parseCreateMeetingOptions packet config) c userId
      oracle).options = constructedOptions config packet := by
    simp [foundedRoom, Room.startExpireTimer, Room.construct, hduration, constructedOptions]
  constructor
  · exact ⟨packet, hoptions⟩
  · intro _
    simp [foundedRoom, Room.startExpireTimer, Room.construct, hduration]
  · rw [foundedRoom_participants, hoptions]
    exact constructedOptions_pos hpos packet

/-- A closed room keeps its parameters and has no participants. -/
theorem closed (h : room.Regular config) :
    ({ room with closed := true, expireTimer := false, participants := ∅ } : Room).Regular
      config :=
  { h with
    armed := by simp
    place := by simp }

/-- What a participant sends keeps the parameters and the number of
participants. -/
theorem relayed (h : room.Regular config) {room' : Room} {c exclude : ConnId}
    {sender : Participant} {packet : Packet} {q : Queued}
    (hrel : Relayed room c sender packet room' q exclude) : room'.Regular config := by
  rcases hrel.exists_map with ⟨f, hf, _⟩
  have hplace : room'.participants.toList.length ≤ room.options.maxParticipants := by
    rw [hf, List.length_map]
    exact h.place
  cases hrel with
  | text _ => exact h
  | camera _ => exact h
  | profile _ => exact h.of_participants hplace
  | settings _ _ => exact { h with }

end Room.Regular

namespace State

/-- An open room was created. -/
theorem Consistent.lt_nextRef {s : State} (h : s.Consistent) {r : RoomRef}
    (hr : (s.heap r).closed = false) : r < s.nextRef := by
  by_contra hge
  rw [h.freshRoom (Nat.not_lt.mp hge)] at hr
  cases hr

/-- What holds of a server: the size of its table, and every room it has created. -/
structure Regular (config : ServerConfig) (s : State) : Prop where
  rooms : s.rooms.toList.length ≤ config.maxRooms
  room : ∀ r < s.nextRef, (s.heap r).Regular config

namespace Regular

variable {config : ServerConfig} {s : State}

/-- Connections, queues and routes have no part in it. -/
theorem congr (h : s.Regular config) {t : State} (hrooms : t.rooms = s.rooms)
    (hheap : t.heap = s.heap) (hnext : t.nextRef = s.nextRef) : t.Regular config := by
  constructor
  · rw [hrooms]
    exact h.rooms
  · rw [hheap, hnext]
    exact h.room

/-- One room changes. -/
theorem update (h : s.Regular config) {r : RoomRef} {room : Room}
    (hroom : r < s.nextRef → room.Regular config) :
    ∀ r' < s.nextRef, (Function.update s.heap r room r').Regular config := by
  intro r' hr'
  by_cases heq : r' = r
  · subst heq
    rw [Function.update_self]
    exact hroom hr'
  · rw [Function.update_of_ne heq]
    exact h.room r' hr'

/-- The server with one more room. -/
theorem found (h : s.Regular config) (hpos : 0 < config.maxParticipantsPerRoom)
    {roomId : UInt32} (next : UInt32) (hrooms : s.rooms.toList.length < config.maxRooms)
    (hfree : s.rooms.find roomId = none)
    (packet : Packet) (c : ConnId) (userId : UInt64) (oracle : Oracle) :
    (s.found config roomId next (parseCreateMeetingOptions packet config) c userId
      oracle).Regular config where
  rooms := by
    have hperm : (s.rooms.emplace (roomId, s.nextRef) oracle.roomOrder).toList.Perm
        ((roomId, s.nextRef) :: s.rooms.toList) := KeyedList.emplace_perm hfree
    have hlength := hperm.length_eq
    simp only [List.length_cons] at hlength
    show (s.rooms.emplace (roomId, s.nextRef) oracle.roomOrder).toList.length ≤ config.maxRooms
    rw [hlength]
    exact hrooms
  room r hr := by
    have hr' : r < s.nextRef + 1 := hr
    show (Function.update s.heap s.nextRef _ r).Regular config
    by_cases heq : r = s.nextRef
    · subst heq
      rw [Function.update_self]
      exact Room.Regular.founded hpos roomId packet c userId oracle
    · rw [Function.update_of_ne heq]
      exact h.room r (Nat.lt_of_le_of_ne (Nat.lt_succ_iff.mp hr') heq)

/-- One more participant where there was a place. -/
theorem enroll (h : s.Regular config) {r : RoomRef} {c : ConnId} (userId : UInt64)
    (oracle : Oracle) (hnew : (s.participants r).find c = none)
    (hplace : (s.participants r).toList.length < (s.heap r).options.maxParticipants) :
    (s.enroll r c userId oracle).Regular config where
  rooms := h.rooms
  room := by
    refine h.update ?_
    intro hr
    refine (h.room r hr).of_participants ?_
    have hlength :
        ((s.participants r).emplace (joiner c userId) oracle.participantOrder).toList.length =
          (joiner c userId :: (s.participants r).toList).length :=
      (KeyedList.emplace_perm hnew).length_eq
    simp only [List.length_cons] at hlength
    show ((s.participants r).emplace (joiner c userId) oracle.participantOrder).toList.length ≤ _
    omega

/-- A participant leaves. -/
theorem depart (h : s.Regular config) (r : RoomRef) (c : ConnId) :
    (s.depart r c).Regular config where
  rooms := h.rooms
  room := by
    refine h.update ?_
    intro hr
    refine (h.room r hr).of_participants ?_
    exact le_trans (List.length_filter_le _ _) (h.room r hr).place

/-- A room closes. -/
theorem teardown (h : s.Regular config) (r : RoomRef) :
    (s.teardown r).Regular config where
  rooms := le_trans (List.length_filter_le _ _) h.rooms
  room := h.update fun hr => (h.room r hr).closed

end Regular

end State

/-! ## Every step, every run -/

section Run

variable {platform : Platform} {config : ServerConfig} {s s' : State}

/-- Every effect keeps the rooms regular. -/
theorem Effect.regular (hpos : 0 < config.maxParticipantsPerRoom) {e : Event}
    (he : Effect config s e s')
    (hcons : s.Consistent) (h : s.Regular config) : s'.Regular config := by
  cases he with
  | accept => exact h.congr rfl rfl rfl
  | socketDown _ => exact h.congr rfl rfl rfl
  | wrote _ => exact h.congr rfl rfl rfl
  | nothing _ => exact h
  | dropped _ _ _ _ => exact h.congr rfl rfl rfl
  | refused _ _ _ => exact h.congr rfl rfl rfl
  | @created c packet oracle roomId next _ _ _ _ hrooms hpick =>
    exact (h.found hpos next hrooms (pickRoomId_free hpick) _ _ _ _).congr rfl rfl rfl
  | joined _ hlobby _ _ _ _ _ hplace =>
    exact (h.enroll _ _ (hcons.find_of_lobby hlobby _) hplace).congr rfl rfl rfl
  | ignored _ _ _ _ => exact h
  | @relayed c packet oracle r sender room q exclude _ _ _ hrel _ =>
    have hroom : (s.modifyRoom r fun _ => room).Regular config :=
      ⟨h.rooms, h.update fun hr => (h.room r hr).relayed hrel⟩
    exact hroom.congr rfl rfl rfl
  | left _ _ _ _ => exact (h.depart _ _).congr rfl rfl rfl
  | ownerLeft _ _ _ _ => exact (h.teardown _).congr rfl rfl rfl
  | expired _ => exact h.teardown _

theorem reachable_regular (hpos : 0 < config.maxParticipantsPerRoom)
    (h : Reachable (system platform config) s) :
    s.Regular config := by
  refine h.invariant (I := State.Regular config) ?_ ?_
  · intro s hinit
    rw [show s = State.start from hinit]
    constructor
    · exact Nat.zero_le _
    · intro r hr
      exact absurd hr (Nat.not_lt_zero r)
  · intro s e s' hr hinv hstep
    have hcons := reachable_consistent hpos hr
    exact (step_effect hpos hcons hstep).regular hpos hcons hinv

end Run

/-! ## The result -/

/-- With a bound that fits the 32 bits of the wire: every room of a run has
parameters within the bounds, a timer while it is open and at most as many
participants as it may have; the table has at most `max_rooms` rooms; and no
`CreateMeeting` payload makes any other room. -/
theorem capacity (platform : Platform) {config : ServerConfig}
    (hmin : 2 ≤ config.maxParticipantsPerRoom)
    (hmax : config.maxParticipantsPerRoom ≤ 2 ^ 32 - 1) {s : State}
    (h : Reachable (system platform config) s) :
    (∀ r < s.nextRef, (s.heap r).WithinLimits config) ∧
    s.rooms.toList.length ≤ config.maxRooms ∧
    (∀ e ∈ s.rooms, e.2 < s.nextRef ∧ (s.heap e.2).closed = false) ∧
    ∀ c packet oracle roomId next, s.connectionRoom c = none → s.isOpen c = true →
      packet.type = .createMeeting → packet.userId ≠ 0 →
      s.rooms.toList.length < config.maxRooms →
      s.pickRoomId oracle.draws = .ok (roomId, next) →
      ∃ s', s.dispatch platform config c packet oracle = .ok s' ∧
        s'.rooms.find roomId = some (roomId, s.nextRef) ∧
        (s'.heap s.nextRef).WithinLimits config ∧ (s'.heap s.nextRef).expireTimer = true := by
  have hlt : config.maxParticipantsPerRoom < 2 ^ 32 := by omega
  have hpos : 0 < config.maxParticipantsPerRoom := by omega
  have hcons := reachable_consistent hpos h
  have hregular := reachable_regular hpos h
  refine ⟨fun r hr => (hregular.room r hr).withinLimits hmin hlt, hregular.rooms, ?_, ?_⟩
  · intro e he
    have hopen := (hcons.entry he).1
    exact ⟨hcons.lt_nextRef hopen, hopen⟩
  · intro c packet oracle roomId next hlobby hopen htype huser hrooms hpick
    -- the new room's limits are the clamped options of the request
    have hfounded := (Room.Regular.founded hpos roomId packet c packet.userId oracle).withinLimits
      hmin hlt
    have hfree : s.rooms.find (Prod.fst (roomId, s.nextRef)) = none := pickRoomId_free hpick
    have hstored := KeyedList.find_emplace_self oracle.roomOrder hfree
    refine ⟨(s.found config roomId next (parseCreateMeetingOptions packet config) c packet.userId
      oracle).deliver (only c [response .createMeetingResponse roomId]), ?_, hstored, ?_, ?_⟩
    · rw [dispatch, hlobby]
      dsimp only
      rw [handleLobbyPacket, htype]
      exact handleCreateMeeting_of_picked platform config hpos hopen hlobby hrooms huser hpick
    · simpa [found] using hfounded
    · simpa [found] using hfounded.armed (foundedRoom_closed config _ _ _ _ _)

/-- Somebody asks for 5000000 places and a meeting without end. -/
def greedyCreation : List Event :=
  [.accept, .packet 1 { type := .createMeeting, userId := 7, payload := [0, 76, 75, 64, 255,
    255, 255, 255] } .plain]

/-- The room made of it is within the limits. -/
theorem capacity_of_greedy_creator :
    ∃ s, replay (next reference {}) State.start greedyCreation = some s ∧
      (s.heap 0).WithinLimits {} := by
  have hrun : (replay (next reference {}) State.start greedyCreation).any
      (fun s => s.nextRef = 1) = true := by
    decide +kernel
  rcases Option.any_eq_true _ _ |>.mp hrun with ⟨s, hs, hnext⟩
  refine ⟨s, hs, ?_⟩
  have hlimits := (capacity reference (by decide) (by decide) (reachable_of_replay _ _ hs)).1
  refine hlimits 0 ?_
  rw [of_decide_eq_true hnext]
  exact Nat.one_pos

end CCMeeting
