import CCMeeting.Server.Effects

/-! # What the lobby handlers do

Closed forms of `create_room`, `join_room` and the handlers around them, and
the room number a new room gets.
-/

namespace CCMeeting

namespace State

/-! ## Room numbers -/

theorem drawRoomId_free {s : State} {draws : Draws} (h : s.drawRoomId draws ≠ 0) :
    s.rooms.find (s.drawRoomId draws) = none := by
  unfold drawRoomId at h ⊢
  cases hf : ((List.range kRoomIdAttempts).map draws.value).find?
      (fun candidate => (s.rooms.find candidate).isNone) with
  | none => simp [hf] at h
  | some candidate => simpa using List.find?_some hf

theorem sequentialRoomId_free {rooms : RoomTable} {fuel : ℕ} {next roomId after : UInt32}
    (h : sequentialRoomId rooms fuel next = some (roomId, after)) : rooms.find roomId = none := by
  induction fuel generalizing next with
  | zero => cases h
  | succ fuel ih =>
    rw [sequentialRoomId] at h
    split_ifs at h with hfree
    · cases h
      simpa using hfree
    · exact ih h

/-- The number of a new room is not in use. -/
theorem pickRoomId_free {s : State} {draws : Draws} {roomId next : UInt32}
    (h : s.pickRoomId draws = .ok (roomId, next)) : s.rooms.find roomId = none := by
  unfold pickRoomId at h
  split_ifs at h with hdraw
  · cases h
    exact drawRoomId_free hdraw
  · split at h
    · rename_i found hfound
      cases h
      exact sequentialRoomId_free hfound
    · cases h

/-! ## Creating -/

/-- The participant a `CreateMeeting` adds. -/
abbrev creator (c : ConnId) (userId : UInt64) : Participant :=
  { connection := c, userId, isOwner := true }

/-- The participant a `JoinMeeting` adds. -/
abbrev joiner (c : ConnId) (userId : UInt64) : Participant :=
  { connection := c, userId, isOwner := false }

section Closed

variable (platform : Platform) (config : ServerConfig)

/-- A response packet. -/
def response (type : MessageType) (value : UInt32) : Queued :=
  ⟨{ type, payload := writeBe32 value }, []⟩

theorem respond_eq {s : State} {c : ConnId} {type : MessageType} (value : UInt32)
    (hc : (s.connections c).closed = false) (htype : type.isTextType = false) :
    s.respond platform c type value = .ok (s.deliver (only c [response type value])) := by
  obtain ⟨text, htext⟩ := encode_of_not_text platform
    (show (response type value).packet.type.isTextType = false from htype)
  have hencode : encodeOrStop platform { type := type, payload := writeBe32 value } = .ok text :=
    encodeOrStop_of_encode platform htext
  rw [respond]
  dsimp only
  rw [hencode]
  exact congrArg Except.ok (send_eq_deliver hc (encode_ne_nil htext) _)

/-- The room a successful `CreateMeeting` makes. -/
def foundedRoom (roomId : UInt32) (options : RoomOptions) (c : ConnId) (userId : UInt64)
    (oracle : Oracle) : Room :=
  { ({ Room.construct config roomId options with
        participants := (∅ : Participants).emplace (creator c userId) oracle.participantOrder } :
          Room).startExpireTimer with
    closeCallback := true }

/-- The server after a successful `CreateMeeting`, before the response. -/
def found (s : State) (roomId next : UInt32) (options : RoomOptions) (c : ConnId)
    (userId : UInt64) (oracle : Oracle) : State :=
  { s with
    heap := Function.update s.heap s.nextRef (foundedRoom config roomId options c userId oracle)
    nextRef := s.nextRef + 1
    rooms := s.rooms.emplace (roomId, s.nextRef) oracle.roomOrder
    nextRoomId := next
    connectionRoom := Function.update s.connectionRoom c (some s.nextRef) }

theorem startExpireTimer_participants (room : Room) :
    room.startExpireTimer.participants = room.participants := by
  unfold Room.startExpireTimer
  split_ifs <;> rfl

theorem startExpireTimer_closed (room : Room) : room.startExpireTimer.closed = room.closed := by
  unfold Room.startExpireTimer
  split_ifs <;> rfl

theorem startExpireTimer_roomId (room : Room) : room.startExpireTimer.roomId = room.roomId := by
  unfold Room.startExpireTimer
  split_ifs <;> rfl

theorem startExpireTimer_settings (room : Room) :
    room.startExpireTimer.settings = room.settings := by
  unfold Room.startExpireTimer
  split_ifs <;> rfl

section Founded

variable (roomId : UInt32) (options : RoomOptions) (c : ConnId) (userId : UInt64)
  (oracle : Oracle)

@[simp] theorem foundedRoom_closed :
    (foundedRoom config roomId options c userId oracle).closed = false :=
  startExpireTimer_closed _

@[simp] theorem foundedRoom_roomId :
    (foundedRoom config roomId options c userId oracle).roomId = roomId :=
  startExpireTimer_roomId _

@[simp] theorem foundedRoom_settings :
    (foundedRoom config roomId options c userId oracle).settings = kRoomSettingsDefault :=
  startExpireTimer_settings _

@[simp] theorem foundedRoom_closeCallback :
    (foundedRoom config roomId options c userId oracle).closeCallback = true := rfl

/-- The creator is the only participant of the new room. -/
@[simp] theorem foundedRoom_participants :
    (foundedRoom config roomId options c userId oracle).participants.toList =
      [creator c userId] := by
  have h : (foundedRoom config roomId options c userId oracle).participants =
      (∅ : Participants).emplace (creator c userId) oracle.participantOrder :=
    startExpireTimer_participants _
  rw [h]
  exact List.perm_singleton.mp (KeyedList.emplace_perm (KeyedList.find_empty _))

@[simp] theorem found_outbox (s : State) (next : UInt32) (d : ConnId) :
    (s.found config roomId next options c userId oracle).outbox d = s.outbox d := rfl

@[simp] theorem found_isOpen (s : State) (next : UInt32) (d : ConnId) :
    (s.found config roomId next options c userId oracle).isOpen d = s.isOpen d := rfl

theorem found_participants_of_ne (s : State) (next : UInt32) {r : RoomRef} (h : r ≠ s.nextRef) :
    (s.found config roomId next options c userId oracle).participants r = s.participants r := by
  simp [participants, found, h]

/-- The creator is the only participant of the new room. -/
theorem found_participants (s : State) (next : UInt32) :
    ((s.found config roomId next options c userId oracle).participants s.nextRef).toList =
      [creator c userId] := by
  simp [participants, found]

end Founded

/-- With room for at least one participant, creating a room that gets a number
adds the owner. -/
theorem createRoom_of_picked {s : State} {c : ConnId} {options : RoomOptions} {userId : UInt64}
    {oracle : Oracle} {roomId next : UInt32} (hmax : 0 < config.maxParticipantsPerRoom)
    (hc : s.isOpen c = true) (hrooms : s.rooms.toList.length < config.maxRooms)
    (huser : userId ≠ 0) (hpick : s.pickRoomId oracle.draws = .ok (roomId, next)) :
    s.createRoom config c options userId oracle =
      .ok (some roomId,
        { s with
          heap := Function.update s.heap s.nextRef
            (({ Room.construct config roomId options with
                participants := (∅ : Participants).emplace (creator c userId)
                  oracle.participantOrder } : Room).startExpireTimer)
          nextRef := s.nextRef + 1
          rooms := s.rooms.emplace (roomId, s.nextRef) oracle.roomOrder
          nextRoomId := next }) := by
  have hcapacity : 0 < (Room.construct config roomId options).options.maxParticipants := by
    simp only [Room.construct]
    split_ifs <;> omega
  have hfull : ¬(Room.construct config roomId options).options.maxParticipants = 0 := by omega
  have hopen : (s.connections c).isOpen = true := hc
  simp [createRoom, Nat.not_le.mpr hrooms, hpick, bind, Except.bind, addParticipant,
    modifyRoom, participants, isOpen, hopen, huser, Room.construct, pure, Except.pure] at hfull ⊢
  simp [hfull]

/-- A successful `CreateMeeting`. -/
theorem handleCreateMeeting_of_picked {s : State} {c : ConnId} {packet : Packet}
    {oracle : Oracle} {roomId next : UInt32} (hmax : 0 < config.maxParticipantsPerRoom)
    (hc : s.isOpen c = true) (hlobby : s.connectionRoom c = none)
    (hrooms : s.rooms.toList.length < config.maxRooms) (huser : packet.userId ≠ 0)
    (hpick : s.pickRoomId oracle.draws = .ok (roomId, next)) :
    s.handleCreateMeeting platform config c packet oracle =
      .ok ((s.found config roomId next (parseCreateMeetingOptions packet config) c packet.userId
        oracle).deliver (only c [response .createMeetingResponse roomId])) := by
  have hfree : s.rooms.find (Prod.fst (roomId, s.nextRef)) = none := pickRoomId_free hpick
  have hget := KeyedList.find_emplace_self oracle.roomOrder hfree
  have hclosed : (s.connections c).closed = false := Connection.closed_of_isOpen hc
  have hrespond := respond_eq platform (s := s.found config roomId next
    (parseCreateMeetingOptions packet config) c packet.userId oracle) (c := c)
    roomId hclosed (show MessageType.createMeetingResponse.isTextType = false from rfl)
  rw [← hrespond, handleCreateMeeting, if_neg huser]
  dsimp only
  rw [createRoom_of_picked config hmax hc hrooms huser hpick]
  simp only [bind, Except.bind, getRoom, hget, Option.map_some, emplaceRoute, modifyRoom, hlobby,
    Function.update_self, Function.update_idem, found, foundedRoom]

/-- The table of rooms is full. -/
theorem handleCreateMeeting_of_full {s : State} {c : ConnId} {packet : Packet} {oracle : Oracle}
    (hc : s.isOpen c = true) (hrooms : config.maxRooms ≤ s.rooms.toList.length)
    (huser : packet.userId ≠ 0) :
    s.handleCreateMeeting platform config c packet oracle =
      .ok (s.deliver (only c [response .createMeetingResponse 0])) := by
  have hclosed : (s.connections c).closed = false := Connection.closed_of_isOpen hc
  rw [← respond_eq platform _ hclosed rfl, handleCreateMeeting, if_neg huser]
  simp [createRoom, hc, hrooms, bind, Except.bind]

/-- No number can be found. -/
theorem handleCreateMeeting_of_stuck {s : State} {c : ConnId} {packet : Packet} {oracle : Oracle}
    {stop : Stop} (hc : s.isOpen c = true) (hrooms : s.rooms.toList.length < config.maxRooms)
    (huser : packet.userId ≠ 0) (hpick : s.pickRoomId oracle.draws = .error stop) :
    s.handleCreateMeeting platform config c packet oracle = .error stop := by
  rw [handleCreateMeeting, if_neg huser]
  simp [createRoom, hc, Nat.not_le.mpr hrooms, hpick, bind, Except.bind]

/-! ## Joining -/

/-- The room after a successful `JoinMeeting`. -/
def joinedRoom (room : Room) (c : ConnId) (userId : UInt64) (oracle : Oracle) : Room :=
  { room with
    participants := room.participants.emplace (joiner c userId) oracle.participantOrder }

/-- The server after a successful `JoinMeeting`, before anything is sent. -/
def enroll (s : State) (r : RoomRef) (c : ConnId) (userId : UInt64) (oracle : Oracle) : State :=
  { s with
    heap := Function.update s.heap r (joinedRoom (s.heap r) c userId oracle)
    connectionRoom := Function.update s.connectionRoom c (some r) }

theorem mem_enroll {s : State} {r : RoomRef} {c : ConnId} {userId : UInt64} {oracle : Oracle}
    (hnew : (s.participants r).find c = none) {p : Participant} :
    p ∈ (s.enroll r c userId oracle).participants r ↔ p = joiner c userId ∨ p ∈ s.participants r := by
  have hnew' : (s.heap r).participants.find (Participant.connection (joiner c userId)) = none :=
    hnew
  simp [enroll, joinedRoom, participants, KeyedList.mem_emplace hnew']

theorem isMember_enroll {s : State} {r : RoomRef} {c d : ConnId} {userId : UInt64}
    {oracle : Oracle} (hnew : (s.participants r).find c = none) :
    (s.enroll r c userId oracle).IsMember r d ↔ d = c ∨ s.IsMember r d := by
  simp only [IsMember, mem_enroll hnew]
  constructor
  · rintro ⟨p, rfl | hp, rfl⟩
    · exact Or.inl rfl
    · exact Or.inr ⟨p, hp, rfl⟩
  · rintro (rfl | ⟨p, hp, hpd⟩)
    · exact ⟨joiner d userId, Or.inl rfl, rfl⟩
    · exact ⟨p, Or.inr hp, hpd⟩

@[simp] theorem enroll_outbox (s : State) (r : RoomRef) (c : ConnId) (userId : UInt64)
    (oracle : Oracle) (d : ConnId) : (s.enroll r c userId oracle).outbox d = s.outbox d := rfl

@[simp] theorem enroll_isOpen (s : State) (r : RoomRef) (c : ConnId) (userId : UInt64)
    (oracle : Oracle) (d : ConnId) : (s.enroll r c userId oracle).isOpen d = s.isOpen d := rfl

theorem enroll_participants_of_ne (s : State) {r r' : RoomRef} (c : ConnId) (userId : UInt64)
    (oracle : Oracle) (h : r' ≠ r) :
    (s.enroll r c userId oracle).participants r' = s.participants r' := by
  simp [participants, enroll, h]

/-- The newcomer is added to the participants, in some order. -/
theorem enroll_perm {s : State} {r : RoomRef} {c : ConnId} (userId : UInt64) (oracle : Oracle)
    (hnew : (s.participants r).find c = none) :
    ((s.enroll r c userId oracle).participants r).toList.Perm
      (joiner c userId :: (s.participants r).toList) := by
  have hnew' : (s.heap r).participants.find (Participant.connection (joiner c userId)) = none :=
    hnew
  have hperm : ((s.heap r).participants.emplace (joiner c userId)
      oracle.participantOrder).toList.Perm (joiner c userId :: (s.heap r).participants.toList) :=
    KeyedList.emplace_perm hnew'
  simpa [participants, enroll, joinedRoom] using hperm

/-- Everything a successful `JoinMeeting` makes the server send. -/
def joinDelivery (s : State) (r : RoomRef) (roomId : UInt32) (p : Participant) :
    ConnId → List Queued :=
  fun d => s.hearing r p.connection (joinNotice p) d ++
    only p.connection (response .joinMeetingResponse roomId :: s.welcome r p.connection) d

theorem joinRoom_of_room {s : State} {roomId : UInt32} {c : ConnId} {userId : UInt64}
    {oracle : Oracle} {r : RoomRef} (huser : userId ≠ 0) (hc : s.isOpen c = true)
    (hget : s.getRoom roomId = some r) (hr : (s.heap r).closed = false)
    (hplace : (s.participants r).toList.length < (s.heap r).options.maxParticipants) :
    s.joinRoom roomId c userId oracle =
      (.ok, s.modifyRoom r fun room => joinedRoom room c userId oracle) := by
  simp [joinRoom, hget, hr, Nat.not_le.mpr hplace, addParticipant, hc, huser, joinedRoom]

/-- A successful `JoinMeeting`. -/
theorem handleJoinMeeting_of_room {s : State} {c : ConnId} {packet : Packet} {oracle : Oracle}
    {r : RoomRef} (hlength : 4 ≤ packet.payload.length) (huser : packet.userId ≠ 0)
    (hc : s.isOpen c = true) (hlobby : s.connectionRoom c = none)
    (hnew : (s.participants r).find c = none)
    (hget : s.getRoom (readBe32 packet.payload) = some r) (hr : (s.heap r).closed = false)
    (hplace : (s.participants r).toList.length < (s.heap r).options.maxParticipants) :
    s.handleJoinMeeting platform c packet oracle =
      .ok ((s.enroll r c packet.userId oracle).deliver
        ((s.enroll r c packet.userId oracle).joinDelivery r (readBe32 packet.payload)
          (joiner c packet.userId))) := by
  have hclosed : (s.connections c).closed = false := Connection.closed_of_isOpen hc
  have hopen : (s.enroll r c packet.userId oracle).isOpen c = true := hc
  have henroll : (s.modifyRoom r fun room => joinedRoom room c packet.userId oracle).emplaceRoute
      c r = s.enroll r c packet.userId oracle := by
    simp [emplaceRoute, modifyRoom, hlobby, enroll]
  have hself : ((s.enroll r c packet.userId oracle).participants r).find c =
      some (joiner c packet.userId) := by
    simp only [participants, enroll, Function.update_self, joinedRoom]
    exact KeyedList.find_emplace_self (x := joiner c packet.userId) oracle.participantOrder hnew
  have hrespond := respond_eq platform (s := s.enroll r c packet.userId oracle) (c := c)
    (readBe32 packet.payload) hclosed
    (show MessageType.joinMeetingResponse.isTextType = false from rfl)
  have hnotify := notifyUserJoined_eq platform (r := r) (c := c)
    (s := (s.enroll r c packet.userId oracle).deliver
      (only c [response .joinMeetingResponse (readBe32 packet.payload)]))
    (by simpa [enroll, joinedRoom] using hr) hself (by rw [deliver_isOpen]; exact hopen)
  have hget' : State.getRoom (s.modifyRoom r fun room =>
      joinedRoom room c packet.userId oracle) (readBe32 packet.payload) = some r := hget
  rw [handleJoinMeeting, if_neg (Nat.not_lt.mpr hlength), if_neg huser,
    joinRoom_of_room huser hc hget hr hplace]
  dsimp only
  rw [hget']
  dsimp only
  rw [henroll, hrespond]
  simp only [bind, Except.bind]
  rw [hnotify, deliver_deliver]
  congr 2
  funext d
  by_cases hd : d = c
  · -- the newcomer is left out of the announcement
    subst hd
    simp [joinDelivery, hearing, Hears, welcome, others]
  · simp [joinDelivery, hearing, only_of_ne hd]

/-- What a failed `JoinMeeting` answers. -/
theorem handleJoinMeeting_of_refused {s : State} {c : ConnId} {packet : Packet} (oracle : Oracle)
    (hlength : 4 ≤ packet.payload.length) (huser : packet.userId ≠ 0)
    (hc : s.isOpen c = true)
    (hno : ∀ r, s.getRoom (readBe32 packet.payload) = some r →
      (s.heap r).closed = true ∨
        (s.heap r).options.maxParticipants ≤ (s.participants r).toList.length) :
    ∃ value, (value = 0 ∨ value = 0xFFFFFFFF) ∧
      s.handleJoinMeeting platform c packet oracle =
        .ok (s.deliver (only c [response .joinMeetingResponse value])) := by
  have hclosed : (s.connections c).closed = false := Connection.closed_of_isOpen hc
  rw [handleJoinMeeting, if_neg (Nat.not_lt.mpr hlength), if_neg huser]
  cases hget : s.getRoom (readBe32 packet.payload) with
  | none =>
    refine ⟨0, Or.inl rfl, ?_⟩
    rw [← respond_eq platform _ hclosed rfl]
    simp [joinRoom, hget]
  | some r =>
    by_cases hr : (s.heap r).closed = true
    · refine ⟨0, Or.inl rfl, ?_⟩
      rw [← respond_eq platform _ hclosed rfl]
      simp [joinRoom, hget, hr]
    · have hfull := (hno r hget).resolve_left hr
      refine ⟨0xFFFFFFFF, Or.inr rfl, ?_⟩
      rw [← respond_eq platform _ hclosed rfl]
      simp [joinRoom, hget, hr, hfull]

end Closed

end State

end CCMeeting
