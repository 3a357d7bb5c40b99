import CCMeeting.Lib.Fallible
import CCMeeting.Server.Lobby

/-! # What the handlers are made of

Every handler is a sequence of a few kinds of update, from every state and in
every configuration: no invariant is needed to see it. What each update keeps,
every handler keeps.
-/

namespace CCMeeting

open ByteString Fallible Transition

/-! ## Updates -/

namespace State

/-- One change a handler makes to the state; the founding of a room is the one
change that is not among them. -/
inductive Update (platform : Platform) : State → State → Prop where
  /-- an encoded packet is handed to `Connection::send` -/
  | queued {s : State} {c : ConnId} {frame : ByteString} {q : Queued} :
      encode platform q.packet = .ok frame → Update platform s (s.send c frame q)
  /-- the first half of `Connection::close` -/
  | shut {s : State} {c : ConnId} : (s.connections c).closed = false →
      Update platform s (s.modifyConnection c Connection.shut)
  | routed {s : State} (c : ConnId) (route : Option RoomRef) :
      Update platform s { s with connectionRoom := Function.update s.connectionRoom c route }
  /-- a room keeps its number; once closed it stays closed, with the same
  participants -/
  | room {s : State} {r : RoomRef} (room : Room) : room.roomId = (s.heap r).roomId →
      ((s.heap r).closed = true →
        room.closed = true ∧ room.participants = (s.heap r).participants) →
      Update platform s (s.modifyRoom r fun _ => room)
  | cleaned {s : State} (roomId : UInt32) : Update platform s (s.cleanupRoom roomId)

/-- Updates one after the other. -/
abbrev Updates (platform : Platform) : State → State → Prop :=
  Relation.ReflTransGen (Update platform)

variable {platform : Platform} {config : ServerConfig} {s s' : State}

/-! ## Sending -/

theorem encode_of_encodeOrStop {packet : Packet} {frame : ByteString}
    (h : encodeOrStop platform packet = .ok frame) : encode platform packet = .ok frame :=
  mapError_eq_ok_iff.mp h

theorem sendTo_updates {c : ConnId} {q : Queued} (h : s.sendTo platform c q = .ok s') :
    Updates platform s s' := by
  unfold sendTo at h
  split_ifs at h
  · obtain ⟨frame, hencode, h⟩ := bind_eq_ok_iff.mp h
    cases h
    exact .single (.queued (encode_of_encodeOrStop hencode))
  · cases h
    exact .refl

theorem broadcast_updates {r : RoomRef} {q : Queued} {exclude : ConnId}
    (h : s.broadcast platform r q exclude = .ok s') : Updates platform s s' := by
  unfold broadcast at h
  obtain ⟨frame, hencode, h⟩ := bind_eq_ok_iff.mp h
  cases h
  clear h
  -- one `send` for each open participant that is not left out
  generalize (s.participants r).toList = ps
  induction ps generalizing s with
  | nil => exact .refl
  | cons p ps ih =>
    rw [List.foldl_cons]
    split_ifs
    · exact ih
    · exact .head (.queued (encode_of_encodeOrStop hencode)) ih
    · exact ih

theorem respond_updates {c : ConnId} {type : MessageType} {value : UInt32}
    (h : s.respond platform c type value = .ok s') : Updates platform s s' := by
  unfold respond at h
  obtain ⟨frame, hencode, h⟩ := bind_eq_ok_iff.mp h
  cases h
  exact .single (.queued (encode_of_encodeOrStop hencode))

/-! ## Leaving and closing -/

section Closing

variable {closeRoom : State → RoomRef → Except Stop State}
  (hclose : ∀ {t t' : State} {r : RoomRef}, closeRoom t r = .ok t' → Updates platform t t')

include hclose

theorem removeParticipant_updates {r : RoomRef} {c : ConnId}
    (h : removeParticipant platform closeRoom s r c = .ok s') : Updates platform s s' := by
  unfold removeParticipant at h
  split_ifs at h with hr
  · cases h
    exact .refl
  split at h
  · cases h
    exact .refl
  · rename_i p _
    have hleft : Update platform s (s.modifyRoom r fun room =>
        { room with participants := room.participants.erase c }) :=
      .room _ rfl fun hclosed => absurd hclosed hr
    dsimp only at h
    split_ifs at h
    · exact .head hleft (hclose h)
    · exact .head hleft (broadcast_updates h)

theorem onConnectionClose_updates {c : ConnId}
    (h : onConnectionClose platform closeRoom s c = .ok s') : Updates platform s s' := by
  unfold onConnectionClose at h
  split at h
  · cases h
    exact .refl
  · exact .head (.routed c none) (removeParticipant_updates hclose h)

theorem closeConnection_updates {c : ConnId}
    (h : closeConnection platform closeRoom s c = .ok s') : Updates platform s s' := by
  unfold closeConnection at h
  split_ifs at h with hc
  · cases h
    exact .refl
  · exact .head (.shut (by simpa using hc)) (onConnectionClose_updates hclose h)

end Closing

theorem closeRoom_updates {depth : ℕ} {r : RoomRef}
    (h : State.closeRoom platform depth s r = .ok s') : Updates platform s s' := by
  -- on the nesting: what a nested close does is known by induction
  induction depth generalizing s s' r with
  | zero =>
    cases h
    exact .refl
  | succ depth ih =>
    rw [State.closeRoom] at h
    split_ifs at h with hr
    · cases h
      exact .refl
    dsimp only at h
    have hclosed : Update platform s (s.modifyRoom r fun room =>
        { room with closed := true, expireTimer := false, participants := ∅ }) :=
      .room _ rfl fun hclosed => absurd hclosed hr
    obtain ⟨t, hloop, h⟩ := bind_eq_ok_iff.mp h
    cases h
    have hrounds : Updates platform _ t := foldlM_related (fun {t t' p} hround => by
      split_ifs at hround
      · exact closeConnection_updates ih hround
      · cases hround
        exact .refl) hloop
    split_ifs
    · exact .head hclosed (hrounds.tail (.cleaned _))
    · exact .head hclosed hrounds

theorem close_updates {c : ConnId} (h : s.close platform c = .ok s') : Updates platform s s' :=
  closeConnection_updates closeRoom_updates h

/-! ## Joining and talking -/

theorem replayProfiles_updates {c : ConnId} {p : Participant}
    (h : replayProfiles platform c s p = .ok s') : Updates platform s s' := by
  unfold replayProfiles at h
  split_ifs at h
  · cases h
    exact .refl
  · cases h
    exact .refl
  · exact sendTo_updates h

theorem notifyUserJoined_updates {r : RoomRef} {c : ConnId}
    (h : s.notifyUserJoined platform r c = .ok s') : Updates platform s s' := by
  unfold notifyUserJoined at h
  split_ifs at h
  · cases h
    exact .refl
  split at h
  · cases h
    exact .refl
  -- an announcement, the list, the switches and the profiles, one after the other
  obtain ⟨s₁, h₁, h⟩ := bind_eq_ok_iff.mp h
  obtain ⟨s₂, h₂, h⟩ := bind_eq_ok_iff.mp h
  obtain ⟨s₃, h₃, h⟩ := bind_eq_ok_iff.mp h
  exact (broadcast_updates h₁).trans
    ((sendTo_updates h₂).trans
      ((sendTo_updates h₃).trans (foldlM_related replayProfiles_updates h)))

theorem handlePacket_updates {r : RoomRef} {c : ConnId} {packet : Packet}
    (h : s.handlePacket platform r c packet = .ok s') : Updates platform s s' := by
  unfold handlePacket at h
  by_cases hr : (s.heap r).closed = true
  · rw [if_pos hr] at h
    cases h
    exact .refl
  rw [if_neg hr] at h
  have hroom : ∀ f : Room → Room, (f (s.heap r)).roomId = (s.heap r).roomId →
      Update platform s (s.modifyRoom r f) :=
    fun f hid => .room (f (s.heap r)) hid fun hclosed => absurd hclosed hr
  split at h
  · cases h
    exact .refl
  · rename_i sender _
    split at h
    · exact broadcast_updates h
    · exact broadcast_updates h
    · dsimp only at h
      refine .head (hroom _ ?_) (broadcast_updates h)
      rfl
    · by_cases howner : sender.isOwner = true
      · rw [if_pos howner] at h
        dsimp only at h
        refine .head (hroom _ ?_) (broadcast_updates h)
        rfl
      · rw [if_neg howner] at h
        cases h
        exact .refl
    · cases h
      exact .refl

theorem emplaceRoute_updates (c : ConnId) (r : RoomRef) :
    Updates platform s (s.emplaceRoute c r) := by
  unfold emplaceRoute
  split
  · exact .refl
  · exact .single (.routed c (some r))

theorem modifyRoom_self (s : State) (r : RoomRef) : (s.modifyRoom r fun _ => s.heap r) = s := by
  simp [modifyRoom]

/-- `add_participant` leaves the room its number, and a closed one as it is. -/
theorem addParticipant_eq_modifyRoom (s : State) (r : RoomRef) (c : ConnId) (isOwner : Bool)
    (userId : UInt64) (order : KeyedList.Order Participant) :
    ∃ room : Room, (s.addParticipant r c isOwner userId order).2 = (s.modifyRoom r fun _ => room) ∧
      room.roomId = (s.heap r).roomId ∧ room.closed = (s.heap r).closed ∧
      ((s.heap r).closed = true → room = s.heap r) := by
  unfold addParticipant
  split_ifs with hrefused
  · exact ⟨_, (s.modifyRoom_self r).symm, rfl, rfl, fun _ => rfl⟩
  · exact ⟨_, (s.modifyRoom_self r).symm, rfl, rfl, fun _ => rfl⟩
  · exact ⟨_, (s.modifyRoom_self r).symm, rfl, rfl, fun _ => rfl⟩
  · refine ⟨_, rfl, rfl, rfl, fun hclosed => ?_⟩
    rw [hclosed] at hrefused
    simp at hrefused

variable (platform s) in
theorem addParticipant_updates (r : RoomRef) (c : ConnId) (isOwner : Bool) (userId : UInt64)
    (order : KeyedList.Order Participant) :
    Updates platform s (s.addParticipant r c isOwner userId order).2 := by
  obtain ⟨room, hstate, hid, hclosed, hkept⟩ :=
    s.addParticipant_eq_modifyRoom r c isOwner userId order
  rw [hstate]
  refine .single (.room room hid fun hr => ?_)
  rw [hkept hr]
  exact ⟨hr, rfl⟩

variable (platform s) in
theorem joinRoom_updates (roomId : UInt32) (c : ConnId) (userId : UInt64) (oracle : Oracle) :
    Updates platform s (s.joinRoom roomId c userId oracle).2 := by
  unfold joinRoom
  split
  · exact .refl
  · rename_i r _
    have hadd := s.addParticipant_updates platform r c false userId oracle.participantOrder
    split_ifs
    · exact .refl
    · exact .refl
    · cases hresult : s.addParticipant r c false userId oracle.participantOrder with
      | mk added t =>
        rw [hresult] at hadd
        cases added <;> exact hadd

theorem handleJoinMeeting_updates {c : ConnId} {packet : Packet} {oracle : Oracle}
    (h : s.handleJoinMeeting platform c packet oracle = .ok s') : Updates platform s s' := by
  unfold handleJoinMeeting at h
  split_ifs at h
  · exact close_updates h
  · exact close_updates h
  have hjoin := s.joinRoom_updates platform (readBe32 packet.payload) c packet.userId oracle
  split at h
  · rename_i t hresult
    rw [hresult] at hjoin
    split at h
    · cases h
    · rename_i r _
      obtain ⟨t', hrespond, hnotify⟩ := bind_eq_ok_iff.mp h
      exact hjoin.trans ((emplaceRoute_updates c r).trans
        ((respond_updates hrespond).trans (notifyUserJoined_updates hnotify)))
  · rename_i t hresult
    rw [hresult] at hjoin
    exact hjoin.trans (respond_updates h)
  · rename_i t _ _ hresult
    rw [hresult] at hjoin
    exact hjoin.trans (respond_updates h)

/-! ## Founding a room -/

/-- A room put into the table under a number that was picked for it. -/
def founded (s : State) (roomId next : UInt32) (room : Room)
    (order : KeyedList.Order (UInt32 × RoomRef)) : State :=
  { s with
    heap := Function.update s.heap s.nextRef room
    nextRef := s.nextRef + 1
    rooms := s.rooms.emplace (roomId, s.nextRef) order
    nextRoomId := next }

/-- What `create_room` does: nothing, or a room is founded. The owner is its
only participant, unless the configuration leaves no place for one. -/
theorem createRoom_cases {c : ConnId} {options : RoomOptions} {userId : UInt64} {oracle : Oracle}
    {created : Option UInt32}
    (h : s.createRoom config c options userId oracle = .ok (created, s')) :
    created = none ∧ s' = s ∧
      (s.isOpen c = false ∨ config.maxRooms ≤ s.rooms.toList.length) ∨
    ∃ roomId next room, created = some roomId ∧
      s.isOpen c = true ∧ s.rooms.toList.length < config.maxRooms ∧
      s.pickRoomId oracle.draws = .ok (roomId, next) ∧ room.roomId = roomId ∧
      room.closed = false ∧ s' = s.founded roomId next room oracle.roomOrder := by
  unfold createRoom at h
  split_ifs at h with hopen hrooms
  · cases h
    exact Or.inl ⟨rfl, rfl, Or.inl (by simpa using hopen)⟩
  · cases h
    exact Or.inl ⟨rfl, rfl, Or.inr hrooms⟩
  refine Or.inr ?_
  obtain ⟨⟨roomId, next⟩, hpick, h⟩ := bind_eq_ok_iff.mp h
  -- the new room, the owner in it, the timer: three changes of the one object
  dsimp only at h
  obtain ⟨room, hstate, hid, hclosed, _⟩ := addParticipant_eq_modifyRoom
    (State.modifyRoom { s with nextRoomId := next, nextRef := s.nextRef + 1 } s.nextRef
      fun _ => Room.construct config roomId options) s.nextRef c true userId oracle.participantOrder
  rcases hadd : State.addParticipant
    (State.modifyRoom { s with nextRoomId := next, nextRef := s.nextRef + 1 } s.nextRef
      fun _ => Room.construct config roomId options) s.nextRef c true userId
      oracle.participantOrder with ⟨added, t⟩
  rw [hadd] at h hstate
  cases h
  have ht : t = State.modifyRoom { s with nextRoomId := next, nextRef := s.nextRef + 1 } s.nextRef
      fun _ => room := by
    rw [show t = _ from hstate]
    simp [modifyRoom]
  rw [ht]
  refine ⟨roomId, next, room.startExpireTimer, rfl, by simpa using hopen, Nat.not_le.mp hrooms,
    hpick, ?_, ?_, ?_⟩
  · rw [startExpireTimer_roomId, hid]
    simp [modifyRoom, Room.construct]
  · rw [startExpireTimer_closed, hclosed]
    simp [modifyRoom, Room.construct]
  · simp [founded, modifyRoom]

/-- A packet on which `create_room` goes on to pick a number. -/
def Allocates (config : ServerConfig) (s : State) (c : ConnId) (packet : Packet) : Prop :=
  s.connectionRoom c = none ∧ packet.type = .createMeeting ∧ packet.userId ≠ 0 ∧
    s.isOpen c = true ∧ s.rooms.toList.length < config.maxRooms

instance decidableAllocates (s : State) (c : ConnId) (packet : Packet) :
    Decidable (s.Allocates config c packet) :=
  inferInstanceAs (Decidable (_ ∧ _ ∧ _ ∧ _ ∧ _))

end State

/-! ## Steps -/

open State

/-- What a step does before its updates. -/
inductive Begins (config : ServerConfig) (s : State) : Event → State → Prop where
  | accept : Begins config s .accept s.accept
  | socketDown (c : ConnId) :
      Begins config s (.socketDown c) (s.modifyConnection c fun k => { k with socketOpen := false })
  | wrote (c : ConnId) : (s.connections c).writeInProgress = true →
      (s.connections c).queueEmpty = false →
      Begins config s (.wrote c) (s.modifyConnection c Connection.written)
  | close (c : ConnId) : Begins config s (.close c) s
  | expire (r : RoomRef) : Begins config s (.expire r) s
  | packet {c : ConnId} {packet : Packet} {oracle : Oracle} : ¬s.Allocates config c packet →
      Begins config s (.packet c packet oracle) s
  /-- a room is founded -/
  | founded {c : ConnId} {packet : Packet} {oracle : Oracle} {roomId next : UInt32} {room : Room} :
      s.Allocates config c packet → s.pickRoomId oracle.draws = .ok (roomId, next) →
      room.roomId = roomId → room.closed = false →
      Begins config s (.packet c packet oracle) (s.founded roomId next room oracle.roomOrder)

variable {platform : Platform} {config : ServerConfig} {s s' : State}

theorem handleCreateMeeting_begins {c : ConnId} {packet : Packet} {oracle : Oracle}
    (hlobby : s.connectionRoom c = none) (htype : packet.type = .createMeeting)
    (h : s.handleCreateMeeting platform config c packet oracle = .ok s') :
    ∃ t, Begins config s (.packet c packet oracle) t ∧ Updates platform t s' := by
  unfold handleCreateMeeting at h
  by_cases huser : packet.userId = 0
  · rw [if_pos huser] at h
    exact ⟨s, .packet fun hall => hall.2.2.1 huser, close_updates h⟩
  rw [if_neg huser] at h
  dsimp only at h
  obtain ⟨⟨created, t⟩, hcreate, hanswer⟩ := bind_eq_ok_iff.mp h
  rcases createRoom_cases hcreate with ⟨rfl, rfl, hrefused⟩ |
    ⟨roomId, next, room, rfl, hopen, hrooms, hpick, hid, hroom, rfl⟩
  · refine ⟨t, .packet fun hall => ?_, respond_updates hanswer⟩
    rcases hrefused with hclosed | hfull
    · rw [hall.2.2.2.1] at hclosed
      cases hclosed
    · exact absurd hall.2.2.2.2 (Nat.not_lt.mpr hfull)
  -- the close callback is set, the creator routed, and the number answered
  · refine ⟨_, .founded ⟨hlobby, htype, huser, hopen, hrooms⟩ hpick hid hroom, ?_⟩
    dsimp only at hanswer
    split at hanswer
    · cases hanswer
    · rename_i r _
      refine .head ?_ ((emplaceRoute_updates c r).trans (respond_updates hanswer))
      exact .room _ rfl fun hclosed => ⟨hclosed, rfl⟩

/-- Every step is a few updates after what it begins with. -/
theorem step_begins {e : Event} (h : (system platform config).Step s e s') :
    ∃ t, Begins config s e t ∧ Updates platform t s' := by
  obtain ⟨henabled, hhandle⟩ := h
  cases e with
  | accept =>
    cases hhandle
    exact ⟨_, .accept, .refl⟩
  | socketDown c =>
    cases hhandle
    exact ⟨_, .socketDown c, .refl⟩
  | wrote c =>
    cases hhandle
    exact ⟨_, .wrote c henabled.2.1 henabled.2.2, .refl⟩
  | close c => exact ⟨s, .close c, close_updates hhandle⟩
  | expire r => exact ⟨s, .expire r, closeRoom_updates hhandle⟩
  | packet c packet oracle =>
    simp only [Event.handle, dispatch] at hhandle
    cases hroute : s.connectionRoom c with
    | some r =>
      rw [hroute] at hhandle
      refine ⟨s, .packet fun hall => ?_, handlePacket_updates hhandle⟩
      rw [hall.1] at hroute
      cases hroute
    | none =>
      rw [hroute] at hhandle
      simp only [handleLobbyPacket] at hhandle
      split at hhandle
      · rename_i htype
        exact handleCreateMeeting_begins hroute htype hhandle
      · rename_i htype
        refine ⟨s, .packet fun hall => ?_, handleJoinMeeting_updates hhandle⟩
        rw [hall.2.1] at htype
        cases htype
      · rename_i hother _
        exact ⟨s, .packet fun hall => hother hall.2.1, close_updates hhandle⟩

/-- What a step begins with and every update keeps holds when the step is over. -/
theorem step_establishes {I : State → Prop} {e : Event}
    (hbegins : ∀ {t : State}, Begins config s e t → I t)
    (hupdate : ∀ {t t' : State}, Update platform t t' → I t → I t')
    (hstep : (system platform config).Step s e s') : I s' := by
  obtain ⟨t, hbegin, hupdates⟩ := step_begins hstep
  have ht := hbegins hbegin
  clear hbegin hstep
  induction hupdates with
  | refl => exact ht
  | tail _ hone ih => exact hupdate hone ih

end CCMeeting
