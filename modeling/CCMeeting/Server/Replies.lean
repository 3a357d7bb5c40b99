import CCMeeting.Server.Capacity

/-! # What a reply to a create or a join says

A reply carries the number of the room the connection is in now, or one of two
numbers that stand for a refusal: `0` for no room and `-1` for a full one. The
sequential fallback of `create_room` hands out those two numbers like any other.
-/

namespace CCMeeting

open ByteString Transition State

/-! ## The numbers `create_room` finds -/

namespace State

theorem drawRoomId_eq_zero_iff {s : State} {draws : Draws} :
    s.drawRoomId draws = 0 ↔
      ∀ i < kRoomIdAttempts, (s.rooms.find (draws.value i)).isSome = true := by
  unfold drawRoomId
  cases hf : ((List.range kRoomIdAttempts).map draws.value).find?
      (fun candidate => (s.rooms.find candidate).isNone) with
  | none =>
    have hall : ∀ i < kRoomIdAttempts, (s.rooms.find (draws.value i)).isSome = true := by
      intro i hi
      have := List.find?_eq_none.mp hf _ (List.mem_map_of_mem (List.mem_range.mpr hi))
      exact Option.isSome_iff_ne_none.mpr (by simpa using this)
    exact iff_of_true rfl hall
  | some candidate =>
    -- a candidate is at least `kRoomIdMin`, so `0` says that there is none
    rcases List.mem_map.mp (List.mem_of_find?_eq_some hf) with ⟨i, hi, hcandidate⟩
    have hfree : s.rooms.find candidate = none := by simpa using List.find?_some hf
    constructor
    · intro h0
      have hcandidate0 : candidate = 0 := h0
      have hmin := (draws.range i).1
      rw [hcandidate, hcandidate0] at hmin
      exact absurd hmin (by decide)
    · intro hall
      have htaken := hall i (List.mem_range.mp hi)
      rw [hcandidate, hfree] at htaken
      cases htaken

/-- The sequential search ends at the first free number, wrapping around. -/
theorem sequentialRoomId_eq_some_iff {rooms : RoomTable} {fuel : ℕ} {next roomId after : UInt32} :
    sequentialRoomId rooms fuel next = some (roomId, after) ↔
      ∃ k < fuel, (∀ j < k, (rooms.find (next + UInt32.ofNat j)).isSome = true) ∧
        rooms.find (next + UInt32.ofNat k) = none ∧ roomId = next + UInt32.ofNat k ∧
        after = roomId + 1 := by
  induction fuel generalizing next with
  | zero => simp [sequentialRoomId]
  | succ fuel ih =>
    have hshift : ∀ j, next + 1 + UInt32.ofNat j = next + UInt32.ofNat (j + 1) := by
      intro j
      rw [UInt32.ofNat_add, UInt32.add_assoc, UInt32.add_comm 1]
      rfl
    have hzero : next + UInt32.ofNat 0 = next := UInt32.add_zero next
    rw [sequentialRoomId]
    by_cases hfree : rooms.find next = none
    · rw [if_pos (by simp [hfree])]
      constructor
      · intro h
        cases h
        exact ⟨0, Nat.succ_pos fuel, by simp, by rw [hzero]; exact hfree, hzero.symm, rfl⟩
      · rintro ⟨k, _, hbefore, _, rfl, rfl⟩
        -- `next` itself is free, so nothing is skipped
        have hk : k = 0 := by
          by_contra hk
          have := hbefore 0 (Nat.pos_of_ne_zero hk)
          rw [hzero, hfree] at this
          cases this
        rw [hk, hzero]
    · have htaken : (rooms.find next).isSome = true := Option.isSome_iff_ne_none.mpr hfree
      rw [if_neg (by simpa using hfree), ih]
      constructor
      · rintro ⟨k, hk, hbefore, hat, hroomId, hafter⟩
        refine ⟨k + 1, Nat.succ_lt_succ hk, ?_, by rw [← hshift]; exact hat,
          by rw [← hshift]; exact hroomId, hafter⟩
        intro j hj
        cases j with
        | zero =>
          rw [hzero]
          exact htaken
        | succ j =>
          rw [← hshift]
          exact hbefore j (Nat.lt_of_succ_lt_succ hj)
      · rintro ⟨k, hk, hbefore, hat, hroomId, hafter⟩
        cases k with
        | zero =>
          rw [hzero] at hat
          exact absurd hat hfree
        | succ k =>
          refine ⟨k, Nat.lt_of_succ_lt_succ hk, ?_, by rw [hshift]; exact hat,
            by rw [hshift]; exact hroomId, hafter⟩
          intro j hj
          rw [hshift]
          exact hbefore (j + 1) (Nat.succ_lt_succ hj)

/-- A number other than `0` is at hand for a new room: one of the numbers drawn
is free, or the first free one from `_next_room_id` on is not `0`. -/
def NumberAtHand (s : State) (draws : Draws) : Prop :=
  (∃ i < kRoomIdAttempts, s.rooms.find (draws.value i) = none) ∨
    ∃ k < 4294967296, (∀ j < k, (s.rooms.find (s.nextRoomId + UInt32.ofNat j)).isSome = true) ∧
      s.rooms.find (s.nextRoomId + UInt32.ofNat k) = none ∧ s.nextRoomId + UInt32.ofNat k ≠ 0

theorem numberAtHand_iff {s : State} {draws : Draws} :
    s.NumberAtHand draws ↔
      ∃ roomId next, s.pickRoomId draws = .ok (roomId, next) ∧ roomId ≠ 0 := by
  have hdrawn : s.drawRoomId draws ≠ 0 ↔
      ∃ i < kRoomIdAttempts, s.rooms.find (draws.value i) = none := by
    rw [Ne, drawRoomId_eq_zero_iff]
    simp
  unfold pickRoomId
  -- the random draws come first; the sequential search runs only when all of them were taken
  by_cases hdraw : s.drawRoomId draws ≠ 0
  · rw [if_pos hdraw]
    exact iff_of_true (Or.inl (hdrawn.mp hdraw)) ⟨_, _, rfl, hdraw⟩
  · rw [if_neg hdraw]
    constructor
    · rintro (h | ⟨k, hk, hbefore, hat, hne⟩)
      · exact absurd (hdrawn.mpr h) hdraw
      · have hfound := sequentialRoomId_eq_some_iff.mpr ⟨k, hk, hbefore, hat, rfl, rfl⟩
        rw [hfound]
        exact ⟨_, _, rfl, hne⟩
    · rintro ⟨roomId, next, hpick, hne⟩
      cases hfound : sequentialRoomId s.rooms 4294967296 s.nextRoomId with
      | none =>
        rw [hfound] at hpick
        cases hpick
      | some found =>
        rw [hfound] at hpick
        cases hpick
        rcases sequentialRoomId_eq_some_iff.mp hfound with ⟨k, hk, hbefore, hat, rfl, _⟩
        exact Or.inr ⟨k, hk, hbefore, hat, hne⟩

/-! ## What the server knows about a number -/

/-- `c` takes part in the open room stored under the number `n`. -/
def TakesPart (s : State) (c : ConnId) (n : UInt32) : Prop :=
  ∃ r, s.getRoom n = some r ∧ (s.heap r).closed = false ∧ s.IsMember r c

/-- `c` owns the open room stored under the number `n`. -/
def OwnsNumber (s : State) (c : ConnId) (n : UInt32) : Prop :=
  ∃ r, s.getRoom n = some r ∧ (s.heap r).closed = false ∧
    ∃ p ∈ s.participants r, p.connection = c ∧ p.isOwner = true

/-- The rooms, their participants and the routes are the same. -/
structure SameRooms (s s' : State) : Prop where
  rooms : s'.rooms = s.rooms
  heap : s'.heap = s.heap
  connectionRoom : s'.connectionRoom = s.connectionRoom

theorem sameRooms_deliver (s : State) (f : ConnId → List Queued) : SameRooms s (s.deliver f) :=
  ⟨rfl, rfl, rfl⟩

theorem OwnsNumber.takesPart {s : State} {c : ConnId} {n : UInt32} (h : s.OwnsNumber c n) :
    s.TakesPart c n := by
  rcases h with ⟨r, hget, hopen, p, hp, hpc, _⟩
  exact ⟨r, hget, hopen, p, hp, hpc⟩

/-- A lobby connection takes part in nothing. -/
theorem not_takesPart_of_lobby {s : State} (h : s.Consistent) {c : ConnId}
    (hlobby : s.connectionRoom c = none) (n : UInt32) : ¬s.TakesPart c n := by
  rintro ⟨r, _, _, hmember⟩
  rw [h.member hmember] at hlobby
  cases hlobby

/-! ## Truthful replies -/

/-- What the reply to a `CreateMeeting` says is true: `value` is the
number of the room `c` owns now, or `0` for a full table. -/
structure TruthfulCreate (config : ServerConfig) (s s' : State) (c : ConnId) (value : UInt32) :
    Prop where
  reply : s'.outbox c = s.outbox c ++ [response .createMeetingResponse value]
  number : ∀ n, value = n ∧ n ≠ 0 ↔ s'.OwnsNumber c n
  zero : value = 0 ↔ s.rooms.toList.length = config.maxRooms
  unchanged : value = 0 → SameRooms s s'

/-- The same for a `JoinMeeting` that asks for the room `wanted`; what the
newcomer is told about the room follows the reply. -/
structure TruthfulJoin (s s' : State) (c : ConnId) (wanted value : UInt32) : Prop where
  reply : ∃ rest, s'.outbox c = s.outbox c ++ response .joinMeetingResponse value :: rest ∧
    ∀ q ∈ rest, q.packet.type ≠ .joinMeetingResponse
  number : ∀ n, value = n ∧ n ≠ 0 ∧ n ≠ 0xFFFFFFFF ↔ s'.TakesPart c n
  full : value = 0xFFFFFFFF ↔ ∃ r, s.getRoom wanted = some r ∧
    (s.participants r).toList.length = (s.heap r).options.maxParticipants
  missing : value = 0 ↔ s.getRoom wanted = none
  unchanged : value = 0 ∨ value = 0xFFFFFFFF → SameRooms s s'

/-- A reply does not put a lobby connection into a room. -/
theorem not_takesPart_of_refused {s : State} (h : s.Consistent) {c : ConnId}
    (hlobby : s.connectionRoom c = none) (f : ConnId → List Queued) (n : UInt32) :
    ¬(s.deliver f).TakesPart c n :=
  not_takesPart_of_lobby h hlobby n

end State

/-! ## The reply to a create -/

section Replies

variable {platform : Platform} {config : ServerConfig} {s : State} {c : ConnId}

theorem dispatch_create (hlobby : s.connectionRoom c = none) {packet : Packet} {oracle : Oracle}
    (htype : packet.type = .createMeeting) :
    s.dispatch platform config c packet oracle =
      s.handleCreateMeeting platform config c packet oracle := by
  rw [dispatch, hlobby]
  dsimp only
  rw [handleLobbyPacket, htype]

variable (config) in
/-- After a create its sender owns the new room and no other. -/
theorem ownsNumber_found (hcons : s.Consistent) (hlobby : s.connectionRoom c = none)
    {roomId : UInt32} (next : UInt32) (hfree : s.rooms.find roomId = none) (options : RoomOptions)
    (userId : UInt64) (oracle : Oracle) (f : ConnId → List Queued) (n : UInt32) :
    ((s.found config roomId next options c userId oracle).deliver f).OwnsNumber c n ↔
      n = roomId := by
  have hstored := KeyedList.find_emplace_self (x := (roomId, s.nextRef)) oracle.roomOrder hfree
  constructor
  · rintro ⟨r, hget, _, p, hp, hpc, _⟩
    by_contra hne
    have hkeep := KeyedList.find_emplace_of_ne (x := (roomId, s.nextRef)) oracle.roomOrder hfree
      (show Prod.fst (roomId, s.nextRef) ≠ n from fun h => hne h.symm)
    have hget' : s.getRoom n = some r := by
      rw [getRoom, ← hkeep]
      exact hget
    -- a number that already had a room: `c` would have to be a member of it, which its route
    -- rules out
    have hr : r ≠ s.nextRef := by
      rintro rfl
      have hopen := (hcons.getRoom_eq hget').1
      rw [hcons.freshRoom (le_refl _)] at hopen
      cases hopen
    have hp' : p ∈ s.participants r := by
      have := found_participants_of_ne config roomId options c userId oracle s next hr
      rw [← this]
      exact hp
    have hroute := hcons.member ⟨p, hp', hpc⟩
    rw [hlobby] at hroute
    cases hroute
  · rintro rfl
    refine ⟨s.nextRef, ?_, ?_, creator c userId, ?_, rfl, rfl⟩
    · show ((s.rooms.emplace (n, s.nextRef) oracle.roomOrder).find n).map Prod.snd = _
      rw [show (s.rooms.emplace (n, s.nextRef) oracle.roomOrder).find n = some (n, s.nextRef)
        from hstored]
      rfl
    · simp [found]
    · show creator c userId ∈ ((s.found config n next options c userId oracle).participants
        s.nextRef).toList
      rw [found_participants]
      exact List.mem_singleton.mpr rfl

/-- A new room's owner is told the truth unless the number is `0`. -/
theorem truthfulCreate_found_iff (hcons : s.Consistent) (hlobby : s.connectionRoom c = none)
    {roomId : UInt32} (next : UInt32) (hfree : s.rooms.find roomId = none)
    (hrooms : s.rooms.toList.length < config.maxRooms) (options : RoomOptions)
    (userId : UInt64) (oracle : Oracle) :
    (∃ value, TruthfulCreate config s ((s.found config roomId next options c userId
      oracle).deliver (only c [response .createMeetingResponse roomId])) c value) ↔ roomId ≠ 0 := by
  have howns := ownsNumber_found config hcons hlobby next hfree options
    userId oracle (only c [response .createMeetingResponse roomId])
  constructor
  · rintro ⟨value, h⟩ h0
    exact ((h.number roomId).mpr ((howns roomId).mpr rfl)).2 h0
  · intro hne
    refine ⟨roomId, by simp, ?_, ?_, fun h => absurd h hne⟩
    · intro n
      rw [howns n]
      constructor
      · rintro ⟨rfl, _⟩
        rfl
      · rintro rfl
        exact ⟨rfl, hne⟩
    · exact iff_of_false hne (Nat.ne_of_lt hrooms)

/-- A full table is reported as such. -/
theorem truthfulCreate_refused (hcons : s.Consistent) (hregular : s.Regular config)
    (hlobby : s.connectionRoom c = none) (hrooms : config.maxRooms ≤ s.rooms.toList.length) :
    TruthfulCreate config s (s.deliver (only c [response .createMeetingResponse 0])) c 0 where
  reply := by simp
  number n := by
    constructor
    · rintro ⟨rfl, hne⟩
      exact absurd rfl hne
    · intro h
      exact absurd h.takesPart (not_takesPart_of_refused hcons hlobby _ n)
  zero := iff_of_true rfl (Nat.le_antisymm hregular.rooms hrooms)
  unchanged _ := sameRooms_deliver s _

theorem truthfulCreate_iff (hpos : 0 < config.maxParticipantsPerRoom) (hcons : s.Consistent)
    (hregular : s.Regular config) (hlobby : s.connectionRoom c = none) (hopen : s.isOpen c = true)
    {packet : Packet} (oracle : Oracle) (htype : packet.type = .createMeeting)
    (huser : packet.userId ≠ 0) :
    (∃ s', s.dispatch platform config c packet oracle = .ok s' ∧
      ∃ value, TruthfulCreate config s s' c value) ↔
      config.maxRooms ≤ s.rooms.toList.length ∨ s.NumberAtHand oracle.draws := by
  rw [dispatch_create hlobby htype, numberAtHand_iff]
  rcases Nat.lt_or_ge s.rooms.toList.length config.maxRooms with hrooms | hrooms
  · have hnot : ¬config.maxRooms ≤ s.rooms.toList.length := Nat.not_le.mpr hrooms
    cases hpick : s.pickRoomId oracle.draws with
    | error stop =>
      -- the search never ends and nothing is answered
      rw [handleCreateMeeting_of_stuck platform config hopen hrooms huser hpick]
      constructor
      · rintro ⟨s', h, _⟩
        cases h
      · rintro (h | ⟨roomId, next, h, _⟩)
        · exact absurd h hnot
        · cases h
    | ok picked =>
      rcases picked with ⟨roomId, next⟩
      rw [handleCreateMeeting_of_picked platform config hpos hopen hlobby hrooms huser hpick]
      have hiff := truthfulCreate_found_iff hcons hlobby next
        (pickRoomId_free hpick) hrooms (parseCreateMeetingOptions packet config) packet.userId
        oracle
      constructor
      · rintro ⟨s', h, hvalue⟩
        cases h
        exact Or.inr ⟨roomId, next, rfl, hiff.mp hvalue⟩
      · rintro (h | ⟨roomId', next', h, hne⟩)
        · exact absurd h hnot
        · cases h
          exact ⟨_, rfl, hiff.mpr hne⟩
  · rw [handleCreateMeeting_of_full platform config hopen hrooms huser]
    refine iff_of_true ⟨_, rfl, 0, ?_⟩ (Or.inl hrooms)
    exact truthfulCreate_refused hcons hregular hlobby hrooms

/-! ## The reply to a join -/

/-- No room has the number. -/
theorem handleJoinMeeting_of_missing {packet : Packet} (oracle : Oracle)
    (hlength : 4 ≤ packet.payload.length) (huser : packet.userId ≠ 0) (hopen : s.isOpen c = true)
    (hget : s.getRoom (readBe32 packet.payload) = none) :
    s.handleJoinMeeting platform c packet oracle =
      .ok (s.deliver (only c [response .joinMeetingResponse 0])) := by
  rw [handleJoinMeeting, if_neg (Nat.not_lt.mpr hlength), if_neg huser,
    ← respond_eq platform _ (Connection.closed_of_isOpen hopen) rfl]
  simp [joinRoom, hget]

/-- The room has no place left. -/
theorem handleJoinMeeting_of_full {packet : Packet} (oracle : Oracle) {r : RoomRef}
    (hlength : 4 ≤ packet.payload.length) (huser : packet.userId ≠ 0) (hopen : s.isOpen c = true)
    (hget : s.getRoom (readBe32 packet.payload) = some r) (hr : (s.heap r).closed = false)
    (hfull : (s.heap r).options.maxParticipants ≤ (s.participants r).toList.length) :
    s.handleJoinMeeting platform c packet oracle =
      .ok (s.deliver (only c [response .joinMeetingResponse 0xFFFFFFFF])) := by
  rw [handleJoinMeeting, if_neg (Nat.not_lt.mpr hlength), if_neg huser,
    ← respond_eq platform _ (Connection.closed_of_isOpen hopen) rfl]
  simp [joinRoom, hget, hr, hfull]

/-- After a join its sender takes part in the room it asked for and in no other. -/
theorem takesPart_enroll (hcons : s.Consistent) (hlobby : s.connectionRoom c = none)
    {wanted : UInt32} {r : RoomRef} (hget : s.getRoom wanted = some r)
    (hr : (s.heap r).closed = false) (userId : UInt64) (oracle : Oracle)
    (f : ConnId → List Queued) (n : UInt32) :
    ((s.enroll r c userId oracle).deliver f).TakesPart c n ↔ n = wanted := by
  constructor
  · rintro ⟨r', hget', _, hmember⟩
    have hget'' : s.getRoom n = some r' := hget'
    have hrr : r' = r := by
      by_contra hne
      have hmember' : (s.enroll r c userId oracle).IsMember r' c := hmember
      rw [IsMember, enroll_participants_of_ne s c userId oracle hne] at hmember'
      have hroute := hcons.member hmember'
      rw [hlobby] at hroute
      cases hroute
    subst hrr
    rw [← (hcons.getRoom_eq hget'').2, (hcons.getRoom_eq hget).2]
  · rintro rfl
    refine ⟨r, hget, ?_, ?_⟩
    · simp [enroll, joinedRoom, hr]
    · exact (isMember_enroll (hcons.find_of_lobby hlobby r)).mpr (Or.inl rfl)

/-- What follows the reply to a join is no other reply. -/
theorem joinDelivery_self (s : State) (r : RoomRef) (n : UInt32) (p : Participant) :
    ∃ rest, s.joinDelivery r n p p.connection = response .joinMeetingResponse n :: rest ∧
      ∀ q ∈ rest, q.packet.type ≠ .joinMeetingResponse := by
  refine ⟨s.welcome r p.connection, ?_, ?_⟩
  · simp [joinDelivery, hearing, Hears]
  · intro q hq
    rcases List.mem_append.mp hq with hq | hq
    · rcases List.mem_pair.mp hq with rfl | rfl <;> simp [partnerList, settingsNotice,
        makeRoomSettingsPacket]
    · rcases List.mem_flatMap.mp hq with ⟨p', _, hq⟩
      unfold profileNotices at hq
      split_ifs at hq
      · cases hq
      · rw [List.mem_singleton.mp hq]
        simp [makeUserProfilePacket]

/-- A newcomer is told the truth unless its room has one of the numbers that
stand for a refusal. -/
theorem truthfulJoin_enroll_iff (hcons : s.Consistent) (hlobby : s.connectionRoom c = none)
    {wanted : UInt32} {r : RoomRef} (hget : s.getRoom wanted = some r)
    (hplace : (s.participants r).toList.length < (s.heap r).options.maxParticipants)
    (userId : UInt64) (oracle : Oracle) :
    (∃ value, TruthfulJoin s ((s.enroll r c userId oracle).deliver
      ((s.enroll r c userId oracle).joinDelivery r wanted (joiner c userId))) c wanted value) ↔
      wanted ≠ 0 ∧ wanted ≠ 0xFFFFFFFF := by
  have hr := (hcons.getRoom_eq hget).1
  have htakes := takesPart_enroll hcons hlobby hget hr userId oracle
    ((s.enroll r c userId oracle).joinDelivery r wanted (joiner c userId))
  constructor
  · rintro ⟨value, h⟩
    exact ((h.number wanted).mpr ((htakes wanted).mpr rfl)).2
  · rintro ⟨h0, h1⟩
    refine ⟨wanted, ?_, ?_, ?_, ?_, ?_⟩
    -- the response is the first thing the join sends to the joiner, and carries the number
    · rcases joinDelivery_self (s.enroll r c userId oracle) r wanted (joiner c userId) with
        ⟨rest, heq, hrest⟩
      refine ⟨rest, ?_, hrest⟩
      rw [deliver_outbox, enroll_outbox]
      exact congrArg _ heq
    · intro n
      rw [htakes n]
      constructor
      · rintro ⟨rfl, _⟩
        rfl
      · rintro rfl
        exact ⟨rfl, h0, h1⟩
    -- neither refusal holds, as the room is there and has a place; so the number must not read as
    -- one of the two refusal codes
    · refine iff_of_false h1 ?_
      rintro ⟨r', hget', hfull⟩
      rw [hget] at hget'
      cases hget'
      exact absurd hfull (Nat.ne_of_lt hplace)
    · refine iff_of_false h0 ?_
      rw [hget]
      exact Option.some_ne_none r
    · rintro (h | h)
      · exact absurd h h0
      · exact absurd h h1

/-- A refusal says why. -/
theorem truthfulJoin_refused (hcons : s.Consistent) (hlobby : s.connectionRoom c = none)
    {wanted value : UInt32} (hvalue : value = 0 ∨ value = 0xFFFFFFFF)
    (hfull : value = 0xFFFFFFFF ↔ ∃ r, s.getRoom wanted = some r ∧
      (s.participants r).toList.length = (s.heap r).options.maxParticipants)
    (hmissing : value = 0 ↔ s.getRoom wanted = none) :
    TruthfulJoin s (s.deliver (only c [response .joinMeetingResponse value])) c wanted value where
  reply := ⟨[], by simp, by simp⟩
  number n := by
    constructor
    · rintro ⟨rfl, h0, h1⟩
      rcases hvalue with h | h
      · exact absurd h h0
      · exact absurd h h1
    · intro h
      exact absurd h (not_takesPart_of_refused hcons hlobby _ n)
  full := hfull
  missing := hmissing
  unchanged _ := sameRooms_deliver s _

theorem truthfulJoin_iff (hcons : s.Consistent) (hregular : s.Regular config)
    (hlobby : s.connectionRoom c = none) (hopen : s.isOpen c = true) {packet : Packet}
    (oracle : Oracle) (htype : packet.type = .joinMeeting) (huser : packet.userId ≠ 0)
    (hlength : 4 ≤ packet.payload.length) :
    (∃ s', s.dispatch platform config c packet oracle = .ok s' ∧
      ∃ value, TruthfulJoin s s' c (readBe32 packet.payload) value) ↔
      ((∃ r, s.getRoom (readBe32 packet.payload) = some r ∧
          (s.participants r).toList.length < (s.heap r).options.maxParticipants) →
        readBe32 packet.payload ≠ 0 ∧ readBe32 packet.payload ≠ 0xFFFFFFFF) := by
  have hdispatch : s.dispatch platform config c packet oracle =
      s.handleJoinMeeting platform c packet oracle := by
    rw [dispatch, hlobby]
    dsimp only
    rw [handleLobbyPacket, htype]
  rw [hdispatch]
  -- no such room, a room with a place, a full room: the two refusals are always truthful
  cases hget : s.getRoom (readBe32 packet.payload) with
  | none =>
    rw [handleJoinMeeting_of_missing oracle hlength huser hopen hget]
    refine iff_of_true ⟨_, rfl, 0, ?_⟩ (by simp)
    refine truthfulJoin_refused hcons hlobby (Or.inl rfl) ?_ (iff_of_true rfl hget)
    refine iff_of_false (by decide) ?_
    rintro ⟨r, h, _⟩
    rw [hget] at h
    cases h
  | some r =>
    have hr := (hcons.getRoom_eq hget).1
    rcases Nat.lt_or_ge (s.participants r).toList.length (s.heap r).options.maxParticipants with
      hplace | hfull
    · rw [handleJoinMeeting_of_room platform hlength huser hopen hlobby
        (hcons.find_of_lobby hlobby r) hget hr hplace]
      have hiff := truthfulJoin_enroll_iff hcons hlobby hget hplace packet.userId oracle
      constructor
      · rintro ⟨s', h, hvalue⟩ _
        cases h
        exact hiff.mp hvalue
      · intro h
        exact ⟨_, rfl, hiff.mpr (h ⟨r, rfl, hplace⟩)⟩
    · rw [handleJoinMeeting_of_full oracle hlength huser hopen hget hr hfull]
      have hplaces := (hregular.room r (hcons.lt_nextRef hr)).place
      have hnot : ¬∃ r', some r = some r' ∧
          (s.participants r').toList.length < (s.heap r').options.maxParticipants := by
        rintro ⟨r', h, hplace⟩
        cases h
        exact absurd hplace (Nat.not_lt.mpr hfull)
      refine iff_of_true ⟨_, rfl, 0xFFFFFFFF, ?_⟩ (fun h => absurd h hnot)
      refine truthfulJoin_refused hcons hlobby (Or.inr rfl) ?_ ?_
      · exact iff_of_true rfl ⟨r, hget, Nat.le_antisymm hplaces hfull⟩
      · refine iff_of_false (by decide) ?_
        rw [hget]
        exact Option.some_ne_none r

/-- For every reachable state and every create or join of an open lobby
connection: the reply is truthful exactly when no room gets, or is entered
under, a number that stands for a refusal. -/
theorem replies_truthful_iff (hmin : 2 ≤ config.maxParticipantsPerRoom)
    (h : Reachable (system platform config) s) (hlobby : s.connectionRoom c = none)
    (hopen : s.isOpen c = true) {packet : Packet} (huser : packet.userId ≠ 0) (oracle : Oracle) :
    (packet.type = .createMeeting →
      ((∃ s', s.dispatch platform config c packet oracle = .ok s' ∧
        ∃ value, TruthfulCreate config s s' c value) ↔
        config.maxRooms ≤ s.rooms.toList.length ∨ s.NumberAtHand oracle.draws)) ∧
    (packet.type = .joinMeeting → 4 ≤ packet.payload.length →
      ((∃ s', s.dispatch platform config c packet oracle = .ok s' ∧
        ∃ value, TruthfulJoin s s' c (readBe32 packet.payload) value) ↔
        ((∃ r, s.getRoom (readBe32 packet.payload) = some r ∧
            (s.participants r).toList.length < (s.heap r).options.maxParticipants) →
          readBe32 packet.payload ≠ 0 ∧ readBe32 packet.payload ≠ 0xFFFFFFFF))) := by
  have hpos : 0 < config.maxParticipantsPerRoom := by omega
  have hcons := reachable_consistent hpos h
  have hregular := reachable_regular hpos h
  constructor
  · intro htype
    exact truthfulCreate_iff hpos hcons hregular hlobby hopen oracle htype huser
  · intro htype hlength
    exact truthfulJoin_iff hcons hregular hlobby hopen oracle htype huser hlength

end Replies

/-! ## The counter comes around -/

/-- A reachable server with two places for rooms and one room, which has the
only number that is ever drawn. -/
structure Circling (s : State) (next : UInt32) : Prop where
  reachable : Reachable (system reference { maxRooms := 2 }) s
  rooms : s.rooms.toList = [(123456, 0)]
  next : s.nextRoomId = next

/-- The only draw is taken, so the search starts at `_next_room_id`. -/
theorem Circling.pickRoomId {s : State} {next : UInt32} (h : Circling s next) :
    s.pickRoomId Oracle.plain.draws =
      .ok (if next = 123456 then (123457, 123458) else (next, next + 1)) := by
  have hfind : ∀ n, (s.rooms.find n).isNone = decide (n ≠ 123456) := by
    intro n
    rw [KeyedList.find, h.rooms]
    by_cases hn : n = 123456
    · subst hn
      rfl
    · have hn' : ¬(123456 : UInt32) = n := fun he => hn he.symm
      simp [hn, hn']
  have hdraw : s.drawRoomId Oracle.plain.draws = 0 := by
    rw [drawRoomId_eq_zero_iff]
    intro i _
    rw [← Option.not_isNone, hfind]
    rfl
  have hseq : sequentialRoomId s.rooms 4294967296 next =
      some (if next = 123456 then (123457, 123458) else (next, next + 1)) := by
    rw [sequentialRoomId, sequentialRoomId, hfind, hfind]
    by_cases hn : next = 123456
    · subst hn
      rfl
    · simp [hn]
  rw [State.pickRoomId, if_neg (not_not.mpr hdraw), h.next, hseq]

/-- The time of an open room can run out, since its timer is armed. -/
theorem reachable_teardown {platform : Platform} {config : ServerConfig} {s : State} {r : RoomRef}
    (hpos : 0 < config.maxParticipantsPerRoom) (h : Reachable (system platform config) s)
    (hr : (s.heap r).closed = false) : Reachable (system platform config) (s.teardown r) := by
  have hcons := reachable_consistent hpos h
  have harmed := ((reachable_regular hpos h).room r (hcons.lt_nextRef hr)).armed hr
  have henabled : (Event.expire r).Enabled s := ⟨hcons.lt_nextRef hr, Or.inl harmed⟩
  exact h.step ⟨henabled, hcons.closeRoom_eq hr⟩

/-- Somebody connects, and there is a place for another room. -/
theorem Circling.accepted {s : State} {next : UInt32} (h : Circling s next) :
    Reachable (system reference { maxRooms := 2 }) s.accept ∧
      s.accept.connectionRoom s.nextConnectionId = none ∧
      s.accept.isOpen s.nextConnectionId = true ∧ s.accept.rooms.toList.length < 2 := by
  have hpos : 0 < ({ maxRooms := 2 } : ServerConfig).maxParticipantsPerRoom := by decide
  refine ⟨h.reachable.step (e := .accept) ⟨trivial, rfl⟩, ?_, ?_, ?_⟩
  · refine ((reachable_consistent hpos h.reachable).freshConnection ?_).2
    rintro ⟨_, hlt⟩
    exact lt_irrefl _ hlt
  · simp
  · show s.rooms.toList.length < 2
    rw [h.rooms]
    decide

/-- Somebody creates a room and its time runs out. -/
theorem Circling.step {s : State} {next roomId next' : UInt32} (h : Circling s next)
    (hpick : s.pickRoomId Oracle.plain.draws = .ok (roomId, next')) :
    ∃ s', Circling s' next' := by
  have hpos : 0 < ({ maxRooms := 2 } : ServerConfig).maxParticipantsPerRoom := by decide
  have hcons := (reachable_consistent hpos h.reachable).accept
  rcases h.accepted with ⟨haccepted, hlobby, hopen, hrooms⟩
  have huser : ({ type := .createMeeting, userId := 7 } : Packet).userId ≠ 0 := by decide
  have hpicked : s.accept.pickRoomId Oracle.plain.draws = .ok (roomId, next') := hpick
  have hcreate :=
    handleCreateMeeting_of_picked reference { maxRooms := 2 } hpos hopen hlobby hrooms huser hpicked
  have henabled : (Event.packet s.nextConnectionId { type := .createMeeting, userId := 7 }
      .plain).Enabled s.accept := ⟨hcons.accepted_of_isOpen hopen, hopen⟩
  have hcreated := haccepted.step ⟨henabled, (dispatch_create hlobby rfl).trans hcreate⟩
  have hexpired := reachable_teardown hpos hcreated (r := s.nextRef) (by simp [found, State.accept])
  refine ⟨_, hexpired, ?_, rfl⟩
  -- what is stored under the number of the new room goes with it
  have hfree : s.rooms.find roomId = none := pickRoomId_free hpick
  have hne : ¬(123456 : UInt32) = roomId := by
    rintro rfl
    rw [KeyedList.find, h.rooms] at hfree
    cases hfree
  have hemplace : (s.rooms.emplace (roomId, s.nextRef) Oracle.plain.roomOrder).toList =
      [(roomId, s.nextRef), (123456, 0)] := by
    rw [KeyedList.emplace, dif_pos hfree, ← h.rooms]
    rfl
  show (s.rooms.emplace (roomId, s.nextRef) Oracle.plain.roomOrder).toList.filter _ = _
  rw [hemplace]
  simp [found, State.accept, hne]

/-- A counter below the number that is taken, and from the next one on, goes up
by one. -/
theorem Circling.advance {a : ℕ} (h : ∃ s, Circling s (UInt32.ofNat a)) (d : ℕ)
    (hlt : a + d ≤ 2 ^ 32) (hskip : ∀ j < d, a + j ≠ 123456) :
    ∃ s, Circling s (UInt32.ofNat (a + d)) := by
  induction d with
  | zero => exact h
  | succ d ih =>
    rcases ih (by omega) fun j hj => hskip j (Nat.lt_succ_of_lt hj) with ⟨s, hs⟩
    have hne : UInt32.ofNat (a + d) ≠ 123456 := by
      intro heq
      have htoNat := congrArg UInt32.toNat heq
      rw [UInt32.toNat_ofNat_of_lt' (show a + d < UInt32.size by simp [UInt32.size]; omega)]
        at htoNat
      exact hskip d (Nat.lt_succ_self d) htoNat
    have hpick := hs.pickRoomId
    rw [if_neg hne] at hpick
    rcases hs.step hpick with ⟨s', hs'⟩
    rw [← Nat.add_assoc, UInt32.ofNat_add (a + d) 1]
    exact ⟨s', hs'⟩

/-- One meeting is created under the number that is drawn. -/
def drawnCreation : List Event :=
  [.accept, .packet 1 { type := .createMeeting, userId := 7 } .plain]

theorem exists_circling_one : ∃ s, Circling s 1 := by
  have hrun : (replay (next reference { maxRooms := 2 }) State.start drawnCreation).any
      (fun s => decide (s.rooms.toList = [(123456, 0)] ∧ s.nextRoomId = 1)) = true := by
    decide +kernel
  rcases Option.any_eq_true _ _ |>.mp hrun with ⟨s, hs, h⟩
  rcases of_decide_eq_true h with ⟨hrooms, hnext⟩
  exact ⟨s, reachable_of_replay _ _ hs, hrooms, hnext⟩

/-- The counter goes from `1` past the number that is taken to `0`. -/
theorem exists_circling_zero : ∃ s, Circling s 0 := by
  rcases Circling.advance (a := 1) exists_circling_one 123455 (by omega) (by omega) with ⟨s, hs⟩
  have hpick := hs.pickRoomId
  rw [if_pos (show UInt32.ofNat (1 + 123455) = 123456 from rfl)] at hpick
  exact Circling.advance (a := 123458) (hs.step hpick) (2 ^ 32 - 123458) (by omega) (by omega)

/-- A create is answered with `0`, no room, though there is a place for a room:
the room that is made has the number `0`. -/
theorem create_answered_zero :
    ∃ s c packet, Reachable (system reference { maxRooms := 2 }) s ∧
      s.connectionRoom c = none ∧ s.isOpen c = true ∧ packet.type = .createMeeting ∧
      packet.userId ≠ 0 ∧ s.rooms.toList.length < 2 ∧
      ¬∃ s', s.dispatch reference { maxRooms := 2 } c packet .plain = .ok s' ∧
        ∃ value, TruthfulCreate { maxRooms := 2 } s s' c value := by
  have hpos : 0 < ({ maxRooms := 2 } : ServerConfig).maxParticipantsPerRoom := by decide
  -- after this run the sequential search comes round to 0
  rcases exists_circling_zero with ⟨s, hs⟩
  have hcons := reachable_consistent hpos hs.reachable
  rcases hs.accepted with ⟨haccepted, hlobby, hopen, hrooms⟩
  refine ⟨s.accept, s.nextConnectionId, { type := .createMeeting, userId := 7 }, haccepted, hlobby,
    hopen, rfl, by decide, hrooms, ?_⟩
  rw [truthfulCreate_iff hpos hcons.accept (reachable_regular hpos haccepted) hlobby hopen .plain
    rfl (by decide), numberAtHand_iff]
  rintro (h | ⟨roomId, next, hpick, hne⟩)
  · exact absurd hrooms (Nat.not_lt.mpr h)
  · have hpick' : s.pickRoomId Oracle.plain.draws = .ok (roomId, next) := hpick
    rw [hs.pickRoomId] at hpick'
    cases hpick'
    exact hne rfl

/-- The first create of a server and the first join are answered truthfully. -/
theorem replies_truthful_at_start :
    ∃ s, replay (next reference {}) State.start [.accept] = some s ∧
      (∃ s', s.dispatch reference {} 1 { type := .createMeeting, userId := 7 } .plain = .ok s' ∧
        ∃ value, TruthfulCreate {} s s' 1 value) ∧
      ∃ s', s.dispatch reference {} 1
          { type := .joinMeeting, userId := 7, payload := [0, 0, 0, 0] } .plain = .ok s' ∧
        ∃ value, TruthfulJoin s s' 1 0 value := by
  have hrun : replay (next reference {}) State.start [.accept] = some State.start.accept := rfl
  have hreach := reachable_of_replay _ _ hrun
  have hcreator : ({ type := .createMeeting, userId := 7 } : Packet).userId ≠ 0 := by decide
  have hjoiner :
      ({ type := .joinMeeting, userId := 7, payload := [0, 0, 0, 0] } : Packet).userId ≠ 0 := by
    decide
  refine ⟨_, hrun, ?_, ?_⟩
  · refine ((replies_truthful_iff (by decide) hreach (c := 1) rfl rfl hcreator .plain).1 rfl).mpr ?_
    exact Or.inr (Or.inl ⟨0, by decide, rfl⟩)
  · refine ((replies_truthful_iff (by decide) hreach (c := 1) rfl rfl hjoiner .plain).2 rfl
      (by decide)).mpr ?_
    rintro ⟨r, hget, _⟩
    cases hget

end CCMeeting
