import CCMeeting.Network.Pending

/-! # The switches of a room

The client keeps the switches of its room beside the server. A member learns
them when it joins, and every edit of the owner is echoed to all. The creator
is told nothing, and starts with other switches than the room does: its first
edit makes the two agree.
-/

namespace CCMeeting

open ByteString Transition State Network

/-! ## What is compared -/

/-- `d` is the owner of the room `r`. -/
def State.Owns (s : State) (r : RoomRef) (d : ConnId) : Prop :=
  ∃ p ∈ s.participants r, p.connection = d ∧ p.isOwner = true

/-- No edit of the switches is on the way to the server. -/
def Link.NoEdit (l : Link) : Prop :=
  ∀ priority flags, Message.roomSettings flags ∉ l.bucketFor priority

/-- The runs in which a client connects at most once, when it has just been
started. -/
def Network.FirstMeeting (y : Network) : Action → Prop
  | .connect k _ => y.clients k = Client.fresh
  | _ => True

instance (y : Network) : (a : Action) → Decidable (y.FirstMeeting a)
  | .connect k _ => inferInstanceAs (Decidable (y.clients k = Client.fresh))
  | .send .. | .edit .. | .deliver .. | .receive _ | .leave _ | .disconnected _ | .server _ =>
    inferInstanceAs (Decidable True)

/-- One meeting session per client. -/
def firstMeetings (platform : Platform) (config : ServerConfig) (qt : Qt) :
    System Network Action :=
  (network platform config qt).restrict Network.FirstMeeting

/-- The phases of a session, by what is known of the switches. -/
inductive Network.Phase (qt : Qt) (y : Network) (d : ConnId) (c : Client) : Prop where
  /-- the session ends with what has been sent -/
  | ending : (y.caughtUp qt d c).sessionEnding = true → Phase qt y d c
  /-- in the lobby, with the switches of a client just started -/
  | lobby : y.server.connectionRoom d = none → y.pending d = [] → (y.links d).NoEdit →
      c.isHost = false → c.edited = false → c.flags = 0 → Phase qt y d c
  /-- in a meeting of another user, with its switches -/
  | guest {r : RoomRef} : y.server.connectionRoom d = some r → ¬y.server.Owns r d →
      (y.links d).NoEdit → c.isHost = false →
      (∀ q ∈ y.pending d, q.packet.type ≠ .createMeetingResponse) →
      (y.caughtUp qt d c).flags = (y.server.heap r).settings → Phase qt y d c
  /-- in a meeting created here, with the switches never touched -/
  | creator {r : RoomRef} : y.server.connectionRoom d = some r → y.server.Owns r d →
      (y.links d).NoEdit → c.edited = false → (y.caughtUp qt d c).flags = 0 →
      (y.server.heap r).settings = kRoomSettingsDefault → Phase qt y d c
  /-- in a meeting created here, with the switches edited -/
  | editor {r : RoomRef} : y.server.connectionRoom d = some r → y.server.Owns r d →
      c.edited = true →
      ((y.links d).NoEdit → (y.caughtUp qt d c).flags = (y.server.heap r).settings) →
      Phase qt y d c

/-! ## Several packets -/

namespace Client

variable (qt : Qt) (localUserId : Int64)

theorem hearAll_flags (c : Client) {qs : List Queued}
    (h : ∀ q ∈ qs, q.packet.type ≠ .roomSettingsNotify) :
    (c.hearAll qt localUserId qs).sessionEnding = true ∨
      (c.hearAll qt localUserId qs).flags = c.flags := by
  induction qs generalizing c with
  | nil => exact Or.inr rfl
  | cons q qs ih =>
    rw [hearAll_cons]
    have hrest := ih (c.hear qt localUserId q) fun q' hq' => h q' (List.mem_cons_of_mem _ hq')
    rcases c.hear_flags qt localUserId (h q (List.mem_cons_self ..)) with hend | hsame
    · exact Or.inl (hearAll_sessionEnding qs hend)
    · rw [hsame] at hrest
      exact hrest

/-- The last notice of the room is what counts. -/
theorem hearAll_settings (c : Client) (pre : List Queued) {post : List Queued} (userId : UInt64)
    (flags : UInt32) (source : List ConnId) (h : ∀ q ∈ post, q.packet.type ≠ .roomSettingsNotify) :
    (c.hearAll qt localUserId (pre ++
        ⟨{ type := .roomSettingsNotify, userId, payload := writeBe32 flags }, source⟩ ::
          post)).sessionEnding = true ∨
      (c.hearAll qt localUserId (pre ++
        ⟨{ type := .roomSettingsNotify, userId, payload := writeBe32 flags }, source⟩ ::
          post)).flags = flags := by
  rw [hearAll_append, hearAll_cons, hear_settings]
  exact hearAll_flags qt localUserId _ h

end Client

namespace Network

variable {qt : Qt} {y y' : Network} {d : ConnId} {c : Client}

/-- A step has queued `news` for `d`, and no edit of `d` has come or gone. -/
structure Queues (qt : Qt) (y y' : Network) (d : ConnId) (news : List Queued) : Prop where
  pending : y'.pending d = y.pending d ++ news
  caughtUp : ∀ c, y'.caughtUp qt d c = (y.caughtUp qt d c).hearAll qt (y.links d).userId news
  noEdit : (y'.links d).NoEdit ↔ (y.links d).NoEdit

theorem Queues.ending {news : List Queued} (hq : Queues qt y y' d news)
    (hend : (y.caughtUp qt d c).sessionEnding = true) : y'.Phase qt d c := by
  refine .ending ?_
  rw [hq.caughtUp]
  exact Client.hearAll_sessionEnding _ hend

/-- A step after which the meeting of `d` is what it was, and `d` has been sent
nothing about switches. -/
theorem Phase.carry (hc : y.Phase qt d c) {news : List Queued} (hqueues : Queues qt y y' d news)
    (hroute : y'.server.connectionRoom d = y.server.connectionRoom d)
    (hlobby : y.server.connectionRoom d = none → news = [])
    (howns : ∀ r, y.server.connectionRoom d = some r →
      (y'.server.Owns r d ↔ y.server.Owns r d) ∧
      (y'.server.heap r).settings = (y.server.heap r).settings)
    (hnews : ∀ q ∈ news, q.packet.type ≠ .createMeetingResponse ∧
      q.packet.type ≠ .roomSettingsNotify) : y'.Phase qt d c := by
  have hflags : (y'.caughtUp qt d c).sessionEnding = true ∨
      (y'.caughtUp qt d c).flags = (y.caughtUp qt d c).flags := by
    rw [hqueues.caughtUp]
    exact Client.hearAll_flags qt _ _ fun q hq => (hnews q hq).2
  -- `news` holds no settings, so the flags the client catches up to change only by an end of its
  -- session
  cases hc with
  | ending hend => exact hqueues.ending hend
  | lobby hr hempty hno hhost hedited hzero =>
    refine .lobby (hroute.trans hr) ?_ (hqueues.noEdit.mpr hno) hhost hedited hzero
    rw [hqueues.pending, hempty, hlobby hr]
    rfl
  | @guest r hr hnot hno hhost hcreate hagree =>
    rcases hflags with hend | hsame
    · exact .ending hend
    · refine .guest (hroute.trans hr) (mt (howns r hr).1.mp hnot) (hqueues.noEdit.mpr hno) hhost ?_ ?_
      · intro q hq
        rw [hqueues.pending] at hq
        rcases List.mem_append.mp hq with hold | hnew
        · exact hcreate q hold
        · exact (hnews q hnew).1
      · rw [hsame, (howns r hr).2, hagree]
  | @creator r hr hown hno hedited hzero hdefault =>
    rcases hflags with hend | hsame
    · exact .ending hend
    · exact .creator (hroute.trans hr) ((howns r hr).1.mpr hown) (hqueues.noEdit.mpr hno) hedited
        (hsame.trans hzero) ((howns r hr).2.trans hdefault)
  | @editor r hr hown hedited hagree =>
    rcases hflags with hend | hsame
    · exact .ending hend
    · refine .editor (hroute.trans hr) ((howns r hr).1.mpr hown) hedited fun hno => ?_
      rw [hsame, (howns r hr).2, hagree (hqueues.noEdit.mp hno)]

/-- Nothing changes for `d`. -/
theorem Phase.congr (hc : y.Phase qt d c) (hserver : y'.server = y.server)
    (hreceived : (y'.links d).received = (y.links d).received)
    (huser : (y'.links d).userId = (y.links d).userId)
    (hedit : (y'.links d).NoEdit ↔ (y.links d).NoEdit) : y'.Phase qt d c := by
  have hqueues : Queues qt y y' d [] := by
    refine ⟨?_, fun c => caughtUp_congr (by rw [hserver]) hreceived huser c, hedit⟩
    rw [pending, pending, hserver, hreceived, List.append_nil]
  refine hc.carry hqueues (by rw [hserver]) (fun _ => rfl) ?_ (fun q hq => by cases hq)
  intro r _
  rw [hserver]
  exact ⟨Iff.rfl, rfl⟩

end Network

/-! ## Who changes the switches -/

section Server

variable {config : ServerConfig} {s s' : State} {d : ConnId}

/-- The participant record of a connection says whether it is the owner. -/
theorem State.owns_iff {r : RoomRef} {p : Participant} (hp : (s.participants r).find d = some p) :
    s.Owns r d ↔ p.isOwner = true := by
  rcases KeyedList.find_eq_some.mp hp with ⟨hmem, hkey⟩
  constructor
  · rintro ⟨q, hq, hqd, howner⟩
    have hfind := KeyedList.find_eq_some.mpr ⟨hq, hqd⟩
    rw [hp] at hfind
    cases hfind
    exact howner
  · exact fun howner => ⟨p, hmem, hkey, howner⟩

/-- A room has one owner. -/
theorem State.Consistent.owns_unique (h : s.Consistent) {r : RoomRef} {c : ConnId}
    (hopen : (s.heap r).closed = false) (hc : s.Owns r c) (hd : s.Owns r d) : c = d := by
  rcases h.owner hopen with ⟨owner, _, _, honly⟩
  rcases hc with ⟨p, hp, rfl, hpowner⟩
  rcases hd with ⟨q, hq, rfl, hqowner⟩
  rw [honly p hp hpowner, honly q hq hqowner]

/-- The edit of an owner is echoed to it. -/
theorem Effect.echo {packet : Packet} {oracle : Oracle} {r : RoomRef}
    (he : Effect config s (.packet d packet oracle) s') (h : s.Consistent)
    (htype : packet.type = .roomSettings) (hroute : s.connectionRoom d = some r)
    (howns : s.Owns r d) :
    s'.connectionRoom d = some r ∧ s'.Owns r d ∧ ∃ userId, s'.outbox d = s.outbox d ++
      [⟨{ type := .roomSettingsNotify, userId, payload := writeBe32 (s'.heap r).settings },
        [d]⟩] := by
  -- the sender owns a room, so of all effects of a packet only the relay of its settings is left
  cases he with
  | nothing hwhich => rcases hwhich with ⟨_, hwhich⟩ | ⟨_, hwhich⟩ <;> cases hwhich
  | dropped hactor _ hlobby _ =>
    cases hactor
    rw [hroute] at hlobby
    cases hlobby
  | refused hlobby _ _ | created _ hlobby _ _ _ _ | joined _ hlobby _ _ _ _ _ _ =>
    rw [hroute] at hlobby
    cases hlobby
  | ignored hroute' _ hsender hignored =>
    rw [hroute] at hroute'
    cases hroute'
    have howner := (State.owns_iff hsender).mp howns
    rw [hignored.2.2.2 htype] at howner
    cases howner
  | @relayed c packet oracle r' sender room q exclude hroute' hopen hsender hrel hvalid =>
    rw [hroute] at hroute'
    cases hroute'
    cases hrel with
    | text hother | camera hother | profile hother =>
      rw [htype] at hother
      cases hother
    | settings _ howner =>
      rcases howns with ⟨p, hp, hpd, hpowner⟩
      have hmember := (h.route hroute).2
      have hd0 : d ≠ 0 := Nat.ne_of_gt (h.accepted_of_isOpen hopen).1
      refine ⟨hroute, ⟨p, by simpa [modifyRoom, participants] using hp, hpd, hpowner⟩,
        sender.userId, ?_⟩
      rw [deliver_outbox, State.hearing_of ⟨hmember, hd0, hopen⟩]
      simp [modifyRoom, outbox]

/-- Only the owner changes the switches of a room there is. -/
theorem Effect.settings {e : Event} (he : Effect config s e s') {r : RoomRef}
    (hr : r < s.nextRef) (hne : (s'.heap r).settings ≠ (s.heap r).settings) :
    ∃ c packet oracle, e = .packet c packet oracle ∧ packet.type = .roomSettings ∧
      s.connectionRoom c = some r ∧ s.Owns r c ∧
      (s'.heap r).settings = requestedSettings packet (s.heap r).settings := by
  -- only an owner's settings packet writes the flags of a room that exists
  cases he with
  | accept | socketDown _ | wrote _ | nothing _ | dropped _ _ _ _ | refused _ _ _
  | ignored _ _ _ _ => exact absurd rfl hne
  | created _ _ _ _ _ _ =>
    have hrr : r ≠ s.nextRef := Nat.ne_of_lt hr
    simp [State.found, hrr] at hne
  | @joined c packet oracle r' _ _ _ _ _ _ _ _ =>
    refine absurd ?_ hne
    by_cases hrr : r = r'
    · subst hrr
      simp [State.enroll, joinedRoom]
    · simp [State.enroll, hrr]
  | @relayed c packet oracle r' sender room q exclude hroute _ hsender hrel _ =>
    by_cases hrr : r = r'
    · subst hrr
      have hroom : (((s.modifyRoom r fun _ => room).deliver (s.hearing r exclude q)).heap r) =
          room := by simp [modifyRoom]
      rw [hroom] at hne ⊢
      cases hrel with
      | text _ | camera _ | profile _ => exact absurd rfl hne
      | settings htype howner =>
        exact ⟨c, packet, oracle, rfl, htype, hroute, (State.owns_iff hsender).mpr howner, rfl⟩
    · simp [modifyRoom, hrr] at hne
  | @left c r' p _ _ _ _ =>
    refine absurd ?_ hne
    by_cases hrr : r = r'
    · subst hrr
      simp [State.depart]
    · simp [State.depart, hrr]
  | @ownerLeft c r' p _ _ _ _ | @expired r' _ =>
    refine absurd ?_ hne
    by_cases hrr : r = r'
    · subst hrr
      simp [State.teardown, modifyConnection]
    · simp [State.teardown, modifyConnection, hrr]

/-- Another participant more or less, or one that is not the owner. -/
theorem State.owns_of_perm {r : RoomRef} {p : Participant}
    (hperm : (s'.participants r).toList.Perm (p :: (s.participants r).toList))
    (hp : p.connection ≠ d ∨ p.isOwner = false) : s'.Owns r d ↔ s.Owns r d := by
  constructor
  · rintro ⟨q, hq, hqd, howner⟩
    rcases List.mem_cons.mp (hperm.mem_iff.mp hq) with rfl | hold
    · rcases hp with hne | hnot
      · exact absurd hqd hne
      · rw [hnot] at howner
        cases howner
    · exact ⟨q, hold, hqd, howner⟩
  · rintro ⟨q, hq, hqd, howner⟩
    exact ⟨q, hperm.mem_iff.mpr (List.mem_cons_of_mem _ hq), hqd, howner⟩

/-- Relayed packets make nobody an owner. -/
theorem State.Relayed.owns_iff {r : RoomRef} {room : Room} {c exclude : ConnId}
    {sender : Participant} {packet : Packet} {q : Queued}
    (hrel : Relayed (s.heap r) c sender packet room q exclude)
    (hroom : s'.heap r = room) : s'.Owns r d ↔ s.Owns r d := by
  rcases hrel.exists_map with ⟨f, hf, hkeep⟩
  have hlist : (s'.participants r).toList = (s.participants r).toList.map f := by
    rw [participants, hroom, hf]
    rfl
  constructor
  · rintro ⟨p, hp, hpd, howner⟩
    rw [KeyedList.mem_def, hlist] at hp
    rcases List.mem_map.mp hp with ⟨p₀, hp₀, rfl⟩
    exact ⟨p₀, hp₀, (hkeep p₀).1.symm.trans hpd, (hkeep p₀).2.symm.trans howner⟩
  · rintro ⟨p, hp, hpd, howner⟩
    refine ⟨f p, ?_, (hkeep p).1.trans hpd, (hkeep p).2.trans howner⟩
    rw [KeyedList.mem_def, hlist]
    exact List.mem_map_of_mem hp

end Server

/-! ## What one step is to the switches -/

/-- The event is an edit of `d`. -/
def Event.Edits (e : Event) (d : ConnId) : Prop :=
  ∃ packet oracle, e = .packet d packet oracle ∧ packet.type = .roomSettings

namespace Network

variable {config : ServerConfig} {qt : Qt} {y y' : Network} {d : ConnId} {c : Client}

/-- An edit of the owner has reached the server. -/
theorem Phase.edits (hc : y.Phase qt d c) (hy : y.Sound) (h : y.server.Consistent) {e : Event}
    (he : Effect config y.server e y'.server) (hedits : e.Edits d)
    (hreceived : (y'.links d).received = (y.links d).received)
    (huser : (y'.links d).userId = (y.links d).userId)
    (hsent : ¬(y.links d).NoEdit) : y'.Phase qt d c := by
  rcases hedits with ⟨packet, oracle, rfl, htype⟩
  cases hc with
  | ending hend =>
    rcases he.seen h d with ⟨news, _, houtbox⟩
    refine .ending ?_
    rw [caughtUp_append hy houtbox hreceived huser]
    exact Client.hearAll_sessionEnding _ hend
  | lobby _ _ hno _ _ _ | guest _ _ hno _ _ _ | creator _ _ hno _ _ _ => exact absurd hno hsent
  | editor hr hown hedited _ =>
    rcases he.echo h htype hr hown with ⟨hr', hown', userId, houtbox⟩
    refine .editor hr' hown' hedited fun _ => ?_
    rw [caughtUp_append hy houtbox hreceived huser]
    exact congrArg Client.flags
      (Client.hear_settings qt (y.links d).userId (y.caughtUp qt d _) userId _ _)

/-- One who creates a meeting has the switches of a client just started. -/
theorem Phase.created (hc : y.Phase qt d c) {r : RoomRef} {userId : UInt64}
    (hqueues : Queues qt y y' d [response .createMeetingResponse (y'.server.heap r).roomId])
    (hlobby : y.server.connectionRoom d = none) (hroute : y'.server.connectionRoom d = some r)
    (hparticipants : (y'.server.participants r).toList = [State.creator d userId])
    (hsettings : (y'.server.heap r).settings = kRoomSettingsDefault) : y'.Phase qt d c := by
  cases hc with
  | ending hend => exact hqueues.ending hend
  | lobby _ hempty hno _ hedited hzero =>
    have hnothing : y.caughtUp qt d c = c := by
      rw [caughtUp, hempty]
      rfl
    have howns : y'.server.Owns r d := by
      refine ⟨State.creator d userId, ?_, rfl, rfl⟩
      rw [KeyedList.mem_def, hparticipants]
      exact List.mem_singleton.mpr rfl
    -- the answer makes it the host, and says nothing of the switches
    have hanswer : ∀ q ∈ [response .createMeetingResponse (y'.server.heap r).roomId],
        q.packet.type ≠ .roomSettingsNotify := by simp [response]
    rcases Client.hearAll_flags qt (y.links d).userId c hanswer with hend | hsame
    · refine .ending ?_
      rw [hqueues.caughtUp, hnothing]
      exact hend
    · refine .creator hroute howns (hqueues.noEdit.mpr hno) hedited ?_ hsettings
      rw [hqueues.caughtUp, hnothing]
      exact hsame.trans hzero
  | guest hr _ _ _ _ _ | creator hr _ _ _ _ _ | editor hr _ _ _ =>
    rw [hlobby] at hr
    cases hr

theorem type_of_mem_profileNotices {ps : List Participant} {q : Queued}
    (hq : q ∈ ps.flatMap profileNotices) : q.packet.type = .userProfile := by
  rcases List.mem_flatMap.mp hq with ⟨p, _, hqp⟩
  unfold profileNotices at hqp
  split_ifs at hqp
  · cases hqp
  · rw [List.mem_singleton.mp hqp]
    rfl

/-- One who joins a meeting is told its switches. -/
theorem Phase.entered (hc : y.Phase qt d c) (h : y.server.Consistent) {r : RoomRef}
    {userId : UInt64} (hqueues : Queues qt y y' d
      (response .joinMeetingResponse (y'.server.heap r).roomId :: y'.server.welcome r d))
    (hlobby : y.server.connectionRoom d = none) (hroute : y'.server.connectionRoom d = some r)
    (hperm : (y'.server.participants r).toList.Perm
      (State.joiner d userId :: (y.server.participants r).toList)) : y'.Phase qt d c := by
  cases hc with
  | ending hend => exact hqueues.ending hend
  | lobby _ hempty hno hhost _ _ =>
    have hnothing : y.caughtUp qt d c = c := by
      rw [caughtUp, hempty]
      rfl
    have hnot : ¬y'.server.Owns r d := by
      rw [State.owns_of_perm hperm (Or.inr rfl)]
      rintro ⟨p, hp, hpd, _⟩
      have hmember := h.member ⟨p, hp, hpd⟩
      rw [hlobby] at hmember
      cases hmember
    have hprofile : ∀ q ∈ (y'.server.others r d).flatMap profileNotices,
        q.packet.type ≠ .roomSettingsNotify := by
      intro q hq
      rw [type_of_mem_profileNotices hq]
      decide
    -- after the switches come profiles
    rcases Client.hearAll_settings qt (y.links d).userId c
      [response .joinMeetingResponse (y'.server.heap r).roomId,
        partnerList (y'.server.others r d)] 0 (y'.server.heap r).settings [] hprofile with hend | hsame
    · refine .ending ?_
      rw [hqueues.caughtUp, hnothing]
      exact hend
    · refine .guest hroute hnot (hqueues.noEdit.mpr hno) hhost ?_ ?_
      · intro q hq
        rw [hqueues.pending, hempty, List.nil_append] at hq
        rcases List.mem_cons.mp hq with rfl | hq
        · simp [response]
        rcases List.mem_append.mp hq with hq | hq
        · rcases List.mem_cons.mp hq with rfl | hq
          · simp [partnerList]
          · rw [List.mem_singleton.mp hq]
            simp [settingsNotice, makeRoomSettingsPacket]
        · rw [type_of_mem_profileNotices hq]
          decide
      · rw [hqueues.caughtUp, hnothing]
        exact hsame
  | guest hr _ _ _ _ _ | creator hr _ _ _ _ _ | editor hr _ _ _ =>
    rw [hlobby] at hr
    cases hr

/-- In a meeting that keeps its switches and whose owner stays who it is. -/
theorem Phase.remains (hc : y.Phase qt d c) {r : RoomRef} {news : List Queued}
    (hqueues : Queues qt y y' d news) (hroute : y.server.connectionRoom d = some r)
    (hroute' : y'.server.connectionRoom d = some r)
    (howns : y'.server.Owns r d ↔ y.server.Owns r d)
    (hsettings : (y'.server.heap r).settings = (y.server.heap r).settings)
    (hnews : ∀ q ∈ news, q.packet.type ≠ .createMeetingResponse ∧
      q.packet.type ≠ .roomSettingsNotify) : y'.Phase qt d c := by
  refine hc.carry hqueues (hroute'.trans hroute.symm) ?_ ?_ hnews
  · intro hlobby
    rw [hroute] at hlobby
    cases hlobby
  · intro r' hr'
    rw [hroute] at hr'
    cases hr'
    exact ⟨howns, hsettings⟩

/-- An edit is relayed to those who do not own the meeting. -/
theorem Phase.told (hc : y.Phase qt d c) {r : RoomRef} {userId : UInt64} {flags : UInt32}
    {source : List ConnId}
    (hqueues : Queues qt y y' d
      [⟨{ type := .roomSettingsNotify, userId, payload := writeBe32 flags }, source⟩])
    (hroute : y.server.connectionRoom d = some r) (hroute' : y'.server.connectionRoom d = some r)
    (hnot : ¬y.server.Owns r d) (howns : y'.server.Owns r d ↔ y.server.Owns r d)
    (hsettings : (y'.server.heap r).settings = flags) : y'.Phase qt d c := by
  cases hc with
  | ending hend => exact hqueues.ending hend
  | lobby hlobby _ _ _ _ _ =>
    rw [hroute] at hlobby
    cases hlobby
  | creator hr hown _ _ _ _ | editor hr hown _ _ =>
    rw [hroute] at hr
    cases hr
    exact absurd hown hnot
  | guest hr _ hno hhost hcreate _ =>
    refine .guest hroute' (mt howns.mp hnot) (hqueues.noEdit.mpr hno) hhost ?_ ?_
    · intro q hq
      rw [hqueues.pending] at hq
      rcases List.mem_append.mp hq with hold | hnew
      · exact hcreate q hold
      · rw [List.mem_singleton.mp hnew]
        simp
    · rw [hqueues.caughtUp, hsettings]
      exact congrArg Client.flags
        (Client.hear_settings qt (y.links d).userId (y.caughtUp qt d c) _ _ _)

/-- A packet of the meeting that `d` is in, and no edit of its own. -/
theorem Phase.relayed (hc : y.Phase qt d c) (h : y.server.Consistent) {c' exclude : ConnId}
    {packet : Packet} {r : RoomRef} {sender : Participant} {room : Room} {q : Queued}
    (hqueues : Queues qt y y' d (if d = exclude then [] else [q]))
    (hother : packet.type = .roomSettings → c' ≠ d)
    (hroute : y.server.connectionRoom c' = some r) (hrouted : y.server.connectionRoom d = some r)
    (hroutes : y'.server.connectionRoom = y.server.connectionRoom)
    (hsender : (y.server.participants r).find c' = some sender)
    (hrel : State.Relayed (y.server.heap r) c' sender packet room q exclude)
    (hroom : y'.server.heap r = room) : y'.Phase qt d c := by
  have howns : y'.server.Owns r d ↔ y.server.Owns r d := hrel.owns_iff hroom
  have hrouted' : y'.server.connectionRoom d = some r := by rw [hroutes, hrouted]
  have hnews : q.packet.type ≠ .createMeetingResponse ∧ q.packet.type ≠ .roomSettingsNotify →
      ∀ q' ∈ if d = exclude then [] else [q], q'.packet.type ≠ .createMeetingResponse ∧
        q'.packet.type ≠ .roomSettingsNotify := by
    intro hquiet q' hq'
    split_ifs at hq'
    · cases hq'
    · rw [List.mem_singleton.mp hq']
      exact hquiet
  cases hrel with
  | text _ | camera _ =>
    refine hc.remains hqueues hrouted hrouted' howns ?_ (hnews ⟨by simp, by simp⟩)
    rw [hroom]
  | profile htype =>
    refine hc.remains hqueues hrouted hrouted' howns ?_ (hnews ⟨?_, ?_⟩)
    · rw [hroom]
    · show packet.type ≠ _
      rw [htype]
      decide
    · show packet.type ≠ _
      rw [htype]
      decide
  | settings htype howner =>
    -- the owner has edited the switches, and is not `d`
    have hnot : ¬y.server.Owns r d := by
      intro hown
      refine hother htype (h.owns_unique (h.route hroute).1 ?_ hown)
      exact (State.owns_iff hsender).mpr howner
    have hd0 : d ≠ 0 := Nat.ne_of_gt (h.accepted_of_route hrouted).1
    rw [if_neg hd0] at hqueues
    refine hc.told hqueues hrouted hrouted' hnot howns ?_
    rw [hroom]

/-- Anything else has happened at the server. -/
theorem Phase.step (hc : y.Phase qt d c) (hy : y.Sound) (h : y.server.Consistent) {e : Event}
    (he : Effect config y.server e y'.server) (hedits : ¬e.Edits d)
    (hopen : y'.server.isOpen d = true)
    (hreceived : (y'.links d).received = (y.links d).received)
    (huser : (y'.links d).userId = (y.links d).userId)
    (hlink : (y'.links d).NoEdit ↔ (y.links d).NoEdit) : y'.Phase qt d c := by
  rcases he.seen h d with ⟨news, hseen, houtbox⟩
  have hqueues : Queues qt y y' d news := ⟨pending_append hy houtbox hreceived,
    caughtUp_append hy houtbox hreceived huser, hlink⟩
  cases hseen with
  | gone hgone =>
    rw [hgone] at hopen
    cases hopen
  | accepted _ _ _ hlobby hlobby' =>
    refine hc.carry hqueues (hlobby'.trans hlobby.symm) (fun _ => rfl) ?_ fun q hq => by cases hq
    intro r hr
    rw [hlobby] at hr
    cases hr
  | elsewhere _ _ hroute hheap hnews =>
    cases news with
    | nil =>
      refine hc.carry hqueues hroute (fun _ => rfl) ?_ fun q hq => by cases hq
      intro r hr
      rw [State.Owns, State.Owns, participants, participants, hheap r hr]
      exact ⟨Iff.rfl, rfl⟩
    | cons q qs =>
      rcases hnews q (List.mem_cons_self ..) with ⟨_, packet, _, type, value, _, hrefusal, rfl⟩
      refine .ending ?_
      rw [hqueues.caughtUp]
      exact Client.hearAll_sessionEnding qs (Client.hear_refusal qt _ _ hrefusal)
  | created _ _ _ _ hlobby hroute _ hparticipants hsettings =>
    exact hc.created hqueues hlobby hroute hparticipants hsettings
  | entered _ _ _ _ hlobby hroute _ _ hperm _ => exact hc.entered h hqueues hlobby hroute hperm
  | joined _ _ _ _ _ _ hne hroute hroute' hperm hsettings =>
    apply hc.remains hqueues hroute hroute' (State.owns_of_perm hperm (Or.inl hne)) hsettings
    simp [joinNotice]
  | left _ _ _ hne _ _ _ hroute hroute' hperm hsettings =>
    apply hc.remains hqueues hroute hroute' (State.owns_of_perm hperm (Or.inl hne)).symm hsettings
    simp [exitNotice]
  | relayed heq _ _ hroute hrouted hroutes hsender hrel hroom =>
    refine hc.relayed h hqueues ?_ hroute hrouted hroutes hsender hrel hroom
    rintro htype rfl
    exact hedits ⟨_, _, heq, htype⟩

end Network

/-! ## What is on the way to the server -/

namespace Link

variable {l : Link} {msg : Message}

/-- What is sent is on the way. -/
theorem mem_push_self : msg ∈ (l.push msg).bucketFor msg.sendPriority := by
  unfold push
  cases msg.sendPriority <;> simp [bucketFor]

theorem mem_push_of_mem {msg' : Message} {priority : MessagePriority}
    (h : msg' ∈ l.bucketFor priority) : msg' ∈ (l.push msg).bucketFor priority := by
  unfold push
  cases msg.sendPriority <;> cases priority <;> simp only [bucketFor, List.mem_append] at h ⊢
  · exact Or.inl h
  · exact h
  · exact h
  · exact Or.inl h

/-- A message that is no edit. -/
theorem noEdit_push (h : ∀ flags, msg ≠ .roomSettings flags) : (l.push msg).NoEdit ↔ l.NoEdit := by
  constructor
  · exact fun hno priority flags hmem => hno priority flags (mem_push_of_mem hmem)
  · intro hno priority flags hmem
    rcases mem_push hmem with heq | hold
    · exact h flags heq.symm
    · exact hno priority flags hold

/-- The first message has arrived, and was no edit. -/
theorem noEdit_pop {priority : MessagePriority} {rest : List Message}
    (hbucket : l.bucketFor priority = msg :: rest) (h : ∀ flags, msg ≠ .roomSettings flags) :
    (l.pop priority).NoEdit ↔ l.NoEdit := by
  constructor
  · intro hno priority' flags hmem
    refine hno priority' flags ?_
    cases priority <;> cases priority' <;> simp only [bucketFor, pop] at hbucket hmem ⊢
    · rw [hbucket] at hmem ⊢
      rcases List.mem_cons.mp hmem with heq | hrest
      · exact absurd heq.symm (h flags)
      · exact hrest
    · exact hmem
    · exact hmem
    · rw [hbucket] at hmem ⊢
      rcases List.mem_cons.mp hmem with heq | hrest
      · exact absurd heq.symm (h flags)
      · exact hrest
  · exact fun hno priority' flags hmem => hno priority' flags (mem_pop hmem)

end Link

/-! ## The invariant -/

/-- The edits of a client are its packets of this type. -/
theorem Message.Genuine.packet_roomSettings {qt : Qt} {localUserId : Int64} {msg : Message}
    {packet : Packet} (hmsg : msg.Genuine localUserId)
    (h : msg.packet qt localUserId = some packet) :
    packet.type = .roomSettings ↔ ∃ flags, msg = .roomSettings flags := by
  rcases hmsg.packet_cases h with ⟨_, _, rfl, hp⟩ | ⟨_, rfl, hp⟩ | ⟨rfl, hp⟩ | ⟨_, rfl, hp⟩ |
    ⟨_, _, rfl, hp⟩ | ⟨_, rfl, hp⟩ <;> simp [hp]

namespace Network

/-- Every connected client is in a phase of its session. -/
def SettingsInv (qt : Qt) (y : Network) : Prop :=
  ∀ k d, (y.clients k).connection = some d → y.server.isOpen d = true →
    y.Phase qt d (y.clients k)

section Run

variable {platform : Platform} {config : ServerConfig} {qt : Qt} {y y' : Network}

/-- Handling the next packet is no new phase. -/
theorem Phase.receive {d : ConnId} {c : Client} {q : Queued} (hc : y.Phase qt d c)
    (hq : (y.server.outbox d)[(y.links d).received]? = some q) :
    (y.setLink d { y.links d with received := (y.links d).received + 1 }).Phase qt d
      (c.hear qt (y.links d).userId q) := by
  have hcaught : _ = y.caughtUp qt d c := caughtUp_receive c hq
  have hpending := pending_receive hq
  have hlink : ((y.setLink d { y.links d with received := (y.links d).received + 1 }).links d) =
      { y.links d with received := (y.links d).received + 1 } := by
    rw [setLink_links, if_pos rfl]
  have hedit : ((y.setLink d { y.links d with received := (y.links d).received + 1 }).links
      d).NoEdit ↔ (y.links d).NoEdit := by
    rw [hlink]
    constructor <;>
    · intro hno priority flags hmem
      cases priority with
      | control => exact hno .control flags hmem
      | text => exact hno .text flags hmem
  -- what is received moves from the pending list into the client: the flags it catches up to stay
  cases hc with
  | ending hend =>
    refine .ending ?_
    rw [hcaught]
    exact hend
  | lobby _ hempty _ _ _ _ =>
    rw [hpending] at hempty
    cases hempty
  | guest hr hnot hno hhost hcreate hagree =>
    rw [hpending] at hcreate
    refine .guest hr hnot (hedit.mpr hno) ?_ (fun q' hq' => hcreate q' (List.mem_cons_of_mem _ hq'))
      ?_
    · exact c.hear_isHost qt _ (hcreate q (List.mem_cons_self ..)) hhost
    · rw [hcaught]
      exact hagree
  | creator hr hown hno hedited hzero hdefault =>
    refine .creator hr hown (hedit.mpr hno) ?_ ?_ hdefault
    · rw [Client.hear_edited, hedited]
    · rw [hcaught]
      exact hzero
  | editor hr hown hedited hagree =>
    refine .editor hr hown ?_ fun hno => ?_
    · rw [Client.hear_edited, hedited]
    · rw [hcaught]
      exact hagree (hedit.mp hno)

/-- Only the owner of a meeting can edit its switches. -/
theorem Phase.edit {d : ConnId} {c : Client} {allowRecord allowShare : Bool} {flags : UInt32}
    (hc : y.Phase qt d c) (hflags : c.emitSettings allowRecord allowShare = some flags) :
    (y.setLink d ((y.links d).push (.roomSettings flags))).Phase qt d (c.settingsEdited flags) := by
  have hhost : c.isHost = false → False := by
    intro hhost
    simp [Client.emitSettings, hhost] at hflags
  have hno : ¬((y.setLink d ((y.links d).push (.roomSettings flags))).links d).NoEdit := by
    rw [setLink_links, if_pos rfl]
    exact fun hno => hno _ flags Link.mem_push_self
  cases hc with
  | ending hend =>
    have hsame : (c.settingsEdited flags).SameSession c := ⟨rfl, rfl⟩
    refine .ending ?_
    rw [caughtUp_setLink y (Link.push_received ..) (Link.push_userId ..)]
    exact (hsame.hearAll _).1.trans hend
  | lobby _ _ _ hguest _ _ | guest _ _ _ hguest _ _ => exact (hhost hguest).elim
  | creator hr hown _ _ _ _ | editor hr hown _ _ =>
    exact .editor hr hown rfl fun hnone => absurd hnone hno

/-- A handler of the server, for a client whose edits are not on the way. -/
theorem SettingsInv.step {z : Network} (hinv : y.SettingsInv qt) (hy : y.Sound)
    (h : y.server.Consistent)
    {e : Event} (he : Effect config y.server e z.server) {k : ClientId} {d : ConnId}
    (hconn : (y.clients k).connection = some d) (hopen : z.server.isOpen d = true)
    (hreceived : (z.links d).received = (y.links d).received)
    (huser : (z.links d).userId = (y.links d).userId)
    (hsent : e.Edits d → ¬(y.links d).NoEdit)
    (hlink : ¬e.Edits d → ((z.links d).NoEdit ↔ (y.links d).NoEdit)) :
    z.Phase qt d (y.clients k) := by
  have hbefore : y.server.isOpen d = true := by
    rcases he.isOpen hopen with hold | ⟨_, hnew⟩
    · exact hold
    · exact absurd (hy.accepted hconn).2 (hnew ▸ Nat.lt_irrefl _)
  have hc := hinv k d hconn hbefore
  by_cases hedits : e.Edits d
  · exact hc.edits hy h he hedits hreceived huser (hsent hedits)
  · exact hc.step hy h he hedits hopen hreceived huser (hlink hedits)

/-- A client that has just started connects. -/
theorem SettingsInv.connects (hinv : y.SettingsInv qt) (hy : y.Sound) (h : y.server.Consistent)
    (hmax : 0 < config.maxParticipantsPerRoom) {k : ClientId} {s' : State}
    (hfirst : y.clients k = Client.fresh)
    (hstep : (system platform config).Step y.server .accept s') (userId : Int64) :
    ((({ y with server := s' } : Network).setLink y.server.nextConnectionId
      (.opened userId)).setClient k { y.clients k with
        connection := some y.server.nextConnectionId }).SettingsInv qt := by
  intro k' d' hd' hopen
  have he := step_effect hmax h hstep
  have hnedits : ∀ d, ¬Event.Edits .accept d := by
    rintro d ⟨_, _, heq, _⟩
    cases heq
  rw [setClient_clients] at hd' ⊢
  split_ifs at hd' ⊢ with hkk
  · -- a client just started, on a connection just made
    cases hd'
    have hfresh := h.freshConnection (c := y.server.nextConnectionId)
      fun hacc => Nat.lt_irrefl _ hacc.2
    have hs' : s' = y.server.accept := eq_accept_of_step hstep
    subst hs'
    rw [hfirst]
    refine .lobby hfresh.2 ?_ ?_ rfl rfl rfl
    · simp [pending, outbox, State.accept, Connection.accepted]
    · rw [setClient_links, setLink_links, if_pos rfl]
      intro priority flags hmem
      cases priority <;> cases hmem
  · have hne : d' ≠ y.server.nextConnectionId := Nat.ne_of_lt (hy.accepted hd').2
    have hlinks : ((({ y with server := s' } : Network).setLink y.server.nextConnectionId
        (.opened userId)).setClient k { y.clients k with
          connection := some y.server.nextConnectionId }).links d' = y.links d' := by
      rw [setClient_links, setLink_links, if_neg hne]
    exact hinv.step (z := (({ y with server := s' } : Network).setLink _ _).setClient _ _)
      hy h he hd' hopen (by rw [hlinks]) (by rw [hlinks]) (fun hedits => absurd hedits (hnedits _))
      (fun _ => by rw [hlinks])

/-- The server takes a packet off a link. -/
theorem SettingsInv.delivers (hinv : y.SettingsInv qt) (hy : y.Sound) (h : y.server.Consistent)
    (hmax : 0 < config.maxParticipantsPerRoom) {d : ConnId} {priority : MessagePriority}
    {oracle : Oracle} {msg : Message} {rest : List Message} {packet : Packet} {s' : State}
    (hbucket : (y.links d).bucketFor priority = msg :: rest)
    (hpacket : msg.packet qt (y.links d).userId = some packet)
    (hstep : (system platform config).Step y.server (.packet d packet oracle) s') :
    (({ y with server := s' } : Network).setLink d ((y.links d).pop priority)).SettingsInv qt := by
  intro k' d' hd' hopen
  have he := step_effect hmax h hstep
  have hmsg : msg.Genuine (y.links d).userId := by
    refine hy.sent d priority msg ?_
    rw [hbucket]
    exact List.mem_cons_self ..
  have hedit := hmsg.packet_roomSettings hpacket
  have hpop : ∀ x, x ≠ d → ((({ y with server := s' } : Network).setLink d
      ((y.links d).pop priority)).links x) = y.links x := by
    intro x hx
    rw [setLink_links, if_neg hx]
  refine hinv.step (z := ({ y with server := s' } : Network).setLink d _) hy h he hd' hopen
    ?_ ?_ ?_ ?_
  · by_cases hdd : d' = d
    · rw [hdd, setLink_links, if_pos rfl, Link.pop_received]
    · rw [hpop _ hdd]
  · by_cases hdd : d' = d
    · rw [hdd, setLink_links, if_pos rfl, Link.pop_userId]
    · rw [hpop _ hdd]
  · rintro ⟨packet', oracle', heq, htype⟩ hno
    cases heq
    rcases hedit.mp htype with ⟨flags, rfl⟩
    refine hno priority flags ?_
    rw [hbucket]
    exact List.mem_cons_self ..
  · intro hedits
    by_cases hdd : d' = d
    · subst hdd
      rw [setLink_links, if_pos rfl]
      refine Link.noEdit_pop hbucket fun flags hflags => hedits ?_
      exact ⟨packet, oracle, rfl, hedit.mpr ⟨flags, hflags⟩⟩
    · rw [hpop _ hdd]

/-- One action of a run of first meetings. -/
theorem SettingsInv.acts (hmax : 0 < config.maxParticipantsPerRoom) (hinv : y.SettingsInv qt)
    (hy : y.Sound) (h : y.server.Consistent) {a : Action} (hfirst : y.FirstMeeting a)
    (hact : Acts platform config qt y a y') : y'.SettingsInv qt := by
  cases hact with
  | @connect k userId s' hnone hid hstep => exact hinv.connects hy h hmax hfirst hstep userId
  | @send k msg d hd hsend =>
    intro k' d' hd' hopen
    refine (hinv k' d' hd' hopen).congr rfl ?_ ?_ ?_ <;> rw [setLink_links] <;> split_ifs with hdd
    · rw [hdd, Link.push_received]
    · rfl
    · rw [hdd, Link.push_userId]
    · rfl
    · rw [hdd]
      exact Link.noEdit_push (by rintro flags rfl; exact hsend)
    · rfl
  | @edit k allowRecord allowShare d flags hd hflags =>
    intro k' d' hd' hopen
    rw [setClient_clients] at hd' ⊢
    split_ifs at hd' ⊢ with hkk
    · change (y.clients k).connection = some d' at hd'
      rw [hd] at hd'
      cases hd'
      exact ((hinv k d hd hopen).edit hflags).congr rfl rfl rfl Iff.rfl
    · have hdd : d' ≠ d := by
        rintro rfl
        exact hkk (hy.alone hd' hd)
      refine (hinv k' d' hd' hopen).congr rfl ?_ ?_ ?_ <;>
        rw [setClient_links, setLink_links, if_neg hdd]
  | deliver hbucket hpacket hstep => exact hinv.delivers hy h hmax hbucket hpacket hstep
  | @receive k d q hd hq =>
    intro k' d' hd' hopen
    rw [setClient_clients] at hd' ⊢
    split_ifs at hd' ⊢ with hkk
    · rw [Client.hear_connection, hd] at hd'
      cases hd'
      exact ((hinv k d hd hopen).receive hq).congr rfl rfl rfl Iff.rfl
    · have hdd : d' ≠ d := by
        rintro rfl
        exact hkk (hy.alone hd' hd)
      refine (hinv k' d' hd' hopen).congr rfl ?_ ?_ ?_ <;>
        rw [setClient_links, setLink_links, if_neg hdd]
  | @leave k d hd =>
    intro k' d' hd' hopen
    rw [setClient_clients] at hd' ⊢
    split_ifs at hd' ⊢ with hkk
    · exact .ending (Client.hearAll_sessionEnding _ (Client.closeMeetingWindow_sessionEnding _))
    · exact (hinv k' d' hd' hopen).congr rfl rfl rfl Iff.rfl
  | @disconnected k hending =>
    intro k' d' hd' hopen
    rw [setClient_clients] at hd' ⊢
    split_ifs at hd' ⊢ with hkk
    exact (hinv k' d' hd' hopen).congr rfl rfl rfl Iff.rfl
  | @server e s' hinternal hstep =>
    intro k' d' hd' hopen
    refine hinv.step (z := { y with server := s' }) hy h (step_effect hmax h hstep) hd' hopen rfl rfl
      ?_ (fun _ => Iff.rfl)
    rintro ⟨_, _, rfl, _⟩
    cases hinternal

theorem firstMeetings_settingsInv (hmax : 0 < config.maxParticipantsPerRoom)
    (h : Reachable (firstMeetings platform config qt) y) : y.SettingsInv qt := by
  refine h.invariant (I := SettingsInv qt) ?_ ?_
  · intro y hinit
    rw [show y = Network.start from hinit]
    exact nofun
  · intro y a y' hreach hinv hstep
    have hall := hreach.of_restrict
    exact hinv.acts hmax (reachable_sound hmax hall) (network_consistent hmax hall) hstep.1
      (Network.act_acts platform config qt hstep.2)

/-- What a client on a quiet connection holds. -/
theorem Phase.of_quiet {k : ClientId} {d : ConnId} {r : RoomRef} {p : Participant}
    (hc : y.Phase qt d (y.clients k)) (h : y.server.Consistent)
    (hgoing : (y.clients k).sessionEnding = false)
    (hp : (y.server.participants r).find d = some p) (hquiet : y.Quiet d) :
    (y.clients k).flags = (y.server.heap r).settings ↔
      ¬(p.isOwner = true ∧ (y.clients k).edited = false) := by
  rcases hquiet with ⟨hhandled, hcontrol, htexts⟩
  have hcaught : y.caughtUp qt d (y.clients k) = _ := caughtUp_of_handled hhandled _
  -- nothing is queued in either direction, so the client has caught up and no edit is on its way
  have hno : (y.links d).NoEdit := by
    intro priority flags hmem
    cases priority with
    | control =>
      rw [Link.bucketFor, hcontrol] at hmem
      cases hmem
    | text =>
      rw [Link.bucketFor, htexts] at hmem
      cases hmem
  have howns := State.owns_iff hp
  rcases KeyedList.find_eq_some.mp hp with ⟨hmem, hkey⟩
  have hroute := h.member ⟨p, hmem, hkey⟩
  cases hc with
  | ending hend =>
    rw [hcaught, hgoing] at hend
    cases hend
  | lobby hr _ _ _ _ _ =>
    rw [hroute] at hr
    cases hr
  | guest hr hnot _ _ _ hagree =>
    rw [hroute] at hr
    cases hr
    rw [hcaught] at hagree
    exact iff_of_true hagree fun hboth => hnot (howns.mpr hboth.1)
  | creator hr hown _ hedited hzero hdefault =>
    rw [hroute] at hr
    cases hr
    rw [hcaught] at hzero
    rw [hzero, hdefault]
    exact iff_of_false (by decide) fun hnot => hnot ⟨howns.mp hown, hedited⟩
  | editor hr _ hedited hagree =>
    rw [hroute] at hr
    cases hr
    rw [← hcaught]
    refine iff_of_true (hagree hno) fun hboth => ?_
    rw [hcaught, hedited] at hboth
    cases hboth.2

/-- The switches of a room there is change when an edit of its owner arrives,
and to what it says. -/
theorem Acts.settings (hmax : 0 < config.maxParticipantsPerRoom) (hy : y.Sound)
    (h : y.server.Consistent) {a : Action} (hact : Acts platform config qt y a y') {r : RoomRef}
    (hr : r < y.server.nextRef)
    (hne : (y'.server.heap r).settings ≠ (y.server.heap r).settings) :
    ∃ d priority oracle flags p, a = .deliver d priority oracle ∧
      ((y.links d).bucketFor priority).head? = some (.roomSettings flags) ∧
      (y.server.participants r).find d = some p ∧ p.isOwner = true ∧
      (y'.server.heap r).settings = flags := by
  cases hact with
  | send _ _ | edit _ _ | receive _ _ | leave _ | disconnected _ => exact absurd rfl hne
  | connect _ _ hstep =>
    rcases (step_effect hmax h hstep).settings hr hne with ⟨_, _, _, heq, _⟩
    cases heq
  | server hinternal hstep =>
    rcases (step_effect hmax h hstep).settings hr hne with ⟨_, _, _, rfl, _⟩
    cases hinternal
  | @deliver d priority oracle msg rest packet s' hbucket hpacket hstep =>
    rcases (step_effect hmax h hstep).settings hr hne with
      ⟨c, packet', oracle', heq, htype, hroute, howns, hflags⟩
    cases heq
    -- what a client delivers is genuine, so a settings packet comes from a settings message
    have hmsg : msg.Genuine (y.links d).userId := by
      refine hy.sent d priority msg ?_
      rw [hbucket]
      exact List.mem_cons_self ..
    rcases (hmsg.packet_roomSettings hpacket).mp htype with ⟨flags, rfl⟩
    rcases h.exists_participant hroute with ⟨p, hp⟩
    refine ⟨d, priority, oracle, flags, p, rfl, by rw [hbucket]; rfl, hp,
      (State.owns_iff hp).mp howns, ?_⟩
    rcases Option.map_eq_some_iff.mp hpacket with ⟨type, _, rfl⟩
    refine hflags.trans ?_
    show (if 4 ≤ (writeBe32 flags).length then readBe32 (writeBe32 flags) else _) = flags
    rw [readBe32_of_length]

end Run

end Network

/-- **Room-settings agreement.** In a run of first meetings, a member with
nothing on the way holds the switches of its room, unless it is the owner and
has never edited them; then it does not. The switches of a room change by the
edits of its owner only. -/
theorem settings_agreement {platform : Platform} {config : ServerConfig} {qt : Qt}
    (hmax : 2 ≤ config.maxParticipantsPerRoom) {y : Network}
    (h : Reachable (firstMeetings platform config qt) y) :
    (∀ (k : ClientId) (d : ConnId) (r : RoomRef) (p : Participant),
      (y.clients k).connection = some d → (y.clients k).sessionEnding = false →
      y.server.isOpen d = true → (y.server.participants r).find d = some p → y.Quiet d →
      ((y.clients k).flags = (y.server.heap r).settings ↔
        ¬(p.isOwner = true ∧ (y.clients k).edited = false))) ∧
    ∀ (a : Action) (y' : Network), (firstMeetings platform config qt).Step y a y' →
      ∀ r < y.server.nextRef, (y'.server.heap r).settings ≠ (y.server.heap r).settings →
        ∃ d priority oracle flags p, a = .deliver d priority oracle ∧
          ((y.links d).bucketFor priority).head? = some (.roomSettings flags) ∧
          (y.server.participants r).find d = some p ∧ p.isOwner = true ∧
          (y'.server.heap r).settings = flags := by
  have hmax' : 0 < config.maxParticipantsPerRoom := by omega
  have hconsistent := network_consistent hmax' h.of_restrict
  have hsound := reachable_sound hmax' h.of_restrict
  constructor
  · intro k d r p hconn hgoing hopen hp hquiet
    exact (firstMeetings_settingsInv hmax' h k d hconn hopen).of_quiet hconsistent hgoing hp hquiet
  · intro a y' hstep r hr hne
    exact (Network.act_acts platform config qt hstep.2).settings hmax' hsound hconsistent hr hne

/-- User 5 creates a meeting, user 7 joins it, and user 5 ticks the box for
recording; both handle what they are sent. -/
def editedMeeting : List Action :=
  [.connect 1 5, .send 1 (.createMeeting 8 60), .deliver 1 .control .plain, .receive 1,
    .connect 2 7, .send 2 (.joinMeeting (ascii "123456")), .deliver 2 .control .plain,
    .receive 2, .receive 2, .receive 2, .edit 1 true false, .deliver 1 .control .plain,
    .receive 1, .receive 1, .receive 2]

/-- Both hold the switches of the room. -/
theorem settings_agreement_of_edit : ∃ y : Network,
    replay (guarded Network.FirstMeeting fun y a => y.act reference {} referenceQt a)
      Network.start editedMeeting = some y ∧
    (y.clients 1).flags = (y.server.heap 0).settings ∧
    (y.clients 2).flags = (y.server.heap 0).settings := by
  have hrun : (replay (guarded Network.FirstMeeting fun y a => y.act reference {} referenceQt a)
      Network.start editedMeeting).map (fun y => decide (
        ((y.clients 1).connection = some 1 ∧ (y.clients 1).sessionEnding = false ∧
          y.server.isOpen 1 = true ∧ y.Quiet 1) ∧
        ((y.clients 2).connection = some 2 ∧ (y.clients 2).sessionEnding = false ∧
          y.server.isOpen 2 = true ∧ y.Quiet 2) ∧
        (y.clients 1).edited = true ∧
        ((y.server.participants 0).find 1).isSome = true ∧
        ((y.server.participants 0).find 2).map Participant.isOwner = some false)) =
      some true := by decide +kernel
  -- the run is evaluated once; the agreement of the flags comes from the theorem
  rcases Option.map_eq_some_iff.mp hrun with ⟨y, hy, hfacts⟩
  rcases of_decide_eq_true hfacts with ⟨⟨hconn₁, hgoing₁, hopen₁, hquiet₁⟩,
    ⟨hconn₂, hgoing₂, hopen₂, hquiet₂⟩, hedited, hp₁, hp₂⟩
  rcases Option.isSome_iff_exists.mp hp₁ with ⟨p₁, hp₁⟩
  rcases Option.map_eq_some_iff.mp hp₂ with ⟨p₂, hp₂, howner⟩
  have hagree := (settings_agreement (by decide) (restrict_of_replay hy)).1
  refine ⟨y, hy, ?_, ?_⟩
  · refine (hagree 1 1 0 p₁ hconn₁ hgoing₁ hopen₁ hp₁ hquiet₁).mpr ?_
    rw [hedited]
    exact fun hboth => Bool.noConfusion hboth.2
  · refine (hagree 2 2 0 p₂ hconn₂ hgoing₂ hopen₂ hp₂ hquiet₂).mpr ?_
    rw [howner]
    exact fun hboth => Bool.noConfusion hboth.1

/-- User 5 creates a meeting and handles the answer. -/
def createdMeeting : List Action :=
  [.connect 1 5, .send 1 (.createMeeting 8 60), .deliver 1 .control .plain, .receive 1]

/-- Not in every run: a room starts with both switches on, and the client of
its creator with both off. -/
theorem creator_not_told : ¬∀ y : Network,
    Reachable (firstMeetings reference {} referenceQt) y →
    ∀ (k : ClientId) (d : ConnId) (r : RoomRef) (p : Participant),
      (y.clients k).connection = some d → (y.clients k).sessionEnding = false →
      y.server.isOpen d = true → (y.server.participants r).find d = some p → y.Quiet d →
      (y.clients k).flags = (y.server.heap r).settings := by
  intro hall
  have hrun : (replay (guarded Network.FirstMeeting fun y a => y.act reference {} referenceQt a)
      Network.start createdMeeting).map (fun y => ((y.clients 1).connection,
        (y.clients 1).sessionEnding, y.server.isOpen 1, decide (y.Quiet 1),
        ((y.server.participants 0).find 1).isSome,
        decide ((y.clients 1).flags = (y.server.heap 0).settings))) =
      some (some 1, false, true, true, true, false) := by decide +kernel
  rcases Option.map_eq_some_iff.mp hrun with ⟨y, hy, hfacts⟩
  simp only [Prod.mk.injEq, decide_eq_true_eq, decide_eq_false_iff_not] at hfacts
  rcases hfacts with ⟨hconn, hgoing, hopen, hquiet, hp, hdiffer⟩
  rcases Option.isSome_iff_exists.mp hp with ⟨p, hp⟩
  exact hdiffer (hall y (restrict_of_replay hy) 1 1 0 p hconn hgoing hopen hp hquiet)

end CCMeeting
