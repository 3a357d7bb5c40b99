import CCMeeting.Network.System

/-! # Whose packets are whose

A client stamps every frame with the id of its user, and its profiles carry the
same id. So the server knows every participant under the id of the user at the
other end of its connection.
-/

namespace CCMeeting

open ByteString Transition State

/-! ## The packets of a client -/

theorem Message.packet_userId {qt : Qt} {localUserId : Int64} {msg : Message} {packet : Packet}
    (h : msg.packet qt localUserId = some packet) : packet.userId = localUserId.toUInt64 := by
  rcases Option.map_eq_some_iff.mp h with ⟨type, _, rfl⟩
  rfl

/-- What the client sends for its user or for the switches of the room. -/
def Message.Genuine (localUserId : Int64) (msg : Message) : Prop :=
  msg.Sendable localUserId ∨ ∃ flags, msg = .roomSettings flags

/-- The messages a client sends, each with the type of its packet. -/
theorem Message.Genuine.packet_cases {qt : Qt} {localUserId : Int64} {msg : Message}
    {packet : Packet} (hmsg : msg.Genuine localUserId)
    (h : msg.packet qt localUserId = some packet) :
    (∃ maxParticipants durationMinutes, msg = .createMeeting maxParticipants durationMinutes ∧
      packet.type = .createMeeting) ∨
    (∃ roomNo, msg = .joinMeeting roomNo ∧ packet.type = .joinMeeting) ∨
    (msg = .closeCamera ∧ packet.type = .closeCamera) ∨
    (∃ text, msg = .sendText text ∧ packet.type = .textSend) ∨
    (∃ name avatar, msg = .sendUserProfile localUserId name avatar ∧
      packet.type = .userProfile) ∨
    ∃ flags, msg = .roomSettings flags ∧ packet.type = .roomSettings := by
  -- the packet's type is read back from the name the message writes
  have htype : ∀ {type : MessageType}, msg.toWireType.typeName = type.typeName →
      packet.type = type := by
    intro type hname
    rcases Option.map_eq_some_iff.mp h with ⟨found, hfound, rfl⟩
    rw [hname, MessageType.typeFromName_typeName] at hfound
    exact (Option.some.inj hfound).symm
  rcases hmsg with hsend | ⟨flags, rfl⟩
  · cases msg with
    | createMeeting maxParticipants durationMinutes => exact Or.inl ⟨_, _, rfl, htype rfl⟩
    | joinMeeting roomNo => exact Or.inr (Or.inl ⟨_, rfl, htype rfl⟩)
    | closeCamera => exact Or.inr (Or.inr (Or.inl ⟨rfl, htype rfl⟩))
    | sendText text => exact Or.inr (Or.inr (Or.inr (Or.inl ⟨_, rfl, htype rfl⟩)))
    | sendUserProfile userId name avatar =>
      have hid : userId = localUserId := hsend
      subst hid
      exact Or.inr (Or.inr (Or.inr (Or.inr (Or.inl ⟨_, _, rfl, htype rfl⟩))))
    | _ => exact hsend.elim
  · exact Or.inr (Or.inr (Or.inr (Or.inr (Or.inr ⟨flags, rfl, htype rfl⟩))))

/-- The profiles of a client are those of its user. -/
theorem Message.Genuine.ownProfile {qt : Qt} {localUserId : Int64} {msg : Message}
    {packet : Packet} (hmsg : msg.Genuine localUserId)
    (h : msg.packet qt localUserId = some packet) (htype : packet.type = .userProfile) :
    OwnProfile packet.payload localUserId.toUInt64 := by
  rcases hmsg.packet_cases h with ⟨_, _, _, hp⟩ | ⟨_, _, hp⟩ | ⟨_, hp⟩ | ⟨_, _, hp⟩ |
    ⟨name, avatar, rfl, _⟩ | ⟨_, _, hp⟩
  on_goal 5 =>
    rcases Option.map_eq_some_iff.mp h with ⟨type, _, rfl⟩
    intro _ _
    show readBe64 (encodeUserProfilePayload localUserId name avatar) = localUserId.toUInt64
    simp only [encodeUserProfilePayload, List.append_assoc, readBe64_writeBe64]
  all_goals
    rw [hp] at htype
    cases htype

/-- The event is none of a client, or a packet of the client's user. -/
def Network.Genuine (y : Network) : Event → Prop
  | .packet d packet _ => packet.userId = (y.links d).userId.toUInt64 ∧
      (packet.type = .userProfile → OwnProfile packet.payload (y.links d).userId.toUInt64)
  | _ => True

/-! ## The invariant -/

/-- The links and the server know each other. -/
structure Network.Sound (y : Network) : Prop where
  /-- a client is connected to a connection the server has accepted -/
  accepted : ∀ {k d}, (y.clients k).connection = some d → y.server.Accepted d
  /-- and shares it with no other client -/
  alone : ∀ {k k' d}, (y.clients k).connection = some d → (y.clients k').connection = some d →
    k = k'
  /-- a client has handled what was sent to it -/
  bound : ∀ d, (y.links d).received ≤ (y.server.outbox d).length
  /-- accounts have ids that go over the wire -/
  wire : ∀ {d}, y.server.Accepted d → IsWireId (y.links d).userId
  /-- what is on the way to the server is sent in the name of the user -/
  sent : ∀ d priority, ∀ msg ∈ (y.links d).bucketFor priority, msg.Genuine (y.links d).userId
  /-- a participant is stored under the id of its user -/
  named : ∀ {r p}, p ∈ y.server.participants r →
    p.userId = (y.links p.connection).userId.toUInt64

section Sound

variable {config : ServerConfig} {y : Network}

theorem Effect.outbox_length {s s' : State} {e : Event} (he : Effect config s e s')
    (h : s.Consistent) (d : ConnId) : (s.outbox d).length ≤ (s'.outbox d).length := by
  rcases he.seen h d with ⟨news, _, houtbox⟩
  rw [houtbox, List.length_append]
  exact Nat.le_add_right _ _

/-- After a packet of a client's user, or without one, the participants are
still stored under the ids of their users. -/
theorem Network.Sound.named_step (hy : y.Sound) (h : y.server.Consistent) {e : Event} {s' : State}
    (he : Effect config y.server e s') (hgenuine : y.Genuine e) {r : RoomRef} {p : Participant}
    (hp : p ∈ s'.participants r) :
    p.userId = (y.links p.connection).userId.toUInt64 ∧ y.server.Accepted p.connection := by
  have hold : ∀ {q : Participant}, q ∈ y.server.participants r →
      y.server.Accepted q.connection :=
    fun {q} hq => h.accepted_of_route (h.member ⟨q, hq, rfl⟩)
  rcases he.participant h hp with hsame | ⟨q, hq, packet, oracle, rfl, htype, rfl⟩ |
    ⟨hlobby, hroute, packet, oracle, rfl, huser, _⟩
  · exact ⟨hy.named hsame, hold hsame⟩
  · have hown := hgenuine.2 htype
    rw [← hy.named hq] at hown
    rw [Participant.applyProfile_userId hown, Participant.applyProfile_connection]
    exact ⟨hy.named hq, hold hq⟩
  · exact ⟨huser.trans hgenuine.1, h.accepted_of_isOpen (he.entry hlobby hroute).1⟩

/-- A link that is still the user's, where the sender's messages are genuine. -/
theorem Network.Sound.setLink (hy : y.Sound) {d : ConnId} {l : Link}
    (huser : l.userId = (y.links d).userId)
    (hreceived : l.received ≤ (y.server.outbox d).length)
    (hsent : ∀ priority, ∀ msg ∈ l.bucketFor priority, msg.Genuine l.userId) :
    (y.setLink d l).Sound := by
  have hlinks : ∀ x, ((y.setLink d l).links x).userId = (y.links x).userId := by
    intro x
    rw [Network.setLink_links]
    split_ifs with hx
    · rw [hx, huser]
    · rfl
  refine ⟨hy.accepted, hy.alone, ?_, ?_, ?_, ?_⟩
  · intro x
    rw [Network.setLink_links]
    split_ifs with hx
    · rw [hx]
      exact hreceived
    · exact hy.bound x
  · intro x hx
    rw [hlinks]
    exact hy.wire hx
  · intro x priority
    rw [Network.setLink_links]
    split_ifs with hx
    · exact hsent priority
    · exact hy.sent x priority
  · intro r p hp
    rw [hlinks]
    exact hy.named hp

/-- A client that stays where it is, or is not connected any more. -/
theorem Network.Sound.setClient (hy : y.Sound) {k : ClientId} {c : Client}
    (hc : ∀ d, c.connection = some d → (y.clients k).connection = some d) :
    (y.setClient k c).Sound := by
  have hback : ∀ {x d}, ((y.setClient k c).clients x).connection = some d →
      (y.clients x).connection = some d := by
    intro x d hx
    rw [Network.setClient_clients] at hx
    split_ifs at hx with hxk
    · rw [hxk]
      exact hc d hx
    · exact hx
  exact ⟨fun hx => hy.accepted (hback hx), fun hx hx' => hy.alone (hback hx) (hback hx'),
    hy.bound, hy.wire, hy.sent, hy.named⟩

/-- A handler of the server, for what is no new connection. -/
theorem Network.Sound.step (hy : y.Sound) (h : y.server.Consistent) {e : Event} {s' : State}
    (he : Effect config y.server e s') (hgenuine : y.Genuine e)
    (hid : s'.nextConnectionId = y.server.nextConnectionId) :
    ({ y with server := s' } : Network).Sound where
  accepted hx := he.accepted (hy.accepted hx)
  alone := hy.alone
  bound d := (hy.bound d).trans (he.outbox_length h d)
  wire {d} hd := hy.wire (by
    rw [Accepted, ← hid]
    exact hd)
  sent := hy.sent
  named hp := (hy.named_step h he hgenuine hp).1

/-- Only a new connection takes an id. -/
theorem Effect.nextConnectionId {s s' : State} {e : Event} (he : Effect config s e s')
    (hne : e ≠ .accept) : s'.nextConnectionId = s.nextConnectionId := by
  cases he with
  | accept => exact absurd rfl hne
  | socketDown _ | wrote _ | nothing _ | dropped _ _ _ _ | refused _ _ _ | created _ _ _ _ _ _
  | joined _ _ _ _ _ _ _ _ | ignored _ _ _ _ | relayed _ _ _ _ _ | left _ _ _ _
  | ownerLeft _ _ _ _ | expired _ => rfl

/-- A client that connects is the only one on its connection. -/
theorem Network.Sound.connect (hy : y.Sound) (h : y.server.Consistent) {k : ClientId}
    {userId : Int64} (hid : IsWireId userId) :
    ((({ y with server := y.server.accept } : Network).setLink y.server.nextConnectionId
      (.opened userId)).setClient k
        { y.clients k with connection := some y.server.nextConnectionId }).Sound := by
  -- the new id was never accepted, so no client, link or participant has it
  have hnew : ∀ {d}, y.server.Accepted d → d ≠ y.server.nextConnectionId :=
    fun hd => Nat.ne_of_lt hd.2
  have hold : ∀ {d}, y.server.accept.Accepted d → d ≠ y.server.nextConnectionId →
      y.server.Accepted d :=
    fun hd hne => ⟨hd.1, lt_of_le_of_ne (Nat.lt_succ_iff.mp hd.2) hne⟩
  refine ⟨?_, ?_, ?_, ?_, ?_, ?_⟩
  · intro x d hx
    rw [Network.setClient_clients] at hx
    split_ifs at hx with hxk
    · cases hx
      exact ⟨h.nextConnectionId_pos, Nat.lt_succ_self _⟩
    · have hd := hy.accepted hx
      exact ⟨hd.1, Nat.lt_succ_of_lt hd.2⟩
  · intro x x' d hx hx'
    rw [Network.setClient_clients] at hx hx'
    split_ifs at hx hx' with hxk hxk' hxk'
    · rw [hxk, hxk']
    · cases hx
      exact absurd rfl (hnew (hy.accepted hx'))
    · cases hx'
      exact absurd rfl (hnew (hy.accepted hx))
    · exact hy.alone hx hx'
  · intro d
    rw [Network.setClient_links, Network.setLink_links]
    split_ifs with hd
    · exact Nat.zero_le _
    · have haccept : Effect {} y.server .accept y.server.accept := .accept
      exact (hy.bound d).trans (haccept.outbox_length h d)
  · intro d hd
    rw [Network.setClient_links, Network.setLink_links]
    split_ifs with hdn
    · exact hid
    · exact hy.wire (hold hd hdn)
  · intro d priority msg hmsg
    rw [Network.setClient_links, Network.setLink_links] at hmsg ⊢
    split_ifs at hmsg ⊢ with hd
    · cases priority <;> cases hmsg
    · exact hy.sent d priority msg hmsg
  · intro r p hp
    have hp' : p ∈ y.server.participants r := hp
    have hne := hnew (h.accepted_of_route (h.member ⟨p, hp', rfl⟩))
    rw [Network.setClient_links, Network.setLink_links, if_neg hne]
    exact hy.named hp'

/-- The events of an action are genuine. -/
theorem Network.Sound.genuine (hy : y.Sound) {qt : Qt} {d : ConnId} {priority : MessagePriority}
    {msg : Message} {rest : List Message} {packet : Packet}
    (hbucket : (y.links d).bucketFor priority = msg :: rest)
    (hpacket : msg.packet qt (y.links d).userId = some packet) (oracle : Oracle) :
    y.Genuine (.packet d packet oracle) := by
  have hmsg : msg ∈ (y.links d).bucketFor priority := by
    rw [hbucket]
    exact List.mem_cons_self ..
  exact ⟨Message.packet_userId hpacket, (hy.sent d priority msg hmsg).ownProfile hpacket⟩

theorem genuine_of_internal {e : Event} (h : e.IsInternal = true) : y.Genuine e := by
  cases e with
  | packet _ _ _ => cases h
  | accept | close _ | socketDown _ | wrote _ | expire _ => exact trivial

/-- What an action does, the links and the server still know each other. -/
theorem Network.Acts.sound {platform : Platform} {qt : Qt} {y' : Network} {a : Action}
    (hmax : 0 < config.maxParticipantsPerRoom) (hy : y.Sound) (h : y.server.Consistent)
    (hact : Acts platform config qt y a y') : y'.Sound := by
  -- a link changes at a send, an edit, a delivery or a receipt; the server changes at a delivery
  -- or by itself
  cases hact with
  | connect _ hid hstep =>
    cases step_effect hmax h hstep with
    | accept => exact hy.connect h hid
    | nothing hwhich => rcases hwhich with ⟨_, hwhich⟩ | ⟨_, hwhich⟩ <;> cases hwhich
    | dropped hactor _ _ _ => cases hactor
  | @send k msg d hd hsend =>
    refine hy.setLink (Link.push_userId ..) (by rw [Link.push_received]; exact hy.bound d) ?_
    intro priority msg' hmsg
    rw [Link.push_userId]
    rcases Link.mem_push hmsg with rfl | hold
    · exact Or.inl hsend
    · exact hy.sent d priority msg' hold
  | @edit k allowRecord allowShare d flags hd hflags =>
    have hlink : (y.setLink d ((y.links d).push (.roomSettings flags))).Sound := by
      refine hy.setLink (Link.push_userId ..) (by rw [Link.push_received]; exact hy.bound d) ?_
      intro priority msg' hmsg
      rw [Link.push_userId]
      rcases Link.mem_push hmsg with rfl | hold
      · exact Or.inr ⟨flags, rfl⟩
      · exact hy.sent d priority msg' hold
    exact hlink.setClient fun x hx => hx
  | @deliver d priority oracle msg rest packet s' hbucket hpacket hstep =>
    have he := step_effect hmax h hstep
    have hserver := hy.step h he (hy.genuine hbucket hpacket oracle)
      (he.nextConnectionId nofun)
    refine hserver.setLink (Link.pop_userId ..)
      (by rw [Link.pop_received]; exact hserver.bound d) ?_
    intro priority' msg' hmsg
    rw [Link.pop_userId]
    exact hy.sent d priority' msg' (Link.mem_pop hmsg)
  | @receive k d q hd hq =>
    have hlink : (y.setLink d { y.links d with received := (y.links d).received + 1 }).Sound := by
      refine hy.setLink rfl ?_ ?_
      · exact (List.getElem?_eq_some_iff.mp hq).1
      · intro priority msg hmsg
        cases priority with
        | control => exact hy.sent d .control msg hmsg
        | text => exact hy.sent d .text msg hmsg
    refine hlink.setClient fun x hx => ?_
    rw [Client.hear_connection] at hx
    exact hx
  | leave hd =>
    refine hy.setClient fun x hx => ?_
    rw [Client.closeMeetingWindow_connection] at hx
    exact hx
  | disconnected _ => exact hy.setClient nofun
  | @server e s' hinternal hstep =>
    have he := step_effect hmax h hstep
    refine hy.step h he (genuine_of_internal hinternal) (he.nextConnectionId ?_)
    rintro rfl
    cases hinternal

end Sound

/-- In every run the links and the server know each other. -/
theorem reachable_sound {platform : Platform} {config : ServerConfig} {qt : Qt}
    (hmax : 0 < config.maxParticipantsPerRoom) {y : Network}
    (h : Reachable (network platform config qt) y) : y.Sound := by
  refine h.invariant (I := Network.Sound) ?_ ?_
  · intro y hinit
    rw [show y = Network.start from hinit]
    refine ⟨nofun, nofun, fun _ => Nat.le_refl 0, ?_, ?_, nofun⟩
    · intro d hd
      exact absurd hd.2 (Nat.not_lt.mpr hd.1)
    · intro d priority msg hmsg
      cases priority <;> cases hmsg
  · intro y a y' hreach hy hstep
    exact (Network.act_acts platform config qt hstep).sound hmax hy
      (network_consistent hmax hreach)

end CCMeeting
