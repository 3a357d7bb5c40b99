import CCMeeting.Network.ProfilePayload

/-! # Whose profile who holds

The server keeps the profiles its participants have sent and replays them to
newcomers; to those who are there it relays the packets themselves. As long as
each payload is kept as it was sent and ids tell the participants apart, the
clients of a room hold the same profiles.
-/

namespace CCMeeting

open ByteString Transition State

/-! ## The members of a room -/

section Members

variable (platform : Platform) (qt : Qt) (me : ConnId → LocalUser)

/-- The client of a connection, once it has handled what was queued for it. -/
def State.view (s : State) (d : ConnId) : ProfileClient :=
  ProfileClient.fresh.hearAll platform qt (me d) (s.outbox d)

/-- No participant of the room goes by the id of one who joins it, and no client
there holds a profile under that id. -/
def State.NewTo (s : State) (r : RoomRef) (c : ConnId) (userId : UInt64) : Prop :=
  ∀ p ∈ (s.participants r).toList, p.userId ≠ userId ∧ p.userId.toInt64 ≠ (me c).userId ∧
    (s.isOpen p.connection = true →
      ((s.view platform qt me p.connection).partners userId.toInt64).getD .blank = .blank)

instance (s : State) (r : RoomRef) (c : ConnId) (userId : UInt64) :
    Decidable (s.NewTo platform qt me r c userId) :=
  inferInstanceAs (Decidable (∀ p ∈ _, _ ∧ _ ∧ (_ → _)))

/-- The ids go over the wire and tell the participants of a room apart, and each
payload is kept as it was sent. -/
def State.KeepsProfiles (s : State) : Event → Prop
  | .packet c packet _ =>
    match s.connectionRoom c with
    | none =>
      (packet.type = .createMeeting ∨ packet.type = .joinMeeting → Exact packet.userId) ∧
        (packet.type = .joinMeeting → ∀ r ∈ s.getRoom (readBe32 packet.payload),
          s.NewTo platform qt me r c packet.userId)
    | some r => packet.type = .userProfile → ∀ p ∈ (s.participants r).find c,
      p.KeepsProfile qt packet.payload ∧ (AvatarFits packet.payload →
        Exact (readBe64 packet.payload) ∧ ∀ p' ∈ (s.participants r).toList,
          p'.connection ≠ c → p'.userId ≠ readBe64 packet.payload)
  | _ => True

instance (s : State) : (e : Event) → Decidable (s.KeepsProfiles platform qt me e)
  | .packet c _ _ =>
    show Decidable (match s.connectionRoom c with | none => _ | some _ => _) from
    match s.connectionRoom c with
    | none => inferInstanceAs (Decidable (_ ∧ _))
    | some _ => inferInstanceAs (Decidable (_ → ∀ p ∈ _, _))
  | .accept | .close _ | .socketDown _ | .wrote _ | .expire _ => instDecidableTrue

/-- Any two clients of a room hold the same profile of a third participant: one
who was there when it was relayed, and one who has come later. -/
def State.Agree (s : State) : Prop :=
  ∀ r p d d', p ∈ s.participants r → s.connectionRoom d = some r → s.isOpen d = true →
    p.connection ≠ d → s.connectionRoom d' = some r → s.isOpen d' = true → p.connection ≠ d' →
      ∃ profile, (s.view platform qt me d).partners p.userId.toInt64 = some profile ∧
        (s.view platform qt me d').partners p.userId.toInt64 = some profile

/-- The clients of a room hold of every participant but their own what the
server has stored. -/
def State.Holds (s : State) : Prop :=
  ∀ r p d, p ∈ s.participants r → s.connectionRoom d = some r → s.isOpen d = true →
    p.connection ≠ d →
      (s.view platform qt me d).partners p.userId.toInt64 = some (p.shown qt)

end Members

/-! ## What a packet does to one profile -/

namespace ProfileClient

variable {platform : Platform} {qt : Qt} {me : LocalUser} {v : ProfileClient} {x : Int64}

/-- A packet whose id goes over the wire is handled as the message it was made from. -/
theorem hear_partners (interop : Interop platform qt) {q : Queued} (hid : Exact q.packet.userId)
    (htext : q.packet.type.isTextType = false) {msg : Message} (hmsg : q.heard qt = some msg) :
    (v.hear platform qt me q).partners = v.partners.dispatch qt me v.meeting msg :=
  hear_of_some ((Queued.decoded_eq interop hid htext).trans hmsg)

theorem exact_zero : Exact 0 := by decide

theorem heard_createMeetingResponse (value : UInt32) :
    (response .createMeetingResponse value).heard qt = some (.createMeetingResponse value) :=
  congrArg some (decodeCreateMeetingResponse_writeBe32 value)

theorem heard_joinMeetingResponse (value : UInt32) :
    (response .joinMeetingResponse value).heard qt = some (.joinMeetingResponse value.toInt32) :=
  congrArg some (decodeJoinMeetingResponse_writeBe32 value)

/-- The answer to a request adds nobody but the local user. -/
theorem hear_response (interop : Interop platform qt) {type : MessageType} {value : UInt32}
    (htype : type = .createMeetingResponse ∨ type = .joinMeetingResponse)
    (hv : v.partners x = none) (hx : x ≠ me.userId) :
    (v.hear platform qt me (response type value)).partners x = none := by
  have hclose : v.partners.closeMeetingWindow v.meeting x = none := by
    unfold Partners.closeMeetingWindow
    split_ifs
    · exact hv
    · rfl
  have henter : v.partners.enter me x = none := (Partners.enter_of_ne hx).trans hv
  rcases htype with rfl | rfl
  · rw [hear_partners interop exact_zero rfl (heard_createMeetingResponse value)]
    show v.partners.onCreateMeetingResult me v.meeting value.toInt32 x = none
    unfold Partners.onCreateMeetingResult
    split_ifs
    · exact henter
    · exact hclose
  · rw [hear_partners interop exact_zero rfl (heard_joinMeetingResponse value)]
    show v.partners.onJoinMeetingResult me v.meeting value.toInt32 x = none
    unfold Partners.onJoinMeetingResult
    split_ifs
    · exact hclose
    · exact hclose
    · exact henter
    · exact hv

/-- A refusal leaves nobody. -/
theorem hear_refusal (interop : Interop platform qt) {packet : Packet} {type : MessageType}
    {value : UInt32} (h : Refusal packet type value) (hv : v.partners = .empty) :
    (v.hear platform qt me (response type value)).partners = .empty := by
  have hclose : v.partners.closeMeetingWindow v.meeting = .empty := by
    unfold Partners.closeMeetingWindow
    split_ifs
    · exact hv
    · rfl
  cases h with
  | create _ =>
    rw [hear_partners interop exact_zero rfl (heard_createMeetingResponse 0)]
    exact hclose
  | join _ hvalue =>
    rw [hear_partners interop exact_zero rfl (heard_joinMeetingResponse value)]
    rcases hvalue with rfl | rfl
    · exact hclose
    · exact hclose

theorem hear_joinNotice (interop : Interop platform qt) {p : Participant} (hid : Exact p.userId) :
    (v.hear platform qt me (joinNotice p)).partners = v.partners.add p.userId.toInt64 := by
  have hheard : (joinNotice p).heard qt = some (.partnerJoin p.userId.toInt64) := rfl
  exact hear_partners interop hid rfl hheard

theorem hear_exitNotice (interop : Interop platform qt) {p : Participant} (hid : Exact p.userId) :
    (v.hear platform qt me (exitNotice p)).partners = v.partners.remove p.userId.toInt64 := by
  have hheard : (exitNotice p).heard qt = some (.partnerExit p.userId.toInt64) := rfl
  exact hear_partners interop hid rfl hheard

/-- A list of partners leaves nobody on it unknown. -/
theorem hear_partnerList (interop : Interop platform qt) {ps : List Participant} {p : Participant}
    (hp : p ∈ ps) : (v.hear platform qt me (partnerList ps)).partners p.userId.toInt64 =
      some ((v.partners p.userId.toInt64).getD .blank) := by
  have hheard : (partnerList ps).heard qt =
      some (.partnerJoin2 (ps.map fun p => p.userId.toInt64)) := by
    show some (decodePartnerJoin2 (ps.flatMap fun p => writeBe64 p.userId)) = _
    rw [decodePartnerJoin2, readBe64List_map Participant.userId ps, List.map_map]
    rfl
  rw [hear_partners interop exact_zero rfl hheard]
  show (ps.map fun p => p.userId.toInt64).foldl Partners.add v.partners p.userId.toInt64 = _
  rw [Partners.foldl_add, if_pos (List.mem_map_of_mem hp)]

/-- Texts, cameras and switches have nothing to do with profiles. -/
theorem hear_other (interop : Interop platform qt) {q : Queued} (hid : Exact q.packet.userId)
    (htype : q.packet.type = .textRecv ∨ q.packet.type = .closeCamera ∨
      q.packet.type = .roomSettingsNotify) :
    (v.hear platform qt me q).partners = v.partners := by
  rcases htype with htype | htype | htype
  · cases hencode : encode platform q.packet with
    | error e =>
      rw [hear_of_none]
      rw [Queued.decoded, hencode]
    | ok text =>
      have hvalid := (encode_isOk_iff platform q.packet).mp ⟨text, hencode⟩
      rcases decodeJsonFrame_of_packet interop hid hvalid with ⟨text', hencode', hdecode⟩
      have hsome : q.decoded platform qt =
          some (.recvText (Int64.ofNat q.packet.userId.toNat) q.packet.payload) := by
        rw [Queued.decoded, hencode', htype] at *
        exact hdecode
      rw [hear_of_some hsome]
      rfl
  · have hheard : q.heard qt = some (.closeCameraNotify q.packet.userId.toInt64) := by
      rw [Queued.heard, htype]
      rfl
    rw [hear_partners interop hid (by rw [htype]; rfl) hheard]
    rfl
  · have hheard : q.heard qt = some (.roomSettingsNotify
        (if 4 ≤ q.packet.payload.length then readBe32 q.packet.payload else 0)) := by
      rw [Queued.heard, htype]
      rfl
    rw [hear_partners interop hid (by rw [htype]; rfl) hheard]
    rfl

end ProfileClient

/-! ## The records -/

/-- A record that goes over the wire; if it is not replayed, there is nothing to
show of it. -/
structure Participant.Sound (qt : Qt) (p : Participant) : Prop where
  exact : Exact p.userId
  name : p.displayName.length < 65536
  avatar : p.avatarUrl.length < 65536
  unnamed : p.Unnamed → p.shown qt = .blank

section Records

variable {platform : Platform} {qt : Qt} {me : LocalUser} {p : Participant} {payload : ByteString}

theorem Participant.shown_of_new (hname : p.displayName = []) (havatar : p.avatarUrl = []) :
    p.shown qt = .blank := by
  rw [shown_eq_blank, hname, havatar]
  exact ⟨Qt.held_nil, Qt.held_nil⟩

/-- The record of one who has just entered. -/
theorem Participant.sound_of_new (hid : Exact p.userId) (hname : p.displayName = [])
    (havatar : p.avatarUrl = []) : p.Sound qt where
  exact := hid
  name := by
    rw [hname]
    decide
  avatar := by
    rw [havatar]
    decide
  unnamed _ := shown_of_new hname havatar

/-- Of a payload the client does not take the server stores nothing new. -/
theorem Participant.applyProfile_of_keeps (hkeep : p.KeepsProfile qt payload)
    (hfits : ¬AvatarFits payload) : p.applyProfile payload = p := by
  rw [KeepsProfile, if_neg hfits] at hkeep
  by_cases hnamed : NameFits payload
  · rw [applyProfile_of_nameFits hnamed hfits, (hkeep hnamed).1, (hkeep hnamed).2]
  · exact applyProfile_of_not_nameFits hnamed

theorem Participant.Sound.applyProfile (h : p.Sound qt) (hkeep : p.KeepsProfile qt payload)
    (hid : AvatarFits payload → Exact (readBe64 payload)) : (p.applyProfile payload).Sound qt := by
  by_cases hfits : AvatarFits payload
  · have hunnamed := (keepsProfile_iff hfits).mp hkeep
    have hstored := applyProfile_of_avatarFits (p := p) hfits
    refine ⟨?_, ?_, ?_, hunnamed⟩
    · rw [hstored]
      exact hid hfits
    · rw [hstored]
      exact length_nameOf
    · rw [hstored]
      exact length_avatarOf
  · rw [applyProfile_of_keeps hkeep hfits]
    exact h

theorem toInt64_inj {a b : UInt64} (h : a.toInt64 = b.toInt64) : a = b :=
  congrArg Int64.toUInt64 h

namespace ProfileClient

variable {v : ProfileClient}

theorem hearAll_cons (v : ProfileClient) (q : Queued) (qs : List Queued) :
    v.hearAll platform qt me (q :: qs) =
      (v.hear platform qt me q).hearAll platform qt me qs := rfl

/-- A replay is about one partner. -/
theorem hearAll_profileNotices_of_ne (interop : Interop platform qt) (hp : p.Sound qt) {x : Int64}
    (hx : x ≠ p.userId.toInt64) :
    (v.hearAll platform qt me (profileNotices p)).partners x = v.partners x := by
  have hreplay := v.hearAll_profileNotices me interop hp.exact hp.name hp.avatar
  by_cases hunnamed : p.Unnamed
  · rw [hreplay.1 hunnamed]
  · rw [hreplay.2 hunnamed, Partners.applyProfile_of_ne _ hx]

theorem hearAll_refusals (interop : Interop platform qt) {qs : List Queued}
    (hqs : ∀ q ∈ qs, ∃ packet type value, Refusal packet type value ∧ q = response type value)
    (hv : v.partners = .empty) : (v.hearAll platform qt me qs).partners = .empty := by
  induction qs generalizing v with
  | nil => exact hv
  | cons q qs ih =>
    rcases hqs q (List.mem_cons_self ..) with ⟨packet, type, value, hrefusal, rfl⟩
    exact ih (fun q hq => hqs q (List.mem_cons_of_mem _ hq)) (hear_refusal interop hrefusal hv)

/-- Once a newcomer has the list and the replays, it holds what the server has stored. -/
theorem hearAll_replays (interop : Interop platform qt) {ps : List Participant}
    (hps : ∀ q ∈ ps, q.Sound qt) (hinj : ∀ q ∈ ps, q.userId = p.userId → q = p)
    (hv : v.partners p.userId.toInt64 = some (p.shown qt) ∨
      p ∈ ps ∧ v.partners p.userId.toInt64 = some .blank) :
    (v.hearAll platform qt me (ps.flatMap profileNotices)).partners p.userId.toInt64 =
      some (p.shown qt) := by
  induction ps generalizing v with
  | nil =>
    rcases hv with hv | ⟨hmem, _⟩
    · exact hv
    · cases hmem
  | cons q ps ih =>
    have hq := hps q (List.mem_cons_self ..)
    rw [List.flatMap_cons, hearAll_append]
    refine ih (fun q' hq' => hps q' (List.mem_cons_of_mem _ hq'))
      (fun q' hq' => hinj q' (List.mem_cons_of_mem _ hq')) ?_
    by_cases hid : q.userId = p.userId
    · -- the replay of the one in question
      have hqp := hinj q (List.mem_cons_self ..) hid
      subst hqp
      left
      have hreplay := v.hearAll_profileNotices me interop hq.exact hq.name hq.avatar
      by_cases hunnamed : q.Unnamed
      · rw [hreplay.1 hunnamed]
        rcases hv with hv | ⟨_, hv⟩
        · exact hv
        · rw [hv, hq.unnamed hunnamed]
      · rw [hreplay.2 hunnamed, Partners.applyProfile_self]
    · have hne : p.userId.toInt64 ≠ q.userId.toInt64 := fun h => hid (toInt64_inj h).symm
      rw [hearAll_profileNotices_of_ne interop hq hne]
      refine hv.imp id fun hv => ⟨?_, hv.2⟩
      rcases List.mem_cons.mp hv.1 with rfl | hmem
      · exact absurd rfl hid
      · exact hmem

end ProfileClient

end Records

/-! ## The invariant -/

section Invariant

variable (platform : Platform) (qt : Qt) (me : ConnId → LocalUser)

/-- The records are sound and told apart by their ids, a client in the lobby has
no partners, and in the rooms the profiles are held. -/
structure State.ProfilesInv (s : State) : Prop where
  sound : ∀ {r p}, p ∈ s.participants r → p.Sound qt
  distinct : ∀ {r p p'}, p ∈ s.participants r → p' ∈ s.participants r → p.userId = p'.userId →
    p.connection = p'.connection
  lobby : ∀ {d}, s.isOpen d = true → s.connectionRoom d = none →
    (s.view platform qt me d).partners = .empty
  holds : s.Holds platform qt me

end Invariant

section Step

variable {platform : Platform} {config : ServerConfig} {qt : Qt} {me : ConnId → LocalUser}
  {s s' : State} {e : Event}

theorem State.view_append {d : ConnId} {news : List Queued}
    (houtbox : s'.outbox d = s.outbox d ++ news) :
    s'.view platform qt me d = (s.view platform qt me d).hearAll platform qt (me d) news := by
  rw [view, houtbox, ProfileClient.hearAll_append]
  rfl

/-- What the condition says about a packet from the lobby. -/
theorem State.KeepsProfiles.lobby {c : ConnId} {packet : Packet} {oracle : Oracle}
    (h : s.KeepsProfiles platform qt me (.packet c packet oracle))
    (hlobby : s.connectionRoom c = none) :
    (packet.type = .createMeeting ∨ packet.type = .joinMeeting → Exact packet.userId) ∧
      (packet.type = .joinMeeting → ∀ r ∈ s.getRoom (readBe32 packet.payload),
        s.NewTo platform qt me r c packet.userId) := by
  simp only [KeepsProfiles, hlobby] at h
  exact h

/-- What it says about a profile of a participant. -/
theorem State.KeepsProfiles.routed {c : ConnId} {packet : Packet} {oracle : Oracle} {r : RoomRef}
    {p : Participant} (h : s.KeepsProfiles platform qt me (.packet c packet oracle))
    (hroute : s.connectionRoom c = some r) (htype : packet.type = .userProfile)
    (hp : (s.participants r).find c = some p) :
    p.KeepsProfile qt packet.payload ∧ (AvatarFits packet.payload →
      Exact (readBe64 packet.payload) ∧ ∀ p' ∈ (s.participants r).toList,
        p'.connection ≠ c → p'.userId ≠ readBe64 packet.payload) := by
  simp only [KeepsProfiles, hroute] at h
  exact h htype p hp

/-- Who enters a meeting has asked for it. -/
theorem Effect.entry_type {c : ConnId} {packet : Packet} {oracle : Oracle}
    (he : Effect config s (.packet c packet oracle) s') (hlobby : s.connectionRoom c = none)
    (hroute : s'.connectionRoom c ≠ none) :
    packet.type = .createMeeting ∨ packet.type = .joinMeeting := by
  cases he with
  | nothing _ | dropped _ _ _ _ | refused _ _ _ => exact absurd hlobby hroute
  | created htype _ _ _ _ _ => exact Or.inl htype
  | joined htype _ _ _ _ _ _ _ => exact Or.inr htype
  | ignored hrouted _ _ _ | relayed hrouted _ _ _ _ =>
    rw [hlobby] at hrouted
    cases hrouted

namespace State.ProfilesInv

/-- The records stay sound. -/
theorem sound_step (hinv : s.ProfilesInv platform qt me) (h : s.Consistent)
    (he : Effect config s e s') (hkeep : s.KeepsProfiles platform qt me e) {r : RoomRef}
    {p' : Participant} (hp' : p' ∈ s'.participants r) : p'.Sound qt := by
  rcases he.participant h hp' with hold | ⟨p, hp, packet, oracle, rfl, htype, rfl⟩ |
    ⟨hlobby, hroute, packet, oracle, rfl, hid, hname, havatar⟩
  · exact hinv.sound hold
  · have hfind := KeyedList.find_eq_some.mpr ⟨hp, rfl⟩
    rcases hkeep.routed (h.member ⟨p, hp, rfl⟩) htype hfind with ⟨hkept, hexact⟩
    exact (hinv.sound hp).applyProfile hkept fun hfits => (hexact hfits).1
  · refine Participant.sound_of_new ?_ hname havatar
    rw [hid]
    exact (hkeep.lobby hlobby).1 (he.entry_type hlobby hroute)

/-- Who has changed the profile stays apart from those who have not. -/
theorem ne_of_profile (hinv : s.ProfilesInv platform qt me) (h : s.Consistent) {r : RoomRef}
    {p p' : Participant} {packet : Packet} {oracle : Oracle}
    (hkeep : s.KeepsProfiles platform qt me (.packet p.connection packet oracle))
    (htype : packet.type = .userProfile) (hp : p ∈ s.participants r) (hp' : p' ∈ s.participants r)
    (hne : p'.connection ≠ p.connection) :
    p'.userId ≠ (p.applyProfile packet.payload).userId := by
  have hfind := KeyedList.find_eq_some.mpr ⟨hp, rfl⟩
  rcases hkeep.routed (h.member ⟨p, hp, rfl⟩) htype hfind with ⟨hkept, hfree⟩
  by_cases hfits : AvatarFits packet.payload
  · rw [applyProfile_of_avatarFits hfits]
    exact (hfree hfits).2 p' hp' hne
  · rw [Participant.applyProfile_of_keeps hkept hfits]
    exact fun hid => hne (hinv.distinct hp' hp hid)

/-- Who has entered stays apart from those who were there. -/
theorem ne_of_entry (h : s.Consistent) {r : RoomRef} {c : ConnId} {packet : Packet}
    {oracle : Oracle} {p' : Participant} (he : Effect config s (.packet c packet oracle) s')
    (hkeep : s.KeepsProfiles platform qt me (.packet c packet oracle))
    (hlobby : s.connectionRoom c = none) (hroute : s'.connectionRoom c = some r)
    (hp' : p' ∈ s.participants r) : p'.userId ≠ packet.userId := by
  have hentered : s'.connectionRoom c ≠ none := by
    rw [hroute]
    exact Option.some_ne_none r
  rcases he.entry_type hlobby hentered with htype | htype
  · -- nobody was in a room that has just been founded
    have hnew : r = s.nextRef := by
      cases he with
      | created _ _ _ _ _ _ => simpa [State.found, eq_comm] using hroute
      | joined hother _ _ _ _ _ _ _ =>
        rw [htype] at hother
        cases hother
      | nothing _ | dropped _ _ _ _ | refused _ _ _ => exact absurd hlobby hentered
      | ignored hrouted _ _ _ | relayed hrouted _ _ _ _ =>
        exact absurd (hrouted.symm.trans hlobby) (Option.some_ne_none _)
    subst hnew
    exact absurd rfl (h.route_ne_nextRef (h.member ⟨p', hp', rfl⟩))
  · have hget := he.getRoom_of_entry htype hlobby hroute
    exact ((hkeep.lobby hlobby).2 htype r hget p' hp').1

/-- Only the record of the one who acts is new, and its id is nobody else's. -/
theorem changed_step (hinv : s.ProfilesInv platform qt me) (h : s.Consistent)
    (he : Effect config s e s') (hkeep : s.KeepsProfiles platform qt me e) {r : RoomRef}
    {p : Participant} (hp : p ∈ s'.participants r) :
    p ∈ s.participants r ∨ e.actor = some p.connection ∧ ∀ p' ∈ s.participants r,
      p'.connection ≠ p.connection → p'.userId ≠ p.userId := by
  have hroute := (he.consistent h).member ⟨p, hp, rfl⟩
  rcases he.participant h hp with hold | ⟨q, hq, packet, oracle, rfl, htype, rfl⟩ |
    ⟨hlobby, _, packet, oracle, rfl, hid, _⟩
  · exact Or.inl hold
  · right
    rw [Participant.applyProfile_connection]
    exact ⟨rfl, fun p' hp' hne => hinv.ne_of_profile h hkeep htype hq hp' hne⟩
  · right
    rw [hid]
    exact ⟨rfl, fun p' hp' _ => ne_of_entry h he hkeep hlobby hroute hp'⟩

/-- The ids still tell the participants of a room apart. -/
theorem distinct_step (hinv : s.ProfilesInv platform qt me) (h : s.Consistent)
    (he : Effect config s e s') (hkeep : s.KeepsProfiles platform qt me e) {r : RoomRef}
    {p p' : Participant} (hp : p ∈ s'.participants r) (hp' : p' ∈ s'.participants r)
    (hid : p.userId = p'.userId) : p.connection = p'.connection := by
  by_contra hne
  rcases hinv.changed_step h he hkeep hp with hold | ⟨hactor, hnew⟩
  · rcases hinv.changed_step h he hkeep hp' with hold' | ⟨_, hnew'⟩
    · exact hne (hinv.distinct hold hold' hid)
    · exact hnew' p hold hne hid
  · rcases hinv.changed_step h he hkeep hp' with hold' | ⟨hactor', _⟩
    · exact hnew p' hold' (Ne.symm hne) hid.symm
    · rw [hactor] at hactor'
      exact hne (Option.some.inj hactor')

/-- A client in the lobby has been told of nobody. -/
theorem lobby_step (hinv : s.ProfilesInv platform qt me) (interop : Interop platform qt)
    (h : s.Consistent) (he : Effect config s e s') {d : ConnId} (hopen : s'.isOpen d = true)
    (hlobby : s'.connectionRoom d = none) : (s'.view platform qt me d).partners = .empty := by
  rcases he.seen h d with ⟨news, hseen, houtbox⟩
  cases hseen with
  | gone hgone => exact absurd (hopen.symm.trans hgone) (by decide)
  | accepted _ _ hunused _ _ =>
    rw [hunused] at houtbox
    rw [State.view, houtbox]
    rfl
  | elsewhere hold _ hroute _ hnews =>
    have hbefore := hinv.lobby hold (hroute.symm.trans hlobby)
    rw [State.view_append houtbox]
    refine ProfileClient.hearAll_refusals interop (fun q hq => ?_) hbefore
    rcases hnews q hq with ⟨_, packet, _, type, value, _, hrefusal, rfl⟩
    exact ⟨packet, type, value, hrefusal, rfl⟩
  | created _ _ _ _ _ hrouted _ _ _ | entered _ _ _ _ _ hrouted _ _ _ _
  | joined _ _ _ _ _ _ _ _ hrouted _ _ | left _ _ _ _ _ _ _ _ hrouted _ _ =>
    rw [hlobby] at hrouted
    cases hrouted
  | relayed _ _ _ _ hrouted hsame _ _ _ =>
    rw [hsame, hrouted] at hlobby
    cases hlobby

/-- The newcomer holds what the server has stored of the others. -/
theorem entered_holds (hinv : s.ProfilesInv platform qt me) (interop : Interop platform qt)
    {d : ConnId} {r : RoomRef} {packet : Packet} (hopen : s.isOpen d = true)
    (hlobby : s.connectionRoom d = none) (hnew : s.NewTo platform qt me r d packet.userId)
    (hperm : (s'.participants r).toList.Perm
      (joiner d packet.userId :: (s.participants r).toList)) {p : Participant}
    (hp : p ∈ s'.participants r) (hpd : p.connection ≠ d) :
    ((s.view platform qt me d).hearAll platform qt (me d)
      (response .joinMeetingResponse (s'.heap r).roomId :: s'.welcome r d)).partners
        p.userId.toInt64 = some (p.shown qt) := by
  have hold : ∀ {q}, q ∈ s'.others r d → q ∈ s.participants r := by
    intro q hq
    rcases List.mem_filter.mp hq with ⟨hmem, hqd⟩
    rcases List.mem_cons.mp (hperm.mem_iff.mp hmem) with rfl | hmem
    · exact absurd hqd (by simp)
    · exact hmem
  have hpo : p ∈ s'.others r d := List.mem_filter.mpr ⟨hp, by simpa using hpd⟩
  have hothers := hnew p (hold hpo)
  have hempty : (s.view platform qt me d).partners p.userId.toInt64 = none := by
    rw [hinv.lobby hopen hlobby]
    rfl
  rw [ProfileClient.hearAll_cons, welcome, ProfileClient.hearAll_append,
    ProfileClient.hearAll_cons, ProfileClient.hearAll_cons]
  refine ProfileClient.hearAll_replays interop (fun q hq => hinv.sound (hold hq)) ?_ (Or.inr ⟨hpo, ?_⟩)
  · intro q hq hid
    exact KeyedList.eq_of_key (hold hq) (hold hpo) (hinv.distinct (hold hq) (hold hpo) hid)
  · -- the list comes before the switches and the replays
    show (ProfileClient.hear ..).partners _ = _
    rw [ProfileClient.hear_other interop ProfileClient.exact_zero (Or.inr (Or.inr rfl)),
      ProfileClient.hear_partnerList interop hpo,
      ProfileClient.hear_response interop (Or.inr rfl) hempty hothers.2.1]
    rfl

/-- A relayed profile leaves the others with what the server has stored. -/
theorem profile_holds (hinv : s.ProfilesInv platform qt me) (interop : Interop platform qt)
    (h : s.Consistent) {d : ConnId} {r : RoomRef} {packet : Packet} {oracle : Oracle}
    {sender p : Participant}
    (hkeep : s.KeepsProfiles platform qt me (.packet sender.connection packet oracle))
    (htype : packet.type = .userProfile) (hmem : sender ∈ s.participants r)
    (hd : s.connectionRoom d = some r) (hopen : s.isOpen d = true)
    (hp : p ∈ (s.participants r).modify sender.connection
      (fun p => p.applyProfile packet.payload)
      (fun p => p.applyProfile_connection packet.payload))
    (hpd : p.connection ≠ d) :
    ((s.view platform qt me d).hearAll platform qt (me d) (if d = sender.connection then []
      else [sender.relayed sender.connection packet])).partners p.userId.toInt64 =
        some (p.shown qt) := by
  have hsender := KeyedList.find_eq_some.mpr ⟨hmem, rfl⟩
  rcases hkeep.routed (h.member ⟨sender, hmem, rfl⟩) htype hsender with ⟨hkept, hfree⟩
  have hsound := (hinv.sound hmem).applyProfile hkept fun hfits => (hfree hfits).1
  rcases KeyedList.mem_modify.mp hp with ⟨x, hx, hxp⟩
  -- whoever is not the sender has the record it had
  have hold : x.connection ≠ sender.connection → p = x := fun hne => by rw [← hxp, if_neg hne]
  have hself : x.connection = sender.connection → p = sender.applyProfile packet.payload := by
    intro heq
    rw [← hxp, if_pos heq, KeyedList.eq_of_key hx hmem heq]
  by_cases hds : d = sender.connection
  · rw [if_pos hds]
    have hxs : x.connection ≠ sender.connection := by
      intro heq
      rw [hself heq, Participant.applyProfile_connection] at hpd
      exact hpd hds.symm
    rw [hold hxs] at hpd ⊢
    exact hinv.holds r x d hx hd hopen hpd
  rw [if_neg hds]
  show (ProfileClient.hear platform qt (me d) (s.view platform qt me d)
    (sender.relayed sender.connection packet)).partners _ = _
  by_cases hfits : AvatarFits packet.payload
  · rw [ProfileClient.hear_relayed _ _ interop htype hsound.exact hfits]
    by_cases hxs : x.connection = sender.connection
    · rw [hself hxs, Partners.applyProfile_self]
    · have hne := hinv.ne_of_profile h hkeep htype hmem hx hxs
      rw [hold hxs] at hpd ⊢
      rw [Partners.applyProfile_of_ne _ fun hid => hne (toInt64_inj hid)]
      exact hinv.holds r x d hx hd hopen hpd
  · -- nothing is stored and nothing is heard
    have hsame := Participant.applyProfile_of_keeps hkept hfits
    have hnone : (sender.relayed sender.connection packet).decoded platform qt = none := by
      rw [Participant.relayed_decoded interop htype hsound.exact]
      exact decodeUserProfile_of_not_avatarFits qt _ hfits
    rw [ProfileClient.hear_of_none hnone]
    have hp' : p ∈ s.participants r := by
      by_cases hxs : x.connection = sender.connection
      · rw [hself hxs, hsame]
        exact hmem
      · rw [hold hxs]
        exact hx
    exact hinv.holds r p d hp' hd hopen hpd

/-- A relayed packet leaves the others with what the server has stored. -/
theorem relayed_holds (hinv : s.ProfilesInv platform qt me) (interop : Interop platform qt)
    (h : s.Consistent) {c d : ConnId} {r : RoomRef} {packet : Packet} {oracle : Oracle}
    {sender p : Participant} {room : Room} {q : Queued} {exclude : ConnId}
    (hkeep : s.KeepsProfiles platform qt me (.packet c packet oracle))
    (hsender : (s.participants r).find c = some sender)
    (hrel : Relayed (s.heap r) c sender packet room q exclude)
    (hd : s.connectionRoom d = some r) (hopen : s.isOpen d = true) (hp : p ∈ room.participants)
    (hpd : p.connection ≠ d) :
    ((s.view platform qt me d).hearAll platform qt (me d)
      (if d = exclude then [] else [q])).partners p.userId.toInt64 = some (p.shown qt) := by
  rcases KeyedList.find_eq_some.mp hsender with ⟨hmem, rfl⟩
  have hexact := (hinv.sound hmem).exact
  have hother : ∀ {q : Queued} {x : ConnId}, q.packet.userId = sender.userId →
      q.packet.type = .textRecv ∨ q.packet.type = .closeCamera ∨
        q.packet.type = .roomSettingsNotify →
      ((s.view platform qt me d).hearAll platform qt (me d)
        (if d = x then [] else [q])).partners = (s.view platform qt me d).partners := by
    intro q x hid htype
    split_ifs
    · rfl
    · exact ProfileClient.hear_other interop (by rw [hid]; exact hexact) htype
  cases hrel with
  | text _ =>
    rw [hother rfl (Or.inl rfl)]
    exact hinv.holds r p d hp hd hopen hpd
  | camera _ =>
    rw [hother rfl (Or.inr (Or.inl rfl))]
    exact hinv.holds r p d hp hd hopen hpd
  | settings _ _ =>
    rw [hother rfl (Or.inr (Or.inr rfl))]
    exact hinv.holds r p d hp hd hopen hpd
  | profile htype => exact hinv.profile_holds interop h hkeep htype hmem hd hopen hp hpd

/-- One who was there before holds nothing of a newcomer, and what it held of the others. -/
theorem joined_holds (hinv : s.ProfilesInv platform qt me) (interop : Interop platform qt)
    (h : s.Consistent) {c d : ConnId} {r : RoomRef} {packet : Packet} (hexact : Exact packet.userId)
    (hnew : s.NewTo platform qt me r c packet.userId) (hd : s.connectionRoom d = some r)
    (hopen : s.isOpen d = true)
    (hperm : (s'.participants r).toList.Perm
      (joiner c packet.userId :: (s.participants r).toList)) {p : Participant}
    (hp : p ∈ s'.participants r) (hpd : p.connection ≠ d) :
    ((s.view platform qt me d).hearAll platform qt (me d)
      [joinNotice (joiner c packet.userId)]).partners p.userId.toInt64 = some (p.shown qt) := by
  show (ProfileClient.hear ..).partners _ = _
  rw [ProfileClient.hear_joinNotice interop hexact]
  rcases List.mem_cons.mp (hperm.mem_iff.mp hp) with rfl | hmem
  · -- the newcomer is added without a profile, and nothing is held under its id
    rcases (h.route hd).2 with ⟨self, hself, rfl⟩
    rw [Partners.add_self, (hnew self hself).2.2 hopen, Participant.shown_of_new rfl rfl]
  · have hne : p.userId.toInt64 ≠ packet.userId.toInt64 :=
      fun hid => (hnew p hmem).1 (toInt64_inj hid)
    rw [Partners.add_of_ne hne]
    exact hinv.holds r p d hmem hd hopen hpd

/-- Who leaves takes its own profile along. -/
theorem left_holds (hinv : s.ProfilesInv platform qt me) (interop : Interop platform qt)
    {d : ConnId} {r : RoomRef} {gone : Participant} (hd : s.connectionRoom d = some r)
    (hopen : s.isOpen d = true)
    (hperm : (s.participants r).toList.Perm (gone :: (s'.participants r).toList))
    {p : Participant} (hp : p ∈ s'.participants r) (hpd : p.connection ≠ d) :
    ((s.view platform qt me d).hearAll platform qt (me d) [exitNotice gone]).partners
      p.userId.toInt64 = some (p.shown qt) := by
  have hmem : p ∈ s.participants r := hperm.mem_iff.mpr (List.mem_cons_of_mem _ hp)
  have hgone : gone ∈ s.participants r := hperm.mem_iff.mpr (List.mem_cons_self ..)
  have hne : p.connection ≠ gone.connection := KeyedList.key_ne_of_perm hperm hp
  show (ProfileClient.hear ..).partners _ = _
  rw [ProfileClient.hear_exitNotice interop (hinv.sound hgone).exact, Partners.remove_of_ne
    fun hid => hne (hinv.distinct hmem hgone (toInt64_inj hid))]
  exact hinv.holds r p d hmem hd hopen hpd

/-- A step leaves every member of a room with what the server has stored. -/
theorem holds_step (hinv : s.ProfilesInv platform qt me) (interop : Interop platform qt)
    (h : s.Consistent) (he : Effect config s e s') (hkeep : s.KeepsProfiles platform qt me e) :
    s'.Holds platform qt me := by
  intro r p d hp hd hopen hpd
  rcases he.seen h d with ⟨news, hseen, houtbox⟩
  rw [State.view_append houtbox]
  cases hseen with
  | gone hgone => exact absurd (hopen.symm.trans hgone) (by decide)
  | accepted _ _ _ _ hlobby =>
    rw [hlobby] at hd
    cases hd
  | elsewhere hold _ hroute hheap hnews =>
    rw [hroute] at hd
    have hnone : news = [] := by
      rw [List.eq_nil_iff_forall_not_mem]
      intro q hq
      have hlobby := (hnews q hq).1
      rw [hd] at hlobby
      cases hlobby
    rw [participants, hheap r hd] at hp
    rw [hnone]
    exact hinv.holds r p d hp hd hold hpd
  | @created packet oracle r' _ _ _ _ _ hrouted _ hparticipants _ =>
    rw [hd] at hrouted
    cases hrouted
    rw [KeyedList.mem_def, hparticipants, List.mem_singleton] at hp
    exact absurd (congrArg Participant.connection hp) hpd
  | @entered packet oracle r' heq htype hold _ hlobby hrouted _ _ hperm _ =>
    rw [hd] at hrouted
    cases hrouted
    subst heq
    have hget := he.getRoom_of_entry htype hlobby hd
    exact hinv.entered_holds interop hold hlobby ((hkeep.lobby hlobby).2 htype r hget) hperm hp hpd
  | @joined c packet oracle r' heq htype hold _ hlobby hrouted _ hd' hd'' hperm _ =>
    rw [hd] at hd''
    cases hd''
    subst heq
    rcases hkeep.lobby hlobby with ⟨hexact, hfree⟩
    have hnew := hfree htype r (he.getRoom_of_entry htype hlobby hrouted)
    exact hinv.joined_holds interop h (hexact (Or.inr htype)) hnew hd' hold hperm hp hpd
  | @relayed c packet oracle r' sender room q exclude heq hold _ hroute hd' hsame hsender hrel
      hroom =>
    rw [hsame, hd'] at hd
    cases hd
    subst heq
    rw [participants, hroom] at hp
    exact hinv.relayed_holds interop h hkeep hsender hrel hd' hold hp hpd
  | @left r' p' heq hold _ _ _ _ _ hd' hd'' hperm _ =>
    rw [hd] at hd''
    cases hd''
    exact hinv.left_holds interop hd' hold hperm hp hpd

end State.ProfilesInv

theorem start_profilesInv : State.start.ProfilesInv platform qt me where
  sound hp := absurd hp (KeyedList.notMem_empty _)
  distinct hp := absurd hp (KeyedList.notMem_empty _)
  lobby _ _ := rfl
  holds _ _ _ hp := absurd hp (KeyedList.notMem_empty _)

theorem reachable_profilesInv (interop : Interop platform qt)
    (hmax : 0 < config.maxParticipantsPerRoom)
    (hreach : Reachable ((system platform config).restrict (State.KeepsProfiles platform qt me)) s) :
    s.ProfilesInv platform qt me := by
  refine hreach.invariant ?_ ?_
  · rintro s rfl
    exact start_profilesInv
  · intro s e s' hreach hinv hstep
    have hcons := reachable_consistent hmax hreach.of_restrict
    have he := step_effect hmax hcons hstep.2
    exact
      { sound := hinv.sound_step hcons he hstep.1
        distinct := hinv.distinct_step hcons he hstep.1
        lobby := hinv.lobby_step interop hcons he
        holds := hinv.holds_step interop hcons he hstep.1 }

/-- **Profile consistency.** While the payloads sent are kept as they were sent and
ids tell the participants apart, members and newcomers hold the same profiles. Of
one more payload they hold the same, and of one the client does not take the
record is as it was, exactly where it is kept as it was sent. -/
theorem profile_consistency (interop : Interop platform qt)
    (hmax : 2 ≤ config.maxParticipantsPerRoom)
    (hreach : Reachable ((system platform config).restrict (State.KeepsProfiles platform qt me)) s) :
    s.Agree platform qt me ∧ ∀ (c : ConnId) (p : Participant) (packet : Packet),
      packet.type = .userProfile → Exact (p.applyProfile packet.payload).userId →
        (p.Carries platform qt c packet ↔ p.KeepsProfile qt packet.payload) := by
  have hinv := reachable_profilesInv interop (by omega) hreach
  constructor
  · intro r p d d' hp hd hopen hpd hd' hopen' hpd'
    exact ⟨p.shown qt, hinv.holds r p d hp hd hopen hpd, hinv.holds r p d' hp hd' hopen' hpd'⟩
  · intro c p packet htype hid
    exact Participant.carries_iff interop htype hid

end Step

/-- The users of concrete runs: 7, 8 and so on, without a profile of their own. -/
def numberedUser (d : ConnId) : LocalUser where
  userId := Int64.ofNat (6 + d)
  profile := .blank

/-- User 7 creates a meeting, user 8 joins it and sends a profile, and user 9 joins. -/
def profileSent (payload : ByteString) : List Event :=
  [.accept, .accept, .accept,
    .packet 1 { type := .createMeeting, userId := 7 } .plain,
    .packet 2 { type := .joinMeeting, userId := 8, payload := writeBe32 123456 } .plain,
    .packet 2 { type := .userProfile, userId := 8, payload } .plain,
    .packet 3 { type := .joinMeeting, userId := 9, payload := writeBe32 123456 } .plain]

/-- The name and the avatar are there. -/
theorem profile_consistency_of_whole :
    ∃ s, replay (guarded (State.KeepsProfiles reference referenceQt numberedUser)
      (next reference {})) State.start
        (profileSent (writeBe64 8 ++ writeBe16 1 ++ ascii "A" ++ writeBe16 1 ++ ascii "B")) =
          some s ∧ s.Agree reference referenceQt numberedUser := by
  have hrun : (replay (guarded (State.KeepsProfiles reference referenceQt numberedUser)
      (next reference {})) State.start (profileSent (writeBe64 8 ++ writeBe16 1 ++ ascii "A" ++
        writeBe16 1 ++ ascii "B"))).isSome = true := by decide +kernel
  rcases Option.isSome_iff_exists.mp hrun with ⟨s, hs⟩
  have hreach : Reachable ((system reference {}).restrict
      (State.KeepsProfiles reference referenceQt numberedUser)) s :=
    (Run.of_replay (fun _ _ _ => guarded_step fun _ _ _ => next_step reference {}) hs).reachable
      (.init rfl)
  exact ⟨s, hs, (profile_consistency reference_interop (by decide) hreach).1⟩

/-- The avatar is missing: the server replays the name, which nobody has taken
from the relay. -/
theorem half_profile_replayed :
    ¬∀ s, Reachable (system reference {}) s → s.Agree reference referenceQt numberedUser := by
  intro hall
  have hrun : (replay (next reference {}) State.start (profileSent (writeBe64 8 ++ writeBe16 1 ++
      ascii "A" ++ writeBe16 1))).any (fun s =>
        (∃ p ∈ (s.participants 0).toList, p.connection = 2 ∧ p.userId = 8) ∧
        (s.connectionRoom 1 = some 0 ∧ s.isOpen 1 = true) ∧
        (s.connectionRoom 3 = some 0 ∧ s.isOpen 3 = true) ∧
        (s.view reference referenceQt numberedUser 1).partners 8 ≠
          (s.view reference referenceQt numberedUser 3).partners 8) = true := by
    decide +kernel
  rcases (Option.any_eq_true _ _).mp hrun with ⟨s, hs, htest⟩
  rcases of_decide_eq_true htest with ⟨⟨p, hp, hconn, huser⟩, hone, hthree, hdiffer⟩
  have hreach : Reachable (system reference {}) s :=
    (Run.of_replay (fun _ _ _ => next_step reference {}) hs).reachable (.init rfl)
  rcases hall s hreach 0 p 1 3 hp hone.1 hone.2 (by rw [hconn]; decide) hthree.1 hthree.2
    (by rw [hconn]; decide) with ⟨profile, h1, h3⟩
  rw [huser] at h1 h3
  exact hdiffer (h1.trans h3.symm)

end CCMeeting
