import Mathlib.Data.Finset.Basic
import CCMeeting.Network.Pending

/-! # The partners of a member

The client keeps its partners by user id, the server its participants by
connection. As long as nobody leaves whose id another participant has too, the
two agree once the client has handled what it was sent.
-/

namespace CCMeeting

open ByteString Transition State Network

/-! ## What is compared, and when it agrees -/

/-- The user ids of the participants of the meeting a connection is in. -/
def State.memberIds (s : State) (d : ConnId) : Finset Int64 :=
  match s.connectionRoom d with
  | none => ∅
  | some r => ((s.participants r).toList.map fun p => p.userId.toInt64).toFinset

/-- When `c` closes as a participant that is not the owner, no other participant
of its room has the same user id. -/
def State.LastOfItsId (s : State) (c : ConnId) : Prop :=
  match s.connectionRoom c with
  | none => True
  | some r => ∀ p ∈ (s.participants r).toList, p.connection = c → p.isOwner = false →
      ∀ p' ∈ (s.participants r).toList, p'.connection ≠ c → p'.userId ≠ p.userId

instance (s : State) (c : ConnId) : Decidable (s.LastOfItsId c) := by
  unfold State.LastOfItsId
  split
  · exact inferInstanceAs (Decidable True)
  · exact inferInstanceAs (Decidable (∀ p ∈ _, _ → _ → ∀ p' ∈ _, _ → _))

/-- The number of a room, where `JoinMeeting` names one, is positive as an
`int`: the client takes another answer for a failure. -/
def State.InRange (s : State) : Message → Prop
  | .joinMeeting roomNo =>
    s.getRoom (roomNoU32 roomNo) = none ∨ roomNoU32 roomNo < 2147483648
  | _ => True

instance (s : State) : (msg : Message) → Decidable (s.InRange msg)
  | .joinMeeting _ => inferInstanceAs (Decidable (_ ∨ _))
  | .createMeeting .. | .exitMeeting | .closeCamera | .sendText _ | .sendUserProfile ..
  | .roomSettings _ | .createMeetingResponse _ | .joinMeetingResponse _ | .recvText ..
  | .partnerJoin _ | .partnerExit _ | .partnerJoin2 _ | .closeCameraNotify _
  | .userProfileNotify .. | .roomSettingsNotify _ | .remoteHostClosedError | .otherNetError =>
    inferInstanceAs (Decidable True)

/-- A message whose handler adds partners. -/
def Message.AddsPartner : Message → Prop
  | createMeetingResponse roomNo => roomNo.toInt32 ≠ 0
  | joinMeetingResponse responseCode => 0 < responseCode
  | partnerJoin _ | userProfileNotify .. => True
  | partnerJoin2 userIds => userIds ≠ []
  | _ => False

instance : (msg : Message) → Decidable msg.AddsPartner
  | .createMeetingResponse _ | .partnerJoin2 _ => inferInstanceAs (Decidable (_ ≠ _))
  | .joinMeetingResponse responseCode => inferInstanceAs (Decidable (0 < responseCode))
  | .partnerJoin _ | .userProfileNotify .. => inferInstanceAs (Decidable True)
  | .createMeeting .. | .joinMeeting _ | .exitMeeting | .closeCamera | .sendText _
  | .sendUserProfile .. | .roomSettings _ | .recvText .. | .partnerExit _ | .closeCameraNotify _
  | .roomSettingsNotify _ | .remoteHostClosedError | .otherNetError =>
    inferInstanceAs (Decidable False)

/-- The actions after which the partners are right: room numbers are in range,
nothing adds a partner to a session that is ending, and nobody leaves an id
behind. -/
def Network.Orderly (qt : Qt) (y : Network) : Action → Prop
  | .deliver d priority _ => ∀ msg ∈ ((y.links d).bucketFor priority).head?, y.server.InRange msg
  | .receive k => (y.clients k).sessionEnding = false ∨ ∀ d ∈ (y.clients k).connection,
      ∀ q ∈ (y.server.outbox d)[(y.links d).received]?, ∀ msg ∈ q.heard qt, ¬msg.AddsPartner
  | .server (.close c) => y.server.LastOfItsId c
  | _ => True

instance (qt : Qt) (y : Network) : (a : Action) → Decidable (y.Orderly qt a)
  | .deliver d priority _ =>
    inferInstanceAs (Decidable (∀ msg ∈ ((y.links d).bucketFor priority).head?, _))
  | .receive k =>
    inferInstanceAs (Decidable ((y.clients k).sessionEnding = false ∨
      ∀ d ∈ (y.clients k).connection, ∀ q ∈ (y.server.outbox d)[(y.links d).received]?,
        ∀ msg ∈ q.heard qt, ¬msg.AddsPartner))
  | .server (.close c) => inferInstanceAs (Decidable (y.server.LastOfItsId c))
  | .connect .. | .send .. | .edit .. | .leave _ | .disconnected _ | .server .accept
  | .server (.packet ..) | .server (.socketDown _) | .server (.wrote _) | .server (.expire _) =>
    inferInstanceAs (Decidable True)

/-- The runs in which every action is orderly. -/
def orderly (platform : Platform) (config : ServerConfig) (qt : Qt) : System Network Action :=
  (network platform config qt).restrict (Network.Orderly qt)

/-! ## What one step is to the partners -/

section Seen

variable {s s' : State} {e : Event} {d : ConnId}

theorem mem_memberIds {x : Int64} : x ∈ s.memberIds d ↔
    ∃ r, s.connectionRoom d = some r ∧ ∃ p ∈ s.participants r, p.userId.toInt64 = x := by
  unfold State.memberIds
  cases s.connectionRoom d with
  | none => simp
  | some r => simp [KeyedList.mem_def]

theorem memberIds_of_lobby (h : s.connectionRoom d = none) : s.memberIds d = ∅ := by
  rw [State.memberIds, h]

theorem memberIds_of_route {r : RoomRef} (h : s.connectionRoom d = some r) :
    s.memberIds d = ((s.participants r).toList.map fun p => p.userId.toInt64).toFinset := by
  rw [State.memberIds, h]

/-- One participant more. -/
theorem memberIds_of_perm {r : RoomRef} {p : Participant} (hroute : s.connectionRoom d = some r)
    (hroute' : s'.connectionRoom d = some r)
    (hperm : (s'.participants r).toList.Perm (p :: (s.participants r).toList)) :
    s'.memberIds d = insert p.userId.toInt64 (s.memberIds d) := by
  rw [memberIds_of_route hroute', memberIds_of_route hroute,
    List.toFinset_eq_of_perm _ _ (hperm.map _), List.map_cons, List.toFinset_cons]

/-- Where the ids are those of the connections, these are all that counts. -/
theorem memberIds_of_connections {r : RoomRef} (userId : ConnId → Int64)
    (hroute : s.connectionRoom d = some r)
    (hnamed : ∀ p ∈ s.participants r, p.userId.toInt64 = userId p.connection) :
    s.memberIds d =
      (((s.participants r).toList.map Participant.connection).map userId).toFinset := by
  rw [memberIds_of_route hroute, List.map_map]
  exact congrArg List.toFinset (List.map_congr_left hnamed)

/-- Its own id, and those of the others. -/
theorem memberIds_of_others {r : RoomRef} {p : Participant} (hroute : s.connectionRoom d = some r)
    (hp : p ∈ s.participants r) (hpd : p.connection = d) :
    s.memberIds d =
      insert p.userId.toInt64 ((s.others r d).map fun p => p.userId.toInt64).toFinset := by
  ext x
  rw [mem_memberIds, Finset.mem_insert, List.mem_toFinset, List.mem_map]
  constructor
  · rintro ⟨r', hr', p', hp', rfl⟩
    rw [hroute] at hr'
    cases hr'
    by_cases hpd' : p'.connection = d
    · rw [(s.participants r).eq_of_key hp' hp (hpd'.trans hpd.symm)]
      exact Or.inl rfl
    · exact Or.inr ⟨p', List.mem_filter.mpr ⟨hp', by simpa using hpd'⟩, rfl⟩
  · rintro (rfl | ⟨p', hp', rfl⟩)
    · exact ⟨r, hroute, p, hp, rfl⟩
    · exact ⟨r, hroute, p', (List.mem_filter.mp hp').1, rfl⟩

/-- A number in range is positive as an `int`. -/
theorem toInt32_pos {v : UInt32} (h : v < 2147483648) (hv : v ≠ 0) : 0 < v.toInt32 := by
  have hlt : v.toNat < 2147483648 := UInt32.lt_iff_toNat_lt.mp h
  have hne : v.toNat ≠ 0 := fun h0 => hv (UInt32.toNat_inj.mp h0)
  have hint : v.toInt32.toInt = v.toNat := by
    have hofNat : v.toInt32 = Int32.ofNat v.toNat := by
      rw [← UInt32.toInt32_ofNat', UInt32.ofNat_toNat]
    rw [hofNat]
    exact Int32.toInt_ofNat_of_lt hlt
  have hzero : (0 : Int32).toInt = 0 := rfl
  rw [Int32.lt_iff_toInt_lt, hint, hzero]
  omega

/-- The profiles replayed to a newcomer add nobody it has not been told of. -/
theorem Client.hearAll_profiles {qt : Qt} {localUserId : Int64} {c : Client}
    {ps : List Participant} (hps : ∀ p ∈ ps, p.userId.toInt64 ≠ 0 ∧ p.userId.toInt64 ∈ c.partners) :
    (c.hearAll qt localUserId (ps.flatMap profileNotices)).SameSession c := by
  induction ps with
  | nil => exact ⟨rfl, rfl⟩
  | cons p ps ih =>
    have hrest := ih fun q hq => hps q (List.mem_cons_of_mem _ hq)
    rcases hps p (List.mem_cons_self ..) with ⟨hid, hmem⟩
    rw [List.flatMap_cons, Client.hearAll_append]
    have hfirst : (c.hearAll qt localUserId (profileNotices p)).SameSession c := by
      unfold profileNotices
      split_ifs
      · exact ⟨rfl, rfl⟩
      · rcases c.hear_profile qt localUserId (q := ⟨makeUserProfilePacket p, [p.connection]⟩) rfl
          hid with hsame | hadd
        · show (c.hear qt localUserId _).SameSession c
          rw [hsame]
          exact ⟨rfl, rfl⟩
        · show (c.hear qt localUserId _).SameSession c
          rw [hadd]
          exact ⟨rfl, Finset.insert_eq_of_mem hmem⟩
    have hall : ((c.hearAll qt localUserId (profileNotices p)).hearAll qt localUserId
        (ps.flatMap profileNotices)).SameSession (c.hearAll qt localUserId
          (ps.flatMap profileNotices)) := hfirst.hearAll _
    exact ⟨hall.1.trans hrest.1, hall.2.trans hrest.2⟩

/-- The session is ending, or the partners are those of the room. -/
def Client.Knows (c : Client) (ids : Finset Int64) : Prop :=
  c.sessionEnding = true ∨ c.partners = ids

theorem Client.SameSession.knows {c c' : Client} {ids : Finset Int64} (h : c.SameSession c')
    (hc : c'.Knows ids) : c.Knows ids := by
  unfold Client.Knows
  rw [h.1, h.2]
  exact hc

/-- The events the partners can follow. -/
def State.Orderly (s : State) : Event → Prop
  | .packet _ packet _ => packet.type = .joinMeeting →
      s.getRoom (readBe32 packet.payload) = none ∨ readBe32 packet.payload < 2147483648
  | .close c => s.LastOfItsId c
  | _ => True

/-- A message that adds no partner leaves none. -/
theorem Client.hear_partners_of_late (qt : Qt) (localUserId : Int64) {c : Client} {q : Queued}
    (hc : c.partners = ∅) (h : ∀ msg ∈ q.heard qt, ¬msg.AddsPartner) :
    (c.hear qt localUserId q).partners = ∅ := by
  have hclose : c.closeMeetingWindow.partners = ∅ := by
    unfold Client.closeMeetingWindow
    split_ifs
    · exact hc
    · rfl
  unfold Client.hear
  cases hq : q.heard qt with
  | none => exact hc
  | some msg =>
    have hmsg := h msg hq
    -- the messages that add a partner are excluded by `h`; the others remove or leave
    cases msg with
    | createMeetingResponse roomNo =>
      show (c.onCreateMeetingResult localUserId roomNo.toInt32).partners = ∅
      unfold Client.onCreateMeetingResult
      split_ifs with hcreated
      · exact absurd hcreated hmsg
      · exact hclose
    | joinMeetingResponse responseCode =>
      show (c.onJoinMeetingResult localUserId responseCode).partners = ∅
      unfold Client.onJoinMeetingResult
      split_ifs with _ _ hjoined
      · exact hclose
      · exact hclose
      · exact absurd hjoined hmsg
      · exact hc
    | partnerJoin _ | userProfileNotify _ _ _ => exact absurd trivial hmsg
    | partnerJoin2 userIds =>
      rw [not_not.mp hmsg]
      exact hc
    | partnerExit userId =>
      show c.partners.erase userId = ∅
      rw [hc]
      rfl
    | remoteHostClosedError | otherNetError => exact hclose
    | _ => exact hc

/-- The newcomer knows who is there: itself, and whoever it is told of. -/
theorem Client.knows_of_entered {qt : Qt} {localUserId : Int64} {c : Client} {code : UInt32}
    {ps : List Participant} (flags : UInt32) (hcode : code < 2147483648) (hc : c.Knows ∅)
    (hps : ∀ p ∈ ps, p.userId.toInt64 ≠ 0) :
    (c.hearAll qt localUserId (response .joinMeetingResponse code ::
      ([partnerList ps, settingsNotice flags] ++ ps.flatMap profileNotices))).Knows
        (insert localUserId (ps.map fun p => p.userId.toInt64).toFinset) := by
  have hending : ∀ {c : Client} {qs : List Queued} {ids : Finset Int64},
      c.sessionEnding = true → (c.hearAll qt localUserId qs).Knows ids :=
    fun hc => Or.inl (Client.hearAll_sessionEnding _ hc)
  rw [Client.hearAll_cons, Client.hear_joinMeetingResponse]
  unfold Client.onJoinMeetingResult
  split_ifs with hzero hfull hjoined
  · exact hending c.closeMeetingWindow_sessionEnding
  · exact hending c.closeMeetingWindow_sessionEnding
  · -- a list, the switches, and the profiles of those on the list
    rcases hc with hc | hc
    · exact hending hc
    rw [Client.hearAll_append, Client.hearAll_cons, Client.hearAll_cons, Client.hear_partnerList]
    have hsettings : ∀ c : Client, c.hear qt localUserId (settingsNotice flags) =
        c.applyFlags flags := fun c => c.hear_settings qt localUserId 0 flags []
    rw [hsettings]
    refine (Client.hearAll_profiles fun p hp => ⟨hps p hp, ?_⟩).knows (Or.inr ?_)
    · exact Client.mem_onPartnersSnapshot.mpr (Or.inr (List.mem_map.mpr ⟨p, hp, rfl⟩))
    · ext x
      refine Client.mem_onPartnersSnapshot.trans ?_
      simp [Client.setHost, Client.add, Client.applyProfile, hc]
  · -- no number in range is negative
    have hne : code ≠ 0 := by
      rintro rfl
      exact hzero rfl
    exact absurd (toInt32_pos hcode hne) hjoined

variable {config : ServerConfig}

section Knows

variable {y : Network} {qt : Qt} {c : Client} {r : RoomRef} {packet : Packet} {oracle : Oracle}

/-- The id of a participant is that of the link of its connection. -/
theorem Network.Sound.userId_eq (hy : y.Sound) {p : Participant} (hp : p ∈ y.server.participants r) :
    p.userId.toInt64 = (y.links p.connection).userId := by
  rw [hy.named hp]
  exact Int64.toInt64_toUInt64 _

/-- It still is after a step, and no such id is 0. -/
theorem Network.Sound.userId_step (hy : y.Sound) (h : y.server.Consistent)
    (he : Effect config y.server e s') (hgenuine : y.Genuine e) {p : Participant}
    (hp : p ∈ s'.participants r) :
    p.userId.toInt64 = (y.links p.connection).userId ∧ p.userId.toInt64 ≠ 0 := by
  rcases hy.named_step h he hgenuine hp with ⟨hid, haccepted⟩
  have hnamed : p.userId.toInt64 = (y.links p.connection).userId := by
    rw [hid]
    exact Int64.toInt64_toUInt64 _
  refine ⟨hnamed, ?_⟩
  intro hzero
  have hwire := hy.wire haccepted
  rw [← hnamed, hzero] at hwire
  exact absurd hwire.1 (by decide)

/-- The creator is its own only partner. -/
theorem Client.knows_of_created {localUserId : Int64} (hc : c.Knows ∅) (code : UInt32) :
    (c.hearAll qt localUserId [response .createMeetingResponse code]).Knows {localUserId} := by
  show (c.hear qt localUserId (response .createMeetingResponse code)).Knows _
  rw [Client.hear_createMeetingResponse, Client.onCreateMeetingResult]
  split_ifs
  · exact hc.imp id fun hc => by simp [Client.setHost, Client.add, Client.applyProfile, hc]
  · exact Or.inl c.closeMeetingWindow_sessionEnding

/-- Nothing that is relayed changes who is there. -/
theorem memberIds_of_relayed (hy : y.Sound) (h : y.server.Consistent)
    (he : Effect config y.server e s') (hgenuine : y.Genuine e) {c' exclude : ConnId}
    {sender : Participant} {room : Room} {q : Queued} (hrouted : y.server.connectionRoom d = some r)
    (hroutes : s'.connectionRoom = y.server.connectionRoom)
    (hrel : Relayed (y.server.heap r) c' sender packet room q exclude) (hroom : s'.heap r = room) :
    s'.memberIds d = y.server.memberIds d := by
  have hconnections : (s'.participants r).toList.map Participant.connection =
      (y.server.participants r).toList.map Participant.connection := by
    show (s'.heap r).participants.toList.map Participant.connection = _
    rw [hroom, hrel.connections]
    rfl
  have hrouted' : s'.connectionRoom d = some r := by rw [hroutes, hrouted]
  rw [memberIds_of_connections (fun x => (y.links x).userId) hrouted' fun p hp =>
      (hy.userId_step h he hgenuine hp).1, hconnections,
    memberIds_of_connections (fun x => (y.links x).userId) hrouted fun p hp => hy.userId_eq hp]

/-- What is relayed adds no partner: a profile carries the id of its sender. -/
theorem Client.knows_of_relayed (hy : y.Sound) (h : y.server.Consistent) {c' exclude : ConnId}
    {sender : Participant} {room : Room} {q : Queued} (hgenuine : y.Genuine (.packet c' packet oracle))
    (hroute : y.server.connectionRoom c' = some r) (hrouted : y.server.connectionRoom d = some r)
    (hsender : (y.server.participants r).find c' = some sender)
    (hrel : Relayed (y.server.heap r) c' sender packet room q exclude)
    (hc : c.Knows (y.server.memberIds d)) :
    (c.hear qt (y.links d).userId q).Knows (y.server.memberIds d) := by
  cases hrel with
  | text _ =>
    rw [c.hear_other qt _ (Or.inl rfl)]
    exact hc
  | camera _ =>
    rw [c.hear_other qt _ (Or.inr rfl)]
    exact hc
  | profile htype =>
    rcases KeyedList.find_eq_some.mp hsender with ⟨hmem, hkey⟩
    have hown : OwnProfile packet.payload sender.userId := by
      rw [hy.named hmem, hkey]
      exact hgenuine.2 htype
    have hid := Participant.applyProfile_userId hown
    have hnonzero : (sender.applyProfile packet.payload).userId.toInt64 ≠ 0 := by
      intro hzero
      have hwire := hy.wire (h.accepted_of_route hroute)
      rw [← hkey, ← hy.userId_eq hmem, ← hid, hzero] at hwire
      exact absurd hwire.1 (by decide)
    rcases c.hear_profile qt (y.links d).userId
      (q := ⟨{ packet with userId := (sender.applyProfile packet.payload).userId }, [c']⟩)
      htype hnonzero with hsame | hadd
    · rw [hsame]
      exact hc
    · rw [hadd]
      refine hc.imp id fun hc => ?_
      -- a partner already
      have hknown : sender.userId.toInt64 ∈ c.partners := by
        rw [hc, mem_memberIds]
        exact ⟨r, hrouted, sender, hmem, rfl⟩
      show insert (sender.applyProfile packet.payload).userId.toInt64 c.partners = _
      rw [hid, Finset.insert_eq_of_mem hknown, hc]
  | settings _ _ =>
    rw [c.hear_settings qt]
    exact hc

/-- One who leaves takes an id with it that nobody else goes by. -/
theorem memberIds_of_left {p : Participant} (hlast : s.LastOfItsId p.connection)
    (howner : p.isOwner = false) (hroute : s.connectionRoom p.connection = some r)
    (hrouted : s.connectionRoom d = some r) (hrouted' : s'.connectionRoom d = some r)
    (hperm : (s.participants r).toList.Perm (p :: (s'.participants r).toList)) :
    s'.memberIds d = (s.memberIds d).erase p.userId.toInt64 := by
  have hmem : p ∈ s.participants r := hperm.mem_iff.mpr (List.mem_cons_self ..)
  unfold State.LastOfItsId at hlast
  rw [hroute] at hlast
  have hnot : p.userId.toInt64 ∉ s'.memberIds d := by
    rw [mem_memberIds]
    rintro ⟨r', hr', p', hp', hid⟩
    rw [hrouted'] at hr'
    cases hr'
    have hne : p'.connection ≠ p.connection := KeyedList.key_ne_of_perm hperm hp'
    refine hlast p hmem rfl howner p' (hperm.mem_iff.mpr (List.mem_cons_of_mem _ hp')) hne ?_
    exact congrArg Int64.toUInt64 hid
  rw [memberIds_of_perm hrouted' hrouted hperm, Finset.erase_insert hnot]

/-- What one step is to the partners of an open connection. -/
theorem Seen.knows (hy : y.Sound) (h : y.server.Consistent)
    (he : Effect config y.server e s') (hgenuine : y.Genuine e) (horderly : y.server.Orderly e)
    {news : List Queued} (hseen : Seen y.server e s' d news) (hopen : s'.isOpen d = true)
    (hc : c.Knows (y.server.memberIds d)) :
    (c.hearAll qt (y.links d).userId news).Knows (s'.memberIds d) := by
  have hself : ∀ {packet oracle}, e = .packet d packet oracle →
      packet.userId.toInt64 = (y.links d).userId := by
    rintro packet oracle rfl
    rw [hgenuine.1]
    exact Int64.toInt64_toUInt64 _
  cases hseen with
  | gone hgone =>
    rw [hgone] at hopen
    cases hopen
  | accepted _ _ _ hlobby hlobby' =>
    rw [memberIds_of_lobby hlobby] at hc
    rw [memberIds_of_lobby hlobby']
    exact hc
  | elsewhere _ _ hroute hheap hnews =>
    cases news with
    | nil =>
      have hids : s'.memberIds d = y.server.memberIds d := by
        unfold State.memberIds
        rw [hroute]
        cases hr : y.server.connectionRoom d with
        | none => rfl
        | some r => simp only [participants, hheap r hr]
      rw [hids]
      exact hc
    | cons q qs =>
      rcases hnews q (List.mem_cons_self ..) with ⟨_, packet, _, type, value, _, hrefusal, rfl⟩
      exact Or.inl (Client.hearAll_sessionEnding qs (c.hear_refusal qt _ hrefusal))
  | @created packet oracle r heq _ _ _ hlobby hroute _ hparticipants _ =>
    rw [memberIds_of_lobby hlobby] at hc
    have hids : s'.memberIds d = {(y.links d).userId} := by
      rw [memberIds_of_route hroute, hparticipants]
      simp [creator, hself heq]
    rw [hids]
    exact Client.knows_of_created hc _
  | @entered packet oracle r heq htype _ _ hlobby hroute _ hid hperm _ =>
    rw [memberIds_of_lobby hlobby] at hc
    have hcode : (s'.heap r).roomId < 2147483648 := by
      subst heq
      rw [hid]
      refine (horderly htype).resolve_left ?_
      rw [he.getRoom_of_entry htype hlobby hroute]
      exact Option.some_ne_none r
    have hjoiner : joiner d packet.userId ∈ s'.participants r :=
      hperm.mem_iff.mpr (List.mem_cons_self ..)
    have hids := memberIds_of_others hroute hjoiner rfl
    rw [show (joiner d packet.userId).userId.toInt64 = (y.links d).userId from hself heq] at hids
    rw [hids]
    apply Client.knows_of_entered _ hcode hc
    intro p hp
    exact (hy.userId_step h he hgenuine (List.mem_filter.mp hp).1).2
  | @joined c' packet oracle r _ _ _ _ _ _ _ hroute hroute' hperm _ =>
    rw [memberIds_of_perm hroute hroute' hperm]
    exact hc.imp id fun hc => by
      show insert packet.userId.toInt64 c.partners = _
      rw [hc]
  | @relayed c' packet oracle r sender room q exclude heq _ _ hroute hrouted hroutes hsender hrel
      hroom =>
    rw [memberIds_of_relayed hy h he hgenuine hrouted hroutes hrel hroom]
    split_ifs
    · exact hc
    · rw [heq] at hgenuine
      exact Client.knows_of_relayed hy h hgenuine hroute hrouted hsender hrel hc
  | @left r p heq _ _ hpd howner hroute hlobby hrouted hroute' hperm _ =>
    rw [heq] at horderly
    rw [memberIds_of_left horderly howner hroute hrouted hroute' hperm]
    exact hc.imp id fun hc => by
      show c.partners.erase p.userId.toInt64 = _
      rw [hc]

end Knows

end Seen

/-! ## The invariant -/

/-- A client that is in no meeting has no partners, and one that is in a meeting
knows the participants once it is caught up. -/
structure Network.RosterInv (qt : Qt) (y : Network) : Prop where
  idle : ∀ k, (y.clients k).sessionEnding = true ∨ (y.clients k).connection = none →
    (y.clients k).partners = ∅
  agree : ∀ {k d}, (y.clients k).connection = some d → y.server.isOpen d = true →
    (y.caughtUp qt d (y.clients k)).Knows (y.server.memberIds d)

section Run

variable {platform : Platform} {config : ServerConfig} {qt : Qt} {y y' : Network}

/-- What a handler of the server sends, its clients can follow. -/
theorem Network.RosterInv.agree_step {z : Network} (hinv : y.RosterInv qt) (hy : y.Sound)
    (h : y.server.Consistent) {e : Event} (he : Effect config y.server e z.server)
    (hgenuine : y.Genuine e) (horderly : y.server.Orderly e) {k : ClientId} {d : ConnId}
    (hconn : (y.clients k).connection = some d) (hopen : z.server.isOpen d = true)
    (hreceived : (z.links d).received = (y.links d).received)
    (huser : (z.links d).userId = (y.links d).userId) :
    (z.caughtUp qt d (y.clients k)).Knows (z.server.memberIds d) := by
  have hbefore : y.server.isOpen d = true := by
    rcases he.isOpen hopen with hold | ⟨_, hnew⟩
    · exact hold
    · exact absurd (hy.accepted hconn).2 (hnew ▸ Nat.lt_irrefl _)
  rcases he.seen h d with ⟨news, hseen, houtbox⟩
  rw [caughtUp_append hy houtbox hreceived huser]
  exact hseen.knows hy h he hgenuine horderly hopen (hinv.agree hconn hbefore)

/-- The request a client sends is answered with its own number. -/
theorem State.InRange.orderly (hy : y.Sound) {d : ConnId} {priority : MessagePriority}
    {msg : Message} {rest : List Message} {packet : Packet}
    (hbucket : (y.links d).bucketFor priority = msg :: rest) (hmsg : y.server.InRange msg)
    (hpacket : msg.packet qt (y.links d).userId = some packet) (oracle : Oracle) :
    y.server.Orderly (.packet d packet oracle) := by
  intro htype
  have hgenuine : msg.Genuine (y.links d).userId := by
    refine hy.sent d priority msg ?_
    rw [hbucket]
    exact List.mem_cons_self ..
  rcases hgenuine.packet_cases hpacket with ⟨_, _, _, hp⟩ | ⟨roomNo, rfl, _⟩ | ⟨_, hp⟩ |
    ⟨_, _, hp⟩ | ⟨_, _, _, hp⟩ | ⟨_, _, hp⟩
  on_goal 2 =>
    rcases Option.map_eq_some_iff.mp hpacket with ⟨type, _, rfl⟩
    show y.server.getRoom (readBe32 (writeBe32 (roomNoU32 roomNo))) = none ∨
      readBe32 (writeBe32 (roomNoU32 roomNo)) < 2147483648
    rw [readBe32_writeBe32_self]
    exact hmsg
  all_goals
    rw [hp] at htype
    cases htype

/-- Internal events are orderly when closing is. -/
theorem orderly_of_internal {e : Event} (hinternal : e.IsInternal = true)
    (h : y.Orderly qt (.server e)) : y.server.Orderly e := by
  cases e with
  | close c => exact h
  | accept | packet _ _ _ => cases hinternal
  | socketDown _ | wrote _ | expire _ => exact trivial

/-- A client that is in no meeting gets no partners. -/
theorem Network.RosterInv.idle_acts (hinv : y.RosterInv qt) {a : Action} (horderly : y.Orderly qt a)
    (hact : Acts platform config qt y a y') {k' : ClientId}
    (hk' : (y'.clients k').sessionEnding = true ∨ (y'.clients k').connection = none) :
    (y'.clients k').partners = ∅ := by
  cases hact with
  | send _ _ | deliver _ _ _ | server _ _ => exact hinv.idle k' hk'
  | connect hnone _ _ =>
    rw [setClient_clients] at hk' ⊢
    split_ifs at hk' ⊢
    · exact hinv.idle _ (Or.inr hnone)
    · exact hinv.idle k' hk'
  | edit _ _ =>
    rw [setClient_clients] at hk' ⊢
    split_ifs at hk' ⊢
    · exact hinv.idle _ hk'
    · exact hinv.idle k' hk'
  | @receive k d q hd hq =>
    rw [setClient_clients] at hk' ⊢
    split_ifs at hk' ⊢
    · rcases hk' with hending | hnone
      · cases hgoing : (y.clients k).sessionEnding with
        | false => exact (y.clients k).hear_partners_of_ending qt _ hgoing hending
        | true =>
          -- a message that comes too late
          rcases horderly with hfalse | hlate
          · rw [hgoing] at hfalse
            cases hfalse
          · exact Client.hear_partners_of_late qt _ (hinv.idle k (Or.inl hgoing))
              (hlate d hd q hq)
      · rw [Client.hear_connection, hd] at hnone
        cases hnone
    · exact hinv.idle k' hk'
  | @leave k d hd =>
    rw [setClient_clients] at hk' ⊢
    split_ifs at hk' ⊢
    · unfold Client.closeMeetingWindow
      split_ifs with hending
      · exact hinv.idle k (Or.inl hending)
      · rfl
    · exact hinv.idle k' hk'
  | disconnected hending =>
    rw [setClient_clients] at hk' ⊢
    split_ifs at hk' ⊢
    · exact hinv.idle _ (Or.inl hending)
    · exact hinv.idle k' hk'

/-- A client that is in a meeting keeps up with it. -/
theorem Network.RosterInv.agree_acts (hmax : 0 < config.maxParticipantsPerRoom)
    (hinv : y.RosterInv qt) (hy : y.Sound) (h : y.server.Consistent) {a : Action}
    (horderly : y.Orderly qt a) (hact : Acts platform config qt y a y') {k' : ClientId} {d' : ConnId}
    (hd' : (y'.clients k').connection = some d') (hopen : y'.server.isOpen d' = true) :
    (y'.caughtUp qt d' (y'.clients k')).Knows (y'.server.memberIds d') := by
  cases hact with
  | @connect k userId s' hnone hid hstep =>
    rw [setClient_clients] at hd' ⊢
    split_ifs at hd' ⊢
    · -- nothing was sent on the new connection, and it is in no room
      cases hd'
      have hfresh := h.freshConnection (c := y.server.nextConnectionId)
        fun hacc => Nat.lt_irrefl _ hacc.2
      have hs' : s' = y.server.accept := eq_accept_of_step hstep
      subst hs'
      refine Or.inr ?_
      rw [caughtUp_of_handled]
      · show (y.clients k).partners = y.server.accept.memberIds y.server.nextConnectionId
        rw [memberIds_of_lobby (s := y.server.accept) hfresh.2]
        exact hinv.idle k (Or.inr hnone)
      · rw [setClient_links, setLink_links, if_pos rfl]
        show 0 = (y.server.accept.outbox y.server.nextConnectionId).length
        simp [outbox, State.accept, Connection.accepted]
    · have hne : d' ≠ y.server.nextConnectionId := Nat.ne_of_lt (hy.accepted hd').2
      exact hinv.agree_step (z := (({ y with server := s' } : Network).setLink _ _).setClient _ _)
        hy h (step_effect hmax h hstep) trivial trivial hd' hopen
        (by rw [setClient_links, setLink_links, if_neg hne])
        (by rw [setClient_links, setLink_links, if_neg hne])
  | @send k msg d hd hsend =>
    rw [caughtUp_setLink y (Link.push_received ..) (Link.push_userId ..)]
    exact hinv.agree hd' hopen
  | @edit k allowRecord allowShare d flags hd hflags =>
    rw [caughtUp_setClient, caughtUp_setLink y (Link.push_received ..) (Link.push_userId ..)]
    rw [setClient_clients] at hd' ⊢
    split_ifs at hd' ⊢
    · -- the edit touches neither the session nor the partners
      have hsame : ((y.clients k).settingsEdited flags).SameSession (y.clients k) := ⟨rfl, rfl⟩
      exact (hsame.hearAll _).knows (hinv.agree hd' hopen)
    · exact hinv.agree hd' hopen
  | @deliver d priority oracle msg rest packet s' hbucket hpacket hstep =>
    have hmsg : y.server.InRange msg := horderly msg (by rw [hbucket]; rfl)
    exact hinv.agree_step (z := ({ y with server := s' } : Network).setLink _ _)
      hy h (step_effect hmax h hstep) (hy.genuine hbucket hpacket oracle)
      (hmsg.orderly hy hbucket hpacket oracle) hd' hopen
      (by rw [setLink_links]; split_ifs with hdd <;> simp [hdd])
      (by rw [setLink_links]; split_ifs with hdd <;> simp [hdd])
  | @receive k d q hd hq =>
    rw [setClient_clients] at hd' ⊢
    split_ifs at hd' ⊢ with hkk
    · rw [Client.hear_connection, hd] at hd'
      cases hd'
      rw [caughtUp_setClient, caughtUp_receive _ hq]
      exact hinv.agree hd hopen
    · have hdd : d' ≠ d := by
        rintro rfl
        exact hkk (hy.alone hd' hd)
      rw [caughtUp_setClient, caughtUp_setLink_of_ne y hdd]
      exact hinv.agree hd' hopen
  | @leave k d hd =>
    rw [caughtUp_setClient]
    rw [setClient_clients] at hd' ⊢
    split_ifs at hd' ⊢
    · exact Or.inl (Client.hearAll_sessionEnding _ (Client.closeMeetingWindow_sessionEnding _))
    · exact hinv.agree hd' hopen
  | @disconnected k hending =>
    rw [caughtUp_setClient]
    rw [setClient_clients] at hd' ⊢
    split_ifs at hd' ⊢
    exact hinv.agree hd' hopen
  | @server e s' hinternal hstep =>
    exact hinv.agree_step (z := { y with server := s' }) hy h (step_effect hmax h hstep)
      (genuine_of_internal hinternal) (orderly_of_internal hinternal horderly) hd' hopen rfl rfl

/-- One orderly action. -/
theorem Network.RosterInv.acts (hmax : 0 < config.maxParticipantsPerRoom) (hinv : y.RosterInv qt)
    (hy : y.Sound) (h : y.server.Consistent) {a : Action} (horderly : y.Orderly qt a)
    (hact : Acts platform config qt y a y') : y'.RosterInv qt where
  idle _ hk' := hinv.idle_acts horderly hact hk'
  agree hd' hopen := hinv.agree_acts hmax hy h horderly hact hd' hopen

theorem orderly_rosterInv (hmax : 0 < config.maxParticipantsPerRoom)
    (h : Reachable (orderly platform config qt) y) : y.RosterInv qt := by
  refine h.invariant (I := Network.RosterInv qt) ?_ ?_
  · intro y hinit
    rw [show y = Network.start from hinit]
    exact ⟨fun _ _ => rfl, nofun⟩
  · intro y a y' hreach hinv hstep
    have hall := hreach.of_restrict
    exact hinv.acts hmax (reachable_sound hmax hall) (network_consistent hmax hall) hstep.1
      (Network.act_acts platform config qt hstep.2)

/-- **Roster agreement.** In an orderly run, a member that has handled what was
sent to it and has not left has the participants of its room for partners,
itself included. -/
theorem roster_agreement (hmax : 2 ≤ config.maxParticipantsPerRoom)
    (h : Reachable (orderly platform config qt) y) :
    ∀ (k : ClientId) (d : ConnId) (r : RoomRef), (y.clients k).connection = some d →
      (y.clients k).sessionEnding = false → y.server.isOpen d = true → y.server.IsMember r d →
      (y.links d).received = (y.server.outbox d).length →
      (y.clients k).partners =
        ((y.server.participants r).toList.map fun p => p.userId.toInt64).toFinset := by
  intro k d r hconn hgoing hopen hmember hhandled
  have hmax' : 0 < config.maxParticipantsPerRoom := by omega
  have hagree := (orderly_rosterInv hmax' h).agree hconn hopen
  rw [caughtUp_of_handled hhandled] at hagree
  have hroute := (network_consistent hmax' h.of_restrict).member hmember
  rcases hagree with hending | hpartners
  · rw [hgoing] at hending
    cases hending
  · rw [hpartners, State.memberIds, hroute]

end Run

/-- User 5 creates a meeting and user 7 joins it; both handle what they are sent. -/
def twoMembers : List Action :=
  [.connect 1 5, .send 1 (.createMeeting 8 60), .deliver 1 .control .plain, .receive 1,
    .connect 2 7, .send 2 (.joinMeeting (ascii "123456")), .deliver 2 .control .plain,
    .receive 1, .receive 2, .receive 2, .receive 2]

/-- Both have both for partners. -/
theorem roster_agreement_of_two : ∃ y : Network,
    replay (guarded (Network.Orderly referenceQt) fun y a => y.act reference {} referenceQt a)
      Network.start twoMembers = some y ∧
    (y.clients 2).partners =
      ((y.server.participants 0).toList.map fun p => p.userId.toInt64).toFinset := by
  have hrun : (replay (guarded (Network.Orderly referenceQt)
      fun y a => y.act reference {} referenceQt a) Network.start twoMembers).map (fun y => ((y.clients 2).connection,
        (y.clients 2).sessionEnding, y.server.isOpen 2, decide (y.server.IsMember 0 2),
        decide ((y.links 2).received = (y.server.outbox 2).length))) =
      some (some 2, false, true, true, true) := by decide +kernel
  rcases Option.map_eq_some_iff.mp hrun with ⟨y, hy, hfacts⟩
  simp only [Prod.mk.injEq, decide_eq_true_eq] at hfacts
  rcases hfacts with ⟨hconn, hgoing, hopen, hmember, hhandled⟩
  exact ⟨y, hy, roster_agreement (by decide) (restrict_of_replay hy) 2 2 0 hconn hgoing hopen
    hmember hhandled⟩

/-- User 5 creates a meeting, user 7 joins it from two clients, and one of
them goes; user 5 handles all it is sent. -/
def twiceLoggedIn : List Action :=
  [.connect 1 5, .send 1 (.createMeeting 8 60), .deliver 1 .control .plain, .receive 1,
    .connect 2 7, .send 2 (.joinMeeting (ascii "123456")), .deliver 2 .control .plain,
    .connect 3 7, .send 3 (.joinMeeting (ascii "123456")), .deliver 3 .control .plain,
    .server (.close 2), .receive 1, .receive 1, .receive 1]

/-- Not in every run: user 7 is a participant and no partner any more. -/
theorem exit_of_shared_id : ¬∀ y : Network, Reachable (network reference {} referenceQt) y →
    ∀ (k : ClientId) (d : ConnId) (r : RoomRef), (y.clients k).connection = some d →
      (y.clients k).sessionEnding = false → y.server.isOpen d = true → y.server.IsMember r d →
      (y.links d).received = (y.server.outbox d).length →
      (y.clients k).partners =
        ((y.server.participants r).toList.map fun p => p.userId.toInt64).toFinset := by
  intro hall
  have hrun : (replay (fun y a => y.act reference {} referenceQt a) Network.start
      twiceLoggedIn).map (fun y => ((y.clients 1).connection, (y.clients 1).sessionEnding,
        y.server.isOpen 1, decide (y.server.IsMember 0 1),
        decide ((y.links 1).received = (y.server.outbox 1).length),
        decide ((y.clients 1).partners =
          ((y.server.participants 0).toList.map fun p => p.userId.toInt64).toFinset))) =
      some (some 1, false, true, true, true, false) := by decide +kernel
  rcases Option.map_eq_some_iff.mp hrun with ⟨y, hy, hfacts⟩
  simp only [Prod.mk.injEq, decide_eq_true_eq, decide_eq_false_iff_not] at hfacts
  rcases hfacts with ⟨hconn, hgoing, hopen, hmember, hhandled, hdiffer⟩
  exact hdiffer (hall y (network_of_replay hy) 1 1 0 hconn hgoing hopen hmember hhandled)

end CCMeeting
