import CCMeeting.Server.Views

/-! # Texts

A text is queued once for everybody else in the meeting whose connection is
open, and for nobody else. On every queue the texts of one sender stand in the
order they were sent, after the packet that announced the sender and before the
one that takes it back.
-/

namespace CCMeeting

open ByteString Transition State

/-! ## What a queue says about a connection -/

/-- The `TextRecv` made of a text of `sender`. -/
def textNotice (sender : Participant) (payload : ByteString) : Queued :=
  ⟨{ type := .textRecv, userId := sender.userId, payload }, [sender.connection]⟩

/-- The texts of `c` on a queue, in order. -/
def textsFrom (c : ConnId) (qs : List Queued) : List ByteString :=
  qs.filterMap fun q =>
    if q.packet.type = .textRecv ∧ q.source = [c] then some q.packet.payload else none

/-- `c` is announced on a queue, alone or on the list of a newcomer. -/
def AnnouncedOn (c : ConnId) (qs : List Queued) : Prop :=
  ∃ q ∈ qs, (q.packet.type = .partnerJoin ∨ q.packet.type = .partnerJoin2) ∧ c ∈ q.source

/-- `c` is taken back on a queue. -/
def ExitedOn (c : ConnId) (qs : List Queued) : Prop :=
  ∃ q ∈ qs, q.packet.type = .partnerExit ∧ c ∈ q.source

/-- Before every text on the queue its sender has been announced and has not
been taken back. -/
def InOrder (qs : List Queued) : Prop :=
  ∀ a q b, qs = a ++ q :: b → q.packet.type = .textRecv → ∀ c ∈ q.source,
    AnnouncedOn c a ∧ ¬ExitedOn c a

theorem AnnouncedOn.append {c : ConnId} {qs : List Queued} (h : AnnouncedOn c qs)
    (news : List Queued) : AnnouncedOn c (qs ++ news) := by
  rcases h with ⟨q, hq, hannounces⟩
  exact ⟨q, List.mem_append_left _ hq, hannounces⟩

theorem exitedOn_append {c : ConnId} {qs news : List Queued} :
    ExitedOn c (qs ++ news) ↔ ExitedOn c qs ∨ ExitedOn c news := by
  simp only [ExitedOn, List.mem_append, or_and_right, exists_or]

/-- New packets keep the order if the senders of the texts among them have been
announced before and are not taken back. -/
theorem InOrder.append {qs news : List Queued} (h : InOrder qs)
    (hnews : ∀ q ∈ news, q.packet.type = .textRecv → ∀ c ∈ q.source,
      AnnouncedOn c qs ∧ ¬ExitedOn c (qs ++ news)) : InOrder (qs ++ news) := by
  intro a q b heq htype c hc
  rcases List.append_eq_append_iff.mp heq with ⟨x, hx, hnew⟩ | ⟨x, hx, hold⟩
  · -- the text is one of the new packets
    have hq : q ∈ news := by
      rw [hnew]
      simp
    rcases hnews q hq htype c hc with ⟨hann, hexit⟩
    constructor
    · rw [hx]
      exact hann.append x
    · intro ha
      apply hexit
      rw [heq, exitedOn_append]
      exact Or.inl ha
  · cases x with
    | nil =>
      rw [List.nil_append] at hold
      have hq : q ∈ news := by
        rw [← hold]
        exact List.mem_cons_self ..
      rw [List.append_nil] at hx
      subst hx
      rcases hnews q hq htype c hc with ⟨hann, hexit⟩
      refine ⟨hann, fun ha => hexit ?_⟩
      rw [exitedOn_append]
      exact Or.inl ha
    | cons q' x =>
      rw [List.cons_append] at hold
      rcases List.cons.inj hold with ⟨rfl, _⟩
      exact h a q x hx htype c hc

theorem textsFrom_append (c : ConnId) (qs news : List Queued) :
    textsFrom c (qs ++ news) = textsFrom c qs ++ textsFrom c news := by
  simp [textsFrom]

/-! ## Who is announced to whom -/

namespace State

/-- The connection has been in use and is not any more. -/
def Gone (s : State) (c : ConnId) : Prop :=
  s.Accepted c ∧ s.isOpen c = false ∧ s.connectionRoom c = none

/-- What the queues say about who is in a meeting. -/
structure Told (s : State) : Prop where
  /-- everybody in the meeting has been announced -/
  announced : ∀ {c d r}, s.isOpen d = true → s.connectionRoom d = some r →
    s.connectionRoom c = some r → c ≠ d → AnnouncedOn c (s.outbox d)
  /-- whoever has been taken back is gone -/
  exited : ∀ {c d}, ExitedOn c (s.outbox d) → s.Gone c
  ordered : ∀ d, InOrder (s.outbox d)

end State

section Told

variable {config : ServerConfig} {s s' : State} {e : Event}

/-- Whoever is gone stays gone. -/
theorem Effect.gone (he : Effect config s e s') {c : ConnId} (hc : s.Gone c) : s'.Gone c := by
  rcases hc with ⟨haccepted, hclosed, hlobby⟩
  refine ⟨he.accepted haccepted, ?_, ?_⟩
  · by_contra hopen
    rcases he.isOpen (by simpa using hopen) with ho | ⟨_, hnew⟩
    · rw [hclosed] at ho
      cases ho
    · -- an id to come is none that has been given
      rw [hnew] at haccepted
      exact Nat.lt_irrefl _ haccepted.2
  · by_contra hroute
    have hopen := (he.entry hlobby hroute).1
    rw [hclosed] at hopen
    cases hopen

/-- In a room that is as before, the participants are as before. -/
theorem route_of_same_room (h : s.Consistent) (h' : s'.Consistent) {c : ConnId} {r : RoomRef}
    (hheap : s'.heap r = s.heap r) (hc : s'.connectionRoom c = some r) :
    s.connectionRoom c = some r := by
  have hmember : s'.IsMember r c := (h'.route hc).2
  apply h.member
  rw [isMember_iff_connection] at hmember ⊢
  rwa [hheap] at hmember

/-- One participant more or less in a room. -/
theorem route_of_perm (h : s.Consistent) (h' : s'.Consistent) {c : ConnId} {p : Participant}
    {r : RoomRef} (hperm : (s'.participants r).toList.Perm (p :: (s.participants r).toList))
    (hc : s'.connectionRoom c = some r) (hcp : c ≠ p.connection) :
    s.connectionRoom c = some r := by
  rcases (h'.route hc).2 with ⟨x, hx, rfl⟩
  rcases List.mem_cons.mp (hperm.mem_iff.mp hx) with rfl | hx
  · exact absurd rfl hcp
  · exact h.member ⟨x, hx, rfl⟩

/-- A response is no text and takes nobody back. -/
theorem response_not_text {packet : Packet} {type : MessageType} {value : UInt32}
    (hrefusal : Refusal packet type value) :
    (response type value).packet.type ≠ .textRecv ∧
      (response type value).packet.type ≠ .partnerExit := by
  cases hrefusal with
  | create _ => simp [response]
  | join _ _ => simp [response]

/-- Neither is anything a newcomer is sent. -/
theorem welcome_not_text {r : RoomRef} {c : ConnId} {q : Queued} (hq : q ∈ s.welcome r c) :
    q.packet.type ≠ .textRecv ∧ q.packet.type ≠ .partnerExit := by
  unfold welcome at hq
  rcases List.mem_append.mp hq with hq | hq
  · simp only [List.mem_cons, List.not_mem_nil, or_false] at hq
    rcases hq with rfl | rfl
    · simp [partnerList]
    · simp [settingsNotice, makeRoomSettingsPacket]
  · rcases List.mem_flatMap.mp hq with ⟨p, _, hq⟩
    unfold profileNotices at hq
    split_ifs at hq
    · cases hq
    · rw [List.mem_singleton.mp hq]
      simp [makeUserProfilePacket]

/-- A relayed packet takes nobody back, and it is a text exactly when a text
was sent. -/
theorem State.Relayed.text_iff {room room' : Room} {c exclude : ConnId} {sender : Participant}
    {packet : Packet} {q : Queued} (h : Relayed room c sender packet room' q exclude) :
    q.packet.type ≠ .partnerExit ∧ q.source = [c] ∧
      (q.packet.type = .textRecv → packet.type = .textSend ∧ exclude = c ∧
        q.packet.payload = packet.payload) := by
  cases h with
  | text htype => exact ⟨nofun, rfl, fun _ => ⟨htype, rfl, rfl⟩⟩
  | camera _ => exact ⟨nofun, rfl, nofun⟩
  | profile htype => simp [htype]
  | settings _ _ => exact ⟨nofun, rfl, nofun⟩

/-- The only new texts are relayed ones: the sender is in the meeting of the
receiver and is not the receiver. -/
theorem Seen.text {d : ConnId} {news : List Queued} (hseen : Seen s e s' d news) {q : Queued}
    (hq : q ∈ news) (htype : q.packet.type = .textRecv) :
    ∃ c packet oracle r, e = .packet c packet oracle ∧ packet.type = .textSend ∧ c ≠ d ∧
      s.connectionRoom c = some r ∧ s.connectionRoom d = some r ∧ s.isOpen d = true ∧
      q.source = [c] ∧ q.packet.payload = packet.payload ∧ news = [q] := by
  -- of all that can be queued only the relay of a text has the type of a text
  cases hseen with
  | gone _ | accepted _ _ _ _ _ => cases hq
  | elsewhere _ _ _ _ hnews =>
    rcases hnews q hq with ⟨_, packet, _, type, value, _, hrefusal, rfl⟩
    exact absurd htype (response_not_text hrefusal).1
  | created _ _ _ _ _ _ _ _ _ =>
    rw [List.mem_singleton.mp hq] at htype
    simp [response] at htype
  | entered _ _ _ _ _ _ _ _ _ _ =>
    rcases List.mem_cons.mp hq with rfl | hq
    · simp [response] at htype
    · exact absurd htype (welcome_not_text hq).1
  | joined _ _ _ _ _ _ _ _ _ _ _ =>
    rw [List.mem_singleton.mp hq] at htype
    simp [joinNotice] at htype
  | @relayed c packet oracle r sender room q' exclude heq ho _ hc hd _ _ hrel _ =>
    by_cases hde : d = exclude
    · rw [if_pos hde] at hq
      cases hq
    rw [if_neg hde] at hq ⊢
    rw [List.mem_singleton] at hq
    subst hq
    rcases hrel.text_iff with ⟨_, hsource, htext⟩
    rcases htext htype with ⟨hsend, hexclude, hpayload⟩
    refine ⟨c, packet, oracle, r, heq, hsend, ?_, hc, hd, ho, hsource, hpayload, rfl⟩
    intro hcd
    exact hde (by rw [hexclude, hcd])
  | left _ _ _ _ _ _ _ _ _ _ _ =>
    rw [List.mem_singleton.mp hq] at htype
    simp [exitNotice] at htype

/-- Whoever a new packet takes back has just left. -/
theorem Seen.exited {d : ConnId} {news : List Queued} (hseen : Seen s e s' d news) {c : ConnId}
    (hc : ExitedOn c news) :
    s.connectionRoom c ≠ none ∧ s'.connectionRoom c = none := by
  rcases hc with ⟨q, hq, htype, hsource⟩
  -- of all that can be queued only the notice of a departure has the type of an exit
  cases hseen with
  | gone _ | accepted _ _ _ _ _ => cases hq
  | elsewhere _ _ _ _ hnews =>
    rcases hnews q hq with ⟨_, packet, _, type, value, _, hrefusal, rfl⟩
    exact absurd htype (response_not_text hrefusal).2
  | created _ _ _ _ _ _ _ _ _ =>
    rw [List.mem_singleton.mp hq] at htype
    simp [response] at htype
  | entered _ _ _ _ _ _ _ _ _ _ =>
    rcases List.mem_cons.mp hq with rfl | hq
    · simp [response] at htype
    · exact absurd htype (welcome_not_text hq).2
  | joined _ _ _ _ _ _ _ _ _ _ _ =>
    rw [List.mem_singleton.mp hq] at htype
    simp [joinNotice] at htype
  | relayed _ _ _ _ _ _ _ hrel _ =>
    split_ifs at hq
    · cases hq
    · rw [List.mem_singleton.mp hq] at htype
      exact absurd htype hrel.text_iff.1
  | left _ _ _ _ _ hroute hroute' _ _ _ _ =>
    rw [List.mem_singleton.mp hq] at hsource
    have hcp := List.mem_singleton.mp hsource
    rw [hcp]
    exact ⟨by rw [hroute]; exact Option.some_ne_none _, hroute'⟩

/-- Everybody in the meeting of `d` after a step is announced to `d`. -/
theorem Seen.announced (h : s.Consistent) (h' : s'.Consistent) (ht : s.Told) {d : ConnId}
    {news : List Queued} (hseen : Seen s e s' d news)
    (houtbox : s'.outbox d = s.outbox d ++ news) {c : ConnId} {r : RoomRef}
    (hopen : s'.isOpen d = true) (hd : s'.connectionRoom d = some r)
    (hc : s'.connectionRoom c = some r) (hcd : c ≠ d) : AnnouncedOn c (s'.outbox d) := by
  rw [houtbox]
  cases hseen with
  | gone hgone =>
    rw [hgone] at hopen
    cases hopen
  | accepted _ _ _ _ hlobby =>
    rw [hlobby] at hd
    cases hd
  | elsewhere ho _ hroute hheap _ =>
    rw [hroute] at hd
    have hc' := route_of_same_room h h' (hheap r hd) hc
    exact (ht.announced ho hd hc' hcd).append _
  | created _ _ _ _ _ hroute _ hparticipants _ =>
    -- nobody else is in a new meeting
    rw [hroute] at hd
    cases hd
    rcases (h'.route hc).2 with ⟨p, hp, rfl⟩
    rw [KeyedList.mem_def, hparticipants, List.mem_singleton] at hp
    exact absurd (congrArg Participant.connection hp) hcd
  | entered _ _ _ _ _ hroute _ _ _ _ =>
    rw [hroute] at hd
    cases hd
    rcases (h'.route hc).2 with ⟨p, hp, rfl⟩
    have hother : p ∈ s'.others r d := List.mem_filter.mpr ⟨hp, by simpa using hcd⟩
    refine ⟨partnerList (s'.others r d), ?_, Or.inr rfl, List.mem_map_of_mem hother⟩
    simp [welcome]
  | @joined c' packet _ r' _ _ ho _ _ _ _ hroute hroute' hperm _ =>
    rw [hroute'] at hd
    cases hd
    by_cases hcc : c = c'
    · refine ⟨joinNotice (joiner c' packet.userId), by simp, Or.inl rfl, ?_⟩
      exact List.mem_singleton.mpr hcc
    · exact (ht.announced ho hroute (route_of_perm h h' hperm hc hcc) hcd).append _
  | relayed _ ho _ _ hroute hrouted _ _ _ =>
    rw [hrouted] at hc hd
    exact (ht.announced ho hd hc hcd).append _
  | @left r' p _ ho _ _ _ _ _ hroute hroute' hperm _ =>
    rw [hroute'] at hd
    cases hd
    rcases (h'.route hc).2 with ⟨x, hx, rfl⟩
    have hmember : s.IsMember r x.connection :=
      ⟨x, hperm.mem_iff.mpr (List.mem_cons_of_mem _ hx), rfl⟩
    exact (ht.announced ho hroute (h.member hmember) hcd).append _

/-- A step keeps what the queues say. -/
theorem Effect.told (he : Effect config s e s') (h : s.Consistent) (ht : s.Told) : s'.Told where
  announced := by
    intro c d r hopen hd hc hcd
    rcases he.seen h d with ⟨news, hseen, houtbox⟩
    exact hseen.announced h (he.consistent h) ht houtbox hopen hd hc hcd
  exited := by
    intro c d hexit
    rcases he.seen h d with ⟨news, hseen, houtbox⟩
    rw [houtbox, exitedOn_append] at hexit
    rcases hexit with hold | hnew
    · exact he.gone (ht.exited hold)
    · rcases hseen.exited hnew with ⟨hroute, hlobby⟩
      rcases Option.ne_none_iff_exists'.mp hroute with ⟨r, hr⟩
      rcases he.lobby h hlobby with hbefore | hclosed
      · exact absurd hbefore hroute
      · exact ⟨he.accepted (h.accepted_of_route hr), hclosed, hlobby⟩
  ordered := by
    intro d
    rcases he.seen h d with ⟨news, hseen, houtbox⟩
    rw [houtbox]
    refine (ht.ordered d).append ?_
    intro q hq htype c hc
    -- a text comes from someone in the room now, whose entry was announced and whose exit was not
    rcases hseen.text hq htype with
      ⟨c', packet, oracle, r, _, _, hcd, hroute, hd, ho, hsource, _, hnews⟩
    rw [hsource, List.mem_singleton] at hc
    subst hc
    refine ⟨ht.announced ho hd hroute hcd, ?_⟩
    rw [exitedOn_append]
    rintro (hold | ⟨x, hx, hexit, _⟩)
    · rw [(ht.exited hold).2.2] at hroute
      cases hroute
    · rw [hnews, List.mem_singleton] at hx
      rw [hx, htype] at hexit
      cases hexit

end Told

/-! ## The order of the texts -/

section Order

variable {platform : Platform} {config : ServerConfig}

/-- A queue that holds no new text of `c`. -/
theorem textsFrom_eq_nil {c : ConnId} {qs : List Queued}
    (h : ∀ q ∈ qs, q.packet.type = .textRecv → q.source ≠ [c]) : textsFrom c qs = [] := by
  unfold textsFrom
  rw [List.filterMap_eq_nil_iff]
  intro q hq
  rw [if_neg]
  rintro ⟨htype, hsource⟩
  exact h q hq htype hsource

/-- What has been said stays, with what is said now after it. -/
theorem History.said_sublist (x : History) (s s' : State) (e : Event) (c : ConnId) :
    (x.said c).Sublist ((x.record s e s').said c) := by
  cases e with
  | packet c' p oracle =>
    simp only [History.record]
    split_ifs with h1 h2 h3
    · exact List.Sublist.refl _
    · exact List.Sublist.refl _
    · by_cases hc : c = c'
      · subst hc
        simp
      · simp [hc]
    · exact List.Sublist.refl _
  | accept | close _ | socketDown _ | wrote _ | expire _ => exact List.Sublist.refl _

/-- A text of a participant is recorded. -/
theorem History.said_of_text (x : History) {s s' : State} {c : ConnId} {packet : Packet}
    {oracle : Oracle} {r : RoomRef} (hroute : s.connectionRoom c = some r)
    (htype : packet.type = .textSend) :
    (x.record s (.packet c packet oracle) s').said c = x.said c ++ [packet.payload] := by
  simp [History.record, hroute, htype]

/-- The texts of one sender stand on every queue in the order they were sent. -/
theorem Effect.texts_sublist {y : State × History} {s' : State} {e : Event}
    (he : Effect config y.1 e s') (h : y.1.Consistent) {c d : ConnId}
    (hi : (textsFrom c (y.1.outbox d)).Sublist (y.2.said c)) :
    (textsFrom c (s'.outbox d)).Sublist ((y.2.record y.1 e s').said c) := by
  rcases he.seen h d with ⟨news, hseen, houtbox⟩
  rw [houtbox, textsFrom_append]
  by_cases htext : ∃ q ∈ news, q.packet.type = .textRecv ∧ q.source = [c]
  · rcases htext with ⟨q, hq, htype, hsource⟩
    rcases hseen.text hq htype with
      ⟨c', packet, oracle, r, heq, hsend, _, hroute, _, _, hsource', hpayload, hnews⟩
    have hcc : c' = c := by
      rw [hsource] at hsource'
      exact (List.cons.inj hsource').1.symm
    subst hcc
    subst heq
    rw [History.said_of_text y.2 hroute hsend, hnews, ← hpayload]
    refine hi.append ?_
    simp [textsFrom, htype, hsource]
  · have hnone : textsFrom c news = [] := by
      apply textsFrom_eq_nil
      intro q hq htype hsource
      exact htext ⟨q, hq, htype, hsource⟩
    rw [hnone, List.append_nil]
    exact hi.trans (History.said_sublist y.2 y.1 s' e c)

theorem reachable_told (hmax : 0 < config.maxParticipantsPerRoom) {y : State × History}
    (h : Reachable (observed platform config) y) :
    y.1.Told ∧ ∀ c d, (textsFrom c (y.1.outbox d)).Sublist (y.2.said c) := by
  refine h.invariant (I := fun y => y.1.Told ∧
    ∀ c d, (textsFrom c (y.1.outbox d)).Sublist (y.2.said c)) ?_ ?_
  · intro y hinit
    rw [observed_init hinit]
    have hempty : ∀ d, State.start.outbox d = [] := fun _ => rfl
    refine ⟨⟨?_, ?_, ?_⟩, ?_⟩
    · intro c d r hopen
      cases hopen
    · rintro c d ⟨q, hq, _⟩
      rw [hempty] at hq
      cases hq
    · intro d a q b heq
      rw [hempty] at heq
      simp at heq
    · intro c d
      rw [hempty]
      exact List.nil_sublist _
  · rintro y e y' hreach ⟨ht, hsaid⟩ hstep
    have hcons := observed_consistent hmax hreach
    rcases observed_effect hmax hcons hstep with ⟨he, hx⟩
    refine ⟨he.told hcons ht, ?_⟩
    intro c d
    rw [hx]
    exact he.texts_sublist hcons (hsaid c d)

/-- A text of a participant, in every consistent state: the handler returns,
and the text is queued to whoever a broadcast reaches. -/
theorem text_step (platform : Platform) (config : ServerConfig) {s : State} (h : s.Consistent)
    {m : ConnId} {r : RoomRef} {sender : Participant}
    {packet : Packet} (oracle : Oracle) (hroute : s.connectionRoom m = some r)
    (hopen : s.isOpen m = true) (hsender : (s.participants r).find m = some sender)
    (htype : packet.type = .textSend) (hvalid : Utf8.Valid packet.payload) :
    ∃ s', (system platform config).Step s (.packet m packet oracle) s' ∧
      ∀ d, s'.outbox d = s.outbox d ++ s.hearing r m (textNotice sender packet.payload) d := by
  have hkey : sender.connection = m := (KeyedList.find_eq_some.mp hsender).2
  have hnotice : textNotice sender packet.payload =
      ⟨{ packet with type := .textRecv, userId := sender.userId }, [m]⟩ := by
    rw [textNotice, hkey]
  refine ⟨(s.modifyRoom r fun _ => s.heap r).deliver
    (s.hearing r m (textNotice sender packet.payload)),
    ⟨⟨h.accepted_of_isOpen hopen, hopen⟩, ?_⟩, ?_⟩
  · simp only [Event.handle, dispatch, hroute, hnotice]
    exact handlePacket_of_relayed platform (h.route hroute).1 hsender (.text htype)
      (fun _ => hvalid)
  · intro d
    rw [deliver_outbox, modifyRoom_outbox]

/-- In every state of a run, a UTF-8 text of a participant is queued exactly
once for every other participant whose connection is open and for nobody else;
and on every queue the texts of a sender stand in the order they were sent,
after its announcement and before its exit. -/
theorem text_delivery (hmax : 2 ≤ config.maxParticipantsPerRoom) {y : State × History}
    (h : Reachable (observed platform config) y) :
    (∀ m r packet oracle, y.1.connectionRoom m = some r → y.1.isOpen m = true →
      packet.type = .textSend → Utf8.Valid packet.payload →
      ∃ sender, (y.1.participants r).find m = some sender ∧
        (∃ s', (system platform config).Step y.1 (.packet m packet oracle) s') ∧
        ∀ s', (system platform config).Step y.1 (.packet m packet oracle) s' →
          ∀ d, s'.outbox d = y.1.outbox d ++
            if y.1.IsMember r d ∧ d ≠ m ∧ y.1.isOpen d = true then
              [⟨{ type := .textRecv, userId := sender.userId, payload := packet.payload }, [m]⟩]
            else []) ∧
      (∀ c d, (textsFrom c (y.1.outbox d)).Sublist (y.2.said c)) ∧
      ∀ d, InOrder (y.1.outbox d) := by
  have hmax' : 0 < config.maxParticipantsPerRoom := by omega
  have hcons := observed_consistent hmax' h
  rcases reachable_told hmax' h with ⟨ht, hsaid⟩
  refine ⟨?_, hsaid, ht.ordered⟩
  intro m r packet oracle hroute hopen htype hvalid
  rcases hcons.exists_participant hroute with ⟨sender, hsender⟩
  have hkey : sender.connection = m := (KeyedList.find_eq_some.mp hsender).2
  rcases text_step platform config hcons oracle hroute hopen hsender
    htype hvalid with ⟨t, ht, houtbox⟩
  refine ⟨sender, hsender, ⟨t, ht⟩, ?_⟩
  intro s' hs' d
  -- the handler is a function of the state
  have hsame : s' = t := by
    have := hs'.2.symm.trans ht.2
    exact Except.ok.inj this
  rw [hsame, houtbox d]
  simp only [hearing, Hears, textNotice, hkey]

end Order

/-- User 8 joins the meeting of user 7 and says "hi". -/
def greeting : List Event :=
  [.accept, .accept,
    .packet 1 { type := .createMeeting, userId := 7 } .plain,
    .packet 2 { type := .joinMeeting, userId := 8, payload := writeBe32 123456 } .plain,
    .packet 2 { type := .textSend, userId := 8, payload := ascii "hi" } .plain]

/-- The first text stands in order on the queue of the creator, and a second
one can be sent. -/
theorem text_delivery_of_greeting :
    ∃ y, replay (observedNext reference {}) (State.start, History.start) greeting = some y ∧
      textsFrom 2 (y.1.outbox 1) = [ascii "hi"] ∧ InOrder (y.1.outbox 1) ∧
      ∃ s', (system reference {}).Step y.1
        (.packet 2 { type := .textSend, payload := ascii "ho" } .plain) s' := by
  have hfacts : (replay (observedNext reference {}) (State.start, History.start) greeting).map
      (fun y => (y.1.connectionRoom 2, y.1.isOpen 2, textsFrom 2 (y.1.outbox 1))) =
        some (some 0, true, [ascii "hi"]) := by decide +kernel
  rcases Option.map_eq_some_iff.mp hfacts with ⟨y, hy, hstate⟩
  rcases Prod.mk.inj hstate with ⟨hroute, hrest⟩
  rcases Prod.mk.inj hrest with ⟨hopen, htexts⟩
  rcases text_delivery (by decide) (observed_of_replay hy) with ⟨hstep, _, horder⟩
  rcases hstep 2 0 { type := .textSend, payload := ascii "ho" } .plain hroute hopen rfl
    (by decide) with ⟨_, _, hnext, _⟩
  exact ⟨y, hy, htexts, horder 1, hnext⟩

end CCMeeting
