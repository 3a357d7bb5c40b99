import CCMeeting.Server.History

/-! # A step as one connection sees it

Whatever a step does, one connection only learns of it through what is put on
its queue. `Seen` lists what that can be, together with what has become of the
room of the connection; what holds of queues is proved by cases on it.
-/

namespace CCMeeting

open ByteString Transition State

/-- What a step is to connection `d`, with the packets it puts on its queue. -/
inductive Seen (s : State) (e : Event) (s' : State) (d : ConnId) : List Queued → Prop where
  /-- `d` is not open after the step -/
  | gone : s'.isOpen d = false → Seen s e s' d []
  /-- `d` is new -/
  | accepted : e = .accept → s'.isOpen d = true → s.outbox d = [] → s.connectionRoom d = none →
      s'.connectionRoom d = none → Seen s e s' d []
  /-- something happens elsewhere, or a request of `d` is refused -/
  | elsewhere {news : List Queued} : s.isOpen d = true → s'.isOpen d = true →
      s'.connectionRoom d = s.connectionRoom d →
      (∀ r, s.connectionRoom d = some r → s'.heap r = s.heap r) →
      (∀ q ∈ news, s.connectionRoom d = none ∧ ∃ packet oracle type value,
        e = .packet d packet oracle ∧ Refusal packet type value ∧ q = response type value) →
      Seen s e s' d news
  /-- `d` creates a meeting -/
  | created {packet : Packet} {oracle : Oracle} {r : RoomRef} : e = .packet d packet oracle →
      packet.type = .createMeeting → s.isOpen d = true → s'.isOpen d = true →
      s.connectionRoom d = none → s'.connectionRoom d = some r → packet.userId ≠ 0 →
      (s'.participants r).toList = [creator d packet.userId] →
      (s'.heap r).settings = kRoomSettingsDefault →
      Seen s e s' d [response .createMeetingResponse (s'.heap r).roomId]
  /-- `d` joins a meeting -/
  | entered {packet : Packet} {oracle : Oracle} {r : RoomRef} : e = .packet d packet oracle →
      packet.type = .joinMeeting → s.isOpen d = true → s'.isOpen d = true →
      s.connectionRoom d = none → s'.connectionRoom d = some r → packet.userId ≠ 0 →
      (s'.heap r).roomId = readBe32 packet.payload →
      (s'.participants r).toList.Perm (joiner d packet.userId :: (s.participants r).toList) →
      (s'.heap r).settings = (s.heap r).settings →
      Seen s e s' d (response .joinMeetingResponse (s'.heap r).roomId :: s'.welcome r d)
  /-- another connection joins the meeting `d` is in -/
  | joined {c : ConnId} {packet : Packet} {oracle : Oracle} {r : RoomRef} :
      e = .packet c packet oracle → packet.type = .joinMeeting →
      s.isOpen d = true → s'.isOpen d = true → s.connectionRoom c = none →
      s'.connectionRoom c = some r → c ≠ d → s.connectionRoom d = some r →
      s'.connectionRoom d = some r →
      (s'.participants r).toList.Perm (joiner c packet.userId :: (s.participants r).toList) →
      (s'.heap r).settings = (s.heap r).settings →
      Seen s e s' d [joinNotice (joiner c packet.userId)]
  /-- a packet of the meeting `d` is in is relayed -/
  | relayed {c : ConnId} {packet : Packet} {oracle : Oracle} {r : RoomRef}
      {sender : Participant} {room : Room} {q : Queued} {exclude : ConnId} :
      e = .packet c packet oracle → s.isOpen d = true → s'.isOpen d = true →
      s.connectionRoom c = some r → s.connectionRoom d = some r →
      s'.connectionRoom = s.connectionRoom →
      (s.participants r).find c = some sender →
      Relayed (s.heap r) c sender packet room q exclude → s'.heap r = room →
      Seen s e s' d (if d = exclude then [] else [q])
  /-- another participant, not the owner, leaves the meeting `d` is in -/
  | left {r : RoomRef} {p : Participant} : e = .close p.connection → s.isOpen d = true →
      s'.isOpen d = true → p.connection ≠ d → p.isOwner = false →
      s.connectionRoom p.connection = some r → s'.connectionRoom p.connection = none →
      s.connectionRoom d = some r → s'.connectionRoom d = some r →
      (s.participants r).toList.Perm (p :: (s'.participants r).toList) →
      (s'.heap r).settings = (s.heap r).settings →
      Seen s e s' d [exitNotice p]

section Seen

variable {config : ServerConfig} {s s' : State} {e : Event}

/-- A step that leaves the room and the queue of `d` alone. -/
theorem Seen.of_same {d : ConnId} (hopen : s'.isOpen d = true → s.isOpen d = true)
    (hroute : s'.connectionRoom d = s.connectionRoom d)
    (hheap : ∀ r, s.connectionRoom d = some r → s'.heap r = s.heap r)
    (houtbox : s'.outbox d = s.outbox d) :
    ∃ news, Seen s e s' d news ∧ s'.outbox d = s.outbox d ++ news := by
  refine ⟨[], ?_, by simp [houtbox]⟩
  cases hopen' : s'.isOpen d with
  | false => exact .gone hopen'
  | true => exact .elsewhere (hopen hopen') hopen' hroute hheap nofun

/-- A step after which `d` is not open puts nothing on its queue. -/
theorem Seen.of_gone {d : ConnId} (hopen : s'.isOpen d = false)
    (houtbox : s'.outbox d = s.outbox d) :
    ∃ news, Seen s e s' d news ∧ s'.outbox d = s.outbox d ++ news :=
  ⟨[], .gone hopen, by simp [houtbox]⟩

/-- A broadcast, to one connection. -/
theorem State.hearing_of_not {r : RoomRef} {exclude d : ConnId} {q : Queued}
    (h : ¬s.Hears r exclude d) : s.hearing r exclude q d = [] := if_neg h

theorem State.hearing_of {r : RoomRef} {exclude d : ConnId} {q : Queued}
    (h : s.Hears r exclude d) : s.hearing r exclude q d = [q] := if_pos h

/-- A room somebody is routed to is none of those to come. -/
theorem State.Consistent.route_ne_nextRef (h : s.Consistent) {d : ConnId} {r : RoomRef}
    (hd : s.connectionRoom d = some r) : r ≠ s.nextRef := by
  rintro rfl
  have hclosed := (h.route hd).1
  rw [h.freshRoom (Nat.le_refl _)] at hclosed
  cases hclosed

/-- A join, to every connection. -/
theorem Seen.of_joined (h : s.Consistent) {c : ConnId} {packet : Packet} {oracle : Oracle}
    {r : RoomRef} (htype : packet.type = .joinMeeting) (hlobby : s.connectionRoom c = none)
    (hopen : s.isOpen c = true) (huser : packet.userId ≠ 0)
    (hget : s.getRoom (readBe32 packet.payload) = some r) (d : ConnId)
    (hs' : s' = (s.enroll r c packet.userId oracle).deliver
      ((s.enroll r c packet.userId oracle).joinDelivery r (readBe32 packet.payload)
        (joiner c packet.userId))) :
    ∃ news, Seen s (.packet c packet oracle) s' d news ∧ s'.outbox d = s.outbox d ++ news := by
  have hnew := h.find_of_lobby hlobby r
  have hperm := enroll_perm packet.userId oracle hnew
  have hid : (s'.heap r).roomId = readBe32 packet.payload := by
    rw [hs']
    simpa [State.enroll, joinedRoom] using (h.getRoom_eq hget).2
  have hsettings : (s'.heap r).settings = (s.heap r).settings := by
    rw [hs']
    simp [State.enroll, joinedRoom]
  have hopen' : ∀ x, s'.isOpen x = s.isOpen x := by
    intro x
    rw [hs']
    simp
  have hroute : ∀ x, x ≠ c → s'.connectionRoom x = s.connectionRoom x := by
    intro x hx
    rw [hs']
    simp [State.enroll, hx]
  have hself : s'.connectionRoom c = some r := by
    rw [hs']
    simp [State.enroll]
  by_cases hdc : d = c
  · -- the newcomer is not told about itself
    subst hdc
    refine ⟨_, .entered rfl htype hopen ((hopen' d).trans hopen) hlobby hself huser hid
      (by rw [hs']; exact hperm) hsettings, ?_⟩
    have hnot : ¬(s.enroll r d packet.userId oracle).Hears r d d := fun hh => hh.2.1 rfl
    rw [hid, hs']
    simp [joinDelivery, State.hearing_of_not hnot, welcome, others]
  by_cases hd : s.connectionRoom d = some r ∧ s.isOpen d = true
  · refine ⟨_, .joined rfl htype hd.2 ((hopen' d).trans hd.2) hlobby hself (Ne.symm hdc) hd.1
      ((hroute d hdc).trans hd.1) (by rw [hs']; exact hperm) hsettings, ?_⟩
    have hhears : (s.enroll r c packet.userId oracle).Hears r c d :=
      ⟨(isMember_enroll hnew).mpr (Or.inr (h.route hd.1).2), hdc, hd.2⟩
    rw [hs']
    simp [joinDelivery, State.hearing_of hhears, only_of_ne hdc]
  have houtbox : s'.outbox d = s.outbox d := by
    have hnot : ¬(s.enroll r c packet.userId oracle).Hears r c d := by
      rintro ⟨hm, _, ho⟩
      rcases (isMember_enroll hnew).mp hm with hm | hm
      · exact hdc hm
      · exact hd ⟨h.member hm, ho⟩
    rw [hs']
    simp [joinDelivery, State.hearing_of_not hnot, only_of_ne hdc]
  cases ho : s.isOpen d with
  | false => exact Seen.of_gone ((hopen' d).trans ho) houtbox
  | true =>
    refine Seen.of_same (fun _ => ho) (hroute d hdc) ?_ houtbox
    intro r' hr'
    have hrr : r' ≠ r := by
      rintro rfl
      exact hd ⟨hr', ho⟩
    rw [hs']
    simp [State.enroll, hrr]

/-- A relayed packet, to every connection. -/
theorem Seen.of_relayed (h : s.Consistent) {c : ConnId} {packet : Packet} {oracle : Oracle}
    {r : RoomRef} {sender : Participant} {room : Room} {q : Queued} {exclude : ConnId}
    (hroute : s.connectionRoom c = some r) (hsender : (s.participants r).find c = some sender)
    (hrel : Relayed (s.heap r) c sender packet room q exclude) (d : ConnId)
    (hs' : s' = (s.modifyRoom r fun _ => room).deliver (s.hearing r exclude q)) :
    ∃ news, Seen s (.packet c packet oracle) s' d news ∧ s'.outbox d = s.outbox d ++ news := by
  have hopen' : s'.isOpen d = s.isOpen d := by
    rw [hs']
    simp
  have houtbox : s'.outbox d = s.outbox d ++ s.hearing r exclude q d := by
    rw [hs']
    simp
  have hrouted : s'.connectionRoom = s.connectionRoom := by
    rw [hs']
    rfl
  -- those who are in the room hear it, the excluded one apart; for the others nothing changed
  by_cases hd : s.connectionRoom d = some r ∧ s.isOpen d = true
  · refine ⟨_, .relayed rfl hd.2 (hopen'.trans hd.2) hroute hd.1 hrouted hsender hrel ?_, ?_⟩
    · rw [hs']
      simp [modifyRoom]
    · have hhearing : s.hearing r exclude q d = if d = exclude then [] else [q] := by
        have hmember := (h.route hd.1).2
        by_cases hde : d = exclude
        · rw [if_pos hde]
          exact State.hearing_of_not fun hh => hh.2.1 hde
        · rw [if_neg hde]
          exact State.hearing_of ⟨hmember, hde, hd.2⟩
      rw [houtbox, hhearing]
  have hnot : ¬s.Hears r exclude d := fun hh => hd ⟨h.member hh.1, hh.2.2⟩
  rw [State.hearing_of_not hnot, List.append_nil] at houtbox
  cases ho : s.isOpen d with
  | false => exact Seen.of_gone (hopen'.trans ho) houtbox
  | true =>
    refine Seen.of_same (fun _ => ho) (by rw [hrouted]) ?_ houtbox
    intro r' hr'
    have hrr : r' ≠ r := by
      rintro rfl
      exact hd ⟨hr', ho⟩
    rw [hs']
    simp [modifyRoom, hrr]

/-- A participant that leaves, to every connection. -/
theorem Seen.of_left (h : s.Consistent) {c : ConnId} {r : RoomRef} {p : Participant}
    (hroute : s.connectionRoom c = some r) (hp : (s.participants r).find c = some p)
    (howner : p.isOwner = false) (d : ConnId)
    (hs' : s' = (s.depart r c).deliver ((s.depart r c).hearing r 0 (exitNotice p))) :
    ∃ news, Seen s (.close c) s' d news ∧ s'.outbox d = s.outbox d ++ news := by
  rcases KeyedList.find_eq_some.mp hp with ⟨hmem, hkey⟩
  have hopen' : s'.isOpen d = (s.isOpen d && decide (d ≠ c)) := by
    rw [hs']
    simp
  have houtbox : s'.outbox d = s.outbox d ++ (s.depart r c).hearing r 0 (exitNotice p) d := by
    rw [hs']
    simp
  have hrouted : ∀ x, x ≠ c → s'.connectionRoom x = s.connectionRoom x := by
    intro x hx
    rw [hs']
    simp [State.depart, hx]
  -- those who stay in the room hear the exit; for the others nothing changed
  by_cases hd : d ≠ c ∧ s.connectionRoom d = some r ∧ s.isOpen d = true
  · rcases hd with ⟨hdc, hdr, ho⟩
    subst hkey
    refine ⟨[exitNotice p], .left rfl ho ?_ (Ne.symm hdc) howner hroute ?_ hdr
      ((hrouted d hdc).trans hdr) ?_ ?_, ?_⟩
    · simp [hopen', ho, hdc]
    · rw [hs']
      simp [State.depart]
    · have hlist : (s'.participants r).toList =
          ((s.participants r).erase p.connection).toList := by
        rw [hs', deliver_participants, depart_participants]
      rw [hlist]
      exact KeyedList.perm_cons_erase hmem
    · rw [hs']
      simp [State.depart]
    · have hd0 : d ≠ 0 := Nat.ne_of_gt (h.accepted_of_isOpen ho).1
      have hhears : (s.depart r p.connection).Hears r 0 d :=
        ⟨isMember_depart.mpr ⟨(h.route hdr).2, hdc⟩, hd0, by simp [ho, hdc]⟩
      rw [houtbox, State.hearing_of hhears]
  have hnot : ¬(s.depart r c).Hears r 0 d := by
    rintro ⟨hm, _, ho⟩
    rcases isMember_depart.mp hm with ⟨hm, hdc⟩
    simp only [depart_isOpen, Bool.and_eq_true] at ho
    exact hd ⟨hdc, h.member hm, ho.1⟩
  rw [State.hearing_of_not hnot, List.append_nil] at houtbox
  cases ho : s'.isOpen d with
  | false => exact Seen.of_gone ho houtbox
  | true =>
    rw [hopen'] at ho
    simp only [Bool.and_eq_true, decide_eq_true_eq] at ho
    refine Seen.of_same (fun _ => ho.1) (hrouted d ho.2) ?_ houtbox
    intro r' hr'
    have hrr : r' ≠ r := by
      rintro rfl
      exact hd ⟨ho.2, hr', ho.1⟩
    rw [hs']
    simp [State.depart, hrr]

/-- A room that closes, to every connection. -/
theorem Seen.of_teardown (h : s.Consistent) {r : RoomRef} (d : ConnId)
    (hopen' : s'.isOpen d = true → s.isOpen d = true ∧ ¬s.IsMember r d)
    (hrouted : s.connectionRoom d ≠ some r → s'.connectionRoom d = s.connectionRoom d)
    (hheap : ∀ r', r' ≠ r → s'.heap r' = s.heap r') (houtbox : s'.outbox d = s.outbox d) :
    ∃ news, Seen s e s' d news ∧ s'.outbox d = s.outbox d ++ news := by
  cases ho : s'.isOpen d with
  | false => exact Seen.of_gone ho houtbox
  | true =>
    rcases hopen' ho with ⟨hold, hmember⟩
    have hr : s.connectionRoom d ≠ some r := fun hr => hmember (h.route hr).2
    refine Seen.of_same (fun _ => hold) (hrouted hr) ?_ houtbox
    intro r' hr'
    apply hheap
    rintro rfl
    exact hr hr'

/-- Who joins gets into the room named. -/
theorem Effect.getRoom_of_entry {c : ConnId} {packet : Packet} {oracle : Oracle} {r : RoomRef}
    (he : Effect config s (.packet c packet oracle) s') (htype : packet.type = .joinMeeting)
    (hlobby : s.connectionRoom c = none) (hroute : s'.connectionRoom c = some r) :
    s.getRoom (readBe32 packet.payload) = some r := by
  cases he with
  | nothing _ | dropped _ _ _ _ | refused _ _ _ =>
    have hsame : s.connectionRoom c = some r := hroute
    rw [hlobby] at hsame
    cases hsame
  | created hother _ _ _ _ _ =>
    rw [htype] at hother
    cases hother
  | joined _ _ _ _ _ hget _ _ =>
    rw [hget]
    simpa [State.enroll] using hroute
  | ignored hrouted _ _ _ | relayed hrouted _ _ _ _ =>
    rw [hlobby] at hrouted
    cases hrouted

/-- What every effect is to every connection. -/
theorem Effect.seen (he : Effect config s e s') (h : s.Consistent) (d : ConnId) :
    ∃ news, Seen s e s' d news ∧ s'.outbox d = s.outbox d ++ news := by
  -- one case per effect: what it queues for `d`, and whether `d` moved
  cases he with
  | accept =>
    by_cases hd : d = s.nextConnectionId
    · have hfresh : ¬s.Accepted d := fun ha => Nat.lt_irrefl _ (hd ▸ ha.2)
      rcases h.freshConnection hfresh with ⟨hunused, hlobby⟩
      have houtbox : s.outbox d = [] := by
        rw [outbox, hunused]
        rfl
      refine ⟨[], .accepted rfl ?_ houtbox hlobby hlobby, ?_⟩
      · simp [hd]
      · simp [hd, ← houtbox]
    · refine Seen.of_same ?_ rfl (fun _ _ => rfl) ?_
      · simp [hd]
      · simp [hd]
  | socketDown _ =>
    refine Seen.of_same ?_ rfl (fun _ _ => rfl) (by simp)
    simp only [State.down_isOpen, Bool.and_eq_true]
    exact fun ho => ho.1
  | wrote _ => exact Seen.of_same (by simp) rfl (fun _ _ => rfl) (by simp)
  | nothing _ | ignored _ _ _ _ => exact Seen.of_same id rfl (fun _ _ => rfl) rfl
  | dropped _ _ _ _ =>
    refine Seen.of_same ?_ rfl (fun _ _ => rfl) (by simp)
    simp only [State.shut_isOpen, Bool.and_eq_true]
    exact fun ho => ho.1
  | @refused c packet oracle type value hlobby hopen hrefusal =>
    by_cases hd : d = c
    · subst hd
      refine ⟨[response type value], .elsewhere hopen (by simp [hopen]) rfl (fun _ _ => rfl) ?_,
        by simp⟩
      intro q hq
      rw [List.mem_singleton] at hq
      exact ⟨hlobby, packet, oracle, type, value, rfl, hrefusal, hq⟩
    · exact Seen.of_same (by simp) rfl (fun _ _ => rfl) (by simp [only_of_ne hd])
  | @created c packet oracle roomId next htype hlobby hopen huser _ _ =>
    by_cases hd : d = c
    · subst hd
      refine ⟨_, .created rfl htype hopen (by simpa using hopen) hlobby
        (r := s.nextRef) (by simp [State.found]) huser ?_ ?_, ?_⟩
      · rw [deliver_participants, found_participants]
      · simp [State.found]
      · rw [deliver_outbox, found_outbox, only_self]
        simp [State.found]
    · refine Seen.of_same (by simp) (by simp [State.found, hd]) ?_ (by simp [only_of_ne hd])
      intro r hr
      simp [State.found, h.route_ne_nextRef hr]
  | joined htype hlobby hopen _ huser hget _ _ =>
    exact Seen.of_joined h htype hlobby hopen huser hget d rfl
  | relayed hroute _ hsender hrel _ => exact Seen.of_relayed h hroute hsender hrel d rfl
  | left hroute _ hp howner => exact Seen.of_left h hroute hp howner d rfl
  | @ownerLeft c r p hroute _ _ _ =>
    refine Seen.of_teardown h (r := r) d ?_ ?_ ?_ (by simp)
    · simp only [State.shut_isOpen, teardown_isOpen, Bool.and_eq_true, Bool.not_eq_true',
        decide_eq_false_iff_not]
      exact fun ho => ho.1
    · intro hr
      simp [State.modifyConnection, State.teardown, hr]
    · intro r' hrr
      simp [State.modifyConnection, State.teardown, hrr]
  | @expired r _ =>
    refine Seen.of_teardown h (r := r) d ?_ ?_ ?_ (by simp)
    · simp only [teardown_isOpen, Bool.and_eq_true, Bool.not_eq_true', decide_eq_false_iff_not]
      exact id
    · intro hr
      simp [State.teardown, hr]
    · intro r' hrr
      simp [State.teardown, hrr]

end Seen

end CCMeeting
