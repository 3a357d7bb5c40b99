import CCMeeting.Server.Isolation

/-! # What the connections have said

Two history variables beside the server: the user id each connection entered
its meeting with, and the texts the server has accepted from it. No code reads
them.
-/

namespace CCMeeting

open Transition State

/-- What no code reads. -/
structure History where
  /-- the user id of the `CreateMeeting` or `JoinMeeting` that succeeded -/
  joinedAs : ConnId → Option UInt64
  /-- the texts accepted so far, in order -/
  said : ConnId → List ByteString

namespace History

/-- Nobody has entered a meeting or said anything. -/
def start : History where
  joinedAs := fun _ => none
  said := fun _ => []

/-- A packet of a lobby connection that is routed after it has entered a
meeting; a text of a routed connection is accepted. -/
def record (x : History) (s : State) (e : Event) (s' : State) : History :=
  match e with
  | .packet c p _ =>
    if s.connectionRoom c = none then
      if s'.connectionRoom c = none then x
      else { x with joinedAs := Function.update x.joinedAs c (some p.userId) }
    else if p.type = .textSend then
      { x with said := Function.update x.said c (x.said c ++ [p.payload]) }
    else x
  | _ => x

end History

/-- The server with its history. -/
def observed (platform : Platform) (config : ServerConfig) : System (State × History) Event :=
  (system platform config).observe (fun _ => History.start) History.record

/-- The step an event makes, with its history. -/
def observedNext (platform : Platform) (config : ServerConfig) (y : State × History) (e : Event) :
    Option (State × History) :=
  (next platform config y.1 e).map fun s' => (s', y.2.record y.1 e s')

theorem observedNext_step {platform : Platform} {config : ServerConfig} {y y' : State × History}
    {e : Event} (h : observedNext platform config y e = some y') :
    (observed platform config).Step y e y' := by
  cases hn : next platform config y.1 e with
  | none =>
    rw [observedNext, hn] at h
    cases h
  | some s' =>
    rw [observedNext, hn] at h
    cases h
    exact ⟨next_step platform config hn, rfl⟩

/-- What a replay with its history ends in is reachable. -/
theorem observed_of_replay {platform : Platform} {config : ServerConfig} {y : State × History}
    {es : List Event}
    (h : replay (observedNext platform config) (State.start, History.start) es = some y) :
    Reachable (observed platform config) y :=
  (Run.of_replay (fun _ _ _ => observedNext_step) h).reachable (.init ⟨rfl, rfl⟩)

section Entered

variable {platform : Platform} {config : ServerConfig}

/-- A step with its history, from a consistent state. -/
theorem observed_effect (hmax : 0 < config.maxParticipantsPerRoom) {y y' : State × History}
    {e : Event} (h : y.1.Consistent) (hstep : (observed platform config).Step y e y') :
    Effect config y.1 e y'.1 ∧ y'.2 = y.2.record y.1 e y'.1 :=
  ⟨step_effect hmax h hstep.1, hstep.2⟩

theorem observed_init {y : State × History} (h : (observed platform config).Init y) :
    y = (State.start, History.start) :=
  Prod.ext h.1 h.2

theorem observed_consistent (hmax : 0 < config.maxParticipantsPerRoom) {y : State × History}
    (h : Reachable (observed platform config) y) : y.1.Consistent :=
  reachable_consistent hmax h.of_observe

/-! ## Who has entered -/

/-- Only created connections have entered a meeting, and one that is back in
the lobby is not open any more; a routed connection has entered one. -/
structure Entered (s : State) (x : History) : Prop where
  accepted : ∀ {c}, x.joinedAs c ≠ none → s.Accepted c
  gone : ∀ {c}, x.joinedAs c ≠ none → s.connectionRoom c = none → s.isOpen c = false
  routed : ∀ {c r}, s.connectionRoom c = some r → x.joinedAs c ≠ none

/-- A connection that enters a meeting has not entered one before. -/
theorem Entered.joinedAs_eq_none {s : State} {x : History} (h : Entered s x) {c : ConnId}
    (hlobby : s.connectionRoom c = none) (hc : s.isOpen c = true) : x.joinedAs c = none := by
  by_contra hne
  rw [h.gone hne hlobby] at hc
  cases hc

/-- The ids recorded so far stay. -/
theorem Entered.record_joinedAs {s s' : State} {x : History} (h : Entered s x) {e : Event}
    (henabled : e.Enabled s) {c : ConnId} {u : UInt64} (hc : x.joinedAs c = some u) :
    (x.record s e s').joinedAs c = some u := by
  cases e with
  | packet d p oracle =>
    simp only [History.record]
    split_ifs with h1 h2 h3
    · exact hc
    · have hdc : c ≠ d := by
        rintro rfl
        rw [h.joinedAs_eq_none h1 henabled.2] at hc
        cases hc
      simpa [hdc] using hc
    · exact hc
    · exact hc
  | accept | close _ | socketDown _ | wrote _ | expire _ => exact hc

/-- The id a connection enters with is recorded. -/
theorem History.record_of_entry {s s' : State} (x : History) {c : ConnId} {p : Packet}
    {oracle : Oracle} (hlobby : s.connectionRoom c = none) (hroute : s'.connectionRoom c ≠ none) :
    (x.record s (.packet c p oracle) s').joinedAs =
      Function.update x.joinedAs c (some p.userId) := by
  simp only [History.record]
  rw [if_pos hlobby, if_neg hroute]

/-- A connection that is open after a step was open before it, or has just
been accepted. -/
theorem Effect.isOpen {s s' : State} {e : Event} (he : Effect config s e s') {d : ConnId}
    (hd : s'.isOpen d = true) :
    s.isOpen d = true ∨ (e = .accept ∧ d = s.nextConnectionId) := by
  cases he with
  | accept =>
    by_cases hdn : d = s.nextConnectionId
    · exact Or.inr ⟨rfl, hdn⟩
    · exact Or.inl (by simpa [hdn] using hd)
  | socketDown _ =>
    simp only [State.down_isOpen, Bool.and_eq_true] at hd
    exact Or.inl hd.1
  | wrote _ => exact Or.inl (by simpa using hd)
  | nothing _ | ignored _ _ _ _ => exact Or.inl hd
  | dropped _ _ _ _ =>
    simp only [State.shut_isOpen, Bool.and_eq_true] at hd
    exact Or.inl hd.1
  | refused _ _ _ | created _ _ _ _ _ _ | joined _ _ _ _ _ _ _ _ | relayed _ _ _ _ _ =>
    exact Or.inl (by simpa using hd)
  | left _ _ _ _ =>
    simp only [deliver_isOpen, depart_isOpen, Bool.and_eq_true] at hd
    exact Or.inl hd.1
  | ownerLeft _ _ _ _ =>
    simp only [State.shut_isOpen, teardown_isOpen, Bool.and_eq_true] at hd
    exact Or.inl hd.1.1
  | expired _ =>
    simp only [teardown_isOpen, Bool.and_eq_true] at hd
    exact Or.inl hd.1

/-- A connection back in the lobby after a step was there before it, or is not
open any more. -/
theorem Effect.lobby {s s' : State} {e : Event} (he : Effect config s e s') (h : s.Consistent)
    {d : ConnId} (hd : s'.connectionRoom d = none) :
    s.connectionRoom d = none ∨ s'.isOpen d = false := by
  cases he with
  | accept | socketDown _ | wrote _ | nothing _ | dropped _ _ _ _ | refused _ _ _
  | ignored _ _ _ _ | relayed _ _ _ _ _ => exact Or.inl hd
  | @created c _ _ _ _ _ hlobby _ _ _ _ =>
    by_cases hdc : d = c
    · exact Or.inl (hdc ▸ hlobby)
    · exact Or.inl (by simpa [State.found, hdc] using hd)
  | @joined c _ _ _ _ hlobby _ _ _ _ _ _ =>
    by_cases hdc : d = c
    · exact Or.inl (hdc ▸ hlobby)
    · exact Or.inl (by simpa [State.enroll, hdc] using hd)
  | @left c r p _ _ _ _ =>
    by_cases hdc : d = c
    · exact Or.inr (by simp [hdc])
    · exact Or.inl (by simpa [State.depart, hdc] using hd)
  | @ownerLeft c r p _ _ _ _ =>
    by_cases hdr : s.connectionRoom d = some r
    · exact Or.inr (by simp [(h.route hdr).2])
    · exact Or.inl (by simpa [State.modifyConnection, State.teardown, hdr] using hd)
  | @expired r _ =>
    by_cases hdr : s.connectionRoom d = some r
    · exact Or.inr (by simp [(h.route hdr).2])
    · exact Or.inl (by simpa [State.teardown, hdr] using hd)

/-- Whoever enters a meeting in a step does it with its own packet. -/
theorem Effect.entry {s s' : State} {e : Event} (he : Effect config s e s') {d : ConnId}
    (hlobby : s.connectionRoom d = none) (hd : s'.connectionRoom d ≠ none) :
    s.isOpen d = true ∧ ∃ p oracle, e = .packet d p oracle ∧ p.userId ≠ 0 := by
  cases he with
  | accept | socketDown _ | wrote _ | nothing _ | dropped _ _ _ _ | refused _ _ _
  | ignored _ _ _ _ | relayed _ _ _ _ _ => exact absurd hlobby hd
  | @created c packet oracle _ _ _ _ hopen huser _ _ =>
    by_cases hdc : d = c
    · subst hdc
      exact ⟨hopen, packet, oracle, rfl, huser⟩
    · exact absurd hlobby (by simpa [State.found, hdc] using hd)
  | @joined c packet oracle _ _ _ hopen _ huser _ _ _ =>
    by_cases hdc : d = c
    · subst hdc
      exact ⟨hopen, packet, oracle, rfl, huser⟩
    · exact absurd hlobby (by simpa [State.enroll, hdc] using hd)
  | @left c r p _ _ _ _ =>
    by_cases hdc : d = c
    · simp [State.depart, hdc] at hd
    · exact absurd hlobby (by simpa [State.depart, hdc] using hd)
  | @ownerLeft c r p _ _ _ _ =>
    have hdr : ¬s.connectionRoom d = some r := by simp [hlobby]
    exact absurd hlobby (by simpa [State.modifyConnection, State.teardown, hdr] using hd)
  | @expired r _ =>
    have hdr : ¬s.connectionRoom d = some r := by simp [hlobby]
    exact absurd hlobby (by simpa [State.teardown, hdr] using hd)

/-- Ids of connections only grow. -/
theorem Effect.accepted {s s' : State} {e : Event} (he : Effect config s e s') {d : ConnId}
    (hd : s.Accepted d) : s'.Accepted d := by
  cases he with
  | accept => exact ⟨hd.1, Nat.lt_succ_of_lt hd.2⟩
  | socketDown _ | wrote _ | nothing _ | dropped _ _ _ _ | refused _ _ _ | created _ _ _ _ _ _
  | joined _ _ _ _ _ _ _ _ | ignored _ _ _ _ | relayed _ _ _ _ _ | left _ _ _ _
  | ownerLeft _ _ _ _ | expired _ => exact hd

/-- What a step records has been recorded before, or is the id of the packet
its sender enters with. -/
theorem Effect.recorded {s s' : State} {e : Event} (he : Effect config s e s') (x : History)
    (d : ConnId) :
    (x.record s e s').joinedAs d = x.joinedAs d ∨
      (s.connectionRoom d = none ∧ s'.connectionRoom d ≠ none ∧ s.isOpen d = true ∧
        ∃ p oracle, e = .packet d p oracle ∧ p.userId ≠ 0 ∧
          (x.record s e s').joinedAs d = some p.userId) := by
  by_cases hentry : s.connectionRoom d = none ∧ s'.connectionRoom d ≠ none
  · obtain ⟨hlobby, hroute⟩ := hentry
    obtain ⟨hopen, p, oracle, rfl, huser⟩ := he.entry hlobby hroute
    refine Or.inr ⟨hlobby, hroute, hopen, p, oracle, rfl, huser, ?_⟩
    rw [History.record_of_entry x hlobby hroute, Function.update_self]
  · left
    cases e with
    | packet c p oracle =>
      simp only [History.record]
      split_ifs with h1 h2 h3
      · rfl
      · have hdc : d ≠ c := by
          rintro rfl
          exact hentry ⟨h1, h2⟩
        simp [hdc]
      · rfl
      · rfl
    | accept | close _ | socketDown _ | wrote _ | expire _ => rfl

theorem Effect.entered {s s' : State} {x : History} {e : Event} (he : Effect config s e s')
    (h : s.Consistent) (hx : Entered s x) : Entered s' (x.record s e s') where
  accepted := by
    intro c hc
    rcases he.recorded x c with heq | ⟨_, _, hopen, _⟩
    · rw [heq] at hc
      exact he.accepted (hx.accepted hc)
    · exact he.accepted (h.accepted_of_isOpen hopen)
  gone := by
    intro c hc hlobby
    rcases he.recorded x c with heq | ⟨_, hroute, _⟩
    swap
    · exact absurd hlobby hroute
    rw [heq] at hc
    -- in the lobby now: either it was there before, or this step closed it
    rcases he.lobby h hlobby with hbefore | hgone
    · have hclosed := hx.gone hc hbefore
      by_contra hopen
      rcases he.isOpen (by simpa using hopen) with ho | ⟨_, hnew⟩
      · rw [hclosed] at ho
        cases ho
      · exact absurd (hx.accepted hc).2 (by rw [hnew]; exact Nat.lt_irrefl _)
    · exact hgone
  routed := by
    intro c r hroute
    rcases he.recorded x c with heq | ⟨_, _, _, p, _, _, _, heq⟩
    · rw [heq]
      by_cases hlobby : s.connectionRoom c = none
      · obtain ⟨_, p, oracle, rfl, _⟩ := he.entry hlobby (by rw [hroute]; exact nofun)
        rw [History.record_of_entry x hlobby (by rw [hroute]; exact nofun),
          Function.update_self] at heq
        rw [← heq]
        exact nofun
      · obtain ⟨r', hr'⟩ := Option.ne_none_iff_exists'.mp hlobby
        exact hx.routed hr'
    · rw [heq]
      exact nofun

theorem observed_entered (hmax : 0 < config.maxParticipantsPerRoom) {y : State × History}
    (h : Reachable (observed platform config) y) : Entered y.1 y.2 := by
  refine h.invariant (I := fun y => Entered y.1 y.2) ?_ ?_
  · intro y hinit
    rw [observed_init hinit]
    exact ⟨fun hc => absurd rfl hc, fun hc => absurd rfl hc, fun hc => by cases hc⟩
  · intro y e y' hreach hinv hstep
    have hcons := observed_consistent hmax hreach
    obtain ⟨he, hx⟩ := observed_effect hmax hcons hstep
    rw [hx]
    exact he.entered hcons hinv

end Entered

end CCMeeting
