import CCMeeting.Client.MeetingProcess

/-! # Requests and the connections they are made on

A connection is opened for one request of the user. On it the request is
enqueued at most once and no other one is, as long as the completion of a
connect is dealt with before the next connect is posted. That is what the
timer of `end_meeting_session` does not wait for.
-/

namespace CCMeeting

open ByteString Transition

/-! ## The property and its condition -/

namespace MeetingProcess

/-- On a connection at most one request was enqueued, the one it was opened for. -/
structure Matched (p : MeetingProcess) : Prop where
  once : (p.enqueued.map (·.connection.number)).Nodup
  own : ∀ e ∈ p.enqueued, e.origin = e.connection ∧ e.message = e.connection.message

/-- A connect that has succeeded is the last one posted, unless there is
nothing to send for it. -/
def completesLast (p : MeetingProcess) : Event → Bool
  | .ui =>
    match p.ui.head? with
    | some (.connectFinished true r) =>
      p.widget.posted = some r || r.action = .joinMeeting && !roomNoAcceptable r.roomNo
    | _ => true
  | _ => true

end MeetingProcess

/-! ## What a slot posts -/

namespace MeetingWidget

/-- A slot that posts at most a disconnect, and may give up the pending request. -/
structure Quiet (w : MeetingWidget) (slot : Slot) : Prop where
  posted : slot.1.posted = w.posted
  maxParticipants : slot.1.createMaxParticipants = w.createMaxParticipants
  durationMinutes : slot.1.createDurationMinutes = w.createDurationMinutes
  pending : slot.1.pendingConnect = w.pendingConnect ∨ slot.1.pendingConnect = none
  commands : ∀ c ∈ slot.2, c = .disconnectFromHost

/-- A slot that posts the connect of a request. -/
structure Posts (r : ConnectRequest) (slot : Slot) : Prop where
  posted : slot.1.posted = some r
  maxParticipants : slot.1.createMaxParticipants = r.maxParticipants
  durationMinutes : slot.1.createDurationMinutes = r.durationMinutes
  commands : slot.2 = [.connectToServer r]

section

variable (w : MeetingWidget)

theorem Quiet.refl : w.Quiet (w, []) := ⟨rfl, rfl, rfl, Or.inl rfl, nofun⟩

theorem endMeetingSession_quiet : w.Quiet w.endMeetingSession := by
  unfold endMeetingSession
  dsimp only
  split_ifs
  · refine ⟨rfl, rfl, rfl, Or.inl rfl, ?_⟩
    intro c hc
    exact List.mem_singleton.mp hc
  · exact ⟨rfl, rfl, rfl, Or.inl rfl, nofun⟩

theorem closeMeetingWindow_quiet : w.Quiet w.closeMeetingWindow := by
  have hend := endMeetingSession_quiet { w with pendingConnect := none }
  unfold closeMeetingWindow
  dsimp only
  split_ifs
  · exact ⟨rfl, rfl, rfl, Or.inr rfl, nofun⟩
  · exact ⟨hend.posted, hend.maxParticipants, hend.durationMinutes,
      Or.inr (hend.pending.elim id id), hend.commands⟩

theorem dispatch_quiet (localUserId : Int64) (msg : Message) :
    w.Quiet (w.dispatch localUserId msg) := by
  unfold dispatch
  split_ifs
  · exact .refl w
  · exact w.closeMeetingWindow_quiet
  · exact ⟨rfl, rfl, rfl, Or.inl rfl, nofun⟩

/-- A request is kept for later or its connect is posted. -/
theorem requestConnectToServer_cases (r : ConnectRequest) :
    w.requestConnectToServer r = ({ w with pendingConnect := some r }, []) ∨
      Posts r (w.requestConnectToServer r) ∧
        (w.requestConnectToServer r).1.pendingConnect = w.pendingConnect := by
  unfold requestConnectToServer
  split_ifs
  · exact Or.inl rfl
  · exact Or.inr ⟨⟨rfl, rfl, rfl, rfl⟩, rfl⟩

/-- The pending request is left, or its connect is posted. -/
theorem flushPendingConnect_cases :
    w.Quiet w.flushPendingConnect ∨
      ∃ r, w.pendingConnect = some r ∧ Posts r w.flushPendingConnect ∧
        w.flushPendingConnect.1.pendingConnect = none := by
  unfold flushPendingConnect
  cases hpending : w.pendingConnect with
  | none => exact Or.inl (.refl w)
  | some r =>
    rcases requestConnectToServer_cases { w with pendingConnect := none } r with heq | hposts
    · left
      show w.Quiet (MeetingWidget.requestConnectToServer _ r)
      rw [heq]
      exact ⟨rfl, rfl, rfl, Or.inl hpending.symm, nofun⟩
    · exact Or.inr ⟨r, rfl, hposts⟩

end

end MeetingWidget

/-! ## Each request goes through once -/

/-- The connect a posted call reports on. -/
def UiEvent.finished? : UiEvent → Option ConnectRequest
  | connectFinished _ r => some r
  | _ => none

namespace MeetingProcess

/-- The connects in the queue of the controller. -/
def connects (p : MeetingProcess) : List ConnectRequest := p.commands.filterMap Command.connect?

/-- The numbers of the requests that have been posted, wherever they are: to be
connected, connected, to be enqueued, or enqueued. -/
def trail (p : MeetingProcess) : List ℕ :=
  p.connects.map (·.number) ++ (p.ui.filterMap UiEvent.finished?).map (·.number) ++
    (p.commands.filterMap Command.origin?).map (·.number) ++
    p.enqueued.map (·.connection.number)

/-- No request is posted twice, and the one that is pending has not been. -/
structure Numbered (p : MeetingProcess) : Prop where
  once : ∀ n, p.trail.count n ≤ 1
  unused : ∀ n, p.requests ≤ n → p.trail.count n = 0
  pending : ∀ r, p.widget.pendingConnect = some r →
    r.number < p.requests ∧ p.trail.count r.number = 0

theorem trail_run (p : MeetingProcess) (slot : Slot) (n : ℕ) :
    (p.run slot).trail.count n = p.trail.count n +
      ((slot.2.filterMap Command.connect?).map (·.number)).count n +
      ((slot.2.filterMap Command.origin?).map (·.number)).count n := by
  simp only [trail, connects, run, List.filterMap_append, List.map_append, List.count_append]
  omega

section Numbered

variable {p p' : MeetingProcess}

/-- A step that posts nothing new. -/
theorem Numbered.of_le (h : p.Numbered) (htrail : ∀ n, p'.trail.count n ≤ p.trail.count n)
    (hrequests : p'.requests = p.requests)
    (hpending : p'.widget.pendingConnect = p.widget.pendingConnect ∨
      p'.widget.pendingConnect = none) : p'.Numbered := by
  have hzero : ∀ n, p.trail.count n = 0 → p'.trail.count n = 0 :=
    fun n hn => Nat.le_zero.mp (hn ▸ htrail n)
  constructor
  · exact fun n => (htrail n).trans (h.once n)
  · intro n hn
    exact hzero n (h.unused n (hrequests ▸ hn))
  · intro r hr
    rcases hpending with heq | heq
    · rcases h.pending r (heq ▸ hr) with ⟨hlt, hcount⟩
      exact ⟨hrequests ▸ hlt, hzero _ hcount⟩
    · rw [heq] at hr
      cases hr

/-- A step that posts the connect of a request that has not been posted yet. -/
theorem Numbered.post (h : p.Numbered) {r : ConnectRequest}
    (htrail : ∀ n, p'.trail.count n = p.trail.count n + if r.number = n then 1 else 0)
    (hunused : p.trail.count r.number = 0) (hlt : r.number < p'.requests)
    (hrequests : p.requests ≤ p'.requests)
    (hpending : ∀ q, p'.widget.pendingConnect = some q →
      p.widget.pendingConnect = some q ∧ q.number ≠ r.number) : p'.Numbered := by
  constructor
  · intro n
    rw [htrail n]
    split_ifs with hn
    · rw [← hn, hunused]
    · exact h.once n
  · intro n hn
    have hne : r.number ≠ n := by omega
    rw [htrail n, if_neg hne]
    exact h.unused n (by omega)
  · intro q hq
    rcases hpending q hq with ⟨hq, hne⟩
    rcases h.pending q hq with ⟨hlt, hcount⟩
    rw [htrail, if_neg (Ne.symm hne)]
    exact ⟨by omega, hcount⟩

end Numbered

/-! ## In which order -/

/-- The last connect is that of the widget, and what is to be enqueued comes
before the next connect. -/
structure Ordered (p : MeetingProcess) : Prop where
  params : ∀ r, p.widget.posted = some r → p.widget.createMaxParticipants = r.maxParticipants ∧
    p.widget.createDurationMinutes = r.durationMinutes
  last : ∀ r, p.connects.getLast? = some r → p.widget.posted = some r
  socket : p.connects = [] → ∀ r, p.socket = some r → p.widget.posted = some r
  first : p.commands.Pairwise fun c c' => c.connect?.isSome → c'.origin? = none
  reply : ∀ c ∈ p.commands, ∀ r, c.origin? = some r →
    c.message? = some r.message ∧ ∀ s, p.socket = some s → s = r
  own : ∀ e ∈ p.enqueued, e.origin = e.connection ∧ e.message = e.connection.message

theorem fresh_ordered : fresh.Ordered where
  params _ h := nomatch h
  last _ h := nomatch h
  socket _ _ h := nomatch h
  first := .nil
  reply _ h := nomatch h
  own _ h := nomatch h

theorem fresh_numbered : fresh.Numbered where
  once _ := Nat.zero_le 1
  unused _ _ := rfl
  pending _ h := nomatch h

section Slots

variable {p : MeetingProcess} {slot : Slot}

theorem filterMap_of_quiet {α : Type} {cs : List Command}
    (hcs : ∀ c ∈ cs, c = .disconnectFromHost) {f : Command → Option α}
    (hf : f .disconnectFromHost = none) : cs.filterMap f = [] := by
  rw [List.filterMap_eq_nil_iff]
  intro c hc
  rw [hcs c hc]
  exact hf

theorem connects_run (p : MeetingProcess) (slot : Slot) :
    (p.run slot).connects = p.connects ++ slot.2.filterMap Command.connect? :=
  List.filterMap_append ..

/-- A command that is to enqueue nothing may be posted at any time. -/
theorem first_append {cs : List Command} (h : p.Ordered) (hcs : ∀ c ∈ cs, c.origin? = none) :
    (p.commands ++ cs).Pairwise fun c c' => c.connect?.isSome → c'.origin? = none := by
  rw [List.pairwise_append]
  refine ⟨h.first, ?_, fun _ _ c hc _ => hcs c hc⟩
  exact List.pairwise_of_forall_mem_list fun _ _ c hc _ => hcs c hc

theorem reply_append {cs : List Command} (h : p.Ordered) (hcs : ∀ c ∈ cs, c.origin? = none) :
    ∀ c ∈ p.commands ++ cs, ∀ r, c.origin? = some r →
      c.message? = some r.message ∧ ∀ s, p.socket = some s → s = r := by
  intro c hc r hr
  rcases List.mem_append.mp hc with hc | hc
  · exact h.reply c hc r hr
  · rw [hcs c hc] at hr
    cases hr

theorem Ordered.run_quiet (h : p.Ordered) (hslot : p.widget.Quiet slot) : (p.run slot).Ordered := by
  have hconnects : (p.run slot).connects = p.connects := by
    rw [connects_run, filterMap_of_quiet hslot.commands rfl, List.append_nil]
  have horigin : ∀ c ∈ slot.2, c.origin? = none := by
    intro c hc
    rw [hslot.commands c hc]
    rfl
  constructor
  · show ∀ r, slot.1.posted = some r → slot.1.createMaxParticipants = r.maxParticipants ∧
      slot.1.createDurationMinutes = r.durationMinutes
    rw [hslot.posted, hslot.maxParticipants, hslot.durationMinutes]
    exact h.params
  · show ∀ r, (p.run slot).connects.getLast? = some r → slot.1.posted = some r
    rw [hconnects, hslot.posted]
    exact h.last
  · show (p.run slot).connects = [] → ∀ r, p.socket = some r → slot.1.posted = some r
    rw [hconnects, hslot.posted]
    exact h.socket
  · exact first_append h horigin
  · exact reply_append h horigin
  · exact h.own

theorem Ordered.run_posts {r : ConnectRequest} (h : p.Ordered)
    (hslot : MeetingWidget.Posts r slot) : (p.run slot).Ordered := by
  have hconnects : (p.run slot).connects = p.connects ++ [r] := by
    rw [connects_run, hslot.commands]
    rfl
  have horigin : ∀ c ∈ slot.2, c.origin? = none := by
    intro c hc
    rw [hslot.commands] at hc
    rw [List.mem_singleton.mp hc]
    rfl
  constructor
  · intro q hq
    change slot.1.posted = some q at hq
    rw [hslot.posted] at hq
    cases hq
    exact ⟨hslot.maxParticipants, hslot.durationMinutes⟩
  · intro q hq
    rw [hconnects, List.getLast?_concat] at hq
    exact hslot.posted.trans hq
  · intro hnil
    rw [hconnects] at hnil
    exact absurd hnil (List.concat_ne_nil _ _)
  · exact first_append h horigin
  · exact reply_append h horigin
  · exact h.own

theorem Numbered.run_quiet (h : p.Numbered) (hslot : p.widget.Quiet slot) :
    (p.run slot).Numbered := by
  refine h.of_le ?_ rfl hslot.pending
  intro n
  rw [trail_run, filterMap_of_quiet hslot.commands rfl, filterMap_of_quiet hslot.commands rfl]
  exact Nat.le_refl _

/-- The connect of a request that was pending, or has just been made, is posted. -/
theorem Numbered.run_posts {r : ConnectRequest} (h : p.Numbered)
    (hslot : MeetingWidget.Posts r slot) (hlt : r.number < p.requests)
    (hunused : p.trail.count r.number = 0)
    (hpending : ∀ q, slot.1.pendingConnect = some q →
      p.widget.pendingConnect = some q ∧ q.number ≠ r.number) : (p.run slot).Numbered := by
  refine h.post ?_ hunused hlt (Nat.le_refl _) hpending
  intro n
  rw [trail_run, hslot.commands]
  show _ + [r.number].count n + [].count n = _
  rw [List.count_nil, List.count_singleton]
  simp

theorem flush_numbered {w : MeetingWidget} (h : p.Numbered) (hordered : p.Ordered)
    (hquiet : p.widget.Quiet (w, [])) :
    (p.run w.flushPendingConnect).Numbered ∧ (p.run w.flushPendingConnect).Ordered := by
  rcases w.flushPendingConnect_cases with hslot | ⟨r, hr, hslot, hnone⟩
  · have hslot' : p.widget.Quiet w.flushPendingConnect := by
      refine ⟨hslot.posted.trans hquiet.posted, hslot.maxParticipants.trans hquiet.maxParticipants,
        hslot.durationMinutes.trans hquiet.durationMinutes, ?_, hslot.commands⟩
      rcases hslot.pending with heq | heq
      · rw [heq]
        exact hquiet.pending
      · exact Or.inr heq
    exact ⟨h.run_quiet hslot', hordered.run_quiet hslot'⟩
  · have hpending : p.widget.pendingConnect = some r := by
      rcases hquiet.pending with heq | heq
      · exact heq.symm.trans hr
      · cases heq.symm.trans hr
    rcases h.pending r hpending with ⟨hlt, hunused⟩
    refine ⟨h.run_posts hslot hlt hunused ?_, hordered.run_posts hslot⟩
    intro q hq
    rw [hnone] at hq
    cases hq

end Slots

/-! ## The steps -/

/-- Every request is on its way once, and in order. -/
structure Linked (p : MeetingProcess) : Prop where
  numbered : p.Numbered
  ordered : p.Ordered

section Steps

variable {p p' : MeetingProcess}

theorem Linked.run_quiet {slot : Slot} (h : p.Linked) (hslot : p.widget.Quiet slot) :
    (p.run slot).Linked := ⟨h.numbered.run_quiet hslot, h.ordered.run_quiet hslot⟩

/-- The calls on their way to the UI thread have changed, or the IO thread has
closed the socket, but no completion has come or gone. -/
theorem Linked.of_queues (h : p.Linked) {ui : List UiEvent} {disconnects : ℕ}
    {socket : Option ConnectRequest}
    (hui : ui.filterMap UiEvent.finished? = p.ui.filterMap UiEvent.finished?)
    (hsocket : socket = p.socket ∨ socket = none) :
    Linked { p with ui, disconnects, socket } := by
  have hsome : ∀ r, socket = some r → p.socket = some r := by
    intro r hr
    rcases hsocket with heq | heq
    · exact heq.symm.trans hr
    · cases heq.symm.trans hr
  constructor
  · refine h.numbered.of_le ?_ rfl (Or.inl rfl)
    intro n
    simp only [trail, hui]
    exact Nat.le_refl _
  · refine ⟨h.ordered.params, h.ordered.last, ?_, h.ordered.first, ?_, h.ordered.own⟩
    · intro hnil r hr
      exact h.ordered.socket hnil r (hsome r hr)
    · intro c hc r hr
      rcases h.ordered.reply c hc r hr with ⟨hmessage, hsame⟩
      exact ⟨hmessage, fun s hs => hsame s (hsome s hs)⟩

/-- A request of the user has a number of its own. -/
theorem Linked.request {r : ConnectRequest} (h : p.Linked) (hr : r.number = p.requests) :
    (p.request r).Linked := by
  have hunused : p.trail.count r.number = 0 := h.numbered.unused _ (hr ▸ Nat.le_refl _)
  have hshown : Numbered { p with
      requests := p.requests + 1
      widget := { p.widget with visible := true } } := by
    refine ⟨h.numbered.once, ?_, ?_⟩
    · intro n hn
      exact h.numbered.unused n (Nat.le_of_succ_le hn)
    · intro q hq
      rcases h.numbered.pending q hq with ⟨hlt, hcount⟩
      exact ⟨Nat.lt_succ_of_lt hlt, hcount⟩
  have hordered : Ordered { p with
      requests := p.requests + 1
      widget := { p.widget with visible := true } } :=
    ⟨h.ordered.params, h.ordered.last, h.ordered.socket, h.ordered.first, h.ordered.reply,
      h.ordered.own⟩
  have hlt : r.number < p.requests + 1 := hr ▸ Nat.lt_succ_self _
  unfold MeetingProcess.request
  rcases MeetingWidget.requestConnectToServer_cases { p.widget with visible := true } r with
    heq | ⟨hslot, hpending⟩
  · -- kept for later
    rw [heq]
    have hcommands : p.commands ++ [] = p.commands := List.append_nil _
    constructor
    · constructor
      · intro n
        rw [trail_run]
        exact hshown.once n
      · intro n hn
        rw [trail_run]
        exact hshown.unused n hn
      · rintro q hq
        cases hq
        rw [trail_run]
        exact ⟨hlt, hunused⟩
    · unfold run
      simp only [hcommands]
      exact ⟨hordered.params, hordered.last, hordered.socket, hordered.first, hordered.reply,
        hordered.own⟩
  · refine ⟨hshown.run_posts hslot hlt hunused ?_, hordered.run_posts hslot⟩
    intro q hq
    rw [hpending] at hq
    refine ⟨hq, ?_⟩
    rw [hr]
    exact Nat.ne_of_lt (h.numbered.pending q hq).1

/-- What is posted when a connect has been completed. -/
theorem onConnectFinished_cases (w : MeetingWidget) (ok : Bool) (r : ConnectRequest) :
    w.Quiet (w.onConnectFinished ok r) ∨
      ok = true ∧ ¬(r.action = .joinMeeting ∧ roomNoAcceptable r.roomNo = false) ∧
        ∃ c, w.onConnectFinished ok r =
          ({ w with connecting := false, sessionActive := true }, [c]) ∧
          c.connect? = none ∧ c.origin? = some r ∧
          (w.createMaxParticipants = r.maxParticipants ∧
            w.createDurationMinutes = r.durationMinutes → c.message? = some r.message) := by
  -- a failed connection is only reported; a successful one issues the request, unless the room
  -- number is one the widget refuses after all
  cases ok with
  | false => exact Or.inl ⟨rfl, rfl, rfl, Or.inl rfl, nofun⟩
  | true =>
    unfold MeetingWidget.onConnectFinished
    cases haction : r.action with
    | createMeeting =>
      refine Or.inr ⟨rfl, nofun, _, rfl, rfl, rfl, ?_⟩
      rintro ⟨hmax, hduration⟩
      simp only [Command.message?, ConnectRequest.message, haction, hmax, hduration]
    | joinMeeting =>
      unfold MeetingWidget.onJoinMeetBtn
      by_cases hroom : roomNoAcceptable r.roomNo = true
      · rw [if_pos hroom]
        refine Or.inr ⟨rfl, ?_, _, rfl, rfl, rfl, ?_⟩
        · rintro ⟨_, hrefused⟩
          exact absurd (hrefused.symm.trans hroom) Bool.false_ne_true
        · intro _
          simp only [Command.message?, ConnectRequest.message, haction]
      · rw [if_neg hroom]
        exact Or.inl ⟨rfl, rfl, rfl, Or.inl rfl, nofun⟩

/-- A completion stands for its request until it is dealt with. -/
theorem trail_completion {ok : Bool} {r : ConnectRequest} {rest : List UiEvent}
    (hui : p.ui = .connectFinished ok r :: rest) (n : ℕ) :
    p.trail.count n = (trail { p with ui := rest }).count n + [r.number].count n := by
  have hfinished : p.ui.filterMap UiEvent.finished? = r :: rest.filterMap UiEvent.finished? := by
    rw [hui]
    rfl
  simp only [trail, connects, hfinished, List.map_cons, List.count_append, List.count_cons,
    List.count_nil]
  omega

/-- While the last connect posted is completed, none is left in the queue. -/
theorem connects_of_completion {ok : Bool} {r : ConnectRequest} {rest : List UiEvent}
    (h : p.Linked) (hui : p.ui = .connectFinished ok r :: rest)
    (hposted : p.widget.posted = some r) : p.connects = [] := by
  by_contra hne
  have hlast := h.ordered.last _ (List.getLast?_eq_some_getLast hne)
  have hmem : r ∈ p.connects := by
    cases hposted.symm.trans hlast
    exact List.getLast_mem hne
  have hconnect : 1 ≤ (p.connects.map (·.number)).count r.number :=
    List.one_le_count_iff.mpr (List.mem_map_of_mem hmem)
  have hcount := trail_completion hui r.number
  have hinner : 1 ≤ (trail { p with ui := rest }).count r.number := by
    refine hconnect.trans ?_
    simp only [trail, connects, List.count_append]
    omega
  have honce := h.numbered.once r.number
  rw [List.count_singleton_self] at hcount
  omega

/-- The completion of a connect. If a message follows, the connect is the last
one, so nothing is in front of the message and the socket is its own. -/
theorem Linked.complete {ok : Bool} {r : ConnectRequest} {rest : List UiEvent} (h : p.Linked)
    (hui : p.ui = .connectFinished ok r :: rest) (hlast : p.completesLast .ui = true) :
    (run { p with ui := rest } (p.widget.onConnectFinished ok r)).Linked := by
  have htrail := trail_completion hui
  rcases onConnectFinished_cases p.widget ok r with
    hslot | ⟨rfl, hsent, c, hslot, hconnect, horigin, hmessage⟩
  -- a quiet slot: the completion is taken off the queue and nothing is issued for it
  · have htaken : Linked { p with ui := rest } := by
      refine ⟨h.numbered.of_le ?_ rfl (Or.inl rfl), ⟨h.ordered.params, h.ordered.last,
        h.ordered.socket, h.ordered.first, h.ordered.reply, h.ordered.own⟩⟩
      intro n
      rw [htrail n]
      exact Nat.le_add_right _ _
    exact htaken.run_quiet hslot
  -- a request is issued: by `hlast` the completion is that of the request posted last, so no
  -- connect is queued behind it and the socket, if any, is its own
  · have hposted : p.widget.posted = some r := by
      simp only [completesLast, hui, List.head?_cons, Bool.or_eq_true, Bool.and_eq_true,
        decide_eq_true_eq, Bool.not_eq_true'] at hlast
      exact hlast.resolve_right hsent
    have hnone : p.connects = [] := connects_of_completion h hui hposted
    rw [hslot]
    constructor
    · refine h.numbered.of_le ?_ rfl (Or.inl rfl)
      intro n
      rw [trail_run, htrail n]
      simp only [List.filterMap_cons, List.filterMap_nil, hconnect, horigin, List.map_cons,
        List.map_nil, List.count_nil]
      omega
    · have hconnects : (run { p with ui := rest }
          ({ p.widget with connecting := false, sessionActive := true }, [c])).connects = [] := by
        rw [connects_run]
        show p.connects ++ _ = []
        rw [hnone, List.filterMap_cons, hconnect]
        rfl
      refine ⟨h.ordered.params, ?_, fun _ => h.ordered.socket hnone, ?_, ?_, h.ordered.own⟩
      · intro q hq
        rw [hconnects] at hq
        cases hq
      · show (p.commands ++ [c]).Pairwise _
        rw [List.pairwise_append]
        refine ⟨h.ordered.first, List.pairwise_singleton _ _, ?_⟩
        intro c' hc' _ _ hsome
        rw [List.filterMap_eq_nil_iff.mp hnone c' hc'] at hsome
        cases hsome
      · intro c' hc' q hq
        rcases List.mem_append.mp hc' with hc' | hc'
        · exact h.ordered.reply c' hc' q hq
        · rw [List.mem_singleton.mp hc'] at hq ⊢
          cases horigin.symm.trans hq
          refine ⟨hmessage (h.ordered.params r hposted), ?_⟩
          intro s hs
          exact Option.some.inj ((h.ordered.socket hnone s hs).symm.trans hposted)

/-- A connect is carried out. What is left behind it enqueues nothing before
the next connect. -/
theorem Linked.connect {ok : Bool} {r : ConnectRequest} {commands : List Command} (h : p.Linked)
    (hcommands : p.commands = .connectToServer r :: commands) :
    Linked { p with
      commands
      socket := if ok then some r else none
      ui := p.ui ++ [.connectFinished ok r] } := by
  have hfirst := h.ordered.first
  have hlast := h.ordered.last
  have hreply := h.ordered.reply
  have hconnects : p.connects = r :: commands.filterMap Command.connect? := by
    rw [connects, hcommands]
    rfl
  rw [hcommands] at hfirst hreply
  rw [hconnects] at hlast
  -- no command behind a connect enqueues a message, so none left can meet the new socket
  rcases List.pairwise_cons.mp hfirst with ⟨hhead, htail⟩
  constructor
  · refine h.numbered.of_le ?_ rfl (Or.inl rfl)
    intro n
    simp only [trail, hcommands, connects, List.filterMap_append, List.filterMap_cons,
      List.filterMap_nil, UiEvent.finished?, Command.connect?, Command.origin?, List.map_append,
      List.map_cons, List.map_nil, List.count_append, List.count_cons, List.count_nil]
    omega
  · refine ⟨h.ordered.params, ?_, ?_, htail, ?_, h.ordered.own⟩
    · intro q hq
      apply hlast
      rw [List.getLast?_cons, show (commands.filterMap Command.connect?).getLast? = some q from hq]
      rfl
    -- no connect is left, so the socket belongs to the request posted last
    · intro hnil s hs
      have hself : p.widget.posted = some r := by
        apply hlast
        rw [show commands.filterMap Command.connect? = [] from hnil]
        rfl
      cases ok with
      | true =>
        cases hs
        exact hself
      | false => cases hs
    · intro c hc q hq
      rw [hhead c hc rfl] at hq
      cases hq

/-- A call that does not connect is taken from the queue. -/
theorem Ordered.tail {c : Command} {commands : List Command} (h : p.Ordered)
    (hcommands : p.commands = c :: commands) (hc : c.connect? = none) :
    Ordered { p with commands } := by
  have hfirst := h.first
  have hreply := h.reply
  rw [hcommands] at hfirst hreply
  have hconnects : p.connects = commands.filterMap Command.connect? := by
    rw [connects, hcommands, List.filterMap_cons, hc]
  have hlast := h.last
  have hsocket := h.socket
  rw [hconnects] at hlast hsocket
  exact ⟨h.params, hlast, hsocket, (List.pairwise_cons.mp hfirst).2,
    fun c' hc' => hreply c' (List.mem_cons_of_mem c hc'), h.own⟩

/-- A message is enqueued on the connection of its own request, or on none. -/
theorem Linked.enqueue {c : Command} {commands : List Command} {origin : ConnectRequest}
    {message : Message} (h : p.Linked) (hcommands : p.commands = c :: commands)
    (hconnect : c.connect? = none) (horigin : c.origin? = some origin)
    (hmessage : c.message? = some message) :
    (enqueueSend { p with commands } origin message).Linked := by
  have htail := h.ordered.tail hcommands hconnect
  have hc : c ∈ p.commands := by
    rw [hcommands]
    exact List.mem_cons_self ..
  rcases h.ordered.reply c hc origin horigin with ⟨hown, hsame⟩
  have htrail : ∀ n, p.trail.count n =
      (trail { p with commands }).count n + [origin.number].count n := by
    intro n
    simp only [trail, connects, hcommands, List.filterMap_cons, hconnect, horigin, List.map_cons,
      List.count_append, List.count_cons, List.count_nil]
    omega
  -- without a connection `enqueueSend` drops the message; with one it is queued for the socket,
  -- which is the request's own by `hsame`
  rcases enqueueSend_cases { p with commands } origin message with
    heq | ⟨connection, hsocket, heq⟩
  · rw [heq]
    refine ⟨h.numbered.of_le ?_ rfl (Or.inl rfl), htail⟩
    intro n
    rw [htrail n]
    exact Nat.le_add_right _ _
  · have hconnection : connection = origin := hsame connection hsocket
    subst hconnection
    rw [heq]
    constructor
    · refine h.numbered.of_le ?_ rfl (Or.inl rfl)
      intro n
      rw [htrail n]
      simp only [trail, connects, List.map_append, List.map_cons, List.map_nil, List.count_append]
      omega
    · refine ⟨htail.params, htail.last, htail.socket, htail.first, htail.reply, ?_⟩
      intro e he
      rcases List.mem_append.mp he with he | he
      · exact h.ordered.own e he
      · cases List.mem_singleton.mp he
        exact ⟨rfl, Option.some.inj (hmessage.symm.trans hown)⟩

/-- A slot that only shows something else, or changes the meeting. -/
theorem Linked.of_widget {w : MeetingWidget} (h : p.Linked) (hquiet : p.widget.Quiet (w, [])) :
    Linked { p with widget := w } := by
  have hrun := h.run_quiet hquiet
  have hcommands : p.commands ++ [] = p.commands := List.append_nil _
  unfold run at hrun
  simp only [hcommands] at hrun
  exact hrun

/-- The UI thread takes the next call from its queue. -/
theorem Linked.handle {localUserId : Int64} {e : UiEvent} {rest : List UiEvent} (h : p.Linked)
    (hui : p.ui = e :: rest) (hlast : p.completesLast .ui = true) :
    (handle localUserId { p with ui := rest } e).Linked := by
  have hrest : e.finished? = none →
      p.ui.filterMap UiEvent.finished? = rest.filterMap UiEvent.finished? := by
    intro hnone
    rw [hui, List.filterMap_cons, hnone]
  have hposted : ∀ e', e.finished? = none → e'.finished? = none →
      (rest ++ [e']).filterMap UiEvent.finished? = p.ui.filterMap UiEvent.finished? := by
    intro e' hnone hnone'
    rw [hrest hnone, List.filterMap_append, List.filterMap_cons, hnone']
    exact List.append_nil _
  -- only a completion can issue a request; the other slots take their event off the queue and
  -- post no completion
  cases e with
  | connectFinished ok r => exact h.complete hui hlast
  | connectionDisconnected => exact h.of_queues (hposted _ rfl rfl) (Or.inl rfl)
  | networkDisconnected =>
    have htaken : Linked { p with ui := rest } := h.of_queues (hrest rfl).symm (Or.inl rfl)
    -- the widget lets go of the session and posts the connect it was holding back
    rcases flush_numbered htaken.numbered htaken.ordered
      (w := p.widget.release) ⟨rfl, rfl, rfl, Or.inl rfl, nofun⟩ with ⟨hnumbered, hordered⟩
    exact ⟨hnumbered, hordered⟩
  | emitIncoming connection msg =>
    simp only [MeetingProcess.handle]
    split_ifs
    · exact h.of_queues (hposted _ rfl rfl) (Or.inl rfl)
    · exact h.of_queues (hrest rfl).symm (Or.inl rfl)
  | messageReady connection msg =>
    have htaken : Linked { p with ui := rest } := h.of_queues (hrest rfl).symm (Or.inl rfl)
    exact htaken.run_quiet (MeetingWidget.dispatch_quiet _ _ msg)

/-- A call that neither connects nor enqueues. -/
theorem Linked.disconnect {commands : List Command} (h : p.Linked)
    (hcommands : p.commands = .disconnectFromHost :: commands) :
    Linked { p with commands, disconnects := p.disconnects + 1 } := by
  have htail := h.ordered.tail hcommands rfl
  refine ⟨h.numbered.of_le ?_ rfl (Or.inl rfl), ⟨htail.params, htail.last, htail.socket,
    htail.first, htail.reply, htail.own⟩⟩
  intro n
  simp only [trail, connects, hcommands, List.filterMap_cons, Command.connect?, Command.origin?]
  exact Nat.le_refl _

theorem Linked.step {localUserId : Int64} {e : Event} (h : p.Linked)
    (hlast : p.completesLast e = true) (hstep : Step localUserId p e p') : p'.Linked := by
  -- a call at the end of the queue that completes no connect
  have hposted : ∀ e' : UiEvent, e'.finished? = none →
      (p.ui ++ [e']).filterMap UiEvent.finished? = p.ui.filterMap UiEvent.finished? := by
    intro e' hnone
    rw [List.filterMap_append, List.filterMap_cons, hnone]
    exact List.append_nil _
  cases hstep with
  | request _ hr => exact h.request hr
  | closeWindow => exact h.run_quiet p.widget.closeMeetingWindow_quiet
  | editSettings allowRecord allowShare flags =>
    exact h.of_widget ⟨rfl, rfl, rfl, Or.inl rfl, nofun⟩
  | dismissWarning =>
    have hdismissed := h.of_widget (w := { p.widget with warnings := p.widget.warnings - 1 })
      ⟨rfl, rfl, rfl, Or.inl rfl, nofun⟩
    exact hdismissed.run_quiet (MeetingWidget.closeMeetingWindow_quiet _)
  | timer =>
    have htimer := h.of_widget (w := { p.widget with timers := p.widget.timers - 1 })
      ⟨rfl, rfl, rfl, Or.inl rfl, nofun⟩
    unfold MeetingWidget.onTimeout
    split_ifs
    · rcases flush_numbered htimer.numbered htimer.ordered
        (w := MeetingWidget.release { p.widget with timers := p.widget.timers - 1 })
        ⟨rfl, rfl, rfl, Or.inl rfl, nofun⟩ with ⟨hnumbered, hordered⟩
      exact ⟨hnumbered, hordered⟩
    · exact htimer.run_quiet (.refl _)
  | ui hui => exact h.handle hui hlast
  | connect hcommands => exact h.connect hcommands
  | enqueue hcommands hconnect horigin hmessage =>
    exact h.enqueue hcommands hconnect horigin hmessage
  | disconnect hcommands => exact h.disconnect hcommands
  | io => exact h.of_queues (hposted _ rfl) (Or.inr rfl)
  | receive _ => exact h.of_queues (hposted _ rfl) (Or.inl rfl)

/-- The conclusion is drawn from the invariant. -/
theorem Linked.matched (h : p.Linked) : p.Matched where
  once := by
    rw [List.nodup_iff_count_le_one]
    intro n
    refine Nat.le_trans ?_ (h.numbered.once n)
    simp only [trail, List.count_append]
    omega
  own := h.ordered.own

end Steps

end MeetingProcess

open MeetingProcess

/-- While every connect is completed before the next one is posted, what is
enqueued on a connection is the request it was opened for, once. -/
theorem request_matches_connection {localUserId : Int64} {p : MeetingProcess}
    (hreach : Reachable ((MeetingProcess.system localUserId).restrict
      fun p e => p.completesLast e = true) p) : p.Matched := by
  have hlinked : p.Linked := by
    refine hreach.invariant ?_ ?_
    · rintro p rfl
      exact ⟨fresh_numbered, fresh_ordered⟩
    · intro p e p' _ hinv hstep
      exact hinv.step hstep.1 (.of_next hstep.2)
  exact hlinked.matched

/-- One meeting is created, left, and another one joined. -/
theorem request_matches_connection_of_two :
    ∃ p : MeetingProcess, p.enqueued.map (fun e => (e.connection.number, e.message)) =
      [(0, .createMeeting 5 60), (1, .joinMeeting (ascii "123"))] ∧ p.Matched := by
  have hrun : (replay (guarded (fun p e => p.completesLast e = true) (MeetingProcess.next 1)) .fresh
      [createsMeeting, .controller true, .ui, .controller true, .closeWindow, .controller true, .io,
        .ui, .ui, joinsMeeting, .controller true, .ui, .controller true]).any
      (fun p => p.enqueued.map (fun e => (e.connection.number, e.message)) =
        [(0, .createMeeting 5 60), (1, .joinMeeting (ascii "123"))]) = true := by
    decide +kernel
  rcases (Option.any_eq_true _ _).mp hrun with ⟨p, hrun, htest⟩
  exact ⟨p, of_decide_eq_true htest, request_matches_connection (reachable_of_guarded hrun)⟩

/-- A slow connect is given up and completed after the timer has let the next
one be posted: its `CreateMeeting` goes out on the connection of the other. -/
theorem abandoned_request_sent :
    ¬∀ p, Reachable (MeetingProcess.system 1) p → p.Matched := by
  intro hall
  have hrun : (replay (guarded (fun _ _ => True) (MeetingProcess.next 1)) .fresh
      [createsMeeting, .closeWindow, .timer, joinsMeeting, .controller true, .ui, .controller true,
        .io, .controller true, .controller true]).any
      (fun p => ∃ e ∈ p.enqueued, e.origin.number = 0 ∧ e.connection.number = 1) = true := by
    decide +kernel
  rcases (Option.any_eq_true _ _).mp hrun with ⟨p, hrun, htest⟩
  rcases of_decide_eq_true htest with ⟨e, he, horigin, hconnection⟩
  have hsame := ((hall p (reachable_of_guarded hrun).of_restrict).own e he).1
  rw [hsame, hconnection] at horigin
  cases horigin

end CCMeeting
