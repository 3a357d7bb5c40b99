import CCMeeting.Client.MeetingProcess

/-! # Sessions and the connections their messages come from

A message changes the meeting of the session its connection was opened for and
no other, as long as no message is on its way when a session ends. Nothing in
the code sees to that: on the way from the IO thread to the widget a message
does not say which connection it came from.
-/

namespace CCMeeting

open ByteString Transition

/-! ## The property and its condition -/

/-- The messages that the roster, the switches or the meeting depend on. -/
def Message.concernsMeeting : Message → Bool
  | createMeetingResponse .. | joinMeetingResponse .. | remoteHostClosedError | otherNetError
  | partnerJoin .. | partnerExit .. | partnerJoin2 .. | userProfileNotify ..
  | roomSettingsNotify .. => true
  | _ => false

/-- The connection of a message on its way to the widget. -/
def UiEvent.concerns : UiEvent → Option ConnectRequest
  | emitIncoming connection msg | messageReady connection msg =>
    if msg.concernsMeeting then some connection else none
  | _ => none

/-- The roster, the switches and the flags of the meeting. -/
def MeetingWidget.inMeeting (w : MeetingWidget) : Bool × Bool × Finset Int64 × UInt32 × Bool :=
  (w.meeting.createmeet, w.meeting.joinmeet, w.meeting.partners, w.meeting.flags,
    w.meeting.isHost)

namespace MeetingProcess

/-- The connections of the messages on their way to the widget. -/
def incoming (ui : List UiEvent) : List ConnectRequest := ui.filterMap UiEvent.concerns

/-- A message of another connection than that of the session changes nothing,
and what is no message changes the meeting only when no session is left, or
when the user edits the switches. -/
structure Isolated (localUserId : Int64) (p : MeetingProcess) : Prop where
  foreign : ∀ connection msg rest, p.ui = .messageReady connection msg :: rest →
    p.widget.session ≠ some connection → p.widget.dispatch localUserId msg = (p.widget, [])
  others : ∀ e p', p.next localUserId e = some p' →
    p'.widget.inMeeting ≠ p.widget.inMeeting →
      (e = .ui ∧ ∃ connection msg rest, p.ui = .messageReady connection msg :: rest) ∨
        p'.widget.session = none ∨
        ∃ allowRecord allowShare, e = .editSettings allowRecord allowShare

/-- Messages are received on the connection of the session, and none is on its
way when the session is ended. -/
def noneUnderWay (p : MeetingProcess) : Event → Bool
  | .receive msg => !msg.concernsMeeting || p.socket = p.widget.session
  | .closeWindow | .dismissWarning => (incoming p.ui).isEmpty
  | .ui =>
    match p.ui with
    | .messageReady _ msg :: rest => !MeetingWidget.closes msg || (incoming rest).isEmpty
    | _ => true
  | _ => true

end MeetingProcess

/-! ## What a slot does to the session -/

namespace MeetingWidget

/-- A session is not begun while the last one is ending, or while the user has
no window. -/
structure Settled (w : MeetingWidget) : Prop where
  ending : w.meeting.sessionEnding = true → w.session = none
  pending : w.pendingConnect ≠ none → w.session = none ∧ (w.visible = true ∨ 0 < w.warnings)
  hidden : w.visible = false → w.warnings = 0 → w.session = none

theorem fresh_settled : fresh.Settled := ⟨fun _ => rfl, fun h => absurd rfl h, fun _ _ => rfl⟩

section

variable {w : MeetingWidget} {localUserId : Int64} {msg : Message}

/-- Closing the window leaves no session and nothing pending. -/
theorem closeMeetingWindow_settled (h : w.meeting.sessionEnding = true → w.session = none) :
    w.closeMeetingWindow.1.Settled ∧ w.closeMeetingWindow.1.session = none := by
  have hsession : w.closeMeetingWindow.1.session = none := by
    unfold closeMeetingWindow
    by_cases hending : w.meeting.sessionEnding = true
    · simp only [if_pos hending]
      exact h hending
    · simp only [if_neg hending, endMeetingSession]
      split_ifs <;> rfl
  have hpending : w.closeMeetingWindow.1.pendingConnect = none := by
    unfold closeMeetingWindow
    by_cases hending : w.meeting.sessionEnding = true
    · simp only [if_pos hending]
    · simp only [if_neg hending, endMeetingSession]
      split_ifs <;> rfl
  exact ⟨⟨fun _ => hsession, fun hne => absurd hpending hne, fun _ _ => hsession⟩, hsession⟩

/-- A session begins where there is none, and only then is there a new one. -/
theorem requestConnectToServer_settled {r : ConnectRequest} (h : w.Settled)
    (hsession : w.session = none) (hshown : w.visible = true ∨ 0 < w.warnings)
    (hpending : w.pendingConnect = none) : (w.requestConnectToServer r).1.Settled := by
  unfold requestConnectToServer
  split_ifs with hbusy
  · exact ⟨h.ending, fun _ => ⟨hsession, hshown⟩, h.hidden⟩
  · rw [Bool.or_eq_true, not_or] at hbusy
    refine ⟨fun hending => absurd hending hbusy.1, fun hne => absurd hpending hne, ?_⟩
    intro hhidden hnone
    rcases hshown with hvisible | hwarned
    · exact absurd (hhidden.symm.trans hvisible) Bool.false_ne_true
    · exact absurd hnone (Nat.pos_iff_ne_zero.mp hwarned)

theorem flushPendingConnect_settled (h : w.Settled) : w.flushPendingConnect.1.Settled := by
  unfold flushPendingConnect
  cases hpending : w.pendingConnect with
  | none => exact h
  | some r =>
    rcases h.pending (by simp [hpending]) with ⟨hsession, hshown⟩
    have hcleared : Settled { w with pendingConnect := none } :=
      ⟨h.ending, fun hne => absurd rfl hne, h.hidden⟩
    exact requestConnectToServer_settled hcleared hsession hshown rfl

/-- The pending request is flushed into no session. -/
theorem flushPendingConnect_session (h : w.Settled) :
    w.flushPendingConnect.1.session = w.session ∨ w.session = none := by
  unfold flushPendingConnect
  cases hpending : w.pendingConnect with
  | none => exact Or.inl rfl
  | some r => exact Or.inr (h.pending (by simp [hpending])).1

theorem release_settled (h : w.Settled) : w.release.Settled :=
  ⟨nofun, h.pending, h.hidden⟩

theorem onConnectFinished_settled {ok : Bool} {r : ConnectRequest} (h : w.Settled) :
    (w.onConnectFinished ok r).1.Settled := by
  cases ok with
  | true => exact ⟨h.ending, h.pending, h.hidden⟩
  | false =>
    refine ⟨h.ending, ?_, fun _ hzero => absurd hzero (Nat.succ_ne_zero _)⟩
    intro hne
    exact ⟨(h.pending hne).1, Or.inr (Nat.succ_pos _)⟩

theorem onConnectFinished_session {ok : Bool} {r : ConnectRequest} :
    (w.onConnectFinished ok r).1.session = w.session := by
  cases ok <;> rfl

/-- Only at a message that closes the window a slot ends the session. -/
theorem dispatch_sessionEnding_of_open {c : Client} (h : closes msg = false) :
    (c.dispatch localUserId msg).sessionEnding = c.sessionEnding := by
  cases msg with
  | createMeetingResponse roomNo =>
    have hne : roomNo.toInt32 ≠ 0 := of_decide_eq_false h
    show (c.onCreateMeetingResult localUserId roomNo.toInt32).sessionEnding = _
    rw [Client.onCreateMeetingResult, if_pos hne]
    rfl
  | joinMeetingResponse responseCode =>
    have hcode : ¬(responseCode = 0 ∨ responseCode = -1) := by
      rw [← closes_joinMeetingResponse, h]
      exact Bool.false_ne_true
    rcases not_or.mp hcode with ⟨hzero, hfull⟩
    show (c.onJoinMeetingResult localUserId responseCode).sessionEnding = _
    rw [Client.onJoinMeetingResult, if_neg hzero, if_neg hfull]
    split_ifs <;> rfl
  | remoteHostClosedError | otherNetError => cases h
  | partnerJoin2 userIds => exact c.onPartnersSnapshot_sessionEnding userIds
  | _ => rfl

theorem dispatch_settled (h : w.Settled) : (w.dispatch localUserId msg).1.Settled := by
  unfold dispatch
  split_ifs with hcloses
  · exact h
  · exact (closeMeetingWindow_settled h.ending).1
  · refine ⟨?_, h.pending, h.hidden⟩
    intro hending
    apply h.ending
    rwa [dispatch_sessionEnding_of_open (Bool.not_eq_true _ ▸ hcloses)] at hending

theorem dispatch_session (h : closes msg = false) :
    (w.dispatch localUserId msg).1.session = w.session := by
  rw [dispatch, if_neg (by simp [h])]

/-- A text or a camera that is closed concerns no meeting. -/
theorem dispatch_of_not_concerns (h : msg.concernsMeeting = false) :
    w.dispatch localUserId msg = (w, []) := by
  cases msg with
  | createMeetingResponse | joinMeetingResponse | remoteHostClosedError | otherNetError
  | partnerJoin | partnerExit | partnerJoin2 | userProfileNotify | roomSettingsNotify => cases h
  | _ => rfl

/-! What is no message leaves the meeting as it is, but for its end. -/

theorem closeMeetingWindow_inMeeting :
    w.closeMeetingWindow.1.inMeeting = w.inMeeting ∨ w.closeMeetingWindow.1.session = none := by
  unfold closeMeetingWindow
  by_cases hending : w.meeting.sessionEnding = true
  · left
    simp only [if_pos hending]
    rfl
  · right
    simp only [if_neg hending, endMeetingSession]
    split_ifs <;> rfl

theorem requestConnectToServer_inMeeting (r : ConnectRequest) :
    (w.requestConnectToServer r).1.inMeeting = w.inMeeting := by
  unfold requestConnectToServer
  split_ifs <;> rfl

theorem flushPendingConnect_inMeeting : w.flushPendingConnect.1.inMeeting = w.inMeeting := by
  unfold flushPendingConnect
  cases w.pendingConnect with
  | none => rfl
  | some r => exact requestConnectToServer_inMeeting r

theorem onTimeout_inMeeting : w.onTimeout.1.inMeeting = w.inMeeting := by
  unfold onTimeout
  split_ifs
  · exact flushPendingConnect_inMeeting
  · rfl

theorem onConnectFinished_inMeeting (ok : Bool) (r : ConnectRequest) :
    (w.onConnectFinished ok r).1.inMeeting = w.inMeeting := by
  cases ok <;> rfl

end

end MeetingWidget

namespace MeetingProcess

variable {localUserId : Int64} {p p' : MeetingProcess} {e : Event}

theorem enqueueSend_widget (origin : ConnectRequest) (message : Message) :
    (p.enqueueSend origin message).widget = p.widget := by
  rcases p.enqueueSend_cases origin message with heq | ⟨connection, _, heq⟩ <;> rw [heq]

/-- What changes the meeting is a message, the end of a session, or the user. -/
theorem changes_of_step (hstep : Step localUserId p e p')
    (hchange : p'.widget.inMeeting ≠ p.widget.inMeeting) :
    (e = .ui ∧ ∃ connection msg rest, p.ui = .messageReady connection msg :: rest) ∨
      p'.widget.session = none ∨
      ∃ allowRecord allowShare, e = .editSettings allowRecord allowShare := by
  cases hstep with
  | request _ _ => exact absurd (MeetingWidget.requestConnectToServer_inMeeting _) hchange
  | closeWindow | dismissWarning =>
    exact Or.inr (Or.inl (MeetingWidget.closeMeetingWindow_inMeeting.resolve_left hchange))
  | editSettings allowRecord allowShare flags => exact Or.inr (Or.inr ⟨_, _, rfl⟩)
  | timer => exact absurd MeetingWidget.onTimeout_inMeeting hchange
  | @ui e rest hui =>
    cases e with
    | connectFinished ok r => exact absurd (MeetingWidget.onConnectFinished_inMeeting ok r) hchange
    | connectionDisconnected => exact absurd rfl hchange
    | networkDisconnected => exact absurd MeetingWidget.flushPendingConnect_inMeeting hchange
    | emitIncoming connection msg =>
      simp only [handle] at hchange
      split_ifs at hchange <;> exact absurd rfl hchange
    | messageReady connection msg => exact Or.inl ⟨rfl, connection, msg, rest, hui⟩
  | enqueue _ _ _ _ =>
    exact absurd (congrArg MeetingWidget.inMeeting (enqueueSend_widget _ _)) hchange
  | connect _ | disconnect _ | io | receive _ => exact absurd rfl hchange

/-! ## The messages on their way -/

/-- Every message on its way to the widget is of the connection of the session. -/
structure InSession (p : MeetingProcess) : Prop where
  settled : p.widget.Settled
  tagged : ∀ e ∈ p.ui, ∀ connection, e.concerns = some connection →
    p.widget.session = some connection

theorem fresh_inSession : fresh.InSession := ⟨MeetingWidget.fresh_settled, nofun⟩

/-- A slot runs: it keeps the session, or no message is on its way. -/
theorem InSession.run {slot : Slot} {rest : List UiEvent} (h : p.InSession)
    (hrest : ∀ e ∈ rest, e ∈ p.ui) (hsettled : slot.1.Settled)
    (hsession : slot.1.session = p.widget.session ∨ p.widget.session = none ∨
      incoming rest = []) : (run { p with ui := rest } slot).InSession := by
  refine ⟨hsettled, ?_⟩
  intro e he connection hconnection
  have he' : e ∈ rest := he
  have htagged := h.tagged e (hrest e he') connection hconnection
  rcases hsession with hsame | hnone | hincoming
  · exact hsame.trans htagged
  · cases hnone.symm.trans htagged
  · rw [incoming, List.filterMap_eq_nil_iff] at hincoming
    cases (hincoming e he').symm.trans hconnection

/-- The queue of the UI thread has changed, with no message of another connection. -/
theorem InSession.of_ui (h : p.InSession) {ui : List UiEvent} {commands : List Command}
    {disconnects requests : ℕ} {socket : Option ConnectRequest} {enqueued : List Enqueued}
    (hui : ∀ e ∈ ui, ∀ connection, e.concerns = some connection →
      e ∈ p.ui ∨ p.widget.session = some connection) :
    InSession { p with ui, commands, disconnects, socket, requests, enqueued } := by
  refine ⟨h.settled, ?_⟩
  intro e he connection hconnection
  rcases hui e he connection hconnection with hold | hsession
  · exact h.tagged e hold connection hconnection
  · exact hsession

/-- A request of the user begins a session where there is none. -/
theorem InSession.request {r : ConnectRequest} (h : p.InSession) (hrest : p.atRest) :
    (p.request r).InSession := by
  have hnone : p.widget.session = none := h.settled.hidden hrest.1 hrest.2
  have hpending : p.widget.pendingConnect = none := by
    by_contra hne
    rcases (h.settled.pending hne).2 with hvisible | hwarned
    · exact absurd (hrest.1.symm.trans hvisible) Bool.false_ne_true
    · exact absurd hrest.2 (Nat.pos_iff_ne_zero.mp hwarned)
  have hshown : MeetingWidget.Settled { p.widget with visible := true } :=
    ⟨h.settled.ending, fun hne => absurd hpending hne, nofun⟩
  have hsettled :=
    MeetingWidget.requestConnectToServer_settled (r := r) hshown hnone (Or.inl rfl) hpending
  have hrun := h.run (fun _ he => he) hsettled (Or.inr (Or.inl hnone))
  exact ⟨hrun.settled, hrun.tagged⟩

/-- The window is closed when no message is on its way. -/
theorem InSession.close {w : MeetingWidget} (h : p.InSession)
    (hw : w.meeting.sessionEnding = true → w.session = none) (hincoming : incoming p.ui = []) :
    (MeetingProcess.run p w.closeMeetingWindow).InSession :=
  h.run (fun _ he => he) (MeetingWidget.closeMeetingWindow_settled hw).1
    (Or.inr (Or.inr hincoming))

theorem InSession.handle {e : UiEvent} {rest : List UiEvent} (h : p.InSession)
    (hui : p.ui = e :: rest) (hquiet : p.noneUnderWay .ui = true) :
    (MeetingProcess.handle localUserId { p with ui := rest } e).InSession := by
  have hrest : ∀ e' ∈ rest, e' ∈ p.ui := by
    intro e' he'
    rw [hui]
    exact List.mem_cons_of_mem e he'
  have hhead : e ∈ p.ui := by
    rw [hui]
    exact List.mem_cons_self ..
  -- a call posted in place of the one taken, with its connection
  have hposted : ∀ e', (∀ connection, e'.concerns = some connection →
      p.widget.session = some connection) → InSession { p with ui := rest ++ [e'] } := by
    intro e' he'
    refine h.of_ui ?_
    intro x hx connection hconnection
    rcases List.mem_append.mp hx with hx | hx
    · exact Or.inl (hrest x hx)
    · rw [List.mem_singleton.mp hx] at hconnection
      exact Or.inr (he' connection hconnection)
  cases e with
  | connectFinished ok r =>
    exact h.run hrest (MeetingWidget.onConnectFinished_settled h.settled)
      (Or.inl MeetingWidget.onConnectFinished_session)
  | connectionDisconnected => exact hposted _ nofun
  | networkDisconnected =>
    have hreleased := MeetingWidget.release_settled h.settled
    refine h.run hrest (MeetingWidget.flushPendingConnect_settled hreleased) ?_
    rcases MeetingWidget.flushPendingConnect_session hreleased with hsame | hnone
    · exact Or.inl hsame
    · exact Or.inr (Or.inl hnone)
  | emitIncoming connection msg =>
    simp only [MeetingProcess.handle]
    split_ifs
    · exact hposted _ (h.tagged (.emitIncoming connection msg) hhead)
    · exact h.of_ui fun x hx _ _ => Or.inl (hrest x hx)
  | messageReady connection msg =>
    refine h.run hrest (MeetingWidget.dispatch_settled h.settled) ?_
    cases hcloses : MeetingWidget.closes msg with
    | false => exact Or.inl (MeetingWidget.dispatch_session hcloses)
    | true =>
      simp only [noneUnderWay, hui, hcloses, Bool.not_true, Bool.false_or,
        List.isEmpty_iff] at hquiet
      exact Or.inr (Or.inr hquiet)

theorem InSession.step (h : p.InSession) (hquiet : p.noneUnderWay e = true)
    (hstep : Step localUserId p e p') : p'.InSession := by
  have hkept : ∀ x ∈ p.ui, ∀ connection, x.concerns = some connection →
      x ∈ p.ui ∨ p.widget.session = some connection := fun _ hx _ _ => Or.inl hx
  -- a call at the end of the queue, of the connection of the session or of none
  have hposted : ∀ e', (∀ connection, e'.concerns = some connection →
      p.widget.session = some connection) → ∀ x ∈ p.ui ++ [e'], ∀ connection,
        x.concerns = some connection → x ∈ p.ui ∨ p.widget.session = some connection := by
    intro e' he' x hx connection hconnection
    rcases List.mem_append.mp hx with hx | hx
    · exact Or.inl hx
    · rw [List.mem_singleton.mp hx] at hconnection
      exact Or.inr (he' connection hconnection)
  cases hstep with
  | request hrest _ => exact h.request hrest
  | closeWindow => exact h.close h.settled.ending (List.isEmpty_iff.mp hquiet)
  | editSettings allowRecord allowShare flags =>
    exact ⟨⟨h.settled.ending, h.settled.pending, h.settled.hidden⟩, h.tagged⟩
  | dismissWarning => exact h.close h.settled.ending (List.isEmpty_iff.mp hquiet)
  | timer =>
    have hsettled : MeetingWidget.Settled { p.widget with timers := p.widget.timers - 1 } :=
      ⟨h.settled.ending, h.settled.pending, h.settled.hidden⟩
    unfold MeetingWidget.onTimeout
    split_ifs
    · have hreleased := MeetingWidget.release_settled hsettled
      refine h.run (fun _ he => he) (MeetingWidget.flushPendingConnect_settled hreleased) ?_
      rcases MeetingWidget.flushPendingConnect_session hreleased with hsame | hnone
      · exact Or.inl hsame
      · exact Or.inr (Or.inl hnone)
    · exact h.run (fun _ he => he) hsettled (Or.inl rfl)
  | ui hui => exact h.handle hui hquiet
  | connect _ => exact h.of_ui (hposted _ nofun)
  | @enqueue _ _ commands origin message _ _ _ _ =>
    rcases enqueueSend_cases { p with commands } origin message with heq | ⟨connection, _, heq⟩
    · rw [heq]
      exact h.of_ui hkept
    · rw [heq]
      exact h.of_ui hkept
  | disconnect _ => exact h.of_ui hkept
  | io => exact h.of_ui (hposted _ nofun)
  | receive hsocket =>
    refine h.of_ui (hposted _ ?_)
    intro c hc
    simp only [UiEvent.concerns] at hc
    split_ifs at hc with hconcerns
    cases hc
    simp only [noneUnderWay, hconcerns, Bool.not_true, Bool.false_or, decide_eq_true_eq] at hquiet
    rw [← hquiet]
    exact hsocket

end MeetingProcess

open MeetingProcess

/-- While messages come from the connection of the session and none is on its
way when a session ends, a message of another connection changes nothing. -/
theorem session_isolated {localUserId : Int64} {p : MeetingProcess}
    (hreach : Reachable ((MeetingProcess.system localUserId).restrict
      fun p e => p.noneUnderWay e = true) p) : p.Isolated localUserId := by
  have hinv : p.InSession := by
    refine hreach.invariant ?_ ?_
    · rintro p rfl
      exact fresh_inSession
    · intro p e p' _ hinv hstep
      exact hinv.step hstep.1 (.of_next hstep.2)
  constructor
  · intro connection msg rest hui hforeign
    cases hconcerns : msg.concernsMeeting with
    | false => exact MeetingWidget.dispatch_of_not_concerns hconcerns
    | true =>
      -- what concerns the meeting carries the connection of the session
      have hhead : .messageReady connection msg ∈ p.ui := by
        rw [hui]
        exact List.mem_cons_self ..
      exact absurd (hinv.tagged _ hhead connection (if_pos hconcerns)) hforeign
  · intro e p' hstep hchange
    exact changes_of_step (.of_next hstep) hchange

namespace MeetingProcess

/-- A meeting is created and the server answers. -/
def inRoom : List Event :=
  [createsMeeting, .controller true, .ui, .controller true, .receive (.createMeetingResponse 7),
    .ui, .ui, .receive (.partnerJoin 9)]

end MeetingProcess

/-- A partner joins the meeting the user is in. -/
theorem session_isolated_of_meeting :
    ∃ p : MeetingProcess, p.widget.meeting.partners = {1, 9} ∧ p.Isolated 1 := by
  have hrun : (replay (guarded (fun p e => p.noneUnderWay e = true) (MeetingProcess.next 1)) .fresh
      (inRoom ++ [.ui, .ui])).any (fun p => p.widget.meeting.partners = {1, 9}) = true := by
    decide +kernel
  rcases (Option.any_eq_true _ _).mp hrun with ⟨p, hrun, htest⟩
  exact ⟨p, of_decide_eq_true htest, session_isolated (reachable_of_guarded hrun)⟩

/-- The user leaves while the news of the partner is on its way: it comes to a
widget without a session, and the roster takes the partner up. -/
theorem late_message_joins_roster :
    ¬∀ p, Reachable (MeetingProcess.system 1) p → p.Isolated 1 := by
  intro hall
  have hrun : (replay (guarded (fun _ _ => True) (MeetingProcess.next 1)) .fresh
      (inRoom ++ [.closeWindow, .ui])).any
      (fun p => p.widget.session = none ∧ p.widget.meeting.partners = ∅ ∧
        ∃ e ∈ p.ui.head?, ∃ r ∈ e.concerns, e = .messageReady r (.partnerJoin 9)) = true := by
    decide +kernel
  rcases (Option.any_eq_true _ _).mp hrun with ⟨p, hrun, htest⟩
  rcases of_decide_eq_true htest with ⟨hsession, hpartners, e, he, r, _, rfl⟩
  have hforeign := (hall p (reachable_of_guarded hrun).of_restrict).foreign r (.partnerJoin 9)
    p.ui.tail (List.cons_head?_tail he).symm (by rw [hsession]; nofun)
  have hroster := congrArg (fun slot : Slot => slot.1.meeting.partners) hforeign
  change insert 9 p.widget.meeting.partners = p.widget.meeting.partners at hroster
  rw [hpartners] at hroster
  exact absurd hroster (by decide)

end CCMeeting
