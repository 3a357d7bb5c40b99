import CCMeeting.Client.Sessions

/-! # The main picture

Who is in the main picture is kept three times: by `MeetingWidget`, by its
`ParticipantsController` and by `CameraVideo`. A click on a tile sets all three.
Entering a meeting sets two of them, and nothing sets any when the member in
the picture leaves.
-/

namespace CCMeeting

open Transition

/-! ## The three copies and their handlers -/

/-- The user in the main picture, as each of the three classes has it. -/
structure MainPicture where
  /-- `MeetingWidget::main_user_id_` -/
  mainUserId : Int64
  /-- `ParticipantsController::_mainUserId` -/
  participants : Int64
  /-- `CameraVideo::_mainUserId` -/
  camera : Int64
deriving DecidableEq, Repr

namespace MainPicture

/-- Nobody is in the picture. -/
def fresh : MainPicture where
  mainUserId := 0
  participants := 0
  camera := 0

/-- `ParticipantsController::clear`, on the roster before it. -/
def clear (m : MainPicture) (partners : Finset Int64) : MainPicture :=
  if partners = ∅ then m else { m with participants := 0 }

/-- `ParticipantsController::select_main`, with `CameraVideo::refreshMainForUser`
and the slot of `main_changed`. -/
def selectMain (_ : MainPicture) (userId : Int64) : MainPicture where
  mainUserId := userId
  participants := userId
  camera := userId

/-- `MeetingWidget::close_meeting_window`, with `end_meeting_session`. -/
def closeMeetingWindow (m : MainPicture) (c : Client) : MainPicture :=
  if c.sessionEnding then m else m.clear c.partners

/-- What `on_create_meeting_result` and `on_join_meeting_result` do for a user
who is let in, with `CameraVideo::setMainUserId`. -/
def showLocal (m : MainPicture) (localUserId : Int64) : MainPicture :=
  { m with mainUserId := localUserId, camera := localUserId }

/-- `MeetingWidget::on_create_meeting_result`. -/
def onCreateMeetingResult (localUserId : Int64) (m : MainPicture) (c : Client) (roomno : Int32) :
    MainPicture :=
  if roomno ≠ 0 then m.showLocal localUserId else m.closeMeetingWindow c

/-- `MeetingWidget::on_join_meeting_result`. -/
def onJoinMeetingResult (localUserId : Int64) (m : MainPicture) (c : Client) (result : Int32) :
    MainPicture :=
  if result = 0 then m.closeMeetingWindow c
  else if result = -1 then m.closeMeetingWindow c
  else if 0 < result then m.showLocal localUserId
  else m

/-- `MeetingProtocolDispatcher` and the slots it is connected to. A partner who
leaves is taken from the roster; `on_partner_exited` then draws the avatar of the
main picture again and selects nobody else. -/
def dispatch (localUserId : Int64) (m : MainPicture) (c : Client) : Message → MainPicture
  | .createMeetingResponse roomNo => m.onCreateMeetingResult localUserId c roomNo.toInt32
  | .joinMeetingResponse responseCode => m.onJoinMeetingResult localUserId c responseCode
  | .remoteHostClosedError | .otherNetError => m.closeMeetingWindow c
  | _ => m

/-- What an event of the process does to the picture. -/
def follow (localUserId : Int64) (m : MainPicture) (p : MeetingProcess) :
    MeetingProcess.Event → MainPicture
  | .closeWindow | .dismissWarning => m.closeMeetingWindow p.widget.meeting
  | .ui =>
    match p.ui with
    | .messageReady _ msg :: _ => m.dispatch localUserId p.widget.meeting msg
    | _ => m
  | _ => m

end MainPicture

/-! ## The window of the meeting -/

/-- The client in a meeting, with its main picture. -/
structure MeetingScreen where
  process : MeetingProcess
  picture : MainPicture
deriving DecidableEq

namespace MeetingScreen

/-- The process just started. -/
def fresh : MeetingScreen where
  process := .fresh
  picture := .fresh

/-- What can happen. -/
inductive Event where
  | process (e : MeetingProcess.Event)
  /-- `ParticipantsController::member_clicked`, which only the tile of a member
  emits -/
  | memberClicked (userId : Int64)
deriving DecidableEq

/-- What an event does, where it can happen. -/
def next (localUserId : Int64) (s : MeetingScreen) : Event → Option MeetingScreen
  | .process e =>
    (s.process.next localUserId e).map fun process =>
      { process, picture := s.picture.follow localUserId s.process e }
  | .memberClicked userId =>
    if s.process.widget.visible = true ∧ s.process.widget.warnings = 0 ∧
        userId ∈ s.process.widget.meeting.partners then
      some { s with picture := s.picture.selectMain userId }
    else none

/-- The runs of the client in a meeting, with its main picture. -/
def system (localUserId : Int64) : System MeetingScreen Event where
  Init s := s = fresh
  Step s e s' := s.next localUserId e = some s'

end MeetingScreen

/-! ## The property and its condition -/

/-- The user is in a meeting. -/
def Client.duringMeeting (c : Client) : Bool := c.createmeet || c.joinmeet

/-- During a meeting the three copies agree, and they name the local user or a
partner. -/
def MainPicture.Agrees (localUserId : Int64) (m : MainPicture) (c : Client) : Prop :=
  c.duringMeeting = true →
    m.participants = m.mainUserId ∧ m.camera = m.mainUserId ∧
      (m.mainUserId = localUserId ∨ m.mainUserId ∈ c.partners)

/-- The answers that let the user in. -/
def Message.admits : Message → Bool
  | createMeetingResponse roomNo => roomNo.toInt32 ≠ 0
  | joinMeetingResponse responseCode => 0 < responseCode
  | _ => false

/-- The user is let in while `ParticipantsController` has the local user as it is,
and during a meeting no one leaves from the main picture but the local user. -/
def MainPicture.keeps (localUserId : Int64) (m : MainPicture) (c : Client) (msg : Message) :
    Bool :=
  (!msg.admits || m.participants = localUserId) &&
    match msg with
    | .partnerExit userId =>
      !c.duringMeeting || userId ≠ m.mainUserId || m.mainUserId = localUserId
    | _ => true

namespace MeetingScreen

def Agrees (localUserId : Int64) (s : MeetingScreen) : Prop :=
  s.picture.Agrees localUserId s.process.widget.meeting

/-- `MainPicture.keeps`, of the message the event hands to the widget. -/
def keeps (localUserId : Int64) (s : MeetingScreen) : Event → Bool
  | .process .ui =>
    match s.process.ui with
    | .messageReady _ msg :: _ => s.picture.keeps localUserId s.process.widget.meeting msg
    | _ => true
  | _ => true

end MeetingScreen

/-! ## What a message does to the picture -/

namespace MainPicture

variable {localUserId : Int64} {m : MainPicture} {c c' : Client} {w : MeetingWidget}
  {msg : Message}

/-- A meeting that has not changed, but for new partners, has the picture it had. -/
theorem Agrees.grow (h : m.Agrees localUserId c) (hmeeting : c'.duringMeeting = c.duringMeeting)
    (hpartners : c.partners ⊆ c'.partners) : m.Agrees localUserId c' := by
  intro hin
  rcases h (hmeeting.symm.trans hin) with ⟨hcopy, hcamera, hmember⟩
  exact ⟨hcopy, hcamera, hmember.imp_right (@hpartners _)⟩

/-- Closing the window ends the meeting, or finds it ending and leaves all as it is. -/
theorem Agrees.close (h : m.Agrees localUserId w.meeting) :
    (m.closeMeetingWindow w.meeting).Agrees localUserId w.closeMeetingWindow.1.meeting := by
  unfold MainPicture.closeMeetingWindow MeetingWidget.closeMeetingWindow
  by_cases hending : w.meeting.sessionEnding = true
  · simp only [if_pos hending]
    exact h
  · simp only [if_neg hending]
    intro hin
    have hout : (MeetingWidget.endMeetingSession
        { w with pendingConnect := none }).1.meeting.duringMeeting = false := by
      unfold MeetingWidget.endMeetingSession
      split_ifs <;> rfl
    exact absurd (hout.symm.trans hin) Bool.false_ne_true

/-- Being let in shows the local user in two of the copies. -/
theorem showLocal_agrees (hin : c'.duringMeeting = true) :
    (m.showLocal localUserId).Agrees localUserId c' ↔ m.participants = localUserId := by
  constructor
  · intro h
    exact (h hin).1
  · intro hcopy _
    exact ⟨hcopy, rfl, Or.inl rfl⟩

/-- One who is not in the picture can leave. -/
theorem remove_agrees (h : m.Agrees localUserId c) (userId : Int64) :
    m.Agrees localUserId (c.remove userId) ↔
      (c.duringMeeting = true → userId = m.mainUserId → m.mainUserId = localUserId) := by
  constructor
  · intro hleft hin hshown
    rcases (hleft hin).2.2 with hlocal | hmember
    · exact hlocal
    · rw [← hshown] at hmember
      exact absurd hmember (Finset.notMem_erase userId c.partners)
  · intro hkeep hin
    rcases h hin with ⟨hcopy, hcamera, hmember⟩
    refine ⟨hcopy, hcamera, ?_⟩
    by_cases hshown : userId = m.mainUserId
    · exact Or.inl (hkeep hin hshown)
    · exact hmember.imp_right fun hmem => Finset.mem_erase.mpr ⟨Ne.symm hshown, hmem⟩

theorem keeps_of_admits (h : msg.admits = true) :
    m.keeps localUserId c msg = true ↔ m.participants = localUserId := by
  cases msg with
  | createMeetingResponse | joinMeetingResponse => simp [keeps, h]
  | _ => cases h

theorem keeps_partnerExit (userId : Int64) :
    m.keeps localUserId c (.partnerExit userId) = true ↔
      (c.duringMeeting = true → userId = m.mainUserId → m.mainUserId = localUserId) := by
  simp only [keeps, Message.admits, Bool.not_false, Bool.true_or, Bool.true_and, Bool.or_eq_true,
    Bool.not_eq_true', decide_eq_true_eq]
  cases c.duringMeeting
  · simp
  · simp
    tauto

/-- A message that does not let the user in is met by the condition, unless
someone leaves. -/
theorem keeps_of_not_admits (h : msg.admits = false) (hexit : ∀ userId, msg ≠ .partnerExit userId) :
    m.keeps localUserId c msg = true := by
  cases msg with
  | partnerExit userId => exact absurd rfl (hexit userId)
  | _ => simp [keeps, h]

theorem dispatch_of_closes (h : MeetingWidget.closes msg = true) :
    m.dispatch localUserId c msg = m.closeMeetingWindow c := by
  cases msg with
  | createMeetingResponse roomNo =>
    have hzero : roomNo.toInt32 = 0 := of_decide_eq_true h
    exact if_neg (not_not.mpr hzero)
  | joinMeetingResponse responseCode =>
    show m.onJoinMeetingResult localUserId c responseCode = _
    unfold onJoinMeetingResult
    rcases MeetingWidget.closes_joinMeetingResponse.mp h with hzero | hfull
    · rw [if_pos hzero]
    · rw [hfull]
      rfl
  | remoteHostClosedError | otherNetError => rfl
  | _ => cases h

theorem not_admits_of_closes (h : MeetingWidget.closes msg = true) : msg.admits = false := by
  cases msg with
  | createMeetingResponse roomNo =>
    have hzero : roomNo.toInt32 = 0 := of_decide_eq_true h
    exact decide_eq_false (not_not.mpr hzero)
  | joinMeetingResponse responseCode =>
    rcases MeetingWidget.closes_joinMeetingResponse.mp h with rfl | rfl <;> rfl
  | _ => rfl

/-- A message at which the window closes is met by the condition. -/
theorem dispatch_agrees_of_closes (h : m.Agrees localUserId w.meeting)
    (hcloses : MeetingWidget.closes msg = true) :
    (m.dispatch localUserId w.meeting msg).Agrees localUserId
      (w.dispatch localUserId msg).1.meeting := by
  rw [dispatch_of_closes hcloses]
  unfold MeetingWidget.dispatch
  rw [if_pos hcloses]
  split_ifs with hlost
  · -- the session is ending already, and closing the window would change nothing
    rw [closeMeetingWindow, if_pos hlost.2]
    exact h
  · exact h.close

/-- What does not close the window leaves the three copies in agreement exactly
where it meets the condition. -/
theorem dispatch_agrees_of_open (h : m.Agrees localUserId c)
    (hopen : MeetingWidget.closes msg = false) :
    (m.dispatch localUserId c msg).Agrees localUserId (c.dispatch localUserId msg) ↔
      m.keeps localUserId c msg = true := by
  cases msg with
  | createMeetingResponse roomNo =>
    have hroom : roomNo.toInt32 ≠ 0 := of_decide_eq_false hopen
    show (m.onCreateMeetingResult localUserId c roomNo.toInt32).Agrees localUserId
      (c.onCreateMeetingResult localUserId roomNo.toInt32) ↔ _
    have hadmits : (Message.createMeetingResponse roomNo).admits = true := decide_eq_true hroom
    rw [onCreateMeetingResult, if_pos hroom, Client.onCreateMeetingResult, if_pos hroom,
      keeps_of_admits hadmits]
    exact showLocal_agrees rfl
  | joinMeetingResponse responseCode =>
    have hcode : ¬(responseCode = 0 ∨ responseCode = -1) := by
      rw [← MeetingWidget.closes_joinMeetingResponse, hopen]
      exact Bool.false_ne_true
    rw [not_or] at hcode
    show (m.onJoinMeetingResult localUserId c responseCode).Agrees localUserId
      (c.onJoinMeetingResult localUserId responseCode) ↔ _
    rw [onJoinMeetingResult, if_neg hcode.1, if_neg hcode.2, Client.onJoinMeetingResult,
      if_neg hcode.1, if_neg hcode.2]
    by_cases hpos : 0 < responseCode
    · have hadmits : (Message.joinMeetingResponse responseCode).admits = true := decide_eq_true hpos
      rw [if_pos hpos, if_pos hpos, keeps_of_admits hadmits]
      exact showLocal_agrees (Bool.or_true _)
    · rw [if_neg hpos, if_neg hpos]
      exact iff_of_true h (keeps_of_not_admits (decide_eq_false hpos) (by rintro _ ⟨⟩))
  | remoteHostClosedError | otherNetError => cases hopen
  | partnerExit userId =>
    rw [keeps_partnerExit]
    exact remove_agrees h userId
  | partnerJoin userId | userProfileNotify userId _ _ =>
    refine iff_of_true ?_ (keeps_of_not_admits rfl (by rintro _ ⟨⟩))
    exact h.grow rfl (Finset.subset_insert userId c.partners)
  | partnerJoin2 userIds =>
    refine iff_of_true (h.grow ?_ ?_) (keeps_of_not_admits rfl (by rintro _ ⟨⟩))
    · show (c.onPartnersSnapshot userIds).duringMeeting = _
      rw [Client.onPartnersSnapshot_eq]
      rfl
    · intro userId hmem
      exact Client.mem_onPartnersSnapshot.mpr (Or.inl hmem)
  | _ => exact iff_of_true h (keeps_of_not_admits rfl (by rintro _ ⟨⟩))

/-- A message leaves the three copies in agreement exactly where it meets the
condition. -/
theorem dispatch_agrees (h : m.Agrees localUserId w.meeting) (msg : Message) :
    (m.dispatch localUserId w.meeting msg).Agrees localUserId
        (w.dispatch localUserId msg).1.meeting ↔
      m.keeps localUserId w.meeting msg = true := by
  cases hcloses : MeetingWidget.closes msg with
  | true =>
    refine iff_of_true (dispatch_agrees_of_closes h hcloses) ?_
    apply keeps_of_not_admits (not_admits_of_closes hcloses)
    rintro userId rfl
    cases hcloses
  | false =>
    have hmeeting : (w.dispatch localUserId msg).1.meeting = w.meeting.dispatch localUserId msg := by
      rw [MeetingWidget.dispatch, if_neg (by rw [hcloses]; exact Bool.false_ne_true)]
    rw [hmeeting]
    exact dispatch_agrees_of_open h hcloses

end MainPicture

/-! ## What a step does to the picture -/

namespace MeetingScreen

variable {localUserId : Int64} {s s' : MeetingScreen} {e : Event}

theorem agrees_of_inMeeting {m : MainPicture} {w w' : MeetingWidget}
    (h : m.Agrees localUserId w.meeting) (hsame : w'.inMeeting = w.inMeeting) :
    m.Agrees localUserId w'.meeting := by
  simp only [MeetingWidget.inMeeting, Prod.mk.injEq] at hsame
  rcases hsame with ⟨hcreate, hjoin, hpartners, _, _⟩
  refine h.grow ?_ (Finset.Subset.antisymm_iff.mp hpartners).2
  rw [Client.duringMeeting, Client.duringMeeting, hcreate, hjoin]

/-- A posted call is handled. -/
theorem agrees_handle {p : MeetingProcess} {ui : List UiEvent} {m : MainPicture} {e : UiEvent}
    (h : m.Agrees localUserId p.widget.meeting)
    (he : ∀ connection msg, e ≠ .messageReady connection msg) :
    m.Agrees localUserId ({ p with ui }.handle localUserId e).widget.meeting := by
  cases e with
  | connectFinished ok r =>
    exact agrees_of_inMeeting h (MeetingWidget.onConnectFinished_inMeeting ok r)
  | connectionDisconnected => exact h
  | networkDisconnected => exact agrees_of_inMeeting h MeetingWidget.flushPendingConnect_inMeeting
  | emitIncoming connection msg =>
    simp only [MeetingProcess.handle]
    split_ifs <;> exact h
  | messageReady connection msg => exact absurd rfl (he connection msg)

/-- What is neither a call of the UI thread nor a closed window leaves the meeting
as it is. -/
theorem agrees_of_elsewhere {p p' : MeetingProcess} {m : MainPicture} {e : MeetingProcess.Event}
    (h : m.Agrees localUserId p.widget.meeting) (hstep : MeetingProcess.Step localUserId p e p')
    (helse : e ≠ .closeWindow ∧ e ≠ .dismissWarning ∧ e ≠ .ui) :
    m.Agrees localUserId p'.widget.meeting := by
  cases hstep with
  | request _ _ => exact agrees_of_inMeeting h (MeetingWidget.requestConnectToServer_inMeeting _)
  | closeWindow => exact absurd rfl helse.1
  | dismissWarning => exact absurd rfl helse.2.1
  | ui _ => exact absurd rfl helse.2.2
  | timer => exact agrees_of_inMeeting h MeetingWidget.onTimeout_inMeeting
  | enqueue _ _ _ _ =>
    rw [MeetingProcess.enqueueSend_widget]
    exact h
  | editSettings _ _ flags | connect _ | disconnect _ | io | receive _ => exact h

theorem agrees_process {p' : MeetingProcess} {e : MeetingProcess.Event}
    (h : s.Agrees localUserId) (hnext : s.process.next localUserId e = some p') :
    (s.picture.follow localUserId s.process e).Agrees localUserId p'.widget.meeting ↔
      s.keeps localUserId (.process e) = true := by
  cases e with
  | closeWindow =>
    simp only [MeetingProcess.next] at hnext
    split_ifs at hnext
    cases hnext
    exact iff_of_true h.close rfl
  | dismissWarning =>
    simp only [MeetingProcess.next] at hnext
    split_ifs at hnext
    cases hnext
    let dismissed := { s.process.widget with warnings := s.process.widget.warnings - 1 }
    have hdismissed : s.picture.Agrees localUserId dismissed.meeting := h
    exact iff_of_true hdismissed.close rfl
  | ui =>
    cases hui : s.process.ui with
    | nil =>
      simp only [MeetingProcess.next, hui] at hnext
      cases hnext
    | cons e rest =>
      simp only [MeetingProcess.next, hui] at hnext
      cases hnext
      simp only [MainPicture.follow, keeps, hui]
      cases e with
      | messageReady connection msg => exact MainPicture.dispatch_agrees h msg
      | _ => exact iff_of_true (agrees_handle h (by rintro _ _ ⟨⟩)) rfl
  | _ =>
    refine iff_of_true (agrees_of_elsewhere h (.of_next hnext) ?_) rfl
    exact ⟨by rintro ⟨⟩, by rintro ⟨⟩, by rintro ⟨⟩⟩

/-- A click on a tile shows its member in all three copies. -/
theorem agrees_memberClicked {userId : Int64}
    (hstep : (system localUserId).Step s (.memberClicked userId) s') : s'.Agrees localUserId := by
  change s.next localUserId (.memberClicked userId) = some s' at hstep
  simp only [next] at hstep
  split_ifs at hstep with hclick
  cases hstep
  exact fun _ => ⟨rfl, rfl, Or.inr hclick.2.2⟩

/-- The three copies stay in agreement exactly where the step meets the condition. -/
theorem agrees_step (h : s.Agrees localUserId) (hstep : (system localUserId).Step s e s') :
    s'.Agrees localUserId ↔ s.keeps localUserId e = true := by
  cases e with
  | memberClicked userId => exact iff_of_true (agrees_memberClicked hstep) rfl
  | process e =>
    rcases Option.map_eq_some_iff.mp hstep with ⟨p', hnext, rfl⟩
    exact agrees_process h hnext

theorem agrees_fresh : fresh.Agrees localUserId := nofun

/-- `next`, where the condition is met, replays runs of the screen. -/
theorem reachable_of_guarded {C : MeetingScreen → Event → Prop} [∀ s e, Decidable (C s e)]
    {es : List Event} (hrun : replay (guarded C (next localUserId)) fresh es = some s) :
    Reachable ((system localUserId).restrict C) s :=
  (Run.of_replay (fun _ _ _ => guarded_step fun _ _ _ => id) hrun).reachable (.init rfl)

end MeetingScreen

open MeetingScreen

/-- While every step meets the condition, the three copies agree and name a member
in every state during a meeting, and these are all the runs in which they do. A
click on a tile brings them back into agreement. -/
theorem main_picture_selection (localUserId : Int64) :
    (∀ s, Reachable ((MeetingScreen.system localUserId).restrict
        fun s e => s.keeps localUserId e = true) s → s.Agrees localUserId) ∧
      (∀ es s, Run ((MeetingScreen.system localUserId).within (Agrees localUserId)) .fresh es s ↔
        Run ((MeetingScreen.system localUserId).restrict
          fun s e => s.keeps localUserId e = true) .fresh es s) ∧
      ∀ s userId t es u, (MeetingScreen.system localUserId).Step s (.memberClicked userId) t →
        Run ((MeetingScreen.system localUserId).restrict
          fun s e => s.keeps localUserId e = true) t es u → u.Agrees localUserId := by
  have hkeep : ∀ s e s', s.Agrees localUserId →
      ((MeetingScreen.system localUserId).restrict
        fun s e => s.keeps localUserId e = true).Step s e s' → s'.Agrees localUserId := by
    intro s e s' hs hstep
    exact (agrees_step hs hstep.2).mpr hstep.1
  refine ⟨?_, ?_, ?_⟩
  · intro s hreach
    refine hreach.invariant ?_ fun s e s' _ => hkeep s e s'
    rintro s rfl
    exact agrees_fresh
  · intro es s
    exact run_within_iff (fun _ _ _ => agrees_step) agrees_fresh
  · intro s userId t es u hclick hrun
    exact hrun.invariant hkeep (agrees_memberClicked hclick)

namespace MeetingScreen

/-- The user creates a meeting, and is connected. -/
def connects : List Event :=
  [.process MeetingProcess.createsMeeting, .process (.controller true), .process .ui,
    .process (.controller true)]

/-- A message is received and handled. -/
def hears (msg : Message) : List Event :=
  [.process (.receive msg), .process .ui, .process .ui]

end MeetingScreen

/-- The user has clicked on the own tile before the answer to the request. -/
theorem main_picture_selection_of_click :
    ∃ s : MeetingScreen, s.process.widget.meeting.createmeet = true ∧
      s.process.widget.meeting.partners = {7, 9} ∧ s.Agrees 7 := by
  have hrun : (replay (guarded (fun s e => s.keeps 7 e = true) (MeetingScreen.next 7)) .fresh
      (connects ++ hears (.partnerJoin 7) ++ [.memberClicked 7] ++
        hears (.createMeetingResponse 100001) ++ hears (.partnerJoin 9))).any
      (fun s => s.process.widget.meeting.createmeet = true ∧
        s.process.widget.meeting.partners = {7, 9}) = true := by
    decide +kernel
  rcases (Option.any_eq_true _ _).mp hrun with ⟨s, hrun, htest⟩
  rcases of_decide_eq_true htest with ⟨hcreate, hpartners⟩
  exact ⟨s, hcreate, hpartners,
    (main_picture_selection 7).1 s (MeetingScreen.reachable_of_guarded hrun)⟩

/-- The server lets the user in, and `ParticipantsController` has nobody in the
main picture. -/
theorem main_picture_not_synced :
    ¬∀ s, Reachable (MeetingScreen.system 7) s → s.Agrees 7 := by
  intro hall
  have hrun : (replay (guarded (fun _ _ => True) (MeetingScreen.next 7)) .fresh
      (connects ++ hears (.createMeetingResponse 100001))).any
      (fun s => s.process.widget.meeting.createmeet = true ∧ s.picture.participants = 0 ∧
        s.picture.mainUserId = 7) = true := by
    decide +kernel
  rcases (Option.any_eq_true _ _).mp hrun with ⟨s, hrun, htest⟩
  rcases of_decide_eq_true htest with ⟨hcreate, hparticipants, hmain⟩
  have hin : s.process.widget.meeting.duringMeeting = true := by
    rw [Client.duringMeeting, hcreate]
    rfl
  have hcopy := (hall s (MeetingScreen.reachable_of_guarded hrun).of_restrict hin).1
  rw [hparticipants, hmain] at hcopy
  exact absurd hcopy (by decide)

end CCMeeting
