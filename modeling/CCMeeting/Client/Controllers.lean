import CCMeeting.Client.Profiles
import CCMeeting.Client.Sessions

/-! # What reaches the controllers

The controllers of `MeetingWidget` (the participants, the chat, the camera) are
changed where the window closes and where a message is dispatched. What an event
of the process has the widget do to them is a `Handed`, and the roster of the
process follows it.
-/

namespace CCMeeting

open Transition

/-- What the widget does to its controllers. -/
inductive Handed where
  /-- `close_meeting_window` -/
  | close
  /-- `MeetingProtocolDispatcher` gets a message -/
  | message (msg : Message)
  | nothing
deriving DecidableEq

/-- What an event of the process has the widget do to its controllers. -/
def MeetingProcess.handed (p : MeetingProcess) : MeetingProcess.Event → Handed
  | .closeWindow | .dismissWarning => .close
  | .ui =>
    match p.ui with
    | .messageReady _ msg :: _ => .message msg
    | _ => .nothing
  | _ => .nothing

/-- The meeting, as far as its controllers are concerned. -/
def Client.take (localUserId : Int64) (c : Client) : Handed → Client
  | .close => c.closeMeetingWindow
  | .message msg => c.dispatch localUserId msg
  | .nothing => c

/-- `ParticipantsController`. -/
def Partners.take (qt : Qt) (me : LocalUser) (ps : Partners) (c : Client) : Handed → Partners
  | .close => ps.closeMeetingWindow c
  | .message msg => ps.dispatch qt me c msg
  | .nothing => ps

theorem Partners.Of.take {ps : Partners} {c : Client} {me : LocalUser} (h : ps.Of c) (qt : Qt)
    (handed : Handed) : (ps.take qt me c handed).Of (c.take me.userId handed) := by
  cases handed with
  | close => exact h.closeMeetingWindow
  | message msg => exact h.dispatch qt msg
  | nothing => exact h

/-! ## The roster of the process -/

namespace MeetingProcess

variable {localUserId : Int64} {p p' : MeetingProcess} {e : Event}

/-- The keys of `ParticipantsController::_partners`. -/
abbrev roster (p : MeetingProcess) : Finset Int64 := p.widget.meeting.partners

theorem roster_of_inMeeting {w w' : MeetingWidget} (h : w'.inMeeting = w.inMeeting) :
    w'.meeting.partners = w.meeting.partners := congrArg (fun m => m.2.2.1) h

/-- A posted call that is no message leaves the roster as it is. -/
theorem handle_roster {ui : List UiEvent} {e : UiEvent}
    (he : ∀ connection msg, e ≠ .messageReady connection msg) :
    ({ p with ui }.handle localUserId e).roster = p.roster := by
  cases e with
  | connectFinished ok r => exact roster_of_inMeeting (MeetingWidget.onConnectFinished_inMeeting ok r)
  | connectionDisconnected => rfl
  | networkDisconnected =>
    exact roster_of_inMeeting (MeetingWidget.flushPendingConnect_inMeeting (w := p.widget.release))
  | emitIncoming connection msg =>
    simp only [handle]
    split_ifs <;> rfl
  | messageReady connection msg => exact absurd rfl (he connection msg)

/-- What is neither a call of the UI thread nor a closed window leaves the roster
as it is. -/
theorem elsewhere_roster (hstep : Step localUserId p e p')
    (helse : e ≠ .closeWindow ∧ e ≠ .dismissWarning ∧ e ≠ .ui) : p'.roster = p.roster := by
  cases hstep with
  | request _ _ => exact roster_of_inMeeting (MeetingWidget.requestConnectToServer_inMeeting _)
  | closeWindow => exact absurd rfl helse.1
  | dismissWarning => exact absurd rfl helse.2.1
  | ui _ => exact absurd rfl helse.2.2
  | timer => exact roster_of_inMeeting MeetingWidget.onTimeout_inMeeting
  | enqueue _ _ _ _ => rw [roster, enqueueSend_widget]
  | editSettings _ _ flags | connect _ | disconnect _ | io | receive _ => rfl

/-- The roster follows what is handed to the controllers. -/
theorem roster_of_next (hnext : p.next localUserId e = some p') :
    p'.roster = (p.widget.meeting.take localUserId (p.handed e)).partners := by
  cases e with
  | closeWindow | dismissWarning =>
    simp only [next] at hnext
    split_ifs at hnext
    cases hnext
    exact MeetingWidget.closeMeetingWindow_partners
  | ui =>
    cases hui : p.ui with
    | nil =>
      simp only [next, hui] at hnext
      cases hnext
    | cons e rest =>
      simp only [next, hui] at hnext
      cases hnext
      simp only [handed, hui]
      cases e with
      | messageReady connection msg => exact MeetingWidget.dispatch_partners
      | _ => exact handle_roster (by rintro _ _ ⟨⟩)
  | _ => exact elsewhere_roster (.of_next hnext) ⟨by rintro ⟨⟩, by rintro ⟨⟩, by rintro ⟨⟩⟩

/-- The profiles of `ParticipantsController` stay those of the roster. -/
theorem of_next {qt : Qt} {me : LocalUser} {ps : Partners} (h : ps.Of p.widget.meeting)
    (hnext : p.next me.userId e = some p') :
    (ps.take qt me p.widget.meeting (p.handed e)).Of p'.widget.meeting := by
  intro userId
  refine (h.take qt (p.handed e) userId).trans ?_
  rw [← roster_of_next hnext]

end MeetingProcess

end CCMeeting
