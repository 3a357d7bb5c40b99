import CCMeeting.Network.Accounts

/-! # What is on the way to a client

The packets of a connection its client has not handled yet, and the client as
it will be once it has. What holds of a quiet connection follows from invariants
of the client caught up: handling a packet does not change it, and a handler of
the server appends to it.
-/

namespace CCMeeting

open Transition State

namespace Client

variable (qt : Qt) (localUserId : Int64)

/-- The client after some packets. -/
def hearAll (c : Client) (qs : List Queued) : Client := qs.foldl (hear qt localUserId) c

variable {qt localUserId}

theorem hearAll_cons (c : Client) (q : Queued) (qs : List Queued) :
    c.hearAll qt localUserId (q :: qs) = (c.hear qt localUserId q).hearAll qt localUserId qs := rfl

theorem hearAll_append (c : Client) (qs ps : List Queued) :
    c.hearAll qt localUserId (qs ++ ps) =
      (c.hearAll qt localUserId qs).hearAll qt localUserId ps :=
  List.foldl_append

theorem hearAll_sessionEnding {c : Client} (qs : List Queued) (h : c.sessionEnding = true) :
    (c.hearAll qt localUserId qs).sessionEnding = true := by
  induction qs generalizing c with
  | nil => exact h
  | cons q qs ih => exact ih (c.hear_sessionEnding qt localUserId h)

/-- What is heard of a refusal ends the session. -/
theorem hear_refusal (qt : Qt) (localUserId : Int64) (c : Client) {packet : Packet}
    {type : MessageType} {value : UInt32} (h : Refusal packet type value) :
    (c.hear qt localUserId (response type value)).sessionEnding = true := by
  cases h with
  | create _ =>
    rw [hear_createMeetingResponse]
    exact c.closeMeetingWindow_sessionEnding
  | join _ hvalue =>
    rw [hear_joinMeetingResponse]
    rcases hvalue with rfl | rfl
    · exact c.closeMeetingWindow_sessionEnding
    · exact c.closeMeetingWindow_sessionEnding

/-- The same session with the same partners. -/
def SameSession (c c' : Client) : Prop :=
  c.sessionEnding = c'.sessionEnding ∧ c.partners = c'.partners

theorem SameSession.closeMeetingWindow {c c' : Client} (h : c.SameSession c') :
    c.closeMeetingWindow.SameSession c'.closeMeetingWindow := by
  rcases h with ⟨hending, hpartners⟩
  unfold Client.closeMeetingWindow
  rw [hending]
  split_ifs with hc
  · exact ⟨hending, hpartners⟩
  · exact ⟨rfl, rfl⟩

theorem SameSession.add {c c' : Client} (h : c.SameSession c') (userId : Int64) :
    (c.add userId).SameSession (c'.add userId) :=
  ⟨h.1, congrArg (insert userId) h.2⟩

theorem SameSession.onPartnersSnapshot {c c' : Client} (h : c.SameSession c')
    (userIds : List Int64) :
    (c.onPartnersSnapshot userIds).SameSession (c'.onPartnersSnapshot userIds) := by
  induction userIds generalizing c c' with
  | nil => exact h
  | cons userId userIds ih => exact ih (h.add userId)

/-- What becomes of session and partners depends on nothing else. -/
theorem SameSession.dispatch {c c' : Client} (h : c.SameSession c') (msg : Message) :
    (c.dispatch localUserId msg).SameSession (c'.dispatch localUserId msg) := by
  have hself : (c.applyProfile localUserId).SameSession (c'.applyProfile localUserId) := h.add _
  cases msg with
  | createMeetingResponse roomNo =>
    show (c.onCreateMeetingResult localUserId roomNo.toInt32).SameSession
      (c'.onCreateMeetingResult localUserId roomNo.toInt32)
    unfold onCreateMeetingResult
    split_ifs
    · exact hself.add localUserId
    · exact h.closeMeetingWindow
  | joinMeetingResponse responseCode =>
    show (c.onJoinMeetingResult localUserId responseCode).SameSession
      (c'.onJoinMeetingResult localUserId responseCode)
    unfold onJoinMeetingResult
    split_ifs
    · exact h.closeMeetingWindow
    · exact h.closeMeetingWindow
    · exact hself.add localUserId
    · exact h
  | remoteHostClosedError | otherNetError => exact h.closeMeetingWindow
  | partnerJoin userId => exact h.add userId
  | partnerExit userId => exact ⟨h.1, congrArg (Finset.erase · userId) h.2⟩
  | partnerJoin2 userIds => exact h.onPartnersSnapshot userIds
  | userProfileNotify userId name avatar => exact h.add userId
  | _ => exact h

theorem SameSession.hearAll {c c' : Client} (h : c.SameSession c') (qs : List Queued) :
    (c.hearAll qt localUserId qs).SameSession (c'.hearAll qt localUserId qs) := by
  induction qs generalizing c c' with
  | nil => exact h
  | cons q qs ih =>
    refine ih ?_
    unfold hear
    split
    · exact h.dispatch _
    · exact h

end Client

namespace Network

/-- The packets of a connection that have not been handled. -/
def pending (y : Network) (d : ConnId) : List Queued :=
  (y.server.outbox d).drop (y.links d).received

/-- A client at the other end, once it has handled them. -/
def caughtUp (qt : Qt) (y : Network) (d : ConnId) (c : Client) : Client :=
  c.hearAll qt (y.links d).userId (y.pending d)

/-- Nothing is on the way between the server and the client. -/
def Quiet (y : Network) (d : ConnId) : Prop :=
  (y.links d).received = (y.server.outbox d).length ∧ (y.links d).control = [] ∧
    (y.links d).texts = []

instance (y : Network) (d : ConnId) : Decidable (y.Quiet d) :=
  inferInstanceAs (Decidable (_ ∧ _))

variable {qt : Qt} {y : Network} {d : ConnId}

/-- A client with nothing on the way is caught up. -/
theorem caughtUp_of_handled (h : (y.links d).received = (y.server.outbox d).length) (c : Client) :
    y.caughtUp qt d c = c := by
  rw [caughtUp, pending, h, List.drop_length]
  rfl

/-- The next packet is the first one pending. -/
theorem pending_receive {q : Queued}
    (hq : (y.server.outbox d)[(y.links d).received]? = some q) :
    y.pending d =
      q :: (y.setLink d { y.links d with received := (y.links d).received + 1 }).pending d := by
  have hlt := (List.getElem?_eq_some_iff.mp hq).1
  have hcount : ((y.setLink d { y.links d with received := (y.links d).received + 1 }).links
      d).received = (y.links d).received + 1 := by rw [setLink_links, if_pos rfl]
  rw [pending, pending, hcount, List.drop_eq_getElem_cons hlt, (List.getElem?_eq_some_iff.mp hq).2]
  rfl

/-- Handling the next packet does not change the client caught up. -/
theorem caughtUp_receive {q : Queued} (c : Client)
    (hq : (y.server.outbox d)[(y.links d).received]? = some q) :
    (y.setLink d { y.links d with received := (y.links d).received + 1 }).caughtUp qt d
      (c.hear qt (y.links d).userId q) = y.caughtUp qt d c := by
  rw [caughtUp, caughtUp, pending_receive hq, Client.hearAll_cons, setLink_links, if_pos rfl]

/-- Only the queue, the count of handled packets and the user matter. -/
theorem caughtUp_congr {y y' : Network} (houtbox : y'.server.outbox d = y.server.outbox d)
    (hreceived : (y'.links d).received = (y.links d).received)
    (huser : (y'.links d).userId = (y.links d).userId) (c : Client) :
    y'.caughtUp qt d c = y.caughtUp qt d c := by
  rw [caughtUp, caughtUp, pending, pending, houtbox, hreceived, huser]

@[simp] theorem caughtUp_setClient (y : Network) (k : ClientId) (c₀ c : Client) :
    (y.setClient k c₀).caughtUp qt d c = y.caughtUp qt d c := rfl

/-- Sending is no handling. -/
theorem caughtUp_setLink (y : Network) {d' : ConnId} {l : Link}
    (hreceived : l.received = (y.links d').received) (huser : l.userId = (y.links d').userId)
    (c : Client) : (y.setLink d' l).caughtUp qt d c = y.caughtUp qt d c := by
  have houtbox : (y.setLink d' l).server.outbox d = y.server.outbox d := rfl
  refine caughtUp_congr houtbox ?_ ?_ c <;> rw [setLink_links] <;> split_ifs with hd
  · rw [hd, hreceived]
  · rfl
  · rw [hd, huser]
  · rfl

theorem caughtUp_setLink_of_ne (y : Network) {d' : ConnId} (hd : d ≠ d') (l : Link) (c : Client) :
    (y.setLink d' l).caughtUp qt d c = y.caughtUp qt d c := by
  have houtbox : (y.setLink d' l).server.outbox d = y.server.outbox d := rfl
  refine caughtUp_congr houtbox ?_ ?_ c <;> rw [setLink_links, if_neg hd]

/-- What the server appends is pending. -/
theorem pending_append {y' : Network} {news : List Queued} (hy : y.Sound)
    (houtbox : y'.server.outbox d = y.server.outbox d ++ news)
    (hreceived : (y'.links d).received = (y.links d).received) :
    y'.pending d = y.pending d ++ news := by
  rw [pending, pending, houtbox, hreceived, List.drop_append_of_le_length (hy.bound d)]

/-- What the server appends is handled last. -/
theorem caughtUp_append {y' : Network} {news : List Queued} (hy : y.Sound)
    (houtbox : y'.server.outbox d = y.server.outbox d ++ news)
    (hreceived : (y'.links d).received = (y.links d).received)
    (huser : (y'.links d).userId = (y.links d).userId) (c : Client) :
    y'.caughtUp qt d c = (y.caughtUp qt d c).hearAll qt (y.links d).userId news := by
  rw [caughtUp, caughtUp, pending_append hy houtbox hreceived, huser, Client.hearAll_append]

end Network

end CCMeeting
