import CCMeeting.Protocol.Reference
import CCMeeting.Server.Housing
import CCMeeting.Server.Updates

/-! # The close cascade

`close_room`, `Connection::close`, `on_connection_close`, `remove_participant`
and `cleanup_room` call each other while the room is being torn down. Here each
of them also says what it has called, and running out of depth is an error of
its own, so that a cascade that returns has come to its end.
-/

namespace CCMeeting

open ByteString Fallible Transition

/-- What a cascade calls, in order. -/
inductive CascadeCall where
  /-- `Connection::close`, past the check of `_closed` -/
  | close (c : ConnId)
  /-- `_close_handler`, which is `on_connection_close` -/
  | closeHandler (c : ConnId)
  /-- `_close_callback` of a room -/
  | closeCallback (roomId : UInt32)
  /-- `Room::broadcast` -/
  | broadcast (r : RoomRef) (q : Queued)
deriving DecidableEq, Repr

/-- Why a cascade has no end: an exception, or one more nested `close_room`
than was allowed. -/
inductive Cut where
  | stop (s : Stop)
  | depth
deriving DecidableEq, Repr

namespace State

variable (platform : Platform)

/-! ## The functions with their calls -/

/-- `Room::remove_participant`. -/
def removeParticipantCalls (closeRoom : State → RoomRef → Except Cut (State × List CascadeCall))
    (s : State) (r : RoomRef) (c : ConnId) : Except Cut (State × List CascadeCall) :=
  if (s.heap r).closed then .ok (s, [])
  else
    match (s.participants r).find c with
    | none => .ok (s, [])
    | some p =>
      let s := s.modifyRoom r fun room => { room with participants := room.participants.erase c }
      if p.isOwner then closeRoom s r
      else do
        let q : Queued := ⟨{ type := .partnerExit, userId := p.userId }, [c]⟩
        let s ← (s.broadcast platform r q 0).mapError .stop
        pure (s, [.broadcast r q])

/-- `MeetingService::on_connection_close`. -/
def onConnectionCloseCalls (closeRoom : State → RoomRef → Except Cut (State × List CascadeCall))
    (s : State) (c : ConnId) : Except Cut (State × List CascadeCall) :=
  match s.connectionRoom c with
  | none => .ok (s, [])
  | some r =>
    removeParticipantCalls platform closeRoom
      { s with connectionRoom := Function.update s.connectionRoom c none } r c

/-- `Connection::close`, with `notify_close`. -/
def closeConnectionCalls (closeRoom : State → RoomRef → Except Cut (State × List CascadeCall))
    (s : State) (c : ConnId) : Except Cut (State × List CascadeCall) :=
  if (s.connections c).closed then .ok (s, [])
  else do
    let (s, calls) ← onConnectionCloseCalls platform closeRoom
      (s.modifyConnection c Connection.shut) c
    pure (s, .close c :: .closeHandler c :: calls)

/-- One round of the loop of `close_room`. -/
def closeEachCalls (closeRoom : State → RoomRef → Except Cut (State × List CascadeCall))
    (done : State × List CascadeCall) (p : Participant) :
    Except Cut (State × List CascadeCall) :=
  if done.1.isOpen p.connection then do
    let (s, calls) ← closeConnectionCalls platform closeRoom done.1 p.connection
    pure (s, done.2 ++ calls)
  else .ok done

/-- `Room::close_room`, nested at most `depth` deep. -/
def closeRoomCalls : ℕ → State → RoomRef → Except Cut (State × List CascadeCall)
  | 0, _, _ => .error .depth
  | depth + 1, s, r =>
    if (s.heap r).closed then .ok (s, [])
    else do
      let participants := (s.participants r).toList
      let s := s.modifyRoom r fun room =>
        { room with closed := true, expireTimer := false, participants := ∅ }
      let (s, calls) ← participants.foldlM (closeEachCalls platform (closeRoomCalls depth)) (s, [])
      pure (if (s.heap r).closeCallback then
          (s.cleanupRoom (s.heap r).roomId, calls ++ [.closeCallback (s.heap r).roomId])
        else (s, calls))

/-- `conn->close()` from a handler. -/
def closeCalls (s : State) (c : ConnId) : Except Cut (State × List CascadeCall) :=
  closeConnectionCalls platform (closeRoomCalls platform s.closeDepth) s c

/-! ## They do what the server does -/

section Erase

variable {platform : Platform} {s s' : State} {calls : List CascadeCall}

section Nested

variable {closeRoom : State → RoomRef → Except Stop State}
  {traced : State → RoomRef → Except Cut (State × List CascadeCall)}
  (hclose : ∀ {t t' : State} {r : RoomRef} {calls : List CascadeCall},
    traced t r = .ok (t', calls) → closeRoom t r = .ok t')

include hclose

theorem removeParticipant_of_calls {r : RoomRef} {c : ConnId}
    (h : removeParticipantCalls platform traced s r c = .ok (s', calls)) :
    removeParticipant platform closeRoom s r c = .ok s' := by
  unfold removeParticipantCalls at h
  unfold removeParticipant
  split_ifs at h ⊢ with hr
  · cases h
    rfl
  cases hfind : (s.participants r).find c with
  | none =>
    rw [hfind] at h
    cases h
    rfl
  | some p =>
    rw [hfind] at h
    dsimp only at h ⊢
    split_ifs at h ⊢ with howner
    · exact hclose h
    · obtain ⟨t, hcast, hdone⟩ := bind_eq_ok_iff.mp h
      cases hdone
      exact mapError_eq_ok_iff.mp hcast

theorem onConnectionClose_of_calls {c : ConnId}
    (h : onConnectionCloseCalls platform traced s c = .ok (s', calls)) :
    onConnectionClose platform closeRoom s c = .ok s' := by
  unfold onConnectionCloseCalls at h
  unfold onConnectionClose
  cases hroute : s.connectionRoom c with
  | none =>
    rw [hroute] at h
    cases h
    rfl
  | some r =>
    rw [hroute] at h
    exact removeParticipant_of_calls hclose h

theorem closeConnection_of_calls {c : ConnId}
    (h : closeConnectionCalls platform traced s c = .ok (s', calls)) :
    closeConnection platform closeRoom s c = .ok s' := by
  unfold closeConnectionCalls at h
  unfold closeConnection
  split_ifs at h ⊢ with hc
  · cases h
    rfl
  · obtain ⟨⟨t, more⟩, hhandler, hdone⟩ := bind_eq_ok_iff.mp h
    cases hdone
    exact onConnectionClose_of_calls hclose hhandler

/-- The loop of `close_room`. -/
theorem closeEach_of_calls {ps : List Participant} {before : List CascadeCall}
    (h : ps.foldlM (closeEachCalls platform traced) (s, before) = .ok (s', calls)) :
    ps.foldlM (fun s p =>
      if s.isOpen p.connection then closeConnection platform closeRoom s p.connection
      else .ok s) s = .ok s' := by
  induction ps generalizing s before with
  | nil =>
    cases h
    rfl
  | cons p ps ih =>
    rw [List.foldlM_cons] at h ⊢
    obtain ⟨⟨t, more⟩, hround, hrest⟩ := bind_eq_ok_iff.mp h
    refine bind_eq_ok_iff.mpr ⟨t, ?_, ih hrest⟩
    unfold closeEachCalls at hround
    split_ifs at hround ⊢ with hopen
    · obtain ⟨⟨t', calls'⟩, hone, hdone⟩ := bind_eq_ok_iff.mp hround
      cases hdone
      exact closeConnection_of_calls hclose hone
    · cases hround
      rfl

end Nested

/-- A cascade that comes to its end leaves what `close_room` leaves. -/
theorem closeRoom_of_calls {depth : ℕ} {r : RoomRef}
    (h : closeRoomCalls platform depth s r = .ok (s', calls)) :
    closeRoom platform depth s r = .ok s' := by
  -- on the nesting; inside one call, on the participants still to be closed
  induction depth generalizing s s' r calls with
  | zero => cases h
  | succ depth ih =>
    rw [closeRoomCalls] at h
    rw [closeRoom]
    split_ifs at h ⊢ with hr
    · cases h
      rfl
    dsimp only at h ⊢
    obtain ⟨⟨t, more⟩, hloop, hdone⟩ := bind_eq_ok_iff.mp h
    refine bind_eq_ok_iff.mpr ⟨t, closeEach_of_calls ih hloop, ?_⟩
    split_ifs at hdone ⊢
    · cases hdone
      rfl
    · cases hdone
      rfl

theorem close_of_calls {c : ConnId} (h : s.closeCalls platform c = .ok (s', calls)) :
    s.close platform c = .ok s' :=
  closeConnection_of_calls closeRoom_of_calls h

end Erase

/-! ## The calls of a cascade -/

/-- The calls that close one connection. -/
def closing (c : ConnId) : List CascadeCall := [.close c, .closeHandler c]

/-- The calls that close the open ones among some participants. -/
def closingAll (s : State) (ps : List Participant) : List CascadeCall :=
  (ps.filter fun p => s.isOpen p.connection).flatMap fun p => closing p.connection

/-- The calls when the timer of a room fires. -/
def timerCalls (s : State) (r : RoomRef) : List CascadeCall :=
  s.closingAll (s.participants r).toList ++ [.closeCallback (s.heap r).roomId]

/-- The calls when the connection of its owner closes. -/
def ownerCalls (s : State) (r : RoomRef) (c : ConnId) : List CascadeCall :=
  closing c ++ (s.depart r c).timerCalls r

/-- What a cascade relies on when `r` closes. -/
structure Ready (s : State) (r : RoomRef) : Prop where
  opened : (s.heap r).closed = false
  callback : (s.heap r).closeCallback = true
  member : ∀ c, s.IsMember r c → s.connectionRoom c = some r
  route : ∀ c r', s.connectionRoom c = some r' → (s.heap r').roomId = (s.heap r).roomId → r' = r

theorem Housed.ready {s : State} (h : s.Housed) {r : RoomRef} (hr : (s.heap r).closed = false) :
    s.Ready r where
  opened := hr
  callback := (h.stored hr).2
  member _ hm := h.member hm
  route _ _ hc hid := h.route_inj hr hc hid

/-- The owner is erased before the room closes. -/
theorem Ready.depart {s : State} {r : RoomRef} (h : s.Ready r) (c : ConnId) :
    (s.depart r c).Ready r where
  opened := by simpa [State.depart] using h.opened
  callback := by simpa [State.depart] using h.callback
  member := by
    intro d hd
    obtain ⟨hd, hne⟩ := isMember_depart.mp hd
    simpa [State.depart, hne] using h.member d hd
  route := by
    intro d r' hd hid
    have hid' : (s.heap r').roomId = (s.heap r).roomId := by
      by_cases hrr : r' = r
      · rw [hrr]
      · simpa [State.depart, hrr] using hid
    by_cases hdc : d = c
    · simp [State.depart, hdc] at hd
    · exact h.route d r' (by simpa [State.depart, hdc] using hd) hid'

section Calls

variable {platform : Platform} {s : State}

variable (platform) in
/-- Closing a connection whose room is closed already calls nothing further. -/
theorem closeConnectionCalls_of_closed
    (traced : State → RoomRef → Except Cut (State × List CascadeCall)) {c : ConnId} {r : RoomRef}
    (hc : (s.connections c).closed = false) (hroute : s.connectionRoom c = some r)
    (hr : (s.heap r).closed = true) :
    closeConnectionCalls platform traced s c = .ok (s.shutAll fun d => d = c, closing c) := by
  have hstate := closeConnection_of_closed platform (fun s _ => .ok s) hc hroute hr
  simp only [closeConnection, hc, Bool.false_eq_true, if_false, onConnectionClose,
    modifyConnection, hroute, removeParticipant, hr, if_true] at hstate
  simp only [closeConnectionCalls, hc, Bool.false_eq_true, if_false, onConnectionCloseCalls,
    modifyConnection, hroute, removeParticipantCalls, hr, if_true, bind, Except.bind, pure,
    Except.pure, Except.ok.inj hstate]
  rfl

variable (platform) in
/-- The loop of `close_room`, over any part of the participants. -/
theorem closeEachCalls_foldlM
    (traced : State → RoomRef → Except Cut (State × List CascadeCall)) {r : RoomRef}
    (hr : (s.heap r).closed = true) (ps : List Participant)
    (hnd : (ps.map Participant.connection).Nodup)
    (hroute : ∀ p ∈ ps, s.isOpen p.connection = true → s.connectionRoom p.connection = some r)
    (before : List CascadeCall) :
    ∃ t, ps.foldlM (closeEachCalls platform traced) (s, before) =
      .ok (t, before ++ s.closingAll ps) := by
  -- on the participants still to be closed: closing one leaves the others open or not, and
  -- routed as they are
  induction ps generalizing s before with
  | nil => exact ⟨s, by simp [closingAll, pure, Except.pure]⟩
  | cons p ps ih =>
    rw [List.map_cons, List.nodup_cons] at hnd
    obtain ⟨hp, hnd⟩ := hnd
    have hnew := connection_ne_of_notMem hp
    rw [List.foldlM_cons]
    by_cases hopen : s.isOpen p.connection = true
    · have hone := closeConnectionCalls_of_closed platform traced
        (Connection.closed_of_isOpen hopen) (hroute p (List.mem_cons_self ..) hopen) hr
      have hsame : ∀ x ∈ ps, (s.shutAll fun d => d = p.connection).isOpen x.connection =
          s.isOpen x.connection := by
        intro x hx
        simp [shutAll, isOpen, hnew x hx]
      have hrest : ∀ x ∈ ps, (s.shutAll fun d => d = p.connection).isOpen x.connection = true →
          (s.shutAll fun d => d = p.connection).connectionRoom x.connection = some r := by
        intro x hx hxo
        rw [hsame x hx] at hxo
        simpa [shutAll, hnew x hx] using hroute x (List.mem_cons_of_mem _ hx) hxo
      obtain ⟨t, ht⟩ := ih (s := s.shutAll fun d => d = p.connection) hr hnd hrest
        (before ++ closing p.connection)
      have hcalls : (s.shutAll fun d => d = p.connection).closingAll ps = s.closingAll ps := by
        unfold closingAll
        rw [List.filter_congr hsame]
      have hround : closeEachCalls platform traced (s, before) p =
          .ok (s.shutAll fun d => d = p.connection, before ++ closing p.connection) := by
        rw [closeEachCalls, if_pos hopen, hone]
        rfl
      rw [hcalls] at ht
      refine ⟨t, ?_⟩
      rw [hround]
      refine ht.trans ?_
      simp [closingAll, hopen]
    · obtain ⟨t, ht⟩ := ih hr hnd (fun x hx => hroute x (List.mem_cons_of_mem _ hx)) before
      refine ⟨t, ?_⟩
      rw [show closeEachCalls platform traced (s, before) p = .ok (s, before) from if_neg hopen]
      refine ht.trans ?_
      simp [closingAll, hopen]

variable (platform) in
/-- Closing a room needs no nested `close_room`: every open participant is
closed, its handler finds the room closed, and the callback comes last. -/
theorem Ready.closeRoomCalls {r : RoomRef} (h : s.Ready r) (depth : ℕ) :
    State.closeRoomCalls platform (depth + 1) s r =
      .ok (s.teardown r, s.timerCalls r) := by
  have hshut : ((s.modifyRoom r fun room =>
      { room with closed := true, expireTimer := false, participants := ∅ }).heap r).closed =
      true := by simp [modifyRoom]
  have hroute : ∀ p ∈ (s.participants r).toList, s.isOpen p.connection = true →
      s.connectionRoom p.connection = some r := fun p hp _ => h.member p.connection ⟨p, hp, rfl⟩
  obtain ⟨t, ht⟩ := closeEachCalls_foldlM platform
    (State.closeRoomCalls platform depth) hshut (s.participants r).toList
    (s.participants r).nodup hroute []
  have hheap : t.heap r =
      { s.heap r with closed := true, expireTimer := false, participants := ∅ } := by
    have hloop := closeEach_of_calls closeRoom_of_calls ht
    rw [closeRoom_foldlM platform (State.closeRoom platform depth) hshut
      (s.participants r).toList (s.participants r).nodup hroute] at hloop
    rw [← Except.ok.inj hloop]
    simp [shutAll, modifyRoom]
  have hcalls : State.closeRoomCalls platform (depth + 1) s r =
      .ok (t.cleanupRoom (t.heap r).roomId,
        s.closingAll (s.participants r).toList ++ [.closeCallback (t.heap r).roomId]) := by
    rw [State.closeRoomCalls, if_neg (by simp [h.opened])]
    dsimp only
    rw [ht]
    simp [bind, Except.bind, pure, Except.pure, hheap, h.callback]
    rfl
  have hstate := closeRoom_of_calls hcalls
  rw [State.closeRoom_eq platform depth h.opened h.callback (fun c hc _ => h.member c hc) h.route]
    at hstate
  rw [hcalls, ← Except.ok.inj hstate, hheap]
  rfl

variable (platform) in
/-- The owner's own close comes first, then the room closes without the owner. -/
theorem Ready.closeCalls {r : RoomRef} (h : s.Ready r) {c : ConnId} {p : Participant}
    (hc : (s.connections c).closed = false) (hp : (s.participants r).find c = some p)
    (howner : p.isOwner = true) :
    s.closeCalls platform c =
      .ok ((s.teardown r).modifyConnection c Connection.shut, s.ownerCalls r c) := by
  obtain ⟨hmem, hkey⟩ := KeyedList.find_eq_some.mp hp
  have hmember : s.IsMember r c := ⟨p, hmem, hkey⟩
  have hroute := h.member c hmember
  have hp' : (s.heap r).participants.find c = some p := hp
  have hnested := (h.depart c).closeRoomCalls platform s.nextRef
  rw [teardown_depart hroute hmember] at hnested
  have hdepart : removeParticipantCalls platform (State.closeRoomCalls platform s.closeDepth)
      { s.modifyConnection c Connection.shut with
        connectionRoom := Function.update s.connectionRoom c none } r c =
      State.closeRoomCalls platform (s.nextRef + 1) (s.depart r c) r := by
    simp only [removeParticipantCalls, modifyConnection, h.opened, Bool.false_eq_true, if_false,
      participants, hp', howner, if_true]
    rfl
  have hhandler : onConnectionCloseCalls platform (State.closeRoomCalls platform s.closeDepth)
      (s.modifyConnection c Connection.shut) c =
      State.closeRoomCalls platform (s.nextRef + 1) (s.depart r c) r := by
    rw [← hdepart, onConnectionCloseCalls]
    simp only [modifyConnection, hroute]
  rw [State.closeCalls, closeConnectionCalls, if_neg (by simp [hc]), hhandler, hnested]
  rfl

end Calls

/-! ## Counting the calls -/

section Counting

variable (s : State) (c : ConnId)

/-- A call made once for each open participant is made once for `c`, or not at
all. -/
theorem count_closingAll {call : ConnId → CascadeCall}
    (hcall : ∀ d, (closing d).count (call c) = if d = c then 1 else 0) {ps : List Participant}
    (hnd : (ps.map Participant.connection).Nodup) :
    (s.closingAll ps).count (call c) =
      if (∃ p ∈ ps, p.connection = c) ∧ s.isOpen c = true then 1 else 0 := by
  induction ps with
  | nil => simp [closingAll]
  | cons p ps ih =>
    rw [List.map_cons, List.nodup_cons] at hnd
    obtain ⟨hp, hnd⟩ := hnd
    have hnew : p.connection = c → ¬∃ x ∈ ps, x.connection = c := by
      rintro rfl ⟨x, hx, hxp⟩
      exact connection_ne_of_notMem hp x hx hxp
    have hcons : s.closingAll (p :: ps) =
        (if s.isOpen p.connection then closing p.connection else []) ++ s.closingAll ps := by
      by_cases hopen : s.isOpen p.connection = true <;> simp [closingAll, hopen]
    rw [hcons, List.count_append, ih hnd]
    by_cases hpc : p.connection = c
    · have hrest := hnew hpc
      by_cases hopen : s.isOpen c = true
      · simp [hpc, hopen, hcall, hrest]
      · simp [hpc, hopen]
    · have hother : (if s.isOpen p.connection then closing p.connection else []).count (call c) =
          0 := by
        split_ifs
        · rw [hcall, if_neg hpc]
        · rfl
      simp [hother, hpc]

theorem count_close_closing (d : ConnId) :
    (closing d).count (.close c) = if d = c then 1 else 0 := by
  by_cases h : d = c <;> simp [closing, h]

theorem count_closeHandler_closing (d : ConnId) :
    (closing d).count (.closeHandler c) = if d = c then 1 else 0 := by
  by_cases h : d = c <;> simp [closing, h]

theorem not_mem_closingAll (ps : List Participant) {call : CascadeCall}
    (hclose : ∀ d, call ≠ .close d) (hhandler : ∀ d, call ≠ .closeHandler d) :
    call ∉ s.closingAll ps := by
  intro hmem
  obtain ⟨p, _, hp⟩ := List.mem_flatMap.mp hmem
  simp only [closing, List.mem_cons, List.not_mem_nil, or_false] at hp
  rcases hp with hp | hp
  · exact hclose _ hp
  · exact hhandler _ hp

end Counting

/-! ## The room is gone -/

/-- What a cascade has done when `r` has closed. `trigger` is the connection
whose close set it off, if one did. -/
structure Closes (s : State) (r : RoomRef) (trigger : Option ConnId) (s' : State)
    (calls : List CascadeCall) : Prop where
  removed : s'.rooms.find (s.heap r).roomId = none
  emptied : s'.participants r = ∅
  unrouted : ∀ c, s'.connectionRoom c ≠ some r
  closed : ∀ c, s.IsMember r c → s.isOpen c = true ∨ trigger = some c →
    (s'.connections c).closed = true
  closedOnce : ∀ c, calls.count (.close c) =
    if s.IsMember r c ∧ (s.isOpen c = true ∨ trigger = some c) then 1 else 0
  handledOnce : ∀ c, calls.count (.closeHandler c) =
    if s.IsMember r c ∧ (s.isOpen c = true ∨ trigger = some c) then 1 else 0
  calledBack : ∀ n, calls.count (.closeCallback n) = if n = (s.heap r).roomId then 1 else 0
  /-- nobody is told -/
  quiet : (∀ r' q, .broadcast r' q ∉ calls) ∧ ∀ c, s'.outbox c = s.outbox c
  otherRooms : ∀ r' ≠ r, s'.heap r' = s.heap r'
  otherNumbers : ∀ n ≠ (s.heap r).roomId, s'.rooms.find n = s.rooms.find n
  otherConnections : ∀ c, ¬s.IsMember r c → s'.connections c = s.connections c
  otherRoutes : ∀ c, s.connectionRoom c ≠ some r → s'.connectionRoom c = s.connectionRoom c

/-- The part of `Closes` that is about the state. -/
theorem teardown_gone (s : State) (r : RoomRef) :
    (s.teardown r).rooms.find (s.heap r).roomId = none ∧
    (s.teardown r).participants r = ∅ ∧
    (∀ c, (s.teardown r).connectionRoom c ≠ some r) ∧
    (∀ r' ≠ r, (s.teardown r).heap r' = s.heap r') ∧
    (∀ n ≠ (s.heap r).roomId, (s.teardown r).rooms.find n = s.rooms.find n) ∧
    (∀ c, ¬s.IsMember r c → (s.teardown r).connections c = s.connections c) ∧
    ∀ c, s.connectionRoom c ≠ some r → (s.teardown r).connectionRoom c = s.connectionRoom c := by
  refine ⟨?_, ?_, ?_, ?_, ?_, ?_, ?_⟩
  · rw [KeyedList.find_eq_none]
    intro e he
    exact (KeyedList.mem_erase.mp he).2
  · simp [participants, State.teardown]
  · intro c hc
    exact (connectionRoom_teardown.mp hc).2 rfl
  · intro r' hr'
    exact s.heap_teardown_of_ne hr'
  · intro n hn
    exact KeyedList.find_erase_of_ne hn
  · intro c hc
    simp [State.teardown, hc]
  · intro c hc
    simp [State.teardown, hc]

/-- The timer fires. -/
theorem teardown_closes (s : State) (r : RoomRef) :
    s.Closes r none (s.teardown r) (s.timerCalls r) := by
  obtain ⟨hremoved, hempty, hroutes, hrooms, hnumbers, hconnections, hrest⟩ := s.teardown_gone r
  have hnd := (s.participants r).nodup
  refine ⟨hremoved, hempty, hroutes, ?_, ?_, ?_, ?_, ⟨?_, fun c => by simp⟩, hrooms, hnumbers,
    hconnections, hrest⟩
  · rintro c hmember (hopen | hnone)
    · simp [State.teardown, hmember, hopen]
    · cases hnone
  · intro c
    rw [timerCalls, List.count_append, s.count_closingAll c (count_close_closing c) hnd]
    simp [IsMember, KeyedList.mem_def]
  · intro c
    rw [timerCalls, List.count_append, s.count_closingAll c (count_closeHandler_closing c) hnd]
    simp [IsMember, KeyedList.mem_def]
  · intro n
    have hnot : CascadeCall.closeCallback n ∉ s.closingAll (s.participants r).toList :=
      s.not_mem_closingAll _ (by simp) (by simp)
    rw [timerCalls, List.count_append, List.count_eq_zero_of_not_mem hnot]
    by_cases hn : n = (s.heap r).roomId <;> simp [hn, eq_comm]
  · intro r' q hmem
    rcases List.mem_append.mp hmem with hmem | hmem
    · exact s.not_mem_closingAll _ (by simp) (by simp) hmem
    · simp at hmem

/-- The owner's connection closes. -/
theorem teardown_closes_owner {s : State} {r : RoomRef} {c : ConnId} (hmember : s.IsMember r c) :
    s.Closes r (some c) ((s.teardown r).modifyConnection c Connection.shut)
      (s.ownerCalls r c) := by
  obtain ⟨hremoved, hempty, hroutes, hrooms, hnumbers, hconnections, hrest⟩ := s.teardown_gone r
  have hnd := ((s.depart r c).participants r).nodup
  -- whoever is closed in the loop is another open member
  have hloop : ∀ d, ((∃ p ∈ ((s.depart r c).participants r).toList, p.connection = d) ∧
      (s.depart r c).isOpen d = true) ↔ s.IsMember r d ∧ s.isOpen d = true ∧ d ≠ c := by
    intro d
    have hiff := isMember_depart (s := s) (r := r) (c := c) (d := d)
    rw [IsMember] at hiff
    simp only [KeyedList.mem_def] at hiff
    rw [hiff, depart_isOpen]
    simp only [Bool.and_eq_true, decide_eq_true_eq]
    tauto
  have hid : ((s.depart r c).heap r).roomId = (s.heap r).roomId := by simp [State.depart]
  have hcount : ∀ {call : ConnId → CascadeCall}, (∀ d e, (closing d).count (call e) =
      if d = e then 1 else 0) → (∀ d n, call d ≠ .closeCallback n) → ∀ d,
      (s.ownerCalls r c).count (call d) =
        if s.IsMember r d ∧ (s.isOpen d = true ∨ some c = some d) then 1 else 0 := by
    intro call hcall hother d
    have hlast : List.count (call d) [.closeCallback ((s.depart r c).heap r).roomId] = 0 :=
      List.count_eq_zero_of_not_mem (by simpa using hother d _)
    rw [ownerCalls, timerCalls, List.count_append, List.count_append, hcall,
      (s.depart r c).count_closingAll d (fun e => hcall e d) hnd, hlast]
    simp only [hloop]
    by_cases hdc : c = d
    · subst hdc
      simp [hmember]
    · simp [hdc, Ne.symm hdc]
  refine ⟨hremoved, hempty, hroutes, ?_, hcount (fun d e => count_close_closing e d) (by simp),
    hcount (fun d e => count_closeHandler_closing e d) (by simp), ?_, ⟨?_, fun d => by simp⟩,
    hrooms, hnumbers, ?_, hrest⟩
  · rintro d hd hopen
    by_cases hdc : d = c
    · simp [modifyConnection, hdc]
    · have ho : s.isOpen d = true := by
        rcases hopen with ho | hsame
        · exact ho
        · exact absurd (Option.some.inj hsame).symm hdc
      simp [modifyConnection, State.teardown, hdc, hd, ho]
  · intro n
    have hnot : CascadeCall.closeCallback n ∉
        (s.depart r c).closingAll ((s.depart r c).participants r).toList :=
      (s.depart r c).not_mem_closingAll _ (by simp) (by simp)
    rw [ownerCalls, timerCalls, List.count_append, List.count_append,
      List.count_eq_zero_of_not_mem hnot, hid]
    by_cases hn : n = (s.heap r).roomId <;> simp [closing, hn, eq_comm]
  · intro r' q hmem
    rcases List.mem_append.mp hmem with hmem | hmem
    · simp [closing] at hmem
    · rcases List.mem_append.mp hmem with hmem | hmem
      · exact (s.depart r c).not_mem_closingAll _ (by simp) (by simp) hmem
      · simp at hmem
  · intro d hd
    have hdc : d ≠ c := by
      rintro rfl
      exact hd hmember
    simpa [modifyConnection, hdc] using hconnections d hd

/-! ## A second trigger -/

section Persistence

variable {platform : Platform} {config : ServerConfig} {s s' t : State}

/-- A room that has closed stays closed. -/
theorem closed_of_step {r : RoomRef} {e : Event} (hstep : (system platform config).Step s e s')
    (h : r < s.nextRef ∧ (s.heap r).closed = true) :
    r < s'.nextRef ∧ (s'.heap r).closed = true := by
  refine step_establishes (I := fun s => r < s.nextRef ∧ (s.heap r).closed = true) ?_ ?_ hstep
  · intro t hbegin
    cases hbegin with
    | founded _ _ _ _ =>
      refine ⟨Nat.lt_succ_of_lt h.1, ?_⟩
      simpa [founded, Nat.ne_of_lt h.1] using h.2
    | _ => exact h
  · intro t t' hupdate ht
    cases hupdate with
    | @room r' room _ hkept =>
      refine ⟨ht.1, ?_⟩
      by_cases hr : r = r'
      · subst hr
        simpa [modifyRoom] using (hkept ht.2).1
      · simpa [modifyRoom, hr] using ht.2
    | _ => exact ht

/-- What keeps closed connections closed keeps `c` closed. -/
theorem modifyConnection_closed {c d : ConnId} {f : Connection → Connection}
    (hf : ∀ k : Connection, k.closed = true → (f k).closed = true)
    (h : c < s.nextConnectionId ∧ (s.connections c).closed = true) :
    c < (s.modifyConnection d f).nextConnectionId ∧
      ((s.modifyConnection d f).connections c).closed = true := by
  refine ⟨h.1, ?_⟩
  by_cases hc : c = d
  · subst hc
    simpa [modifyConnection] using hf _ h.2
  · simpa [modifyConnection, hc] using h.2

/-- A connection that has closed stays closed. -/
theorem connection_closed_of_step {c : ConnId} {e : Event}
    (hstep : (system platform config).Step s e s')
    (h : c < s.nextConnectionId ∧ (s.connections c).closed = true) :
    c < s'.nextConnectionId ∧ (s'.connections c).closed = true := by
  refine step_establishes
    (I := fun s => c < s.nextConnectionId ∧ (s.connections c).closed = true) ?_ ?_ hstep
  · intro t hbegin
    cases hbegin with
    | accept =>
      refine ⟨Nat.lt_succ_of_lt h.1, ?_⟩
      simpa [accept, Nat.ne_of_lt h.1] using h.2
    | socketDown _ => exact modifyConnection_closed (fun _ hk => hk) h
    | wrote _ _ _ =>
      exact modifyConnection_closed (fun k hk => (Connection.written_closed k).trans hk) h
    | _ => exact h
  · intro t t' hupdate ht
    cases hupdate with
    | @queued d frame q _ =>
      exact modifyConnection_closed (f := fun k => k.send frame q)
        (fun k hk => by simp [Connection.send, hk]) ht
    | shut _ => exact modifyConnection_closed (fun _ _ => rfl) ht
    | _ => exact ht

/-- From `s` on the timer of `r` and the connections that are closed do nothing
any more, however the run goes on. -/
def Settled (platform : Platform) (config : ServerConfig) (s : State) (r : RoomRef) : Prop :=
  ∀ es t, Run (system platform config) s es t →
    t.closeRoomCalls platform t.closeDepth r = .ok (t, []) ∧
    ∀ c, s.Accepted c → (s.connections c).closed = true → t.closeCalls platform c = .ok (t, [])

theorem settled_of_closed {r : RoomRef} (hr : r < s.nextRef ∧ (s.heap r).closed = true) :
    s.Settled platform config r := by
  intro es t hrun
  constructor
  · have ht := hrun.invariant (I := fun s => r < s.nextRef ∧ (s.heap r).closed = true)
      (fun _ _ _ hinv hstep => closed_of_step hstep hinv) hr
    rw [closeDepth, closeRoomCalls, if_pos ht.2]
  · intro c haccepted hclosed
    have ht := hrun.invariant
      (I := fun s => c < s.nextConnectionId ∧ (s.connections c).closed = true)
      (fun _ _ _ hinv hstep => connection_closed_of_step hstep hinv) ⟨haccepted.2, hclosed⟩
    rw [closeCalls, closeConnectionCalls, if_pos ht.2]

/-- A connection that is in no room just goes. -/
theorem closeCalls_of_lobby {c : ConnId} (hc : (s.connections c).closed = false)
    (hroute : s.connectionRoom c = none) :
    s.closeCalls platform c = .ok (s.modifyConnection c Connection.shut, closing c) := by
  have hhandler : onConnectionCloseCalls platform (State.closeRoomCalls platform s.closeDepth)
      (s.modifyConnection c Connection.shut) c =
      .ok (s.modifyConnection c Connection.shut, []) := by
    rw [onConnectionCloseCalls]
    simp only [modifyConnection, hroute]
  rw [closeCalls, closeConnectionCalls, if_neg (by simp [hc]), hhandler]
  rfl

end Persistence

/-- A cascade has come to its end: the room is gone, further triggers do
nothing, and a member whose socket was down already only goes itself. -/
structure Ends (platform : Platform) (config : ServerConfig) (s : State) (r : RoomRef)
    (trigger : Option ConnId) (s' : State) (calls : List CascadeCall) : Prop where
  closes : s.Closes r trigger s' calls
  settled : s'.Settled platform config r
  late : ∀ c, s.IsMember r c → s.isOpen c = false → trigger ≠ some c →
    s'.closeCalls platform c = .ok (s'.modifyConnection c Connection.shut, closing c)

section Ends

variable {platform : Platform} {config : ServerConfig} {s : State} {r : RoomRef}

theorem Housed.lt_nextRef (h : s.Housed) (hr : (s.heap r).closed = false) : r < s.nextRef := by
  by_contra hno
  rw [h.freshRoom (Nat.not_lt.mp hno)] at hr
  cases hr

/-- A member whose socket is down is left alone, but for its route. -/
theorem Housed.late (h : s.Housed) {c : ConnId} (hmember : s.IsMember r c)
    (hdown : s.isOpen c = false) :
    ((s.teardown r).connections c).closed = false ∧ (s.teardown r).connectionRoom c = none := by
  have hdown' : (s.connections c).isOpen = false := hdown
  constructor
  · simpa [State.teardown, isOpen, hdown'] using h.live hmember
  · simp [State.teardown, h.member hmember]

theorem Housed.ends_timer (h : s.Housed) (hr : (s.heap r).closed = false) :
    s.Ends platform config r none (s.teardown r) (s.timerCalls r) where
  closes := s.teardown_closes r
  settled := settled_of_closed ⟨h.lt_nextRef hr, by simp [State.teardown]⟩
  late := by
    intro c hmember hdown _
    obtain ⟨hc, hroute⟩ := h.late hmember hdown
    exact closeCalls_of_lobby hc hroute

theorem Housed.ends_owner (h : s.Housed) {c : ConnId} (hmember : s.IsMember r c) :
    s.Ends platform config r (some c) ((s.teardown r).modifyConnection c Connection.shut)
      (s.ownerCalls r c) where
  closes := teardown_closes_owner hmember
  settled := settled_of_closed
    ⟨h.lt_nextRef (h.route (h.member hmember)), by simp [State.teardown, modifyConnection]⟩
  late := by
    intro d hd hdown htrigger
    have hdc : d ≠ c := by
      rintro rfl
      exact htrigger rfl
    obtain ⟨hclosed, hroute⟩ := h.late hd hdown
    exact closeCalls_of_lobby (by simpa [modifyConnection, hdc] using hclosed) hroute

end Ends

end State

/-- From every reachable state, when the connection of the owner of a room
closes or its timer fires, the nested calls come to an end, and they end with
the room torn down, each call made once. -/
theorem close_cascade {platform : Platform} {config : ServerConfig} {s : State}
    (h : Reachable (system platform config) s) (r : RoomRef) :
    (∀ c p, (s.participants r).find c = some p → p.isOwner = true →
      ∃ s' calls, s.closeCalls platform c = .ok (s', calls) ∧ s.close platform c = .ok s' ∧
        s.Ends platform config r (some c) s' calls) ∧
    ((s.heap r).closed = false →
      ∃ s' calls, s.closeRoomCalls platform s.closeDepth r = .ok (s', calls) ∧
        s.closeRoom platform s.closeDepth r = .ok s' ∧
        s.Ends platform config r none s' calls) := by
  have hhoused := reachable_housed h
  constructor
  · intro c p hp howner
    obtain ⟨hmem, hkey⟩ := KeyedList.find_eq_some.mp hp
    have hmember : s.IsMember r c := ⟨p, hmem, hkey⟩
    have hready := hhoused.ready (hhoused.route (hhoused.member hmember))
    have hcalls := hready.closeCalls platform (hhoused.live hmember) hp howner
    exact ⟨_, _, hcalls, State.close_of_calls hcalls, hhoused.ends_owner hmember⟩
  · intro hr
    have hcalls := (hhoused.ready hr).closeRoomCalls platform s.nextRef
    exact ⟨_, _, hcalls, State.closeRoom_of_calls hcalls, hhoused.ends_timer hr⟩

/-- One connection creates a meeting and another joins it. -/
def meetingBeforeClose : List Event :=
  [.accept, .accept, .packet 1 { type := .createMeeting, userId := 7 } .plain,
    .packet 2 { type := .joinMeeting, userId := 8, payload := writeBe32 123456 } .plain]

/-- The owner goes, and the other one is closed once. -/
theorem close_cascade_of_two :
    ∃ s, replay (next reference {}) State.start meetingBeforeClose = some s ∧
      ∃ s' calls, s.closeCalls reference 1 = .ok (s', calls) ∧ calls.count (.close 2) = 1 ∧
        s'.participants 0 = ∅ := by
  have hfacts : (replay (next reference {}) State.start meetingBeforeClose).map
      (fun s => (((s.participants 0).find 1).map Participant.isOwner,
        (s.participants 0).toList.map Participant.connection, s.isOpen 2)) =
        some (some true, [2, 1], true) := by decide +kernel
  obtain ⟨s, hs, hfacts⟩ := Option.map_eq_some_iff.mp hfacts
  simp only [Prod.mk.injEq] at hfacts
  obtain ⟨howner, hmembers, hopen⟩ := hfacts
  obtain ⟨p, hp, howner⟩ := Option.map_eq_some_iff.mp howner
  obtain ⟨s', calls, hcalls, _, hends⟩ :=
    (close_cascade (reachable_of_replay reference {} hs) 0).1 1 p hp howner
  have hmember : s.IsMember 0 2 := by
    rw [State.isMember_iff_connection]
    exact hmembers ▸ List.mem_cons_self ..
  refine ⟨s, hs, s', calls, hcalls, ?_, hends.closes.emptied⟩
  rw [hends.closes.closedOnce 2, if_pos ⟨hmember, Or.inl hopen⟩]

end CCMeeting
