import CCMeeting.Protocol.Encoding
import CCMeeting.Server.System

/-! # What the handlers do

Closed forms of the functions of `Server/Room.lean`: a broadcast is one
`deliver`, and closing a room is one `teardown`, in every state in which the
service routes to the room exactly its participants.
-/

namespace CCMeeting

/-! ## Write queues -/

namespace Connection

/-- A packet put on the queue of a connection that is not closed. -/
def push (k : Connection) (q : Queued) : Connection := { k with outbox := k.outbox ++ [q] }.doWrite

/-- Packets put on the queue one after the other. -/
def pushAll (k : Connection) (qs : List Queued) : Connection := qs.foldl push k

@[simp] theorem doWrite_outbox (k : Connection) : k.doWrite.outbox = k.outbox := by
  unfold doWrite
  split <;> rfl

@[simp] theorem doWrite_closed (k : Connection) : k.doWrite.closed = k.closed := by
  unfold doWrite
  split <;> rfl

@[simp] theorem doWrite_socketOpen (k : Connection) : k.doWrite.socketOpen = k.socketOpen := by
  unfold doWrite
  split <;> rfl

@[simp] theorem pushAll_nil (k : Connection) : k.pushAll [] = k := rfl

@[simp] theorem pushAll_append (k : Connection) (qs ps : List Queued) :
    k.pushAll (qs ++ ps) = (k.pushAll qs).pushAll ps := List.foldl_append ..

@[simp] theorem pushAll_outbox (k : Connection) (qs : List Queued) :
    (k.pushAll qs).outbox = k.outbox ++ qs := by
  induction qs generalizing k with
  | nil => simp
  | cons q qs ih =>
    rw [pushAll, List.foldl_cons, ← pushAll, ih]
    simp [push]

@[simp] theorem pushAll_closed (k : Connection) (qs : List Queued) :
    (k.pushAll qs).closed = k.closed := by
  induction qs generalizing k with
  | nil => rfl
  | cons q qs ih =>
    rw [pushAll, List.foldl_cons, ← pushAll, ih]
    simp [push]

@[simp] theorem pushAll_socketOpen (k : Connection) (qs : List Queued) :
    (k.pushAll qs).socketOpen = k.socketOpen := by
  induction qs generalizing k with
  | nil => rfl
  | cons q qs ih =>
    rw [pushAll, List.foldl_cons, ← pushAll, ih]
    simp [push]

@[simp] theorem pushAll_isOpen (k : Connection) (qs : List Queued) :
    (k.pushAll qs).isOpen = k.isOpen := by simp [isOpen]

@[simp] theorem written_outbox (k : Connection) : k.written.outbox = k.outbox := by simp [written]

@[simp] theorem written_closed (k : Connection) : k.written.closed = k.closed := by simp [written]

@[simp] theorem written_isOpen (k : Connection) : k.written.isOpen = k.isOpen := by
  simp [written, isOpen]

@[simp] theorem shut_outbox (k : Connection) : k.shut.outbox = k.outbox := rfl

@[simp] theorem shut_closed (k : Connection) : k.shut.closed = true := rfl

@[simp] theorem shut_isOpen (k : Connection) : k.shut.isOpen = false := rfl

theorem closed_of_isOpen {k : Connection} (h : k.isOpen = true) : k.closed = false := by
  unfold isOpen at h
  simp only [Bool.and_eq_true, Bool.not_eq_true'] at h
  exact h.1

/-- On a connection that is not closed, `send` of a text is `push`. -/
theorem send_eq_push {k : Connection} {frame : ByteString} (hk : k.closed = false)
    (hframe : frame ≠ []) (q : Queued) : k.send frame q = k.pushAll [q] := by
  have hempty : frame.isEmpty = false := by simpa using hframe
  simp [send, hk, hempty, pushAll, push]

end Connection

namespace State

/-! ## Delivery -/

/-- The packets `f c` on the queue of every connection `c`. -/
def deliver (s : State) (f : ConnId → List Queued) : State :=
  { s with connections := fun c => (s.connections c).pushAll (f c) }

/-- Packets for one connection. -/
def only (c : ConnId) (qs : List Queued) : ConnId → List Queued :=
  fun d => if d = c then qs else []

@[simp] theorem only_self (c : ConnId) (qs : List Queued) : only c qs c = qs := if_pos rfl

theorem only_of_ne {c d : ConnId} (h : d ≠ c) (qs : List Queued) : only c qs d = [] := if_neg h

@[simp] theorem only_nil (c : ConnId) : only c [] = fun _ => [] := by
  funext d
  simp [only]

/-- The connections a broadcast in `r` reaches. -/
def Hears (s : State) (r : RoomRef) (exclude c : ConnId) : Prop :=
  s.IsMember r c ∧ c ≠ exclude ∧ s.isOpen c = true

instance (s : State) (r : RoomRef) (exclude c : ConnId) : Decidable (s.Hears r exclude c) :=
  inferInstanceAs (Decidable (_ ∧ _ ∧ _))

/-- One packet for everyone a broadcast reaches. -/
def hearing (s : State) (r : RoomRef) (exclude : ConnId) (q : Queued) : ConnId → List Queued :=
  fun c => if s.Hears r exclude c then [q] else []

section Deliver

variable (s : State) (f g : ConnId → List Queued)

@[simp] theorem deliver_connections (c : ConnId) :
    (s.deliver f).connections c = (s.connections c).pushAll (f c) := rfl

@[simp] theorem deliver_outbox (c : ConnId) : (s.deliver f).outbox c = s.outbox c ++ f c := by
  simp [outbox]

@[simp] theorem deliver_isOpen (c : ConnId) : (s.deliver f).isOpen c = s.isOpen c := by
  simp [isOpen]

@[simp] theorem deliver_heap : (s.deliver f).heap = s.heap := rfl

@[simp] theorem deliver_rooms : (s.deliver f).rooms = s.rooms := rfl

@[simp] theorem deliver_connectionRoom : (s.deliver f).connectionRoom = s.connectionRoom := rfl

@[simp] theorem deliver_nextRef : (s.deliver f).nextRef = s.nextRef := rfl

@[simp] theorem deliver_nextConnectionId :
    (s.deliver f).nextConnectionId = s.nextConnectionId := rfl

@[simp] theorem deliver_participants (r : RoomRef) :
    (s.deliver f).participants r = s.participants r := rfl

@[simp] theorem deliver_isMember (r : RoomRef) (c : ConnId) :
    (s.deliver f).IsMember r c ↔ s.IsMember r c := Iff.rfl

@[simp] theorem deliver_hears (r : RoomRef) (exclude c : ConnId) :
    (s.deliver f).Hears r exclude c ↔ s.Hears r exclude c := by
  simp [Hears]

@[simp] theorem deliver_deliver : (s.deliver f).deliver g = s.deliver (fun c => f c ++ g c) := by
  simp [deliver]

@[simp] theorem deliver_nothing : (s.deliver fun _ => []) = s := rfl

end Deliver

/-- `send` of a text to a connection that is not closed. -/
theorem send_eq_deliver {s : State} {c : ConnId} {frame : ByteString}
    (hc : (s.connections c).closed = false) (hframe : frame ≠ []) (q : Queued) :
    s.send c frame q = s.deliver (only c [q]) := by
  have h : ∀ d, (Function.update s.connections c ((s.connections c).send frame q)) d =
      (s.connections d).pushAll (only c [q] d) := by
    intro d
    by_cases hd : d = c
    · subst hd
      simp [only, Connection.send_eq_push hc hframe]
    · simp [only, hd]
  simp only [send, modifyConnection, deliver]
  exact congrArg (fun k => { s with connections := k }) (funext h)

section Closed

variable (platform : Platform)

/-! ## Sending and broadcasting -/

theorem encodeOrStop_of_encode {packet : Packet} {text : ByteString}
    (h : encode platform packet = .ok text) : encodeOrStop platform packet = .ok text := by
  rw [encodeOrStop, h]
  rfl

/-- The packet is not a text: it can always be encoded. -/
theorem encode_of_not_text {packet : Packet} (h : packet.type.isTextType = false) :
    ∃ text, encode platform packet = .ok text :=
  (encode_isOk_iff platform packet).mpr (by simp [h])

theorem sendTo_eq {s : State} {c : ConnId} {q : Queued} (hc : s.isOpen c = true)
    (hq : q.packet.type.isTextType = false) :
    s.sendTo platform c q = .ok (s.deliver (only c [q])) := by
  obtain ⟨text, htext⟩ := encode_of_not_text platform hq
  have hclosed : (s.connections c).closed = false := Connection.closed_of_isOpen hc
  rw [sendTo, if_pos hc, encodeOrStop_of_encode platform htext]
  exact congrArg Except.ok (send_eq_deliver hclosed (encode_ne_nil htext) q)

/-- A connection that is not among those of the participants is none of theirs. -/
theorem connection_ne_of_notMem {c : ConnId} {ps : List Participant}
    (h : c ∉ ps.map Participant.connection) : ∀ p ∈ ps, p.connection ≠ c := by
  intro p hp heq
  exact h (List.mem_map.mpr ⟨p, hp, heq⟩)

/-- The loop of `broadcast`, over any part of the participants. -/
theorem broadcast_foldl {s : State} {q : Queued} {exclude : ConnId} {frame : ByteString}
    (hframe : frame ≠ []) (ps : List Participant)
    (hnd : (ps.map Participant.connection).Nodup) :
    ps.foldl (fun s p =>
        if p.connection = exclude then s
        else if s.isOpen p.connection then s.send p.connection frame q
        else s) s =
      s.deliver (fun c =>
        if (∃ p ∈ ps, p.connection = c) ∧ c ≠ exclude ∧ s.isOpen c = true then [q] else []) := by
  -- on the participants still to be served; by `hnd` the head does not come up again, so its
  -- outbox is not touched by the rest of the loop
  induction ps generalizing s with
  | nil => simp
  | cons p ps ih =>
    rw [List.map_cons, List.nodup_cons] at hnd
    obtain ⟨hp, hnd⟩ := hnd
    have hnew : ¬∃ x ∈ ps, x.connection = p.connection := by
      rintro ⟨x, hx, hxp⟩
      exact connection_ne_of_notMem hp x hx hxp
    rw [List.foldl_cons]
    split_ifs with hex hopen
    · rw [ih hnd]
      congr 1
      funext c
      by_cases hc : c = exclude
      · simp [hc]
      · have : ¬p.connection = c := fun h => hc (h.symm.trans hex)
        simp [hc, this]
    · rw [send_eq_deliver (Connection.closed_of_isOpen hopen) hframe, ih hnd, deliver_deliver]
      congr 1
      funext c
      by_cases hc : c = p.connection
      · subst hc
        simp [only, hnew, hex, hopen]
      · have : ¬p.connection = c := fun h => hc h.symm
        simp [only, hc, this]
    · rw [ih hnd]
      congr 1
      funext c
      by_cases hc : p.connection = c
      · subst hc
        simp [hopen]
      · simp [hc]

/-- A broadcast puts the packet once on the queue of each connection it
reaches. -/
theorem broadcast_eq {s : State} {r : RoomRef} {q : Queued} (exclude : ConnId)
    (hq : q.packet.type.isTextType = true → Utf8.Valid q.packet.payload) :
    s.broadcast platform r q exclude = .ok (s.deliver (s.hearing r exclude q)) := by
  obtain ⟨text, htext⟩ := (encode_isOk_iff platform q.packet).mpr hq
  rw [broadcast, encodeOrStop_of_encode platform htext]
  exact congrArg Except.ok
    (broadcast_foldl (encode_ne_nil htext) _ (s.participants r).nodup)

/-! ## Closing a room -/

/-- Some connections closed and no longer routed. -/
def shutAll (s : State) (cs : ConnId → Prop) [DecidablePred cs] : State :=
  { s with
    connections := fun c => if cs c then (s.connections c).shut else s.connections c
    connectionRoom := fun c => if cs c then none else s.connectionRoom c }

/-- What is left of the server once `r` has closed. -/
def teardown (s : State) (r : RoomRef) : State :=
  { s with
    connections := fun c =>
      if s.IsMember r c ∧ s.isOpen c = true then (s.connections c).shut else s.connections c
    heap := Function.update s.heap r
      { s.heap r with closed := true, expireTimer := false, participants := ∅ }
    rooms := s.rooms.erase (s.heap r).roomId
    connectionRoom := fun c =>
      if s.connectionRoom c = some r then none else s.connectionRoom c }

theorem heap_teardown_of_ne (s : State) {r r' : RoomRef} (hrr : r' ≠ r) :
    (s.teardown r).heap r' = s.heap r' := Function.update_of_ne hrr ..

/-- The connections of the other rooms keep their routes. -/
theorem connectionRoom_teardown {s : State} {r r' : RoomRef} {d : ConnId} :
    (s.teardown r).connectionRoom d = some r' ↔ s.connectionRoom d = some r' ∧ r' ≠ r := by
  by_cases hd : s.connectionRoom d = some r
  · simp only [teardown, hd, if_true]
    constructor
    · intro hd'
      cases hd'
    · rintro ⟨hd', hrr⟩
      exact absurd (Option.some.inj hd').symm hrr
  · simp only [teardown, hd, if_false]
    constructor
    · intro hd'
      refine ⟨hd', ?_⟩
      rintro rfl
      exact hd hd'
    · exact fun hd' => hd'.1

theorem isMember_teardown {s : State} {r r' : RoomRef} {d : ConnId} :
    (s.teardown r).IsMember r' d ↔ s.IsMember r' d ∧ r' ≠ r := by
  by_cases hrr : r' = r
  · subst hrr
    simp [IsMember, participants, teardown]
  · simp [IsMember, participants, teardown, hrr]

/-- Closing a connection whose room is closed already. -/
theorem closeConnection_of_closed (closeRoom : State → RoomRef → Except Stop State) {s : State}
    {c : ConnId} {r : RoomRef} (hc : (s.connections c).closed = false)
    (hroute : s.connectionRoom c = some r) (hr : (s.heap r).closed = true) :
    closeConnection platform closeRoom s c = .ok (s.shutAll fun d => d = c) := by
  have hk : Function.update s.connections c (s.connections c).shut =
      fun d => if d = c then (s.connections d).shut else s.connections d := by
    funext d
    by_cases hd : d = c
    · subst hd
      simp
    · simp [hd]
  have hroom : Function.update s.connectionRoom c none =
      fun d => if d = c then none else s.connectionRoom d := by
    funext d
    by_cases hd : d = c
    · subst hd
      simp
    · simp [hd]
  simp [closeConnection, hc, onConnectionClose, modifyConnection, hroute, removeParticipant, hr,
    shutAll, hk, hroom]

/-- The loop of `close_room`, over any part of the participants. -/
theorem closeRoom_foldlM (closeRoom : State → RoomRef → Except Stop State) {s : State}
    {r : RoomRef} (hr : (s.heap r).closed = true) (ps : List Participant)
    (hnd : (ps.map Participant.connection).Nodup)
    (hroute : ∀ p ∈ ps, s.isOpen p.connection = true → s.connectionRoom p.connection = some r) :
    ps.foldlM (fun s p =>
        if s.isOpen p.connection then closeConnection platform closeRoom s p.connection
        else .ok s) s =
      .ok (s.shutAll fun c => (∃ p ∈ ps, p.connection = c) ∧ s.isOpen c = true) := by
  -- on the participants still to be closed; `hroute` survives a close because the others keep
  -- their routes
  induction ps generalizing s with
  | nil => simp [shutAll, pure, Except.pure]
  | cons p ps ih =>
    rw [List.map_cons, List.nodup_cons] at hnd
    obtain ⟨hp, hnd⟩ := hnd
    have hnew := connection_ne_of_notMem hp
    rw [List.foldlM_cons]
    by_cases hopen : s.isOpen p.connection = true
    · have hstep := closeConnection_of_closed platform closeRoom
        (Connection.closed_of_isOpen hopen) (hroute p (List.mem_cons_self ..) hopen) hr
      have hrest : ∀ x ∈ ps, (s.shutAll fun d => d = p.connection).isOpen x.connection = true →
          (s.shutAll fun d => d = p.connection).connectionRoom x.connection = some r := by
        intro x hx hxo
        have hne := hnew x hx
        simp only [shutAll, isOpen, hne, if_false] at hxo ⊢
        exact hroute x (List.mem_cons_of_mem _ hx) hxo
      rw [if_pos hopen, hstep]
      refine (ih (s := s.shutAll fun d => d = p.connection) hr hnd hrest).trans ?_
      congr 1
      simp only [shutAll, isOpen]
      congr 1
      all_goals
        funext c
        by_cases hc : c = p.connection
        · subst hc
          have hopen' : (s.connections p.connection).isOpen = true := hopen
          simp [hopen']
        · have hc' : ¬p.connection = c := fun h => hc h.symm
          simp [hc, hc']
    · rw [if_neg hopen]
      refine (ih hr hnd (fun x hx => hroute x (List.mem_cons_of_mem _ hx))).trans ?_
      congr 2
      funext c
      by_cases hc : p.connection = c
      · subst hc
        simp [hopen]
      · simp [hc]

/-- `close_room`, in a state in which the room is open, only its participants
are routed to it, and no other routed room has its number. -/
theorem closeRoom_eq {s : State} {r : RoomRef} (depth : ℕ) (hr : (s.heap r).closed = false)
    (hcallback : (s.heap r).closeCallback = true)
    (hroute : ∀ c, s.IsMember r c → s.isOpen c = true → s.connectionRoom c = some r)
    (hids : ∀ c r', s.connectionRoom c = some r' →
      (s.heap r').roomId = (s.heap r).roomId → r' = r) :
    closeRoom platform (depth + 1) s r = .ok (s.teardown r) := by
  have hloop := closeRoom_foldlM platform (closeRoom platform depth)
    (s := s.modifyRoom r fun room =>
      { room with closed := true, expireTimer := false, participants := ∅ })
    (r := r) (by simp [modifyRoom]) (s.participants r).toList (s.participants r).nodup
    (fun p hp ho => hroute p.connection ⟨p, hp, rfl⟩ ho)
  rw [closeRoom, if_neg (by simp [hr])]
  dsimp only
  rw [hloop]
  simp only [bind, Except.bind, pure, Except.pure, shutAll, modifyRoom, Function.update_self]
  rw [if_pos hcallback]
  simp only [cleanupRoom, teardown, isOpen]
  congr 2
  funext c
  by_cases hm : (∃ p ∈ (s.participants r).toList, p.connection = c) ∧
      (s.connections c).isOpen = true
  · -- an open participant: its own close handler has erased the route
    have hrouted : s.connectionRoom c = some r := hroute c hm.1 hm.2
    simp [hm, hrouted]
  · simp only [hm, if_false]
    cases hcr : s.connectionRoom c with
    | none => simp
    | some r' =>
      by_cases hrr : r' = r
      · subst hrr
        simp
      · have hne : (s.heap r').roomId ≠ (s.heap r).roomId := fun h => hrr (hids c r' hcr h)
        simp [hrr, hne]

/-! ## Closing a connection -/

/-- `c` closed, no longer routed, and taken out of the participants of `r`. -/
def depart (s : State) (r : RoomRef) (c : ConnId) : State :=
  { s with
    connections := Function.update s.connections c (s.connections c).shut
    heap := Function.update s.heap r
      { s.heap r with participants := (s.heap r).participants.erase c }
    connectionRoom := Function.update s.connectionRoom c none }

theorem isMember_iff_connection {s : State} {r : RoomRef} {c : ConnId} :
    s.IsMember r c ↔ c ∈ (s.heap r).participants.toList.map Participant.connection := by
  simp [IsMember, participants, KeyedList.mem_def]

theorem isMember_depart {s : State} {r : RoomRef} {c d : ConnId} :
    (s.depart r c).IsMember r d ↔ s.IsMember r d ∧ d ≠ c := by
  simp only [IsMember, participants, depart, Function.update_self, KeyedList.mem_erase]
  constructor
  · rintro ⟨p, ⟨hp, hpc⟩, rfl⟩
    exact ⟨⟨p, hp, rfl⟩, hpc⟩
  · rintro ⟨⟨p, hp, rfl⟩, hpc⟩
    exact ⟨p, ⟨hp, hpc⟩, rfl⟩

/-- When the owner leaves, the room goes as it does otherwise, and the owner's
connection is closed as well. -/
theorem teardown_depart {s : State} {r : RoomRef} {c : ConnId}
    (hroute : s.connectionRoom c = some r) (hmember : s.IsMember r c) :
    (s.depart r c).teardown r = (s.teardown r).modifyConnection c Connection.shut := by
  have hconnections : ((s.depart r c).teardown r).connections =
      ((s.teardown r).modifyConnection c Connection.shut).connections := by
    funext d
    simp only [teardown, isMember_depart, modifyConnection]
    by_cases hd : d = c
    · subst hd
      by_cases ho : s.isOpen d = true <;> simp [hmember, ho, depart, Connection.shut]
    · have hconn : (s.depart r c).connections d = s.connections d := by simp [depart, hd]
      by_cases hm : s.IsMember r d ∧ (s.connections d).isOpen = true <;>
        simp [hd, isOpen, hconn, hm]
  have hheap : ((s.depart r c).teardown r).heap = (s.teardown r).heap := by
    simp [teardown, depart]
  have hrooms : ((s.depart r c).teardown r).rooms = (s.teardown r).rooms := by
    simp [teardown, depart]
  have hrouted : ((s.depart r c).teardown r).connectionRoom = (s.teardown r).connectionRoom := by
    funext d
    by_cases hd : d = c
    · subst hd
      simp [teardown, depart, hroute]
    · simp [teardown, depart, hd]
  exact State.ext hconnections rfl hheap rfl hrooms rfl hrouted

/-- `PartnerExit` of a participant. -/
def exitNotice (p : Participant) : Queued :=
  ⟨{ type := .partnerExit, userId := p.userId }, [p.connection]⟩

theorem close_of_closed {s : State} {c : ConnId} (hc : (s.connections c).closed = true) :
    s.close platform c = .ok s := by
  rw [close, closeConnection, if_pos hc]

/-- A lobby connection just goes. -/
theorem close_of_lobby {s : State} {c : ConnId} (hc : (s.connections c).closed = false)
    (hroute : s.connectionRoom c = none) :
    s.close platform c = .ok (s.modifyConnection c Connection.shut) := by
  simp [close, closeConnection, hc, onConnectionClose, modifyConnection, hroute]

/-- A participant that is not the owner leaves, and the others are told. -/
theorem close_of_member {s : State} {c : ConnId} {r : RoomRef} {p : Participant}
    (hc : (s.connections c).closed = false) (hroute : s.connectionRoom c = some r)
    (hr : (s.heap r).closed = false) (hp : (s.participants r).find c = some p)
    (howner : p.isOwner = false) :
    s.close platform c =
      .ok ((s.depart r c).deliver ((s.depart r c).hearing r 0 (exitNotice p))) := by
  have hkey : p.connection = c := (KeyedList.find_eq_some.mp hp).2
  have hp' : (s.heap r).participants.find c = some p := hp
  have hcast : (s.depart r c).broadcast platform r (exitNotice p) 0 =
      .ok ((s.depart r c).deliver ((s.depart r c).hearing r 0 (exitNotice p))) :=
    broadcast_eq platform 0 (by simp [exitNotice, MessageType.isTextType])
  rw [← hcast]
  simp [close, closeConnection, hc, onConnectionClose, modifyConnection, hroute,
    removeParticipant, hr, participants, hp', howner, modifyRoom, depart, exitNotice, hkey]

/-- The owner leaves, and the room closes. -/
theorem close_of_owner {s : State} {c : ConnId} {r : RoomRef} {p : Participant}
    (hc : (s.connections c).closed = false) (hroute : s.connectionRoom c = some r)
    (hr : (s.heap r).closed = false) (hcallback : (s.heap r).closeCallback = true)
    (hp : (s.participants r).find c = some p) (howner : p.isOwner = true)
    (hmembers : ∀ d, s.IsMember r d → s.connectionRoom d = some r)
    (hids : ∀ d r', s.connectionRoom d = some r' →
      (s.heap r').roomId = (s.heap r).roomId → r' = r) :
    s.close platform c = .ok ((s.depart r c).teardown r) := by
  have hp' : (s.heap r).participants.find c = some p := hp
  -- the owner is erased first, then its callback closes the room as it stands without the owner
  have hclose : closeRoom platform s.closeDepth (s.depart r c) r =
      .ok ((s.depart r c).teardown r) := by
    refine closeRoom_eq platform s.nextRef ?_ ?_ ?_ ?_
    · simpa [depart] using hr
    · simpa [depart] using hcallback
    · rintro d ⟨q, hq, rfl⟩ -
      have hq' : q ∈ (s.participants r).erase c := by simpa [depart, participants] using hq
      obtain ⟨hqm, hqc⟩ := KeyedList.mem_erase.mp hq'
      have := hmembers q.connection ⟨q, hqm, rfl⟩
      simpa [depart, hqc] using this
    · intro d r' hd hid
      have hid' : (s.heap r').roomId = (s.heap r).roomId := by
        by_cases hrr : r' = r
        · rw [hrr]
        · simpa [depart, hrr] using hid
      by_cases hdc : d = c
      · simp [depart, hdc] at hd
      · exact hids d r' (by simpa [depart, hdc] using hd) hid'
  rw [← hclose]
  simp [close, closeConnection, hc, onConnectionClose, modifyConnection, hroute,
    removeParticipant, hr, participants, hp', howner, modifyRoom, depart]

/-! ## Joining -/

/-- `PartnerJoin` of a participant. -/
def joinNotice (p : Participant) : Queued :=
  ⟨{ type := .partnerJoin, userId := p.userId }, [p.connection]⟩

/-- The participants of `r` but one. -/
def others (s : State) (r : RoomRef) (c : ConnId) : List Participant :=
  (s.participants r).toList.filter (fun p => p.connection ≠ c)

/-- `PartnerJoin2` with some participants. -/
def partnerList (ps : List Participant) : Queued :=
  ⟨{ type := .partnerJoin2, payload := ps.flatMap fun p => writeBe64 p.userId },
    ps.map Participant.connection⟩

/-- The switches of a room for a newcomer. -/
def settingsNotice (flags : UInt32) : Queued := ⟨makeRoomSettingsPacket flags, []⟩

/-- The replay of the profile of a participant, when there is one. -/
def profileNotices (p : Participant) : List Queued :=
  if p.userId = 0 || (p.displayName.isEmpty && p.avatarUrl.isEmpty) then []
  else [⟨makeUserProfilePacket p, [p.connection]⟩]

/-- What a newcomer is sent about the room. -/
def welcome (s : State) (r : RoomRef) (c : ConnId) : List Queued :=
  [partnerList (s.others r c), settingsNotice (s.heap r).settings] ++
    (s.others r c).flatMap profileNotices

theorem replayProfiles_eq {s : State} {c : ConnId} (hc : s.isOpen c = true) (p : Participant) :
    replayProfiles platform c s p =
      .ok (s.deliver (only c (if p.connection = c then [] else profileNotices p))) := by
  unfold replayProfiles profileNotices
  split_ifs with h1 h2
  · rw [only_nil, deliver_nothing]
  · rw [only_nil, deliver_nothing]
  · exact sendTo_eq platform hc rfl

/-- The replay loop, over any part of the participants. -/
theorem replayProfiles_foldlM {s : State} {c : ConnId} (hc : s.isOpen c = true)
    (ps : List Participant) :
    ps.foldlM (replayProfiles platform c) s =
      .ok (s.deliver (only c
        ((ps.filter fun p => p.connection ≠ c).flatMap profileNotices))) := by
  induction ps generalizing s with
  | nil => simp [pure, Except.pure]
  | cons p ps ih =>
    rw [List.foldlM_cons, replayProfiles_eq platform hc]
    refine (ih (by simpa using hc)).trans ?_
    rw [deliver_deliver]
    congr 2
    funext d
    by_cases hp : p.connection = c
    · simp [only, hp]
    · by_cases hd : d = c
      · simp [only, hp, hd]
      · simp [only, hd]

/-- A newcomer is announced to the others, and is sent the others, the
switches and the profiles. -/
theorem notifyUserJoined_eq {s : State} {r : RoomRef} {c : ConnId} {self : Participant}
    (hr : (s.heap r).closed = false) (hself : (s.participants r).find c = some self)
    (hc : s.isOpen c = true) :
    s.notifyUserJoined platform r c =
      .ok (s.deliver fun d => s.hearing r c (joinNotice self) d ++ only c (s.welcome r c) d) := by
  have hkey : self.connection = c := (KeyedList.find_eq_some.mp hself).2
  have hcast := broadcast_eq platform (s := s) (r := r) (q := joinNotice self) c
    (by simp [joinNotice, MessageType.isTextType])
  simp only [joinNotice, hkey] at hcast
  rw [notifyUserJoined, if_neg (by simp [hr]), hself]
  dsimp only
  rw [hcast]
  simp only [bind, Except.bind]
  rw [sendTo_eq platform (by simpa using hc) rfl]
  dsimp only
  rw [sendTo_eq platform (by simpa using hc) rfl]
  dsimp only
  rw [replayProfiles_foldlM platform (by simpa using hc)]
  simp only [deliver_deliver, deliver_participants, deliver_heap, joinNotice, hkey]
  congr 2
  funext d
  by_cases hd : d = c
  · simp [only, hd, welcome, partnerList, settingsNotice, others]
  · simp [only, hd]

/-- Whether or not the target is open, `send_to` of a packet that is not a
text returns. -/
theorem sendTo_isOk (s : State) (c : ConnId) {q : Queued}
    (hq : q.packet.type.isTextType = false) : ∃ s', s.sendTo platform c q = .ok s' := by
  by_cases hc : s.isOpen c = true
  · exact ⟨_, sendTo_eq platform hc hq⟩
  · exact ⟨s, by rw [sendTo, if_neg hc]⟩

theorem replayProfiles_isOk (s : State) (c : ConnId) (ps : List Participant) :
    ∃ s', ps.foldlM (replayProfiles platform c) s = .ok s' := by
  induction ps generalizing s with
  | nil => exact ⟨s, rfl⟩
  | cons p ps ih =>
    have hp : ∃ s', replayProfiles platform c s p = .ok s' := by
      unfold replayProfiles
      split_ifs
      · exact ⟨s, rfl⟩
      · exact ⟨s, rfl⟩
      · exact sendTo_isOk platform s c rfl
    obtain ⟨s₁, h₁⟩ := hp
    obtain ⟨s₂, h₂⟩ := ih s₁
    exact ⟨s₂, by rw [List.foldlM_cons, h₁]; exact h₂⟩

/-- Nothing `notify_user_joined` sends is a text, so in every state it
returns. -/
theorem notifyUserJoined_isOk (s : State) (r : RoomRef) (c : ConnId) :
    ∃ s', s.notifyUserJoined platform r c = .ok s' := by
  unfold notifyUserJoined
  split_ifs with hr
  · exact ⟨s, rfl⟩
  cases hself : (s.participants r).find c with
  | none => exact ⟨s, rfl⟩
  | some self =>
    have hcast := broadcast_eq platform (s := s) (r := r)
      (q := ⟨{ type := .partnerJoin, userId := self.userId }, [c]⟩) c
      (by simp [MessageType.isTextType])
    dsimp only
    rw [hcast]
    simp only [bind, Except.bind]
    obtain ⟨s₁, h₁⟩ := sendTo_isOk platform
      (s.deliver (s.hearing r c ⟨{ type := .partnerJoin, userId := self.userId }, [c]⟩)) c
      (q := partnerList (s.others r c)) rfl
    simp only [partnerList, others] at h₁
    simp only [deliver_participants]
    rw [h₁]
    dsimp only
    obtain ⟨s₂, h₂⟩ := sendTo_isOk platform s₁ c
      (q := settingsNotice (s₁.heap r).settings) rfl
    simp only [settingsNotice] at h₂
    rw [h₂]
    exact replayProfiles_isOk platform s₂ c _

/-! ## What changes and what does not -/

end Closed

section Observations

variable (s : State) (r r' : RoomRef) (c d : ConnId)

@[simp] theorem modifyRoom_outbox (f : Room → Room) : (s.modifyRoom r f).outbox c = s.outbox c :=
  rfl

@[simp] theorem modifyRoom_isOpen (f : Room → Room) : (s.modifyRoom r f).isOpen c = s.isOpen c :=
  rfl

@[simp] theorem modifyRoom_connectionRoom (f : Room → Room) :
    (s.modifyRoom r f).connectionRoom = s.connectionRoom := rfl

@[simp] theorem shut_outbox :
    (s.modifyConnection c Connection.shut).outbox d = s.outbox d := by
  by_cases hd : d = c
  · subst hd
    simp [modifyConnection, outbox]
  · simp [modifyConnection, outbox, hd]

@[simp] theorem shut_isOpen :
    (s.modifyConnection c Connection.shut).isOpen d = (s.isOpen d && decide (d ≠ c)) := by
  by_cases hd : d = c
  · subst hd
    simp [modifyConnection, isOpen]
  · simp [modifyConnection, isOpen, hd]

@[simp] theorem down_outbox :
    (s.modifyConnection c fun k => { k with socketOpen := false }).outbox d = s.outbox d := by
  by_cases hd : d = c
  · subst hd
    simp [modifyConnection, outbox]
  · simp [modifyConnection, outbox, hd]

@[simp] theorem down_isOpen :
    (s.modifyConnection c fun k => { k with socketOpen := false }).isOpen d =
      (s.isOpen d && decide (d ≠ c)) := by
  by_cases hd : d = c
  · subst hd
    simp [modifyConnection, isOpen, Connection.isOpen]
  · simp [modifyConnection, isOpen, hd]

@[simp] theorem written_outbox :
    (s.modifyConnection c Connection.written).outbox d = s.outbox d := by
  by_cases hd : d = c
  · subst hd
    simp [modifyConnection, outbox]
  · simp [modifyConnection, outbox, hd]

@[simp] theorem written_isOpen :
    (s.modifyConnection c Connection.written).isOpen d = s.isOpen d := by
  by_cases hd : d = c
  · subst hd
    simp [modifyConnection, isOpen]
  · simp [modifyConnection, isOpen, hd]

@[simp] theorem accept_isOpen :
    s.accept.isOpen d = if d = s.nextConnectionId then true else s.isOpen d := by
  by_cases hd : d = s.nextConnectionId
  · simp [accept, isOpen, hd, Connection.accepted, Connection.isOpen]
  · simp [accept, isOpen, hd]

@[simp] theorem accept_outbox :
    s.accept.outbox d = if d = s.nextConnectionId then [] else s.outbox d := by
  by_cases hd : d = s.nextConnectionId
  · simp [accept, outbox, hd, Connection.accepted]
  · simp [accept, outbox, hd]

@[simp] theorem depart_outbox : (s.depart r c).outbox d = s.outbox d :=
  shut_outbox s c d

@[simp] theorem depart_isOpen : (s.depart r c).isOpen d = (s.isOpen d && decide (d ≠ c)) :=
  shut_isOpen s c d

@[simp] theorem teardown_outbox : (s.teardown r).outbox d = s.outbox d := by
  simp only [outbox, teardown]
  split_ifs <;> rfl

@[simp] theorem teardown_isOpen :
    (s.teardown r).isOpen d = (s.isOpen d && !decide (s.IsMember r d)) := by
  by_cases hm : s.IsMember r d
  · by_cases ho : s.isOpen d = true
    · have ho' : (s.connections d).isOpen = true := ho
      simp [isOpen, teardown, hm, ho']
    · have ho' : (s.connections d).isOpen = false := by simpa [isOpen] using ho
      simp [isOpen, teardown, ho']
  · simp [isOpen, teardown, hm]

theorem teardown_participants_of_ne (h : r' ≠ r) :
    (s.teardown r).participants r' = s.participants r' := by
  simp [participants, teardown, h]

theorem depart_participants_of_ne (h : r' ≠ r) :
    (s.depart r c).participants r' = s.participants r' := by
  simp [participants, depart, h]

theorem depart_participants :
    (s.depart r c).participants r = (s.participants r).erase c := by
  simp [participants, depart]

end Observations

section Closed

variable (platform : Platform)

/-! ## Packets of a participant -/

/-- The switches a `RoomSettings` packet asks for; a short payload keeps the
present ones. -/
def requestedSettings (packet : Packet) (settings : UInt32) : UInt32 :=
  if 4 ≤ packet.payload.length then readBe32 packet.payload else settings

/-- What a packet of participant `sender` makes of its room, what is broadcast
because of it, and whom the broadcast leaves out. -/
inductive Relayed (room : Room) (c : ConnId) (sender : Participant) (packet : Packet) :
    Room → Queued → ConnId → Prop where
  | text : packet.type = .textSend →
      Relayed room c sender packet room
        ⟨{ packet with type := .textRecv, userId := sender.userId }, [c]⟩ c
  | camera : packet.type = .closeCamera →
      Relayed room c sender packet room ⟨{ type := .closeCamera, userId := sender.userId }, [c]⟩ c
  | profile : packet.type = .userProfile →
      Relayed room c sender packet
        { room with
          participants := room.participants.modify c (fun p => p.applyProfile packet.payload)
            (fun p => p.applyProfile_connection packet.payload) }
        ⟨{ packet with userId := (sender.applyProfile packet.payload).userId }, [c]⟩ c
  | settings : packet.type = .roomSettings → sender.isOwner = true →
      Relayed room c sender packet
        { room with settings := requestedSettings packet room.settings }
        ⟨{ type := .roomSettingsNotify, userId := sender.userId,
           payload := writeBe32 (requestedSettings packet room.settings) }, [c]⟩ 0

/-- Packets no room does anything about. -/
def Ignored (sender : Participant) (packet : Packet) : Prop :=
  packet.type ≠ .textSend ∧ packet.type ≠ .closeCamera ∧ packet.type ≠ .userProfile ∧
    (packet.type = .roomSettings → sender.isOwner = false)

/-- A relayed packet rewrites the participants one by one, and leaves the keys
and the owner as they are. -/
theorem Relayed.exists_map {room room' : Room} {c exclude : ConnId} {sender : Participant}
    {packet : Packet} {q : Queued} (h : Relayed room c sender packet room' q exclude) :
    ∃ f : Participant → Participant, room'.participants.toList = room.participants.toList.map f ∧
      ∀ p, (f p).connection = p.connection ∧ (f p).isOwner = p.isOwner := by
  cases h with
  | text _ => exact ⟨id, by simp, fun p => ⟨rfl, rfl⟩⟩
  | camera _ => exact ⟨id, by simp, fun p => ⟨rfl, rfl⟩⟩
  | profile _ =>
    refine ⟨fun p => if p.connection = c then p.applyProfile packet.payload else p, rfl, ?_⟩
    intro p
    by_cases hp : p.connection = c <;> simp [hp]
  | settings _ _ => exact ⟨id, by simp, fun p => ⟨rfl, rfl⟩⟩

theorem Relayed.connections {room room' : Room} {c exclude : ConnId} {sender : Participant}
    {packet : Packet} {q : Queued} (h : Relayed room c sender packet room' q exclude) :
    room'.participants.toList.map Participant.connection =
      room.participants.toList.map Participant.connection := by
  obtain ⟨f, hf, hkeep⟩ := h.exists_map
  rw [hf, List.map_map]
  exact List.map_congr_left fun p _ => (hkeep p).1

/-- Whoever was a participant before a relayed packet is one after it. -/
theorem Relayed.isMember {s : State} {r : RoomRef} {room' : Room} {c exclude : ConnId}
    {sender : Participant} {packet : Packet} {q : Queued}
    (h : Relayed (s.heap r) c sender packet room' q exclude) (r' : RoomRef) (d : ConnId) :
    (s.modifyRoom r fun _ => room').IsMember r' d ↔ s.IsMember r' d := by
  rw [isMember_iff_connection, isMember_iff_connection]
  by_cases hr : r' = r
  · subst hr
    simp [modifyRoom, h.connections]
  · simp [modifyRoom, hr]

@[simp] theorem Relayed.closed {room room' : Room} {c exclude : ConnId} {sender : Participant}
    {packet : Packet} {q : Queued} (h : Relayed room c sender packet room' q exclude) :
    room'.closed = room.closed := by
  cases h <;> rfl

@[simp] theorem Relayed.roomId {room room' : Room} {c exclude : ConnId} {sender : Participant}
    {packet : Packet} {q : Queued} (h : Relayed room c sender packet room' q exclude) :
    room'.roomId = room.roomId := by
  cases h <;> rfl

@[simp] theorem Relayed.closeCallback {room room' : Room} {c exclude : ConnId}
    {sender : Participant} {packet : Packet} {q : Queued}
    (h : Relayed room c sender packet room' q exclude) :
    room'.closeCallback = room.closeCallback := by
  cases h <;> rfl

theorem Relayed.hearing {s : State} {r : RoomRef} {room' : Room} {c exclude : ConnId}
    {sender : Participant} {packet : Packet} {q : Queued}
    (h : Relayed (s.heap r) c sender packet room' q exclude) :
    (s.modifyRoom r fun _ => room').hearing r exclude q = s.hearing r exclude q := by
  funext d
  simp only [State.hearing, Hears, h.isMember r d]
  rfl

/-- A relayed packet that can be encoded: the room changes and the broadcast
is delivered. -/
theorem handlePacket_of_relayed {s : State} {r : RoomRef} {room' : Room} {c exclude : ConnId}
    {sender : Participant} {packet : Packet} {q : Queued} (hr : (s.heap r).closed = false)
    (hsender : (s.participants r).find c = some sender)
    (h : Relayed (s.heap r) c sender packet room' q exclude)
    (hq : packet.type = .textSend → Utf8.Valid packet.payload) :
    s.handlePacket platform r c packet =
      .ok ((s.modifyRoom r fun _ => room').deliver (s.hearing r exclude q)) := by
  have hencode : q.packet.type.isTextType = true → Utf8.Valid q.packet.payload := by
    cases h with
    | text htype => exact fun _ => hq htype
    | camera _ => simp [MessageType.isTextType]
    | profile htype => simp [MessageType.isTextType, htype]
    | settings _ _ => simp [MessageType.isTextType]
  have hcast := broadcast_eq platform (s := s.modifyRoom r fun _ => room') (r := r)
    exclude hencode
  rw [h.hearing] at hcast
  rw [← hcast, handlePacket, if_neg (by simp [hr]), hsender]
  cases h with
  | text htype => simp [htype, modifyRoom]
  | camera htype => simp [htype, modifyRoom]
  | profile htype => simp [htype, modifyRoom]
  | settings htype howner => simp [htype, howner, modifyRoom, requestedSettings]

theorem handlePacket_of_ignored {s : State} {r : RoomRef} {c : ConnId}
    {sender : Participant} {packet : Packet} (hr : (s.heap r).closed = false)
    (hsender : (s.participants r).find c = some sender) (h : Ignored sender packet) :
    s.handlePacket platform r c packet = .ok s := by
  obtain ⟨htext, hcamera, hprofile, hsettings⟩ := h
  rw [handlePacket, if_neg (by simp [hr]), hsender]
  cases htype : packet.type <;> simp_all

/-- A text that is not UTF-8 cannot be relayed. -/
theorem handlePacket_of_broken {s : State} {r : RoomRef} {c : ConnId}
    {sender : Participant} {packet : Packet} (hr : (s.heap r).closed = false)
    (hsender : (s.participants r).find c = some sender) (htype : packet.type = .textSend)
    (hq : ¬Utf8.Valid packet.payload) :
    s.handlePacket platform r c packet = .error (.uncaught .typeError316) := by
  have hfail : encode platform { packet with type := .textRecv, userId := sender.userId } =
      .error .typeError316 := by
    have hnone : ¬∃ text, encode platform
        { packet with type := .textRecv, userId := sender.userId } = .ok text := by
      rw [encode_isOk_iff]
      simpa [MessageType.isTextType] using hq
    unfold encode at hnone ⊢
    cases hd : platform.dump (encodeDocument
        { packet with type := .textRecv, userId := sender.userId }) with
    | none => rfl
    | some text => simp [hd] at hnone
  rw [handlePacket, if_neg (by simp [hr]), hsender]
  simp only [htype]
  rw [broadcast, encodeOrStop, hfail]
  rfl

/-- Every packet is relayed or ignored. -/
theorem relayed_or_ignored (room : Room) (c : ConnId) (sender : Participant) (packet : Packet) :
    (∃ room' q exclude, Relayed room c sender packet room' q exclude) ∨
      Ignored sender packet := by
  by_cases htext : packet.type = .textSend
  · exact Or.inl ⟨_, _, _, .text htext⟩
  by_cases hcamera : packet.type = .closeCamera
  · exact Or.inl ⟨_, _, _, .camera hcamera⟩
  by_cases hprofile : packet.type = .userProfile
  · exact Or.inl ⟨_, _, _, .profile hprofile⟩
  by_cases hsettings : packet.type = .roomSettings ∧ sender.isOwner = true
  · exact Or.inl ⟨_, _, _, .settings hsettings.1 hsettings.2⟩
  · refine Or.inr ⟨htext, hcamera, hprofile, fun h => ?_⟩
    simpa [h] using hsettings

end Closed

end State

end CCMeeting
