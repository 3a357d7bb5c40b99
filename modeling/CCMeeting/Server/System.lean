import CCMeeting.Lib.Transition
import CCMeeting.Server.Service

/-! # The server as a transition system

Asio runs one handler at a time, so the server moves from handler to handler.
`system` takes one step for each packet a handler works on. `Server/Wire.lean`
has the server with its read buffers, where one step is one WebSocket message.
-/

namespace CCMeeting

open ByteString Transition

/-- What makes a handler run. -/
inductive Event where
  /-- a client connects -/
  | accept
  /-- a packet of an open connection is decoded -/
  | packet (c : ConnId) (packet : Packet) (oracle : Oracle)
  /-- a read or a write fails, or a frame is invalid -/
  | close (c : ConnId)
  /-- the socket goes down; the failing operation is reported later -/
  | socketDown (c : ConnId)
  /-- a write completes -/
  | wrote (c : ConnId)
  /-- the expiry timer of a room fires -/
  | expire (r : RoomRef)

/-- An oracle for concrete runs: one number is drawn again and again, and
insertions go to the front. -/
def Oracle.plain : Oracle where
  draws := ⟨fun _ => 123456, fun _ => by decide⟩
  participantOrder := .keep Participant
  roomOrder := .keep (UInt32 × RoomRef)

namespace State

/-- `c` is a connection that was created. -/
def Accepted (s : State) (c : ConnId) : Prop := 0 < c ∧ c < s.nextConnectionId

instance (s : State) (c : ConnId) : Decidable (s.Accepted c) :=
  inferInstanceAs (Decidable (_ ∧ _))

/-- The constructor of `Connection`, and `on_new_connection`. -/
def accept (s : State) : State :=
  { s with
    connections := Function.update s.connections s.nextConnectionId Connection.accepted
    nextConnectionId := s.nextConnectionId + 1 }

end State

/-- When an event can happen. A timer that has fired before `cancel()` still
runs its handler, on a room that is closed by then. -/
def Event.Enabled (s : State) : Event → Prop
  | accept => True
  | packet c _ _ => s.Accepted c ∧ s.isOpen c = true
  | close c => s.Accepted c
  | socketDown c => s.Accepted c
  | wrote c => s.Accepted c ∧ (s.connections c).writeInProgress = true ∧
      (s.connections c).queueEmpty = false
  | expire r => r < s.nextRef ∧ ((s.heap r).expireTimer = true ∨ (s.heap r).closed = true)

instance (s : State) : (e : Event) → Decidable (e.Enabled s)
  | .accept => inferInstanceAs (Decidable True)
  | .packet c _ _ => inferInstanceAs (Decidable (s.Accepted c ∧ s.isOpen c = true))
  | .close c => inferInstanceAs (Decidable (s.Accepted c))
  | .socketDown c => inferInstanceAs (Decidable (s.Accepted c))
  | .wrote c => inferInstanceAs (Decidable (s.Accepted c ∧
      (s.connections c).writeInProgress = true ∧ (s.connections c).queueEmpty = false))
  | .expire r => inferInstanceAs (Decidable (r < s.nextRef ∧
      ((s.heap r).expireTimer = true ∨ (s.heap r).closed = true)))

section System

variable (platform : Platform) (config : ServerConfig)

/-- The handler of an event. -/
def Event.handle (s : State) : Event → Except Stop State
  | accept => .ok s.accept
  | packet c p oracle => s.dispatch platform config c p oracle
  | close c => s.close platform c
  | socketDown c => .ok (s.modifyConnection c fun k => { k with socketOpen := false })
  | wrote c => .ok (s.modifyConnection c Connection.written)
  | expire r => State.closeRoom platform s.closeDepth s r

/-- The server between handlers. A handler that does not return ends the
process, so such a step is none. -/
def system : System State Event where
  Init s := s = State.start
  Step s e s' := e.Enabled s ∧ e.handle platform config s = .ok s'

variable {platform config} in
/-- `accept` always makes its step. -/
theorem eq_accept_of_step {s s' : State} (h : (system platform config).Step s .accept s') :
    s' = s.accept :=
  (Except.ok.inj h.2).symm

/-- The step an event makes, when it makes one. -/
def next (s : State) (e : Event) : Option State :=
  if e.Enabled s then (e.handle platform config s).toOption else none

theorem next_step {s s' : State} {e : Event} (h : next platform config s e = some s') :
    (system platform config).Step s e s' := by
  unfold next at h
  split_ifs at h with henabled
  cases hhandle : e.handle platform config s with
  | error stop =>
    rw [hhandle] at h
    cases h
  | ok t =>
    rw [hhandle] at h
    cases h
    exact ⟨henabled, hhandle⟩

/-- What a replay from the start ends in is reachable. -/
theorem reachable_of_replay {s : State} {es : List Event}
    (h : replay (next platform config) State.start es = some s) :
    Reachable (system platform config) s :=
  (Run.of_replay (fun _ _ _ => next_step platform config) h).reachable (.init rfl)

end System

end CCMeeting
