import CCMeeting.Client.Agreement
import CCMeeting.Client.Meeting
import CCMeeting.Server.Identity

/-! # The server and its clients

The composed system: the server, any number of clients, and what is on the way
between them. A step is one handler of the server or one slot of a client.

A connection hands its packets over in order, so what is on the way down is a
suffix of the queue of the connection. On the way up texts may be overtaken.
Frames do not occur: by `delivers_of_message` and `announces_of_packet` each of them
is decoded to what it was made from.
-/

namespace CCMeeting

open ByteString Transition State

/-- A client process. -/
abbrev ClientId := ℕ

/-! ## Channels -/

/-- The client's end of a connection. -/
structure Link where
  /-- `UserSession::userId` -/
  userId : Int64
  /-- how many packets of the server have been handled -/
  received : ℕ
  /-- the `Control` bucket of the send queue, with what is on the way to the server -/
  control : List Message
  /-- the `Text` bucket, likewise -/
  texts : List Message

namespace Link

/-- The link of a connection just made. -/
def opened (userId : Int64) : Link where
  userId := userId
  received := 0
  control := []
  texts := []

/-- `PriorityMessageQueue::bucket_for`. -/
def bucketFor (l : Link) : MessagePriority → List Message
  | .control => l.control
  | .text => l.texts

/-- `MessageHub::enqueue_send`. -/
def push (l : Link) (msg : Message) : Link :=
  match msg.sendPriority with
  | .control => { l with control := l.control ++ [msg] }
  | .text => { l with texts := l.texts ++ [msg] }

/-- The first message of a bucket has arrived. -/
def pop (l : Link) : MessagePriority → Link
  | .control => { l with control := l.control.tail }
  | .text => { l with texts := l.texts.tail }

@[simp] theorem push_userId (l : Link) (msg : Message) : (l.push msg).userId = l.userId := by
  unfold push
  split <;> rfl

@[simp] theorem push_received (l : Link) (msg : Message) :
    (l.push msg).received = l.received := by
  unfold push
  split <;> rfl

@[simp] theorem pop_userId (l : Link) (priority : MessagePriority) :
    (l.pop priority).userId = l.userId := by
  cases priority <;> rfl

@[simp] theorem pop_received (l : Link) (priority : MessagePriority) :
    (l.pop priority).received = l.received := by
  cases priority <;> rfl

theorem mem_push {l : Link} {msg msg' : Message} {priority : MessagePriority}
    (h : msg' ∈ (l.push msg).bucketFor priority) : msg' = msg ∨ msg' ∈ l.bucketFor priority := by
  unfold push at h
  split at h <;> cases priority <;> simp only [bucketFor, List.mem_append, List.mem_singleton] at h ⊢
  · tauto
  · exact Or.inr h
  · exact Or.inr h
  · tauto

theorem mem_pop {l : Link} {msg : Message} {priority priority' : MessagePriority}
    (h : msg ∈ (l.pop priority).bucketFor priority') : msg ∈ l.bucketFor priority' := by
  cases priority <;> cases priority' <;> simp only [pop, bucketFor] at h ⊢
  · exact List.mem_of_mem_tail h
  · exact h
  · exact h
  · exact List.mem_of_mem_tail h

end Link

/-- What the server gets for a message of a client. -/
def Message.packet (qt : Qt) (localUserId : Int64) (msg : Message) : Option Packet :=
  (MessageType.typeFromName msg.toWireType.typeName).map fun type =>
    { type, userId := localUserId.toUInt64, payload := msg.content qt }

/-- The messages `NetworkManager` sends for its user but for the room switches:
profiles are those of the user. -/
def Message.Sendable (localUserId : Int64) : Message → Prop
  | createMeeting .. | joinMeeting _ | closeCamera | sendText _ => True
  | sendUserProfile userId .. => userId = localUserId
  | _ => False

instance (localUserId : Int64) : (msg : Message) → Decidable (msg.Sendable localUserId)
  | .createMeeting .. | .joinMeeting _ | .closeCamera | .sendText _ =>
    inferInstanceAs (Decidable True)
  | .sendUserProfile userId .. => inferInstanceAs (Decidable (userId = localUserId))
  | .exitMeeting | .roomSettings _ | .createMeetingResponse _ | .joinMeetingResponse _
  | .recvText .. | .partnerJoin _ | .partnerExit _ | .partnerJoin2 _ | .closeCameraNotify _
  | .userProfileNotify .. | .roomSettingsNotify _ | .remoteHostClosedError | .otherNetError =>
    inferInstanceAs (Decidable False)

instance (userId : Int64) : Decidable (IsWireId userId) := inferInstanceAs (Decidable (_ ∧ _))

/-! ## The system -/

/-- The server, the links of its connections and the clients. -/
structure Network where
  server : State
  links : ConnId → Link
  clients : ClientId → Client

/-- What happens next. -/
inductive Action where
  /-- a client connects for a new meeting, as some user -/
  | connect (k : ClientId) (userId : Int64)
  /-- a client sends a message -/
  | send (k : ClientId) (msg : Message)
  /-- a check box of the settings popup is ticked -/
  | edit (k : ClientId) (allowRecord allowShare : Bool)
  /-- the first message of a bucket reaches the server -/
  | deliver (d : ConnId) (priority : MessagePriority) (oracle : Oracle)
  /-- the next packet of the server is handled by the client -/
  | receive (k : ClientId)
  /-- the window is closed, or the connection or the media session is lost -/
  | leave (k : ClientId)
  /-- the connection is down, and the client can connect again -/
  | disconnected (k : ClientId)
  /-- something happens at the server without a client -/
  | server (e : Event)

/-- The events of the server that no client takes part in. -/
def Event.IsInternal : Event → Bool
  | .close _ | .socketDown _ | .wrote _ | .expire _ => true
  | _ => false

namespace Network

/-- No connection and no client yet. -/
def start : Network where
  server := State.start
  links := fun _ => Link.opened 0
  clients := fun _ => Client.fresh

variable (platform : Platform) (config : ServerConfig) (qt : Qt)

/-- Let the server handle an event. -/
def handle (y : Network) (e : Event) : Option Network :=
  (next platform config y.server e).map fun s => { y with server := s }

def setLink (y : Network) (d : ConnId) (l : Link) : Network :=
  { y with links := Function.update y.links d l }

def setClient (y : Network) (k : ClientId) (c : Client) : Network :=
  { y with clients := Function.update y.clients k c }

/-- The step of an action, where it can happen. The account of a user has an
id as in `WireAgreement`. -/
def act (y : Network) : Action → Option Network
  | .connect k userId =>
    if (y.clients k).connection = none ∧ IsWireId userId then
      (y.handle platform config .accept).map fun y' =>
        (y'.setLink y.server.nextConnectionId (.opened userId)).setClient k
          { y.clients k with connection := some y.server.nextConnectionId }
    else none
  | .send k msg =>
    match (y.clients k).connection with
    | some d =>
      if msg.Sendable (y.links d).userId then some (y.setLink d ((y.links d).push msg)) else none
    | none => none
  | .edit k allowRecord allowShare =>
    match (y.clients k).connection, (y.clients k).emitSettings allowRecord allowShare with
    | some d, some flags =>
      some ((y.setLink d ((y.links d).push (.roomSettings flags))).setClient k
        ((y.clients k).settingsEdited flags))
    | _, _ => none
  | .deliver d priority oracle =>
    match (y.links d).bucketFor priority with
    | msg :: _ =>
      match msg.packet qt (y.links d).userId with
      | some packet =>
        (y.handle platform config (.packet d packet oracle)).map fun y' =>
          y'.setLink d ((y.links d).pop priority)
      | none => none
    | [] => none
  | .receive k =>
    match (y.clients k).connection with
    | some d =>
      match (y.server.outbox d)[(y.links d).received]? with
      | some q =>
        some ((y.setLink d { y.links d with received := (y.links d).received + 1 }).setClient k
          ((y.clients k).hear qt (y.links d).userId q))
      | none => none
    | none => none
  | .leave k =>
    match (y.clients k).connection with
    | some _ => some (y.setClient k (y.clients k).closeMeetingWindow)
    | none => none
  | .disconnected k =>
    if (y.clients k).sessionEnding then
      some (y.setClient k { y.clients k with connection := none, sessionEnding := false })
    else none
  | .server e => if e.IsInternal then y.handle platform config e else none

end Network

/-- The server with its clients. -/
def network (platform : Platform) (config : ServerConfig) (qt : Qt) : System Network Action where
  Init y := y = Network.start
  Step y a y' := y.act platform config qt a = some y'

/-- What a replay from the start ends in is reachable. -/
theorem network_of_replay {platform : Platform} {config : ServerConfig} {qt : Qt} {y : Network}
    {as : List Action}
    (h : replay (fun y a => y.act platform config qt a) Network.start as = some y) :
    Reachable (network platform config qt) y :=
  (Run.of_replay (fun _ _ _ hact => hact) h).reachable (.init rfl)

/-- Likewise where every action meets a condition. -/
theorem restrict_of_replay {platform : Platform} {config : ServerConfig} {qt : Qt}
    {C : Network → Action → Prop} [∀ y a, Decidable (C y a)] {y : Network} {as : List Action}
    (h : replay (guarded C fun y a => y.act platform config qt a) Network.start as = some y) :
    Reachable ((network platform config qt).restrict C) y :=
  (Run.of_replay (T := (network platform config qt).restrict C)
    (fun _ _ _ => guarded_step fun _ _ _ hact => hact) h).reachable (.init rfl)

/-! ## What an action does -/

namespace Network

section Acts

variable (platform : Platform) (config : ServerConfig) (qt : Qt)

/-- The step of an action, case by case. -/
inductive Acts (y : Network) : Action → Network → Prop where
  | connect {k : ClientId} {userId : Int64} {s' : State} : (y.clients k).connection = none →
      IsWireId userId → (system platform config).Step y.server .accept s' →
      Acts y (.connect k userId) ((({ y with server := s' } : Network).setLink
        y.server.nextConnectionId (.opened userId)).setClient k
          { y.clients k with connection := some y.server.nextConnectionId })
  | send {k : ClientId} {msg : Message} {d : ConnId} : (y.clients k).connection = some d →
      msg.Sendable (y.links d).userId →
      Acts y (.send k msg) (y.setLink d ((y.links d).push msg))
  | edit {k : ClientId} {allowRecord allowShare : Bool} {d : ConnId} {flags : UInt32} :
      (y.clients k).connection = some d →
      (y.clients k).emitSettings allowRecord allowShare = some flags →
      Acts y (.edit k allowRecord allowShare)
        ((y.setLink d ((y.links d).push (.roomSettings flags))).setClient k
          ((y.clients k).settingsEdited flags))
  | deliver {d : ConnId} {priority : MessagePriority} {oracle : Oracle} {msg : Message}
      {rest : List Message} {packet : Packet} {s' : State} :
      (y.links d).bucketFor priority = msg :: rest →
      msg.packet qt (y.links d).userId = some packet →
      (system platform config).Step y.server (.packet d packet oracle) s' →
      Acts y (.deliver d priority oracle)
        (({ y with server := s' } : Network).setLink d ((y.links d).pop priority))
  | receive {k : ClientId} {d : ConnId} {q : Queued} : (y.clients k).connection = some d →
      (y.server.outbox d)[(y.links d).received]? = some q →
      Acts y (.receive k)
        ((y.setLink d { y.links d with received := (y.links d).received + 1 }).setClient k
          ((y.clients k).hear qt (y.links d).userId q))
  | leave {k : ClientId} {d : ConnId} : (y.clients k).connection = some d →
      Acts y (.leave k) (y.setClient k (y.clients k).closeMeetingWindow)
  | disconnected {k : ClientId} : (y.clients k).sessionEnding = true →
      Acts y (.disconnected k)
        (y.setClient k { y.clients k with connection := none, sessionEnding := false })
  | server {e : Event} {s' : State} : e.IsInternal = true →
      (system platform config).Step y.server e s' →
      Acts y (.server e) { y with server := s' }

theorem handle_step {y y' : Network} {e : Event} (h : y.handle platform config e = some y') :
    ∃ s', (system platform config).Step y.server e s' ∧ y' = { y with server := s' } := by
  rcases Option.map_eq_some_iff.mp h with ⟨s', hs', rfl⟩
  exact ⟨s', next_step platform config hs', rfl⟩

theorem act_acts {y y' : Network} {a : Action} (h : y.act platform config qt a = some y') :
    Acts platform config qt y a y' := by
  -- one constructor of `Acts` for each action, with the guards the code checks
  cases a with
  | connect k userId =>
    simp only [act] at h
    split_ifs at h with hcan
    rcases Option.map_eq_some_iff.mp h with ⟨z, hz, rfl⟩
    rcases handle_step platform config hz with ⟨s', hs', rfl⟩
    exact .connect hcan.1 hcan.2 hs'
  | send k msg =>
    simp only [act] at h
    split at h
    · rename_i d hd
      split_ifs at h with hsend
      cases h
      exact .send hd hsend
    · cases h
  | edit k allowRecord allowShare =>
    simp only [act] at h
    split at h
    · rename_i d flags hd hflags
      cases h
      exact .edit hd hflags
    · cases h
  | deliver d priority oracle =>
    simp only [act] at h
    split at h
    · rename_i msg rest hbucket
      split at h
      · rename_i packet hpacket
        rcases Option.map_eq_some_iff.mp h with ⟨z, hz, rfl⟩
        rcases handle_step platform config hz with ⟨s', hs', rfl⟩
        exact .deliver hbucket hpacket hs'
      · cases h
    · cases h
  | receive k =>
    simp only [act] at h
    split at h
    · rename_i d hd
      split at h
      · rename_i q hq
        cases h
        exact .receive hd hq
      · cases h
    · cases h
  | leave k =>
    simp only [act] at h
    split at h
    · rename_i d hd
      cases h
      exact .leave hd
    · cases h
  | disconnected k =>
    simp only [act] at h
    split_ifs at h with hending
    cases h
    exact .disconnected hending
  | server e =>
    simp only [act] at h
    split_ifs at h with hinternal
    rcases handle_step platform config h with ⟨s', hs', rfl⟩
    exact .server hinternal hs'

end Acts

@[simp] theorem setLink_server (y : Network) (d : ConnId) (l : Link) :
    (y.setLink d l).server = y.server := rfl

@[simp] theorem setClient_server (y : Network) (k : ClientId) (c : Client) :
    (y.setClient k c).server = y.server := rfl

@[simp] theorem setLink_clients (y : Network) (d : ConnId) (l : Link) :
    (y.setLink d l).clients = y.clients := rfl

@[simp] theorem setClient_links (y : Network) (k : ClientId) (c : Client) :
    (y.setClient k c).links = y.links := rfl

theorem setLink_links (y : Network) (d d' : ConnId) (l : Link) :
    (y.setLink d l).links d' = if d' = d then l else y.links d' := by
  simp [setLink, Function.update_apply]

theorem setClient_clients (y : Network) (k k' : ClientId) (c : Client) :
    (y.setClient k c).clients k' = if k' = k then c else y.clients k' := by
  simp [setClient, Function.update_apply]

/-- What an action is to the server: an event, or nothing. -/
theorem Acts.server_step {platform : Platform} {config : ServerConfig} {qt : Qt} {y y' : Network}
    {a : Action} (h : Acts platform config qt y a y') :
    y'.server = y.server ∨ ∃ e, (system platform config).Step y.server e y'.server := by
  cases h with
  | connect _ _ hstep | deliver _ _ hstep | server _ hstep => exact Or.inr ⟨_, hstep⟩
  | send _ _ | edit _ _ | receive _ _ | leave _ | disconnected _ => exact Or.inl rfl

end Network

section Reachable

variable {platform : Platform} {config : ServerConfig} {qt : Qt}

/-- The server of the composed system runs as it does alone. -/
theorem network_server {y : Network} (h : Reachable (network platform config qt) y) :
    Reachable (system platform config) y.server := by
  refine h.invariant (I := fun y => Reachable (system platform config) y.server) ?_ ?_
  · intro y hinit
    rw [show y = Network.start from hinit]
    exact .init rfl
  · intro y a y' _ hreach hstep
    rcases (Network.act_acts platform config qt hstep).server_step with hsame | ⟨e, he⟩
    · rw [hsame]
      exact hreach
    · exact hreach.step he

theorem network_consistent (hmax : 0 < config.maxParticipantsPerRoom) {y : Network}
    (h : Reachable (network platform config qt) y) : y.server.Consistent :=
  reachable_consistent hmax (network_server h)

end Reachable

end CCMeeting
