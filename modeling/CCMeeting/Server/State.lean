import Mathlib.Logic.Function.Basic
import CCMeeting.Lib.KeyedList
import CCMeeting.Protocol.Codec

/-! # The message server's state

The objects the server keeps alive and the maps that find them: connections,
rooms on the heap, `RoomManager::_rooms` and `MeetingService::_connection_room`.
Rooms are shared objects, so a map holds a reference and the object itself is
looked up in the heap.
-/

namespace CCMeeting

/-- `network::Connection::Id`, and the connection it identifies. The counter is
a 64-bit one; a run does not open that many connections. -/
abbrev ConnId := ℕ

/-- `std::shared_ptr<meeting::Room>`. -/
abbrev RoomRef := ℕ

/-- `config::ServerConfig`. -/
structure ServerConfig where
  maxRooms : ℕ := 64
  maxParticipantsPerRoom : ℕ := 1024
deriving Repr

/-! ## Connections -/

/-- A packet handed to `Connection::send`. The queue of the code holds its
encoded text; `source` is a history variable no code reads, the connections
the packet is about. -/
structure Queued where
  packet : Packet
  source : List ConnId
deriving DecidableEq, Repr

/-- `network::Connection`. `outbox` is everything ever put into `_write_queue`,
of which the first `flushed` entries have been written and popped; the socket
can be down before `close()` has run. -/
structure Connection where
  socketOpen : Bool
  closed : Bool
  outbox : List Queued
  flushed : ℕ
  writeInProgress : Bool
deriving DecidableEq, Repr

namespace Connection

/-- A connection just accepted. -/
def accepted : Connection where
  socketOpen := true
  closed := false
  outbox := []
  flushed := 0
  writeInProgress := false

/-- Memory no connection has been created in yet. -/
def unused : Connection := { accepted with socketOpen := false }

/-- `Connection::is_open`. -/
def isOpen (k : Connection) : Bool := !k.closed && k.socketOpen

/-- `_write_queue.empty()`. -/
def queueEmpty (k : Connection) : Bool := k.outbox.length ≤ k.flushed

/-- `Connection::do_write`: start the write of the front unless one runs. -/
def doWrite (k : Connection) : Connection :=
  if k.writeInProgress || k.queueEmpty || k.closed then k else { k with writeInProgress := true }

/-- `Connection::send`. -/
def send (k : Connection) (frame : ByteString) (q : Queued) : Connection :=
  if k.closed || frame.isEmpty then k else { k with outbox := k.outbox ++ [q] }.doWrite

/-- The first half of `Connection::close`: the flag is set and the socket is
closed; `notify_close` follows. -/
def shut (k : Connection) : Connection := { k with closed := true, socketOpen := false }

/-- The completion of `async_write` without an error. -/
def written (k : Connection) : Connection :=
  { k with writeInProgress := false, flushed := k.flushed + 1 }.doWrite

end Connection

/-! ## Rooms -/

/-- `meeting::Participant`. -/
structure Participant where
  connection : ConnId
  userId : UInt64
  isOwner : Bool
  displayName : ByteString := []
  avatarUrl : ByteString := []
deriving DecidableEq, Repr

/-- `meeting::RoomOptions`. -/
structure RoomOptions where
  maxParticipants : ℕ
  durationMinutes : UInt32
deriving Repr

/-- `Room::_participants`: keyed by the id of the participant's connection. -/
abbrev Participants := KeyedList Participant.connection

/-- `meeting::Room`. The close callback is only ever `cleanup_room` of the
service, so it is a flag here. -/
structure Room where
  roomId : UInt32
  options : RoomOptions
  expireTimer : Bool
  closed : Bool
  settings : UInt32
  participants : Participants
  closeCallback : Bool

/-- Memory no room has been created in yet. -/
def Room.unused : Room where
  roomId := 0
  options := ⟨0, 0⟩
  expireTimer := false
  closed := true
  settings := 0
  participants := ∅
  closeCallback := false

/-- `RoomManager::_rooms`: room numbers and the rooms stored under them. -/
abbrev RoomTable := KeyedList (Prod.fst : UInt32 × RoomRef → UInt32)

/-! ## The state -/

/-- The state of the server between two handlers, and inside one. -/
@[ext] structure State where
  connections : ConnId → Connection
  /-- `g_next_connection_id` -/
  nextConnectionId : ConnId
  heap : RoomRef → Room
  /-- the first reference no room has been created under -/
  nextRef : RoomRef
  /-- `RoomManager::_rooms` -/
  rooms : RoomTable
  /-- `RoomManager::_next_room_id` -/
  nextRoomId : UInt32
  /-- `MeetingService::_connection_room` -/
  connectionRoom : ConnId → Option RoomRef

namespace State

/-- The server before the first connection. -/
def start : State where
  connections := fun _ => Connection.unused
  nextConnectionId := 1
  heap := fun _ => Room.unused
  nextRef := 0
  rooms := ∅
  nextRoomId := 1
  connectionRoom := fun _ => none

/-- `conn->is_open()`. -/
def isOpen (s : State) (c : ConnId) : Bool := (s.connections c).isOpen

/-- Every packet queued to a connection so far, in order. -/
def outbox (s : State) (c : ConnId) : List Queued := (s.connections c).outbox

/-- The participants of a room. -/
def participants (s : State) (r : RoomRef) : Participants := (s.heap r).participants

/-- `c` is a key of the participants of `r`. -/
def IsMember (s : State) (r : RoomRef) (c : ConnId) : Prop :=
  ∃ p ∈ s.participants r, p.connection = c

instance (s : State) (r : RoomRef) (c : ConnId) : Decidable (s.IsMember r c) :=
  inferInstanceAs (Decidable (∃ p ∈ (s.participants r).toList, p.connection = c))

/-- `r` is the room stored in `_rooms` under its own number. -/
def Stored (s : State) (r : RoomRef) : Prop :=
  s.rooms.find (s.heap r).roomId = some ((s.heap r).roomId, r)

/-- Change one connection. -/
def modifyConnection (s : State) (c : ConnId) (f : Connection → Connection) : State :=
  { s with connections := Function.update s.connections c (f (s.connections c)) }

/-- Change one room object. -/
def modifyRoom (s : State) (r : RoomRef) (f : Room → Room) : State :=
  { s with heap := Function.update s.heap r (f (s.heap r)) }

/-- `conn->send(frame)`. -/
def send (s : State) (c : ConnId) (frame : ByteString) (q : Queued) : State :=
  s.modifyConnection c (fun k => k.send frame q)

end State

end CCMeeting
