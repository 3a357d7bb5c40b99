import CCMeeting.Server.Room

/-! # The meeting service

`meeting::RoomManager` and `service::MeetingService`: room numbers, creating
and joining a room, and the handlers a decoded packet is given to.
-/

namespace CCMeeting

open ByteString

/-! ## What a handler takes from outside -/

/-- `kRoomIdMin`. -/
def kRoomIdMin : UInt32 := 100000

/-- `kRoomIdMax`. -/
def kRoomIdMax : UInt32 := 999999

/-- `kRoomIdAttempts`. -/
def kRoomIdAttempts : ℕ := 32

/-- The values `random_room_id` returns one after the other. -/
structure Draws where
  value : ℕ → UInt32
  range : ∀ i, kRoomIdMin ≤ value i ∧ value i ≤ kRoomIdMax

/-- What the program does not fix: the room numbers drawn, and the iteration
order of the two hash maps after an insertion. -/
structure Oracle where
  draws : Draws
  participantOrder : KeyedList.Order Participant
  roomOrder : KeyedList.Order (UInt32 × RoomRef)

/-! ## Options -/

/-- `kMinParticipants`. -/
def kMinParticipants : UInt32 := 2

/-- `kMinDurationMinutes`. -/
def kMinDurationMinutes : UInt32 := 1

/-- `kMaxDurationMinutes`. -/
def kMaxDurationMinutes : UInt32 := 24 * 60

/-- `kDefaultDurationMinutes`. -/
def kDefaultDurationMinutes : UInt32 := 60

/-- `std::clamp`; the standard leaves `hi < lo` open, and this is what its
comparisons give there. -/
def clamp (v lo hi : UInt32) : UInt32 := if v < lo then lo else if hi < v then hi else v

/-- `parse_create_meeting_options`. -/
def parseCreateMeetingOptions (packet : Packet) (config : ServerConfig) : RoomOptions :=
  let hardMax := UInt32.ofNat config.maxParticipantsPerRoom
  let given := 8 ≤ packet.payload.length
  let maxParticipants := if given then readBe32 packet.payload else hardMax
  let durationMinutes :=
    if given then readBe32 (packet.payload.drop 4) else kDefaultDurationMinutes
  { maxParticipants := (clamp maxParticipants kMinParticipants hardMax).toNat
    durationMinutes := clamp durationMinutes kMinDurationMinutes kMaxDurationMinutes }

/-- The constructor of `Room`, up to `add_participant`. -/
def Room.construct (config : ServerConfig) (roomId : UInt32) (options : RoomOptions) : Room where
  roomId := roomId
  options :=
    { options with
      maxParticipants :=
        min (if options.maxParticipants = 0 then config.maxParticipantsPerRoom
          else options.maxParticipants) config.maxParticipantsPerRoom }
  expireTimer := false
  closed := false
  settings := kRoomSettingsDefault
  participants := ∅
  closeCallback := false

/-- `Room::start_expire_timer`. -/
def Room.startExpireTimer (room : Room) : Room :=
  if room.options.durationMinutes = 0 || room.closed then room
  else { room with expireTimer := true }

namespace State

/-! ## `RoomManager` -/

/-- `RoomManager::get_room`. -/
def getRoom (s : State) (roomId : UInt32) : Option RoomRef :=
  (s.rooms.find roomId).map Prod.snd

/-- The loop over `random_room_id`: the first free candidate, else `0`. -/
def drawRoomId (s : State) (draws : Draws) : UInt32 :=
  (((List.range kRoomIdAttempts).map draws.value).find?
    (fun candidate => (s.rooms.find candidate).isNone)).getD 0

/-- The loop over `_next_room_id++`, which wraps around: the number found and
the counter after it. -/
def sequentialRoomId (rooms : RoomTable) : ℕ → UInt32 → Option (UInt32 × UInt32)
  | 0, _ => none
  | fuel + 1, next =>
    if (rooms.find next).isNone then some (next, next + 1)
    else sequentialRoomId rooms fuel (next + 1)

/-- The number of a new room, and `_next_room_id` after it. When all `2 ^ 32`
numbers are taken the loop does not end. -/
def pickRoomId (s : State) (draws : Draws) : Except Stop (UInt32 × UInt32) :=
  if s.drawRoomId draws ≠ 0 then .ok (s.drawRoomId draws, s.nextRoomId)
  else
    match sequentialRoomId s.rooms 4294967296 s.nextRoomId with
    | some found => .ok found
    | none => .error .spins

/-- `RoomManager::create_room`. -/
def createRoom (config : ServerConfig) (s : State) (owner : ConnId) (options : RoomOptions)
    (ownerUserId : UInt64) (oracle : Oracle) : Except Stop (Option UInt32 × State) :=
  if !s.isOpen owner then .ok (none, s)
  else if config.maxRooms ≤ s.rooms.toList.length then .ok (none, s)
  else do
    let (roomId, next) ← s.pickRoomId oracle.draws
    let room := s.nextRef
    let s := { s with nextRoomId := next, nextRef := room + 1 }
    let s := s.modifyRoom room fun _ => Room.construct config roomId options
    let (_, s) := s.addParticipant room owner true ownerUserId oracle.participantOrder
    let s := s.modifyRoom room Room.startExpireTimer
    pure (some roomId, { s with rooms := s.rooms.emplace (roomId, room) oracle.roomOrder })

/-- `RoomManager::JoinResult`. -/
inductive JoinResult where
  | ok
  | notFound
  | full
  | closed
deriving DecidableEq, Repr

/-- `RoomManager::join_room`. -/
def joinRoom (s : State) (roomId : UInt32) (c : ConnId) (userId : UInt64) (oracle : Oracle) :
    JoinResult × State :=
  match s.getRoom roomId with
  | none => (.notFound, s)
  | some r =>
    if (s.heap r).closed then (.closed, s)
    else if (s.heap r).options.maxParticipants ≤ (s.participants r).toList.length then (.full, s)
    else
      match s.addParticipant r c false userId oracle.participantOrder with
      | (true, s) => (.ok, s)
      | (false, s) => (.full, s)

/-! ## `MeetingService` -/

section Service

variable (platform : Platform) (config : ServerConfig)

/-- `_connection_room.emplace`: a present entry stays. -/
def emplaceRoute (s : State) (c : ConnId) (r : RoomRef) : State :=
  match s.connectionRoom c with
  | some _ => s
  | none => { s with connectionRoom := Function.update s.connectionRoom c (some r) }

/-- A response packet with one big-endian integer, sent to the connection. -/
def respond (s : State) (c : ConnId) (type : MessageType) (value : UInt32) :
    Except Stop State := do
  let q : Queued := ⟨{ type, payload := writeBe32 value }, []⟩
  let encoded ← encodeOrStop platform q.packet
  pure (s.send c encoded q)

/-- `MeetingService::handle_create_meeting`. -/
def handleCreateMeeting (s : State) (c : ConnId) (packet : Packet) (oracle : Oracle) :
    Except Stop State :=
  if packet.userId = 0 then s.close platform c
  else do
    let options := parseCreateMeetingOptions packet config
    let (created, s) ← s.createRoom config c options packet.userId oracle
    match created with
    | some roomId =>
      match s.getRoom roomId with
      | none => .error .nullRoom
      | some r =>
        let s := s.modifyRoom r fun room => { room with closeCallback := true }
        (s.emplaceRoute c r).respond platform c .createMeetingResponse roomId
    | none => s.respond platform c .createMeetingResponse 0

/-- `MeetingService::handle_join_meeting`. -/
def handleJoinMeeting (s : State) (c : ConnId) (packet : Packet) (oracle : Oracle) :
    Except Stop State :=
  if packet.payload.length < 4 then s.close platform c
  else if packet.userId = 0 then s.close platform c
  else
    match s.joinRoom (readBe32 packet.payload) c packet.userId oracle with
    | (.ok, s) =>
      match s.getRoom (readBe32 packet.payload) with
      | none => .error .nullRoom
      | some r => do
        let s ← (s.emplaceRoute c r).respond platform c .joinMeetingResponse
          (readBe32 packet.payload)
        s.notifyUserJoined platform r c
    | (.full, s) => s.respond platform c .joinMeetingResponse 0xFFFFFFFF
    | (_, s) => s.respond platform c .joinMeetingResponse 0

/-- `MeetingService::handle_lobby_packet`. -/
def handleLobbyPacket (s : State) (c : ConnId) (packet : Packet) (oracle : Oracle) :
    Except Stop State :=
  match packet.type with
  | .createMeeting => s.handleCreateMeeting platform config c packet oracle
  | .joinMeeting => s.handleJoinMeeting platform c packet oracle
  | _ => s.close platform c

/-- What the loop of `on_connection_read` does with a decoded packet. -/
def dispatch (s : State) (c : ConnId) (packet : Packet) (oracle : Oracle) : Except Stop State :=
  match s.connectionRoom c with
  | some r => s.handlePacket platform r c packet
  | none => s.handleLobbyPacket platform config c packet oracle

end Service

end State

end CCMeeting
