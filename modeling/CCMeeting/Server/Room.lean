import CCMeeting.Server.State

/-! # Rooms

`meeting::Room` and the parts of `Connection` and `MeetingService` its close
cascade runs through. Closing a connection calls back into the service, which
removes the participant, which may close the room, which closes connections:
the cycle is tied by `closeRoom`, and the functions on the way take the room
closing they call as an argument.
-/

namespace CCMeeting

open ByteString

/-- Why a handler does not return: an exception leaves `io_context.run()`, the
search for a free room number never ends, or a null room is dereferenced. -/
inductive Stop where
  | uncaught (e : JsonException)
  | spins
  | nullRoom
deriving DecidableEq, Repr

/-- `Codec::encode` called from a handler, which catches nothing. -/
def encodeOrStop (platform : Platform) (packet : Packet) : Except Stop ByteString :=
  (encode platform packet).mapError .uncaught

namespace State

variable (platform : Platform)

/-! ## Sending -/

/-- `Room::send_to`. -/
def sendTo (s : State) (target : ConnId) (q : Queued) : Except Stop State :=
  if s.isOpen target then do
    let encoded ← encodeOrStop platform q.packet
    pure (s.send target encoded q)
  else .ok s

/-- `Room::broadcast`: encoded once, then sent to each open participant but
the excluded connection (`0` excludes nobody). -/
def broadcast (s : State) (r : RoomRef) (q : Queued) (exclude : ConnId) : Except Stop State := do
  let encoded ← encodeOrStop platform q.packet
  pure ((s.participants r).toList.foldl
    (fun s p =>
      if p.connection = exclude then s
      else if s.isOpen p.connection then s.send p.connection encoded q
      else s) s)

/-! ## Leaving and closing -/

/-- `MeetingService::cleanup_room`. -/
def cleanupRoom (s : State) (roomId : UInt32) : State :=
  { s with
    connectionRoom := fun c =>
      match s.connectionRoom c with
      | some r => if (s.heap r).roomId = roomId then none else some r
      | none => none
    rooms := s.rooms.erase roomId }

/-- `Room::remove_participant`. -/
def removeParticipant (closeRoom : State → RoomRef → Except Stop State)
    (s : State) (r : RoomRef) (c : ConnId) : Except Stop State :=
  if (s.heap r).closed then .ok s
  else
    match (s.participants r).find c with
    | none => .ok s
    | some p =>
      let s := s.modifyRoom r fun room => { room with participants := room.participants.erase c }
      if p.isOwner then closeRoom s r
      else s.broadcast platform r ⟨{ type := .partnerExit, userId := p.userId }, [c]⟩ 0

/-- `MeetingService::on_connection_close`. -/
def onConnectionClose (closeRoom : State → RoomRef → Except Stop State)
    (s : State) (c : ConnId) : Except Stop State :=
  match s.connectionRoom c with
  | none => .ok s
  | some r =>
    removeParticipant platform closeRoom
      { s with connectionRoom := Function.update s.connectionRoom c none } r c

/-- `Connection::close`, with `notify_close`. -/
def closeConnection (closeRoom : State → RoomRef → Except Stop State)
    (s : State) (c : ConnId) : Except Stop State :=
  if (s.connections c).closed then .ok s
  else onConnectionClose platform closeRoom (s.modifyConnection c Connection.shut) c

/-- `Room::close_room`, nested at most `depth` deep. -/
def closeRoom : ℕ → State → RoomRef → Except Stop State
  | 0, s, _ => .ok s
  | depth + 1, s, r =>
    if (s.heap r).closed then .ok s
    else do
      let participants := (s.participants r).toList
      let s := s.modifyRoom r fun room =>
        { room with closed := true, expireTimer := false, participants := ∅ }
      let s ← participants.foldlM
        (fun s p =>
          if s.isOpen p.connection then closeConnection platform (closeRoom depth) s p.connection
          else .ok s) s
      pure (if (s.heap r).closeCallback then s.cleanupRoom (s.heap r).roomId else s)

/-- Every nested `close_room` closes one more room, so the rooms created so far
bound the depth. -/
def closeDepth (s : State) : ℕ := s.nextRef + 1

/-- `conn->close()` from a handler. -/
def close (s : State) (c : ConnId) : Except Stop State :=
  closeConnection platform (closeRoom platform s.closeDepth) s c

/-! ## Joining -/

/-- `Room::add_participant`: whether the participant was added, and the state. -/
def addParticipant (s : State) (r : RoomRef) (c : ConnId) (isOwner : Bool) (userId : UInt64)
    (order : KeyedList.Order Participant) : Bool × State :=
  if (s.heap r).closed || !s.isOpen c then (false, s)
  else if (s.heap r).options.maxParticipants ≤ (s.participants r).toList.length then (false, s)
  else if userId = 0 then (false, s)
  else
    (true, s.modifyRoom r fun room =>
      { room with
        participants := room.participants.emplace { connection := c, userId, isOwner } order })

/-- `make_user_profile_packet`. -/
def makeUserProfilePacket (p : Participant) : Packet where
  type := .userProfile
  userId := p.userId
  payload := writeBe64 p.userId ++ writeBe16 p.displayName.length ++ p.displayName ++
    writeBe16 p.avatarUrl.length ++ p.avatarUrl

/-- `make_room_settings_packet`. -/
def makeRoomSettingsPacket (flags : UInt32) : Packet where
  type := .roomSettingsNotify
  payload := writeBe32 flags

/-- The profile replay of `notify_user_joined`: one packet for each other
participant whose name or avatar is known. -/
def replayProfiles (newcomer : ConnId) (s : State) (p : Participant) : Except Stop State :=
  if p.connection = newcomer then .ok s
  else if p.userId = 0 || (p.displayName.isEmpty && p.avatarUrl.isEmpty) then .ok s
  else s.sendTo platform newcomer ⟨makeUserProfilePacket p, [p.connection]⟩

/-- `Room::notify_user_joined`. -/
def notifyUserJoined (s : State) (r : RoomRef) (newcomer : ConnId) : Except Stop State :=
  if (s.heap r).closed then .ok s
  else
    match (s.participants r).find newcomer with
    | none => .ok s
    | some self => do
      let s ← s.broadcast platform r ⟨{ type := .partnerJoin, userId := self.userId }, [newcomer]⟩
        newcomer
      let others := (s.participants r).toList.filter (fun p => p.connection ≠ newcomer)
      let s ← s.sendTo platform newcomer
        ⟨{ type := .partnerJoin2, payload := others.flatMap fun p => writeBe64 p.userId },
          others.map Participant.connection⟩
      let s ← s.sendTo platform newcomer ⟨makeRoomSettingsPacket (s.heap r).settings, []⟩
      (s.participants r).toList.foldlM (replayProfiles platform newcomer) s

/-! ## Packets of a participant -/

end State

/-- The profile a `UserProfile` payload carries, written over a participant:
user id, name and avatar as far as the payload holds them. -/
def Participant.applyProfile (p : Participant) (payload : ByteString) : Participant :=
  if 12 ≤ payload.length then
    let nameLen := readBe16 (payload.drop 8)
    if 10 + nameLen + 2 ≤ payload.length then
      let avatarLen := readBe16 (payload.drop (10 + nameLen))
      let named := { p with
        userId := readBe64 payload
        displayName := (payload.drop 10).take nameLen }
      if 10 + nameLen + 2 + avatarLen ≤ payload.length then
        { named with avatarUrl := (payload.drop (10 + nameLen + 2)).take avatarLen }
      else named
    else p
  else p

@[simp] theorem Participant.applyProfile_connection (p : Participant) (payload : ByteString) :
    (p.applyProfile payload).connection = p.connection := by
  unfold Participant.applyProfile
  dsimp only
  split_ifs <;> rfl

@[simp] theorem Participant.applyProfile_isOwner (p : Participant) (payload : ByteString) :
    (p.applyProfile payload).isOwner = p.isOwner := by
  unfold Participant.applyProfile
  dsimp only
  split_ifs <;> rfl

namespace State

variable (platform : Platform)

/-- `Room::handle_packet`. -/
def handlePacket (s : State) (r : RoomRef) (c : ConnId) (packet : Packet) : Except Stop State :=
  if (s.heap r).closed then .ok s
  else
    match (s.participants r).find c with
    | none => .ok s
    | some sender =>
      match packet.type with
      | .textSend =>
        s.broadcast platform r ⟨{ packet with type := .textRecv, userId := sender.userId }, [c]⟩ c
      | .closeCamera =>
        s.broadcast platform r ⟨{ type := .closeCamera, userId := sender.userId }, [c]⟩ c
      | .userProfile =>
        let s := s.modifyRoom r fun room =>
          { room with
            participants := room.participants.modify c (fun p => p.applyProfile packet.payload)
              (fun p => p.applyProfile_connection packet.payload) }
        s.broadcast platform r
          ⟨{ packet with userId := (sender.applyProfile packet.payload).userId }, [c]⟩ c
      | .roomSettings =>
        if sender.isOwner then
          let flags := if 4 ≤ packet.payload.length then readBe32 packet.payload
            else (s.heap r).settings
          let s := s.modifyRoom r fun room => { room with settings := flags }
          s.broadcast platform r
            ⟨{ type := .roomSettingsNotify, userId := sender.userId, payload := writeBe32 flags },
              [c]⟩ 0
        else .ok s
      | _ => .ok s

end State

end CCMeeting
