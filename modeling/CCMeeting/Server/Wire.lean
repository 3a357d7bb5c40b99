import CCMeeting.Protocol.Decoding
import CCMeeting.Server.Consistency

/-! # The server with its read buffers

One step is one WebSocket message: it is appended to the read buffer with its
length in front, and `on_connection_read` works on every frame the buffer
holds. Every run of this system is a run of `system`.
-/

namespace CCMeeting

open ByteString Transition

variable (platform : Platform) (config : ServerConfig)

/-! ## The read loop -/

/-- `append_uint32_be` of the size, then the message. -/
def framed (message : ByteString) : ByteString := toBe 4 message.length ++ message

/-- The loop of `on_connection_read`, at most `fuel` rounds: the state, and
what is left in the buffer. -/
def readLoop (c : ConnId) :
    ℕ → State → ByteString → (ℕ → Oracle) → Except Stop (State × ByteString)
  | 0, s, buffer, _ => .ok (s, buffer)
  | fuel + 1, s, buffer, oracles =>
    if s.isOpen c then
      match tryDecode platform buffer with
      | .error e => .error (.uncaught e)
      | .ok .needMore => .ok (s, buffer)
      | .ok (.invalid rest) => (s.close platform c).map fun s => (s, rest)
      | .ok (.ok packet rest) =>
        match s.dispatch platform config c packet (oracles 0) with
        | .error e => .error e
        | .ok s => readLoop c fuel s rest fun n => oracles (n + 1)
    else .ok (s, buffer)

/-- `MeetingService::on_connection_read`. Each round takes a frame off the
buffer, so there are fewer rounds than bytes. -/
def onConnectionRead (c : ConnId) (s : State) (buffer : ByteString) (oracles : ℕ → Oracle) :
    Except Stop (State × ByteString) :=
  readLoop platform config c (buffer.length + 1) s buffer oracles

variable {platform config}

theorem frameSize_framed {m : ByteString} (hlt : m.length < 2 ^ 32) (rest : ByteString) :
    frameSize (framed m ++ rest) = m.length := by
  have htake : (framed m ++ rest).take 4 = toBe 4 m.length := by
    rw [framed, List.append_assoc, List.take_left' (length_toBe 4 m.length)]
  rw [frameSize, readBe32, htake, ofBe_toBe, UInt32.toNat_ofNat']
  have hpow : (256 : ℕ) ^ 4 = 2 ^ 32 := by norm_num
  rw [hpow, Nat.mod_mod, Nat.mod_eq_of_lt hlt]

theorem length_framed (m : ByteString) : (framed m).length = kLengthPrefixSize + m.length := by
  rw [framed, List.length_append, length_toBe]
  rfl

/-- A frame handed over with its length is the first frame of the buffer, and
what is behind it is what is left. -/
theorem tryDecode_framed {m : ByteString} (hne : m ≠ []) (hlt : m.length < 2 ^ 32)
    (rest : ByteString) :
    tryDecode platform (framed m ++ rest) =
      match platform.parse m with
      | none => .ok (.invalid rest)
      | some document => decodeDocument platform document rest := by
  have hsize := frameSize_framed hlt rest
  have hframe : HasFrame (framed m ++ rest) := by
    have hpos := List.length_pos_iff.mpr hne
    rw [HasFrame, hsize, List.length_append, length_framed]
    omega
  have htext : frameText (framed m ++ rest) = m := by
    have hprefix : kLengthPrefixSize = (toBe 4 m.length).length := (length_toBe 4 m.length).symm
    rw [frameText, hsize, framed, List.append_assoc, hprefix, List.drop_left, List.take_left]
  have hafter : afterFrame (framed m ++ rest) = rest := by
    rw [afterFrame, hsize, List.drop_left' (length_framed m)]
  have hdecode : tryDecode platform _ = _ := tryDecode_of_frame hframe
  rw [htext, hafter] at hdecode
  exact hdecode

/-- More rounds than bytes are never needed. -/
theorem readLoop_fuel {c : ConnId} {s : State} {buffer : ByteString} {oracles : ℕ → Oracle}
    {fuel fuel' : ℕ} (h : buffer.length < fuel) (h' : buffer.length < fuel') :
    readLoop platform config c fuel s buffer oracles =
      readLoop platform config c fuel' s buffer oracles := by
  induction fuel generalizing fuel' s buffer oracles with
  | zero => cases h
  | succ fuel ih =>
    obtain ⟨fuel', rfl⟩ := Nat.exists_eq_succ_of_ne_zero (Nat.ne_zero_of_lt h')
    by_cases hc : s.isOpen c = true
    swap
    · simp [readLoop, hc]
    cases hdecode : tryDecode platform buffer with
    | error e => simp [readLoop, hdecode]
    | ok status =>
      cases status with
      | needMore => simp [readLoop, hdecode]
      | invalid rest => simp [readLoop, hdecode]
      | ok packet rest =>
        have hlength := tryDecode_ok_length hdecode
        cases hdispatch : s.dispatch platform config c packet (oracles 0) with
        | error e => simp [readLoop, hdecode, hdispatch]
        | ok t =>
          simp only [readLoop, hc, hdecode, hdispatch, if_true]
          exact ih (by omega) (by omega)

/-- The loop of the source, without a bound on its rounds. -/
theorem onConnectionRead_eq (c : ConnId) (s : State) (buffer : ByteString)
    (oracles : ℕ → Oracle) :
    onConnectionRead platform config c s buffer oracles =
      if s.isOpen c then
        match tryDecode platform buffer with
        | .error e => .error (.uncaught e)
        | .ok .needMore => .ok (s, buffer)
        | .ok (.invalid rest) => (s.close platform c).map fun s => (s, rest)
        | .ok (.ok packet rest) =>
          match s.dispatch platform config c packet (oracles 0) with
          | .error e => .error e
          | .ok s => onConnectionRead platform config c s rest fun n => oracles (n + 1)
      else .ok (s, buffer) := by
  rw [onConnectionRead, readLoop]
  split_ifs with hc
  · cases hdecode : tryDecode platform buffer with
    | error e => rfl
    | ok status =>
      cases status with
      | needMore => rfl
      | invalid rest => rfl
      | ok packet rest =>
        -- a decoded frame shortens the buffer, so the fuel of the first round is enough for the
        -- rest
        have hlength := tryDecode_ok_length hdecode
        dsimp only
        cases s.dispatch platform config c packet (oracles 0) with
        | error e => rfl
        | ok t => exact readLoop_fuel hlength (Nat.lt_succ_self _)
  · rfl

/-! ## The system -/

/-- The server with `Connection::_read_buffer` of every connection. -/
structure Wire where
  state : State
  readBuffer : ConnId → ByteString

/-- The server before the first connection. -/
def Wire.start : Wire where
  state := State.start
  readBuffer := fun _ => []

/-- A WebSocket message, or something else that makes a handler run. -/
inductive WireEvent where
  | message (c : ConnId) (text : ByteString) (oracles : ℕ → Oracle)
  | other (e : Event)

/-- Events that are packets. -/
def Event.isPacket : Event → Bool
  | packet _ _ _ => true
  | _ => false

/-- When an event can happen: a connection is read until it is closed. -/
def WireEvent.Enabled (w : Wire) : WireEvent → Prop
  | message c _ _ => w.state.Accepted c ∧ (w.state.connections c).closed = false
  | other e => e.isPacket = false ∧ e.Enabled w.state

instance (w : Wire) : (e : WireEvent) → Decidable (e.Enabled w)
  | .message c _ _ => inferInstanceAs (Decidable (w.state.Accepted c ∧
      (w.state.connections c).closed = false))
  | .other e => inferInstanceAs (Decidable (e.isPacket = false ∧ e.Enabled w.state))

section System

variable (platform config)

/-- The handler of an event. -/
def WireEvent.handle (w : Wire) : WireEvent → Except Stop Wire
  | message c text oracles =>
    (onConnectionRead platform config c w.state (w.readBuffer c ++ framed text) oracles).map
      fun done => ⟨done.1, Function.update w.readBuffer c done.2⟩
  | other e => (e.handle platform config w.state).map fun s => { w with state := s }

/-- The server as its clients see it. -/
def wire : System Wire WireEvent where
  Init w := w = Wire.start
  Step w e w' := e.Enabled w ∧ e.handle platform config w = .ok w'

/-- The step an event makes, when it makes one. -/
def Wire.next (w : Wire) (e : WireEvent) : Option Wire :=
  if e.Enabled w then (e.handle platform config w).toOption else none

end System

theorem Wire.next_step {w w' : Wire} {e : WireEvent}
    (h : w.next platform config e = some w') : (wire platform config).Step w e w' := by
  unfold Wire.next at h
  split_ifs at h with henabled
  cases hhandle : e.handle platform config w with
  | error stop =>
    rw [hhandle] at h
    cases h
  | ok t =>
    rw [hhandle] at h
    cases h
    exact ⟨henabled, hhandle⟩

/-- What a replay from the start ends in is reachable. -/
theorem Wire.reachable_of_replay {w : Wire} {es : List WireEvent}
    (h : replay (Wire.next platform config) Wire.start es = some w) :
    Reachable (wire platform config) w :=
  (Run.of_replay (fun _ _ _ => Wire.next_step) h).reachable (.init rfl)

/-! ## Runs of `system` -/

/-- A closing connection is one step of `system`. -/
theorem close_run (hmax : 0 < config.maxParticipantsPerRoom) {c : ConnId} {s s' : State}
    (hs : Reachable (system platform config) s) (hc : s.isOpen c = true)
    (h : s.close platform c = .ok s') : Run (system platform config) s [.close c] s' :=
  .cons ⟨(reachable_consistent hmax hs).accepted_of_isOpen hc, h⟩ (.nil s')

/-- The loop works on one packet after the other. -/
theorem readLoop_run (hmax : 0 < config.maxParticipantsPerRoom) {c : ConnId}
    {fuel : ℕ} {s s' : State} {buffer rest : ByteString} {oracles : ℕ → Oracle}
    (hs : Reachable (system platform config) s)
    (h : readLoop platform config c fuel s buffer oracles = .ok (s', rest)) :
    ∃ es, Run (system platform config) s es s' := by
  -- on the fuel: each round is one packet step of the system, followed by a shorter loop
  induction fuel generalizing s buffer oracles with
  | zero =>
    cases h
    exact ⟨[], .nil _⟩
  | succ fuel ih =>
    rw [readLoop] at h
    split_ifs at h with hc
    swap
    · cases h
      exact ⟨[], .nil _⟩
    split at h
    · cases h
    · cases h
      exact ⟨[], .nil _⟩
    · cases hclose : s.close platform c with
      | error e =>
        rw [hclose] at h
        cases h
      | ok t =>
        rw [hclose] at h
        cases h
        exact ⟨_, close_run hmax hs hc hclose⟩
    · rename_i packet after _
      split at h
      · cases h
      · rename_i t hdispatch
        have hstep : (system platform config).Step s (.packet c packet (oracles 0)) t :=
          ⟨⟨(reachable_consistent hmax hs).accepted_of_isOpen hc, hc⟩, hdispatch⟩
        obtain ⟨es, hes⟩ := ih (hs.step hstep) h
        exact ⟨_, .cons hstep hes⟩

/-- The server with its buffers does what the server does packet by packet. -/
theorem wire_simulation (hmax : 0 < config.maxParticipantsPerRoom) :
    Simulation (wire platform config) (system platform config)
      (fun w s => w.state = s ∧ Reachable (system platform config) s) where
  init w hw := ⟨State.start, by rw [hw]; exact ⟨rfl, rfl, .init rfl⟩⟩
  step := by
    -- a read is as many steps of the system as it decodes frames; any other event is one step
    rintro w s e w' ⟨rfl, hs⟩ ⟨henabled, hhandle⟩
    cases e with
    | message c text oracles =>
      simp only [WireEvent.handle] at hhandle
      cases hread : onConnectionRead platform config c w.state (w.readBuffer c ++ framed text)
          oracles with
      | error stop =>
        rw [hread] at hhandle
        cases hhandle
      | ok done =>
        rw [hread] at hhandle
        cases hhandle
        obtain ⟨es, hes⟩ := readLoop_run hmax hs hread
        exact ⟨es, done.1, hes, rfl, hes.reachable hs⟩
    | other e =>
      simp only [WireEvent.handle] at hhandle
      cases he : e.handle platform config w.state with
      | error stop =>
        rw [he] at hhandle
        cases hhandle
      | ok t =>
        rw [he] at hhandle
        cases hhandle
        have hstep : (system platform config).Step w.state e t := ⟨henabled.2, he⟩
        exact ⟨[e], t, .cons hstep (.nil _), rfl, hs.step hstep⟩

/-- Between two messages the server is in a state of `system`. -/
theorem wire_reachable (hmax : 0 < config.maxParticipantsPerRoom) {w : Wire}
    (h : Reachable (wire platform config) w) : Reachable (system platform config) w.state := by
  obtain ⟨s, ⟨rfl, hs⟩, _⟩ := (wire_simulation hmax).reachable h
  exact hs

/-! ## The three maps -/

/-- Between handlers `_connection_room`, `_rooms` and `_participants` agree:
a connection is routed to a room exactly when the room is stored, open, and has
the connection among its participants. -/
theorem maps_agree (hmax : 2 ≤ config.maxParticipantsPerRoom) {w : Wire}
    (h : Reachable (wire platform config) w) :
    (∀ c r, w.state.connectionRoom c = some r ↔
      w.state.Stored r ∧ (w.state.heap r).closed = false ∧ w.state.IsMember r c) ∧
    (∀ c r r', w.state.Stored r → w.state.Stored r' → w.state.IsMember r c →
      w.state.IsMember r' c → r = r') ∧
    (∀ e ∈ w.state.rooms, (w.state.heap e.2).closed = false ∧ (w.state.heap e.2).roomId = e.1) ∧
    (∀ e ∈ w.state.rooms, ∃! p, p ∈ w.state.participants e.2 ∧ p.isOwner = true) ∧
    (∀ c r, (w.state.connections c).closed = true → ¬w.state.IsMember r c) := by
  have hmax' : 0 < config.maxParticipantsPerRoom := by omega
  -- the connection map and the rooms are two views of one relation: `Consistent` is read off here
  have hcons := reachable_consistent hmax' (wire_reachable hmax' h)
  refine ⟨?_, ?_, fun e he => hcons.entry he, ?_, ?_⟩
  · intro c r
    constructor
    · intro hroute
      obtain ⟨hopen, hmember⟩ := hcons.route hroute
      exact ⟨(hcons.stored hopen).1, hopen, hmember⟩
    · rintro ⟨_, _, hmember⟩
      exact hcons.member hmember
  · intro c r r' _ _ hr hr'
    have hroute := hcons.member hr
    rw [hcons.member hr'] at hroute
    exact (Option.some.inj hroute).symm
  · intro e he
    obtain ⟨p, hp, howner, huniq⟩ := hcons.owner (hcons.entry he).1
    exact ⟨p, ⟨hp, howner⟩, fun q hq => huniq q hq.1 hq.2⟩
  · intro c r hclosed hmember
    rw [hcons.live hmember] at hclosed
    cases hclosed

/-- One connection creates a meeting and another joins it. -/
def meetingOfTwo : List WireEvent :=
  [.other .accept, .other .accept,
    .message 1 (ascii "\x7b\"t\":\"create_meeting\",\"u\":7\x7d") fun _ => .plain,
    .message 2 (ascii "\x7b\"p\":\"AAHiQA==\",\"t\":\"join_meeting\",\"u\":8\x7d")
      fun _ => .plain]

/-- The maps agree in a meeting of two. -/
theorem maps_agree_in_meeting :
    ∃ w, replay (Wire.next reference {}) Wire.start meetingOfTwo = some w ∧
      w.state.connectionRoom 2 = some 0 ∧ w.state.Stored 0 ∧ w.state.IsMember 0 2 := by
  have hrun : (replay (Wire.next reference {}) Wire.start meetingOfTwo).isSome = true := by
    decide +kernel
  obtain ⟨w, hw⟩ := Option.isSome_iff_exists.mp hrun
  have hroute : w.state.connectionRoom 2 = some 0 := by
    have hbind : (replay (Wire.next reference {}) Wire.start meetingOfTwo).bind
        (fun w => w.state.connectionRoom 2) = some 0 := by decide +kernel
    rw [hw] at hbind
    exact hbind
  obtain ⟨hstored, _, hmember⟩ :=
    ((maps_agree (by decide) (Wire.reachable_of_replay hw)).1 2 0).mp hroute
  exact ⟨w, hw, hroute, hstored, hmember⟩

end CCMeeting
