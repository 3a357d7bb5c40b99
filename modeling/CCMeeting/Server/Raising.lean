import CCMeeting.Server.Wire

/-! # Which packets make a handler raise

`Codec::encode` raises on a text that is not UTF-8. A frame can carry its
payload in `s`, which the parser has checked, or as base64 in `p`, which may be
any bytes: a `text_send` with such a `p` is decoded, and raises when it is
relayed. Nothing else a client sends does.
-/

namespace CCMeeting

open ByteString Transition

variable (platform : Platform)

/-! ## Texts that are not UTF-8 -/

/-- The frame is a `text_send` without `s` whose `p` is not the base64 of a
UTF-8 text. -/
def BrokenText (buffer : ByteString) : Prop :=
  ∃ ms p, platform.parse (frameText buffer) = some (.object ms) ∧
    ms.lookup (ascii "t") = some (.string (ascii "text_send")) ∧
    ms.lookup (ascii "s") = none ∧ ms.lookup (ascii "p") = some (.string p) ∧
    ¬Utf8.Valid (base64Decode p)

variable {platform}

/-- The payload of a decoded object. -/
theorem decodePayload_cases {ms : List (ByteString × Json)} {payload : ByteString}
    (h : decodePayload (.object ms) = .ok payload) :
    ms.lookup (ascii "s") = some (.string payload) ∨
      ms.lookup (ascii "s") = none ∧
        ((∃ p, ms.lookup (ascii "p") = some (.string p) ∧ payload = base64Decode p) ∨
          ms.lookup (ascii "p") = none ∧ payload = []) := by
  cases hs : ms.lookup (ascii "s") with
  | some v =>
    have hcontains : contains (.object ms) (ascii "s") = true := by simp [contains, hs]
    rw [decodePayload, if_pos hcontains] at h
    cases v <;> simp_all [valueString]
  | none =>
    have hcontains : contains (.object ms) (ascii "s") = false := by simp [contains, hs]
    refine Or.inr ⟨rfl, ?_⟩
    cases hp : ms.lookup (ascii "p") with
    | some v =>
      have hcontains' : contains (.object ms) (ascii "p") = true := by simp [contains, hp]
      cases v <;>
        simp_all [decodePayload, valueString, bind, Except.bind, pure, Except.pure]
    | none =>
      have hcontains' : contains (.object ms) (ascii "p") = false := by simp [contains, hp]
      simp_all [decodePayload]

/-- The document a decoded packet comes from. -/
theorem tryDecode_ok_document {buffer rest : ByteString} {packet : Packet}
    (h : tryDecode platform buffer = .ok (.ok packet rest)) :
    ∃ ms name, platform.parse (frameText buffer) = some (.object ms) ∧
      ms.lookup (ascii "t") = some (.string name) ∧
      MessageType.typeFromName name = some packet.type ∧
      decodePayload (.object ms) = .ok packet.payload := by
  have hframe := (tryDecode_ok_rest h).1
  rw [tryDecode_of_frame hframe] at h
  cases hparse : platform.parse (frameText buffer) with
  | none => simp [hparse] at h
  | some document =>
    simp only [hparse] at h
    -- every document but an object raises at `t`; an object decodes when `t` names a type and the
    -- other fields have theirs
    cases document with
    | object ms =>
      by_cases hknown : ∃ name type, ms.lookup (ascii "t") = some (.string name) ∧
          MessageType.typeFromName name = some type
      · obtain ⟨name, type, hname, htype⟩ := hknown
        rw [decodeDocument_of_type hname htype] at h
        cases hu : valueDouble (.object ms) (ascii "u") (.ofInt 0) with
        | error e => simp [hu, Except.bind] at h
        | ok u =>
          cases hpayload : decodePayload (.object ms) with
          | error e => simp [hu, hpayload, Except.bind] at h
          | ok payload =>
            simp only [hu, hpayload, Except.bind, Except.ok.injEq, Decoded.ok.injEq] at h
            obtain ⟨rfl, -⟩ := h
            exact ⟨ms, name, rfl, hname, htype, hpayload⟩
      · by_cases ht : IsText (ms.lookup (ascii "t"))
        · have hunknown : ∀ name, ms.lookup (ascii "t") = some (.string name) →
              MessageType.typeFromName name = none := by
            intro name hname
            cases htype : MessageType.typeFromName name with
            | none => rfl
            | some type => exact absurd ⟨name, type, hname, htype⟩ hknown
          rw [decodeDocument_of_unknown ht hunknown] at h
          cases h
        · obtain ⟨e, he⟩ := decodeDocument_of_bad_type platform
            (afterFrame buffer) ht
          rw [he] at h
          cases h
    | null | boolean _ | number _ | string _ | array _ =>
      simp [decodeDocument, valueString, bind, Except.bind] at h

/-- Only one name stands for `text_send`. -/
theorem typeFromName_textSend {name : ByteString} :
    MessageType.typeFromName name = some .textSend ↔ name = ascii "text_send" := by
  constructor
  · intro h
    have hfound := List.find?_some (p := fun type => decide (name = MessageType.typeName type)) h
    exact of_decide_eq_true hfound
  · rintro rfl
    decide

/-- A decoded text is broken when its frame is: the strings of a document are
UTF-8, so it is the base64 form that can hold anything. -/
theorem broken_iff {buffer rest : ByteString} {packet : Packet}
    (h : tryDecode platform buffer = .ok (.ok packet rest)) :
    (packet.type = .textSend ∧ ¬Utf8.Valid packet.payload) ↔ BrokenText platform buffer := by
  obtain ⟨ms, name, hparse, hname, htype, hpayload⟩ := tryDecode_ok_document h
  constructor
  · rintro ⟨htext, hbroken⟩
    rw [htext] at htype
    have hname' := typeFromName_textSend.mp htype
    -- a payload from `s` is text of the parser and so UTF-8; only a base64 `p` can bring other
    -- bytes
    rcases decodePayload_cases hpayload with hs | ⟨hs, ⟨p, hp, heq⟩ | ⟨_, heq⟩⟩
    · exact absurd (Json.valid_of_lookup (platform.parse_utf8 hparse) hs) hbroken
    · rw [heq] at hbroken
      exact ⟨ms, p, hparse, hname' ▸ hname, hs, hp, hbroken⟩
    · rw [heq] at hbroken
      exact absurd Utf8.valid_nil hbroken
  · rintro ⟨ms', p, hparse', hname', hs, hp, hbroken⟩
    rw [hparse] at hparse'
    cases hparse'
    rw [hname] at hname'
    cases hname'
    have htext : packet.type = .textSend := by
      have := typeFromName_textSend.mpr rfl
      rw [htype] at this
      exact Option.some.inj this
    rcases decodePayload_cases hpayload with hs' | ⟨_, ⟨p', hp', heq⟩ | ⟨hp', _⟩⟩
    · rw [hs] at hs'
      cases hs'
    · rw [hp] at hp'
      cases hp'
      exact ⟨htext, heq ▸ hbroken⟩
    · rw [hp] at hp'
      cases hp'

/-! ## Handlers that return -/

namespace State

/-- A participant's packet is handled unless it is a text that is not UTF-8. -/
theorem handlePacket_isOk_iff {s : State} {r : RoomRef} {c : ConnId} {packet : Packet} :
    (∃ s', s.handlePacket platform r c packet = .ok s') ↔
      ¬((s.heap r).closed = false ∧ s.IsMember r c ∧ packet.type = .textSend ∧
        ¬Utf8.Valid packet.payload) := by
  by_cases hr : (s.heap r).closed = true
  · simp [handlePacket, hr]
  have hr : (s.heap r).closed = false := by simpa using hr
  -- a closed room and a stranger are ignored; of a member's packets only text is written back as
  -- JSON
  cases hsender : (s.participants r).find c with
  | none =>
    have hno : ¬s.IsMember r c := by
      rintro ⟨p, hp, hpc⟩
      exact KeyedList.find_eq_none.mp hsender p hp hpc
    simp [handlePacket, hr, hsender, hno]
  | some sender =>
    have hmember : s.IsMember r c := by
      obtain ⟨hp, hpc⟩ := KeyedList.find_eq_some.mp hsender
      exact ⟨sender, hp, hpc⟩
    by_cases hbroken : packet.type = .textSend ∧ ¬Utf8.Valid packet.payload
    · rw [handlePacket_of_broken platform hr hsender hbroken.1 hbroken.2]
      simp [hr, hmember, hbroken]
    · have hvalid : packet.type = .textSend → Utf8.Valid packet.payload := by
        intro htype
        by_contra hno
        exact hbroken ⟨htype, hno⟩
      have hok : ∃ s', s.handlePacket platform r c packet = .ok s' := by
        rcases relayed_or_ignored (s.heap r) c sender packet with
          ⟨room, q, exclude, hrel⟩ | hign
        · exact ⟨_, handlePacket_of_relayed platform hr hsender hrel hvalid⟩
        · exact ⟨_, handlePacket_of_ignored platform hr hsender hign⟩
      simp only [hok, true_iff]
      rintro ⟨_, _, h⟩
      exact hbroken h

/-- A response can always be encoded. -/
theorem respond_isOk (platform : Platform) (s : State) (c : ConnId) {type : MessageType}
    (value : UInt32) (htype : type.isTextType = false) :
    ∃ s', s.respond platform c type value = .ok s' := by
  obtain ⟨text, htext⟩ := encode_of_not_text platform
    (show (response type value).packet.type.isTextType = false from htype)
  have hencode : encodeOrStop platform { type := type, payload := writeBe32 value } = .ok text :=
    encodeOrStop_of_encode platform htext
  refine ⟨s.send c text (response type value), ?_⟩
  rw [respond]
  dsimp only
  rw [hencode]
  rfl

variable {config : ServerConfig}

/-- The search for a number raises no exception. -/
theorem createRoom_not_raising (config : ServerConfig) (s : State) (c : ConnId)
    (options : RoomOptions) (userId : UInt64) (oracle : Oracle) (e : JsonException) :
    s.createRoom config c options userId oracle ≠ .error (.uncaught e) := by
  unfold createRoom
  split_ifs
  · exact nofun
  · exact nofun
  · have hpick : s.pickRoomId oracle.draws ≠ .error (.uncaught e) := by
      unfold pickRoomId
      split_ifs
      · exact nofun
      · split <;> exact nofun
    cases h : s.pickRoomId oracle.draws with
    | error stop =>
      rw [h] at hpick
      simpa [bind, Except.bind] using hpick
    | ok found => simp [bind, Except.bind, pure, Except.pure]

/-- Nothing a lobby connection sends makes its handler raise. -/
theorem handleLobbyPacket_not_raising {s : State} {c : ConnId} {packet : Packet}
    {oracle : Oracle} {e : JsonException} (hlobby : s.connectionRoom c = none) :
    s.handleLobbyPacket platform config c packet oracle ≠ .error (.uncaught e) := by
  have hclose : s.close platform c ≠ .error (.uncaught e) := by
    by_cases hc : (s.connections c).closed = true
    · rw [close_of_closed platform hc]
      exact nofun
    · rw [close_of_lobby platform (by simpa using hc) hlobby]
      exact nofun
  have hrespond : ∀ (t : State) (type : MessageType) (value : UInt32), type.isTextType = false →
      t.respond platform c type value ≠ .error (.uncaught e) := by
    intro t type value htype
    obtain ⟨t', ht'⟩ := respond_isOk platform t c value htype
    rw [ht']
    exact nofun
  -- the lobby answers with numbers only, and a number is always encoded
  unfold handleLobbyPacket
  split
  · unfold handleCreateMeeting
    split_ifs
    · exact hclose
    · cases hcreate : s.createRoom config c (parseCreateMeetingOptions packet config)
          packet.userId oracle with
      | error stop =>
        have := createRoom_not_raising config s c (parseCreateMeetingOptions packet config)
          packet.userId oracle e
        rw [hcreate] at this
        simpa [hcreate, bind, Except.bind] using this
      | ok result =>
        obtain ⟨created, t⟩ := result
        cases created with
        | none => simpa [hcreate, bind, Except.bind] using hrespond t _ 0 rfl
        | some roomId =>
          cases hget : t.getRoom roomId with
          | none => simp [hcreate, bind, Except.bind, hget]
          | some r => simpa [hcreate, bind, Except.bind, hget] using hrespond _ _ roomId rfl
  · unfold handleJoinMeeting
    split_ifs
    · exact hclose
    · exact hclose
    · split
      · split
        · exact nofun
        · rename_i t _ _ r _
          obtain ⟨t₁, h₁⟩ := respond_isOk platform (t.emplaceRoute c r) c (readBe32 packet.payload)
            (show MessageType.joinMeetingResponse.isTextType = false from rfl)
          obtain ⟨t₂, h₂⟩ := notifyUserJoined_isOk platform t₁ r c
          simp [h₁, h₂, bind, Except.bind]
      · exact hrespond _ _ _ rfl
      · exact hrespond _ _ _ rfl
  · exact hclose

/-- A decoded packet makes no handler raise, now or at a later replay to a
newcomer, exactly when it is not a text that is not UTF-8 from a participant of
an open room. -/
theorem packet_not_raising_iff {s : State} {c : ConnId} {buffer rest : ByteString}
    {packet : Packet} (hdecode : tryDecode platform buffer = .ok (.ok packet rest)) :
    ((∀ r, ∃ s', s.handlePacket platform r c packet = .ok s') ∧
      (∀ (t : State) r n, ∃ t', t.notifyUserJoined platform r n = .ok t') ∧
      ∀ config oracle e, s.dispatch platform config c packet oracle ≠ .error (.uncaught e)) ↔
    ¬((∃ r, (s.heap r).closed = false ∧ s.IsMember r c) ∧ BrokenText platform buffer) := by
  constructor
  · rintro ⟨hhandle, _, _⟩ ⟨⟨r, hr, hmember⟩, hbroken⟩
    exact handlePacket_isOk_iff.mp (hhandle r) ⟨hr, hmember, (broken_iff hdecode).mpr hbroken⟩
  · intro hfine
    have hhandle : ∀ r, ∃ s', s.handlePacket platform r c packet = .ok s' := by
      intro r
      refine handlePacket_isOk_iff.mpr ?_
      rintro ⟨hr, hmember, hbroken⟩
      exact hfine ⟨⟨r, hr, hmember⟩, (broken_iff hdecode).mp hbroken⟩
    refine ⟨hhandle, fun t r n => notifyUserJoined_isOk platform t r n, ?_⟩
    intro config oracle e
    unfold dispatch
    cases hroute : s.connectionRoom c with
    | none => exact handleLobbyPacket_not_raising hroute
    | some r =>
      obtain ⟨s', hs'⟩ := hhandle r
      dsimp only
      rw [hs']
      exact nofun

/-- A text that is UTF-8, as base64. -/
def greetingFrame : ByteString :=
  framed (ascii "\x7b\"p\":\"aGk=\",\"t\":\"text_send\",\"u\":7\x7d")

/-- The packet of `greetingFrame`. -/
def greetingPacket : Packet := { type := .textSend, userId := 7, payload := ascii "hi" }

/-- User 7 creates a meeting. -/
def hosting : List Event :=
  [.accept, .packet 1 { type := .createMeeting, userId := 7 } .plain]

/-- The creator of a meeting sends the greeting. -/
theorem packet_not_raising_of_greeting :
    ∃ s, Reachable (system reference {}) s ∧ (s.heap 0).closed = false ∧ s.IsMember 0 1 ∧
      ∃ s', s.handlePacket reference 0 1 greetingPacket = .ok s' := by
  have hrun : (replay (next reference {}) State.start hosting).any
      (fun s => (s.heap 0).closed = false ∧ s.IsMember 0 1) = true := by
    decide +kernel
  rcases (Option.any_eq_true _ _).mp hrun with ⟨s, hs, htest⟩
  rcases of_decide_eq_true htest with ⟨hopen, hmember⟩
  have hdecode : tryDecode reference greetingFrame = .ok (.ok greetingPacket []) := by
    decide +kernel
  have hno : ¬((∃ r, (s.heap r).closed = false ∧ s.IsMember r 1) ∧
      BrokenText reference greetingFrame) := by
    rintro ⟨_, hbroken⟩
    exact ((broken_iff hdecode).mpr hbroken).2 (by decide +kernel)
  exact ⟨s, reachable_of_replay reference {} hs, hopen, hmember,
    ((packet_not_raising_iff hdecode).mpr hno).1 0⟩

/-- A text of one byte `0xFF`, as base64. -/
def brokenFrame : ByteString :=
  framed (ascii "\x7b\"p\":\"/w==\",\"t\":\"text_send\",\"u\":7\x7d")

/-- The packet of `brokenFrame`. -/
def brokenPacket : Packet := { type := .textSend, userId := 7, payload := [0xFF] }

/-- The creator of a meeting alone in it sends the broken text. -/
theorem packet_raises_in_meeting :
    ¬∀ (platform : Platform) (config : ServerConfig) (s : State) (r : RoomRef) (c : ConnId)
      (buffer rest : ByteString) (packet : Packet), Reachable (system platform config) s →
      tryDecode platform buffer = .ok (.ok packet rest) →
      ∃ s', s.handlePacket platform r c packet = .ok s' := by
  intro h
  have hrun : (replay (next reference {}) State.start hosting).isSome = true := by
    decide +kernel
  obtain ⟨s, hs⟩ := Option.isSome_iff_exists.mp hrun
  have hdecode : tryDecode reference brokenFrame = .ok (.ok brokenPacket []) := by decide +kernel
  obtain ⟨s', hs'⟩ := h reference {} s 0 1 brokenFrame [] brokenPacket
    (reachable_of_replay reference {} hs) hdecode
  have hraise : (replay (next reference {}) State.start hosting).bind
        (fun s => (s.handlePacket reference 0 1 brokenPacket).toOption.map fun _ => ()) = none := by
    decide +kernel
  rw [hs, Option.bind_some, hs'] at hraise
  cases hraise

end State

end CCMeeting
