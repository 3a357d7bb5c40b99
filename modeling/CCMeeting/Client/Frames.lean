import CCMeeting.Client.Codec
import CCMeeting.Server.Wire

/-! # Frames in both directions

The JSON document around a payload, in both codecs: what one side puts into a
frame the other takes out of it, for any two JSON libraries that read what the
other one writes.
-/

namespace CCMeeting

open ByteString State

/-! ## Frames -/

/-- The scalars of a frame: the payload as text, as base64, or not at all. -/
def frameFields (isText : Bool) (payload name : ByteString) (n : ℕ) :
    List (ByteString × Json.Scalar) :=
  (if isText then [(ascii "s", .text payload)]
    else if payload = [] then [] else [(ascii "p", .text (Base64.encode payload))]) ++
  [(ascii "t", .text name), (ascii "u", .whole n)]

section Frame

variable {isText : Bool} {payload name : ByteString} {n : ℕ}

/-- The members of a frame are plain when its text is well formed. -/
theorem frameFields_plain (hname : ∀ b ∈ name, b ≤ 0x7F) (hround : Double.roundNat n = n)
    (hn : n < 2 ^ 64) (hpayload : isText = true → Utf8.Valid payload) :
    Json.PlainFields (frameFields isText payload name n) := by
  have hkeys : Utf8.Valid (ascii "t") ∧ Utf8.Valid (ascii "u") ∧ Utf8.Valid (ascii "s") ∧
      Utf8.Valid (ascii "p") := by decide
  rcases hkeys with ⟨ht, hu, hs, hp⟩
  have hbase : (Json.Scalar.text (Base64.encode payload)).Plain :=
    Utf8.valid_of_ascii (Base64.encode_ascii _)
  have htype : (Json.Scalar.text name).Plain := Utf8.valid_of_ascii hname
  have huser : (Json.Scalar.whole n).Plain := ⟨hround, hn⟩
  unfold frameFields
  split_ifs with htext hempty
  · constructor
    · show [ascii "s", ascii "t", ascii "u"].Nodup
      decide
    · have hs' : (Json.Scalar.text payload).Plain := hpayload htext
      simp [hs, ht, hu, hs', htype, huser]
  · constructor
    · show [ascii "t", ascii "u"].Nodup
      decide
    · simp [ht, hu, htype, huser]
  · constructor
    · show [ascii "p", ascii "t", ascii "u"].Nodup
      decide
    · simp [hp, ht, hu, hbase, htype, huser]

/-- The members of a frame, found by name. -/
theorem frameFields_lookup (isText : Bool) (payload name : ByteString) (n : ℕ) :
    (frameFields isText payload name n).lookup (ascii "t") = some (.text name) ∧
    (frameFields isText payload name n).lookup (ascii "u") = some (.whole n) ∧
    (frameFields isText payload name n).lookup (ascii "s") =
      (if isText then some (.text payload) else none) ∧
    (isText = false → (frameFields isText payload name n).lookup (ascii "p") =
      if payload = [] then none else some (.text (Base64.encode payload))) := by
  cases isText with
  | true => exact ⟨rfl, rfl, rfl, nofun⟩
  | false =>
    by_cases hempty : payload = []
    · rw [frameFields, if_neg Bool.false_ne_true, if_pos hempty, if_pos hempty]
      exact ⟨rfl, rfl, rfl, fun _ => rfl⟩
    · rw [frameFields, if_neg Bool.false_ne_true, if_neg hempty, if_neg hempty]
      exact ⟨rfl, rfl, rfl, fun _ => rfl⟩

/-- How long a frame can get. -/
theorem frameFields_size (isText : Bool) (payload : ByteString) (n : ℕ)
    (hname : name.length ≤ 23) :
    Json.flatSize (frameFields isText payload name n) ≤ 250 +
      (if isText then 6 * payload.length else 6 * (Base64.encode payload).length) := by
  have hkeys : (ascii "t").length = 1 ∧ (ascii "u").length = 1 ∧ (ascii "s").length = 1 ∧
      (ascii "p").length = 1 := by decide
  rcases hkeys with ⟨ht, hu, hs, hp⟩
  unfold frameFields Json.flatSize
  split_ifs with htext hempty
  · simp only [List.singleton_append, List.map_cons, List.map_nil, List.sum_cons, List.sum_nil,
      Json.Scalar.size, ht, hu, hs]
    omega
  · simp only [List.nil_append, List.map_cons, List.map_nil, List.sum_cons, List.sum_nil,
      Json.Scalar.size, ht, hu]
    omega
  · simp only [List.singleton_append, List.map_cons, List.map_nil, List.sum_cons, List.sum_nil,
      Json.Scalar.size, ht, hu, hp]
    omega

/-- What the server makes of the members of a frame. -/
theorem decodeDocument_of_frame {platform : Platform} {ms : List (ByteString × Json)}
    {type : MessageType} (hread : Json.ReadFields (frameFields isText payload name n) ms)
    (htype : MessageType.typeFromName name = some type) (hn : n < 2 ^ 64) (rest : ByteString) :
    decodeDocument platform (.object ms) rest =
      .ok (.ok { type, userId := UInt64.ofNat n, payload } rest) := by
  rcases frameFields_lookup isText payload name n with ⟨ht, hu, hs, hp⟩
  rcases hread.whole hu with ⟨m, hm, hval⟩
  have huser : platform.u64OfDouble m.toDouble = UInt64.ofNat n := by
    rw [platform.u64OfDouble_eq _ (hval.inU64Range hn), hval.floor]
  have hdouble : valueDouble (.object ms) (ascii "u") (.ofInt 0) = .ok m.toDouble := by
    simp [valueDouble, hm]
  have hpayload : decodePayload (.object ms) = .ok payload := by
    cases isText with
    | true =>
      simp [decodePayload, contains, valueString, hread.text hs]
    | false =>
      have hnone := hread.none hs
      have hp' := hp rfl
      by_cases hempty : payload = []
      · rw [if_pos hempty] at hp'
        simp [decodePayload, contains, hnone, hread.none hp', hempty]
      · rw [if_neg hempty] at hp'
        simp [decodePayload, contains, valueString, hnone, hread.text hp', bind, Except.bind,
          pure, Except.pure]
  rw [decodeDocument_of_type (hread.text ht) htype, hdouble, hpayload]
  simp only [Except.bind, huser]

/-- What the client makes of the members of a frame. -/
theorem decodeJsonFrame_of_frame {qt : Qt} {ms : List (ByteString × Json)} {text : ByteString}
    {type : MsgType} (hparse : qt.fromJson text = some (.object ms))
    (hread : Json.ReadFields (frameFields isText payload name n) ms)
    (htype : MsgType.typeFromName name = some type) (hn : n < 2 ^ 63) :
    decodeJsonFrame qt text = MessageCodec.decodePayload qt payload (Int64.ofNat n) type := by
  rcases frameFields_lookup isText payload name n with ⟨ht, hu, hs, hp⟩
  rcases hread.whole hu with ⟨m, hm, hval⟩
  have huser : qt.i64OfDouble (jsonDouble (ms.lookup (ascii "u"))) = Int64.ofNat n := by
    rw [hm]
    exact qt.i64OfDouble_eq hval hn
  have hname : jsonText (ms.lookup (ascii "t")) = name := by
    rw [hread.text ht]
    rfl
  rw [decodeJsonFrame, hparse]
  simp only [hname, htype, huser]
  -- a text travels in `s` as it is, any other payload in `p` as base64, left out when empty
  cases isText with
  | true =>
    rw [hread.text hs]
    rfl
  | false =>
    rw [hread.none hs]
    have hp' := hp rfl
    by_cases hempty : payload = []
    · rw [if_pos hempty] at hp'
      simp only [hread.none hp', hempty]
    · rw [if_neg hempty] at hp'
      simp only [hread.text hp', jsonText, qt.toLatin1_eq (Base64.encode_ascii _),
        qt.fromBase64_encode]

end Frame

/-! ## The answers -/

theorem decodeCreateMeetingResponse_writeBe32 (roomNo : UInt32) :
    decodeCreateMeetingResponse (writeBe32 roomNo) = .createMeetingResponse roomNo := by
  rw [decodeCreateMeetingResponse, length_writeBe32, if_pos (Nat.le_refl 4),
    readBe32_writeBe32_self]

theorem decodeJoinMeetingResponse_writeBe32 (code : UInt32) :
    decodeJoinMeetingResponse (writeBe32 code) = .joinMeetingResponse code.toInt32 := by
  rw [decodeJoinMeetingResponse, length_writeBe32, if_pos (Nat.le_refl 4),
    readBe32_writeBe32_self]

/-! ## What the client writes -/

/-- The text of a message is the plain member of its frame. -/
def Message.isText : Message → Bool
  | sendText _ => true
  | _ => false

/-- What stands in a frame for the payload. -/
def Message.content (qt : Qt) : Message → ByteString
  | sendText text => qt.utf8 text
  | msg => msg.payload

/-- The text of a frame is well formed, whatever it was made from. -/
theorem Message.content_valid (qt : Qt) {msg : Message} (h : msg.isText = true) :
    Utf8.Valid (msg.content qt) := by
  cases msg with
  | sendText text => exact qt.utf8_valid text
  | _ => cases h

theorem MsgType.typeName_ascii (type : MsgType) : ∀ b ∈ type.typeName, b ≤ 0x7F := by
  have hall : type.typeName.all (fun b => decide (b ≤ 0x7F)) = true := by cases type <;> rfl
  exact fun b hb => of_decide_eq_true (List.all_eq_true.mp hall b hb)

theorem MsgType.typeName_length (type : MsgType) : type.typeName.length ≤ 23 := by
  cases type <;> decide

theorem roundInt_ofNat {n : ℕ} (hn : n < 2 ^ 53) :
    Double.roundInt (Int64.ofNat n).toInt = .ofInt n := by
  have hint : (Int64.ofNat n).toInt = n := Int64.toInt_ofNat_of_lt (by omega)
  rw [hint]
  show Double.ofInt (Double.roundNat n) = _
  rw [Double.roundNat_of_lt hn]

section Up

variable {platform : Platform} {qt : Qt} {msg : Message} {n : ℕ}

theorem wireDocument_eq (hn : n < 2 ^ 53) :
    wireDocument qt msg (Int64.ofNat n) =
      Json.flat (frameFields msg.isText (msg.content qt) msg.toWireType.typeName n) := by
  have hname := qt.fromLatin1_eq msg.toWireType.typeName_ascii
  have hbase : qt.fromLatin1 (qt.toBase64 msg.payload) = Base64.encode msg.payload := by
    rw [qt.toBase64_eq]
    exact qt.fromLatin1_eq (Base64.encode_ascii _)
  unfold wireDocument frameFields Json.flat
  rw [hname, hbase, roundInt_ofNat hn]
  by_cases hp : msg.payload = []
  all_goals
    cases msg with
    | sendText text => simp [Json.Scalar.json, Message.isText, Message.content]
    | _ => simp [Json.Scalar.json, Message.isText, Message.content, hp]

theorem message_plain (qt : Qt) (msg : Message) {n : ℕ} (hn : n < 2 ^ 53) : Json.PlainFields
    (frameFields msg.isText (msg.content qt) msg.toWireType.typeName n) :=
  frameFields_plain msg.toWireType.typeName_ascii (Double.roundNat_of_lt hn) (by omega)
    fun htext => msg.content_valid qt htext

/-- The server reads from the frame of a client the type, the user id and the
content of the message. -/
theorem tryDecode_of_message (interop : Interop platform qt) {type : MessageType}
    (htype : MessageType.typeFromName msg.toWireType.typeName = some type) (hn : n < 2 ^ 53)
    (hlength : (encodeWireFrame qt msg (Int64.ofNat n)).length < 2 ^ 32) (rest : ByteString) :
    tryDecode platform (framed (encodeWireFrame qt msg (Int64.ofNat n)) ++ rest) =
      .ok (.ok { type, userId := UInt64.ofNat n, payload := msg.content qt } rest) := by
  have hplain := message_plain qt msg hn
  rw [encodeWireFrame, wireDocument_eq hn] at hlength ⊢
  rcases interop.up hplain with ⟨ms, hparse, hread⟩
  rw [tryDecode_framed (qt.toJson_size hplain).1 hlength, hparse]
  exact decodeDocument_of_frame hread htype (by omega) rest

/-- Frames without a text are short when their payload is. -/
theorem encodeWireFrame_length (hn : n < 2 ^ 53) (htext : msg.isText = false)
    (hpayload : msg.payload.length < 2 ^ 28) :
    (encodeWireFrame qt msg (Int64.ofNat n)).length < 2 ^ 32 := by
  have hcontent : msg.content qt = msg.payload := by
    cases msg with
    | sendText text => cases htext
    | _ => rfl
  have hsize := (qt.toJson_size (message_plain qt msg hn)).2
  have hbound := frameFields_size msg.isText (msg.content qt) n msg.toWireType.typeName_length
  rw [encodeWireFrame, wireDocument_eq hn]
  rw [hcontent, htext, if_neg Bool.false_ne_true, Base64.length_encode] at hbound
  rw [hcontent, htext] at hsize ⊢
  omega

end Up

/-! ## What the server writes -/

/-- The client's type of the same name. -/
def MessageType.received : MessageType → MsgType
  | imgSend => .imgSend
  | imgRecv => .imgRecv
  | audioSend => .audioSend
  | audioRecv => .audioRecv
  | textSend => .textSend
  | textRecv => .textRecv
  | createMeeting => .createMeeting
  | exitMeeting => .exitMeeting
  | joinMeeting => .joinMeeting
  | closeCamera => .closeCamera
  | roomSettings => .roomSettings
  | createMeetingResponse => .createMeetingResponse
  | partnerExit => .partnerExit
  | partnerJoin => .partnerJoin
  | joinMeetingResponse => .joinMeetingResponse
  | partnerJoin2 => .partnerJoin2
  | userProfile => .userProfile
  | roomSettingsNotify => .roomSettingsNotify

/-- The two tables of names agree. -/
theorem typeFromName_received (type : MessageType) :
    MsgType.typeFromName type.typeName = some type.received := by
  cases type <;> decide

theorem MessageType.typeName_ascii (type : MessageType) : ∀ b ∈ type.typeName, b ≤ 0x7F := by
  have hall : type.typeName.all (fun b => decide (b ≤ 0x7F)) = true := by cases type <;> rfl
  exact fun b hb => of_decide_eq_true (List.all_eq_true.mp hall b hb)

/-- The user ids that go over the wire as they are: a double holds them, and
they are no negative `qint64`. -/
def Exact (userId : UInt64) : Prop :=
  Double.roundNat userId.toNat = userId.toNat ∧ userId.toNat < 2 ^ 63

instance (userId : UInt64) : Decidable (Exact userId) := inferInstanceAs (Decidable (_ ∧ _))

theorem exact_ofNat {n : ℕ} (hn : n < 2 ^ 53) : Exact (UInt64.ofNat n) := by
  have hnat : (UInt64.ofNat n).toNat = n := UInt64.toNat_ofNat_of_lt' (by
    simp only [UInt64.size]
    omega)
  unfold Exact
  rw [hnat]
  exact ⟨Double.roundNat_of_lt hn, by omega⟩

section Down

variable {platform : Platform} {qt : Qt} {packet : Packet}

theorem encodeDocument_eq (hid : Exact packet.userId) :
    encodeDocument packet = Json.flat (frameFields packet.type.isTextType packet.payload
      packet.type.typeName packet.userId.toNat) := by
  have hround : Double.roundInt packet.userId.toNat = .ofInt packet.userId.toNat := by
    show Double.ofInt (Double.roundNat packet.userId.toNat) = _
    rw [hid.1]
  unfold encodeDocument frameFields Json.flat
  rw [hround, base64Encode_eq]
  split_ifs <;> simp [Json.Scalar.json]

/-- The client reads from a packet of the server the type, the user id and the
payload. -/
theorem decodeJsonFrame_of_packet (interop : Interop platform qt) (hid : Exact packet.userId)
    (htext : packet.type.isTextType = true → Utf8.Valid packet.payload) :
    ∃ text, encode platform packet = .ok text ∧ decodeJsonFrame qt text =
      MessageCodec.decodePayload qt packet.payload (Int64.ofNat packet.userId.toNat)
        packet.type.received := by
  rcases hid with ⟨hround, hlt⟩
  have hplain : Json.PlainFields (frameFields packet.type.isTextType packet.payload
      packet.type.typeName packet.userId.toNat) :=
    frameFields_plain packet.type.typeName_ascii hround (by omega) htext
  rcases (encode_isOk_iff platform packet).mpr htext with ⟨text, hencode⟩
  have hdump : platform.dump (Json.flat (frameFields packet.type.isTextType packet.payload
      packet.type.typeName packet.userId.toNat)) = some text := by
    rw [← encodeDocument_eq ⟨hround, hlt⟩]
    unfold encode at hencode
    split at hencode
    · rename_i dumped hd
      cases hencode
      exact hd
    · cases hencode
  rcases interop.down hplain hdump with ⟨ms, hparse, hread⟩
  exact ⟨text, hencode, decodeJsonFrame_of_frame hparse hread (typeFromName_received _) hlt⟩

end Down

end CCMeeting
