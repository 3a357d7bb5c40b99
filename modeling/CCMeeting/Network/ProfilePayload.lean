import CCMeeting.Client.Profiles
import CCMeeting.Client.Reference
import CCMeeting.Server.Identity

/-! # One profile payload

Three readers take the payload of a profile apart: the server for its record,
the client for the relay, and the client again for what the server makes of the
record. The server stores a payload field by field and the client takes it as a
whole, and a record under the id 0 is not replayed: there a member and a
newcomer do not hold the same.
-/

namespace CCMeeting

open ByteString State

/-! ## The layout of a profile -/

/-- The name of a payload is there, with the length of the avatar. -/
def NameFits (payload : ByteString) : Prop :=
  12 ≤ payload.length ∧ 10 + readBe16 (payload.drop 8) + 2 ≤ payload.length

/-- The avatar of a payload is there as well. -/
def AvatarFits (payload : ByteString) : Prop :=
  NameFits payload ∧ 10 + readBe16 (payload.drop 8) + 2 +
    readBe16 (payload.drop (10 + readBe16 (payload.drop 8))) ≤ payload.length

instance (payload : ByteString) : Decidable (NameFits payload) := inferInstanceAs (Decidable (_ ∧ _))

instance (payload : ByteString) : Decidable (AvatarFits payload) :=
  inferInstanceAs (Decidable (_ ∧ _))

/-- The bytes of the name. -/
def nameOf (payload : ByteString) : ByteString :=
  (payload.drop 10).take (readBe16 (payload.drop 8))

/-- The bytes of the avatar. -/
def avatarOf (payload : ByteString) : ByteString :=
  (payload.drop (10 + readBe16 (payload.drop 8) + 2)).take
    (readBe16 (payload.drop (10 + readBe16 (payload.drop 8))))

section Layout

variable {p : Participant} {payload : ByteString}

theorem length_nameOf : (nameOf payload).length < 65536 :=
  (List.length_take_le _ _).trans_lt (readBe16_lt _)

theorem length_avatarOf : (avatarOf payload).length < 65536 :=
  (List.length_take_le _ _).trans_lt (readBe16_lt _)

/-- The server leaves the record as it is. -/
theorem applyProfile_of_not_nameFits (h : ¬NameFits payload) : p.applyProfile payload = p := by
  unfold Participant.applyProfile
  dsimp only
  split_ifs with hhead hname
  · exact absurd ⟨hhead, hname⟩ h
  · exact absurd ⟨hhead, hname⟩ h
  · rfl
  · rfl

/-- The server stores the id and the name of a payload without its avatar. -/
theorem applyProfile_of_nameFits (hname : NameFits payload) (havatar : ¬AvatarFits payload) :
    p.applyProfile payload =
      { p with userId := readBe64 payload, displayName := nameOf payload } := by
  unfold Participant.applyProfile
  dsimp only
  rw [if_pos hname.1, if_pos hname.2, if_neg fun h => havatar ⟨hname, h⟩]
  rfl

theorem applyProfile_of_avatarFits (h : AvatarFits payload) :
    p.applyProfile payload =
      { p with
        userId := readBe64 payload
        displayName := nameOf payload
        avatarUrl := avatarOf payload } := by
  unfold Participant.applyProfile
  dsimp only
  rw [if_pos h.1.1, if_pos h.1.2, if_pos h.2]
  rfl

/-- The client takes nothing of a payload without its avatar. -/
theorem decodeUserProfile_of_not_avatarFits (qt : Qt) (senderUserId : Int64)
    (h : ¬AvatarFits payload) : decodeUserProfile qt payload senderUserId = none := by
  unfold decodeUserProfile
  dsimp only
  split_ifs with hhead hname havatar
  · rfl
  · rfl
  · rfl
  · exact absurd ⟨⟨by omega, by omega⟩, by omega⟩ h

theorem decodeUserProfile_of_avatarFits (qt : Qt) (senderUserId : Int64)
    (h : AvatarFits payload) : decodeUserProfile qt payload senderUserId =
      some (.userProfileNotify
        (if senderUserId ≠ 0 then senderUserId else (readBe64 payload).toInt64)
        (cString (qt.utf8 (nameOf payload))) (cString (qt.utf8 (avatarOf payload)))) := by
  rcases h with ⟨⟨hhead, hname⟩, havatar⟩
  unfold decodeUserProfile
  rw [if_neg (by omega)]
  dsimp only
  rw [if_neg (by omega), if_neg (by omega)]
  rfl

end Layout

/-! ## One payload -/

/-- What a client holds of a record that it has been sent. -/
def Participant.shown (qt : Qt) (p : Participant) : PartnerProfile where
  displayName := qt.held p.displayName
  avatarUrl := qt.held p.avatarUrl

/-- What is relayed of a profile packet. -/
def Participant.relayed (p : Participant) (c : ConnId) (packet : Packet) : Queued :=
  ⟨{ packet with userId := (p.applyProfile packet.payload).userId }, [c]⟩

/-- A payload whose avatar is there has an id, or nothing to show. Of any other
payload the server stores nothing new. -/
def Participant.KeepsProfile (qt : Qt) (p : Participant) (payload : ByteString) : Prop :=
  if AvatarFits payload then
    readBe64 payload ≠ 0 ∨ qt.held (nameOf payload) = [] ∧ qt.held (avatarOf payload) = []
  else NameFits payload → readBe64 payload = p.userId ∧ nameOf payload = p.displayName

instance (qt : Qt) (p : Participant) (payload : ByteString) :
    Decidable (p.KeepsProfile qt payload) := by
  unfold Participant.KeepsProfile
  infer_instance

/-- If the client takes nothing of the relayed packet, the record has not
changed. If it does, one who has been there holds the profile a newcomer holds
after the replay, where the list of partners has come before. -/
def Participant.Carries (platform : Platform) (qt : Qt) (p : Participant) (c : ConnId)
    (packet : Packet) : Prop :=
  if (p.relayed c packet).decoded platform qt = none then p.applyProfile packet.payload = p
  else ∀ (me you : LocalUser) (present newcomer : ProfileClient),
    newcomer.partners (p.applyProfile packet.payload).userId.toInt64 = some .blank →
    (present.hear platform qt me (p.relayed c packet)).partners
        (p.applyProfile packet.payload).userId.toInt64 =
      (newcomer.hearAll platform qt you (profileNotices (p.applyProfile packet.payload))).partners
        (p.applyProfile packet.payload).userId.toInt64

section Payload

variable {platform : Platform} {qt : Qt}

theorem Qt.held_nil : qt.held [] = [] := by
  have hplain : Utf8.Plain [] := by decide
  rw [held, qt.utf8_eq hplain]
  exact qt.utf8_eq hplain

/-- What is decoded from the frame of a packet, if the id goes over the wire. -/
theorem Queued.decoded_eq (interop : Interop platform qt) {q : Queued} (hid : Exact q.packet.userId)
    (htext : q.packet.type.isTextType = false) : q.decoded platform qt = q.heard qt := by
  rcases decodeJsonFrame_of_packet interop hid (fun h => absurd h (by simp [htext]))
    with ⟨text, hencode, hdecode⟩
  have hcast : Int64.ofNat q.packet.userId.toNat = q.packet.userId.toInt64 := by
    rw [← UInt64.toInt64_ofNat', UInt64.ofNat_toNat]
  unfold Queued.decoded Queued.heard
  rw [hencode, ← hcast]
  exact hdecode

variable {me : LocalUser} {v : ProfileClient} {p : Participant} {packet : Packet} {c : ConnId}

theorem ProfileClient.hear_of_some {q : Queued} {msg : Message}
    (h : q.decoded platform qt = some msg) :
    (v.hear platform qt me q).partners = v.partners.dispatch qt me v.meeting msg := by
  unfold hear
  rw [h]

theorem ProfileClient.hear_of_none {q : Queued} (h : q.decoded platform qt = none) :
    v.hear platform qt me q = v := by
  unfold hear
  rw [h]

/-- The frame of a relayed profile is decoded to what is in its payload. -/
theorem Participant.relayed_decoded (interop : Interop platform qt)
    (htype : packet.type = .userProfile) (hid : Exact (p.applyProfile packet.payload).userId) :
    (p.relayed c packet).decoded platform qt = decodeUserProfile qt packet.payload
      (p.applyProfile packet.payload).userId.toInt64 := by
  have htext : (p.relayed c packet).packet.type.isTextType = false := by
    show packet.type.isTextType = false
    rw [htype]
    rfl
  rw [Queued.decoded_eq interop hid htext]
  show MessageCodec.decodePayload qt packet.payload _ packet.type.received = _
  rw [htype]
  rfl

variable (v me) in
/-- A relayed profile is held as the server has stored it, where it is held at all. -/
theorem ProfileClient.hear_relayed (interop : Interop platform qt)
    (htype : packet.type = .userProfile) (hid : Exact (p.applyProfile packet.payload).userId)
    (hfits : AvatarFits packet.payload) :
    (v.hear platform qt me (p.relayed c packet)).partners =
      v.partners.applyProfile (p.applyProfile packet.payload).userId.toInt64
        ((p.applyProfile packet.payload).shown qt) := by
  have hstored := applyProfile_of_avatarFits (p := p) hfits
  have hdecoded := p.relayed_decoded (c := c) interop htype hid
  have huser : (p.applyProfile packet.payload).userId = readBe64 packet.payload := by rw [hstored]
  -- the sender's id is the id of the payload by now
  rw [decodeUserProfile_of_avatarFits qt _ hfits, huser, ite_self] at hdecoded
  rw [hear_of_some hdecoded, hstored]
  rfl

/-- The record the server writes out is read back from its payload. -/
theorem Participant.applyProfile_make (hname : p.displayName.length < 65536)
    (havatar : p.avatarUrl.length < 65536) : AvatarFits (makeUserProfilePacket p).payload ∧
      p.applyProfile (makeUserProfilePacket p).payload = p := by
  rcases profile_fields (makeUserProfilePacket p).payload rfl hname havatar
    with ⟨hlength, hid, hn, htake, ha, hrest⟩
  have hfits : AvatarFits (makeUserProfilePacket p).payload := by
    refine ⟨⟨by omega, by omega⟩, ?_⟩
    rw [hn, ha]
    omega
  refine ⟨hfits, ?_⟩
  rw [applyProfile_of_avatarFits hfits, hid, nameOf, avatarOf, hn, ha, htake, hrest]

/-- Nothing is replayed of this record. -/
def Participant.Unnamed (p : Participant) : Prop :=
  p.userId = 0 ∨ p.displayName = [] ∧ p.avatarUrl = []

variable (v me) in
/-- The replay is held as the server has stored it, where there is one. -/
theorem ProfileClient.hearAll_profileNotices (interop : Interop platform qt)
    (hid : Exact p.userId) (hname : p.displayName.length < 65536)
    (havatar : p.avatarUrl.length < 65536) :
    (p.Unnamed → v.hearAll platform qt me (profileNotices p) = v) ∧
      (¬p.Unnamed → (v.hearAll platform qt me (profileNotices p)).partners =
        v.partners.applyProfile p.userId.toInt64 (p.shown qt)) := by
  have hskip : (p.userId = 0 || (p.displayName.isEmpty && p.avatarUrl.isEmpty)) = true ↔
      p.Unnamed := by
    simp [Participant.Unnamed]
  constructor
  · intro h
    rw [profileNotices, if_pos (hskip.mpr h)]
    rfl
  · intro h
    rw [profileNotices, if_neg (mt hskip.mp h)]
    rcases Participant.applyProfile_make hname havatar with ⟨hfits, hsame⟩
    -- the replay is the relay of the record's own packet
    have hreplay := v.hear_relayed me (c := p.connection) interop rfl
      (by rw [hsame]; exact hid) hfits
    rw [Participant.relayed, hsame] at hreplay
    exact hreplay

theorem Participant.shown_eq_blank :
    p.shown qt = .blank ↔ qt.held p.displayName = [] ∧ qt.held p.avatarUrl = [] := by
  rw [shown, PartnerProfile.blank, PartnerProfile.mk.injEq]

/-- A payload whose avatar is there is replayed, or there is nothing to show of it. -/
theorem Participant.keepsProfile_iff {payload : ByteString} (hfits : AvatarFits payload) :
    p.KeepsProfile qt payload ↔ ((p.applyProfile payload).Unnamed →
      (p.applyProfile payload).shown qt = .blank) := by
  rw [KeepsProfile, if_pos hfits, shown_eq_blank, Unnamed, applyProfile_of_avatarFits hfits]
  constructor
  · rintro (hid | hblank) (hzero | ⟨hname, havatar⟩)
    · exact absurd hzero hid
    · change nameOf payload = [] at hname
      change avatarOf payload = [] at havatar
      show qt.held (nameOf payload) = [] ∧ qt.held (avatarOf payload) = []
      rw [hname, havatar]
      exact ⟨Qt.held_nil, Qt.held_nil⟩
    · exact hblank
    · exact hblank
  · intro h
    by_cases hid : readBe64 payload = 0
    · exact Or.inr (h (Or.inl hid))
    · exact Or.inl hid

/-- Of one payload: what a member holds and what a newcomer holds are the same
exactly where the payload is kept as it was sent. -/
theorem Participant.carries_iff (interop : Interop platform qt)
    (htype : packet.type = .userProfile) (hid : Exact (p.applyProfile packet.payload).userId) :
    p.Carries platform qt c packet ↔ p.KeepsProfile qt packet.payload := by
  unfold Carries
  rw [p.relayed_decoded interop htype hid]
  by_cases hfits : AvatarFits packet.payload
  · rw [if_neg (by rw [decodeUserProfile_of_avatarFits qt _ hfits]; exact nofun),
      keepsProfile_iff hfits]
    have hreplay := fun (you : LocalUser) (newcomer : ProfileClient) =>
      newcomer.hearAll_profileNotices you interop hid
        (by rw [applyProfile_of_avatarFits hfits]; exact length_nameOf)
        (by rw [applyProfile_of_avatarFits hfits]; exact length_avatarOf)
    constructor
    · intro hcarry hunnamed
      -- a newcomer that holds nothing of anybody, and is not told
      have hheld := hcarry ⟨0, .blank⟩ ⟨0, .blank⟩ .fresh ⟨.fresh, fun _ => some .blank⟩ rfl
      rw [ProfileClient.hear_relayed _ _ interop htype hid hfits, Partners.applyProfile_self,
        (hreplay _ _).1 hunnamed] at hheld
      exact Option.some.inj hheld
    · intro hkeep me you present newcomer hblank
      rw [ProfileClient.hear_relayed _ _ interop htype hid hfits, Partners.applyProfile_self]
      by_cases hunnamed : (p.applyProfile packet.payload).Unnamed
      · rw [(hreplay you newcomer).1 hunnamed, hblank, hkeep hunnamed]
      · rw [(hreplay you newcomer).2 hunnamed, Partners.applyProfile_self]
  · rw [KeepsProfile, if_neg hfits, if_pos (decodeUserProfile_of_not_avatarFits qt _ hfits)]
    by_cases hnamed : NameFits packet.payload
    · rw [applyProfile_of_nameFits hnamed hfits]
      constructor
      · intro hsame _
        exact ⟨congrArg Participant.userId hsame, congrArg Participant.displayName hsame⟩
      · intro hkeep
        rw [(hkeep hnamed).1, (hkeep hnamed).2]
    · exact iff_of_true (applyProfile_of_not_nameFits hnamed) fun h => absurd h hnamed

end Payload

end CCMeeting
