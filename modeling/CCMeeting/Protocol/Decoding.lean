import CCMeeting.Protocol.Encoding
import CCMeeting.Protocol.Reference

/-! # What the server's codec accepts

`Codec::try_decode` guards the parse and nothing after it. The frames it
decodes without raising, and without converting a number out of range, are
those whose document passes `Acceptable`.
-/

namespace CCMeeting

open ByteString

/-! ## Frames -/

/-- The length in front of the frame. -/
def frameSize (buffer : ByteString) : ℕ := (readBe32 buffer).toNat

/-- The buffer holds a whole frame of positive length. -/
def HasFrame (buffer : ByteString) : Prop :=
  kLengthPrefixSize ≤ buffer.length ∧ 0 < frameSize buffer ∧
    kLengthPrefixSize + frameSize buffer ≤ buffer.length

instance (buffer : ByteString) : Decidable (HasFrame buffer) :=
  inferInstanceAs (Decidable (_ ∧ _ ∧ _))

/-- The text of the first frame. -/
def frameText (buffer : ByteString) : ByteString :=
  (buffer.drop kLengthPrefixSize).take (frameSize buffer)

/-- What is left once the first frame is consumed. -/
def afterFrame (buffer : ByteString) : ByteString :=
  buffer.drop (kLengthPrefixSize + frameSize buffer)

theorem tryDecode_of_frame {platform : Platform} {buffer : ByteString} (h : HasFrame buffer) :
    tryDecode platform buffer =
      match platform.parse (frameText buffer) with
      | none => .ok (.invalid (afterFrame buffer))
      | some document => decodeDocument platform document (afterFrame buffer) := by
  obtain ⟨h1, h2, h3⟩ := h
  have hsize : (readBe32 buffer).toNat ≠ 0 := Nat.pos_iff_ne_zero.mp h2
  have hwhole : ¬buffer.length < kLengthPrefixSize + (readBe32 buffer).toNat := Nat.not_lt.mpr h3
  rw [tryDecode, if_neg (Nat.not_lt.mpr h1)]
  dsimp only
  rw [if_neg hsize, if_neg hwhole]
  rfl

/-- Without a whole frame nothing is parsed. -/
theorem tryDecode_of_no_frame (platform : Platform) {buffer : ByteString} (h : ¬HasFrame buffer) :
    tryDecode platform buffer = .ok .needMore ∨
      (frameSize buffer = 0 ∧ tryDecode platform buffer = .ok (.invalid buffer)) := by
  unfold tryDecode
  dsimp only
  split_ifs with h1 h2 h3
  · exact Or.inl rfl
  · exact Or.inr ⟨h2, rfl⟩
  · exact Or.inl rfl
  · exact absurd ⟨Nat.not_lt.mp h1, Nat.pos_iff_ne_zero.mpr h2, Nat.not_lt.mp h3⟩ h

theorem afterFrame_length {buffer : ByteString} (h : HasFrame buffer) :
    (afterFrame buffer).length < buffer.length := by
  obtain ⟨h1, h2, h3⟩ := h
  have hsize4 : kLengthPrefixSize = 4 := rfl
  rw [afterFrame, List.length_drop]
  omega

/-! ## Documents -/

/-- The member is absent or a string. -/
def IsText : Option Json → Prop
  | none => True
  | some (.string _) => True
  | some _ => False

/-- The member is absent or a number the codec converts exactly. -/
def IsUserId : Option Json → Prop
  | none => True
  | some (.number n) => n.Converts
  | some _ => False

/-- The documents the codec reads without an exception and without a number
out of range: objects whose `t` is absent or a string and, when it names a
type, whose `u` converts and whose payload member is a string. -/
def Acceptable : Json → Prop
  | .object ms =>
    IsText (ms.lookup (ascii "t")) ∧
      ∀ name, ms.lookup (ascii "t") = some (.string name) →
        MessageType.typeFromName name ≠ none →
        IsUserId (ms.lookup (ascii "u")) ∧ IsText (ms.lookup (ascii "s")) ∧
          (ms.lookup (ascii "s") = none → IsText (ms.lookup (ascii "p")))
  | _ => False

/-- When the frame carries a number `u`, its conversion is in range and the
number lies in `[0, 2 ^ 64)`. -/
def UserIdInRange (platform : Platform) (buffer : ByteString) : Prop :=
  ∀ ms n, platform.parse (frameText buffer) = some (.object ms) →
    ms.lookup (ascii "u") = some (.number n) → n.InRange ∧ n.toDouble.InU64Range

/-- `try_decode` returns, converts no number out of range, and consumes
exactly the frame it decides about. -/
def DecodesCleanly (platform : Platform) (buffer : ByteString) : Prop :=
  ∃ status, tryDecode platform buffer = .ok status ∧
    match status with
    | .needMore => True
    | .ok _ rest =>
      UserIdInRange platform buffer ∧ (0 < frameSize buffer → rest = afterFrame buffer)
    | .invalid rest => 0 < frameSize buffer → rest = afterFrame buffer

/-- Reading a string member raises unless the member is absent or a string. -/
theorem valueString_isOk_iff (ms : List (ByteString × Json)) (key fallback : ByteString) :
    (∃ text, valueString (.object ms) key fallback = .ok text) ↔ IsText (ms.lookup key) := by
  cases hv : ms.lookup key with
  | none => simp [valueString, hv, IsText]
  | some v => cases v <;> simp [valueString, hv, IsText]

/-- The payload members are read without an exception. -/
theorem decodePayload_isOk_iff {ms : List (ByteString × Json)} :
    (∃ payload, decodePayload (.object ms) = .ok payload) ↔
      IsText (ms.lookup (ascii "s")) ∧
        (ms.lookup (ascii "s") = none → IsText (ms.lookup (ascii "p"))) := by
  have hs := valueString_isOk_iff ms (ascii "s") []
  have hp := valueString_isOk_iff ms (ascii "p") []
  cases hls : ms.lookup (ascii "s") with
  | some v =>
    have hcontains : contains (.object ms) (ascii "s") = true := by simp [contains, hls]
    rw [hls] at hs
    simpa [decodePayload, hcontains] using hs
  | none =>
    have hcontains : contains (.object ms) (ascii "s") = false := by simp [contains, hls]
    cases hlp : ms.lookup (ascii "p") with
    | some v =>
      have hcontains' : contains (.object ms) (ascii "p") = true := by simp [contains, hlp]
      rw [hlp] at hp
      have hmap : (∃ payload, decodePayload (.object ms) = .ok payload) ↔
          ∃ text, valueString (.object ms) (ascii "p") [] = .ok text := by
        simp only [decodePayload, hcontains, hcontains']
        cases valueString (.object ms) (ascii "p") [] <;>
          simp [bind, Except.bind, pure, Except.pure]
      rw [hmap, hp]
      simp [IsText]
    | none =>
      have hcontains' : contains (.object ms) (ascii "p") = false := by simp [contains, hlp]
      simp [decodePayload, hcontains, hcontains', IsText]

/-- Reading `u` raises unless the member is absent or a number. -/
theorem valueDouble_cases (ms : List (ByteString × Json)) :
    (¬IsUserId (ms.lookup (ascii "u")) ∧
        ∃ e, valueDouble (.object ms) (ascii "u") (.ofInt 0) = .error e) ∨
      ms.lookup (ascii "u") = none ∧
        valueDouble (.object ms) (ascii "u") (.ofInt 0) = .ok (.ofInt 0) ∨
      ∃ n, ms.lookup (ascii "u") = some (.number n) ∧
        valueDouble (.object ms) (ascii "u") (.ofInt 0) = .ok n.toDouble := by
  cases hu : ms.lookup (ascii "u") with
  | none => exact Or.inr (Or.inl ⟨rfl, by simp [valueDouble, hu]⟩)
  | some v =>
    cases v with
    | number n => exact Or.inr (Or.inr ⟨n, rfl, by simp [valueDouble, hu]⟩)
    | null | boolean _ | string _ | array _ | object _ =>
      exact Or.inl ⟨by simp [IsUserId], .typeError302, by simp [valueDouble, hu]⟩

/-- What `try_decode` does with a parsed object whose `t` names a type. -/
theorem decodeDocument_of_type {platform : Platform} {ms : List (ByteString × Json)}
    {name rest : ByteString} {type : MessageType}
    (ht : ms.lookup (ascii "t") = some (.string name))
    (htype : MessageType.typeFromName name = some type) :
    decodeDocument platform (.object ms) rest =
      (valueDouble (.object ms) (ascii "u") (.ofInt 0)).bind fun u =>
        (decodePayload (.object ms)).bind fun payload =>
          .ok (.ok { type, userId := platform.u64OfDouble u, payload } rest) := by
  have hname : valueString (.object ms) (ascii "t") (ascii "unknown") = .ok name := by
    simp [valueString, ht]
  rw [decodeDocument, hname]
  simp [bind, Except.bind, htype, pure, Except.pure]

/-- A document without a known type is reported as invalid. -/
theorem decodeDocument_of_unknown {platform : Platform} {ms : List (ByteString × Json)}
    {rest : ByteString} (ht : IsText (ms.lookup (ascii "t")))
    (hunknown : ∀ name, ms.lookup (ascii "t") = some (.string name) →
      MessageType.typeFromName name = none) :
    decodeDocument platform (.object ms) rest = .ok (.invalid rest) := by
  have hdefault : MessageType.typeFromName (ascii "unknown") = none := by decide
  cases hl : ms.lookup (ascii "t") with
  | none =>
    have hname : valueString (.object ms) (ascii "t") (ascii "unknown") =
        .ok (ascii "unknown") := by simp [valueString, hl]
    rw [decodeDocument, hname]
    simp [bind, Except.bind, hdefault, pure, Except.pure]
  | some v =>
    rw [hl] at ht
    cases v with
    | string name =>
      have hname : valueString (.object ms) (ascii "t") (ascii "unknown") = .ok name := by
        simp [valueString, hl]
      rw [decodeDocument, hname]
      simp [bind, Except.bind, hunknown name hl, pure, Except.pure]
    | null | boolean _ | number _ | array _ | object _ => exact ht.elim

/-- A `t` that is no string raises. -/
theorem decodeDocument_of_bad_type (platform : Platform) {ms : List (ByteString × Json)}
    (rest : ByteString) (ht : ¬IsText (ms.lookup (ascii "t"))) :
    ∃ e, decodeDocument platform (.object ms) rest = .error e := by
  have hno := (not_congr (valueString_isOk_iff ms (ascii "t") (ascii "unknown"))).mpr ht
  cases hv : valueString (.object ms) (ascii "t") (ascii "unknown") with
  | ok name => exact absurd ⟨name, hv⟩ hno
  | error e => exact ⟨e, by rw [decodeDocument, hv]; rfl⟩

/-- The text at `t` is the name of a type, or nothing there is. -/
theorem unknown_or_known (ms : List (ByteString × Json)) :
    (∀ name, ms.lookup (ascii "t") = some (.string name) →
        MessageType.typeFromName name = none) ∨
      ∃ name type, ms.lookup (ascii "t") = some (.string name) ∧
        MessageType.typeFromName name = some type := by
  by_cases hknown : ∃ name type, ms.lookup (ascii "t") = some (.string name) ∧
      MessageType.typeFromName name = some type
  · exact Or.inr hknown
  · left
    intro name hname
    cases htype : MessageType.typeFromName name with
    | none => rfl
    | some type => exact absurd ⟨name, type, hname, htype⟩ hknown

/-- The document decides whether its frame is decoded cleanly. -/
theorem decodeDocument_clean_iff {platform : Platform} {document : Json} {rest : ByteString} :
    (∃ status, decodeDocument platform document rest = .ok status ∧
      match status with
      | .needMore => True
      | .ok _ after =>
        (∀ ms n, document = .object ms → ms.lookup (ascii "u") = some (.number n) →
          n.InRange ∧ n.toDouble.InU64Range) ∧ after = rest
      | .invalid after => after = rest) ↔ Acceptable document := by
  cases document with
  | null | boolean _ | number _ | string _ | array _ =>
    simp [decodeDocument, valueString, bind, Except.bind, Acceptable]
  | object ms =>
    by_cases ht : IsText (ms.lookup (ascii "t"))
    swap
    · obtain ⟨e, he⟩ := decodeDocument_of_bad_type platform rest ht
      simp [he, Acceptable, ht]
    rcases unknown_or_known ms with hunknown | hknown
    · rw [decodeDocument_of_unknown ht hunknown]
      simp only [Except.ok.injEq, exists_eq_left', Acceptable, true_iff]
      exact ⟨ht, fun name hname hne => absurd (hunknown name hname) hne⟩
    obtain ⟨name, type, hname, htype⟩ := hknown
    -- the type is known: what is left is whether `u` and the payload convert
    have haccept : Acceptable (.object ms) ↔ IsUserId (ms.lookup (ascii "u")) ∧
        ∃ payload, decodePayload (.object ms) = .ok payload := by
      rw [decodePayload_isOk_iff]
      simp [Acceptable, hname, htype, IsText]
    have hrange : (∀ ms' n, Json.object ms = .object ms' →
          ms'.lookup (ascii "u") = some (.number n) → n.InRange ∧ n.toDouble.InU64Range) ↔
        ∀ n, ms.lookup (ascii "u") = some (.number n) → n.InRange ∧ n.toDouble.InU64Range := by
      constructor
      · exact fun h n => h ms n rfl
      · rintro h ms' n heq
        cases heq
        exact h n
    simp only [hrange]
    rw [haccept, decodeDocument_of_type hname htype]
    rcases valueDouble_cases ms with ⟨hnot, e, he⟩ | ⟨hu, hv⟩ | ⟨n, hu, hv⟩
    · simp [he, hnot, Except.bind]
    · cases hp : decodePayload (.object ms) <;>
        simp [hv, hu, IsUserId, Except.bind]
    · cases hp : decodePayload (.object ms) <;>
        simp [hv, hu, IsUserId, Except.bind, Number.converts_iff]

/-- A frame is decoded cleanly exactly when its text does not parse or its
document is acceptable. -/
theorem decodesCleanly_iff (platform : Platform) (buffer : ByteString) :
    DecodesCleanly platform buffer ↔
      (HasFrame buffer → ∀ document, platform.parse (frameText buffer) = some document →
        Acceptable document) := by
  unfold DecodesCleanly
  by_cases hframe : HasFrame buffer
  swap
  · rcases tryDecode_of_no_frame platform hframe with hmore | ⟨hzero, hinvalid⟩
    · simp [hmore, hframe]
    · simp [hinvalid, hframe, hzero]
  have hpos : 0 < frameSize buffer := hframe.2.1
  rw [tryDecode_of_frame hframe]
  cases hparse : platform.parse (frameText buffer) with
  | none => simp
  | some document =>
    simp only [hframe, forall_true_left, Option.some.injEq, forall_eq', UserIdInRange, hparse,
      hpos]
    exact decodeDocument_clean_iff

/-- The frame `[]` makes `try_decode` raise. -/
theorem tryDecode_raises_on_array :
    ¬∀ (platform : Platform) (buffer : ByteString), DecodesCleanly platform buffer := by
  intro h
  obtain ⟨status, hok, _⟩ := h reference ([0, 0, 0, 2] ++ ascii "[]")
  have hraise : tryDecode reference ([0, 0, 0, 2] ++ ascii "[]") = .error .typeError306 := by
    decide +kernel
  rw [hraise] at hok
  cases hok

/-- Whatever is reported about a document, its frame is consumed. -/
theorem decodeDocument_rest {platform : Platform} {document : Json} {rest after : ByteString}
    {packet : Packet} (h : decodeDocument platform document rest = .ok (.ok packet after)) :
    after = rest := by
  unfold decodeDocument at h
  simp only [bind, Except.bind, pure, Except.pure] at h
  repeat' split at h
  all_goals cases h
  rfl

/-- A decoded packet takes its frame off the buffer. -/
theorem tryDecode_ok_rest {platform : Platform} {buffer rest : ByteString} {packet : Packet}
    (h : tryDecode platform buffer = .ok (.ok packet rest)) :
    HasFrame buffer ∧ rest = afterFrame buffer := by
  by_cases hframe : HasFrame buffer
  · rw [tryDecode_of_frame hframe] at h
    split at h
    · cases h
    · exact ⟨hframe, decodeDocument_rest h⟩
  · rcases tryDecode_of_no_frame platform hframe with hmore | ⟨_, hinvalid⟩
    · rw [hmore] at h
      cases h
    · rw [hinvalid] at h
      cases h

theorem tryDecode_ok_length {platform : Platform} {buffer rest : ByteString} {packet : Packet}
    (h : tryDecode platform buffer = .ok (.ok packet rest)) : rest.length < buffer.length := by
  obtain ⟨hframe, rfl⟩ := tryDecode_ok_rest h
  exact afterFrame_length hframe

/-! ## Documents that raise nothing -/

/-- The member is absent or a number. -/
def IsNumber : Option Json → Prop
  | none => True
  | some (.number _) => True
  | some _ => False

/-- The documents the codec reads without an exception: `Acceptable` whatever
the number in `u` is. -/
def Readable : Json → Prop
  | .object ms =>
    IsText (ms.lookup (ascii "t")) ∧
      ∀ name, ms.lookup (ascii "t") = some (.string name) →
        MessageType.typeFromName name ≠ none →
        IsNumber (ms.lookup (ascii "u")) ∧ IsText (ms.lookup (ascii "s")) ∧
          (ms.lookup (ascii "s") = none → IsText (ms.lookup (ascii "p")))
  | _ => False

/-- Reading `u` raises unless the member is absent or a number. -/
theorem valueDouble_isOk_iff (ms : List (ByteString × Json)) (key : ByteString)
    (fallback : Double) :
    (∃ u, valueDouble (.object ms) key fallback = .ok u) ↔ IsNumber (ms.lookup key) := by
  cases hv : ms.lookup key with
  | none => simp [valueDouble, hv, IsNumber]
  | some v => cases v <;> simp [valueDouble, hv, IsNumber]

theorem decodeDocument_isOk_iff {platform : Platform} {document : Json} {rest : ByteString} :
    (∃ status, decodeDocument platform document rest = .ok status) ↔ Readable document := by
  cases document with
  | null | boolean _ | number _ | string _ | array _ =>
    simp [decodeDocument, valueString, bind, Except.bind, Readable]
  | object ms =>
    by_cases ht : IsText (ms.lookup (ascii "t"))
    swap
    · obtain ⟨e, he⟩ := decodeDocument_of_bad_type platform rest ht
      simp [he, Readable, ht]
    rcases unknown_or_known ms with hunknown | hknown
    · rw [decodeDocument_of_unknown ht hunknown]
      constructor
      · intro _
        exact ⟨ht, fun name hname hne => absurd (hunknown name hname) hne⟩
      · intro _
        exact ⟨_, rfl⟩
    obtain ⟨name, type, hname, htype⟩ := hknown
    have hreadable : Readable (.object ms) ↔
        (∃ u, valueDouble (.object ms) (ascii "u") (.ofInt 0) = .ok u) ∧
          ∃ payload, decodePayload (.object ms) = .ok payload := by
      rw [valueDouble_isOk_iff, decodePayload_isOk_iff]
      simp [Readable, hname, htype, IsText]
    rw [hreadable, decodeDocument_of_type hname htype]
    cases valueDouble (.object ms) (ascii "u") (.ofInt 0) with
    | error e => simp [Except.bind]
    | ok u => cases decodePayload (.object ms) <;> simp [Except.bind]

end CCMeeting
