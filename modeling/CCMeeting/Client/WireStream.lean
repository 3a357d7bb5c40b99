import CCMeeting.Client.Reference
import CCMeeting.Client.Codec
import CCMeeting.Lib.JsonEnds
import CCMeeting.Lib.Machine
import CCMeeting.Lib.Trim

/-! # The stream parser

`MessageCodec::WireStreamParser` keeps what does not parse and puts it in front
of what comes next, so half a frame waits for its other half. Two frames in one
chunk do not parse either, and wait for ever; so does a text that was no half.
-/

namespace CCMeeting

open ByteString Machine Trim

/-! ## `WireStreamParser` -/

/-- `QByteArray::trimmed`. -/
def trimmed (text : ByteString) : ByteString := trim isSpace text

/-- `k_max_buffer`. -/
def kMaxBuffer : ℕ := 4 * 1024 * 1024

/-- The size from which a text that does not parse is dropped. -/
def kMaxIncomplete : ℕ := 1024 * 1024

/-- `buffer_.append(data, size)`: a negative size stands for a C string. -/
def appendChunk (buffer data : ByteString) (size : Int32) : ByteString :=
  buffer ++ if size < 0 then cString data else data.take size.toInt.toNat

/-- `WireStreamParser::feed`: the messages, and `buffer_` afterwards. -/
def feed (qt : Qt) (buffer data : ByteString) : List Message × ByteString :=
  if data.isEmpty then ([], buffer)
  else
    let len := Int32.ofNat data.length
    let buffer := if (kMaxBuffer : ℤ) < buffer.length + len.toInt then [] else buffer
    let buffer := appendChunk buffer data len
    let frame := trimmed buffer
    if frame.isEmpty then ([], buffer)
    else if frame.head? ≠ some 123 then ([], [])
    else
      match qt.fromJson frame with
      | none => ([], if kMaxIncomplete < buffer.length then [] else buffer)
      | some (.object _) => ((decodeJsonFrame qt frame).toList, [])
      | some _ => ([], [])

/-- What `QJsonDocument::fromJson` does at the ends of a text. -/
structure Qt.Delimits (qt : Qt) : Prop where
  /-- `QJsonParseError::GarbageAtEnd` -/
  garbage : ∀ {text rest document}, text.head? = some 123 → qt.fromJson text = some document →
    ¬Blank isSpace rest → qt.fromJson (text ++ rest) = none
  /-- the blanks around an object do not count -/
  blanks : ∀ {text ms}, qt.fromJson text = some (.object ms) →
    qt.fromJson (trimmed text) = some (.object ms)

/-- The text of a JSON object that `decode_json_frame` accepts. -/
structure Frame (qt : Qt) where
  text : ByteString
  message : Message
  opens : (trimmed text).head? = some 123
  decodes : decodeJsonFrame qt text = some message

/-- All the messages a parser returns for the chunks it is fed. -/
def feedAll (qt : Qt) (buffer : ByteString) (chunks : List ByteString) : List Message :=
  (answers (feed qt) buffer chunks).1.flatten

/-! ## One chunk -/

/-- A chunk of ordinary size is appended whole. -/
theorem appendChunk_eq {data : ByteString} (h : data.length < 2 ^ 31) (buffer : ByteString) :
    appendChunk buffer data (Int32.ofNat data.length) = buffer ++ data := by
  have hint : (Int32.ofNat data.length).toInt = data.length := Int32.toInt_ofNat_of_lt h
  have hnot : ¬Int32.ofNat data.length < 0 := by
    rw [Int32.lt_iff_toInt_lt, hint]
    simp
  rw [appendChunk, if_neg hnot, hint, Int.toNat_natCast, List.take_length]

section Feed

variable {qt : Qt} {buffer data : ByteString}

/-- The text the parser looks at: a buffer that would grow too large is dropped
before the chunk is appended. -/
def gathered (buffer data : ByteString) : ByteString :=
  (if kMaxBuffer < buffer.length + data.length then [] else buffer) ++ data

/-- What `feed` does with a chunk of ordinary size. -/
theorem feed_gathered (hdata : data ≠ []) (hlt : data.length < 2 ^ 31) :
    feed qt buffer data =
      if (trimmed (gathered buffer data)).isEmpty then ([], gathered buffer data)
      else if (trimmed (gathered buffer data)).head? ≠ some 123 then ([], [])
      else
        match qt.fromJson (trimmed (gathered buffer data)) with
        | none =>
          ([], if kMaxIncomplete < (gathered buffer data).length then []
            else gathered buffer data)
        | some (.object _) => ((decodeJsonFrame qt (trimmed (gathered buffer data))).toList, [])
        | some _ => ([], []) := by
  have hint : (Int32.ofNat data.length).toInt = data.length := Int32.toInt_ofNat_of_lt hlt
  have hroom : ((kMaxBuffer : ℤ) < buffer.length + (data.length : ℤ)) =
      (kMaxBuffer < buffer.length + data.length) := by
    rw [← Nat.cast_add, Nat.cast_lt]
  have hempty : data.isEmpty = false := List.isEmpty_eq_false_iff.mpr hdata
  rw [feed, hempty]
  simp only [Bool.false_eq_true, if_false, appendChunk_eq hlt, hint, hroom, gathered]
  rfl

/-- What `feed` does below the two limits. -/
theorem feed_eq (hdata : data ≠ []) (hsize : buffer.length + data.length ≤ kMaxIncomplete) :
    feed qt buffer data =
      if (trimmed (buffer ++ data)).isEmpty then ([], buffer ++ data)
      else if (trimmed (buffer ++ data)).head? ≠ some 123 then ([], [])
      else
        match qt.fromJson (trimmed (buffer ++ data)) with
        | none => ([], buffer ++ data)
        | some (.object _) => ((decodeJsonFrame qt (trimmed (buffer ++ data))).toList, [])
        | some _ => ([], []) := by
  have hmax : kMaxIncomplete = 1048576 := rfl
  have hmax' : kMaxBuffer = 4194304 := rfl
  have hgathered : gathered buffer data = buffer ++ data := by
    rw [gathered, if_neg (by omega)]
  have hkept : ¬kMaxIncomplete < (buffer ++ data).length := by
    rw [List.length_append]
    omega
  rw [feed_gathered hdata (by omega), hgathered, if_neg hkept]

/-- What is blank, or opens an object that does not parse, waits. -/
theorem feed_waits (hsize : buffer.length + data.length ≤ kMaxIncomplete)
    (h : Blank isSpace (buffer ++ data) ∨ ((trimmed (buffer ++ data)).head? = some 123 ∧
      qt.fromJson (trimmed (buffer ++ data)) = none)) :
    feed qt buffer data = ([], buffer ++ data) := by
  by_cases hdata : data = []
  · rw [hdata, List.append_nil]
    rfl
  rw [feed_eq hdata hsize]
  rcases h with hblank | ⟨hopens, hparse⟩
  · have hempty : trimmed (buffer ++ data) = [] := trim_eq_nil.mpr hblank
    rw [hempty]
    rfl
  · have hne : (trimmed (buffer ++ data)).isEmpty = false := by
      cases hframe : trimmed (buffer ++ data) with
      | nil =>
        rw [hframe] at hopens
        cases hopens
      | cons b rest => rfl
    simp [hne, hopens, hparse]

end Feed

/-! ## Frames -/

namespace Frame

variable {qt : Qt} (f : Frame qt)

theorem solid : Solid isSpace (trimmed f.text) := by
  refine solid_trim fun hblank => ?_
  have hopens := f.opens
  rw [trimmed, trim_eq_nil.mpr hblank] at hopens
  cases hopens

theorem parses : ∃ ms, qt.fromJson f.text = some (.object ms) := by
  have hdecodes := f.decodes
  unfold decodeJsonFrame at hdecodes
  split at hdecodes
  · exact ⟨_, ‹_›⟩
  · cases hdecodes

/-- A frame is decoded from its trimmed text as well. -/
theorem decodes_trimmed (hqt : qt.Delimits) :
    (∃ ms, qt.fromJson (trimmed f.text) = some (.object ms)) ∧
      decodeJsonFrame qt (trimmed f.text) = some f.message := by
  obtain ⟨ms, hms⟩ := f.parses
  have htrimmed := hqt.blanks hms
  refine ⟨⟨ms, htrimmed⟩, ?_⟩
  have hdecodes := f.decodes
  unfold decodeJsonFrame at hdecodes ⊢
  rwa [htrimmed, ← hms]

/-- A frame that the chunk completes is returned, and nothing is kept. -/
theorem feed_completes (hqt : qt.Delimits) {buffer data : ByteString} (hdata : data ≠ [])
    (hlt : data.length < 2 ^ 31) (htrimmed : trimmed (gathered buffer data) = trimmed f.text) :
    feed qt buffer data = ([f.message], []) := by
  obtain ⟨⟨ms, hms⟩, hdecodes⟩ := f.decodes_trimmed hqt
  have hne : (trimmed f.text).isEmpty = false := List.isEmpty_eq_false_iff.mpr f.solid.ne_nil
  rw [feed_gathered hdata hlt, htrimmed]
  simp [hne, f.opens, hms, hdecodes]

/-- A part of a frame does not parse. -/
theorem fromJson_part (hqt : qt.Delimits) {part rest : ByteString}
    (hpart : trimmed f.text = part ++ rest) (hrest : rest ≠ []) (hne : part ≠ []) :
    (trimmed part).head? = some 123 ∧ qt.fromJson (trimmed part) = none := by
  have hopens := f.opens
  have hsolid := f.solid
  rw [hpart] at hopens hsolid
  rw [List.head?_append_of_ne_nil _ hne] at hopens
  have hleft : part.dropWhile isSpace = part := by
    cases part with
    | nil => exact absurd rfl hne
    | cons b part =>
      cases hopens
      rfl
  have htrimmed : trimmed part = part.rdropWhile isSpace := by rw [trimmed, trim, hleft]
  obtain ⟨w, _, hw⟩ := exists_blank_rdropWhile isSpace part
  have hkept : part.rdropWhile isSpace ≠ [] := by
    intro hnil
    have hblank := rdropWhile_eq_nil.mp hnil
    rw [dropWhile_eq_nil.mpr hblank] at hleft
    exact hne hleft.symm
  have hhead : (part.rdropWhile isSpace).head? = some 123 := by
    rw [hw, List.head?_append_of_ne_nil _ hkept] at hopens
    exact hopens
  rw [htrimmed]
  refine ⟨hhead, ?_⟩
  -- had it parsed, the frame would be a document with garbage behind it
  cases hparse : qt.fromJson (part.rdropWhile isSpace) with
  | none => rfl
  | some document =>
    obtain ⟨⟨ms, hms⟩, _⟩ := f.decodes_trimmed hqt
    have hgarbage : qt.fromJson (part.rdropWhile isSpace ++ (w ++ rest)) = none :=
      hqt.garbage hhead hparse
        fun hblank => hsolid.not_blank_right hrest (blank_append_iff.mp hblank).2
    rw [← List.append_assoc, ← hw, ← hpart, hms] at hgarbage
    cases hgarbage

/-- Neither does a frame with something behind it. -/
theorem fromJson_more (hqt : qt.Delimits) {rest : ByteString} (hrest : ¬Blank isSpace rest) :
    (trimmed (trimmed f.text ++ rest)).head? = some 123 ∧
      qt.fromJson (trimmed (trimmed f.text ++ rest)) = none := by
  obtain ⟨⟨ms, hms⟩, _⟩ := f.decodes_trimmed hqt
  have hshape : trimmed (trimmed f.text ++ rest) =
      trimmed f.text ++ rest.rdropWhile isSpace := f.solid.trim_append rest
  rw [hshape, List.head?_append_of_ne_nil _ f.solid.ne_nil]
  refine ⟨f.opens, hqt.garbage f.opens hms fun hblank => hrest ?_⟩
  obtain ⟨w, hw, hsplit⟩ := exists_blank_rdropWhile isSpace rest
  rw [hsplit]
  exact hblank.append hw

end Frame

/-! ## Streams -/

section Streams

variable {qt : Qt}

/-- The bytes of some frames, one after the other. -/
def texts (frames : List (Frame qt)) : ByteString := frames.flatMap Frame.text

/-- Between the last brace of a frame and the first of the next there is a cut:
after some chunk exactly the first frames have been fed, blanks aside. -/
def CutBetween (buffer : ByteString) (frames : List (Frame qt)) (chunks : List ByteString) :
    Prop :=
  ∀ first, first <+: frames → first ≠ [] →
    ∃ fed, fed <+: chunks ∧ trimmed (buffer ++ fed.flatten) = trimmed (texts first)

/-- The parser is inside the first of the frames that are to come. -/
def Inside (buffer : ByteString) (frames : List (Frame qt)) : Prop :=
  ∀ f rest, frames = f :: rest → ¬trimmed f.text <+: buffer.dropWhile isSpace

theorem feedAll_cons (buffer c : ByteString) (chunks : List ByteString) :
    feedAll qt buffer (c :: chunks) =
      (feed qt buffer c).1 ++ feedAll qt (feed qt buffer c).2 chunks := rfl

/-- The first frame of a stream, and what is behind it. -/
theorem texts_cons (f : Frame qt) (rest : List (Frame qt)) :
    ∃ w, Blank isSpace w ∧
      (texts (f :: rest)).dropWhile isSpace = trimmed f.text ++ (w ++ texts rest) ∧
      ∀ first, trimmed (texts (f :: first)) =
        trimmed f.text ++ (w ++ texts first).rdropWhile isSpace := by
  obtain ⟨w, hw, hsplit⟩ := exists_blank_rdropWhile isSpace (f.text.dropWhile isSpace)
  have hnot : ¬Blank isSpace f.text := fun hblank => f.solid.ne_nil (trim_eq_nil.mpr hblank)
  have hdrop : ∀ first : List (Frame qt), (texts (f :: first)).dropWhile isSpace =
      trimmed f.text ++ (w ++ texts first) := by
    intro first
    rw [texts, List.flatMap_cons, dropWhile_append_of_not_blank hnot, hsplit, List.append_assoc]
    rfl
  refine ⟨w, hw, hdrop rest, fun first => ?_⟩
  have htrim := f.solid.trim_append (w ++ texts first)
  rw [trimmed, trim, hdrop first]
  rw [trim, f.solid.dropWhile_append] at htrim
  exact htrim

theorem trimmed_of_dropWhile {l l' : ByteString} (h : l.dropWhile isSpace = l') :
    trimmed l = l'.rdropWhile isSpace := by
  rw [trimmed, trim, h]

/-- Inside the first frame, no frame has been fed. -/
theorem Inside.trimmed_ne {buffer : ByteString} {frames first : List (Frame qt)}
    (h : Inside buffer frames) (hfirst : first <+: frames) (hne : first ≠ []) :
    trimmed buffer ≠ trimmed (texts first) := by
  intro htrimmed
  obtain ⟨f, first, rfl⟩ := List.exists_cons_of_ne_nil hne
  obtain ⟨rest, rfl⟩ := hfirst
  obtain ⟨w, _, _, hshape⟩ := texts_cons f first
  refine h f (first ++ rest) rfl ?_
  have hprefix : trimmed buffer <+: buffer.dropWhile isSpace := List.rdropWhile_prefix isSpace _
  rw [htrimmed, hshape first] at hprefix
  exact (List.prefix_append _ _).trans hprefix

/-- Only after the next chunk can a frame be complete. -/
theorem cutBetween_cons {buffer c : ByteString} {frames : List (Frame qt)}
    {chunks : List ByteString} (hinside : Inside buffer frames) :
    CutBetween buffer frames (c :: chunks) ↔ CutBetween (buffer ++ c) frames chunks := by
  constructor
  · intro hcut first hfirst hne
    obtain ⟨fed, hfed, htrimmed⟩ := hcut first hfirst hne
    cases fed with
    | nil =>
      rw [List.flatten_nil, List.append_nil] at htrimmed
      exact absurd htrimmed (hinside.trimmed_ne hfirst hne)
    | cons c' fed =>
      obtain ⟨rfl, hfed'⟩ := List.cons_prefix_cons.mp hfed
      refine ⟨fed, hfed', ?_⟩
      rwa [List.append_assoc]
  · intro hcut first hfirst hne
    obtain ⟨fed, hfed, htrimmed⟩ := hcut first hfirst hne
    refine ⟨c :: fed, List.cons_prefix_cons.mpr ⟨rfl, hfed⟩, ?_⟩
    rw [List.flatten_cons, ← List.append_assoc]
    exact htrimmed

/-- The part of a frame that has been fed waits for the rest. -/
theorem Inside.feed (hqt : qt.Delimits) {buffer c more : ByteString} {frames : List (Frame qt)}
    (h : Inside (buffer ++ c) frames) (hsize : buffer.length + c.length ≤ kMaxIncomplete)
    (hbytes : (buffer ++ c ++ more).dropWhile isSpace = (texts frames).dropWhile isSpace) :
    feed qt buffer c = ([], buffer ++ c) := by
  refine feed_waits hsize ?_
  by_cases hblank : Blank isSpace (buffer ++ c)
  · exact Or.inl hblank
  right
  rw [dropWhile_append_of_not_blank hblank] at hbytes
  have hne : (buffer ++ c).dropWhile isSpace ≠ [] := fun hnil => hblank (dropWhile_eq_nil.mp hnil)
  cases frames with
  | nil =>
    rw [texts, List.flatMap_nil, List.dropWhile_nil, List.append_eq_nil_iff] at hbytes
    exact absurd hbytes.1 hne
  | cons f rest =>
    obtain ⟨w, _, hdrop, _⟩ := texts_cons f rest
    rw [hdrop] at hbytes
    rcases List.prefix_or_prefix_of_prefix (hbytes ▸ List.prefix_append _ _)
        (List.prefix_append (trimmed f.text) (w ++ texts rest)) with hpart | hwhole
    · obtain ⟨s, hs⟩ := hpart
      have hsne : s ≠ [] := by
        rintro rfl
        rw [List.append_nil] at hs
        exact h f rest rfl (hs ▸ List.prefix_rfl)
      have htrimmed : trimmed ((buffer ++ c).dropWhile isSpace) = trimmed (buffer ++ c) := by
        rw [trimmed, trim, List.dropWhile_idempotent, trimmed, trim]
      rw [← htrimmed]
      exact f.fromJson_part hqt hs.symm hsne hne
    · exact absurd hwhole (h f rest rfl)

/-- What is appended once a frame has been fed. -/
theorem trimmed_behind {buffer t : ByteString} {f : Frame qt}
    (hbuffer : buffer.dropWhile isSpace = trimmed f.text ++ t) (more : ByteString) :
    (buffer ++ more).dropWhile isSpace = trimmed f.text ++ (t ++ more) ∧
      trimmed (buffer ++ more) = trimmed f.text ++ (t ++ more).rdropWhile isSpace := by
  have hnot : ¬Blank isSpace buffer := by
    intro hblank
    rw [dropWhile_eq_nil.mpr hblank] at hbuffer
    exact f.solid.ne_nil (List.append_eq_nil_iff.mp hbuffer.symm).1
  have hdrop : (buffer ++ more).dropWhile isSpace = trimmed f.text ++ (t ++ more) := by
    rw [dropWhile_append_of_not_blank hnot, hbuffer, List.append_assoc]
  refine ⟨hdrop, ?_⟩
  rw [trimmed_of_dropWhile hdrop, ← f.solid.trim_append, trim, f.solid.dropWhile_append]

/-- A frame with something behind it waits, as half a frame does. -/
theorem feed_behind (hqt : qt.Delimits) {buffer c t : ByteString} {f : Frame qt}
    (hsize : buffer.length + c.length ≤ kMaxIncomplete)
    (hbuffer : (buffer ++ c).dropWhile isSpace = trimmed f.text ++ t) (ht : ¬Blank isSpace t) :
    feed qt buffer c = ([], buffer ++ c) := by
  have htrimmed : trimmed (buffer ++ c) = trimmed (trimmed f.text ++ t) := by
    rw [trimmed_of_dropWhile hbuffer, ← trimmed_of_dropWhile (f.solid.dropWhile_append _)]
  refine feed_waits hsize (Or.inr ?_)
  rw [htrimmed]
  exact f.fromJson_more hqt ht

/-- Once something stands behind a frame, nothing is returned any more. -/
theorem feedAll_stuck (hqt : qt.Delimits) {f : Frame qt} {buffer t : ByteString}
    {chunks : List ByteString} (hsize : buffer.length + chunks.flatten.length ≤ kMaxIncomplete)
    (hbuffer : buffer.dropWhile isSpace = trimmed f.text ++ t)
    (ht : ¬Blank isSpace t) : feedAll qt buffer chunks = [] := by
  induction chunks generalizing buffer t with
  | nil => rfl
  | cons c chunks ih =>
    rw [List.flatten_cons, List.length_append] at hsize
    have hmore := (trimmed_behind hbuffer c).1
    have ht' : ¬Blank isSpace (t ++ c) := fun hblank => ht (blank_append_iff.mp hblank).1
    rw [feedAll_cons, feed_behind hqt (by omega) hmore ht']
    exact ih (by rw [List.length_append]; omega) hmore ht'

/-- When a frame is complete, the others are cut off as before. -/
theorem cutBetween_completes {buffer t w : ByteString} {f : Frame qt}
    {rest : List (Frame qt)} {chunks : List ByteString} (ht : Blank isSpace t)
    (hbuffer : buffer.dropWhile isSpace = trimmed f.text ++ t) (hw : Blank isSpace w)
    (htexts : ∀ first, trimmed (texts (f :: first)) =
      trimmed f.text ++ (w ++ texts first).rdropWhile isSpace)
    (hmore : t ++ chunks.flatten = w ++ texts rest) :
    CutBetween buffer (f :: rest) chunks ↔ CutBetween [] rest chunks := by
  have hfed := fun fed : List ByteString => (trimmed_behind hbuffer fed.flatten).2
  constructor
  · intro hcut first hfirst hne
    obtain ⟨fed, hprefix, htrimmed⟩ :=
      hcut (f :: first) (List.cons_prefix_cons.mpr ⟨rfl, hfirst⟩) (List.cons_ne_nil f first)
    refine ⟨fed, hprefix, ?_⟩
    rw [hfed, htexts] at htrimmed
    have hsame := congrArg (List.dropWhile isSpace) (List.append_cancel_left htrimmed)
    rw [dropWhile_rdropWhile, dropWhile_rdropWhile, trim_blank_append ht,
      trim_blank_append hw] at hsame
    exact hsame
  · intro hcut first hfirst hne
    obtain ⟨f', first, rfl⟩ := List.exists_cons_of_ne_nil hne
    obtain ⟨rfl, hfirst'⟩ := List.cons_prefix_cons.mp hfirst
    have hend : ∃ fed, fed <+: chunks ∧
        trim isSpace (t ++ fed.flatten) = trim isSpace (w ++ texts first) := by
      cases first with
      | nil =>
        refine ⟨[], List.nil_prefix, ?_⟩
        rw [trim_eq_nil.mpr (ht.append fun x hx => by cases hx),
          trim_eq_nil.mpr (hw.append fun x hx => by cases hx)]
      | cons f'' first =>
        obtain ⟨fed, hprefix, htrimmed⟩ := hcut _ hfirst' (List.cons_ne_nil f'' first)
        refine ⟨fed, hprefix, ?_⟩
        rw [trim_blank_append ht, trim_blank_append hw]
        exact htrimmed
    obtain ⟨fed, hprefix, htrim⟩ := hend
    refine ⟨fed, hprefix, ?_⟩
    rw [hfed, htexts]
    -- both are beginnings of what is left of the stream
    have hfedBytes : t ++ fed.flatten <+: w ++ texts rest := by
      rw [← hmore]
      obtain ⟨others, rfl⟩ := hprefix
      rw [List.flatten_append, ← List.append_assoc]
      exact List.prefix_append _ _
    have hfirstBytes : w ++ texts first <+: w ++ texts rest := by
      obtain ⟨others, rfl⟩ := hfirst'
      rw [texts, texts, List.flatMap_append, ← List.append_assoc]
      exact List.prefix_append _ _
    congr 1
    exact rdropWhile_eq_of_prefix hfedBytes hfirstBytes htrim

/-- Where nothing is fed, nothing is cut. -/
theorem cutBetween_nil {buffer : ByteString} {frames : List (Frame qt)}
    (hinside : Inside buffer frames) : CutBetween buffer frames [] ↔ frames = [] := by
  constructor
  · intro hcut
    by_contra hne
    obtain ⟨f, rest, rfl⟩ := List.exists_cons_of_ne_nil hne
    have hfirst : [f] <+: f :: rest := ⟨rest, rfl⟩
    obtain ⟨fed, hfed, htrimmed⟩ := hcut [f] hfirst (List.cons_ne_nil f [])
    rw [List.prefix_nil.mp hfed, List.flatten_nil, List.append_nil] at htrimmed
    exact hinside.trimmed_ne hfirst (List.cons_ne_nil f []) htrimmed
  · rintro rfl first hfirst hne
    exact absurd (List.prefix_nil.mp hfirst) hne

/-- Behind the end of a frame there is no cut any more. -/
theorem not_cutBetween_of_behind {buffer t w : ByteString} {f : Frame qt} {rest : List (Frame qt)}
    {chunks : List ByteString} (hbuffer : buffer.dropWhile isSpace = trimmed f.text ++ t)
    (ht : ¬Blank isSpace t) (hw : Blank isSpace w)
    (htexts : ∀ first, trimmed (texts (f :: first)) =
      trimmed f.text ++ (w ++ texts first).rdropWhile isSpace) :
    ¬CutBetween buffer (f :: rest) chunks := by
  intro hcut
  obtain ⟨fed, _, htrimmed⟩ := hcut [f] ⟨rest, rfl⟩ (List.cons_ne_nil f [])
  rw [(trimmed_behind hbuffer fed.flatten).2, htexts] at htrimmed
  have hend := List.append_cancel_left htrimmed
  rw [rdropWhile_eq_nil.mpr (hw.append fun x hx => by cases hx)] at hend
  exact ht (blank_append_iff.mp (rdropWhile_eq_nil.mp hend)).1

/-- From any point of a stream inside its next frame. -/
theorem feedAll_eq_iff (hqt : qt.Delimits) {buffer : ByteString} {frames : List (Frame qt)}
    {chunks : List ByteString} (hsize : buffer.length + chunks.flatten.length ≤ kMaxIncomplete)
    (hbytes : (buffer ++ chunks.flatten).dropWhile isSpace = (texts frames).dropWhile isSpace)
    (hinside : Inside buffer frames) :
    feedAll qt buffer chunks = frames.map Frame.message ↔ CutBetween buffer frames chunks := by
  -- on the chunks: a chunk leaves the parser inside the frame, completes it, or goes beyond it
  induction chunks generalizing buffer frames with
  | nil =>
    rw [cutBetween_nil hinside]
    show [] = frames.map Frame.message ↔ _
    rw [eq_comm, List.map_eq_nil_iff]
  | cons c chunks ih =>
    rw [List.flatten_cons] at hbytes hsize
    rw [List.length_append] at hsize
    rw [← List.append_assoc] at hbytes
    rw [cutBetween_cons hinside, feedAll_cons]
    by_cases hin : Inside (buffer ++ c) frames
    · rw [hin.feed hqt (by omega) hbytes]
      exact ih (by rw [List.length_append]; omega) hbytes hin
    unfold Inside at hin
    push Not at hin
    obtain ⟨f, rest, rfl, t, ht⟩ := hin
    have hc : c ≠ [] := by
      rintro rfl
      rw [List.append_nil] at ht
      exact hinside f rest rfl ⟨t, ht⟩
    obtain ⟨w, hw, hdrop, htexts⟩ := texts_cons f rest
    have hnot : ¬Blank isSpace (buffer ++ c) := by
      intro hblank
      rw [dropWhile_eq_nil.mpr hblank] at ht
      exact f.solid.ne_nil (List.append_eq_nil_iff.mp ht).1
    have hmore : t ++ chunks.flatten = w ++ texts rest := by
      rw [dropWhile_append_of_not_blank hnot, ← ht, hdrop, List.append_assoc] at hbytes
      exact List.append_cancel_left hbytes
    by_cases hblank : Blank isSpace t
    · have htrimmed : trimmed (buffer ++ c) = trimmed f.text := by
        rw [trimmed_of_dropWhile ht.symm, rdropWhile_append_of_blank _ hblank, f.solid.right]
      have hmax : kMaxIncomplete = 1048576 := rfl
      have hmax' : kMaxBuffer = 4194304 := rfl
      have hgathered : gathered buffer c = buffer ++ c := by rw [gathered, if_neg (by omega)]
      have hrest : feedAll qt [] chunks = rest.map Frame.message ↔ CutBetween [] rest chunks := by
        apply ih
        · rw [List.length_nil]
          omega
        · rw [List.nil_append, ← dropWhile_append_of_blank hblank, hmore,
            dropWhile_append_of_blank hw]
        · intro g others hg hprefix
          rw [List.dropWhile_nil] at hprefix
          exact g.solid.ne_nil (List.prefix_nil.mp hprefix)
      rw [f.feed_completes hqt hc (by omega) (by rw [hgathered, htrimmed]),
        cutBetween_completes hblank ht.symm hw htexts hmore, ← hrest]
      show f.message :: feedAll qt [] chunks = f.message :: rest.map Frame.message ↔ _
      rw [List.cons.injEq]
      exact and_iff_right rfl
    · -- the frame that was complete is never returned, and the cut behind it never comes
      rw [feed_behind hqt (by omega) ht.symm hblank,
        feedAll_stuck hqt (by rw [List.length_append]; omega) ht.symm hblank, List.nil_append]
      apply iff_of_false
      · exact (List.cons_ne_nil f.message _).symm
      · exact not_cutBetween_of_behind ht.symm hblank hw htexts

end Streams

/-- What is left of a text between two braces is all of it. -/
theorem trimmed_of_braces {text front : ByteString} (hopens : text.head? = some 123)
    (hcloses : text = front ++ [125]) : trimmed text = text := by
  have hleft : text.dropWhile isSpace = text := by
    cases text with
    | nil => cases hopens
    | cons b text =>
      cases hopens
      rfl
  rw [trimmed, trim, hleft, hcloses]
  exact List.rdropWhile_concat_neg isSpace front 125 (by decide)

/-- The Qt of concrete runs delimits objects. -/
theorem referenceQt_delimits : referenceQt.Delimits where
  garbage hopens hparse hrest := by
    refine JsonText.read_append hopens hparse ?_
    rintro rfl
    exact hrest fun x hx => by cases hx
  blanks {text ms} hparse := by
    obtain ⟨hopens, front, hcloses⟩ := JsonText.read_object hparse
    rwa [trimmed_of_braces hopens hcloses]

/-- However a stream of frames is cut, the parser returns their messages, each
once and in order, exactly when there is a cut between every two of them. -/
theorem stream_reassembly {qt : Qt} (hqt : qt.Delimits) (frames : List (Frame qt))
    (chunks : List ByteString) (hchunks : chunks.flatten = texts frames)
    (hsize : (texts frames).length < kMaxIncomplete) :
    feedAll qt [] chunks = frames.map Frame.message ↔ CutBetween [] frames chunks := by
  refine feedAll_eq_iff hqt ?_ ?_ ?_
  · rw [hchunks, List.length_nil]
    omega
  · rw [hchunks, List.nil_append]
  · intro f rest _ hprefix
    exact f.solid.ne_nil (List.prefix_nil.mp hprefix)

/-- The frame of a partner that has left. -/
def partnerExitFrame : Frame referenceQt where
  text := ascii "\x7b\"t\":\"partner_exit\",\"u\":7\x7d"
  message := .partnerExit 7
  opens := by decide +kernel
  decodes := by decide +kernel

/-- Two frames cut in halves are reassembled. -/
theorem stream_reassembly_of_halves :
    feedAll referenceQt [] [partnerExitFrame.text.take 9, partnerExitFrame.text.drop 9,
      partnerExitFrame.text] = [.partnerExit 7, .partnerExit 7] := by
  refine (stream_reassembly referenceQt_delimits [partnerExitFrame, partnerExitFrame] _ ?_ ?_).mpr
    ?_
  · decide +kernel
  · decide +kernel
  · intro first hfirst hne
    have hlength := hfirst.length_le
    have hpos := List.length_pos_iff.mpr hne
    have htake := List.prefix_iff_eq_take.mp hfirst
    have hcases : first.length = 1 ∨ first.length = 2 := by
      rw [List.length_cons, List.length_singleton] at hlength
      omega
    rcases hcases with hone | htwo
    · rw [hone] at htake
      rw [htake]
      exact ⟨[partnerExitFrame.text.take 9, partnerExitFrame.text.drop 9], ⟨_, rfl⟩,
        by decide +kernel⟩
    · rw [htwo] at htake
      rw [htake]
      exact ⟨_, List.prefix_rfl, by decide +kernel⟩

/-- Two frames in one chunk are lost. -/
theorem frames_in_one_chunk :
    ¬∀ (qt : Qt), qt.Delimits → ∀ (frames : List (Frame qt)) (chunks : List ByteString),
      chunks.flatten = texts frames → (texts frames).length < kMaxIncomplete →
      feedAll qt [] chunks = frames.map Frame.message := by
  intro h
  have hmessages := h referenceQt referenceQt_delimits [partnerExitFrame, partnerExitFrame]
    [partnerExitFrame.text ++ partnerExitFrame.text] (by decide +kernel) (by decide +kernel)
  have hnone : feedAll referenceQt [] [partnerExitFrame.text ++ partnerExitFrame.text] = [] := by
    decide +kernel
  rw [hnone] at hmessages
  cases hmessages

/-! ## After other messages -/

section Recovery

variable {qt : Qt}

/-- `buffer_` after some messages, one for each call. -/
def bufferAfter (qt : Qt) (earlier : List ByteString) : ByteString :=
  (answers (feed qt) [] earlier).2

/-- What the parser takes for half a frame: it opens an object, does not parse,
and is not too long to wait. -/
def TakenForHalf (qt : Qt) (message : ByteString) : Prop :=
  (trimmed message).head? = some 123 ∧ qt.fromJson (trimmed message) = none ∧
    message.length ≤ kMaxIncomplete

theorem trimmed_gathered {buffer data : ByteString} (hblank : Blank isSpace buffer) :
    trimmed (gathered buffer data) = trimmed data := by
  unfold gathered
  split_ifs
  · rfl
  · exact trim_blank_append hblank data

/-- Only what may be half a frame is kept for later. -/
theorem blank_feed {buffer message : ByteString} (hblank : Blank isSpace buffer)
    (hlt : message.length < 2 ^ 31) (hwhole : ¬TakenForHalf qt message) :
    Blank isSpace (feed qt buffer message).2 := by
  by_cases hempty : message = []
  · rw [hempty]
    exact hblank
  have hnil : Blank isSpace ([] : ByteString) := fun x hx => by cases hx
  have hlength : message.length ≤ (gathered buffer message).length := by
    rw [gathered, List.length_append]
    omega
  have htrimmed : trimmed (gathered buffer message) = trimmed message := trimmed_gathered hblank
  rw [feed_gathered hempty hlt]
  split_ifs with hnone hopens hlong
  · rw [List.isEmpty_iff, htrimmed] at hnone
    exact trim_eq_nil.mp (htrimmed.trans hnone)
  · exact hnil
  · split <;> exact hnil
  · split
    · rename_i hparse
      rw [htrimmed] at hopens hparse
      exact absurd ⟨not_not.mp hopens, hparse, by omega⟩ hwhole
    · exact hnil
    · exact hnil

theorem bufferAfter_snoc (earlier : List ByteString) (m : ByteString) :
    bufferAfter qt (earlier ++ [m]) = (feed qt (bufferAfter qt earlier) m).2 := by
  rw [bufferAfter, answers_snoc]
  rfl

/-- The buffer stays blank as long as no message is taken for half a frame. -/
theorem blank_bufferAfter {old : List ByteString} (hold : Blank isSpace (bufferAfter qt old))
    (recent : List ByteString)
    (hrecent : ∀ m ∈ recent, m.length < 2 ^ 31 ∧ ¬TakenForHalf qt m) :
    Blank isSpace (bufferAfter qt (old ++ recent)) := by
  induction recent using List.reverseRecOn with
  | nil =>
    rw [List.append_nil]
    exact hold
  | append_singleton recent m ih =>
    rcases hrecent m (List.mem_append_right _ (List.mem_singleton_self m)) with ⟨hlt, hwhole⟩
    rw [← List.append_assoc, bufferAfter_snoc]
    exact blank_feed (ih fun m hm => hrecent m (List.mem_append_left _ hm)) hlt hwhole

/-- A whole message is returned when nothing is kept of the earlier ones, or
when it makes the parser drop what is kept. -/
theorem Frame.feed_alone (hqt : qt.Delimits) (f : Frame qt) {buffer : ByteString}
    (hlt : f.text.length < 2 ^ 31)
    (hclear : Blank isSpace buffer ∨ kMaxBuffer < buffer.length + f.text.length) :
    feed qt buffer f.text = ([f.message], []) := by
  have hne : f.text ≠ [] := by
    intro hnil
    have hopens := f.opens
    rw [hnil] at hopens
    cases hopens
  refine f.feed_completes hqt hne hlt ?_
  rcases hclear with hblank | hfull
  · exact trimmed_gathered hblank
  · rw [gathered, if_pos hfull, List.nil_append]

/-- A message that is a whole frame is returned by its own call, and leaves
nothing behind, unless a message before it is kept for half a frame: after any
messages, when what is kept is blank or is dropped for its size; and so after
messages none of which can be taken for half a frame since nothing was kept. -/
theorem parser_recovery (hqt : qt.Delimits) (earlier : List ByteString) (f : Frame qt)
    (hsize : ∀ m ∈ earlier ++ [f.text], m.length < 2 ^ 31) :
    (Blank isSpace (bufferAfter qt earlier) ∨
        kMaxBuffer < (bufferAfter qt earlier).length + f.text.length →
      feed qt (bufferAfter qt earlier) f.text = ([f.message], [])) ∧
    ∀ old recent, earlier = old ++ recent → Blank isSpace (bufferAfter qt old) →
      (∀ m ∈ recent, ¬TakenForHalf qt m) →
      feed qt (bufferAfter qt earlier) f.text = ([f.message], []) := by
  have hlt := hsize f.text (List.mem_append_right _ (List.mem_singleton_self _))
  refine ⟨f.feed_alone hqt hlt, ?_⟩
  rintro old recent rfl hold hrecent
  refine f.feed_alone hqt hlt (Or.inl (blank_bufferAfter hold recent fun m hm => ⟨?_, hrecent m hm⟩))
  exact hsize m (List.mem_append_left _ (List.mem_append_right _ hm))

end Recovery

/-- A message is returned after one that is no JSON. -/
theorem parser_recovery_after_text :
    feed referenceQt (bufferAfter referenceQt [ascii "?"]) partnerExitFrame.text =
      ([.partnerExit 7], []) := by
  refine (parser_recovery referenceQt_delimits [ascii "?"] partnerExitFrame (by decide +kernel)).2
    [] [ascii "?"] rfl (fun x hx => by cases hx) ?_
  intro m hm hhalf
  rw [List.mem_singleton] at hm
  subst hm
  exact absurd hhalf.1 (by decide +kernel)

/-- A brace that was sent alone is put in front of the next message. -/
theorem brace_loses_message :
    ¬∀ (qt : Qt), qt.Delimits → ∀ (earlier : List ByteString) (f : Frame qt),
      (∀ m ∈ earlier ++ [f.text], m.length < 2 ^ 31) →
      (feed qt (bufferAfter qt earlier) f.text).1 = [f.message] := by
  intro h
  have hmessage := h referenceQt referenceQt_delimits [[123]] partnerExitFrame (by decide +kernel)
  have hnone : (feed referenceQt (bufferAfter referenceQt [[123]]) partnerExitFrame.text).1 = [] := by
    decide +kernel
  rw [hnone] at hmessage
  cases hmessage

end CCMeeting
