import CCMeeting.Lib.Machine
import CCMeeting.Protocol.Reference
import CCMeeting.Server.ReadBuffer

/-! # Framing

What `do_read` appends against what `try_decode` returns, whatever the order of
the two. Each message comes to one result, the one it comes to alone, unless
its document makes `try_decode` raise: then it stays in the buffer and every
later call raises again.
-/

namespace CCMeeting

open ByteString Machine

/-! ## A connection that is read -/

/-- `Connection::_read_buffer` and the `Packet` of `on_connection_read`. -/
structure Reader where
  buffer : Buffer
  packet : Packet

/-- `Packet packet;`. -/
def freshPacket : Packet := { type := .imgSend }

/-- The connection before its first message. -/
def Reader.start : Reader := ⟨Buffer.init, freshPacket⟩

/-- `do_read` appends a message, `on_connection_read` is entered with a packet
of its own, or its loop calls `try_decode`. -/
inductive ReadEvent where
  | message (text : ByteString)
  | enter
  | decode

/-- The message an event appends. -/
def ReadEvent.text : ReadEvent → Option ByteString
  | message text => some text
  | _ => none

/-- What a message comes to in a buffer and a packet of its own. -/
def decodeAlone (platform : Platform) (message : ByteString) : DecodeOutcome :=
  outcomeOf (tryDecodeInto platform (Buffer.init.appendMessage message) freshPacket)

section Reading

variable (platform : Platform)

/-- What an event does, and what `try_decode` comes to in it. -/
def Reader.next (r : Reader) : ReadEvent → Option DecodeOutcome × Reader
  | .message text => (none, { r with buffer := r.buffer.appendMessage text })
  | .enter => (none, { r with packet := freshPacket })
  | .decode =>
    (some (outcomeOf (tryDecodeInto platform r.buffer r.packet)),
      ⟨(tryDecodeInto platform r.buffer r.packet).2.1,
        (tryDecodeInto platform r.buffer r.packet).2.2⟩)

/-- The connection after a schedule of events. -/
def readerAfter (es : List ReadEvent) : Reader := (answers (Reader.next platform) .start es).2

/-- What the calls of `try_decode` came to, `NeedMore` left out. -/
def results (es : List ReadEvent) : List DecodeOutcome :=
  ((answers (Reader.next platform) .start es).1.filterMap id).filter (· ≠ .needMore)

/-- The messages of a schedule. -/
def messages (es : List ReadEvent) : List ByteString := es.filterMap ReadEvent.text

/-- The first messages have been answered one by one, as if each were alone;
the others wait in the buffer, whole and in order; and `NeedMore` is what the
next call returns exactly when none waits. -/
def Framed (es : List ReadEvent) : Prop :=
  ∃ k ≤ (messages es).length,
    results platform es = ((messages es).take k).map (decodeAlone platform) ∧
    (readerAfter platform es).buffer.readable = ((messages es).drop k).flatMap framed ∧
    (((readerAfter platform es).next platform .decode).1 = some .needMore ↔
      k = (messages es).length)

/-! ## On what is unread -/

/-- The events on the unread bytes alone. -/
def unreadNext (unread : ByteString) : ReadEvent → Option DecodeOutcome × ByteString
  | .message text => (none, unread ++ framed text)
  | .enter => (none, unread)
  | .decode =>
    (some (Decoded.outcome (tryDecode platform unread)),
      Decoded.remaining unread (tryDecode platform unread))

/-- The two positions, the growing vector and the reused packet do not show. -/
theorem reader_refines :
    Refines (Reader.next platform) (unreadNext platform) (fun _ _ => True) (fun _ => True)
      (fun r => r.buffer.readable) where
  kept _ _ := trivial
  answer := by
    intro r e _ _
    cases e with
    | message text => rfl
    | enter => rfl
    | decode => exact congrArg some (tryDecodeInto_eq platform r.buffer r.packet).1
  commutes := by
    intro r e _ _
    cases e with
    | message text => exact readable_appendMessage r.buffer text
    | enter => rfl
    | decode => exact (tryDecodeInto_eq platform r.buffer r.packet).2

/-- The unread bytes after a schedule. -/
def unreadAfter (es : List ReadEvent) : ByteString := (answers (unreadNext platform) [] es).2

end Reading

variable {platform : Platform}

theorem allMeet_true {σ ι ο : Type} (next : σ → ι → ο × σ) (s : σ) (is : List ι) :
    AllMeet next (fun _ _ => True) s is := by
  induction is generalizing s with
  | nil => trivial
  | cons i is ih => exact ⟨trivial, ih _⟩

theorem results_eq (es : List ReadEvent) :
    results platform es =
      ((answers (unreadNext platform) [] es).1.filterMap id).filter (· ≠ .needMore) := by
  have hrun := (reader_refines platform).run (s := Reader.start) trivial
    (allMeet_true (unreadNext platform) _ es)
  rw [results, hrun.1]
  rfl

theorem readable_readerAfter (es : List ReadEvent) :
    (readerAfter platform es).buffer.readable = unreadAfter platform es :=
  ((reader_refines platform).run (s := Reader.start) trivial
    (allMeet_true (unreadNext platform) _ es)).2.1

/-- What a call after the schedule comes to. -/
theorem next_decode (es : List ReadEvent) :
    ((readerAfter platform es).next platform .decode).1 =
      some (Decoded.outcome (tryDecode platform (unreadAfter platform es))) := by
  rw [← readable_readerAfter]
  exact (reader_refines platform).answer (i := .decode) trivial trivial

/-! ## One more event -/

theorem messages_snoc (es : List ReadEvent) (e : ReadEvent) :
    messages (es ++ [e]) = messages es ++ e.text.toList := by
  rw [messages, messages, List.filterMap_append]
  cases e <;> rfl

theorem unreadAfter_snoc (es : List ReadEvent) (e : ReadEvent) :
    unreadAfter platform (es ++ [e]) = (unreadNext platform (unreadAfter platform es) e).2 := by
  rw [unreadAfter, answers_snoc]
  rfl

theorem results_snoc (es : List ReadEvent) (e : ReadEvent) :
    results platform (es ++ [e]) = results platform es ++
      (unreadNext platform (unreadAfter platform es) e).1.toList.filter (· ≠ .needMore) := by
  rw [results_eq, results_eq, answers_snoc, List.filterMap_append, List.filter_append]
  show _ ++ (List.filterMap id [(unreadNext platform (unreadAfter platform es) e).1]).filter _ = _
  cases (unreadNext platform (unreadAfter platform es) e).1 <;> rfl

/-! ## The frame at the front -/

/-- A document that raises nothing is reported once, and its frame consumed. -/
theorem decodeDocument_ok {document : Json} {rest : ByteString} {status : Decoded}
    (h : decodeDocument platform document rest = .ok status) :
    status = .invalid rest ∨ ∃ p, status = .ok p rest := by
  unfold decodeDocument at h
  simp only [bind, Except.bind, pure, Except.pure] at h
  repeat' split at h
  all_goals cases h
  · exact Or.inl rfl
  · exact Or.inr ⟨_, rfl⟩

/-- What a message comes to does not depend on what is behind it. -/
theorem outcome_framed {m : ByteString} (hne : m ≠ []) (hlt : m.length < 2 ^ 32)
    (rest : ByteString) :
    Decoded.outcome (tryDecode platform (framed m ++ rest)) = decodeAlone platform m := by
  have halone : tryDecode platform (framed m ++ []) = _ := tryDecode_framed hne hlt []
  rw [List.append_nil] at halone
  rw [decodeAlone, (tryDecodeInto_eq platform _ _).1, readable_appendMessage,
    Buffer.readable_init, List.nil_append, halone, tryDecode_framed hne hlt]
  cases platform.parse m with
  | none => rfl
  | some document =>
    exact (outcomeOf_readDocument platform document Buffer.init Buffer.init freshPacket).symm.trans
      (outcomeOf_readDocument platform document Buffer.init Buffer.init freshPacket)

theorem decodeAlone_ne_needMore {m : ByteString} (hne : m ≠ []) (hlt : m.length < 2 ^ 32) :
    decodeAlone platform m ≠ .needMore := by
  rw [← outcome_framed hne hlt [], tryDecode_framed hne hlt]
  cases platform.parse m with
  | none => exact DecodeOutcome.noConfusion
  | some document =>
    show Decoded.outcome (decodeDocument platform document []) ≠ .needMore
    cases hdecode : decodeDocument platform document [] with
    | error e => exact DecodeOutcome.noConfusion
    | ok status =>
      rcases decodeDocument_ok hdecode with rfl | ⟨p, rfl⟩
      · exact DecodeOutcome.noConfusion
      · exact DecodeOutcome.noConfusion

/-- The message makes `try_decode` raise. -/
def Raises (platform : Platform) (m : ByteString) : Prop :=
  ∃ e, decodeAlone platform m = .raised e

theorem raises_iff {m : ByteString} (hne : m ≠ []) (hlt : m.length < 2 ^ 32) :
    Raises platform m ↔ ∃ document, platform.parse m = some document ∧ ¬Readable document := by
  unfold Raises
  rw [← outcome_framed hne hlt [], tryDecode_framed hne hlt]
  cases hparse : platform.parse m with
  | none => simp [Decoded.outcome]
  | some document =>
    simp only [Option.some.injEq, exists_eq_left']
    have hok : (∃ status, decodeDocument platform document [] = .ok status) ↔
        Readable document := decodeDocument_isOk_iff
    rw [← hok]
    cases hdecode : decodeDocument platform document [] with
    | error e => simp [Decoded.outcome]
    | ok status =>
      rcases decodeDocument_ok hdecode with rfl | ⟨p, rfl⟩
      · simp [Decoded.outcome]
      · simp [Decoded.outcome]

/-- Exactly a message that raises stays in the buffer. -/
theorem remaining_framed {m : ByteString} (hne : m ≠ []) (hlt : m.length < 2 ^ 32)
    (rest : ByteString) :
    (Raises platform m → Decoded.remaining (framed m ++ rest)
        (tryDecode platform (framed m ++ rest)) = framed m ++ rest) ∧
      (¬Raises platform m → Decoded.remaining (framed m ++ rest)
        (tryDecode platform (framed m ++ rest)) = rest) := by
  unfold Raises
  rw [← outcome_framed hne hlt rest, tryDecode_framed hne hlt]
  cases platform.parse m with
  | none => exact ⟨fun ⟨_, he⟩ => DecodeOutcome.noConfusion he, fun _ => rfl⟩
  | some document =>
    dsimp only
    cases hdecode : decodeDocument platform document rest with
    | error e => exact ⟨fun _ => rfl, fun hnot => absurd ⟨e, rfl⟩ hnot⟩
    | ok status =>
      rcases decodeDocument_ok hdecode with rfl | ⟨p, rfl⟩
      · exact ⟨fun ⟨_, he⟩ => DecodeOutcome.noConfusion he, fun _ => rfl⟩
      · exact ⟨fun ⟨_, he⟩ => DecodeOutcome.noConfusion he, fun _ => rfl⟩

/-! ## Whole schedules -/

/-- A message that can be framed: not empty, its size in four bytes. -/
def Framable (m : ByteString) : Prop := m ≠ [] ∧ m.length < 2 ^ 32

/-- Nothing is returned exactly when no message waits. -/
theorem outcome_waiting {ms : List ByteString} (hms : ∀ m ∈ ms, Framable m) :
    Decoded.outcome (tryDecode platform (ms.flatMap framed)) = .needMore ↔ ms = [] := by
  cases ms with
  | nil => exact ⟨fun _ => rfl, fun _ => rfl⟩
  | cons m ms =>
    rcases hms m List.mem_cons_self with ⟨hne, hlt⟩
    rw [List.flatMap_cons, outcome_framed hne hlt]
    constructor
    · intro hmore
      exact absurd hmore (decodeAlone_ne_needMore hne hlt)
    · intro hnil
      cases hnil

/-- While no message raises, a schedule answers the first of its messages and
keeps the others. -/
theorem answered (es : List ReadEvent)
    (hes : ∀ m ∈ messages es, Framable m ∧ ¬Raises platform m) :
    ∃ k ≤ (messages es).length,
      results platform es = ((messages es).take k).map (decodeAlone platform) ∧
      unreadAfter platform es = ((messages es).drop k).flatMap framed := by
  -- on the schedule, from its end: a message joins those that wait, a call answers the first of
  -- them
  induction es using List.reverseRecOn with
  | nil => exact ⟨0, Nat.le_refl 0, by rw [results_eq]; rfl, rfl⟩
  | append_singleton es e ih =>
    rw [messages_snoc] at hes ⊢
    obtain ⟨k, hk, hresults, hunread⟩ := ih fun m hm => hes m (List.mem_append_left _ hm)
    rw [results_snoc, unreadAfter_snoc, hresults, hunread]
    cases e with
    | message text =>
      refine ⟨k, by rw [List.length_append]; omega, ?_, ?_⟩
      · rw [List.take_append_of_le_length hk]
        exact List.append_nil _
      · rw [List.drop_append_of_le_length hk, List.flatMap_append]
        show _ ++ framed text = _ ++ (framed text ++ [])
        rw [List.append_nil]
    | enter =>
      refine ⟨k, by rw [List.length_append]; omega, ?_, ?_⟩
      · rw [List.take_append_of_le_length hk]
        exact List.append_nil _
      · rw [List.drop_append_of_le_length hk, List.flatMap_append]
        exact (List.append_nil _).symm
    | decode =>
      have hsame : messages es ++ ReadEvent.decode.text.toList = messages es := List.append_nil _
      rw [hsame] at hes ⊢
      show ∃ k', _ ∧ _ ++ [Decoded.outcome (tryDecode platform _)].filter _ = _ ∧
        Decoded.remaining _ (tryDecode platform _) = _
      cases hwait : (messages es).drop k with
      | nil =>
        refine ⟨k, hk, List.append_nil _, ?_⟩
        rw [hwait]
        rfl
      | cons m ms =>
        have hmem : m ∈ messages es := List.mem_of_mem_drop (hwait ▸ List.mem_cons_self)
        rcases hes m hmem with ⟨⟨hne, hlt⟩, hquiet⟩
        have hlen : k < (messages es).length := by
          rcases Nat.lt_or_ge k (messages es).length with hlt | hge
          · exact hlt
          · rw [List.drop_eq_nil_of_le hge] at hwait
            cases hwait
        have hget : (messages es)[k] = m := by
          rw [List.drop_eq_getElem_cons hlen] at hwait
          exact (List.cons.inj hwait).1
        have hnext : (messages es).drop (k + 1) = ms := by
          rw [← List.tail_drop, hwait]
          rfl
        refine ⟨k + 1, hlen, ?_, ?_⟩
        · rw [List.flatMap_cons, outcome_framed hne hlt, List.take_succ_eq_append_getElem hlen,
            List.map_append, hget]
          congr 1
          exact List.filter_eq_self.mpr fun o ho => by
            rw [List.mem_singleton.mp ho]
            exact decide_eq_true (decodeAlone_ne_needMore hne hlt)
        · rw [List.flatMap_cons, (remaining_framed hne hlt _).2 hquiet, hnext]

theorem framed_of_quiet {es : List ReadEvent}
    (hes : ∀ m ∈ messages es, Framable m ∧ ¬Raises platform m) : Framed platform es := by
  obtain ⟨k, hk, hresults, hunread⟩ := answered es hes
  refine ⟨k, hk, hresults, by rw [readable_readerAfter, hunread], ?_⟩
  rw [next_decode, hunread, Option.some.injEq,
    outcome_waiting fun m hm => (hes m (List.mem_of_mem_drop hm)).1, List.drop_eq_nil_iff]
  omega

/-! ## Every message before any call -/

/-- All the messages, then so many calls. -/
def allFirst (ms : List ByteString) (calls : ℕ) : List ReadEvent :=
  ms.map .message ++ List.replicate calls .decode

theorem messages_allFirst (ms : List ByteString) (calls : ℕ) :
    messages (allFirst ms calls) = ms := by
  have hcalls : (List.replicate calls ReadEvent.decode).filterMap ReadEvent.text = [] := by
    rw [List.filterMap_eq_nil_iff]
    intro e he
    rw [List.eq_of_mem_replicate he]
    rfl
  rw [messages, allFirst, List.filterMap_append, hcalls, List.append_nil, List.filterMap_map]
  exact List.filterMap_some

theorem allFirst_succ (ms : List ByteString) (calls : ℕ) :
    allFirst ms (calls + 1) = allFirst ms calls ++ [.decode] := by
  rw [allFirst, allFirst, List.replicate_succ', List.append_assoc]

theorem results_allFirst_zero (ms : List ByteString) : results platform (allFirst ms 0) = [] := by
  rw [allFirst, List.replicate_zero, List.append_nil]
  induction ms using List.reverseRecOn with
  | nil =>
    rw [results_eq]
    rfl
  | append_singleton ms m ih =>
    rw [List.map_append, List.map_singleton, results_snoc, ih]
    rfl

/-- The messages that wait are those behind the answered ones. -/
theorem Framed.unread {es : List ReadEvent} (h : Framed platform es) :
    unreadAfter platform es =
      ((messages es).drop (results platform es).length).flatMap framed := by
  obtain ⟨k, hk, hresults, hunread, _⟩ := h
  have hlength : (results platform es).length = k := by
    rw [hresults, List.length_map, List.length_take, Nat.min_eq_left hk]
  rw [hlength, ← readable_readerAfter, hunread]

/-- Where every schedule is framed, each call answers a message. -/
theorem length_results_allFirst {ms : List ByteString} (hms : ∀ m ∈ ms, Framable m)
    (hframed : ∀ calls, Framed platform (allFirst ms calls)) {calls : ℕ}
    (hcalls : calls ≤ ms.length) : (results platform (allFirst ms calls)).length = calls := by
  induction calls with
  | zero => rw [results_allFirst_zero, List.length_nil]
  | succ calls ih =>
    have hunread := (hframed calls).unread
    rw [messages_allFirst, ih (by omega), List.drop_eq_getElem_cons hcalls,
      List.flatMap_cons] at hunread
    rcases hms ms[calls] (List.getElem_mem hcalls) with ⟨hne, hlt⟩
    have hcall : (unreadNext platform (unreadAfter platform (allFirst ms calls)) .decode).1 =
        some (decodeAlone platform ms[calls]) := by
      rw [hunread]
      exact congrArg some (outcome_framed hne hlt _)
    rw [allFirst_succ, results_snoc, hcall, List.length_append, ih (by omega)]
    show calls + ([decodeAlone platform ms[calls]].filter _).length = calls + 1
    rw [List.filter_eq_self.mpr fun o ho => by
      rw [List.mem_singleton.mp ho]
      exact decide_eq_true (decodeAlone_ne_needMore hne hlt)]
    rfl

/-- A message that raises breaks the schedule that has called once for it and
for each message before it. -/
theorem quiet_of_framed {ms : List ByteString} (hms : ∀ m ∈ ms, Framable m)
    (hframed : ∀ calls, Framed platform (allFirst ms calls)) {m : ByteString} (hm : m ∈ ms) :
    ¬Raises platform m := by
  intro hraises
  obtain ⟨i, hi, rfl⟩ := List.getElem_of_mem hm
  rcases hms ms[i] hm with ⟨hne, hlt⟩
  have hbefore := (hframed i).unread
  rw [messages_allFirst, length_results_allFirst hms hframed (Nat.le_of_lt hi),
    List.drop_eq_getElem_cons hi, List.flatMap_cons] at hbefore
  have hafter := (hframed (i + 1)).unread
  rw [messages_allFirst, length_results_allFirst hms hframed hi, allFirst_succ, unreadAfter_snoc,
    hbefore] at hafter
  -- the call left its frame in the buffer, but the schedule counts it as answered
  have hkept : (unreadNext platform (framed ms[i] ++ (ms.drop (i + 1)).flatMap framed)
      .decode).2 = framed ms[i] ++ (ms.drop (i + 1)).flatMap framed :=
    (remaining_framed hne hlt _).1 hraises
  have hlength := congrArg List.length (hkept.symm.trans hafter)
  rw [List.length_append, length_framed] at hlength
  have hpos : kLengthPrefixSize = 4 := rfl
  simp only [Nat.succ_eq_add_one] at hlength
  omega

/-- However messages and calls interleave, every message is answered once, in
order and as if it were alone, `NeedMore` is returned exactly when none waits,
and what waits is whole: so it is for a list of messages exactly when none of
them is a document that `try_decode` raises on. -/
theorem framing (platform : Platform) (ms : List ByteString)
    (hms : ∀ m ∈ ms, m ≠ [] ∧ m.length < 2 ^ 32) :
    (∀ es, messages es = ms → ∀ before, before <+: es → Framed platform before) ↔
      ∀ m ∈ ms, ∀ document, platform.parse m = some document → Readable document := by
  have hquiet : ∀ m ∈ ms, ¬Raises platform m ↔
      ∀ document, platform.parse m = some document → Readable document := by
    intro m hm
    rcases hms m hm with ⟨hne, hlt⟩
    rw [raises_iff hne hlt]
    simp
  constructor
  · intro hframed m hm
    refine (hquiet m hm).mp (quiet_of_framed hms (fun calls => ?_) hm)
    exact hframed _ (messages_allFirst ms calls) _ List.prefix_rfl
  · rintro hreadable es rfl before ⟨after, rfl⟩
    refine framed_of_quiet fun m hm => ?_
    have hmem : m ∈ messages (before ++ after) := by
      rw [messages, List.filterMap_append]
      exact List.mem_append_left _ hm
    exact ⟨hms m hmem, (hquiet m hmem).mpr (hreadable m hmem)⟩

/-- A message that does not parse and one of an unknown type are framed. -/
theorem framing_of_two :
    Framed reference [.message (ascii "?"), .decode, .message (ascii "\x7b\x7d"), .decode] := by
  refine (framing reference [ascii "?", ascii "\x7b\x7d"] (by decide)).mpr ?_ _ rfl _
    List.prefix_rfl
  intro m hm document hparse
  rw [List.mem_cons, List.mem_singleton] at hm
  rcases hm with rfl | rfl
  · have hnone : reference.parse (ascii "?") = none := by decide +kernel
    rw [hnone] at hparse
    cases hparse
  · have hsome : reference.parse (ascii "\x7b\x7d") = some (.object []) := rfl
    rw [hsome] at hparse
    cases hparse
    exact ⟨trivial, fun name hname => by cases hname⟩

/-- The message `[]` is answered by every call, and stays in the buffer. -/
theorem array_breaks_framing :
    ¬∀ (platform : Platform) (ms : List ByteString), (∀ m ∈ ms, m ≠ [] ∧ m.length < 2 ^ 32) →
      ∀ es, messages es = ms → ∀ before, before <+: es → Framed platform before := by
  intro h
  obtain ⟨k, hk, hresults, hunread, _⟩ :=
    h reference [ascii "[]"] (by decide) [.message (ascii "[]"), .decode, .decode] rfl _
      List.prefix_rfl
  have htwice : (results reference [.message (ascii "[]"), .decode, .decode]).length = 2 := by
    decide +kernel
  rw [hresults, List.length_map, List.length_take] at htwice
  have hone : (messages [.message (ascii "[]"), .decode, .decode]).length = 1 := rfl
  omega

end CCMeeting
