import Mathlib.Data.Finset.Card
import CCMeeting.Server.Replies
import CCMeeting.Server.Updates

/-! # Room numbers

`RoomManager::create_room` draws a six-digit number up to 32 times and then
counts on from `_next_room_id`. The table has fewer entries than there are
numbers, so the count ends; it passes `0` and `0xFFFFFFFF` only when it has
gone around.
-/

namespace CCMeeting

open Transition State

namespace State

/-! ## The random numbers -/

theorem drawRoomId_range {s : State} {draws : Draws} (h : s.drawRoomId draws ≠ 0) :
    kRoomIdMin ≤ s.drawRoomId draws ∧ s.drawRoomId draws ≤ kRoomIdMax := by
  unfold drawRoomId at h ⊢
  cases hfound : ((List.range kRoomIdAttempts).map draws.value).find?
      (fun candidate => (s.rooms.find candidate).isNone) with
  | none =>
    rw [hfound] at h
    exact absurd rfl h
  | some candidate =>
    obtain ⟨i, _, rfl⟩ := List.mem_map.mp (List.mem_of_find?_eq_some hfound)
    exact draws.range i

/-! ## The fallback -/

/-- How many times the fallback evaluates `_next_room_id++`. -/
def sequentialDraws (rooms : RoomTable) : ℕ → UInt32 → ℕ
  | 0, _ => 0
  | fuel + 1, next =>
    if (rooms.find next).isNone then 1 else sequentialDraws rooms fuel (next + 1) + 1

theorem add_one_add_ofNat (next : UInt32) (j : ℕ) :
    next + 1 + UInt32.ofNat j = next + UInt32.ofNat (j + 1) := by
  rw [UInt32.ofNat_add, UInt32.add_assoc, UInt32.add_comm 1]
  rfl

/-- The search draws one number more than it skips. -/
theorem sequentialDraws_eq {rooms : RoomTable} {fuel k : ℕ} {next : UInt32} (hk : k < fuel)
    (hbefore : ∀ j < k, (rooms.find (next + UInt32.ofNat j)).isSome = true)
    (hat : rooms.find (next + UInt32.ofNat k) = none) :
    sequentialDraws rooms fuel next = k + 1 := by
  have hzero : next + UInt32.ofNat 0 = next := UInt32.add_zero next
  induction k generalizing fuel next with
  | zero =>
    obtain ⟨fuel, rfl⟩ := Nat.exists_eq_succ_of_ne_zero (Nat.ne_zero_of_lt hk)
    rw [hzero] at hat
    rw [sequentialDraws, if_pos (by simp [hat])]
  | succ k ih =>
    obtain ⟨fuel, rfl⟩ := Nat.exists_eq_succ_of_ne_zero (Nat.ne_zero_of_lt hk)
    have htaken := hbefore 0 (Nat.succ_pos k)
    rw [hzero] at htaken
    have hnot : ¬(rooms.find next).isNone = true := by
      rw [← Option.not_isSome, htaken]
      simp
    rw [sequentialDraws, if_neg hnot]
    refine congrArg Nat.succ (ih (Nat.lt_of_succ_lt_succ hk) ?_ ?_ (UInt32.add_zero _))
    · intro j hj
      rw [add_one_add_ofNat]
      exact hbefore (j + 1) (Nat.succ_lt_succ hj)
    · rw [add_one_add_ofNat]
      exact hat

/-- A search that finds nothing has met a room under every number it tried. -/
theorem taken_of_sequentialRoomId_none {rooms : RoomTable} {fuel : ℕ} {next : UInt32}
    (h : sequentialRoomId rooms fuel next = none) :
    ∀ j < fuel, (rooms.find (next + UInt32.ofNat j)).isSome = true := by
  intro j
  induction j using Nat.strong_induction_on with
  | _ j ih =>
    intro hj
    by_contra hfree
    have hnone : rooms.find (next + UInt32.ofNat j) = none := by simpa using hfree
    have hfound := sequentialRoomId_eq_some_iff.mpr
      ⟨j, hj, fun i hi => ih i hi (hi.trans hj), hnone, rfl, rfl⟩
    rw [h] at hfound
    cases hfound

/-- With fewer than `2 ^ 32` rooms some number is free. -/
theorem exists_sequentialRoomId {rooms : RoomTable} (hrooms : rooms.toList.length < 4294967296)
    (next : UInt32) : ∃ found, sequentialRoomId rooms 4294967296 next = some found := by
  cases hsearch : sequentialRoomId rooms 4294967296 next with
  | some found => exact ⟨found, rfl⟩
  | none =>
    have htaken := taken_of_sequentialRoomId_none hsearch
    -- the numbers tried are all different, and each is the key of an entry
    have hcard : (Finset.range 4294967296).card ≤ (rooms.toList.map Prod.fst).toFinset.card := by
      refine Finset.card_le_card_of_injOn (fun j => next + UInt32.ofNat j) ?_ ?_
      · intro j hj
        obtain ⟨e, he⟩ := Option.isSome_iff_exists.mp (htaken j (Finset.mem_range.mp hj))
        obtain ⟨hmem, hkey⟩ := KeyedList.find_eq_some.mp he
        exact List.mem_toFinset.mpr (List.mem_map.mpr ⟨e, hmem, hkey⟩)
      · intro i hi j hj hij
        have hof : UInt32.ofNat i = UInt32.ofNat j := by
          have hsub := congrArg (fun v => v - next) hij
          simpa [UInt32.add_comm next] using hsub
        have htoNat := congrArg UInt32.toNat hof
        rw [UInt32.toNat_ofNat_of_lt' (Finset.mem_range.mp (Finset.mem_coe.mp hi)),
          UInt32.toNat_ofNat_of_lt' (Finset.mem_range.mp (Finset.mem_coe.mp hj))] at htoNat
        exact htoNat
    have hlength := hcard.trans (List.toFinset_card_le _)
    rw [Finset.card_range, List.length_map] at hlength
    omega

/-- `create_room` finds a number. -/
theorem exists_pickRoomId {s : State} (draws : Draws)
    (hrooms : s.rooms.toList.length < 4294967296) :
    ∃ roomId next, s.pickRoomId draws = .ok (roomId, next) := by
  unfold pickRoomId
  by_cases hdraw : s.drawRoomId draws ≠ 0
  · rw [if_pos hdraw]
    exact ⟨_, _, rfl⟩
  · rw [if_neg hdraw]
    obtain ⟨⟨roomId, next⟩, hfound⟩ := exists_sequentialRoomId hrooms s.nextRoomId
    rw [hfound]
    exact ⟨roomId, next, rfl⟩

/-- The number and the counter after it: a random number that leaves the
counter alone, or a number the fallback has come to. -/
theorem pickRoomId_cases {s : State} {draws : Draws} {roomId next : UInt32}
    (h : s.pickRoomId draws = .ok (roomId, next)) :
    (s.drawRoomId draws ≠ 0 ∧ kRoomIdMin ≤ roomId ∧ roomId ≤ kRoomIdMax ∧ next = s.nextRoomId) ∨
    ∃ k, s.drawRoomId draws = 0 ∧
      sequentialDraws s.rooms 4294967296 s.nextRoomId = k + 1 ∧
      (∀ j < k, (s.rooms.find (s.nextRoomId + UInt32.ofNat j)).isSome = true) ∧
      roomId = s.nextRoomId + UInt32.ofNat k ∧ next = s.nextRoomId + UInt32.ofNat (k + 1) := by
  unfold pickRoomId at h
  by_cases hdraw : s.drawRoomId draws ≠ 0
  · rw [if_pos hdraw] at h
    cases h
    exact Or.inl ⟨hdraw, (drawRoomId_range hdraw).1, (drawRoomId_range hdraw).2, rfl⟩
  · rw [if_neg hdraw] at h
    cases hfound : sequentialRoomId s.rooms 4294967296 s.nextRoomId with
    | none =>
      rw [hfound] at h
      cases h
    | some found =>
      rw [hfound] at h
      cases h
      obtain ⟨k, hk, hbefore, hat, rfl, rfl⟩ := sequentialRoomId_eq_some_iff.mp hfound
      refine Or.inr ⟨k, not_not.mp hdraw, sequentialDraws_eq hk hbefore hat, hbefore, rfl, ?_⟩
      rw [UInt32.ofNat_add, ← UInt32.add_assoc]
      rfl

/-! ## The fallback numbers drawn so far -/

/-- The fallback numbers the handler of an event draws. -/
def fallbackDraws (config : ServerConfig) (s : State) : Event → ℕ
  | .packet c packet oracle =>
    if s.Allocates config c packet ∧ s.drawRoomId oracle.draws = 0 then
      sequentialDraws s.rooms 4294967296 s.nextRoomId
    else 0
  | _ => 0

end State

/-- The server with the number of fallback numbers drawn so far. -/
def numbered (platform : Platform) (config : ServerConfig) : System (State × ℕ) Event :=
  (system platform config).observe (fun _ => 0) (fun n s e _ => n + s.fallbackDraws config e)

namespace State

/-- The counter after `n` fallback numbers, the keys handed out until then, and
the rooms behind them. -/
structure Numbered (s : State) (n : ℕ) : Prop where
  nextRoomId : s.nextRoomId = UInt32.ofNat (n + 1)
  /-- a room has a six-digit number, or one the fallback has passed -/
  key : ∀ {e}, e ∈ s.rooms → kRoomIdMin ≤ e.1 ∧ e.1 ≤ kRoomIdMax ∨ e.1.toNat ≤ n
  ref : ∀ {e}, e ∈ s.rooms → e.2 < s.nextRef

namespace Numbered

variable {platform : Platform} {config : ServerConfig} {s s' : State} {n : ℕ}

theorem start : State.start.Numbered 0 where
  nextRoomId := rfl
  key he := by simp [State.start] at he
  ref he := by simp [State.start] at he

/-- No update touches the counter or adds a room. -/
theorem update (h : s.Numbered n) (hupdate : Update platform s s') : s'.Numbered n := by
  cases hupdate with
  | queued _ => exact ⟨h.nextRoomId, h.key, h.ref⟩
  | shut _ => exact ⟨h.nextRoomId, h.key, h.ref⟩
  | routed _ _ => exact ⟨h.nextRoomId, h.key, h.ref⟩
  | room _ _ _ => exact ⟨h.nextRoomId, h.key, h.ref⟩
  | cleaned roomId =>
    exact ⟨h.nextRoomId, fun he => h.key (KeyedList.mem_erase.mp he).1,
      fun he => h.ref (KeyedList.mem_erase.mp he).1⟩

/-- The number the fallback comes to has been counted. -/
theorem toNat_add_ofNat_le (h : s.Numbered n) (k : ℕ) :
    (s.nextRoomId + UInt32.ofNat k).toNat ≤ n + (k + 1) := by
  rw [h.nextRoomId, ← UInt32.ofNat_add, UInt32.toNat_ofNat']
  have := Nat.mod_le (n + 1 + k) (2 ^ 32)
  omega

theorem founded (h : s.Numbered n) {draws : Draws} {roomId next : UInt32} {room : Room}
    {order : KeyedList.Order (UInt32 × RoomRef)}
    (hpick : s.pickRoomId draws = .ok (roomId, next)) :
    (s.founded roomId next room order).Numbered (n +
      if s.drawRoomId draws = 0 then sequentialDraws s.rooms 4294967296 s.nextRoomId else 0) := by
  have hfree : s.rooms.find (Prod.fst (roomId, s.nextRef)) = none := pickRoomId_free hpick
  have hentry : ∀ {e}, e ∈ (s.founded roomId next room order).rooms →
      e = (roomId, s.nextRef) ∨ e ∈ s.rooms := fun he => (KeyedList.mem_emplace hfree).mp he
  have href : ∀ {e}, e ∈ (s.founded roomId next room order).rooms → e.2 < s.nextRef + 1 := by
    intro e he
    rcases hentry he with rfl | he
    · exact Nat.lt_succ_self _
    · exact Nat.lt_succ_of_lt (h.ref he)
  rcases pickRoomId_cases hpick with ⟨hdraw, hmin, hmax, rfl⟩ | ⟨k, hdraw, hcount, _, rfl, rfl⟩
  · rw [if_neg hdraw]
    refine ⟨h.nextRoomId, ?_, href⟩
    intro e he
    rcases hentry he with rfl | he
    · exact Or.inl ⟨hmin, hmax⟩
    · exact h.key he
  · rw [if_pos hdraw, hcount]
    refine ⟨?_, ?_, href⟩
    · show s.nextRoomId + UInt32.ofNat (k + 1) = UInt32.ofNat (n + (k + 1) + 1)
      rw [h.nextRoomId, ← UInt32.ofNat_add]
      congr 1
      omega
    · intro e he
      rcases hentry he with rfl | he
      · exact Or.inr (h.toNat_add_ofNat_le k)
      · rcases h.key he with hrange | hle
        · exact Or.inl hrange
        · exact Or.inr (by omega)

/-- Every step keeps the count right. -/
theorem step (h : s.Numbered n) {e : Event} (hstep : (system platform config).Step s e s') :
    s'.Numbered (n + s.fallbackDraws config e) := by
  refine step_establishes (I := fun t => t.Numbered (n + s.fallbackDraws config e))
    (fun {t} hbegin => ?_) (fun hone ht => ht.update hone) hstep
  cases hbegin with
  | accept => exact ⟨h.nextRoomId, h.key, h.ref⟩
  | socketDown _ => exact ⟨h.nextRoomId, h.key, h.ref⟩
  | wrote _ _ _ => exact ⟨h.nextRoomId, h.key, h.ref⟩
  | close _ => exact h
  | expire _ => exact h
  | packet hnot =>
    simp only [fallbackDraws, hnot, false_and, if_false]
    exact h
  | founded hall hpick _ _ =>
    simp only [fallbackDraws, hall, true_and]
    exact h.founded hpick

end Numbered

end State

theorem reachable_numbered {platform : Platform} {config : ServerConfig} {y : State × ℕ}
    (h : Reachable (numbered platform config) y) : y.1.Numbered y.2 := by
  refine h.invariant (I := fun y => y.1.Numbered y.2) ?_ ?_
  · rintro ⟨s, n⟩ ⟨hstate, hcount⟩
    cases hstate
    cases hcount
    exact .start
  · rintro ⟨s, n⟩ e ⟨s', n'⟩ _ hinv ⟨hstep, hcount⟩
    cases hcount
    exact Numbered.step hinv hstep

/-! ## Allocation -/

/-- While the fallback has not gone around, the number it comes to is neither
`0` nor `0xFFFFFFFF`: past the six-digit numbers every number is still free. -/
theorem State.Numbered.fallback_proper {s : State} {n k : ℕ} (h : s.Numbered n)
    (hn : n < 4294967294)
    (hbefore : ∀ j < k, (s.rooms.find (s.nextRoomId + UInt32.ofNat j)).isSome = true) :
    s.nextRoomId + UInt32.ofNat k ≠ 0 ∧ s.nextRoomId + UInt32.ofNat k ≠ 0xFFFFFFFF := by
  have hvalue : ∀ j, n + 1 + j < 4294967296 →
      (s.nextRoomId + UInt32.ofNat j).toNat = n + 1 + j := by
    intro j hj
    rw [h.nextRoomId, ← UInt32.ofNat_add, UInt32.toNat_ofNat_of_lt' hj]
  -- a number that was skipped is a six-digit one
  have hskipped : ∀ j < k, n + 1 + j < 4294967296 → n + 1 + j ≤ 999999 := by
    intro j hj hlt
    obtain ⟨e, he⟩ := Option.isSome_iff_exists.mp (hbefore j hj)
    obtain ⟨hmem, hkey⟩ := KeyedList.find_eq_some.mp he
    have htoNat : e.1.toNat = n + 1 + j := by
      rw [show e.1 = s.nextRoomId + UInt32.ofNat j from hkey]
      exact hvalue j hlt
    rcases h.key hmem with ⟨_, hmax⟩ | hle
    · have hmax' : e.1.toNat ≤ 999999 := UInt32.le_iff_toNat_le.mp hmax
      omega
    · omega
  have hbound : n + 1 + k < 4294967295 := by
    by_contra hno
    have hk : 0 < k := by omega
    have hfirst := hskipped 0 hk (by omega)
    have hlast := hskipped (1000000 - (n + 1)) (by omega) (by omega)
    omega
  constructor
  · intro hzero
    have htoNat := congrArg UInt32.toNat hzero
    rw [hvalue k (by omega)] at htoNat
    simp at htoNat
  · intro hlast
    have htoNat := congrArg UInt32.toNat hlast
    rw [hvalue k (by omega)] at htoNat
    simp at htoNat
    omega

/-- With fewer than `2 ^ 32` places in the table `create_room` returns. -/
theorem State.createRoom_isOk {config : ServerConfig} (hmax : config.maxRooms < 4294967296)
    (s : State) (owner : ConnId) (options : RoomOptions) (userId : UInt64) (oracle : Oracle) :
    ∃ created s', s.createRoom config owner options userId oracle = .ok (created, s') := by
  unfold createRoom
  split_ifs with hopen hrooms
  · exact ⟨_, _, rfl⟩
  · exact ⟨_, _, rfl⟩
  · obtain ⟨roomId, next, hpick⟩ := exists_pickRoomId (s := s) oracle.draws (by omega)
    rw [hpick]
    exact ⟨_, _, rfl⟩

/-- From every reachable state and for every outcome of the draws `create_room`
returns. The number it gives a room is the key of no room and, while fewer than
`2 ^ 32 - 2` fallback numbers have been drawn, no code of a join reply; every
room there was keeps its number and is left alone. -/
theorem room_number_allocation {platform : Platform} {config : ServerConfig}
    (hmax : config.maxRooms < 4294967296) {y : State × ℕ}
    (h : Reachable (numbered platform config) y) (owner : ConnId) (options : RoomOptions)
    (userId : UInt64) (oracle : Oracle) :
    ∃ created s', y.1.createRoom config owner options userId oracle = .ok (created, s') ∧
      (∀ roomId, created = some roomId →
        y.1.rooms.find roomId = none ∧ (s'.rooms.find roomId).isSome = true ∧
        (y.2 < 4294967294 → roomId ≠ 0 ∧ roomId ≠ 0xFFFFFFFF)) ∧
      ∀ roomId e, y.1.rooms.find roomId = some e →
        s'.rooms.find roomId = some e ∧ s'.heap e.2 = y.1.heap e.2 := by
  have hinv := reachable_numbered h
  obtain ⟨created, s', hcreate⟩ := y.1.createRoom_isOk hmax owner options userId oracle
  refine ⟨created, s', hcreate, ?_⟩
  rcases createRoom_cases hcreate with ⟨rfl, rfl, _⟩ |
    ⟨roomId, next, room, rfl, _, _, hpick, _, _, rfl⟩
  · constructor
    · intro roomId hnone
      cases hnone
    · intro roomId e he
      exact ⟨he, rfl⟩
  have hfree : y.1.rooms.find roomId = none := pickRoomId_free hpick
  constructor
  · intro roomId' hid
    cases hid
    refine ⟨hfree, ?_, fun hn => ?_⟩
    · have hself := KeyedList.find_emplace_self (x := (roomId, y.1.nextRef)) oracle.roomOrder hfree
      exact Option.isSome_iff_exists.mpr ⟨_, hself⟩
    -- a random number has six digits; the fallback counts on from where it was
    · rcases pickRoomId_cases hpick with ⟨_, hmin, hlast, _⟩ | ⟨k, _, _, hbefore, rfl, _⟩
      · constructor
        · rintro rfl
          exact absurd hmin (by decide)
        · rintro rfl
          exact absurd hlast (by decide)
      · exact hinv.fallback_proper hn hbefore
  · intro roomId' e he
    obtain ⟨hmem, hkey⟩ := KeyedList.find_eq_some.mp he
    have hne : roomId' ≠ roomId := by
      rintro rfl
      rw [hfree] at he
      cases he
    have hkept := KeyedList.find_emplace_of_ne (x := (roomId, y.1.nextRef)) oracle.roomOrder hfree
      (k := roomId') (fun heq => hne heq.symm)
    refine ⟨hkept.trans he, ?_⟩
    -- the new room lies behind a reference no room of the table has
    exact Function.update_of_ne (Nat.ne_of_lt (hinv.ref hmem)) _ _

/-- The first of two connections has a room under the one number that is ever drawn.
All draws of the second are taken, and it gets the first number that is counted. -/
theorem room_number_allocation_of_taken_draws : ∃ s s' : State,
    (s.rooms.find 123456).isSome = true ∧
      s.createRoom {} 2 ⟨0, 60⟩ 8 .plain = .ok (some 1, s') ∧ s.rooms.find 1 = none ∧
      (s'.rooms.find 1).isSome = true ∧ s'.rooms.find 123456 = s.rooms.find 123456 := by
  let founding : Event := .packet 1 { type := .createMeeting, userId := 7 } .plain
  have hrun : (next reference {} State.start.accept.accept founding).any
      (fun s => (s.rooms.find 123456).isSome = true ∧
        (s.createRoom {} 2 ⟨0, 60⟩ 8 .plain).toOption.bind Prod.fst = some 1) = true := by
    decide +kernel
  rcases (Option.any_eq_true _ _).mp hrun with ⟨s, hs, htest⟩
  rcases of_decide_eq_true htest with ⟨htaken, hcounted⟩
  have hinit : Reachable (numbered reference {}) (State.start, 0) := .init ⟨rfl, rfl⟩
  have hfirst : Reachable (numbered reference {}) (State.start.accept, 0) :=
    hinit.step (e := .accept) ⟨⟨trivial, rfl⟩, rfl⟩
  have haccepted : Reachable (numbered reference {}) (State.start.accept.accept, 0) :=
    hfirst.step (e := .accept) ⟨⟨trivial, rfl⟩, rfl⟩
  have hnone : State.fallbackDraws {} State.start.accept.accept founding = 0 := by decide +kernel
  have hreach : Reachable (numbered reference {}) (s, 0) :=
    haccepted.step (e := founding) ⟨next_step reference {} hs, hnone.symm⟩
  rcases room_number_allocation (by decide) hreach 2 ⟨0, 60⟩ 8 .plain with
    ⟨created, s', hcreate, hnew, hkept⟩
  rw [hcreate] at hcounted
  have hid : created = some 1 := hcounted
  rcases hnew 1 hid with ⟨hfree, hstored, _⟩
  rcases Option.isSome_iff_exists.mp htaken with ⟨e, he⟩
  refine ⟨s, s', htaken, ?_, hfree, hstored, ?_⟩
  · rw [hcreate, hid]
  · rw [(hkept 123456 e he).1, he]

end CCMeeting
