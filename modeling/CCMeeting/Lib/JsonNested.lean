import CCMeeting.Lib.JsonText
import CCMeeting.Lib.TextOrder

/-! # Nested JSON texts

The reader of `Lib/JsonText.lean` reads objects of scalars. This one reads objects
in objects as well, down to a depth. Two libraries that agree on nothing else agree
on portable documents: texts and small numbers under ASCII keys in their order.
-/

/-- The integer a number is. -/
def Number.whole? : Number → Option ℤ
  | .integer i => some i
  | .float d => if d.num % 2 ^ d.scale = 0 then some (d.num / 2 ^ d.scale) else none

namespace Json

open ByteString

/-- The documents that every library reads as they were written, down to a depth:
well-formed texts, numbers that a double holds, and objects whose keys are ASCII
and in the order of a sorted map. -/
def Portable : ℕ → Json → Prop
  | _, .string s => Utf8.Valid s
  | _, .number (.integer (.ofNat n)) => n < 2 ^ 53
  | depth + 1, .object ms =>
    ms.Pairwise (fun m m' => before m.1 m'.1 = true) ∧
      ∀ m ∈ ms, (∀ b ∈ m.1, b ≤ 0x7F) ∧ Portable depth m.2
  | _, _ => False

/-- A portable document is well formed throughout. -/
theorem Portable.utf8 {depth : ℕ} {v : Json} (h : v.Portable depth) : v.utf8 = true := by
  induction depth generalizing v with
  | zero =>
    cases v with
    | string s => exact decide_eq_true h
    | number n => rfl
    | _ => exact h.elim
  | succ depth ih =>
    cases v with
    | string s => exact decide_eq_true h
    | number n => rfl
    | object ms =>
      rw [Json.utf8, utf8Members_iff]
      intro m hm
      exact ⟨Utf8.valid_of_ascii (h.2 m hm).1, ih (h.2 m hm).2⟩
    | _ => exact h.elim

end Json

namespace JsonText

open ByteString

/-- Members up to the closing brace, at most `fuel` of them, with another reader
for their values. -/
def readMembersBy (value : ByteString → Option (Json × ByteString)) :
    ℕ → ByteString → Option (List (ByteString × Json) × ByteString)
  | fuel + 1, 34 :: rest =>
    match readString rest with
    | some (k, 58 :: rest) =>
      match value rest with
      | some (v, 125 :: rest) => some ([(k, v)], rest)
      | some (v, 44 :: rest) =>
        (readMembersBy value fuel rest).map fun (ms, rest) => ((k, v) :: ms, rest)
      | _ => none
    | _ => none
  | _, _ => none

/-- A value in front of the text, with objects down to a depth, and what follows
it. -/
def readValue : ℕ → ByteString → Option (Json × ByteString)
  | _ + 1, 123 :: 125 :: rest => some (.object [], rest)
  | depth + 1, 123 :: rest =>
    (readMembersBy (readValue depth) rest.length rest).map fun (ms, rest) => (.object ms, rest)
  | _, text => readScalar text

/-- A whole text. -/
def readDocument (depth : ℕ) (text : ByteString) : Option Json :=
  match readValue depth text with
  | some (v, []) => some v
  | _ => none

/-! ## Round trip -/

section RoundTrip

variable {writeDouble : Double → ByteString}

/-- Members whose values are read back are read back together. -/
theorem readMembersBy_writeMembers {value : ByteString → Option (Json × ByteString)}
    {ms : List (ByteString × Json)} (hne : ms ≠ [])
    (hread : ∀ m ∈ ms, ∀ rest, Follows rest →
      value (write writeDouble m.2 ++ rest) = some (m.2, rest))
    {fuel : ℕ} (hfuel : ms.length ≤ fuel) (rest : ByteString) :
    readMembersBy value fuel (writeMembers writeDouble ms ++ rest) = some (ms, rest) := by
  induction ms generalizing fuel with
  | nil => exact absurd rfl hne
  | cons m ms ih =>
    rcases m with ⟨k, v⟩
    rcases fuel with _ | fuel
    · exact absurd hfuel (Nat.not_succ_le_zero _)
    have hv := hread (k, v) List.mem_cons_self
    -- the last member is followed by the brace, any other by a comma and the next one
    cases ms with
    | nil =>
      have hshape : writeMembers writeDouble [(k, v)] ++ rest =
          34 :: (k.flatMap escape ++ 34 :: 58 :: (write writeDouble v ++ 125 :: rest)) := by
        simp [writeMembers, writeString]
      rw [hshape, readMembersBy, readString_writeString]
      simp [hv (125 :: rest) ⟨rest, Or.inr rfl⟩]
    | cons m ms =>
      have hshape : writeMembers writeDouble ((k, v) :: m :: ms) ++ rest =
          34 :: (k.flatMap escape ++ 34 :: 58 ::
            (write writeDouble v ++ 44 :: (writeMembers writeDouble (m :: ms) ++ rest))) := by
        simp [writeMembers, writeString]
      have hrest := ih (List.cons_ne_nil m ms)
        (fun x hx => hread x (List.mem_cons_of_mem _ hx)) (Nat.le_of_succ_le_succ hfuel)
      rw [hshape, readMembersBy, readString_writeString]
      simp [hv _ ⟨_, Or.inl rfl⟩, hrest]

variable (writeDouble) in
theorem head_writeMembers {ms : List (ByteString × Json)} (hne : ms ≠ []) (rest : ByteString) :
    ∃ tail, writeMembers writeDouble ms ++ rest = 34 :: tail := by
  cases ms with
  | nil => exact absurd rfl hne
  | cons m ms =>
    rcases m with ⟨k, v⟩
    cases ms with
    | nil => exact ⟨_, by simp [writeMembers, writeString]; rfl⟩
    | cons m ms => exact ⟨_, by simp [writeMembers, writeString]; rfl⟩

variable (writeDouble) in
/-- An object is read back, whatever follows it. -/
theorem readValue_object {depth : ℕ} {ms : List (ByteString × Json)}
    (hread : ∀ m ∈ ms, ∀ rest, Follows rest →
      readValue depth (write writeDouble m.2 ++ rest) = some (m.2, rest)) (rest : ByteString) :
    readValue (depth + 1) (write writeDouble (.object ms) ++ rest) =
      some (.object ms, rest) := by
  by_cases hempty : ms = []
  · rw [hempty]
    rfl
  rcases head_writeMembers writeDouble hempty rest with ⟨tail, htail⟩
  have hfuel : ms.length ≤ (34 :: tail).length := by
    have hwritten := length_le_writeMembers writeDouble ms
    rw [← htail, List.length_append]
    omega
  have hmembers := readMembersBy_writeMembers hempty hread hfuel rest
  rw [htail] at hmembers
  rw [write, List.cons_append, htail, readValue, hmembers]
  · rfl
  · intro text heq
    cases heq

theorem readValue_string (depth : ℕ) (s rest : ByteString) :
    readValue depth (writeString s ++ rest) = some (.string s, rest) := by
  have hscalar := readScalar_string s rest
  have hshape : writeString s ++ rest = 34 :: (s.flatMap escape ++ 34 :: rest) := by
    simp [writeString]
  rw [hshape] at hscalar ⊢
  cases depth <;> exact hscalar

theorem readValue_integer (depth n : ℕ) {rest : ByteString} (hrest : Follows rest) :
    readValue depth (decimal n ++ rest) = some (.number (.integer n), rest) := by
  have hscalar := readScalar_decimal n rest
  rw [readNumber_decimal hrest] at hscalar
  rcases decimal_head n with ⟨b, tail, hb, hdigit⟩
  have h123 : b ≠ 123 := by
    rintro rfl
    cases hdigit
  rw [hb, List.cons_append] at hscalar ⊢
  cases depth with
  | zero => exact hscalar
  | succ depth =>
    rw [readValue]
    · exact hscalar
    · intro _ text _ heq
      exact h123 (List.cons.inj heq).1
    · intro _ text _ heq
      exact h123 (List.cons.inj heq).1

/-- A portable value is read back in front of what may follow it. -/
theorem readValue_write {depth : ℕ} {v : Json} (h : v.Portable depth) {rest : ByteString}
    (hrest : Follows rest) : readValue depth (write writeDouble v ++ rest) = some (v, rest) := by
  induction depth generalizing v rest with
  | zero =>
    cases v with
    | string s => exact readValue_string 0 s rest
    | number n =>
      cases n with
      | integer i =>
        cases i with
        | ofNat n => exact readValue_integer 0 n hrest
        | negSucc n => exact h.elim
      | float d => exact h.elim
    | _ => exact h.elim
  | succ depth ih =>
    cases v with
    | string s => exact readValue_string _ s rest
    | number n =>
      cases n with
      | integer i =>
        cases i with
        | ofNat n => exact readValue_integer _ n hrest
        | negSucc n => exact h.elim
      | float d => exact h.elim
    | object ms =>
      exact readValue_object _ (fun m hm rest hfollows => ih (h.2 m hm).2 hfollows) rest
    | _ => exact h.elim

/-- A portable object is read back, whatever the two libraries make of doubles. -/
theorem readDocument_write {depth : ℕ} {ms : List (ByteString × Json)}
    (h : (Json.object ms).Portable (depth + 1)) :
    readDocument (depth + 1) (write writeDouble (.object ms)) = some (.object ms) := by
  have hobject := readValue_object writeDouble
    (fun m hm rest hfollows => readValue_write (h.2 m hm).2 hfollows) []
  rw [List.append_nil] at hobject
  rw [readDocument, hobject]

end RoundTrip

end JsonText
