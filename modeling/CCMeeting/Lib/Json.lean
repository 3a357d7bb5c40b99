import Mathlib.Tactic.NormNum
import CCMeeting.Lib.Utf8

/-! # JSON documents

A parsed document as a JSON library holds it: strings are byte strings,
numbers keep the way they were stored (an integer that fits 64 bits, or a
double), objects are their members in order.
-/

/-- The value of a finite double: `num / 2 ^ scale`. -/
structure Double where
  num : ℤ
  scale : ℕ
deriving DecidableEq, Repr

namespace Double

/-- The integer `n` as a double, when a double holds it exactly. -/
def ofInt (n : ℤ) : Double := ⟨n, 0⟩

/-- The doubles whose integer part fits an unsigned 64-bit integer: strictly
between -1 and `2 ^ 64`. -/
def InU64Range (d : Double) : Prop := -(2 : ℤ) ^ d.scale < d.num ∧ d.num < 2 ^ (64 + d.scale)

instance (d : Double) : Decidable d.InU64Range := inferInstanceAs (Decidable (_ ∧ _))

/-- Round a natural number to the nearest multiple of `2 ^ e`, ties to the
even multiple. -/
def roundTo (e n : ℕ) : ℕ :=
  if 2 * (n % 2 ^ e) < 2 ^ e ∨ (2 * (n % 2 ^ e) = 2 ^ e ∧ n / 2 ^ e % 2 = 0) then
    n / 2 ^ e * 2 ^ e
  else (n / 2 ^ e + 1) * 2 ^ e

/-- The nearest double to a natural number, ties to even: 53 significant bits. -/
def roundNat (n : ℕ) : ℕ :=
  if n < 2 ^ 53 then n else roundTo (Nat.log2 n - 52) n

/-- The nearest double to an integer. -/
def roundInt : ℤ → Double
  | .ofNat n => ofInt (roundNat n)
  | .negSucc n => ofInt (-(roundNat (n + 1) : ℤ))

theorem roundNat_of_lt {n : ℕ} (h : n < 2 ^ 53) : roundNat n = n := by
  rw [roundNat, if_pos h]

theorem roundTo_le (e n : ℕ) : roundTo e n ≤ n + 2 ^ e := by
  have hdiv : n / 2 ^ e * 2 ^ e ≤ n := Nat.div_mul_le_self n (2 ^ e)
  unfold roundTo
  split
  · omega
  · rw [Nat.add_mul, Nat.one_mul]
    omega

/-- Rounding down to a power of two that is below `n` does not pass it. -/
theorem le_roundTo {e k n : ℕ} (hk : e ≤ k) (h : 2 ^ k ≤ n) : 2 ^ k ≤ roundTo e n := by
  obtain ⟨j, rfl⟩ := Nat.exists_eq_add_of_le hk
  have hq : 2 ^ j ≤ n / 2 ^ e := by
    rw [Nat.le_div_iff_mul_le (Nat.two_pow_pos e), ← pow_add, Nat.add_comm]
    exact h
  have hlow : 2 ^ (e + j) ≤ n / 2 ^ e * 2 ^ e := by
    rw [pow_add, Nat.mul_comm]
    exact Nat.mul_le_mul_right _ hq
  have hround : n / 2 ^ e * 2 ^ e ≤ roundTo e n := by
    unfold roundTo
    split
    · exact Nat.le_refl _
    · exact Nat.mul_le_mul_right _ (Nat.le_succ _)
  exact hlow.trans hround

/-- In the last binade below `2 ^ 64` doubles are `2 ^ 11` apart. -/
theorem roundTo_eleven_lt_iff {n : ℕ} :
    roundTo 11 n < 18446744073709551616 ↔ n < 18446744073709550592 := by
  unfold roundTo
  norm_num only
  split <;> omega

/-- Below `2 ^ 64` the largest double is `2 ^ 64 - 2 ^ 11`; integers from the
midpoint on are rounded up to `2 ^ 64`. -/
theorem roundNat_lt_iff {n : ℕ} : roundNat n < 2 ^ 64 ↔ n < 2 ^ 64 - 2 ^ 10 := by
  have hp : (2 : ℕ) ^ 64 = 18446744073709551616 := by norm_num
  have hp63 : (2 : ℕ) ^ 63 = 9223372036854775808 := by norm_num
  have hp53 : (2 : ℕ) ^ 53 = 9007199254740992 := by norm_num
  have hp10 : (2 : ℕ) ^ 10 = 1024 := by norm_num
  rw [hp, hp10]
  by_cases h53 : n < 2 ^ 53
  · rw [roundNat_of_lt h53]
    omega
  rw [roundNat, if_neg h53]
  have hn : n ≠ 0 := by omega
  rcases lt_or_ge n (2 ^ 63) with h63 | h63
  · -- below 2 ^ 63 rounding moves the number by 2 ^ 10 at most
    have hlog : Nat.log2 n < 63 := (Nat.log2_lt hn).mpr h63
    have he : 2 ^ (Nat.log2 n - 52) ≤ 2 ^ 10 := Nat.pow_le_pow_right (by norm_num) (by omega)
    have hle := roundTo_le (Nat.log2 n - 52) n
    omega
  rcases lt_or_ge n (2 ^ 64) with h64 | h64
  · have hlog : Nat.log2 n = 63 := by
      have h1 : Nat.log2 n < 64 := (Nat.log2_lt hn).mpr h64
      have h2 : 63 ≤ Nat.log2 n := (Nat.le_log2 hn).mpr h63
      omega
    rw [hlog]
    exact roundTo_eleven_lt_iff
  · -- from 2 ^ 64 on, both sides fail
    have hlog : 64 ≤ Nat.log2 n := (Nat.le_log2 hn).mpr h64
    have hle : 2 ^ Nat.log2 n ≤ roundTo (Nat.log2 n - 52) n :=
      le_roundTo (Nat.sub_le _ _) (Nat.log2_self_le hn)
    have h64' : 2 ^ 64 ≤ 2 ^ Nat.log2 n := Nat.pow_le_pow_right (by norm_num) hlog
    omega

end Double

/-- A JSON number as a library stores it. -/
inductive Number where
  | integer (i : ℤ)
  | float (d : Double)
deriving DecidableEq, Repr

/-- The double a number is converted to. -/
def Number.toDouble : Number → Double
  | .integer i => .roundInt i
  | .float d => d

namespace Number

/-- The number lies in `[0, 2 ^ 64)`. -/
def InRange : Number → Prop
  | .integer i => 0 ≤ i ∧ i < 2 ^ 64
  | .float d => 0 ≤ d.num ∧ d.num < 2 ^ (64 + d.scale)

/-- The numbers in `[0, 2 ^ 64)` whose double is below `2 ^ 64`: an integer of
the last `2 ^ 10` is rounded up to `2 ^ 64`. -/
def Converts : Number → Prop
  | .integer i => 0 ≤ i ∧ i < 2 ^ 64 - 2 ^ 10
  | .float d => 0 ≤ d.num ∧ d.num < 2 ^ (64 + d.scale)

theorem converts_iff (n : Number) :
    n.Converts ↔ n.InRange ∧ n.toDouble.InU64Range := by
  cases n with
  | integer i =>
    cases i with
    | ofNat k =>
      have hround := Double.roundNat_lt_iff (n := k)
      simp only [Converts, InRange, toDouble, Double.roundInt, Double.ofInt, Double.InU64Range]
      norm_num at hround ⊢
      omega
    | negSucc k =>
      simp only [Converts, InRange]
      omega
  | float d =>
    have hpos : (0 : ℤ) < 2 ^ d.scale := by positivity
    simp only [Converts, InRange, toDouble, Double.InU64Range]
    constructor
    · rintro ⟨h1, h2⟩
      exact ⟨⟨h1, h2⟩, by omega, h2⟩
    · rintro ⟨h, _⟩
      exact h

end Number

/-- A JSON document. -/
inductive Json where
  | null
  | boolean (b : Bool)
  | number (n : Number)
  | string (s : ByteString)
  | array (xs : List Json)
  | object (ms : List (ByteString × Json))

namespace Json

mutual

/-- Every string of the document, keys included, is well-formed UTF-8. -/
def utf8 : Json → Bool
  | .string s => decide (Utf8.Valid s)
  | .array xs => utf8List xs
  | .object ms => utf8Members ms
  | .null | .boolean _ | .number _ => true

def utf8List : List Json → Bool
  | [] => true
  | x :: xs => x.utf8 && utf8List xs

def utf8Members : List (ByteString × Json) → Bool
  | [] => true
  | (k, v) :: ms => decide (Utf8.Valid k) && v.utf8 && utf8Members ms

end

theorem utf8Members_iff {ms : List (ByteString × Json)} :
    utf8Members ms = true ↔ ∀ m ∈ ms, Utf8.Valid m.1 ∧ m.2.utf8 = true := by
  induction ms with
  | nil => simp [utf8Members]
  | cons m ms ih =>
    rcases m with ⟨k, v⟩
    simp only [utf8Members, Bool.and_eq_true, decide_eq_true_eq, ih, List.forall_mem_cons]

theorem utf8Members_lookup {ms : List (ByteString × Json)} {k : ByteString} {v : Json}
    (h : utf8Members ms = true) (hk : ms.lookup k = some v) : v.utf8 = true := by
  induction ms with
  | nil => simp at hk
  | cons m ms ih =>
    obtain ⟨k', v'⟩ := m
    simp only [utf8Members, Bool.and_eq_true] at h
    rw [List.lookup_cons] at hk
    split at hk
    · cases hk
      exact h.1.2
    · exact ih h.2 hk

/-- A string member of a well-formed document is well formed. -/
theorem valid_of_lookup {ms : List (ByteString × Json)} {k s : ByteString}
    (h : (Json.object ms).utf8 = true) (hk : ms.lookup k = some (.string s)) :
    Utf8.Valid s := by
  have hs : (Json.string s).utf8 = true := utf8Members_lookup (by simpa [utf8] using h) hk
  simpa [utf8] using hs

end Json

/-! ## Flat documents -/

/-- The value of a double is the natural number `n`. -/
def Double.Is (d : Double) (n : ℕ) : Prop := d.num = n * 2 ^ d.scale

theorem Double.is_ofInt (n : ℕ) : (Double.ofInt n).Is n := by
  simp [Double.Is, Double.ofInt]

/-- A double with a value below `2 ^ 64` is in the range of a conversion to 64
bits. -/
theorem Double.Is.inU64Range {d : Double} {n : ℕ} (h : d.Is n) (hn : n < 2 ^ 64) :
    d.InU64Range := by
  unfold Double.Is at h
  have hpos : (0 : ℤ) < 2 ^ d.scale := by positivity
  refine ⟨?_, ?_⟩
  · rw [h]
    have : (0 : ℤ) ≤ n * 2 ^ d.scale := by positivity
    omega
  · rw [h, pow_add]
    have hn' : (n : ℤ) < 2 ^ 64 := by exact_mod_cast hn
    exact mul_lt_mul_of_pos_right hn' hpos

/-- The integer part of a double whose value is a natural number. -/
theorem Double.Is.floor {d : Double} {n : ℕ} (h : d.Is n) : d.num.toNat / 2 ^ d.scale = n := by
  unfold Double.Is at h
  have hnat : d.num.toNat = n * 2 ^ d.scale := by
    rw [h]
    exact_mod_cast Int.toNat_natCast (n * 2 ^ d.scale)
  rw [hnat, Nat.mul_div_cancel _ (Nat.two_pow_pos _)]

namespace Json

/-- A member of a flat document: a text, or a natural number as a double. -/
inductive Scalar where
  | text (s : ByteString)
  | whole (n : ℕ)
deriving DecidableEq, Repr

namespace Scalar

/-- The member as a JSON value. -/
def json : Scalar → Json
  | text s => .string s
  | whole n => .number (.float (.ofInt n))

/-- Members every JSON library hands over unchanged: well-formed texts, and
numbers below `2 ^ 64` that a double holds exactly. -/
def Plain : Scalar → Prop
  | text s => Utf8.Valid s
  | whole n => Double.roundNat n = n ∧ n < 2 ^ 64

/-- The value read for the member: the same text, or a number with the same
double. -/
def ReadAs : Scalar → Json → Prop
  | text s, .string s' => s' = s
  | whole n, .number m => m.toDouble.Is n
  | _, _ => False

/-- The most bytes a compact writer needs for the value: six for a character
of a text, with the quotes, and never more than 32 for a number. -/
def size : Scalar → ℕ
  | text s => 6 * s.length + 2
  | whole _ => 32

theorem ReadAs.eq_string {s : ByteString} {v : Json} (h : (Scalar.text s).ReadAs v) :
    v = .string s := by
  cases v with
  | string s' =>
    have hs : s' = s := h
    rw [hs]
  | null | boolean _ | number _ | array _ | object _ => exact h.elim

theorem ReadAs.eq_number {n : ℕ} {v : Json} (h : (Scalar.whole n).ReadAs v) :
    ∃ m, v = .number m ∧ m.toDouble.Is n := by
  cases v with
  | number m => exact ⟨m, rfl, h⟩
  | null | boolean _ | string _ | array _ | object _ => exact h.elim

end Scalar

/-- The flat document with the given members. -/
def flat (fields : List (ByteString × Scalar)) : Json :=
  .object (fields.map fun f => (f.1, f.2.json))

/-- The members of a flat document have distinct names and plain values. -/
def PlainFields (fields : List (ByteString × Scalar)) : Prop :=
  (fields.map Prod.fst).Nodup ∧ ∀ f ∈ fields, Utf8.Valid f.1 ∧ f.2.Plain

/-- What is read for the members of a flat document: the same members, in some
order. -/
def ReadFields (fields : List (ByteString × Scalar)) (ms : List (ByteString × Json)) : Prop :=
  ∀ k, Option.Rel Scalar.ReadAs (fields.lookup k) (ms.lookup k)

/-- The most bytes a compact writer needs for a flat document. -/
def flatSize (fields : List (ByteString × Scalar)) : ℕ :=
  2 + (fields.map fun f => 6 * f.1.length + 4 + f.2.size).sum

namespace ReadFields

variable {fields : List (ByteString × Scalar)} {ms : List (ByteString × Json)} {k : ByteString}

theorem none (h : ReadFields fields ms) (hk : fields.lookup k = none) : ms.lookup k = none := by
  have hrel := h k
  rw [hk] at hrel
  cases hl : ms.lookup k with
  | none => rfl
  | some v =>
    rw [hl] at hrel
    cases hrel

theorem field (h : ReadFields fields ms) {s : Scalar} (hk : fields.lookup k = some s) :
    ∃ v, ms.lookup k = some v ∧ s.ReadAs v := by
  have hrel := h k
  rw [hk] at hrel
  cases hl : ms.lookup k with
  | none =>
    rw [hl] at hrel
    cases hrel
  | some v =>
    rw [hl] at hrel
    cases hrel with
    | some hv => exact ⟨v, rfl, hv⟩

theorem text (h : ReadFields fields ms) {s : ByteString} (hk : fields.lookup k = some (.text s)) :
    ms.lookup k = some (.string s) := by
  rcases h.field hk with ⟨v, hl, hv⟩
  rw [hl, hv.eq_string]

theorem whole (h : ReadFields fields ms) {n : ℕ} (hk : fields.lookup k = some (.whole n)) :
    ∃ m, ms.lookup k = some (.number m) ∧ m.toDouble.Is n := by
  rcases h.field hk with ⟨v, hl, hv⟩
  rcases hv.eq_number with ⟨m, rfl, hm⟩
  exact ⟨m, hl, hm⟩

end ReadFields

end Json
