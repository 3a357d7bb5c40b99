import Mathlib.Data.Nat.ModEq
import Mathlib.Algebra.Order.Group.Nat
import Mathlib.Tactic.Ring

/-! # Big-endian integers

The byte strings that `htonl` plus `memcpy`, `write_be64` and `qToBigEndian`
produce, and the integers their counterparts read back.
-/

/-- A byte string. -/
abbrev ByteString := List UInt8

namespace ByteString

/-- The bytes of an ASCII literal. -/
def ascii (s : String) : ByteString := s.toList.map (fun c => UInt8.ofNat c.toNat)

/-- The low `w` bytes of `n`, most significant first. -/
def toBe : ℕ → ℕ → ByteString
  | 0, _ => []
  | w + 1, n => UInt8.ofNat (n / 256 ^ w % 256) :: toBe w n

/-- The integer a byte string denotes, most significant byte first. -/
def ofBe (bs : ByteString) : ℕ := bs.foldl (fun v b => v * 256 + b.toNat) 0

@[simp] theorem length_toBe (w n : ℕ) : (toBe w n).length = w := by
  induction w with
  | zero => rfl
  | succ w ih => simp [toBe, ih]

theorem foldl_be (bs : ByteString) (v : ℕ) :
    bs.foldl (fun v b => v * 256 + b.toNat) v = v * 256 ^ bs.length + ofBe bs := by
  induction bs generalizing v with
  | nil => simp [ofBe]
  | cons b bs ih =>
    have h0 : ofBe (b :: bs) = b.toNat * 256 ^ bs.length + ofBe bs := by
      simp [ofBe, ih b.toNat]
    rw [List.foldl_cons, ih, h0, List.length_cons, pow_succ]
    ring

theorem ofBe_cons (b : UInt8) (bs : ByteString) :
    ofBe (b :: bs) = b.toNat * 256 ^ bs.length + ofBe bs := by
  simpa [ofBe] using foldl_be bs b.toNat

/-- Only the low bytes are written. -/
theorem toBe_mod {w m : ℕ} (h : w ≤ m) (n : ℕ) : toBe w (n % 256 ^ m) = toBe w n := by
  induction w with
  | zero => rfl
  | succ w ih =>
    have hpow : 256 ^ m = 256 ^ w * (256 * 256 ^ (m - (w + 1))) := by
      rw [← pow_succ', ← pow_add]
      congr 1
      omega
    have hbyte : n % 256 ^ m / 256 ^ w % 256 = n / 256 ^ w % 256 := by
      rw [hpow, Nat.mod_mul_right_div_self, Nat.mod_mul_right_mod]
    rw [toBe, toBe, hbyte, ih (Nat.le_of_succ_le h)]

theorem ofBe_lt (bs : ByteString) : ofBe bs < 256 ^ bs.length := by
  induction bs with
  | nil => simp [ofBe]
  | cons b bs ih =>
    have hb : b.toNat ≤ 255 := by
      have := b.toNat_lt
      omega
    have hhead : b.toNat * 256 ^ bs.length ≤ 255 * 256 ^ bs.length := Nat.mul_le_mul_right _ hb
    rw [ofBe_cons, List.length_cons, pow_succ]
    omega

/-- Reading back what was written gives the integer modulo the width. -/
theorem ofBe_toBe (w n : ℕ) : ofBe (toBe w n) = n % 256 ^ w := by
  induction w with
  | zero => simp [toBe, ofBe, Nat.mod_one]
  | succ w ih =>
    have hb : (UInt8.ofNat (n / 256 ^ w % 256)).toNat = n / 256 ^ w % 256 := by
      simp [UInt8.toNat_ofNat']
    rw [toBe, ofBe_cons, length_toBe, ih, hb, pow_succ, Nat.mod_mul]
    ring

end ByteString
