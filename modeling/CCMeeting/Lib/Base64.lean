import Mathlib.Tactic.NormNum
import CCMeeting.Lib.Bytes

/-! # Base64 (RFC 4648)

The standard alphabet and the encoding of a byte string: groups of three
bytes become four symbols of six bits each, and the last group is padded.
-/

namespace Base64

/-- The alphabet of RFC 4648, section 4. -/
def alphabet : ByteString :=
  ByteString.ascii "ABCDEFGHIJKLMNOPQRSTUVWXYZabcdefghijklmnopqrstuvwxyz0123456789+/"

/-- The padding character `=`. -/
def pad : UInt8 := 61

/-- The symbol of a six-bit value. -/
def symbol (v : ℕ) : UInt8 := alphabet.getD v pad

/-- The value of a symbol; other characters have none. -/
def value (c : UInt8) : Option ℕ := alphabet.findIdx? (· == c)

theorem value_symbol_all : ∀ v : Fin 64, value (symbol v) = some v.val := by decide +kernel

theorem value_symbol {v : ℕ} (h : v < 64) : value (symbol v) = some v :=
  value_symbol_all ⟨v, h⟩

theorem symbol_ne_pad_all : ∀ v : Fin 64, symbol v ≠ pad := by decide +kernel

theorem symbol_ne_pad {v : ℕ} (h : v < 64) : symbol v ≠ pad := symbol_ne_pad_all ⟨v, h⟩

theorem symbol_ascii_all : ∀ v : Fin 64, symbol v ≤ 0x7F := by decide +kernel

theorem symbol_ascii {v : ℕ} (h : v < 64) : symbol v ≤ 0x7F := symbol_ascii_all ⟨v, h⟩

/-- The 24 bits of a group of three bytes. -/
def triple (a b c : UInt8) : ℕ := a.toNat * 65536 + b.toNat * 256 + c.toNat

/-- The encoding of a byte string. -/
def encode : ByteString → ByteString
  | [] => []
  | [a] => [symbol (triple a 0 0 / 262144), symbol (triple a 0 0 / 4096 % 64), pad, pad]
  | [a, b] =>
    [symbol (triple a b 0 / 262144), symbol (triple a b 0 / 4096 % 64),
      symbol (triple a b 0 / 64 % 64), pad]
  | a :: b :: c :: rest =>
    symbol (triple a b c / 262144) :: symbol (triple a b c / 4096 % 64) ::
      symbol (triple a b c / 64 % 64) :: symbol (triple a b c % 64) :: encode rest

theorem triple_lt (a b c : UInt8) : triple a b c < 16777216 := by
  have ha := a.toNat_lt
  have hb := b.toNat_lt
  have hc := c.toNat_lt
  unfold triple
  omega

/-- Base64 text is ASCII. -/
theorem encode_ascii (bs : ByteString) : ∀ c ∈ encode bs, c ≤ 0x7F := by
  have hpad : pad ≤ 0x7F := by decide +kernel
  have hhigh : ∀ a b c, symbol (triple a b c / 262144) ≤ 0x7F := by
    intro a b c
    have := triple_lt a b c
    exact symbol_ascii (by omega)
  have hmod : ∀ n, symbol (n % 64) ≤ 0x7F := fun n => symbol_ascii (Nat.mod_lt _ (by norm_num))
  induction bs using encode.induct with
  | case1 => simp [encode]
  | case2 a => simp [encode, hhigh, hmod, hpad]
  | case3 a b => simp [encode, hhigh, hmod, hpad]
  | case4 a b c rest ih => simpa [encode, hhigh, hmod] using ih

/-- Four characters for each group of three bytes. -/
theorem length_encode (bs : ByteString) : (encode bs).length = (bs.length + 2) / 3 * 4 := by
  induction bs using encode.induct with
  | case1 => rfl
  | case2 a => simp [encode]
  | case3 a b => simp [encode]
  | case4 a b c rest ih =>
    simp only [encode, List.length_cons, ih]
    omega

end Base64
