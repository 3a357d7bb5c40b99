import CCMeeting.Protocol.Encoding

/-! # Base64 as it travels

A text in Base64 may be broken into lines on its way, and the accumulator of the
decoder overflows after six characters. Neither changes what is decoded.
-/

namespace CCMeeting

open ByteString

/-! ## Texts with other characters in them -/

/-- A character that `base64_decode` passes over. -/
def Foreign (ch : UInt8) : Prop := ch ≠ 61 ∧ ch ∉ kTable

instance (ch : UInt8) : Decidable (Foreign ch) := inferInstanceAs (Decidable (_ ∧ _))

/-- The second text is the first one with foreign characters put in anywhere. -/
inductive Inserted : ByteString → ByteString → Prop where
  | nil : Inserted [] []
  | keep (ch : UInt8) {text text' : ByteString} :
      Inserted text text' → Inserted (ch :: text) (ch :: text')
  | insert (ch : UInt8) {text text' : ByteString} :
      Foreign ch → Inserted text text' → Inserted text (ch :: text')

theorem findIdx?_of_foreign {ch : UInt8} (h : Foreign ch) : kTable.findIdx? (· == ch) = none := by
  rw [List.findIdx?_eq_none_iff]
  intro x hx
  rw [beq_eq_false_iff_ne]
  rintro rfl
  exact h.2 hx

theorem base64DecodeLoop_inserted {text text' : ByteString} (h : Inserted text text')
    (accumulator : UInt32) (bits : ℕ) :
    base64DecodeLoop text' accumulator bits = base64DecodeLoop text accumulator bits := by
  induction h generalizing accumulator bits with
  | nil => rfl
  | keep ch _ ih =>
    unfold base64DecodeLoop
    split_ifs
    · rfl
    · cases kTable.findIdx? (· == ch) with
      | none => exact ih accumulator bits
      | some value =>
        dsimp only
        split_ifs
        · rw [ih]
        · exact ih _ _
  | insert ch hforeign _ ih =>
    rw [base64DecodeLoop, if_neg hforeign.1, findIdx?_of_foreign hforeign]
    exact ih accumulator bits

/-! ## An accumulator that does not overflow -/

/-- The loop of `base64_decode` with an accumulator that keeps all bits. -/
def base64DecodeWide : ByteString → ℕ → ℕ → ByteString
  | [], _, _ => []
  | ch :: rest, accumulator, bits =>
    if ch = 61 then []
    else
      match kTable.findIdx? (· == ch) with
      | none => base64DecodeWide rest accumulator bits
      | some value =>
        let accumulator := accumulator * 64 + value
        let bits := bits + 6
        if 8 ≤ bits then
          UInt8.ofNat (accumulator / 2 ^ (bits - 8)) ::
            base64DecodeWide rest accumulator (bits - 8)
        else base64DecodeWide rest accumulator bits

theorem value_lt {ch : UInt8} {value : ℕ} (h : kTable.findIdx? (· == ch) = some value) :
    value < 64 := by
  have hlength : kTable.length = 64 := by decide +kernel
  rw [← hlength]
  exact (List.findIdx?_eq_some_iff_getElem.mp h).1

/-- The bits that are put out are among the low ones, which the overflow leaves. -/
theorem toUInt8_shiftRight {accumulator : UInt32} {wide k : ℕ}
    (h : accumulator.toNat = wide % 2 ^ 32) (hk : k ≤ 24) :
    (accumulator >>> UInt32.ofNat k).toUInt8 = UInt8.ofNat (wide / 2 ^ k) := by
  apply UInt8.toNat_inj.mp
  have hshift : (UInt32.ofNat k).toNat % 32 = k := by
    rw [UInt32.toNat_ofNat']
    omega
  have hsplit : (2 : ℕ) ^ 32 = 2 ^ k * 2 ^ (32 - k) := by
    rw [← Nat.pow_add, Nat.add_sub_cancel' (by omega)]
  have hbyte : (2 : ℕ) ^ 8 ∣ 2 ^ (32 - k) := Nat.pow_dvd_pow 2 (by omega)
  rw [UInt32.toNat_toUInt8, UInt32.toNat_shiftRight, hshift, Nat.shiftRight_eq_div_pow, h,
    UInt8.toNat_ofNat', hsplit, Nat.mod_mul_right_div_self, Nat.mod_mod_of_dvd _ hbyte]

theorem base64DecodeLoop_eq_wide (text : ByteString) {accumulator : UInt32} {wide bits : ℕ}
    (h : accumulator.toNat = wide % 2 ^ 32) (hbits : bits < 8) :
    base64DecodeLoop text accumulator bits = base64DecodeWide text wide bits := by
  induction text generalizing accumulator wide bits with
  | nil => rfl
  | cons ch rest ih =>
    unfold base64DecodeLoop base64DecodeWide
    split_ifs with hpad
    · rfl
    · cases hvalue : kTable.findIdx? (· == ch) with
      | none => exact ih h hbits
      | some value =>
        have hnext : (shiftIn accumulator value).toNat = (wide * 64 + value) % 2 ^ 32 := by
          rw [shiftIn_toNat accumulator (value_lt hvalue), h]
          omega
        dsimp only
        split_ifs with hout
        · have hbyte := toUInt8_shiftRight hnext (k := bits + 6 - 8) (by omega)
          exact congrArg₂ List.cons hbyte (ih hnext (by omega))
        · exact ih hnext (by omega)

/-- Every text is decoded from its own encoding, whatever else is put in between, and no
byte that is put out ever depends on the bits the accumulator has lost. -/
theorem base64_round_trip (bs : ByteString) :
    base64Decode (base64Encode bs) = bs ∧
      (∀ text, Inserted (base64Encode bs) text → base64Decode text = bs) ∧
      ∀ text, base64Decode text = base64DecodeWide text 0 0 := by
  have hround : base64Decode (base64Encode bs) = bs := by
    rw [base64Encode_eq, base64Decode_encode]
  refine ⟨hround, ?_, ?_⟩
  · intro text h
    rw [base64Decode, base64DecodeLoop_inserted h]
    exact hround
  · intro text
    exact base64DecodeLoop_eq_wide text rfl (by norm_num)

/-- Line breaks do not matter. -/
example : base64Decode (ascii "QUJD\r\nRA==\n") = ascii "ABCD" := by decide +kernel

end CCMeeting
