import CCMeeting.Protocol.Codec

/-! # What the server's codec can encode

The base64 of the server is the one of RFC 4648, and `Codec::encode` raises on
a text message that is not UTF-8 and on nothing else.
-/

namespace CCMeeting

open ByteString

/-! ## Base64 -/

theorem kTable_eq : kTable = Base64.alphabet := rfl

/-- The three bytes do not overlap in the word. -/
theorem tripleBits_toNat (a b c : UInt8) : (tripleBits a b c).toNat = Base64.triple a b c := by
  have ha := a.toNat_lt
  have hb := b.toNat_lt
  have hc : c.toNat < 2 ^ 8 := c.toNat_lt
  have hbc : b.toNat <<< 8 + c.toNat < 2 ^ 16 := by
    rw [Nat.shiftLeft_eq]
    omega
  have ha' : a.toNat <<< 16 % 4294967296 = a.toNat <<< 16 := by
    rw [Nat.shiftLeft_eq]
    omega
  have hb' : b.toNat <<< 8 % 4294967296 = b.toNat <<< 8 := by
    rw [Nat.shiftLeft_eq]
    omega
  have hbits : (tripleBits a b c).toNat = a.toNat <<< 16 ||| (b.toNat <<< 8 ||| c.toNat) := by
    simp [tripleBits, ha', hb', Nat.or_assoc]
  rw [hbits, ← Nat.shiftLeft_add_eq_or_of_lt hc, ← Nat.shiftLeft_add_eq_or_of_lt hbc,
    Nat.shiftLeft_eq, Nat.shiftLeft_eq]
  unfold Base64.triple
  omega

theorem kTableAt_eq (w : UInt32) : kTableAt w = Base64.symbol (w.toNat % 64) := by
  have hmask : (w &&& 0x3F).toNat = w.toNat % 64 := by
    rw [UInt32.toNat_and]
    exact Nat.and_two_pow_sub_one_eq_mod w.toNat 6
  have hlen : Base64.alphabet.length = 64 := by decide +kernel
  have hlt : w.toNat % 64 < Base64.alphabet.length := by omega
  rw [kTableAt, hmask, kTable_eq, Base64.symbol]
  simp [List.getD, List.getElem?_eq_getElem hlt]

/-- The symbol at a position of the word. -/
theorem kTableAt_shift (a b c : UInt8) (k : UInt32) :
    kTableAt (tripleBits a b c >>> k) =
      Base64.symbol (Base64.triple a b c / 2 ^ (k.toNat % 32) % 64) := by
  rw [kTableAt_eq, UInt32.toNat_shiftRight, tripleBits_toNat, Nat.shiftRight_eq_div_pow]

/-- `base64_encode` is the encoding of RFC 4648. -/
theorem base64Encode_eq (bs : ByteString) : base64Encode bs = Base64.encode bs := by
  have htop : ∀ a b c,
      kTableAt (tripleBits a b c >>> 18) = Base64.symbol (Base64.triple a b c / 262144) := by
    intro a b c
    have hlt := Base64.triple_lt a b c
    have hsmall : Base64.triple a b c / 2 ^ 18 % 64 = Base64.triple a b c / 262144 := by omega
    exact (kTableAt_shift a b c 18).trans (congrArg Base64.symbol hsmall)
  have hsecond : ∀ a b c,
      kTableAt (tripleBits a b c >>> 12) = Base64.symbol (Base64.triple a b c / 4096 % 64) :=
    fun a b c => kTableAt_shift a b c 12
  have hthird : ∀ a b c,
      kTableAt (tripleBits a b c >>> 6) = Base64.symbol (Base64.triple a b c / 64 % 64) :=
    fun a b c => kTableAt_shift a b c 6
  have hlast : ∀ a b c,
      kTableAt (tripleBits a b c) = Base64.symbol (Base64.triple a b c % 64) := by
    intro a b c
    rw [kTableAt_eq, tripleBits_toNat]
  induction bs using base64Encode.induct with
  | case1 => rfl
  | case2 a => simp [base64Encode, Base64.encode, htop, hsecond, Base64.pad]
  | case3 a b => simp [base64Encode, Base64.encode, htop, hsecond, hthird, Base64.pad]
  | case4 a b c rest ih =>
    simp [base64Encode, Base64.encode, htop, hsecond, hthird, hlast, ih]

/-- The accumulator after six more bits. -/
def shiftIn (accumulator : UInt32) (v : ℕ) : UInt32 := (accumulator <<< 6) ||| UInt32.ofNat v

theorem shiftIn_toNat (accumulator : UInt32) {v : ℕ} (hv : v < 64) :
    (shiftIn accumulator v).toNat = (accumulator.toNat * 64 + v) % 4294967296 := by
  have hv32 : (UInt32.ofNat v).toNat = v := by
    rw [UInt32.toNat_ofNat']
    omega
  have hshift : (accumulator <<< 6).toNat = (accumulator.toNat % 67108864) <<< 6 := by
    have hsix : (6 : UInt32).toNat % 32 = 6 := rfl
    rw [UInt32.toNat_shiftLeft, hsix, Nat.shiftLeft_eq, Nat.shiftLeft_eq]
    omega
  have hv6 : v < 2 ^ 6 := hv
  rw [shiftIn, UInt32.toNat_or, hv32, hshift, ← Nat.shiftLeft_add_eq_or_of_lt hv6,
    Nat.shiftLeft_eq]
  omega

/-- The first symbol of a group puts nothing out. -/
theorem base64DecodeLoop_first {v : ℕ} (hv : v < 64) (rest : ByteString)
    (accumulator : UInt32) :
    base64DecodeLoop (Base64.symbol v :: rest) accumulator 0 =
      base64DecodeLoop rest (shiftIn accumulator v) 6 := by
  have hne : Base64.symbol v ≠ 61 := Base64.symbol_ne_pad hv
  have hvalue : kTable.findIdx? (· == Base64.symbol v) = some v := Base64.value_symbol hv
  rw [base64DecodeLoop, if_neg hne, hvalue]
  rfl

/-- Every further symbol puts out one byte. -/
theorem base64DecodeLoop_next {v k : ℕ} {b : UInt8} (hv : v < 64) (rest : ByteString)
    (accumulator : UInt32) (hk : k = 0 ∨ k = 2 ∨ k = 4)
    (hb : (accumulator.toNat * 64 + v) / 2 ^ k % 256 = b.toNat) :
    base64DecodeLoop (Base64.symbol v :: rest) accumulator (k + 2) =
      b :: base64DecodeLoop rest (shiftIn accumulator v) k := by
  have hne : Base64.symbol v ≠ 61 := Base64.symbol_ne_pad hv
  have hvalue : kTable.findIdx? (· == Base64.symbol v) = some v := Base64.value_symbol hv
  have hout : (shiftIn accumulator v >>> UInt32.ofNat k).toUInt8 = b := by
    have hsmall : (UInt32.ofNat k).toNat % 32 = k := by
      rw [UInt32.toNat_ofNat']
      omega
    apply UInt8.toNat_inj.mp
    rw [UInt32.toNat_toUInt8, UInt32.toNat_shiftRight, hsmall, Nat.shiftRight_eq_div_pow,
      shiftIn_toNat accumulator hv, ← hb]
    rcases hk with rfl | rfl | rfl <;> omega
  have hge : 8 ≤ k + 2 + 6 := by omega
  have hsub : k + 2 + 6 - 8 = k := by omega
  rw [base64DecodeLoop, if_neg hne, hvalue]
  dsimp only
  rw [if_pos hge, hsub]
  exact congrArg (· :: _) hout

/-- Whatever the accumulator held before, the encoding of a byte string
decodes to it. -/
theorem base64DecodeLoop_encode (bs : ByteString) (accumulator : UInt32) :
    base64DecodeLoop (Base64.encode bs) accumulator 0 = bs := by
  have hhigh : ∀ a b c, Base64.triple a b c / 262144 < 64 := by
    intro a b c
    have := Base64.triple_lt a b c
    omega
  have hmod : ∀ n, n % 64 < 64 := fun n => Nat.mod_lt _ (by norm_num)
  -- three bytes at a time as `encode` goes; the last group may be one or two bytes with padding
  induction bs using Base64.encode.induct generalizing accumulator with
  | case1 => rfl
  | case2 a =>
    have ha := a.toNat_lt
    have h1 := shiftIn_toNat accumulator (hhigh a 0 0)
    rw [Base64.encode, base64DecodeLoop_first (hhigh a 0 0),
      base64DecodeLoop_next (b := a) (k := 4) (hmod _) _ _ (by omega)]
    · simp [base64DecodeLoop, Base64.pad]
    · simp only [Base64.triple, UInt8.toNat_ofNat] at h1 ⊢
      omega
  | case3 a b =>
    have ha := a.toNat_lt
    have hb := b.toNat_lt
    have h1 := shiftIn_toNat accumulator (hhigh a b 0)
    have h2 := shiftIn_toNat (shiftIn accumulator (Base64.triple a b 0 / 262144))
      (hmod (Base64.triple a b 0 / 4096))
    rw [Base64.encode, base64DecodeLoop_first (hhigh a b 0),
      base64DecodeLoop_next (b := a) (k := 4) (hmod _) _ _ (by omega),
      base64DecodeLoop_next (b := b) (k := 2) (hmod _) _ _ (by omega)]
    · simp [base64DecodeLoop, Base64.pad]
    all_goals
      simp only [Base64.triple, UInt8.toNat_ofNat] at h1 h2 ⊢
      omega
  | case4 a b c rest ih =>
    have ha := a.toNat_lt
    have hb := b.toNat_lt
    have hc := c.toNat_lt
    have h1 := shiftIn_toNat accumulator (hhigh a b c)
    have h2 := shiftIn_toNat (shiftIn accumulator (Base64.triple a b c / 262144))
      (hmod (Base64.triple a b c / 4096))
    have h3 := shiftIn_toNat (shiftIn (shiftIn accumulator (Base64.triple a b c / 262144))
      (Base64.triple a b c / 4096 % 64)) (hmod (Base64.triple a b c / 64))
    rw [Base64.encode, base64DecodeLoop_first (hhigh a b c),
      base64DecodeLoop_next (b := a) (k := 4) (hmod _) _ _ (by omega),
      base64DecodeLoop_next (b := b) (k := 2) (hmod _) _ _ (by omega),
      base64DecodeLoop_next (b := c) (k := 0) (hmod _) _ _ (by omega), ih]
    all_goals
      simp only [Base64.triple] at h1 h2 h3 ⊢
      omega

/-- `base64_decode` reads back what RFC 4648 encoders write. -/
@[simp] theorem base64Decode_encode (bs : ByteString) :
    base64Decode (Base64.encode bs) = bs :=
  base64DecodeLoop_encode bs 0

/-! ## What can be encoded -/

theorem typeName_valid (type : MessageType) : Utf8.Valid type.typeName := by
  cases type <;> decide

/-- The document of a packet is UTF-8 unless a text is not. -/
theorem encodeDocument_utf8 (packet : Packet) :
    (encodeDocument packet).utf8 = true ↔
      (packet.type.isTextType = true → Utf8.Valid packet.payload) := by
  have htype := typeName_valid packet.type
  have hbase : Utf8.Valid (base64Encode packet.payload) := by
    rw [base64Encode_eq]
    exact Utf8.valid_of_ascii (Base64.encode_ascii packet.payload)
  have hkeys : Utf8.Valid (ascii "t") ∧ Utf8.Valid (ascii "u") ∧ Utf8.Valid (ascii "s") ∧
      Utf8.Valid (ascii "p") := by decide
  obtain ⟨ht, hu, hs, hp⟩ := hkeys
  unfold encodeDocument
  dsimp only
  by_cases htext : packet.type.isTextType = true
  · simp [htext, Json.utf8, Json.utf8Members, htype, ht, hu, hs]
  · by_cases hempty : packet.payload = []
    · simp [htext, hempty, Json.utf8, Json.utf8Members, htype, ht, hu]
    · simp [htext, hempty, Json.utf8, Json.utf8Members, htype, ht, hu, hp, hbase]

/-- `Codec::encode` raises on a text message that is not UTF-8, and on no
other packet. -/
theorem encode_isOk_iff (platform : Platform) (packet : Packet) :
    (∃ text, encode platform packet = .ok text) ↔
      (packet.type.isTextType = true → Utf8.Valid packet.payload) := by
  rw [← encodeDocument_utf8, ← platform.dump_isSome]
  unfold encode
  cases platform.dump (encodeDocument packet) <;> simp

/-- The text of a packet is never empty, so `send` always queues it. -/
theorem encode_ne_nil {platform : Platform} {packet : Packet} {text : ByteString}
    (h : encode platform packet = .ok text) : text ≠ [] := by
  unfold encode at h
  split at h
  · rename_i dumped hd
    cases h
    exact platform.dump_ne_nil hd
  · cases h

end CCMeeting
