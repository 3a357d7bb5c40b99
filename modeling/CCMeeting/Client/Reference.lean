import CCMeeting.Client.Qt
import CCMeeting.Protocol.Encoding
import CCMeeting.Protocol.Reference

/-! # A Qt to run the client's codec on

An instance of `Qt`, with the texts of `Lib/JsonText.lean`: whole numbers are
written without a fraction. It and the platform of `Protocol/Reference.lean`
read each other's documents.
-/

namespace CCMeeting

open ByteString JsonText

/-- U+FFFD, what `QString::fromUtf8` puts for a byte it cannot read. -/
def replacement : ByteString := [0xEF, 0xBF, 0xBD]

/-- `QString::fromUtf8` and back: a mark in front is dropped, and in a text
that is not well formed every byte past ASCII is replaced. -/
def throughQString (text : ByteString) : ByteString :=
  let text := if Utf8.mark.isPrefixOf text then text.drop 3 else text
  if Utf8.Valid text then text else text.flatMap fun b => if b ≤ 0x7F then [b] else replacement

/-- Two bytes for a Latin-1 character past ASCII. -/
def latin1 (b : UInt8) : ByteString :=
  if b ≤ 0x7F then [b] else [(0xC0 : UInt8) ||| (b >>> 6), (0x80 : UInt8) ||| (b &&& 0x3F)]

/-- A character past Latin-1 becomes a question mark; bytes stand for them. -/
def toLatin1 (text : ByteString) : ByteString := text.map fun b => if b ≤ 0x7F then b else 63

theorem flatMap_latin1 {text : ByteString} (h : ∀ b ∈ text, b ≤ 0x7F) :
    text.flatMap latin1 = text := by
  induction text with
  | nil => rfl
  | cons b text ih =>
    have hb : b ≤ 0x7F := h b (List.mem_cons_self ..)
    rw [List.flatMap_cons, latin1, if_pos hb, ih fun x hx => h x (List.mem_cons_of_mem _ hx)]
    rfl

theorem toLatin1_eq {text : ByteString} (h : ∀ b ∈ text, b ≤ 0x7F) : toLatin1 text = text := by
  refine (List.map_congr_left fun b hb => if_pos (h b hb)).trans ?_
  exact List.map_id text

theorem throughQString_valid (text : ByteString) : Utf8.Valid (throughQString text) := by
  have hlossy : ∀ text : ByteString,
      Utf8.Valid (text.flatMap fun b => if b ≤ 0x7F then [b] else replacement) := by
    intro text
    induction text with
    | nil => rfl
    | cons b text ih =>
      rw [List.flatMap_cons]
      refine Utf8.Valid.append ?_ ih
      split_ifs with hb
      · exact Utf8.valid_of_ascii (by simpa using hb)
      · decide
  unfold throughQString
  dsimp only
  split_ifs with hmark hvalid hvalid
  · exact hvalid
  · exact hlossy _
  · exact hvalid
  · exact hlossy _

theorem throughQString_eq {text : ByteString} (h : Utf8.Plain text) :
    throughQString text = text := by
  simp only [throughQString, if_neg h.2, if_pos h.1]

/-- Whole doubles as `QJsonDocument` writes them. -/
def writeCompact (d : Double) : ByteString := writeInt (d.num / 2 ^ d.scale)

theorem writeCompact_ofInt (n : ℕ) : writeCompact (.ofInt n) = decimal n := by
  have hquot : (n : ℤ) / 2 ^ 0 = n := by norm_num
  show writeInt ((n : ℤ) / 2 ^ 0) = _
  rw [hquot]
  rfl

theorem writeWhole_ofInt (n : ℕ) : writeWhole (.ofInt n) = decimal n ++ [46, 48] := by
  have hquot : (n : ℤ) / 2 ^ 0 = n := by norm_num
  have hsuffix : ascii ".0" = [46, 48] := by decide
  show writeInt ((n : ℤ) / 2 ^ 0) ++ _ = _
  rw [hquot, hsuffix]
  rfl

theorem floor_eq {d : Double} {n : ℕ} (h : d.Is n) : d.num / 2 ^ d.scale = n := by
  unfold Double.Is at h
  rw [h]
  exact Int.mul_ediv_cancel _ (by positivity)

/-- The compact form of a flat document fits its bound. -/
theorem writeCompact_size {fields : List (ByteString × Json.Scalar)}
    (hplain : Json.PlainFields fields) : write writeCompact (Json.flat fields) ≠ [] ∧
      (write writeCompact (Json.flat fields)).length ≤ Json.flatSize fields := by
  constructor
  · rw [Json.flat, write]
    exact List.cons_ne_nil _ _
  · refine length_write_flat (fun n hn => ?_) hplain
    have hlength := length_decimal hn
    rw [writeCompact_ofInt]
    omega

/-- What is read of a compact document. -/
theorem read_writeCompact (fields : List (ByteString × Json.Scalar)) :
    read (write writeCompact (Json.flat fields)) =
      some (.object (fields.map fun f => (f.1, readBack (fun n => .integer n) f.2.json))) := by
  refine read_write_flat (g := fun n => .integer n) fun n rest hrest => ?_
  rw [writeCompact_ofInt]
  exact readScalar_decimal_of_follows hrest

/-- The cast of a double to `qint64`, which drops the fraction. -/
def toInt64 (d : Double) : Int64 := Int64.ofInt (d.num / 2 ^ d.scale)

theorem toInt64_eq {d : Double} {n : ℕ} (h : d.Is n) : toInt64 d = Int64.ofNat n := by
  rw [toInt64, floor_eq h]
  rfl

/-- The Qt of concrete runs. -/
def referenceQt : Qt where
  utf8 := throughQString
  fromLatin1 text := text.flatMap latin1
  toLatin1 := toLatin1
  toBase64 := Base64.encode
  fromBase64 := base64Decode
  toJson := write writeCompact
  fromJson := read
  i64OfDouble := toInt64
  utf8_valid := throughQString_valid
  utf8_eq := throughQString_eq
  fromLatin1_eq := flatMap_latin1
  toLatin1_eq := toLatin1_eq
  toBase64_eq _ := rfl
  fromBase64_encode := base64Decode_encode
  toJson_size := writeCompact_size
  i64OfDouble_eq h _ := toInt64_eq h

/-- The two libraries of concrete runs read each other's documents. -/
theorem reference_interop : Interop reference referenceQt where
  up {fields} hplain := by
    -- the keys and texts are plain, so what is written is valid UTF-8 throughout
    have hutf8 : (Json.object (fields.map fun f =>
        (f.1, readBack (fun n => .integer n) f.2.json))).utf8 = true := by
      rw [Json.utf8, Json.utf8Members_iff]
      intro m hm
      rcases List.mem_map.mp hm with ⟨⟨k, v⟩, hf, rfl⟩
      rcases hplain.2 _ hf with ⟨hk, hv⟩
      refine ⟨hk, ?_⟩
      cases v with
      | text s =>
        have hs : Utf8.Valid s := hv
        simpa [Json.Scalar.json, readBack, Json.utf8] using hs
      | whole n => rfl
    refine ⟨_, ?_, readFields_readBack (g := fun n => .integer n) hplain fun n hn => ?_⟩
    · show (read (write writeCompact (Json.flat fields))).filter Json.utf8 = _
      rw [read_writeCompact, Option.filter_some, if_pos hutf8]
    · show (Double.roundInt (n : ℤ)).Is n
      show (Double.ofInt (Double.roundNat n)).Is n
      rw [hn]
      exact Double.is_ofInt n
  down {fields text} hplain hdump := by
    have htext : text = write writeWhole (Json.flat fields) := by
      change (if _ then some (write writeWhole (Json.flat fields)) else none) = some text at hdump
      split_ifs at hdump
      exact (Option.some.inj hdump).symm
    have hread : read (write writeWhole (Json.flat fields)) = some _ :=
      read_write_flat (g := fun n => .float (.ofInt n)) fun n rest _ => by
        rw [writeWhole_ofInt, List.append_assoc]
        exact readScalar_decimal_whole
    refine ⟨_, ?_, readFields_readBack (g := fun n => .float (.ofInt n)) hplain
      fun n _ => Double.is_ofInt n⟩
    show read text = _
    rw [htext, hread]

end CCMeeting
