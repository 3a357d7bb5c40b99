import CCMeeting.Lib.JsonText
import CCMeeting.Protocol.Codec

/-! # A platform to run the model on

An instance of `Platform` for concrete runs: the reader and the writer of
`Lib/JsonText.lean`, which refuse documents that are not UTF-8.
-/

namespace CCMeeting

open ByteString

/-- Whole doubles as `nlohmann::json` writes them below `10 ^ 15`. -/
def writeWhole (d : Double) : ByteString :=
  JsonText.writeInt (d.num / 2 ^ d.scale) ++ ascii ".0"

theorem write_ne_nil (document : Json) : JsonText.write writeWhole document ≠ [] := by
  have hdecimal : ∀ n, JsonText.decimal n ≠ [] := by
    intro n
    obtain ⟨b, rest, hb, _⟩ := JsonText.decimal_head n
    rw [hb]
    exact List.cons_ne_nil b rest
  cases document with
  | null => decide
  | boolean b => cases b <;> decide
  | number n =>
    cases n with
    | integer i => cases i <;> simp [JsonText.write, JsonText.writeInt, hdecimal]
    | float d =>
      have hsuffix : ascii ".0" ≠ [] := by decide
      simp [JsonText.write, writeWhole, hsuffix]
  | string s => simp [JsonText.write, JsonText.writeString]
  | array xs => simp [JsonText.write]
  | object ms => simp [JsonText.write]

/-- The platform of concrete runs. -/
def reference : Platform where
  parse text := (JsonText.read text).filter Json.utf8
  dump document := if document.utf8 then some (JsonText.write writeWhole document) else none
  u64OfDouble d := UInt64.ofNat (d.num.toNat / 2 ^ d.scale)
  parse_utf8 h := (Option.filter_eq_some_iff.mp h).2
  dump_isSome document := by cases h : document.utf8 <;> simp
  dump_ne_nil {document text} h := by
    split_ifs at h
    cases h
    exact write_ne_nil document
  u64OfDouble_eq _ _ := rfl

end CCMeeting
