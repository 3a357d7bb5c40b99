import CCMeeting.Protocol.Codec

/-! # What the client uses from Qt

Qt is not part of the repository; what the client's codec uses of it is the
structure `Qt`. A `QString` is a text here, the one `toUtf8` gives for it.
`Interop` says that the two JSON libraries read what the other one writes.
-/

namespace CCMeeting

open ByteString

/-- `QString`, `QByteArray` and `QJsonDocument`, as far as the codec uses them. -/
structure Qt where
  /-- `QString::fromUtf8`, then `toUtf8` -/
  utf8 : ByteString → ByteString
  /-- `QString::fromLatin1` -/
  fromLatin1 : ByteString → ByteString
  /-- `QString::toLatin1` -/
  toLatin1 : ByteString → ByteString
  /-- `QByteArray::toBase64` -/
  toBase64 : ByteString → ByteString
  /-- `QByteArray::fromBase64` -/
  fromBase64 : ByteString → ByteString
  /-- `QJsonDocument::toJson(Compact)` -/
  toJson : Json → ByteString
  /-- `QJsonDocument::fromJson`; none on a parse error -/
  fromJson : ByteString → Option Json
  /-- `static_cast<qint64>` of a double -/
  i64OfDouble : Double → Int64
  /-- what a `QString` holds comes out as UTF-8, whatever went in -/
  utf8_valid : ∀ text, Utf8.Valid (utf8 text)
  /-- UTF-8 goes through a `QString` as it is; a byte order mark in front is
  not kept -/
  utf8_eq : ∀ {text}, Utf8.Plain text → utf8 text = text
  fromLatin1_eq : ∀ {text : ByteString}, (∀ b ∈ text, b ≤ 0x7F) → fromLatin1 text = text
  toLatin1_eq : ∀ {text : ByteString}, (∀ b ∈ text, b ≤ 0x7F) → toLatin1 text = text
  toBase64_eq : ∀ bytes, toBase64 bytes = Base64.encode bytes
  fromBase64_encode : ∀ bytes, fromBase64 (Base64.encode bytes) = bytes
  /-- the compact form has no blanks -/
  toJson_size : ∀ {fields}, Json.PlainFields fields → toJson (Json.flat fields) ≠ [] ∧
    (toJson (Json.flat fields)).length ≤ Json.flatSize fields
  i64OfDouble_eq : ∀ {d : Double} {n : ℕ}, d.Is n → n < 2 ^ 63 → i64OfDouble d = Int64.ofNat n

/-- Both libraries implement JSON: a flat document one of them writes is read
by the other with the same members. -/
structure Interop (platform : Platform) (qt : Qt) : Prop where
  up : ∀ {fields}, Json.PlainFields fields →
    ∃ ms, platform.parse (qt.toJson (Json.flat fields)) = some (.object ms) ∧
      Json.ReadFields fields ms
  down : ∀ {fields text}, Json.PlainFields fields → platform.dump (Json.flat fields) = some text →
    ∃ ms, qt.fromJson text = some (.object ms) ∧ Json.ReadFields fields ms

/-- `QJsonValue::toString`: empty when there is no such member or it is no
string. -/
def jsonText : Option Json → ByteString
  | some (.string s) => s
  | _ => []

/-- `QJsonValue::toDouble`: zero when there is no such member or it is no
number. -/
def jsonDouble : Option Json → Double
  | some (.number n) => n.toDouble
  | _ => .ofInt 0

end CCMeeting
