import CCMeeting.Lib.Base64
import CCMeeting.Lib.Json
import CCMeeting.Protocol.Packet

/-! # The server's codec

`protocol::Codec`: a frame is one JSON document `{"t", "u", "s" | "p"}`, and a
connection hands it over with a four-byte length in front. `nlohmann::json` is
not part of the repository; what the codec uses of it is the structure
`Platform`, whose fields state the documented behaviour the code relies on.
-/

namespace CCMeeting

open ByteString

/-- The exceptions of `nlohmann::json` the codec can meet. -/
inductive JsonException where
  /-- `type_error.302`: the member has another type than the one asked for. -/
  | typeError302
  /-- `type_error.306`: `value()` on a document that is not an object. -/
  | typeError306
  /-- `type_error.316`: `dump()` of a string that is not UTF-8. -/
  | typeError316
deriving DecidableEq, Repr

/-! ## What the codec uses from outside the repository -/

/-- `json::parse` (none where it throws), `json::dump` (none where it throws)
and the conversion of a double to `uint64_t`, whose result outside the range
of the type the standard leaves open. -/
structure Platform where
  parse : ByteString → Option Json
  dump : Json → Option ByteString
  u64OfDouble : Double → UInt64
  /-- the lexer rejects strings that are not UTF-8 -/
  parse_utf8 : ∀ {text : ByteString} {document : Json},
    parse text = some document → document.utf8 = true
  /-- the strict error handler throws exactly on strings that are not UTF-8 -/
  dump_isSome : ∀ document : Json, (dump document).isSome = document.utf8
  /-- no document has an empty text -/
  dump_ne_nil : ∀ {document : Json} {text : ByteString}, dump document = some text → text ≠ []
  /-- inside the range the conversion drops the fraction -/
  u64OfDouble_eq : ∀ d : Double, d.InU64Range →
    u64OfDouble d = UInt64.ofNat (d.num.toNat / 2 ^ d.scale)

/-- `document.value(key, fallback)` for a string. -/
def valueString (document : Json) (key fallback : ByteString) : Except JsonException ByteString :=
  match document with
  | .object ms =>
    match ms.lookup key with
    | none => .ok fallback
    | some (.string s) => .ok s
    | some _ => .error .typeError302
  | _ => .error .typeError306

/-- `document.value(key, fallback)` for a double. -/
def valueDouble (document : Json) (key : ByteString) (fallback : Double) :
    Except JsonException Double :=
  match document with
  | .object ms =>
    match ms.lookup key with
    | none => .ok fallback
    | some (.number n) => .ok n.toDouble
    | some _ => .error .typeError302
  | _ => .error .typeError306

/-- `document.contains(key)`. -/
def contains (document : Json) (key : ByteString) : Bool :=
  match document with
  | .object ms => (ms.lookup key).isSome
  | _ => false

/-! ## Base64 -/

/-- `kTable`. -/
def kTable : ByteString :=
  ascii "ABCDEFGHIJKLMNOPQRSTUVWXYZabcdefghijklmnopqrstuvwxyz0123456789+/"

/-- `kTable[bits & 0x3F]`. -/
def kTableAt (bits : UInt32) : UInt8 := kTable.getD (bits &&& 0x3F).toNat 0

/-- `triple`: three bytes in one word. -/
def tripleBits (a b c : UInt8) : UInt32 :=
  (a.toUInt32 <<< 16) ||| (b.toUInt32 <<< 8) ||| c.toUInt32

/-- `base64_encode`: whole triples first, then the padded tail. -/
def base64Encode : ByteString → ByteString
  | [] => []
  | [a] =>
    let triple := tripleBits a 0 0
    [kTableAt (triple >>> 18), kTableAt (triple >>> 12), 61, 61]
  | [a, b] =>
    let triple := tripleBits a b 0
    [kTableAt (triple >>> 18), kTableAt (triple >>> 12), kTableAt (triple >>> 6), 61]
  | a :: b :: c :: rest =>
    let triple := tripleBits a b c
    kTableAt (triple >>> 18) :: kTableAt (triple >>> 12) :: kTableAt (triple >>> 6) ::
      kTableAt triple :: base64Encode rest

/-- The loop of `base64_decode`; characters outside the table are skipped. -/
def base64DecodeLoop : ByteString → UInt32 → ℕ → ByteString
  | [], _, _ => []
  | ch :: rest, accumulator, bits =>
    if ch = 61 then []
    else
      match kTable.findIdx? (· == ch) with
      | none => base64DecodeLoop rest accumulator bits
      | some value =>
        let accumulator := (accumulator <<< 6) ||| UInt32.ofNat value
        let bits := bits + 6
        if 8 ≤ bits then
          (accumulator >>> UInt32.ofNat (bits - 8)).toUInt8 ::
            base64DecodeLoop rest accumulator (bits - 8)
        else base64DecodeLoop rest accumulator bits

/-- `base64_decode`. -/
def base64Decode (text : ByteString) : ByteString := base64DecodeLoop text 0 0

/-! ## `Codec::try_decode` -/

/-- `Codec::kLengthPrefixSize`. -/
def kLengthPrefixSize : ℕ := 4

/-- `DecodeStatus`, with the packet of `Ok` and what is left in the buffer
once the frame is consumed. -/
inductive Decoded where
  | needMore
  | ok (packet : Packet) (rest : ByteString)
  | invalid (rest : ByteString)
deriving DecidableEq, Repr

/-- The payload of a frame: the text of `s`, else the bytes of `p`. -/
def decodePayload (document : Json) : Except JsonException ByteString :=
  if contains document (ascii "s") then valueString document (ascii "s") []
  else if contains document (ascii "p") then do
    let text ← valueString document (ascii "p") []
    pure (base64Decode text)
  else .ok []

/-- `try_decode` after `json::parse`. Only the parse is inside the `try`. -/
def decodeDocument (platform : Platform) (document : Json) (rest : ByteString) :
    Except JsonException Decoded := do
  let typeText ← valueString document (ascii "t") (ascii "unknown")
  match MessageType.typeFromName typeText with
  | none => pure (.invalid rest)
  | some type =>
    let u ← valueDouble document (ascii "u") (.ofInt 0)
    let payload ← decodePayload document
    pure (.ok { type, userId := platform.u64OfDouble u, payload } rest)

/-- `Codec::try_decode` on the readable bytes of the buffer. -/
def tryDecode (platform : Platform) (buffer : ByteString) : Except JsonException Decoded :=
  if buffer.length < kLengthPrefixSize then .ok .needMore
  else
    let jsonSize := (readBe32 buffer).toNat
    if jsonSize = 0 then .ok (.invalid buffer)
    else if buffer.length < kLengthPrefixSize + jsonSize then .ok .needMore
    else
      let rest := buffer.drop (kLengthPrefixSize + jsonSize)
      match platform.parse ((buffer.drop kLengthPrefixSize).take jsonSize) with
      | none => .ok (.invalid rest)
      | some document => decodeDocument platform document rest

/-! ## `Codec::encode` -/

/-- The document `encode` builds, in the key order of its map. -/
def encodeDocument (packet : Packet) : Json :=
  let body :=
    if packet.type.isTextType then [(ascii "s", Json.string packet.payload)]
    else if packet.payload = [] then []
    else [(ascii "p", Json.string (base64Encode packet.payload))]
  .object (body ++ [(ascii "t", .string packet.type.typeName),
    (ascii "u", .number (.float (.roundInt packet.userId.toNat)))])

/-- `Codec::encode`: the text of the document, or the exception of `dump`. -/
def encode (platform : Platform) (packet : Packet) : Except JsonException ByteString :=
  match platform.dump (encodeDocument packet) with
  | some text => .ok text
  | none => .error .typeError316

end CCMeeting
