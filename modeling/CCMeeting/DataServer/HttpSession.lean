import CCMeeting.DataServer.AuthService

/-! # HTTP sessions

`HttpSession::handle_request`: the endpoints, the parsers and writers of their
JSON bodies, and what leaves the handler when a call in it throws. The service
catches what its own calls throw; the static files and the writers are on their
own.
-/

namespace CCMeeting

open ByteString Transition

/-! ## Bodies -/

/-- A member of a document, if that is an object. -/
def member (root : Json) (key : ByteString) : Option Json :=
  match root with
  | .object ms => ms.lookup key
  | _ => none

/-- `is_string`, with the string. -/
def asString : Json → Option ByteString
  | .string s => some s
  | _ => none

/-- `is_number_integer`, with `get<std::uint64_t>`. -/
def asInteger : Json → Option UInt64
  | .number (.integer i) => some (UInt64.ofInt i)
  | _ => none

/-- `optional_string`. -/
def optionalString (root : Json) (key : ByteString) : ByteString :=
  ((member root key).bind asString).getD []

/-- `parse_login_request`. -/
def parseLoginRequest (platform : Platform) (body : ByteString) :
    Option (ByteString × ByteString) := do
  let root ← platform.parse body
  let username ← (member root (ascii "username")).bind asString
  let password ← (member root (ascii "password")).bind asString
  if username = [] then none else some (username, password)

/-- `parse_upload_avatar_request`. -/
def parseUploadAvatarRequest (platform : Platform) (body : ByteString) :
    Option (UInt64 × ByteString × ByteString) := do
  let root ← platform.parse body
  let userId ← (member root (ascii "user_id")).bind asInteger
  let mime ← (member root (ascii "mime")).bind asString
  let dataBase64 ← (member root (ascii "data_base64")).bind asString
  if userId = 0 ∨ mime = [] ∨ dataBase64 = [] then none else some (userId, mime, dataBase64)

/-- `parse_update_profile_request`. -/
def parseUpdateProfileRequest (platform : Platform) (body : ByteString) :
    Option (UInt64 × Profile ByteString) := do
  let root ← platform.parse body
  let nickname ← (member root (ascii "nickname")).bind asString
  let userId ← (member root (ascii "user_id")).bind asInteger
  if userId = 0 then none
  else
    some (userId,
      { nickname
        info := optionalString root (ascii "info")
        gender := optionalString root (ascii "gender")
        birthday := optionalString root (ascii "birthday")
        address := optionalString root (ascii "address")
        phone := optionalString root (ascii "phone")
        email := optionalString root (ascii "email")
        extraJson := optionalString root (ascii "extra_json") })

/-- A reply in JSON: the code, the data of a success and the message, in the key
order of the map. -/
def replyJson (code : ℕ) (message : ByteString) (data : Option (List (ByteString × Json))) : Json :=
  .object ([(ascii "code", .number (.integer code))] ++
    (data.map fun ms => (ascii "data", Json.object ms)).toList ++
    [(ascii "message", .string message)])

/-- `fill_profile_fields`. -/
def fillProfileFields (user : UserInfo) : List (ByteString × Json) :=
  [(ascii "address", .string user.fields.address), (ascii "avatar", .string user.avatar),
    (ascii "birthday", .string user.fields.birthday), (ascii "email", .string user.fields.email),
    (ascii "extra_json", .string user.fields.extraJson),
    (ascii "gender", .string user.fields.gender),
    (ascii "id", .number (.integer user.id.toNat)), (ascii "info", .string user.fields.info),
    (ascii "name", .string user.fields.nickname), (ascii "phone", .string user.fields.phone),
    (ascii "username", .string user.username)]

/-- The document of `to_login_response_json`. -/
def loginResponseJson (result : LoginResult) : Json :=
  replyJson result.code result.message
    (if result.success then some (fillProfileFields result.user) else none)

/-- The document of `to_avatar_upload_response_json`. -/
def avatarUploadResponseJson (result : AvatarUploadResult) : Json :=
  replyJson result.code result.message
    (if result.success then some [(ascii "avatar", .string result.avatarUrl)] else none)

/-- The document of `to_profile_update_response_json`. -/
def profileUpdateResponseJson (result : ProfileUpdateResult) : Json :=
  replyJson result.code result.message
    (if result.success then
      some [(ascii "address", .string result.fields.address),
        (ascii "birthday", .string result.fields.birthday),
        (ascii "email", .string result.fields.email),
        (ascii "extra_json", .string result.fields.extraJson),
        (ascii "gender", .string result.fields.gender), (ascii "info", .string result.fields.info),
        (ascii "name", .string result.fields.nickname),
        (ascii "phone", .string result.fields.phone)]
    else none)

/-! ## Requests and responses -/

/-- The methods the handler tells apart. -/
inductive HttpMethod where
  | get
  | post
  | options
  | other
deriving DecidableEq, Repr

/-- `http::request<http::string_body>`. -/
structure HttpRequest where
  method : HttpMethod
  target : ByteString
  body : ByteString
  version : ℕ := 11
  keepAlive : Bool := true

/-- `http::response<http::string_body>`. -/
structure HttpResponse where
  status : ℕ
  version : ℕ
  keepAlive : Bool
  fields : List (ByteString × ByteString)
  body : ByteString

/-- `make_json_response`. -/
def makeJsonResponse (status : ℕ) (body : ByteString) (req : HttpRequest) : HttpResponse where
  status
  version := req.version
  keepAlive := req.keepAlive
  fields := [(ascii "Server", ascii "CloudMeetingAuthServer"),
    (ascii "Content-Type", ascii "application/json; charset=utf-8"),
    (ascii "Access-Control-Allow-Origin", ascii "*"),
    (ascii "Access-Control-Allow-Headers", ascii "Content-Type"),
    (ascii "Access-Control-Allow-Methods", ascii "GET, POST, OPTIONS")]
  body

/-- The response of `send_binary_response`. -/
def binaryResponse (file : StaticFileResponse) (req : HttpRequest) : HttpResponse where
  status := 200
  version := req.version
  keepAlive := req.keepAlive
  fields := [(ascii "Server", ascii "CloudMeetingAuthServer"),
    (ascii "Content-Type", file.contentType), (ascii "Cache-Control", file.cacheControl),
    (ascii "Access-Control-Allow-Origin", ascii "*")]
  body := file.body

/-- What a request meets: the file system and the ends of the statements. -/
structure Surroundings where
  fs : ℕ → FileSystem
  login : LoginOutcomes
  registerUser : RegisterOutcomes
  uploadAvatar : UploadOutcomes
  updateProfile : UpdateOutcomes

/-- What `handle_request` comes to: the responses it has initiated, the
exception that leaves it, and the database. -/
structure Handling where
  responses : List HttpResponse
  escaped : Option StdException
  database : Database

/-- `send_response`. -/
def sendResponse (response : HttpResponse) (d : Database) : Handling := ⟨[response], none, d⟩

/-- `send_response(make_json_response(status, root.dump(), ..))`. -/
def sendJson (platform : Platform) (status : ℕ) (root : Json) (req : HttpRequest) (d : Database) :
    Handling :=
  match platform.dump root with
  | some body => sendResponse (makeJsonResponse status body req) d
  | none => ⟨[], some (.json .typeError316), d⟩

/-! ## The handler -/

section Handler

variable (platform : Platform) (crypto : Crypto) (assets : AssetsConfig)

/-- The status of a reply to `/api/login`. -/
def loginStatus (result : LoginResult) : ℕ :=
  if result.success then 200
  else if result.code = 400 then 400
  else if result.code = 403 then 403
  else if result.code = 500 then 500
  else 401

/-- The status of a reply to `/api/register`. -/
def registerStatus (result : LoginResult) : ℕ :=
  if result.success then 200
  else if result.code = 409 then 409
  else if result.code = 500 then 500
  else 400

/-- The status of a reply to `/api/upload-avatar`. -/
def uploadStatus (result : AvatarUploadResult) : ℕ :=
  if result.success then 200
  else if result.code = 404 then 404
  else if result.code = 413 then 413
  else if result.code = 500 then 500
  else 400

/-- The status of a reply to `/api/update-profile`. -/
def updateStatus (result : ProfileUpdateResult) : ℕ :=
  if result.success then 200
  else if result.code = 404 then 404
  else if result.code = 500 then 500
  else 400

/-- POST `/api/login`; the address and the user agent only go into the log. -/
def handleLogin (s : Surroundings) (req : HttpRequest) (d : Database) : Handling :=
  match parseLoginRequest platform req.body with
  | none =>
    sendJson platform 400 (loginResponseJson { code := 400, message := ascii "invalid json body" })
      req d
  | some (username, password) =>
    let result := login crypto d s.login username password
    sendJson platform (loginStatus result) (loginResponseJson result) req d

/-- POST `/api/register`. -/
def handleRegister (s : Surroundings) (req : HttpRequest) (d : Database) : Handling :=
  match parseLoginRequest platform req.body with
  | none =>
    sendJson platform 400 (loginResponseJson { code := 400, message := ascii "invalid json body" })
      req d
  | some (username, password) =>
    let (result, d) := registerUser crypto assets d s.registerUser username password
    sendJson platform (registerStatus result) (loginResponseJson result) req d

/-- POST `/api/upload-avatar`. -/
def handleUploadAvatar (s : Surroundings) (req : HttpRequest) (d : Database) : Handling :=
  match parseUploadAvatarRequest platform req.body with
  | none =>
    sendJson platform 400
      (avatarUploadResponseJson { code := 400, message := ascii "invalid json body" }) req d
  | some (userId, mime, dataBase64) =>
    let (result, d) := uploadAvatar crypto assets d s.uploadAvatar userId mime dataBase64
    sendJson platform (uploadStatus result) (avatarUploadResponseJson result) req d

/-- POST `/api/update-profile`. -/
def handleUpdateProfile (s : Surroundings) (req : HttpRequest) (d : Database) : Handling :=
  match parseUpdateProfileRequest platform req.body with
  | none =>
    sendJson platform 400
      (profileUpdateResponseJson { code := 400, message := ascii "invalid json body" }) req d
  | some (userId, fields) =>
    let (result, d) := updateProfile d s.updateProfile userId fields
    sendJson platform (updateStatus result) (profileUpdateResponseJson result) req d

/-- The endpoints behind the static files, and what is no endpoint. -/
def handleEndpoint (s : Surroundings) (req : HttpRequest) (d : Database) : Handling :=
  if req.method = .post ∧ req.target = ascii "/api/login" then
    handleLogin platform crypto s req d
  else if req.method = .post ∧ req.target = ascii "/api/register" then
    handleRegister platform crypto assets s req d
  else if req.method = .post ∧ req.target = ascii "/api/upload-avatar" then
    handleUploadAvatar platform crypto assets s req d
  else if req.method = .post ∧ req.target = ascii "/api/update-profile" then
    handleUpdateProfile platform s req d
  else
    sendJson platform 404 (loginResponseJson { code := 404, message := ascii "not found" }) req d

/-- `/health` and `/api/health`. -/
def isHealth (target : ByteString) : Bool :=
  target = ascii "/health" || target = ascii "/api/health"

/-- `HttpSession::handle_request`. -/
def handleRequest (s : Surroundings) (req : HttpRequest) (d : Database) : Handling :=
  if req.method = .options then sendResponse (makeJsonResponse 204 [] req) d
  else if req.method = .get then
    if isHealth req.target then
      sendResponse (makeJsonResponse 200 (ascii "\x7b\"code\":0,\"message\":\"ok\"\x7d") req) d
    else
      match tryServeStaticFile s.fs req.target assets with
      | .error e => ⟨[], some (.filesystem e), d⟩
      | .ok (some file) => sendResponse (binaryResponse file req) d
      | .ok none => handleEndpoint platform crypto assets s req d
  else handleEndpoint platform crypto assets s req d

/-- The sessions of the server, one request after the other. -/
def httpSessions : System Database (Surroundings × HttpRequest) where
  Init d := d = Database.create
  Step d e d' := d' = (handleRequest platform crypto assets e.1 e.2 d).database

end Handler

/-! ## The configuration -/

/-- `loadFromJsonObject`, as far as the assets go. -/
def loadFromJsonObject (root : Json) : AssetsConfig :=
  match member root (ascii "assets") with
  | some (.object ms) =>
    let string (key fallback : ByteString) := ((ms.lookup key).bind asString).getD fallback
    let unset : AssetsConfig := {}
    { publicBaseUrl := string (ascii "public_base_url") unset.publicBaseUrl
      staticRoot := string (ascii "static_root") unset.staticRoot
      uploadRoot := string (ascii "upload_root") unset.uploadRoot
      defaultAvatarPath := string (ascii "default_avatar_path") unset.defaultAvatarPath
      maxAvatarBytes :=
        (((ms.lookup (ascii "max_avatar_bytes")).bind asInteger).map UInt64.toNat).getD
          unset.maxAvatarBytes }
  | _ => {}

/-- What `AuthServerConfigLoader::load` leaves behind: the defaults, or those of
a file that parses. -/
def Configured (platform : Platform) (assets : AssetsConfig) : Prop :=
  assets = {} ∨ ∃ content root, platform.parse content = some root ∧
    assets = loadFromJsonObject root

end CCMeeting
