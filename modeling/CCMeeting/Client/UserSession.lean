import CCMeeting.Client.DateTime
import CCMeeting.Client.Message
import CCMeeting.Client.Reference
import CCMeeting.DataServer.HttpSession
import CCMeeting.Lib.JsonNested

/-! # The session of the user

`UserSession` and the two dialogs that write to it: `login`, which registers and
logs in, and `EditProfileDialog`, which uploads a new avatar and saves the profile.
Each posts a JSON document and goes on when the reply is finished. A box that a
dialog shows meanwhile blocks nothing but the dialog itself; the boxes are left out.
-/

namespace CCMeeting

open ByteString

/-! ## What the dialogs use from Qt -/

/-- `QString::trimmed` and `QVariant::toLongLong` beside what the codec uses. -/
structure AccountQt extends Qt where
  trimmed : ByteString → ByteString
  /-- `toVariant().toLongLong()` of a value -/
  toLongLong : Option Json → Int64
  trimmed_valid : ∀ {text}, Utf8.Valid text → Utf8.Valid (trimmed text)
  toLongLong_eq : ∀ {n : ℕ}, n < 2 ^ 53 →
    toLongLong (some (.number (.integer n))) = Int64.ofNat n

/-- The service and the client read each other's documents. -/
structure HttpInterop (platform : Platform) (qt : Qt) : Prop where
  up : ∀ {ms}, (Json.object ms).Portable 2 →
    platform.parse (qt.toJson (.object ms)) = some (.object ms)
  down : ∀ {ms text}, (Json.object ms).Portable 2 → platform.dump (.object ms) = some text →
    qt.fromJson text = some (.object ms)

/-- `QJsonValue::toInt` with a default. -/
def jsonIntOr (v : Option Json) (fallback : ℤ) : ℤ :=
  match v with
  | some (.number n) =>
    match n.whole? with
    | some i => if -2 ^ 31 ≤ i ∧ i < 2 ^ 31 then i else fallback
    | none => fallback
  | _ => fallback

/-- `QJsonValue::toString` with a default. -/
def jsonTextOr (v : Option Json) (fallback : ByteString) : ByteString :=
  match v with
  | some (.string s) => s
  | _ => fallback

/-- `QJsonValue::toObject`. -/
def jsonObject : Option Json → List (ByteString × Json)
  | some (.object ms) => ms
  | _ => []

/-- What a finished `QNetworkReply` shows; the status is zero where no response has
come. -/
structure HttpReply where
  status : ℕ
  body : ByteString
deriving DecidableEq, Repr

namespace HttpReply

/-- `error() != QNetworkReply::NoError`. -/
def error (reply : HttpReply) : Bool := reply.status = 0 || 400 ≤ reply.status

/-- The document of the body, where it is an object. -/
def root (qt : Qt) (reply : HttpReply) : Option (List (ByteString × Json)) :=
  match qt.fromJson reply.body with
  | some (.object ms) => some ms
  | _ => none

end HttpReply

/-- The paths of the service, as `ClientConfig` has them unless told otherwise. -/
structure AuthPaths where
  loginPath : ByteString := ascii "/api/login"
  registerPath : ByteString := ascii "/api/register"
  uploadAvatarPath : ByteString := ascii "/api/upload-avatar"
  updateProfilePath : ByteString := ascii "/api/update-profile"

/-- `post` of a compact document. -/
def postJson (qt : Qt) (target : ByteString) (body : List (ByteString × Json)) : HttpRequest where
  method := .post
  target
  body := qt.toJson (.object body)

/-! ## `UserSession` -/

/-- `UserProfileExtras`. -/
structure UserProfileExtras where
  gender : ByteString := []
  birthday : ByteString := []
  address : ByteString := []
  phone : ByteString := []
  email : ByteString := []
  extraJson : ByteString := []
deriving DecidableEq, Repr

/-- `extrasFromJson`. -/
def extrasFromJson (data : List (ByteString × Json)) : UserProfileExtras where
  gender := jsonText (data.lookup (ascii "gender"))
  birthday := jsonText (data.lookup (ascii "birthday"))
  address := jsonText (data.lookup (ascii "address"))
  phone := jsonText (data.lookup (ascii "phone"))
  email := jsonText (data.lookup (ascii "email"))
  extraJson := jsonText (data.lookup (ascii "extra_json"))

/-- `UserSession`. -/
structure UserSession where
  loggedIn : Bool := false
  userId : Int64 := 0
  username : ByteString := []
  name : ByteString := []
  avatar : ByteString := []
  info : ByteString := []
  extras : UserProfileExtras := {}
deriving DecidableEq, Repr

namespace UserSession

/-- `setUser`. -/
def setUser (userId : Int64) (username name avatar info : ByteString)
    (extras : UserProfileExtras) : UserSession :=
  { loggedIn := true, userId, username, name, avatar, info, extras }

/-- `setAvatar`. -/
def setAvatar (session : UserSession) (avatar : ByteString) : UserSession := { session with avatar }

/-- `updateProfile`; none for a null text, which leaves the field alone. -/
def updateProfile (session : UserSession) (name avatar info : Option ByteString)
    (extras : UserProfileExtras) : UserSession :=
  { session with
    name := name.getD session.name
    avatar := avatar.getD session.avatar
    info := info.getD session.info
    extras }

end UserSession

/-! ## `login` -/

/-- `login::PendingRequest`. -/
inductive PendingRequest where
  | none
  | login
  | register
deriving DecidableEq, Repr

/-- The dialog `login`. -/
structure LoginDialog where
  accountLine : ByteString := []
  passwordLine : ByteString := []
  registerUsernameLine : ByteString := []
  registerPasswordLine : ByteString := []
  requestInFlight : Bool := false
  pendingRequest : PendingRequest := .none
deriving DecidableEq, Repr

/-- The body of a login and of a registration, in the key order of a `QJsonObject`. -/
def credentialsBody (username password : ByteString) : List (ByteString × Json) :=
  [(ascii "password", .string password), (ascii "username", .string username)]

namespace LoginDialog

variable (qt : AccountQt) (paths : AuthPaths)

/-- `login::Login`, with what it posts. -/
def login (l : LoginDialog) : LoginDialog × Option HttpRequest :=
  if l.requestInFlight then (l, none)
  else
    let username := qt.trimmed l.accountLine
    if username = [] ∨ l.passwordLine = [] then (l, none)
    else
      ({ l with pendingRequest := .login, requestInFlight := true },
        some (postJson qt.toQt paths.loginPath (credentialsBody username l.passwordLine)))

/-- `login::Register`, with what it posts. -/
def register (l : LoginDialog) : LoginDialog × Option HttpRequest :=
  if l.requestInFlight then (l, none)
  else
    let username := qt.trimmed l.registerUsernameLine
    if username = [] ∨ l.registerPasswordLine = [] then (l, none)
    else
      ({ l with pendingRequest := .register, requestInFlight := true },
        some (postJson qt.toQt paths.registerPath
          (credentialsBody username l.registerPasswordLine)))

/-- `login::onLoginFinished`: the dialog, or none once it is accepted, and the
session. -/
def onLoginFinished (l : LoginDialog) (session : UserSession) (reply : HttpReply) :
    Option LoginDialog × UserSession :=
  if l.pendingRequest = .register then (some l, session)
  else
    let l := { l with requestInFlight := false, pendingRequest := .none }
    if reply.status = 0 then (some l, session)
    else
      match reply.root qt.toQt with
      | none => (some l, session)
      | some root =>
        if jsonIntOr (root.lookup (ascii "code")) (-1) ≠ 0 ∨ root.lookup (ascii "data") = none then
          (some l, session)
        else
          let data := jsonObject (root.lookup (ascii "data"))
          let username := jsonText (data.lookup (ascii "username"))
          (none, .setUser (qt.toLongLong (data.lookup (ascii "id")))
            (if username = [] then qt.trimmed l.accountLine else username)
            (jsonText (data.lookup (ascii "name"))) (jsonText (data.lookup (ascii "avatar")))
            (jsonText (data.lookup (ascii "info"))) (extrasFromJson data))

/-- `login::onRegisterFinished`. -/
def onRegisterFinished (l : LoginDialog) (reply : HttpReply) : LoginDialog :=
  if l.pendingRequest ≠ .register then l
  else
    let l := { l with requestInFlight := false, pendingRequest := .none }
    if reply.status = 0 then l
    else
      match reply.root qt.toQt with
      | none => l
      | some root =>
        if jsonIntOr (root.lookup (ascii "code")) (-1) ≠ 0 then l
        else
          { l with
            registerPasswordLine := []
            accountLine := qt.trimmed l.registerUsernameLine
            passwordLine := [] }

/-- The slot for `QNetworkAccessManager::finished`. -/
def finished (l : LoginDialog) (session : UserSession) (reply : HttpReply) :
    Option LoginDialog × UserSession :=
  if l.pendingRequest = .register then (some (l.onRegisterFinished qt reply), session)
  else l.onLoginFinished qt session reply

end LoginDialog

/-! ## `EditProfileDialog` -/

/-- `QDate`; months and days are counted from zero. -/
structure CalendarDate where
  year : Fin 10000
  month : Fin 12
  day : Fin 31
deriving DecidableEq, Repr

namespace CalendarDate

/-- `toString(Qt::ISODate)`. -/
def isoDate (date : CalendarDate) : ByteString :=
  DateTime.fourDigits date.year ++ 45 :: DateTime.twoDigits (date.month + 1) ++
    45 :: DateTime.twoDigits (date.day + 1)

/-- The number of a day in a calendar whose months all have 31 days. -/
def days (date : CalendarDate) : ℕ := (date.year * 12 + date.month) * 31 + date.day

/-- `minimumDate` of the widget, the first of January 1900. -/
def minimum : CalendarDate := ⟨⟨1900, by decide⟩, ⟨0, by decide⟩, ⟨0, by decide⟩⟩

end CalendarDate

/-- The data of the items of the combo box. -/
inductive Gender where
  | unset
  | male
  | female
  | other
deriving DecidableEq, Repr

/-- `currentData().toString()`. -/
def Gender.text : Gender → ByteString
  | unset => []
  | male => ascii "male"
  | female => ascii "female"
  | other => ascii "other"

/-- The widgets of the dialog that are disabled while it is busy. -/
structure ProfileForm where
  nickname : ByteString
  gender : Gender
  birthday : CalendarDate
  address : ByteString
  phone : ByteString
  email : ByteString
  info : ByteString
deriving DecidableEq, Repr

/-- `EditProfileDialog`. -/
structure EditProfileDialog where
  form : ProfileForm
  /-- the PNG of the new avatar, or none where it cannot be encoded; no avatar is
  `m_pendingAvatar.isNull()` -/
  pendingAvatar : Option (Option ByteString) := none
  busy : Bool := false
deriving DecidableEq, Repr

namespace EditProfileDialog

variable (qt : AccountQt) (paths : AuthPaths)

/-- `collectExtras`. -/
def collectExtras (d : EditProfileDialog) (session : UserSession) : UserProfileExtras :=
  { session.extras with
    gender := d.form.gender.text
    birthday := if CalendarDate.minimum.days < d.form.birthday.days then d.form.birthday.isoDate
      else []
    address := qt.trimmed d.form.address
    phone := qt.trimmed d.form.phone
    email := qt.trimmed d.form.email }

/-- The body of an upload. -/
def uploadBody (session : UserSession) (png : ByteString) : List (ByteString × Json) :=
  [(ascii "data_base64", .string (qt.fromLatin1 (qt.toBase64 png))),
    (ascii "mime", .string (ascii "image/png")),
    (ascii "user_id", .number (.integer session.userId.toInt))]

/-- The body of an update. -/
def updateBody (d : EditProfileDialog) (session : UserSession) : List (ByteString × Json) :=
  let extras := d.collectExtras qt session
  [(ascii "address", .string extras.address), (ascii "birthday", .string extras.birthday),
    (ascii "email", .string extras.email), (ascii "extra_json", .string extras.extraJson),
    (ascii "gender", .string extras.gender), (ascii "info", .string (qt.trimmed d.form.info)),
    (ascii "nickname", .string (qt.trimmed d.form.nickname)),
    (ascii "phone", .string extras.phone),
    (ascii "user_id", .number (.integer session.userId.toInt))]

/-- `submitProfileUpdate`: what it posts. -/
def submitProfileUpdate (d : EditProfileDialog) (session : UserSession) : HttpRequest :=
  postJson qt.toQt paths.updateProfilePath (d.updateBody qt session)

/-- `uploadPendingAvatar`, with what it posts. -/
def uploadPendingAvatar (d : EditProfileDialog) (session : UserSession)
    (image : Option ByteString) : EditProfileDialog × Option HttpRequest :=
  match image with
  | none => ({ d with busy := false }, none)
  | some png =>
    (d, some (postJson qt.toQt paths.uploadAvatarPath (uploadBody qt session png)))

/-- `onChangeAvatarClicked`, where a picture is chosen and cropped. -/
def onChangeAvatarClicked (d : EditProfileDialog) (image : Option ByteString) :
    EditProfileDialog :=
  if d.busy then d else { d with pendingAvatar := some image }

end EditProfileDialog

/-- The slots that wait for a reply. -/
inductive ReplySlot where
  | loginFinished
  | avatarUploadFinished
  | profileUpdateFinished
deriving DecidableEq, Repr

namespace EditProfileDialog

variable (qt : AccountQt) (paths : AuthPaths)

/-- `onSaveClicked`, with what is posted and the slot that waits for it. -/
def onSaveClicked (d : EditProfileDialog) (session : UserSession) :
    EditProfileDialog × Option (ReplySlot × HttpRequest) :=
  if d.busy then (d, none)
  else if !session.loggedIn then (d, none)
  else if qt.trimmed d.form.nickname = [] then (d, none)
  else
    let d := { d with busy := true }
    match d.pendingAvatar with
    | some image =>
      let (d, post) := d.uploadPendingAvatar qt paths session image
      (d, post.map fun request => (.avatarUploadFinished, request))
    | none => (d, some (.profileUpdateFinished, d.submitProfileUpdate qt paths session))

/-- `onAvatarUploadFinished`, with what it posts. -/
def onAvatarUploadFinished (d : EditProfileDialog) (session : UserSession) (reply : HttpReply) :
    EditProfileDialog × UserSession × Option (ReplySlot × HttpRequest) :=
  if reply.error then ({ d with busy := false }, session, none)
  else
    match reply.root qt.toQt with
    | none => ({ d with busy := false }, session, none)
    | some root =>
      if jsonIntOr (root.lookup (ascii "code")) (-1) ≠ 0 then
        ({ d with busy := false }, session, none)
      else
        let newAvatar := jsonText
          ((jsonObject (root.lookup (ascii "data"))).lookup (ascii "avatar"))
        if newAvatar = [] then ({ d with busy := false }, session, none)
        else
          let session := session.setAvatar newAvatar
          let d := { d with pendingAvatar := none }
          (d, session, some (.profileUpdateFinished, d.submitProfileUpdate qt paths session))

/-- `onProfileUpdateFinished`: the dialog, or none once it is accepted, and the
session. -/
def onProfileUpdateFinished (d : EditProfileDialog) (session : UserSession) (reply : HttpReply) :
    Option EditProfileDialog × UserSession :=
  let refused : Option EditProfileDialog := some { d with busy := false }
  if reply.error then (refused, session)
  else
    match reply.root qt.toQt with
    | none => (refused, session)
    | some root =>
      if jsonIntOr (root.lookup (ascii "code")) (-1) ≠ 0 then (refused, session)
      else
        let data := jsonObject (root.lookup (ascii "data"))
        let name := jsonTextOr (data.lookup (ascii "name")) (qt.trimmed d.form.nickname)
        let info := jsonTextOr (data.lookup (ascii "info")) (qt.trimmed d.form.info)
        let extras := extrasFromJson data
        -- a service that does not know the extras leaves those of the form
        let extras :=
          if extras.gender = [] ∧ extras.birthday = [] ∧ extras.address = [] then
            d.collectExtras qt session
          else extras
        (none, session.updateProfile (some name) none (some info) extras)

end EditProfileDialog

/-! ## Libraries to run the dialogs on -/

/-- The platform of `Protocol/Reference.lean`, which reads nested documents. -/
def nestedReference : Platform :=
  { reference with
    parse := fun text => (JsonText.readDocument 2 text).filter Json.utf8
    parse_utf8 := fun h => (Option.filter_eq_some_iff.mp h).2 }

/-- The Qt of `Client/Reference.lean`, which reads nested documents. -/
def accountQt : AccountQt :=
  { referenceQt with
    fromJson := JsonText.readDocument 2
    trimmed := Trim.trim isSpace
    toLongLong := fun v =>
      match v with
      | some (.number (.integer i)) => Int64.ofInt i
      | _ => 0
    trimmed_valid := Utf8.Valid.trim fun b hb => by
      unfold isSpace at hb
      simp only [Bool.or_eq_true, Bool.and_eq_true, decide_eq_true_eq] at hb
      rcases hb with rfl | ⟨_, hb⟩
      · decide
      · exact UInt8.le_trans hb (by decide)
    toLongLong_eq := fun _ => rfl }

theorem nested_interop : HttpInterop nestedReference accountQt.toQt where
  up {ms} h := by
    show ((JsonText.readDocument 2 (JsonText.write writeCompact (.object ms))).filter Json.utf8) = _
    rw [JsonText.readDocument_write h, Option.filter_some, if_pos h.utf8]
  down {ms text} h hdump := by
    rw [show nestedReference.dump (.object ms) = some (JsonText.write writeWhole (.object ms)) from
      if_pos h.utf8] at hdump
    cases hdump
    exact JsonText.readDocument_write h

end CCMeeting
