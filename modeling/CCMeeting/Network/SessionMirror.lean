import CCMeeting.DataServer.AvatarUpload
import CCMeeting.DataServer.HttpCalls
import CCMeeting.Network.AccountWorld

/-! # The session mirrors the account

The session is a copy of an account, filled in by a login and changed by what the
client itself saves. It stays a true copy as long as nobody else changes the
account and no reply to a change is lost: also where the service refuses, where a
statement fails, and where an avatar is saved and the rest of the profile is not.
-/

namespace CCMeeting

open ByteString Transition

/-! ## Documents -/

/-- An object by its keys, which are the same whatever the values are. -/
theorem portable_object {depth : ℕ} {ms : List (ByteString × Json)} (keys : List ByteString)
    (hms : ms.map Prod.fst = keys)
    (hkeys : keys.Pairwise (fun k k' => before k k' = true) ∧
      ∀ k ∈ keys, k.all (fun b => b ≤ 0x7F) = true)
    (hvalues : ∀ m ∈ ms, m.2.Portable depth) : (Json.object ms).Portable (depth + 1) := by
  rw [← hms] at hkeys
  refine ⟨List.pairwise_map.mp hkeys.1, fun m hm => ⟨?_, hvalues m hm⟩⟩
  have hascii := hkeys.2 _ (List.mem_map_of_mem hm)
  exact fun b hb => of_decide_eq_true (List.all_eq_true.mp hascii b hb)

theorem portable_string {depth : ℕ} {s : ByteString} (h : Utf8.Valid s) :
    (Json.string s).Portable depth := by
  cases depth <;> exact h

theorem portable_integer {depth n : ℕ} (h : n < 2 ^ 53) :
    (Json.number (.integer n)).Portable depth := by
  cases depth <;> exact h

/-- A user id that a double holds is the same number for both sides. -/
theorem toInt_userId {n : ℕ} (h : n < 2 ^ 53) : (Int64.ofNat n).toInt = n :=
  Int64.toInt_ofNat_of_lt (lt_trans h (by norm_num))

theorem toNat_userId {n : ℕ} (h : n < 2 ^ 53) :
    (UInt64.ofInt (Int64.ofNat n).toInt).toNat = n := by
  rw [toInt_userId h]
  show (UInt64.ofNat _).toNat = n
  rw [UInt64.toNat_ofNat']
  norm_num at h ⊢
  omega

section Bodies

variable {session : UserSession} {d : EditProfileDialog} {n : ℕ}

theorem credentialsBody_portable {username password : ByteString} (husername : Utf8.Valid username)
    (hpassword : Utf8.Valid password) :
    (Json.object (credentialsBody username password)).Portable 2 := by
  refine portable_object [ascii "password", ascii "username"] rfl (by decide) ?_
  simp only [credentialsBody, List.forall_mem_cons, List.not_mem_nil, false_implies, implies_true,
    and_true]
  exact ⟨portable_string hpassword, portable_string husername⟩

theorem uploadBody_portable (qt : AccountQt) (hid : session.userId = Int64.ofNat n)
    (hn : n < 2 ^ 53) (png : ByteString) :
    (Json.object (EditProfileDialog.uploadBody qt session png)).Portable 2 := by
  have hascii := Base64.encode_ascii png
  have hbase64 : qt.fromLatin1 (qt.toBase64 png) = Base64.encode png := by
    rw [qt.toBase64_eq, qt.fromLatin1_eq hascii]
  refine portable_object [ascii "data_base64", ascii "mime", ascii "user_id"] rfl
    (by decide) ?_
  simp only [EditProfileDialog.uploadBody, List.forall_mem_cons, List.not_mem_nil, false_implies,
    implies_true, and_true, hbase64, hid, toInt_userId hn]
  exact ⟨portable_string (Utf8.valid_of_ascii hascii), portable_string (by decide),
    portable_integer hn⟩

/-- What has been typed is well formed. -/
structure ProfileForm.Valid (form : ProfileForm) : Prop where
  nickname : Utf8.Valid form.nickname
  address : Utf8.Valid form.address
  phone : Utf8.Valid form.phone
  email : Utf8.Valid form.email
  info : Utf8.Valid form.info

theorem ProfileForm.typed_valid (qt : Qt) (form : ProfileForm) : (form.typed qt).Valid :=
  ⟨qt.utf8_valid _, qt.utf8_valid _, qt.utf8_valid _, qt.utf8_valid _, qt.utf8_valid _⟩

theorem twoDigits_ascii (n : ℕ) : ∀ b ∈ DateTime.twoDigits n, b ≤ 0x7F := by
  have hdigit : ∀ k < 10, JsonText.digit k ≤ 0x7F := by decide
  intro b hb
  simp only [DateTime.twoDigits, List.mem_cons, List.not_mem_nil, or_false] at hb
  rcases hb with rfl | rfl
  · exact hdigit _ (Nat.mod_lt _ (by norm_num))
  · exact hdigit _ (Nat.mod_lt _ (by norm_num))

theorem CalendarDate.isoDate_valid (date : CalendarDate) : Utf8.Valid date.isoDate := by
  refine Utf8.valid_of_ascii fun b hb => ?_
  simp only [CalendarDate.isoDate, DateTime.fourDigits, List.append_assoc, List.cons_append,
    List.mem_append, List.mem_cons] at hb
  rcases hb with hb | hb | rfl | hb | rfl | hb
  · exact twoDigits_ascii _ b hb
  · exact twoDigits_ascii _ b hb
  · decide
  · exact twoDigits_ascii _ b hb
  · decide
  · exact twoDigits_ascii _ b hb

/-- The profile that an update asks for. -/
def EditProfileDialog.fields (qt : AccountQt) (d : EditProfileDialog) (session : UserSession) :
    Profile ByteString :=
  let extras := d.collectExtras qt session
  { nickname := qt.trimmed d.form.nickname
    info := qt.trimmed d.form.info
    gender := extras.gender
    birthday := extras.birthday
    address := extras.address
    phone := extras.phone
    email := extras.email
    extraJson := extras.extraJson }

theorem fields_valid (qt : AccountQt) (hform : d.form.Valid)
    (hextra : Utf8.Valid session.extras.extraJson) :
    ∀ s ∈ (d.fields qt session).toList, Utf8.Valid s := by
  have hgender : Utf8.Valid d.form.gender.text := by
    cases d.form.gender <;> decide
  have hbirthday : Utf8.Valid (if CalendarDate.minimum.days < d.form.birthday.days then
      d.form.birthday.isoDate else []) := by
    split_ifs
    · exact d.form.birthday.isoDate_valid
    · exact Utf8.valid_nil
  simp only [Profile.toList, EditProfileDialog.fields, EditProfileDialog.collectExtras,
    List.forall_mem_cons, List.not_mem_nil, false_implies, implies_true, and_true]
  exact ⟨qt.trimmed_valid hform.nickname, qt.trimmed_valid hform.info, hgender, hbirthday,
    qt.trimmed_valid hform.address, qt.trimmed_valid hform.phone, qt.trimmed_valid hform.email,
    hextra⟩

theorem updateBody_portable (qt : AccountQt) (hid : session.userId = Int64.ofNat n)
    (hn : n < 2 ^ 53) (hform : d.form.Valid) (hextra : Utf8.Valid session.extras.extraJson) :
    (Json.object (d.updateBody qt session)).Portable 2 := by
  have hfields := fields_valid qt hform hextra
  simp only [Profile.toList, EditProfileDialog.fields, List.forall_mem_cons, List.not_mem_nil,
    false_implies, implies_true, and_true] at hfields
  rcases hfields with ⟨hnickname, hinfo, hgender, hbirthday, haddress, hphone, hemail, hextra⟩
  refine portable_object [ascii "address", ascii "birthday", ascii "email",
    ascii "extra_json", ascii "gender", ascii "info", ascii "nickname", ascii "phone",
    ascii "user_id"] rfl (by decide) ?_
  simp only [EditProfileDialog.updateBody, List.forall_mem_cons, List.not_mem_nil, false_implies,
    implies_true, and_true, hid, toInt_userId hn]
  exact ⟨portable_string haddress, portable_string hbirthday, portable_string hemail,
    portable_string hextra, portable_string hgender, portable_string hinfo,
    portable_string hnickname, portable_string hphone, portable_integer hn⟩

end Bodies

/-! ## Requests -/

section Requests

variable {platform : Platform} {qt : AccountQt} (interop : HttpInterop platform qt.toQt)
  {session : UserSession} {d : EditProfileDialog} {n : ℕ}

include interop in
theorem parseLoginRequest_credentials {username password : ByteString}
    (husername : Utf8.Valid username) (hpassword : Utf8.Valid password) (target : ByteString) :
    parseLoginRequest platform
        (postJson qt.toQt target (credentialsBody username password)).body =
      if username = [] then none else some (username, password) := by
  have hparse := interop.up (credentialsBody_portable husername hpassword)
  unfold parseLoginRequest
  rw [postJson, hparse]
  rfl

include interop in
theorem parseUploadAvatarRequest_upload (hid : session.userId = Int64.ofNat n) (hn : n < 2 ^ 53)
    (png target : ByteString) :
    parseUploadAvatarRequest platform
        (postJson qt.toQt target (EditProfileDialog.uploadBody qt session png)).body =
      if UInt64.ofInt session.userId.toInt = 0 ∨ ascii "image/png" = [] ∨
          qt.fromLatin1 (qt.toBase64 png) = [] then none
      else some (UInt64.ofInt session.userId.toInt, ascii "image/png",
        qt.fromLatin1 (qt.toBase64 png)) := by
  have hparse := interop.up (uploadBody_portable qt hid hn png)
  unfold parseUploadAvatarRequest
  rw [postJson, hparse]
  rfl

include interop in
theorem parseUpdateProfileRequest_update (hid : session.userId = Int64.ofNat n) (hn : n < 2 ^ 53)
    (hform : d.form.Valid) (hextra : Utf8.Valid session.extras.extraJson) (target : ByteString) :
    parseUpdateProfileRequest platform
        (postJson qt.toQt target (d.updateBody qt session)).body =
      if UInt64.ofInt session.userId.toInt = 0 then none
      else some (UInt64.ofInt session.userId.toInt, d.fields qt session) := by
  have hparse := interop.up (updateBody_portable qt hid hn hform hextra)
  unfold parseUpdateProfileRequest
  rw [postJson, hparse]
  rfl

end Requests

/-! ## Replies -/

section Replies

variable {platform : Platform} {qt : AccountQt} (interop : HttpInterop platform qt.toQt)

theorem replyJson_portable {code : ℕ} (hcode : code < 2 ^ 53) {message : ByteString}
    (hmessage : Utf8.Valid message) {data : Option (List (ByteString × Json))}
    (hdata : ∀ ms, data = some ms → (Json.object ms).Portable 1) :
    (replyJson code message data).Portable 2 := by
  unfold replyJson
  cases data with
  | none =>
    refine portable_object [ascii "code", ascii "message"] rfl (by decide) ?_
    simp only [Option.map_none, Option.toList_none, List.append_nil, List.cons_append,
      List.nil_append, List.forall_mem_cons, List.not_mem_nil, false_implies, implies_true,
      and_true]
    exact ⟨portable_integer hcode, portable_string hmessage⟩
  | some ms =>
    refine portable_object [ascii "code", ascii "data", ascii "message"] rfl
      (by decide) ?_
    simp only [Option.map_some, Option.toList_some, List.cons_append, List.nil_append,
      List.forall_mem_cons, List.not_mem_nil, false_implies, implies_true, and_true]
    exact ⟨portable_integer hcode, hdata ms rfl, portable_string hmessage⟩

theorem fillProfileFields_portable {user : UserInfo} (huser : user.Utf8)
    (hid : user.id.toNat < 2 ^ 53) : (Json.object (fillProfileFields user)).Portable 1 := by
  have hfields := huser.fields
  simp only [Profile.toList, List.forall_mem_cons, List.not_mem_nil, false_implies, implies_true,
    and_true] at hfields
  rcases hfields with ⟨hnickname, hinfo, hgender, hbirthday, haddress, hphone, hemail, hextra⟩
  refine portable_object [ascii "address", ascii "avatar", ascii "birthday",
    ascii "email", ascii "extra_json", ascii "gender", ascii "id", ascii "info", ascii "name",
    ascii "phone", ascii "username"] rfl (by decide) ?_
  simp only [fillProfileFields, List.forall_mem_cons, List.not_mem_nil, false_implies,
    implies_true, and_true]
  exact ⟨portable_string haddress, portable_string huser.avatar, portable_string hbirthday,
    portable_string hemail, portable_string hextra, portable_string hgender,
    portable_integer hid, portable_string hinfo, portable_string hnickname,
    portable_string hphone, portable_string huser.username⟩

include interop in
/-- What the client reads of a document the service sends. -/
theorem sendJson_reply {ms : List (ByteString × Json)} (h : (Json.object ms).Portable 2)
    (status : ℕ) (req : HttpRequest) (d : Database) :
    (sendJson platform status (.object ms) req d).reply.status = status ∧
      (sendJson platform status (.object ms) req d).reply.root qt.toQt = some ms := by
  rcases sendJson_eq platform h.utf8 status req d with ⟨body, hdump, hsent⟩
  rw [hsent]
  refine ⟨rfl, ?_⟩
  show HttpReply.root qt.toQt ⟨status, body⟩ = some ms
  rw [HttpReply.root, interop.down h hdump]

/-- The members of a reply in JSON. -/
def replyMembers (code : ℕ) (message : ByteString) (data : Option (List (ByteString × Json))) :
    List (ByteString × Json) :=
  [(ascii "code", .number (.integer code))] ++
    (data.map fun ms => (ascii "data", Json.object ms)).toList ++
      [(ascii "message", .string message)]

theorem lookup_code (code : ℕ) (message : ByteString)
    (data : Option (List (ByteString × Json))) :
    (replyMembers code message data).lookup (ascii "code") = some (.number (.integer code)) := rfl

theorem lookup_data (code : ℕ) (message : ByteString)
    (data : Option (List (ByteString × Json))) :
    (replyMembers code message data).lookup (ascii "data") = data.map Json.object := by
  cases data <;> rfl

include interop in
/-- What the client reads of a reply to a call. -/
theorem sendJson_replyJson {code : ℕ} (hcode : code < 2 ^ 53) {message : ByteString}
    (hmessage : Utf8.Valid message) (data : Option (List (ByteString × Json)))
    (hdata : ∀ ms, data = some ms → (Json.object ms).Portable 1) (status : ℕ) (req : HttpRequest)
    (d : Database) :
    (sendJson platform status (replyJson code message data) req d).reply.status = status ∧
      (sendJson platform status (replyJson code message data) req d).reply.root qt.toQt =
        some (replyMembers code message data) :=
  sendJson_reply interop (replyJson_portable hcode hmessage hdata) status req d

end Replies

/-! ## The copy -/

/-- The session that shows a user. -/
def UserSession.ofInfo (user : UserInfo) : UserSession :=
  .setUser (Int64.ofNat user.id.toNat) user.username user.fields.nickname user.avatar
    user.fields.info
    { gender := user.fields.gender
      birthday := user.fields.birthday
      address := user.fields.address
      phone := user.fields.phone
      email := user.fields.email
      extraJson := user.fields.extraJson }

/-- Whoever is logged in has an account, and the session of one of them is a copy of
his account. -/
structure Mirrors (me : ByteString) (m : AccountMap) (session : UserSession) : Prop where
  known : session.loggedIn = true → ∃ a, m.account session.username = some a ∧
    session.userId = Int64.ofNat a.userId ∧ a.userId < 2 ^ 53
  shown : session.loggedIn = true → session.username = me → ∀ a, m.account me = some a →
    session = .ofInfo (a.info me)
  extraJson : Utf8.Valid session.extras.extraJson

section Mirrors

variable {me : ByteString} {m m' : AccountMap} {session : UserSession}

/-- Nobody is logged in. -/
theorem mirrors_start (me : ByteString) (m : AccountMap) : Mirrors me m {} where
  known h := nomatch h
  shown h := nomatch h
  extraJson := Utf8.valid_nil

theorem Mirrors.keeps (h : Mirrors me m session) (hkeeps : m.Keeps me m') :
    Mirrors me m' session := by
  refine ⟨fun hlogged => ?_, fun hlogged hme a ha => ?_, h.extraJson⟩
  · rcases h.known hlogged with ⟨a, ha, hid, hlt⟩
    rcases hkeeps.ids ha with ⟨a', ha', hsame⟩
    exact ⟨a', ha', by rw [hsame, hid], by rw [hsame]; exact hlt⟩
  · rcases h.known hlogged with ⟨b, hb, _⟩
    rw [hme] at hb
    rw [hkeeps.me hb] at ha
    cases ha
    exact h.shown hlogged hme _ hb

theorem toNat_ofNat {n : ℕ} (h : n < 2 ^ 53) : (UInt64.ofNat n).toNat = n := by
  rw [UInt64.toNat_ofNat']
  norm_num at h ⊢
  omega

/-- A login fills in a copy. -/
theorem mirrors_ofInfo {username : ByteString} {a : Account} (ha : m.account username = some a)
    (hid : a.userId < 2 ^ 53) (hextra : Utf8.Valid a.fields.extraJson) :
    Mirrors me m (.ofInfo (a.info username)) := by
  refine ⟨fun _ => ⟨a, ha, ?_, hid⟩, fun _ hme b hb => ?_, hextra⟩
  · show Int64.ofNat (UInt64.ofNat a.userId).toNat = _
    rw [toNat_ofNat hid]
  · have hname : username = me := hme
    rw [hname] at ha ⊢
    rw [ha] at hb
    cases hb
    rfl

end Mirrors

/-! ## A login -/

theorem Database.Neat.userId_le {d : Database} (hd : d.Neat) {username : ByteString} {a : Account}
    (ha : d.accounts.account username = some a) : a.userId ≤ d.accounts.lastId := by
  rcases hd.toSound.account_eq_some.mp ha with ⟨u, hu, _, rfl⟩
  rw [hd.toSound.lastId]
  exact (hd.tables.bounded u hu).2

theorem Database.Neat.username_ne_nil {d : Database} (hd : d.Neat) {username : ByteString}
    {a : Account} (ha : d.accounts.account username = some a) : username ≠ [] := by
  rcases hd.toSound.account_eq_some.mp ha with ⟨u, hu, rfl, _⟩
  exact (hd.clean.usernames u hu).1

theorem login_code_le (crypto : Crypto) (d : Database) (o : LoginOutcomes)
    (username password : ByteString) : (login crypto d o username password).code ≤ 500 := by
  unfold login
  split_ifs
  · simp
  · cases d.findCredentialByUsername o.find username with
    | error e => exact Nat.le_refl 500
    | ok found =>
      cases found with
      | none => simp
      | some credential =>
        dsimp only
        split_ifs
        · simp
        · simp
        · unfold LoginResult.loaded
          cases d.loadUserInfo o.load credential.userId credential.username with
          | error e => exact Nat.le_refl 500
          | ok user => exact Nat.zero_le _

section Login

variable {platform : Platform} {qt : AccountQt} (interop : HttpInterop platform qt.toQt)
  {crypto : Crypto} {d : Database} {me : ByteString} {session : UserSession} {l : LoginDialog}
  {reply : HttpReply}

/-- A reply without data logs nobody in. -/
theorem onLoginFinished_refused (l : LoginDialog) (session : UserSession)
    {root : List (ByteString × Json)} (hroot : reply.root qt.toQt = some root)
    (hdata : root.lookup (ascii "data") = none) :
    (l.onLoginFinished qt session reply).2 = session := by
  unfold LoginDialog.onLoginFinished
  split_ifs
  · rfl
  · rfl
  · rw [hroot]
    dsimp only
    rw [if_pos (Or.inr hdata)]

/-- The session after a login is the one that shows the user. -/
theorem onLoginFinished_accepted (session : UserSession)
    (hpending : l.pendingRequest ≠ .register)
    (hstatus : reply.status ≠ 0) {message : ByteString} {user : UserInfo}
    (hroot : reply.root qt.toQt = some (replyMembers 0 message (some (fillProfileFields user))))
    (hid : user.id.toNat < 2 ^ 53) (hname : user.username ≠ []) :
    (l.onLoginFinished qt session reply).2 = .ofInfo user := by
  have hcode : jsonIntOr (some (.number (.integer (0 : ℕ)))) (-1) = 0 := rfl
  have hnot : ¬(jsonIntOr (some (.number (.integer (0 : ℕ)))) (-1) ≠ 0 ∨
      (some (fillProfileFields user)).map Json.object = none) := by
    rw [hcode]
    simp
  unfold LoginDialog.onLoginFinished
  rw [if_neg hpending, if_neg hstatus, hroot]
  dsimp only
  rw [lookup_code, lookup_data, if_neg hnot]
  have hlong : qt.toLongLong ((fillProfileFields user).lookup (ascii "id")) =
      Int64.ofNat user.id.toNat := qt.toLongLong_eq hid
  show UserSession.setUser (qt.toLongLong ((fillProfileFields user).lookup (ascii "id")))
    (if user.username = [] then _ else user.username) _ _ _ _ = _
  rw [hlong, if_neg hname]
  rfl

include interop in
/-- A login that reaches the service: whatever the dialog shows when the reply is
finished, the session is a copy. -/
theorem handleLogin_mirrors (hd : d.Neat) (hutf8 : d.committed.Utf8)
    (hids : d.accounts.lastId < 2 ^ 53) {s : Surroundings} {username password : ByteString}
    (husername : Utf8.Valid username) (hpassword : Utf8.Valid password)
    (hsession : Mirrors me d.accounts session) (hpending : l.pendingRequest ≠ .register)
    (target : ByteString)
    (hcall : ∀ r, parseLoginRequest platform
      (postJson qt.toQt target (credentialsBody username password)).body = some r →
        0 ∉ r.1 ∧ s.login.load = .done) :
    Mirrors me d.accounts (l.onLoginFinished qt session
      (handleLogin platform crypto s
        (postJson qt.toQt target (credentialsBody username password)) d).reply).2 := by
  have hcurrent : d.current.Utf8 := by
    rw [hd.toSound.current]
    exact hutf8
  have hparse := parseLoginRequest_credentials interop husername hpassword target
  rw [hparse] at hcall
  rw [handleLogin, hparse]
  by_cases hempty : username = []
  · rw [if_pos hempty]
    have hmessage : Utf8.Valid (ascii "invalid json body") := by decide
    rcases sendJson_replyJson interop (show 400 < 2 ^ 53 by norm_num) hmessage none
      (fun _ h => nomatch h) 400
      (postJson qt.toQt target (credentialsBody username password)) d with ⟨_, hroot⟩
    have hrefused := onLoginFinished_refused l session hroot (lookup_data _ _ _)
    exact hrefused.symm ▸ hsession
  rw [if_neg hempty] at hcall ⊢
  rcases hcall _ rfl with ⟨hplain, hload⟩
  dsimp only
  have hcode := login_code_le crypto d s.login username password
  have hresult := login_utf8 crypto hcurrent s.login username password
  rcases hd.login_cases crypto hload hplain password with hrefused | ⟨a, ha, haccepted⟩
  · -- refused: the reply has no data
    have hdata : (if (login crypto d s.login username password).success then
        some (fillProfileFields (login crypto d s.login username password).user) else none) =
          none := if_neg (by simp [hrefused])
    rw [loginResponseJson, hdata]
    rcases sendJson_replyJson interop (lt_of_le_of_lt hcode (by norm_num)) hresult.message none
      (fun _ h => nomatch h)
      (loginStatus (login crypto d s.login username password))
      (postJson qt.toQt target (credentialsBody username password)) d with ⟨_, hroot⟩
    have hsame := onLoginFinished_refused l session hroot (lookup_data _ _ _)
    exact hsame.symm ▸ hsession
  · rw [haccepted] at hresult ⊢
    have hid : a.userId < 2 ^ 53 := lt_of_le_of_lt (hd.userId_le ha) hids
    have hidInfo : (a.info username).id.toNat < 2 ^ 53 := by
      show (UInt64.ofNat a.userId).toNat < _
      rw [toNat_ofNat hid]
      exact hid
    have hextra : Utf8.Valid a.fields.extraJson := by
      have hfields := hresult.user.fields
      simp only [Profile.toList, List.forall_mem_cons] at hfields
      exact hfields.2.2.2.2.2.2.2.1
    rcases sendJson_replyJson interop (show 0 < 2 ^ 53 by norm_num) hresult.message
      (some (fillProfileFields (a.info username)))
      (fun ms hms => by
        cases hms
        exact fillProfileFields_portable hresult.user hidInfo) 200
      (postJson qt.toQt target (credentialsBody username password)) d with ⟨hstatus, hroot⟩
    have hshown := onLoginFinished_accepted session hpending (by rw [hstatus]; norm_num) hroot
      hidInfo (hd.username_ne_nil ha)
    exact hshown.symm ▸ mirrors_ofInfo ha hid hextra

end Login

/-! ## A change of the account -/

section Changes

variable {platform : Platform} {qt : AccountQt} (interop : HttpInterop platform qt.toQt)
  {crypto : Crypto} {assets : AssetsConfig} {d : Database} {me : ByteString}
  {session : UserSession} {dialog : EditProfileDialog} {reply : HttpReply} {paths : AuthPaths}

/-- The service and the client change the same account in the same way. -/
theorem Mirrors.update {m : AccountMap} (h : Mirrors me m session)
    (hlogged : session.loggedIn = true) {f : Account → Account}
    (hf : ∀ a, (f a).userId = a.userId) {session' : UserSession}
    (hname : session'.username = session.username) (hid : session'.userId = session.userId)
    (hextra : Utf8.Valid session'.extras.extraJson)
    (hshown : ∀ a, session = .ofInfo (Account.info a me) →
      session' = .ofInfo (Account.info (f a) me)) :
    Mirrors me (m.update (UInt64.ofInt session.userId.toInt) f) session' := by
  rcases h.known hlogged with ⟨a, ha, hnumber, hlt⟩
  have hme : a.userId = (UInt64.ofInt session.userId.toInt).toNat := by
    rw [hnumber, toNat_userId hlt]
  have hafter : (m.update (UInt64.ofInt session.userId.toInt) f).account session.username =
      some (f a) := by
    rw [AccountMap.account_update, ha, Option.map_some, if_pos hme]
  refine ⟨fun _ => ⟨f a, ?_, ?_, ?_⟩, fun _ hsame b hb => ?_, hextra⟩
  · rw [hname]
    exact hafter
  · rw [hid, hnumber, hf]
  · rw [hf]
    exact hlt
  · rw [hname] at hsame
    rw [← hsame, hafter] at hb
    cases hb
    exact hshown a (h.shown hlogged hsame a (hsame ▸ ha))

/-- The client takes a refusal for an error, and so a response that has not come. -/
theorem sendJson_error {status : ℕ} (hstatus : 400 ≤ status) (root : Json) (req : HttpRequest)
    (d : Database) : (sendJson platform status root req d).reply.error = true := by
  unfold sendJson
  cases platform.dump root with
  | none => rfl
  | some body =>
    show (decide (status = 0) || decide (400 ≤ status)) = true
    rw [decide_eq_true hstatus, Bool.or_true]

theorem uploadStatus_refused {result : AvatarUploadResult} (h : result.success = false) :
    400 ≤ uploadStatus result := by
  unfold uploadStatus
  rw [h]
  split_ifs <;> first | contradiction | norm_num

theorem updateStatus_refused {result : ProfileUpdateResult} (h : result.success = false) :
    400 ≤ updateStatus result := by
  unfold updateStatus
  rw [h]
  split_ifs <;> first | contradiction | norm_num

/-! An upload. -/

theorem onAvatarUploadFinished_error (h : reply.error = true) :
    (dialog.onAvatarUploadFinished qt paths session reply).2.1 = session := by
  rw [EditProfileDialog.onAvatarUploadFinished, if_pos h]

theorem onAvatarUploadFinished_accepted (dialog : EditProfileDialog) (session : UserSession)
    (paths : AuthPaths) (herror : reply.error = false) {message avatar : ByteString}
    (hroot : reply.root qt.toQt =
      some (replyMembers 0 message (some [(ascii "avatar", .string avatar)])))
    (havatar : avatar ≠ []) :
    (dialog.onAvatarUploadFinished qt paths session reply).2.1 = session.setAvatar avatar := by
  have hcode : ¬jsonIntOr (some (.number (.integer (0 : ℕ)))) (-1) ≠ 0 := not_not.mpr rfl
  unfold EditProfileDialog.onAvatarUploadFinished
  rw [herror, if_neg Bool.false_ne_true, hroot]
  dsimp only
  rw [lookup_code, lookup_data, if_neg hcode]
  show (if avatar = [] then _ else _ :
    EditProfileDialog × UserSession × Option (ReplySlot × HttpRequest)).2.1 = _
  rw [if_neg havatar]
  rfl

theorem uploadedAvatarUrl_ne_nil (random : Option ByteString) (userId : UInt64)
    (mime : ByteString) : uploadedAvatarUrl assets random userId mime ≠ [] := by
  have huploads : ascii "/uploads/avatars/" ≠ [] := by decide
  simp [uploadedAvatarUrl, AssetsConfig.joinPublicUrl, huploads]

variable (crypto dialog paths) in
include interop in
/-- An upload that reaches the service: it is refused, or the account and the
session both have the new URL. -/
theorem handleUploadAvatar_mirrors (hassets : assets.Utf8) (hbase : 0 ∉ assets.publicBaseUrl)
    (hd : d.Neat) (s : Surroundings) (h : Mirrors me d.accounts session)
    (hlogged : session.loggedIn = true) (png target : ByteString) :
    let handling := handleUploadAvatar platform crypto assets s
      (postJson qt.toQt target (EditProfileDialog.uploadBody qt session png)) d
    handling.database.Neat ∧ Mirrors me handling.database.accounts
      (dialog.onAvatarUploadFinished qt paths session handling.reply).2.1 := by
  rcases h.known hlogged with ⟨a, _, hid, hlt⟩
  have hrefused : ∀ {status : ℕ}, 400 ≤ status → ∀ root req,
      (sendJson platform status root req d).database.Neat ∧
        Mirrors me (sendJson platform status root req d).database.accounts
          (dialog.onAvatarUploadFinished qt paths session
            (sendJson platform status root req d).reply).2.1 := by
    intro status hstatus root req
    rw [sendJson_database, onAvatarUploadFinished_error (sendJson_error hstatus root req d)]
    exact ⟨hd, h⟩
  intro handling
  have hhandling : handling = handleUploadAvatar platform crypto assets s
    (postJson qt.toQt target (EditProfileDialog.uploadBody qt session png)) d := rfl
  rw [hhandling, handleUploadAvatar, parseUploadAvatarRequest_upload interop hid hlt]
  by_cases hempty : UInt64.ofInt session.userId.toInt = 0 ∨ ascii "image/png" = [] ∨
      qt.fromLatin1 (qt.toBase64 png) = []
  · rw [if_pos hempty]
    exact hrefused (Nat.le_refl 400) _ _
  rw [if_neg hempty]
  dsimp only
  rcases hd.uploadAvatar_cases crypto assets s.uploadAvatar
      (UInt64.ofInt session.userId.toInt) (ascii "image/png") (qt.fromLatin1 (qt.toBase64 png)) with
    ⟨hfailed, hsame⟩ | ⟨hmade, haccounts, hneat⟩
  · rw [hsame]
    exact hrefused (uploadStatus_refused hfailed) _ _
  · generalize hurl : uploadedAvatarUrl assets s.uploadAvatar.random
      (UInt64.ofInt session.userId.toInt) (ascii "image/png") = url at hmade haccounts
    have hvalid : Utf8.Valid url := hurl ▸ hassets.uploadedAvatarUrl _ _ _
    have hplain : cStr url = url := by
      refine cStr_of_plain ?_
      rw [← hurl, zero_mem_uploadedAvatarUrl_iff]
      intro hzero
      refine hbase ?_
      unfold AssetsConfig.withoutSlash at hzero
      split_ifs at hzero
      · exact List.dropLast_subset _ hzero
      · exact hzero
    rw [hplain] at haccounts
    have hdata : (Json.object [(ascii "avatar", .string url)]).Portable 1 := by
      refine portable_object [ascii "avatar"] rfl (by decide) ?_
      simp only [List.forall_mem_cons, List.not_mem_nil, false_implies, implies_true, and_true]
      exact portable_string hvalid
    rw [hmade]
    rcases sendJson_replyJson interop (show 0 < 2 ^ 53 by norm_num)
      (show Utf8.Valid (ascii "ok") by decide) (some [(ascii "avatar", .string url)])
      (fun ms hms => by
        cases hms
        exact hdata) 200
      (postJson qt.toQt target (EditProfileDialog.uploadBody qt session png))
      (uploadAvatar crypto assets d s.uploadAvatar (UInt64.ofInt session.userId.toInt)
        (ascii "image/png") (qt.fromLatin1 (qt.toBase64 png))).2 with ⟨hstatus, hroot⟩
    have hnoError : HttpReply.error (sendJson platform 200
        (replyJson 0 (ascii "ok") (some [(ascii "avatar", .string url)]))
        (postJson qt.toQt target (EditProfileDialog.uploadBody qt session png))
        (uploadAvatar crypto assets d s.uploadAvatar (UInt64.ofInt session.userId.toInt)
          (ascii "image/png") (qt.fromLatin1 (qt.toBase64 png))).2).reply = false := by
      rw [HttpReply.error, hstatus]
      decide
    have hshown := onAvatarUploadFinished_accepted dialog session paths hnoError hroot
      (hurl ▸ uploadedAvatarUrl_ne_nil _ _ _)
    have hcopy : Mirrors me (d.accounts.update (UInt64.ofInt session.userId.toInt)
        fun a => { a with avatar := url }) (session.setAvatar url) := by
      refine h.update hlogged ?_ ?_ ?_ ?_ ?_
      · exact fun _ => rfl
      · rfl
      · rfl
      · exact h.extraJson
      · rintro b rfl
        rfl
    show (sendJson platform 200 (replyJson 0 (ascii "ok") _) _ _).database.Neat ∧
      Mirrors me (sendJson platform 200 (replyJson 0 (ascii "ok") _) _ _).database.accounts _
    rw [sendJson_database]
    refine ⟨hneat, ?_⟩
    rw [haccounts]
    exact hshown.symm ▸ hcopy

/-! An update. -/

/-- The data of the reply to an update that has been made. -/
def updatedMembers (fields : Profile ByteString) : List (ByteString × Json) :=
  [(ascii "address", .string fields.address), (ascii "birthday", .string fields.birthday),
    (ascii "email", .string fields.email), (ascii "extra_json", .string fields.extraJson),
    (ascii "gender", .string fields.gender), (ascii "info", .string fields.info),
    (ascii "name", .string fields.nickname), (ascii "phone", .string fields.phone)]

theorem updatedMembers_portable {fields : Profile ByteString}
    (hfields : ∀ s ∈ fields.toList, Utf8.Valid s) :
    (Json.object (updatedMembers fields)).Portable 1 := by
  simp only [Profile.toList, List.forall_mem_cons, List.not_mem_nil, false_implies, implies_true,
    and_true] at hfields
  rcases hfields with ⟨hnickname, hinfo, hgender, hbirthday, haddress, hphone, hemail, hextra⟩
  refine portable_object [ascii "address", ascii "birthday", ascii "email", ascii "extra_json",
    ascii "gender", ascii "info", ascii "name", ascii "phone"] rfl (by decide) ?_
  simp only [updatedMembers, List.forall_mem_cons, List.not_mem_nil, false_implies, implies_true,
    and_true]
  exact ⟨portable_string haddress, portable_string hbirthday, portable_string hemail,
    portable_string hextra, portable_string hgender, portable_string hinfo,
    portable_string hnickname, portable_string hphone⟩

/-- The session once the profile of the dialog has been saved. -/
def EditProfileDialog.saved (qt : AccountQt) (d : EditProfileDialog) (session : UserSession) :
    UserSession :=
  session.updateProfile (some (qt.trimmed d.form.nickname)) none (some (qt.trimmed d.form.info))
    (d.collectExtras qt session)

theorem onProfileUpdateFinished_error (h : reply.error = true) :
    (dialog.onProfileUpdateFinished qt session reply).2 = session := by
  unfold EditProfileDialog.onProfileUpdateFinished
  dsimp only
  rw [if_pos h]

/-- The reply shows the extras that were sent, so that it does not matter whether the
client takes them for those of an old service. -/
theorem onProfileUpdateFinished_accepted (dialog : EditProfileDialog) (session : UserSession)
    (herror : reply.error = false) {message : ByteString}
    (hroot : reply.root qt.toQt =
      some (replyMembers 0 message (some (updatedMembers (dialog.fields qt session))))) :
    (dialog.onProfileUpdateFinished qt session reply).2 = dialog.saved qt session := by
  have hcode : ¬jsonIntOr (some (.number (.integer (0 : ℕ)))) (-1) ≠ 0 := not_not.mpr rfl
  unfold EditProfileDialog.onProfileUpdateFinished
  dsimp only
  rw [herror, if_neg Bool.false_ne_true, hroot]
  dsimp only
  rw [lookup_code, lookup_data, if_neg hcode]
  have hextras : extrasFromJson (updatedMembers (dialog.fields qt session)) =
      dialog.collectExtras qt session := rfl
  show UserSession.updateProfile session _ none _
    (if _ then dialog.collectExtras qt session else
      extrasFromJson (updatedMembers (dialog.fields qt session))) = _
  rw [hextras, ite_self]
  rfl

include interop in
/-- An update that reaches the service: it is refused, or the account and the
session both have the new profile. -/
theorem handleUpdateProfile_mirrors (hd : d.Neat) (s : Surroundings)
    (h : Mirrors me d.accounts session) (hlogged : session.loggedIn = true)
    (hform : dialog.form.Valid) (target : ByteString)
    (hplain : ∀ r, parseUpdateProfileRequest platform
      (postJson qt.toQt target (dialog.updateBody qt session)).body = some r → r.2.Plain) :
    let handling := handleUpdateProfile platform s
      (postJson qt.toQt target (dialog.updateBody qt session)) d
    handling.database.Neat ∧ Mirrors me handling.database.accounts
      (dialog.onProfileUpdateFinished qt session handling.reply).2 := by
  rcases h.known hlogged with ⟨a, _, hid, hlt⟩
  have hrefused : ∀ {status : ℕ}, 400 ≤ status → ∀ root req,
      (sendJson platform status root req d).database.Neat ∧
        Mirrors me (sendJson platform status root req d).database.accounts
          (dialog.onProfileUpdateFinished qt session
            (sendJson platform status root req d).reply).2 := by
    intro status hstatus root req
    rw [sendJson_database, onProfileUpdateFinished_error (sendJson_error hstatus root req d)]
    exact ⟨hd, h⟩
  intro handling
  have hhandling : handling = handleUpdateProfile platform s
    (postJson qt.toQt target (dialog.updateBody qt session)) d := rfl
  have hparse := parseUpdateProfileRequest_update interop hid hlt hform h.extraJson target
  rw [hparse] at hplain
  rw [hhandling, handleUpdateProfile, hparse]
  by_cases hzero : UInt64.ofInt session.userId.toInt = 0
  · rw [if_pos hzero]
    exact hrefused (Nat.le_refl 400) _ _
  rw [if_neg hzero] at hplain ⊢
  dsimp only
  rcases hd.updateProfile_cases s.updateProfile (UInt64.ofInt session.userId.toInt)
      (hplain _ rfl) with ⟨hfailed, hsame⟩ | ⟨hmade, haccounts, hneat⟩
  · rw [hsame]
    exact hrefused (updateStatus_refused hfailed) _ _
  · rw [hmade]
    rcases sendJson_replyJson interop (show 0 < 2 ^ 53 by norm_num)
      (show Utf8.Valid (ascii "ok") by decide) (some (updatedMembers (dialog.fields qt session)))
      (fun ms hms => by
        cases hms
        exact updatedMembers_portable (fields_valid qt hform h.extraJson)) 200
      (postJson qt.toQt target (dialog.updateBody qt session))
      (updateProfile d s.updateProfile (UInt64.ofInt session.userId.toInt)
        (dialog.fields qt session)).2 with ⟨hstatus, hroot⟩
    have hnoError : HttpReply.error (sendJson platform 200
        (replyJson 0 (ascii "ok") (some (updatedMembers (dialog.fields qt session))))
        (postJson qt.toQt target (dialog.updateBody qt session))
        (updateProfile d s.updateProfile (UInt64.ofInt session.userId.toInt)
          (dialog.fields qt session)).2).reply = false := by
      rw [HttpReply.error, hstatus]
      decide
    have hshown := onProfileUpdateFinished_accepted dialog session hnoError hroot
    have hcopy : Mirrors me (d.accounts.update (UInt64.ofInt session.userId.toInt)
        fun a => { a with fields := dialog.fields qt session }) (dialog.saved qt session) := by
      refine h.update hlogged ?_ ?_ ?_ ?_ ?_
      · exact fun _ => rfl
      · rfl
      · rfl
      · exact h.extraJson
      · rintro b rfl
        rfl
    show (sendJson platform 200 (replyJson 0 (ascii "ok") _) _ _).database.Neat ∧
      Mirrors me (sendJson platform 200 (replyJson 0 (ascii "ok") _) _ _).database.accounts _
    rw [sendJson_database]
    refine ⟨hneat, ?_⟩
    rw [haccounts]
    exact hshown.symm ▸ hcopy

end Changes

end CCMeeting
