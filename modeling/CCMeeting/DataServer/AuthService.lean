import CCMeeting.DataServer.UserRepository
import CCMeeting.Lib.JsonText

/-! # The account service

`service::AuthService`: the four calls of the HTTP interface, with the ends of
the statements and of the file system calls they lead to. Exceptions of the
repository and of the file system are caught here.
-/

namespace CCMeeting

open ByteString Transition

/-! ## The program -/

/-- `model::LoginResult`. -/
structure LoginResult where
  success : Bool := false
  code : ℕ := 0
  message : ByteString := []
  user : UserInfo := ⟨0, [], [], ⟨[], [], [], [], [], [], [], []⟩⟩
deriving DecidableEq

/-- `model::AvatarUploadResult`. -/
structure AvatarUploadResult where
  success : Bool := false
  code : ℕ := 0
  message : ByteString := []
  avatarUrl : ByteString := []
deriving DecidableEq

/-- `model::ProfileUpdateResult`. -/
structure ProfileUpdateResult where
  success : Bool := false
  code : ℕ := 0
  message : ByteString := []
  fields : Profile ByteString := ⟨[], [], [], [], [], [], [], []⟩
deriving DecidableEq

/-- Two hexadecimal digits for every byte. -/
def hex (bytes : ByteString) : ByteString :=
  bytes.flatMap fun b => [JsonText.hexDigit (b.toNat / 16), JsonText.hexDigit (b.toNat % 16)]

/-- Hexadecimal text consists of digits. -/
theorem mem_hex {bytes : ByteString} {b : UInt8} (h : b ∈ hex bytes) :
    ∃ n : Fin 16, b = JsonText.hexDigit n := by
  rcases List.mem_flatMap.mp h with ⟨c, _, hc⟩
  have hlt := c.toNat_lt
  simp only [List.mem_cons, List.not_mem_nil, or_false] at hc
  rcases hc with hc | hc
  · exact ⟨⟨c.toNat / 16, by omega⟩, hc⟩
  · exact ⟨⟨c.toNat % 16, by omega⟩, hc⟩

/-- What the service takes from OpenSSL. -/
structure Crypto where
  /-- the digest of `SHA256` -/
  sha256 : ByteString → ByteString
  /-- `BIO_read` through the base64 filter; none for a negative count -/
  bioReadBase64 : ByteString → Option ByteString

namespace Crypto

/-- `util::sha256_hex`. -/
def sha256Hex (crypto : Crypto) (plain : ByteString) : ByteString := hex (crypto.sha256 plain)

/-- `util::base64_decode`. -/
def base64Decode (crypto : Crypto) (encoded : ByteString) : Option ByteString :=
  if encoded = [] then some [] else crypto.bioReadBase64 encoded

end Crypto

/-- `random_hex` on the bytes of `RAND_bytes`. -/
def randomHex (random : Option ByteString) : ByteString :=
  match random with
  | none => ascii "fallback"
  | some bytes => hex bytes

namespace AssetsConfig

/-- Drop the separator at the end of a base URL. -/
def withoutSlash (base : ByteString) : ByteString :=
  if base.getLast? = some slash then base.dropLast else base

/-- `AuthServerConfig::default_avatar_url`. -/
def defaultAvatarUrl (assets : AssetsConfig) : ByteString :=
  if assets.defaultAvatarPath.head? = some slash then
    withoutSlash assets.publicBaseUrl ++ assets.defaultAvatarPath
  else assets.publicBaseUrl ++ assets.defaultAvatarPath

/-- `join_public_url`, for a path that begins with a separator. -/
def joinPublicUrl (assets : AssetsConfig) (relative : ByteString) : ByteString :=
  withoutSlash assets.publicBaseUrl ++ relative

end AssetsConfig

/-- `extension_for_mime`. -/
def extensionForMime (mime : ByteString) : ByteString :=
  if mime = ascii "image/png" then ascii ".png"
  else if mime = ascii "image/jpeg" ∨ mime = ascii "image/jpg" then ascii ".jpg"
  else if mime = ascii "image/webp" then ascii ".webp"
  else []

/-- The ends of the statements of `login`; the log it writes is read by nobody. -/
structure LoginOutcomes where
  find : Outcome
  load : Outcome
deriving DecidableEq

/-- The ends of the statements of `register_user`. -/
structure RegisterOutcomes where
  find : Outcome
  create : CreateOutcomes
  load : Outcome
deriving DecidableEq

/-- What `upload_avatar` meets: its statements, the file system and `RAND_bytes`. -/
structure UploadOutcomes where
  exists_ : Outcome
  update : Outcome
  executableDir : Except FilesystemError Path
  createDirectories : Except FilesystemError Unit
  opened : Bool
  random : Option ByteString

/-- The ends of the statements of `update_profile`. -/
structure UpdateOutcomes where
  exists_ : Outcome
  update : Outcome
deriving DecidableEq

/-- The reply of a handler that has caught an exception. -/
def LoginResult.caught (result : LoginResult) : LoginResult :=
  { result with code := 500, message := ascii "internal server error" }

section Service

variable (crypto : Crypto) (assets : AssetsConfig)

/-- The result of a successful login or registration. An exception of
`load_user_info` is caught when `success` has been set already. -/
def LoginResult.loaded (user : Except StdException UserInfo) : LoginResult :=
  match user with
  | .error _ => LoginResult.caught { success := true, message := ascii "ok" }
  | .ok user => { success := true, message := ascii "ok", user }

/-- `AuthService::login`. -/
def login (d : Database) (o : LoginOutcomes) (username password : ByteString) : LoginResult :=
  if username = [] ∨ password = [] then
    { code := 400, message := ascii "username and password are required" }
  else
    match d.findCredentialByUsername o.find username with
    | .error _ => LoginResult.caught {}
    | .ok none => { code := 401, message := ascii "invalid username or password" }
    | .ok (some credential) =>
      if credential.status ≠ 1 then
        { code := 403, message := ascii "account disabled or locked" }
      else if crypto.sha256Hex password ≠ credential.passwordHash then
        { code := 401, message := ascii "invalid username or password" }
      else .loaded (d.loadUserInfo o.load credential.userId credential.username)

/-- `AuthService::register_user`. -/
def registerUser (d : Database) (o : RegisterOutcomes) (username password : ByteString) :
    LoginResult × Database :=
  if username = [] ∨ password = [] then
    ({ code := 400, message := ascii "username and password are required" }, d)
  else if 50 < username.length then ({ code := 400, message := ascii "username too long" }, d)
  else
    match d.findCredentialByUsername o.find username with
    | .error _ => (LoginResult.caught {}, d)
    | .ok (some _) => ({ code := 409, message := ascii "username already exists" }, d)
    | .ok none =>
      match d.createUser d o.create username (crypto.sha256Hex password)
        assets.defaultAvatarUrl with
      | (.error _, d) => (LoginResult.caught {}, d)
      | (.ok none, d) => ({ code := 500, message := ascii "failed to create user" }, d)
      | (.ok (some userId), d) => (.loaded (d.loadUserInfo o.load userId username), d)

/-- The part of `upload_avatar` that may throw: the directory and the file. -/
def saveAvatar (o : UploadOutcomes) : Except FilesystemError Bool := do
  if (Path.parse assets.uploadRoot).absolute then pure ()
  else
    let _ ← o.executableDir
    pure ()
  o.createDirectories
  pure o.opened

/-- `AuthService::upload_avatar`. -/
def uploadAvatar (d : Database) (o : UploadOutcomes) (userId : UInt64)
    (mime dataBase64 : ByteString) : AvatarUploadResult × Database :=
  if userId = 0 then ({ code := 400, message := ascii "user_id is required" }, d)
  else if extensionForMime mime = [] then
    ({ code := 400, message := ascii "unsupported mime type" }, d)
  else if !d.userExists o.exists_ userId then
    ({ code := 404, message := ascii "user not found" }, d)
  else
    match crypto.base64Decode dataBase64 with
    | none => ({ code := 400, message := ascii "invalid base64 data" }, d)
    | some decoded =>
      if assets.maxAvatarBytes < decoded.length then
        ({ code := 413, message := ascii "avatar too large" }, d)
      else
        match saveAvatar assets o with
        | .error _ => ({ code := 500, message := ascii "internal server error" }, d)
        | .ok false => ({ code := 500, message := ascii "failed to save avatar" }, d)
        | .ok true =>
          let avatarUrl := assets.joinPublicUrl
            (ascii "/uploads/avatars/" ++ JsonText.decimal userId.toNat ++ ascii "/" ++
              (randomHex o.random ++ extensionForMime mime))
          match d.updateAvatarUrl o.update userId avatarUrl with
          | (false, d) => ({ code := 500, message := ascii "failed to update profile" }, d)
          | (true, d) => ({ success := true, message := ascii "ok", avatarUrl }, d)

/-- The checks of `update_profile` on its arguments: the message of the first
one that fails. -/
def profileProblem (userId : UInt64) (fields : Profile ByteString) : Option ByteString :=
  if userId = 0 then some (ascii "user_id is required")
  else if fields.nickname = [] then some (ascii "nickname is required")
  else if 64 < fields.nickname.length then some (ascii "nickname too long")
  else if 512 < fields.info.length then some (ascii "info too long")
  else if fields.gender ∉ [[], ascii "male", ascii "female", ascii "other"] then
    some (ascii "invalid gender")
  else if fields.birthday ≠ [] ∧ (fields.birthday.length ≠ 10 ∨
      fields.birthday[4]? ≠ some 45 ∨ fields.birthday[7]? ≠ some 45) then
    some (ascii "invalid birthday")
  else if 256 < fields.address.length ∨ 32 < fields.phone.length ∨ 128 < fields.email.length ∨
      2048 < fields.extraJson.length then some (ascii "field too long")
  else none

/-- `AuthService::update_profile`. -/
def updateProfile (d : Database) (o : UpdateOutcomes) (userId : UInt64)
    (fields : Profile ByteString) : ProfileUpdateResult × Database :=
  match profileProblem userId fields with
  | some message => ({ code := 400, message }, d)
  | none =>
    if !d.userExists o.exists_ userId then
      ({ code := 404, message := ascii "user not found" }, d)
    else
      match d.updateProfile o.update userId fields with
      | (false, d) => ({ code := 500, message := ascii "failed to update profile" }, d)
      | (true, d) => ({ success := true, message := ascii "ok", fields }, d)

/-! ## Calls -/

/-- A call of the interface, with what it meets. -/
inductive Call where
  | login (o : LoginOutcomes) (username password : ByteString)
  | registerUser (o : RegisterOutcomes) (username password : ByteString)
  | uploadAvatar (o : UploadOutcomes) (userId : UInt64) (mime dataBase64 : ByteString)
  | updateProfile (o : UpdateOutcomes) (userId : UInt64) (fields : Profile ByteString)

/-- What a call returns. -/
inductive Reply where
  | login (result : LoginResult)
  | avatar (result : AvatarUploadResult)
  | profile (result : ProfileUpdateResult)
deriving DecidableEq

/-- One call of the service. -/
def serve (d : Database) : Call → Reply × Database
  | .login o username password => (.login (login crypto d o username password), d)
  | .registerUser o username password =>
    let (result, d) := registerUser crypto assets d o username password
    (.login result, d)
  | .uploadAvatar o userId mime dataBase64 =>
    let (result, d) := uploadAvatar crypto assets d o userId mime dataBase64
    (.avatar result, d)
  | .updateProfile o userId fields =>
    let (result, d) := updateProfile d o userId fields
    (.profile result, d)

/-! ## What a call does to the tables -/

/-- Where the avatar a client sends is to be found. -/
def uploadedAvatarUrl (random : Option ByteString) (userId : UInt64) (mime : ByteString) :
    ByteString :=
  assets.joinPublicUrl
    (ascii "/uploads/avatars/" ++ JsonText.decimal userId.toNat ++ ascii "/" ++
      (randomHex random ++ extensionForMime mime))

/-- The section in which a call writes, if it gets that far. -/
def Call.toSection : Call → Option Section
  | .login _ _ _ => none
  | .registerUser o username password =>
    some (.createRows o.create username (crypto.sha256Hex password) assets.defaultAvatarUrl)
  | .uploadAvatar o userId mime _ =>
    some (.updateAvatarUrl o.update userId (uploadedAvatarUrl assets o.random userId mime))
  | .updateProfile o userId fields => some (.updateProfile o.update userId fields)

theorem registerUser_section (d : Database) (o : RegisterOutcomes)
    (username password : ByteString) :
    (registerUser crypto assets d o username password).2 = d ∨
    (registerUser crypto assets d o username password).2 =
      (d.createRows o.create username (crypto.sha256Hex password) assets.defaultAvatarUrl).2 := by
  unfold registerUser Database.createUser
  by_cases hempty : username = [] ∨ password = []
  · rw [if_pos hempty]
    exact Or.inl rfl
  rw [if_neg hempty]
  by_cases hlong : 50 < username.length
  · rw [if_pos hlong]
    exact Or.inl rfl
  rw [if_neg hlong]
  rcases d.findCredentialByUsername o.find username with e | _ | credential
  · exact Or.inl rfl
  · rcases d.findCredentialByUsername o.create.check username with e | _ | credential
    · exact Or.inl rfl
    · -- the transaction is entered
      rcases d.createRows o.create username (crypto.sha256Hex password)
        assets.defaultAvatarUrl with ⟨_ | userId, d'⟩
      · exact Or.inr rfl
      · exact Or.inr rfl
    · exact Or.inl rfl
  · exact Or.inl rfl

theorem uploadAvatar_section (d : Database) (o : UploadOutcomes) (userId : UInt64)
    (mime dataBase64 : ByteString) :
    (uploadAvatar crypto assets d o userId mime dataBase64).2 = d ∨
    (uploadAvatar crypto assets d o userId mime dataBase64).2 =
      (d.updateAvatarUrl o.update userId (uploadedAvatarUrl assets o.random userId mime)).2 := by
  unfold uploadAvatar uploadedAvatarUrl
  split_ifs
  · exact Or.inl rfl
  · exact Or.inl rfl
  · exact Or.inl rfl
  rcases crypto.base64Decode dataBase64 with _ | decoded
  · exact Or.inl rfl
  dsimp only
  split_ifs
  · exact Or.inl rfl
  rcases saveAvatar assets o with e | _ | _
  · exact Or.inl rfl
  · exact Or.inl rfl
  · -- the file is written
    generalize assets.joinPublicUrl _ = avatarUrl
    dsimp only
    rcases d.updateAvatarUrl o.update userId avatarUrl with ⟨_ | _, d'⟩
    · exact Or.inr rfl
    · exact Or.inr rfl

theorem updateProfile_section (d : Database) (o : UpdateOutcomes) (userId : UInt64)
    (fields : Profile ByteString) :
    (updateProfile d o userId fields).2 = d ∨
    (updateProfile d o userId fields).2 = (d.updateProfile o.update userId fields).2 := by
  unfold updateProfile
  rcases profileProblem userId fields with _ | message
  · dsimp only
    split_ifs
    · exact Or.inl rfl
    · rcases d.updateProfile o.update userId fields with ⟨_ | _, d'⟩
      · exact Or.inr rfl
      · exact Or.inr rfl
  · exact Or.inl rfl

/-- A call changes nothing, or writes in its one section. -/
theorem serve_section (d : Database) (call : Call) :
    (serve crypto assets d call).2 = d ∨
    ∃ e, call.toSection crypto assets = some e ∧
      (serve crypto assets d call).2 = e.apply d := by
  cases call with
  | login o username password => exact Or.inl rfl
  | registerUser o username password =>
    exact (registerUser_section crypto assets d o username password).imp_right fun h => ⟨_, rfl, h⟩
  | uploadAvatar o userId mime dataBase64 =>
    exact (uploadAvatar_section crypto assets d o userId mime dataBase64).imp_right
      fun h => ⟨_, rfl, h⟩
  | updateProfile o userId fields =>
    exact (updateProfile_section d o userId fields).imp_right fun h => ⟨_, rfl, h⟩

end Service

/-- Whatever fails: the names are unique, every user has exactly one profile,
no transaction is left open; `create_user` returns an id exactly when both rows
of the user are committed, and without one the tables are as before. Every call
of the service leads to such a database again. -/
theorem account_rows (crypto : Crypto) (assets : AssetsConfig) {d : Database}
    (h : Reachable sections d) :
    (∀ call, Reachable sections (serve crypto assets d call).2) ∧
    d.working = none ∧ (d.committed.users.map UserRow.username).Nodup ∧
    (∀ u ∈ d.committed.users,
      (d.committed.profiles.map ProfileRow.userId).count u.userId = 1) ∧
    ∀ checked o username passwordHash defaultAvatarUrl,
      (∀ userId, (d.createUser checked o username passwordHash defaultAvatarUrl).1 =
          .ok (some userId) ↔
        RowsCommitted d (d.createUser checked o username passwordHash defaultAvatarUrl).2 userId
          username passwordHash defaultAvatarUrl) ∧
      ((d.createUser checked o username passwordHash defaultAvatarUrl).1 = .ok none →
        (d.createUser checked o username passwordHash defaultAvatarUrl).2.committed =
          d.committed ∧
        (d.createUser checked o username passwordHash defaultAvatarUrl).2.working = none) := by
  have hd := sections_sound h
  refine ⟨?_, hd.idle, hd.tables.usernames, ?_, ?_⟩
  · intro call
    rcases serve_section crypto assets d call with hsame | ⟨e, _, hwrite⟩
    · rw [hsame]
      exact h
    · exact h.step hwrite
  · intro u hu
    rw [hd.tables.profiles]
    exact List.count_eq_one_of_mem hd.tables.userIds (List.mem_map_of_mem hu)
  · intro checked o username passwordHash defaultAvatarUrl
    unfold Database.createUser
    cases checked.findCredentialByUsername o.check username with
    | error e =>
      refine ⟨fun userId => iff_of_false ?_ not_rowsCommitted_self, ?_⟩
      · intro h
        cases h
      · intro h
        cases h
    | ok found =>
      cases found with
      | some credential =>
        refine ⟨fun userId => iff_of_false ?_ not_rowsCommitted_self, fun _ => ⟨rfl, hd.idle⟩⟩
        intro h
        cases h
      | none =>
        -- the username was free when checked; whether the rows are committed is decided by the
        -- transaction
        have hcreated := createRows_created hd o username passwordHash defaultAvatarUrl
        constructor
        · intro userId
          rw [← hcreated.some_iff userId]
          simp only [Except.ok.injEq]
        · intro h
          exact hcreated.of_none (Except.ok.inj h)

/-- The first registration, and one whose second insertion fails. -/
theorem account_rows_of_first_user :
    let o : CreateOutcomes := ⟨.done, .done, .done, .done, .done⟩
    let d := (Database.create.createRows o (ascii "ann") (ascii "00") (ascii "/a.png")).2
    d.committed.users.length = 1 ∧
    (∀ u ∈ d.committed.users,
      (d.committed.profiles.map ProfileRow.userId).count u.userId = 1) ∧
    (d.createUser d { o with insertProfile := .failed } (ascii "bob") (ascii "00")
      []).2.committed = d.committed := by
  intro o d
  have h := account_rows ⟨fun _ => [], fun _ => none⟩ {}
    (d := d) (Reachable.init (T := sections) rfl |>.step (e := .createRows o _ _ _) rfl)
  exact ⟨by decide, h.2.2.2.1, ((h.2.2.2.2 d _ (ascii "bob") (ascii "00") []).2 rfl).1⟩

end CCMeeting
