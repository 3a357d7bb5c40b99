import CCMeeting.DataServer.AccountStore
import CCMeeting.DataServer.HttpAnswers

/-! # The calls behind the requests

A request changes the tables by one call of the service at most. Whatever end the
statements of a call have: on a database whose texts are whole, a call does what
the account map says and reports it, or it does nothing and refuses. There is one
exception, which `login` has: a profile that cannot be read is shown as an empty
one.
-/

namespace CCMeeting

open ByteString Transition

/-! ## The call -/

/-- The call a request leads to. -/
def HttpRequest.call (platform : Platform) (s : Surroundings) (req : HttpRequest) : Option Call :=
  if req.method = .post ∧ req.target = ascii "/api/login" then
    (parseLoginRequest platform req.body).map fun r => .login s.login r.1 r.2
  else if req.method = .post ∧ req.target = ascii "/api/register" then
    (parseLoginRequest platform req.body).map fun r => .registerUser s.registerUser r.1 r.2
  else if req.method = .post ∧ req.target = ascii "/api/upload-avatar" then
    (parseUploadAvatarRequest platform req.body).map fun r =>
      .uploadAvatar s.uploadAvatar r.1 r.2.1 r.2.2
  else if req.method = .post ∧ req.target = ascii "/api/update-profile" then
    (parseUpdateProfileRequest platform req.body).map fun r =>
      .updateProfile s.updateProfile r.1 r.2
  else none

/-- No name or profile of the call has a zero byte. -/
def Call.Plain : Call → Prop
  | .login _ username _ | .registerUser _ username _ => 0 ∉ username
  | .uploadAvatar _ _ _ _ => True
  | .updateProfile _ _ fields => fields.Plain

instance : (call : Call) → Decidable call.Plain
  | .login _ username _ => inferInstanceAs (Decidable (0 ∉ username))
  | .registerUser _ username _ => inferInstanceAs (Decidable (0 ∉ username))
  | .uploadAvatar _ _ _ _ => inferInstanceAs (Decidable True)
  | .updateProfile _ _ fields => inferInstanceAs (Decidable fields.Plain)

section Handler

variable {platform : Platform} {crypto : Crypto} {assets : AssetsConfig}

@[simp] theorem sendJson_database (status : ℕ) (root : Json) (req : HttpRequest) (d : Database) :
    (sendJson platform status root req d).database = d := by
  unfold sendJson
  cases platform.dump root <;> rfl

/-- A document that is well formed is sent. -/
theorem sendJson_eq (platform : Platform) {root : Json} (hroot : root.utf8 = true) (status : ℕ)
    (req : HttpRequest) (d : Database) : ∃ body, platform.dump root = some body ∧
      sendJson platform status root req d = ⟨[makeJsonResponse status body req], none, d⟩ := by
  have hdump := platform.dump_isSome root
  rw [hroot] at hdump
  rcases Option.isSome_iff_exists.mp hdump with ⟨body, hbody⟩
  refine ⟨body, hbody, ?_⟩
  rw [sendJson, hbody]
  rfl

variable (platform crypto assets) in
theorem handleEndpoint_database (s : Surroundings) (req : HttpRequest) (d : Database) :
    (handleEndpoint platform crypto assets s req d).database =
      match req.call platform s with
      | some call => (serve crypto assets d call).2
      | none => d := by
  unfold handleEndpoint HttpRequest.call
  split_ifs
  · unfold handleLogin
    cases parseLoginRequest platform req.body with
    | none => exact sendJson_database _ _ _ _
    | some r => exact sendJson_database _ _ _ _
  · unfold handleRegister
    cases parseLoginRequest platform req.body with
    | none => exact sendJson_database _ _ _ _
    | some r => exact sendJson_database _ _ _ _
  · unfold handleUploadAvatar
    cases parseUploadAvatarRequest platform req.body with
    | none => exact sendJson_database _ _ _ _
    | some r => exact sendJson_database _ _ _ _
  · unfold handleUpdateProfile
    cases parseUpdateProfileRequest platform req.body with
    | none => exact sendJson_database _ _ _ _
    | some r => exact sendJson_database _ _ _ _
  · exact sendJson_database _ _ _ _

/-- Only the call of a request changes anything. -/
theorem handleRequest_database (s : Surroundings) (req : HttpRequest) (d : Database) :
    (handleRequest platform crypto assets s req d).database =
      match req.call platform s with
      | some call => (serve crypto assets d call).2
      | none => d := by
  have hcall (h : req.method ≠ .post) : req.call platform s = none := by
    simp [HttpRequest.call, h]
  have hendpoint := handleEndpoint_database platform crypto assets s req d
  unfold handleRequest
  split_ifs with hoptions hget hhealth
  · rw [hcall (by simp [hoptions])]
    rfl
  · rw [hcall (by simp [hget])]
    rfl
  · rw [hcall (by simp [hget])] at hendpoint ⊢
    cases tryServeStaticFile s.fs req.target assets with
    | error e => rfl
    | ok file =>
      cases file with
      | some file => rfl
      | none => exact hendpoint
  · exact hendpoint

end Handler

/-! ## Whatever end the statements have -/

namespace Database

variable {d : Database} (crypto : Crypto) (assets : AssetsConfig)

/-- A login is refused, or it shows the account. -/
theorem Neat.login_cases (hd : d.Neat) {o : LoginOutcomes} (hload : o.load = .done)
    {username : ByteString} (hplain : 0 ∉ username) (password : ByteString) :
    (CCMeeting.login crypto d o username password).success = false ∨
      ∃ a, d.accounts.account username = some a ∧
        CCMeeting.login crypto d o username password =
          { success := true, message := ascii "ok", user := a.info username } := by
  by_cases hfind : o.find = .done
  · have ho : o = ⟨.done, .done⟩ := by
      rcases o with ⟨find, load⟩
      rw [show find = _ from hfind, show load = _ from hload]
    rw [ho, hd.login crypto (Or.inl hplain)]
    unfold AccountMap.login
    split_ifs
    · exact Or.inl rfl
    · cases haccount : d.accounts.account username with
      | none => exact Or.inl rfl
      | some a =>
        dsimp only
        split_ifs
        · exact Or.inl rfl
        · exact Or.inl rfl
        · exact Or.inr ⟨a, rfl, rfl⟩
  · left
    unfold CCMeeting.login findCredentialByUsername
    rw [if_neg hfind]
    split_ifs <;> rfl

/-- An update is refused, or it is made. -/
theorem Neat.updateProfile_cases (hd : d.Neat) (o : UpdateOutcomes) (userId : UInt64)
    {fields : Profile ByteString} (hplain : fields.Plain) :
    (CCMeeting.updateProfile d o userId fields).1.success = false ∧
        (CCMeeting.updateProfile d o userId fields).2 = d ∨
      (CCMeeting.updateProfile d o userId fields).1 =
          { success := true, message := ascii "ok", fields } ∧
        (CCMeeting.updateProfile d o userId fields).2.accounts =
          d.accounts.update userId (fun a => { a with fields }) ∧
        (CCMeeting.updateProfile d o userId fields).2.Neat := by
  unfold CCMeeting.updateProfile
  cases hproblem : profileProblem userId fields with
  | some message => exact Or.inl ⟨rfl, rfl⟩
  | none =>
    dsimp only
    by_cases hexists : d.userExists o.exists_ userId = true
    swap
    · rw [if_pos (by simpa using hexists)]
      exact Or.inl ⟨rfl, rfl⟩
    rw [hexists, Bool.not_true, if_neg Bool.false_ne_true]
    -- a user that has been found is there, whatever the statement for the update comes to
    have hdone : o.exists_ = .done := by
      simp only [userExists, Bool.and_eq_true, decide_eq_true_eq] at hexists
      exact hexists.1.2
    rw [hdone] at hexists
    have hid := hd.toSound.userExists_iff.mp hexists
    by_cases hupdate : o.update = .done
    · have hmade := hd.updateFields hid hplain (nickname_of_profileProblem hproblem)
      rw [hupdate]
      rcases hrow : d.updateProfile .done userId fields with ⟨_ | _, d'⟩
      · rw [hrow] at hmade
        exact absurd hmade.1 Bool.false_ne_true
      · rw [hrow] at hmade
        exact Or.inr ⟨rfl, hmade.2⟩
    · have hrow : d.updateProfile o.update userId fields = (false, d) := by
        unfold Database.updateProfile
        rcases updateProfileRow_cases hd.toSound o.update userId
          (fun p => { p with fields := fields.map fun s => some (cStr s) }) with ⟨h, _⟩ | ⟨_, h⟩
        · exact absurd h hupdate
        · exact h
      rw [hrow]
      exact Or.inl ⟨rfl, rfl⟩

/-- An upload is refused, or the account has the URL that is reported. -/
theorem Neat.uploadAvatar_cases (hd : d.Neat) (o : UploadOutcomes) (userId : UInt64)
    (mime dataBase64 : ByteString) :
    (CCMeeting.uploadAvatar crypto assets d o userId mime dataBase64).1.success = false ∧
        (CCMeeting.uploadAvatar crypto assets d o userId mime dataBase64).2 = d ∨
      (CCMeeting.uploadAvatar crypto assets d o userId mime dataBase64).1 =
          { success := true, message := ascii "ok"
            avatarUrl := uploadedAvatarUrl assets o.random userId mime } ∧
        (CCMeeting.uploadAvatar crypto assets d o userId mime dataBase64).2.accounts =
          d.accounts.update userId (fun a =>
            { a with avatar := cStr (uploadedAvatarUrl assets o.random userId mime) }) ∧
        (CCMeeting.uploadAvatar crypto assets d o userId mime dataBase64).2.Neat := by
  unfold CCMeeting.uploadAvatar
  by_cases hzero : userId = 0
  · rw [if_pos hzero]
    exact Or.inl ⟨rfl, rfl⟩
  rw [if_neg hzero]
  by_cases hmime : extensionForMime mime = []
  · rw [if_pos hmime]
    exact Or.inl ⟨rfl, rfl⟩
  rw [if_neg hmime]
  by_cases hexists : d.userExists o.exists_ userId = true
  swap
  · rw [if_pos (by simpa using hexists)]
    exact Or.inl ⟨rfl, rfl⟩
  rw [hexists, Bool.not_true, if_neg Bool.false_ne_true]
  have hdone : o.exists_ = .done := by
    simp only [userExists, Bool.and_eq_true, decide_eq_true_eq] at hexists
    exact hexists.1.2
  rw [hdone] at hexists
  have hid := hd.toSound.userExists_iff.mp hexists
  cases crypto.base64Decode dataBase64 with
  | none => exact Or.inl ⟨rfl, rfl⟩
  | some decoded =>
    dsimp only
    by_cases hlarge : assets.maxAvatarBytes < decoded.length
    · rw [if_pos hlarge]
      exact Or.inl ⟨rfl, rfl⟩
    rw [if_neg hlarge]
    rcases saveAvatar assets o with e | _ | _
    · exact Or.inl ⟨rfl, rfl⟩
    · exact Or.inl ⟨rfl, rfl⟩
    · dsimp only
      rw [← uploadedAvatarUrl]
      generalize uploadedAvatarUrl assets o.random userId mime = avatarUrl
      by_cases hupdate : o.update = .done
      · have hmade := hd.updateAvatarUrl hid avatarUrl
        rw [hupdate]
        rcases hrow : d.updateAvatarUrl .done userId avatarUrl with ⟨_ | _, d'⟩
        · rw [hrow] at hmade
          exact absurd hmade.1 Bool.false_ne_true
        · rw [hrow] at hmade
          exact Or.inr ⟨rfl, hmade.2⟩
      · have hrow : d.updateAvatarUrl o.update userId avatarUrl = (false, d) := by
          unfold Database.updateAvatarUrl
          rcases updateProfileRow_cases hd.toSound o.update userId
            (fun p => { p with avatarUrl := some (cStr avatarUrl) }) with ⟨h, _⟩ | ⟨_, h⟩
          · exact absurd h hupdate
          · exact h
        rw [hrow]
        exact Or.inl ⟨rfl, rfl⟩

/-- A registration adds a new account, or none. -/
theorem Neat.registerUser_cases (hd : d.Neat) (o : RegisterOutcomes) {username : ByteString}
    (hplain : 0 ∉ username) (password : ByteString) :
    (CCMeeting.registerUser crypto assets d o username password).2.Neat ∧
      ((CCMeeting.registerUser crypto assets d o username password).2.accounts = d.accounts ∨
        d.accounts.account username = none ∧
          (CCMeeting.registerUser crypto assets d o username password).2.accounts =
            d.accounts.insert username
              (d.accounts.newAccount crypto assets username password)) := by
  by_cases hempty : username = [] ∨ password = []
  · rw [CCMeeting.registerUser, if_pos hempty]
    exact ⟨hd, Or.inl rfl⟩
  rcases registerUser_section crypto assets d o username password with hsame | hrows
  · rw [hsame]
    exact ⟨hd, Or.inl rfl⟩
  rw [hrows]
  have hcreated := createRows_created hd.toSound o.create username (crypto.sha256Hex password)
    assets.defaultAvatarUrl
  generalize d.createRows o.create username (crypto.sha256Hex password)
    assets.defaultAvatarUrl = r at hcreated
  have hname : username ≠ [] ∧ 0 ∉ username := ⟨fun h => hempty (Or.inl h), hplain⟩
  cases hcreated with
  | @rows rowid _ haccepts =>
    rw [cStr_of_plain hplain] at haccepts
    rw [cStr_of_plain hplain, cStr_of_plain (plain_sha256Hex crypto password)]
    rcases hd.withUser crypto assets hname haccepts rowid with ⟨hneat, hadded, _⟩
    exact ⟨hneat, Or.inr ⟨hd.toSound.account_eq_none.mpr haccepts.1, hadded⟩⟩
  | @nothing rowid _ =>
    exact ⟨⟨⟨rfl, hd.tables⟩, hd.clean⟩, Or.inl (hd.toSound.accounts_eq rowid)⟩

end Database

/-! ## What a call leaves alone -/

/-- The call may change the account of that name. -/
def Call.Concerns (m : AccountMap) (me : ByteString) : Call → Prop
  | .login _ _ _ | .registerUser _ _ _ => False
  | .uploadAvatar _ userId _ _ | .updateProfile _ userId _ =>
    (m.account me).any (fun a => a.userId = userId.toNat) = true

instance (m : AccountMap) (me : ByteString) : (call : Call) → Decidable (call.Concerns m me)
  | .login _ _ _ => inferInstanceAs (Decidable False)
  | .registerUser _ _ _ => inferInstanceAs (Decidable False)
  | .uploadAvatar _ _ _ _ => inferInstanceAs (Decidable (_ = true))
  | .updateProfile _ _ _ => inferInstanceAs (Decidable (_ = true))

/-- No account goes away or gets another id, and the account of that name is as it
was. -/
structure AccountMap.Keeps (me : ByteString) (m m' : AccountMap) : Prop where
  ids : ∀ {name a}, m.account name = some a →
    ∃ a', m'.account name = some a' ∧ a'.userId = a.userId
  me : ∀ {a}, m.account me = some a → m'.account me = some a

namespace AccountMap

variable {me : ByteString} {m m' : AccountMap}

theorem Keeps.refl (me : ByteString) (m : AccountMap) : m.Keeps me m :=
  ⟨fun h => ⟨_, h, rfl⟩, id⟩

theorem keeps_insert {username : ByteString} (hfree : m.account username = none) (a : Account) :
    m.Keeps me (m.insert username a) := by
  have hkept : ∀ {name b}, m.account name = some b →
      (m.insert username a).account name = some b := by
    intro name b hb
    have hne : name ≠ username := by
      rintro rfl
      rw [hfree] at hb
      cases hb
    rw [account_insert, if_neg hne]
    exact hb
  exact ⟨fun h => ⟨_, hkept h, rfl⟩, hkept⟩

theorem keeps_update {userId : UInt64} {f : Account → Account} (hf : ∀ a, (f a).userId = a.userId)
    (hme : ¬(m.account me).any (fun a => a.userId = userId.toNat) = true) :
    m.Keeps me (m.update userId f) := by
  constructor
  · intro name a ha
    rw [account_update, ha]
    refine ⟨_, rfl, ?_⟩
    dsimp only
    split_ifs
    · exact hf a
    · rfl
  · intro a ha
    rw [ha] at hme
    rw [account_update, ha, Option.map_some, if_neg (by simpa using hme)]

end AccountMap

/-- A call with whole texts that does not concern an account. -/
theorem serve_kept {d : Database} (hd : d.Neat) (crypto : Crypto)
    (assets : AssetsConfig) {me : ByteString} {call : Call} (hplain : call.Plain)
    (hother : ¬call.Concerns d.accounts me) :
    (serve crypto assets d call).2.Neat ∧
      d.accounts.Keeps me (serve crypto assets d call).2.accounts := by
  cases call with
  | login o username password => exact ⟨hd, .refl me _⟩
  | registerUser o username password =>
    rcases hd.registerUser_cases crypto assets o hplain password with ⟨hneat, hsame | ⟨hfree, hnew⟩⟩
    · refine ⟨hneat, ?_⟩
      show d.accounts.Keeps me (registerUser crypto assets d o username password).2.accounts
      rw [hsame]
      exact .refl me _
    · refine ⟨hneat, ?_⟩
      show d.accounts.Keeps me (registerUser crypto assets d o username password).2.accounts
      rw [hnew]
      exact AccountMap.keeps_insert hfree _
  | uploadAvatar o userId mime dataBase64 =>
    rcases hd.uploadAvatar_cases crypto assets o userId mime dataBase64 with
      ⟨_, hsame⟩ | ⟨_, haccounts, hneat⟩
    · show (uploadAvatar crypto assets d o userId mime dataBase64).2.Neat ∧ d.accounts.Keeps me
        (uploadAvatar crypto assets d o userId mime dataBase64).2.accounts
      rw [hsame]
      exact ⟨hd, .refl me _⟩
    · refine ⟨hneat, ?_⟩
      show d.accounts.Keeps me
        (uploadAvatar crypto assets d o userId mime dataBase64).2.accounts
      rw [haccounts]
      exact AccountMap.keeps_update (fun _ => rfl) hother
  | updateProfile o userId fields =>
    rcases hd.updateProfile_cases o userId hplain with ⟨_, hsame⟩ | ⟨_, haccounts, hneat⟩
    · show (updateProfile d o userId fields).2.Neat ∧
        d.accounts.Keeps me (updateProfile d o userId fields).2.accounts
      rw [hsame]
      exact ⟨hd, .refl me _⟩
    · refine ⟨hneat, ?_⟩
      show d.accounts.Keeps me (updateProfile d o userId fields).2.accounts
      rw [haccounts]
      exact AccountMap.keeps_update (fun _ => rfl) hother

end CCMeeting
