import Mathlib.Data.List.TakeWhile
import CCMeeting.DataServer.AuthService
import CCMeeting.Lib.Machine
import CCMeeting.Lib.KeyedList

/-! # Accounts

The service over its two tables, against a map from full usernames to accounts.
The tables keep of a text only what a C string keeps: two names that differ
behind a zero byte are one account, and a profile text with a zero byte is
reported whole and stored cut. Everywhere else the service is the map.
-/

namespace CCMeeting

open ByteString Machine

/-! ## The map -/

/-- An account. -/
structure Account where
  userId : ℕ
  passwordHash : ByteString
  status : UInt32
  avatar : ByteString
  fields : Profile ByteString
deriving DecidableEq

/-- What a login shows of an account. -/
def Account.info (a : Account) (username : ByteString) : UserInfo :=
  { id := UInt64.ofNat a.userId, username, avatar := a.avatar, fields := a.fields }

/-- The accounts by their full names, and the last id given out. -/
@[ext] structure AccountMap where
  account : ByteString → Option Account
  lastId : ℕ

namespace AccountMap

/-- No account. -/
def empty : AccountMap := ⟨fun _ => none, 0⟩

/-- Some account has the id. -/
def HasId (m : AccountMap) (userId : UInt64) : Prop :=
  ∃ username a, m.account username = some a ∧ a.userId = userId.toNat

/-- A change of the account with an id. -/
def update (m : AccountMap) (userId : UInt64) (f : Account → Account) : AccountMap :=
  { m with
    account := fun username =>
      (m.account username).map fun a => if a.userId = userId.toNat then f a else a }

/-- A new account under a name that is free. -/
def insert (m : AccountMap) (username : ByteString) (a : Account) : AccountMap where
  account := fun name => if name = username then some a else m.account name
  lastId := m.lastId + 1

theorem account_insert (m : AccountMap) (username : ByteString) (a : Account) (name : ByteString) :
    (m.insert username a).account name = if name = username then some a else m.account name := rfl

theorem account_update (m : AccountMap) (userId : UInt64) (f : Account → Account)
    (name : ByteString) : (m.update userId f).account name =
      (m.account name).map fun a => if a.userId = userId.toNat then f a else a := rfl

section Calls

variable (crypto : Crypto) (assets : AssetsConfig)

/-- A new account; the server chooses its avatar, which has to fit a C string. -/
def newAccount (m : AccountMap) (username password : ByteString) : Account where
  userId := m.lastId + 1
  passwordHash := crypto.sha256Hex password
  status := 1
  avatar := cStr assets.defaultAvatarUrl
  fields := ⟨username, [], [], [], [], [], [], []⟩

/-- Login, on the map. -/
def login (m : AccountMap) (username password : ByteString) : LoginResult :=
  if username = [] ∨ password = [] then
    { code := 400, message := ascii "username and password are required" }
  else
    match m.account username with
    | none => { code := 401, message := ascii "invalid username or password" }
    | some a =>
      if a.status ≠ 1 then { code := 403, message := ascii "account disabled or locked" }
      else if crypto.sha256Hex password ≠ a.passwordHash then
        { code := 401, message := ascii "invalid username or password" }
      else { success := true, message := ascii "ok", user := a.info username }

/-- Registration, on the map. -/
def registerUser (m : AccountMap) (username password : ByteString) : LoginResult × AccountMap :=
  if username = [] ∨ password = [] then
    ({ code := 400, message := ascii "username and password are required" }, m)
  else if 50 < username.length then ({ code := 400, message := ascii "username too long" }, m)
  else
    match m.account username with
    | some _ => ({ code := 409, message := ascii "username already exists" }, m)
    | none =>
      if m.lastId < maxRowid then
        let a := m.newAccount crypto assets username password
        ({ success := true, message := ascii "ok", user := a.info username }, m.insert username a)
      else ({ code := 500, message := ascii "failed to create user" }, m)

open Classical in
/-- A new avatar, on the map. -/
noncomputable def uploadAvatar (m : AccountMap) (o : UploadOutcomes) (userId : UInt64)
    (mime dataBase64 : ByteString) : AvatarUploadResult × AccountMap :=
  if userId = 0 then ({ code := 400, message := ascii "user_id is required" }, m)
  else if extensionForMime mime = [] then
    ({ code := 400, message := ascii "unsupported mime type" }, m)
  else if m.HasId userId then
    match crypto.base64Decode dataBase64 with
    | none => ({ code := 400, message := ascii "invalid base64 data" }, m)
    | some decoded =>
      if assets.maxAvatarBytes < decoded.length then
        ({ code := 413, message := ascii "avatar too large" }, m)
      else
        match saveAvatar assets o with
        | .error _ => ({ code := 500, message := ascii "internal server error" }, m)
        | .ok false => ({ code := 500, message := ascii "failed to save avatar" }, m)
        | .ok true =>
          let avatarUrl := assets.joinPublicUrl
            (ascii "/uploads/avatars/" ++ JsonText.decimal userId.toNat ++ ascii "/" ++
              (randomHex o.random ++ extensionForMime mime))
          ({ success := true, message := ascii "ok", avatarUrl },
            m.update userId fun a => { a with avatar := cStr avatarUrl })
  else ({ code := 404, message := ascii "user not found" }, m)

open Classical in
/-- A new profile, on the map: every field is what is reported. -/
noncomputable def updateProfile (m : AccountMap) (userId : UInt64) (fields : Profile ByteString) :
    ProfileUpdateResult × AccountMap :=
  match profileProblem userId fields with
  | some message => ({ code := 400, message }, m)
  | none =>
    if m.HasId userId then
      ({ success := true, message := ascii "ok", fields },
        m.update userId fun a => { a with fields })
    else ({ code := 404, message := ascii "user not found" }, m)

/-- One call, on the map. -/
noncomputable def serve (m : AccountMap) : Call → Reply × AccountMap
  | .login _ username password => (.login (m.login crypto username password), m)
  | .registerUser _ username password =>
    let (result, m) := m.registerUser crypto assets username password
    (.login result, m)
  | .uploadAvatar o userId mime dataBase64 =>
    let (result, m) := m.uploadAvatar crypto assets o userId mime dataBase64
    (.avatar result, m)
  | .updateProfile _ userId fields =>
    let (result, m) := m.updateProfile userId fields
    (.profile result, m)

end Calls

end AccountMap

/-! ## The accounts in the tables -/

namespace Database

/-- The account of a user and the columns of his profile. -/
def accountOfRows (u : UserRow) (columns : Option ByteString × Profile (Option ByteString)) :
    Account where
  userId := u.userId
  passwordHash := u.passwordHash
  status := u.status
  avatar := columnText columns.1
  fields := columns.2.map columnText

/-- The account of a user. -/
def accountOf (d : Database) (u : UserRow) : Account :=
  accountOfRows u (d.profileColumns u.userId)

/-- The accounts in the tables. -/
def accounts (d : Database) : AccountMap where
  account username := (d.current.users.find? fun u => u.username = username).map d.accountOf
  lastId := d.current.sequence

end Database

/-- The statements of a call do what their SQL says. -/
def Call.Done : Call → Prop
  | .login o _ _ => o = ⟨.done, .done⟩
  | .registerUser o _ _ => o = ⟨.done, ⟨.done, .done, .done, .done, .done⟩, .done⟩
  | .uploadAvatar o _ _ _ => o.exists_ = .done ∧ o.update = .done
  | .updateProfile o _ _ => o = ⟨.done, .done⟩

/-- No text has a zero byte. -/
def Profile.Plain (fields : Profile ByteString) : Prop := fields.map cStr = fields

instance (fields : Profile ByteString) : Decidable fields.Plain :=
  inferInstanceAs (Decidable (_ = _))

/-- The call does not reach what is cut off at a zero byte: no name or profile
with one is stored, and no such name finds the account of another. -/
def Call.Faithful (crypto : Crypto) (m : AccountMap) : Call → Prop
  | .login _ username password => 0 ∉ username ∨ ∀ a, m.account (cStr username) = some a →
      a.status = 1 ∧ crypto.sha256Hex password ≠ a.passwordHash
  | .registerUser _ username password => 0 ∉ username ∨ 50 < username.length ∨ password = []
  | .uploadAvatar _ _ _ _ => True
  | .updateProfile _ userId fields =>
    fields.Plain ∨ profileProblem userId fields ≠ none ∨ ¬m.HasId userId

/-! ## What the texts in the tables are like -/

theorem cStr_of_plain {s : ByteString} (h : 0 ∉ s) : cStr s = s := by
  rw [cStr, List.takeWhile_eq_self_iff]
  intro b hb
  simp only [ne_eq, decide_not, Bool.not_eq_true', decide_eq_false_iff_not]
  rintro rfl
  exact h hb

theorem plain_cStr (s : ByteString) : 0 ∉ cStr s := by
  intro h
  have := List.mem_takeWhile_imp h
  simp at this

@[simp] theorem cStr_cStr (s : ByteString) : cStr (cStr s) = cStr s := cStr_of_plain (plain_cStr s)

theorem columnText_of_plain {s : ByteString} (h : 0 ∉ s) : columnText (some s) = s :=
  cStr_of_plain h

theorem hexDigit_ne_zero_all : ∀ n : Fin 16, JsonText.hexDigit n ≠ 0 := by decide +kernel

/-- Hexadecimal text has no zero byte. -/
theorem plain_hex (bytes : ByteString) : 0 ∉ hex bytes := by
  intro h
  rcases mem_hex h with ⟨n, hn⟩
  exact hexDigit_ne_zero_all n hn.symm

theorem plain_sha256Hex (crypto : Crypto) (s : ByteString) : 0 ∉ crypto.sha256Hex s := plain_hex _

/-- Names, hashes and nicknames survive being read back, names and nicknames
also the fallback for empty ones. -/
structure Tables.Clean (t : Tables) : Prop where
  usernames : ∀ u ∈ t.users, u.username ≠ [] ∧ 0 ∉ u.username
  hashes : ∀ u ∈ t.users, 0 ∉ u.passwordHash
  nicknames : ∀ p ∈ t.profiles, columnText p.fields.nickname ≠ []

/-- The databases the service refines the map from. -/
structure Database.Neat (d : Database) : Prop extends d.Sound where
  clean : d.committed.Clean

theorem Database.neat_create : Database.create.Neat where
  toSound := Database.sound_create
  clean := ⟨by simp [create, Tables.empty], by simp [create, Tables.empty],
    by simp [create, Tables.empty]⟩

/-! ## Looking up -/

namespace Tables

variable {t : Tables}

theorem Sound.find_username (h : t.Sound) {username : ByteString} {u : UserRow} :
    t.users.find? (fun u => u.username = username) = some u ↔
      u ∈ t.users ∧ u.username = username :=
  KeyedList.find_eq_some (l := ⟨t.users, h.usernames⟩)

theorem Sound.find_userId (h : t.Sound) {userId : ℕ} {u : UserRow} :
    t.users.find? (fun u => u.userId = userId) = some u ↔ u ∈ t.users ∧ u.userId = userId :=
  KeyedList.find_eq_some (l := ⟨t.users, h.userIds⟩)

theorem Sound.find_profile (h : t.Sound) {userId : ℕ} {p : ProfileRow} :
    t.profiles.find? (fun p => p.userId = userId) = some p ↔
      p ∈ t.profiles ∧ p.userId = userId :=
  KeyedList.find_eq_some (l := ⟨t.profiles, h.profiles ▸ h.userIds⟩)

/-- Every user has a profile. -/
theorem Sound.exists_profile (h : t.Sound) {u : UserRow} (hu : u ∈ t.users) :
    ∃ p ∈ t.profiles, p.userId = u.userId := by
  have hmem : u.userId ∈ t.profiles.map ProfileRow.userId := by
    rw [h.profiles]
    exact List.mem_map_of_mem hu
  exact List.mem_map.mp hmem

end Tables

namespace Database

variable {d : Database}

theorem Sound.current (hd : d.Sound) : d.current = d.committed := by
  rw [Database.current, hd.idle]
  rfl

theorem Sound.profileColumns (hd : d.Sound) {p : ProfileRow} (hp : p ∈ d.committed.profiles) :
    d.profileColumns p.userId = (p.avatarUrl, p.fields) := by
  unfold Database.profileColumns
  rw [hd.current, hd.tables.find_profile.mpr ⟨hp, rfl⟩]

theorem Sound.account_eq_some (hd : d.Sound) {username : ByteString} {a : Account} :
    d.accounts.account username = some a ↔
      ∃ u ∈ d.committed.users, u.username = username ∧ d.accountOf u = a := by
  show (d.current.users.find? _).map d.accountOf = some a ↔ _
  rw [hd.current, Option.map_eq_some_iff]
  constructor
  · rintro ⟨u, hfind, ha⟩
    rcases hd.tables.find_username.mp hfind with ⟨hu, hname⟩
    exact ⟨u, hu, hname, ha⟩
  · rintro ⟨u, hu, hname, ha⟩
    exact ⟨u, hd.tables.find_username.mpr ⟨hu, hname⟩, ha⟩

theorem Sound.account_eq_none (hd : d.Sound) {username : ByteString} :
    d.accounts.account username = none ↔
      ∀ u ∈ d.committed.users, u.username ≠ username := by
  show (d.current.users.find? _).map d.accountOf = none ↔ _
  rw [hd.current, Option.map_eq_none_iff, List.find?_eq_none]
  simp

theorem Sound.accountOf (hd : d.Sound) {u : UserRow} {p : ProfileRow}
    (hp : p ∈ d.committed.profiles) (hid : p.userId = u.userId) :
    d.accountOf u = accountOfRows u (p.avatarUrl, p.fields) := by
  rw [Database.accountOf, ← hid, hd.profileColumns hp]

theorem Sound.lastId (hd : d.Sound) : d.accounts.lastId = d.committed.sequence := by
  show d.current.sequence = _
  rw [hd.current]

/-- The accounts are what is committed. -/
theorem Sound.accounts_eq (hd : d.Sound) (rowid : ℕ) :
    (⟨d.committed, none, rowid⟩ : Database).accounts = d.accounts := by
  rcases d with ⟨committed, working, n⟩
  have hidle : working = none := hd.idle
  subst hidle
  rfl

/-- Ids fit into `uint64_t`. -/
theorem Sound.toNat_userId (hd : d.Sound) {u : UserRow} (hu : u ∈ d.committed.users) :
    (UInt64.ofNat u.userId).toNat = u.userId :=
  toNat_rowid ((hd.tables.bounded u hu).2.trans hd.tables.sequence_le)

theorem Sound.hasId_iff (hd : d.Sound) {userId : UInt64} :
    d.accounts.HasId userId ↔ ∃ u ∈ d.committed.users, u.userId = userId.toNat := by
  constructor
  · rintro ⟨username, a, haccount, hid⟩
    rcases hd.account_eq_some.mp haccount with ⟨u, hu, _, rfl⟩
    exact ⟨u, hu, hid⟩
  · rintro ⟨u, hu, hid⟩
    exact ⟨u.username, _, hd.account_eq_some.mpr ⟨u, hu, rfl, rfl⟩, hid⟩

theorem Sound.userExists_iff (hd : d.Sound) {userId : UInt64} :
    d.userExists .done userId = true ↔ d.accounts.HasId userId := by
  rw [hd.hasId_iff]
  unfold userExists
  rw [hd.current]
  simp only [ne_eq, decide_not, decide_true, Bool.and_true, Bool.and_eq_true, Bool.not_eq_true',
    decide_eq_false_iff_not, List.any_eq_true, decide_eq_true_eq, and_iff_right_iff_imp]
  rintro ⟨u, hu, hid⟩ rfl
  have := (hd.tables.bounded u hu).1
  simp only [UInt64.toNat_zero] at hid
  omega

/-! ## Logging in -/

theorem Neat.find_some (hd : d.Neat) {username : ByteString} {u : UserRow}
    (hu : u ∈ d.committed.users) (hname : u.username = cStr username) :
    d.findCredentialByUsername .done username =
      .ok (some ⟨UInt64.ofNat u.userId, u.username, u.passwordHash, u.status⟩) := by
  unfold findCredentialByUsername
  rw [if_pos rfl, hd.current, hd.tables.find_username.mpr ⟨hu, hname⟩, Option.map_some,
    columnText_of_plain (hd.clean.usernames u hu).2, columnText_of_plain (hd.clean.hashes u hu)]

theorem Sound.find_none (hd : d.Sound) {username : ByteString}
    (h : ∀ u ∈ d.committed.users, u.username ≠ cStr username) :
    d.findCredentialByUsername .done username = .ok none := by
  have hfind : d.committed.users.find? (fun u => u.username = cStr username) = none := by
    rw [List.find?_eq_none]
    simpa using h
  unfold findCredentialByUsername
  rw [if_pos rfl, hd.current, hfind]
  rfl

theorem Neat.loadUserInfo (hd : d.Neat) {u : UserRow} (hu : u ∈ d.committed.users)
    (name : ByteString) :
    d.loadUserInfo .done (UInt64.ofNat u.userId) name =
      .ok ((d.accountOf u).info u.username) := by
  rcases hd.tables.exists_profile hu with ⟨p, hp, hid⟩
  have hcolumns : d.profileColumns u.userId = (p.avatarUrl, p.fields) := by
    rw [← hid]
    exact hd.toSound.profileColumns hp
  have hnickname : (columnText p.fields.nickname).isEmpty = false := by
    simpa using hd.clean.nicknames p hp
  have hname : u.username.isEmpty = false := by
    simpa using (hd.clean.usernames u hu).1
  unfold Database.loadUserInfo
  simp only [hd.toSound.toNat_userId hu, hd.current,
    hd.tables.find_userId.mpr ⟨hu, rfl⟩, hcolumns, columnText_of_plain (hd.clean.usernames u hu).2,
    hname, Profile.map, hnickname, accountOf, accountOfRows, Account.info, Bool.false_eq_true,
    if_false]

/-- A login, where no name cut at a zero byte finds an account it opens. -/
theorem Neat.login (hd : d.Neat) (crypto : Crypto) {username password : ByteString}
    (hcall : (Call.login ⟨.done, .done⟩ username password).Faithful crypto d.accounts) :
    CCMeeting.login crypto d ⟨.done, .done⟩ username password =
      d.accounts.login crypto username password := by
  unfold CCMeeting.login AccountMap.login
  by_cases hempty : username = [] ∨ password = []
  · rw [if_pos hempty, if_pos hempty]
  rw [if_neg hempty, if_neg hempty]
  by_cases hplain : 0 ∈ username
  · -- nobody is registered under the name, but maybe under its beginning
    have hnone : d.accounts.account username = none := by
      rw [hd.toSound.account_eq_none]
      rintro u hu rfl
      exact (hd.clean.usernames u hu).2 hplain
    rw [hnone]
    by_cases hfound : ∃ u ∈ d.committed.users, u.username = cStr username
    · rcases hfound with ⟨u, hu, hname⟩
      rcases hcall with hcall | hcall
      · exact absurd hplain hcall
      rcases hcall _ (hd.toSound.account_eq_some.mpr ⟨u, hu, hname, rfl⟩) with ⟨hstatus, hhash⟩
      rw [hd.find_some hu hname]
      exact (if_neg (not_not.mpr hstatus)).trans (if_pos hhash)
    · push Not at hfound
      rw [hd.toSound.find_none hfound]
  · have hcStr : cStr username = username := cStr_of_plain hplain
    by_cases hfound : ∃ u ∈ d.committed.users, u.username = username
    · rcases hfound with ⟨u, hu, rfl⟩
      rw [hd.find_some hu hcStr.symm, hd.toSound.account_eq_some.mpr ⟨u, hu, rfl, rfl⟩]
      dsimp only
      rw [hd.loadUserInfo hu]
      rfl
    · push Not at hfound
      rw [hd.toSound.find_none (hcStr.symm ▸ hfound), hd.toSound.account_eq_none.mpr hfound]

/-! ## Registering -/

end Database

/-- The new tables are clean where the new texts are. -/
theorem Tables.Clean.withUser {t : Tables} (h : t.Clean)
    {username passwordHash : ByteString} (hname : username ≠ [] ∧ 0 ∉ username)
    (hhash : 0 ∉ passwordHash) (avatarUrl : ByteString) :
    (t.withUser username passwordHash avatarUrl).Clean where
  usernames := by
    intro u hu
    rcases List.mem_append.mp hu with hu | hu
    · exact h.usernames u hu
    · rw [List.mem_singleton.mp hu]
      exact hname
  hashes := by
    intro u hu
    rcases List.mem_append.mp hu with hu | hu
    · exact h.hashes u hu
    · rw [List.mem_singleton.mp hu]
      exact hhash
  nicknames := by
    intro p hp
    rcases List.mem_append.mp hp with hp | hp
    · exact h.nicknames p hp
    · rw [List.mem_singleton.mp hp, columnText_of_plain hname.2]
      exact hname.1

namespace Database

variable {d : Database}

/-- The accounts once a user has been added. -/
theorem Sound.accounts_withUser (hd : d.Sound) {username : ByteString}
    (haccepts : d.committed.Accepts username) (passwordHash avatarUrl : ByteString) (rowid : ℕ) :
    (⟨d.committed.withUser username passwordHash avatarUrl, none, rowid⟩ : Database).accounts =
      d.accounts.insert username
        ⟨d.committed.sequence + 1, passwordHash, 1, cStr avatarUrl,
          ⟨cStr username, [], [], [], [], [], [], []⟩⟩ := by
  have hd' : (⟨d.committed.withUser username passwordHash avatarUrl, none, rowid⟩ :
      Database).Sound := ⟨rfl, hd.tables.withUser haccepts _ _⟩
  refine AccountMap.ext (funext fun name => ?_) ?_
  -- the new row is read back for its own name; another name finds the row it found before, as the
  -- lookups of the profile are by distinct user numbers
  · by_cases hname : name = username
    · subst hname
      rw [AccountMap.account_insert, if_pos rfl, hd'.account_eq_some]
      refine ⟨_, List.mem_append_right _ (List.mem_singleton_self _), rfl, ?_⟩
      rw [hd'.accountOf (List.mem_append_right _ (List.mem_singleton_self _)) rfl]
      rfl
    · rw [AccountMap.account_insert, if_neg hname]
      cases hold : d.accounts.account name with
      | none =>
        rw [hd'.account_eq_none]
        intro u hu
        rcases List.mem_append.mp hu with hu | hu
        · exact hd.account_eq_none.mp hold u hu
        · rw [List.mem_singleton.mp hu]
          exact Ne.symm hname
      | some a =>
        rcases hd.account_eq_some.mp hold with ⟨u, hu, huname, rfl⟩
        rcases hd.tables.exists_profile hu with ⟨p, hp, hid⟩
        rw [hd'.account_eq_some]
        refine ⟨u, List.mem_append_left _ hu, huname, ?_⟩
        rw [hd'.accountOf (List.mem_append_left _ hp) hid, hd.accountOf hp hid]
  · show d.committed.sequence + 1 = d.current.sequence + 1
    rw [hd.current]

/-- The transaction goes through until the ids run out. -/
theorem Sound.createRows_done (hd : d.Sound) {username : ByteString}
    (hfree : ∀ u ∈ d.committed.users, u.username ≠ cStr username)
    (passwordHash avatarUrl : ByteString) :
    ∃ rowid, d.createRows ⟨.done, .done, .done, .done, .done⟩ username passwordHash avatarUrl =
      if d.committed.sequence < maxRowid then
        (some (UInt64.ofNat (d.committed.sequence + 1)),
          ⟨d.committed.withUser (cStr username) (cStr passwordHash) (cStr avatarUrl), none, rowid⟩)
      else (none, ⟨d.committed, none, rowid⟩) := by
  have hcreated := createRows_created hd ⟨.done, .done, .done, .done, .done⟩ username passwordHash
    avatarUrl
  generalize d.createRows ⟨.done, .done, .done, .done, .done⟩ username passwordHash avatarUrl = r
    at hcreated
  cases hcreated with
  | @rows rowid _ haccepts => exact ⟨rowid, (if_pos haccepts.2).symm⟩
  | @nothing rowid hno =>
    refine ⟨rowid, (if_neg fun hid => hno ⟨⟨rfl, rfl, rfl, rfl⟩, hfree, hid⟩).symm⟩

/-- The database a new user is added to is neat again, and shows the user. -/
theorem Neat.withUser (hd : d.Neat) (crypto : Crypto) (assets : AssetsConfig)
    {username password : ByteString} (hname : username ≠ [] ∧ 0 ∉ username)
    (haccepts : d.committed.Accepts username) (rowid : ℕ) :
    let d' : Database := ⟨d.committed.withUser username (crypto.sha256Hex password)
      (cStr assets.defaultAvatarUrl), none, rowid⟩
    let a := d.accounts.newAccount crypto assets username password
    d'.Neat ∧ d'.accounts = d.accounts.insert username a ∧
      d'.loadUserInfo .done (UInt64.ofNat (d.committed.sequence + 1)) username =
        .ok (a.info username) := by
  intro d' a
  have hneat : d'.Neat := ⟨⟨rfl, hd.tables.withUser haccepts _ _⟩,
    hd.clean.withUser hname (plain_sha256Hex crypto password) _⟩
  have hadded : d'.accounts = d.accounts.insert username a := by
    rw [hd.toSound.accounts_withUser haccepts, cStr_cStr, cStr_of_plain hname.2]
    refine congrArg (d.accounts.insert username) ?_
    show _ = d.accounts.newAccount crypto assets username password
    rw [AccountMap.newAccount, hd.toSound.lastId]
  refine ⟨hneat, hadded, ?_⟩
  have hrow : (⟨d.committed.sequence + 1, username, crypto.sha256Hex password, 1⟩ : UserRow) ∈
      d'.committed.users := List.mem_append_right _ (List.mem_singleton_self _)
  have hshown := hneat.toSound.account_eq_some.mpr ⟨_, hrow, rfl, rfl⟩
  rw [hadded, AccountMap.account_insert, if_pos rfl, Option.some.injEq] at hshown
  have hload := hneat.loadUserInfo hrow username
  rw [← hshown] at hload
  exact hload

/-- A registration, where a name with a zero byte is refused for something else. -/
theorem Neat.registerUser (hd : d.Neat) (crypto : Crypto) (assets : AssetsConfig)
    {username password : ByteString}
    (hcall : 0 ∉ username ∨ 50 < username.length ∨ password = []) :
    let r := CCMeeting.registerUser crypto assets d
      ⟨.done, ⟨.done, .done, .done, .done, .done⟩, .done⟩ username password
    let r' := d.accounts.registerUser crypto assets username password
    r.1 = r'.1 ∧ r.2.accounts = r'.2 ∧ r.2.Neat := by
  unfold CCMeeting.registerUser AccountMap.registerUser
  by_cases hempty : username = [] ∨ password = []
  · rw [if_pos hempty, if_pos hempty]
    exact ⟨rfl, rfl, hd⟩
  rw [if_neg hempty, if_neg hempty]
  by_cases hlong : 50 < username.length
  · rw [if_pos hlong, if_pos hlong]
    exact ⟨rfl, rfl, hd⟩
  rw [if_neg hlong, if_neg hlong]
  have hname : username ≠ [] ∧ 0 ∉ username := by
    refine ⟨fun h => hempty (Or.inl h), ?_⟩
    rcases hcall with h | h | h
    · exact h
    · exact absurd h hlong
    · exact absurd (Or.inr h) hempty
  have hcStr : cStr username = username := cStr_of_plain hname.2
  by_cases hfound : ∃ u ∈ d.committed.users, u.username = username
  · rcases hfound with ⟨u, hu, rfl⟩
    rw [hd.find_some hu hcStr.symm, hd.toSound.account_eq_some.mpr ⟨u, hu, rfl, rfl⟩]
    exact ⟨rfl, rfl, hd⟩
  push Not at hfound
  unfold createUser
  rw [hd.toSound.find_none (hcStr.symm ▸ hfound), hd.toSound.account_eq_none.mpr hfound]
  rcases hd.toSound.createRows_done (hcStr.symm ▸ hfound) (crypto.sha256Hex password)
    assets.defaultAvatarUrl with ⟨rowid, hrows⟩
  dsimp only
  rw [hrows, hd.toSound.lastId, hcStr, cStr_of_plain (plain_sha256Hex crypto password)]
  by_cases hid : d.committed.sequence < maxRowid
  · rw [if_pos hid, if_pos hid]
    rcases hd.withUser crypto assets hname ⟨hfound, hid⟩ rowid with
      ⟨hneat, hadded, hload⟩
    refine ⟨?_, hadded, hneat⟩
    dsimp only
    rw [hload]
    rfl
  · -- no id is left
    rw [if_neg hid, if_neg hid]
    exact ⟨rfl, hd.toSound.accounts_eq rowid, ⟨rfl, hd.tables⟩, hd.clean⟩

/-! ## Updating -/

/-- A change of a profile row is a change of the account it belongs to. -/
theorem Sound.accounts_updateProfiles (hd : d.Sound) (userId : UInt64)
    {f : ProfileRow → ProfileRow} {g : Account → Account} (hf : ∀ p, (f p).userId = p.userId)
    (hfg : ∀ u p, accountOfRows u ((f p).avatarUrl, (f p).fields) =
      g (accountOfRows u (p.avatarUrl, p.fields))) (rowid : ℕ) :
    (⟨d.committed.updateProfiles userId.toNat f, none, rowid⟩ : Database).accounts =
      d.accounts.update userId g := by
  have hd' : (⟨d.committed.updateProfiles userId.toNat f, none, rowid⟩ : Database).Sound :=
    ⟨rfl, hd.tables.updateProfiles _ hf⟩
  refine AccountMap.ext (funext fun name => ?_) ?_
  · rw [AccountMap.account_update]
    -- the users table is untouched, so each name leads to the same user row and only its profile
    -- row may have changed
    cases hold : d.accounts.account name with
    | none =>
      rw [Option.map_none, hd'.account_eq_none]
      exact hd.account_eq_none.mp hold
    | some a =>
      rcases hd.account_eq_some.mp hold with ⟨u, hu, hname, rfl⟩
      rcases hd.tables.exists_profile hu with ⟨p, hp, hid⟩
      rw [Option.map_some, hd'.account_eq_some]
      refine ⟨u, hu, hname, ?_⟩
      have hp' := List.mem_map_of_mem (f := fun p => if p.userId = userId.toNat then f p else p) hp
      rw [hd.accountOf hp hid]
      by_cases hchanged : p.userId = userId.toNat
      · rw [if_pos hchanged] at hp'
        rw [hd'.accountOf hp' ((hf p).trans hid), hfg]
        exact (if_pos (hid.symm.trans hchanged)).symm
      · rw [if_neg hchanged] at hp'
        rw [hd'.accountOf hp' hid]
        exact (if_neg fun h => hchanged (hid.trans h)).symm
  · exact hd.lastId.symm

/-- An update of the row of a user goes through. -/
theorem Neat.updateProfileRow (hd : d.Neat) {userId : UInt64} (hid : d.accounts.HasId userId)
    {f : ProfileRow → ProfileRow} {g : Account → Account} (hf : ∀ p, (f p).userId = p.userId)
    (hfg : ∀ u p, accountOfRows u ((f p).avatarUrl, (f p).fields) =
      g (accountOfRows u (p.avatarUrl, p.fields)))
    (hnickname : ∀ p, columnText p.fields.nickname ≠ [] →
      columnText (f p).fields.nickname ≠ []) :
    (d.updateProfileRow .done userId f).1 = true ∧
    (d.updateProfileRow .done userId f).2.accounts = d.accounts.update userId g ∧
    (d.updateProfileRow .done userId f).2.Neat := by
  rcases hd.toSound.hasId_iff.mp hid with ⟨u, hu, huid⟩
  -- AUTOINCREMENT starts at 1, so a stored account never has the number the code refuses
  have hne : userId ≠ 0 := by
    rintro rfl
    have := (hd.tables.bounded u hu).1
    simp only [UInt64.toNat_zero] at huid
    omega
  rcases updateProfileRow_cases hd.toSound .done userId f with ⟨_, _, heq⟩ | ⟨hno, _⟩
  swap
  · rcases hno with hno | hno
    · exact absurd rfl hno
    · exact absurd hno hne
  rw [heq]
  refine ⟨?_, hd.toSound.accounts_updateProfiles userId hf hfg _,
    ⟨⟨rfl, hd.tables.updateProfiles _ hf⟩, hd.clean.usernames, hd.clean.hashes, ?_⟩⟩
  -- the code's success is that the UPDATE touched a row: the user's profile row is there
  · rcases hd.tables.exists_profile hu with ⟨p, hp, hpid⟩
    have hmem : userId.toNat ∈
        (d.committed.updateProfiles userId.toNat f).profiles.map ProfileRow.userId := by
      rw [Tables.updateProfiles_userIds hf, ← huid, ← hpid]
      exact List.mem_map_of_mem hp
    rcases List.mem_map.mp hmem with ⟨q, hq, hqid⟩
    exact List.any_eq_true.mpr ⟨q, hq, decide_eq_true hqid⟩
  · intro q hq
    rcases List.mem_map.mp hq with ⟨p, hp, rfl⟩
    by_cases hchanged : p.userId = userId.toNat
    · rw [if_pos hchanged]
      exact hnickname p (hd.clean.nicknames p hp)
    · rw [if_neg hchanged]
      exact hd.clean.nicknames p hp

theorem Neat.updateAvatarUrl (hd : d.Neat) {userId : UInt64} (hid : d.accounts.HasId userId)
    (avatarUrl : ByteString) :
    (d.updateAvatarUrl .done userId avatarUrl).1 = true ∧
    (d.updateAvatarUrl .done userId avatarUrl).2.accounts =
      d.accounts.update userId (fun a => { a with avatar := cStr avatarUrl }) ∧
    (d.updateAvatarUrl .done userId avatarUrl).2.Neat := by
  refine hd.updateProfileRow hid (fun _ => rfl) ?_ (fun _ h => h)
  intro u p
  simp [accountOfRows, columnText]

/-- Fields without a zero byte are stored as they are. -/
theorem Neat.updateFields (hd : d.Neat) {userId : UInt64} (hid : d.accounts.HasId userId)
    {fields : Profile ByteString} (hplain : fields.Plain) (hnickname : fields.nickname ≠ []) :
    (d.updateProfile .done userId fields).1 = true ∧
    (d.updateProfile .done userId fields).2.accounts =
      d.accounts.update userId (fun a => { a with fields }) ∧
    (d.updateProfile .done userId fields).2.Neat := by
  have hstored : (fields.map fun s => some (cStr s)).map columnText = fields := by
    calc (fields.map fun s => some (cStr s)).map columnText = fields.map fun s => cStr (cStr s) :=
          rfl
      _ = fields.map cStr := by simp only [cStr_cStr]
      _ = fields := hplain
  refine hd.updateProfileRow hid (fun _ => rfl) ?_ ?_
  · intro u p
    exact congrArg (fun fields => { accountOfRows u (p.avatarUrl, p.fields) with fields }) hstored
  · intro p _
    exact (congrArg Profile.nickname hstored).trans_ne hnickname

/-- A new avatar. -/
theorem Neat.uploadAvatar (hd : d.Neat) (crypto : Crypto) (assets : AssetsConfig)
    {o : UploadOutcomes} (ho : o.exists_ = .done ∧ o.update = .done) (userId : UInt64)
    (mime dataBase64 : ByteString) :
    let r := CCMeeting.uploadAvatar crypto assets d o userId mime dataBase64
    let r' := d.accounts.uploadAvatar crypto assets o userId mime dataBase64
    r.1 = r'.1 ∧ r.2.accounts = r'.2 ∧ r.2.Neat := by
  -- both sides make the same checks in the same order, so each refusal is matched branch by
  -- branch; they part only at the row that is written
  unfold CCMeeting.uploadAvatar AccountMap.uploadAvatar
  by_cases hzero : userId = 0
  · rw [if_pos hzero, if_pos hzero]
    exact ⟨rfl, rfl, hd⟩
  rw [if_neg hzero, if_neg hzero]
  by_cases hmime : extensionForMime mime = []
  · rw [if_pos hmime, if_pos hmime]
    exact ⟨rfl, rfl, hd⟩
  rw [if_neg hmime, if_neg hmime, ho.1]
  by_cases hid : d.accounts.HasId userId
  swap
  · rw [if_neg hid, if_pos (by simpa using mt hd.toSound.userExists_iff.mp hid)]
    exact ⟨rfl, rfl, hd⟩
  rw [if_pos hid, hd.toSound.userExists_iff.mpr hid, Bool.not_true, if_neg Bool.false_ne_true]
  cases crypto.base64Decode dataBase64 with
  | none => exact ⟨rfl, rfl, hd⟩
  | some decoded =>
    dsimp only
    by_cases hlarge : assets.maxAvatarBytes < decoded.length
    · rw [if_pos hlarge, if_pos hlarge]
      exact ⟨rfl, rfl, hd⟩
    rw [if_neg hlarge, if_neg hlarge]
    rcases saveAvatar assets o with e | _ | _
    · exact ⟨rfl, rfl, hd⟩
    · exact ⟨rfl, rfl, hd⟩
    · dsimp only
      generalize assets.joinPublicUrl _ = avatarUrl
      have hupdate := hd.updateAvatarUrl hid avatarUrl
      rw [ho.2]
      rcases hrow : d.updateAvatarUrl .done userId avatarUrl with ⟨_ | _, d'⟩
      · rw [hrow] at hupdate
        exact absurd hupdate.1 Bool.false_ne_true
      · rw [hrow] at hupdate
        exact ⟨rfl, hupdate.2⟩

theorem nickname_of_profileProblem {userId : UInt64} {fields : Profile ByteString}
    (h : profileProblem userId fields = none) : fields.nickname ≠ [] := by
  intro hempty
  unfold profileProblem at h
  rw [if_pos hempty] at h
  split_ifs at h

/-- A new profile, where one with a zero byte is refused for something else. -/
theorem Neat.updateProfile (hd : d.Neat) (userId : UInt64) {fields : Profile ByteString}
    (hcall : fields.Plain ∨ profileProblem userId fields ≠ none ∨ ¬d.accounts.HasId userId) :
    let r := CCMeeting.updateProfile d ⟨.done, .done⟩ userId fields
    let r' := d.accounts.updateProfile userId fields
    r.1 = r'.1 ∧ r.2.accounts = r'.2 ∧ r.2.Neat := by
  unfold CCMeeting.updateProfile AccountMap.updateProfile
  cases hproblem : profileProblem userId fields with
  | some message => exact ⟨rfl, rfl, hd⟩
  | none =>
    dsimp only
    by_cases hid : d.accounts.HasId userId
    swap
    · rw [if_neg hid, if_pos (by simpa using mt hd.toSound.userExists_iff.mp hid)]
      exact ⟨rfl, rfl, hd⟩
    rw [if_pos hid, hd.toSound.userExists_iff.mpr hid, Bool.not_true, if_neg Bool.false_ne_true]
    have hplain : fields.Plain := by
      rcases hcall with h | h | h
      · exact h
      · exact absurd hproblem h
      · exact absurd hid h
    have hupdate := hd.updateFields hid hplain (nickname_of_profileProblem hproblem)
    rcases hrow : d.updateProfile .done userId fields with ⟨_ | _, d'⟩
    · rw [hrow] at hupdate
      exact absurd hupdate.1 Bool.false_ne_true
    · rw [hrow] at hupdate
      exact ⟨rfl, hupdate.2⟩

end Database

end CCMeeting
