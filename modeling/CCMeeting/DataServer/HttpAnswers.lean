import CCMeeting.DataServer.HttpSession
import CCMeeting.Protocol.Reference

/-! # Every request is answered once

The writers throw on texts that are not UTF-8. All texts come in through the
JSON parser, which refuses such texts, or are cut from them before a zero byte,
so the writers never throw. What is left are the calls of the static files into
the file system.
-/

namespace CCMeeting

open ByteString Fallible Transition

/-! ## Texts -/

/-- A C string is cut between characters. -/
theorem valid_cStr {s : ByteString} (h : Utf8.Valid s) : Utf8.Valid (cStr s) := by
  have hsplit : cStr s ++ s.dropWhile (fun b => b ≠ 0) = s := List.takeWhile_append_dropWhile
  cases hrest : s.dropWhile (fun b => b ≠ 0) with
  | nil =>
    rw [hrest, List.append_nil] at hsplit
    rw [hsplit]
    exact h
  | cons b rest =>
    have hzero : ¬(b ≠ 0) := by
      have := List.head?_dropWhile_not (fun b : UInt8 => decide (b ≠ 0)) s
      rw [hrest] at this
      simpa using this
    rw [hrest] at hsplit
    rw [← hsplit] at h
    refine h.of_append_cons ?_
    rw [not_not.mp hzero]
    decide

/-- A column read from a text that was stored. -/
theorem valid_columnText {s : ByteString} (h : Utf8.Valid s) : Utf8.Valid (columnText (some s)) :=
  valid_cStr h

theorem valid_withoutSlash {base : ByteString} (h : Utf8.Valid base) :
    Utf8.Valid (AssetsConfig.withoutSlash base) := by
  unfold AssetsConfig.withoutSlash
  split_ifs with hlast
  · have hsplit : base.dropLast ++ [slash] = base := List.dropLast_append_getLast? _ hlast
    rw [← hsplit] at h
    exact h.of_append_cons (by decide)
  · exact h

/-- The texts of the configuration that get into replies. -/
structure AssetsConfig.Utf8 (assets : AssetsConfig) : Prop where
  publicBaseUrl : Utf8.Valid assets.publicBaseUrl
  defaultAvatarPath : Utf8.Valid assets.defaultAvatarPath

theorem utf8_of_member {root v : Json} {key : ByteString} (hroot : root.utf8 = true)
    (h : member root key = some v) : v.utf8 = true := by
  cases root with
  | object ms => exact Json.utf8Members_lookup hroot h
  | _ => cases h

theorem valid_of_asString {v : Json} {s : ByteString} (hv : v.utf8 = true)
    (h : asString v = some s) : Utf8.Valid s := by
  cases v with
  | string s' =>
    cases h
    simpa [Json.utf8] using hv
  | _ => cases h

/-- What a document says is well formed. -/
theorem valid_of_member {root : Json} {key s : ByteString} (hroot : root.utf8 = true)
    (h : (member root key).bind asString = some s) : Utf8.Valid s := by
  rcases Option.bind_eq_some_iff.mp h with ⟨v, hv, hs⟩
  exact valid_of_asString (utf8_of_member hroot hv) hs

theorem valid_optionalString {root : Json} (hroot : root.utf8 = true) (key : ByteString) :
    Utf8.Valid (optionalString root key) := by
  unfold optionalString
  cases h : (member root key).bind asString with
  | none => exact Utf8.valid_nil
  | some s => exact valid_of_member hroot h

/-- A configuration file has been through the parser, and the defaults are ASCII. -/
theorem Configured.utf8 {platform : Platform} {assets : AssetsConfig}
    (h : Configured platform assets) : assets.Utf8 := by
  have hunset : ({} : AssetsConfig).Utf8 := ⟨by decide, by decide⟩
  rcases h with rfl | ⟨content, root, hparse, rfl⟩
  · exact hunset
  have hroot := platform.parse_utf8 hparse
  unfold loadFromJsonObject
  cases hassets : member root (ascii "assets") with
  | none => exact hunset
  | some v =>
    cases v with
    | object ms =>
      have hms := utf8_of_member hroot hassets
      have hstring : ∀ key fallback, Utf8.Valid fallback →
          Utf8.Valid (((ms.lookup key).bind asString).getD fallback) := by
        intro key fallback hfallback
        cases h : (ms.lookup key).bind asString with
        | none => exact hfallback
        | some s =>
          have hmember : (member (.object ms) key).bind asString = some s := h
          exact valid_of_member hms hmember
      exact ⟨hstring _ _ hunset.publicBaseUrl, hstring _ _ hunset.defaultAvatarPath⟩
    | _ => exact hunset

theorem AssetsConfig.Utf8.defaultAvatarUrl {assets : AssetsConfig} (h : assets.Utf8) :
    Utf8.Valid assets.defaultAvatarUrl := by
  unfold AssetsConfig.defaultAvatarUrl
  split_ifs
  · exact (valid_withoutSlash h.publicBaseUrl).append h.defaultAvatarPath
  · exact h.publicBaseUrl.append h.defaultAvatarPath

theorem hexDigit_ascii_all : ∀ n : Fin 16, JsonText.hexDigit n ≤ 0x7F := by decide +kernel

theorem hex_ascii (bytes : ByteString) : ∀ b ∈ hex bytes, b ≤ 0x7F := by
  intro b hb
  rcases mem_hex hb with ⟨n, rfl⟩
  exact hexDigit_ascii_all n

/-- The URL of an avatar is ASCII behind the configured base. -/
theorem AssetsConfig.Utf8.uploadedAvatarUrl {assets : AssetsConfig} (h : assets.Utf8)
    (random : Option ByteString) (userId : UInt64) (mime : ByteString) :
    Utf8.Valid (CCMeeting.uploadedAvatarUrl assets random userId mime) := by
  have hdecimal := Utf8.valid_of_ascii (JsonText.decimal_ascii userId.toNat)
  have hrandom : Utf8.Valid (randomHex random) := by
    cases random with
    | none => decide
    | some bytes => exact Utf8.valid_of_ascii (hex_ascii bytes)
  have hextension : Utf8.Valid (extensionForMime mime) := by
    unfold extensionForMime
    split_ifs <;> decide
  have hpath : Utf8.Valid (ascii "/uploads/avatars/") := by decide
  have hslash : Utf8.Valid (ascii "/") := by decide
  exact (valid_withoutSlash h.publicBaseUrl).append
    (((hpath.append hdecimal).append hslash).append (hrandom.append hextension))

/-! ## The tables -/

/-- All texts a reply may show are well formed. -/
structure Tables.Utf8 (t : Tables) : Prop where
  usernames : ∀ u ∈ t.users, Utf8.Valid u.username
  avatars : ∀ p ∈ t.profiles, Utf8.Valid (columnText p.avatarUrl)
  fields : ∀ p ∈ t.profiles, ∀ c ∈ p.fields.toList, Utf8.Valid (columnText c)

/-- The texts a section brings along are well formed. -/
def Section.Utf8 : Section → Prop
  | createRows _ username _ defaultAvatarUrl => Utf8.Valid username ∧ Utf8.Valid defaultAvatarUrl
  | updateAvatarUrl _ _ avatarUrl => Utf8.Valid avatarUrl
  | updateProfile _ _ fields => ∀ s ∈ fields.toList, Utf8.Valid s

theorem Tables.Utf8.withUser {t : Tables} (h : t.Utf8) {username avatarUrl : ByteString}
    (hname : Utf8.Valid username) (havatar : Utf8.Valid avatarUrl) (passwordHash : ByteString) :
    (t.withUser username passwordHash avatarUrl).Utf8 where
  usernames := by
    intro u hu
    rcases List.mem_append.mp hu with hu | hu
    · exact h.usernames u hu
    · rw [List.mem_singleton.mp hu]
      exact hname
  avatars := by
    intro p hp
    rcases List.mem_append.mp hp with hp | hp
    · exact h.avatars p hp
    · rw [List.mem_singleton.mp hp]
      exact valid_columnText havatar
  fields := by
    intro p hp c hc
    rcases List.mem_append.mp hp with hp | hp
    · exact h.fields p hp c hc
    · rw [List.mem_singleton.mp hp] at hc
      rcases List.mem_cons.mp hc with rfl | hc
      · exact valid_columnText hname
      · have hnull : c = none := by simpa using hc
        rw [hnull]
        exact Utf8.valid_nil

theorem Tables.Utf8.updateProfiles {t : Tables} (h : t.Utf8) (userId : ℕ)
    {f : ProfileRow → ProfileRow}
    (hf : ∀ p ∈ t.profiles, Utf8.Valid (columnText (f p).avatarUrl) ∧
      ∀ c ∈ (f p).fields.toList, Utf8.Valid (columnText c)) : (t.updateProfiles userId f).Utf8 where
  usernames := h.usernames
  avatars := by
    intro q hq
    rcases List.mem_map.mp hq with ⟨p, hp, rfl⟩
    by_cases hchanged : p.userId = userId
    · rw [if_pos hchanged]
      exact (hf p hp).1
    · rw [if_neg hchanged]
      exact h.avatars p hp
  fields := by
    intro q hq
    rcases List.mem_map.mp hq with ⟨p, hp, rfl⟩
    by_cases hchanged : p.userId = userId
    · rw [if_pos hchanged]
      exact (hf p hp).2
    · rw [if_neg hchanged]
      exact h.fields p hp

theorem Section.utf8 {d : Database} (hd : d.Sound) (h : d.committed.Utf8) {e : Section}
    (he : e.Utf8) : (e.apply d).committed.Utf8 := by
  cases e with
  | createRows o username passwordHash defaultAvatarUrl =>
    have hcreated := createRows_created hd o username passwordHash defaultAvatarUrl
    show (d.createRows o username passwordHash defaultAvatarUrl).2.committed.Utf8
    generalize d.createRows o username passwordHash defaultAvatarUrl = r at hcreated ⊢
    cases hcreated with
    | rows _ _ => exact h.withUser (valid_cStr he.1) (valid_cStr he.2) _
    | nothing _ => exact h
  -- an update either writes the profile rows of one user or leaves the database as it was
  | updateAvatarUrl o userId avatarUrl =>
    show (d.updateProfileRow o userId _).2.committed.Utf8
    rcases Database.updateProfileRow_cases hd o userId
      (fun p => { p with avatarUrl := some (cStr avatarUrl) }) with ⟨_, _, heq⟩ | ⟨_, heq⟩
    · rw [heq]
      exact h.updateProfiles _ fun p hp => ⟨valid_columnText (valid_cStr he), h.fields p hp⟩
    · rw [heq]
      exact h
  | updateProfile o userId fields =>
    show (d.updateProfileRow o userId _).2.committed.Utf8
    rcases Database.updateProfileRow_cases hd o userId
      (fun p => { p with fields := fields.map fun s => some (cStr s) }) with ⟨_, _, heq⟩ | ⟨_, heq⟩
    · rw [heq]
      refine h.updateProfiles _ fun p hp => ⟨h.avatars p hp, ?_⟩
      intro c hc
      rw [Profile.toList_map] at hc
      rcases List.mem_map.mp hc with ⟨s, hs, rfl⟩
      exact valid_columnText (valid_cStr (he s hs))
    · rw [heq]
      exact h

/-! ## The replies -/

/-- The texts of a user are well formed. -/
structure UserInfo.Utf8 (user : UserInfo) : Prop where
  username : Utf8.Valid user.username
  avatar : Utf8.Valid user.avatar
  fields : ∀ s ∈ user.fields.toList, Utf8.Valid s

/-- A login result can be written. -/
structure LoginResult.Utf8 (result : LoginResult) : Prop where
  message : Utf8.Valid result.message
  user : result.user.Utf8

theorem userInfo_utf8_unset : UserInfo.Utf8 ⟨0, [], [], ⟨[], [], [], [], [], [], [], []⟩⟩ :=
  ⟨Utf8.valid_nil, Utf8.valid_nil, by simp [Profile.toList, Utf8.valid_nil]⟩

/-- A refusal has no user in it. -/
theorem LoginResult.Utf8.refused {code : ℕ} {message : ByteString} (h : Utf8.Valid message) :
    LoginResult.Utf8 { code, message } := ⟨h, userInfo_utf8_unset⟩

theorem LoginResult.Utf8.loaded {user : Except StdException UserInfo}
    (h : ∀ info, user = .ok info → info.Utf8) : (LoginResult.loaded user).Utf8 := by
  have hok : Utf8.Valid (ascii "ok") := by decide
  have hcaught : Utf8.Valid (ascii "internal server error") := by decide
  cases user with
  | error e => exact ⟨hcaught, userInfo_utf8_unset⟩
  | ok info => exact ⟨hok, h info rfl⟩

theorem loadUserInfo_utf8 {d : Database} (h : d.current.Utf8) {o : Outcome} {userId : UInt64}
    {name : ByteString} (hname : Utf8.Valid name) {info : UserInfo}
    (hload : d.loadUserInfo o userId name = .ok info) : info.Utf8 := by
  have hnothing : UserInfo.Utf8 ⟨userId, name, [], ⟨name, [], [], [], [], [], [], []⟩⟩ :=
    ⟨hname, Utf8.valid_nil, by simp [Profile.toList, Utf8.valid_nil, hname]⟩
  have hcolumns : ∀ id, Utf8.Valid (columnText (d.profileColumns id).1) ∧
      ∀ c ∈ (d.profileColumns id).2.toList, Utf8.Valid (columnText c) := by
    intro id
    unfold Database.profileColumns
    cases hfind : d.current.profiles.find? (fun p => p.userId = id) with
    | none => simp [Profile.toList, columnText, Utf8.valid_nil]
    | some p =>
      have hp := List.mem_of_find?_eq_some hfind
      exact ⟨h.avatars p hp, h.fields p hp⟩
  unfold Database.loadUserInfo at hload
  cases o with
  | notPrepared => cases hload
  | failed =>
    cases hload
    exact hnothing
  | aborted =>
    cases hload
    exact hnothing
  | done =>
    cases hfind : d.current.users.find? (fun u => u.userId = userId.toNat) with
    | none =>
      rw [hfind] at hload
      cases hload
      exact hnothing
    | some u =>
      rw [hfind] at hload
      cases hload
      have husername : Utf8.Valid (columnText (some u.username)) :=
        valid_columnText (h.usernames u (List.mem_of_find?_eq_some hfind))
      rcases hcolumns userId.toNat with ⟨havatar, hfields⟩
      have hshown : ∀ s ∈ ((d.profileColumns userId.toNat).2.map columnText).toList,
          Utf8.Valid s := by
        intro s hs
        rw [Profile.toList_map] at hs
        rcases List.mem_map.mp hs with ⟨c, hc, rfl⟩
        exact hfields c hc
      refine ⟨?_, havatar, ?_⟩
      · dsimp only
        split_ifs
        · exact hname
        · exact husername
      · intro s hs
        rcases List.mem_cons.mp hs with rfl | hs
        · -- the nickname, or the name instead of an empty one
          dsimp only
          split_ifs
          · exact hname
          · exact hshown _ (List.mem_cons_self ..)
        · exact hshown s (List.mem_cons_of_mem _ hs)

/-- The name a credential comes with. -/
theorem find_utf8 {d : Database} (h : d.current.Utf8) {o : Outcome} {username : ByteString}
    {credential : UserCredential}
    (hfind : d.findCredentialByUsername o username = .ok (some credential)) :
    Utf8.Valid credential.username := by
  unfold Database.findCredentialByUsername at hfind
  split_ifs at hfind
  rcases Option.map_eq_some_iff.mp (Except.ok.inj hfind) with ⟨u, hu, rfl⟩
  exact valid_columnText (h.usernames u (List.mem_of_find?_eq_some hu))

theorem login_utf8 (crypto : Crypto) {d : Database} (h : d.current.Utf8) (o : LoginOutcomes)
    (username password : ByteString) : (login crypto d o username password).Utf8 := by
  unfold login
  by_cases hempty : username = [] ∨ password = []
  · rw [if_pos hempty]
    exact .refused (by decide)
  rw [if_neg hempty]
  rcases hfind : d.findCredentialByUsername o.find username with e | _ | credential
  · exact .refused (by decide)
  · exact .refused (by decide)
  · dsimp only
    split_ifs
    · exact .refused (by decide)
    · exact .refused (by decide)
    · exact .loaded fun info => loadUserInfo_utf8 h (find_utf8 h hfind)

theorem registerUser_utf8 (crypto : Crypto) {assets : AssetsConfig} (hassets : assets.Utf8)
    {d : Database} (hd : d.Sound) (h : d.committed.Utf8) (o : RegisterOutcomes)
    {username : ByteString} (hname : Utf8.Valid username) (password : ByteString) :
    (registerUser crypto assets d o username password).1.Utf8 := by
  unfold registerUser Database.createUser
  by_cases hempty : username = [] ∨ password = []
  · rw [if_pos hempty]
    exact .refused (by decide)
  rw [if_neg hempty]
  by_cases hlong : 50 < username.length
  · rw [if_pos hlong]
    exact .refused (by decide)
  rw [if_neg hlong]
  rcases d.findCredentialByUsername o.find username with e | _ | credential
  · exact .refused (by decide)
  · rcases d.findCredentialByUsername o.create.check username with e | _ | credential
    · exact .refused (by decide)
    · -- the reply is read after the transaction
      have hafter := Section.utf8 hd h (e := .createRows o.create username
        (crypto.sha256Hex password) assets.defaultAvatarUrl) ⟨hname, hassets.defaultAvatarUrl⟩
      have hsound := Section.sound hd (.createRows o.create username
        (crypto.sha256Hex password) assets.defaultAvatarUrl)
      change (d.createRows o.create username (crypto.sha256Hex password)
        assets.defaultAvatarUrl).2.committed.Utf8 at hafter
      change (d.createRows o.create username (crypto.sha256Hex password)
        assets.defaultAvatarUrl).2.Sound at hsound
      generalize d.createRows o.create username (crypto.sha256Hex password)
        assets.defaultAvatarUrl = r at hafter hsound ⊢
      rcases r with ⟨_ | userId, d'⟩
      · exact .refused (by decide)
      · refine .loaded fun info => loadUserInfo_utf8 ?_ hname
        rw [Database.current, hsound.idle]
        exact hafter
    · exact .refused (by decide)
  · exact .refused (by decide)

/-- An upload result can be written. -/
structure AvatarUploadResult.Utf8 (result : AvatarUploadResult) : Prop where
  message : Utf8.Valid result.message
  avatarUrl : Utf8.Valid result.avatarUrl

theorem AvatarUploadResult.Utf8.refused {code : ℕ} {message : ByteString}
    (h : Utf8.Valid message) : AvatarUploadResult.Utf8 { code, message } := ⟨h, Utf8.valid_nil⟩

theorem uploadAvatar_utf8 (crypto : Crypto) {assets : AssetsConfig} (hassets : assets.Utf8)
    (d : Database) (o : UploadOutcomes) (userId : UInt64) (mime dataBase64 : ByteString) :
    (uploadAvatar crypto assets d o userId mime dataBase64).1.Utf8 := by
  have hok : Utf8.Valid (ascii "ok") := by decide
  have hurl : Utf8.Valid (assets.joinPublicUrl
      (ascii "/uploads/avatars/" ++ JsonText.decimal userId.toNat ++ ascii "/" ++
        (randomHex o.random ++ extensionForMime mime))) :=
    hassets.uploadedAvatarUrl o.random userId mime
  unfold uploadAvatar
  split_ifs
  · exact .refused (by decide)
  · exact .refused (by decide)
  · exact .refused (by decide)
  rcases crypto.base64Decode dataBase64 with _ | decoded
  · exact .refused (by decide)
  dsimp only
  split_ifs
  · exact .refused (by decide)
  rcases saveAvatar assets o with e | _ | _
  · exact .refused (by decide)
  · exact .refused (by decide)
  · dsimp only
    generalize assets.joinPublicUrl _ = avatarUrl at hurl ⊢
    rcases d.updateAvatarUrl o.update userId avatarUrl with ⟨_ | _, d'⟩
    · exact .refused (by decide)
    · exact ⟨hok, hurl⟩

/-- An update result can be written. -/
structure ProfileUpdateResult.Utf8 (result : ProfileUpdateResult) : Prop where
  message : Utf8.Valid result.message
  fields : ∀ s ∈ result.fields.toList, Utf8.Valid s

theorem ProfileUpdateResult.Utf8.refused {code : ℕ} {message : ByteString}
    (h : Utf8.Valid message) : ProfileUpdateResult.Utf8 { code, message } :=
  ⟨h, userInfo_utf8_unset.fields⟩

theorem profileProblem_valid {userId : UInt64} {fields : Profile ByteString} {message : ByteString}
    (h : profileProblem userId fields = some message) : Utf8.Valid message := by
  unfold profileProblem at h
  split_ifs at h <;> cases h <;> decide

theorem updateProfile_utf8 (d : Database) (o : UpdateOutcomes) (userId : UInt64)
    {fields : Profile ByteString} (hfields : ∀ s ∈ fields.toList, Utf8.Valid s) :
    (updateProfile d o userId fields).1.Utf8 := by
  have hok : Utf8.Valid (ascii "ok") := by decide
  unfold updateProfile
  cases hproblem : profileProblem userId fields with
  | some message => exact .refused (profileProblem_valid hproblem)
  | none =>
    dsimp only
    split_ifs
    · exact .refused (by decide)
    · rcases d.updateProfile o.update userId fields with ⟨_ | _, d'⟩
      · exact .refused (by decide)
      · exact ⟨hok, hfields⟩

/-! ## The documents -/

theorem replyJson_utf8 {code : ℕ} {message : ByteString} (hmessage : Utf8.Valid message)
    {data : Option (List (ByteString × Json))}
    (hdata : ∀ ms, data = some ms → (Json.object ms).utf8 = true) :
    (replyJson code message data).utf8 = true := by
  have hkeys : Utf8.Valid (ascii "code") ∧ Utf8.Valid (ascii "data") ∧
      Utf8.Valid (ascii "message") := by decide
  unfold replyJson
  rw [Json.utf8, Json.utf8Members_iff]
  intro m hm
  simp only [List.mem_append, List.mem_singleton, Option.mem_toList,
    Option.map_eq_some_iff] at hm
  rcases hm with (rfl | ⟨ms, hms, rfl⟩) | rfl
  · exact ⟨hkeys.1, rfl⟩
  · exact ⟨hkeys.2.1, hdata ms hms⟩
  · exact ⟨hkeys.2.2, by simpa [Json.utf8] using hmessage⟩

theorem loginResponseJson_utf8 {result : LoginResult} (h : result.Utf8) :
    (loginResponseJson result).utf8 = true := by
  refine replyJson_utf8 h.message fun ms hms => ?_
  split_ifs at hms
  cases hms
  have hfields := h.user.fields
  simp only [Profile.toList, List.forall_mem_cons] at hfields
  simp [fillProfileFields, Json.utf8, Json.utf8Members, hfields, h.user.username, h.user.avatar]
  decide

theorem avatarUploadResponseJson_utf8 {result : AvatarUploadResult} (h : result.Utf8) :
    (avatarUploadResponseJson result).utf8 = true := by
  refine replyJson_utf8 h.message fun ms hms => ?_
  split_ifs at hms
  cases hms
  simp [Json.utf8, Json.utf8Members, h.avatarUrl]
  decide

theorem profileUpdateResponseJson_utf8 {result : ProfileUpdateResult} (h : result.Utf8) :
    (profileUpdateResponseJson result).utf8 = true := by
  refine replyJson_utf8 h.message fun ms hms => ?_
  split_ifs at hms
  cases hms
  have hfields := h.fields
  simp only [Profile.toList, List.forall_mem_cons] at hfields
  simp [Json.utf8, Json.utf8Members, hfields]
  decide

/-! ## The handlers -/

/-- One response has been initiated and nothing thrown. -/
def Handling.Answered (h : Handling) : Prop := h.responses.length = 1 ∧ h.escaped = none

instance (h : Handling) : Decidable h.Answered := inferInstanceAs (Decidable (_ ∧ _))

/-- The texts of a call are well formed, as those of a request are. -/
def Call.Utf8 : Call → Prop
  | .login _ _ _ => True
  | .registerUser _ username _ => Utf8.Valid username
  | .uploadAvatar _ _ _ _ => True
  | .updateProfile _ _ fields => ∀ s ∈ fields.toList, Utf8.Valid s

theorem Call.Utf8.toSection {crypto : Crypto} {assets : AssetsConfig} (hassets : assets.Utf8)
    {call : Call} (h : call.Utf8) {e : Section} (he : call.toSection crypto assets = some e) :
    e.Utf8 := by
  cases call with
  | login o username password => cases he
  | registerUser o username password =>
    cases he
    exact ⟨h, hassets.defaultAvatarUrl⟩
  | uploadAvatar o userId mime dataBase64 =>
    cases he
    exact hassets.uploadedAvatarUrl o.random userId mime
  | updateProfile o userId fields =>
    cases he
    exact h

/-- The request has been answered; at most one call of the service was made. -/
structure Handled (crypto : Crypto) (assets : AssetsConfig) (d : Database) (h : Handling) :
    Prop where
  answered : h.Answered
  wrote : h.database = d ∨
    ∃ call : Call, call.Utf8 ∧ h.database = (serve crypto assets d call).2

theorem sendJson_answered {platform : Platform} {root : Json} (hroot : root.utf8 = true)
    (status : ℕ) (req : HttpRequest) (d : Database) :
    (sendJson platform status root req d).Answered ∧
    (sendJson platform status root req d).database = d := by
  unfold sendJson
  have hdump := platform.dump_isSome root
  rw [hroot] at hdump
  rcases Option.isSome_iff_exists.mp hdump with ⟨body, hbody⟩
  rw [hbody]
  exact ⟨⟨rfl, rfl⟩, rfl⟩

section Handlers

variable {platform : Platform} (crypto : Crypto) {assets : AssetsConfig} {d : Database}

/-- A refusal before any call. -/
theorem Handled.refused {root : Json} (hroot : root.utf8 = true) (status : ℕ) (req : HttpRequest) :
    Handled crypto assets d (sendJson platform status root req d) :=
  ⟨(sendJson_answered hroot status req d).1, Or.inl (sendJson_answered hroot status req d).2⟩

/-- The reply to a call. -/
theorem Handled.called {call : Call} (hcall : call.Utf8) {root : Json} (hroot : root.utf8 = true)
    (status : ℕ) (req : HttpRequest) {d' : Database}
    (hd' : d' = (serve crypto assets d call).2) :
    Handled crypto assets d (sendJson platform status root req d') :=
  ⟨(sendJson_answered hroot status req d').1,
    Or.inr ⟨call, hcall, (sendJson_answered hroot status req d').2.trans hd'⟩⟩

theorem parseLoginRequest_valid {body username password : ByteString}
    (h : parseLoginRequest platform body = some (username, password)) : Utf8.Valid username := by
  unfold parseLoginRequest at h
  simp only [bind, Option.bind_eq_some_iff] at h
  rcases h with ⟨root, hparse, name, hname, _, _, h⟩
  split_ifs at h
  cases h
  exact valid_of_member (platform.parse_utf8 hparse) (Option.bind_eq_some_iff.mpr hname)

theorem parseUpdateProfileRequest_valid {body : ByteString} {userId : UInt64}
    {fields : Profile ByteString}
    (h : parseUpdateProfileRequest platform body = some (userId, fields)) :
    ∀ s ∈ fields.toList, Utf8.Valid s := by
  unfold parseUpdateProfileRequest at h
  simp only [bind, Option.bind_eq_some_iff] at h
  rcases h with ⟨root, hparse, nickname, hnickname, _, _, h⟩
  split_ifs at h
  cases h
  have hroot := platform.parse_utf8 hparse
  simp only [Profile.toList, List.forall_mem_cons, List.not_mem_nil, false_implies, implies_true,
    and_true]
  exact ⟨valid_of_member hroot (Option.bind_eq_some_iff.mpr hnickname),
    valid_optionalString hroot _, valid_optionalString hroot _, valid_optionalString hroot _,
    valid_optionalString hroot _, valid_optionalString hroot _, valid_optionalString hroot _,
    valid_optionalString hroot _⟩

variable (hassets : assets.Utf8) (hd : d.Sound) (h : d.committed.Utf8) (s : Surroundings)
  (req : HttpRequest)

include hd h in
theorem handleLogin_handled : Handled crypto assets d (handleLogin platform crypto s req d) := by
  unfold handleLogin
  cases hparse : parseLoginRequest platform req.body with
  | none => exact .refused crypto (loginResponseJson_utf8 (.refused (by decide))) _ _
  | some credentials =>
    rcases credentials with ⟨username, password⟩
    have hcall : (Call.login s.login username password).Utf8 := trivial
    refine .called crypto hcall (loginResponseJson_utf8 (login_utf8 crypto ?_ _ _ _)) _ _ rfl
    rw [Database.current, hd.idle]
    exact h

include hassets hd h in
theorem handleRegister_handled :
    Handled crypto assets d (handleRegister platform crypto assets s req d) := by
  unfold handleRegister
  cases hparse : parseLoginRequest platform req.body with
  | none => exact .refused crypto (loginResponseJson_utf8 (.refused (by decide))) _ _
  | some credentials =>
    rcases credentials with ⟨username, password⟩
    have hcall : (Call.registerUser s.registerUser username password).Utf8 :=
      parseLoginRequest_valid hparse
    exact .called crypto hcall (loginResponseJson_utf8
      (registerUser_utf8 crypto hassets hd h s.registerUser hcall password)) _ _ rfl

include hassets in
theorem handleUploadAvatar_handled :
    Handled crypto assets d (handleUploadAvatar platform crypto assets s req d) := by
  unfold handleUploadAvatar
  cases hparse : parseUploadAvatarRequest platform req.body with
  | none => exact .refused crypto (avatarUploadResponseJson_utf8 (.refused (by decide))) _ _
  | some upload =>
    rcases upload with ⟨userId, mime, dataBase64⟩
    have hcall : (Call.uploadAvatar s.uploadAvatar userId mime dataBase64).Utf8 := trivial
    exact .called crypto hcall (avatarUploadResponseJson_utf8
      (uploadAvatar_utf8 crypto hassets d s.uploadAvatar userId mime dataBase64)) _ _ rfl

theorem handleUpdateProfile_handled :
    Handled crypto assets d (handleUpdateProfile platform s req d) := by
  unfold handleUpdateProfile
  cases hparse : parseUpdateProfileRequest platform req.body with
  | none => exact .refused crypto (profileUpdateResponseJson_utf8 (.refused (by decide))) _ _
  | some update =>
    rcases update with ⟨userId, fields⟩
    have hcall : (Call.updateProfile s.updateProfile userId fields).Utf8 :=
      parseUpdateProfileRequest_valid hparse
    exact .called crypto hcall (profileUpdateResponseJson_utf8
      (updateProfile_utf8 d s.updateProfile userId hcall)) _ _ rfl

include hassets hd h in
/-- Behind the static files every request is answered. -/
theorem handleEndpoint_handled :
    Handled crypto assets d (handleEndpoint platform crypto assets s req d) := by
  unfold handleEndpoint
  split_ifs
  · exact handleLogin_handled crypto hd h s req
  · exact handleRegister_handled crypto hassets hd h s req
  · exact handleUploadAvatar_handled crypto hassets s req
  · exact handleUpdateProfile_handled crypto s req
  · exact .refused crypto (loginResponseJson_utf8 (.refused (by decide))) _ _

end Handlers

/-! ## The static files -/

/-- What `resolve_root` hands to `weakly_canonical`. -/
def StartsFrom (fs : ℕ → FileSystem) (configured : ByteString) (start : Path) : Prop :=
  if (Path.parse configured).absolute then start = Path.parse configured
  else ∃ dir, (fs 0).executableDir = .ok dir ∧ start = dir.append (Path.parse configured)

/-- Every call the static files make into the file system returns: each stage
as far as the ones before it lead there. -/
def StaticCallsReturn (fs : ℕ → FileSystem) (assets : AssetsConfig) (target : ByteString) : Prop :=
  ∀ configured relative, target.head? = some slash →
    servedFrom assets (normalizedTarget target) = some (configured, relative) →
    ∃ start root canonicalRoot file, StartsFrom fs configured start ∧
      (fs 1).weaklyCanonical start = .ok root ∧
      (fs 2).weaklyCanonical root = .ok canonicalRoot ∧
      (fs 3).weaklyCanonical (root.append relative) = .ok file ∧
      (canonicalRoot.text <+: file.text → ∃ found, (fs 4).fileExists file = .ok found ∧
        (found = true → ∃ regular, (fs 5).isRegularFile file = .ok regular))

section StaticFiles

variable {fs : ℕ → FileSystem} {assets : AssetsConfig}

theorem bind_returns_iff {ε α β : Type} {x : Except ε α} {f : α → Except ε β} :
    (∃ b, x >>= f = .ok b) ↔ ∃ a, x = .ok a ∧ ∃ b, f a = .ok b := by
  constructor
  · rintro ⟨b, h⟩
    rcases bind_eq_ok_iff.mp h with ⟨a, ha, hb⟩
    exact ⟨a, ha, b, hb⟩
  · rintro ⟨a, ha, b, hb⟩
    exact ⟨b, bind_eq_ok_iff.mpr ⟨a, ha, hb⟩⟩

theorem resolveRoot_eq_ok_iff {configured : ByteString} {root : Path} :
    resolveRoot fs configured = .ok root ↔
      ∃ start, StartsFrom fs configured start ∧ (fs 1).weaklyCanonical start = .ok root := by
  unfold resolveRoot StartsFrom
  rw [bind_eq_ok_iff]
  refine exists_congr fun start => and_congr_left fun _ => ?_
  by_cases habsolute : (Path.parse configured).absolute = true
  · simp [habsolute, pure, Except.pure, eq_comm]
  · cases hdir : (fs 0).executableDir with
    | error e => simp [habsolute, Except.map]
    | ok dir => simp [habsolute, Except.map, eq_comm]

theorem readFileResponse_returns_iff {file : Path} {target : ByteString} :
    (∃ r, readFileResponse fs file target = .ok r) ↔
      ∃ found, (fs 4).fileExists file = .ok found ∧
        (found = true → ∃ regular, (fs 5).isRegularFile file = .ok regular) := by
  unfold readFileResponse
  rw [bind_returns_iff]
  refine exists_congr fun found => and_congr_right fun _ => ?_
  cases found with
  | false => simp [pure, Except.pure]
  | true =>
    rw [Bool.not_true, if_neg Bool.false_ne_true, bind_returns_iff]
    constructor
    · rintro ⟨regular, hregular, _⟩ _
      exact ⟨regular, hregular⟩
    · intro h
      rcases h rfl with ⟨regular, hregular⟩
      refine ⟨regular, hregular, ?_⟩
      cases regular with
      | false => exact ⟨none, rfl⟩
      | true =>
        cases (fs 6).content file with
        | none => exact ⟨none, rfl⟩
        | some body => exact ⟨_, rfl⟩

/-- The static files throw exactly where a call into the file system does. -/
theorem tryServeStaticFile_returns_iff {target : ByteString} :
    (∃ r, tryServeStaticFile fs target assets = .ok r) ↔ StaticCallsReturn fs assets target := by
  by_cases hplace : ∃ place, target.head? = some slash ∧
      servedFrom assets (normalizedTarget target) = some place
  · rcases hplace with ⟨⟨configured, relative⟩, htarget, hserved⟩
    rw [tryServeStaticFile_of_served fs htarget hserved]
    simp only [bind_returns_iff, resolveRoot_eq_ok_iff]
    constructor
    · rintro ⟨root, ⟨start, hstart, hroot⟩, canonicalRoot, hcanonical, file, hfile, h⟩
      intro configured' relative' _ hserved'
      cases hserved.symm.trans hserved'
      refine ⟨start, root, canonicalRoot, file, hstart, hroot, hcanonical, hfile, ?_⟩
      intro hbegins
      rw [if_pos hbegins] at h
      exact readFileResponse_returns_iff.mp h
    · intro h
      rcases h configured relative htarget hserved with
        ⟨start, root, canonicalRoot, file, hstart, hroot, hcanonical, hfile, hread⟩
      refine ⟨root, ⟨start, hstart, hroot⟩, canonicalRoot, hcanonical, file, hfile, ?_⟩
      -- the file is read only below the canonical root; elsewhere the answer is again `nullopt`
      by_cases hbegins : canonicalRoot.text <+: file.text
      · rw [if_pos hbegins]
        exact readFileResponse_returns_iff.mpr (hread hbegins)
      · rw [if_neg hbegins]
        exact ⟨none, rfl⟩
  · have hnone : ∀ place, target.head? = some slash →
        servedFrom assets (normalizedTarget target) ≠ some place :=
      fun place htarget hserved => hplace ⟨place, htarget, hserved⟩
    refine iff_of_true ⟨none, tryServeStaticFile_of_unserved fs fun htarget => ?_⟩ ?_
    · rw [Option.eq_none_iff_forall_ne_some]
      exact fun place => hnone place htarget
    · intro configured relative htarget hserved
      exact absurd hserved (hnone _ htarget)

end StaticFiles

/-! ## The requests -/

section Requests

variable {platform : Platform} {crypto : Crypto} {assets : AssetsConfig} {d : Database}

/-- A request is answered, unless the static files throw; it makes at most one
call of the service. -/
theorem handleRequest_cases (hassets : assets.Utf8) (hd : d.Sound) (h : d.committed.Utf8)
    (s : Surroundings) (req : HttpRequest) :
    ((handleRequest platform crypto assets s req d).Answered ↔
      (req.method = .get → isHealth req.target = false →
        StaticCallsReturn s.fs assets req.target)) ∧
    ((handleRequest platform crypto assets s req d).database = d ∨
      ∃ call : Call, call.Utf8 ∧ (handleRequest platform crypto assets s req d).database =
        (serve crypto assets d call).2) := by
  have hendpoint : Handled crypto assets d (handleEndpoint platform crypto assets s req d) :=
    handleEndpoint_handled crypto hassets hd h s req
  unfold handleRequest
  by_cases hoptions : req.method = .options
  · rw [if_pos hoptions]
    refine ⟨iff_of_true ⟨rfl, rfl⟩ ?_, Or.inl rfl⟩
    intro hget
    rw [hoptions] at hget
    cases hget
  rw [if_neg hoptions]
  by_cases hget : req.method = .get
  swap
  · rw [if_neg hget]
    exact ⟨iff_of_true hendpoint.answered fun h => absurd h hget, hendpoint.wrote⟩
  rw [if_pos hget]
  by_cases hhealth : isHealth req.target = true
  · rw [if_pos hhealth]
    refine ⟨iff_of_true ⟨rfl, rfl⟩ ?_, Or.inl rfl⟩
    intro _ hno
    rw [hhealth] at hno
    cases hno
  rw [if_neg hhealth]
  have hreturns : (∃ r, tryServeStaticFile s.fs req.target assets = .ok r) ↔
      StaticCallsReturn s.fs assets req.target := tryServeStaticFile_returns_iff
  have hcondition : (req.method = .get → isHealth req.target = false →
      StaticCallsReturn s.fs assets req.target) ↔ StaticCallsReturn s.fs assets req.target :=
    ⟨fun h => h hget (by simpa using hhealth), fun h _ _ => h⟩
  rw [hcondition, ← hreturns]
  rcases tryServeStaticFile s.fs req.target assets with e | _ | file
  · -- nothing catches the exception
    refine ⟨iff_of_false ?_ ?_, Or.inl rfl⟩
    · rintro ⟨hlength, _⟩
      cases hlength
    · rintro ⟨r, hr⟩
      cases hr
  · exact ⟨iff_of_true hendpoint.answered ⟨_, rfl⟩, hendpoint.wrote⟩
  · exact ⟨iff_of_true ⟨rfl, rfl⟩ ⟨_, rfl⟩, Or.inl rfl⟩

/-- Between requests no transaction is open and all texts are well formed. -/
theorem httpSessions_invariant (hassets : assets.Utf8)
    (h : Reachable (httpSessions platform crypto assets) d) : d.Sound ∧ d.committed.Utf8 := by
  refine h.invariant (I := fun d => d.Sound ∧ d.committed.Utf8) ?_ ?_
  · intro d hinit
    rw [show d = Database.create from hinit]
    refine ⟨Database.sound_create, ?_⟩
    constructor <;> simp [Database.create, Tables.empty]
  · rintro d ⟨s, req⟩ d' _ ⟨hd, hutf8⟩ hstep
    have hd' : d' = (handleRequest platform crypto assets s req d).database := hstep
    rw [hd']
    rcases (handleRequest_cases hassets hd hutf8 s req).2 with hsame | ⟨call, hcall, hserve⟩
    · rw [hsame]
      exact ⟨hd, hutf8⟩
    · rw [hserve]
      rcases serve_section crypto assets d call with hsame | ⟨e, hsection, hwrite⟩
      · rw [hsame]
        exact ⟨hd, hutf8⟩
      · rw [hwrite]
        exact ⟨Section.sound hd e, Section.utf8 hd hutf8 (hcall.toSection hassets hsection)⟩

/-- In every run of the server a request is answered by exactly one response,
and nothing is thrown out of its handler, exactly if no call that the static
files make into the file system for it throws. -/
theorem answered_once_iff (hassets : Configured platform assets)
    (h : Reachable (httpSessions platform crypto assets) d) (s : Surroundings)
    (req : HttpRequest) :
    (handleRequest platform crypto assets s req d).Answered ↔
      (req.method = .get → isHealth req.target = false →
        StaticCallsReturn s.fs assets req.target) := by
  rcases httpSessions_invariant hassets.utf8 h with ⟨hd, hutf8⟩
  exact (handleRequest_cases hassets.utf8 hd hutf8 s req).1

end Requests

/-- Calls of the service that all succeed, on the given file system. -/
def smooth (fs : FileSystem) : Surroundings where
  fs _ := fs
  login := ⟨.done, .done⟩
  registerUser := ⟨.done, ⟨.done, .done, .done, .done, .done⟩, .done⟩
  uploadAvatar := ⟨.done, .done, .ok (Path.parse (ascii "/srv")), .ok (), true, none⟩
  updateProfile := ⟨.done, .done⟩

/-- A file system without links and files, which refuses names of more than 255
bytes. -/
def emptyDisk : FileSystem where
  executableDir := .ok (Path.parse (ascii "/srv"))
  weaklyCanonical p :=
    if p.names.any (fun name => 255 < name.length) then .error ⟨ascii "File name too long"⟩
    else .ok p.lexicallyNormal
  fileExists _ := .ok false
  isRegularFile _ := .ok false
  content _ := none

/-- A file that is not there. -/
theorem missing_file_answered :
    (handleRequest reference ⟨fun _ => [], fun _ => none⟩ {} (smooth emptyDisk)
      { method := .get, target := ascii "/static/a.png", body := [] } Database.create).Answered := by
  refine (answered_once_iff (Or.inl rfl) (.init rfl) _ _).mpr ?_
  intro _ _ configured relative _ hserved
  have hplace : (configured, relative) =
      (ascii "./static", Path.parse (ascii "a.png")) :=
    Option.some.inj (hserved.symm.trans (by decide +kernel))
  cases hplace
  refine ⟨(Path.parse (ascii "/srv")).append (Path.parse (ascii "./static")), _, _, _, ?_,
    rfl, rfl, rfl, ?_⟩
  · exact ⟨_, rfl, rfl⟩
  · intro _
    exact ⟨false, rfl, fun h => absurd h Bool.false_ne_true⟩

/-- A name too long for the file system ends the server. -/
theorem long_name_escapes :
    ¬(handleRequest reference ⟨fun _ => [], fun _ => none⟩ {} (smooth emptyDisk)
      { method := .get, target := ascii "/static/" ++ List.replicate 256 97, body := [] }
      Database.create).Answered := by
  decide +kernel

end CCMeeting
