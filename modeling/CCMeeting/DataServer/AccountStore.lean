import CCMeeting.DataServer.Accounts

/-! # The account store

What the replies so far say about an account, and that the map keeps to it:
a name is taken once its registration has been answered with success, and the
fields of an account are those last reported. With the refinement of the map
this is what registrations and logins of the service answer.
-/

namespace CCMeeting

open ByteString Machine

/-! ## What has been said -/

/-- Calls and the replies to them, in order. -/
abbrev Exchanges := List (Call × Reply)

/-- The name has been registered. -/
def Registered (history : Exchanges) (username : ByteString) : Prop :=
  ∃ o password result, (Call.registerUser o username password, Reply.login result) ∈ history ∧
    result.success = true

/-- The fields of a new account. -/
def newFields (username : ByteString) : Profile ByteString :=
  ⟨username, [], [], [], [], [], [], []⟩

/-- The fields a call has reported for an account. -/
def report (userId : ℕ) : Call × Reply → Option (Profile ByteString)
  | (.updateProfile _ id _, .profile result) =>
    if result.success = true ∧ id.toNat = userId then some result.fields else none
  | _ => none

/-- The fields last reported for an account, those of a new one without a report. -/
def lastReported (userId : ℕ) (username : ByteString) (history : Exchanges) : Profile ByteString :=
  history.foldl (fun fields entry => (report userId entry).getD fields) (newFields username)

theorem registered_snoc {history : Exchanges} {entry : Call × Reply} {username : ByteString} :
    Registered (history ++ [entry]) username ↔
      Registered history username ∨ Registered [entry] username := by
  unfold Registered
  simp only [List.mem_append]
  constructor
  · rintro ⟨o, password, result, hmem | hmem, hsuccess⟩
    · exact Or.inl ⟨o, password, result, hmem, hsuccess⟩
    · exact Or.inr ⟨o, password, result, hmem, hsuccess⟩
  · rintro (⟨o, password, result, hmem, hsuccess⟩ | ⟨o, password, result, hmem, hsuccess⟩)
    · exact ⟨o, password, result, Or.inl hmem, hsuccess⟩
    · exact ⟨o, password, result, Or.inr hmem, hsuccess⟩

theorem lastReported_snoc (userId : ℕ) (username : ByteString) (history : Exchanges)
    (entry : Call × Reply) : lastReported userId username (history ++ [entry]) =
      (report userId entry).getD (lastReported userId username history) := by
  simp [lastReported]

/-! ## The map keeps to the replies -/

/-- What the map has to do with the replies so far. -/
structure AccountMap.Recorded (history : Exchanges) (m : AccountMap) : Prop where
  registered : ∀ username, (m.account username).isSome = true ↔ Registered history username
  fields : ∀ username a, m.account username = some a →
    a.fields = lastReported a.userId username history
  status : ∀ username a, m.account username = some a → a.status = 1
  bounded : ∀ username a, m.account username = some a → a.userId ≤ m.lastId
  distinct : ∀ username username' a a', m.account username = some a →
    m.account username' = some a' → a.userId = a'.userId → username = username'
  /-- nothing is reported for ids to come -/
  quiet : ∀ userId username, m.lastId < userId →
    lastReported userId username history = newFields username

namespace AccountMap

variable {m : AccountMap} {history : Exchanges}

theorem recorded_empty : Recorded [] empty where
  registered := by simp [empty, Registered]
  fields := by simp [empty]
  status := by simp [empty]
  bounded := by simp [empty]
  distinct := by simp [empty]
  quiet := fun _ _ _ => rfl

/-- A reply that registers nobody and reports nothing, when the map stays. -/
theorem Recorded.same (h : Recorded history m) {entry : Call × Reply}
    (hregister : ∀ username, ¬Registered [entry] username) (hreport : ∀ id, report id entry = none) :
    Recorded (history ++ [entry]) m where
  registered := by
    intro username
    rw [registered_snoc, or_iff_left (hregister username)]
    exact h.registered username
  fields := by
    intro username a ha
    rw [lastReported_snoc, hreport]
    exact h.fields username a ha
  status := h.status
  bounded := h.bounded
  distinct := h.distinct
  quiet := by
    intro id username hid
    rw [lastReported_snoc, hreport]
    exact h.quiet id username hid

/-- A registration. -/
theorem Recorded.insert (h : Recorded history m) {entry : Call × Reply} {username : ByteString}
    {a : Account} (hid : a.userId = m.lastId + 1)
    (hstatus : a.status = 1) (hfields : a.fields = newFields username)
    (hregister : ∀ name, Registered [entry] name ↔ name = username)
    (hreport : ∀ id, report id entry = none) :
    Recorded (history ++ [entry]) (m.insert username a) where
  registered := by
    intro name
    rw [registered_snoc, hregister, account_insert]
    by_cases hname : name = username
    · simp [hname]
    · rw [if_neg hname, or_iff_left hname]
      exact h.registered name
  fields := by
    intro name b hb
    rw [lastReported_snoc, hreport]
    rw [account_insert] at hb
    split_ifs at hb with hname
    · cases hb
      rw [hname, hfields]
      exact (h.quiet _ _ (by omega)).symm
    · exact h.fields name b hb
  status := by
    intro name b hb
    rw [account_insert] at hb
    split_ifs at hb with hname
    · cases hb
      exact hstatus
    · exact h.status name b hb
  bounded := by
    intro name b hb
    rw [account_insert] at hb
    show b.userId ≤ m.lastId + 1
    split_ifs at hb with hname
    · cases hb
      omega
    · exact Nat.le_succ_of_le (h.bounded name b hb)
  distinct := by
    intro name name' b b' hb hb' heq
    rw [account_insert] at hb hb'
    split_ifs at hb hb' with hname hname' hname'
    · rw [hname, hname']
    · -- the new id is larger than the others
      cases hb
      have := h.bounded name' b' hb'
      omega
    · cases hb'
      have := h.bounded name b hb
      omega
    · exact h.distinct name name' b b' hb hb' heq
  quiet := by
    intro id name hlt
    rw [lastReported_snoc, hreport]
    have hlt : m.lastId + 1 < id := hlt
    exact h.quiet id name (by omega)

/-- A change of one account. -/
theorem Recorded.update (h : Recorded history m) {entry : Call × Reply} {userId : UInt64}
    {f : Account → Account} (hexists : m.HasId userId)
    (hid : ∀ a, (f a).userId = a.userId) (hstatus : ∀ a, (f a).status = a.status)
    (hregister : ∀ username, ¬Registered [entry] username)
    (hreport : ∀ a : Account, a.userId = userId.toNat →
      (report a.userId entry).getD a.fields = (f a).fields)
    (hothers : ∀ id, id ≠ userId.toNat → report id entry = none) :
    Recorded (history ++ [entry]) (m.update userId f) := by
  -- every account of the new map is an old one, its fields replaced by the exchange's report if
  -- it has one
  have hchanged : ∀ {username b}, (m.update userId f).account username = some b →
      ∃ a, m.account username = some a ∧ b.userId = a.userId ∧ b.status = a.status ∧
        b.fields = (report a.userId entry).getD a.fields := by
    intro username b hb
    rw [account_update, Option.map_eq_some_iff] at hb
    rcases hb with ⟨a, ha, rfl⟩
    refine ⟨a, ha, ?_⟩
    by_cases hmatch : a.userId = userId.toNat
    · rw [if_pos hmatch]
      exact ⟨hid a, hstatus a, (hreport a hmatch).symm⟩
    · rw [if_neg hmatch, hothers _ hmatch]
      exact ⟨rfl, rfl, rfl⟩
  constructor
  · intro username
    rw [registered_snoc, or_iff_left (hregister username), account_update, Option.isSome_map]
    exact h.registered username
  · intro username b hb
    rcases hchanged hb with ⟨a, ha, hid, _, hfields⟩
    rw [lastReported_snoc, hfields, hid, h.fields username a ha]
  · intro username b hb
    rcases hchanged hb with ⟨a, ha, _, hstatus, _⟩
    rw [hstatus]
    exact h.status username a ha
  · intro username b hb
    rcases hchanged hb with ⟨a, ha, hid, _, _⟩
    rw [hid]
    exact h.bounded username a ha
  · intro username username' b b' hb hb' heq
    rcases hchanged hb with ⟨a, ha, hid, _, _⟩
    rcases hchanged hb' with ⟨a', ha', hid', _, _⟩
    exact h.distinct username username' a a' ha ha' (by rw [← hid, ← hid', heq])
  -- `userId` is a given number, so the report is not about a number yet to be given
  · intro id username hlt
    rcases hexists with ⟨name, a, ha, haid⟩
    have hle := h.bounded name a ha
    have hlt : m.lastId < id := hlt
    rw [lastReported_snoc, hothers id (by omega)]
    exact h.quiet id username hlt

/-! One call, whatever it is. -/

section Serve

variable (crypto : Crypto) (assets : AssetsConfig)

theorem Recorded.registerUser (h : Recorded history m) (o : RegisterOutcomes)
    (username password : ByteString) :
    Recorded (history ++ [(.registerUser o username password,
      .login (m.registerUser crypto assets username password).1)])
      (m.registerUser crypto assets username password).2 := by
  have hreport : ∀ result id,
      report id (.registerUser o username password, Reply.login result) = none := by
    intro result id
    rfl
  have hrefused : ∀ result : LoginResult, result.success = false →
      ∀ name, ¬Registered [(Call.registerUser o username password, Reply.login result)] name := by
    rintro result hsuccess name ⟨o', password', result', hmem, htrue⟩
    cases List.mem_singleton.mp hmem
    rw [hsuccess] at htrue
    cases htrue
  -- every branch but one refuses, and a refused registration neither registers nor reports
  unfold AccountMap.registerUser
  by_cases hempty : username = [] ∨ password = []
  · rw [if_pos hempty]
    exact h.same (hrefused _ rfl) (hreport _)
  rw [if_neg hempty]
  by_cases hlong : 50 < username.length
  · rw [if_pos hlong]
    exact h.same (hrefused _ rfl) (hreport _)
  rw [if_neg hlong]
  cases m.account username with
  | some a => exact h.same (hrefused _ rfl) (hreport _)
  | none =>
    dsimp only
    split_ifs
    -- only here the answer is a success, and the exchange registers exactly this name
    · refine h.insert rfl rfl rfl (fun name => ⟨?_, ?_⟩) (hreport _)
      · rintro ⟨o', password', result', hmem, _⟩
        cases List.mem_singleton.mp hmem
        rfl
      · rintro rfl
        exact ⟨_, _, _, List.mem_singleton_self _, rfl⟩
    · exact h.same (hrefused _ rfl) (hreport _)

theorem Recorded.uploadAvatar (h : Recorded history m) (o : UploadOutcomes) (userId : UInt64)
    (mime dataBase64 : ByteString) :
    Recorded (history ++ [(.uploadAvatar o userId mime dataBase64,
      .avatar (m.uploadAvatar crypto assets o userId mime dataBase64).1)])
      (m.uploadAvatar crypto assets o userId mime dataBase64).2 := by
  have hreport : ∀ result id,
      report id (.uploadAvatar o userId mime dataBase64, Reply.avatar result) = none := by
    intro result id
    rfl
  have hregister : ∀ result name,
      ¬Registered [(Call.uploadAvatar o userId mime dataBase64, Reply.avatar result)] name := by
    rintro result name ⟨o', password', result', hmem, _⟩
    cases List.mem_singleton.mp hmem
  -- no branch registers a name or reports a profile; one changes the avatar of a stored account
  unfold AccountMap.uploadAvatar
  split_ifs with _ _ hid
  · exact h.same (hregister _) (hreport _)
  · exact h.same (hregister _) (hreport _)
  · cases crypto.base64Decode dataBase64 with
    | none => exact h.same (hregister _) (hreport _)
    | some decoded =>
      dsimp only
      split_ifs
      · exact h.same (hregister _) (hreport _)
      rcases saveAvatar assets o with e | _ | _
      · exact h.same (hregister _) (hreport _)
      · exact h.same (hregister _) (hreport _)
      · exact h.update hid (fun _ => rfl) (fun _ => rfl) (hregister _) (fun _ _ => rfl)
          (fun _ _ => rfl)
  · exact h.same (hregister _) (hreport _)

theorem Recorded.updateProfile (h : Recorded history m) (o : UpdateOutcomes) (userId : UInt64)
    (fields : Profile ByteString) :
    Recorded (history ++ [(.updateProfile o userId fields,
      .profile (m.updateProfile userId fields).1)]) (m.updateProfile userId fields).2 := by
  have hregister : ∀ result name,
      ¬Registered [(Call.updateProfile o userId fields, Reply.profile result)] name := by
    rintro result name ⟨o', password', result', hmem, _⟩
    cases List.mem_singleton.mp hmem
  have hrefused : ∀ result : ProfileUpdateResult, result.success = false → ∀ id,
      report id (.updateProfile o userId fields, .profile result) = none := by
    intro result hsuccess id
    simp [report, hsuccess]
  unfold AccountMap.updateProfile
  cases profileProblem userId fields with
  | some message => exact h.same (hregister _) (hrefused _ rfl)
  | none =>
    dsimp only
    split_ifs with hid
    · refine h.update hid (fun _ => rfl) (fun _ => rfl) (hregister _) ?_ ?_
      · intro a ha
        simp [report, ha]
      · intro id hne
        simp [report, Ne.symm hne]
    · exact h.same (hregister _) (hrefused _ rfl)

theorem Recorded.serve (h : Recorded history m) (call : Call) :
    Recorded (history ++ [(call, (m.serve crypto assets call).1)])
      (m.serve crypto assets call).2 := by
  cases call with
  | login o username password =>
    refine h.same ?_ (fun _ => rfl)
    rintro name ⟨o', password', result', hmem, _⟩
    cases List.mem_singleton.mp hmem
  | registerUser o username password => exact h.registerUser crypto assets o username password
  | uploadAvatar o userId mime dataBase64 =>
    exact h.uploadAvatar crypto assets o userId mime dataBase64
  | updateProfile o userId fields => exact h.updateProfile o userId fields

/-- The map after any calls. -/
theorem recorded (calls : List Call) :
    Recorded (transcript (AccountMap.serve crypto assets) empty calls)
      (answers (AccountMap.serve crypto assets) empty calls).2 :=
  transcript_induction recorded_empty (fun _ _ call h => h.serve crypto assets call) calls

/-! What the map answers. -/

theorem login_success {username password : ByteString} (hempty : ¬(username = [] ∨ password = [])) :
    (m.login crypto username password).success = true ↔
      ∃ a, m.account username = some a ∧ a.status = 1 ∧
        crypto.sha256Hex password = a.passwordHash := by
  unfold AccountMap.login
  rw [if_neg hempty]
  cases haccount : m.account username with
  | none => simp
  | some a =>
    dsimp only
    by_cases hstatus : a.status = 1
    · rw [if_neg (not_not.mpr hstatus)]
      by_cases hhash : crypto.sha256Hex password = a.passwordHash
      · simp [hhash, hstatus]
      · simp [hhash]
    · rw [if_pos hstatus]
      simp [hstatus]

theorem login_user {username password : ByteString} {a : Account}
    (haccount : m.account username = some a)
    (hsuccess : (m.login crypto username password).success = true) :
    (m.login crypto username password).user = a.info username := by
  unfold AccountMap.login at hsuccess ⊢
  rw [haccount] at hsuccess ⊢
  dsimp only at hsuccess ⊢
  split_ifs at hsuccess ⊢
  rfl

theorem registerUser_conflict {username password : ByteString}
    (hempty : ¬(username = [] ∨ password = [])) (hlong : ¬50 < username.length) :
    (m.registerUser crypto assets username password).1.code = 409 ↔
      (m.account username).isSome = true := by
  unfold AccountMap.registerUser
  rw [if_neg hempty, if_neg hlong]
  cases m.account username with
  | some a => simp
  | none =>
    dsimp only
    split_ifs <;> simp

theorem updateProfile_accounts (userId : UInt64) (fields : Profile ByteString) :
    (m.updateProfile userId fields).2 =
      if (m.updateProfile userId fields).1.success = true then
        m.update userId fun a => { a with fields := (m.updateProfile userId fields).1.fields }
      else m := by
  unfold AccountMap.updateProfile
  cases profileProblem userId fields with
  | some message => rfl
  | none =>
    dsimp only
    by_cases hid : m.HasId userId
    · rw [if_pos hid]
      exact (if_pos rfl).symm
    · rw [if_neg hid]
      exact (if_neg Bool.false_ne_true).symm

end Serve

end AccountMap

/-! ## The service -/

/-- Where no call reaches what a zero byte cuts off, the service is the map. -/
theorem service_refines (crypto : Crypto) (assets : AssetsConfig) :
    Refines (serve crypto assets) (AccountMap.serve crypto assets)
      (fun m call => call.Done ∧ call.Faithful crypto m) Database.Neat Database.accounts := by
  have hstep : ∀ {d : Database} {call : Call}, d.Neat →
      call.Done ∧ call.Faithful crypto d.accounts →
      (serve crypto assets d call).1 = (d.accounts.serve crypto assets call).1 ∧
      (serve crypto assets d call).2.accounts = (d.accounts.serve crypto assets call).2 ∧
      (serve crypto assets d call).2.Neat := by
    rintro d call hd ⟨hdone, hcall⟩
    cases call with
    | login o username password =>
      cases (hdone : o = _)
      exact ⟨congrArg Reply.login (hd.login crypto hcall), rfl, hd⟩
    | registerUser o username password =>
      cases (hdone : o = _)
      rcases hd.registerUser crypto assets hcall with ⟨hreply, hrest⟩
      exact ⟨congrArg Reply.login hreply, hrest⟩
    | uploadAvatar o userId mime dataBase64 =>
      rcases hd.uploadAvatar crypto assets hdone userId mime dataBase64 with ⟨hreply, hrest⟩
      exact ⟨congrArg Reply.avatar hreply, hrest⟩
    | updateProfile o userId fields =>
      cases (hdone : o = _)
      rcases hd.updateProfile userId hcall with ⟨hreply, hrest⟩
      exact ⟨congrArg Reply.profile hreply, hrest⟩
  exact ⟨fun hd hcall => (hstep hd hcall).2.2, fun hd hcall => (hstep hd hcall).1,
    fun hd hcall => (hstep hd hcall).2.1⟩

/-- The service against the map, as long as no call reaches what a zero byte
cuts off: all replies so far are those of the map and the tables hold its
accounts; different names are different accounts; the next registration meets a
conflict exactly when the name has been registered; the next login succeeds
exactly with status 1 and the right hash, and shows the fields last reported;
the next update changes the fields of one account to what it reports. -/
theorem account_store (crypto : Crypto) (assets : AssetsConfig) {calls : List Call}
    (h : AllMeet (AccountMap.serve crypto assets)
      (fun m call => call.Done ∧ call.Faithful crypto m) .empty calls) :
    let exchanges := transcript (serve crypto assets) .create calls
    let d := (answers (serve crypto assets) .create calls).2
    let m := (answers (AccountMap.serve crypto assets) .empty calls).2
    exchanges = transcript (AccountMap.serve crypto assets) .empty calls ∧ d.accounts = m ∧
    (∀ username username' a a', m.account username = some a → m.account username' = some a' →
      a.userId = a'.userId → username = username') ∧
    (∀ o username password, (Call.registerUser o username password).Done →
      (Call.registerUser o username password).Faithful crypto m →
      username ≠ [] → username.length ≤ 50 → password ≠ [] →
      ((registerUser crypto assets d o username password).1.code = 409 ↔
        Registered exchanges username)) ∧
    (∀ o username password, (Call.login o username password).Done →
      (Call.login o username password).Faithful crypto m → username ≠ [] → password ≠ [] →
      ((login crypto d o username password).success = true ↔
        ∃ a, m.account username = some a ∧ a.status = 1 ∧
          crypto.sha256Hex password = a.passwordHash) ∧
      ∀ a, m.account username = some a → (login crypto d o username password).success = true →
        (login crypto d o username password).user =
          ⟨UInt64.ofNat a.userId, username, a.avatar,
            lastReported a.userId username exchanges⟩) ∧
    (∀ o userId fields, (Call.updateProfile o userId fields).Done →
      (Call.updateProfile o userId fields).Faithful crypto m →
      (updateProfile d o userId fields).2.accounts =
        if (updateProfile d o userId fields).1.success = true then
          m.update userId fun a => { a with fields := (updateProfile d o userId fields).1.fields }
        else m) := by
  intro exchanges d m
  -- the code's database and the account map run side by side; what is said about the map below
  -- carries over to `d` through `d.accounts = m`
  rcases (service_refines crypto assets).run Database.neat_create h with
    ⟨hanswers, haccounts, hd⟩
  have haccounts : d.accounts = m := haccounts
  have hexchanges : exchanges = transcript (AccountMap.serve crypto assets) .empty calls :=
    congrArg (List.zip calls) hanswers
  have hrecorded : AccountMap.Recorded exchanges m := by
    rw [hexchanges]
    exact AccountMap.recorded crypto assets calls
  refine ⟨hexchanges, haccounts, hrecorded.distinct, ?_, ?_, ?_⟩
  -- the map knows a username just when a registration of it succeeded
  · intro o username password hdone hcall hname hlong hpassword
    cases (hdone : o = _)
    rw [← haccounts] at hcall hrecorded
    rw [(Database.Neat.registerUser hd crypto assets hcall).1,
      AccountMap.registerUser_conflict crypto assets (by simp [hname, hpassword]) (by omega)]
    exact hrecorded.registered username
  · intro o username password hdone hcall hname hpassword
    cases (hdone : o = _)
    rw [← haccounts] at hcall hrecorded ⊢
    rw [Database.Neat.login hd crypto hcall]
    refine ⟨AccountMap.login_success crypto (by simp [hname, hpassword]), ?_⟩
    intro a ha hsuccess
    rw [AccountMap.login_user crypto ha hsuccess, ← hrecorded.fields username a ha]
    rfl
  · intro o userId fields hdone hcall
    cases (hdone : o = _)
    rw [← haccounts] at hcall ⊢
    rcases Database.Neat.updateProfile hd userId hcall with ⟨hreply, hafter, _⟩
    rw [hreply, hafter]
    exact AccountMap.updateProfile_accounts userId fields

/-! ## Two histories -/

/-- OpenSSL on the password `pw`. -/
def opensslOnPw : Crypto where
  sha256 _ := [
    0x30, 0xc9, 0x52, 0xfa, 0xb1, 0x22, 0xc3, 0xf9, 0x75, 0x9f, 0x02, 0xa6,
    0xd9, 0x5c, 0x37, 0x58, 0xb2, 0x46, 0xb4, 0xfe, 0xe2, 0x39, 0x95, 0x7b,
    0x2d, 0x4f, 0xee, 0x46, 0xe2, 0x61, 0x70, 0xc4]
  bioReadBase64 _ := none

/-- A registration whose statements are all done. -/
def registration (username : ByteString) : Call :=
  .registerUser ⟨.done, ⟨.done, .done, .done, .done, .done⟩, .done⟩ username (ascii "pw")

/-- A registration and a new profile. -/
theorem account_store_of_ann :
    let calls := [registration (ascii "ann"), .updateProfile ⟨.done, .done⟩ 1
      ⟨ascii "Ann", ascii "hello", ascii "other", [], [], [], [], []⟩]
    let exchanges := transcript (serve opensslOnPw {}) .create calls
    let d := (answers (serve opensslOnPw {}) .create calls).2
    exchanges = transcript (AccountMap.serve opensslOnPw {}) .empty calls ∧
    ((registerUser opensslOnPw {} d ⟨.done, ⟨.done, .done, .done, .done, .done⟩, .done⟩
      (ascii "ann") (ascii "pw")).1.code = 409 ↔ Registered exchanges (ascii "ann")) := by
  intro calls exchanges d
  have hcalls : AllMeet (AccountMap.serve opensslOnPw {})
      (fun m call => call.Done ∧ call.Faithful opensslOnPw m) .empty calls :=
    ⟨⟨rfl, Or.inl (by decide)⟩, ⟨rfl, Or.inl (by decide)⟩, trivial⟩
  have h := account_store opensslOnPw {} hcalls
  exact ⟨h.1, h.2.2.2.1 _ (ascii "ann") (ascii "pw") rfl (Or.inl (by decide)) (by decide)
    (by decide) (by decide)⟩

/-- The name up to a zero byte is taken by the registration of the whole name:
a conflict is met by a name nobody has registered, and the replies are not
those of the map. -/
theorem beginning_of_name_taken :
    let first := registration (ascii "a" ++ [0] ++ ascii "b")
    let d := (serve opensslOnPw {} .create first).2
    first.Done ∧ ¬Registered (transcript (serve opensslOnPw {}) .create [first]) (ascii "a") ∧
    (registerUser opensslOnPw {} d ⟨.done, ⟨.done, .done, .done, .done, .done⟩, .done⟩
      (ascii "a") (ascii "pw")).1.code = 409 ∧
    (answers (serve opensslOnPw {}) .create [first, registration (ascii "a")]).1 ≠
      (answers (AccountMap.serve opensslOnPw {}) .empty [first, registration (ascii "a")]).1 := by
  intro first d
  refine ⟨rfl, ?_, by decide +kernel, by decide +kernel⟩
  rintro ⟨o, password, result, hmem, _⟩
  simp [transcript, answers, first, registration, ascii] at hmem

end CCMeeting
