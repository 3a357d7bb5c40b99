import CCMeeting.DataServer.Database
import CCMeeting.DataServer.StaticFile
import CCMeeting.Lib.Transition
import CCMeeting.Protocol.Codec

/-! # The user repository

`repository::UserRepository` over the account database. Every function takes
how the statements it executes end; the lock is held for the statements of one
function, but for `create_user`, which lets go of it between the check and the
transaction.
-/

namespace CCMeeting

open ByteString Transition

/-! ## The program -/

/-- The exceptions the data server throws: `std::runtime_error`, and those of
the file system and of `nlohmann::json`. -/
inductive StdException where
  | runtimeError
  | filesystem (e : FilesystemError)
  | json (e : JsonException)
deriving DecidableEq

/-- `repository::UserCredential`. -/
structure UserCredential where
  userId : UInt64
  username : ByteString
  passwordHash : ByteString
  status : UInt32
deriving DecidableEq

/-- `model::UserInfo`; `name` is the nickname. -/
structure UserInfo where
  id : UInt64
  username : ByteString
  avatar : ByteString
  fields : Profile ByteString
deriving DecidableEq

/-- `column_text`: a null is the empty text. -/
def columnText (column : Option ByteString) : ByteString := (column.map cStr).getD []

/-- The ends of the statements of `create_user`. -/
structure CreateOutcomes where
  check : Outcome
  beginImmediate : Outcome
  insertUser : Outcome
  insertProfile : Outcome
  commit : Outcome
deriving DecidableEq

namespace Database

/-- `find_credential_by_username`. -/
def findCredentialByUsername (d : Database) (o : Outcome) (username : ByteString) :
    Except StdException (Option UserCredential) :=
  if o = .done then
    .ok ((d.current.users.find? fun u => u.username = cStr username).map fun u =>
      { userId := UInt64.ofNat u.userId
        username := columnText (some u.username)
        passwordHash := columnText (some u.passwordHash)
        status := u.status })
  else .error .runtimeError

/-- The profile columns of a user, all null without a profile (`LEFT JOIN`). -/
def profileColumns (d : Database) (userId : ℕ) : Option ByteString × Profile (Option ByteString) :=
  match d.current.profiles.find? (fun p => p.userId = userId) with
  | some p => (p.avatarUrl, p.fields)
  | none => (none, ⟨none, none, none, none, none, none, none, none⟩)

/-- `load_user_info`. -/
def loadUserInfo (d : Database) (o : Outcome) (userId : UInt64) (fallbackName : ByteString) :
    Except StdException UserInfo :=
  let nothing : UserInfo :=
    { id := userId, username := fallbackName, avatar := []
      fields := ⟨fallbackName, [], [], [], [], [], [], []⟩ }
  match o with
  | .notPrepared => .error .runtimeError
  | .done =>
    match d.current.users.find? (fun u => u.userId = userId.toNat) with
    | none => .ok nothing
    | some u =>
      let username := columnText (some u.username)
      let (avatarUrl, columns) := d.profileColumns userId.toNat
      let fields := columns.map columnText
      .ok
        { id := userId
          username := if username.isEmpty then fallbackName else username
          avatar := columnText avatarUrl
          fields := { fields with
            nickname := if fields.nickname.isEmpty then fallbackName else fields.nickname } }
  | _ => .ok nothing

/-- The transaction of `create_user`. -/
def createRows (d : Database) (o : CreateOutcomes)
    (username passwordHash defaultAvatarUrl : ByteString) : Option UInt64 × Database :=
  match d.beginImmediate o.beginImmediate with
  | (false, d) => (none, d)
  | (true, d) =>
    match d.insertUser o.insertUser (cStr username) (cStr passwordHash) with
    | (false, d) => (none, d.rollback)
    | (true, d) =>
      let userId := d.lastInsertRowid
      match d.insertProfile o.insertProfile userId (cStr username) (cStr defaultAvatarUrl) with
      | (false, d) => (none, d.rollback)
      | (true, d) =>
        match d.commit o.commit with
        | (false, d) => (none, d.rollback)
        | (true, d) => (some (UInt64.ofNat userId), d)

/-- `create_user`. The name is looked up in `checked`; another thread may have
changed that into `d` before the transaction begins. -/
def createUser (d checked : Database) (o : CreateOutcomes)
    (username passwordHash defaultAvatarUrl : ByteString) :
    Except StdException (Option UInt64) × Database :=
  match checked.findCredentialByUsername o.check username with
  | .error e => (.error e, d)
  | .ok (some _) => (.ok none, d)
  | .ok none =>
    let (created, d) := d.createRows o username passwordHash defaultAvatarUrl
    (.ok created, d)

/-- The `UPDATE` of a profile: whether a row was changed. A `user_id` from
`2 ^ 63` on is bound as a negative number, which no row has. -/
def updateProfileRow (d : Database) (o : Outcome) (userId : UInt64)
    (f : ProfileRow → ProfileRow) : Bool × Database :=
  if userId = 0 then (false, d)
  else
    match d.run o (fun t => some (t.updateProfiles userId.toNat f)) with
    | (false, d) => (false, d)
    | (true, d) => (d.current.profiles.any (fun p => p.userId = userId.toNat), d)

/-- `update_avatar_url`. -/
def updateAvatarUrl (d : Database) (o : Outcome) (userId : UInt64) (avatarUrl : ByteString) :
    Bool × Database :=
  d.updateProfileRow o userId fun p => { p with avatarUrl := some (cStr avatarUrl) }

/-- `update_profile`. -/
def updateProfile (d : Database) (o : Outcome) (userId : UInt64) (fields : Profile ByteString) :
    Bool × Database :=
  d.updateProfileRow o userId fun p => { p with fields := fields.map fun s => some (cStr s) }

/-- `user_exists`. -/
def userExists (d : Database) (o : Outcome) (userId : UInt64) : Bool :=
  userId ≠ 0 && o = .done && d.current.users.any (fun u => u.userId = userId.toNat)

end Database

/-! ## Sound tables -/

/-- Names and ids are unique, and the profiles are those of the users, in order. -/
structure Tables.Sound (t : Tables) : Prop where
  usernames : (t.users.map UserRow.username).Nodup
  userIds : (t.users.map UserRow.userId).Nodup
  profiles : t.profiles.map ProfileRow.userId = t.users.map UserRow.userId
  bounded : ∀ u ∈ t.users, 0 < u.userId ∧ u.userId ≤ t.sequence
  sequence_le : t.sequence ≤ maxRowid

/-- No transaction is open and the tables are sound. -/
structure Database.Sound (d : Database) : Prop where
  idle : d.working = none
  tables : d.committed.Sound

theorem Database.sound_create : Database.create.Sound :=
  ⟨rfl, by simp [Database.create, Tables.empty],
    by simp [Database.create, Tables.empty], rfl, by simp [Database.create, Tables.empty],
    by simp [Database.create, Tables.empty]⟩

/-- The tables once the row of a new user is in. -/
def Tables.withUserRow (t : Tables) (username passwordHash : ByteString) : Tables :=
  { t with
    users := t.users ++ [{ userId := t.sequence + 1, username, passwordHash, status := 1 }]
    sequence := t.sequence + 1 }

/-- The rows a new user gets. -/
def Tables.withUser (t : Tables) (username passwordHash avatarUrl : ByteString) : Tables where
  users := t.users ++ [{ userId := t.sequence + 1, username, passwordHash, status := 1 }]
  profiles := t.profiles ++ [{
    userId := t.sequence + 1
    avatarUrl := some avatarUrl
    fields := ⟨some username, none, none, none, none, none, none, none⟩ }]
  sequence := t.sequence + 1

/-- Both insertions work out as soon as the name is new and an id is left. -/
def Tables.Accepts (t : Tables) (username : ByteString) : Prop :=
  (∀ u ∈ t.users, u.username ≠ username) ∧ t.sequence < maxRowid

instance (t : Tables) (username : ByteString) : Decidable (t.Accepts username) :=
  inferInstanceAs (Decidable (_ ∧ _))

namespace Tables

variable {t : Tables}

theorem insertUser_eq (username passwordHash : ByteString) :
    t.insertUser username passwordHash =
      if t.Accepts username then some (t.withUserRow username passwordHash) else none := by
  have hrefused : (t.users.any (fun u => u.username = username) || maxRowid ≤ t.sequence) = true ↔
      ¬t.Accepts username := by
    simp only [Accepts, Bool.or_eq_true, List.any_eq_true, decide_eq_true_eq, not_and_or,
      Classical.not_forall, not_not, exists_prop, Nat.not_lt]
  unfold insertUser
  by_cases haccepts : t.Accepts username
  · rw [if_pos haccepts, if_neg (fun h => hrefused.mp h haccepts)]
    rfl
  · rw [if_neg haccepts, if_pos (hrefused.mpr haccepts)]

/-- The profile of a new user has nothing in its way. -/
theorem insertProfile_of_new (h : t.Sound) (username passwordHash avatarUrl : ByteString) :
    (t.withUserRow username passwordHash).insertProfile (t.sequence + 1) username avatarUrl =
      some (t.withUser username passwordHash avatarUrl) := by
  have hnew : t.profiles.any (fun p => p.userId = t.sequence + 1) = false := by
    rw [List.any_eq_false]
    intro p hp
    have hmem : p.userId ∈ t.users.map UserRow.userId := by
      rw [← h.profiles]
      exact List.mem_map_of_mem hp
    rcases List.mem_map.mp hmem with ⟨u, hu, huid⟩
    have := (h.bounded u hu).2
    simp only [decide_eq_true_eq]
    omega
  simp [insertProfile, withUserRow, hnew, withUser]

theorem Sound.withUser (h : t.Sound) {username : ByteString} (haccepts : t.Accepts username)
    (passwordHash avatarUrl : ByteString) :
    (t.withUser username passwordHash avatarUrl).Sound where
  usernames := by
    rw [Tables.withUser, List.map_append, List.map_singleton, List.nodup_append]
    refine ⟨h.usernames, List.nodup_singleton _, ?_⟩
    intro a ha b hb
    rcases List.mem_map.mp ha with ⟨u, hu, rfl⟩
    rw [List.mem_singleton.mp hb]
    exact haccepts.1 u hu
  userIds := by
    rw [Tables.withUser, List.map_append, List.map_singleton, List.nodup_append]
    refine ⟨h.userIds, List.nodup_singleton _, ?_⟩
    intro a ha b hb
    rcases List.mem_map.mp ha with ⟨u, hu, rfl⟩
    rw [List.mem_singleton.mp hb]
    -- AUTOINCREMENT: the new number is past every number ever given
    have := (h.bounded u hu).2
    show u.userId ≠ t.sequence + 1
    omega
  profiles := by
    simp [Tables.withUser, h.profiles]
  bounded := by
    intro u hu
    rcases List.mem_append.mp hu with hu | hu
    · have := h.bounded u hu
      exact ⟨this.1, Nat.le_succ_of_le this.2⟩
    · rw [List.mem_singleton.mp hu]
      exact ⟨Nat.succ_pos _, Nat.le_refl _⟩
  sequence_le := haccepts.2

theorem updateProfiles_userIds {userId : ℕ} {f : ProfileRow → ProfileRow}
    (hf : ∀ p, (f p).userId = p.userId) :
    (t.updateProfiles userId f).profiles.map ProfileRow.userId =
      t.profiles.map ProfileRow.userId := by
  rw [updateProfiles, List.map_map]
  refine List.map_congr_left ?_
  intro p _
  by_cases h : p.userId = userId <;> simp [h, hf]

theorem Sound.updateProfiles (h : t.Sound) (userId : ℕ) {f : ProfileRow → ProfileRow}
    (hf : ∀ p, (f p).userId = p.userId) : (t.updateProfiles userId f).Sound where
  usernames := h.usernames
  userIds := h.userIds
  profiles := (updateProfiles_userIds hf).trans h.profiles
  bounded := h.bounded
  sequence_le := h.sequence_le

end Tables

/-! ## The transaction of `create_user` -/

/-- No statement of the transaction fails. -/
def CreateOutcomes.AllDone (o : CreateOutcomes) : Prop :=
  o.beginImmediate = .done ∧ o.insertUser = .done ∧ o.insertProfile = .done ∧ o.commit = .done

/-- What the transaction comes to: both rows, or nothing. -/
inductive Created (d : Database) (o : CreateOutcomes)
    (username passwordHash avatarUrl : ByteString) :
    Option UInt64 × Database → Prop where
  | rows {rowid : ℕ} : o.AllDone → d.committed.Accepts (cStr username) →
      Created d o username passwordHash avatarUrl
        (some (UInt64.ofNat (d.committed.sequence + 1)),
          ⟨d.committed.withUser (cStr username) (cStr passwordHash) (cStr avatarUrl), none, rowid⟩)
  | nothing {rowid : ℕ} : ¬(o.AllDone ∧ d.committed.Accepts (cStr username)) →
      Created d o username passwordHash avatarUrl (none, ⟨d.committed, none, rowid⟩)

/-- A transaction that is rolled back leaves the file as it was. -/
theorem Created.of_rollback {d d' : Database} {o : CreateOutcomes}
    {username passwordHash avatarUrl : ByteString}
    (h : ¬(o.AllDone ∧ d.committed.Accepts (cStr username)))
    (hcommitted : d'.committed = d.committed) :
    Created d o username passwordHash avatarUrl (none, d'.rollback) := by
  have hrollback : d'.rollback = ⟨d.committed, none, d'.lastInsertRowid⟩ := by
    rw [← hcommitted]
    rfl
  rw [hrollback]
  exact .nothing h

section Transaction

variable {f t : Tables} {n : ℕ}

/-- A write in a transaction works on the tables of the transaction. -/
theorem Database.run_open (o : Outcome) (update : Tables → Option Tables) :
    (∃ t', o = .done ∧ update t = some t' ∧
      (⟨f, some t, n⟩ : Database).run o update = (true, ⟨f, some t', n⟩)) ∨
    (∃ d', ¬(o = .done ∧ (update t).isSome = true) ∧ d'.committed = f ∧
      (⟨f, some t, n⟩ : Database).run o update = (false, d')) := by
  cases o with
  | done =>
    cases hupdate : update t with
    | none => exact Or.inr ⟨⟨f, some t, n⟩, by simp, rfl, by simp [run, current, hupdate]⟩
    | some t' => exact Or.inl ⟨t', rfl, rfl, by simp [run, current, hupdate, write]⟩
  | notPrepared => exact Or.inr ⟨⟨f, some t, n⟩, by simp, rfl, rfl⟩
  | failed => exact Or.inr ⟨⟨f, some t, n⟩, by simp, rfl, rfl⟩
  | aborted => exact Or.inr ⟨⟨f, none, n⟩, by simp, rfl, rfl⟩

theorem Database.insertUser_open (o : Outcome) (username passwordHash : ByteString) :
    (o = .done ∧ t.Accepts username ∧
      (⟨f, some t, n⟩ : Database).insertUser o username passwordHash =
        (true, ⟨f, some (t.withUserRow username passwordHash), t.sequence + 1⟩)) ∨
    (∃ d', ¬(o = .done ∧ t.Accepts username) ∧ d'.committed = f ∧
      (⟨f, some t, n⟩ : Database).insertUser o username passwordHash = (false, d')) := by
  unfold insertUser
  rcases run_open (f := f) (t := t) (n := n) o (Tables.insertUser username passwordHash) with
    ⟨t', hdone, hinsert, heq⟩ | ⟨d', hno, hfile, heq⟩
  · rw [heq]
    rw [Tables.insertUser_eq] at hinsert
    split_ifs at hinsert with haccepts
    cases hinsert
    exact Or.inl ⟨hdone, haccepts, rfl⟩
  · rw [heq]
    refine Or.inr ⟨d', ?_, hfile, rfl⟩
    rintro ⟨hdone, haccepts⟩
    refine hno ⟨hdone, ?_⟩
    rw [Tables.insertUser_eq, if_pos haccepts]
    rfl

theorem Database.insertProfile_open (ht : t.Sound) (o : Outcome)
    (username passwordHash avatarUrl : ByteString) :
    (o = .done ∧
      (⟨f, some (t.withUserRow username passwordHash), n⟩ : Database).insertProfile o
        (t.sequence + 1) username avatarUrl =
          (true, ⟨f, some (t.withUser username passwordHash avatarUrl), t.sequence + 1⟩)) ∨
    (∃ d', o ≠ .done ∧ d'.committed = f ∧
      (⟨f, some (t.withUserRow username passwordHash), n⟩ : Database).insertProfile o
        (t.sequence + 1) username avatarUrl = (false, d')) := by
  have hprofile := Tables.insertProfile_of_new ht username passwordHash avatarUrl
  unfold insertProfile
  rcases run_open (f := f) (t := t.withUserRow username passwordHash) (n := n) o
    (Tables.insertProfile (t.sequence + 1) username avatarUrl) with
    ⟨t', hdone, hinsert, heq⟩ | ⟨d', hno, hfile, heq⟩
  · rw [heq]
    rw [hprofile] at hinsert
    cases hinsert
    exact Or.inl ⟨hdone, rfl⟩
  · rw [heq]
    refine Or.inr ⟨d', ?_, hfile, rfl⟩
    intro hdone
    exact hno ⟨hdone, by rw [hprofile]; rfl⟩

theorem Database.commit_open (o : Outcome) :
    (o = .done ∧ (⟨f, some t, n⟩ : Database).commit o = (true, ⟨t, none, n⟩)) ∨
    (∃ d', o ≠ .done ∧ d'.committed = f ∧
      (⟨f, some t, n⟩ : Database).commit o = (false, d')) := by
  cases o with
  | done => exact Or.inl ⟨rfl, rfl⟩
  | notPrepared => exact Or.inr ⟨⟨f, some t, n⟩, by simp, rfl, rfl⟩
  | failed => exact Or.inr ⟨⟨f, some t, n⟩, by simp, rfl, rfl⟩
  | aborted => exact Or.inr ⟨⟨f, none, n⟩, by simp, rfl, rfl⟩

end Transaction

/-- Every way through the transaction. -/
theorem createRows_created {d : Database} (hd : d.Sound) (o : CreateOutcomes)
    (username passwordHash avatarUrl : ByteString) :
    Created d o username passwordHash avatarUrl
      (d.createRows o username passwordHash avatarUrl) := by
  unfold Database.createRows Database.beginImmediate
  by_cases hbegin : o.beginImmediate = .done
  swap
  · -- no transaction begins
    rw [if_neg fun h => hbegin h.1]
    have hd' : d = ⟨d.committed, none, d.lastInsertRowid⟩ := by
      rw [← hd.idle]
    rw [hd']
    exact .nothing fun h => hbegin h.1.1
  rw [if_pos ⟨hbegin, hd.idle⟩]
  dsimp only
  rcases Database.insertUser_open (f := d.committed) (t := d.committed) (n := d.lastInsertRowid)
    o.insertUser (cStr username) (cStr passwordHash) with
    ⟨huser, haccepts, heq⟩ | ⟨d', hno, hfile, heq⟩
  swap
  · -- the name is taken, or the statement fails
    rw [heq]
    exact .of_rollback (fun h => hno ⟨h.1.2.1, h.2⟩) hfile
  rw [heq]
  dsimp only
  rcases Database.insertProfile_open (f := d.committed) (n := d.committed.sequence + 1) hd.tables
    o.insertProfile (cStr username) (cStr passwordHash) (cStr avatarUrl) with
    ⟨hprofile, heq⟩ | ⟨d', hno, hfile, heq⟩
  swap
  · rw [heq]
    exact .of_rollback (fun h => hno h.1.2.2.1) hfile
  rw [heq]
  dsimp only
  rcases Database.commit_open (f := d.committed)
    (t := d.committed.withUser (cStr username) (cStr passwordHash) (cStr avatarUrl))
    (n := d.committed.sequence + 1) o.commit with ⟨hcommit, heq⟩ | ⟨d', hno, hfile, heq⟩
  swap
  · -- both rows are in, and gone again
    rw [heq]
    exact .of_rollback (fun h => hno h.1.2.2.2) hfile
  rw [heq]
  exact .rows ⟨hbegin, huser, hprofile, hcommit⟩ haccepts

/-! ## Every reachable database -/

/-- What is done to the tables under one hold of the lock. -/
inductive Section where
  | createRows (o : CreateOutcomes) (username passwordHash defaultAvatarUrl : ByteString)
  | updateAvatarUrl (o : Outcome) (userId : UInt64) (avatarUrl : ByteString)
  | updateProfile (o : Outcome) (userId : UInt64) (fields : Profile ByteString)

/-- The database after a section. -/
def Section.apply (d : Database) : Section → Database
  | createRows o username passwordHash defaultAvatarUrl =>
    (d.createRows o username passwordHash defaultAvatarUrl).2
  | updateAvatarUrl o userId avatarUrl => (d.updateAvatarUrl o userId avatarUrl).2
  | updateProfile o userId fields => (d.updateProfile o userId fields).2

/-- The database of the server: the sections of its API calls, one after the
other and in any order, whichever of their statements fail. -/
def sections : System Database Section where
  Init d := d = Database.create
  Step d e d' := d' = e.apply d

theorem Created.sound {d : Database} (hd : d.Sound) {o : CreateOutcomes}
    {username passwordHash avatarUrl : ByteString} {r : Option UInt64 × Database}
    (h : Created d o username passwordHash avatarUrl r) : r.2.Sound := by
  cases h with
  | rows _ haccepts => exact ⟨rfl, hd.tables.withUser haccepts _ _⟩
  | nothing _ => exact ⟨rfl, hd.tables⟩

/-- An update is done as a whole or not at all. -/
theorem Database.updateProfileRow_cases {d : Database} (hd : d.Sound) (o : Outcome)
    (userId : UInt64) (f : ProfileRow → ProfileRow) :
    (o = .done ∧ userId ≠ 0 ∧ d.updateProfileRow o userId f =
      ((d.committed.updateProfiles userId.toNat f).profiles.any
        (fun p => p.userId = userId.toNat),
        ⟨d.committed.updateProfiles userId.toNat f, none, d.lastInsertRowid⟩)) ∨
    ((o ≠ .done ∨ userId = 0) ∧ d.updateProfileRow o userId f = (false, d)) := by
  rcases d with ⟨committed, working, rowid⟩
  have hidle : working = none := hd.idle
  subst hidle
  unfold updateProfileRow
  by_cases huser : userId = 0
  · rw [if_pos huser]
    exact Or.inr ⟨Or.inr huser, rfl⟩
  rw [if_neg huser]
  cases o with
  | done => exact Or.inl ⟨rfl, huser, rfl⟩
  | notPrepared => exact Or.inr ⟨Or.inl (by simp), rfl⟩
  | failed => exact Or.inr ⟨Or.inl (by simp), rfl⟩
  | aborted => exact Or.inr ⟨Or.inl (by simp), rfl⟩

theorem Database.Sound.updateProfileRow {d : Database} (hd : d.Sound) (o : Outcome)
    (userId : UInt64) {f : ProfileRow → ProfileRow} (hf : ∀ p, (f p).userId = p.userId) :
    (d.updateProfileRow o userId f).2.Sound := by
  rcases updateProfileRow_cases hd o userId f with ⟨_, _, heq⟩ | ⟨_, heq⟩
  · rw [heq]
    exact ⟨rfl, hd.tables.updateProfiles _ hf⟩
  · rw [heq]
    exact hd

theorem Section.sound {d : Database} (hd : d.Sound) (e : Section) : (e.apply d).Sound := by
  cases e with
  | createRows o username passwordHash defaultAvatarUrl =>
    exact (createRows_created hd o username passwordHash defaultAvatarUrl).sound hd
  | updateAvatarUrl o userId avatarUrl => exact hd.updateProfileRow o userId fun _ => rfl
  | updateProfile o userId fields => exact hd.updateProfileRow o userId fun _ => rfl

theorem sections_sound {d : Database} (h : Reachable sections d) : d.Sound := by
  refine h.invariant (I := Database.Sound) ?_ ?_
  · intro d hinit
    rw [show d = Database.create from hinit]
    exact Database.sound_create
  · intro d e d' _ hd hstep
    rw [show d' = e.apply d from hstep]
    exact e.sound hd

/-- Both rows of a new user have been committed. -/
def RowsCommitted (d d' : Database) (userId : UInt64)
    (username passwordHash avatarUrl : ByteString) : Prop :=
  d'.committed.users = d.committed.users ++
    [{ userId := userId.toNat, username := cStr username, passwordHash := cStr passwordHash,
       status := 1 }] ∧
  d'.committed.profiles = d.committed.profiles ++
    [{ userId := userId.toNat
       avatarUrl := some (cStr avatarUrl)
       fields := ⟨some (cStr username), none, none, none, none, none, none, none⟩ }]

/-- A row id fits into the result of `create_user`. -/
theorem toNat_rowid {n : ℕ} (h : n ≤ maxRowid) : (UInt64.ofNat n).toNat = n := by
  refine UInt64.toNat_ofNat_of_lt' ?_
  have hmax : maxRowid < UInt64.size := by decide
  omega

theorem Created.some_iff {d : Database} {o : CreateOutcomes}
    {username passwordHash avatarUrl : ByteString} {r : Option UInt64 × Database}
    (h : Created d o username passwordHash avatarUrl r) (userId : UInt64) :
    r.1 = some userId ↔ RowsCommitted d r.2 userId username passwordHash avatarUrl := by
  cases h with
  | rows _ haccepts =>
    have hid : (UInt64.ofNat (d.committed.sequence + 1)).toNat = d.committed.sequence + 1 :=
      toNat_rowid haccepts.2
    constructor
    · intro h
      cases h
      exact ⟨by rw [hid]; rfl, by rw [hid]; rfl⟩
    · rintro ⟨husers, _⟩
      have hrow := List.append_cancel_left husers
      simp only [List.cons.injEq, UserRow.mk.injEq] at hrow
      refine congrArg some (UInt64.toNat.inj ?_)
      rw [hid]
      exact hrow.1.1
  | nothing _ =>
    constructor
    · intro h
      cases h
    · rintro ⟨husers, _⟩
      have hlength := congrArg List.length husers
      simp at hlength

theorem not_rowsCommitted_self {d : Database} {userId : UInt64}
    {username passwordHash avatarUrl : ByteString} :
    ¬RowsCommitted d d userId username passwordHash avatarUrl := by
  rintro ⟨husers, _⟩
  have hlength := congrArg List.length husers
  simp at hlength

theorem Created.of_none {d : Database} {o : CreateOutcomes}
    {username passwordHash avatarUrl : ByteString} {r : Option UInt64 × Database}
    (h : Created d o username passwordHash avatarUrl r) (hnone : r.1 = none) :
    r.2.committed = d.committed ∧ r.2.working = none := by
  cases h with
  | rows _ _ => cases hnone
  | nothing _ => exact ⟨rfl, rfl⟩

end CCMeeting
