import Mathlib.Logic.Function.Basic
import CCMeeting.Client.Qt
import CCMeeting.Lib.JsonText

/-! # The migration of the settings

`Storage::migrate_from_registry` runs at every start. It copies the preferences the
registry still holds into the table `app_settings`, unless the key is there, moves the
login rows to the table `credentials` and deletes them. Every statement can fail, and
the results of most are not looked at.
-/

namespace CCMeeting

open ByteString

/-! ## The values of the registry -/

/-- `QVariant`, as far as it is converted to text: the kinds `type_name` tells apart. -/
inductive Variant where
  | boolean (b : Bool)
  /-- `Int`, `UInt`, `LongLong` and `ULongLong` -/
  | integer (n : ℤ)
  /-- `Double` and `Float` -/
  | double (d : Double)
  /-- all others, with what `toString` gives; none for a null string -/
  | other (text : Option ByteString)

/-- What `QString` makes of numbers. -/
structure NumberTexts where
  /-- `QString::toLongLong` -/
  toLongLong : ByteString → Int64
  /-- `QString::toDouble` -/
  toDouble : ByteString → Double
  /-- `QVariant::toString` of a double -/
  ofDouble : Double → ByteString

/-- A row of `app_settings`; both columns can be null. -/
structure Setting where
  value : Option ByteString
  type : Option ByteString
deriving DecidableEq, Repr

namespace Variant

/-- `type_name`. -/
def typeName : Variant → ByteString
  | boolean _ => ascii "bool"
  | integer _ => ascii "int"
  | double _ => ascii "double"
  | other _ => ascii "string"

/-- `from_text`. -/
def fromText (texts : NumberTexts) (text type : ByteString) : Variant :=
  if type = ascii "bool" then .boolean (text = ascii "1")
  else if type = ascii "int" then .integer (texts.toLongLong text).toInt
  else if type = ascii "double" then .double (texts.toDouble text)
  else .other (some text)

/-- `to_text`; none for a null string. -/
def toText (texts : NumberTexts) : Variant → Option ByteString
  | boolean b => some (if b then ascii "1" else ascii "0")
  | integer n => some (JsonText.writeInt n)
  | double d => some (texts.ofDouble d)
  | other text => text

/-- The row that is written for a value. -/
def setting (texts : NumberTexts) (value : Variant) : Setting where
  value := value.toText texts
  type := some value.typeName

end Variant

/-! ## The database -/

/-- The row of `credentials`; a second one is ruled out by `CHECK(id = 1)`. -/
structure CredentialsRow where
  username : ByteString
  secret : ByteString
  updatedAt : ByteString
deriving DecidableEq, Repr

/-- The tables that the migration uses: `app_settings` by its primary key, `credentials`
and whether `migrated_registry_v1` is in `meta`. -/
@[ext] structure StorageDb where
  settings : ByteString → Option Setting
  credentials : Option CredentialsRow
  marked : Bool

/-- Which statements of a run succeed. -/
structure StorageRun where
  /-- `SELECT value, type FROM app_settings WHERE key = ?` -/
  selects : ByteString → Bool
  /-- `INSERT OR REPLACE INTO app_settings` -/
  inserts : ByteString → Bool
  /-- `SELECT COUNT(*) FROM credentials` -/
  counts : Bool
  selectsUsername : Bool
  selectsPassword : Bool
  /-- `INSERT OR REPLACE INTO credentials`, unless a column would be null -/
  insertsCredentials : Bool
  /-- `DELETE FROM app_settings WHERE key LIKE 'login/%'` -/
  deletes : Bool
  /-- `INSERT OR REPLACE INTO meta` -/
  marks : Bool

/-- A run in which no statement fails. -/
def StorageRun.clean : StorageRun where
  selects _ := true
  inserts _ := true
  counts := true
  selectsUsername := true
  selectsPassword := true
  insertsCredentials := true
  deletes := true
  marks := true

def kLegacyKeys : List ByteString :=
  [ascii "video/deviceId", ascii "video/width", ascii "video/height", ascii "video/fps",
    ascii "video/autoPreview", ascii "audio/deviceId", ascii "audio/muteOnJoin",
    ascii "audio/echoCancel", ascii "ui/startPage", ascii "ui/showPageDesc",
    ascii "ui/soundEnabled", ascii "record/fps", ascii "record/saveDir"]

def loginUsername : ByteString := ascii "login/username"

def loginPassword : ByteString := ascii "login/password"

/-- `LIKE 'login/%'`, which makes no difference between the cases of ASCII letters. -/
def isLogin (key : ByteString) : Bool :=
  (ascii "login/").isPrefixOf
    (key.map fun b => if 65 ≤ b.toNat ∧ b.toNat ≤ 90 then b + 32 else b)

namespace StorageDb

/-- The value that `migrate_from_registry` finds for a key; not valid where none is
found. -/
def existing (texts : NumberTexts) (run : StorageRun) (db : StorageDb) (name : ByteString) :
    Option Variant :=
  if run.selects name then
    (db.settings name).map fun row => Variant.fromText texts (row.value.getD []) (row.type.getD [])
  else none

/-- The body of the loop over `kLegacyKeys`. -/
def importKey (texts : NumberTexts) (registry : ByteString → Option Variant) (run : StorageRun)
    (db : StorageDb) (name : ByteString) : StorageDb :=
  match registry name with
  | none => db
  | some value =>
    if (db.existing texts run name).isSome then db
    else if run.inserts name then
      { db with settings := Function.update db.settings name (some (value.setting texts)) }
    else db

/-- The second part of `migrate_from_registry`: the login rows. -/
def moveCredentials (run : StorageRun) (now : ByteString) (db : StorageDb) : StorageDb :=
  let needCreds := if run.counts then db.credentials.isNone else true
  let legacyUser := if run.selectsUsername then db.settings loginUsername else none
  let legacyPass := if run.selectsPassword then db.settings loginPassword else none
  let credentials :=
    match legacyUser, legacyPass with
    | some user, some pass =>
      if needCreds && run.insertsCredentials then
        match user.value, pass.value with
        | some username, some secret => some { username, secret, updatedAt := now }
        | _, _ => db.credentials
      else db.credentials
    | _, _ => db.credentials
  { db with
    credentials
    settings := fun key => if run.deletes && isLogin key then none else db.settings key }

/-- `Storage::migrate_from_registry`, at a time. -/
def migrateFromRegistry (texts : NumberTexts) (registry : ByteString → Option Variant)
    (run : StorageRun) (now : ByteString) (db : StorageDb) : StorageDb :=
  let db := kLegacyKeys.foldl (importKey texts registry run) db
  let db := db.moveCredentials run now
  { db with marked := db.marked || run.marks }

/-! ## The property and its condition -/

/-- What a migration must and must not do to the tables. -/
structure SafelyMigrated (texts : NumberTexts) (registry : ByteString → Option Variant)
    (run : StorageRun) (db db' : StorageDb) : Prop where
  /-- no row gets another value; those of the login are deleted -/
  kept : ∀ key row, db.settings key = some row →
    db'.settings key = some row ∨ isLogin key = true ∧ db'.settings key = none
  imported : ∀ key ∈ kLegacyKeys, ∀ value, registry key = some value → db.settings key = none →
    run.inserts key = true → db'.settings key = some (value.setting texts)
  /-- the login rows are left, or the credentials are there -/
  login : ∀ user pass, db.settings loginUsername = some user → db.settings loginPassword = some pass →
    db'.settings loginUsername = some user ∧ db'.settings loginPassword = some pass ∨
      db'.credentials.isSome = true
  /-- a run without failures leaves nothing for another one -/
  again : run = .clean → ∀ now, db'.migrateFromRegistry texts registry .clean now = db'

/-- The rows that are there are seen, or not replaced; and the login rows are deleted
only if the credentials are there or the rows have been read and inserted. -/
structure Careful (texts : NumberTexts) (registry : ByteString → Option Variant) (run : StorageRun)
    (db : StorageDb) : Prop where
  seen : ∀ key ∈ kLegacyKeys, ∀ value row, registry key = some value → db.settings key = some row →
    run.selects key = true ∨ run.inserts key = false ∨ row = value.setting texts
  moved : ∀ user pass, db.settings loginUsername = some user → db.settings loginPassword = some pass →
    db.credentials.isSome = true ∨ run.deletes = false ∨
      run.selectsUsername = true ∧ run.selectsPassword = true ∧ run.insertsCredentials = true ∧
        user.value.isSome = true ∧ pass.value.isSome = true

/-! ## The preferences -/

variable {texts : NumberTexts} {registry : ByteString → Option Variant} {run : StorageRun}
  {db : StorageDb}

theorem isSome_existing (name : ByteString) :
    (db.existing texts run name).isSome = (run.selects name && (db.settings name).isSome) := by
  unfold existing
  split_ifs with hselects
  · rw [Option.isSome_map, hselects, Bool.true_and]
  · rw [Bool.not_eq_true] at hselects
    rw [hselects, Bool.false_and, Option.isSome_none]

theorem importKey_of_ne {key name : ByteString} (hne : key ≠ name) :
    (db.importKey texts registry run name).settings key = db.settings key := by
  unfold importKey
  cases registry name with
  | none => rfl
  | some value =>
    dsimp only
    split_ifs
    · rfl
    · exact Function.update_of_ne hne _ _
    · rfl

/-- What the loop does to the row of its own key. -/
theorem importKey_self (key : ByteString) :
    (db.importKey texts registry run key).settings key =
      match registry key with
      | none => db.settings key
      | some value =>
        if (run.selects key && (db.settings key).isSome) = false ∧ run.inserts key = true then
          some (value.setting texts)
        else db.settings key := by
  unfold importKey
  cases registry key with
  | none => rfl
  | some value =>
    dsimp only
    rw [isSome_existing]
    cases run.selects key && (db.settings key).isSome with
    | true => rfl
    | false =>
      cases run.inserts key with
      | true => exact Function.update_self ..
      | false => rfl

theorem importKey_credentials (name : ByteString) :
    (db.importKey texts registry run name).credentials = db.credentials ∧
      (db.importKey texts registry run name).marked = db.marked := by
  unfold importKey
  cases registry name with
  | none => exact ⟨rfl, rfl⟩
  | some value =>
    dsimp only
    split_ifs <;> exact ⟨rfl, rfl⟩

variable (texts registry run db) in
theorem foldl_importKey_credentials (names : List ByteString) :
    (names.foldl (importKey texts registry run) db).credentials = db.credentials ∧
      (names.foldl (importKey texts registry run) db).marked = db.marked := by
  induction names generalizing db with
  | nil => exact ⟨rfl, rfl⟩
  | cons name names ih =>
    rw [List.foldl_cons, (ih _).1, (ih _).2]
    exact importKey_credentials name

variable (texts registry run db) in
theorem foldl_importKey_of_notMem {key : ByteString} {names : List ByteString} (hmem : key ∉ names) :
    (names.foldl (importKey texts registry run) db).settings key = db.settings key := by
  induction names generalizing db with
  | nil => rfl
  | cons name names ih =>
    rw [List.mem_cons, not_or] at hmem
    rw [List.foldl_cons, ih _ hmem.2]
    exact importKey_of_ne hmem.1

/-- Every key is looked at once. -/
theorem foldl_importKey_of_mem {key : ByteString} {names : List ByteString} (hnodup : names.Nodup)
    (hmem : key ∈ names) :
    (names.foldl (importKey texts registry run) db).settings key =
      (db.importKey texts registry run key).settings key := by
  induction names generalizing db with
  | nil => cases hmem
  | cons name names ih =>
    have hparts := List.nodup_cons.mp hnodup
    rw [List.foldl_cons]
    rcases List.mem_cons.mp hmem with rfl | hrest
    · exact foldl_importKey_of_notMem _ _ _ _ hparts.1
    · have hne : key ≠ name := by
        rintro rfl
        exact hparts.1 hrest
      rw [ih hparts.2 hrest, importKey_self, importKey_self, importKey_of_ne hne]

theorem nodup_kLegacyKeys : kLegacyKeys.Nodup := by decide

theorem isLogin_kLegacyKeys : ∀ key ∈ kLegacyKeys, isLogin key = false := by decide

theorem isLogin_login : isLogin loginUsername = true ∧ isLogin loginPassword = true := by decide

/-- What a whole run does to the rows of `app_settings`. -/
theorem settings_migrateFromRegistry (now key : ByteString) :
    (db.migrateFromRegistry texts registry run now).settings key =
      if (run.deletes && isLogin key) = true then none
      else if key ∈ kLegacyKeys then (db.importKey texts registry run key).settings key
      else db.settings key := by
  unfold migrateFromRegistry moveCredentials
  dsimp only
  split_ifs with hdeleted hlegacy
  · rfl
  · exact foldl_importKey_of_mem nodup_kLegacyKeys hlegacy
  · exact foldl_importKey_of_notMem _ _ _ _ hlegacy

/-- A row that is there is kept if it is seen, or not replaced. -/
theorem importKey_eq_iff {key : ByteString} {value : Variant} {row : Setting}
    (hvalue : registry key = some value) (hrow : db.settings key = some row) :
    (db.importKey texts registry run key).settings key = some row ↔
      run.selects key = true ∨ run.inserts key = false ∨ row = value.setting texts := by
  rw [importKey_self, hvalue, hrow, Option.isSome_some, Bool.and_true]
  cases run.selects key with
  | true => simp
  | false =>
    cases run.inserts key with
    | true => simp [eq_comm]
    | false => simp

/-- The preferences that are there are kept exactly if they are seen. -/
theorem kept_iff (now : ByteString) :
    (∀ key row, db.settings key = some row →
        (db.migrateFromRegistry texts registry run now).settings key = some row ∨
          isLogin key = true ∧ (db.migrateFromRegistry texts registry run now).settings key = none) ↔
      ∀ key ∈ kLegacyKeys, ∀ value row, registry key = some value → db.settings key = some row →
        run.selects key = true ∨ run.inserts key = false ∨ row = value.setting texts := by
  constructor
  · intro hkept key hkey value row hvalue hrow
    have hlogin := isLogin_kLegacyKeys key hkey
    have hsame := hkept key row hrow
    rw [settings_migrateFromRegistry, hlogin, Bool.and_false, if_neg Bool.false_ne_true,
      if_pos hkey] at hsame
    rcases hsame with hsame | ⟨hlogin, _⟩
    · exact (importKey_eq_iff hvalue hrow).mp hsame
    · cases hlogin
  · intro hseen key row hrow
    rw [settings_migrateFromRegistry]
    split_ifs with hdeleted hlegacy
    · rw [Bool.and_eq_true] at hdeleted
      exact Or.inr ⟨hdeleted.2, rfl⟩
    · left
      cases hvalue : registry key with
      | none => rw [importKey_self, hvalue, hrow]
      | some value => exact (importKey_eq_iff hvalue hrow).mpr (hseen key hlegacy value row hvalue hrow)
    · exact Or.inl hrow

/-- A key that is not there is imported when its INSERT succeeds. -/
theorem settings_of_missing {key : ByteString} {value : Variant} (now : ByteString)
    (hkey : key ∈ kLegacyKeys) (hvalue : registry key = some value)
    (hmissing : db.settings key = none) (hinserts : run.inserts key = true) :
    (db.migrateFromRegistry texts registry run now).settings key = some (value.setting texts) := by
  have hlogin := isLogin_kLegacyKeys key hkey
  rw [settings_migrateFromRegistry, hlogin, Bool.and_false, if_neg Bool.false_ne_true, if_pos hkey,
    importKey_self, hvalue, hmissing, hinserts]
  simp

/-! ## The login -/

theorem notMem_login : loginUsername ∉ kLegacyKeys ∧ loginPassword ∉ kLegacyKeys := by decide

theorem settings_login (now : ByteString) {key : ByteString} (hkey : key ∉ kLegacyKeys)
    (hlogin : isLogin key = true) :
    (db.migrateFromRegistry texts registry run now).settings key =
      if run.deletes = true then none else db.settings key := by
  rw [settings_migrateFromRegistry, hlogin, Bool.and_true, if_neg hkey]

/-- The credentials that are there are never taken away; others come from both rows. -/
theorem isSome_credentials_iff {user pass : Setting} (now : ByteString)
    (huser : db.settings loginUsername = some user) (hpass : db.settings loginPassword = some pass) :
    (db.migrateFromRegistry texts registry run now).credentials.isSome = true ↔
      db.credentials.isSome = true ∨
        run.selectsUsername = true ∧ run.selectsPassword = true ∧ run.insertsCredentials = true ∧
          user.value.isSome = true ∧ pass.value.isSome = true := by
  have hcredentials := foldl_importKey_credentials texts registry run db kLegacyKeys
  have huser' := foldl_importKey_of_notMem texts registry run db notMem_login.1
  have hpass' := foldl_importKey_of_notMem texts registry run db notMem_login.2
  unfold migrateFromRegistry moveCredentials
  dsimp only
  rw [hcredentials.1, huser', hpass', huser, hpass]
  cases run.selectsUsername with
  | false => simp
  | true =>
    cases run.selectsPassword with
    | false => simp
    | true =>
      cases run.insertsCredentials with
      | false => simp
      | true =>
        -- both rows have been read: only the credentials that are there stop the INSERT
        rcases user with ⟨username, _⟩
        rcases pass with ⟨secret, _⟩
        cases username with
        | none => simp
        | some username =>
          cases secret with
          | none => simp
          | some secret => cases db.credentials <;> cases run.counts <;> simp

/-- The login rows are safe exactly if the credentials are there, or the rows stay, or
they are read and inserted. -/
theorem login_iff (now : ByteString) :
    (∀ user pass, db.settings loginUsername = some user → db.settings loginPassword = some pass →
        (db.migrateFromRegistry texts registry run now).settings loginUsername = some user ∧
            (db.migrateFromRegistry texts registry run now).settings loginPassword = some pass ∨
          (db.migrateFromRegistry texts registry run now).credentials.isSome = true) ↔
      ∀ user pass, db.settings loginUsername = some user → db.settings loginPassword = some pass →
        db.credentials.isSome = true ∨ run.deletes = false ∨
          run.selectsUsername = true ∧ run.selectsPassword = true ∧ run.insertsCredentials = true ∧
            user.value.isSome = true ∧ pass.value.isSome = true := by
  refine forall_congr' fun user => forall_congr' fun pass => ?_
  refine forall_congr' fun huser => forall_congr' fun hpass => ?_
  rw [isSome_credentials_iff now huser hpass, settings_login now notMem_login.1 isLogin_login.1,
    settings_login now notMem_login.2 isLogin_login.2, huser, hpass]
  cases run.deletes with
  | true => simp
  | false => simp

/-! ## Another run -/

/-- After a run without failures the login rows are gone and the keys of the registry
are there. -/
theorem settings_clean (now : ByteString) {key : ByteString} :
    (isLogin key = true →
        (db.migrateFromRegistry texts registry .clean now).settings key = none) ∧
      (key ∈ kLegacyKeys → (registry key).isSome = true →
        ((db.migrateFromRegistry texts registry .clean now).settings key).isSome = true) := by
  rw [settings_migrateFromRegistry]
  constructor
  · intro hlogin
    rw [hlogin]
    rfl
  · intro hkey hregistry
    rcases Option.isSome_iff_exists.mp hregistry with ⟨value, hvalue⟩
    rw [isLogin_kLegacyKeys key hkey, Bool.and_false, if_neg Bool.false_ne_true, if_pos hkey,
      importKey_self, hvalue]
    cases hrow : db.settings key with
    | none => rfl
    | some row => rfl

/-- Where all keys of the registry are there and no login rows, a run changes nothing
but the mark. -/
theorem migrateFromRegistry_eq_self (now : ByteString)
    (hlogin : ∀ key, isLogin key = true → db.settings key = none)
    (hthere : ∀ key ∈ kLegacyKeys, (registry key).isSome = true → (db.settings key).isSome = true)
    (hmarked : db.marked = true) : db.migrateFromRegistry texts registry .clean now = db := by
  have hcredentials := foldl_importKey_credentials texts registry .clean db kLegacyKeys
  apply StorageDb.ext
  · funext key
    rw [settings_migrateFromRegistry]
    split_ifs with hdeleted hlegacy
    · exact (hlogin key hdeleted).symm
    · rw [importKey_self]
      cases hvalue : registry key with
      | none => rfl
      | some value =>
        have hrow := hthere key hlegacy (by rw [hvalue]; rfl)
        dsimp only
        rw [hrow, if_neg]
        rintro ⟨hunseen, _⟩
        cases hunseen
    · rfl
  · unfold migrateFromRegistry moveCredentials
    dsimp only
    rw [foldl_importKey_of_notMem _ _ _ _ notMem_login.1, hlogin loginUsername isLogin_login.1, ite_self]
    exact hcredentials.1
  · unfold migrateFromRegistry moveCredentials
    dsimp only
    rw [hcredentials.2, hmarked]
    rfl

/-- After a run without failures another one finds nothing to do. -/
theorem migrateFromRegistry_again (now later : ByteString) :
    (db.migrateFromRegistry texts registry .clean now).migrateFromRegistry texts registry .clean
      later = db.migrateFromRegistry texts registry .clean now := by
  refine migrateFromRegistry_eq_self later ?_ ?_ ?_
  · intro key
    exact (settings_clean now).1
  · intro key
    exact (settings_clean now).2
  · exact Bool.or_true _

end StorageDb

open StorageDb

/-- A run of the migration keeps, imports and moves what it should if and only if it
was careful. -/
theorem settings_migration (texts : NumberTexts) (registry : ByteString → Option Variant)
    (run : StorageRun) (now : ByteString) (db : StorageDb) :
    SafelyMigrated texts registry run db (db.migrateFromRegistry texts registry run now) ↔
      Careful texts registry run db := by
  constructor
  · intro hsafe
    exact ⟨(kept_iff now).mp hsafe.kept, (login_iff now).mp hsafe.login⟩
  · intro hcareful
    constructor
    · exact (kept_iff now).mpr hcareful.seen
    · intro key hkey value hvalue hmissing hinserts
      exact settings_of_missing now hkey hvalue hmissing hinserts
    · exact (login_iff now).mpr hcareful.moved
    · rintro rfl later
      exact migrateFromRegistry_again now later

namespace StorageDb

/-- The tables an older client has left: the login of a user, and no credentials. -/
def oldLogin : StorageDb where
  settings key :=
    if key = loginUsername then some ⟨some (ascii "ann"), some (ascii "string")⟩
    else if key = loginPassword then some ⟨some (ascii "01000000d08c"), some (ascii "string")⟩
    else none
  credentials := none
  marked := false

end StorageDb

/-- The credentials are not inserted, and the login rows are deleted. -/
theorem login_lost :
    ¬∀ texts registry run now db,
      SafelyMigrated texts registry run db (db.migrateFromRegistry texts registry run now) := by
  intro hall
  have hsafe := hall ⟨fun _ => 0, fun _ => .ofInt 0, fun _ => []⟩ (fun _ => none)
    { StorageRun.clean with insertsCredentials := false } [] oldLogin
  rcases hsafe.login _ _ rfl rfl with ⟨hrow, _⟩ | hcredentials
  · rw [settings_login [] notMem_login.1 isLogin_login.1] at hrow
    cases hrow
  · cases hcredentials

end CCMeeting
