import Mathlib.Data.List.Nodup
import CCMeeting.Lib.Bytes

/-! # The account database

What the data server uses of SQLite: two tables with their constraints, one
connection with at most one open transaction, and statements that may fail. A
statement that fails leaves its transaction open unless SQLite has rolled it
back.
-/

namespace CCMeeting

open ByteString

/-- A `const char*` with length -1: the text up to the first zero byte. -/
def cStr (s : ByteString) : ByteString := s.takeWhile (fun b => b ≠ 0)

/-! ## Rows -/

/-- A row of `sys_users`. -/
structure UserRow where
  userId : ℕ
  username : ByteString
  passwordHash : ByteString
  status : UInt32
deriving DecidableEq

/-- The columns `update_profile` writes. -/
structure Profile (α : Type) where
  nickname : α
  info : α
  gender : α
  birthday : α
  address : α
  phone : α
  email : α
  extraJson : α
deriving DecidableEq

/-- One function on every column. -/
def Profile.map {α β : Type} (f : α → β) (p : Profile α) : Profile β where
  nickname := f p.nickname
  info := f p.info
  gender := f p.gender
  birthday := f p.birthday
  address := f p.address
  phone := f p.phone
  email := f p.email
  extraJson := f p.extraJson

/-- The columns, one after the other. -/
def Profile.toList {α : Type} (p : Profile α) : List α :=
  [p.nickname, p.info, p.gender, p.birthday, p.address, p.phone, p.email, p.extraJson]

theorem Profile.toList_map {α β : Type} (f : α → β) (p : Profile α) :
    (p.map f).toList = p.toList.map f := rfl

/-- A row of `sys_user_profiles`; every column but the key can be null. -/
structure ProfileRow where
  userId : ℕ
  avatarUrl : Option ByteString
  fields : Profile (Option ByteString)
deriving DecidableEq

/-- The two tables, and the largest `user_id` ever given out. -/
structure Tables where
  users : List UserRow
  profiles : List ProfileRow
  sequence : ℕ
deriving DecidableEq

/-- The largest row id. -/
def maxRowid : ℕ := 2 ^ 63 - 1

namespace Tables

/-- The tables `kSchemaSql` creates. -/
def empty : Tables := ⟨[], [], 0⟩

/-- `INSERT INTO sys_users`: the name is `UNIQUE`, the id `AUTOINCREMENT`. -/
def insertUser (username passwordHash : ByteString) (t : Tables) : Option Tables :=
  if t.users.any (fun u => u.username = username) || maxRowid ≤ t.sequence then none
  else
    some { t with
      users := t.users ++ [{ userId := t.sequence + 1, username, passwordHash, status := 1 }]
      sequence := t.sequence + 1 }

/-- `INSERT INTO sys_user_profiles`: the id is the key and refers to a user. -/
def insertProfile (userId : ℕ) (nickname avatarUrl : ByteString) (t : Tables) : Option Tables :=
  if t.profiles.any (fun p => p.userId = userId) || !t.users.any (fun u => u.userId = userId) then
    none
  else
    some { t with
      profiles := t.profiles ++ [{
        userId
        avatarUrl := some avatarUrl
        fields := ⟨some nickname, none, none, none, none, none, none, none⟩ }] }

/-- `UPDATE sys_user_profiles .. WHERE user_id = ?`, for columns other than the key. -/
def updateProfiles (userId : ℕ) (f : ProfileRow → ProfileRow) (t : Tables) : Tables :=
  { t with profiles := t.profiles.map fun p => if p.userId = userId then f p else p }

end Tables

/-! ## Statements -/

/-- How a statement ends, as far as its SQL leaves it open. -/
inductive Outcome where
  | done
  /-- it cannot be prepared -/
  | notPrepared
  /-- it is prepared and fails -/
  | failed
  /-- it fails and the open transaction is rolled back -/
  | aborted
deriving DecidableEq, Repr

/-- The connection: the tables in the file, those of the open transaction, and
`sqlite3_last_insert_rowid`. -/
structure Database where
  committed : Tables
  working : Option Tables
  lastInsertRowid : ℕ
deriving DecidableEq

namespace Database

/-- A new file. -/
def create : Database := ⟨Tables.empty, none, 0⟩

/-- What a statement reads. -/
def current (d : Database) : Tables := d.working.getD d.committed

/-- Outside a transaction a statement commits by itself. -/
def write (d : Database) (t : Tables) : Database :=
  match d.working with
  | some _ => { d with working := some t }
  | none => { d with committed := t }

/-- A statement that writes: whether `sqlite3_step` says `SQLITE_DONE`. -/
def run (d : Database) (o : Outcome) (update : Tables → Option Tables) : Bool × Database :=
  match o with
  | .done =>
    match update d.current with
    | some t => (true, d.write t)
    | none => (false, d)
  | .aborted => (false, { d with working := none })
  | .notPrepared => (false, d)
  | .failed => (false, d)

/-- `BEGIN IMMEDIATE;` -/
def beginImmediate (d : Database) (o : Outcome) : Bool × Database :=
  if o = .done ∧ d.working = none then (true, { d with working := some d.committed })
  else (false, d)

/-- `COMMIT;` -/
def commit (d : Database) (o : Outcome) : Bool × Database :=
  match o, d.working with
  | .done, some t => (true, { d with committed := t, working := none })
  | .aborted, _ => (false, { d with working := none })
  | _, _ => (false, d)

/-- `ROLLBACK;` -/
def rollback (d : Database) : Database := { d with working := none }

/-- The insertion into `sys_users`, which sets the last row id. -/
def insertUser (d : Database) (o : Outcome) (username passwordHash : ByteString) :
    Bool × Database :=
  match d.run o (Tables.insertUser username passwordHash) with
  | (true, d) => (true, { d with lastInsertRowid := d.current.sequence })
  | (false, d) => (false, d)

/-- The insertion into `sys_user_profiles`. -/
def insertProfile (d : Database) (o : Outcome) (userId : ℕ) (nickname avatarUrl : ByteString) :
    Bool × Database :=
  match d.run o (Tables.insertProfile userId nickname avatarUrl) with
  | (true, d) => (true, { d with lastInsertRowid := userId })
  | (false, d) => (false, d)

end Database

end CCMeeting
