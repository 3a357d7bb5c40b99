import CCMeeting.Client.DateTime
import CCMeeting.Lib.Newest

/-! # The history of the meetings

`MeetingHistory` keeps the last hundred meetings, in a table of the database where
there is one, else in a JSON file. Every call reads the whole file, sorts it by the
times it has parsed and writes it back; the database sorts by the texts of the
times. SQL leaves open in which order it gives rows with equal texts.
-/

namespace CCMeeting

open ByteString

/-- `MeetingHistory::kMaxRecords`. -/
def kMaxRecords : ℕ := 100

inductive MeetingRecordKind where
  | created
  | joined
deriving DecidableEq, Repr

namespace MeetingRecordKind

/-- `static_cast<int>`. -/
def toInt : MeetingRecordKind → Int32
  | created => 0
  | joined => 1

def ofInt (n : Int32) : MeetingRecordKind := if n = 0 then created else joined

@[simp] theorem ofInt_toInt (kind : MeetingRecordKind) : ofInt kind.toInt = kind := by
  cases kind <;> rfl

end MeetingRecordKind

structure MeetingRecord where
  kind : MeetingRecordKind := .joined
  roomNo : Int32 := 0
  startedAt : Option DateTime := none
  durationMs : Int64 := 0
  /-- `open` -/
  isOpen : Bool := false
deriving DecidableEq, Repr

/-- `MeetingRecord::startedAt`, as it is compared. -/
def MeetingRecord.rank (record : MeetingRecord) : ℕ := DateTime.rank record.startedAt

/-- A record that is over. -/
def MeetingRecord.finish (record : MeetingRecord) (durationMs : Int64) : MeetingRecord :=
  { record with isOpen := false, durationMs }

structure MeetingStats where
  weekCount : ℕ := 0
  totalCount : ℕ := 0
  weekDurationMs : Int64 := 0
  totalDurationMs : Int64 := 0
deriving DecidableEq, Repr

/-! ## The JSON file -/

/-- `static_cast<qint64>` of a double. The behaviour of the program is undefined where
the number does not fit. -/
def castInt64 (d : Double) : Int64 := Int64.ofInt (d.num.tdiv (2 ^ d.scale))

/-- `QJsonValue::toInt`: zero for what is no number, or none that is an `int`. -/
def jsonInt : Option Json → Int32
  | some (.number (.integer i)) => if -2 ^ 31 ≤ i ∧ i < 2 ^ 31 then Int32.ofInt i else 0
  | some (.number (.float d)) =>
    if d.num % 2 ^ d.scale = 0 ∧ -2 ^ 31 ≤ d.num / 2 ^ d.scale ∧ d.num / 2 ^ d.scale < 2 ^ 31 then
      Int32.ofInt (d.num / 2 ^ d.scale)
    else 0
  | _ => 0

/-- `QJsonValue::toBool`. -/
def jsonBool : Option Json → Bool
  | some (.boolean b) => b
  | _ => false

namespace MeetingRecord

/-- An entry of the file, as `load_json` reads it. -/
def ofJson (dates : IsoDates) (obj : List (ByteString × Json)) : MeetingRecord where
  kind := .ofInt (jsonInt (obj.lookup (ascii "kind")))
  roomNo := jsonInt (obj.lookup (ascii "roomNo"))
  startedAt := dates.fromString (jsonText (obj.lookup (ascii "startedAt")))
  durationMs := castInt64 (jsonDouble (obj.lookup (ascii "durationMs")))
  isOpen := jsonBool (obj.lookup (ascii "open"))

/-- An entry of the file, as `save_json` writes it. -/
def members (record : MeetingRecord) : List (ByteString × Json) :=
  [(ascii "kind", .number (.integer record.kind.toInt.toInt)),
    (ascii "roomNo", .number (.integer record.roomNo.toInt)),
    (ascii "startedAt", .string (DateTime.isoText record.startedAt)),
    (ascii "durationMs", .number (.float (.roundInt record.durationMs.toInt))),
    (ascii "open", .boolean record.isOpen)]

end MeetingRecord

/-! ## What is read back from the file -/

theorem jsonInt_toInt (n : Int32) : jsonInt (some (.number (.integer n.toInt))) = n := by
  have hle := n.le_toInt
  have hlt := n.toInt_lt
  simp only [jsonInt, hle, hlt, and_self, if_true, Int32.ofInt_toInt]

/-- The integers up to `2 ^ 53` go through a double as they are. -/
theorem castInt64_roundInt {n : Int64} (hn : n.toInt.natAbs ≤ 2 ^ 53) :
    castInt64 (.roundInt n.toInt) = n := by
  have hround : ∀ k : ℕ, k ≤ 2 ^ 53 → Double.roundNat k = k := by
    intro k hk
    rcases Nat.lt_or_eq_of_le hk with hlt | rfl
    · exact Double.roundNat_of_lt hlt
    · decide +kernel
  have hexact : Double.roundInt n.toInt = .ofInt n.toInt := by
    cases hint : n.toInt with
    | ofNat k =>
      rw [hint] at hn
      rw [Double.roundInt, hround k hn]
      rfl
    | negSucc k =>
      rw [hint] at hn
      rw [Double.roundInt, hround (k + 1) hn]
      rfl
  rw [hexact, castInt64, Double.ofInt]
  simp only [pow_zero, Int.tdiv_one, Int64.ofInt_toInt]

namespace MeetingRecord

/-- What a record becomes in the file. -/
def stored (dates : IsoDates) (record : MeetingRecord) : MeetingRecord :=
  { record with
    startedAt := dates.fromString (DateTime.isoText record.startedAt)
    durationMs := castInt64 (.roundInt record.durationMs.toInt) }

theorem ofJson_toJson (dates : IsoDates) (record : MeetingRecord) :
    ofJson dates record.members = record.stored dates := by
  have hkind : jsonInt (record.members.lookup (ascii "kind")) = record.kind.toInt :=
    jsonInt_toInt record.kind.toInt
  have hroomNo : jsonInt (record.members.lookup (ascii "roomNo")) = record.roomNo :=
    jsonInt_toInt record.roomNo
  unfold ofJson
  rw [hkind, hroomNo, MeetingRecordKind.ofInt_toInt]
  rfl

/-- A record with a time in whole seconds and a duration that a double can hold. -/
structure Exact (record : MeetingRecord) : Prop where
  startedAt : ∃ t : DateTime, t.Valid ∧ record.startedAt = some t.wholeSecond
  durationMs : record.durationMs.toInt.natAbs ≤ 2 ^ 53

theorem Exact.stored_eq {record : MeetingRecord} (h : record.Exact) (dates : IsoDates) :
    record.stored dates = record := by
  rcases h.startedAt with ⟨t, ht, hstarted⟩
  have hread : dates.fromString (DateTime.isoText record.startedAt) = record.startedAt := by
    rw [hstarted]
    exact dates.fromString_isoDate t ht
  unfold stored
  rw [hread, castInt64_roundInt h.durationMs]

end MeetingRecord

/-- The JSON file, parsed; none where there is no file, or no JSON in it. -/
abbrev HistoryFile := Option Json

namespace HistoryFile

/-- The entries, before they are sorted. -/
def entries (dates : IsoDates) : HistoryFile → List MeetingRecord
  | some (.array values) => values.filterMap fun
    | .object obj => some (.ofJson dates obj)
    | _ => none
  | _ => []

/-- `load_json`. -/
def loadJson (dates : IsoDates) (file : HistoryFile) : List MeetingRecord :=
  Newest.sort MeetingRecord.rank (file.entries dates)

/-- `save_json`. -/
def saveJson (records : List MeetingRecord) : HistoryFile :=
  some (.array ((records.take kMaxRecords).map fun record => .object record.members))

/-- What was written is read back, but for the times and the durations. -/
theorem loadJson_saveJson (dates : IsoDates) (records : List MeetingRecord) :
    (saveJson records).loadJson dates =
      Newest.sort MeetingRecord.rank
        ((records.take kMaxRecords).map (MeetingRecord.stored dates)) := by
  unfold saveJson loadJson entries
  congr 1
  dsimp only
  rw [List.filterMap_map, ← List.filterMap_eq_map]
  congr 1
  funext record
  exact congrArg some (MeetingRecord.ofJson_toJson dates record)

/-- `MeetingHistory::append`. -/
def append (dates : IsoDates) (file : HistoryFile) (kind : MeetingRecordKind) (roomNo : Int32)
    (now : DateTime) : HistoryFile :=
  let records := file.loadJson dates
  saveJson ({ kind, roomNo, startedAt := some now, isOpen := true } :: records)

/-- `MeetingHistory::finish_open_session`. -/
def finishOpenSession (dates : IsoDates) (file : HistoryFile) (durationMs : Int64) :
    HistoryFile :=
  let records := file.loadJson dates
  if records.any (·.isOpen) then
    saveJson (Newest.modifyFirst (·.isOpen) (·.finish durationMs) records)
  else file

/-- `MeetingHistory::recent`. -/
def recent (dates : IsoDates) (file : HistoryFile) (kind : MeetingRecordKind) (limit : Int32) :
    List MeetingRecord :=
  let result := (file.loadJson dates).filter fun record => record.kind = kind
  if 0 < limit then result.take limit.toInt.toNat else result

/-- `MeetingHistory::stats`, with the beginning of the week. -/
def stats (dates : IsoDates) (file : HistoryFile) (weekStart : DateTime) : MeetingStats :=
  (file.loadJson dates).foldl
    (fun result record =>
      let result := { result with
        totalCount := result.totalCount + 1
        totalDurationMs := result.totalDurationMs + record.durationMs }
      if record.startedAt ≠ none ∧ DateTime.rank (some weekStart) ≤ record.rank then
        { result with
          weekCount := result.weekCount + 1
          weekDurationMs := result.weekDurationMs + record.durationMs }
      else result)
    {}

/-- `MeetingHistory::remove_at`. -/
def removeAt (dates : IsoDates) (file : HistoryFile) (index : Int32) : HistoryFile × Bool :=
  if index < 0 then (file, false)
  else
    let records := file.loadJson dates
    if records.length ≤ index.toInt.toNat then (file, false)
    else (saveJson (records.eraseIdx index.toInt.toNat), true)

/-- `MeetingHistory::clear`. -/
def clear : HistoryFile := saveJson []

end HistoryFile

/-! ## The table -/

/-- A row of `meeting_history`. -/
structure HistoryRow where
  id : ℕ
  kind : Int32
  roomNo : Int32
  startedAt : ByteString
  durationMs : Int64
  /-- `open`, which is 0 or 1 -/
  isOpen : Bool
deriving DecidableEq, Repr

/-- A row, as `MeetingHistory` reads it. -/
def HistoryRow.record (dates : IsoDates) (row : HistoryRow) : MeetingRecord where
  kind := .ofInt row.kind
  roomNo := row.roomNo
  startedAt := dates.fromString row.startedAt
  durationMs := row.durationMs
  isOpen := row.isOpen

/-- `SET open = 0, duration_ms = ?`. -/
def HistoryRow.finish (row : HistoryRow) (durationMs : Int64) : HistoryRow :=
  { row with isOpen := false, durationMs }

/-- The statements that order the rows. -/
inductive HistoryStatement where
  | trim
  | load
  | finishOpenSession
  | recent
  | removeAt
deriving DecidableEq, Repr

/-- `ORDER BY started_at DESC`. The order of rows with equal texts is that of the
library, for every statement and every table. -/
structure HistoryOrder where
  orderBy : HistoryStatement → List HistoryRow → List HistoryRow
  perm : ∀ statement rows, (orderBy statement rows).Perm rows
  sorted : ∀ statement rows,
    (orderBy statement rows).Pairwise fun a b => before a.startedAt b.startedAt = false

/-- `SUM` of integers; none where one of the sums does not fit 64 bits. -/
def sqlSum (values : List Int64) : Option Int64 :=
  values.foldlM
    (fun sum value =>
      if -2 ^ 63 ≤ sum.toInt + value.toInt ∧ sum.toInt + value.toInt < 2 ^ 63 then
        some (sum + value)
      else none)
    0

theorem toInt_add_of_fits {a b : Int64}
    (h : -2 ^ 63 ≤ a.toInt + b.toInt ∧ a.toInt + b.toInt < 2 ^ 63) :
    (a + b).toInt = a.toInt + b.toInt := by
  rw [Int64.toInt_add]
  exact Int.bmod_eq_of_le (by omega) (by omega)

/-- The sum of the database, where there is one. -/
theorem toInt_of_sqlSum {values : List Int64} {sum : Int64} (hsum : sqlSum values = some sum) :
    sum.toInt = (values.map Int64.toInt).sum := by
  have hloop : ∀ (values : List Int64) (start sum : Int64),
      values.foldlM
        (fun sum value =>
          if -2 ^ 63 ≤ sum.toInt + value.toInt ∧ sum.toInt + value.toInt < 2 ^ 63 then
            some (sum + value)
          else none) start = some sum →
      sum.toInt = start.toInt + (values.map Int64.toInt).sum := by
    intro values
    induction values with
    | nil =>
      intro start sum h
      rw [List.foldlM_nil] at h
      rw [← Option.some.inj h, List.map_nil, List.sum_nil, Int.add_zero]
    | cons v values ih =>
      intro start sum h
      rw [List.foldlM_cons] at h
      split_ifs at h with hfits
      · rw [ih (start + v) sum h, toInt_add_of_fits hfits, List.map_cons, List.sum_cons,
          Int.add_assoc]
      · cases h
  exact (hloop values 0 sum hsum).trans (Int.zero_add _)

/-- The table `meeting_history`, whose ids are never used again. -/
structure HistoryTable where
  rows : List HistoryRow := []
  nextId : ℕ := 1
deriving Repr

namespace HistoryTable

variable (sql : HistoryOrder) (dates : IsoDates) (table : HistoryTable)

/-- `INSERT INTO meeting_history`. -/
def insert (kind roomNo : Int32) (startedAt : ByteString) (durationMs : Int64) (isOpen : Bool) :
    HistoryTable where
  rows := table.rows ++ [{ id := table.nextId, kind, roomNo, startedAt, durationMs, isOpen }]
  nextId := table.nextId + 1

/-- `trim`. -/
def trim : HistoryTable :=
  let kept := ((sql.orderBy .trim table.rows).take kMaxRecords).map HistoryRow.id
  { table with rows := table.rows.filter fun row => row.id ∈ kept }

/-- `MeetingHistory::load`. -/
def load : List MeetingRecord := (sql.orderBy .load table.rows).map (HistoryRow.record dates)

/-- `MeetingHistory::append`. -/
def append (kind : MeetingRecordKind) (roomNo : Int32) (now : DateTime) : HistoryTable :=
  (table.insert kind.toInt roomNo now.isoDate 0 true).trim sql

/-- `MeetingHistory::finish_open_session`. -/
def finishOpenSession (durationMs : Int64) : HistoryTable :=
  match (sql.orderBy .finishOpenSession (table.rows.filter (·.isOpen))).head? with
  | some last =>
    { table with
      rows := table.rows.map fun row => if row.id = last.id then row.finish durationMs else row }
  | none => table

/-- `MeetingHistory::recent`. -/
def recent (kind : MeetingRecordKind) (limit : Int32) : List MeetingRecord :=
  ((sql.orderBy .recent (table.rows.filter fun row => row.kind = kind.toInt)).take
    (if 0 < limit then limit.toInt.toNat else kMaxRecords)).map
      fun row => { row.record dates with kind }

/-- `SELECT COUNT(*), COALESCE(SUM(duration_ms), 0)`; zeros where it fails. -/
def countAndSum (rows : List HistoryRow) : ℕ × Int64 :=
  match sqlSum (rows.map HistoryRow.durationMs) with
  | some sum => (rows.length, sum)
  | none => (0, 0)

/-- `MeetingHistory::stats`. -/
def stats (weekStart : DateTime) : MeetingStats :=
  let total := countAndSum table.rows
  let week := countAndSum (table.rows.filter fun row => !before row.startedAt weekStart.isoDate)
  { totalCount := total.1
    totalDurationMs := total.2
    weekCount := week.1
    weekDurationMs := week.2 }

/-- `MeetingHistory::remove_at`. -/
def removeAt (index : Int32) : HistoryTable × Bool :=
  if index < 0 then (table, false)
  else
    match (sql.orderBy .removeAt table.rows)[index.toInt.toNat]? with
    | some found => ({ table with rows := table.rows.filter (·.id ≠ found.id) }, true)
    | none => (table, false)

/-- `MeetingHistory::clear`. -/
def clear : HistoryTable := { table with rows := [] }

end HistoryTable

end CCMeeting
