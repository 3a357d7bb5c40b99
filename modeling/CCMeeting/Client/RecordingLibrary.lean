import CCMeeting.Client.History
import CCMeeting.Lib.KeyedList
import CCMeeting.Lib.Path
import CCMeeting.Lib.Transition
import Mathlib.Logic.Function.Basic

/-! # The library of the recordings

A recording is a video file, with what is known about it in a JSON file next to it.
`RecordingLibrary` lists the files of a directory; where the database is open it lists
the rows of the table `recordings` instead, after it has brought in the files without
a row and deleted the rows without a file. Files may change at any time, and nobody
tells the table. Here the database is open, and its statements succeed.
-/

namespace CCMeeting

open ByteString

/-! ## Paths -/

/-- `QFileInfo::fileName`: what is after the last slash. -/
def fileName (path : ByteString) : ByteString := (path.reverse.takeWhile (· ≠ slash)).reverse

/-- The directory of a path, up to the last slash. -/
def directory (path : ByteString) : ByteString := (path.reverse.dropWhile (· ≠ slash)).reverse

/-- `QFileInfo::completeBaseName`: the file name up to its last dot. -/
def completeBaseName (path : ByteString) : ByteString :=
  match (fileName path).reverse.dropWhile (· ≠ 46) with
  | [] => fileName path
  | _ :: base => base.reverse

/-- `meta_path_for`. -/
def metaPathFor (videoPath : ByteString) : ByteString :=
  directory videoPath ++ completeBaseName videoPath ++ ascii ".json"

example : metaPathFor (ascii "/home/ann/Videos/a.b.mp4") = ascii "/home/ann/Videos/a.b.json" := by
  decide

/-! ## Files and rows -/

/-- `QFileInfo` of a file there is. -/
structure FileInfo where
  absoluteFilePath : ByteString
  size : Int64
  lastModified : DateTime
  named : absoluteFilePath ≠ []

/-- The files, and what `QJsonDocument::fromJson(…).object()` finds in the metadata
files there are. -/
structure Disk where
  files : KeyedList FileInfo.absoluteFilePath
  sidecars : ByteString → Option (List (ByteString × Json))
  /-- whether a file is in `recordingsDir()` and its name ends in `.mp4` or `.mkv` -/
  listed : ByteString → Bool

/-- `entryInfoList`, in any order. -/
def Disk.entryInfoList (disk : Disk) : List FileInfo :=
  disk.files.toList.filter fun info => disk.listed info.absoluteFilePath

structure RecordingEntry where
  filePath : ByteString
  title : ByteString
  startedAt : Option DateTime
  sizeBytes : Int64 := 0
  /-- 0 where it is not known -/
  roomNo : Int32 := 0
  /-- 0 where it is not known -/
  durationMs : Int64 := 0
deriving DecidableEq, Repr

/-- A row of `recordings`, whose id nobody reads. -/
structure RecordingRow where
  path : ByteString
  title : ByteString
  roomNo : Int32
  startedAt : ByteString
  durationMs : Int64
  sizeBytes : Int64
deriving DecidableEq, Repr

/-- A row, as `load_db_entries` reads it. -/
def RecordingRow.entry (dates : IsoDates) (row : RecordingRow) : RecordingEntry where
  filePath := row.path
  title := row.title
  startedAt := dates.fromString row.startedAt
  sizeBytes := row.sizeBytes
  roomNo := row.roomNo
  durationMs := row.durationMs

/-- An entry, as `upsert_db_entry` writes it. -/
def RecordingEntry.row (entry : RecordingEntry) : RecordingRow where
  path := entry.filePath
  title := entry.title
  roomNo := entry.roomNo
  startedAt := DateTime.isoText entry.startedAt
  durationMs := entry.durationMs
  sizeBytes := entry.sizeBytes

/-- `recordings`, where the path is unique. -/
abbrev RecordingsTable := KeyedList RecordingRow.path

/-- `ORDER BY started_at DESC` and `std::sort` by the times. The order of those that are
equal is that of the libraries. -/
structure RecordingOrder where
  orderBy : List RecordingRow → List RecordingRow
  orderBy_perm : ∀ rows, (orderBy rows).Perm rows
  orderBy_sorted :
    ∀ rows, (orderBy rows).Pairwise fun a b => before a.startedAt b.startedAt = false
  sort : List RecordingEntry → List RecordingEntry
  sort_perm : ∀ entries, (sort entries).Perm entries
  sort_sorted :
    ∀ entries,
      (sort entries).Pairwise fun a b => DateTime.rank b.startedAt ≤ DateTime.rank a.startedAt

/-- Equal ones stay in order. -/
def RecordingOrder.reference : RecordingOrder where
  orderBy rows := rows.insertionSort fun a b => before a.startedAt b.startedAt = false
  orderBy_perm _ := List.perm_insertionSort ..
  orderBy_sorted rows := pairwise_insertionSort RecordingRow.startedAt rows
  sort := Newest.sort fun entry => DateTime.rank entry.startedAt
  sort_perm := Newest.sort_perm
  sort_sorted := Newest.sort_sorted

/-- What the library works on. -/
structure Recordings where
  disk : Disk
  table : RecordingsTable

/-! ## The table and the files -/

/-- `upsert_db_entry`. -/
def upsertDbEntry (table : RecordingsTable) (entry : RecordingEntry) : RecordingsTable :=
  if entry.filePath = [] then table
  else (table.erase entry.filePath).emplace entry.row (.keep RecordingRow)

/-- `load_db_entries`. -/
def loadDbEntries (order : RecordingOrder) (dates : IsoDates) (table : RecordingsTable) :
    List RecordingEntry :=
  (order.orderBy table.toList).map (RecordingRow.entry dates)

namespace Disk

variable (dates : IsoDates) (disk : Disk) (info : FileInfo)

/-- The entry that `sync_db_from_files` makes of a file. -/
def syncEntry : RecordingEntry :=
  let entry : RecordingEntry :=
    { filePath := info.absoluteFilePath
      title := completeBaseName info.absoluteFilePath
      startedAt := some info.lastModified
      sizeBytes := info.size }
  match disk.sidecars (metaPathFor info.absoluteFilePath) with
  | none => entry
  | some root =>
    let roomNo := jsonInt (root.lookup (ascii "roomNo"))
    let duration := castInt64 (jsonDouble (root.lookup (ascii "durationMs")))
    let started := dates.fromString (jsonText (root.lookup (ascii "startedAt")))
    { entry with
      roomNo
      durationMs := if 0 < duration then duration else entry.durationMs
      startedAt := if started.isSome then started else entry.startedAt }

/-- The entry that `scan_files` makes of a file. What the sidecar says counts. -/
def fileEntry : RecordingEntry :=
  let entry : RecordingEntry :=
    { filePath := info.absoluteFilePath
      sizeBytes := info.size
      startedAt := some info.lastModified
      title := completeBaseName info.absoluteFilePath }
  match disk.sidecars (metaPathFor entry.filePath) with
  | none => entry
  | some root =>
    let roomNo := jsonInt (root.lookup (ascii "roomNo"))
    let duration := castInt64 (jsonDouble (root.lookup (ascii "durationMs")))
    let started := dates.fromString (jsonText (root.lookup (ascii "startedAt")))
    let title := jsonText (root.lookup (ascii "title"))
    { entry with
      roomNo := if 0 < roomNo then roomNo else entry.roomNo
      durationMs := if 0 < duration then duration else entry.durationMs
      startedAt := if started.isSome then started else entry.startedAt
      title := if title ≠ [] then title else entry.title }

end Disk

/-- The loop of `sync_db_from_files` over the files. -/
def insertUnknown (dates : IsoDates) (disk : Disk) (knownPaths : List ByteString)
    (table : RecordingsTable) (info : FileInfo) : RecordingsTable :=
  if knownPaths.contains info.absoluteFilePath then table
  else upsertDbEntry table (disk.syncEntry dates info)

/-- The loop of `sync_db_from_files` over the rows. -/
def deleteVanished (onDisk : List ByteString) (table : RecordingsTable) (entry : RecordingEntry) :
    RecordingsTable :=
  if onDisk.contains entry.filePath then table else table.erase entry.filePath

namespace Recordings

variable (order : RecordingOrder) (dates : IsoDates) (s : Recordings)

/-- `sync_db_from_files`. -/
def syncDbFromFiles : Recordings :=
  let known := loadDbEntries order dates s.table
  let files := s.disk.entryInfoList
  let inserted :=
    files.foldl (insertUnknown dates s.disk (known.map RecordingEntry.filePath)) s.table
  { s with
    table := known.foldl (deleteVanished (files.map FileInfo.absoluteFilePath)) inserted }

/-- `RecordingLibrary::scan_files`. -/
def scanFiles : List RecordingEntry :=
  order.sort (s.disk.entryInfoList.map (s.disk.fileEntry dates))

/-- `RecordingLibrary::scan`. -/
def scan : Recordings × List RecordingEntry :=
  let s := s.syncDbFromFiles order dates
  let fromDb := loadDbEntries order dates s.table
  if ¬fromDb.isEmpty ∨ (s.scanFiles order dates).isEmpty then (s, fromDb)
  else (s, s.scanFiles order dates)

/-- `RecordingLibrary::total_bytes`, with the count. -/
def totalBytes : ℕ × Int64 :=
  match sqlSum (s.table.toList.map RecordingRow.sizeBytes) with
  | some bytes => (s.table.toList.length, bytes)
  | none => (0, 0)

/-- The members that `RecordingLibrary::write_meta` writes. -/
def members (videoPath : ByteString) (roomNo : Int32) (startedAt : Option DateTime)
    (durationMs : Int64) : List (ByteString × Json) :=
  [(ascii "roomNo", .number (.integer roomNo.toInt)),
    (ascii "startedAt", .string (DateTime.isoText startedAt)),
    (ascii "durationMs", .number (.float (.roundInt durationMs.toInt))),
    (ascii "title", .string (completeBaseName videoPath))]

/-- `RecordingLibrary::write_meta`. Opening the sidecar may fail. -/
def writeMeta (videoPath : ByteString) (roomNo : Int32) (startedAt : Option DateTime)
    (durationMs : Int64) (opened : Bool) : Recordings where
  disk :=
    { s.disk with
      sidecars :=
        if opened then
          Function.update s.disk.sidecars (metaPathFor videoPath)
            (some (members videoPath roomNo startedAt durationMs))
        else s.disk.sidecars }
  table :=
    upsertDbEntry s.table
      { filePath := videoPath
        title := completeBaseName videoPath
        startedAt
        sizeBytes := ((s.disk.files.find videoPath).map FileInfo.size).getD 0
        roomNo
        durationMs }

/-- `RecordingLibrary::remove`. Either file may stay. -/
def remove (filePath : ByteString) (removed metaRemoved : Bool) : Recordings × Bool :=
  if filePath = [] then (s, false)
  else
    ({ disk :=
        { s.disk with
          files := if removed then s.disk.files.erase filePath else s.disk.files
          sidecars :=
            if metaRemoved then Function.update s.disk.sidecars (metaPathFor filePath) none
            else s.disk.sidecars }
       table := s.table.erase filePath },
      removed && (s.disk.files.find filePath).isSome)

/-- What happens: calls of the library, and changes of the files by others. -/
inductive Event where
  | change (disk : Disk)
  | writeMeta (videoPath : ByteString) (roomNo : Int32) (startedAt : Option DateTime)
      (durationMs : Int64) (opened : Bool)
  | remove (filePath : ByteString) (removed metaRemoved : Bool)
  | scan
  | totalBytes

def next : Event → Recordings
  | .change disk => { s with disk }
  | .writeMeta videoPath roomNo startedAt durationMs opened =>
    s.writeMeta videoPath roomNo startedAt durationMs opened
  | .remove filePath removed metaRemoved => (s.remove filePath removed metaRemoved).1
  | .scan => (s.scan order dates).1
  | .totalBytes => s

/-- The runs that begin with an empty table, and with any files. -/
def system : Transition.System Recordings Event where
  Init s := s.table = ∅
  Step s e s' := s' = s.next order dates e

end Recordings

end CCMeeting
