import CCMeeting.Client.RecordingLibrary
import Mathlib.Algebra.Order.BigOperators.Group.List

/-! # Whether the table lists the files

The rows that a scan leaves are those of the files there are: the row that was there,
or the one made of a file without a row. So what the table answers is right exactly
where these rows say what the files and their sidecars say now. Nothing makes a row
anew because its file has changed.
-/

namespace CCMeeting

open ByteString Transition

/-! ## The property and its condition -/

namespace Disk

variable (dates : IsoDates) (disk : Disk) (info : FileInfo)

/-- The members of the sidecar of a file; none without a sidecar. -/
def sidecar : List (ByteString × Json) :=
  (disk.sidecars (metaPathFor info.absoluteFilePath)).getD []

def sidecarTitle : ByteString := jsonText ((disk.sidecar info).lookup (ascii "title"))

def sidecarRoomNo : Int32 := jsonInt ((disk.sidecar info).lookup (ascii "roomNo"))

def sidecarDuration : Int64 :=
  castInt64 (jsonDouble ((disk.sidecar info).lookup (ascii "durationMs")))

/-- The time in the sidecar, or else that of the last change. -/
def startedAt : DateTime :=
  ((disk.sidecars (metaPathFor info.absoluteFilePath)).bind fun root =>
    dates.fromString (jsonText (root.lookup (ascii "startedAt")))).getD info.lastModified

/-- A row has the size of the file, and what the sidecar says. -/
structure UpToDate (row : RecordingRow) : Prop where
  sizeBytes : row.sizeBytes = info.size
  title :
    row.title =
      if disk.sidecarTitle info ≠ [] then disk.sidecarTitle info
      else completeBaseName info.absoluteFilePath
  roomNo : row.roomNo = if 0 < disk.sidecarRoomNo info then disk.sidecarRoomNo info else 0
  durationMs :
    row.durationMs = if 0 < disk.sidecarDuration info then disk.sidecarDuration info else 0
  startedAt : dates.fromString row.startedAt = some (disk.startedAt dates info)

/-- The sidecar gives the file no other title, and no room number below zero, and the
time is one that its text gives back. -/
structure Plain : Prop where
  title : disk.sidecarTitle info ≠ [] →
    disk.sidecarTitle info = completeBaseName info.absoluteFilePath
  roomNo : 0 ≤ disk.sidecarRoomNo info
  startedAt :
    dates.fromString (disk.startedAt dates info).isoDate = some (disk.startedAt dates info)

end Disk

namespace Recordings

variable (order : RecordingOrder) (dates : IsoDates) (s : Recordings)

/-- What the calls that list or count the recordings answer, against the files. -/
def Answers : Event → Prop
  | .scan => (s.scan order dates).2.Perm (s.scanFiles order dates)
  | .totalBytes =>
    s.totalBytes.1 = (s.scanFiles order dates).length ∧
      s.totalBytes.2.toInt =
        ((s.scanFiles order dates).map fun entry => entry.sizeBytes.toInt).sum
  | .change _ | .writeMeta .. | .remove .. => True

/-- Every file listed has a row with its size of now, every row is that of a file
listed, and the sizes together fit 64 bits. -/
structure Mirrored : Prop where
  sizes : ∀ info ∈ s.disk.entryInfoList,
    ∃ row, s.table.find info.absoluteFilePath = some row ∧ row.sizeBytes = info.size
  paths : ∀ row ∈ s.table, row.path ∈ s.disk.entryInfoList.map FileInfo.absoluteFilePath
  nonneg : ∀ info ∈ s.disk.entryInfoList, 0 ≤ info.size.toInt
  fits : (s.disk.entryInfoList.map fun info => info.size.toInt).sum < 2 ^ 63

/-- The condition on the files and the rows. -/
def AsOnDisk : Event → Prop
  | .scan =>
    ∀ info ∈ s.disk.entryInfoList,
      match s.table.find info.absoluteFilePath with
      | some row => s.disk.UpToDate dates info row
      | none => s.disk.Plain dates info
  | .totalBytes => s.Mirrored
  | .change _ | .writeMeta .. | .remove .. => True

end Recordings

/-! ## What is made of a file -/

namespace Disk

variable {dates : IsoDates} {disk : Disk} {info : FileInfo}

theorem syncEntry_eq :
    disk.syncEntry dates info =
      { filePath := info.absoluteFilePath
        title := completeBaseName info.absoluteFilePath
        startedAt := some (disk.startedAt dates info)
        sizeBytes := info.size
        roomNo := disk.sidecarRoomNo info
        durationMs := if 0 < disk.sidecarDuration info then disk.sidecarDuration info else 0 } := by
  unfold syncEntry sidecarRoomNo sidecarDuration startedAt sidecar
  cases disk.sidecars (metaPathFor info.absoluteFilePath) with
  | none => rfl
  | some root =>
    dsimp only [Option.getD_some, Option.bind_some]
    cases dates.fromString (jsonText (root.lookup (ascii "startedAt"))) <;> rfl

theorem fileEntry_eq :
    disk.fileEntry dates info =
      { filePath := info.absoluteFilePath
        title :=
          if disk.sidecarTitle info ≠ [] then disk.sidecarTitle info
          else completeBaseName info.absoluteFilePath
        startedAt := some (disk.startedAt dates info)
        sizeBytes := info.size
        roomNo := if 0 < disk.sidecarRoomNo info then disk.sidecarRoomNo info else 0
        durationMs := if 0 < disk.sidecarDuration info then disk.sidecarDuration info else 0 } := by
  unfold fileEntry sidecarTitle sidecarRoomNo sidecarDuration startedAt sidecar
  dsimp only
  cases disk.sidecars (metaPathFor info.absoluteFilePath) with
  | none => rfl
  | some root =>
    dsimp only [Option.getD_some, Option.bind_some]
    cases dates.fromString (jsonText (root.lookup (ascii "startedAt"))) <;> rfl

variable (dates disk info) in
theorem filePath_syncEntry : (disk.syncEntry dates info).filePath = info.absoluteFilePath := by
  rw [syncEntry_eq]

variable (dates disk info) in
theorem filePath_fileEntry : (disk.fileEntry dates info).filePath = info.absoluteFilePath := by
  rw [fileEntry_eq]

/-- A row that is there is right. -/
theorem entry_eq_fileEntry_iff {row : RecordingRow} (hpath : row.path = info.absoluteFilePath) :
    row.entry dates = disk.fileEntry dates info ↔ disk.UpToDate dates info row := by
  rw [fileEntry_eq]
  unfold RecordingRow.entry
  rw [RecordingEntry.mk.injEq]
  constructor
  · rintro ⟨_, htitle, hstarted, hsize, hroom, hduration⟩
    exact ⟨hsize, htitle, hroom, hduration, hstarted⟩
  · intro h
    exact ⟨hpath, h.title, h.startedAt, h.sizeBytes, h.roomNo, h.durationMs⟩

/-- The row made of a file is right. -/
theorem entry_syncEntry_iff :
    (disk.syncEntry dates info).row.entry dates = disk.fileEntry dates info ↔
      disk.Plain dates info := by
  rw [fileEntry_eq, syncEntry_eq]
  unfold RecordingEntry.row RecordingRow.entry
  dsimp only [DateTime.isoText]
  rw [RecordingEntry.mk.injEq]
  constructor
  · rintro ⟨_, htitle, hstarted, _, hroom, _⟩
    constructor
    · intro hne
      rw [if_pos hne] at htitle
      exact htitle.symm
    · split at hroom
      · exact Int32.le_of_lt ‹_›
      · rw [hroom]
        exact Int32.le_refl 0
    · exact hstarted
  · intro h
    refine ⟨rfl, ?_, h.startedAt, rfl, ?_, rfl⟩
    · split
      · exact (h.title ‹_›).symm
      · rfl
    · split
      · rfl
      · exact Int32.le_antisymm (Int32.not_lt.mp ‹_›) h.roomNo

end Disk

/-! ## What a scan leaves in the table -/

section Table

variable {dates : IsoDates} {disk : Disk} {table : RecordingsTable} {path : ByteString}

theorem find_upsertDbEntry_self (table : RecordingsTable) {entry : RecordingEntry}
    (hpath : entry.filePath ≠ []) :
    (upsertDbEntry table entry).find entry.filePath = some entry.row := by
  unfold upsertDbEntry
  rw [if_neg hpath]
  exact KeyedList.find_emplace_self _ (KeyedList.find_erase_self ..)

theorem find_upsertDbEntry_of_ne {entry : RecordingEntry} (hpath : entry.filePath ≠ path) :
    (upsertDbEntry table entry).find path = table.find path := by
  unfold upsertDbEntry
  split
  · rfl
  · have hfree : (table.erase entry.filePath).find entry.row.path = none :=
      KeyedList.find_erase_self ..
    rw [KeyedList.find_emplace_of_ne _ hfree hpath, KeyedList.find_erase_of_ne hpath.symm]

/-- The row of a file that is known stays, and so do the rows of other files. -/
theorem find_insertUnknown {known : List ByteString} {info : FileInfo}
    (hpath : info.absoluteFilePath = path → path ∈ known) :
    (insertUnknown dates disk known table info).find path = table.find path := by
  unfold insertUnknown
  split
  · rfl
  · rename_i hunknown
    apply find_upsertDbEntry_of_ne
    rw [Disk.filePath_syncEntry]
    intro heq
    apply hunknown
    rw [List.contains_iff_mem, heq]
    exact hpath heq

theorem find_foldl_insertUnknown {known : List ByteString} {files : List FileInfo}
    (hpath : ∀ info ∈ files, info.absoluteFilePath = path → path ∈ known) :
    (files.foldl (insertUnknown dates disk known) table).find path = table.find path := by
  induction files generalizing table with
  | nil => rfl
  | cons info files ih =>
    rw [List.forall_mem_cons] at hpath
    rw [List.foldl_cons, ih hpath.2, find_insertUnknown hpath.1]

theorem find_foldl_insertUnknown_of_mem {known : List ByteString} {files : List FileInfo}
    (hnodup : (files.map FileInfo.absoluteFilePath).Nodup) {info : FileInfo} (hmem : info ∈ files)
    (hunknown : info.absoluteFilePath ∉ known) :
    (files.foldl (insertUnknown dates disk known) table).find info.absoluteFilePath =
      some (disk.syncEntry dates info).row := by
  induction files generalizing table with
  | nil => cases hmem
  | cons file files ih =>
    rw [List.map_cons, List.nodup_cons] at hnodup
    rw [List.foldl_cons]
    rcases List.mem_cons.mp hmem with rfl | hmem
    · -- the files behind it have other paths
      rw [find_foldl_insertUnknown]
      · have hpath := disk.filePath_syncEntry dates info
        unfold insertUnknown
        rw [if_neg (by rwa [List.contains_iff_mem]), ← hpath]
        apply find_upsertDbEntry_self
        rw [hpath]
        exact info.named
      · intro other hother heq
        exact absurd (heq ▸ List.mem_map_of_mem hother) hnodup.1
    · exact ih hnodup.2 hmem

theorem find_foldl_deleteVanished {onDisk : List ByteString} (hpath : path ∈ onDisk)
    (known : List RecordingEntry) :
    (known.foldl (deleteVanished onDisk) table).find path = table.find path := by
  induction known generalizing table with
  | nil => rfl
  | cons entry known ih =>
    rw [List.foldl_cons, ih]
    unfold deleteVanished
    split
    · rfl
    · rename_i hvanished
      apply KeyedList.find_erase_of_ne
      rintro rfl
      exact hvanished (List.contains_iff_mem.mpr hpath)

theorem find_deleteVanished_of_none {onDisk : List ByteString} (entry : RecordingEntry)
    (hnone : table.find path = none) : (deleteVanished onDisk table entry).find path = none := by
  unfold deleteVanished
  split
  · exact hnone
  · rw [KeyedList.find_eq_none] at hnone ⊢
    intro row hrow
    exact hnone row (KeyedList.mem_erase.mp hrow).1

/-- A row that is known and has no file is deleted; what there is not stays away. -/
theorem find_foldl_deleteVanished_of_notMem {onDisk : List ByteString} (hpath : path ∉ onDisk)
    {known : List RecordingEntry}
    (hknown : table.find path = none ∨ path ∈ known.map RecordingEntry.filePath) :
    (known.foldl (deleteVanished onDisk) table).find path = none := by
  induction known generalizing table with
  | nil =>
    rcases hknown with hnone | hmem
    · exact hnone
    · cases hmem
  | cons entry known ih =>
    rw [List.foldl_cons]
    apply ih
    rcases hknown with hnone | hmem
    · exact Or.inl (find_deleteVanished_of_none entry hnone)
    · rw [List.map_cons, List.mem_cons] at hmem
      rcases hmem with rfl | hmem
      · left
        unfold deleteVanished
        rw [if_neg (by rwa [List.contains_iff_mem])]
        exact KeyedList.find_erase_self ..
      · exact Or.inr hmem

theorem mem_loadDbEntries_iff (order : RecordingOrder) :
    path ∈ (loadDbEntries order dates table).map RecordingEntry.filePath ↔
      table.find path ≠ none := by
  unfold loadDbEntries
  rw [List.map_map, ((order.orderBy_perm table.toList).map _).mem_iff, List.mem_map,
    ← not_iff_not, not_not, KeyedList.find_eq_none]
  simp [KeyedList.mem_def, RecordingRow.entry]

end Table

namespace Recordings

variable {order : RecordingOrder} {dates : IsoDates} {s : Recordings}

theorem nodup_entryInfoList (disk : Disk) :
    (disk.entryInfoList.map FileInfo.absoluteFilePath).Nodup :=
  disk.files.nodup.sublist (List.filter_sublist.map _)

/-- The row of a file after a scan. -/
def syncedRow (dates : IsoDates) (s : Recordings) (info : FileInfo) : RecordingRow :=
  (s.table.find info.absoluteFilePath).getD (s.disk.syncEntry dates info).row

theorem path_syncedRow (info : FileInfo) :
    (s.syncedRow dates info).path = info.absoluteFilePath := by
  unfold syncedRow
  cases hfind : s.table.find info.absoluteFilePath with
  | none => exact s.disk.filePath_syncEntry dates info
  | some row => exact (KeyedList.find_eq_some.mp hfind).2

theorem find_syncDbFromFiles {info : FileInfo} (hmem : info ∈ s.disk.entryInfoList) :
    (s.syncDbFromFiles order dates).table.find info.absoluteFilePath =
      some (s.syncedRow dates info) := by
  unfold syncDbFromFiles syncedRow
  dsimp only
  rw [find_foldl_deleteVanished (List.mem_map_of_mem hmem)]
  cases hfind : s.table.find info.absoluteFilePath with
  | none =>
    apply find_foldl_insertUnknown_of_mem (nodup_entryInfoList s.disk) hmem
    rw [mem_loadDbEntries_iff, hfind]
    exact fun hne => hne rfl
  | some row =>
    rw [find_foldl_insertUnknown, hfind]
    · rfl
    · intro other _ heq
      rw [mem_loadDbEntries_iff, hfind]
      exact Option.some_ne_none row

theorem find_syncDbFromFiles_of_notMem {path : ByteString}
    (hpath : path ∉ s.disk.entryInfoList.map FileInfo.absoluteFilePath) :
    (s.syncDbFromFiles order dates).table.find path = none := by
  unfold syncDbFromFiles
  dsimp only
  apply find_foldl_deleteVanished_of_notMem hpath
  rw [find_foldl_insertUnknown, mem_loadDbEntries_iff]
  · exact Classical.em _
  · intro info hinfo heq
    exact absurd (heq ▸ List.mem_map_of_mem hinfo) hpath

/-- A scan leaves one row for each file, and no others. -/
theorem table_syncDbFromFiles_perm :
    (s.syncDbFromFiles order dates).table.toList.Perm
      (s.disk.entryInfoList.map (s.syncedRow dates)) := by
  have hall : ∀ row ∈ (s.syncDbFromFiles order dates).table,
      true = true ↔ row.path ∈ s.disk.entryInfoList.map FileInfo.absoluteFilePath := by
    intro row hrow
    refine iff_of_true rfl ?_
    by_contra hpath
    exact KeyedList.find_eq_none.mp (find_syncDbFromFiles_of_notMem hpath) row hrow rfl
  have hperm := KeyedList.filter_perm_filterMap_find (nodup_entryInfoList s.disk) hall
  rw [List.filter_true, List.filterMap_map] at hperm
  refine hperm.trans (List.Perm.of_eq ?_)
  rw [← List.filterMap_eq_map]
  apply List.filterMap_congr
  intro info hinfo
  exact find_syncDbFromFiles hinfo

/-- The rows are listed; the files themselves are listed only where there are none. -/
theorem scan_perm :
    (s.scan order dates).2.Perm
      (s.disk.entryInfoList.map fun info => (s.syncedRow dates info).entry dates) := by
  have hdb : (loadDbEntries order dates (s.syncDbFromFiles order dates).table).Perm
      (s.disk.entryInfoList.map fun info => (s.syncedRow dates info).entry dates) := by
    unfold loadDbEntries
    refine ((order.orderBy_perm _).trans table_syncDbFromFiles_perm).map _ |>.trans ?_
    rw [List.map_map]
    rfl
  unfold scan
  dsimp only
  split
  · exact hdb
  · rename_i hfallback
    rw [not_or, not_not, List.isEmpty_iff] at hfallback
    have hnil := hdb.length_eq
    rw [hfallback.1, List.length_map] at hnil
    have hfiles : s.disk.entryInfoList = [] := List.length_eq_zero_iff.mp hnil.symm
    have hscan : (s.syncDbFromFiles order dates).scanFiles order dates = [] := by
      unfold scanFiles
      rw [show (s.syncDbFromFiles order dates).disk = s.disk from rfl, hfiles]
      exact (order.sort_perm []).eq_nil
    exact absurd (by rw [hscan]; rfl) hfallback.2

theorem scanFiles_perm :
    (s.scanFiles order dates).Perm (s.disk.entryInfoList.map (s.disk.fileEntry dates)) :=
  order.sort_perm _

/-- A scan lists the files as they are where each row is right. -/
theorem answers_scan_iff : s.Answers order dates .scan ↔ s.AsOnDisk dates .scan := by
  have hiff : s.Answers order dates .scan ↔
      ∀ info ∈ s.disk.entryInfoList,
        (s.syncedRow dates info).entry dates = s.disk.fileEntry dates info := by
    show (s.scan order dates).2.Perm (s.scanFiles order dates) ↔ _
    rw [scan_perm.congr_left, scanFiles_perm.congr_right]
    apply KeyedList.map_perm_map_iff RecordingEntry.filePath
    · have hpath : ∀ info, ((s.syncedRow dates info).entry dates).filePath =
        info.absoluteFilePath := fun info => path_syncedRow info
      simp only [hpath]
      exact nodup_entryInfoList s.disk
    · intro info _
      rw [s.disk.filePath_fileEntry]
      exact (path_syncedRow info).symm
  rw [hiff]
  apply forall₂_congr
  intro info _
  unfold syncedRow
  cases hfind : s.table.find info.absoluteFilePath with
  | none => exact Disk.entry_syncEntry_iff
  | some row => exact Disk.entry_eq_fileEntry_iff (KeyedList.find_eq_some.mp hfind).2

/-! ## What is counted -/

/-- Sizes that are not negative are added up, unless their sum does not fit. -/
theorem isSome_sqlSum {values : List Int64} (hnonneg : ∀ v ∈ values, 0 ≤ v.toInt)
    (hfits : (values.map Int64.toInt).sum < 2 ^ 63) : (sqlSum values).isSome = true := by
  have hloop : ∀ (values : List Int64) (sum : Int64), (∀ v ∈ values, 0 ≤ v.toInt) →
      0 ≤ sum.toInt → sum.toInt + (values.map Int64.toInt).sum < 2 ^ 63 →
      (values.foldlM
        (fun sum value =>
          if -2 ^ 63 ≤ sum.toInt + value.toInt ∧ sum.toInt + value.toInt < 2 ^ 63 then
            some (sum + value)
          else none) sum).isSome = true := by
    intro values
    induction values with
    | nil =>
      intro sum _ _ _
      rfl
    | cons v values ih =>
      intro sum hnonneg hsum hfits
      rcases List.forall_mem_cons.mp hnonneg with ⟨hv, hrest⟩
      have hbehind : 0 ≤ (values.map Int64.toInt).sum := by
        refine List.sum_nonneg ?_
        intro n hn
        rcases List.mem_map.mp hn with ⟨v', hv', rfl⟩
        exact hrest v' hv'
      rw [List.map_cons, List.sum_cons] at hfits
      have hnow : -2 ^ 63 ≤ sum.toInt + v.toInt ∧ sum.toInt + v.toInt < 2 ^ 63 := by
        omega
      rw [List.foldlM_cons, if_pos hnow]
      refine ih (sum + v) hrest ?_ ?_
      · rw [toInt_add_of_fits hnow]
        omega
      · rw [toInt_add_of_fits hnow]
        omega
  refine hloop values 0 hnonneg (by decide) ?_
  rw [show (0 : Int64).toInt = 0 by decide, Int.zero_add]
  exact hfits

/-- The rows of a table that mirrors the files have the sizes of the files. -/
theorem Mirrored.sizes_perm (h : s.Mirrored) :
    (s.table.toList.map RecordingRow.sizeBytes).Perm (s.disk.entryInfoList.map FileInfo.size) := by
  have hall : ∀ row ∈ s.table,
      true = true ↔ row.path ∈ s.disk.entryInfoList.map FileInfo.absoluteFilePath :=
    fun row hrow => iff_of_true rfl (h.paths row hrow)
  have hperm := (KeyedList.filter_perm_filterMap_find (nodup_entryInfoList s.disk) hall).map
    RecordingRow.sizeBytes
  rw [List.filter_true, List.filterMap_map, List.map_filterMap] at hperm
  refine hperm.trans (List.Perm.of_eq ?_)
  rw [← List.filterMap_eq_map]
  apply List.filterMap_congr
  intro info hinfo
  rcases h.sizes info hinfo with ⟨row, hrow, hsize⟩
  simp only [Function.comp_apply, hrow, Option.map_some, hsize]

/-- Where the table mirrors the files, the count and the sum are those of the files. -/
theorem Mirrored.answers (h : s.Mirrored) : s.Answers order dates .totalBytes := by
  have hlength : (s.scanFiles order dates).length = s.disk.entryInfoList.length := by
    rw [scanFiles_perm.length_eq, List.length_map]
  have hsizes : ((s.scanFiles order dates).map fun entry => entry.sizeBytes.toInt).sum =
      (s.disk.entryInfoList.map fun info => info.size.toInt).sum := by
    rw [(scanFiles_perm.map _).sum_eq, List.map_map]
    congr 1
    apply List.map_congr_left
    intro info _
    show (s.disk.fileEntry dates info).sizeBytes.toInt = info.size.toInt
    rw [Disk.fileEntry_eq]
  have hrows : ((s.table.toList.map RecordingRow.sizeBytes).map Int64.toInt).sum =
      (s.disk.entryInfoList.map fun info => info.size.toInt).sum := by
    rw [(h.sizes_perm.map Int64.toInt).sum_eq, List.map_map]
    rfl
  have hsome : (sqlSum (s.table.toList.map RecordingRow.sizeBytes)).isSome = true := by
    refine isSome_sqlSum ?_ ?_
    · intro size hsize
      rcases List.mem_map.mp (h.sizes_perm.mem_iff.mp hsize) with ⟨info, hinfo, rfl⟩
      exact h.nonneg info hinfo
    · rw [hrows]
      exact h.fits
  rcases Option.isSome_iff_exists.mp hsome with ⟨bytes, hbytes⟩
  show s.totalBytes.1 = _ ∧ s.totalBytes.2.toInt = _
  have hcount := h.sizes_perm.length_eq
  rw [List.length_map, List.length_map] at hcount
  rw [hlength, hsizes, totalBytes, hbytes]
  exact ⟨hcount, (toInt_of_sqlSum hbytes).trans hrows⟩

theorem answers_of_asOnDisk {e : Event} (h : s.AsOnDisk dates e) : s.Answers order dates e := by
  cases e with
  | scan => exact answers_scan_iff.mpr h
  | totalBytes => exact Mirrored.answers h
  | change _ | writeMeta _ _ _ _ _ | remove _ _ _ => trivial

end Recordings

/-- In any run, whatever becomes of the files and by whomever the table was filled, the
lists, the counts and the sums are those of the files where each is asked for while the
rows are as the files; for the lists that is so only then. -/
theorem recording_lists (order : RecordingOrder) (dates : IsoDates) (s : Recordings) :
    (s.Answers order dates .scan ↔ s.AsOnDisk dates .scan) ∧
      ∀ es t, Run ((Recordings.system order dates).restrict (Recordings.AsOnDisk dates)) s es t →
        Run ((Recordings.system order dates).filter fun s e _ => s.Answers order dates e)
          s es t := by
  refine ⟨Recordings.answers_scan_iff, ?_⟩
  intro es t hrun
  induction hrun with
  | nil s => exact .nil s
  | cons hstep _ ih => exact .cons ⟨Recordings.answers_of_asOnDisk hstep.1, hstep.2⟩ ih

/-- A video of a thousand bytes, with what its sidecar says. -/
def Disk.oneVideo (sidecar : Option (List (ByteString × Json))) : Disk where
  files :=
    { toList :=
        [{ absoluteFilePath := ascii "/home/ann/Videos/a.mp4"
           size := 1000
           lastModified := .mayDay 30 0 0
           named := by decide }]
      nodup := List.nodup_singleton _ }
  sidecars path := if path = ascii "/home/ann/Videos/a.json" then sidecar else none
  listed _ := true

namespace Recordings

/-- A directory with a video, and an empty table. -/
def unscanned : Recordings := { disk := .oneVideo none, table := ∅ }

theorem unscanned_plain : unscanned.AsOnDisk .reference .scan := by
  intro info hinfo
  rw [List.mem_singleton.mp hinfo]
  exact ⟨fun htitle => absurd rfl htitle, by decide +kernel, by decide +kernel⟩

theorem scanned_mirrored : (unscanned.scan .reference .reference).1.Mirrored := by
  constructor
  · intro info hinfo
    rw [List.mem_singleton.mp hinfo]
    exact ⟨_, rfl, by decide +kernel⟩
  · intro row hrow
    revert row
    decide +kernel
  · intro info hinfo
    rw [List.mem_singleton.mp hinfo]
    decide
  · decide +kernel

end Recordings

/-- The video is listed, and then it is counted. -/
theorem recording_lists_of_video :
    Run ((Recordings.system .reference .reference).filter fun s e _ =>
        s.Answers .reference .reference e)
      .unscanned [.scan, .totalBytes] (Recordings.unscanned.scan .reference .reference).1 :=
  (recording_lists .reference .reference .unscanned).2 _ _
    (.cons ⟨Recordings.unscanned_plain, rfl⟩
      (.cons ⟨Recordings.scanned_mirrored, rfl⟩ (.nil _)))

/-- The title of the sidecar does not get into the table. -/
theorem sidecar_title_lost :
    ¬∀ s, Reachable (Recordings.system .reference .reference) s →
      ∀ e, s.Answers .reference .reference e := by
  intro hall
  let s : Recordings :=
    { disk := .oneVideo
        (some [(ascii "roomNo", .number (.integer 7)), (ascii "title", .string (ascii "Weekly"))])
      table := ∅ }
  have hscan : (s.scan .reference .reference).2.map RecordingEntry.title = [ascii "a"] := by
    decide +kernel
  have hfiles : (s.scanFiles .reference .reference).map RecordingEntry.title =
      [ascii "Weekly"] := by
    decide +kernel
  have hanswers : (s.scan .reference .reference).2.Perm (s.scanFiles .reference .reference) :=
    hall s (.init rfl) .scan
  have htitles := hanswers.map RecordingEntry.title
  rw [hscan, hfiles] at htitles
  exact absurd htitles.eq_singleton (by decide)

end CCMeeting
