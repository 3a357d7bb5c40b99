import Mathlib.Logic.Function.Iterate
import CCMeeting.Client.History

/-! # The migration of the history

`migrate_json_if_needed` inserts the records of the JSON file into the table, one
statement each, renames the file if one of them has succeeded, and marks the
migration as done in any case. Statements can fail, and the process can stop between
any two steps.
-/

namespace CCMeeting

/-- What is on the disk: the JSON file, whether there is a backup of it, the table, and
whether `migrated_history_v1` is in `meta`. -/
structure HistoryDisk where
  file : HistoryFile
  backup : Bool
  table : HistoryTable
  marked : Bool

/-- How a run goes: which of the INSERTs do not fail, whether the file can be renamed and
the mark be set, and after how many of these steps the process stops, if it does. -/
structure MigrationRun where
  inserts : ℕ → Bool
  renames : Bool
  marks : Bool
  stop : Option ℕ

namespace MigrationRun

/-- A run without failures. -/
def clean : MigrationRun where
  inserts _ := true
  renames := true
  marks := true
  stop := none

/-- Whether a step is reached. -/
def reaches (run : MigrationRun) (step : ℕ) : Bool := run.stop.all fun steps => step < steps

/-- Whether the INSERT of a record is reached and does not fail. -/
def inserted (run : MigrationRun) (step : ℕ) : Bool := run.reaches step && run.inserts step

/-- Whether a record is inserted. The text of a time that is not valid is a null
string, which `started_at` may not be: that INSERT is refused in any run. -/
def accepted (run : MigrationRun) (step : ℕ) (record : MeetingRecord) : Bool :=
  run.inserted step && record.startedAt.isSome

/-- Whether the file is renamed, where a record has been inserted; the steps before
insert the records. A file is not renamed to the name of another one. -/
def renamed (run : MigrationRun) (records : ℕ) (backup : Bool) : Bool :=
  run.reaches records && run.renames && !backup

/-- Whether the mark is set. -/
def marked (run : MigrationRun) (records : ℕ) : Bool := run.reaches (records + 1) && run.marks

/-- The loop over the records, with `imported`. -/
def importRecords (run : MigrationRun) :
    ℕ → List MeetingRecord → HistoryTable × ℕ → HistoryTable × ℕ
  | _, [], result => result
  | step, record :: records, (table, imported) =>
    run.importRecords (step + 1) records
      (if run.accepted step record then
        (table.insert record.kind.toInt record.roomNo (DateTime.isoText record.startedAt)
          record.durationMs record.isOpen, imported + 1)
      else (table, imported))

end MigrationRun

/-- `migrate_json_if_needed`. -/
def HistoryDisk.migrateJsonIfNeeded (dates : IsoDates) (run : MigrationRun) (disk : HistoryDisk) :
    HistoryDisk :=
  if disk.marked then disk
  else
    let records := disk.file.loadJson dates
    let (table, imported) := run.importRecords 0 records (disk.table, 0)
    let renamed := decide (0 < imported) && run.renamed records.length disk.backup
    { file := if renamed then none else disk.file
      backup := disk.backup || renamed
      table
      marked := run.marked records.length }

/-! ## The property and its condition -/

/-- The columns of a row, but for the id. -/
def HistoryRow.values (row : HistoryRow) : Int32 × Int32 × ByteString × Int64 × Bool :=
  (row.kind, row.roomNo, row.startedAt, row.durationMs, row.isOpen)

/-- The columns that are inserted for a record. -/
def MeetingRecord.values (record : MeetingRecord) : Int32 × Int32 × ByteString × Int64 × Bool :=
  (record.kind.toInt, record.roomNo, DateTime.isoText record.startedAt, record.durationMs,
    record.isOpen)

/-- Every record of the file has been inserted once, or the file is still there, the
migration is not marked as done and nothing has been inserted. -/
def HistoryDisk.Migrated (dates : IsoDates) (disk disk' : HistoryDisk) : Prop :=
  (disk'.table.rows.map HistoryRow.values).Perm
      (disk.table.rows.map HistoryRow.values ++
        (disk.file.loadJson dates).map MeetingRecord.values) ∨
    disk'.file = disk.file ∧ disk'.marked = false ∧ disk'.table.rows = disk.table.rows

/-- Nothing is inserted and the mark is not set, or everything is inserted and the file
is renamed or the mark is set; and all the records have a time. -/
def MigrationRun.Safe (run : MigrationRun) (records : List MeetingRecord) (backup : Bool) : Prop :=
  (∀ record ∈ records, record.startedAt.isSome = true) ∧
    ((∀ step < records.length, run.inserted step = false) ∧ run.marked records.length = false ∨
      (∀ step < records.length, run.inserted step = true) ∧
        (run.marked records.length = true ∨ run.renamed records.length backup = true))

instance (run : MigrationRun) (records : List MeetingRecord) (backup : Bool) :
    Decidable (run.Safe records backup) :=
  inferInstanceAs (Decidable (_ ∧ (_ ∧ _ ∨ _ ∧ _)))

/-! ## What a run inserts -/

namespace MigrationRun

/-- The records that a run inserts. -/
def picked (run : MigrationRun) : ℕ → List MeetingRecord → List MeetingRecord
  | _, [] => []
  | step, record :: records =>
    if run.accepted step record then record :: run.picked (step + 1) records
    else run.picked (step + 1) records

variable {run : MigrationRun}

theorem importRecords_spec (step : ℕ) (records : List MeetingRecord) (table : HistoryTable)
    (imported : ℕ) :
    (run.importRecords step records (table, imported)).1.rows.map HistoryRow.values =
        table.rows.map HistoryRow.values ++ (run.picked step records).map MeetingRecord.values ∧
      (run.importRecords step records (table, imported)).2 =
        imported + (run.picked step records).length := by
  induction records generalizing step table imported with
  | nil =>
    constructor
    · exact (List.append_nil _).symm
    · rfl
  | cons record records ih =>
    unfold importRecords picked
    split_ifs
    · rcases ih (step + 1) (table.insert record.kind.toInt record.roomNo
        (DateTime.isoText record.startedAt) record.durationMs record.isOpen)
        (imported + 1) with ⟨hrows, himported⟩
      rw [hrows, himported]
      constructor
      · simp [HistoryTable.insert, HistoryRow.values, MeetingRecord.values]
      · rw [List.length_cons]
        omega
    · exact ih (step + 1) table imported

theorem picked_sublist (step : ℕ) (records : List MeetingRecord) :
    (run.picked step records).Sublist records := by
  induction records generalizing step with
  | nil => exact List.Sublist.slnil
  | cons record records ih =>
    unfold picked
    split_ifs
    · exact (ih (step + 1)).cons_cons record
    · exact (ih (step + 1)).cons record

/-- What is picked has a time. -/
theorem isSome_of_mem_picked {step : ℕ} {records : List MeetingRecord} {record : MeetingRecord}
    (h : record ∈ run.picked step records) : record.startedAt.isSome = true := by
  induction records generalizing step with
  | nil => cases h
  | cons first records ih =>
    unfold picked at h
    split_ifs at h with haccepted
    · rcases List.mem_cons.mp h with rfl | h
      · exact (Bool.and_eq_true_iff.mp haccepted).2
      · exact ih h
    · exact ih h

theorem picked_cons (step : ℕ) {record : MeetingRecord} (records : List MeetingRecord)
    (htime : record.startedAt.isSome = true) :
    run.picked step (record :: records) =
      if run.inserted step then record :: run.picked (step + 1) records
      else run.picked (step + 1) records := by
  show (if run.accepted step record then _ else _) = _
  rw [accepted, htime, Bool.and_true]

/-- The steps of a loop are the first one and those after it. -/
theorem forall_steps_iff (p : ℕ → Prop) (step n : ℕ) :
    (∀ i < n + 1, p (step + i)) ↔ p step ∧ ∀ i < n, p (step + 1 + i) := by
  rw [Nat.forall_lt_succ_left]
  simp only [Nat.add_zero, Nat.add_assoc, Nat.add_comm 1]

theorem picked_eq_nil_iff (step : ℕ) {records : List MeetingRecord}
    (htimes : ∀ record ∈ records, record.startedAt.isSome = true) :
    run.picked step records = [] ↔ ∀ i < records.length, run.inserted (step + i) = false := by
  induction records generalizing step with
  | nil => simp [picked]
  | cons record records ih =>
    rcases List.forall_mem_cons.mp htimes with ⟨htime, hrest⟩
    rw [picked_cons _ _ htime, List.length_cons,
      forall_steps_iff fun i => run.inserted i = false, ← ih _ hrest]
    split_ifs with hinserted
    · simp [hinserted]
    · simp [hinserted]

theorem picked_eq_self_iff (step : ℕ) {records : List MeetingRecord}
    (htimes : ∀ record ∈ records, record.startedAt.isSome = true) :
    run.picked step records = records ↔ ∀ i < records.length, run.inserted (step + i) = true := by
  induction records generalizing step with
  | nil => simp [picked]
  | cons record records ih =>
    rcases List.forall_mem_cons.mp htimes with ⟨htime, hrest⟩
    rw [picked_cons _ _ htime, List.length_cons,
      forall_steps_iff fun i => run.inserted i = true, ← ih _ hrest]
    split_ifs with hinserted
    · simp [hinserted]
    · have hlength := (run.picked_sublist (step + 1) records).length_le
      have hne : run.picked (step + 1) records ≠ record :: records := by
        intro heq
        rw [heq, List.length_cons] at hlength
        omega
      simp [hinserted, hne]

end MigrationRun

namespace HistoryDisk

variable {dates : IsoDates} {disk : HistoryDisk} {run : MigrationRun}

theorem migrateJsonIfNeeded_of_marked (hmarked : disk.marked = true) :
    disk.migrateJsonIfNeeded dates run = disk := if_pos hmarked

/-- A run inserts some of the records behind the rows there are. -/
theorem rows_migrateJsonIfNeeded (dates : IsoDates) (run : MigrationRun)
    (hmarked : disk.marked = false) :
    (disk.migrateJsonIfNeeded dates run).table.rows.map HistoryRow.values =
      disk.table.rows.map HistoryRow.values ++
        (run.picked 0 (disk.file.loadJson dates)).map MeetingRecord.values := by
  unfold migrateJsonIfNeeded
  rw [if_neg (by simp [hmarked])]
  exact (MigrationRun.importRecords_spec 0 _ disk.table 0).1

theorem marked_migrateJsonIfNeeded (dates : IsoDates) (run : MigrationRun)
    (hmarked : disk.marked = false) :
    (disk.migrateJsonIfNeeded dates run).marked =
      run.marked (disk.file.loadJson dates).length := by
  unfold migrateJsonIfNeeded
  rw [if_neg (by simp [hmarked])]

/-- The file is renamed only if a record has been inserted. -/
theorem file_migrateJsonIfNeeded (dates : IsoDates) (run : MigrationRun)
    (hmarked : disk.marked = false) :
    (disk.migrateJsonIfNeeded dates run).file =
      if run.picked 0 (disk.file.loadJson dates) ≠ [] ∧
        run.renamed (disk.file.loadJson dates).length disk.backup = true then none
      else disk.file := by
  unfold migrateJsonIfNeeded
  rw [if_neg (by simp [hmarked])]
  dsimp only
  rw [(MigrationRun.importRecords_spec 0 _ disk.table 0).2, Nat.zero_add]
  simp only [Bool.and_eq_true, decide_eq_true_eq, List.length_pos_iff]

/-- Runs without failures: the first one does all there is to do. -/
theorem iterate_clean (n : ℕ) :
    (migrateJsonIfNeeded dates .clean)^[n + 1] disk = disk.migrateJsonIfNeeded dates .clean := by
  rw [Function.iterate_succ_apply]
  refine Function.iterate_fixed ?_ n
  cases hmarked : disk.marked with
  | true => rw [migrateJsonIfNeeded_of_marked hmarked, migrateJsonIfNeeded_of_marked hmarked]
  | false => exact migrateJsonIfNeeded_of_marked (marked_migrateJsonIfNeeded _ _ hmarked)

theorem picked_clean {records : List MeetingRecord}
    (htimes : ∀ record ∈ records, record.startedAt.isSome = true) :
    MigrationRun.clean.picked 0 records = records :=
  (MigrationRun.picked_eq_self_iff 0 htimes).mpr fun _ _ => rfl

/-- A run without failures marks the migration as done. -/
theorem marked_clean (disk : HistoryDisk) :
    (disk.migrateJsonIfNeeded dates .clean).marked = true := by
  cases hmarked : disk.marked with
  | true => rw [migrateJsonIfNeeded_of_marked hmarked, hmarked]
  | false => rw [marked_migrateJsonIfNeeded _ _ hmarked]; rfl

/-- A run without failures after another run inserts all it can again, unless the mark
is set or the file is renamed. -/
theorem rows_clean (hmarked : disk.marked = false) {records : List MeetingRecord}
    (hrecords : disk.file.loadJson dates = records) :
    ((disk.migrateJsonIfNeeded dates run).migrateJsonIfNeeded dates .clean).table.rows.map
        HistoryRow.values =
      disk.table.rows.map HistoryRow.values ++
        (run.picked 0 records ++
          if run.marked records.length = true ∨
            run.picked 0 records ≠ [] ∧ run.renamed records.length disk.backup = true then []
          else MigrationRun.clean.picked 0 records).map MeetingRecord.values := by
  subst hrecords
  have hrows := rows_migrateJsonIfNeeded dates run hmarked
  have hmarkedafter := marked_migrateJsonIfNeeded dates run hmarked
  have hfile := file_migrateJsonIfNeeded dates run hmarked
  cases hdone : run.marked (disk.file.loadJson dates).length with
  | true =>
    rw [migrateJsonIfNeeded_of_marked (hmarkedafter.trans hdone), hrows, if_pos (Or.inl rfl),
      List.append_nil]
  | false =>
    rw [rows_migrateJsonIfNeeded dates .clean (hmarkedafter.trans hdone), hrows, hfile,
      List.append_assoc, List.map_append]
    split_ifs with hrenamed hagain hagain
    · rfl
    · exact absurd (Or.inr hrenamed) hagain
    · rcases hagain with hagain | hagain
      · cases hagain
      · exact absurd hagain hrenamed
    · rfl

end HistoryDisk

/-- What is inserted are the records, or they are inserted again after nothing was. -/
theorem MigrationRun.safe_iff (run : MigrationRun) {records : List MeetingRecord} (backup : Bool)
    (htimes : ∀ record ∈ records, record.startedAt.isSome = true) :
    run.Safe records backup ↔
      (run.picked 0 records ++
        if run.marked records.length = true ∨
          run.picked 0 records ≠ [] ∧ run.renamed records.length backup = true then []
        else records).length = records.length := by
  have hnone := run.picked_eq_nil_iff 0 htimes
  have hall := run.picked_eq_self_iff 0 htimes
  have hsublist := run.picked_sublist 0 records
  simp only [Nat.zero_add] at hnone hall
  have hlength : (run.picked 0 records).length = records.length ↔
      run.picked 0 records = records := by
    constructor
    · exact hsublist.eq_of_length
    · intro heq
      rw [heq]
  unfold Safe
  rw [and_iff_right htimes, ← hnone, ← hall, List.length_append]
  split_ifs with hdone
  · -- the migration is over: all the records have to be in
    rw [List.length_nil, Nat.add_zero, hlength]
    constructor
    · rintro (⟨hnothing, hunmarked⟩ | ⟨heverything, _⟩)
      · rcases hdone with hmarked | ⟨hsome, _⟩
        · rw [hmarked] at hunmarked
          cases hunmarked
        · exact absurd hnothing hsome
      · exact heverything
    · intro heverything
      exact Or.inr ⟨heverything, hdone.imp_right And.right⟩
  · -- the next run inserts all of them
    rw [not_or, not_and, Bool.not_eq_true] at hdone
    rw [Nat.add_eq_right, List.length_eq_zero_iff]
    constructor
    · rintro (⟨hnothing, _⟩ | ⟨heverything, hmarked | hrenamed⟩)
      · exact hnothing
      · rw [hdone.1] at hmarked
        cases hmarked
      · by_contra hsome
        exact hdone.2 hsome hrenamed
    · intro hnothing
      exact Or.inl ⟨hnothing, hdone.1⟩

open HistoryDisk

/-- What is inserted has a text for its time, so that a record without a time is
missing in the end. -/
theorem not_perm_of_timeless {picked records : List MeetingRecord} {record : MeetingRecord}
    (hpicked : ∀ record ∈ picked, record.startedAt.isSome = true) (hmem : record ∈ records)
    (hnone : record.startedAt = none) :
    ¬(picked.map MeetingRecord.values).Perm (records.map MeetingRecord.values) := by
  intro hperm
  have hvalues := hperm.mem_iff.mpr (List.mem_map_of_mem hmem)
  rcases List.mem_map.mp hvalues with ⟨other, hother, heq⟩
  rcases Option.isSome_iff_exists.mp (hpicked other hother) with ⟨t, ht⟩
  have htext : DateTime.isoText other.startedAt = DateTime.isoText record.startedAt :=
    congrArg (fun values => values.2.2.1) heq
  rw [ht, hnone] at htext
  have hlength := congrArg List.length htext
  simp [DateTime.isoText, DateTime.isoDate] at hlength

/-- After one run of any kind and any number of runs without failures every record of
the file has been inserted once if and only if the first run was safe. -/
theorem history_migration (dates : IsoDates) (disk : HistoryDisk) (hmarked : disk.marked = false)
    (run : MigrationRun) (n : ℕ) :
    disk.Migrated dates
        ((migrateJsonIfNeeded dates .clean)^[n + 1] (disk.migrateJsonIfNeeded dates run)) ↔
      run.Safe (disk.file.loadJson dates) disk.backup := by
  have hsublist := run.picked_sublist 0 (disk.file.loadJson dates)
  rw [iterate_clean]
  unfold Migrated
  rw [rows_clean hmarked rfl, marked_clean, List.perm_append_left_iff]
  simp only [Bool.true_eq_false, false_and, and_false, or_false]
  by_cases htimes : ∀ record ∈ disk.file.loadJson dates, record.startedAt.isSome = true
  · rw [run.safe_iff disk.backup htimes, picked_clean htimes]
    constructor
    · intro hperm
      have := hperm.length_eq
      rwa [List.length_map, List.length_map] at this
    · intro hlength
      refine List.Perm.map _ ?_
      split_ifs at hlength ⊢
      · rw [List.append_nil] at hlength ⊢
        rw [hsublist.eq_of_length hlength]
      · rw [List.length_append, Nat.add_eq_right, List.length_eq_zero_iff] at hlength
        rw [hlength, List.nil_append]
  · constructor
    · intro hperm
      push Not at htimes
      rcases htimes with ⟨record, hmem, hnone⟩
      refine absurd hperm (not_perm_of_timeless ?_ hmem (by simpa using hnone))
      intro other hother
      rcases List.mem_append.mp hother with hother | hother
      · exact MigrationRun.isSome_of_mem_picked hother
      · split_ifs at hother
        · cases hother
        · exact MigrationRun.isSome_of_mem_picked hother
    · intro hsafe
      exact absurd hsafe.1 htimes

namespace HistoryDisk

/-- A file with two meetings, which has not been migrated. -/
def twoMeetings : HistoryDisk where
  file := HistoryFile.saveJson
    [{ kind := .joined, roomNo := 7, startedAt := some (.mayDay 30 0 0),
       durationMs := 3600000 },
      { kind := .created, roomNo := 1, startedAt := some (.mayDay 0 0 0),
        durationMs := 125000 }]
  backup := false
  table := {}
  marked := false

end HistoryDisk

/-- The process stops before the mark, and the file is renamed already. -/
theorem history_migration_of_stop :
    twoMeetings.Migrated .reference
      ((migrateJsonIfNeeded .reference .clean)^[1]
        (twoMeetings.migrateJsonIfNeeded .reference
          { MigrationRun.clean with stop := some 3 })) := by
  have hsafe : ({ MigrationRun.clean with stop := some 3 } : MigrationRun).Safe
      (twoMeetings.file.loadJson .reference) twoMeetings.backup := by
    decide +kernel
  exact (history_migration .reference twoMeetings rfl _ 0).mpr hsafe

/-- One INSERT fails, and the record is lost. -/
theorem record_lost :
    ¬∀ (disk : HistoryDisk) (run : MigrationRun) (n : ℕ), disk.marked = false →
      disk.Migrated .reference
        ((migrateJsonIfNeeded .reference .clean)^[n + 1]
          (disk.migrateJsonIfNeeded .reference run)) := by
  intro hall
  rcases hall twoMeetings { MigrationRun.clean with inserts := fun step => step = 0 } 0 rfl with
    hperm | ⟨_, hunmarked, _⟩
  · have hlength := hperm.length_eq
    revert hlength
    decide +kernel
  · revert hunmarked
    decide +kernel

end CCMeeting
