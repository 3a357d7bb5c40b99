import Mathlib.Data.List.Perm.Basic
import CCMeeting.Client.History
import CCMeeting.Lib.Transition

/-! # The two ways of keeping the history

Both ways of `MeetingHistory` against a book of the meetings: the list of the records
in the order in which they were appended. The book knows which record was appended
last; the file and the table only know the times.
-/

namespace CCMeeting

open ByteString Transition

/-! ## The book -/

/-- The records, the one appended last in front. -/
abbrev MeetingBook := List MeetingRecord

namespace MeetingBook

/-- The records in the order in which they are shown. -/
def load (book : MeetingBook) : List MeetingRecord := Newest.sort MeetingRecord.rank book

/-- A meeting begins; of more than `kMaxRecords` records the newest are kept. -/
def append (book : MeetingBook) (record : MeetingRecord) : MeetingBook :=
  (record :: book).filter fun r => r ∈ (load (record :: book)).take kMaxRecords

/-- The open record appended last is over. -/
def finish (book : MeetingBook) (durationMs : Int64) : MeetingBook :=
  Newest.modifyFirst (·.isOpen) (·.finish durationMs) book

/-- The record shown at an index is taken out. -/
def removeAt (book : MeetingBook) (index : ℕ) : MeetingBook :=
  match book.load[index]? with
  | some record => book.erase record
  | none => book

end MeetingBook

/-! ## The two histories and their calls -/

/-- A history in a file, one in a table, and the book as a history variable. -/
structure Histories where
  file : HistoryFile
  table : HistoryTable
  book : MeetingBook

/-- The record of a meeting that begins now, as it is read back. -/
def begun (kind : MeetingRecordKind) (roomNo : Int32) (now : DateTime) : MeetingRecord where
  kind := kind
  roomNo := roomNo
  startedAt := some now.wholeSecond
  isOpen := true

namespace Histories

/-- The calls that change something. -/
inductive Call where
  | append (kind : MeetingRecordKind) (roomNo : Int32) (now : DateTime)
  | finishOpenSession (durationMs : Int64)
  | removeAt (index : Int32)
  | clear

/-- Nothing has been appended yet. -/
def fresh : Histories where
  file := none
  table := {}
  book := []

/-- A call of both; the clock shows a time there is. -/
def next (sql : HistoryOrder) (dates : IsoDates) (s : Histories) : Call → Option Histories
  | .append kind roomNo now =>
    if now.Valid then
      some
        { file := s.file.append dates kind roomNo now
          table := s.table.append sql kind roomNo now
          book := s.book.append (begun kind roomNo now) }
    else none
  | .finishOpenSession durationMs =>
    some
      { file := s.file.finishOpenSession dates durationMs
        table := s.table.finishOpenSession sql durationMs
        book := s.book.finish durationMs }
  | .removeAt index =>
    some
      { file := (s.file.removeAt dates index).1
        table := (s.table.removeAt sql index).1
        book := if index < 0 then s.book else s.book.removeAt index.toInt.toNat }
  | .clear => some { file := HistoryFile.clear, table := s.table.clear, book := [] }

/-- The runs of the two histories. -/
def system (sql : HistoryOrder) (dates : IsoDates) : System Histories Call where
  Init s := s = fresh
  Step s e s' := s.next sql dates e = some s'

/-! ## The property and its condition -/

/-- Everything that is read is the same, and the records are those of the book. -/
structure Agrees (sql : HistoryOrder) (dates : IsoDates) (s : Histories) : Prop where
  load : s.file.loadJson dates = s.table.load sql dates
  recent : ∀ kind limit, s.file.recent dates kind limit = s.table.recent sql dates kind limit
  stats : ∀ weekStart, weekStart.msec = 0 → s.file.stats dates weekStart = s.table.stats weekStart
  length : (s.table.load sql dates).length ≤ kMaxRecords
  book : (s.table.load sql dates).Perm s.book

/-- What a call does to the records that both histories show. -/
def Performs (sql : HistoryOrder) (dates : IsoDates) (s : Histories) (e : Call) (s' : Histories) :
    Prop :=
  let before := s.table.load sql dates
  let after := s'.table.load sql dates
  match e with
  | .append kind roomNo now =>
    begun kind roomNo now ∈ after ∧
      (∀ r ∈ after, r = begun kind roomNo now ∨ r ∈ before) ∧
      ∀ r ∈ before, r ∉ after → after.length = kMaxRecords ∧ ∀ r' ∈ after, r.rank ≤ r'.rank
  | .finishOpenSession durationMs =>
    after =
      match s.book.find? (·.isOpen) with
      | some last => before.map fun r => if r = last then r.finish durationMs else r
      | none => before
  | .removeAt index =>
    (s.file.removeAt dates index).2 = (s.table.removeAt sql index).2 ∧
      if 0 ≤ index ∧ index.toInt.toNat < before.length then
        (s.table.removeAt sql index).2 = true ∧ after = before.eraseIdx index.toInt.toNat
      else (s.table.removeAt sql index).2 = false ∧ after = before
  | .clear => after = []

/-- The condition on the clock and the durations: no record has the time of a new one,
and a new one is not older than all of a full history; the open record appended last
is the one that began last, and a double can hold the duration. -/
def keeps (s : Histories) : Call → Prop
  | .append kind roomNo now =>
    (∀ r ∈ s.book, r.rank ≠ (begun kind roomNo now).rank) ∧
      ∀ r ∈ s.book.load.drop (kMaxRecords - 1), r.rank < (begun kind roomNo now).rank
  | .finishOpenSession durationMs =>
    ∀ last ∈ s.book.find? (·.isOpen),
      (∀ r ∈ s.book, r.isOpen = true → r.rank ≤ last.rank) ∧ durationMs.toInt.natAbs ≤ 2 ^ 53
  | .removeAt _ | .clear => True

instance (s : Histories) : ∀ e, Decidable (s.keeps e)
  | .append .. => inferInstanceAs (Decidable (_ ∧ _))
  | .finishOpenSession durationMs =>
    inferInstanceAs (Decidable (∀ last ∈ s.book.find? (·.isOpen),
      (∀ r ∈ s.book, r.isOpen = true → r.rank ≤ last.rank) ∧ durationMs.toInt.natAbs ≤ 2 ^ 53))
  | .removeAt _ | .clear => inferInstanceAs (Decidable True)

end Histories

/-! ## Rows and their records -/

/-- A row as `MeetingHistory` writes it. -/
structure HistoryRow.Written (row : HistoryRow) : Prop where
  startedAt : ∃ t : DateTime, t.Valid ∧ row.startedAt = t.isoDate
  kind : ∃ kind : MeetingRecordKind, row.kind = kind.toInt

theorem HistoryRow.Written.before_iff {a b : HistoryRow} (ha : a.Written) (hb : b.Written)
    (dates : IsoDates) :
    before a.startedAt b.startedAt = true ↔ (a.record dates).rank < (b.record dates).rank := by
  rcases ha.startedAt with ⟨t, ht, hta⟩
  rcases hb.startedAt with ⟨u, hu, hub⟩
  unfold HistoryRow.record MeetingRecord.rank
  rw [hta, hub, dates.fromString_isoDate t ht, dates.fromString_isoDate u hu,
    DateTime.orders_isoDate.before_iff, DateTime.rank_wholeSecond, DateTime.rank_wholeSecond]
  omega

/-- Where no two records have one time, SQL leaves no choice. -/
theorem map_orderBy (sql : HistoryOrder) {dates : IsoDates} (statement : HistoryStatement)
    {rows : List HistoryRow} (hrows : ∀ row ∈ rows, row.Written)
    (hd : Newest.Distinct MeetingRecord.rank (rows.map (HistoryRow.record dates))) :
    (sql.orderBy statement rows).map (HistoryRow.record dates) =
      Newest.sort MeetingRecord.rank (rows.map (HistoryRow.record dates)) := by
  have hperm := (sql.perm statement rows).map (HistoryRow.record dates)
  refine Newest.Strict.eq_sort ?_ hperm
  refine (hd.perm hperm.symm).strict ?_
  refine List.pairwise_map.mpr ?_
  refine List.Pairwise.imp_of_mem ?_ (sql.sorted statement rows)
  intro a b ha hb hnot
  have hiff := (hrows a ((sql.perm statement rows).mem_iff.mp ha)).before_iff
    (hrows b ((sql.perm statement rows).mem_iff.mp hb)) dates
  rw [hnot] at hiff
  have := hiff.mpr.mt (by simp)
  omega

/-- The table holds the records of the book. -/
structure HistoryTable.Holds (dates : IsoDates) (table : HistoryTable) (book : MeetingBook) :
    Prop where
  written : ∀ row ∈ table.rows, row.Written
  ids : (table.rows.map HistoryRow.id).Nodup
  nextId : ∀ row ∈ table.rows, row.id < table.nextId
  perm : (table.rows.map (HistoryRow.record dates)).Perm book

namespace HistoryTable

variable {sql : HistoryOrder} {dates : IsoDates} {table : HistoryTable} {book : MeetingBook}

theorem Holds.load_eq (ht : table.Holds dates book) (hd : Newest.Distinct MeetingRecord.rank book)
    (sql : HistoryOrder) :
    table.load sql dates = book.load := by
  have hrows := hd.perm ht.perm.symm
  unfold load
  rw [map_orderBy sql .load ht.written hrows]
  exact hrows.sort_eq_of_perm ht.perm

/-- Rows of the table with one record are one row. -/
theorem Holds.id_eq_iff (ht : table.Holds dates book)
    (hd : Newest.Distinct MeetingRecord.rank book) {row row' : HistoryRow} (hrow : row ∈ table.rows)
    (hrow' : row' ∈ table.rows) : row.id = row'.id ↔ row.record dates = row'.record dates := by
  constructor
  · intro heq
    rw [List.inj_on_of_nodup_map ht.ids hrow hrow' heq]
  · intro heq
    rw [List.inj_on_of_nodup_map (hd.perm ht.perm.symm).nodup hrow hrow' heq]

/-- The records of the rows with a property of their records, in order. -/
theorem Holds.map_orderBy_filter (ht : table.Holds dates book)
    (hd : Newest.Distinct MeetingRecord.rank book) (sql : HistoryOrder)
    (statement : HistoryStatement) {p : HistoryRow → Bool} {q : MeetingRecord → Bool}
    (hp : ∀ row ∈ table.rows, p row = q (row.record dates)) :
    (sql.orderBy statement (table.rows.filter p)).map (HistoryRow.record dates) =
      book.load.filter q := by
  have hfilter : (table.rows.filter p).map (HistoryRow.record dates) =
      (table.rows.map (HistoryRow.record dates)).filter q := by
    rw [List.filter_map]
    congr 1
    exact List.filter_congr hp
  have hrows := hd.perm ht.perm.symm
  rw [map_orderBy sql statement]
  · rw [hfilter, ← hrows.filter_sort q, hrows.sort_eq_of_perm ht.perm]
    rfl
  · intro row hrow
    exact ht.written row (List.mem_filter.mp hrow).1
  · rw [hfilter]
    exact List.Pairwise.filter q hrows

theorem Holds.clear (table : HistoryTable) : table.clear.Holds dates [] := by
  constructor
  · intro row hrow
    cases hrow
  · exact List.nodup_nil
  · intro row hrow
    cases hrow
  · exact List.Perm.nil

theorem Holds.insert (ht : table.Holds dates book) (kind : MeetingRecordKind) (roomNo : Int32)
    {now : DateTime} (hnow : now.Valid) :
    (table.insert kind.toInt roomNo now.isoDate 0 true).Holds dates
      (begun kind roomNo now :: book) := by
  constructor
  · intro row hrow
    rcases List.mem_append.mp hrow with hrow | hrow
    · exact ht.written row hrow
    · rw [List.mem_singleton.mp hrow]
      exact ⟨⟨now, hnow, rfl⟩, ⟨kind, rfl⟩⟩
  · unfold HistoryTable.insert
    rw [List.map_append]
    refine List.nodup_append.mpr ⟨ht.ids, List.nodup_singleton _, ?_⟩
    intro id hid id' hid'
    rcases List.mem_map.mp hid with ⟨row, hrow, rfl⟩
    rw [List.mem_singleton.mp hid']
    exact Nat.ne_of_lt (ht.nextId row hrow)
  · intro row hrow
    rcases List.mem_append.mp hrow with hrow | hrow
    · exact Nat.lt_succ_of_lt (ht.nextId row hrow)
    · rw [List.mem_singleton.mp hrow]
      exact Nat.lt_succ_self _
  · unfold HistoryTable.insert
    rw [List.map_append]
    have hnew : HistoryRow.record dates
        { id := table.nextId, kind := kind.toInt, roomNo, startedAt := now.isoDate,
          durationMs := 0, isOpen := true } = begun kind roomNo now := by
      unfold HistoryRow.record begun
      rw [MeetingRecordKind.ofInt_toInt, dates.fromString_isoDate now hnow]
    rw [List.map_singleton, hnew]
    exact (List.perm_append_comm).trans (ht.perm.cons _)

/-- Some of the rows, with the records of another book. -/
theorem Holds.filter (ht : table.Holds dates book) (p : HistoryRow → Bool) {book' : MeetingBook}
    (hperm : ((table.rows.filter p).map (HistoryRow.record dates)).Perm book') :
    ({ table with rows := table.rows.filter p } : HistoryTable).Holds dates book' := by
  constructor
  · intro row hrow
    exact ht.written row (List.mem_filter.mp hrow).1
  · exact ht.ids.sublist (List.filter_sublist.map _)
  · intro row hrow
    exact ht.nextId row (List.mem_filter.mp hrow).1
  · exact hperm

/-- What is kept of a table are the newest records. -/
theorem Holds.trim (ht : table.Holds dates book) (hd : Newest.Distinct MeetingRecord.rank book) :
    (table.trim sql).Holds dates (book.filter fun r => r ∈ book.load.take kMaxRecords) := by
  refine ht.filter _ ?_
  have hids := (((sql.perm .trim table.rows).map HistoryRow.id).nodup_iff).mpr ht.ids
  have hkept := Newest.filter_mem_take hids kMaxRecords
  have hrecords := map_orderBy sql .trim ht.written (hd.perm ht.perm.symm)
  rw [(hd.perm ht.perm.symm).sort_eq_of_perm ht.perm] at hrecords
  have hbook := Newest.filter_mem_take (show (book.load.map id).Nodup by
    rw [List.map_id]; exact hd.sort_strict.distinct.nodup) kMaxRecords
  simp only [id_eq, List.map_id] at hbook
  calc ((table.rows.filter fun row =>
          row.id ∈ ((sql.orderBy .trim table.rows).take kMaxRecords).map HistoryRow.id).map
            (HistoryRow.record dates)).Perm
        (((sql.orderBy .trim table.rows).take kMaxRecords).map (HistoryRow.record dates)) := by
          have hsame := ((sql.perm .trim table.rows).symm.filter fun row =>
            row.id ∈ ((sql.orderBy .trim table.rows).take kMaxRecords).map HistoryRow.id).map
              (HistoryRow.record dates)
          rw [hkept] at hsame
          exact hsame
    _ = book.load.take kMaxRecords := by
          rw [List.map_take, hrecords]
          rfl
    _ = book.load.filter fun r => r ∈ book.load.take kMaxRecords := hbook.symm
    (book.load.filter fun r => r ∈ book.load.take kMaxRecords).Perm _ :=
          (Newest.sort_perm book).filter _

/-- One row is finished. -/
theorem Holds.finishRow (ht : table.Holds dates book)
    (hd : Newest.Distinct MeetingRecord.rank book) {last : HistoryRow} (hlast : last ∈ table.rows)
    (durationMs : Int64) :
    ({ table with
      rows := table.rows.map fun row =>
        if row.id = last.id then row.finish durationMs else row } : HistoryTable).Holds dates
      (book.map fun r => if r = last.record dates then r.finish durationMs else r) := by
  have hid : ∀ row : HistoryRow,
      (if row.id = last.id then row.finish durationMs else row).id = row.id := by
    intro row
    split_ifs <;> rfl
  constructor
  · intro finished hfinished
    rcases List.mem_map.mp hfinished with ⟨row, hrow, rfl⟩
    have hwritten := ht.written row hrow
    split_ifs
    · exact ⟨hwritten.startedAt, hwritten.kind⟩
    · exact hwritten
  · have hids : (table.rows.map fun row =>
        if row.id = last.id then row.finish durationMs else row).map HistoryRow.id =
          table.rows.map HistoryRow.id := by
      rw [List.map_map]
      exact List.map_congr_left fun row _ => hid row
    rw [hids]
    exact ht.ids
  · intro finished hfinished
    rcases List.mem_map.mp hfinished with ⟨row, hrow, rfl⟩
    rw [hid row]
    exact ht.nextId row hrow
  · have hmap : (table.rows.map fun row =>
          if row.id = last.id then row.finish durationMs else row).map (HistoryRow.record dates) =
        (table.rows.map (HistoryRow.record dates)).map fun r =>
          if r = last.record dates then r.finish durationMs else r := by
      rw [List.map_map, List.map_map]
      refine List.map_congr_left ?_
      intro row hrow
      have hiff := ht.id_eq_iff hd hrow hlast
      show HistoryRow.record dates (if row.id = last.id then _ else row) =
        if row.record dates = last.record dates then _ else row.record dates
      by_cases heq : row.id = last.id
      · rw [if_pos heq, if_pos (hiff.mp heq)]
        rfl
      · rw [if_neg heq, if_neg fun h => heq (hiff.mpr h)]
    rw [hmap]
    exact ht.perm.map _

/-- The row that is finished is that of the open record that began last. -/
theorem Holds.finish (ht : table.Holds dates book) (hd : Newest.Distinct MeetingRecord.rank book)
    (hlast : book.load.find? (·.isOpen) = book.find? (·.isOpen)) (durationMs : Int64) :
    (table.finishOpenSession sql durationMs).Holds dates (book.finish durationMs) := by
  have hopen := ht.map_orderBy_filter hd sql .finishOpenSession (p := (·.isOpen))
    (q := (·.isOpen)) fun _ _ => rfl
  have hhead : (sql.orderBy .finishOpenSession (table.rows.filter (·.isOpen))).head?.map
      (HistoryRow.record dates) = book.find? (·.isOpen) := by
    rw [← List.head?_map, hopen, List.head?_filter, hlast]
  unfold finishOpenSession MeetingBook.finish
  cases hrow : (sql.orderBy .finishOpenSession (table.rows.filter (·.isOpen))).head? with
  | none =>
    rw [hrow] at hhead
    rw [Newest.modifyFirst_of_none hhead.symm]
    exact ht
  | some last =>
    rw [hrow] at hhead
    have hmem : last ∈ table.rows := by
      have hmem := (sql.perm _ _).mem_iff.mp (List.mem_of_head? hrow)
      exact (List.mem_filter.mp hmem).1
    rw [Newest.modifyFirst_of_some hd.nodup hhead.symm]
    exact ht.finishRow hd hmem durationMs

/-- The row that is taken out is that of the record shown at the index. -/
theorem Holds.removeAt (ht : table.Holds dates book) (hd : Newest.Distinct MeetingRecord.rank book)
    (sql : HistoryOrder) {index : Int32} (hindex : ¬index < 0) :
    (table.removeAt sql index).1.Holds dates (book.removeAt index.toInt.toNat) ∧
      ((table.removeAt sql index).2 = true ↔ index.toInt.toNat < book.length) := by
  have hordered := map_orderBy sql .removeAt ht.written (hd.perm ht.perm.symm)
  rw [(hd.perm ht.perm.symm).sort_eq_of_perm ht.perm] at hordered
  have hfound : (sql.orderBy .removeAt table.rows)[index.toInt.toNat]?.map
      (HistoryRow.record dates) = book.load[index.toInt.toNat]? := by
    rw [← List.getElem?_map, hordered]
    rfl
  unfold HistoryTable.removeAt MeetingBook.removeAt
  rw [if_neg hindex]
  cases hrow : (sql.orderBy .removeAt table.rows)[index.toInt.toNat]? with
  | none =>
    rw [hrow] at hfound
    rw [← hfound]
    have hlength := List.getElem?_eq_none_iff.mp hfound.symm
    unfold MeetingBook.load at hlength
    rw [Newest.length_sort] at hlength
    refine ⟨ht, ?_⟩
    simp only [Bool.false_eq_true, false_iff, not_lt]
    exact hlength
  | some found =>
    rw [hrow] at hfound
    rw [← hfound]
    have hmem : found ∈ table.rows :=
      (sql.perm _ _).mem_iff.mp (List.mem_of_getElem? hrow)
    rcases List.getElem?_eq_some_iff.mp hfound.symm with ⟨hlength, _⟩
    unfold MeetingBook.load at hlength
    rw [Newest.length_sort] at hlength
    refine ⟨ht.filter _ ?_, by simp only [true_iff]; exact hlength⟩
    have hfilter : (table.rows.filter (·.id ≠ found.id)).map (HistoryRow.record dates) =
        (table.rows.map (HistoryRow.record dates)).filter (· != found.record dates) := by
      rw [List.filter_map]
      congr 1
      refine List.filter_congr ?_
      intro row hrow
      have hiff := ht.id_eq_iff hd hrow hmem
      simp only [Function.comp_apply, ne_eq, hiff, bne, beq_eq_decide, decide_not]
    rw [hfilter]
    simp only [Option.map_some]
    rw [hd.nodup.erase_eq_filter]
    exact ht.perm.filter _

end HistoryTable

/-! ## The book and the file -/

namespace MeetingBook

variable {book : MeetingBook} {r : MeetingRecord}

/-- What is shown after a meeting has begun. -/
theorem load_append (hd : Newest.Distinct MeetingRecord.rank (r :: book)) :
    (book.append r).load = (load (r :: book)).take kMaxRecords := by
  have hkept := Newest.filter_mem_take (show ((load (r :: book)).map id).Nodup by
    rw [List.map_id]; exact hd.sort_strict.distinct.nodup) kMaxRecords
  simp only [id_eq, List.map_id] at hkept
  rw [← hkept]
  exact (hd.filter_sort fun x => x ∈ (load (r :: book)).take kMaxRecords).symm

/-- What is shown after an open record is over. -/
theorem load_finish (hd : Newest.Distinct MeetingRecord.rank book) (durationMs : Int64) :
    (book.finish durationMs).load =
      match book.find? (·.isOpen) with
      | some last => book.load.map fun x => if x = last then x.finish durationMs else x
      | none => book.load := by
  unfold finish
  cases hlast : book.find? (·.isOpen) with
  | none => rw [Newest.modifyFirst_of_none hlast]
  | some last =>
    rw [Newest.modifyFirst_of_some hd.nodup hlast]
    have hrank : ∀ x : MeetingRecord, (if x = last then x.finish durationMs else x).rank = x.rank := by
      intro x
      split_ifs <;> rfl
    refine (Newest.Strict.eq_sort ?_ ((Newest.sort_perm book).map _)).symm
    refine List.pairwise_map.mpr (List.Pairwise.imp ?_ hd.sort_strict)
    intro a b hlt
    rw [hrank a, hrank b]
    exact hlt

/-- What is shown after a record has been taken out. -/
theorem load_removeAt (hd : Newest.Distinct MeetingRecord.rank book) (index : ℕ) :
    (book.removeAt index).load = book.load.eraseIdx index := by
  unfold removeAt
  cases hfound : book.load[index]? with
  | none => rw [List.eraseIdx_of_length_le (List.getElem?_eq_none_iff.mp hfound)]
  | some found =>
    rcases List.getElem?_eq_some_iff.mp hfound with ⟨hindex, hget⟩
    refine (Newest.Strict.eq_sort ?_ ?_).symm
    · exact List.Pairwise.sublist (List.eraseIdx_sublist ..) hd.sort_strict
    · have herased := List.erase_getElem hindex
      rw [hget] at herased
      exact herased.symm.trans ((Newest.sort_perm book).erase found)

theorem append_sublist (book : MeetingBook) (r : MeetingRecord) :
    (book.append r).Sublist (r :: book) := List.filter_sublist

theorem removeAt_sublist (index : ℕ) : (book.removeAt index).Sublist book := by
  unfold removeAt
  split
  · exact List.erase_sublist
  · exact List.Sublist.refl book

theorem length_append_le (hd : Newest.Distinct MeetingRecord.rank (r :: book)) :
    (book.append r).length ≤ kMaxRecords := by
  have hlength : (book.append r).load.length = (book.append r).length := Newest.length_sort
  rw [← hlength, load_append hd]
  exact List.length_take_le ..

/-- Finishing changes neither the times nor their number. -/
theorem map_rank_finish (book : MeetingBook) (durationMs : Int64) :
    (book.finish durationMs).map MeetingRecord.rank = book.map MeetingRecord.rank := by
  unfold finish
  induction book with
  | nil => rfl
  | cons r book ih =>
    unfold Newest.modifyFirst
    split_ifs
    · rfl
    · rw [List.map_cons, List.map_cons, ih]

theorem distinct_finish (hd : Newest.Distinct MeetingRecord.rank book) (durationMs : Int64) :
    Newest.Distinct MeetingRecord.rank (book.finish durationMs) := by
  have hmap := List.pairwise_map.mpr hd
  rw [← map_rank_finish book durationMs] at hmap
  exact List.pairwise_map.mp hmap

theorem length_finish (book : MeetingBook) (durationMs : Int64) :
    (book.finish durationMs).length = book.length := by
  have := congrArg List.length (map_rank_finish book durationMs)
  rwa [List.length_map, List.length_map] at this

/-- The records of a book stay exact. -/
theorem exact_finish (hexact : ∀ r ∈ book, r.Exact) {durationMs : Int64}
    (hduration : (book.find? (·.isOpen)).isSome → durationMs.toInt.natAbs ≤ 2 ^ 53) :
    ∀ r ∈ book.finish durationMs, r.Exact := by
  unfold finish
  induction book with
  | nil =>
    intro r hr
    cases hr
  | cons r book ih =>
    have hfirst := hexact r List.mem_cons_self
    have hrest : ∀ r' ∈ book, r'.Exact := fun r' hr' => hexact r' (List.mem_cons_of_mem _ hr')
    rw [List.find?_cons] at hduration
    intro r' hr'
    unfold Newest.modifyFirst at hr'
    split_ifs at hr' with hopen
    · rw [hopen] at hduration
      rcases List.mem_cons.mp hr' with rfl | hr'
      · exact ⟨hfirst.startedAt, hduration rfl⟩
      · exact hrest r' hr'
    · rw [Bool.not_eq_true] at hopen
      rw [hopen] at hduration
      rcases List.mem_cons.mp hr' with rfl | hr'
      · exact hfirst
      · exact ih hrest hduration r' hr'

end MeetingBook

namespace HistoryFile

variable {dates : IsoDates} {file : HistoryFile} {book : MeetingBook}

/-- Records that a file can hold are read back as they are. -/
theorem loadJson_saveJson_of_exact {records : List MeetingRecord}
    (hexact : ∀ r ∈ records, r.Exact) :
    (saveJson records).loadJson dates =
      Newest.sort MeetingRecord.rank (records.take kMaxRecords) := by
  rw [loadJson_saveJson]
  congr 1
  refine (List.map_congr_left (g := id) ?_).trans (List.map_id _)
  intro r hr
  exact (hexact r (List.mem_of_mem_take hr)).stored_eq dates

/-- A book that a file can hold is read back as it was shown. -/
theorem loadJson_saveJson_load (hlength : book.length ≤ kMaxRecords)
    (hexact : ∀ r ∈ book, r.Exact) : (saveJson book.load).loadJson dates = book.load := by
  have hall : book.load.length ≤ kMaxRecords := Newest.length_sort.trans_le hlength
  have hexact' : ∀ r ∈ book.load, r.Exact := fun r hr => hexact r (Newest.mem_sort.mp hr)
  rw [loadJson_saveJson_of_exact hexact', List.take_of_length_le hall]
  exact Newest.sort_sort

theorem stored_begun (dates : IsoDates) (kind : MeetingRecordKind) (roomNo : Int32) {now : DateTime}
    (hnow : now.Valid) :
    MeetingRecord.stored dates { kind, roomNo, startedAt := some now, isOpen := true } =
      begun kind roomNo now := by
  unfold MeetingRecord.stored begun
  rw [show DateTime.isoText (some now) = now.isoDate from rfl, dates.fromString_isoDate now hnow,
    castInt64_roundInt (n := 0) (by decide)]

theorem loadJson_append (hfile : file.loadJson dates = book.load)
    (hexact : ∀ r ∈ book, r.Exact) (kind : MeetingRecordKind) (roomNo : Int32) {now : DateTime}
    (hnow : now.Valid)
    (hd : Newest.Distinct MeetingRecord.rank (begun kind roomNo now :: book))
    (hnew : ∀ r ∈ book.load.drop (kMaxRecords - 1), r.rank < (begun kind roomNo now).rank) :
    (file.append dates kind roomNo now).loadJson dates =
      (book.append (begun kind roomNo now)).load := by
  have hkept : ((book.load.take (kMaxRecords - 1)).map (MeetingRecord.stored dates)) =
      book.load.take (kMaxRecords - 1) := by
    refine (List.map_congr_left (g := id) ?_).trans (List.map_id _)
    intro r hr
    exact (hexact r (Newest.mem_sort.mp (List.mem_of_mem_take hr))).stored_eq dates
  unfold append
  rw [loadJson_saveJson, hfile, MeetingBook.load_append hd]
  rw [show kMaxRecords = kMaxRecords - 1 + 1 from rfl, List.take_succ_cons, List.map_cons,
    stored_begun dates kind roomNo hnow, hkept]
  exact hd.sort_cons_take hnew

theorem loadJson_finishOpenSession (hfile : file.loadJson dates = book.load)
    (hd : Newest.Distinct MeetingRecord.rank book) {durationMs : Int64}
    (hlength : (book.finish durationMs).length ≤ kMaxRecords)
    (hlast : book.load.find? (·.isOpen) = book.find? (·.isOpen))
    (hexact : ∀ r ∈ book.finish durationMs, r.Exact) :
    (file.finishOpenSession dates durationMs).loadJson dates = (book.finish durationMs).load := by
  have hload := MeetingBook.load_finish hd durationMs
  unfold finishOpenSession
  rw [hfile]
  cases hfind : book.find? (·.isOpen) with
  | none =>
    rw [hfind] at hlast hload
    rw [if_neg, hfile, hload]
    rw [List.find?_eq_none] at hlast
    intro hany
    rcases List.any_eq_true.mp hany with ⟨r, hr, hopen⟩
    exact hlast r hr hopen
  | some last =>
    rw [hfind] at hlast hload
    have hnodup : book.load.Nodup := hd.sort_strict.distinct.nodup
    have hmodified : Newest.modifyFirst (·.isOpen) (·.finish durationMs) book.load =
        (book.finish durationMs).load := by
      rw [hload, Newest.modifyFirst_of_some hnodup hlast]
    have hany : book.load.any (·.isOpen) = true :=
      List.any_eq_true.mpr ⟨last, List.mem_of_find?_eq_some hlast, List.find?_some hlast⟩
    rw [if_pos hany, hmodified]
    exact loadJson_saveJson_load hlength hexact

theorem loadJson_removeAt (hfile : file.loadJson dates = book.load)
    (hd : Newest.Distinct MeetingRecord.rank book) (hlength : book.length ≤ kMaxRecords)
    (hexact : ∀ r ∈ book, r.Exact) {index : Int32} (hindex : ¬index < 0) :
    (file.removeAt dates index).1.loadJson dates = (book.removeAt index.toInt.toNat).load ∧
      ((file.removeAt dates index).2 = true ↔ index.toInt.toNat < book.length) := by
  have hload := MeetingBook.load_removeAt hd index.toInt.toNat
  have hall : book.load.length = book.length := Newest.length_sort
  have hsublist := book.removeAt_sublist index.toInt.toNat
  unfold removeAt
  rw [if_neg hindex, hfile]
  dsimp only
  split_ifs with hshort
  · rw [hload, List.eraseIdx_of_length_le hshort, hfile]
    refine ⟨rfl, ?_⟩
    simp only [false_iff, not_lt]
    exact hall ▸ hshort
  · rw [← hload]
    refine ⟨loadJson_saveJson_load (hsublist.length_le.trans hlength) ?_, ?_⟩
    · intro r hr
      exact hexact r (hsublist.subset hr)
    · simp only [true_iff]
      omega

end HistoryFile

/-! ## What is counted -/

/-- What both histories count, of records in any order. -/
def counted (weekStart : DateTime) (records : List MeetingRecord) : MeetingStats :=
  let week := records.filter fun r => DateTime.rank (some weekStart) ≤ r.rank
  { weekCount := week.length
    totalCount := records.length
    weekDurationMs := (week.map MeetingRecord.durationMs).foldl (· + ·) 0
    totalDurationMs := (records.map MeetingRecord.durationMs).foldl (· + ·) 0 }

theorem counted_perm (weekStart : DateTime) {records records' : List MeetingRecord}
    (h : records.Perm records') : counted weekStart records = counted weekStart records' := by
  have : RightCommutative fun a b : Int64 => a + b := by
    constructor
    intro a b c
    rw [Int64.add_assoc, Int64.add_comm b c, ← Int64.add_assoc]
  have hweek := h.filter fun r => DateTime.rank (some weekStart) ≤ r.rank
  unfold counted
  dsimp only
  rw [h.length_eq, hweek.length_eq, (h.map _).foldl_eq, (hweek.map _).foldl_eq]

/-- The loop of `stats` counts. -/
theorem HistoryFile.stats_eq (dates : IsoDates) (file : HistoryFile) (weekStart : DateTime) :
    file.stats dates weekStart = counted weekStart (file.loadJson dates) := by
  have hvalid : ∀ r : MeetingRecord,
      (r.startedAt ≠ none ∧ DateTime.rank (some weekStart) ≤ r.rank) ↔
        DateTime.rank (some weekStart) ≤ r.rank := by
    intro r
    refine and_iff_right_of_imp ?_
    intro hle hnone
    unfold MeetingRecord.rank at hle
    rw [hnone] at hle
    simp only [DateTime.rank] at hle
    omega
  have hloop : ∀ (records : List MeetingRecord) (result : MeetingStats),
      records.foldl
        (fun result record =>
          let result := { result with
            totalCount := result.totalCount + 1
            totalDurationMs := result.totalDurationMs + record.durationMs }
          if record.startedAt ≠ none ∧ DateTime.rank (some weekStart) ≤ record.rank then
            { result with
              weekCount := result.weekCount + 1
              weekDurationMs := result.weekDurationMs + record.durationMs }
          else result)
        result =
      { weekCount := result.weekCount +
          (records.filter fun r => DateTime.rank (some weekStart) ≤ r.rank).length
        totalCount := result.totalCount + records.length
        weekDurationMs :=
          ((records.filter fun r => DateTime.rank (some weekStart) ≤ r.rank).map
            MeetingRecord.durationMs).foldl (· + ·) result.weekDurationMs
        totalDurationMs :=
          (records.map MeetingRecord.durationMs).foldl (· + ·) result.totalDurationMs } := by
    intro records
    induction records with
    | nil =>
      intro result
      rfl
    | cons r records ih =>
      intro result
      rw [List.foldl_cons, ih]
      simp only [hvalid]
      by_cases hweek : DateTime.rank (some weekStart) ≤ r.rank
      · simp [hweek, Nat.add_assoc, Nat.add_comm 1]
      · simp [hweek, Nat.add_assoc, Nat.add_comm 1]
  unfold stats
  rw [hloop]
  simp only [Nat.zero_add]
  rfl

/-- A hundred durations that a double can hold do not overflow. -/
theorem sqlSum_eq {values : List Int64} (hlength : values.length ≤ kMaxRecords)
    (hvalues : ∀ v ∈ values, v.toInt.natAbs ≤ 2 ^ 53) :
    sqlSum values = some (values.foldl (· + ·) 0) := by
  have hloop : ∀ (values : List Int64) (sum : Int64),
      (∀ v ∈ values, v.toInt.natAbs ≤ 2 ^ 53) →
      sum.toInt.natAbs + values.length * 2 ^ 53 ≤ kMaxRecords * 2 ^ 53 →
      values.foldlM
        (fun sum value =>
          if -2 ^ 63 ≤ sum.toInt + value.toInt ∧ sum.toInt + value.toInt < 2 ^ 63 then
            some (sum + value)
          else none) sum = some (values.foldl (· + ·) sum) := by
    intro values
    induction values with
    | nil =>
      intro sum _ _
      rfl
    | cons v values ih =>
      intro sum hvalues hsum
      have hv := hvalues v List.mem_cons_self
      rw [List.length_cons] at hsum
      unfold kMaxRecords at hsum
      have hfits : -2 ^ 63 ≤ sum.toInt + v.toInt ∧ sum.toInt + v.toInt < 2 ^ 63 := by
        omega
      rw [List.foldlM_cons, if_pos hfits, List.foldl_cons]
      refine ih (sum + v) (fun v' hv' => hvalues v' (List.mem_cons_of_mem _ hv')) ?_
      rw [toInt_add_of_fits hfits]
      unfold kMaxRecords
      omega
  refine hloop values 0 hvalues ?_
  rw [show (0 : Int64).toInt.natAbs = 0 by decide, Nat.zero_add]
  exact Nat.mul_le_mul_right _ hlength

namespace HistoryTable

variable {dates : IsoDates} {table : HistoryTable} {book : MeetingBook}

/-- Both statements of `stats` count the records of the book. -/
theorem Holds.stats_eq (ht : table.Holds dates book) (hlength : book.length ≤ kMaxRecords)
    (hexact : ∀ r ∈ book, r.Exact) {weekStart : DateTime} (hweek : weekStart.msec = 0) :
    table.stats weekStart = counted weekStart book := by
  have hrows : (table.rows.map (HistoryRow.record dates)).length = table.rows.length :=
    List.length_map ..
  have hcount : ∀ p : HistoryRow → Bool, countAndSum (table.rows.filter p) =
      ((table.rows.filter p).length,
        ((table.rows.filter p).map HistoryRow.durationMs).foldl (· + ·) 0) := by
    intro p
    unfold countAndSum
    rw [sqlSum_eq]
    · rw [List.length_map]
      exact (List.length_filter_le ..).trans ((hrows ▸ ht.perm.length_eq).trans_le hlength)
    · intro v hv
      rcases List.mem_map.mp hv with ⟨row, hrow, rfl⟩
      have hmem := List.mem_map_of_mem (f := HistoryRow.record dates) (List.mem_filter.mp hrow).1
      exact (hexact _ (ht.perm.mem_iff.mp hmem)).durationMs
  have hin : ∀ row ∈ table.rows, (!before row.startedAt weekStart.isoDate) =
      decide (DateTime.rank (some weekStart) ≤ (row.record dates).rank) := by
    intro row hrow
    rcases (ht.written row hrow).startedAt with ⟨t, ht, hstarted⟩
    have hiff := DateTime.orders_isoDate.before_iff t weekStart
    unfold HistoryRow.record MeetingRecord.rank
    rw [hstarted, dates.fromString_isoDate t ht, DateTime.rank_wholeSecond]
    simp only [DateTime.rank, hweek]
    rw [Bool.eq_iff_iff, Bool.not_eq_true', decide_eq_true_eq, ← Bool.not_eq_true, hiff,
      show ((0 : Fin 1000) : ℕ) = 0 from rfl]
    omega
  rw [← counted_perm weekStart ht.perm]
  have htotal := hcount fun _ => true
  rw [List.filter_true] at htotal
  unfold stats counted
  rw [htotal, hcount, List.filter_congr hin, List.filter_map]
  dsimp only
  rw [List.map_map, List.map_map, List.length_map, List.length_map]
  rfl

theorem Holds.recent_eq {sql : HistoryOrder} (ht : table.Holds dates book)
    (hd : Newest.Distinct MeetingRecord.rank book) (hlength : book.length ≤ kMaxRecords)
    (kind : MeetingRecordKind) (limit : Int32) :
    table.recent sql dates kind limit =
      if 0 < limit then (book.load.filter fun r => r.kind = kind).take limit.toInt.toNat
      else book.load.filter fun r => r.kind = kind := by
  have hkind : ∀ row ∈ table.rows,
      decide (row.kind = kind.toInt) = decide ((row.record dates).kind = kind) := by
    intro row hrow
    rcases (ht.written row hrow).kind with ⟨kind', hkind'⟩
    unfold HistoryRow.record
    rw [hkind', MeetingRecordKind.ofInt_toInt]
    cases kind' <;> cases kind <;> rfl
  have hfound := ht.map_orderBy_filter hd sql .recent
    (p := fun row => row.kind = kind.toInt) (q := fun r => r.kind = kind) hkind
  have hsame : (sql.orderBy .recent (table.rows.filter fun row => row.kind = kind.toInt)).map
      (fun row => { row.record dates with kind }) = book.load.filter fun r => r.kind = kind := by
    rw [← hfound]
    refine List.map_congr_left ?_
    intro row hrow
    rcases List.mem_filter.mp ((sql.perm _ _).mem_iff.mp hrow) with ⟨hmem, hrow⟩
    rw [hkind row hmem, decide_eq_true_eq] at hrow
    rw [← hrow]
  have hall : (book.load.filter fun r => r.kind = kind).length ≤ kMaxRecords :=
    (List.length_filter_le ..).trans (Newest.length_sort.trans_le hlength)
  unfold recent
  rw [List.map_take, hsame]
  split_ifs
  · rfl
  · exact List.take_of_length_le hall

end HistoryTable

/-! ## What holds in every run -/

namespace Histories

/-- The file and the table both hold the records of the book. -/
structure Inv (dates : IsoDates) (s : Histories) : Prop where
  distinct : Newest.Distinct MeetingRecord.rank s.book
  exact : ∀ r ∈ s.book, r.Exact
  length : s.book.length ≤ kMaxRecords
  file : s.file.loadJson dates = s.book.load
  table : s.table.Holds dates s.book

variable {sql : HistoryOrder} {dates : IsoDates} {s s' : Histories}

theorem inv_fresh (dates : IsoDates) : fresh.Inv dates := by
  constructor
  · exact List.Pairwise.nil
  · intro r hr
    cases hr
  · exact Nat.zero_le _
  · rfl
  · exact HistoryTable.Holds.clear {}

theorem Inv.agrees (hs : s.Inv dates) (sql : HistoryOrder) : s.Agrees sql dates := by
  have hload := hs.table.load_eq hs.distinct sql
  constructor
  · rw [hload, hs.file]
  · intro kind limit
    rw [hs.table.recent_eq hs.distinct hs.length]
    unfold HistoryFile.recent
    rw [hs.file]
  · intro weekStart hweek
    rw [HistoryFile.stats_eq, hs.file, hs.table.stats_eq hs.length hs.exact hweek]
    exact counted_perm weekStart (Newest.sort_perm s.book)
  · rw [hload]
    exact Newest.length_sort.trans_le hs.length
  · rw [hload]
    exact Newest.sort_perm s.book

/-- Under the condition the open record appended last is the first open one shown. -/
theorem Inv.find_load (hs : s.Inv dates) {durationMs : Int64}
    (hkeeps : s.keeps (.finishOpenSession durationMs)) :
    s.book.load.find? (·.isOpen) = s.book.find? (·.isOpen) := by
  cases hlast : s.book.find? (·.isOpen) with
  | none =>
    rw [List.find?_eq_none] at hlast ⊢
    intro r hr
    exact hlast r (Newest.mem_sort.mp hr)
  | some last =>
    have hmem := List.mem_of_find?_eq_some hlast
    have hopen := List.find?_some hlast
    cases hshown : s.book.load.find? (·.isOpen) with
    | none =>
      rw [List.find?_eq_none] at hshown
      exact absurd hopen (hshown last (Newest.mem_sort.mpr hmem))
    | some shown =>
      -- the first one shown is not older, and the condition says it is not newer
      have hshownmem := Newest.mem_sort.mp (List.mem_of_find?_eq_some hshown)
      have hle := (hkeeps last hlast).1 shown hshownmem (List.find?_some hshown)
      rcases List.find?_eq_some_iff_append.mp hshown with ⟨_, front, back, hload, hfront⟩
      have hstrict := hs.distinct.sort_strict
      have hlastmem : last ∈ s.book.load := Newest.mem_sort.mpr hmem
      unfold MeetingBook.load at hload hlastmem
      rw [hload] at hstrict hlastmem
      rcases List.mem_append.mp hlastmem with hlastmem | hlastmem
      · have := hfront last hlastmem
        rw [hopen] at this
        cases this
      · rcases List.mem_cons.mp hlastmem with rfl | hlastmem
        · rfl
        · have hback := (List.pairwise_append.mp hstrict).2.1
          have := (List.pairwise_cons.mp hback).1 last hlastmem
          omega

/-- Under the condition a new record has a time of its own. -/
theorem Inv.distinct_begun (hs : s.Inv dates) {kind : MeetingRecordKind} {roomNo : Int32}
    {now : DateTime} (hkeeps : s.keeps (.append kind roomNo now)) :
    Newest.Distinct MeetingRecord.rank (begun kind roomNo now :: s.book) := by
  refine List.pairwise_cons.mpr ⟨?_, hs.distinct⟩
  intro r hr
  exact (hkeeps.1 r hr).symm

theorem exact_begun (kind : MeetingRecordKind) (roomNo : Int32) {now : DateTime}
    (hnow : now.Valid) : (begun kind roomNo now).Exact := by
  have hzero : (0 : Int64).toInt.natAbs ≤ 2 ^ 53 := by decide
  exact ⟨⟨now, hnow, rfl⟩, hzero⟩

/-- A call under the condition keeps both histories in step with the book. -/
theorem Inv.step {e : Call} (hs : s.Inv dates) (hkeeps : s.keeps e)
    (hstep : (system sql dates).Step s e s') : s'.Inv dates := by
  unfold system next at hstep
  cases e with
  | append kind roomNo now =>
    dsimp only at hstep
    split_ifs at hstep with hnow
    rcases Option.some.inj hstep with rfl
    have hd := hs.distinct_begun hkeeps
    have hsublist := s.book.append_sublist (begun kind roomNo now)
    constructor
    · exact List.Pairwise.sublist hsublist hd
    · intro r hr
      rcases List.mem_cons.mp (hsublist.subset hr) with rfl | hr
      · exact exact_begun kind roomNo hnow
      · exact hs.exact r hr
    · exact MeetingBook.length_append_le hd
    · exact HistoryFile.loadJson_append hs.file hs.exact kind roomNo hnow hd hkeeps.2
    · exact (hs.table.insert kind roomNo hnow).trim hd
  | finishOpenSession durationMs =>
    rcases Option.some.inj hstep with rfl
    have hlast := hs.find_load hkeeps
    have hexact : ∀ r ∈ s.book.finish durationMs, r.Exact := by
      refine MeetingBook.exact_finish hs.exact ?_
      intro hsome
      rcases Option.isSome_iff_exists.mp hsome with ⟨last, hlast⟩
      exact (hkeeps last hlast).2
    have hlength := (MeetingBook.length_finish s.book durationMs).trans_le hs.length
    constructor
    · exact MeetingBook.distinct_finish hs.distinct durationMs
    · exact hexact
    · exact hlength
    · exact HistoryFile.loadJson_finishOpenSession hs.file hs.distinct hlength hlast hexact
    · exact hs.table.finish hs.distinct hlast durationMs
  | removeAt index =>
    rcases Option.some.inj hstep with rfl
    by_cases hindex : index < 0
    · have hfile : s.file.removeAt dates index = (s.file, false) := if_pos hindex
      have htable : s.table.removeAt sql index = (s.table, false) := if_pos hindex
      rw [if_pos hindex, hfile, htable]
      exact hs
    · have hsublist := s.book.removeAt_sublist index.toInt.toNat
      rw [if_neg hindex]
      constructor
      · exact List.Pairwise.sublist hsublist hs.distinct
      · intro r hr
        exact hs.exact r (hsublist.subset hr)
      · exact hsublist.length_le.trans hs.length
      · exact (HistoryFile.loadJson_removeAt hs.file hs.distinct hs.length hs.exact hindex).1
      · exact (hs.table.removeAt hs.distinct sql hindex).1
  | clear =>
    rcases Option.some.inj hstep with rfl
    constructor
    · exact List.Pairwise.nil
    · intro r hr
      cases hr
    · exact Nat.zero_le _
    · rfl
    · exact HistoryTable.Holds.clear s.table

/-- A call under the condition does to the records shown what it should. -/
theorem Inv.performs {e : Call} (hs : s.Inv dates) (hkeeps : s.keeps e)
    (hstep : (system sql dates).Step s e s') : Performs sql dates s e s' := by
  have hs' := hs.step hkeeps hstep
  have hbefore := hs.table.load_eq hs.distinct sql
  have hafter := hs'.table.load_eq hs'.distinct sql
  unfold Performs
  rw [hbefore, hafter]
  unfold system next at hstep
  cases e with
  | append kind roomNo now =>
    dsimp only at hstep ⊢
    split_ifs at hstep with hnow
    rcases Option.some.inj hstep with rfl
    have hd := hs.distinct_begun hkeeps
    rw [MeetingBook.load_append hd]
    have hkept := hd.sort_cons_take hkeeps.2
    have hstrict := hd.sort_strict
    refine ⟨?_, ?_, ?_⟩
    · have hnew : begun kind roomNo now ∈ Newest.sort MeetingRecord.rank
          (begun kind roomNo now :: s.book.load.take (kMaxRecords - 1)) :=
        Newest.mem_sort.mpr List.mem_cons_self
      exact hkept ▸ hnew
    · intro r hr
      rcases List.mem_cons.mp (Newest.mem_sort.mp (List.mem_of_mem_take hr)) with rfl | hr
      · exact Or.inl rfl
      · exact Or.inr (Newest.mem_sort.mpr hr)
    · intro r hr hdropped
      have hmem : r ∈ MeetingBook.load (begun kind roomNo now :: s.book) :=
        Newest.mem_sort.mpr (List.mem_cons_of_mem _ (Newest.mem_sort.mp hr))
      unfold MeetingBook.load at hdropped hmem ⊢
      rw [← List.take_append_drop kMaxRecords (Newest.sort _ _)] at hmem hstrict
      have hrest := (List.mem_append.mp hmem).resolve_left hdropped
      constructor
      · refine List.length_take_of_le ?_
        have hlength := List.length_pos_of_mem hrest
        rw [List.length_drop] at hlength
        omega
      · intro r' hr'
        exact ((List.pairwise_append.mp hstrict).2.2 r' hr' r hrest).le
  | finishOpenSession durationMs =>
    rcases Option.some.inj hstep with rfl
    exact MeetingBook.load_finish hs.distinct durationMs
  | removeAt index =>
    rcases Option.some.inj hstep with rfl
    have hlength : s.book.load.length = s.book.length := Newest.length_sort
    dsimp only
    by_cases hindex : index < 0
    · have hfile : s.file.removeAt dates index = (s.file, false) := if_pos hindex
      have htable : s.table.removeAt sql index = (s.table, false) := if_pos hindex
      have hnot : ¬(0 ≤ index ∧ index.toInt.toNat < s.book.load.length) :=
        fun h => absurd hindex (Int32.not_lt.mpr h.1)
      rw [hfile, htable, if_neg hnot, if_pos hindex]
      exact ⟨rfl, rfl, rfl⟩
    · have hfile := HistoryFile.loadJson_removeAt hs.file hs.distinct hs.length hs.exact hindex
      have htable := hs.table.removeAt hs.distinct sql hindex
      have hload := MeetingBook.load_removeAt hs.distinct index.toInt.toNat
      rw [if_neg hindex, hload, hlength]
      refine ⟨Bool.eq_iff_iff.mpr (hfile.2.trans htable.2.symm), ?_⟩
      split_ifs with hin
      · exact ⟨htable.2.mpr hin.2, rfl⟩
      · have hout : ¬index.toInt.toNat < s.book.length :=
          fun h => hin ⟨Int32.not_lt.mp hindex, h⟩
        refine ⟨Bool.eq_false_iff.mpr (htable.2.not.mpr hout), ?_⟩
        exact List.eraseIdx_of_length_le (hlength ▸ Nat.not_lt.mp hout)
  | clear =>
    rcases Option.some.inj hstep with rfl
    rfl

theorem inv_of_reachable (hreach : Reachable ((system sql dates).restrict keeps) s) :
    s.Inv dates := by
  refine hreach.invariant ?_ ?_
  · rintro s rfl
    exact inv_fresh dates
  · intro s e s' _ hs hstep
    exact hs.step hstep.1 hstep.2

end Histories

/-- While the clock and the durations meet the condition, both ways of keeping the
history show and count the same, and every call does to the records what it should. -/
theorem history_agreement (sql : HistoryOrder) (dates : IsoDates) (s : Histories)
    (hreach : Reachable ((Histories.system sql dates).restrict Histories.keeps) s) :
    s.Agrees sql dates ∧
      ∀ e s', ((Histories.system sql dates).restrict Histories.keeps).Step s e s' →
        Histories.Performs sql dates s e s' := by
  have hs := Histories.inv_of_reachable hreach
  constructor
  · exact hs.agrees sql
  · intro e s' hstep
    exact hs.performs hstep.1 hstep.2

/-- Rows with equal texts stay in the order of their ids. -/
def HistoryOrder.reference : HistoryOrder where
  orderBy _ rows := rows.insertionSort fun a b => before a.startedAt b.startedAt = false
  perm _ _ := List.perm_insertionSort ..
  sorted _ rows := pairwise_insertionSort HistoryRow.startedAt rows

namespace Histories

/-- A morning on which meetings begin. -/
def morning (minute second : Fin 60) : DateTime := .mayDay minute second 500

theorem reachable_of_guarded {C : Histories → Call → Prop} [∀ s e, Decidable (C s e)]
    {es : List Call} {s : Histories}
    (hrun : replay (guarded C (next .reference .reference)) fresh es = some s) :
    Reachable ((system .reference .reference).restrict C) s :=
  (Run.of_replay (fun _ _ _ => guarded_step fun _ _ _ => id) hrun).reachable (.init rfl)

end Histories

/-- Two meetings one after the other, and the first one taken out. -/
theorem history_agreement_of_morning :
    ∃ s : Histories,
      s.table.load .reference .reference =
        [(begun .joined 7 (Histories.morning 30 0)).finish 3600000] ∧
      s.Agrees .reference .reference := by
  have hrun : (replay (guarded Histories.keeps (Histories.next .reference .reference)) .fresh
      [.append .created 1 (Histories.morning 0 0), .finishOpenSession 125000,
        .append .joined 7 (Histories.morning 30 0), .finishOpenSession 3600000, .removeAt 1]).any
      (fun s => s.table.load .reference .reference =
        [(begun .joined 7 (Histories.morning 30 0)).finish 3600000]) = true := by
    decide +kernel
  rcases (Option.any_eq_true _ _).mp hrun with ⟨s, hrun, htest⟩
  exact ⟨s, of_decide_eq_true htest,
    (history_agreement .reference .reference s (Histories.reachable_of_guarded hrun)).1⟩

/-- The clock is set back, and the meeting before the last one is finished. -/
theorem earlier_meeting_finished :
    ¬∀ s, Reachable (Histories.system .reference .reference) s →
      s.Agrees .reference .reference ∧
        ∀ e s', (Histories.system .reference .reference).Step s e s' →
          Histories.Performs .reference .reference s e s' := by
  intro hall
  have hrun : (replay (guarded (fun _ _ => True) (Histories.next .reference .reference)) .fresh
      [.append .created 1 (Histories.morning 0 5), .append .joined 7 (Histories.morning 0 3)]).any
      (fun s => s.book.find? (·.isOpen) = some (begun .joined 7 (Histories.morning 0 3)) ∧
        (s.table.finishOpenSession .reference 1000).load .reference .reference =
          [(begun .created 1 (Histories.morning 0 5)).finish 1000,
            begun .joined 7 (Histories.morning 0 3)] ∧
        s.table.load .reference .reference =
          [begun .created 1 (Histories.morning 0 5), begun .joined 7 (Histories.morning 0 3)]) =
        true := by
    decide +kernel
  rcases (Option.any_eq_true _ _).mp hrun with ⟨s, hrun, htest⟩
  rcases of_decide_eq_true htest with ⟨hlast, hafter, hbefore⟩
  have hreach := (Histories.reachable_of_guarded hrun).of_restrict
  have hperforms := (hall s hreach).2 (.finishOpenSession 1000) _ rfl
  unfold Histories.Performs at hperforms
  dsimp only at hperforms
  rw [hafter, hbefore, hlast] at hperforms
  revert hperforms
  decide +kernel

end CCMeeting
