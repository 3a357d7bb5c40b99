import CCMeeting.Server.Updates

/-! # The write queue

`Connection::send`, `do_write`, the completion handler of `async_write` and
`close()`, in any order. The state holds what those functions work on and the
writes that are under way; every message keeps its place in the order of the
`emplace` calls, so that two equal texts are two messages.
-/

namespace CCMeeting

open Transition

/-! ## The queue and the writes under way -/

/-- An element of `_write_queue`: the number of `emplace` calls before its own,
and the text it holds. -/
structure Outgoing where
  place : ℕ
  text : ByteString
deriving DecidableEq, Repr

/-- The fields of `Connection` its writing side works on. `placed` counts the
`emplace` calls, `begun` lists the buffers `async_write` was given, and
`outstanding` those of the writes that have not completed. -/
structure Writer where
  writeQueue : List Outgoing
  writeInProgress : Bool
  closed : Bool
  placed : ℕ
  begun : List Outgoing
  outstanding : List Outgoing
deriving DecidableEq, Repr

namespace Writer

/-- A new connection. -/
def start : Writer where
  writeQueue := []
  writeInProgress := false
  closed := false
  placed := 0
  begun := []
  outstanding := []

/-- `_ws.async_write(boost::asio::buffer(_write_queue.front()), ...)`. -/
def asyncWrite (w : Writer) (front : Outgoing) : Writer :=
  { w with begun := w.begun ++ [front], outstanding := w.outstanding ++ [front] }

/-- `Connection::do_write`. -/
def doWrite (w : Writer) : Writer :=
  match w.writeQueue with
  | [] => w
  | front :: _ =>
    if w.writeInProgress || w.closed then w
    else asyncWrite { w with writeInProgress := true } front

/-- `_write_queue.emplace(data)`. -/
def emplace (w : Writer) (data : ByteString) : Writer :=
  { w with
    writeQueue := w.writeQueue ++ [⟨w.placed, data⟩]
    placed := w.placed + 1 }

/-- `Connection::send`. -/
def send (w : Writer) (data : ByteString) : Writer :=
  if w.closed || data.isEmpty then w else (w.emplace data).doWrite

/-- `Connection::close`; its close handler writes to no closed connection. -/
def close (w : Writer) : Writer := if w.closed then w else { w with closed := true }

/-- The completion handler of the `async_write` of a buffer. -/
def complete (w : Writer) (buffer : Outgoing) (error : Bool) : Writer :=
  let w := { w with outstanding := w.outstanding.erase buffer }
  if error then w.close
  else
    let w := { w with writeInProgress := false, writeQueue := w.writeQueue.tail }
    if w.writeQueue.isEmpty then w else w.doWrite

end Writer

/-- What can happen to the writing side of a connection. -/
inductive WriteEvent where
  | send (data : ByteString)
  /-- a write completes, with or without an error -/
  | complete (buffer : Outgoing) (error : Bool)
  /-- any call of `close()` -/
  | close
deriving DecidableEq, Repr

/-- A write that is under way may complete at any time, and each completes once. -/
def WriteEvent.Enabled (w : Writer) : WriteEvent → Prop
  | send _ => True
  | complete buffer _ => buffer ∈ w.outstanding
  | close => True

instance WriteEvent.decidableEnabled (w : Writer) : (e : WriteEvent) → Decidable (e.Enabled w)
  | .send _ => inferInstanceAs (Decidable True)
  | .complete buffer _ => inferInstanceAs (Decidable (buffer ∈ w.outstanding))
  | .close => inferInstanceAs (Decidable True)

/-- The handler of an event. -/
def WriteEvent.handle (w : Writer) : WriteEvent → Writer
  | send data => w.send data
  | complete buffer error => w.complete buffer error
  | close => w.close

/-- The writing side of a connection. -/
def writing : System Writer WriteEvent where
  Init w := w = Writer.start
  Step w e w' := e.Enabled w ∧ w' = e.handle w

/-- The step an event makes, when it makes one. -/
def Writer.next (w : Writer) (e : WriteEvent) : Option Writer :=
  if e.Enabled w then some (e.handle w) else none

/-! ## What has been asked for and what was written -/

/-- What a run has seen: the non-empty arguments of `send` while the connection
was open, the messages whose write completed without an error, and whether
`close()` was called or a write completed with an error. -/
structure Written where
  sent : List ByteString
  written : List ByteString
  failed : Bool
deriving DecidableEq, Repr

namespace Written

/-- Nothing has been seen yet. -/
def none : Written where
  sent := []
  written := []
  failed := false

/-- What one event adds. -/
def record (h : Written) (w : Writer) : WriteEvent → Written
  | .send data => if w.closed || data.isEmpty then h else { h with sent := h.sent ++ [data] }
  | .complete buffer false => { h with written := h.written ++ [buffer.text] }
  | .complete _ true => { h with failed := true }
  | .close => { h with failed := true }

end Written

/-- The writing side with what its runs have seen. -/
def observedWriting : System (Writer × Written) WriteEvent :=
  writing.observe (fun _ => Written.none) (fun h w e _ => h.record w e)

/-- One step of both. -/
def Writer.observedNext (y : Writer × Written) (e : WriteEvent) : Option (Writer × Written) :=
  if e.Enabled y.1 then some (e.handle y.1, y.2.record y.1 e) else none

theorem Writer.observedNext_step {y y' : Writer × Written} {e : WriteEvent}
    (h : Writer.observedNext y e = some y') : observedWriting.Step y e y' := by
  unfold Writer.observedNext at h
  split_ifs at h with henabled
  cases h
  exact ⟨⟨henabled, rfl⟩, rfl⟩

/-! ## The invariant -/

/-- The messages `emplace` was given so far, as elements of the queue. -/
def Outgoing.list (texts : List ByteString) : List Outgoing :=
  texts.mapIdx fun place text => ⟨place, text⟩

namespace Outgoing

@[simp] theorem length_list (texts : List ByteString) : (list texts).length = texts.length := by
  simp [list]

@[simp] theorem map_text_list (texts : List ByteString) : (list texts).map text = texts := by
  apply List.ext_getElem <;> simp [list]

@[simp] theorem map_place_list (texts : List ByteString) :
    (list texts).map place = List.range texts.length := by
  apply List.ext_getElem <;> simp [list]

theorem list_append_one (texts : List ByteString) (data : ByteString) :
    list (texts ++ [data]) = list texts ++ [⟨texts.length, data⟩] := by
  simp [list, List.mapIdx_append]

end Outgoing

/-- The element after the first `n`, where there is one. -/
theorem take_succ_of_drop {α : Type*} {l rest : List α} {n : ℕ} {x : α}
    (h : l.drop n = x :: rest) : l.take (n + 1) = l.take n ++ [x] := by
  have hx : l[n]? = some x := by
    rw [← List.head?_drop, h]
    rfl
  rw [List.take_add_one, hx]
  rfl

/-- How the flag, the front of the queue and the writes go together, when the
first `n` of the elements `slots` have been popped. -/
inductive WritePhase (slots : List Outgoing) (n : ℕ) (w : Writer) : Prop where
  /-- no write runs: nothing is queued, or the connection is closed -/
  | idle : w.writeInProgress = false → w.outstanding = [] → w.begun = slots.take n →
      w.closed = true ∨ w.writeQueue = [] → WritePhase slots n w
  /-- the front is being written -/
  | writing (front : Outgoing) : w.writeInProgress = true → w.writeQueue.head? = some front →
      w.outstanding = [front] → w.begun = slots.take (n + 1) → WritePhase slots n w
  /-- the write of the front has failed -/
  | stopped : w.writeInProgress = true → w.outstanding = [] → w.begun = slots.take (n + 1) →
      w.closed = true → WritePhase slots n w

/-- What holds between two events. -/
structure WriteInv (w : Writer) (h : Written) : Prop where
  placed : w.placed = h.sent.length
  /-- the queue holds what was sent and has not been popped -/
  queue : w.writeQueue = (Outgoing.list h.sent).drop h.written.length
  /-- what was popped has been written -/
  written : h.written = h.sent.take h.written.length
  closed : w.closed = h.failed
  phase : WritePhase (Outgoing.list h.sent) h.written.length w

namespace WriteInv

variable {w : Writer} {h : Written}

theorem start : WriteInv Writer.start Written.none where
  placed := rfl
  queue := rfl
  written := rfl
  closed := rfl
  phase := .idle rfl rfl rfl (Or.inr rfl)

theorem length_le (hinv : WriteInv w h) : h.written.length ≤ h.sent.length := by
  have hlength := congrArg List.length hinv.written
  rw [List.length_take] at hlength
  omega

end WriteInv

/-- `do_write` where no write runs: the front is written, unless there is none
or the connection is closed. -/
theorem Writer.doWrite_phase {w : Writer} {slots : List Outgoing} {n : ℕ}
    (hflag : w.writeInProgress = false) (hnone : w.outstanding = [])
    (hbegun : w.begun = slots.take n) (hqueue : w.writeQueue = slots.drop n) :
    WritePhase slots n w.doWrite := by
  unfold Writer.doWrite
  split
  · rename_i hempty
    exact .idle hflag hnone hbegun (Or.inr hempty)
  · rename_i front rest hfront
    cases hclosed : w.closed with
    | true =>
      simp only [hflag, Bool.or_true, if_true]
      exact .idle hflag hnone hbegun (Or.inl hclosed)
    | false =>
      simp only [hflag, Bool.or_self, Bool.false_eq_true, if_false]
      refine .writing front rfl ?_ ?_ ?_
      · simp [Writer.asyncWrite, hfront]
      · simp [Writer.asyncWrite, hnone]
      · show w.begun ++ [front] = slots.take (n + 1)
        rw [take_succ_of_drop (hqueue.symm.trans hfront), hbegun]

@[simp] theorem Writer.doWrite_writeQueue (w : Writer) : w.doWrite.writeQueue = w.writeQueue := by
  unfold Writer.doWrite
  split
  · rfl
  · split_ifs <;> rfl

@[simp] theorem Writer.doWrite_closed (w : Writer) : w.doWrite.closed = w.closed := by
  unfold Writer.doWrite
  split
  · rfl
  · split_ifs <;> rfl

@[simp] theorem Writer.doWrite_placed (w : Writer) : w.doWrite.placed = w.placed := by
  unfold Writer.doWrite
  split
  · rfl
  · split_ifs <;> rfl

theorem Writer.doWrite_of_empty {w : Writer} (hqueue : w.writeQueue = []) : w.doWrite = w := by
  unfold Writer.doWrite
  rw [hqueue]

theorem Writer.doWrite_of_front {w : Writer} {front : Outgoing} {rest : List Outgoing}
    (hqueue : w.writeQueue = front :: rest) :
    w.doWrite = if w.writeInProgress || w.closed then w
      else asyncWrite { w with writeInProgress := true } front := by
  unfold Writer.doWrite
  rw [hqueue]

/-- While a write runs, `do_write` starts none. -/
theorem Writer.doWrite_of_busy {w : Writer} (hflag : w.writeInProgress = true) : w.doWrite = w := by
  unfold Writer.doWrite
  split
  · rfl
  · simp [hflag]
/-! ## What an event does -/

theorem WriteInv.send {w : Writer} {h : Written} (hinv : WriteInv w h) (data : ByteString) :
    WriteInv (w.send data) (h.record w (.send data)) := by
  unfold Writer.send
  simp only [Written.record]
  by_cases hrefused : (w.closed || data.isEmpty) = true
  · rw [if_pos hrefused, if_pos hrefused]
    exact hinv
  rw [if_neg hrefused, if_neg hrefused]
  have hopen : w.closed = false := by
    rw [Bool.not_eq_true, Bool.or_eq_false_iff] at hrefused
    exact hrefused.1
  have hle := hinv.length_le
  have hlist : Outgoing.list (h.sent ++ [data]) = Outgoing.list h.sent ++ [⟨w.placed, data⟩] := by
    rw [Outgoing.list_append_one, hinv.placed]
  have hqueue : (w.emplace data).writeQueue =
      (Outgoing.list (h.sent ++ [data])).drop h.written.length := by
    rw [hlist, List.drop_append_of_le_length (by simpa using hle), ← hinv.queue]
    rfl
  refine ⟨?_, ?_, ?_, ?_, ?_⟩
  · show (w.emplace data).doWrite.placed = (h.sent ++ [data]).length
    rw [Writer.doWrite_placed, List.length_append, ← hinv.placed]
    rfl
  · show (w.emplace data).doWrite.writeQueue = _
    rw [Writer.doWrite_writeQueue]
    exact hqueue
  · show h.written = (h.sent ++ [data]).take h.written.length
    rw [List.take_append_of_le_length hle]
    exact hinv.written
  · show (w.emplace data).doWrite.closed = h.failed
    rw [Writer.doWrite_closed]
    exact hinv.closed
  -- the phase: an idle connection starts to write, a busy one only has a longer queue
  · show WritePhase (Outgoing.list (h.sent ++ [data])) h.written.length (w.emplace data).doWrite
    cases hinv.phase with
    | idle hflag hnone hbegun _ =>
      refine Writer.doWrite_phase (w := w.emplace data) hflag hnone ?_ hqueue
      show w.begun = _
      rw [hlist, List.take_append_of_le_length (by simpa using hle)]
      exact hbegun
    | writing front hflag hfront hout hbegun =>
      rw [Writer.doWrite_of_busy (w := w.emplace data) hflag]
      have hlt : h.written.length < h.sent.length := by
        by_contra hno
        rw [hinv.queue, List.drop_of_length_le (by simpa using hno)] at hfront
        cases hfront
      refine .writing front hflag ?_ hout ?_
      · show (w.writeQueue ++ _).head? = some front
        rw [List.head?_append, hfront]
        rfl
      · show w.begun = _
        rw [hlist, List.take_append_of_le_length (by rw [Outgoing.length_list]; omega)]
        exact hbegun
    | stopped _ _ _ hclosed =>
      rw [hopen] at hclosed
      cases hclosed

theorem WriteInv.close {w : Writer} {h : Written} (hinv : WriteInv w h) :
    WriteInv w.close { h with failed := true } := by
  have hclosed : w.close = { w with closed := true } := by
    unfold Writer.close
    split_ifs with hc
    · cases w
      cases hc
      rfl
    · rfl
  rw [hclosed]
  refine ⟨hinv.placed, hinv.queue, hinv.written, rfl, ?_⟩
  show WritePhase (Outgoing.list h.sent) h.written.length _
  cases hinv.phase with
  | idle hflag hnone hbegun _ => exact .idle hflag hnone hbegun (Or.inl rfl)
  | writing front hflag hfront hout hbegun =>
    exact .writing front hflag hfront hout hbegun
  | stopped hflag hnone hbegun _ => exact .stopped hflag hnone hbegun rfl

/-- A write that is under way is the write of the front. -/
theorem WriteInv.writing_of_mem {w : Writer} {h : Written} (hinv : WriteInv w h) {buffer : Outgoing}
    (hmem : buffer ∈ w.outstanding) :
    w.writeInProgress = true ∧ w.writeQueue.head? = some buffer ∧ w.outstanding = [buffer] ∧
      w.begun = (Outgoing.list h.sent).take (h.written.length + 1) := by
  cases hinv.phase with
  | idle _ hnone _ _ =>
    rw [hnone] at hmem
    cases hmem
  | writing front hflag hfront hout hbegun =>
    have hbuffer : buffer = front := by
      rw [hout] at hmem
      exact List.mem_singleton.mp hmem
    subst hbuffer
    exact ⟨hflag, hfront, hout, hbegun⟩
  | stopped _ hnone _ _ =>
    rw [hnone] at hmem
    cases hmem

theorem WriteInv.complete_error {w : Writer} {h : Written} (hinv : WriteInv w h) {buffer : Outgoing}
    (hmem : buffer ∈ w.outstanding) :
    WriteInv (w.complete buffer true) (h.record w (.complete buffer true)) := by
  obtain ⟨hflag, _, hout, hbegun⟩ := hinv.writing_of_mem hmem
  have hclosed : w.complete buffer true = { w with outstanding := [], closed := true } := by
    simp only [Writer.complete, if_true, Writer.close, hout, List.erase_cons_head]
    split_ifs with hc
    · rw [hc]
    · rfl
  rw [hclosed]
  exact ⟨hinv.placed, hinv.queue, hinv.written, rfl, .stopped hflag rfl hbegun rfl⟩

theorem WriteInv.complete_ok {w : Writer} {h : Written} (hinv : WriteInv w h) {buffer : Outgoing}
    (hmem : buffer ∈ w.outstanding) :
    WriteInv (w.complete buffer false) (h.record w (.complete buffer false)) := by
  obtain ⟨_, hfront, hout, hbegun⟩ := hinv.writing_of_mem hmem
  obtain ⟨rest, hrest⟩ : ∃ rest, w.writeQueue = buffer :: rest :=
    List.head?_eq_some_iff.mp hfront
  have hdrop : (Outgoing.list h.sent).drop h.written.length = buffer :: rest :=
    hinv.queue.symm.trans hrest
  -- the pop moves the boundary between what is written and what is queued by one element
  have htail : rest = (Outgoing.list h.sent).drop (h.written.length + 1) := by
    have hcongr := congrArg List.tail hdrop
    rw [List.tail_drop] at hcongr
    exact hcongr.symm
  have hwritten : h.written ++ [buffer.text] = h.sent.take (h.written.length + 1) := by
    have hcongr := congrArg (List.map Outgoing.text) (take_succ_of_drop hdrop)
    rw [List.map_take, List.map_append, List.map_take, Outgoing.map_text_list] at hcongr
    rw [hcongr, ← hinv.written]
    rfl
  have hstate : w.complete buffer false =
      if rest.isEmpty then
        { w with outstanding := [], writeInProgress := false, writeQueue := rest }
      else
        Writer.doWrite
          { w with outstanding := [], writeInProgress := false, writeQueue := rest } := by
    simp only [Writer.complete, hout, List.erase_cons_head, hrest, List.tail_cons,
      Bool.false_eq_true, if_false]
  have hphase :
      WritePhase (Outgoing.list h.sent) (h.written.length + 1) (w.complete buffer false) := by
    rw [hstate]
    split_ifs with hempty
    · exact .idle rfl rfl hbegun (Or.inr (by simpa using hempty))
    · exact Writer.doWrite_phase rfl rfl hbegun htail
  have hlength : (h.written ++ [buffer.text]).length = h.written.length + 1 := by simp
  refine ⟨?_, ?_, ?_, ?_, ?_⟩
  · rw [hstate]
    split_ifs <;> simp [Written.record, hinv.placed]
  · simp only [Written.record, hlength]
    rw [← htail, hstate]
    split_ifs <;> simp
  · simp only [Written.record, hlength]
    exact hwritten
  · rw [hstate]
    split_ifs <;> simp [Written.record, hinv.closed]
  · simp only [Written.record, hlength]
    exact hphase

/-- Every event keeps the invariant. -/
theorem WriteInv.step {y y' : Writer × Written} {e : WriteEvent} (hinv : WriteInv y.1 y.2)
    (hstep : observedWriting.Step y e y') : WriteInv y'.1 y'.2 := by
  obtain ⟨⟨henabled, hwriter⟩, hhistory⟩ := hstep
  rw [hwriter, hhistory]
  cases e with
  | send data => exact hinv.send data
  | complete buffer error =>
    cases error with
    | true => exact hinv.complete_error henabled
    | false => exact hinv.complete_ok henabled
  | close => exact hinv.close

theorem reachable_writeInv {y : Writer × Written} (hreach : Reachable observedWriting y) :
    WriteInv y.1 y.2 := by
  refine hreach.invariant (I := fun y => WriteInv y.1 y.2) ?_
    fun _ _ _ _ hinv hstep => hinv.step hstep
  rintro ⟨w, h⟩ ⟨hwriter, hhistory⟩
  cases hwriter
  cases hhistory
  exact .start

/-- The writes that have begun are those of the first messages. -/
theorem WriteInv.exists_begun {w : Writer} {h : Written} (hinv : WriteInv w h) :
    ∃ n, h.written.length ≤ n ∧ w.begun = (Outgoing.list h.sent).take n := by
  cases hinv.phase with
  | idle _ _ hbegun _ => exact ⟨_, Nat.le_refl _, hbegun⟩
  | writing _ _ _ _ hbegun => exact ⟨_, Nat.le_succ _, hbegun⟩
  | stopped _ _ hbegun _ => exact ⟨_, Nat.le_succ _, hbegun⟩

/-! ## The connections of the server -/

/-- What a connection of the server keeps of its writing side: the packets
whose texts are queued instead of the texts, and no write that has failed. -/
structure Carries (platform : Platform) (w : Writer) (k : Connection) : Prop where
  closed : w.closed = k.closed
  writeInProgress : w.writeInProgress = k.writeInProgress
  queue : List.Forall₂ (fun q buffer => encode platform q.packet = .ok buffer.text)
    (k.outbox.drop k.flushed) w.writeQueue
  flushed : k.flushed ≤ k.outbox.length
  running : w.writeInProgress = true → w.outstanding ≠ []

/-- Some run of the writing side has led to the connection. -/
def Connection.Arises (platform : Platform) (k : Connection) : Prop :=
  ∃ y, Reachable observedWriting y ∧ Carries platform y.1 k

section Server

variable {platform : Platform} {w : Writer} {k : Connection}

theorem Carries.queueEmpty (h : Carries platform w k) :
    k.queueEmpty = true ↔ w.writeQueue = [] := by
  have hlength := h.queue.length_eq
  rw [List.length_drop] at hlength
  rw [Connection.queueEmpty, decide_eq_true_iff, ← List.length_eq_zero_iff]
  omega

theorem Carries.doWrite (h : Carries platform w k) : Carries platform w.doWrite k.doWrite := by
  have hempty := h.queueEmpty
  unfold Connection.doWrite
  cases hqueue : w.writeQueue with
  | nil =>
    rw [Writer.doWrite_of_empty hqueue, hempty.mpr hqueue]
    simpa using h
  | cons front rest =>
    have hfull : k.queueEmpty = false := by simpa [hqueue] using hempty
    have hguard : (w.writeInProgress || w.closed) = (k.writeInProgress || k.closed) := by
      rw [h.writeInProgress, h.closed]
    rw [Writer.doWrite_of_front hqueue, hfull, Bool.or_false, hguard]
    split_ifs
    · exact h
    · exact ⟨h.closed, rfl, h.queue, h.flushed, fun _ => by simp [Writer.asyncWrite]⟩

theorem Carries.send (h : Carries platform w k) {q : Queued} {frame : ByteString}
    (hq : encode platform q.packet = .ok frame) :
    Carries platform (w.send frame) (k.send frame q) := by
  unfold Writer.send Connection.send
  rw [h.closed]
  split_ifs
  · exact h
  · apply Carries.doWrite
    refine ⟨h.closed, h.writeInProgress, ?_, ?_, h.running⟩
    · rw [List.drop_append_of_le_length h.flushed]
      exact List.rel_append h.queue (.cons hq .nil)
    · rw [List.length_append]
      exact Nat.le_add_right_of_le h.flushed

theorem Carries.close (h : Carries platform w k) : Carries platform w.close k.shut := by
  unfold Writer.close
  split_ifs with hclosed
  · exact ⟨hclosed, h.writeInProgress, h.queue, h.flushed, h.running⟩
  · exact ⟨rfl, h.writeInProgress, h.queue, h.flushed, h.running⟩

/-- A write that completes without an error pops the front. -/
theorem Carries.complete (h : Carries platform w k) {front : Outgoing}
    (hfront : w.writeQueue.head? = some front) :
    Carries platform (w.complete front false) k.written := by
  obtain ⟨rest, hrest⟩ : ∃ rest, w.writeQueue = front :: rest := List.head?_eq_some_iff.mp hfront
  have hqueue := h.queue
  rw [hrest] at hqueue
  obtain ⟨q, qs, _, hqs, hdrop⟩ := List.forall₂_cons_right_iff.mp hqueue
  have hpopped : Carries platform
      { w with
        outstanding := w.outstanding.erase front, writeInProgress := false, writeQueue := rest }
      { k with writeInProgress := false, flushed := k.flushed + 1 } := by
    have htail := congrArg List.tail hdrop
    rw [List.tail_drop, List.tail_cons] at htail
    have hlength := congrArg List.length hdrop
    rw [List.length_drop, List.length_cons] at hlength
    refine ⟨h.closed, rfl, ?_, ?_, fun hflag => by cases hflag⟩
    · rw [htail]
      exact hqs
    · show k.flushed + 1 ≤ k.outbox.length
      omega
  simp only [Writer.complete, Bool.false_eq_true, if_false, hrest, List.tail_cons,
    Connection.written]
  split_ifs with hempty
  · -- nothing is queued, so `do_write` does nothing in `written` either
    have hnone : rest = [] := by simpa using hempty
    have hdone := hpopped.doWrite
    unfold Writer.doWrite at hdone
    rw [hnone] at hdone ⊢
    exact hdone
  · exact hpopped.doWrite

end Server

namespace Connection.Arises

variable {platform : Platform} {k : Connection}

theorem start (hclosed : k.closed = false) (hflag : k.writeInProgress = false)
    (houtbox : k.outbox = []) (hflushed : k.flushed = 0) : k.Arises platform := by
  refine ⟨(Writer.start, Written.none), .init ⟨rfl, rfl⟩, hclosed.symm, hflag.symm, ?_, ?_,
    fun h => by cases h⟩
  · rw [houtbox, hflushed]
    exact .nil
  · rw [hflushed]
    exact Nat.zero_le _

theorem send (h : k.Arises platform) {q : Queued} {frame : ByteString}
    (hq : encode platform q.packet = .ok frame) : (k.send frame q).Arises platform := by
  obtain ⟨y, hy, hcarries⟩ := h
  exact ⟨(y.1.send frame, y.2.record y.1 (.send frame)),
    hy.step (e := .send frame) ⟨⟨trivial, rfl⟩, rfl⟩, hcarries.send hq⟩

theorem shut (h : k.Arises platform) : k.shut.Arises platform := by
  obtain ⟨y, hy, hcarries⟩ := h
  exact ⟨(y.1.close, y.2.record y.1 .close),
    hy.step (e := .close) ⟨⟨trivial, rfl⟩, rfl⟩, hcarries.close⟩

theorem written (h : k.Arises platform) (hflag : k.writeInProgress = true) :
    k.written.Arises platform := by
  obtain ⟨y, hy, hcarries⟩ := h
  have hflag' : y.1.writeInProgress = true := hcarries.writeInProgress.trans hflag
  obtain ⟨front, hmem⟩ := List.exists_mem_of_ne_nil _ (hcarries.running hflag')
  have hfront := ((reachable_writeInv hy).writing_of_mem hmem).2.1
  exact ⟨(y.1.complete front false, y.2.record y.1 (.complete front false)),
    hy.step (e := .complete front false) ⟨⟨hmem, rfl⟩, rfl⟩, hcarries.complete hfront⟩

end Connection.Arises

section Reachable

variable {platform : Platform} {config : ServerConfig} {s s' : State}

theorem modifyConnection_arises {d : ConnId} {f : Connection → Connection}
    (h : ∀ c, (s.connections c).Arises platform) (hd : (f (s.connections d)).Arises platform)
    (c : ConnId) : ((s.modifyConnection d f).connections c).Arises platform := by
  by_cases hc : c = d
  · subst hc
    simpa [State.modifyConnection] using hd
  · simpa [State.modifyConnection, hc] using h c

theorem update_arises (hupdate : State.Update platform s s')
    (h : ∀ c, (s.connections c).Arises platform) (c : ConnId) :
    (s'.connections c).Arises platform := by
  cases hupdate with
  | @queued d frame q hencode =>
    exact modifyConnection_arises (f := fun k => k.send frame q) h ((h d).send hencode) c
  | @shut d _ => exact modifyConnection_arises (f := Connection.shut) h (h d).shut c
  | routed _ _ => exact h c
  | room _ _ _ => exact h c
  | cleaned _ => exact h c

theorem begins_arises {e : Event} (h : ∀ c, (s.connections c).Arises platform)
    (hbegin : Begins config s e s') (c : ConnId) : (s'.connections c).Arises platform := by
  cases hbegin with
  | accept =>
    by_cases hc : c = s.nextConnectionId
    · subst hc
      have hstart : Connection.Arises platform .accepted := .start rfl rfl rfl rfl
      simpa [State.accept] using hstart
    · simpa [State.accept, hc] using h c
  | socketDown d =>
    obtain ⟨y, hy, hcarries⟩ := h d
    exact modifyConnection_arises (f := fun k => { k with socketOpen := false }) h
      ⟨y, hy, hcarries.closed, hcarries.writeInProgress, hcarries.queue, hcarries.flushed,
        hcarries.running⟩ c
  | wrote d hflag _ =>
    exact modifyConnection_arises (f := Connection.written) h ((h d).written hflag) c
  | close _ => exact h c
  | expire _ => exact h c
  | packet _ => exact h c
  | founded _ _ _ _ => exact h c

/-- In every reachable state of the server each connection is one the writing
side can lead to. -/
theorem reachable_arises (h : Reachable (system platform config) s) (c : ConnId) :
    (s.connections c).Arises platform := by
  refine h.invariant (I := fun s => ∀ c, (s.connections c).Arises platform) ?_ ?_ c
  · rintro s rfl c
    exact .start rfl rfl rfl rfl
  · intro s e s' _ hinv hstep
    exact step_establishes (I := fun s => ∀ c, (s.connections c).Arises platform)
      (begins_arises hinv) update_arises hstep

end Reachable

/-! ## The queue over whole runs -/

/-- In every run: at most one write is under way, it writes the front of the
queue as it was when the write began, the buffers handed to `async_write` are
the non-empty texts sent while the connection was open, each once and in their
order, and while neither `close()` nor an error has come a queue that is not
empty is being written. -/
theorem write_queue {y : Writer × Written} (hreach : Reachable observedWriting y) :
    y.1.outstanding.length ≤ 1 ∧
    (∀ buffer ∈ y.1.outstanding, y.1.writeQueue.head? = some buffer) ∧
    y.1.begun.map Outgoing.text <+: y.2.sent ∧
    y.1.begun.map Outgoing.place = List.range y.1.begun.length ∧
    y.2.written <+: y.1.begun.map Outgoing.text ∧
    (y.2.failed = false → y.1.writeQueue ≠ [] → y.1.outstanding ≠ []) := by
  have hinv := reachable_writeInv hreach
  obtain ⟨n, hn, hbegun⟩ := hinv.exists_begun
  have htexts : y.1.begun.map Outgoing.text = y.2.sent.take n := by
    rw [hbegun, List.map_take, Outgoing.map_text_list]
  refine ⟨?_, ?_, ?_, ?_, ?_, ?_⟩
  · cases hinv.phase with
    | idle _ hnone _ _ => simp [hnone]
    | writing _ _ _ hout _ => simp [hout]
    | stopped _ hnone _ _ => simp [hnone]
  · intro buffer hmem
    exact (hinv.writing_of_mem hmem).2.1
  · rw [htexts]
    exact List.take_prefix _ _
  · rw [hbegun, List.map_take, Outgoing.map_place_list, List.length_take, Outgoing.length_list,
      List.take_range]
  · rw [htexts, hinv.written]
    exact List.take_prefix_take_left hn
  · intro hfailed hqueue hnone
    have hopen : y.1.closed = false := hinv.closed.trans hfailed
    cases hinv.phase with
    | idle _ _ _ hempty =>
      rcases hempty with hclosed | hempty
      · rw [hopen] at hclosed
        cases hclosed
      · exact hqueue hempty
    | writing _ _ _ hout _ =>
      rw [hout] at hnone
      cases hnone
    | stopped _ _ _ hclosed =>
      rw [hopen] at hclosed
      cases hclosed

/-- Two messages are sent and the first one has been written. -/
theorem write_queue_of_two :
    ∃ y, replay Writer.observedNext (Writer.start, Written.none)
        [.send [1], .send [2], .complete ⟨0, [1]⟩ false] = some y ∧
      y.2.written = [[1]] ∧ y.1.outstanding = [⟨1, [2]⟩] ∧ y.1.outstanding.length ≤ 1 := by
  refine ⟨_, rfl, rfl, rfl, ?_⟩
  have hreach : Reachable observedWriting _ :=
    (Run.of_replay (fun _ _ _ => Writer.observedNext_step)
      (show replay Writer.observedNext (Writer.start, Written.none)
        [.send [1], .send [2], .complete ⟨0, [1]⟩ false] = some _ from rfl)).reachable
      (.init ⟨rfl, rfl⟩)
  exact (write_queue hreach).1

end CCMeeting
