import Mathlib.Data.List.ReduceOption
import CCMeeting.Lib.Machine
import CCMeeting.Client.MessageHub

/-! # The send queue as one line

`PriorityMessageQueue` keeps a bucket for each priority. For its callers it is one
line: the messages in the order in which they were pushed, of which the oldest control
message leaves before the oldest text, and the oldest of its priority makes room for one
that finds no room.
-/

namespace CCMeeting

open Machine

/-! ## Calls -/

/-- A call for which the lock is got. A null pointer may be pushed, and the time of
`pop` may run out. -/
inductive QueueCall where
  | push (msg : Option MessagePtr)
  | pop

/-- What a call returns and leaves. -/
def PriorityMessageQueue.serve (q : PriorityMessageQueue) :
    QueueCall → Option MessagePtr × PriorityMessageQueue
  | .push none => (none, q)
  | .push (some msg) => (none, q.push msg)
  | .pop => q.pop

/-! ## The line -/

/-- How a message has left the line. -/
inductive Fate where
  | returned
  | displaced
deriving DecidableEq, Repr

/-- The messages that are left, the oldest first, and those that are gone. -/
structure SendLine where
  remaining : List MessagePtr
  gone : List (Fate × MessagePtr)

/-- The messages of a priority. -/
def ofPriority (priority : MessagePriority) (msgs : List MessagePtr) : List MessagePtr :=
  msgs.filter (·.priority = priority)

theorem ofPriority_append (priority : MessagePriority) (msgs msgs' : List MessagePtr) :
    ofPriority priority (msgs ++ msgs') = ofPriority priority msgs ++ ofPriority priority msgs' :=
  List.filter_append ..

theorem ofPriority_snoc_self (msgs : List MessagePtr) (msg : MessagePtr) :
    ofPriority msg.priority (msgs ++ [msg]) = ofPriority msg.priority msgs ++ [msg] := by
  rw [ofPriority_append]
  exact congrArg _ (List.filter_cons_of_pos (decide_eq_true rfl))

theorem ofPriority_snoc_of_ne {priority : MessagePriority} {msg : MessagePtr}
    (h : priority ≠ msg.priority) (msgs : List MessagePtr) :
    ofPriority priority (msgs ++ [msg]) = ofPriority priority msgs := by
  have hneg : ¬decide (msg.priority = priority) = true := by
    rw [decide_eq_true_eq]
    exact h.symm
  have hnone : ofPriority priority [msg] = [] := List.filter_cons_of_neg hneg
  rw [ofPriority_append, hnone, List.append_nil]

namespace SendLine

def empty : SendLine where
  remaining := []
  gone := []

/-- The oldest of a priority leaves. -/
def leave (line : SendLine) (priority : MessagePriority) (fate : Fate) :
    Option MessagePtr × SendLine :=
  match line.remaining.find? (·.priority = priority) with
  | none => (none, line)
  | some msg =>
    (some msg,
      { remaining := line.remaining.eraseP (·.priority = priority)
        gone := line.gone ++ [(fate, msg)] })

/-- The line has all the messages of the priority that it may have. -/
def full (line : SendLine) (priority : MessagePriority) : Bool :=
  queueMaxSize ≤ (ofPriority priority line.remaining).length

/-- A message comes, and where there is no room the oldest of its priority leaves for it. -/
def push (line : SendLine) (msg : MessagePtr) : SendLine :=
  let line := if line.full msg.priority then (line.leave msg.priority .displaced).2 else line
  { line with remaining := line.remaining ++ [msg] }

/-- The oldest control message is returned, else the oldest text. -/
def pop (line : SendLine) : Option MessagePtr × SendLine :=
  match line.leave .control .returned with
  | (some msg, line) => (some msg, line)
  | (none, line) => line.leave .text .returned

def serve (line : SendLine) : QueueCall → Option MessagePtr × SendLine
  | .push none => (none, line)
  | .push (some msg) => (none, line.push msg)
  | .pop => line.pop

/-! What leaves the line. -/

theorem leave_fst (line : SendLine) (priority : MessagePriority) (fate : Fate) :
    (line.leave priority fate).1 = (ofPriority priority line.remaining).head? := by
  rw [ofPriority, List.head?_filter, leave]
  cases line.remaining.find? (·.priority = priority) <;> rfl

theorem leave_remaining (line : SendLine) (priority : MessagePriority) (fate : Fate) :
    (line.leave priority fate).2.remaining = line.remaining.eraseP (·.priority = priority) := by
  unfold leave
  cases hfind : line.remaining.find? (·.priority = priority) with
  | some msg => rfl
  | none =>
    -- nothing of the priority is left
    rw [List.find?_eq_none] at hfind
    exact (List.eraseP_of_forall_not hfind).symm

theorem eq_of_leave_none {line line' : SendLine} {priority : MessagePriority} {fate : Fate}
    (h : line.leave priority fate = (none, line')) : line = line' := by
  unfold leave at h
  cases hfind : line.remaining.find? (·.priority = priority) with
  | some msg =>
    rw [hfind] at h
    cases h
  | none =>
    rw [hfind] at h
    cases h
    rfl

theorem ofPriority_leave_self (line : SendLine) (priority : MessagePriority) (fate : Fate) :
    ofPriority priority (line.leave priority fate).2.remaining =
      (ofPriority priority line.remaining).tail := by
  rw [leave_remaining]
  exact Buckets.filter_eraseP_self _

theorem ofPriority_leave_of_ne (line : SendLine) {priority other : MessagePriority} (fate : Fate)
    (h : other ≠ priority) :
    ofPriority other (line.leave priority fate).2.remaining = ofPriority other line.remaining := by
  rw [leave_remaining]
  apply Buckets.filter_eraseP_of_disjoint
  intro msg hmsg
  rw [decide_eq_true_eq] at hmsg
  rw [decide_eq_false_iff_not, hmsg]
  exact h.symm

end SendLine

/-! ## The queue is the line -/

/-- A bucket has what the line has of its priority, and it has room for that. -/
def Stands (q : PriorityMessageQueue) (line : SendLine) : Prop :=
  ∀ priority, q.bucket priority = ofPriority priority line.remaining ∧
    (q.bucket priority).length ≤ queueMaxSize

theorem popFront_stands {q : PriorityMessageQueue} {line : SendLine} (h : Stands q line)
    (priority : MessagePriority) (fate : Fate) :
    Stands (q.popFront priority) (line.leave priority fate).2 := by
  intro other
  by_cases hother : other = priority
  · subst hother
    rcases h other with ⟨hbucket, hlength⟩
    rw [PriorityMessageQueue.popFront, Buckets.bucket_set_self, SendLine.ofPriority_leave_self,
      hbucket]
    refine ⟨rfl, ?_⟩
    rw [hbucket] at hlength
    rw [List.length_tail]
    omega
  · rw [PriorityMessageQueue.popFront, Buckets.bucket_set_of_ne _ _ hother,
      SendLine.ofPriority_leave_of_ne line fate hother]
    exact h other

theorem pop_stands {q : PriorityMessageQueue} {line : SendLine} (h : Stands q line) :
    q.pop.1 = line.pop.1 ∧ Stands q.pop.2 line.pop.2 := by
  have hleave : ∀ priority, (q.bucket priority).head? = (line.leave priority .returned).1 := by
    intro priority
    rw [(h priority).1, SendLine.leave_fst]
  have hfront := fun priority => popFront_stands h priority .returned
  have hcontrol := hfront .control
  have htext := hfront .text
  unfold PriorityMessageQueue.pop SendLine.pop
  rw [hleave .control, hleave .text]
  rcases hc : line.leave .control .returned with ⟨front, line'⟩
  rw [hc] at hcontrol
  cases front with
  | some msg => exact ⟨rfl, hcontrol⟩
  | none =>
    -- no control message is left, and the line is as it was
    cases SendLine.eq_of_leave_none hc
    rcases ht : line.leave .text .returned with ⟨front, line''⟩
    rw [ht] at htext
    cases front with
    | some msg =>
      dsimp only
      rw [ht]
      exact ⟨rfl, htext⟩
    | none =>
      dsimp only
      rw [ht]
      cases SendLine.eq_of_leave_none ht
      exact ⟨rfl, h⟩

/-- A bucket is never longer than its bound, so one message at most makes room. -/
theorem push_stands {q : PriorityMessageQueue} {line : SendLine} (h : Stands q line)
    (msg : MessagePtr) : Stands (q.push msg) (line.push msg) := by
  intro priority
  rcases h priority with ⟨hbucket, hlength⟩
  have hpositive : queueMaxSize ≠ 0 := by decide
  unfold SendLine.push SendLine.full
  dsimp only
  by_cases hpriority : priority = msg.priority
  · subst hpriority
    rw [PriorityMessageQueue.push, Buckets.bucket_set_self, pushBounded, if_neg hpositive,
      ofPriority_snoc_self, ← hbucket]
    by_cases hfull : queueMaxSize ≤ (q.bucket msg.priority).length
    · have hone : (q.bucket msg.priority).length + 1 - queueMaxSize = 1 := by omega
      rw [if_pos (decide_eq_true hfull), SendLine.ofPriority_leave_self, ← hbucket, hone,
        List.drop_one]
      refine ⟨rfl, ?_⟩
      rw [List.length_append, List.length_tail, List.length_singleton]
      omega
    · have hnone : (q.bucket msg.priority).length + 1 - queueMaxSize = 0 := by omega
      rw [if_neg (fun hdecide => hfull (of_decide_eq_true hdecide)), hnone, List.drop_zero,
        ← hbucket]
      refine ⟨rfl, ?_⟩
      rw [List.length_append, List.length_singleton]
      omega
  · rw [PriorityMessageQueue.bucket_push_of_ne priority hpriority, ofPriority_snoc_of_ne hpriority]
    refine ⟨?_, hlength⟩
    split_ifs
    · rw [SendLine.ofPriority_leave_of_ne line _ hpriority]
      exact hbucket
    · exact hbucket

theorem stands_empty : Stands Buckets.empty SendLine.empty := by
  intro priority
  exact ⟨rfl, Nat.zero_le _⟩

theorem serve_stands {q : PriorityMessageQueue} {line : SendLine} (h : Stands q line)
    (call : QueueCall) :
    (q.serve call).1 = (line.serve call).1 ∧ Stands (q.serve call).2 (line.serve call).2 := by
  cases call with
  | push msg =>
    cases msg with
    | none => exact ⟨rfl, h⟩
    | some msg => exact ⟨rfl, push_stands h msg⟩
  | pop => exact pop_stands h

/-! ## Where the messages are -/

namespace SendLine

/-- The messages of a priority that are gone or left, in their order. -/
def known (line : SendLine) (priority : MessagePriority) : List MessagePtr :=
  ofPriority priority (line.gone.map Prod.snd) ++ ofPriority priority line.remaining

/-- The messages that have been returned, in their order. -/
def returned (line : SendLine) : List MessagePtr :=
  (line.gone.filter (·.1 = .returned)).map Prod.snd

/-- Who leaves is the oldest of the priority. -/
theorem leave_some {line line' : SendLine} {priority : MessagePriority} {fate : Fate}
    {msg : MessagePtr} (h : line.leave priority fate = (some msg, line')) :
    msg.priority = priority ∧ line'.gone = line.gone ++ [(fate, msg)] ∧
      ofPriority priority line.remaining = msg :: ofPriority priority line'.remaining := by
  have hfirst := leave_fst line priority fate
  have hrest := ofPriority_leave_self line priority fate
  rw [h] at hfirst hrest
  refine ⟨?_, ?_, ?_⟩
  · have hmem : msg ∈ ofPriority priority line.remaining := List.mem_of_head? hfirst.symm
    exact of_decide_eq_true (List.mem_filter.mp hmem).2
  · unfold leave at h
    cases hfind : line.remaining.find? (·.priority = priority) with
    | some front =>
      rw [hfind] at h
      cases h
      rfl
    | none =>
      rw [hfind] at h
      cases h
  · rw [hrest]
    exact (List.cons_head?_tail hfirst.symm).symm

theorem known_leave (line : SendLine) (priority other : MessagePriority) (fate : Fate) :
    (line.leave priority fate).2.known other = line.known other := by
  have hother : other ≠ priority →
      ofPriority other (line.leave priority fate).2.remaining = ofPriority other line.remaining :=
    ofPriority_leave_of_ne line fate
  rcases hleave : line.leave priority fate with ⟨front, line'⟩
  rw [hleave] at hother
  cases front with
  | none => rw [eq_of_leave_none hleave]
  | some msg =>
    rcases leave_some hleave with ⟨hpriority, hgone, hfront⟩
    unfold known
    rw [hgone, List.map_append]
    show ofPriority other (line.gone.map Prod.snd ++ [msg]) ++ _ = _
    by_cases hne : other = priority
    · subst hpriority hne
      rw [ofPriority_snoc_self, hfront, List.append_assoc]
      rfl
    · rw [← hpriority] at hne
      rw [ofPriority_snoc_of_ne hne, hother (hpriority ▸ hne)]

theorem returned_leave (line : SendLine) (priority : MessagePriority) :
    (line.leave priority .returned).2.returned =
      line.returned ++ (line.leave priority .returned).1.toList := by
  rcases hleave : line.leave priority .returned with ⟨front, line'⟩
  cases front with
  | none => rw [eq_of_leave_none hleave, Option.toList_none, List.append_nil]
  | some msg =>
    rw [returned, (leave_some hleave).2.1, List.filter_append, List.map_append]
    rfl

theorem returned_displaced (line : SendLine) (priority : MessagePriority) :
    (line.leave priority .displaced).2.returned = line.returned := by
  rcases hleave : line.leave priority .displaced with ⟨front, line'⟩
  cases front with
  | none => rw [eq_of_leave_none hleave]
  | some msg =>
    rw [returned, (leave_some hleave).2.1, List.filter_append, List.map_append]
    exact List.append_nil _

theorem known_push (line : SendLine) (msg : MessagePtr) (priority : MessagePriority) :
    (line.push msg).known priority = line.known priority ++ ofPriority priority [msg] := by
  have hsnoc : ∀ line : SendLine,
      ({ line with remaining := line.remaining ++ [msg] } : SendLine).known priority =
        line.known priority ++ ofPriority priority [msg] := by
    intro line
    unfold known
    rw [ofPriority_append, List.append_assoc]
  unfold push
  dsimp only
  rw [hsnoc]
  split_ifs
  · rw [known_leave]
  · rfl

theorem returned_push (line : SendLine) (msg : MessagePtr) :
    (line.push msg).returned = line.returned := by
  unfold push
  dsimp only
  split_ifs
  · exact returned_displaced line msg.priority
  · rfl

/-- A `pop` is a `leave` of one of the priorities. -/
theorem pop_eq_leave (line : SendLine) : ∃ priority, line.pop = line.leave priority .returned := by
  unfold pop
  rcases hleave : line.leave .control .returned with ⟨front, line'⟩
  cases front with
  | some msg => exact ⟨.control, hleave.symm⟩
  | none =>
    cases eq_of_leave_none hleave
    exact ⟨.text, rfl⟩

/-- Nothing is returned only where nothing is left. -/
theorem remaining_of_pop_none {line : SendLine} (h : line.pop.1 = none) : line.remaining = [] := by
  have hnone : ∀ priority, (line.leave priority .returned).1 = none →
      ofPriority priority line.remaining = [] := by
    intro priority hleave
    rw [leave_fst, List.head?_eq_none_iff] at hleave
    exact hleave
  have hboth : ∀ priority, ofPriority priority line.remaining = [] := by
    unfold pop at h
    rcases hleave : line.leave .control .returned with ⟨front, line'⟩
    rw [hleave] at h
    cases front with
    | some msg => cases h
    | none =>
      cases eq_of_leave_none hleave
      intro priority
      cases priority with
      | control => exact hnone .control (congrArg Prod.fst hleave)
      | text => exact hnone .text h
  rw [List.eq_nil_iff_forall_not_mem]
  intro msg hmsg
  have hmem : msg ∈ ofPriority msg.priority line.remaining :=
    List.mem_filter.mpr ⟨hmsg, decide_eq_true rfl⟩
  rw [hboth] at hmem
  exact List.not_mem_nil hmem

/-- As long as a message is left, one is returned. -/
theorem length_pop (line : SendLine) :
    line.pop.2.remaining.length = line.remaining.length - 1 := by
  rcases pop_eq_leave line with ⟨priority, hpop⟩
  rcases hleave : line.leave priority .returned with ⟨front, line'⟩
  cases front with
  | some msg =>
    have hfirst := leave_fst line priority .returned
    rw [hleave] at hfirst
    have hmem := List.mem_filter.mp (List.mem_of_head? hfirst.symm)
    rw [hpop, leave_remaining]
    exact List.length_eraseP_of_mem hmem.1 hmem.2
  | none =>
    have hnil := remaining_of_pop_none (congrArg Prod.fst (hpop.trans hleave))
    rw [hpop, leave_remaining, hnil]
    rfl

end SendLine

/-- The messages that have been pushed. -/
def pushedMessages (calls : List QueueCall) : List MessagePtr :=
  calls.filterMap fun call =>
    match call with
    | .push msg => msg
    | .pop => none

theorem line_accounted (calls : List QueueCall) :
    (∀ priority, (answers SendLine.serve .empty calls).2.known priority =
      ofPriority priority (pushedMessages calls)) ∧
    (answers SendLine.serve .empty calls).2.returned =
      (answers SendLine.serve .empty calls).1.reduceOption := by
  induction calls using List.reverseRecOn with
  | nil => exact ⟨fun _ => rfl, rfl⟩
  | append_singleton calls call ih =>
    rcases ih with ⟨hknown, hreturned⟩
    rw [answers_snoc]
    generalize answers SendLine.serve .empty calls = run at hknown hreturned
    dsimp only
    rw [List.reduceOption_append, ← hreturned, pushedMessages, List.filterMap_append]
    cases call with
    | push msg =>
      cases msg with
      | none =>
        constructor
        · intro priority
          rw [ofPriority_append]
          exact (hknown priority).trans (List.append_nil _).symm
        · exact (List.append_nil _).symm
      | some msg =>
        constructor
        · intro priority
          rw [ofPriority_append]
          exact (run.2.known_push msg priority).trans (congrArg (· ++ _) (hknown priority))
        · exact (run.2.returned_push msg).trans (List.append_nil _).symm
    | pop =>
      rcases run.2.pop_eq_leave with ⟨front, hpop⟩
      show (∀ priority, run.2.pop.2.known priority = _) ∧
        run.2.pop.2.returned = run.2.returned ++ [run.2.pop.1].reduceOption
      rw [hpop]
      constructor
      · intro priority
        rw [ofPriority_append, SendLine.known_leave]
        exact (hknown priority).trans (List.append_nil _).symm
      · rw [SendLine.returned_leave]
        cases (run.2.leave front .returned).1 <;> rfl

/-- Pops alone return what is left. -/
theorem drained (line : SendLine) {n : ℕ} (h : line.remaining.length ≤ n) :
    (answers SendLine.serve line (List.replicate n .pop)).2.remaining = [] := by
  induction n generalizing line with
  | zero => exact List.length_eq_zero_iff.mp (Nat.le_zero.mp h)
  | succ n ih =>
    apply ih line.pop.2
    rw [line.length_pop]
    omega

/-! ## `push_bounded` -/

/-- `while (bucket.size() >= max_size) bucket.pop_front()`. -/
def makeRoom (maxSize : ℕ) : List MessagePtr → List MessagePtr
  | [] => []
  | front :: bucket =>
    if maxSize ≤ (front :: bucket).length then makeRoom maxSize bucket else front :: bucket

theorem pushBounded_eq_makeRoom {bucket : List MessagePtr} {maxSize : ℕ} (msg : MessagePtr)
    (h : maxSize ≠ 0) : pushBounded bucket msg maxSize = makeRoom maxSize bucket ++ [msg] := by
  have hroom : ∀ bucket, makeRoom maxSize bucket = bucket.drop (bucket.length + 1 - maxSize) := by
    intro bucket
    induction bucket with
    | nil => exact List.drop_nil.symm
    | cons front bucket ih =>
      rw [makeRoom, List.length_cons]
      split_ifs with hfull
      · have hsucc : bucket.length + 1 + 1 - maxSize = bucket.length + 1 - maxSize + 1 := by omega
        rw [ih, hsucc, List.drop_succ_cons]
      · have hzero : bucket.length + 1 + 1 - maxSize = 0 := by omega
        rw [hzero, List.drop_zero]
  rw [pushBounded, if_neg h, hroom]

/-! ## The line and the queue -/

/-- After any calls: the queue has answered as the line does, a bucket is the messages of
its priority that are left in the line and is within its bound, every message that has
been pushed is gone or left in the order of its priority, those that are gone without
having been displaced are those that have been returned, and further pops return all
that is left. -/
theorem message_queue_line (calls : List QueueCall) :
    (answers PriorityMessageQueue.serve Buckets.empty calls).1 =
        (answers SendLine.serve .empty calls).1 ∧
      (∀ priority, (answers PriorityMessageQueue.serve Buckets.empty calls).2.bucket priority =
          ofPriority priority (answers SendLine.serve .empty calls).2.remaining ∧
        ((answers PriorityMessageQueue.serve Buckets.empty calls).2.bucket priority).length ≤
          queueMaxSize) ∧
      (∀ priority,
        ofPriority priority ((answers SendLine.serve .empty calls).2.gone.map Prod.snd) ++
            (answers PriorityMessageQueue.serve Buckets.empty calls).2.bucket priority =
          ofPriority priority (pushedMessages calls)) ∧
      (answers PriorityMessageQueue.serve Buckets.empty calls).1.reduceOption =
        (answers SendLine.serve .empty calls).2.returned ∧
      ∃ n, ∀ priority, (answers PriorityMessageQueue.serve Buckets.empty
        (calls ++ List.replicate n .pop)).2.bucket priority = [] := by
  have hsame := fun calls => answers_related (R := Stands) (fun _ _ call h => serve_stands h call)
    stands_empty calls
  rcases hsame calls with ⟨hanswers, hstands⟩
  rcases line_accounted calls with ⟨hknown, hreturned⟩
  refine ⟨hanswers, hstands, ?_, ?_, ?_⟩
  · intro priority
    rw [(hstands priority).1]
    exact hknown priority
  · rw [hanswers, hreturned]
  · refine ⟨(answers SendLine.serve .empty calls).2.remaining.length, ?_⟩
    intro priority
    rw [((hsame _).2 priority).1, answers_append, drained _ (Nat.le_refl _)]
    rfl

end CCMeeting
