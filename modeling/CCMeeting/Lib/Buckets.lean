import Mathlib.Data.List.Count
import Mathlib.Data.List.Nodup

/-! # Queues with a bucket for each priority

What is put in goes to the back of the bucket of its priority and leaves from
the front. `Lined` says that nothing was lost on the way and that nothing
overtook another one of its priority.
-/

universe u v

/-- A bucket for each priority; nothing lies in a bucket that is not its own. -/
structure Buckets {α : Type u} {κ : Type v} (priority : α → κ) where
  bucket : κ → List α
  sorted : ∀ k, ∀ a ∈ bucket k, priority a = k

namespace Buckets

variable {α : Type u} {κ : Type v} [DecidableEq κ] {priority : α → κ}

/-- Nothing in any bucket. -/
def empty : Buckets priority where
  bucket _ := []
  sorted _ _ h := absurd h List.not_mem_nil

/-- The bucket of `k` replaced. -/
def set (q : Buckets priority) (k : κ) (as : List α) (has : ∀ a ∈ as, priority a = k) :
    Buckets priority where
  bucket j := if j = k then as else q.bucket j
  sorted j a ha := by
    by_cases hj : j = k
    · rw [if_pos hj] at ha
      rw [hj]
      exact has a ha
    · rw [if_neg hj] at ha
      exact q.sorted j a ha

@[simp] theorem bucket_set_self (q : Buckets priority) {k : κ} {as : List α}
    (has : ∀ a ∈ as, priority a = k) : (q.set k as has).bucket k = as := if_pos rfl

theorem bucket_set_of_ne (q : Buckets priority) {j k : κ} {as : List α}
    (has : ∀ a ∈ as, priority a = k) (h : j ≠ k) : (q.set k as has).bucket j = q.bucket j :=
  if_neg h

/-- `as` are the last of `all` that have not passed, bucket by bucket. -/
def Lined (q : Buckets priority) (passed all : List α) : Prop :=
  ∀ k, passed.filter (priority · = k) ++ q.bucket k = all.filter (priority · = k)

namespace Lined

variable {q q' : Buckets priority} {passed all : List α} {a : α}

theorem start : Lined (empty : Buckets priority) [] [] := fun _ => rfl

/-- Put in at the back. -/
theorem push (h : q.Lined passed all)
    (hself : q'.bucket (priority a) = q.bucket (priority a) ++ [a])
    (hother : ∀ k, k ≠ priority a → q'.bucket k = q.bucket k) : q'.Lined passed (all ++ [a]) := by
  intro k
  rw [List.filter_append]
  by_cases hk : k = priority a
  · subst hk
    rw [hself, ← List.append_assoc, h (priority a)]
    simp
  · have hne : priority a ≠ k := fun heq => hk heq.symm
    rw [hother k hk, h k]
    simp [hne]

/-- Taken from the front. -/
theorem pop (h : q.Lined passed all)
    (hself : q.bucket (priority a) = a :: q'.bucket (priority a))
    (hother : ∀ k, k ≠ priority a → q'.bucket k = q.bucket k) : q'.Lined (passed ++ [a]) all := by
  intro k
  rw [List.filter_append, ← h k]
  by_cases hk : k = priority a
  · subst hk
    rw [hself]
    simp
  · have hne : priority a ≠ k := fun heq => hk heq.symm
    rw [hother k hk]
    simp [hne]

/-- The last one taken is put back at the back, where nothing of its priority
has been left. -/
theorem giveBack (h : q.Lined (passed ++ [a]) all) (hempty : q.bucket (priority a) = [])
    (hself : q'.bucket (priority a) = q.bucket (priority a) ++ [a])
    (hother : ∀ k, k ≠ priority a → q'.bucket k = q.bucket k) : q'.Lined passed all := by
  intro k
  rw [← h k, List.filter_append]
  by_cases hk : k = priority a
  · subst hk
    rw [hself, hempty]
    simp
  · have hne : priority a ≠ k := fun heq => hk heq.symm
    rw [hother k hk]
    simp [hne]

/-- Those that have passed are the first of their priority, in order. -/
theorem isPrefix (h : q.Lined passed all) (k : κ) :
    passed.filter (priority · = k) <+: all.filter (priority · = k) := ⟨q.bucket k, h k⟩

/-- What was put in once is in one place, once. -/
theorem count [DecidableEq α] (h : q.Lined passed all) (hall : all.Nodup) (a : α) :
    passed.count a + (q.bucket (priority a)).count a = if a ∈ all then 1 else 0 := by
  have hfilter : ∀ l : List α, (l.filter (priority · = priority a)).count a = l.count a := by
    intro l
    exact List.count_filter (by simp)
  have hk := congrArg (List.count a) (h (priority a))
  rw [List.count_append, hfilter, hfilter] at hk
  rw [hk]
  exact hall.count

end Lined

/-! ## The same in one line

All that lies in the buckets, in the order in which it came: a bucket is what the line
has of its priority.
-/

section Line

variable {p p' : α → Bool}

/-- With the first one taken out, the line has the others. -/
theorem filter_eraseP_self (l : List α) : (l.eraseP p).filter p = (l.filter p).tail := by
  induction l with
  | nil => rfl
  | cons a l ih =>
    cases hp : p a with
    | true => rw [List.eraseP_cons_of_pos hp, List.filter_cons_of_pos hp, List.tail_cons]
    | false =>
      have hneg : ¬p a = true := by
        rw [hp]
        exact Bool.false_ne_true
      rw [List.eraseP_cons_of_neg hneg, List.filter_cons_of_neg hneg, List.filter_cons_of_neg hneg,
        ih]

/-- What is of another priority does not notice. -/
theorem filter_eraseP_of_disjoint (h : ∀ a, p a = true → p' a = false) (l : List α) :
    (l.eraseP p).filter p' = l.filter p' := by
  induction l with
  | nil => rfl
  | cons a l ih =>
    cases hp : p a with
    | true =>
      have hneg : ¬p' a = true := by
        rw [h a hp]
        exact Bool.false_ne_true
      rw [List.eraseP_cons_of_pos hp, List.filter_cons_of_neg hneg]
    | false =>
      have hneg : ¬p a = true := by
        rw [hp]
        exact Bool.false_ne_true
      rw [List.eraseP_cons_of_neg hneg, List.filter_cons, List.filter_cons, ih]

end Line

end Buckets
