import Mathlib.Data.List.Sort

/-! # Lists with the newest first

Elements have a rank, the later the higher. Where no two of a list share a rank, only
one order has the newest first, so that lists which come by it in different ways are
the same list.
-/

namespace Newest

variable {α : Type} {rank : α → ℕ} {l l₁ l₂ : List α}

/-- Every element is newer than those behind it. -/
def Strict (rank : α → ℕ) (l : List α) : Prop := l.Pairwise fun a b => rank b < rank a

/-- No two elements share a rank. -/
def Distinct (rank : α → ℕ) (l : List α) : Prop := l.Pairwise fun a b => rank a ≠ rank b

/-- The newest first; elements of one rank stay in order. -/
def sort (rank : α → ℕ) (l : List α) : List α := l.insertionSort fun a b => rank b ≤ rank a

theorem sort_perm (l : List α) : (sort rank l).Perm l := List.perm_insertionSort ..

@[simp] theorem mem_sort {a : α} : a ∈ sort rank l ↔ a ∈ l := (sort_perm l).mem_iff

@[simp] theorem length_sort : (sort rank l).length = l.length := (sort_perm l).length_eq

theorem sort_sorted (l : List α) : (sort rank l).Pairwise fun a b => rank b ≤ rank a := by
  have : Std.Total fun a b : α => rank b ≤ rank a := ⟨fun a b => Nat.le_total (rank b) (rank a)⟩
  have : IsTrans α fun a b => rank b ≤ rank a := ⟨fun _ _ _ hab hbc => Nat.le_trans hbc hab⟩
  exact List.pairwise_insertionSort _ l

theorem sort_sort : sort rank (sort rank l) = sort rank l := (sort_sorted l).insertionSort_eq

theorem Distinct.perm (hd : Distinct rank l₁) (h : l₁.Perm l₂) : Distinct rank l₂ :=
  List.Pairwise.perm hd h fun hne => hne.symm

theorem Distinct.nodup (hd : Distinct rank l) : l.Nodup := by
  refine List.Pairwise.imp ?_ hd
  intro a b hne heq
  exact hne (congrArg rank heq)

theorem Strict.distinct (hs : Strict rank l) : Distinct rank l :=
  List.Pairwise.imp (fun hlt => Nat.ne_of_gt hlt) hs

theorem Distinct.strict (hd : Distinct rank l) (hs : l.Pairwise fun a b => rank b ≤ rank a) :
    Strict rank l := by
  refine List.Pairwise.imp₂ ?_ hs hd
  intro a b hle hne
  exact Nat.lt_of_le_of_ne hle hne.symm

/-- Two lists of the same elements that have the newest first are one list. -/
theorem Strict.eq_of_perm (h₁ : Strict rank l₁) (h₂ : Strict rank l₂) (h : l₁.Perm l₂) :
    l₁ = l₂ := by
  refine List.Perm.eq_of_pairwise ?_ h₁ h₂ h
  intro a b _ _ hab hba
  exact absurd hab (Nat.lt_asymm hba)

theorem Distinct.sort_strict (hd : Distinct rank l) : Strict rank (sort rank l) :=
  (hd.perm (sort_perm l).symm).strict (sort_sorted l)

/-- What is sorted already, in whatever way, is what sorting gives. -/
theorem Strict.eq_sort (hs : Strict rank l₁) (h : l₁.Perm l₂) : l₁ = sort rank l₂ := by
  have hd := hs.distinct.perm h
  exact hs.eq_of_perm hd.sort_strict (h.trans (sort_perm l₂).symm)

theorem Distinct.sort_eq_of_perm (hd : Distinct rank l₁) (h : l₁.Perm l₂) :
    sort rank l₁ = sort rank l₂ :=
  hd.sort_strict.eq_sort ((sort_perm l₁).trans h)

/-- Among the elements that have a property the order is the same. -/
theorem Distinct.filter_sort (hd : Distinct rank l) (p : α → Bool) :
    (sort rank l).filter p = sort rank (l.filter p) :=
  Strict.eq_sort (hd.sort_strict.filter p) ((sort_perm l).filter p)

/-- Where no two elements share a key, those with a key of the first `n` are the
first `n`. -/
theorem filter_mem_take {β : Type} [DecidableEq β] {key : α → β} (hd : (l.map key).Nodup) (n : ℕ) :
    (l.filter fun a => key a ∈ (l.take n).map key) = l.take n := by
  rw [← List.take_append_drop n l, List.map_append] at hd
  have hdisjoint := (List.nodup_append.mp hd).2.2
  conv_lhs => rw [← List.take_append_drop n l]
  rw [List.filter_append, List.take_append_drop, List.filter_eq_self.mpr, List.filter_eq_nil_iff.mpr,
    List.append_nil]
  · intro a hdrop
    rw [decide_eq_true_eq]
    intro htake
    exact hdisjoint _ htake _ (List.mem_map_of_mem hdrop) rfl
  · intro a htake
    rw [decide_eq_true_eq]
    exact List.mem_map_of_mem htake

/-- Where a new element is newer than all that are left out, it makes no difference
whether they are left out before or after it is added. -/
theorem Distinct.sort_cons_take {r : α} {n : ℕ} (hd : Distinct rank (r :: l))
    (hnew : ∀ a ∈ (sort rank l).drop n, rank a < rank r) :
    sort rank (r :: (sort rank l).take n) = (sort rank (r :: l)).take (n + 1) := by
  have hl : Distinct rank l := (List.pairwise_cons.mp hd).2
  have hperm : (r :: ((sort rank l).take n ++ (sort rank l).drop n)).Perm (r :: l) := by
    rw [List.take_append_drop]
    exact (sort_perm l).cons r
  have hall : Distinct rank (r :: ((sort rank l).take n ++ (sort rank l).drop n)) :=
    hd.perm hperm.symm
  rw [← List.cons_append] at hall hperm
  have hkept : Distinct rank (r :: (sort rank l).take n) := (List.pairwise_append.mp hall).1
  have hsorted := hl.sort_strict
  rw [← List.take_append_drop n (sort rank l)] at hsorted
  have hparts := List.pairwise_append.mp hsorted
  have hstrict : Strict rank (sort rank (r :: (sort rank l).take n) ++ (sort rank l).drop n) := by
    refine List.pairwise_append.mpr ⟨hkept.sort_strict, hparts.2.1, ?_⟩
    intro a ha b hb
    rcases List.mem_cons.mp (mem_sort.mp ha) with rfl | ha
    · exact hnew b hb
    · exact hparts.2.2 a ha b hb
  have heq := hstrict.eq_sort (((sort_perm _).append_right _).trans hperm)
  rw [← heq]
  rcases Nat.lt_or_ge (sort rank l).length n with hshort | hlong
  · have hdrop : (sort rank l).drop n = [] := List.drop_eq_nil_of_le hshort.le
    have hlength : (sort rank (r :: (sort rank l).take n)).length ≤ n + 1 := by
      rw [length_sort, List.length_cons, List.length_take]
      omega
    rw [hdrop, List.append_nil, List.take_of_length_le hlength]
  · have hlength : (sort rank (r :: (sort rank l).take n)).length = n + 1 := by
      rw [length_sort, List.length_cons, List.length_take, Nat.min_eq_left hlong]
    rw [List.take_left' hlength]

/-! ## The first element with a property -/

/-- The first element with the property becomes another one. -/
def modifyFirst (p : α → Bool) (f : α → α) : List α → List α
  | [] => []
  | a :: l => if p a then f a :: l else a :: modifyFirst p f l

theorem modifyFirst_of_none {p : α → Bool} {f : α → α} (h : l.find? p = none) :
    modifyFirst p f l = l := by
  induction l with
  | nil => rfl
  | cons a l ih =>
    rw [List.find?_cons] at h
    unfold modifyFirst
    cases hp : p a with
    | true =>
      rw [hp] at h
      cases h
    | false =>
      rw [hp] at h
      simp [ih h]

/-- Where no element occurs twice, it is the only one that changes. -/
theorem modifyFirst_of_some [DecidableEq α] {p : α → Bool} {f : α → α} {x : α} (hd : l.Nodup)
    (h : l.find? p = some x) : modifyFirst p f l = l.map fun a => if a = x then f a else a := by
  induction l with
  | nil => cases h
  | cons a l ih =>
    have hnodup := List.nodup_cons.mp hd
    rw [List.find?_cons] at h
    unfold modifyFirst
    cases hp : p a with
    | true =>
      rw [hp] at h
      rcases Option.some.inj h with rfl
      have hrest : l.map (fun b => if b = a then f b else b) = l := by
        refine List.map_congr_left (g := id) ?_ |>.trans (List.map_id l)
        intro b hb
        refine if_neg ?_
        rintro rfl
        exact hnodup.1 hb
      simp [hrest]
    | false =>
      rw [hp] at h
      have hne : a ≠ x := by
        rintro rfl
        rw [List.find?_some h] at hp
        cases hp
      simp [ih hnodup.2 h, hne]

end Newest
