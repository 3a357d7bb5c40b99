import Mathlib.Data.List.Dedup
import Mathlib.Data.List.Sort

/-! # Choosing from a list

What a loop over a list keeps: one copy of each element, in the order of the list
or ascending, the last index that meets a condition, the first element of the
least score.
-/

namespace Choice

universe u

variable {α : Type u}

/-! ## One copy of each -/

/-- One copy of each element, where it stands first. -/
def keepFirst [DecidableEq α] (l : List α) : List α :=
  l.foldl (fun kept x => if x ∈ kept then kept else kept ++ [x]) []

section KeepFirst

variable [DecidableEq α]

theorem mem_foldl_keepFirst {x : α} (l kept : List α) :
    x ∈ l.foldl (fun kept x => if x ∈ kept then kept else kept ++ [x]) kept ↔
      x ∈ kept ∨ x ∈ l := by
  induction l generalizing kept with
  | nil => simp
  | cons y l ih =>
    rw [List.foldl_cons, ih]
    split_ifs with hy
    · constructor
      · rintro (hx | hx)
        · exact Or.inl hx
        · exact Or.inr (List.mem_cons_of_mem _ hx)
      · rintro (hx | hx)
        · exact Or.inl hx
        · rcases List.mem_cons.mp hx with rfl | hx
          · exact Or.inl hy
          · exact Or.inr hx
    · simp [or_assoc]

@[simp] theorem mem_keepFirst {x : α} {l : List α} : x ∈ keepFirst l ↔ x ∈ l := by
  rw [keepFirst, mem_foldl_keepFirst]
  simp

end KeepFirst

/-- One copy of each element, in ascending order. -/
def ascending [LinearOrder α] (l : List α) : List α := l.dedup.insertionSort (· ≤ ·)

@[simp] theorem mem_ascending [LinearOrder α] {x : α} {l : List α} : x ∈ ascending l ↔ x ∈ l := by
  rw [ascending, List.mem_insertionSort, List.mem_dedup]

/-! ## The last index -/

/-- The index of the last element that meets `p`, and 0 where there is none. -/
def lastIndex (p : α → Bool) (l : List α) : ℕ :=
  l.zipIdx.foldl (fun select x => if p x.1 then x.2 else select) 0

section LastIndex

variable {p : α → Bool}

variable (p) in
theorem foldl_lastIndex (l : List (α × ℕ)) (select : ℕ) :
    l.foldl (fun select x => if p x.1 then x.2 else select) select = select ∧
        (∀ x ∈ l, p x.1 = false) ∨
      ∃ x ∈ l, p x.1 = true ∧
        l.foldl (fun select x => if p x.1 then x.2 else select) select = x.2 := by
  induction l generalizing select with
  | nil => exact Or.inl ⟨rfl, by simp⟩
  | cons y l ih =>
    rw [List.foldl_cons]
    rcases ih (if p y.1 then y.2 else select) with ⟨hsame, hnone⟩ | ⟨x, hx, hp, hselect⟩
    · cases hy : p y.1 with
      | true =>
        rw [hy, if_pos rfl] at hsame
        exact Or.inr ⟨y, List.mem_cons_self, hy, by rw [if_pos rfl]; exact hsame⟩
      | false =>
        rw [hy, if_neg Bool.false_ne_true] at hsame
        refine Or.inl ⟨by rw [if_neg Bool.false_ne_true]; exact hsame, ?_⟩
        exact List.forall_mem_cons.mpr ⟨hy, hnone⟩
    · exact Or.inr ⟨x, List.mem_cons_of_mem _ hx, hp, hselect⟩

/-- Where an element meets `p`, the one at the index does. -/
theorem getElem?_lastIndex {l : List α} (h : ∃ x ∈ l, p x = true) :
    ∃ x, l[lastIndex p l]? = some x ∧ p x = true := by
  rcases foldl_lastIndex p l.zipIdx 0 with ⟨_, hnone⟩ | ⟨x, hx, hp, hselect⟩
  · rcases h with ⟨y, hy, hpy⟩
    rcases List.getElem?_of_mem hy with ⟨i, hi⟩
    have hfalse := hnone (y, i) (List.mk_mem_zipIdx_iff_getElem?.mpr hi)
    rw [hpy] at hfalse
    cases hfalse
  · refine ⟨x.1, ?_, hp⟩
    rw [lastIndex, hselect]
    exact List.mk_mem_zipIdx_iff_getElem?.mp hx

variable (p) in
/-- The index is one of the list. -/
theorem lastIndex_lt {l : List α} (h : l ≠ []) : lastIndex p l < l.length := by
  rcases foldl_lastIndex p l.zipIdx 0 with ⟨hsame, _⟩ | ⟨x, hx, _, hselect⟩
  · rw [lastIndex, hsame]
    exact List.length_pos_iff.mpr h
  · rw [lastIndex, hselect]
    exact (List.getElem?_eq_some_iff.mp (List.mk_mem_zipIdx_iff_getElem?.mp hx)).1

end LastIndex

/-! ## The least score -/

/-- The first element of the least score, where one scores below the bound. -/
def least (score : α → ℤ) (bound : ℤ) (l : List α) : Option α :=
  (l.foldl (fun (best : ℤ × Option α) x => if score x < best.1 then (score x, some x) else best)
    (bound, none)).2

section Least

variable {score : α → ℤ}

theorem foldl_least (l : List α) (best : ℤ × Option α) :
    l.foldl (fun (best : ℤ × Option α) x =>
        if score x < best.1 then (score x, some x) else best) best = best ∧
        (∀ x ∈ l, best.1 ≤ score x) ∨
      ∃ x ∈ l, score x < best.1 ∧ (∀ y ∈ l, score x ≤ score y) ∧
        l.foldl (fun (best : ℤ × Option α) x =>
          if score x < best.1 then (score x, some x) else best) best = (score x, some x) := by
  induction l generalizing best with
  | nil => exact Or.inl ⟨rfl, by simp⟩
  | cons z l ih =>
    rw [List.foldl_cons]
    by_cases hz : score z < best.1
    · rw [if_pos hz]
      rcases ih (score z, some z) with ⟨hsame, hleast⟩ | ⟨x, hx, hlt, hleast, hfold⟩
      · refine Or.inr ⟨z, List.mem_cons_self, hz, ?_, hsame⟩
        exact List.forall_mem_cons.mpr ⟨le_refl _, hleast⟩
      · refine Or.inr ⟨x, List.mem_cons_of_mem _ hx, lt_trans hlt hz, ?_, hfold⟩
        exact List.forall_mem_cons.mpr ⟨le_of_lt hlt, hleast⟩
    · rw [if_neg hz]
      rcases ih best with ⟨hsame, hleast⟩ | ⟨x, hx, hlt, hleast, hfold⟩
      · exact Or.inl ⟨hsame, List.forall_mem_cons.mpr ⟨not_lt.mp hz, hleast⟩⟩
      · refine Or.inr ⟨x, List.mem_cons_of_mem _ hx, hlt, ?_, hfold⟩
        exact List.forall_mem_cons.mpr ⟨le_trans (le_of_lt hlt) (not_lt.mp hz), hleast⟩

variable (score) in
/-- Where an element scores below the bound, the choice is one that none beats. -/
theorem exists_least {bound : ℤ} {l : List α} (h : ∃ x ∈ l, score x < bound) :
    ∃ x ∈ l, least score bound l = some x ∧ ∀ y ∈ l, score x ≤ score y := by
  rcases foldl_least l (bound, none) with ⟨_, hleast⟩ | ⟨x, hx, _, hleast, hfold⟩
  · rcases h with ⟨y, hy, hlt⟩
    exact absurd hlt (not_lt.mpr (hleast y hy))
  · exact ⟨x, hx, by rw [least, hfold], hleast⟩

end Least

end Choice
