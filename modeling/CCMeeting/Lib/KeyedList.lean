import Mathlib.Data.List.Basic
import Mathlib.Data.List.Nodup
import Mathlib.Data.List.Perm.Basic

/-! # Lists with distinct keys

The model of a hash map whose values know their own key: a list of values no
two of which share a key. The order of the list is the iteration order, which
an insertion may change to any other one (a rehash); an erasure keeps it.
-/

universe u v

/-- A list whose elements have pairwise different keys. -/
structure KeyedList {α : Type u} {κ : Type v} (key : α → κ) where
  toList : List α
  nodup : (toList.map key).Nodup

namespace KeyedList

variable {α : Type u} {κ : Type v} {key : α → κ}

instance : Membership α (KeyedList key) := ⟨fun l x => x ∈ l.toList⟩

instance : EmptyCollection (KeyedList key) := ⟨⟨[], List.nodup_nil⟩⟩

theorem mem_def {l : KeyedList key} {x : α} : x ∈ l ↔ x ∈ l.toList := Iff.rfl

@[simp] theorem toList_empty : (∅ : KeyedList key).toList = [] := rfl

@[simp] theorem notMem_empty (x : α) : x ∉ (∅ : KeyedList key) := by
  simp [mem_def]

/-- Two elements with one key are one element. -/
theorem eq_of_key {l : KeyedList key} {x y : α} (hx : x ∈ l) (hy : y ∈ l)
    (h : key x = key y) : x = y :=
  List.inj_on_of_nodup_map l.nodup hx hy h

/-- Where one element is gone, the rest have other keys. -/
theorem key_ne_of_perm {l l' : KeyedList key} {x y : α} (h : l.toList.Perm (x :: l'.toList))
    (hy : y ∈ l') : key y ≠ key x := by
  have hnodup := l.nodup
  rw [(h.map key).nodup_iff, List.map_cons, List.nodup_cons] at hnodup
  intro hkey
  exact hnodup.1 (hkey ▸ List.mem_map_of_mem hy)

/-- Two ways to make elements of a list, with the same keys, give the same elements
when they give the same for each. -/
theorem map_perm_map_iff (key : α → κ) {β : Type*} {as : List β} {f g : β → α}
    (hd : (as.map fun a => key (f a)).Nodup) (hkey : ∀ a ∈ as, key (g a) = key (f a)) :
    (as.map f).Perm (as.map g) ↔ ∀ a ∈ as, f a = g a := by
  constructor
  · intro h a ha
    rcases List.mem_map.mp (h.mem_iff.mp (List.mem_map_of_mem ha)) with ⟨b, hb, hba⟩
    have hab : b = a := by
      apply List.inj_on_of_nodup_map hd hb ha
      rw [← hkey b hb, hba]
    rw [← hba, hab]
  · intro h
    rw [List.map_congr_left h]

/-- An iteration order: any rearrangement of the elements. -/
structure Order (α : Type u) where
  arrange : List α → List α
  perm : ∀ l, (arrange l).Perm l

/-- The order that leaves the list as it is. -/
def Order.keep (α : Type u) : Order α := ⟨id, fun l => List.Perm.refl l⟩

variable [DecidableEq κ]

/-- The element under a key. -/
def find (l : KeyedList key) (k : κ) : Option α := l.toList.find? (fun x => key x = k)

theorem find_eq_some {l : KeyedList key} {k : κ} {x : α} :
    l.find k = some x ↔ x ∈ l ∧ key x = k := by
  constructor
  · intro h
    exact ⟨List.mem_of_find?_eq_some h, by simpa using List.find?_some h⟩
  · rintro ⟨hx, rfl⟩
    cases hf : l.find (key x) with
    | none =>
      have := List.find?_eq_none.mp hf x hx
      simp at this
    | some y =>
      have hy : key y = key x := by simpa using List.find?_some hf
      rw [eq_of_key (List.mem_of_find?_eq_some hf) hx hy]

theorem find_eq_none {l : KeyedList key} {k : κ} :
    l.find k = none ↔ ∀ x ∈ l, key x ≠ k := by
  simp [find, mem_def]

@[simp] theorem find_empty (k : κ) : (∅ : KeyedList key).find k = none := rfl

/-- Insertion of a value whose key is not taken; a taken key keeps its value. -/
def emplace (l : KeyedList key) (x : α) (order : Order α) : KeyedList key :=
  if h : l.find (key x) = none then
    { toList := order.arrange (x :: l.toList)
      nodup := by
        have hp := (order.perm (x :: l.toList)).map key
        rw [hp.nodup_iff, List.map_cons, List.nodup_cons]
        refine ⟨?_, l.nodup⟩
        intro hmem
        obtain ⟨y, hy, hyx⟩ := List.mem_map.mp hmem
        exact find_eq_none.mp h y hy hyx }
  else l

theorem emplace_perm {l : KeyedList key} {x : α} {order : Order α}
    (h : l.find (key x) = none) : (l.emplace x order).toList.Perm (x :: l.toList) := by
  rw [emplace, dif_pos h]
  exact order.perm _

theorem mem_emplace {l : KeyedList key} {x y : α} {order : Order α}
    (h : l.find (key x) = none) : y ∈ l.emplace x order ↔ y = x ∨ y ∈ l := by
  rw [mem_def, (emplace_perm h).mem_iff, List.mem_cons, mem_def]

theorem find_emplace_self {l : KeyedList key} {x : α} (order : Order α)
    (h : l.find (key x) = none) : (l.emplace x order).find (key x) = some x :=
  find_eq_some.mpr ⟨(mem_emplace h).mpr (Or.inl rfl), rfl⟩

/-- An insertion leaves the other keys as they are. -/
theorem find_emplace_of_ne {l : KeyedList key} {x : α} (order : Order α) {k : κ}
    (h : l.find (key x) = none) (hk : key x ≠ k) : (l.emplace x order).find k = l.find k := by
  cases hf : l.find k with
  | some y =>
    obtain ⟨hy, rfl⟩ := find_eq_some.mp hf
    exact find_eq_some.mpr ⟨(mem_emplace h).mpr (Or.inr hy), rfl⟩
  | none =>
    rw [find_eq_none]
    intro y hy
    rcases (mem_emplace h).mp hy with rfl | hy
    · exact hk
    · exact find_eq_none.mp hf y hy

/-- Removal by key. -/
def erase (l : KeyedList key) (k : κ) : KeyedList key where
  toList := l.toList.filter (fun x => key x ≠ k)
  nodup := l.nodup.sublist (List.filter_sublist.map key)

@[simp] theorem mem_erase {l : KeyedList key} {k : κ} {x : α} :
    x ∈ l.erase k ↔ x ∈ l ∧ key x ≠ k := by
  simp [mem_def, erase]

@[simp] theorem find_erase_self (l : KeyedList key) (k : κ) : (l.erase k).find k = none := by
  rw [find_eq_none]
  intro x hx
  exact (mem_erase.mp hx).2

theorem find_erase_of_ne {l : KeyedList key} {k k' : κ} (hk : k' ≠ k) :
    (l.erase k).find k' = l.find k' := by
  cases hf : l.find k' with
  | some y =>
    obtain ⟨hy, rfl⟩ := find_eq_some.mp hf
    exact find_eq_some.mpr ⟨mem_erase.mpr ⟨hy, hk⟩, rfl⟩
  | none =>
    rw [find_eq_none]
    intro y hy
    exact find_eq_none.mp hf y (mem_erase.mp hy).1

/-- Erasing the key of `x` takes exactly `x` out. -/
theorem perm_cons_erase {l : KeyedList key} {x : α} (h : x ∈ l) :
    l.toList.Perm (x :: (l.erase (key x)).toList) := by
  classical
  have hnd : l.toList.Nodup := l.nodup.of_map
  rw [List.perm_ext_iff_of_nodup hnd]
  · intro y
    simp only [List.mem_cons, ← mem_def, mem_erase]
    constructor
    · intro hy
      by_cases hk : key y = key x
      · exact Or.inl (eq_of_key hy h hk)
      · exact Or.inr ⟨hy, hk⟩
    · rintro (rfl | ⟨hy, _⟩)
      · exact h
      · exact hy
  · rw [List.nodup_cons]
    refine ⟨?_, (l.erase (key x)).nodup.of_map⟩
    simp [← mem_def]

/-- The elements under some keys are those that are found there. -/
theorem filter_perm_filterMap_find {l : KeyedList key} {ks : List κ} (hd : ks.Nodup)
    {p : α → Bool} (hp : ∀ x ∈ l, p x = true ↔ key x ∈ ks) :
    (l.toList.filter p).Perm (ks.filterMap l.find) := by
  rw [List.perm_ext_iff_of_nodup (l.nodup.of_map.filter _)]
  · intro x
    rw [List.mem_filter, List.mem_filterMap]
    constructor
    · intro hx
      exact ⟨key x, (hp x hx.1).mp hx.2, find_eq_some.mpr ⟨hx.1, rfl⟩⟩
    · rintro ⟨k, hk, hfind⟩
      rcases find_eq_some.mp hfind with ⟨hx, rfl⟩
      exact ⟨hx, (hp x hx).mpr hk⟩
  · refine hd.filterMap ?_
    intro k k' x hx hx'
    rw [← (find_eq_some.mp hx).2, (find_eq_some.mp hx').2]

/-- Change the element under a key in place. -/
def modify (l : KeyedList key) (k : κ) (f : α → α) (hf : ∀ x, key (f x) = key x) :
    KeyedList key where
  toList := l.toList.map (fun x => if key x = k then f x else x)
  nodup := by
    have hkey : key ∘ (fun x => if key x = k then f x else x) = key := by
      funext x
      by_cases h : key x = k <;> simp [h, hf]
    rw [List.map_map, hkey]
    exact l.nodup

theorem mem_modify {l : KeyedList key} {k : κ} {f : α → α} {hf : ∀ x, key (f x) = key x}
    {y : α} : y ∈ l.modify k f hf ↔ ∃ x ∈ l, (if key x = k then f x else x) = y := by
  simp [mem_def, modify]

end KeyedList
