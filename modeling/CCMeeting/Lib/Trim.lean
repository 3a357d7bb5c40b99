import Mathlib.Data.List.DropRight
import Mathlib.Data.List.Infix

/-! # Trimming

A list without the blanks at its two ends, for any notion of a blank. What is
left of a list that is not blank begins and ends with something else; appending
to it trims only what was appended.
-/

namespace Trim

universe u

variable {α : Type u} {p : α → Bool}

/-- Nothing but blanks. -/
def Blank (p : α → Bool) (l : List α) : Prop := ∀ x ∈ l, p x = true

instance (p : α → Bool) (l : List α) : Decidable (Blank p l) :=
  inferInstanceAs (Decidable (∀ x ∈ l, p x = true))

/-- The list without the blanks at its ends. -/
def trim (p : α → Bool) (l : List α) : List α := (l.dropWhile p).rdropWhile p

theorem Blank.append {l l' : List α} (h : Blank p l) (h' : Blank p l') : Blank p (l ++ l') := by
  intro x hx
  rcases List.mem_append.mp hx with hx | hx
  · exact h x hx
  · exact h' x hx

theorem blank_append_iff {l l' : List α} : Blank p (l ++ l') ↔ Blank p l ∧ Blank p l' :=
  List.forall_mem_append

/-! ## One end -/

theorem dropWhile_eq_nil {l : List α} : l.dropWhile p = [] ↔ Blank p l := List.dropWhile_eq_nil_iff

theorem rdropWhile_eq_nil {l : List α} : l.rdropWhile p = [] ↔ Blank p l :=
  List.rdropWhile_eq_nil_iff

theorem dropWhile_append_of_blank {l : List α} (h : Blank p l) (l' : List α) :
    (l ++ l').dropWhile p = l'.dropWhile p := by
  rw [List.dropWhile_append, dropWhile_eq_nil.mpr h]
  rfl

theorem dropWhile_append_of_not_blank {l : List α} (h : ¬Blank p l) (l' : List α) :
    (l ++ l').dropWhile p = l.dropWhile p ++ l' := by
  have hne : (l.dropWhile p).isEmpty = false := by
    rw [List.isEmpty_eq_false_iff]
    exact fun hnil => h (dropWhile_eq_nil.mp hnil)
  rw [List.dropWhile_append, hne]
  rfl

theorem blank_reverse {l : List α} : Blank p l.reverse ↔ Blank p l := by
  simp [Blank]

theorem rdropWhile_append_of_blank (l : List α) {l' : List α} (h : Blank p l') :
    (l ++ l').rdropWhile p = l.rdropWhile p := by
  rw [List.rdropWhile, List.reverse_append, dropWhile_append_of_blank (blank_reverse.mpr h)]
  rfl

theorem rdropWhile_append_of_not_blank (l : List α) {l' : List α} (h : ¬Blank p l') :
    (l ++ l').rdropWhile p = l ++ l'.rdropWhile p := by
  have h' : ¬Blank p l'.reverse := fun hb => h (blank_reverse.mp hb)
  rw [List.rdropWhile, List.reverse_append, dropWhile_append_of_not_blank h',
    List.reverse_append, List.reverse_reverse]
  rfl

/-- What is dropped at the front is blank. -/
theorem exists_blank_dropWhile (p : α → Bool) (l : List α) :
    ∃ w, Blank p w ∧ l = w ++ l.dropWhile p :=
  ⟨l.takeWhile p, fun _ hx => List.mem_takeWhile_imp hx, (List.takeWhile_append_dropWhile).symm⟩

/-- What is dropped at the end is blank. -/
theorem exists_blank_rdropWhile (p : α → Bool) (l : List α) :
    ∃ w, Blank p w ∧ l = l.rdropWhile p ++ w :=
  ⟨l.rtakeWhile p, fun _ hx => List.mem_rtakeWhile_imp hx,
    List.rdropWhile_append_rtakeWhile.symm⟩

/-! ## Both ends -/

@[simp] theorem trim_nil : trim p [] = [] := rfl

theorem trim_eq_nil {l : List α} : trim p l = [] ↔ Blank p l := by
  obtain ⟨w, hw, hl⟩ := exists_blank_dropWhile p l
  rw [trim, rdropWhile_eq_nil]
  constructor
  · intro h
    rw [hl]
    exact hw.append h
  · intro h
    rw [hl] at h
    exact (blank_append_iff.mp h).2

theorem trim_blank_append {w : List α} (h : Blank p w) (l : List α) :
    trim p (w ++ l) = trim p l := by
  rw [trim, dropWhile_append_of_blank h, trim]

theorem trim_append_blank (l : List α) {w : List α} (h : Blank p w) :
    trim p (l ++ w) = trim p l := by
  by_cases hl : Blank p l
  · rw [trim_eq_nil.mpr hl, trim_eq_nil.mpr (hl.append h)]
  · rw [trim, dropWhile_append_of_not_blank hl, rdropWhile_append_of_blank _ h, trim]

/-- Trimming at the end first comes to the same. -/
theorem dropWhile_rdropWhile (l : List α) : (l.rdropWhile p).dropWhile p = trim p l := by
  obtain ⟨w, hw, hl⟩ := exists_blank_rdropWhile p l
  by_cases hblank : Blank p l
  · rw [rdropWhile_eq_nil.mpr hblank, trim_eq_nil.mpr hblank]
    rfl
  · have hright : trim p l = trim p (l.rdropWhile p) := by
      conv_lhs => rw [hl]
      exact trim_append_blank _ hw
    have hne : l.rdropWhile p ≠ [] := fun h => hblank (rdropWhile_eq_nil.mp h)
    rw [hright, trim]
    refine (List.rdropWhile_eq_self_iff.mpr fun hl' => ?_).symm
    have hlast := List.rdropWhile_last_not p l hne
    rwa [List.IsSuffix.getLast (List.dropWhile_suffix p)] 

/-- Trimmed at both ends, and something is left. -/
structure Solid (p : α → Bool) (l : List α) : Prop where
  ne_nil : l ≠ []
  left : l.dropWhile p = l
  right : l.rdropWhile p = l

theorem solid_trim {l : List α} (h : ¬Blank p l) : Solid p (trim p l) where
  ne_nil := fun hnil => h (trim_eq_nil.mp hnil)
  left := by
    rw [← dropWhile_rdropWhile, List.dropWhile_idempotent]
  right := List.rdropWhile_idempotent p _

namespace Solid

variable {s : List α}

theorem not_blank (h : Solid p s) : ¬Blank p s := by
  intro hblank
  have hnil := dropWhile_eq_nil.mpr hblank
  rw [h.left] at hnil
  exact h.ne_nil hnil

/-- What stands at its end is not blank. -/
theorem not_blank_right {l l' : List α} (h : Solid p (l ++ l')) (hne : l' ≠ []) :
    ¬Blank p l' := by
  intro hblank
  have hlength := congrArg List.length h.right
  rw [rdropWhile_append_of_blank l hblank] at hlength
  have hle := (List.rdropWhile_prefix p (l := l)).length_le
  have hpos := List.length_pos_iff.mpr hne
  rw [List.length_append] at hlength
  omega

theorem dropWhile_append (h : Solid p s) (l : List α) : (s ++ l).dropWhile p = s ++ l := by
  rw [dropWhile_append_of_not_blank h.not_blank, h.left]

/-- Only what is appended is trimmed. -/
theorem trim_append (h : Solid p s) (l : List α) : trim p (s ++ l) = s ++ l.rdropWhile p := by
  rw [trim, h.dropWhile_append]
  by_cases hblank : Blank p l
  · rw [rdropWhile_append_of_blank s hblank, h.right, rdropWhile_eq_nil.mpr hblank,
      List.append_nil]
  · exact rdropWhile_append_of_not_blank s hblank

end Solid

/-- Of two beginnings of a list that are trimmed to the same, one goes on with
blanks only. -/
theorem rdropWhile_eq_of_prefix {l l' whole : List α} (h : l <+: whole) (h' : l' <+: whole)
    (htrim : trim p l = trim p l') : l.rdropWhile p = l'.rdropWhile p := by
  wlog hle : l.length ≤ l'.length with hother
  · exact (hother h' h htrim.symm (by omega)).symm
  obtain ⟨d, rfl⟩ := List.prefix_of_prefix_length_le h h' hle
  by_cases hblank : Blank p l
  · rw [trim_eq_nil.mpr hblank] at htrim
    rw [rdropWhile_eq_nil.mpr hblank, rdropWhile_eq_nil.mpr (trim_eq_nil.mp htrim.symm)]
  · rw [trim, trim, dropWhile_append_of_not_blank hblank] at htrim
    by_cases hd : Blank p d
    · exact (rdropWhile_append_of_blank l hd).symm
    · -- the longer one is trimmed to more
      rw [rdropWhile_append_of_not_blank _ hd] at htrim
      have hlength := congrArg List.length htrim
      have hle' := (List.rdropWhile_prefix p (l := l.dropWhile p)).length_le
      have hpos := List.length_pos_iff.mpr fun hnil => hd (rdropWhile_eq_nil.mp hnil)
      rw [List.length_append] at hlength
      omega

end Trim
