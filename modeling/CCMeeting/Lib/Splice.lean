import Mathlib.Data.List.Basic
import Mathlib.Data.Nat.Notation

/-! # Pieces of a list, and pieces put in the place of others

A piece stays what it is where a list is changed behind it, or before it by as much as
is taken out.
-/

namespace Splice

universe u

variable {α : Type u}

/-- What lies between two positions. -/
def slice (l : List α) (first last : ℕ) : List α := (l.take last).drop first

/-- `ins` in the place of what lies between two positions. -/
def splice (l : List α) (first last : ℕ) (ins : List α) : List α :=
  l.take first ++ (ins ++ l.drop last)

theorem length_splice {l : List α} {first last : ℕ} (ins : List α) (h : first ≤ last)
    (hl : last ≤ l.length) :
    (splice l first last ins).length + (last - first) = l.length + ins.length := by
  rw [splice, List.length_append, List.length_append, List.length_take, List.length_drop]
  omega

theorem splice_nil_self (l : List α) (first : ℕ) : splice l first first [] = l := by
  rw [splice, List.nil_append, List.take_append_drop]

theorem splice_length_self (l ins : List α) : splice l l.length l.length ins = l ++ ins := by
  rw [splice, List.take_length, List.drop_length, List.append_nil]

theorem slice_append {l : List α} {second : ℕ} (first : ℕ) (h : second ≤ l.length) (l' : List α) :
    slice (l ++ l') first second = slice l first second := by
  rw [slice, slice, List.take_append_of_le_length h]

/-- A change behind the piece. -/
theorem slice_splice_behind {l : List α} {b i : ℕ} (a j : ℕ) (h : b ≤ i) (hb : b ≤ l.length)
    (ins : List α) : slice (splice l i j ins) a b = slice l a b := by
  have hlength : b ≤ (l.take i).length := by
    rw [List.length_take]
    omega
  rw [splice, slice_append a hlength, slice, slice, List.take_take, Nat.min_eq_left h]

/-- A change before the piece, with as much put in as is taken out. -/
theorem slice_splice_before {l : List α} {a i j : ℕ} (b : ℕ) (hij : i ≤ j) (h : j ≤ a)
    (ha : a ≤ l.length) {ins : List α} (hins : ins.length = j - i) :
    slice (splice l i j ins) a b = slice l a b := by
  have hfront : (l.take i ++ ins).length = j := by
    rw [List.length_append, List.length_take]
    omega
  have hback : j + (a - j) = a := by omega
  rw [slice, slice, List.drop_take, List.drop_take, splice, ← List.append_assoc,
    List.drop_append, List.drop_eq_nil_of_le (by omega), hfront, List.nil_append, List.drop_drop,
    hback]

end Splice
