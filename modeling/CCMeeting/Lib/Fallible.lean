import Mathlib.Logic.Relation

/-! # Computations that may fail

Inversion of a computation in `Except` that has returned: what came before it
has returned too, and a loop that returned went through its rounds one after
the other.
-/

namespace Fallible

universe u v w

variable {ε : Type u} {α β : Type v} {σ : Type v} {ι : Type w}

/-- A sequence returns when its parts do. -/
theorem bind_eq_ok_iff {x : Except ε α} {f : α → Except ε β} {b : β} :
    x >>= f = .ok b ↔ ∃ a, x = .ok a ∧ f a = .ok b := by
  cases x <;> simp [bind, Except.bind]

theorem mapError_eq_ok_iff {δ : Type w} {g : ε → δ} {x : Except ε α} {a : α} :
    x.mapError g = .ok a ↔ x = .ok a := by
  cases x with
  | error e =>
    show Except.error (g e) = .ok a ↔ _
    simp
  | ok b =>
    show Except.ok b = .ok a ↔ _
    simp

/-- What every round of a loop relates, and what holds of rounds in a row, the
whole loop relates. -/
theorem foldlM_related {R : σ → σ → Prop} {f : σ → ι → Except ε σ}
    (hround : ∀ {s s' : σ} {i : ι}, f s i = .ok s' → Relation.ReflTransGen R s s') {is : List ι}
    {s s' : σ} (h : is.foldlM f s = .ok s') : Relation.ReflTransGen R s s' := by
  induction is generalizing s with
  | nil =>
    cases h
    exact .refl
  | cons i is ih =>
    rw [List.foldlM_cons, bind_eq_ok_iff] at h
    obtain ⟨t, hi, his⟩ := h
    exact (hround hi).trans (ih his)

end Fallible
