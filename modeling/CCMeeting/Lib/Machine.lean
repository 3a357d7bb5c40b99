import Mathlib.Data.List.Induction
import Mathlib.Data.List.Zip

/-! # Machines that answer requests

A machine takes a request in a state, answers it and goes on in another state.
One machine refines another along an abstraction of its states: where a request
meets a condition of the abstract machine, both answer it alike and the
abstraction commutes with the step. Then whole runs have equal answers.
-/

namespace Machine

universe u v w x

variable {σ : Type u} {τ : Type v} {ι : Type w} {ο : Type x}

/-- The answers to a list of requests, and the state they lead to. -/
def answers (next : σ → ι → ο × σ) : σ → List ι → List ο × σ
  | s, [] => ([], s)
  | s, i :: is => ((next s i).1 :: (answers next (next s i).2 is).1, (answers next (next s i).2 is).2)

/-- The requests with their answers. -/
def transcript (next : σ → ι → ο × σ) (s : σ) (is : List ι) : List (ι × ο) :=
  is.zip (answers next s is).1

theorem length_answers (next : σ → ι → ο × σ) (s : σ) (is : List ι) :
    (answers next s is).1.length = is.length := by
  induction is generalizing s with
  | nil => rfl
  | cons i is ih => exact congrArg Nat.succ (ih _)

theorem answers_snoc (next : σ → ι → ο × σ) (s : σ) (is : List ι) (i : ι) :
    answers next s (is ++ [i]) =
      ((answers next s is).1 ++ [(next (answers next s is).2 i).1],
        (next (answers next s is).2 i).2) := by
  induction is generalizing s with
  | nil => rfl
  | cons i' is ih => simp only [List.cons_append, answers, ih]

theorem transcript_snoc (next : σ → ι → ο × σ) (s : σ) (is : List ι) (i : ι) :
    transcript next s (is ++ [i]) =
      transcript next s is ++ [(i, (next (answers next s is).2 i).1)] := by
  unfold transcript
  rw [answers_snoc, List.zip_append (length_answers next s is).symm]
  rfl

/-- What holds of the empty transcript and is kept by every request holds of
every run. -/
theorem transcript_induction {next : σ → ι → ο × σ} {J : List (ι × ο) → σ → Prop} {s : σ}
    (hnil : J [] s)
    (hsnoc : ∀ h t i, J h t → J (h ++ [(i, (next t i).1)]) (next t i).2) (is : List ι) :
    J (transcript next s is) (answers next s is).2 := by
  induction is using List.reverseRecOn with
  | nil => exact hnil
  | append_singleton is i ih =>
    rw [transcript_snoc, answers_snoc]
    exact hsnoc _ _ _ ih

/-- Every request meets the condition in the state it finds. -/
def AllMeet (next : σ → ι → ο × σ) (C : σ → ι → Prop) : σ → List ι → Prop
  | _, [] => True
  | s, i :: is => C s i ∧ AllMeet next C (next s i).2 is

/-- `abs` carries the steps of `next` from states with `I` into steps of
`next'`, as long as the condition `C` of the abstract machine is met. -/
structure Refines (next : σ → ι → ο × σ) (next' : τ → ι → ο × τ) (C : τ → ι → Prop)
    (I : σ → Prop) (abs : σ → τ) : Prop where
  kept : ∀ {s i}, I s → C (abs s) i → I (next s i).2
  answer : ∀ {s i}, I s → C (abs s) i → (next s i).1 = (next' (abs s) i).1
  commutes : ∀ {s i}, I s → C (abs s) i → abs (next s i).2 = (next' (abs s) i).2

variable {next : σ → ι → ο × σ} {next' : τ → ι → ο × τ} {C : τ → ι → Prop} {I : σ → Prop}
  {abs : σ → τ}

/-- Equal answers along a whole run, and the abstraction at its end. -/
theorem Refines.run (h : Refines next next' C I abs) {s : σ} (hs : I s) {is : List ι}
    (hC : AllMeet next' C (abs s) is) :
    (answers next s is).1 = (answers next' (abs s) is).1 ∧
    abs (answers next s is).2 = (answers next' (abs s) is).2 ∧ I (answers next s is).2 := by
  induction is generalizing s with
  | nil => exact ⟨rfl, rfl, hs⟩
  | cons i is ih =>
    rcases hC with ⟨hi, his⟩
    rw [← h.commutes hs hi] at his
    rcases ih (h.kept hs hi) his with ⟨hanswers, habs, hI⟩
    refine ⟨?_, ?_, hI⟩
    · show (next s i).1 :: _ = (next' (abs s) i).1 :: _
      rw [h.answer hs hi, hanswers, h.commutes hs hi]
    · show abs (answers next (next s i).2 is).2 = (answers next' (next' (abs s) i).2 is).2
      rw [habs, h.commutes hs hi]

/-- Where related states answer alike and stay related, so do whole runs. -/
theorem answers_related {R : σ → τ → Prop}
    (hstep : ∀ s t i, R s t → (next s i).1 = (next' t i).1 ∧ R (next s i).2 (next' t i).2)
    {s : σ} {t : τ} (h : R s t) (is : List ι) :
    (answers next s is).1 = (answers next' t is).1 ∧
      R (answers next s is).2 (answers next' t is).2 := by
  induction is generalizing s t with
  | nil => exact ⟨rfl, h⟩
  | cons i is ih =>
    rcases hstep s t i h with ⟨hanswer, hnext⟩
    rcases ih hnext with ⟨hanswers, hlast⟩
    exact ⟨congrArg₂ List.cons hanswer hanswers, hlast⟩

theorem answers_append (next : σ → ι → ο × σ) (s : σ) (is js : List ι) :
    (answers next s (is ++ js)).2 = (answers next (answers next s is).2 js).2 := by
  induction is generalizing s with
  | nil => rfl
  | cons i is ih => exact ih _

end Machine
