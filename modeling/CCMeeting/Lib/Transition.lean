import Mathlib.Logic.Basic
import Mathlib.Tactic.Cases

/-! # Labelled transition systems

Invariant induction, runs whose steps all meet a condition, history
variables, and the simulation rule that carries reachability from a coarse
system to a fine one. Nothing here knows what the states are.
-/

namespace Transition

universe u v w

/-- A transition system: the initial states and the labelled steps. -/
structure System (σ : Type u) (ε : Type v) where
  Init : σ → Prop
  Step : σ → ε → σ → Prop

variable {σ : Type u} {ε : Type v} {τ : Type u} {δ : Type v} {η : Type w}

/-- States some run from an initial state ends in. -/
inductive Reachable (T : System σ ε) : σ → Prop where
  | init {s : σ} : T.Init s → Reachable T s
  | step {s s' : σ} {e : ε} : Reachable T s → T.Step s e s' → Reachable T s'

/-- Finite runs between two states, with the labels in order. -/
inductive Run (T : System σ ε) : σ → List ε → σ → Prop where
  | nil (s : σ) : Run T s [] s
  | cons {s s' t : σ} {e : ε} {es : List ε} :
      T.Step s e s' → Run T s' es t → Run T s (e :: es) t

/-- A list of labels carried out by a function, where every step is enabled. -/
def replay (next : σ → ε → Option σ) : σ → List ε → Option σ
  | s, [] => some s
  | s, e :: es => (next s e).bind fun s' => replay next s' es

/-- A function that takes steps of the system replays its runs. -/
theorem Run.of_replay {T : System σ ε} {next : σ → ε → Option σ}
    (hnext : ∀ s e s', next s e = some s' → T.Step s e s') {s t : σ} {es : List ε}
    (h : replay next s es = some t) : Run T s es t := by
  induction es generalizing s with
  | nil =>
    cases h
    exact .nil _
  | cons e es ih =>
    obtain ⟨s', hs', ht⟩ := Option.bind_eq_some_iff.mp h
    exact .cons (hnext s e s' hs') (ih ht)

theorem replay_append (next : σ → ε → Option σ) (s : σ) (es fs : List ε) :
    replay next s (es ++ fs) = (replay next s es).bind fun t => replay next t fs := by
  induction es generalizing s with
  | nil => rfl
  | cons e es ih =>
    show (next s e).bind (fun s' => replay next s' (es ++ fs)) =
      ((next s e).bind fun s' => replay next s' es).bind fun t => replay next t fs
    rw [Option.bind_assoc]
    exact congrArg _ (funext ih)

/-! ## Invariants -/

/-- Standard invariant induction; the step case may use that the state before
the step is itself reachable, so that earlier invariants are at hand. -/
theorem Reachable.invariant {T : System σ ε} {I : σ → Prop}
    (hinit : ∀ s, T.Init s → I s)
    (hstep : ∀ s e s', Reachable T s → I s → T.Step s e s' → I s')
    {s : σ} (h : Reachable T s) : I s := by
  induction h with
  | init h0 => exact hinit _ h0
  | step hr hs ih => exact hstep _ _ _ hr ih hs

/-- What every step preserves, every run preserves. -/
theorem Run.invariant {T : System σ ε} {I : σ → Prop}
    (hstep : ∀ s e s', I s → T.Step s e s' → I s')
    {s t : σ} {es : List ε} (h : Run T s es t) (hs : I s) : I t := by
  induction h with
  | nil _ => exact hs
  | cons hst _ ih => exact ih (hstep _ _ _ hs hst)

theorem Run.reachable {T : System σ ε} {s t : σ} {es : List ε}
    (h : Run T s es t) (hs : Reachable T s) : Reachable T t :=
  Run.invariant (fun _ _ _ hr hst => Reachable.step hr hst) h hs

/-! ## Runs whose steps all meet a condition -/

/-- The steps of `T` that meet `C` in the state before the step. -/
def System.restrict (T : System σ ε) (C : σ → ε → Prop) : System σ ε where
  Init := T.Init
  Step s e s' := C s e ∧ T.Step s e s'

/-- `next`, where the condition is met. -/
def guarded (C : σ → ε → Prop) [∀ s e, Decidable (C s e)] (next : σ → ε → Option σ) (s : σ)
    (e : ε) : Option σ :=
  if C s e then next s e else none

theorem guarded_step {T : System σ ε} {C : σ → ε → Prop} [∀ s e, Decidable (C s e)]
    {next : σ → ε → Option σ} (hnext : ∀ s e s', next s e = some s' → T.Step s e s') {s s' : σ}
    {e : ε} (h : guarded C next s e = some s') : (T.restrict C).Step s e s' := by
  unfold guarded at h
  by_cases hC : C s e
  · rw [if_pos hC] at h
    exact ⟨hC, hnext _ _ _ h⟩
  · rw [if_neg hC] at h
    cases h

theorem Reachable.of_restrict {T : System σ ε} {C : σ → ε → Prop} {s : σ}
    (h : Reachable (T.restrict C) s) : Reachable T s := by
  induction h with
  | init h0 => exact .init h0
  | step _ hs ih => exact ih.step hs.2

/-- The steps of `T` to a state with `I`. -/
def System.within (T : System σ ε) (I : σ → Prop) : System σ ε where
  Init := T.Init
  Step s e s' := I s' ∧ T.Step s e s'

/-- Where a step preserves `I` exactly when it meets `C`, a run stays in `I`
exactly when its steps all meet `C`. The invariant `J` holds in any run. -/
theorem run_within_iff_of_invariant {T : System σ ε} {I J : σ → Prop} {C : σ → ε → Prop}
    (hinv : ∀ s e s', J s → T.Step s e s' → J s')
    (hstep : ∀ s e s', J s → I s → T.Step s e s' → (I s' ↔ C s e)) {s t : σ} {es : List ε}
    (hj : J s) (hs : I s) : Run (T.within I) s es t ↔ Run (T.restrict C) s es t := by
  constructor
  · intro h
    induction h with
    | nil s => exact .nil s
    | cons hst _ ih =>
      exact .cons ⟨(hstep _ _ _ hj hs hst.2).mp hst.1, hst.2⟩ (ih (hinv _ _ _ hj hst.2) hst.1)
  · intro h
    induction h with
    | nil s => exact .nil s
    | cons hst _ ih =>
      have hs' := (hstep _ _ _ hj hs hst.2).mpr hst.1
      exact .cons ⟨hs', hst.2⟩ (ih (hinv _ _ _ hj hst.2) hs')

theorem run_within_iff {T : System σ ε} {I : σ → Prop} {C : σ → ε → Prop}
    (hstep : ∀ s e s', I s → T.Step s e s' → (I s' ↔ C s e)) {s t : σ} {es : List ε} (hs : I s) :
    Run (T.within I) s es t ↔ Run (T.restrict C) s es t :=
  run_within_iff_of_invariant (J := fun _ => True) (fun _ _ _ _ _ => trivial)
    (fun s e s' _ => hstep s e s') trivial hs

/-- The steps of `T` of which `P` holds. -/
def System.filter (T : System σ ε) (P : σ → ε → σ → Prop) : System σ ε where
  Init := T.Init
  Step s e s' := P s e s' ∧ T.Step s e s'

/-- Where `P` holds of a step exactly when it meets `C`, it holds of all steps of a
run exactly when they all meet `C`. The invariant `J` holds in any run. -/
theorem run_filter_iff {T : System σ ε} {P : σ → ε → σ → Prop} {J : σ → Prop} {C : σ → ε → Prop}
    (hinv : ∀ s e s', J s → T.Step s e s' → J s')
    (hstep : ∀ s e s', J s → T.Step s e s' → (P s e s' ↔ C s e)) {s t : σ} {es : List ε}
    (hj : J s) : Run (T.filter P) s es t ↔ Run (T.restrict C) s es t := by
  constructor
  · intro h
    induction h with
    | nil s => exact .nil s
    | cons hst _ ih =>
      exact .cons ⟨(hstep _ _ _ hj hst.2).mp hst.1, hst.2⟩ (ih (hinv _ _ _ hj hst.2))
  · intro h
    induction h with
    | nil s => exact .nil s
    | cons hst _ ih =>
      exact .cons ⟨(hstep _ _ _ hj hst.2).mpr hst.1, hst.2⟩ (ih (hinv _ _ _ hj hst.2))

/-- A run whose steps all meet `C` stays in `I`, where such a step preserves it. -/
theorem Reachable.within_of_restrict {T : System σ ε} {I J : σ → Prop} {C : σ → ε → Prop}
    (hinv : ∀ s e s', J s → T.Step s e s' → J s')
    (hstep : ∀ s e s', J s → I s → T.Step s e s' → C s e → I s')
    (hinit : ∀ s, T.Init s → J s ∧ I s) {s : σ} (h : Reachable (T.restrict C) s) : I s := by
  have hboth : J s ∧ I s := by
    refine Reachable.invariant (T := T.restrict C) (I := fun s => J s ∧ I s) hinit ?_ h
    intro s e s' _ hs hst
    exact ⟨hinv s e s' hs.1 hst.2, hstep s e s' hs.1 hs.2 hst.2 hst.1⟩
  exact hboth.2

/-! ## History variables -/

/-- `T` with a history variable: a value no step of `T` reads, recorded from
the states and the label of each step. -/
def System.observe (T : System σ ε) (start : σ → η) (record : η → σ → ε → σ → η) :
    System (σ × η) ε where
  Init p := T.Init p.1 ∧ p.2 = start p.1
  Step p e p' := T.Step p.1 e p'.1 ∧ p'.2 = record p.2 p.1 e p'.1

section Observe

variable {T : System σ ε} {start : σ → η} {record : η → σ → ε → σ → η}

/-- Dropping the history variable gives a run of `T`. -/
theorem Reachable.of_observe {p : σ × η} (h : Reachable (T.observe start record) p) :
    Reachable T p.1 := by
  induction h with
  | init h0 => exact .init h0.1
  | step _ hs ih => exact ih.step hs.1

end Observe

/-! ## Simulation -/

/-- `R` relates a coarse system to a fine one: each coarse step is a run of
fine steps. -/
structure Simulation (C : System σ ε) (A : System τ δ) (R : σ → τ → Prop) : Prop where
  init : ∀ s, C.Init s → ∃ t, A.Init t ∧ R s t
  step : ∀ s t e s', R s t → C.Step s e s' → ∃ ds t', Run A t ds t' ∧ R s' t'

/-- A coarse reachable state has a fine reachable state related to it. -/
theorem Simulation.reachable {C : System σ ε} {A : System τ δ} {R : σ → τ → Prop}
    (hR : Simulation C A R) {s : σ} (h : Reachable C s) :
    ∃ t, R s t ∧ Reachable A t := by
  induction h with
  | init h0 =>
    obtain ⟨t, ht, hst⟩ := hR.init _ h0
    exact ⟨t, hst, .init ht⟩
  | step _ hs ih =>
    obtain ⟨t, hst, ht⟩ := ih
    obtain ⟨ds, t', hrun, hst'⟩ := hR.step _ _ _ _ hst hs
    exact ⟨t', hst', hrun.reachable ht⟩

end Transition
