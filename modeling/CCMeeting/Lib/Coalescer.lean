import Mathlib.Data.Nat.Notation
import Mathlib.Logic.Basic

/-! # Coalescing producers

Producers on any number of threads store into a slot and then ask for it to be
emptied: the first one to find the flag down raises it and posts a task to the
consumer. The consumer empties the slot and lowers the flag, and may also do so
out of turn. Storing, raising the flag and posting are separate steps.
-/

namespace Coalescer

/-- The slot, the flag and the tasks, and how far the producers are. -/
structure State where
  /-- there is something in the slot -/
  pending : Prop
  /-- the flag -/
  scheduled : Bool
  /-- producers that have stored and not looked at the flag yet -/
  stored : ℕ
  /-- producers that have raised the flag and not posted yet -/
  flagged : ℕ
  /-- posted tasks -/
  queued : ℕ

/-- What a step can be. -/
inductive Step (s : State) : State → Prop where
  | store (pending : Prop) : Step s { s with pending, stored := s.stored + 1 }
  /-- the flag is up already -/
  | found : 0 < s.stored → s.scheduled = true → Step s { s with stored := s.stored - 1 }
  | raise : 0 < s.stored → s.scheduled = false →
      Step s { s with scheduled := true, stored := s.stored - 1, flagged := s.flagged + 1 }
  | post : 0 < s.flagged → Step s { s with flagged := s.flagged - 1, queued := s.queued + 1 }
  /-- the consumer runs a task -/
  | consume (pending : Prop) : ¬pending → 0 < s.queued →
      Step s { s with pending, scheduled := false, queued := s.queued - 1 }
  /-- the consumer empties the slot out of turn -/
  | clear (pending : Prop) : ¬pending → Step s { s with pending, scheduled := false }
  /-- the slot may lose what is in it -/
  | drop (pending : Prop) : (pending → s.pending) → Step s { s with pending }

/-- What is pending is known to a producer or to the flag, and a flag that is up is
known to a producer or to the consumer. -/
structure Awake (s : State) : Prop where
  pending : s.pending → s.scheduled = true ∨ 0 < s.stored
  scheduled : s.scheduled = true → 0 < s.queued ∨ 0 < s.flagged

theorem Awake.step {s s' : State} (h : Awake s) (hstep : Step s s') : Awake s' := by
  cases hstep with
  | store pending => exact ⟨fun _ => Or.inr (Nat.succ_pos _), h.scheduled⟩
  | found _ hflag => exact ⟨fun _ => Or.inl hflag, h.scheduled⟩
  | raise _ _ => exact ⟨fun _ => Or.inl rfl, fun _ => Or.inr (Nat.succ_pos _)⟩
  | post _ => exact ⟨h.pending, fun _ => Or.inl (Nat.succ_pos _)⟩
  | consume pending hempty _ => exact ⟨fun hp => absurd hp hempty, nofun⟩
  | clear pending hempty => exact ⟨fun hp => absurd hp hempty, nofun⟩
  | drop pending hdrop => exact ⟨fun hp => h.pending (hdrop hp), h.scheduled⟩

/-- No wake-up is lost: while no producer is under way, what is pending has a task. -/
theorem Awake.queued {s : State} (h : Awake s) (hstored : s.stored = 0) (hflagged : s.flagged = 0)
    (hpending : s.pending) : 0 < s.queued := by
  have hflag : s.scheduled = true :=
    (h.pending hpending).resolve_right (Nat.not_lt.mpr (Nat.le_of_eq hstored))
  exact (h.scheduled hflag).resolve_right (Nat.not_lt.mpr (Nat.le_of_eq hflagged))

end Coalescer
