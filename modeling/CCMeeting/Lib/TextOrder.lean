import CCMeeting.Lib.Bytes
import Mathlib.Data.List.Sort

/-! # The order of texts

Texts in the order `memcmp` gives them, byte by byte; a text comes before those it
is a prefix of. Where texts of one length are put together from parts, the first
part that differs decides.
-/

namespace ByteString

/-- Whether a text comes before another one. -/
def before : ByteString → ByteString → Bool
  | _, [] => false
  | [], _ :: _ => true
  | a :: as, b :: bs => a.toNat < b.toNat || (a.toNat == b.toNat && before as bs)

theorem before_cons_iff {a b : UInt8} {as bs : ByteString} :
    before (a :: as) (b :: bs) = true ↔
      a.toNat < b.toNat ∨ a.toNat = b.toNat ∧ before as bs = true := by
  simp only [before, Bool.or_eq_true, decide_eq_true_eq, Bool.and_eq_true, beq_iff_eq]

@[simp] theorem before_nil (a : ByteString) : before a [] = false := by
  cases a <;> rfl

theorem before_irrefl (a : ByteString) : before a a = false := by
  induction a with
  | nil => rfl
  | cons a as ih => simp [before, ih]

theorem before_trans {a b c : ByteString} (hab : before a b = true) (hbc : before b c = true) :
    before a c = true := by
  induction a generalizing b c with
  | nil =>
    cases c with
    | nil => cases b <;> cases hbc
    | cons c cs => rfl
  | cons a as ih =>
    cases b with
    | nil => cases hab
    | cons b bs =>
      cases c with
      | nil => cases hbc
      | cons c cs =>
        rw [before_cons_iff] at hab hbc ⊢
        rcases hab with hab | ⟨hab, hasbs⟩
        · left
          omega
        · rcases hbc with hbc | ⟨hbc, hbscs⟩
          · left
            omega
          · right
            exact ⟨hab.trans hbc, ih hasbs hbscs⟩

theorem before_total (a b : ByteString) : before a b = true ∨ a = b ∨ before b a = true := by
  induction a generalizing b with
  | nil =>
    cases b with
    | nil => exact Or.inr (Or.inl rfl)
    | cons b bs => exact Or.inl rfl
  | cons a as ih =>
    cases b with
    | nil => exact Or.inr (Or.inr rfl)
    | cons b bs =>
      rw [before_cons_iff, before_cons_iff]
      rcases lt_trichotomy a.toNat b.toNat with hlt | heq | hgt
      · exact Or.inl (Or.inl hlt)
      · rcases ih bs with hlt | heqs | hgt
        · exact Or.inl (Or.inr ⟨heq, hlt⟩)
        · right
          left
          rw [UInt8.toNat_inj.mp heq, heqs]
        · exact Or.inr (Or.inr (Or.inr ⟨heq.symm, hgt⟩))
      · exact Or.inr (Or.inr (Or.inl hgt))

theorem before_asymm {a b : ByteString} (h : before a b = true) : before b a = false := by
  by_contra hba
  rw [Bool.not_eq_false] at hba
  have := before_trans h hba
  rw [before_irrefl] at this
  cases this

/-- Not after: the order in which texts are sorted. -/
theorem not_before_trans {a b c : ByteString} (hab : before b a = false)
    (hbc : before c b = false) : before c a = false := by
  by_contra hca
  rw [Bool.not_eq_false] at hca
  rcases before_total a b with hlt | rfl | hgt
  · rw [before_trans hca hlt] at hbc
    cases hbc
  · rw [hca] at hbc
    cases hbc
  · rw [hgt] at hab
    cases hab

/-- Elements in the order of their texts, the last one first. -/
theorem pairwise_insertionSort {α : Type} (text : α → ByteString) (l : List α) :
    (l.insertionSort fun a b => before (text a) (text b) = false).Pairwise
      fun a b => before (text a) (text b) = false := by
  have : Std.Total fun a b : α => before (text a) (text b) = false := by
    constructor
    intro a b
    cases hab : before (text a) (text b) with
    | false => exact Or.inl rfl
    | true => exact Or.inr (before_asymm hab)
  have : IsTrans α fun a b => before (text a) (text b) = false :=
    ⟨fun _ _ _ hab hbc => not_before_trans hbc hab⟩
  exact List.pairwise_insertionSort _ l

/-- The first part decides, and where it does not, what follows. -/
theorem before_append_iff {a c : ByteString} (hlength : a.length = c.length)
    (b d : ByteString) :
    before (a ++ b) (c ++ d) = true ↔ before a c = true ∨ a = c ∧ before b d = true := by
  induction a generalizing c with
  | nil =>
    cases c with
    | nil => simp [before]
    | cons c cs => cases hlength
  | cons a as ih =>
    cases c with
    | nil => cases hlength
    | cons c cs =>
      simp only [List.cons_append, before_cons_iff, ih (Nat.succ.inj hlength), List.cons.injEq,
        ← UInt8.toNat_inj]
      constructor
      · rintro (hlt | ⟨heq, hlt | ⟨heqs, hlt⟩⟩)
        · exact Or.inl (Or.inl hlt)
        · exact Or.inl (Or.inr ⟨heq, hlt⟩)
        · exact Or.inr ⟨⟨heq, heqs⟩, hlt⟩
      · rintro ((hlt | ⟨heq, hlt⟩) | ⟨⟨heq, heqs⟩, hlt⟩)
        · exact Or.inl hlt
        · exact Or.inr ⟨heq, Or.inl hlt⟩
        · exact Or.inr ⟨heq, Or.inr ⟨heqs, hlt⟩⟩

end ByteString
