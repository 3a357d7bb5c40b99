import Mathlib.Logic.Basic
import CCMeeting.Lib.Bytes
import CCMeeting.Lib.Trim

/-! # Well-formed UTF-8

The automaton of RFC 3629, one byte at a time. Its state is the list of
ranges the next bytes must fall in; a text is well formed when the automaton
reads all of it and nothing is pending.
-/

namespace Utf8

/-- The ranges the coming continuation bytes must fall in. -/
abbrev Pending := List (UInt8 × UInt8)

/-- An ordinary continuation byte. -/
def tail : UInt8 × UInt8 := (0x80, 0xBF)

/-- What a leading byte asks for. Overlong forms, surrogates and code points
past U+10FFFF are cut off by the range of the second byte. -/
def lead (b : UInt8) : Option Pending :=
  if b ≤ 0x7F then some []
  else if 0xC2 ≤ b ∧ b ≤ 0xDF then some [tail]
  else if b = 0xE0 then some [(0xA0, 0xBF), tail]
  else if b = 0xED then some [(0x80, 0x9F), tail]
  else if 0xE1 ≤ b ∧ b ≤ 0xEF then some [tail, tail]
  else if b = 0xF0 then some [(0x90, 0xBF), tail, tail]
  else if 0xF1 ≤ b ∧ b ≤ 0xF3 then some [tail, tail, tail]
  else if b = 0xF4 then some [(0x80, 0x8F), tail, tail]
  else none

/-- One byte: the ranges pending after it, or none where UTF-8 cannot hold it. -/
def step : Pending → UInt8 → Option Pending
  | [], b => lead b
  | (low, high) :: rest, b => if low ≤ b ∧ b ≤ high then some rest else none

/-- The automaton over a text. -/
def run : Pending → ByteString → Option Pending
  | q, [] => some q
  | q, b :: bs => (step q b).bind fun q' => run q' bs

/-- A well-formed text. -/
def Valid (bs : ByteString) : Prop := run [] bs = some []

instance (bs : ByteString) : Decidable (Valid bs) := inferInstanceAs (Decidable (_ = _))

/-- The byte order mark, U+FEFF. -/
def mark : ByteString := [0xEF, 0xBB, 0xBF]

/-- A well-formed text that does not start with a byte order mark, which some
readers take for no part of the text. -/
def Plain (bs : ByteString) : Prop := Valid bs ∧ ¬mark.isPrefixOf bs = true

instance (bs : ByteString) : Decidable (Plain bs) := inferInstanceAs (Decidable (_ ∧ _))

theorem run_append (q : Pending) (as bs : ByteString) :
    run q (as ++ bs) = (run q as).bind fun q' => run q' bs := by
  induction as generalizing q with
  | nil => rfl
  | cons a as ih =>
    cases h : step q a with
    | none => simp [run, h]
    | some q' => simp [run, h, ih]

theorem valid_nil : Valid [] := rfl

theorem Valid.append {as bs : ByteString} (ha : Valid as) (hb : Valid bs) :
    Valid (as ++ bs) := by
  rw [Valid, run_append, show run [] as = some [] from ha]
  exact hb

/-- What is pending is pending continuation bytes. -/
theorem run_low {q q' : Pending} {bs : ByteString} (hq : ∀ r ∈ q, 0x80 ≤ r.1)
    (h : run q bs = some q') : ∀ r ∈ q', 0x80 ≤ r.1 := by
  induction bs generalizing q with
  | nil =>
    cases h
    exact hq
  | cons b bs ih =>
    rcases Option.bind_eq_some_iff.mp h with ⟨p, hstep, hrun⟩
    refine ih ?_ hrun
    cases q with
    | nil =>
      change lead b = some p at hstep
      unfold lead at hstep
      split_ifs at hstep <;> cases hstep <;> simp [tail]
    | cons r q =>
      simp only [step] at hstep
      split_ifs at hstep
      cases hstep
      intro r' hr'
      exact hq r' (List.mem_cons_of_mem _ hr')

/-- An ASCII byte never stands inside a character: the text before one is well
formed by itself. -/
theorem Valid.of_append_cons {as bs : ByteString} {b : UInt8} (hb : b ≤ 0x7F)
    (h : Valid (as ++ b :: bs)) : Valid as := by
  rw [Valid, run_append] at h
  rcases Option.bind_eq_some_iff.mp h with ⟨q, hq, hrun⟩
  cases q with
  | nil => exact hq
  | cons r q =>
    have hlow : 0x80 ≤ r.1 := run_low (by simp) hq r (List.mem_cons_self ..)
    rcases Option.bind_eq_some_iff.mp hrun with ⟨p, hstep, _⟩
    simp only [step] at hstep
    split_ifs at hstep with hrange
    have hlow := UInt8.le_iff_toNat_le.mp hlow
    have hb := UInt8.le_iff_toNat_le.mp hb
    have hle := UInt8.le_iff_toNat_le.mp hrange.1
    simp only [UInt8.reduceToNat] at hlow hb
    omega

theorem Valid.of_cons {b : UInt8} {bs : ByteString} (hb : b ≤ 0x7F) (h : Valid (b :: bs)) :
    Valid bs := by
  simpa [Valid, run, step, lead, hb] using h

/-- A well-formed text without the blanks at its ends is well formed, as blanks are
ASCII. -/
theorem Valid.trim {blank : UInt8 → Bool} (hblank : ∀ b, blank b = true → b ≤ 0x7F)
    {bs : ByteString} (h : Valid bs) : Valid (Trim.trim blank bs) := by
  have hfront : Valid (bs.dropWhile blank) := by
    induction bs with
    | nil => exact h
    | cons b bs ih =>
      rw [List.dropWhile_cons]
      split_ifs with hb
      · exact ih (h.of_cons (hblank b hb))
      · exact h
  rw [Trim.trim]
  generalize bs.dropWhile blank = cs at hfront
  induction cs using List.reverseRecOn with
  | nil => exact hfront
  | append_singleton cs b ih =>
    rw [List.rdropWhile_concat]
    split_ifs with hb
    · exact ih (hfront.of_append_cons (hblank b hb))
    · exact hfront

/-- ASCII text is well formed. -/
theorem valid_of_ascii {bs : ByteString} (h : ∀ b ∈ bs, b ≤ 0x7F) : Valid bs := by
  induction bs with
  | nil => rfl
  | cons b bs ih =>
    have hb : b ≤ 0x7F := h b (List.mem_cons_self ..)
    have hbs : Valid bs := ih (fun x hx => h x (List.mem_cons_of_mem _ hx))
    simpa [Valid, run, step, lead, hb] using hbs

end Utf8
