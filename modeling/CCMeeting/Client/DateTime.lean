import CCMeeting.Client.Qt
import CCMeeting.Lib.JsonText
import CCMeeting.Lib.TextOrder

/-! # Local times

`QDateTime` in local time, as far as the client stores and prints it. Months and
days are counted from zero. The clock of a client can be set back, so nothing is
said about the order of its readings; but the texts of two times are in the order
of the times.
-/

namespace CCMeeting

open ByteString

/-- `QDateTime`, in local time. -/
structure DateTime where
  year : Fin 10000
  month : Fin 12
  day : Fin 31
  hour : Fin 24
  minute : Fin 60
  second : Fin 60
  msec : Fin 1000
deriving DecidableEq, Repr

namespace DateTime

/-- A number below a hundred, with two digits. -/
def twoDigits (n : ℕ) : ByteString := [JsonText.digit (n / 10 % 10), JsonText.digit (n % 10)]

/-- A number below ten thousand, with four digits. -/
def fourDigits (n : ℕ) : ByteString := twoDigits (n / 100) ++ twoDigits (n % 100)

/-- `toString(Qt::ISODate)`. -/
def isoDate (t : DateTime) : ByteString :=
  fourDigits t.year ++ 45 :: twoDigits (t.month + 1) ++ 45 :: twoDigits (t.day + 1) ++
    84 :: twoDigits t.hour ++ 58 :: twoDigits t.minute ++ 58 :: twoDigits t.second

/-- `toString("yyyyMMdd-HHmmss")`. -/
def stamp (t : DateTime) : ByteString :=
  fourDigits t.year ++ twoDigits (t.month + 1) ++ twoDigits (t.day + 1) ++
    45 :: twoDigits t.hour ++ twoDigits t.minute ++ twoDigits t.second

/-- How many days a month has, counted from zero; 2000 is a leap year, and 1900 is not. -/
def daysInMonth (year : ℕ) : ℕ → ℕ
  | 1 => if year % 4 = 0 ∧ (year % 100 ≠ 0 ∨ year % 400 = 0) then 29 else 28
  | 3 | 5 | 8 | 10 => 30
  | _ => 31

/-- `QDateTime::isValid`. -/
def Valid (t : DateTime) : Prop := t.day < daysInMonth t.year t.month

instance (t : DateTime) : Decidable t.Valid := inferInstanceAs (Decidable (_ < _))

/-- The time at the beginning of the second. -/
def wholeSecond (t : DateTime) : DateTime := { t with msec := 0 }

/-- The seconds of a calendar in which every month has 31 days, which are in the
order of the times. -/
def seconds (t : DateTime) : ℕ :=
  ((((t.year * 12 + t.month) * 31 + t.day) * 24 + t.hour) * 60 + t.minute) * 60 + t.second

/-- The order of `QDateTime`, where a time that is not valid comes first. -/
def rank : Option DateTime → ℕ
  | none => 0
  | some t => t.seconds * 1000 + t.msec + 1

/-- `toString(Qt::ISODate)`; empty for a time that is not valid. -/
def isoText : Option DateTime → ByteString
  | none => []
  | some t => t.isoDate

/-- A time on the first of May 2024, after nine. -/
def mayDay (minute second msec : ℕ) : DateTime :=
  { year := 2024
    month := 4
    day := 0
    hour := 9
    minute := Fin.ofNat 60 minute
    second := Fin.ofNat 60 second
    msec := Fin.ofNat 1000 msec }

/-! ## Times and their texts -/

theorem twoDigits_before_iff {n m : ℕ} (hn : n < 100) (hm : m < 100) :
    before (twoDigits n) (twoDigits m) = true ↔ n < m := by
  unfold twoDigits
  rw [before_cons_iff, before_cons_iff, before_nil]
  simp only [JsonText.digit_toNat (Nat.mod_lt _ (by norm_num : 0 < 10)), Bool.false_eq_true,
    and_false, or_false]
  omega

theorem twoDigits_inj {n m : ℕ} (hn : n < 100) (hm : m < 100) :
    twoDigits n = twoDigits m ↔ n = m := by
  unfold twoDigits
  simp only [List.cons.injEq, and_true, ← UInt8.toNat_inj,
    JsonText.digit_toNat (Nat.mod_lt _ (by norm_num : 0 < 10))]
  omega

/-- Texts of one length that are in the order of their numbers. -/
structure Orders (text : DateTime → ByteString) (number : DateTime → ℕ) : Prop where
  length : ∀ t u, (text t).length = (text u).length
  before_iff : ∀ t u, before (text t) (text u) = true ↔ number t < number u
  eq_iff : ∀ t u, text t = text u ↔ number t = number u

/-- Another field, with two digits. -/
theorem Orders.snoc {text : DateTime → ByteString} {number field : DateTime → ℕ} {k o : ℕ}
    (h : Orders text number) (mark : UInt8) (hfield : ∀ t, field t < k) (hk : k + o ≤ 100) :
    Orders (fun t => text t ++ mark :: twoDigits (field t + o))
      fun t => number t * k + field t := by
  -- the number in front decides, and where it does not, the field
  have hlex : ∀ {x y n m : ℕ}, n < k → m < k →
      ((x < y ∨ x = y ∧ n < m) ↔ x * k + n < y * k + m) := by
    intro x y n m hn hm
    rcases lt_trichotomy x y with hlt | rfl | hgt
    · have := Nat.mul_le_mul_right k (Nat.succ_le_of_lt hlt)
      rw [Nat.succ_mul] at this
      omega
    · omega
    · have := Nat.mul_le_mul_right k (Nat.succ_le_of_lt hgt)
      rw [Nat.succ_mul] at this
      omega
  have heq : ∀ {x y n m : ℕ}, n < k → m < k → ((x = y ∧ n = m) ↔ x * k + n = y * k + m) := by
    intro x y n m hn hm
    have h₁ := hlex (x := x) (y := y) hn hm
    have h₂ := hlex (x := y) (y := x) hm hn
    omega
  have hbound : ∀ t, field t + o < 100 := by
    intro t
    have := hfield t
    omega
  constructor
  · intro t u
    simp [h.length t u, twoDigits]
  · intro t u
    rw [before_append_iff (h.length t u), before_cons_iff, h.before_iff, h.eq_iff,
      twoDigits_before_iff (hbound t) (hbound u), ← hlex (hfield t) (hfield u)]
    omega
  · intro t u
    rw [← heq (hfield t) (hfield u), ← h.eq_iff]
    constructor
    · intro happend
      rcases List.append_inj happend (h.length t u) with ⟨htext, hdigits⟩
      rcases List.cons.inj hdigits with ⟨_, hdigits⟩
      rw [twoDigits_inj (hbound t) (hbound u)] at hdigits
      exact ⟨htext, by omega⟩
    · rintro ⟨htext, hn⟩
      rw [htext, hn]

theorem orders_year : Orders (fun t => fourDigits t.year) fun t => t.year := by
  have hlow : ∀ t : DateTime, t.year.val / 100 < 100 ∧ t.year.val % 100 < 100 := by
    intro t
    have := t.year.isLt
    omega
  constructor
  · intro t u
    rfl
  · intro t u
    unfold fourDigits
    rw [before_append_iff (by rfl), twoDigits_before_iff (hlow t).1 (hlow u).1,
      twoDigits_inj (hlow t).1 (hlow u).1, twoDigits_before_iff (hlow t).2 (hlow u).2]
    omega
  · intro t u
    unfold fourDigits
    constructor
    · intro happend
      rcases List.append_inj happend rfl with ⟨hhigh, hdigits⟩
      rw [twoDigits_inj (hlow t).1 (hlow u).1] at hhigh
      rw [twoDigits_inj (hlow t).2 (hlow u).2] at hdigits
      omega
    · intro hyear
      rw [hyear]

/-- The texts of times are in the order of the times, up to the second. -/
theorem orders_isoDate : Orders isoDate seconds := by
  have hmonth := orders_year.snoc (o := 1) 45 (fun t => t.month.isLt) (by norm_num)
  have hday := hmonth.snoc (o := 1) 45 (fun t => t.day.isLt) (by norm_num)
  have hhour := hday.snoc (o := 0) 84 (fun t => t.hour.isLt) (by norm_num)
  have hminute := hhour.snoc (o := 0) 58 (fun t => t.minute.isLt) (by norm_num)
  exact hminute.snoc (o := 0) 58 (fun t => t.second.isLt) (by norm_num)

@[simp] theorem isoDate_wholeSecond (t : DateTime) : t.wholeSecond.isoDate = t.isoDate := rfl

@[simp] theorem seconds_wholeSecond (t : DateTime) : t.wholeSecond.seconds = t.seconds := rfl

theorem rank_wholeSecond (t : DateTime) : rank (some t.wholeSecond) = t.seconds * 1000 + 1 := by
  simp only [rank]
  rw [seconds_wholeSecond, show (t.wholeSecond.msec : ℕ) = 0 from rfl, Nat.add_zero]

end DateTime

/-- `QDateTime::fromString(…, Qt::ISODate)`; none for a time that is not valid. It
reads what `toString` writes, which leaves out the milliseconds. -/
structure IsoDates where
  fromString : ByteString → Option DateTime
  fromString_isoDate : ∀ t : DateTime, t.Valid → fromString t.isoDate = some t.wholeSecond

namespace IsoDates

/-- The number that two digits stand for. -/
def readTwo (a b : UInt8) : ℕ := (a.toNat - 48) * 10 + (b.toNat - 48)

theorem readTwo_twoDigits {n : ℕ} (hn : n < 100) :
    readTwo (JsonText.digit (n / 10 % 10)) (JsonText.digit (n % 10)) = n := by
  unfold readTwo
  rw [JsonText.digit_toNat (Nat.mod_lt _ (by norm_num)),
    JsonText.digit_toNat (Nat.mod_lt _ (by norm_num))]
  omega

/-- Only the form that `toString` writes. -/
def readIsoDate : ByteString → Option DateTime
  | [y₁, y₂, y₃, y₄, 45, m₁, m₂, 45, d₁, d₂, 84, h₁, h₂, 58, n₁, n₂, 58, s₁, s₂] =>
    let t : DateTime :=
      { year := Fin.ofNat 10000 (readTwo y₁ y₂ * 100 + readTwo y₃ y₄)
        month := Fin.ofNat 12 (readTwo m₁ m₂ - 1)
        day := Fin.ofNat 31 (readTwo d₁ d₂ - 1)
        hour := Fin.ofNat 24 (readTwo h₁ h₂)
        minute := Fin.ofNat 60 (readTwo n₁ n₂)
        second := Fin.ofNat 60 (readTwo s₁ s₂)
        msec := 0 }
    if t.Valid then some t else none
  | _ => none

theorem ofNat_readTwo {k n : ℕ} [NeZero k] (i : Fin k) (hk : k ≤ 100) (hn : n = i) :
    Fin.ofNat k (readTwo (JsonText.digit (n / 10 % 10)) (JsonText.digit (n % 10))) = i := by
  have := i.isLt
  rw [readTwo_twoDigits (by omega), hn]
  exact Fin.ofNat_val_eq_self i

theorem readIsoDate_isoDate (t : DateTime) (ht : t.Valid) :
    readIsoDate t.isoDate = some t.wholeSecond := by
  have hyear := t.year.isLt
  have hmonth := t.month.isLt
  have hday := t.day.isLt
  have hread : ({ year := Fin.ofNat 10000
                    (readTwo (JsonText.digit (t.year / 100 / 10 % 10))
                      (JsonText.digit (t.year / 100 % 10)) * 100 +
                    readTwo (JsonText.digit (t.year % 100 / 10 % 10))
                      (JsonText.digit (t.year % 100 % 10)))
                  month := Fin.ofNat 12 (readTwo (JsonText.digit ((t.month + 1) / 10 % 10))
                    (JsonText.digit ((t.month + 1) % 10)) - 1)
                  day := Fin.ofNat 31 (readTwo (JsonText.digit ((t.day + 1) / 10 % 10))
                    (JsonText.digit ((t.day + 1) % 10)) - 1)
                  hour := Fin.ofNat 24 (readTwo (JsonText.digit (t.hour / 10 % 10))
                    (JsonText.digit (t.hour % 10)))
                  minute := Fin.ofNat 60 (readTwo (JsonText.digit (t.minute / 10 % 10))
                    (JsonText.digit (t.minute % 10)))
                  second := Fin.ofNat 60 (readTwo (JsonText.digit (t.second / 10 % 10))
                    (JsonText.digit (t.second % 10)))
                  msec := 0 } : DateTime) = t.wholeSecond := by
    rw [ofNat_readTwo t.hour (by norm_num) rfl, ofNat_readTwo t.minute (by norm_num) rfl,
      ofNat_readTwo t.second (by norm_num) rfl, readTwo_twoDigits (by omega),
      readTwo_twoDigits (by omega), readTwo_twoDigits (by omega), readTwo_twoDigits (by omega),
      Nat.add_sub_cancel, Nat.add_sub_cancel, Nat.div_add_mod', Fin.ofNat_val_eq_self,
      Fin.ofNat_val_eq_self, Fin.ofNat_val_eq_self]
    rfl
  show (if _ then _ else _) = _
  rw [hread]
  exact if_pos ht

/-- A reader of the form that `toString` writes. -/
def reference : IsoDates where
  fromString := readIsoDate
  fromString_isoDate := readIsoDate_isoDate

end IsoDates

end CCMeeting
