import CCMeeting.Client.MeetingWidget
import CCMeeting.Lib.Trim

/-! # The room number of a join

`on_join_meet_btn_slot` keeps the number as `QString::toInt` reads it, and the
codec sends it as `std::stoul` reads it. The two differ where the number does
not fit an `int`.
-/

namespace CCMeeting

open ByteString JsonText

/-! ## Two conversions -/

/-- The sign in front of a number. -/
def splitSign : ByteString → Bool × ByteString
  | 45 :: rest => (true, rest)
  | 43 :: rest => (false, rest)
  | text => (false, text)

/-- `QString::toInt`: blanks, a sign, decimal digits, blanks; zero for any other
text and for a number that is no `int`. -/
def QString.toInt (text : ByteString) : Int32 :=
  let (negative, digits) := splitSign (Trim.trim isSpace text)
  if digits.isEmpty || !digits.all isDigit then 0
  else
    let value : ℤ := (readDigits 0 digits).1
    let value := if negative then -value else value
    if -2147483648 ≤ value ∧ value ≤ 2147483647 then Int32.ofInt value else 0

/-- `std::stoul` with an `unsigned long` of so many bits. -/
def stoulOf (bits : ℕ) (text : ByteString) : Option ℕ :=
  let (negative, text) := splitSign (text.dropWhile isSpace)
  if text.head?.any isDigit then
    let value := (readDigits 0 text).1
    if value < 2 ^ bits then some (if negative then (2 ^ bits - value) % 2 ^ bits else value)
    else none
  else none

/-- `JoinMeetingMessage::room_no_u32` with an `unsigned long` of so many bits. -/
def roomNoU32Of (bits : ℕ) (roomNo : ByteString) : UInt32 :=
  if roomNo.isEmpty then 0
  else
    match stoulOf bits roomNo with
    | some value => UInt32.ofNat value
    | none => 0

/-- The codec elsewhere is that of a platform with 64 bits. -/
theorem roomNoU32Of_64 (roomNo : ByteString) : roomNoU32Of 64 roomNo = roomNoU32 roomNo := by
  have hstoul : stoulOf 64 roomNo = stoul roomNo := by
    unfold stoulOf stoul splitSign
    generalize roomNo.dropWhile isSpace = text
    dsimp only
    split
    · rfl
    · rfl
    · simp only
  rw [roomNoU32Of, hstoul]
  rfl

/-- What a join puts on the wire. -/
theorem payload_joinMeeting (roomNo : ByteString) :
    (Message.joinMeeting roomNo).payload = writeBe32 (roomNoU32Of 64 roomNo) := by
  rw [roomNoU32Of_64]
  rfl

/-- `on_join_meet_btn_slot`: `_roomNo` and the room number of the request, or
nothing but a warning. -/
def onJoinMeetBtnSlot (roomNo : ByteString) : Option (Int32 × ByteString) :=
  if roomNoAcceptable roomNo then some (QString.toInt roomNo, roomNo) else none

/-- The slot posts the request it emits. -/
theorem onJoinMeetBtn_eq (origin : ConnectRequest) (roomNo : ByteString) :
    MeetingWidget.onJoinMeetBtn origin roomNo =
      ((onJoinMeetBtnSlot roomNo).map fun j => Command.joinMeeting origin j.2).toList := by
  unfold MeetingWidget.onJoinMeetBtn onJoinMeetBtnSlot
  split_ifs <;> rfl

/-! ## Texts of digits -/

/-- The number a text of digits denotes. -/
def decimalValue (text : ByteString) : ℕ := text.foldl (fun v b => v * 10 + (b.toNat - 48)) 0

theorem readDigits_of_digits {text : ByteString} (h : text.all isDigit = true) (v : ℕ) :
    readDigits v text = (text.foldl (fun v b => v * 10 + (b.toNat - 48)) v, []) := by
  induction text generalizing v with
  | nil => rfl
  | cons b text ih =>
    rw [List.all_cons, Bool.and_eq_true] at h
    rw [readDigits, if_pos h.1, ih h.2, List.foldl_cons]

section Digits

variable {b : UInt8} {text : ByteString}

/-- A digit is neither a blank nor a sign. -/
theorem isDigit_ne (h : isDigit b = true) : isSpace b = false ∧ b ≠ 45 ∧ b ≠ 43 := by
  have hrange : 48 ≤ b.toNat ∧ b.toNat ≤ 57 := by simpa [isDigit] using h
  have h9 : ¬b.toNat ≤ 13 := by omega
  have h32 : b ≠ 32 := by
    rintro rfl
    exact absurd hrange.1 (by decide)
  refine ⟨by simp [isSpace, h32, UInt8.le_iff_toNat_le, h9], ?_, ?_⟩
  · rintro rfl
    exact absurd hrange.1 (by decide)
  · rintro rfl
    exact absurd hrange.1 (by decide)

theorem trim_of_digits (h : text.all isDigit = true) : Trim.trim isSpace text = text := by
  have hno : ∀ x ∈ text, isSpace x = false := fun x hx => (isDigit_ne (List.all_eq_true.mp h x hx)).1
  have hleft : text.dropWhile isSpace = text := by
    cases text with
    | nil => rfl
    | cons b text => rw [List.dropWhile_cons, if_neg (by simp [hno b List.mem_cons_self])]
  rw [Trim.trim, hleft, List.rdropWhile_eq_self_iff]
  intro hne
  rw [hno _ (List.getLast_mem hne)]
  exact Bool.false_ne_true

theorem splitSign_of_digits (h : (b :: text).all isDigit = true) :
    splitSign (b :: text) = (false, b :: text) := by
  rcases isDigit_ne (List.all_eq_true.mp h b List.mem_cons_self) with ⟨_, h45, h43⟩
  unfold splitSign
  split
  · rename_i heq
    cases heq
    exact absurd rfl h45
  · rename_i heq
    cases heq
    exact absurd rfl h43
  · rfl

/-- A number that fits an `int` is read, any other is zero. -/
theorem toInt_of_digits (h : (b :: text).all isDigit = true) :
    QString.toInt (b :: text) =
      if decimalValue (b :: text) ≤ 2147483647 then Int32.ofNat (decimalValue (b :: text))
      else 0 := by
  have hvalue : (readDigits 0 (b :: text)).1 = decimalValue (b :: text) := by
    rw [readDigits_of_digits h 0, decimalValue]
  have hempty : ((b :: text).isEmpty || !(b :: text).all isDigit) = false := by
    rw [h]
    rfl
  unfold QString.toInt
  rw [trim_of_digits h, splitSign_of_digits h]
  simp only [hempty, hvalue, Bool.false_eq_true, if_false]
  by_cases hfits : decimalValue (b :: text) ≤ 2147483647
  · rw [if_pos hfits, if_pos (by omega)]
    rfl
  · rw [if_neg hfits, if_neg (by omega)]

/-- A number that fits the type is read. -/
theorem stoulOf_of_digits (bits : ℕ) (h : (b :: text).all isDigit = true) :
    stoulOf bits (b :: text) =
      if decimalValue (b :: text) < 2 ^ bits then some (decimalValue (b :: text)) else none := by
  have hdigit : isDigit b = true := List.all_eq_true.mp h b List.mem_cons_self
  have hspace := (isDigit_ne hdigit).1
  have hvalue : (readDigits 0 (b :: text)).1 = decimalValue (b :: text) := by
    rw [readDigits_of_digits h 0, decimalValue]
  have hleft : (b :: text).dropWhile isSpace = b :: text := by
    rw [List.dropWhile_cons, if_neg (by simp [hspace])]
  have hhead : (b :: text).head?.any isDigit = true := hdigit
  unfold stoulOf
  rw [hleft, splitSign_of_digits h]
  simp only [hhead, hvalue, Bool.false_eq_true, if_false, if_true]

end Digits

/-! ## Joining -/

/-- The number that is kept, for media, display and history, and the one on the
wire are the number the user has typed, if the form takes it at all. -/
def JoinsRoomTyped (bits : ℕ) (text : ByteString) : Prop :=
  ∀ kept sent, onJoinMeetBtnSlot text = some (kept, sent) →
    kept.toInt = decimalValue text ∧ (roomNoU32Of bits sent).toNat = decimalValue text

/-- What the form takes begins with a digit that is not zero. -/
theorem digits_of_acceptable {text : ByteString} (h : roomNoAcceptable text = true) :
    ∃ b rest, text = b :: rest ∧ (b :: rest).all isDigit = true ∧ 0 < decimalValue text := by
  cases text with
  | nil => cases h
  | cons b rest =>
    simp only [roomNoAcceptable, Bool.and_eq_true, decide_eq_true_eq] at h
    obtain ⟨⟨⟨hlow, hhigh⟩, _⟩, hrest⟩ := h
    rw [UInt8.le_iff_toNat_le] at hlow hhigh
    have hlow' : 49 ≤ b.toNat := hlow
    have hhigh' : b.toNat ≤ 57 := hhigh
    refine ⟨b, rest, rfl, ?_, ?_⟩
    · rw [List.all_cons, hrest, Bool.and_true, isDigit]
      simp only [Bool.and_eq_true, decide_eq_true_eq]
      omega
    · have hgrows : ∀ (l : ByteString) (v : ℕ), v ≤ l.foldl (fun v b => v * 10 + (b.toNat - 48)) v := by
        intro l
        induction l with
        | nil => exact fun v => Nat.le_refl v
        | cons c l ih => exact fun v => Nat.le_trans (by omega) (ih (v * 10 + (c.toNat - 48)))
      have hfirst := hgrows rest (0 * 10 + (b.toNat - 48))
      rw [decimalValue, List.foldl_cons]
      omega

/-- The two numbers agree exactly up to the greatest `int`, whatever the size
of an `unsigned long`. -/
theorem room_number_agreement {bits : ℕ} (hbits : bits = 32 ∨ bits = 64) {text : ByteString}
    (htext : roomNoAcceptable text = true) :
    JoinsRoomTyped bits text ↔ decimalValue text ≤ 2147483647 := by
  obtain ⟨b, rest, rfl, hdigits, hpos⟩ := digits_of_acceptable htext
  have hslot : onJoinMeetBtnSlot (b :: rest) =
      some (QString.toInt (b :: rest), b :: rest) := if_pos htext
  unfold JoinsRoomTyped
  rw [hslot]
  constructor
  · intro hagree
    have hkept := (hagree _ _ rfl).1
    by_contra hlarge
    rw [toInt_of_digits hdigits, if_neg hlarge] at hkept
    have hzero : (0 : Int32).toInt = 0 := rfl
    omega
  · intro hfits kept sent hjoin
    cases hjoin
    have hwide : decimalValue (b :: rest) < 2 ^ bits := by
      rcases hbits with rfl | rfl <;> omega
    constructor
    · rw [toInt_of_digits hdigits, if_pos hfits, Int32.toInt_ofNat_of_lt (by omega)]
    · have hne : (b :: rest).isEmpty = false := rfl
      rw [roomNoU32Of, hne, stoulOf_of_digits bits hdigits, if_pos hwide]
      show (UInt32.ofNat (decimalValue (b :: rest))).toNat = decimalValue (b :: rest)
      exact UInt32.toNat_ofNat_of_lt' (by simp only [UInt32.size]; omega)

/-- A number of six digits is the same on both ways. -/
theorem room_number_agreement_of_six_digits : JoinsRoomTyped 32 (ascii "906870") :=
  (room_number_agreement (Or.inl rfl) (by decide)).mpr (by decide)

/-- A number of ten digits is kept as zero and sent as it is. -/
theorem room_number_lost :
    ¬∀ bits, bits = 32 ∨ bits = 64 → ∀ text, roomNoAcceptable text = true →
      JoinsRoomTyped bits text := by
  intro h
  have hkept := (h 64 (Or.inr rfl) (ascii "2147483648") (by decide) _ _ rfl).1
  exact absurd hkept (by decide +kernel)

end CCMeeting
