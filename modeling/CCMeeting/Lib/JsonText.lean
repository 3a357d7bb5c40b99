import Mathlib.Data.List.Basic
import Mathlib.Tactic.IntervalCases
import CCMeeting.Lib.Json

/-! # JSON texts

A compact writer, and a reader of what it writes for flat documents: scalars,
and objects of scalars. Nothing is skipped between tokens. How a double is
written is a parameter, since libraries differ there.
-/

namespace JsonText

open ByteString

/-! ## Numbers -/

/-- The digit of a number below ten. -/
def digit (n : ℕ) : UInt8 := UInt8.ofNat (48 + n)

/-- Decimal digits of `n` in front of `acc`, at most `fuel` of them. -/
def decimalAux : ℕ → ℕ → ByteString → ByteString
  | 0, _, acc => acc
  | fuel + 1, n, acc =>
    if n < 10 then digit n :: acc else decimalAux fuel (n / 10) (digit (n % 10) :: acc)

/-- The decimal digits of a natural number. -/
def decimal (n : ℕ) : ByteString := decimalAux (n + 1) n []

/-- The decimal form of an integer. -/
def writeInt : ℤ → ByteString
  | .ofNat n => decimal n
  | .negSucc n => 45 :: decimal (n + 1)

/-- Whether a byte is a digit. -/
def isDigit (b : UInt8) : Bool := 48 ≤ b.toNat && b.toNat ≤ 57

/-- The value of the digits in front, and what follows them. -/
def readDigits : ℕ → ByteString → ℕ × ByteString
  | v, [] => (v, [])
  | v, b :: rest => if isDigit b then readDigits (v * 10 + (b.toNat - 48)) rest else (v, b :: rest)

/-- The number in front: an integer, or a double when `.0` follows. -/
def readNumber (text : ByteString) : Number × ByteString :=
  let (v, rest) := readDigits 0 text
  if [46, 48].isPrefixOf rest then (.float (.ofInt v), rest.drop 2) else (.integer v, rest)

theorem digit_toNat {n : ℕ} (h : n < 10) : (digit n).toNat = 48 + n := by
  rw [digit, UInt8.toNat_ofNat']
  omega

theorem isDigit_digit {n : ℕ} (h : n < 10) : isDigit (digit n) = true := by
  simp only [isDigit, digit_toNat h, Bool.and_eq_true, decide_eq_true_eq]
  omega

theorem readDigits_digit {n : ℕ} (h : n < 10) (v : ℕ) (rest : ByteString) :
    readDigits v (digit n :: rest) = readDigits (v * 10 + n) rest := by
  rw [readDigits, if_pos (isDigit_digit h), digit_toNat h, Nat.add_sub_cancel_left]

/-- Reading the digits of `n` first, then `acc`. -/
theorem readDigits_decimalAux {fuel n : ℕ} (h : n < fuel) (acc : ByteString) :
    readDigits 0 (decimalAux fuel n acc) = readDigits n acc := by
  induction fuel generalizing n acc with
  | zero => cases h
  | succ fuel ih =>
    rw [decimalAux]
    split_ifs with h10
    · rw [readDigits_digit h10, Nat.zero_mul, Nat.zero_add]
    · have hmod : n % 10 < 10 := Nat.mod_lt _ (by norm_num)
      rw [ih (by omega), readDigits_digit hmod]
      congr 1
      omega

/-- What follows a number does not go on with a digit. -/
def EndsNumber (rest : ByteString) : Prop := ∀ b ∈ rest.head?, isDigit b = false

theorem readDigits_of_ends {v : ℕ} {rest : ByteString} (h : EndsNumber rest) :
    readDigits v rest = (v, rest) := by
  cases rest with
  | nil => rfl
  | cons b rest => rw [readDigits, if_neg (by simp [h b rfl])]

theorem decimalAux_append (fuel n : ℕ) (acc rest : ByteString) :
    decimalAux fuel n acc ++ rest = decimalAux fuel n (acc ++ rest) := by
  induction fuel generalizing n acc with
  | zero => rfl
  | succ fuel ih =>
    rw [decimalAux, decimalAux]
    split_ifs
    · rfl
    · exact ih ..

theorem readDigits_decimal {n : ℕ} {rest : ByteString} (h : EndsNumber rest) :
    readDigits 0 (decimal n ++ rest) = (n, rest) := by
  rw [decimal, decimalAux_append, readDigits_decimalAux (Nat.lt_succ_self n), List.nil_append,
    readDigits_of_ends h]

/-- Decimal forms are made of digits. -/
theorem isDigit_of_mem_decimal {n : ℕ} : ∀ b ∈ decimal n, isDigit b = true := by
  have haux : ∀ fuel n acc, (∀ b ∈ acc, isDigit b = true) →
      ∀ b ∈ decimalAux fuel n acc, isDigit b = true := by
    intro fuel
    induction fuel with
    | zero =>
      intro n acc hacc
      exact hacc
    | succ fuel ih =>
      intro n acc hacc
      rw [decimalAux]
      split_ifs with h10
      · exact List.forall_mem_cons.mpr ⟨isDigit_digit h10, hacc⟩
      · apply ih
        exact List.forall_mem_cons.mpr ⟨isDigit_digit (Nat.mod_lt _ (by norm_num)), hacc⟩
  exact haux _ _ _ (by simp)

/-- Decimal forms are ASCII. -/
theorem decimal_ascii (n : ℕ) : ∀ b ∈ decimal n, b ≤ 0x7F := by
  intro b hb
  have hdigit := isDigit_of_mem_decimal b hb
  simp only [isDigit, Bool.and_eq_true, decide_eq_true_eq] at hdigit
  rw [UInt8.le_iff_toNat_le]
  simp only [UInt8.reduceToNat]
  omega

/-! ## Strings -/

/-- The hexadecimal digit of a number below sixteen. -/
def hexDigit (n : ℕ) : UInt8 := if n < 10 then UInt8.ofNat (48 + n) else UInt8.ofNat (87 + n)

/-- How a byte of a string is written: quotes, backslashes and control
characters are escaped, and everything else stands for itself. -/
def escape (b : UInt8) : ByteString :=
  if b = 34 then [92, 34]
  else if b = 92 then [92, 92]
  else if b = 8 then ascii "\\b"
  else if b = 9 then ascii "\\t"
  else if b = 10 then ascii "\\n"
  else if b = 12 then ascii "\\f"
  else if b = 13 then ascii "\\r"
  else if b < 32 then ascii "\\u00" ++ [hexDigit (b.toNat / 16), hexDigit (b.toNat % 16)]
  else [b]

/-- A string with its quotes. -/
def writeString (s : ByteString) : ByteString := 34 :: s.flatMap escape ++ [34]

/-- The value of a hexadecimal digit. -/
def hexValue (b : UInt8) : ℕ := if b.toNat < 58 then b.toNat - 48 else b.toNat - 87

/-- The byte a one-letter escape stands for. -/
def unescape (b : UInt8) : Option UInt8 :=
  if b = 34 ∨ b = 92 ∨ b = 47 then some b
  else if b = 98 then some 8
  else if b = 116 then some 9
  else if b = 110 then some 10
  else if b = 102 then some 12
  else if b = 114 then some 13
  else none

/-- The rest of a string up to its closing quote, and what follows it. -/
def readString : ByteString → Option (ByteString × ByteString)
  | [] => none
  | 34 :: rest => some ([], rest)
  | 92 :: 117 :: 48 :: 48 :: h :: l :: rest =>
    (readString rest).map fun (s, rest) =>
      (UInt8.ofNat (hexValue h * 16 + hexValue l) :: s, rest)
  | 92 :: e :: rest =>
    match unescape e, readString rest with
    | some b, some (s, rest) => some (b :: s, rest)
    | _, _ => none
  | b :: rest => (readString rest).map fun (s, rest) => (b :: s, rest)

theorem hex_all : ∀ n : Fin 32,
    UInt8.ofNat (hexValue (hexDigit (n.val / 16)) * 16 + hexValue (hexDigit (n.val % 16))) =
      UInt8.ofNat n.val := by decide +kernel

/-- Reading undoes writing, byte by byte. -/
theorem readString_escape (b : UInt8) (text : ByteString) :
    readString (escape b ++ text) =
      (readString text).map fun (s, rest) => (b :: s, rest) := by
  have hshort : ∀ e, e ≠ 117 → unescape e = some b →
      readString (92 :: e :: text) = (readString text).map fun (s, rest) => (b :: s, rest) := by
    intro e he hb
    rw [readString]
    · rw [hb]
      cases readString text <;> rfl
    · rintro h l rest heq
      exact absurd heq he
  -- the short escapes, then the control bytes written in hex, then the bytes written as they are
  unfold escape
  split_ifs with h34 h92 h8 h9 h10 h12 h13 hlow
  · exact hshort 34 (by decide) (by rw [h34]; rfl)
  · exact hshort 92 (by decide) (by rw [h92]; rfl)
  · exact hshort 98 (by decide) (by rw [h8]; rfl)
  · exact hshort 116 (by decide) (by rw [h9]; rfl)
  · exact hshort 110 (by decide) (by rw [h10]; rfl)
  · exact hshort 102 (by decide) (by rw [h12]; rfl)
  · exact hshort 114 (by decide) (by rw [h13]; rfl)
  · have hlt : b.toNat < 32 := UInt8.lt_iff_toNat_lt.mp hlow
    have hb : UInt8.ofNat (hexValue (hexDigit (b.toNat / 16)) * 16 +
        hexValue (hexDigit (b.toNat % 16))) = b := by
      have := hex_all ⟨b.toNat, hlt⟩
      simpa using this
    have hsize4 : ascii "\\u00" = [92, 117, 48, 48] := by decide
    simp [hsize4, readString, hb]
  · simp [readString, h92]

/-- Reading undoes writing, for a whole string. -/
theorem readString_writeString (s rest : ByteString) :
    readString (s.flatMap escape ++ 34 :: rest) = some (s, rest) := by
  induction s with
  | nil => rfl
  | cons b s ih =>
    rw [List.flatMap_cons, List.append_assoc, readString_escape, ih]
    rfl

/-! ## Documents -/

section Write

-- how a double is written
variable (writeDouble : Double → ByteString)

mutual

/-- The text of a document, members in order. -/
def write : Json → ByteString
  | .null => ascii "null"
  | .boolean true => ascii "true"
  | .boolean false => ascii "false"
  | .number (.integer i) => writeInt i
  | .number (.float d) => writeDouble d
  | .string s => writeString s
  | .array xs => 91 :: writeList xs
  | .object ms => 123 :: writeMembers ms

def writeList : List Json → ByteString
  | [] => [93]
  | x :: [] => write x ++ [93]
  | x :: y :: xs => write x ++ 44 :: writeList (y :: xs)

def writeMembers : List (ByteString × Json) → ByteString
  | [] => [125]
  | (k, v) :: [] => writeString k ++ 58 :: write v ++ [125]
  | (k, v) :: m :: ms => writeString k ++ 58 :: write v ++ 44 :: writeMembers (m :: ms)

end

end Write

/-- A scalar in front of the text, and what follows it. -/
def readScalar (text : ByteString) : Option (Json × ByteString) :=
  match text with
  | [] => none
  | 34 :: rest => (readString rest).map fun (s, rest) => (.string s, rest)
  | b :: rest =>
    if isDigit b then some (.number (readNumber text).1, (readNumber text).2)
    else if (ascii "null").isPrefixOf (b :: rest) then some (.null, rest.drop 3)
    else if (ascii "true").isPrefixOf (b :: rest) then some (.boolean true, rest.drop 3)
    else if (ascii "false").isPrefixOf (b :: rest) then some (.boolean false, rest.drop 4)
    else none

/-- Members up to the closing brace, at most `fuel` of them. -/
def readMembers : ℕ → ByteString → Option (List (ByteString × Json) × ByteString)
  | fuel + 1, 34 :: rest =>
    match readString rest with
    | some (k, 58 :: rest) =>
      match readScalar rest with
      | some (v, 125 :: rest) => some ([(k, v)], rest)
      | some (v, 44 :: rest) =>
        (readMembers fuel rest).map fun (ms, rest) => ((k, v) :: ms, rest)
      | _ => none
    | _ => none
  | _, _ => none

/-- A whole text: a scalar, an empty array, or an object of scalars. -/
def read (text : ByteString) : Option Json :=
  match text with
  | [123, 125] => some (.object [])
  | [91, 93] => some (.array [])
  | 123 :: rest =>
    match readMembers rest.length rest with
    | some (ms, []) => some (.object ms)
    | _ => none
  | _ =>
    match readScalar text with
    | some (v, []) => some v
    | _ => none

/-! ## Round trip -/

/-- What may follow a member value. -/
def Follows (rest : ByteString) : Prop := ∃ r, rest = 44 :: r ∨ rest = 125 :: r

theorem Follows.endsNumber {rest : ByteString} (h : Follows rest) : EndsNumber rest := by
  obtain ⟨r, rfl | rfl⟩ := h <;> (intro b hb; cases hb; decide)

theorem Follows.not_prefix {rest : ByteString} (h : Follows rest) :
    [46, 48].isPrefixOf rest = false := by
  obtain ⟨r, rfl | rfl⟩ := h <;> rfl

theorem readNumber_decimal {n : ℕ} {rest : ByteString} (h : Follows rest) :
    readNumber (decimal n ++ rest) = (.integer n, rest) := by
  simp [readNumber, readDigits_decimal h.endsNumber, h.not_prefix]

theorem readNumber_decimal_whole {n : ℕ} {rest : ByteString} :
    readNumber (decimal n ++ (46 :: 48 :: rest)) = (.float (.ofInt n), rest) := by
  have hends : EndsNumber (46 :: 48 :: rest) := by
    intro b hb
    cases hb
    decide
  simp [readNumber, readDigits_decimal hends, List.isPrefixOf]

/-- A decimal form starts with a digit. -/
theorem decimalAux_head {fuel n : ℕ} (h : n < fuel) (acc : ByteString) :
    ∃ b rest, decimalAux fuel n acc = b :: rest ∧ isDigit b = true := by
  induction fuel generalizing n acc with
  | zero => cases h
  | succ fuel ih =>
    rw [decimalAux]
    split_ifs with h10
    · exact ⟨_, _, rfl, isDigit_digit h10⟩
    · exact ih (by omega) _

theorem decimal_head (n : ℕ) : ∃ b rest, decimal n = b :: rest ∧ isDigit b = true :=
  decimalAux_head (Nat.lt_succ_self n) []

/-- A text that starts with a decimal form is read as a number. -/
theorem readScalar_decimal (n : ℕ) (rest : ByteString) :
    readScalar (decimal n ++ rest) =
      some (.number (readNumber (decimal n ++ rest)).1, (readNumber (decimal n ++ rest)).2) := by
  obtain ⟨b, tail, hb, hd⟩ := decimal_head n
  have h34 : b ≠ 34 := by
    rintro rfl
    cases hd
  rw [hb, List.cons_append, readScalar]
  · rw [if_pos hd]
  · exact h34

theorem readScalar_string (s rest : ByteString) :
    readScalar (writeString s ++ rest) = some (.string s, rest) := by
  have hshape : writeString s ++ rest = 34 :: (s.flatMap escape ++ 34 :: rest) := by
    simp [writeString]
  rw [hshape, readScalar, readString_writeString]
  rfl

/-- Members whose values are read back as `f` says are read back together. -/
theorem readMembers_writeMembers {writeDouble : Double → ByteString} {f : Json → Json}
    {ms : List (ByteString × Json)} (hne : ms ≠ [])
    (hread : ∀ m ∈ ms, ∀ rest, Follows rest →
      readScalar (write writeDouble m.2 ++ rest) = some (f m.2, rest))
    {fuel : ℕ} (hfuel : ms.length ≤ fuel) (rest : ByteString) :
    readMembers fuel (writeMembers writeDouble ms ++ rest) =
      some (ms.map fun m => (m.1, f m.2), rest) := by
  induction ms generalizing fuel with
  | nil => exact absurd rfl hne
  | cons m ms ih =>
    obtain ⟨k, v⟩ := m
    obtain ⟨fuel, rfl⟩ : ∃ n, fuel = n + 1 :=
      Nat.exists_eq_succ_of_ne_zero (Nat.ne_zero_of_lt (Nat.lt_of_lt_of_le (Nat.succ_pos _) hfuel))
    have hfuel' : ms.length ≤ fuel := by simpa using hfuel
    have hv := hread (k, v) (List.mem_cons_self ..)
    -- the last member is followed by the brace, any other by a comma and the next one
    cases ms with
    | nil =>
      have hshape : writeMembers writeDouble [(k, v)] ++ rest =
          34 :: (k.flatMap escape ++ 34 :: 58 :: (write writeDouble v ++ 125 :: rest)) := by
        simp [writeMembers, writeString]
      rw [hshape, readMembers, readString_writeString]
      simp [hv (125 :: rest) ⟨rest, Or.inr rfl⟩]
    | cons m ms =>
      have hshape : writeMembers writeDouble ((k, v) :: m :: ms) ++ rest =
          34 :: (k.flatMap escape ++ 34 :: 58 ::
            (write writeDouble v ++ 44 :: (writeMembers writeDouble (m :: ms) ++ rest))) := by
        simp [writeMembers, writeString]
      have hrest := ih (List.cons_ne_nil m ms)
        (fun x hx => hread x (List.mem_cons_of_mem _ hx)) hfuel'
      rw [hshape, readMembers, readString_writeString]
      simp [hv _ ⟨_, Or.inl rfl⟩, hrest]

theorem length_le_writeMembers (writeDouble : Double → ByteString)
    (ms : List (ByteString × Json)) : ms.length ≤ (writeMembers writeDouble ms).length := by
  induction ms with
  | nil => simp
  | cons m ms ih =>
    cases ms with
    | nil =>
      simp only [writeMembers, List.length_cons, List.length_append, List.length_nil]
      omega
    | cons m' ms =>
      rw [writeMembers]
      simp only [List.length_cons, List.length_append] at ih ⊢
      omega

/-- A flat document is read back member by member. -/
theorem read_write_object {writeDouble : Double → ByteString} {f : Json → Json}
    {ms : List (ByteString × Json)} (hne : ms ≠ [])
    (hread : ∀ m ∈ ms, ∀ rest, Follows rest →
      readScalar (write writeDouble m.2 ++ rest) = some (f m.2, rest)) :
    read (write writeDouble (.object ms)) = some (.object (ms.map fun m => (m.1, f m.2))) := by
  have hmembers := readMembers_writeMembers hne hread (length_le_writeMembers writeDouble ms) []
  rw [List.append_nil] at hmembers
  have hstart : ∃ tail, writeMembers writeDouble ms = 34 :: tail := by
    obtain ⟨m, ms, rfl⟩ := List.exists_cons_of_ne_nil hne
    cases ms <;> exact ⟨_, rfl⟩
  obtain ⟨tail, htail⟩ := hstart
  rw [write, htail, read]
  · rw [← htail, hmembers]
  · rintro h
    cases h

/-! ## Flat documents -/

theorem readScalar_decimal_of_follows {n : ℕ} {rest : ByteString} (h : Follows rest) :
    readScalar (decimal n ++ rest) = some (.number (.integer n), rest) := by
  rw [readScalar_decimal, readNumber_decimal h]

theorem readScalar_decimal_whole {n : ℕ} {rest : ByteString} :
    readScalar (decimal n ++ (46 :: 48 :: rest)) = some (.number (.float (.ofInt n)), rest) := by
  rw [readScalar_decimal, readNumber_decimal_whole]

/-- A value of a flat document as it is read back, when `g` says how whole
numbers are. -/
def readBack (g : ℕ → Number) : Json → Json
  | .number (.float d) => .number (g d.num.toNat)
  | v => v

section Flat

variable {writeDouble : Double → ByteString} {g : ℕ → Number}
  {fields : List (ByteString × Json.Scalar)}

/-- A flat document is read back, whatever the writer makes of whole numbers,
as long as the reader takes it for a number. -/
theorem read_write_flat (hnumber : ∀ (n : ℕ) rest, Follows rest →
      readScalar (writeDouble (.ofInt n) ++ rest) = some (.number (g n), rest)) :
    read (write writeDouble (Json.flat fields)) =
      some (.object (fields.map fun f => (f.1, readBack g f.2.json))) := by
  by_cases hempty : fields = []
  · rw [hempty]
    rfl
  · have hne : (fields.map fun f => (f.1, f.2.json)) ≠ [] := by simpa using hempty
    have hread : ∀ m ∈ fields.map fun f => (f.1, f.2.json), ∀ rest, Follows rest →
        readScalar (write writeDouble m.2 ++ rest) = some (readBack g m.2, rest) := by
      intro m hm rest hrest
      rcases List.mem_map.mp hm with ⟨⟨k, v⟩, _, rfl⟩
      cases v with
      | text s => exact readScalar_string s rest
      | whole n => exact hnumber n rest hrest
    rw [Json.flat, read_write_object hne hread, List.map_map]
    rfl

/-- What is read back has the members that were written. -/
theorem readFields_readBack (hplain : Json.PlainFields fields)
    (hnumber : ∀ n, Double.roundNat n = n → (g n).toDouble.Is n) :
    Json.ReadFields fields (fields.map fun f => (f.1, readBack g f.2.json)) := by
  have hvalues := hplain.2
  clear hplain
  intro k
  induction fields with
  | nil => exact Option.Rel.none
  | cons f fields ih =>
    rcases f with ⟨key, v⟩
    rw [List.map_cons, List.lookup_cons, List.lookup_cons]
    cases k == key with
    | true =>
      refine Option.Rel.some ?_
      cases v with
      | text s => exact rfl
      | whole n => exact hnumber n (hvalues _ (List.mem_cons_self ..)).2.1
    | false => exact ih fun f hf => hvalues f (List.mem_cons_of_mem _ hf)

theorem length_escape (b : UInt8) : (escape b).length ≤ 6 := by
  unfold escape
  split_ifs <;> simp [ascii]

theorem length_writeString (s : ByteString) : (writeString s).length ≤ 6 * s.length + 2 := by
  have hbody : (s.flatMap escape).length ≤ 6 * s.length := by
    induction s with
    | nil => exact Nat.le_refl 0
    | cons b s ih =>
      have hb := length_escape b
      rw [List.flatMap_cons, List.length_append, List.length_cons]
      omega
  simp only [writeString, List.length_cons, List.length_append, List.length_nil]
  omega

/-- Decimal forms have as many digits as the number has decimal places. -/
theorem length_decimalAux {k fuel n : ℕ} (hk : n < 10 ^ (k + 1)) (acc : ByteString) :
    (decimalAux fuel n acc).length ≤ k + 1 + acc.length := by
  induction k generalizing fuel n acc with
  | zero =>
    cases fuel with
    | zero =>
      rw [decimalAux]
      omega
    | succ fuel =>
      rw [decimalAux, if_pos (by simpa using hk), List.length_cons]
      omega
  | succ k ih =>
    cases fuel with
    | zero =>
      rw [decimalAux]
      omega
    | succ fuel =>
      rw [decimalAux]
      split_ifs
      · rw [List.length_cons]
        omega
      · have hdiv : n / 10 < 10 ^ (k + 1) := Nat.div_lt_of_lt_mul (by rw [pow_succ] at hk; omega)
        have hlength : (decimalAux fuel (n / 10) (digit (n % 10) :: acc)).length ≤ _ := ih hdiv _
        rw [List.length_cons] at hlength
        omega

theorem length_decimal {n : ℕ} (hn : n < 2 ^ 64) : (decimal n).length ≤ 20 := by
  have h20 : n < 10 ^ (19 + 1) := lt_of_lt_of_le hn (by norm_num)
  exact length_decimalAux h20 []

/-- The members of a flat document fit their bound. -/
theorem length_writeMembers_flat
    (hnumber : ∀ n : ℕ, n < 2 ^ 64 → (writeDouble (.ofInt n)).length ≤ 32)
    (hvalues : ∀ f ∈ fields, Utf8.Valid f.1 ∧ f.2.Plain) :
    (writeMembers writeDouble (fields.map fun f => (f.1, f.2.json))).length ≤
      1 + (fields.map fun f => 6 * f.1.length + 4 + f.2.size).sum := by
  induction fields with
  | nil => exact Nat.le_refl 1
  | cons f fields ih =>
    rcases f with ⟨k, v⟩
    have hrest := ih fun f hf => hvalues f (List.mem_cons_of_mem _ hf)
    have hkey := length_writeString k
    have hvalue : (write writeDouble v.json).length ≤ v.size := by
      cases v with
      | text s => exact length_writeString s
      | whole n => exact hnumber n (hvalues _ (List.mem_cons_self ..)).2.2
    -- the comma between two members is what the constant of each member pays for
    cases fields with
    | nil =>
      simp only [List.map_cons, List.map_nil, writeMembers, List.length_append, List.length_cons,
        List.length_nil, List.sum_cons, List.sum_nil]
      omega
    | cons f' fields =>
      have hshape : writeMembers writeDouble
          (((k, v) :: f' :: fields).map fun f => (f.1, f.2.json)) =
            writeString k ++ 58 :: write writeDouble v.json ++
              44 :: writeMembers writeDouble ((f' :: fields).map fun f => (f.1, f.2.json)) := by
        simp only [List.map_cons, writeMembers]
      rw [hshape]
      simp only [List.map_cons, List.sum_cons, List.length_append, List.length_cons] at hrest ⊢
      omega

/-- A flat document fits its bound. -/
theorem length_write_flat
    (hnumber : ∀ n : ℕ, n < 2 ^ 64 → (writeDouble (.ofInt n)).length ≤ 32)
    (hplain : Json.PlainFields fields) :
    (write writeDouble (Json.flat fields)).length ≤ Json.flatSize fields := by
  have hmembers := length_writeMembers_flat hnumber hplain.2
  rw [Json.flat, write, List.length_cons, Json.flatSize]
  omega

end Flat

end JsonText
