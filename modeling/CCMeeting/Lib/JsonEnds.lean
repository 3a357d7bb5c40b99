import CCMeeting.Lib.JsonText

/-! # JSON texts with something behind them

The reader of `Lib/JsonText.lean` stops where an object ends: what is behind it
is handed on by every part of the reader, and refused by the whole.
-/

namespace JsonText

open ByteString

theorem readString_append {text s rest : ByteString} (h : readString text = some (s, rest))
    (more : ByteString) : readString (text ++ more) = some (s, rest ++ more) := by
  fun_induction readString text generalizing s with
  | case1 => cases h
  | case2 rest' =>
    cases h
    rfl
  | case3 b l rest' ih =>
    obtain ⟨⟨s', r⟩, hread, heq⟩ := Option.map_eq_some_iff.mp h
    cases heq
    simp only [List.cons_append, readString, ih hread, Option.map_some]
  | case4 e rest' hne b s' r hread hb ih =>
    cases h
    have he : e ≠ 117 := by
      rintro rfl
      cases hb
    rw [List.cons_append, List.cons_append, readString, hb, ih hread]
    exact fun _ _ _ heq => absurd heq he
  | case5 => cases h
  | case6 b rest' h34 hlong hshort ih =>
    obtain ⟨⟨s', r⟩, hread, heq⟩ := Option.map_eq_some_iff.mp h
    cases heq
    have h92 : b ≠ 92 := by
      rintro rfl
      cases rest' with
      | nil => cases hread
      | cons e rest' => exact hshort e rest' rfl rfl
    rw [List.cons_append, readString, ih hread]
    · rfl
    · exact h34
    · exact fun _ _ _ heq => absurd heq h92
    · exact fun _ _ heq => absurd heq h92

theorem readDigits_append {v n : ℕ} {text rest : ByteString} (h : readDigits v text = (n, rest))
    (hne : rest ≠ []) (more : ByteString) : readDigits v (text ++ more) = (n, rest ++ more) := by
  induction text generalizing v with
  | nil =>
    cases h
    exact absurd rfl hne
  | cons b text ih =>
    rw [readDigits] at h
    rw [List.cons_append, readDigits]
    split_ifs at h ⊢
    · exact ih h
    · cases h
      rfl

theorem readNumber_append {text rest : ByteString} {n : Number} (h : readNumber text = (n, rest))
    (hrest : Follows rest) (more : ByteString) :
    readNumber (text ++ more) = (n, rest ++ more) := by
  cases hdigits : readDigits 0 text with
  | mk v tail =>
    rw [readNumber, hdigits] at h
    have htail : tail ≠ [] := by
      rintro rfl
      cases h
      obtain ⟨r, hr | hr⟩ := hrest <;> cases hr
    rw [readNumber, readDigits_append hdigits htail]
    dsimp only at h ⊢
    by_cases hpoint : [46, 48].isPrefixOf tail = true
    · obtain ⟨r, rfl⟩ := List.isPrefixOf_iff_prefix.mp hpoint
      cases h
      rfl
    · rw [if_neg hpoint] at h
      obtain ⟨rfl, rfl⟩ := Prod.mk.inj h
      have hnot : ¬[46, 48].isPrefixOf (tail ++ more) = true := by
        obtain ⟨r, rfl | rfl⟩ := hrest <;> exact Bool.false_ne_true
      rw [if_neg hnot]

theorem readScalar_append {text rest : ByteString} {v : Json} (h : readScalar text = some (v, rest))
    (hrest : Follows rest) (more : ByteString) :
    readScalar (text ++ more) = some (v, rest ++ more) := by
  unfold readScalar at h
  split at h
  · cases h
  · obtain ⟨⟨s, r⟩, hread, heq⟩ := Option.map_eq_some_iff.mp h
    cases heq
    rw [List.cons_append, readScalar, readString_append hread]
    rfl
  · rename_i b tail h34
    split_ifs at h with hdigit hnull htrue hfalse
    · have hnumber : readNumber (b :: tail) = ((readNumber (b :: tail)).1, rest) := by
        cases h
        rfl
      rw [List.cons_append, readScalar, if_pos hdigit, ← List.cons_append,
        readNumber_append hnumber hrest]
      · cases h
        rfl
      · exact h34
    · obtain ⟨r, hr⟩ := List.isPrefixOf_iff_prefix.mp hnull
      cases hr
      cases h
      rfl
    · obtain ⟨r, hr⟩ := List.isPrefixOf_iff_prefix.mp htrue
      cases hr
      cases h
      rfl
    · obtain ⟨r, hr⟩ := List.isPrefixOf_iff_prefix.mp hfalse
      cases hr
      cases h
      rfl

/-- What follows a string is an end of the text. -/
theorem readString_suffix {text s rest : ByteString} (h : readString text = some (s, rest)) :
    rest <:+ text := by
  fun_induction readString text generalizing s with
  | case1 => cases h
  | case2 rest' =>
    cases h
    exact List.suffix_cons _ _
  | case3 b l rest' ih =>
    obtain ⟨⟨s', r⟩, hread, heq⟩ := Option.map_eq_some_iff.mp h
    cases heq
    exact (ih hread).trans ⟨[92, 117, 48, 48, b, l], rfl⟩
  | case4 e rest' _ b s' r hread _ ih =>
    cases h
    exact (ih hread).trans ⟨[92, e], rfl⟩
  | case5 => cases h
  | case6 b rest' _ _ _ ih =>
    obtain ⟨⟨s', r⟩, hread, heq⟩ := Option.map_eq_some_iff.mp h
    cases heq
    exact (ih hread).trans (List.suffix_cons _ _)

theorem readDigits_suffix (v : ℕ) (text : ByteString) : (readDigits v text).2 <:+ text := by
  induction text generalizing v with
  | nil => exact List.suffix_rfl
  | cons b text ih =>
    rw [readDigits]
    split_ifs
    · exact (ih _).trans (List.suffix_cons _ _)
    · exact List.suffix_rfl

/-- What follows a scalar is an end of the text. -/
theorem readScalar_suffix {text rest : ByteString} {v : Json}
    (h : readScalar text = some (v, rest)) : rest <:+ text := by
  unfold readScalar at h
  split at h
  · cases h
  · obtain ⟨⟨s, r⟩, hread, heq⟩ := Option.map_eq_some_iff.mp h
    cases heq
    exact (readString_suffix hread).trans (List.suffix_cons _ _)
  · rename_i b tail _
    split_ifs at h
    · cases h
      have hdigits := readDigits_suffix 0 (b :: tail)
      rw [readNumber]
      dsimp only
      split_ifs
      · exact (List.drop_suffix _ _).trans hdigits
      · exact hdigits
    all_goals
      cases h
      exact (List.drop_suffix _ _).trans (List.suffix_cons _ _)

/-- Members are read the same with something behind their brace. -/
theorem readMembers_append {fuel : ℕ} {text rest : ByteString} {ms : List (ByteString × Json)}
    (h : readMembers fuel text = some (ms, rest)) (k : ℕ) (more : ByteString) :
    readMembers (fuel + k) (text ++ more) = some (ms, rest ++ more) := by
  fun_induction readMembers fuel text generalizing ms with
  | case1 fuel tail key tail' hkey v rest' hv =>
    cases h
    have hv' := readScalar_append hv ⟨_, Or.inr rfl⟩ more
    have hfuel : fuel.succ + k = fuel + k + 1 := by omega
    rw [hfuel, List.cons_append, readMembers, readString_append hkey]
    simp [hv']
  | case2 fuel tail key tail' hkey v rest' hv ih =>
    obtain ⟨⟨ms', r⟩, hread, heq⟩ := Option.map_eq_some_iff.mp h
    cases heq
    have hv' := readScalar_append hv ⟨rest', Or.inl rfl⟩ more
    have hfuel : fuel.succ + k = fuel + k + 1 := by omega
    rw [hfuel, List.cons_append, readMembers, readString_append hkey]
    simp [hv', ih hread]
  | case3 => cases h
  | case4 => cases h
  | case5 => cases h

/-- Members end with their brace. -/
theorem readMembers_suffix {fuel : ℕ} {text rest : ByteString} {ms : List (ByteString × Json)}
    (h : readMembers fuel text = some (ms, rest)) : 125 :: rest <:+ text := by
  fun_induction readMembers fuel text generalizing ms with
  | case1 fuel tail key tail' hkey v rest' hv =>
    cases h
    have hkey' := (List.suffix_cons 58 tail').trans (readString_suffix hkey)
    exact ((readScalar_suffix hv).trans hkey').trans (List.suffix_cons _ _)
  | case2 fuel tail key tail' hkey v rest' hv ih =>
    obtain ⟨⟨ms', r⟩, hread, heq⟩ := Option.map_eq_some_iff.mp h
    cases heq
    have hkey' := (List.suffix_cons 58 tail').trans (readString_suffix hkey)
    have hv' := (List.suffix_cons 44 rest').trans (readScalar_suffix hv)
    exact (((ih hread).trans hv').trans hkey').trans (List.suffix_cons _ _)
  | case3 => cases h
  | case4 => cases h
  | case5 => cases h

/-- The texts that open with a brace and are read. -/
theorem read_of_brace {text : ByteString} {document : Json} (hopens : text.head? = some 123)
    (h : read text = some document) :
    (text = [123, 125] ∧ document = .object []) ∨
      ∃ body ms, text = 123 :: body ∧ document = .object ms ∧
        readMembers body.length body = some (ms, []) := by
  unfold read at h
  split at h
  · cases h
    exact Or.inl ⟨rfl, rfl⟩
  · cases hopens
  · split at h
    · cases h
      exact Or.inr ⟨_, _, rfl, rfl, ‹_›⟩
    · cases h
  · rename_i hbrace
    cases text with
    | nil => cases hopens
    | cons b text =>
      cases hopens
      exact absurd rfl (hbrace text)

/-- A whole object is read only when nothing is behind it. -/
theorem read_append {text rest : ByteString} {document : Json} (hopens : text.head? = some 123)
    (h : read text = some document) (hrest : rest ≠ []) : read (text ++ rest) = none := by
  obtain ⟨b, tail, rfl⟩ := List.exists_cons_of_ne_nil hrest
  rcases read_of_brace hopens h with ⟨rfl, _⟩ | ⟨body, ms, rfl, _, hms⟩
  · rfl
  · have hmore := readMembers_append hms (b :: tail).length (b :: tail)
    rw [← List.length_append] at hmore
    rw [List.cons_append, read]
    · rw [hmore]
      rfl
    · intro heq
      rw [heq] at hmore
      cases hmore

/-- What is read as an object begins and ends with a brace. -/
theorem read_object {text : ByteString} {ms : List (ByteString × Json)}
    (h : read text = some (.object ms)) :
    text.head? = some 123 ∧ ∃ front, text = front ++ [125] := by
  have hopens : text.head? = some 123 := by
    unfold read at h
    split at h
    · rfl
    · cases h
    · rfl
    · split at h
      · rename_i hscalar
        cases h
        unfold readScalar at hscalar
        split at hscalar
        · cases hscalar
        · obtain ⟨s, _, heq⟩ := Option.map_eq_some_iff.mp hscalar
          cases heq
        · split_ifs at hscalar <;> cases hscalar
      · cases h
  refine ⟨hopens, ?_⟩
  rcases read_of_brace hopens h with ⟨rfl, _⟩ | ⟨body, ms, rfl, _, hms⟩
  · exact ⟨[123], rfl⟩
  · obtain ⟨front, hfront⟩ := readMembers_suffix hms
    exact ⟨123 :: front, by rw [← hfront]; rfl⟩

end JsonText
