import Mathlib.Data.List.Basic
import CCMeeting.Lib.Splice
import CCMeeting.Lib.Transition

/-! # The chat editor and its mention blocks

`MyTextEdit` remembers where the mentions are that were put in by completion, and takes
each of them away as a whole. The places are positions in the text. They are kept as they
were when the mention was put in, whatever becomes of the text.
-/

namespace CCMeeting

open Splice Transition

/-! ## What the editor uses from Qt -/

/-- The UTF-16 code units of a `QString`. -/
abbrev Utf16 := List UInt16

/-- `QTextCursor`. -/
structure TextCursor where
  position : ℕ
  anchor : ℕ
deriving DecidableEq

namespace TextCursor

/-- A cursor that selects nothing. -/
def caret (position : ℕ) : TextCursor := ⟨position, position⟩

/-- `QTextCursor::setPosition`; a position behind the text is refused. -/
def setPosition (c : TextCursor) (text : Utf16) (position : ℕ) (keepAnchor : Bool) : TextCursor :=
  if text.length < position then c
  else { position, anchor := if keepAnchor then c.anchor else position }

/-- `QTextCursor::selectionStart`. -/
def selectionStart (c : TextCursor) : ℕ := min c.position c.anchor

/-- `QTextCursor::selectionEnd`. -/
def selectionEnd (c : TextCursor) : ℕ := max c.position c.anchor

/-- Where a position is once another cursor has removed what lies between two others. -/
def shifted (first last position : ℕ) : ℕ :=
  if position ≤ first then position else if position < last then first
  else position - (last - first)

/-- The cursor of the editor while another one removes a selection. -/
def afterRemoval (c : TextCursor) (first last : ℕ) : TextCursor :=
  ⟨shifted first last c.position, shifted first last c.anchor⟩

/-- The cursor lies in the text. -/
def Within (c : TextCursor) (text : Utf16) : Prop :=
  c.position ≤ text.length ∧ c.anchor ≤ text.length

end TextCursor

/-- `QTextCursor::EndOfWord`: where the word ends in which a position lies. -/
structure WordEnds where
  endOfWord : Utf16 → ℕ → ℕ
  le_endOfWord : ∀ {text position}, position ≤ text.length → position ≤ endOfWord text position
  endOfWord_le : ∀ {text position}, position ≤ text.length → endOfWord text position ≤ text.length

/-! ## The editor -/

/-- A pair of `ipspan`. -/
structure MentionSpan where
  first : ℕ
  second : ℕ
  /-- the name that was chosen, which the code does not keep -/
  name : Utf16
deriving DecidableEq

/-- `MyTextEdit` with its `edit` and whether it has a `completer` and shows its popup. -/
structure MyTextEdit where
  text : Utf16
  cursor : TextCursor
  ipspan : List MentionSpan
  completer : Bool
  popup : Bool
deriving DecidableEq

/-- The key of a `QKeyEvent`. -/
inductive EditKey where
  | backspace
  | delete
  | other
deriving DecidableEq

/-- What `edit` does with a key that it is given. -/
inductive KeyReply where
  | nothing
  | move (cursor : TextCursor)
  | insert (text : Utf16)
  | deletePrevious (n : ℕ)
  | deleteNext (n : ℕ)

/-- What is taken out of the text and what is put in its place. -/
structure TextChange where
  first : ℕ
  last : ℕ
  ins : Utf16

/-- The change a reply makes at the cursor; what is selected goes first. -/
def KeyReply.change (c : TextCursor) : KeyReply → Option TextChange
  | nothing | move _ => none
  | insert text => some ⟨c.selectionStart, c.selectionEnd, text⟩
  | deletePrevious n =>
    if c.position = c.anchor then some ⟨c.position - n, c.position, []⟩
    else some ⟨c.selectionStart, c.selectionEnd, []⟩
  | deleteNext n =>
    if c.position = c.anchor then some ⟨c.position, c.position + n, []⟩
    else some ⟨c.selectionStart, c.selectionEnd, []⟩

namespace MyTextEdit

/-- An empty editor. -/
def fresh : MyTextEdit where
  text := []
  cursor := .caret 0
  ipspan := []
  completer := false
  popup := false

/-- `MyTextEdit::complete`, which every change of the text calls. -/
def complete (e : MyTextEdit) : MyTextEdit :=
  if e.completer = true ∧ e.text.getLast? = some 64 then { e with popup := true } else e

/-- A change of the text at the cursor of the editor. -/
def apply (e : MyTextEdit) (change : TextChange) : MyTextEdit :=
  { e with
    text := splice e.text change.first change.last change.ins
    cursor := .caret (change.first + change.ins.length) }.complete

/-- `edit` given a key. -/
def reply (e : MyTextEdit) (r : KeyReply) : MyTextEdit :=
  match r.change e.cursor, r with
  | some change, _ => e.apply change
  | none, .move cursor => { e with cursor }
  | none, _ => e

/-- The selection of `eventFilter`, made with a cursor of its own. -/
def selectSpan (e : MyTextEdit) (tc : TextCursor) (span : MentionSpan) : TextCursor :=
  let start := tc.setPosition e.text span.first false
  if tc.position = span.second then start.setPosition e.text span.second true
  else start.setPosition e.text (span.second + 1) true

/-- The selection removed, and the pair erased. -/
def removeSpan (e : MyTextEdit) (tc : TextCursor) (i : ℕ) (span : MentionSpan) : MyTextEdit :=
  let tc := e.selectSpan tc span
  { e with
    text := splice e.text tc.selectionStart tc.selectionEnd []
    cursor := e.cursor.afterRemoval tc.selectionStart tc.selectionEnd
    ipspan := e.ipspan.eraseIdx i }.complete

/-- The key deletes the block around the position. -/
def deletes (key : EditKey) (p : ℕ) (span : MentionSpan) : Bool :=
  match key with
  | .backspace => span.first < p && p ≤ span.second
  | .delete => span.first ≤ p && p < span.second
  | .other => false

/-- The loop of `eventFilter`, with the cursor it was called at. -/
def filterLoop (key : EditKey) (tc : TextCursor) :
    List MentionSpan → ℕ → MyTextEdit → Bool × MyTextEdit
  | [], _, e => (false, e)
  | span :: spans, i, e =>
    if deletes key tc.position span then (true, e.removeSpan tc i span)
    else if span.first ≤ tc.position && tc.position ≤ span.second then
      filterLoop key tc spans (i + 1)
        { e with cursor := e.cursor.setPosition e.text span.second false }
    else filterLoop key tc spans (i + 1) e

/-- `MyTextEdit::eventFilter` for a key; whether the key has been dealt with. -/
def eventFilter (e : MyTextEdit) (key : EditKey) : Bool × MyTextEdit :=
  filterLoop key e.cursor e.ipspan 0 e

/-- `while (str.at(pos) != '@') pos--`, from before a position on; none where the search
leaves the text. -/
def searchBack (text : Utf16) : ℕ → Option ℕ
  | 0 => none
  | pos + 1 => if text[pos]? = some 64 then some pos else searchBack text pos

/-- `MyTextEdit::changeCompletion`. The text that is chosen is an '@' and a name; the
prefix is the '@'. -/
def changeCompletion (words : WordEnds) (e : MyTextEdit) (name : Utf16) : Option MyTextEdit :=
  let position := words.endOfWord e.text e.cursor.position
  let e := { e.apply ⟨position, position, name⟩ with popup := false }
  (searchBack e.text e.text.length).map fun pos =>
    let size := e.text.length
    -- a change of the format is a change too
    let e := e.complete.apply ⟨size, size, [32]⟩
    { e with ipspan := e.ipspan ++ [⟨pos, size + 1, name⟩] }

/-- `MyTextEdit::setPlainText`. -/
def setPlainText (e : MyTextEdit) (text : Utf16) : MyTextEdit :=
  { e with text, cursor := .caret 0 }.complete

end MyTextEdit

/-! ## Events -/

/-- What can happen to the editor. -/
inductive EditEvent where
  | key (key : EditKey) (reply : KeyReply)
  /-- the mouse, and what is pasted, dropped or composed without a key -/
  | select (cursor : TextCursor)
  | change (change : TextChange)
  | choose (name : Utf16)
  | setPlainText (text : Utf16)
  | setCompleter
  | hidePopup

namespace MyTextEdit

/-- A key reaches the filter first. -/
def keyPress (e : MyTextEdit) (key : EditKey) (r : KeyReply) : MyTextEdit :=
  match e.eventFilter key with
  | (true, e) => e
  | (false, e) => e.reply r

def handle (words : WordEnds) (e : MyTextEdit) : EditEvent → Option MyTextEdit
  | .key key r => some (e.keyPress key r)
  | .select cursor => some { e with cursor }
  | .change change => some (e.apply change)
  | .choose name => e.changeCompletion words name
  | .setPlainText text => some (e.setPlainText text)
  | .setCompleter => some { e with completer := true }
  | .hidePopup => some { e with popup := false }

/-- Positions lie in the text, and the popup is shown where something is chosen. -/
def Enabled (e : MyTextEdit) : EditEvent → Prop
  | .key _ (.move cursor) => cursor.Within e.text
  | .select cursor => cursor.Within e.text
  | .change change => change.first ≤ change.last ∧ change.last ≤ e.text.length
  | .choose _ => e.popup = true
  | _ => True

end MyTextEdit

/-- The editor with everything that is done to it. -/
def editSystem (words : WordEnds) : System MyTextEdit EditEvent where
  Init e := e = .fresh
  Step e event e' := e.Enabled event ∧ e.handle words event = some e'

/-! ## The property and its condition -/

/-- The pair is where its mention is, from the '@' to the blank behind the name. -/
structure MentionSpan.Denotes (span : MentionSpan) (text : Utf16) : Prop where
  second_eq : span.second = span.first + span.name.length + 2
  block : slice text span.first span.second = 64 :: (span.name ++ [32])

/-- A change leaves a block where it is: it is one behind the block, or one before it that
puts in as much as it takes out. -/
def TextChange.Leaves (change : TextChange) (span : MentionSpan) : Prop :=
  span.second ≤ change.first ∨ (change.first = change.last ∧ change.ins = []) ∨
    (change.last ≤ span.first ∧ change.ins.length = change.last - change.first)

namespace MyTextEdit

/-- The pair for which the filter takes a key, with its index. -/
def taken (e : MyTextEdit) (key : EditKey) : Option (MentionSpan × ℕ) :=
  e.ipspan.zipIdx.find? fun pair => deletes key e.cursor.position pair.1

/-- Where the filter puts the cursor for a key that it does not take: behind a block. -/
def resting (e : MyTextEdit) : TextCursor :=
  e.ipspan.foldl (fun c span =>
    if span.first ≤ e.cursor.position && e.cursor.position ≤ span.second then
      c.setPosition e.text span.second false
    else c) e.cursor

/-- A key that is taken is pressed at the end of the block, behind which there is no other
one. The change that another key makes leaves all blocks. -/
def SafeKey (e : MyTextEdit) (key : EditKey) (r : KeyReply) : Prop :=
  match e.taken key with
  | some (span, i) =>
    e.cursor.position = span.second ∧ ∀ other ∈ e.ipspan.eraseIdx i, other.second ≤ span.first
  | none => ∀ change, r.change e.resting = some change → ∀ span ∈ e.ipspan, change.Leaves span

/-- No block has to be moved or dropped, and a name without an '@' is chosen for an '@' at
the end of the text. -/
def Safe (words : WordEnds) (e : MyTextEdit) : EditEvent → Prop
  | .key key r => e.SafeKey key r
  | .change change => ∀ span ∈ e.ipspan, change.Leaves span
  | .choose name => 64 ∉ name ∧ e.text.getLast? = some 64 ∧
      words.endOfWord e.text e.cursor.position = e.text.length
  | .setPlainText _ => e.ipspan = []
  | _ => True

/-- Every pair of `ipspan` denotes its block. -/
def Denoted (e : MyTextEdit) : Prop := ∀ span ∈ e.ipspan, span.Denotes e.text

/-- A key that the filter takes removes one whole block and nothing else, and the search
of `changeCompletion` stays in the text. -/
def Whole (words : WordEnds) (e : MyTextEdit) : EditEvent → Prop
  | .key key r => ∀ span i, e.taken key = some (span, i) →
      span ∈ e.ipspan ∧ (e.keyPress key r).text = splice e.text span.first span.second [] ∧
        (e.keyPress key r).ipspan = e.ipspan.eraseIdx i
  | .choose name => (e.changeCompletion words name).isSome = true
  | _ => True

/-! ## The filter -/

@[simp] theorem complete_text (e : MyTextEdit) : e.complete.text = e.text := by
  unfold complete
  split_ifs <;> rfl

@[simp] theorem complete_ipspan (e : MyTextEdit) : e.complete.ipspan = e.ipspan := by
  unfold complete
  split_ifs <;> rfl

@[simp] theorem apply_text (e : MyTextEdit) (change : TextChange) :
    (e.apply change).text = splice e.text change.first change.last change.ins := complete_text _

@[simp] theorem apply_ipspan (e : MyTextEdit) (change : TextChange) :
    (e.apply change).ipspan = e.ipspan := complete_ipspan _

/-- The loop stops at the first pair for which the key deletes. -/
theorem filterLoop_of_some {key : EditKey} {tc : TextCursor} {spans : List MentionSpan} {i j : ℕ}
    {span : MentionSpan} (e : MyTextEdit)
    (h : ((spans.zipIdx i).find? fun pair => deletes key tc.position pair.1) = some (span, j)) :
    ∃ c, filterLoop key tc spans i e = (true, { e with cursor := c }.removeSpan tc j span) := by
  induction spans generalizing i e with
  | nil => cases h
  | cons span' spans ih =>
    rw [List.zipIdx_cons, List.find?_cons] at h
    unfold filterLoop
    cases hdeletes : deletes key tc.position span' with
    | true =>
      rw [hdeletes] at h
      cases h
      exact ⟨e.cursor, rfl⟩
    | false =>
      rw [hdeletes] at h
      rw [if_neg Bool.false_ne_true]
      split_ifs
      · exact ih { e with cursor := e.cursor.setPosition e.text span'.second false } h
      · exact ih e h

theorem filterLoop_of_none {key : EditKey} {tc : TextCursor} {spans : List MentionSpan} {i : ℕ}
    (e : MyTextEdit)
    (h : ((spans.zipIdx i).find? fun pair => deletes key tc.position pair.1) = none) :
    filterLoop key tc spans i e = (false, { e with
      cursor := spans.foldl (fun c span =>
        if span.first ≤ tc.position && tc.position ≤ span.second then
          c.setPosition e.text span.second false
        else c) e.cursor }) := by
  induction spans generalizing i e with
  | nil => rfl
  | cons span spans ih =>
    rw [List.zipIdx_cons, List.find?_cons] at h
    unfold filterLoop
    cases hdeletes : deletes key tc.position span with
    | true =>
      rw [hdeletes] at h
      cases h
    | false =>
      rw [hdeletes] at h
      rw [if_neg Bool.false_ne_true, List.foldl_cons]
      split_ifs
      · exact ih { e with cursor := e.cursor.setPosition e.text span.second false } h
      · exact ih e h

/-- A key that is taken goes no further, and the pair is one of `ipspan`. -/
theorem keyPress_of_taken {e : MyTextEdit} {key : EditKey} {span : MentionSpan} {i : ℕ}
    (r : KeyReply) (h : e.taken key = some (span, i)) :
    (e.keyPress key r).text = splice e.text (e.selectSpan e.cursor span).selectionStart
        (e.selectSpan e.cursor span).selectionEnd [] ∧
      (e.keyPress key r).ipspan = e.ipspan.eraseIdx i := by
  rcases filterLoop_of_some e h with ⟨c, hloop⟩
  unfold keyPress eventFilter
  rw [hloop]
  exact ⟨complete_text _, complete_ipspan _⟩

theorem keyPress_of_not_taken {e : MyTextEdit} {key : EditKey} (r : KeyReply)
    (h : e.taken key = none) :
    e.keyPress key r = { e with cursor := e.resting }.reply r := by
  unfold keyPress eventFilter
  rw [filterLoop_of_none e h]
  rfl

theorem taken_spec {e : MyTextEdit} {key : EditKey} {span : MentionSpan} {i : ℕ}
    (h : e.taken key = some (span, i)) :
    span ∈ e.ipspan ∧ deletes key e.cursor.position span = true := by
  have hmem := List.mem_of_find?_eq_some h
  have hdeletes := List.find?_some h
  exact ⟨List.fst_mem_of_mem_zipIdx hmem, hdeletes⟩

end MyTextEdit

/-! ## A block and the text -/

namespace MentionSpan.Denotes

variable {span : MentionSpan} {text : Utf16}

theorem first_lt (h : span.Denotes text) : span.first < span.second := by
  rw [h.second_eq]
  omega

/-- A block that were cut off at the end of the text would be shorter. -/
theorem second_le (h : span.Denotes text) : span.second ≤ text.length := by
  have hlength := congrArg List.length h.block
  have hsecond := h.second_eq
  rw [slice, List.length_drop, List.length_take, List.length_cons, List.length_append,
    List.length_singleton] at hlength
  omega

theorem of_slice_eq {text' : Utf16} (h : span.Denotes text)
    (heq : slice text' span.first span.second = slice text span.first span.second) :
    span.Denotes text' := ⟨h.second_eq, heq.trans h.block⟩

/-- Behind it or before it. -/
theorem change (h : span.Denotes text) {change : TextChange} (hle : change.first ≤ change.last)
    (hleaves : change.Leaves span) :
    span.Denotes (splice text change.first change.last change.ins) := by
  apply h.of_slice_eq
  have hfirst := h.first_lt
  have hsecond := h.second_le
  rcases hleaves with hbehind | ⟨hsame, hnone⟩ | ⟨hbefore, hlength⟩
  · exact slice_splice_behind _ _ hbehind hsecond _
  · rw [← hsame, hnone, splice_nil_self]
  · exact slice_splice_before _ hle hbefore (by omega) hlength

theorem append (h : span.Denotes text) (text' : Utf16) : span.Denotes (text ++ text') :=
  h.of_slice_eq (slice_append _ h.second_le _)

/-- A key at the end of a block selects it. Anywhere else the selection is a character
too long, or there is none where the text ends with the block. -/
theorem removed_iff {e : MyTextEdit} (h : span.Denotes e.text) :
    splice e.text (e.selectSpan e.cursor span).selectionStart
        (e.selectSpan e.cursor span).selectionEnd [] = splice e.text span.first span.second [] ↔
      e.cursor.position = span.second := by
  have hle : span.first ≤ span.second := Nat.le_of_lt h.first_lt
  have hsecond := h.second_le
  have hstart : ¬e.text.length < span.first := by omega
  have hend : ¬e.text.length < span.second := by omega
  unfold MyTextEdit.selectSpan TextCursor.setPosition
  rw [if_neg hstart]
  constructor
  · intro heq
    by_contra hne
    rw [if_neg hne] at heq
    have hlengths := congrArg List.length heq
    have hfirst := h.first_lt
    have hwhole := length_splice (l := e.text) [] hle hsecond
    by_cases hbehind : e.text.length < span.second + 1
    · -- nothing is selected
      rw [if_pos hbehind] at hlengths
      simp only [TextCursor.selectionStart, TextCursor.selectionEnd, Bool.false_eq_true, if_false,
        Nat.min_self, Nat.max_self, splice_nil_self] at hlengths
      rw [List.length_nil] at hwhole
      omega
    · -- the character behind the block is selected too
      have hnext : span.first ≤ span.second + 1 := by omega
      rw [if_neg hbehind] at hlengths
      simp only [TextCursor.selectionStart, TextCursor.selectionEnd, Bool.false_eq_true, if_false,
        if_true, Nat.min_eq_right hnext, Nat.max_eq_left hnext] at hlengths
      have hlonger := length_splice (l := e.text) [] hnext (Nat.not_lt.mp hbehind)
      rw [List.length_nil] at hwhole hlonger
      omega
  · intro hposition
    rw [if_pos hposition, if_neg hend]
    simp only [TextCursor.selectionStart, TextCursor.selectionEnd, Bool.false_eq_true, if_false,
      if_true, Nat.min_eq_right hle, Nat.max_eq_left hle]

end MentionSpan.Denotes

/-! ## The search -/

namespace MyTextEdit

/-- The search finds an '@' where there is one before. -/
theorem searchBack_isSome_iff (text : Utf16) (n : ℕ) :
    (searchBack text n).isSome = true ↔ 64 ∈ text.take n := by
  induction n with
  | zero => simp [searchBack]
  | succ pos ih =>
    unfold searchBack
    rw [List.take_add_one, List.mem_append]
    split_ifs with hat
    · rw [hat]
      simp
    · rw [ih]
      constructor
      · exact Or.inl
      · rintro (hmem | hmem)
        · exact hmem
        · rw [Option.mem_toList] at hmem
          exact absurd hmem hat

/-- The last '@' is found. -/
theorem searchBack_last {name : Utf16} (h : 64 ∉ name) (text : Utf16) {n : ℕ}
    (hn : n ≤ name.length) :
    searchBack (text ++ 64 :: name) (text.length + 1 + n) = some text.length := by
  induction n with
  | zero =>
    rw [Nat.add_zero, searchBack, if_pos]
    simp
  | succ n ih =>
    have hne : (text ++ 64 :: name)[text.length + 1 + n]? ≠ some 64 := by
      intro heq
      apply h
      rw [List.getElem?_append_right (by omega)] at heq
      have hindex : text.length + 1 + n - text.length = n + 1 := by omega
      rw [hindex, List.getElem?_cons_succ] at heq
      exact List.mem_of_getElem? heq
    have hsucc : text.length + 1 + (n + 1) = text.length + 1 + n + 1 := rfl
    rw [hsucc, searchBack, if_neg hne]
    exact ih (by omega)

/-- The search stays in the text exactly where there is an '@' in it or in the name. -/
theorem changeCompletion_isSome_iff (words : WordEnds) (e : MyTextEdit) (name : Utf16) :
    (e.changeCompletion words name).isSome = true ↔ 64 ∈ e.text ∨ 64 ∈ name := by
  unfold changeCompletion
  dsimp only
  rw [Option.isSome_map, searchBack_isSome_iff, List.take_length, apply_text]
  dsimp only
  rw [splice, List.mem_append, List.mem_append]
  constructor
  · rintro (hmem | hmem | hmem)
    · exact .inl (List.mem_of_mem_take hmem)
    · exact .inr hmem
    · exact .inl (List.mem_of_mem_drop hmem)
  · rintro (hmem | hmem)
    · rw [← List.take_append_drop (words.endOfWord e.text e.cursor.position) e.text,
        List.mem_append] at hmem
      exact hmem.imp_right .inr
    · exact .inr (.inl hmem)

/-! ## Steps that meet the condition -/

theorem change_le {r : KeyReply} {c : TextCursor} {change : TextChange}
    (h : r.change c = some change) : change.first ≤ change.last := by
  have hselection : c.selectionStart ≤ c.selectionEnd :=
    Nat.le_trans (Nat.min_le_left _ _) (Nat.le_max_left _ _)
  cases r with
  | nothing => cases h
  | move cursor => cases h
  | insert text =>
    cases h
    exact hselection
  | deletePrevious n =>
    unfold KeyReply.change at h
    split_ifs at h
    · cases h
      exact Nat.sub_le _ _
    · cases h
      exact hselection
  | deleteNext n =>
    unfold KeyReply.change at h
    split_ifs at h
    · cases h
      exact Nat.le_add_right _ _
    · cases h
      exact hselection

theorem Denoted.apply {e : MyTextEdit} (h : e.Denoted) {change : TextChange}
    (hle : change.first ≤ change.last) (hleaves : ∀ span ∈ e.ipspan, change.Leaves span) :
    (e.apply change).Denoted := by
  intro span hspan
  rw [apply_ipspan] at hspan
  rw [apply_text]
  exact (h span hspan).change hle (hleaves span hspan)

theorem Denoted.reply {e : MyTextEdit} (h : e.Denoted) {r : KeyReply}
    (hleaves : ∀ change, r.change e.cursor = some change →
      ∀ span ∈ e.ipspan, change.Leaves span) : (e.reply r).Denoted := by
  unfold MyTextEdit.reply
  cases hchange : r.change e.cursor with
  | some change => exact h.apply (change_le hchange) (hleaves change hchange)
  | none => cases r <;> exact h

/-- The block goes, and no other one lies behind it. -/
theorem Denoted.keyPress {e : MyTextEdit} (h : e.Denoted) {key : EditKey} {r : KeyReply}
    (hsafe : e.SafeKey key r) : (e.keyPress key r).Denoted := by
  unfold SafeKey at hsafe
  cases htaken : e.taken key with
  | none =>
    rw [htaken] at hsafe
    rw [keyPress_of_not_taken r htaken]
    exact Denoted.reply (e := { e with cursor := e.resting }) h hsafe
  | some taken =>
    rcases taken with ⟨span, i⟩
    rw [htaken] at hsafe
    rcases hsafe with ⟨hposition, hothers⟩
    rcases taken_spec htaken with ⟨hspan, _⟩
    rcases keyPress_of_taken r htaken with ⟨htext, hipspan⟩
    rw [(h span hspan).removed_iff.mpr hposition] at htext
    intro other hother
    rw [hipspan] at hother
    rw [htext]
    have hmem := List.mem_of_mem_eraseIdx hother
    have hle := Nat.le_of_lt (h span hspan).first_lt
    have hbehind : (⟨span.first, span.second, []⟩ : TextChange).Leaves other :=
      .inl (hothers other hother)
    exact (h other hmem).change hle hbehind

theorem changeCompletion_eq_some {words : WordEnds} {e e' : MyTextEdit} {name : Utf16}
    (h : e.changeCompletion words name = some e') :
    let position := words.endOfWord e.text e.cursor.position
    let text := splice e.text position position name
    ∃ pos, searchBack text text.length = some pos ∧ e'.text = text ++ [32] ∧
      e'.ipspan = e.ipspan ++ [⟨pos, text.length + 1, name⟩] := by
  unfold changeCompletion at h
  rcases Option.map_eq_some_iff.mp h with ⟨pos, hpos, rfl⟩
  rw [apply_text] at hpos
  refine ⟨pos, hpos, ?_, ?_⟩
  · simp only [apply_text, complete_text, splice_length_self]
  · simp only [apply_text, apply_ipspan, complete_ipspan]

/-- The name comes behind an '@' at the end of the text, and the search finds that one. -/
theorem Denoted.changeCompletion {words : WordEnds} {e e' : MyTextEdit} (h : e.Denoted)
    {name : Utf16} (hsafe : e.Safe words (.choose name))
    (hchoose : e.changeCompletion words name = some e') : e'.Denoted := by
  rcases hsafe with ⟨hname, hlast, hend⟩
  rcases List.getLast?_eq_some_iff.mp hlast with ⟨text, htext⟩
  have hjoin : e.text ++ name = text ++ 64 :: name := by
    rw [htext, List.append_assoc]
    rfl
  have hsize : (text ++ 64 :: name).length = text.length + 1 + name.length := by
    rw [List.length_append, List.length_cons]
    omega
  rcases changeCompletion_eq_some hchoose with ⟨pos, hpos, htext', hipspan⟩
  rw [hend, splice_length_self, hjoin] at hpos htext' hipspan
  rw [hsize, searchBack_last hname text (Nat.le_refl _), Option.some.injEq] at hpos
  subst hpos
  intro span hspan
  rw [hipspan, List.mem_append, List.mem_singleton] at hspan
  rw [htext']
  rcases hspan with hold | rfl
  · have hbefore := ((h span hold).append name).append [32]
    rw [hjoin] at hbefore
    exact hbefore
  · -- the new block ends with the text
    have hall : (text ++ 64 :: name).length + 1 = (text ++ 64 :: name ++ [32]).length := by
      generalize text ++ 64 :: name = whole
      rw [List.length_append, List.length_singleton]
    constructor
    · rw [hsize]
      show text.length + 1 + name.length + 1 = text.length + name.length + 2
      omega
    · show slice (text ++ 64 :: name ++ [32]) text.length ((text ++ 64 :: name).length + 1) = _
      rw [hall, slice, List.take_length, List.append_assoc, List.drop_left]
      rfl

theorem Denoted.step {words : WordEnds} {e e' : MyTextEdit} (h : e.Denoted) {event : EditEvent}
    (hsafe : e.Safe words event) (hstep : (editSystem words).Step e event e') : e'.Denoted := by
  rcases hstep with ⟨henabled, hstep⟩
  cases event with
  | key key r =>
    cases hstep
    exact h.keyPress hsafe
  | select cursor =>
    cases hstep
    exact h
  | change change =>
    cases hstep
    exact h.apply henabled.1 hsafe
  | choose name => exact h.changeCompletion hsafe hstep
  | setPlainText text =>
    cases hstep
    have hnone : e.ipspan = [] := hsafe
    intro span hspan
    rw [setPlainText, complete_ipspan] at hspan
    rw [hnone] at hspan
    cases hspan
  | setCompleter =>
    cases hstep
    exact h
  | hidePopup =>
    cases hstep
    exact h

theorem Denoted.whole {words : WordEnds} {e : MyTextEdit} (h : e.Denoted) {event : EditEvent}
    (hsafe : e.Safe words event) : e.Whole words event := by
  cases event with
  | key key r =>
    intro span i htaken
    have hspan := (taken_spec htaken).1
    have hkey : e.SafeKey key r := hsafe
    unfold SafeKey at hkey
    rw [htaken] at hkey
    rcases keyPress_of_taken r htaken with ⟨htext, hipspan⟩
    exact ⟨hspan, htext.trans ((h span hspan).removed_iff.mpr hkey.1), hipspan⟩
  | choose name =>
    apply (changeCompletion_isSome_iff words e name).mpr
    exact .inl (List.mem_of_getLast? hsafe.2.1)
  | select cursor => trivial
  | change change => trivial
  | setPlainText text => trivial
  | setCompleter => trivial
  | hidePopup => trivial

end MyTextEdit

/-- In a run whose steps all meet the condition every pair of `ipspan` denotes its block,
and the next step that meets it removes whole blocks and finds its '@'. -/
theorem mention_blocks {words : WordEnds} {e : MyTextEdit}
    (h : Reachable ((editSystem words).restrict (MyTextEdit.Safe words)) e) :
    (∀ span ∈ e.ipspan, span.Denotes e.text) ∧
      ∀ event, e.Safe words event → e.Whole words event := by
  have hdenoted : e.Denoted := by
    refine Reachable.invariant (I := MyTextEdit.Denoted) ?_ ?_ h
    · intro e hfresh
      rw [show e = .fresh from hfresh]
      intro span hspan
      cases hspan
    · intro e event e' _ he hstep
      exact he.step hstep.1 hstep.2
  exact ⟨hdenoted, fun event hsafe => hdenoted.whole hsafe⟩

/-! ## A mention of bob -/

/-- Words that blanks end. -/
def blankEnds : WordEnds where
  endOfWord text position := position + ((text.drop position).takeWhile (· ≠ 32)).length
  le_endOfWord _ := Nat.le_add_right _ _
  endOfWord_le {text position} h := by
    have hword := (List.takeWhile_sublist (· ≠ 32) (l := text.drop position)).length_le
    rw [List.length_drop] at hword
    omega

/-- An '@' has been typed, and bob has been chosen. -/
def mentionedEditor : MyTextEdit where
  text := [64, 98, 111, 98, 32]
  cursor := .caret 5
  ipspan := [⟨0, 5, [98, 111, 98]⟩]
  completer := true
  popup := false

theorem reachable_mentionedEditor :
    Reachable ((editSystem blankEnds).restrict (MyTextEdit.Safe blankEnds)) mentionedEditor := by
  have hfresh : Reachable ((editSystem blankEnds).restrict (MyTextEdit.Safe blankEnds)) .fresh :=
    .init rfl
  have hcompleter : Reachable ((editSystem blankEnds).restrict (MyTextEdit.Safe blankEnds))
      { MyTextEdit.fresh with completer := true } := by
    apply hfresh.step (e := .setCompleter)
    exact ⟨trivial, trivial, rfl⟩
  have htyped : Reachable ((editSystem blankEnds).restrict (MyTextEdit.Safe blankEnds))
      ⟨[64], .caret 1, [], true, true⟩ := by
    apply hcompleter.step (e := .key .other (.insert [64]))
    refine ⟨?_, trivial, by decide +kernel⟩
    intro change _ span hspan
    exact absurd hspan List.not_mem_nil
  apply htyped.step (e := .choose [98, 111, 98])
  refine ⟨⟨by decide, rfl, by decide +kernel⟩, rfl, by decide +kernel⟩

/-- At its end, Backspace removes the mention. -/
theorem mention_blocks_of_bob :
    (∀ span ∈ mentionedEditor.ipspan, span.Denotes mentionedEditor.text) ∧
      (mentionedEditor.keyPress .backspace .nothing).text = [] := by
  rcases mention_blocks reachable_mentionedEditor with ⟨hdenotes, hwhole⟩
  refine ⟨hdenotes, ?_⟩
  have hsafe : mentionedEditor.Safe blankEnds (.key .backspace .nothing) :=
    ⟨rfl, fun other hother => absurd hother List.not_mem_nil⟩
  exact (hwhole _ hsafe ⟨0, 5, [98, 111, 98]⟩ 0 (by decide +kernel)).2.1

/-- The text is cleared when it is sent, and the pair stays. -/
theorem cleared_mention_stays :
    ∃ e, Reachable (editSystem blankEnds) e ∧
      ∃ span ∈ e.ipspan, ∀ name, slice e.text span.first span.second ≠ 64 :: (name ++ [32]) := by
  refine ⟨mentionedEditor.setPlainText [], ?_, ⟨0, 5, [98, 111, 98]⟩, by decide, ?_⟩
  · exact (reachable_mentionedEditor.of_restrict).step (e := .setPlainText []) ⟨trivial, rfl⟩
  · intro name hblock
    cases hblock

end CCMeeting
