import Mathlib.Data.List.Basic
import CCMeeting.Lib.Bytes

/-! # Slash-separated paths

A path as the standard library iterates it: whether there is a root directory,
the file names, and whether a separator follows the last name. Its text, the
lexical normal form, joining, and what a textual prefix says about the names.
-/

namespace CCMeeting

open ByteString

/-- The separator. -/
def slash : UInt8 := 47

/-- The file name of the directory itself. -/
def dot : ByteString := ascii "."

/-- The file name of the parent directory. -/
def dotDot : ByteString := ascii ".."

/-- A file name: nonempty and without a separator. -/
def IsFileName (n : ByteString) : Prop := n ≠ [] ∧ slash ∉ n

instance (n : ByteString) : Decidable (IsFileName n) := inferInstanceAs (Decidable (_ ∧ _))

/-- A path, up to repeated separators. -/
@[ext] structure Path where
  absolute : Bool
  names : List ByteString
  /-- a separator after the last name, iterated as an empty file name -/
  trailing : Bool
  isFileName : ∀ n ∈ names, IsFileName n
  trailing_names : trailing = true → names ≠ []
deriving DecidableEq

namespace Path

/-! ## Text -/

/-- The text of some file names, each after a separator. -/
def tail (names : List ByteString) : ByteString := names.flatMap fun n => slash :: n

@[simp] theorem tail_nil : tail [] = [] := rfl

@[simp] theorem tail_cons (n : ByteString) (names : List ByteString) :
    tail (n :: names) = slash :: (n ++ tail names) := by
  simp [tail]

@[simp] theorem tail_append (ns ms : List ByteString) : tail (ns ++ ms) = tail ns ++ tail ms := by
  simp [tail]

/-- The separator at the end. -/
def ending (trailing : Bool) : ByteString := if trailing then [slash] else []

/-- `generic_string`. -/
def text (p : Path) : ByteString :=
  match p.names with
  | [] => if p.absolute then [slash] else []
  | n :: names => (if p.absolute then [slash] else []) ++ n ++ tail names ++ ending p.trailing

/-- The pieces of a text between its separators. -/
def pieces : ByteString → List ByteString
  | [] => [[]]
  | b :: bs =>
    if b = slash then [] :: pieces bs
    else
      match pieces bs with
      | [] => [[b]]
      | piece :: rest => (b :: piece) :: rest

theorem slash_notMem_pieces (t : ByteString) : ∀ n ∈ pieces t, slash ∉ n := by
  induction t with
  | nil => simp [pieces]
  | cons b bs ih =>
    rw [pieces]
    split_ifs with hb
    · simpa using ih
    · cases hp : pieces bs with
      | nil => simpa using fun h : slash = b => hb h.symm
      | cons piece rest =>
        rw [hp] at ih
        intro n hn
        rcases List.mem_cons.mp hn with rfl | hn
        · simp only [List.mem_cons, not_or]
          exact ⟨fun h => hb h.symm, ih piece (List.mem_cons_self ..)⟩
        · exact ih n (List.mem_cons_of_mem _ hn)

/-- The file names of a text. -/
def fileNames (t : ByteString) : List ByteString := (pieces t).filter (fun n => n ≠ [])

theorem isFileName_of_mem_fileNames {t n : ByteString} (h : n ∈ fileNames t) : IsFileName n := by
  rcases List.mem_filter.mp h with ⟨hmem, hne⟩
  exact ⟨by simpa using hne, slash_notMem_pieces t n hmem⟩

/-- The constructor of `fs::path`. -/
def parse (t : ByteString) : Path where
  absolute := t.head? = some slash
  names := fileNames t
  trailing := t.getLast? = some slash && !(fileNames t).isEmpty
  isFileName _ h := isFileName_of_mem_fileNames h
  trailing_names h := by
    intro hnil
    simp [hnil] at h

/-! ## Parsing a text back -/

/-- A text of a name cannot run past the next separator. -/
theorem append_slash_inj {a b x y : ByteString} (ha : slash ∉ a) (hb : slash ∉ b)
    (h : a ++ slash :: x = b ++ slash :: y) : a = b ∧ x = y := by
  induction a generalizing b with
  | nil =>
    cases b with
    | nil => simpa using h
    | cons c b =>
      simp only [List.nil_append, List.cons_append, List.cons.injEq] at h
      exact absurd (h.1 ▸ List.mem_cons_self ..) hb
  | cons c a ih =>
    cases b with
    | nil =>
      simp only [List.nil_append, List.cons_append, List.cons.injEq] at h
      exact absurd (h.1 ▸ List.mem_cons_self ..) ha
    | cons d b =>
      simp only [List.cons_append, List.cons.injEq] at h
      rcases ih (fun hm => ha (List.mem_cons_of_mem _ hm))
        (fun hm => hb (List.mem_cons_of_mem _ hm)) h.2 with ⟨rfl, rfl⟩
      exact ⟨by rw [h.1], rfl⟩

theorem pieces_of_notMem {a : ByteString} (h : slash ∉ a) : pieces a = [a] := by
  induction a with
  | nil => rfl
  | cons b a ih =>
    simp only [List.mem_cons, not_or] at h
    rw [pieces, if_neg (fun hb => h.1 hb.symm), ih h.2]

theorem pieces_append_slash {a : ByteString} (h : slash ∉ a) (x : ByteString) :
    pieces (a ++ slash :: x) = a :: pieces x := by
  induction a with
  | nil => simp [pieces]
  | cons b a ih =>
    simp only [List.mem_cons, not_or] at h
    rw [List.cons_append, pieces, if_neg (fun hb => h.1 hb.symm), ih h.2]

/-- The names of a text are read back in order. -/
theorem fileNames_tail (names : List ByteString) (h : ∀ n ∈ names, IsFileName n)
    {n : ByteString} (hn : slash ∉ n) (trailing : Bool) :
    fileNames (n ++ tail names ++ ending trailing) = (n :: names).filter (fun n => n ≠ []) := by
  induction names generalizing n with
  | nil =>
    cases trailing with
    | false => simp [fileNames, ending, pieces_of_notMem hn]
    | true => simp [fileNames, ending, pieces_append_slash hn, pieces, List.filter_cons]
  | cons m names ih =>
    have hm := h m (List.mem_cons_self ..)
    have ih' := ih (fun k hk => h k (List.mem_cons_of_mem _ hk)) hm.2
    have htext : n ++ tail (m :: names) ++ ending trailing =
        n ++ slash :: (m ++ tail names ++ ending trailing) := by
      simp
    rw [htext, fileNames, pieces_append_slash hn, List.filter_cons, List.filter_cons]
    rw [fileNames] at ih'
    rw [ih']

/-- What follows a name has the separator of a trailing one at its end, and no
other. -/
theorem getLast?_tail {names : List ByteString} (h : ∀ n ∈ names, IsFileName n) {n : ByteString}
    (hn : IsFileName n) (trailing : Bool) :
    (n ++ tail names ++ ending trailing).getLast? = some slash ↔ trailing = true := by
  cases trailing with
  | true => simp [ending]
  | false =>
    induction names generalizing n with
    | nil =>
      simp only [tail_nil, List.append_nil, ending, Bool.false_eq_true, if_false, iff_false]
      intro hlast
      exact hn.2 (List.mem_of_getLast? hlast)
    | cons m names ih =>
      have hm := h m (List.mem_cons_self ..)
      have ih' := ih (fun k hk => h k (List.mem_cons_of_mem _ hk)) hm
      have htext : n ++ tail (m :: names) ++ ending false =
          (n ++ [slash]) ++ (m ++ tail names ++ ending false) := by
        simp
      have hne : m ++ tail names ++ ending false ≠ [] := by
        simp [hm.1]
      rw [htext, List.getLast?_append_of_ne_nil _ hne]
      exact ih'

/-- A path is read back from its text. -/
theorem parse_text (p : Path) : parse p.text = p := by
  rcases p with ⟨absolute, names, trailing, hnames, htrailing⟩
  cases names with
  | nil =>
    have hfalse : trailing = false := by
      cases trailing with
      | false => rfl
      | true => exact absurd rfl (htrailing rfl)
    subst hfalse
    cases absolute <;> rfl
  | cons n names =>
    have hn := hnames n (List.mem_cons_self ..)
    have hrest : ∀ m ∈ names, IsFileName m := fun m hm => hnames m (List.mem_cons_of_mem _ hm)
    have hfilter : (n :: names).filter (fun n => n ≠ []) = n :: names := by
      rw [List.filter_eq_self]
      intro m hm
      simpa using (hnames m hm).1
    have hread := fileNames_tail names hrest hn.2 trailing
    rw [hfilter] at hread
    -- the written text ends in a slash just when the path has one trailing, and begins with one
    -- just when it is absolute
    have hlast := getLast?_tail hrest hn trailing
    have hhead : (n ++ tail names ++ ending trailing).head? ≠ some slash := by
      rcases List.exists_cons_of_ne_nil hn.1 with ⟨b, bs, rfl⟩
      simp only [List.cons_append, List.head?_cons, ne_eq, Option.some.injEq]
      rintro rfl
      exact hn.2 (List.mem_cons_self ..)
    cases absolute with
    | false =>
      have htext : text ⟨false, n :: names, trailing, hnames, htrailing⟩ =
          n ++ tail names ++ ending trailing := by
        simp [text]
      simp only [htext, parse, hread, Path.mk.injEq, true_and]
      constructor
      · simpa using hhead
      · rw [List.isEmpty_cons, Bool.not_false, Bool.and_true, Bool.eq_iff_iff, decide_eq_true_iff]
        exact hlast
    | true =>
      have htext : text ⟨true, n :: names, trailing, hnames, htrailing⟩ =
          slash :: (n ++ tail names ++ ending trailing) := by
        simp [text]
      have hread' : fileNames (slash :: (n ++ tail names ++ ending trailing)) = n :: names := by
        rw [← hread]
        simp [fileNames, pieces]
      have hne : n ++ tail names ++ ending trailing ≠ [] := by
        simp [hn.1]
      have hlast' : (slash :: (n ++ tail names ++ ending trailing)).getLast? = some slash ↔
          trailing = true := by
        rw [← hlast, List.getLast?_cons_of_ne_nil hne]
      simp only [htext, parse, hread', Path.mk.injEq, true_and]
      constructor
      · simp
      · rw [List.isEmpty_cons, Bool.not_false, Bool.and_true, Bool.eq_iff_iff, decide_eq_true_iff]
        exact hlast'

/-! ## Textual prefixes -/

/-- The last name of `ns` runs on in `ms`: the two lists agree up to it, and
there `ms` has a longer name that starts with it. -/
def RunsOn (ns ms : List ByteString) : Prop :=
  ∃ base n more rest, more ≠ [] ∧ ns = base ++ [n] ∧ ms = base ++ (n ++ more) :: rest

theorem RunsOn.cons {ns ms : List ByteString} (h : RunsOn ns ms) (m : ByteString) :
    RunsOn (m :: ns) (m :: ms) := by
  rcases h with ⟨base, n, more, rest, hmore, rfl, rfl⟩
  exact ⟨m :: base, n, more, rest, hmore, rfl, rfl⟩

/-- Names below a directory and names in a sibling of it are different things. -/
theorem RunsOn.not_isPrefix {ns ms : List ByteString} (h : RunsOn ns ms) : ¬ns <+: ms := by
  rcases h with ⟨base, n, more, rest, hmore, rfl, rfl⟩
  rw [List.prefix_append_right_inj]
  rintro ⟨z, hz⟩
  have hn : n = n ++ more := by
    simpa using congrArg List.head? hz
  exact hmore (by simpa using hn.symm)

/-- What follows a name begins with a separator. -/
theorem exists_eq_slash_cons {names : List ByteString} {trailing : Bool}
    (h : slash ∈ tail names ++ ending trailing) :
    ∃ y, tail names ++ ending trailing = slash :: y := by
  cases names with
  | nil =>
    cases trailing with
    | false => cases h
    | true => exact ⟨[], rfl⟩
  | cons n names => exact ⟨_, by rw [tail_cons]; rfl⟩

/-- A name that is a prefix of a text lies within the first name of the text. -/
theorem isPrefix_of_isPrefix_tail {n m : ByteString} (hn : slash ∉ n) (names : List ByteString)
    (trailing : Bool) (h : n <+: m ++ (tail names ++ ending trailing)) : n <+: m := by
  rcases List.prefix_or_prefix_of_prefix h (List.prefix_append m _) with h | ⟨c, rfl⟩
  · exact h
  · rw [List.prefix_append_right_inj] at h
    cases c with
    | nil => simp
    | cons b c =>
      -- the next byte after `m` is a separator
      have hb : b = slash := by
        rcases h with ⟨z, hz⟩
        cases names with
        | nil =>
          cases trailing with
          | false => cases hz
          | true => exact (List.cons.inj hz).1
        | cons k names => exact (List.cons.inj (hz.trans (by rw [tail_cons]; rfl))).1
      subst hb
      exact absurd (List.mem_append_right _ (List.mem_cons_self ..)) hn

/-- What a prefix of the text of some names says about the names. -/
theorem isPrefix_or_runsOn_of_tail {ns : List ByteString} (hns : ∀ n ∈ ns, IsFileName n)
    {ms : List ByteString} (hms : ∀ m ∈ ms, IsFileName m) {trailing : Bool}
    (h : tail ns <+: tail ms ++ ending trailing) : ns <+: ms ∨ RunsOn ns ms := by
  -- one name at a time: a name that is not the last is closed by a slash on both sides, so it is
  -- the same name; the last one may run on into a longer one
  induction ns generalizing ms with
  | nil => exact Or.inl List.nil_prefix
  | cons n ns ih =>
    have hn := hns n (List.mem_cons_self ..)
    cases ms with
    | nil =>
      have hlength := h.length_le
      have hpos : 0 < n.length := List.length_pos_iff.mpr hn.1
      have hending : (ending trailing).length ≤ 1 := by cases trailing <;> simp [ending]
      simp only [tail_cons, tail_nil, List.length_cons, List.length_append, List.length_nil]
        at hlength
      omega
    | cons m ms =>
      have hm := hms m (List.mem_cons_self ..)
      rw [tail_cons, tail_cons, List.cons_append, List.cons_prefix_cons, List.append_assoc] at h
      cases ns with
      | nil =>
        rw [tail_nil, List.append_nil] at h
        rcases isPrefix_of_isPrefix_tail hn.2 ms trailing h.2 with ⟨more, rfl⟩
        by_cases hmore : more = []
        · subst hmore
          exact Or.inl (by simp)
        · exact Or.inr ⟨[], n, more, ms, hmore, rfl, rfl⟩
      | cons k ns =>
        rcases h.2 with ⟨z, hz⟩
        have hmem : slash ∈ m ++ (tail ms ++ ending trailing) := by
          rw [← hz]
          simp
        have hnext := exists_eq_slash_cons ((List.mem_append.mp hmem).resolve_left hm.2)
        rcases hnext with ⟨y, hy⟩
        rw [hy, tail_cons, List.append_assoc, List.cons_append] at hz
        rcases append_slash_inj hn.2 hm.2 hz with ⟨rfl, hrest⟩
        have hprefix : tail (k :: ns) <+: tail ms ++ ending trailing :=
          ⟨z, by rw [hy, tail_cons, List.cons_append, hrest]⟩
        rcases ih (fun j hj => hns j (List.mem_cons_of_mem _ hj))
          (fun j hj => hms j (List.mem_cons_of_mem _ hj)) hprefix with hle | hruns
        · exact Or.inl (List.cons_prefix_cons.mpr ⟨rfl, hle⟩)
        · exact Or.inr (hruns.cons n)

theorem text_of_absolute {p : Path} (h : p.absolute = true) (hnames : p.names ≠ []) :
    p.text = tail p.names ++ ending p.trailing := by
  rcases p with ⟨absolute, names, trailing, _, _⟩
  cases names with
  | nil => exact absurd rfl hnames
  | cons n names =>
    have habsolute : absolute = true := h
    subst habsolute
    simp [text]

/-- A separator behind the names makes a textual prefix one of the names. -/
theorem RunsOn.not_isPrefix_tail {ns ms : List ByteString} (h : RunsOn ns ms)
    (hms : ∀ m ∈ ms, IsFileName m) (more : ByteString) : ¬tail ns ++ [slash] <+: tail ms ++ more := by
  rcases h with ⟨base, n, c, rest, hc, rfl, rfl⟩
  have hname := hms (n ++ c) (by simp)
  simp only [tail_append, tail_cons, tail_nil, List.append_nil, List.append_assoc,
    List.cons_append, List.prefix_append_right_inj, List.cons_prefix_cons, true_and]
  intro h
  cases c with
  | nil => exact hc rfl
  | cons b c =>
    rw [List.cons_append, List.cons_prefix_cons] at h
    exact hname.2 (by simp [h.1])

/-- A textual prefix is a prefix of the names, unless the last name runs on. -/
theorem isPrefix_or_runsOn {p q : Path} (hp : p.absolute = true) (hq : q.absolute = true)
    (h : p.text <+: q.text) :
    p.names <+: q.names ∨ (p.trailing = false ∧ RunsOn p.names q.names) := by
  by_cases hpnames : p.names = []
  · rw [hpnames]
    exact Or.inl List.nil_prefix
  · rw [text_of_absolute hp hpnames] at h
    have hmore : ∃ trailing, tail p.names ++ ending p.trailing <+:
        tail q.names ++ ending trailing := by
      by_cases hqnames : q.names = []
      · have hqtext : q.text = [slash] := by
          rw [text, hqnames]
          simp [hq]
        rw [hqtext] at h
        exact ⟨true, by rw [hqnames]; exact h⟩
      · rw [text_of_absolute hq hqnames] at h
        exact ⟨_, h⟩
    rcases hmore with ⟨trailing, hprefix⟩
    rcases isPrefix_or_runsOn_of_tail p.isFileName q.isFileName
      ((List.prefix_append _ _).trans hprefix) with hle | hruns
    · exact Or.inl hle
    · cases htrailing : p.trailing with
      | false => exact Or.inr ⟨rfl, hruns⟩
      | true =>
        rw [htrailing] at hprefix
        exact absurd hprefix (hruns.not_isPrefix_tail q.isFileName _)

/-- Names that run on are a textual prefix. -/
theorem RunsOn.isPrefix_text {p q : Path} (hp : p.absolute = true) (hq : q.absolute = true)
    (htrailing : p.trailing = false) (h : RunsOn p.names q.names) : p.text <+: q.text := by
  rcases h with ⟨base, n, more, rest, _, hpnames, hqnames⟩
  rw [text_of_absolute hp (by simp [hpnames]), text_of_absolute hq (by simp [hqnames]), hpnames,
    hqnames, htrailing]
  simp only [tail_append, tail_cons, tail_nil, List.append_nil, List.append_assoc,
    List.cons_append, List.prefix_append_right_inj, List.cons_prefix_cons, true_and, ending]
  exact List.prefix_append _ _

/-- A path with more names is a longer text. -/
theorem isPrefix_text_of_names {p q : Path} (hp : p.absolute = true) (hq : q.absolute = true)
    {more : List ByteString} (hmore : more ≠ []) (h : q.names = p.names ++ more) :
    p.text <+: q.text := by
  have hqnames : q.names ≠ [] := by
    simp [h, hmore]
  rcases List.exists_cons_of_ne_nil hmore with ⟨m, rest, rfl⟩
  rw [text_of_absolute hq hqnames, h]
  by_cases hpnames : p.names = []
  · -- the root directory
    have hptext : p.text = [slash] := by
      rw [text, hpnames]
      simp [hp]
    rw [hptext, hpnames]
    exact ⟨_, rfl⟩
  · rw [text_of_absolute hp hpnames, tail_append, List.append_assoc, List.prefix_append_right_inj]
    cases p.trailing with
    | false => exact List.nil_prefix
    | true => exact ⟨_, rfl⟩

/-- The path without its root directory and its first name. -/
def below (p : Path) : Path where
  absolute := false
  names := p.names.tail
  trailing := p.trailing && !p.names.tail.isEmpty
  isFileName n hn := p.isFileName n (List.mem_of_mem_tail hn)
  trailing_names h := by
    intro hnil
    simp [hnil] at h

/-- A path that ends in the last of its names. -/
def ofNames (absolute : Bool) (names : List ByteString) (h : ∀ n ∈ names, IsFileName n) : Path where
  absolute := absolute
  names := names
  trailing := false
  isFileName := h
  trailing_names := nofun

theorem parse_tail {names : List ByteString} (h : ∀ n ∈ names, IsFileName n) (hne : names ≠ []) :
    parse (tail names) = ofNames true names h := by
  have htext : (ofNames true names h).text = tail names := by
    rw [text_of_absolute rfl hne]
    exact List.append_nil _
  rw [← htext, parse_text]

theorem parse_name {n : ByteString} (h : ∀ m ∈ [n], IsFileName m) :
    parse n = ofNames false [n] h := by
  have htext : (ofNames false [n] h).text = n := by
    simp [text, ofNames, ending]
  calc parse n = parse (ofNames false [n] h).text := by rw [htext]
    _ = ofNames false [n] h := parse_text _

/-- Taking `/name/` off the front of a text leaves the text of a relative path. -/
theorem text_of_isPrefix {p : Path} (hp : p.absolute = true) {name : ByteString}
    (hname : slash ∉ name) (h : slash :: (name ++ [slash]) <+: p.text) :
    p.names.head? = some name ∧ p.text = slash :: (name ++ slash :: p.below.text) := by
  rcases h with ⟨z, hz⟩
  have hnames : p.names ≠ [] := by
    intro hnil
    have hlength := congrArg List.length hz
    rw [text, hnil] at hlength
    simp [hp] at hlength
  rw [text_of_absolute hp hnames] at hz ⊢
  rcases p with ⟨absolute, names, trailing, hfile, htrailing⟩
  cases names with
  | nil => exact absurd rfl hnames
  | cons n names =>
    have hn := hfile n (List.mem_cons_self ..)
    simp only [tail_cons, List.cons_append, List.append_assoc, List.nil_append,
      List.cons.injEq, true_and] at hz
    have hmem : slash ∈ n ++ (tail names ++ ending trailing) := by
      rw [← hz]
      simp
    rcases exists_eq_slash_cons ((List.mem_append.mp hmem).resolve_left hn.2) with ⟨y, hy⟩
    rw [hy] at hz
    rcases append_slash_inj hname hn.2 hz with ⟨rfl, rfl⟩
    refine ⟨rfl, ?_⟩
    simp only [tail_cons, List.cons_append, List.append_assoc, hy, List.cons.injEq, true_and,
      List.append_cancel_left_eq]
    -- the rest is the text of the names that are left
    cases names with
    | nil =>
      cases trailing with
      | false => cases hy
      | true => simpa [ending, text, below] using hy.symm
    | cons k names =>
      rw [tail_cons, List.cons_append, List.cons.injEq] at hy
      simp [text, below, ← hy.2]

/-! ## Joining and normalising -/

/-- `operator/`: an absolute path replaces what it is joined to. -/
def append (p q : Path) : Path :=
  if q.absolute then q
  else
    { absolute := p.absolute
      names := p.names ++ q.names
      trailing := if q.names.isEmpty then !p.names.isEmpty else q.trailing
      isFileName := by
        intro n hn
        rcases List.mem_append.mp hn with hn | hn
        · exact p.isFileName n hn
        · exact q.isFileName n hn
      trailing_names := by
        intro htrailing
        split_ifs at htrailing with hq
        · intro h
          rw [List.append_eq_nil_iff] at h
          simp [h.1] at htrailing
        · intro h
          rw [List.append_eq_nil_iff] at h
          exact hq (by rw [h.2]; rfl) }

@[simp] theorem append_absolute (p q : Path) :
    (p.append q).absolute = (p.absolute || q.absolute) := by
  unfold append
  cases h : q.absolute <;> simp [h]

/-- Names are put behind one another. -/
theorem append_append_ofNames (p : Path) {ns ms : List ByteString}
    (hns : ∀ n ∈ ns, IsFileName n) (hms : ∀ m ∈ ms, IsFileName m) (hne : ms ≠ []) :
    (p.append (ofNames false ns hns)).append (ofNames false ms hms) =
      p.append (ofNames false (ns ++ ms) (List.forall_mem_append.mpr ⟨hns, hms⟩)) := by
  ext1
  · simp [ofNames]
  · simp [append, ofNames]
  · simp [append, ofNames, hne]

/-- What one file name makes of the names before it: at the root there is
nothing to go up to. -/
def normalStep (absolute : Bool) (names : List ByteString) (n : ByteString) : List ByteString :=
  if n = dot then names
  else if n ≠ dotDot then names ++ [n]
  else if names.getLast? = some dotDot || (names.isEmpty && !absolute) then names ++ [dotDot]
  else names.dropLast

theorem mem_normalStep {absolute : Bool} {names : List ByteString} {n m : ByteString}
    (h : m ∈ normalStep absolute names n) : m ∈ names ∨ m = n := by
  unfold normalStep at h
  split_ifs at h with h1 h2 h3
  · exact Or.inl h
  · simpa using h
  · simpa [not_not.mp h2] using h
  · exact Or.inl ((List.dropLast_sublist names).subset h)

/-- The names of the normal form, but for a path that comes to nothing. -/
def normalNames (absolute : Bool) (names : List ByteString) : List ByteString :=
  names.foldl (normalStep absolute) []

theorem mem_foldl_normalStep {absolute : Bool} {names acc : List ByteString} {m : ByteString}
    (h : m ∈ names.foldl (normalStep absolute) acc) : m ∈ acc ∨ m ∈ names := by
  induction names generalizing acc with
  | nil => exact Or.inl h
  | cons n names ih =>
    rcases ih h with h | h
    · rcases mem_normalStep h with h | rfl
      · exact Or.inl h
      · exact Or.inr (List.mem_cons_self ..)
    · exact Or.inr (List.mem_cons_of_mem _ h)

theorem mem_normalNames {absolute : Bool} {names : List ByteString} {m : ByteString}
    (h : m ∈ normalNames absolute names) : m ∈ names := by
  rcases mem_foldl_normalStep h with h | h
  · cases h
  · exact h

/-- `lexically_normal`. A name that is removed at the end leaves its separator. -/
def lexicallyNormal (p : Path) : Path where
  absolute := p.absolute
  names :=
    if (normalNames p.absolute p.names).isEmpty && !p.absolute && !p.names.isEmpty then [dot]
    else normalNames p.absolute p.names
  trailing :=
    !(normalNames p.absolute p.names).isEmpty &&
      (normalNames p.absolute p.names).getLast? ≠ some dotDot &&
      (p.trailing || p.names.getLast? = some dot || p.names.getLast? = some dotDot)
  isFileName := by
    intro n hn
    split_ifs at hn
    · rw [List.mem_singleton.mp hn]
      decide
    · exact p.isFileName n (mem_normalNames hn)
  trailing_names := by
    intro htrailing
    split_ifs
    · simp
    · intro h
      simp [h] at htrailing

/-- Nothing in the names refers to a directory by its place. -/
def Plain (names : List ByteString) : Prop := ∀ n ∈ names, n ≠ dot ∧ n ≠ dotDot

instance (names : List ByteString) : Decidable (Plain names) :=
  inferInstanceAs (Decidable (∀ n ∈ names, n ≠ dot ∧ n ≠ dotDot))

theorem normalStep_plain {names : List ByteString} (h : Plain names) (n : ByteString) :
    Plain (normalStep true names n) := by
  intro m hm
  unfold normalStep at hm
  split_ifs at hm with h1 h2 h3
  · exact h m hm
  · rcases List.mem_append.mp hm with hm | hm
    · exact h m hm
    · rw [List.mem_singleton.mp hm]
      exact ⟨h1, h2⟩
  · -- no name before is `..`, and there is a root
    have hlast : names.getLast? = some dotDot := by simpa using h3
    exact absurd rfl (h dotDot (List.mem_of_getLast? hlast)).2
  · exact h m ((List.dropLast_sublist names).subset hm)

theorem foldl_plain {acc : List ByteString} (h : Plain acc) (names : List ByteString) :
    Plain (names.foldl (normalStep true) acc) := by
  induction names generalizing acc with
  | nil => exact h
  | cons n names ih => exact ih (normalStep_plain h n)

theorem lexicallyNormal_names {p : Path} (h : p.absolute = true) :
    p.lexicallyNormal.names = normalNames true p.names := by
  simp [lexicallyNormal, h]

theorem lexicallyNormal_trailing {p : Path} (h : p.absolute = true) :
    p.lexicallyNormal.trailing = true ↔
      (p.lexicallyNormal.names ≠ [] ∧ p.lexicallyNormal.names.getLast? ≠ some dotDot) ∧
      (p.trailing = true ∨ p.names.getLast? = some dot ∨ p.names.getLast? = some dotDot) := by
  rw [lexicallyNormal_names h]
  simp [lexicallyNormal, h, or_assoc]

/-- The normal form of an absolute path is free of dots. -/
theorem lexicallyNormal_plain {p : Path} (h : p.absolute = true) :
    Plain p.lexicallyNormal.names := by
  rw [lexicallyNormal_names h]
  exact foldl_plain (by simp [Plain]) p.names

/-- `extension`: the last name from its last period on, unless it starts there. -/
def extension (p : Path) : ByteString :=
  match p.names.getLast? with
  | none => []
  | some n =>
    let ending := n.reverse.takeWhile (fun b => b ≠ 46)
    if p.trailing || n = dotDot || n.length ≤ ending.length + 1 then []
    else 46 :: ending.reverse

/-- Names that do not refer upwards are put behind what is there. -/
theorem foldl_of_notMem {names : List ByteString} (absolute : Bool) (acc : List ByteString)
    (h : dotDot ∉ names) :
    names.foldl (normalStep absolute) acc = acc ++ names.filter (fun n => n ≠ dot) := by
  induction names generalizing acc with
  | nil => simp
  | cons n names ih =>
    simp only [List.mem_cons, not_or] at h
    have hne : n ≠ dotDot := fun hn => h.1 hn.symm
    rw [List.foldl_cons, ih _ h.2, normalStep]
    by_cases hn : n = dot
    · simp [hn]
    · simp [hn, hne]

/-- Joining a path that does not go up keeps the normal form and adds names to
it, or a separator at its end. -/
theorem lexicallyNormal_append {p q : Path} (hp : p.absolute = true) (hq : q.absolute = false)
    (hup : dotDot ∉ q.names) :
    (p.append q).lexicallyNormal.names =
      p.lexicallyNormal.names ++ q.names.filter (fun n => n ≠ dot) ∧
    (q.names.filter (fun n => n ≠ dot) = [] → p.lexicallyNormal.names ≠ [] →
      (p.append q).lexicallyNormal.trailing = true) := by
  have hpnames := lexicallyNormal_names hp
  have hnames : (p.append q).names = p.names ++ q.names := by
    simp [append, hq]
  have habsolute : (p.append q).absolute = true := by
    simp [hp]
  have hnormal : (p.append q).lexicallyNormal.names =
      p.lexicallyNormal.names ++ q.names.filter (fun n => n ≠ dot) := by
    rw [lexicallyNormal_names habsolute, hpnames, hnames, normalNames, List.foldl_append,
      foldl_of_notMem true _ hup]
    rfl
  refine ⟨hnormal, ?_⟩
  intro hdots hne
  rw [lexicallyNormal_trailing habsolute, hnormal, hdots, List.append_nil]
  refine ⟨⟨hne, ?_⟩, ?_⟩
  · intro h
    exact (lexicallyNormal_plain hp dotDot (List.mem_of_getLast? h)).2 rfl
  · -- what is joined is empty or ends in a dot
    by_cases hqnames : q.names = []
    · refine Or.inl ?_
      have hpne : p.names ≠ [] := by
        intro h
        rw [hpnames, h] at hne
        exact hne rfl
      simp [append, hq, hqnames, hpne]
    · refine Or.inr (Or.inl ?_)
      rw [hnames, List.getLast?_append_of_ne_nil _ hqnames, List.getLast?_eq_some_getLast hqnames]
      have hlast := List.filter_eq_nil_iff.mp hdots _ (List.getLast_mem hqnames)
      simpa using hlast

/-- A path without dots is normal. -/
theorem lexicallyNormal_of_plain {p : Path} (h : p.absolute = true) (hplain : Plain p.names) :
    p.lexicallyNormal = p := by
  -- no step of the pass has anything to take away
  have hnames : normalNames true p.names = p.names := by
    have hup : dotDot ∉ p.names := fun hm => (hplain dotDot hm).2 rfl
    rw [normalNames, foldl_of_notMem true [] hup, List.nil_append, List.filter_eq_self]
    intro n hn
    simpa using (hplain n hn).1
  have hlast : ∀ n, p.names.getLast? = some n → n ≠ dot ∧ n ≠ dotDot :=
    fun n hn => hplain n (List.mem_of_getLast? hn)
  have hdot : p.names.getLast? ≠ some dot := fun hn => (hlast dot hn).1 rfl
  have hdotDot : p.names.getLast? ≠ some dotDot := fun hn => (hlast dotDot hn).2 rfl
  ext1
  · rfl
  · rw [lexicallyNormal_names h, hnames]
  · rw [Bool.eq_iff_iff, lexicallyNormal_trailing h, lexicallyNormal_names h, hnames]
    constructor
    · rintro ⟨_, htrailing | hn | hn⟩
      · exact htrailing
      · exact absurd hn hdot
      · exact absurd hn hdotDot
    · intro htrailing
      exact ⟨⟨p.trailing_names htrailing, hdotDot⟩, Or.inl htrailing⟩

theorem lexicallyNormal_parse_tail {names : List ByteString} (h : ∀ n ∈ names, IsFileName n)
    (hplain : Plain names) (hne : names ≠ []) :
    (parse (tail names)).lexicallyNormal = ofNames true names h := by
  rw [parse_tail h hne]
  exact lexicallyNormal_of_plain rfl hplain

/-- The normal form of an absolute path is normal. -/
theorem lexicallyNormal_idem {p : Path} (h : p.absolute = true) :
    p.lexicallyNormal.lexicallyNormal = p.lexicallyNormal :=
  lexicallyNormal_of_plain h (lexicallyNormal_plain h)

/-- What is looked up in a directory or a file is not the directory or the file. -/
theorem lexicallyNormal_append_ne {p q : Path} (hp : p.absolute = true) (hq : q.absolute = false)
    (hup : dotDot ∉ q.names) (hne : p.lexicallyNormal.names ≠ [])
    (htrailing : p.lexicallyNormal.trailing = false) :
    (p.append q).lexicallyNormal ≠ p.lexicallyNormal := by
  rcases lexicallyNormal_append hp hq hup with ⟨hnames, hend⟩
  intro heq
  rw [heq] at hnames hend
  -- nothing is added to the names, so a separator is
  have hsep := hend (List.self_eq_append_right.mp hnames) hne
  rw [htrailing] at hsep
  cases hsep

/-- Of a directory the normal form is enough to look something up in it. -/
theorem lexicallyNormal_append_congr {p q r : Path} (hp : p.absolute = true)
    (hr : r.absolute = false) (hup : dotDot ∉ r.names)
    (h : p.lexicallyNormal = q.lexicallyNormal) :
    (p.append r).lexicallyNormal = (q.append r).lexicallyNormal := by
  have hq : q.absolute = true := by
    have habsolute : p.lexicallyNormal.absolute = true := hp
    rw [h] at habsolute
    exact habsolute
  have hpabsolute : (p.append r).absolute = true := by
    simp [hp]
  have hqabsolute : (q.append r).absolute = true := by
    simp [hq]
  rcases lexicallyNormal_append hp hr hup with ⟨hpnames, hpend⟩
  rcases lexicallyNormal_append hq hr hup with ⟨hqnames, hqend⟩
  rw [h] at hpnames hpend
  ext1
  · exact hpabsolute.trans hqabsolute.symm
  · rw [hpnames, hqnames]
  · rw [Bool.eq_iff_iff, lexicallyNormal_trailing hpabsolute, lexicallyNormal_trailing hqabsolute,
      hpnames, hqnames]
    by_cases hrnames : r.names = []
    · by_cases hnil : q.lexicallyNormal.names = []
      · simp [hrnames, hnil]
      · -- both have the separator that stands for nothing
        have hpsep := hpend (by simp [hrnames]) hnil
        have hqsep := hqend (by simp [hrnames]) hnil
        rw [lexicallyNormal_trailing hpabsolute, hpnames] at hpsep
        rw [lexicallyNormal_trailing hqabsolute, hqnames] at hqsep
        exact iff_of_true hpsep hqsep
    · have hptrailing : (p.append r).trailing = r.trailing := by
        simp [append, hr, hrnames]
      have hqtrailing : (q.append r).trailing = r.trailing := by
        simp [append, hr, hrnames]
      have hplast : (p.append r).names.getLast? = r.names.getLast? := by
        simp [append, hr, List.getLast?_append_of_ne_nil _ hrnames]
      have hqlast : (q.append r).names.getLast? = r.names.getLast? := by
        simp [append, hr, List.getLast?_append_of_ne_nil _ hrnames]
      rw [hptrailing, hqtrailing, hplast, hqlast]

end Path

end CCMeeting
