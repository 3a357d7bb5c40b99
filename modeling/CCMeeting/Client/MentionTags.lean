import CCMeeting.Client.Controllers

/-! # The tags of the @-completion

`ChatController` keeps a tag for every name it has heard of. A profile adds the
tag of its name, and a member who leaves takes the tag of the name shown for it
along. Nothing looks at the other members, and nothing empties the tags.
-/

namespace CCMeeting

open ByteString Transition

/-! ## The tags and their handlers -/

/-- `ChatController::_mentionTags`. -/
abbrev MentionTags := List ByteString

/-- The tag of a name. -/
def mentionTag (name : ByteString) : ByteString := 64 :: name

/-- `ParticipantsController::display_name`. -/
def Partners.displayName (ps : Partners) (userId : Int64) : ByteString :=
  match ps userId with
  | none => JsonText.writeInt userId.toInt
  | some partner =>
    if partner.displayName = [] then JsonText.writeInt userId.toInt else partner.displayName

namespace MentionTags

/-- `ChatController::add_mention_tag`. -/
def addMentionTag (tags : MentionTags) (tag : ByteString) : MentionTags :=
  if tag = [] then tags else if tags.contains tag then tags else tags ++ [tag]

/-- `ChatController::remove_mention_tag`. -/
def removeMentionTag (tags : MentionTags) (tag : ByteString) : MentionTags :=
  if tag = [] then tags else tags.filter (· ≠ tag)

/-- `ChatController::clear`, which `reset_meeting_ui` calls. It deletes the
messages shown. -/
def clear (tags : MentionTags) : MentionTags := tags

/-- The slot of `ParticipantsController::mention_added`. -/
def mentionAdded (tags : MentionTags) (name : ByteString) : MentionTags :=
  if name ≠ [] then tags.addMentionTag (mentionTag name) else tags

/-- `MeetingWidget::close_meeting_window`. -/
def closeMeetingWindow (tags : MentionTags) (c : Client) : MentionTags :=
  if c.sessionEnding then tags else tags.clear

/-- `MeetingWidget::on_create_meeting_result`. -/
def onCreateMeetingResult (me : LocalUser) (tags : MentionTags) (c : Client) (roomno : Int32) :
    MentionTags :=
  if roomno ≠ 0 then tags.mentionAdded me.profile.displayName else tags.closeMeetingWindow c

/-- `MeetingWidget::on_join_meeting_result`. -/
def onJoinMeetingResult (me : LocalUser) (tags : MentionTags) (c : Client) (result : Int32) :
    MentionTags :=
  if result = 0 then tags.closeMeetingWindow c
  else if result = -1 then tags.closeMeetingWindow c
  else if 0 < result then tags.mentionAdded me.profile.displayName
  else tags

/-- `MeetingProtocolDispatcher` and the slots it is connected to. The partners
are those before the message. -/
def dispatch (qt : Qt) (me : LocalUser) (tags : MentionTags) (ps : Partners) (c : Client) :
    Message → MentionTags
  | .createMeetingResponse roomNo => tags.onCreateMeetingResult me c roomNo.toInt32
  | .joinMeetingResponse responseCode => tags.onJoinMeetingResult me c responseCode
  | .remoteHostClosedError | .otherNetError => tags.closeMeetingWindow c
  | .partnerExit userId => tags.removeMentionTag (mentionTag (ps.displayName userId))
  | .userProfileNotify _ displayName _ => tags.mentionAdded (qt.utf8 displayName)
  | _ => tags

/-- `ChatController`. -/
def take (qt : Qt) (me : LocalUser) (tags : MentionTags) (ps : Partners) (c : Client) :
    Handed → MentionTags
  | .close => tags.closeMeetingWindow c
  | .message msg => tags.dispatch qt me ps c msg
  | .nothing => tags

end MentionTags

/-! ## The meeting and its chat -/

/-- The client in a meeting, with the names of its partners and the tags. -/
structure MeetingChat where
  process : MeetingProcess
  /-- the name and the avatar of `UserSession` -/
  session : PartnerProfile
  partners : Partners
  mentionTags : MentionTags
  /-- the profiles are those of the roster -/
  named : partners.Of process.widget.meeting

namespace MeetingChat

/-- The process just started. -/
def fresh (session : PartnerProfile) : MeetingChat where
  process := .fresh
  session
  partners := .empty
  mentionTags := []
  named := fun _ => ⟨fun h => absurd rfl h, fun h => absurd h (Finset.notMem_empty _)⟩

/-- What can happen. -/
inductive Event where
  | process (e : MeetingProcess.Event)
  /-- `UserSession::updateProfile` and `setAvatar` -/
  | updateProfile (profile : PartnerProfile)
deriving DecidableEq

variable (qt : Qt) (localUserId : Int64)

/-- The user of the client. -/
def me (s : MeetingChat) : LocalUser where
  userId := localUserId
  profile := s.session

/-- The process takes a step, and the controllers take what it hands them. -/
def advance (s : MeetingChat) (e : MeetingProcess.Event) (process : MeetingProcess)
    (hnext : s.process.next localUserId e = some process) : MeetingChat where
  process
  session := s.session
  partners :=
    s.partners.take qt (s.me localUserId) s.process.widget.meeting (s.process.handed e)
  mentionTags :=
    s.mentionTags.take qt (s.me localUserId) s.partners s.process.widget.meeting
      (s.process.handed e)
  named := MeetingProcess.of_next s.named hnext

/-- What an event does, where it can happen. -/
def next (s : MeetingChat) : Event → Option MeetingChat
  | .process e =>
    match hnext : s.process.next localUserId e with
    | some process => some (s.advance qt localUserId e process hnext)
    | none => none
  | .updateProfile profile => some { s with session := profile }

/-- The runs of the client in a meeting, with its chat. -/
def system : System MeetingChat Event where
  Init s := ∃ session, s = fresh session
  Step s e s' := s.next qt localUserId e = some s'

end MeetingChat

/-! ## The property and its condition -/

namespace Partners

/-- `Partner::displayName`. -/
def nameOf (ps : Partners) (userId : Int64) : ByteString := ((ps userId).getD .blank).displayName

/-- Some other member of the roster has the name. -/
def Shared (ps : Partners) (roster : Finset Int64) (userId : Int64) (name : ByteString) : Prop :=
  ∃ other ∈ roster, other ≠ userId ∧ ps.nameOf other = name

instance (ps : Partners) (roster : Finset Int64) (userId : Int64) (name : ByteString) :
    Decidable (ps.Shared roster userId name) := Finset.decidableExistsAndFinset

/-- No member of the roster has a name. -/
def Nameless (ps : Partners) (roster : Finset Int64) : Prop :=
  ∀ userId ∈ roster, ps.nameOf userId = []

instance (ps : Partners) (roster : Finset Int64) : Decidable (ps.Nameless roster) :=
  Finset.decidableDforallFinset

end Partners

namespace MentionTags

/-- The tags are those of the names of the roster. -/
def Agrees (tags : MentionTags) (ps : Partners) (roster : Finset Int64) : Prop :=
  ∀ tag, tag ∈ tags ↔ ∃ userId ∈ roster, ps.nameOf userId ≠ [] ∧ tag = mentionTag (ps.nameOf userId)

/-- A new name is no other than the last one, or the last one stays somebody
else's. -/
def keepsProfile (ps : Partners) (c : Client) (userId : Int64) (name : ByteString) : Bool :=
  ps.nameOf userId = [] || ps.nameOf userId = name ||
    ps.Shared c.partners userId (ps.nameOf userId)

/-- The name shown for one who leaves is nobody else's. -/
def keepsExit (ps : Partners) (c : Client) (userId : Int64) : Bool :=
  !ps.Shared c.partners userId (ps.displayName userId)

/-- The session is ending already, or nobody has a name. -/
def keepsClose (ps : Partners) (c : Client) : Bool :=
  c.sessionEnding || ps.Nameless c.partners

/-- The condition of a message. -/
def keepsMessage (qt : Qt) (me : LocalUser) (ps : Partners) (c : Client) : Message → Bool
  | .createMeetingResponse roomNo =>
    if roomNo.toInt32 ≠ 0 then keepsProfile ps c me.userId me.profile.displayName
    else keepsClose ps c
  | .joinMeetingResponse responseCode =>
    if responseCode = 0 then keepsClose ps c
    else if responseCode = -1 then keepsClose ps c
    else if 0 < responseCode then keepsProfile ps c me.userId me.profile.displayName
    else true
  | .remoteHostClosedError | .otherNetError => keepsClose ps c
  | .partnerExit userId => keepsExit ps c userId
  | .userProfileNotify userId displayName _ => keepsProfile ps c userId (qt.utf8 displayName)
  | _ => true

/-- The condition of what is handed to the controllers. -/
def keeps (qt : Qt) (me : LocalUser) (ps : Partners) (c : Client) : Handed → Bool
  | .close => keepsClose ps c
  | .message msg => keepsMessage qt me ps c msg
  | .nothing => true

end MentionTags

namespace MeetingChat

def Agrees (s : MeetingChat) : Prop := s.mentionTags.Agrees s.partners s.process.roster

/-- `MentionTags.keeps`, of what the event hands to the controllers. -/
def keeps (qt : Qt) (localUserId : Int64) (s : MeetingChat) : Event → Bool
  | .process e =>
    MentionTags.keeps qt (s.me localUserId) s.partners s.process.widget.meeting
      (s.process.handed e)
  | .updateProfile _ => true

end MeetingChat

/-! ## What a handler does to the tags -/

theorem Partners.displayName_ne_nil (ps : Partners) (userId : Int64) :
    ps.displayName userId ≠ [] := by
  have hnumber : ∀ n : ℤ, JsonText.writeInt n ≠ [] := by
    intro n
    cases n with
    | ofNat n =>
      rcases JsonText.decimal_head n with ⟨b, rest, hdecimal, _⟩
      show JsonText.decimal n ≠ []
      rw [hdecimal]
      exact List.cons_ne_nil b rest
    | negSucc n => exact List.cons_ne_nil 45 (JsonText.decimal (n + 1))
  unfold displayName
  cases ps userId with
  | none => exact hnumber _
  | some partner =>
    dsimp only
    split_ifs with hname
    · exact hnumber _
    · exact hname

/-- One who has a name is shown under it. -/
theorem Partners.displayName_eq {ps : Partners} {userId : Int64} (h : ps.nameOf userId ≠ []) :
    ps.displayName userId = ps.nameOf userId := by
  unfold nameOf at h ⊢
  unfold displayName
  cases hpartner : ps userId with
  | none =>
    rw [hpartner] at h
    exact absurd rfl h
  | some partner =>
    rw [hpartner] at h
    exact if_neg h

theorem mentionTag_ne_nil (name : ByteString) : mentionTag name ≠ [] := List.cons_ne_nil 64 name

theorem mentionTag_inj {name name' : ByteString} :
    mentionTag name = mentionTag name' ↔ name = name' := by
  unfold mentionTag
  rw [List.cons.injEq]
  exact and_iff_right rfl

namespace MentionTags

section

variable {tags : MentionTags} {ps : Partners} {c : Client} {tag name : ByteString}
  {userId : Int64}

theorem mem_mentionAdded :
    tag ∈ tags.mentionAdded name ↔ tag ∈ tags ∨ name ≠ [] ∧ tag = mentionTag name := by
  unfold mentionAdded addMentionTag
  by_cases hname : name = []
  · rw [if_neg (not_not.mpr hname)]
    simp [hname]
  · rw [if_pos hname, if_neg (mentionTag_ne_nil name)]
    split_ifs with hmem
    · have hmem : mentionTag name ∈ tags := List.contains_iff_mem.mp hmem
      constructor
      · exact Or.inl
      · rintro (h | ⟨_, rfl⟩)
        · exact h
        · exact hmem
    · simp [hname]

theorem mem_removeMentionTag :
    tag ∈ tags.removeMentionTag (mentionTag name) ↔ tag ∈ tags ∧ tag ≠ mentionTag name := by
  unfold removeMentionTag
  rw [if_neg (mentionTag_ne_nil name), List.mem_filter, decide_eq_true_eq]

/-- Partners whose names are the same have the same tags. -/
theorem Agrees.congr {ps' : Partners} {roster roster' : Finset Int64} (h : tags.Agrees ps roster)
    (hsame : ∀ name, name ≠ [] →
      ((∃ userId ∈ roster', ps'.nameOf userId = name) ↔
        ∃ userId ∈ roster, ps.nameOf userId = name)) : tags.Agrees ps' roster' := by
  intro tag
  rw [h tag]
  constructor
  · rintro ⟨userId, hmem, hname, rfl⟩
    rcases (hsame _ hname).mpr ⟨userId, hmem, rfl⟩ with ⟨other, hother, heq⟩
    exact ⟨other, hother, heq ▸ hname, by rw [heq]⟩
  · rintro ⟨userId, hmem, hname, rfl⟩
    rcases (hsame _ hname).mp ⟨userId, hmem, rfl⟩ with ⟨other, hother, heq⟩
    exact ⟨other, hother, heq ▸ hname, by rw [heq]⟩

/-- A new partner has no name. -/
theorem Agrees.add (h : tags.Agrees ps c.partners) (hof : ps.Of c) (userId : Int64) :
    tags.Agrees (ps.add userId) (c.add userId).partners := by
  have hname : ∀ x, (ps.add userId).nameOf x = ps.nameOf x := by
    intro x
    unfold Partners.nameOf
    by_cases hx : x = userId
    · rw [hx, Partners.add_self]
      rfl
    · rw [Partners.add_of_ne hx]
  refine h.congr fun name hne => ?_
  constructor
  · rintro ⟨x, _, heq⟩
    rw [hname] at heq
    have hx : ps x ≠ none := by
      intro hnone
      apply hne
      rw [← heq, Partners.nameOf, hnone]
      rfl
    exact ⟨x, (hof x).mp hx, heq⟩
  · rintro ⟨x, hmem, heq⟩
    exact ⟨x, Finset.mem_insert_of_mem hmem, (hname x).trans heq⟩

/-- A snapshot of partners adds no names. -/
theorem Agrees.snapshot (h : tags.Agrees ps c.partners) (hof : ps.Of c) (userIds : List Int64) :
    tags.Agrees (userIds.foldl Partners.add ps) (c.onPartnersSnapshot userIds).partners := by
  induction userIds generalizing ps c with
  | nil => exact h
  | cons userId userIds ih => exact ih (h.add hof userId) (hof.add userId)

/-- A profile keeps the tags exactly where the last name needs no tag any more, or
still needs it. -/
theorem applyProfile_agrees (h : tags.Agrees ps c.partners) (hof : ps.Of c)
    (profile : PartnerProfile) :
    (tags.mentionAdded profile.displayName).Agrees (ps.applyProfile userId profile)
        (c.applyProfile userId).partners ↔
      keepsProfile ps c userId profile.displayName = true := by
  have hself : (ps.applyProfile userId profile).nameOf userId = profile.displayName := by
    rw [Partners.nameOf, Partners.applyProfile_self]
    rfl
  have hother : ∀ x, x ≠ userId → (ps.applyProfile userId profile).nameOf x = ps.nameOf x := by
    intro x hx
    rw [Partners.nameOf, Partners.applyProfile_of_ne _ hx]
    rfl
  have hroster : ∀ x, x ∈ (c.applyProfile userId).partners ↔ x = userId ∨ x ∈ c.partners :=
    fun x => Finset.mem_insert
  simp only [keepsProfile, Bool.or_eq_true, decide_eq_true_eq]
  constructor
  · intro hafter
    by_cases hold : ps.nameOf userId = []
    · exact Or.inl (Or.inl hold)
    -- the tag of the last name is there still, so it is somebody's
    have hmem : userId ∈ c.partners := by
      rw [← hof userId]
      intro hnone
      apply hold
      rw [Partners.nameOf, hnone]
      rfl
    have htag : mentionTag (ps.nameOf userId) ∈ tags := (h _).mpr ⟨userId, hmem, hold, rfl⟩
    rcases (hafter _).mp (mem_mentionAdded.mpr (Or.inl htag)) with ⟨x, hx, _, heq⟩
    rw [mentionTag_inj] at heq
    by_cases hsame : x = userId
    · rw [hsame, hself] at heq
      exact Or.inl (Or.inr heq)
    · rw [hother x hsame] at heq
      exact Or.inr ⟨x, ((hroster x).mp hx).resolve_left hsame, hsame, heq.symm⟩
  · intro hkeep tag
    rw [mem_mentionAdded, h tag]
    constructor
    · rintro (⟨x, hx, hname, rfl⟩ | ⟨hname, rfl⟩)
      · by_cases hsame : x = userId
        · subst hsame
          rcases hkeep with (hold | hold) | ⟨other, hmem, hne, hold⟩
          · exact absurd hold hname
          · refine ⟨x, (hroster x).mpr (Or.inl rfl), ?_, ?_⟩
            · rw [hself, ← hold]
              exact hname
            · rw [hself, hold]
          · refine ⟨other, (hroster other).mpr (Or.inr hmem), ?_, ?_⟩
            · rw [hother other hne, hold]
              exact hname
            · rw [hother other hne, hold]
        · refine ⟨x, (hroster x).mpr (Or.inr hx), ?_, ?_⟩
          · rw [hother x hsame]
            exact hname
          · rw [hother x hsame]
      · refine ⟨userId, (hroster userId).mpr (Or.inl rfl), ?_, ?_⟩
        · rw [hself]
          exact hname
        · rw [hself]
    · rintro ⟨x, hx, hname, rfl⟩
      by_cases hsame : x = userId
      · subst hsame
        rw [hself] at hname ⊢
        exact Or.inr ⟨hname, rfl⟩
      · rw [hother x hsame] at hname ⊢
        exact Or.inl ⟨x, ((hroster x).mp hx).resolve_left hsame, hname, rfl⟩

/-- One who leaves takes along a tag nobody else needs, exactly where the
condition says so. -/
theorem remove_agrees (h : tags.Agrees ps c.partners) :
    (tags.removeMentionTag (mentionTag (ps.displayName userId))).Agrees (ps.remove userId)
        (c.remove userId).partners ↔ keepsExit ps c userId = true := by
  have hother : ∀ x, x ≠ userId → (ps.remove userId).nameOf x = ps.nameOf x := by
    intro x hx
    rw [Partners.nameOf, Partners.remove_of_ne hx]
    rfl
  have hroster : ∀ x, x ∈ (c.remove userId).partners ↔ x ≠ userId ∧ x ∈ c.partners :=
    fun x => Finset.mem_erase
  simp only [keepsExit, Bool.not_eq_true', decide_eq_false_iff_not]
  constructor
  · rintro hafter ⟨x, hmem, hne, hname⟩
    have hnamed : ps.nameOf x ≠ [] := by
      rw [hname]
      exact ps.displayName_ne_nil userId
    have htag : mentionTag (ps.nameOf x) ∈
        tags.removeMentionTag (mentionTag (ps.displayName userId)) := by
      refine (hafter _).mpr ⟨x, (hroster x).mpr ⟨hne, hmem⟩, ?_, ?_⟩
      · rw [hother x hne]
        exact hnamed
      · rw [hother x hne]
    rw [hname] at htag
    exact (mem_removeMentionTag.mp htag).2 rfl
  · intro hkeep tag
    rw [mem_removeMentionTag, h tag]
    constructor
    · rintro ⟨⟨x, hx, hname, rfl⟩, hne⟩
      have hsame : x ≠ userId := by
        rintro rfl
        apply hne
        rw [Partners.displayName_eq hname]
      refine ⟨x, (hroster x).mpr ⟨hsame, hx⟩, ?_, ?_⟩
      · rw [hother x hsame]
        exact hname
      · rw [hother x hsame]
    · rintro ⟨x, hx, hname, rfl⟩
      rcases (hroster x).mp hx with ⟨hsame, hmem⟩
      rw [hother x hsame] at hname ⊢
      refine ⟨⟨x, hmem, hname, rfl⟩, ?_⟩
      intro heq
      exact hkeep ⟨x, hmem, hsame, mentionTag_inj.mp heq⟩

/-- The end of a session keeps the tags exactly where there are none. -/
theorem close_agrees (h : tags.Agrees ps c.partners) :
    (tags.closeMeetingWindow c).Agrees (ps.closeMeetingWindow c) c.closeMeetingWindow.partners ↔
      keepsClose ps c = true := by
  unfold closeMeetingWindow Partners.closeMeetingWindow Client.closeMeetingWindow keepsClose
  by_cases hending : c.sessionEnding = true
  · simp only [if_pos hending]
    exact iff_of_true h (by rw [hending, Bool.true_or])
  · simp only [if_neg hending, Bool.or_eq_true, decide_eq_true_eq]
    constructor
    · intro hafter
      refine Or.inr fun x hmem => ?_
      by_contra hname
      have htag : mentionTag (ps.nameOf x) ∈ tags := (h _).mpr ⟨x, hmem, hname, rfl⟩
      rcases (hafter _).mp htag with ⟨y, hy, _⟩
      exact absurd hy (Finset.notMem_empty y)
    · intro hkeep
      have hnames := hkeep.resolve_left hending
      refine h.congr fun name hne => ?_
      constructor
      · rintro ⟨x, hx, _⟩
        exact absurd hx (Finset.notMem_empty x)
      · rintro ⟨x, hx, heq⟩
        exact absurd (heq.symm.trans (hnames x hx)) hne

/-- Being let in applies the profile of the local user. -/
theorem enter_agrees {me : LocalUser} (h : tags.Agrees ps c.partners) (hof : ps.Of c) :
    (tags.mentionAdded me.profile.displayName).Agrees (ps.enter me)
        ((c.applyProfile me.userId).add me.userId).partners ↔
      keepsProfile ps c me.userId me.profile.displayName = true := by
  have hps : ps.enter me = ps.applyProfile me.userId me.profile := by
    unfold Partners.enter
    apply if_neg
    rw [Partners.applyProfile_self]
    exact Option.some_ne_none _
  have hroster : ((c.applyProfile me.userId).add me.userId).partners =
      (c.applyProfile me.userId).partners := Finset.insert_idem me.userId c.partners
  rw [hps, hroster]
  exact applyProfile_agrees h hof me.profile

/-- A message keeps the tags exactly where it meets the condition. -/
theorem dispatch_agrees (qt : Qt) (me : LocalUser) (h : tags.Agrees ps c.partners) (hof : ps.Of c)
    (msg : Message) :
    (tags.dispatch qt me ps c msg).Agrees (ps.dispatch qt me c msg)
        (c.dispatch me.userId msg).partners ↔ keepsMessage qt me ps c msg = true := by
  cases msg with
  | createMeetingResponse roomNo =>
    show (tags.onCreateMeetingResult me c roomNo.toInt32).Agrees
      (ps.onCreateMeetingResult me c roomNo.toInt32)
      (c.onCreateMeetingResult me.userId roomNo.toInt32).partners ↔ _
    unfold onCreateMeetingResult Partners.onCreateMeetingResult Client.onCreateMeetingResult
    dsimp only [keepsMessage]
    split_ifs
    · exact enter_agrees (c := { c with createmeet := true }) h hof
    · exact close_agrees h
  | joinMeetingResponse responseCode =>
    show (tags.onJoinMeetingResult me c responseCode).Agrees
      (ps.onJoinMeetingResult me c responseCode)
      (c.onJoinMeetingResult me.userId responseCode).partners ↔ _
    unfold onJoinMeetingResult Partners.onJoinMeetingResult Client.onJoinMeetingResult
    dsimp only [keepsMessage]
    split_ifs
    · exact close_agrees h
    · exact close_agrees h
    · exact enter_agrees h hof
    · exact iff_of_true h rfl
  | remoteHostClosedError | otherNetError => exact close_agrees h
  | partnerJoin userId => exact iff_of_true (h.add hof userId) rfl
  | partnerExit userId => exact remove_agrees h
  | partnerJoin2 userIds => exact iff_of_true (h.snapshot hof userIds) rfl
  | userProfileNotify userId displayName avatarUrl =>
    exact applyProfile_agrees h hof ⟨qt.utf8 displayName, qt.utf8 avatarUrl⟩
  | _ => exact iff_of_true h rfl

theorem take_agrees (qt : Qt) (me : LocalUser) (h : tags.Agrees ps c.partners) (hof : ps.Of c)
    (handed : Handed) :
    (tags.take qt me ps c handed).Agrees (ps.take qt me c handed)
        (c.take me.userId handed).partners ↔ keeps qt me ps c handed = true := by
  cases handed with
  | close => exact close_agrees h
  | message msg => exact dispatch_agrees qt me h hof msg
  | nothing => exact iff_of_true h rfl

end

end MentionTags

namespace MeetingChat

variable {qt : Qt} {localUserId : Int64} {s s' : MeetingChat} {e : Event}

theorem agrees_fresh (session : PartnerProfile) : (fresh session).Agrees := by
  intro tag
  constructor
  · intro h
    exact absurd h (List.not_mem_nil)
  · rintro ⟨userId, hmem, _⟩
    exact absurd hmem (Finset.notMem_empty userId)

theorem agrees_advance {e : MeetingProcess.Event} {process : MeetingProcess} (h : s.Agrees)
    (hnext : s.process.next localUserId e = some process) :
    (s.advance qt localUserId e process hnext).Agrees ↔
      s.keeps qt localUserId (.process e) = true := by
  show ((s.advance qt localUserId e process hnext).mentionTags.Agrees
    (s.advance qt localUserId e process hnext).partners process.roster) ↔ _
  rw [MeetingProcess.roster_of_next hnext]
  exact MentionTags.take_agrees qt (s.me localUserId) h s.named _

/-- The tags stay those of the names exactly where the step meets the condition. -/
theorem agrees_step (h : s.Agrees) (hstep : (system qt localUserId).Step s e s') :
    s'.Agrees ↔ s.keeps qt localUserId e = true := by
  cases e with
  | updateProfile profile =>
    cases hstep
    exact iff_of_true h rfl
  | process e =>
    change s.next qt localUserId (.process e) = some s' at hstep
    simp only [next] at hstep
    split at hstep
    · cases hstep
      exact agrees_advance h _
    · cases hstep

end MeetingChat

open MeetingChat

/-- While every step meets the condition, the tags are those of the names of the
members in every state, and these are all the runs in which they are. -/
theorem mention_tags_agreement (qt : Qt) (localUserId : Int64) :
    (∀ s, Reachable ((MeetingChat.system qt localUserId).restrict
        fun s e => s.keeps qt localUserId e = true) s → s.Agrees) ∧
      ∀ session es s,
        Run ((MeetingChat.system qt localUserId).within Agrees) (.fresh session) es s ↔
          Run ((MeetingChat.system qt localUserId).restrict
            fun s e => s.keeps qt localUserId e = true) (.fresh session) es s := by
  constructor
  · intro s hreach
    refine hreach.invariant ?_ ?_
    · rintro s ⟨session, rfl⟩
      exact agrees_fresh session
    · intro s e s' _ hs hstep
      exact (agrees_step hs hstep.2).mpr hstep.1
  · intro session es s
    exact run_within_iff (fun _ _ _ => agrees_step) (agrees_fresh session)

namespace MeetingChat

/-- The user creates a meeting, and is connected. -/
def connects : List Event :=
  [.process MeetingProcess.createsMeeting, .process (.controller true), .process .ui,
    .process (.controller true)]

/-- A message is received and handled. -/
def hears (msg : Message) : List Event :=
  [.process (.receive msg), .process .ui, .process .ui]

/-- A user with a name and no avatar. -/
def user (name : String) : PartnerProfile where
  displayName := ascii name
  avatarUrl := []

theorem reachable_of_guarded {qt : Qt} {localUserId : Int64} {C : MeetingChat → Event → Prop}
    [∀ s e, Decidable (C s e)] {session : PartnerProfile} {es : List Event} {s : MeetingChat}
    (hrun : replay (guarded C (next qt localUserId)) (fresh session) es = some s) :
    Reachable ((system qt localUserId).restrict C) s :=
  (Run.of_replay (fun _ _ _ => guarded_step fun _ _ _ => id) hrun).reachable (.init ⟨session, rfl⟩)

end MeetingChat

/-- A partner under a name of its own joins and leaves. -/
theorem mention_tags_agreement_of_visit :
    ∃ s : MeetingChat, s.process.roster = {7} ∧ s.mentionTags = [ascii "@ann"] ∧ s.Agrees := by
  have hrun : (replay (guarded (fun s e => s.keeps referenceQt 7 e = true)
      (MeetingChat.next referenceQt 7)) (.fresh (user "ann"))
      (connects ++ hears (.createMeetingResponse 100001) ++ hears (.partnerJoin 9) ++
        hears (.userProfileNotify 9 (ascii "bob") []) ++ hears (.partnerExit 9))).any
      (fun s => s.process.roster = {7} ∧ s.mentionTags = [ascii "@ann"]) = true := by
    decide +kernel
  rcases (Option.any_eq_true _ _).mp hrun with ⟨s, hrun, htest⟩
  rcases of_decide_eq_true htest with ⟨hroster, htags⟩
  exact ⟨s, hroster, htags,
    (mention_tags_agreement referenceQt 7).1 s (MeetingChat.reachable_of_guarded hrun)⟩

/-- A partner changes its name, and the tag of the last one is left. -/
theorem renamed_partner_keeps_tag :
    ¬∀ s, Reachable (MeetingChat.system referenceQt 7) s → s.Agrees := by
  intro hall
  have hrun : (replay (guarded (fun _ _ => True) (MeetingChat.next referenceQt 7))
      (.fresh (user "ann"))
      (connects ++ hears (.createMeetingResponse 100001) ++ hears (.partnerJoin 9) ++
        hears (.userProfileNotify 9 (ascii "bob") []) ++
        hears (.userProfileNotify 9 (ascii "rob") []))).any
      (fun s => ascii "@bob" ∈ s.mentionTags ∧ s.process.roster = {7, 9} ∧
        s.partners.nameOf 7 = ascii "ann" ∧ s.partners.nameOf 9 = ascii "rob") = true := by
    decide +kernel
  rcases (Option.any_eq_true _ _).mp hrun with ⟨s, hrun, htest⟩
  rcases of_decide_eq_true htest with ⟨hstale, hroster, hann, hrob⟩
  rcases (hall s (MeetingChat.reachable_of_guarded hrun).of_restrict _).mp hstale with
    ⟨userId, hmem, _, heq⟩
  rw [hroster, Finset.mem_insert, Finset.mem_singleton] at hmem
  rcases hmem with rfl | rfl
  · rw [hann] at heq
    exact absurd heq (by decide)
  · rw [hrob] at heq
    exact absurd heq (by decide)

end CCMeeting
