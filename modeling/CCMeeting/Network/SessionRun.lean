import CCMeeting.Network.SessionMirror

/-! # The session over a whole run

What is in flight determines what the session will be: a request is answered from
the account as it is when the request arrives, and the answer is right when it is
finished, as nobody has changed the account in between.
-/

namespace CCMeeting

open ByteString Transition

/-! ## Which requests the service carries out how -/

section Targets

variable (platform : Platform) (crypto : Crypto) (assets : AssetsConfig) (qt : Qt)
  (s : Surroundings) (body : List (ByteString × Json)) (d : Database)

theorem handleRequest_login :
    handleRequest platform crypto assets s (postJson qt (ascii "/api/login") body) d =
      handleLogin platform crypto s (postJson qt (ascii "/api/login") body) d := by
  unfold handleRequest handleEndpoint
  rw [if_neg (by simp [postJson]), if_neg (by simp [postJson]), if_pos ⟨rfl, rfl⟩]

theorem handleRequest_uploadAvatar :
    handleRequest platform crypto assets s (postJson qt (ascii "/api/upload-avatar") body) d =
      handleUploadAvatar platform crypto assets s
        (postJson qt (ascii "/api/upload-avatar") body) d := by
  have hlogin : ascii "/api/upload-avatar" ≠ ascii "/api/login" := by decide
  have hregister : ascii "/api/upload-avatar" ≠ ascii "/api/register" := by decide
  unfold handleRequest handleEndpoint
  rw [if_neg (by simp [postJson]), if_neg (by simp [postJson]), if_neg fun h => hlogin h.2,
    if_neg fun h => hregister h.2, if_pos ⟨rfl, rfl⟩]

theorem handleRequest_updateProfile :
    handleRequest platform crypto assets s (postJson qt (ascii "/api/update-profile") body) d =
      handleUpdateProfile platform s (postJson qt (ascii "/api/update-profile") body) d := by
  have hlogin : ascii "/api/update-profile" ≠ ascii "/api/login" := by decide
  have hregister : ascii "/api/update-profile" ≠ ascii "/api/register" := by decide
  have hupload : ascii "/api/update-profile" ≠ ascii "/api/upload-avatar" := by decide
  unfold handleRequest handleEndpoint
  rw [if_neg (by simp [postJson]), if_neg (by simp [postJson]), if_neg fun h => hlogin h.2,
    if_neg fun h => hregister h.2, if_neg fun h => hupload h.2, if_pos ⟨rfl, rfl⟩]

variable {platform crypto assets qt s body d}

theorem call_login : (postJson qt (ascii "/api/login") body).call platform s =
    (parseLoginRequest platform (postJson qt (ascii "/api/login") body).body).map
      fun r => .login s.login r.1 r.2 := by
  rw [HttpRequest.call, if_pos ⟨rfl, rfl⟩]

theorem call_register : (postJson qt (ascii "/api/register") body).call platform s =
    (parseLoginRequest platform (postJson qt (ascii "/api/register") body).body).map
      fun r => .registerUser s.registerUser r.1 r.2 := by
  have hlogin : ascii "/api/register" ≠ ascii "/api/login" := by decide
  rw [HttpRequest.call, if_neg fun h => hlogin h.2, if_pos ⟨rfl, rfl⟩]

theorem call_updateProfile : (postJson qt (ascii "/api/update-profile") body).call platform s =
    (parseUpdateProfileRequest platform (postJson qt (ascii "/api/update-profile") body).body).map
      fun r => .updateProfile s.updateProfile r.1 r.2 := by
  have hlogin : ascii "/api/update-profile" ≠ ascii "/api/login" := by decide
  have hregister : ascii "/api/update-profile" ≠ ascii "/api/register" := by decide
  have hupload : ascii "/api/update-profile" ≠ ascii "/api/upload-avatar" := by decide
  rw [HttpRequest.call, if_neg fun h => hlogin h.2, if_neg fun h => hregister h.2,
    if_neg fun h => hupload h.2, if_pos ⟨rfl, rfl⟩]

end Targets

/-! ## What may happen -/

/-- A login reads the profile it has to show. -/
def Call.Loads : Call → Prop
  | .login o _ _ => o.load = .done
  | .registerUser _ _ _ | .uploadAvatar _ _ _ _ | .updateProfile _ _ _ => True

instance : (call : Call) → Decidable call.Loads
  | .login o _ _ => inferInstanceAs (Decidable (o.load = .done))
  | .registerUser _ _ _ => inferInstanceAs (Decidable True)
  | .uploadAvatar _ _ _ _ => inferInstanceAs (Decidable True)
  | .updateProfile _ _ _ => inferInstanceAs (Decidable True)

namespace AccountWorld

/-- No reply is on its way that tells of a change. -/
def Settled (w : AccountWorld) : Prop :=
  ∀ f ∈ w.flights, f.slot = .loginFinished ∨ f.reply = none

instance (w : AccountWorld) : Decidable w.Settled :=
  inferInstanceAs (Decidable (∀ f ∈ w.flights, f.slot = .loginFinished ∨ f.reply = none))

/-- Nobody else changes the account of that name, no reply to a change of it is
lost, the service can hold and read what it is sent, and the ids of the accounts fit
a number of JSON. -/
def Orderly (platform : Platform) (me : ByteString) (w : AccountWorld) : AccountEvent → Prop
  | .arrives i s => w.database.accounts.lastId < 2 ^ 53 ∧
      ∀ f ∈ w.flights[i]?, ∀ call ∈ f.request.call platform s, call.Plain ∧ call.Loads
  | .lost _ | .dialogClosed => w.Settled
  | .others s req => ∀ call ∈ req.call platform s,
      call.Plain ∧ ¬call.Concerns w.database.accounts me
  | _ => True

instance (platform : Platform) (me : ByteString) (w : AccountWorld) :
    (e : AccountEvent) → Decidable (Orderly platform me w e)
  | .arrives i s => inferInstanceAs (Decidable (_ ∧
      ∀ f ∈ w.flights[i]?, ∀ call ∈ f.request.call platform s, call.Plain ∧ call.Loads))
  | .lost _ | .dialogClosed => inferInstanceAs (Decidable w.Settled)
  | .others s req => inferInstanceAs (Decidable (∀ call ∈ req.call platform s,
      call.Plain ∧ ¬call.Concerns w.database.accounts me))
  | .loginTyped _ _ | .registrationTyped _ _ | .loginClicked | .registerClicked
  | .editProfileClicked _ | .formEdited _ | .avatarChosen _ | .saveClicked | .processRestarted
  | .finished _ => inferInstanceAs (Decidable True)

end AccountWorld

/-! ## The stages -/

/-- What has been typed is well formed. -/
structure LoginDialog.Valid (l : LoginDialog) : Prop where
  accountLine : Utf8.Valid l.accountLine
  passwordLine : Utf8.Valid l.passwordLine
  registerUsernameLine : Utf8.Valid l.registerUsernameLine
  registerPasswordLine : Utf8.Valid l.registerPasswordLine

/-- What the login dialog asks for. -/
inductive Asked (qt : Qt) : PendingRequest → HttpRequest → Prop where
  | login {username password : ByteString} : Utf8.Valid username → Utf8.Valid password →
      Asked qt .login (postJson qt (ascii "/api/login") (credentialsBody username password))
  | register (username password : ByteString) :
      Asked qt .register (postJson qt (ascii "/api/register") (credentialsBody username password))

section Stages

variable (qt : AccountQt) (me : ByteString) (m : AccountMap) (session : UserSession)

/-- A request of the login dialog: whatever is typed meanwhile, the session will be a
copy. -/
inductive LoginFlight (pending : PendingRequest) : Flight → Prop where
  | posted {request : HttpRequest} : Asked qt.toQt pending request →
      LoginFlight pending ⟨.loginFinished, request, none⟩
  | answered {request : HttpRequest} {reply : HttpReply} :
      (∀ l : LoginDialog, l.pendingRequest = pending →
        Mirrors me m (l.finished qt session reply).2) →
      LoginFlight pending ⟨.loginFinished, request, some reply⟩

/-- A request of the edit dialog: the session is a copy until it is answered, and
will be one when the answer is finished. -/
inductive EditFlight (d : EditProfileDialog) : Flight → Prop where
  | upload (png : ByteString) : Mirrors me m session →
      EditFlight d ⟨.avatarUploadFinished, postJson qt.toQt (ascii "/api/upload-avatar")
        (EditProfileDialog.uploadBody qt session png), none⟩
  | update : Mirrors me m session →
      EditFlight d ⟨.profileUpdateFinished, postJson qt.toQt (ascii "/api/update-profile")
        (d.updateBody qt session), none⟩
  | uploaded {request : HttpRequest} {reply : HttpReply} :
      Mirrors me m (d.onAvatarUploadFinished qt {} session reply).2.1 →
      EditFlight d ⟨.avatarUploadFinished, request, some reply⟩
  | updated {request : HttpRequest} {reply : HttpReply} :
      Mirrors me m (d.onProfileUpdateFinished qt session reply).2 →
      EditFlight d ⟨.profileUpdateFinished, request, some reply⟩

/-- How far the dialog is that the client shows. -/
inductive Stage : Option LoginDialog → Option EditProfileDialog → List Flight → Prop where
  | closed : Mirrors me m session → Stage none none []
  | loginIdle {l : LoginDialog} : l.requestInFlight = false → l.Valid → Mirrors me m session →
      Stage (some l) none []
  | editIdle {d : EditProfileDialog} : d.busy = false → d.form.Valid → session.loggedIn = true →
      Mirrors me m session → Stage none (some d) []
  | login {l : LoginDialog} {f : Flight} : l.requestInFlight = true → l.Valid →
      Mirrors me m session → LoginFlight qt me m session l.pendingRequest f →
      Stage (some l) none [f]
  | edit {d : EditProfileDialog} {f : Flight} : d.busy = true → d.form.Valid →
      session.loggedIn = true → EditFlight qt me m session d f → Stage none (some d) [f]

end Stages

section Stages

variable {platform : Platform} {qt : AccountQt} {crypto : Crypto} {assets : AssetsConfig}
  {me : ByteString} {m m' : AccountMap} {session : UserSession} {login : Option LoginDialog}
  {edit : Option EditProfileDialog} {flights : List Flight}

theorem EditFlight.slot_ne {d : EditProfileDialog} {f : Flight}
    (h : EditFlight qt me m session d f) : f.slot ≠ .loginFinished := by
  cases h <;> exact nofun

/-- What leaves the account alone. -/
theorem Stage.keeps (h : Stage qt me m session login edit flights) (hkeeps : m.Keeps me m') :
    Stage qt me m' session login edit flights := by
  cases h with
  | closed hcopy => exact .closed (hcopy.keeps hkeeps)
  | loginIdle hflight hlines hcopy => exact .loginIdle hflight hlines (hcopy.keeps hkeeps)
  | editIdle hbusy hform hlogged hcopy =>
    exact .editIdle hbusy hform hlogged (hcopy.keeps hkeeps)
  | login hflight hlines hcopy hf =>
    refine .login hflight hlines (hcopy.keeps hkeeps) ?_
    cases hf with
    | posted hasked => exact .posted hasked
    | answered hanswer => exact .answered fun l hl => (hanswer l hl).keeps hkeeps
  | edit hbusy hform hlogged hf =>
    refine .edit hbusy hform hlogged ?_
    cases hf with
    | upload png hcopy => exact .upload png (hcopy.keeps hkeeps)
    | update hcopy => exact .update (hcopy.keeps hkeeps)
    | uploaded hanswer => exact .uploaded (hanswer.keeps hkeeps)
    | updated hanswer => exact .updated (hanswer.keeps hkeeps)

/-- While no change is on its way back, the session is a copy. -/
theorem Stage.copy (h : Stage qt me m session login edit flights)
    (hsettled : ∀ f ∈ flights, f.slot = .loginFinished ∨ f.reply = none) :
    Mirrors me m session := by
  cases h with
  | closed hcopy => exact hcopy
  | loginIdle _ _ hcopy => exact hcopy
  | editIdle _ _ _ hcopy => exact hcopy
  | login _ _ hcopy _ => exact hcopy
  | edit _ _ _ hf =>
    cases hf with
    | upload png hcopy => exact hcopy
    | update hcopy => exact hcopy
    | uploaded _ => simp at hsettled
    | updated _ => simp at hsettled

/-! A request is posted. -/

theorem LoginDialog.Valid.login_stage {l : LoginDialog} (hlines : l.Valid)
    (hflight : l.requestInFlight = false) (hcopy : Mirrors me m session) :
    Stage qt me m session (some (l.login qt {}).1) none
      (((l.login qt {}).2.map fun request => (ReplySlot.loginFinished, request)).map
        fun r => (⟨r.1, r.2, none⟩ : Flight)).toList := by
  unfold LoginDialog.login
  rw [hflight, if_neg Bool.false_ne_true]
  dsimp only
  split_ifs
  · exact .loginIdle hflight hlines hcopy
  · refine .login rfl ⟨hlines.1, hlines.2, hlines.3, hlines.4⟩ hcopy (.posted ?_)
    exact .login (qt.trimmed_valid hlines.accountLine) hlines.passwordLine

theorem LoginDialog.Valid.register_stage {l : LoginDialog} (hlines : l.Valid)
    (hflight : l.requestInFlight = false) (hcopy : Mirrors me m session) :
    Stage qt me m session (some (l.register qt {}).1) none
      (((l.register qt {}).2.map fun request => (ReplySlot.loginFinished, request)).map
        fun r => (⟨r.1, r.2, none⟩ : Flight)).toList := by
  unfold LoginDialog.register
  rw [hflight, if_neg Bool.false_ne_true]
  dsimp only
  split_ifs
  · exact .loginIdle hflight hlines hcopy
  · refine .login rfl ⟨hlines.1, hlines.2, hlines.3, hlines.4⟩ hcopy (.posted ?_)
    exact .register _ _

theorem ProfileForm.Valid.onSaveClicked_stage {d : EditProfileDialog} (hform : d.form.Valid)
    (hbusy : d.busy = false) (hlogged : session.loggedIn = true) (hcopy : Mirrors me m session) :
    Stage qt me m session none (some (d.onSaveClicked qt {} session).1)
      ((d.onSaveClicked qt {} session).2.map fun r => (⟨r.1, r.2, none⟩ : Flight)).toList := by
  unfold EditProfileDialog.onSaveClicked
  rw [hbusy, if_neg Bool.false_ne_true, hlogged]
  split_ifs
  · exact .editIdle hbusy hform hlogged hcopy
  · exact .editIdle hbusy hform hlogged hcopy
  · dsimp only
    cases d.pendingAvatar with
    | none => exact .edit rfl hform hlogged (.update hcopy)
    | some image =>
      cases image with
      | none => exact .editIdle rfl hform hlogged hcopy
      | some png => exact .edit rfl hform hlogged (.upload png hcopy)

/-! A dialog is used. -/

theorem Stage.typed {l l' : LoginDialog} (h : Stage qt me m session (some l) edit flights)
    (hflight : l'.requestInFlight = l.requestInFlight)
    (hpending : l'.pendingRequest = l.pendingRequest) (hlines : l.Valid → l'.Valid) :
    Stage qt me m session (some l') edit flights := by
  cases h with
  | loginIdle hidle hvalid hcopy => exact .loginIdle (hflight.trans hidle) (hlines hvalid) hcopy
  | login hwaits hvalid hcopy hf =>
    exact .login (hflight.trans hwaits) (hlines hvalid) hcopy (hpending ▸ hf)

/-- A button of the login dialog posts a request, or does nothing while it waits. -/
theorem Stage.clicked {l : LoginDialog} (h : Stage qt me m session (some l) edit flights)
    {r : LoginDialog × Option HttpRequest}
    (hidle : l.Valid → l.requestInFlight = false → Mirrors me m session →
      Stage qt me m session (some r.1) none
        ((r.2.map fun request => (ReplySlot.loginFinished, request)).map
          fun r => (⟨r.1, r.2, none⟩ : Flight)).toList)
    (hwaits : l.requestInFlight = true → r = (l, none)) :
    Stage qt me m session (some r.1) edit (flights ++ ((r.2.map fun request =>
      (ReplySlot.loginFinished, request)).map fun r => (⟨r.1, r.2, none⟩ : Flight)).toList) := by
  cases h with
  | loginIdle hflight hlines hcopy => exact hidle hlines hflight hcopy
  | login hflight hlines hcopy hf =>
    rw [hwaits hflight]
    exact .login hflight hlines hcopy hf

theorem Stage.opened (h : Stage qt me m session none none flights) {d : EditProfileDialog}
    (hbusy : d.busy = false) (hform : d.form.Valid) (hlogged : session.loggedIn = true) :
    Stage qt me m session none (some d) flights := by
  cases h with
  | closed hcopy => exact .editIdle hbusy hform hlogged hcopy

/-- The form and the chosen avatar stay as they are while the dialog waits. -/
theorem Stage.edited {d d' : EditProfileDialog}
    (h : Stage qt me m session login (some d) flights) (hbusy : d'.busy = d.busy)
    (hform : d.form.Valid → d'.form.Valid) (hwaits : d.busy = true → d' = d) :
    Stage qt me m session login (some d') flights := by
  cases h with
  | editIdle hidle hvalid hlogged hcopy =>
    exact .editIdle (hbusy.trans hidle) (hform hvalid) hlogged hcopy
  | edit hflight hvalid hlogged hf =>
    rw [hwaits hflight]
    exact .edit hflight hvalid hlogged hf

theorem Stage.saveClicked {d : EditProfileDialog}
    (h : Stage qt me m session login (some d) flights) :
    Stage qt me m session login (some (d.onSaveClicked qt {} session).1)
      (flights ++ ((d.onSaveClicked qt {} session).2.map fun r =>
        (⟨r.1, r.2, none⟩ : Flight)).toList) := by
  cases h with
  | editIdle hidle hform hlogged hcopy => exact hform.onSaveClicked_stage hidle hlogged hcopy
  | edit hwaits hform hlogged hf =>
    rw [AccountWorld.onSaveClicked_of_busy hwaits]
    exact .edit hwaits hform hlogged hf

/-- No change is on its way back when the dialog is closed. -/
theorem Stage.dialogClosed {d : EditProfileDialog}
    (h : Stage qt me m session login (some d) flights)
    (hsettled : ∀ f ∈ flights, f.slot = .loginFinished ∨ f.reply = none) :
    Stage qt me m session login none (flights.filter fun f => f.slot = .loginFinished) := by
  have hcopy := h.copy hsettled
  cases h with
  | editIdle _ _ _ _ => exact .closed hcopy
  | edit _ _ _ hf =>
    rw [List.filter_cons_of_neg (by simp [hf.slot_ne])]
    exact .closed hcopy

/-! A reply is finished. -/

theorem LoginDialog.Valid.finished_stage {l : LoginDialog} (hlines : l.Valid) {reply : HttpReply}
    (hcopy : Mirrors me m (l.finished qt session reply).2) :
    Stage qt me m (l.finished qt session reply).2 (l.finished qt session reply).1 none [] := by
  have hkept : LoginDialog.Valid { l with requestInFlight := false, pendingRequest := .none } :=
    ⟨hlines.1, hlines.2, hlines.3, hlines.4⟩
  unfold LoginDialog.finished at hcopy ⊢
  split_ifs at hcopy ⊢ with hregister
  · unfold LoginDialog.onRegisterFinished
    rw [if_neg (not_not.mpr hregister)]
    dsimp only
    split_ifs
    · exact .loginIdle rfl hkept hcopy
    · cases reply.root qt.toQt with
      | none => exact .loginIdle rfl hkept hcopy
      | some root =>
        dsimp only
        split_ifs
        · exact .loginIdle rfl hkept hcopy
        · refine .loginIdle rfl ⟨?_, Utf8.valid_nil, hlines.3, Utf8.valid_nil⟩ hcopy
          exact qt.trimmed_valid hlines.registerUsernameLine
  · unfold LoginDialog.onLoginFinished at hcopy ⊢
    rw [if_neg hregister] at hcopy ⊢
    dsimp only at hcopy ⊢
    split_ifs at hcopy ⊢
    · exact .loginIdle rfl hkept hcopy
    · cases hroot : reply.root qt.toQt with
      | none =>
        rw [hroot] at hcopy
        exact .loginIdle rfl hkept hcopy
      | some root =>
        rw [hroot] at hcopy
        dsimp only at hcopy ⊢
        split_ifs at hcopy ⊢
        · exact .loginIdle rfl hkept hcopy
        · exact .closed hcopy
        · exact .closed hcopy

theorem ProfileForm.Valid.onAvatarUploadFinished_stage {d : EditProfileDialog}
    (hform : d.form.Valid) (hbusy : d.busy = true) (hlogged : session.loggedIn = true)
    {reply : HttpReply}
    (hcopy : Mirrors me m (d.onAvatarUploadFinished qt {} session reply).2.1) :
    Stage qt me m (d.onAvatarUploadFinished qt {} session reply).2.1 none
      (some (d.onAvatarUploadFinished qt {} session reply).1)
      ((d.onAvatarUploadFinished qt {} session reply).2.2.map fun r =>
        (⟨r.1, r.2, none⟩ : Flight)).toList := by
  unfold EditProfileDialog.onAvatarUploadFinished at hcopy ⊢
  split_ifs at hcopy ⊢
  · exact .editIdle rfl hform hlogged hcopy
  · cases hroot : reply.root qt.toQt with
    | none =>
      rw [hroot] at hcopy
      exact .editIdle rfl hform hlogged hcopy
    | some root =>
      rw [hroot] at hcopy
      dsimp only at hcopy ⊢
      split_ifs at hcopy ⊢
      · exact .editIdle rfl hform hlogged hcopy
      · exact .editIdle rfl hform hlogged hcopy
      · exact .edit hbusy hform hlogged (.update hcopy)

theorem ProfileForm.Valid.onProfileUpdateFinished_stage {d : EditProfileDialog}
    (hform : d.form.Valid) (hlogged : session.loggedIn = true) {reply : HttpReply}
    (hcopy : Mirrors me m (d.onProfileUpdateFinished qt session reply).2) :
    Stage qt me m (d.onProfileUpdateFinished qt session reply).2 none
      (d.onProfileUpdateFinished qt session reply).1 [] := by
  unfold EditProfileDialog.onProfileUpdateFinished at hcopy ⊢
  dsimp only at hcopy ⊢
  split_ifs at hcopy ⊢
  · exact .editIdle rfl hform hlogged hcopy
  · cases hroot : reply.root qt.toQt with
    | none =>
      rw [hroot] at hcopy
      exact .editIdle rfl hform hlogged hcopy
    | some root =>
      rw [hroot] at hcopy
      dsimp only at hcopy ⊢
      split_ifs at hcopy ⊢
      · exact .editIdle rfl hform hlogged hcopy
      · exact .closed hcopy
      · exact .closed hcopy

/-! A request or a reply is lost. -/

theorem finished_lost (l : LoginDialog) : (l.finished qt session ⟨0, []⟩).2 = session := by
  unfold LoginDialog.finished LoginDialog.onLoginFinished
  split_ifs with _ hstatus
  · rfl
  · rfl
  · exact absurd rfl hstatus

theorem Stage.lost (h : Stage qt me m session login edit flights)
    (hsettled : ∀ f ∈ flights, f.slot = .loginFinished ∨ f.reply = none) {i : ℕ} {f : Flight}
    (hf : flights[i]? = some f) :
    Stage qt me m session login edit (flights.set i { f with reply := some ⟨0, []⟩ }) := by
  have hcopy := h.copy hsettled
  have herror : HttpReply.error ⟨0, []⟩ = true := rfl
  cases h with
  | closed _ => cases hf
  | loginIdle _ _ _ => cases hf
  | editIdle _ _ _ _ => cases hf
  | login hflight hlines _ hlogin =>
    cases i with
    | zero =>
      cases hf
      refine .login hflight hlines hcopy ?_
      cases hlogin with
      | posted _ => exact .answered fun l _ => (finished_lost l).symm ▸ hcopy
      | answered _ => exact .answered fun l _ => (finished_lost l).symm ▸ hcopy
    | succ i => cases hf
  | edit hbusy hform hlogged hedit =>
    cases i with
    | zero =>
      cases hf
      refine .edit hbusy hform hlogged ?_
      cases hedit with
      | upload png _ => exact .uploaded ((onAvatarUploadFinished_error herror).symm ▸ hcopy)
      | update _ => exact .updated ((onProfileUpdateFinished_error herror).symm ▸ hcopy)
      | uploaded _ => simp at hsettled
      | updated _ => simp at hsettled
    | succ i => cases hf

end Stages

/-! ## A request arrives -/

section Arrivals

variable {platform : Platform} {qt : AccountQt} (interop : HttpInterop platform qt.toQt)
  {crypto : Crypto} {assets : AssetsConfig} {me : ByteString} {d : Database} {s : Surroundings}
  {session : UserSession} {request : HttpRequest}

include interop in
theorem LoginFlight.arrives {pending : PendingRequest} {slot : ReplySlot} (hd : d.Neat)
    (hutf8 : d.committed.Utf8) (hids : d.accounts.lastId < 2 ^ 53)
    (hcall : ∀ call ∈ request.call platform s, call.Plain ∧ call.Loads)
    (hcopy : Mirrors me d.accounts session)
    (hf : LoginFlight qt me d.accounts session pending ⟨slot, request, none⟩) :
    let handling := handleRequest platform crypto assets s request d
    handling.database.Neat ∧ Mirrors me handling.database.accounts session ∧
      LoginFlight qt me handling.database.accounts session pending
        ⟨slot, request, some handling.reply⟩ := by
  intro handling
  have hdatabase : handling.database = _ := handleRequest_database s request d
  cases hf with
  | posted hasked =>
    cases hasked with
    | @login username password husername hpassword =>
      have hsame : handling.database = d := by
        rw [hdatabase, call_login]
        cases parseLoginRequest platform _ <;> rfl
      rw [hsame]
      refine ⟨hd, hcopy, .answered fun l hl => ?_⟩
      have hlogin : l.finished qt session handling.reply =
          l.onLoginFinished qt session handling.reply := by
        rw [LoginDialog.finished, if_neg (by rw [hl]; exact nofun)]
      rw [hlogin, show handling = _ from handleRequest_login platform crypto assets qt.toQt s _ d]
      refine handleLogin_mirrors interop hd hutf8 hids husername hpassword hcopy
        (by rw [hl]; exact nofun) _ fun r hr => ?_
      refine hcall (.login s.login r.1 r.2) ?_
      rw [call_login, hr]
      rfl
    | register username password =>
      have hkept : handling.database.Neat ∧ d.accounts.Keeps me handling.database.accounts := by
        rw [hdatabase]
        rw [call_register] at hcall ⊢
        cases hparse : parseLoginRequest platform _ with
        | none => exact ⟨hd, .refl me _⟩
        | some r =>
          rw [hparse] at hcall
          exact serve_kept hd crypto assets (hcall _ rfl).1 id
      refine ⟨hkept.1, hcopy.keeps hkept.2, .answered fun l hl => ?_⟩
      rw [LoginDialog.finished, if_pos hl]
      exact hcopy.keeps hkept.2

include interop in
theorem EditFlight.arrives {dialog : EditProfileDialog} {slot : ReplySlot}
    (hassets : assets.Utf8) (hbase : 0 ∉ assets.publicBaseUrl) (hd : d.Neat)
    (hcall : ∀ call ∈ request.call platform s, call.Plain ∧ call.Loads)
    (hform : dialog.form.Valid) (hlogged : session.loggedIn = true)
    (hf : EditFlight qt me d.accounts session dialog ⟨slot, request, none⟩) :
    let handling := handleRequest platform crypto assets s request d
    handling.database.Neat ∧ EditFlight qt me handling.database.accounts session dialog
      ⟨slot, request, some handling.reply⟩ := by
  intro handling
  cases hf with
  | upload png hcopy =>
    have hupload := handleUploadAvatar_mirrors interop crypto dialog {} hassets hbase hd s hcopy
      hlogged png (ascii "/api/upload-avatar")
    rw [show handling = _ from handleRequest_uploadAvatar platform crypto assets qt.toQt s _ d]
    exact ⟨hupload.1, .uploaded hupload.2⟩
  | update hcopy =>
    have hupdate := handleUpdateProfile_mirrors interop hd s hcopy hlogged hform
      (ascii "/api/update-profile") fun r hr => by
        refine (hcall (.updateProfile s.updateProfile r.1 r.2) ?_).1
        rw [call_updateProfile, hr]
        rfl
    rw [show handling = _ from handleRequest_updateProfile platform crypto assets qt.toQt s _ d]
    exact ⟨hupdate.1, .updated hupdate.2⟩

end Arrivals

/-! ## Runs -/

namespace AccountWorld

section Runs

variable {platform : Platform} {qt : AccountQt} {paths : AuthPaths} {crypto : Crypto}
  {assets : AssetsConfig} {me : ByteString} {w w' : AccountWorld}

theorem deliver_database (w : AccountWorld) (slot : ReplySlot) (reply : HttpReply) :
    (deliver qt paths w slot reply).database = w.database := by
  rcases w with ⟨session, login, edit, flights, database⟩
  cases slot with
  | loginFinished => cases login <;> rfl
  | avatarUploadFinished => cases edit <;> rfl
  | profileUpdateFinished => cases edit <;> rfl

/-- The database only changes as the sessions of the server change it. -/
theorem next_database {e : AccountEvent} (h : next platform qt paths crypto assets w e = some w') :
    w'.database = w.database ∨
      ∃ s req, w'.database = (handleRequest platform crypto assets s req w.database).database := by
  cases e with
  | loginTyped account password =>
    rcases Option.map_eq_some_iff.mp h with ⟨l, _, rfl⟩
    exact Or.inl rfl
  | registrationTyped username password =>
    rcases Option.map_eq_some_iff.mp h with ⟨l, _, rfl⟩
    exact Or.inl rfl
  | loginClicked =>
    rcases Option.map_eq_some_iff.mp h with ⟨l, _, rfl⟩
    exact Or.inl rfl
  | registerClicked =>
    rcases Option.map_eq_some_iff.mp h with ⟨l, _, rfl⟩
    exact Or.inl rfl
  | editProfileClicked shown =>
    rcases editProfileClicked_of_next h with ⟨_, _, _, rfl⟩
    exact Or.inl rfl
  | formEdited form =>
    rcases formEdited_of_next h with ⟨d, _, _, rfl⟩
    exact Or.inl rfl
  | avatarChosen image =>
    rcases Option.map_eq_some_iff.mp h with ⟨d, _, rfl⟩
    exact Or.inl rfl
  | saveClicked =>
    rcases Option.map_eq_some_iff.mp h with ⟨d, _, rfl⟩
    exact Or.inl rfl
  | dialogClosed =>
    rcases Option.map_eq_some_iff.mp h with ⟨d, _, rfl⟩
    exact Or.inl rfl
  | processRestarted =>
    cases h
    exact Or.inl rfl
  | arrives i s =>
    rcases arrives_of_next h with ⟨_, request, _, rfl⟩
    exact Or.inr ⟨s, request, rfl⟩
  | lost i =>
    rcases Option.map_eq_some_iff.mp h with ⟨f, _, rfl⟩
    exact Or.inl rfl
  | finished i =>
    rcases finished_of_next h with ⟨_, _, _, _, rfl⟩
    exact Or.inl (deliver_database _ _ _)
  | others s req =>
    cases h
    exact Or.inr ⟨s, req, rfl⟩

/-- What the server reaches with this client it reaches with clients of any kind. -/
theorem reachable_database (h : Reachable (system platform qt paths crypto assets) w) :
    Reachable (httpSessions platform crypto assets) w.database := by
  refine h.invariant
    (I := fun w => Reachable (httpSessions platform crypto assets) w.database) ?_ ?_
  · rintro w rfl
    exact .init rfl
  · intro w e w' _ hw hstep
    rcases next_database hstep with hsame | ⟨s, req, hrequest⟩
    · rw [hsame]
      exact hw
    · exact hw.step (e := (s, req)) hrequest

/-- The texts of the database are whole, and the session is what its stage says. -/
structure Copied (qt : AccountQt) (me : ByteString) (w : AccountWorld) : Prop where
  neat : w.database.Neat
  stage : Stage qt me w.database.accounts w.session w.login w.edit w.flights

theorem stage_start (qt : AccountQt) (me : ByteString) (m : AccountMap) :
    Stage qt me m {} (some {}) none [] :=
  .loginIdle rfl ⟨Utf8.valid_nil, Utf8.valid_nil, Utf8.valid_nil, Utf8.valid_nil⟩
    (mirrors_start me m)

theorem Copied.arrives (interop : HttpInterop platform qt.toQt) (hassets : assets.Utf8)
    (hbase : 0 ∉ assets.publicBaseUrl) (h : Copied qt me w) (hutf8 : w.database.committed.Utf8)
    {i : ℕ} {s : Surroundings} {slot : ReplySlot} {request : HttpRequest}
    (hf : w.flights[i]? = some ⟨slot, request, none⟩)
    (ho : Orderly platform me w (.arrives i s)) :
    let handling := handleRequest platform crypto assets s request w.database
    Copied qt me { w with
      flights := w.flights.set i ⟨slot, request, some handling.reply⟩
      database := handling.database } := by
  rcases w with ⟨session, login, edit, flights, database⟩
  rcases h with ⟨hneat, hstage⟩
  rcases ho with ⟨hids, hcalls⟩
  dsimp only at hneat hstage hutf8 hf hids hcalls ⊢
  have hcall := hcalls _ hf
  cases hstage with
  | closed _ => cases hf
  | loginIdle _ _ _ => cases hf
  | editIdle _ _ _ _ => cases hf
  | login hflight hlines hcopy hlogin =>
    cases i with
    | zero =>
      cases hf
      rcases hlogin.arrives interop hneat hutf8 hids hcall hcopy with ⟨hneat', hcopy', hlogin'⟩
      exact ⟨hneat', .login hflight hlines hcopy' hlogin'⟩
    | succ i => cases hf
  | edit hbusy hform hlogged hedit =>
    cases i with
    | zero =>
      cases hf
      rcases hedit.arrives interop hassets hbase hneat hcall hform hlogged with ⟨hneat', hedit'⟩
      exact ⟨hneat', .edit hbusy hform hlogged hedit'⟩
    | succ i => cases hf

theorem Copied.finished (h : Copied qt me w) {i : ℕ} {slot : ReplySlot} {request : HttpRequest}
    {reply : HttpReply} (hf : w.flights[i]? = some ⟨slot, request, some reply⟩) :
    Copied qt me (deliver qt {} { w with flights := w.flights.eraseIdx i } slot reply) := by
  refine ⟨by rw [deliver_database]; exact h.neat, ?_⟩
  rcases w with ⟨session, login, edit, flights, database⟩
  rcases h with ⟨_, hstage⟩
  dsimp only at hstage hf
  cases hstage with
  | closed _ => cases hf
  | loginIdle _ _ _ => cases hf
  | editIdle _ _ _ _ => cases hf
  | @login l f hflight hlines hcopy hlogin =>
    cases i with
    | zero =>
      cases hf
      cases hlogin with
      | answered hanswer => exact hlines.finished_stage (hanswer l rfl)
    | succ i => cases hf
  | edit hbusy hform hlogged hedit =>
    cases i with
    | zero =>
      cases hf
      cases hedit with
      | uploaded hanswer => exact hform.onAvatarUploadFinished_stage hbusy hlogged hanswer
      | updated hanswer => exact hform.onProfileUpdateFinished_stage hlogged hanswer
    | succ i => cases hf

/-- A request of somebody else leaves the account alone. -/
theorem others_kept {s : Surroundings} {req : HttpRequest} (hneat : w.database.Neat)
    (ho : Orderly platform me w (.others s req)) :
    (handleRequest platform crypto assets s req w.database).database.Neat ∧
      w.database.accounts.Keeps me
        (handleRequest platform crypto assets s req w.database).database.accounts := by
  rw [handleRequest_database]
  cases hcall : req.call platform s with
  | none => exact ⟨hneat, .refl me _⟩
  | some call =>
    have hother := ho call hcall
    exact serve_kept hneat crypto assets hother.1 hother.2

theorem next_copied (interop : HttpInterop platform qt.toQt) (hassets : assets.Utf8)
    (hbase : 0 ∉ assets.publicBaseUrl) (h : Copied qt me w) (hutf8 : w.database.committed.Utf8)
    {e : AccountEvent} (ho : Orderly platform me w e)
    (hnext : next platform qt {} crypto assets w e = some w') : Copied qt me w' := by
  have hstage := h.stage
  cases e with
  | loginTyped account password =>
    rcases Option.map_eq_some_iff.mp hnext with ⟨l, hl, rfl⟩
    rw [hl] at hstage
    refine ⟨h.neat, hstage.typed rfl rfl fun hlines => ?_⟩
    exact ⟨qt.utf8_valid _, qt.utf8_valid _, hlines.3, hlines.4⟩
  | registrationTyped username password =>
    rcases Option.map_eq_some_iff.mp hnext with ⟨l, hl, rfl⟩
    rw [hl] at hstage
    refine ⟨h.neat, hstage.typed rfl rfl fun hlines => ?_⟩
    exact ⟨hlines.1, hlines.2, qt.utf8_valid _, qt.utf8_valid _⟩
  | loginClicked =>
    rcases Option.map_eq_some_iff.mp hnext with ⟨l, hl, rfl⟩
    rw [hl] at hstage
    exact ⟨h.neat, hstage.clicked LoginDialog.Valid.login_stage login_of_inFlight⟩
  | registerClicked =>
    rcases Option.map_eq_some_iff.mp hnext with ⟨l, hl, rfl⟩
    rw [hl] at hstage
    exact ⟨h.neat, hstage.clicked LoginDialog.Valid.register_stage register_of_inFlight⟩
  | editProfileClicked shown =>
    rcases editProfileClicked_of_next hnext with ⟨hlogin, hedit, hlogged, rfl⟩
    rw [hlogin, hedit] at hstage
    refine ⟨h.neat, ?_⟩
    show Stage qt me _ w.session w.login _ w.flights
    rw [hlogin]
    exact hstage.opened rfl (shown.typed_valid qt.toQt) hlogged
  | formEdited form =>
    rcases formEdited_of_next hnext with ⟨d, hd, hidle, rfl⟩
    rw [hd] at hstage
    refine ⟨h.neat, hstage.edited rfl (fun _ => form.typed_valid qt.toQt) fun hwaits => ?_⟩
    rw [hidle] at hwaits
    cases hwaits
  | avatarChosen image =>
    rcases Option.map_eq_some_iff.mp hnext with ⟨d, hd, rfl⟩
    rw [hd] at hstage
    refine ⟨h.neat, hstage.edited (onChangeAvatarClicked_busy image) (fun hform => ?_) ?_⟩
    · unfold EditProfileDialog.onChangeAvatarClicked
      split_ifs <;> exact hform
    · intro hwaits
      rw [EditProfileDialog.onChangeAvatarClicked, if_pos hwaits]
  | saveClicked =>
    rcases Option.map_eq_some_iff.mp hnext with ⟨d, hd, rfl⟩
    rw [hd] at hstage
    exact ⟨h.neat, hstage.saveClicked⟩
  | dialogClosed =>
    rcases Option.map_eq_some_iff.mp hnext with ⟨d, hd, rfl⟩
    rw [hd] at hstage
    exact ⟨h.neat, hstage.dialogClosed ho⟩
  | processRestarted =>
    cases hnext
    exact ⟨h.neat, stage_start qt me _⟩
  | arrives i s =>
    rcases arrives_of_next hnext with ⟨slot, request, hf, rfl⟩
    exact h.arrives interop hassets hbase hutf8 hf ho
  | lost i =>
    rcases Option.map_eq_some_iff.mp hnext with ⟨f, hf, rfl⟩
    exact ⟨h.neat, hstage.lost ho hf⟩
  | finished i =>
    rcases finished_of_next hnext with ⟨slot, request, reply, hf, rfl⟩
    exact h.finished hf
  | others s req =>
    cases hnext
    rcases others_kept h.neat ho with ⟨hneat, hkeeps⟩
    exact ⟨hneat, hstage.keeps hkeeps⟩

theorem reachable_copied (interop : HttpInterop platform qt.toQt) (hassets : assets.Utf8)
    (hbase : 0 ∉ assets.publicBaseUrl)
    (h : Reachable ((system platform qt {} crypto assets).restrict (Orderly platform me)) w) :
    Copied qt me w := by
  refine h.invariant (I := Copied qt me) ?_ ?_
  · rintro w rfl
    exact ⟨Database.neat_create, stage_start qt me _⟩
  · rintro w e w' hr hw ⟨ho, hstep⟩
    have hdatabase := reachable_database hr.of_restrict
    exact next_copied interop hassets hbase hw (httpSessions_invariant hassets hdatabase).2 ho hstep

/-- A client with the default paths of the service shows the account of its user: the
session is what a login would show now, whatever has been saved, refused or lost
since, in whatever order the requests of all clients reached the service. -/
theorem session_mirrors_account (interop : HttpInterop platform qt.toQt) (hassets : assets.Utf8)
    (hbase : 0 ∉ assets.publicBaseUrl)
    (h : Reachable ((system platform qt {} crypto assets).restrict (Orderly platform me)) w)
    (hlogged : w.session.loggedIn = true) (hme : w.session.username = me) (hsettled : w.Settled) :
    ∃ a, w.database.accounts.account me = some a ∧ w.session = .ofInfo (a.info me) := by
  have hcopy := (reachable_copied interop hassets hbase h).stage.copy hsettled
  rcases hcopy.known hlogged with ⟨a, ha, _⟩
  rw [hme] at ha
  exact ⟨a, ha, hcopy.shown hlogged hme a ha⟩

end Runs

/-! ## A run -/

section Example

/-- OpenSSL on the texts of the run. -/
def runCrypto : Crypto := { opensslOnPw with bioReadBase64 := abcCrypto.bioReadBase64 }

/-- Ann registers, logs in, and saves an avatar and a profile, while Bob registers. -/
def annsEvents : List AccountEvent := [
  .registrationTyped (ascii " ann ") (ascii "pw"), .registerClicked, .arrives 0 (smooth emptyDisk),
  .finished 0, .loginTyped (ascii "ann") (ascii "pw"), .loginClicked,
  .arrives 0 (smooth emptyDisk),
  .others (smooth emptyDisk)
    (postJson referenceQt (ascii "/api/register") (credentialsBody (ascii "bob") (ascii "pw"))),
  .finished 0,
  .editProfileClicked ⟨ascii "ann", .unset, .minimum, [], [], [], []⟩,
  .formEdited ⟨ascii "Ann", .other, ⟨⟨2001, by decide⟩, ⟨1, by decide⟩, ⟨27, by decide⟩⟩,
    [], [], [], ascii " hello"⟩,
  .avatarChosen (some (ascii "ABC")), .saveClicked, .arrives 0 (smooth emptyDisk), .finished 0,
  .arrives 0 (smooth emptyDisk), .finished 0]

/-- The world after the run. -/
def annsWorld : AccountWorld :=
  (replay (guarded (Orderly nestedReference (ascii "ann"))
    (next nestedReference accountQt {} runCrypto {})) {} annsEvents).getD {}

theorem reachable_annsWorld : Reachable
    ((system nestedReference accountQt {} runCrypto {}).restrict
      (Orderly nestedReference (ascii "ann"))) annsWorld := by
  have hrun : (replay (guarded (Orderly nestedReference (ascii "ann"))
      (next nestedReference accountQt {} runCrypto {})) {} annsEvents).isSome = true := by
    decide +kernel
  rcases Option.isSome_iff_exists.mp hrun with ⟨w, hw⟩
  rw [annsWorld, hw]
  exact (Run.of_replay (fun _ _ _ => guarded_step fun _ _ _ h => h) hw).reachable (.init rfl)

/-- What Ann sees is her account, with the avatar and the profile. -/
theorem session_mirrors_account_ann : ∃ a,
    annsWorld.database.accounts.account (ascii "ann") = some a ∧
      annsWorld.session = .ofInfo (a.info (ascii "ann")) :=
  session_mirrors_account nested_interop ⟨by decide, by decide⟩ (by decide) reachable_annsWorld
    (by decide +kernel) (by decide +kernel) (by decide +kernel)

end Example

end AccountWorld

end CCMeeting
