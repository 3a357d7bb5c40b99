import CCMeeting.Client.UserSession
import CCMeeting.Lib.Transition

/-! # A client and the account service

One process of the client with its two dialogs, the requests it waits for, and the
database of the service, which other clients use as well. A request that nobody
waits for any more, as the dialog or the process is gone, is one of the others'.
-/

namespace CCMeeting

open ByteString Transition

/-- A request that a slot waits for, and its reply once there is one. -/
structure Flight where
  slot : ReplySlot
  request : HttpRequest
  reply : Option HttpReply := none

/-- The client and the database of the service. -/
structure AccountWorld where
  session : UserSession := {}
  /-- the login dialog, until it is accepted -/
  login : Option LoginDialog := some {}
  edit : Option EditProfileDialog := none
  flights : List Flight := []
  database : Database := .create

/-- What the user does and what the network does. -/
inductive AccountEvent where
  | loginTyped (account password : ByteString)
  | registrationTyped (username password : ByteString)
  | loginClicked
  | registerClicked
  /-- with what the widgets show of the session -/
  | editProfileClicked (shown : ProfileForm)
  | formEdited (form : ProfileForm)
  | avatarChosen (image : Option ByteString)
  | saveClicked
  | dialogClosed
  /-- also after a logout, which starts the client anew -/
  | processRestarted
  /-- a request reaches the service -/
  | arrives (i : ℕ) (s : Surroundings)
  /-- a request or its reply is lost, and the client is told -/
  | lost (i : ℕ)
  | finished (i : ℕ)
  | others (s : Surroundings) (req : HttpRequest)

/-- What has been typed, as the widgets hold it. -/
def ProfileForm.typed (qt : Qt) (form : ProfileForm) : ProfileForm :=
  { form with
    nickname := qt.utf8 form.nickname
    address := qt.utf8 form.address
    phone := qt.utf8 form.phone
    email := qt.utf8 form.email
    info := qt.utf8 form.info }

/-- What the client hears of what the service has done. -/
def Handling.reply (h : Handling) : HttpReply :=
  match h.responses with
  | response :: _ => ⟨response.status, response.body⟩
  | [] => ⟨0, []⟩

namespace AccountWorld

/-- A request is posted. -/
def post (w : AccountWorld) (request : Option (ReplySlot × HttpRequest)) : AccountWorld :=
  { w with flights := w.flights ++ (request.map fun r => ⟨r.1, r.2, none⟩).toList }

section Run

variable (platform : Platform) (qt : AccountQt) (paths : AuthPaths) (crypto : Crypto)
  (assets : AssetsConfig)

/-- A reply is finished. -/
def deliver (w : AccountWorld) (slot : ReplySlot) (reply : HttpReply) : AccountWorld :=
  match slot with
  | .loginFinished =>
    match w.login with
    | some l =>
      { w with
        login := (l.finished qt w.session reply).1
        session := (l.finished qt w.session reply).2 }
    | none => w
  | .avatarUploadFinished =>
    match w.edit with
    | some d =>
      let r := d.onAvatarUploadFinished qt paths w.session reply
      post { w with edit := some r.1, session := r.2.1 } r.2.2
    | none => w
  | .profileUpdateFinished =>
    match w.edit with
    | some d =>
      let r := d.onProfileUpdateFinished qt w.session reply
      { w with edit := r.1, session := r.2 }
    | none => w

/-- One event, where it can happen. -/
def next (w : AccountWorld) : AccountEvent → Option AccountWorld
  | .loginTyped account password =>
    w.login.map fun l =>
      { w with
        login := some { l with accountLine := qt.utf8 account, passwordLine := qt.utf8 password } }
  | .registrationTyped username password =>
    w.login.map fun l =>
      { w with
        login := some { l with
          registerUsernameLine := qt.utf8 username
          registerPasswordLine := qt.utf8 password } }
  | .loginClicked =>
    w.login.map fun l =>
      let r := l.login qt paths
      post { w with login := some r.1 } (r.2.map fun request => (.loginFinished, request))
  | .registerClicked =>
    w.login.map fun l =>
      let r := l.register qt paths
      post { w with login := some r.1 } (r.2.map fun request => (.loginFinished, request))
  | .editProfileClicked shown =>
    if w.login.isNone && w.edit.isNone && w.session.loggedIn then
      some { w with edit := some { form := shown.typed qt.toQt } }
    else none
  | .formEdited form =>
    w.edit.bind fun d =>
      if d.busy then none else some { w with edit := some { d with form := form.typed qt.toQt } }
  | .avatarChosen image =>
    w.edit.map fun d => { w with edit := some (d.onChangeAvatarClicked image) }
  | .saveClicked =>
    w.edit.map fun d =>
      let r := d.onSaveClicked qt paths w.session
      post { w with edit := some r.1 } r.2
  | .dialogClosed =>
    w.edit.map fun _ =>
      { w with edit := none, flights := w.flights.filter fun f => f.slot = .loginFinished }
  | .processRestarted => some { database := w.database }
  | .arrives i s =>
    match w.flights[i]? with
    | some ⟨slot, request, none⟩ =>
      let h := handleRequest platform crypto assets s request w.database
      some { w with
        flights := w.flights.set i ⟨slot, request, some h.reply⟩
        database := h.database }
    | _ => none
  | .lost i =>
    w.flights[i]?.map fun f =>
      { w with flights := w.flights.set i { f with reply := some ⟨0, []⟩ } }
  | .finished i =>
    match w.flights[i]? with
    | some ⟨slot, _, some reply⟩ =>
      some (deliver qt paths { w with flights := w.flights.eraseIdx i } slot reply)
    | _ => none
  | .others s req =>
    some { w with database := (handleRequest platform crypto assets s req w.database).database }

/-- A client is started on a new database. -/
def system : System AccountWorld AccountEvent where
  Init w := w = {}
  Step w e w' := next platform qt paths crypto assets w e = some w'

end Run

/-! ## One request at a time -/

/-- Which dialog there is, and whether it waits for a reply and knows it. -/
inductive Waits : Option LoginDialog → Option EditProfileDialog → List Flight → Prop where
  | closed : Waits none none []
  | loginIdle {l : LoginDialog} :
      l.requestInFlight = false → l.pendingRequest = .none → Waits (some l) none []
  | editIdle {d : EditProfileDialog} : d.busy = false → Waits none (some d) []
  | login {l : LoginDialog} {f : Flight} :
      l.requestInFlight = true → l.pendingRequest ≠ .none → f.slot = .loginFinished →
      Waits (some l) none [f]
  | edit {d : EditProfileDialog} {f : Flight} :
      d.busy = true → f.slot ≠ .loginFinished → Waits none (some d) [f]

section Waits

variable {qt : AccountQt} {paths : AuthPaths} {l : LoginDialog} {d : EditProfileDialog}

theorem login_waits (h : l.requestInFlight = false ∧ l.pendingRequest = .none) :
    Waits (some (l.login qt paths).1) none
      (((l.login qt paths).2.map fun request => (ReplySlot.loginFinished, request)).map
        fun r => (⟨r.1, r.2, none⟩ : Flight)).toList := by
  unfold LoginDialog.login
  rw [h.1, if_neg Bool.false_ne_true]
  dsimp only
  split_ifs
  · exact .loginIdle h.1 h.2
  · exact .login rfl (by simp) rfl

theorem register_waits (h : l.requestInFlight = false ∧ l.pendingRequest = .none) :
    Waits (some (l.register qt paths).1) none
      (((l.register qt paths).2.map fun request => (ReplySlot.loginFinished, request)).map
        fun r => (⟨r.1, r.2, none⟩ : Flight)).toList := by
  unfold LoginDialog.register
  rw [h.1, if_neg Bool.false_ne_true]
  dsimp only
  split_ifs
  · exact .loginIdle h.1 h.2
  · exact .login rfl (by simp) rfl

/-- While it waits, a dialog posts nothing. -/
theorem login_of_inFlight (h : l.requestInFlight = true) : l.login qt paths = (l, none) := by
  rw [LoginDialog.login, if_pos h]

theorem register_of_inFlight (h : l.requestInFlight = true) : l.register qt paths = (l, none) := by
  rw [LoginDialog.register, if_pos h]

theorem onSaveClicked_of_busy (h : d.busy = true) (session : UserSession) :
    d.onSaveClicked qt paths session = (d, none) := by
  rw [EditProfileDialog.onSaveClicked, if_pos h]

theorem onChangeAvatarClicked_busy (image : Option ByteString) :
    (d.onChangeAvatarClicked image).busy = d.busy := by
  unfold EditProfileDialog.onChangeAvatarClicked
  split_ifs <;> rfl

/-- The login dialog no longer waits once it has its reply. -/
theorem finished_waits (session : UserSession) (reply : HttpReply) :
    Waits (l.finished qt session reply).1 none [] := by
  unfold LoginDialog.finished
  split_ifs with hregister
  · unfold LoginDialog.onRegisterFinished
    rw [if_neg (not_not.mpr hregister)]
    dsimp only
    split_ifs
    · exact .loginIdle rfl rfl
    · cases reply.root qt.toQt with
      | none => exact .loginIdle rfl rfl
      | some root =>
        dsimp only
        split_ifs
        · exact .loginIdle rfl rfl
        · exact .loginIdle rfl rfl
  · unfold LoginDialog.onLoginFinished
    rw [if_neg hregister]
    dsimp only
    split_ifs
    · exact .loginIdle rfl rfl
    · cases reply.root qt.toQt with
      | none => exact .loginIdle rfl rfl
      | some root =>
        dsimp only
        split_ifs
        · exact .loginIdle rfl rfl
        · exact .closed
        · exact .closed

theorem onSaveClicked_waits (h : d.busy = false) (session : UserSession) :
    Waits none (some (d.onSaveClicked qt paths session).1)
      ((d.onSaveClicked qt paths session).2.map fun r => (⟨r.1, r.2, none⟩ : Flight)).toList := by
  unfold EditProfileDialog.onSaveClicked
  rw [h, if_neg Bool.false_ne_true]
  split_ifs
  · exact .editIdle h
  · exact .editIdle h
  · dsimp only
    cases d.pendingAvatar with
    | none => exact .edit rfl (by simp)
    | some image =>
      cases image with
      | none => exact .editIdle rfl
      | some png => exact .edit rfl (by simp)

theorem onAvatarUploadFinished_waits (h : d.busy = true) (session : UserSession)
    (reply : HttpReply) :
    Waits none (some (d.onAvatarUploadFinished qt paths session reply).1)
      ((d.onAvatarUploadFinished qt paths session reply).2.2.map fun r =>
        (⟨r.1, r.2, none⟩ : Flight)).toList := by
  unfold EditProfileDialog.onAvatarUploadFinished
  split_ifs
  · exact .editIdle rfl
  · cases reply.root qt.toQt with
    | none => exact .editIdle rfl
    | some root =>
      dsimp only
      split_ifs
      · exact .editIdle rfl
      · exact .editIdle rfl
      · exact .edit h (by simp)

theorem onProfileUpdateFinished_waits (session : UserSession) (reply : HttpReply) :
    Waits none (d.onProfileUpdateFinished qt session reply).1 [] := by
  unfold EditProfileDialog.onProfileUpdateFinished
  dsimp only
  split_ifs
  · exact .editIdle rfl
  · cases reply.root qt.toQt with
    | none => exact .editIdle rfl
    | some root =>
      dsimp only
      split_ifs
      · exact .editIdle rfl
      · exact .closed
      · exact .closed

variable {login : Option LoginDialog} {edit : Option EditProfileDialog} {flights : List Flight}

/-- What is typed has nothing to do with a request. -/
theorem Waits.typed (h : Waits (some l) edit flights) {l' : LoginDialog}
    (hflight : l'.requestInFlight = l.requestInFlight)
    (hpending : l'.pendingRequest = l.pendingRequest) : Waits (some l') edit flights := by
  cases h with
  | loginIdle hidle hnone => exact .loginIdle (hflight.trans hidle) (hpending.trans hnone)
  | login hwaits hsome hslot => exact .login (hflight.trans hwaits) (hpending ▸ hsome) hslot

/-- A button of the login dialog posts a request, or does nothing while it waits. -/
theorem Waits.clicked (h : Waits (some l) edit flights) {r : LoginDialog × Option HttpRequest}
    (hidle : l.requestInFlight = false ∧ l.pendingRequest = .none →
      Waits (some r.1) none ((r.2.map fun request => (ReplySlot.loginFinished, request)).map
        fun r => (⟨r.1, r.2, none⟩ : Flight)).toList)
    (hwaits : l.requestInFlight = true → r = (l, none)) :
    Waits (some r.1) edit (flights ++ ((r.2.map fun request =>
      (ReplySlot.loginFinished, request)).map fun r => (⟨r.1, r.2, none⟩ : Flight)).toList) := by
  cases h with
  | loginIdle hflight hpending => exact hidle ⟨hflight, hpending⟩
  | login hflight hpending hslot =>
    rw [hwaits hflight]
    exact .login hflight hpending hslot

theorem Waits.opened (h : Waits none none flights) (hbusy : d.busy = false) :
    Waits none (some d) flights := by
  cases h
  exact .editIdle hbusy

theorem Waits.edited (h : Waits login (some d) flights) {d' : EditProfileDialog}
    (hbusy : d'.busy = d.busy) : Waits login (some d') flights := by
  cases h with
  | editIdle hidle => exact .editIdle (hbusy.trans hidle)
  | edit hwaits hslot => exact .edit (hbusy.trans hwaits) hslot

theorem Waits.saveClicked (h : Waits login (some d) flights) (session : UserSession) :
    Waits login (some (d.onSaveClicked qt paths session).1)
      (flights ++ ((d.onSaveClicked qt paths session).2.map fun r =>
        (⟨r.1, r.2, none⟩ : Flight)).toList) := by
  cases h with
  | editIdle hidle => exact onSaveClicked_waits hidle session
  | edit hwaits hslot =>
    rw [onSaveClicked_of_busy hwaits]
    exact .edit hwaits hslot

/-- The reply to a dialog that is closed goes nowhere. -/
theorem Waits.dialogClosed (h : Waits login (some d) flights) :
    Waits login none (flights.filter fun f => f.slot = .loginFinished) := by
  cases h with
  | editIdle _ => exact .closed
  | edit _ hslot =>
    rw [List.filter_cons_of_neg (by simp [hslot])]
    exact .closed

end Waits

section Steps

variable {platform : Platform} {qt : AccountQt} {paths : AuthPaths} {crypto : Crypto}
  {assets : AssetsConfig} {w w' : AccountWorld}

theorem editProfileClicked_of_next {shown : ProfileForm}
    (h : next platform qt paths crypto assets w (.editProfileClicked shown) = some w') :
    w.login = none ∧ w.edit = none ∧ w.session.loggedIn = true ∧
      w' = { w with edit := some { form := shown.typed qt.toQt } } := by
  simp only [next, Bool.and_eq_true, Option.isNone_iff_eq_none, Option.ite_none_right_eq_some,
    Option.some.injEq] at h
  exact ⟨h.1.1.1, h.1.1.2, h.1.2, h.2.symm⟩

theorem formEdited_of_next {form : ProfileForm}
    (h : next platform qt paths crypto assets w (.formEdited form) = some w') :
    ∃ d, w.edit = some d ∧ d.busy = false ∧
      w' = { w with edit := some { d with form := form.typed qt.toQt } } := by
  rcases Option.bind_eq_some_iff.mp h with ⟨d, hd, hsome⟩
  rw [Option.ite_none_left_eq_some, Option.some.injEq] at hsome
  exact ⟨d, hd, Bool.eq_false_iff.mpr hsome.1, hsome.2.symm⟩

theorem arrives_of_next {i : ℕ} {s : Surroundings}
    (h : next platform qt paths crypto assets w (.arrives i s) = some w') :
    ∃ slot request, w.flights[i]? = some ⟨slot, request, none⟩ ∧
      w' = { w with
        flights := w.flights.set i
          ⟨slot, request, some (handleRequest platform crypto assets s request w.database).reply⟩
        database := (handleRequest platform crypto assets s request w.database).database } := by
  simp only [next] at h
  split at h
  · next slot request hf => exact ⟨slot, request, hf, (Option.some.inj h).symm⟩
  · cases h

theorem finished_of_next {i : ℕ}
    (h : next platform qt paths crypto assets w (.finished i) = some w') :
    ∃ slot request reply, w.flights[i]? = some ⟨slot, request, some reply⟩ ∧
      w' = deliver qt paths { w with flights := w.flights.eraseIdx i } slot reply := by
  simp only [next] at h
  split at h
  · next slot request reply hf =>
    exact ⟨slot, request, reply, hf, (Option.some.inj h).symm⟩
  · cases h

/-- The state of the one request that waits changes, if there is one. -/
theorem Waits.set {login : Option LoginDialog} {edit : Option EditProfileDialog}
    {flights : List Flight} (h : Waits login edit flights) {i : ℕ} {f : Flight}
    (hf : flights[i]? = some f) (reply : Option HttpReply) :
    Waits login edit (flights.set i { f with reply }) := by
  cases h with
  | closed => cases hf
  | loginIdle _ _ => cases hf
  | editIdle _ => cases hf
  | login hflight hpending hslot =>
    cases i with
    | zero =>
      cases hf
      exact .login hflight hpending hslot
    | succ i => cases hf
  | edit hbusy hslot =>
    cases i with
    | zero =>
      cases hf
      exact .edit hbusy hslot
    | succ i => cases hf

theorem deliver_waits (h : Waits w.login w.edit w.flights) {i : ℕ} {f : Flight}
    (hf : w.flights[i]? = some f) (reply : HttpReply) :
    Waits (deliver qt paths { w with flights := w.flights.eraseIdx i } f.slot reply).login
      (deliver qt paths { w with flights := w.flights.eraseIdx i } f.slot reply).edit
      (deliver qt paths { w with flights := w.flights.eraseIdx i } f.slot reply).flights := by
  rcases w with ⟨session, login, edit, flights, database⟩
  cases h with
  | closed => cases hf
  | loginIdle _ _ => cases hf
  | editIdle _ => cases hf
  | login hflight hpending hslot =>
    cases i with
    | zero =>
      cases hf
      rw [hslot]
      exact finished_waits session reply
    | succ i => cases hf
  | @edit d g hbusy hslot =>
    cases i with
    | zero =>
      cases hf
      cases hg : f.slot with
      | loginFinished => exact absurd hg hslot
      | avatarUploadFinished => exact onAvatarUploadFinished_waits hbusy session reply
      | profileUpdateFinished => exact onProfileUpdateFinished_waits session reply
    | succ i => cases hf

theorem next_waits (h : Waits w.login w.edit w.flights) {e : AccountEvent}
    (hnext : next platform qt paths crypto assets w e = some w') :
    Waits w'.login w'.edit w'.flights := by
  cases e with
  | loginTyped account password =>
    rcases Option.map_eq_some_iff.mp hnext with ⟨l, hl, rfl⟩
    rw [hl] at h
    exact h.typed rfl rfl
  | registrationTyped username password =>
    rcases Option.map_eq_some_iff.mp hnext with ⟨l, hl, rfl⟩
    rw [hl] at h
    exact h.typed rfl rfl
  | loginClicked =>
    rcases Option.map_eq_some_iff.mp hnext with ⟨l, hl, rfl⟩
    rw [hl] at h
    exact h.clicked login_waits login_of_inFlight
  | registerClicked =>
    rcases Option.map_eq_some_iff.mp hnext with ⟨l, hl, rfl⟩
    rw [hl] at h
    exact h.clicked register_waits register_of_inFlight
  | editProfileClicked shown =>
    rcases editProfileClicked_of_next hnext with ⟨hlogin, hedit, _, rfl⟩
    rw [hlogin, hedit] at h
    show Waits w.login _ w.flights
    rw [hlogin]
    exact h.opened rfl
  | formEdited form =>
    rcases formEdited_of_next hnext with ⟨d, hd, _, rfl⟩
    rw [hd] at h
    exact h.edited rfl
  | avatarChosen image =>
    rcases Option.map_eq_some_iff.mp hnext with ⟨d, hd, rfl⟩
    rw [hd] at h
    exact h.edited (onChangeAvatarClicked_busy image)
  | saveClicked =>
    rcases Option.map_eq_some_iff.mp hnext with ⟨d, hd, rfl⟩
    rw [hd] at h
    exact h.saveClicked w.session
  | dialogClosed =>
    rcases Option.map_eq_some_iff.mp hnext with ⟨d, hd, rfl⟩
    rw [hd] at h
    exact h.dialogClosed
  | processRestarted =>
    cases hnext
    exact .loginIdle rfl rfl
  | arrives i s =>
    rcases arrives_of_next hnext with ⟨slot, request, hf, rfl⟩
    exact h.set hf _
  | lost i =>
    rcases Option.map_eq_some_iff.mp hnext with ⟨f, hf, rfl⟩
    exact h.set hf _
  | finished i =>
    rcases finished_of_next hnext with ⟨slot, request, reply, hf, rfl⟩
    exact deliver_waits h hf reply
  | others s req =>
    cases hnext
    exact h

theorem reachable_waits (h : Reachable (system platform qt paths crypto assets) w) :
    Waits w.login w.edit w.flights := by
  refine h.invariant (I := fun w => Waits w.login w.edit w.flights) ?_ ?_
  · rintro w rfl
    exact .loginIdle rfl rfl
  · intro w e w' _ hw hstep
    exact next_waits hw hstep

/-- There is at most one request in flight and one dialog; a dialog takes itself to
be waiting exactly while its request is in flight, so none stays stuck; and the
reply goes to a slot of that dialog. -/
theorem one_request_at_a_time (h : Reachable (system platform qt paths crypto assets) w) :
    w.flights.length ≤ 1 ∧ (w.login = none ∨ w.edit = none) ∧
      (∀ l, w.login = some l →
        (l.requestInFlight = true ↔ w.flights ≠ []) ∧
        (l.pendingRequest ≠ .none ↔ w.flights ≠ [])) ∧
      (∀ d, w.edit = some d → (d.busy = true ↔ w.flights ≠ [])) ∧
      ∀ f ∈ w.flights, (f.slot = .loginFinished → w.login ≠ none) ∧
        (f.slot ≠ .loginFinished → w.edit ≠ none) := by
  have hw := reachable_waits h
  rcases w with ⟨session, login, edit, flights, database⟩
  dsimp only at hw ⊢
  cases hw with
  | closed => simp
  | loginIdle hflight hpending => simp [hflight, hpending]
  | editIdle hbusy => simp [hbusy]
  | login hflight hpending hslot => simp [hflight, hpending, hslot]
  | edit hbusy hslot => simp [hbusy, hslot]

end Steps

/-- A login is on its way. -/
def loggingIn : AccountWorld :=
  (replay (next nestedReference accountQt {} ⟨fun _ => [], fun _ => none⟩ {}) {}
    [.loginTyped (ascii "ann") (ascii "pw"), .loginClicked, .loginClicked]).getD {}

theorem one_request_at_a_time_login : loggingIn.flights ≠ [] ∧ loggingIn.flights.length ≤ 1 := by
  have hrun : (replay (next nestedReference accountQt {} ⟨fun _ => [], fun _ => none⟩ {}) {}
      [.loginTyped (ascii "ann") (ascii "pw"), .loginClicked, .loginClicked]).isSome = true := by
    decide +kernel
  rcases Option.isSome_iff_exists.mp hrun with ⟨w, hw⟩
  have hreachable : Reachable
      (system nestedReference accountQt {} ⟨fun _ => [], fun _ => none⟩ {}) loggingIn := by
    rw [loggingIn, hw]
    exact (Run.of_replay (fun _ _ _ h => h) hw).reachable (.init rfl)
  exact ⟨by decide +kernel, (one_request_at_a_time hreachable).1⟩

end AccountWorld

end CCMeeting
