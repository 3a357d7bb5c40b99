import Mathlib.Logic.Function.Basic
import CCMeeting.Lib.Transition
import CCMeeting.Lib.Bytes

/-! # Avatars and videos

Two classes load the avatar of a user and draw it on the widget of the user's
tile: `CameraVideo`, which numbers its requests for each user and looks at the
videos, and `PartnerTile`, which does neither. `CameraVideo` also draws the user in
the main picture. A download can be completed at any time after its request, with
an image or without one.
-/

namespace CCMeeting

open ByteString Transition

/-- What a widget shows; the images and the frames may be anything. -/
inductive Picture (ι φ : Type) where
  | blank
  | video (frame : φ)
  | avatar (image : ι)

/-- Who has asked `AvatarImageLoader` for an image. -/
inductive AvatarLoader where
  /-- `CameraVideo::loadAndShowAvatar`, with its generation -/
  | camera (generation : ℕ)
  /-- `PartnerTile::loadAvatar`, of one of the tiles there have been -/
  | tile (tile : ℕ)
deriving DecidableEq, Repr

/-- A download under way, or completed. -/
structure AvatarRequest where
  userId : Int64
  url : ByteString
  loader : AvatarLoader
  /-- history variables: how many requests had been made, with this one, and how
  often the generations of the user had been erased -/
  number : ℕ
  erasures : ℕ
deriving DecidableEq, Repr

/-- The tile of a member, and what is on its widget. -/
structure MemberTile (ι φ : Type) where
  tile : ℕ
  picture : Picture ι φ

/-- `ParticipantsController` with its tiles, and `CameraVideo`. -/
structure AvatarBoard (ι φ : Type) where
  /-- the keys of `_partners` -/
  partners : List Int64
  /-- the tiles of the partners, which are the targets of `_partnerDisplays` -/
  tiles : Int64 → Option (MemberTile ι φ)
  /-- `ParticipantsController::_mainUserId` -/
  participantsMain : Int64
  /-- `CameraVideo::_mainUserId` -/
  mainUserId : Int64
  /-- what is on the widget of `_mainDisplay` -/
  mainPicture : Picture ι φ
  /-- the valid ones of `_lastFrames` -/
  lastFrames : Int64 → Option φ
  avatarUrls : Int64 → ByteString
  /-- `_avatarLoadGen`; 0 where there is none, and taken not to reach 2^64 -/
  avatarLoadGen : Int64 → ℕ
  /-- the downloads under way -/
  loading : List AvatarRequest
  /-- how many tiles there have been -/
  tileCount : ℕ
  /-- history variables: how many requests there have been, the last one of each
  user, and how often the generations of a user have been erased -/
  requests : ℕ
  lastRequest : Int64 → ℕ
  erasures : Int64 → ℕ

namespace AvatarBoard

variable {ι φ : Type}

/-- A board just made. -/
def fresh : AvatarBoard ι φ where
  partners := []
  tiles _ := none
  participantsMain := 0
  mainUserId := 0
  mainPicture := .blank
  lastFrames _ := none
  avatarUrls _ := []
  avatarLoadGen _ := 0
  loading := []
  tileCount := 0
  requests := 0
  lastRequest _ := 0
  erasures _ := 0

/-! ## The widgets -/

/-- The widget of a tile, where there is one, shows something else. -/
def drawTile (b : AvatarBoard ι φ) (userId : Int64) (picture : Picture ι φ) : AvatarBoard ι φ :=
  { b with
    tiles := Function.update b.tiles userId ((b.tiles userId).map fun t => { t with picture }) }

/-- The main picture shows something else, if it shows the user. -/
def drawMain (b : AvatarBoard ι φ) (userId : Int64) (picture : Picture ι φ) : AvatarBoard ι φ :=
  { b with mainPicture := if userId = b.mainUserId then picture else b.mainPicture }

/-! ## The requests -/

/-- `AvatarImageLoader::load`. -/
def load (b : AvatarBoard ι φ) (userId : Int64) (url : ByteString) (loader : AvatarLoader) :
    AvatarBoard ι φ :=
  let request : AvatarRequest :=
    { userId, url, loader, number := b.requests + 1, erasures := b.erasures userId }
  { b with
    loading := request :: b.loading
    requests := b.requests + 1
    lastRequest := Function.update b.lastRequest userId (b.requests + 1) }

/-- `PartnerTile::updateProfile`, with `loadAvatar`. -/
def updateProfile (b : AvatarBoard ι φ) (userId : Int64) (tile : ℕ) (avatarUrl : ByteString) :
    AvatarBoard ι φ :=
  b.load userId avatarUrl (.tile tile)

/-- `CameraVideo::loadAndShowAvatar`. -/
def loadAndShowAvatar (b : AvatarBoard ι φ) (userId : Int64) : AvatarBoard ι φ :=
  let generation := b.avatarLoadGen userId + 1
  { b with avatarLoadGen := Function.update b.avatarLoadGen userId generation }.load userId
    (b.avatarUrls userId) (.camera generation)

/-! ## `CameraVideo` -/

/-- `CameraVideo::hasActiveVideo`. -/
def hasActiveVideo (b : AvatarBoard ι φ) (userId : Int64) : Bool := (b.lastFrames userId).isSome

/-- `CameraVideo::clearVideoForUser`. -/
def clearVideoForUser (b : AvatarBoard ι φ) (userId : Int64) : AvatarBoard ι φ :=
  ({ b with lastFrames := Function.update b.lastFrames userId none }.drawTile userId
    .blank).drawMain userId .blank

/-- `CameraVideo::showAvatarForUser`. -/
def showAvatarForUser (b : AvatarBoard ι φ) (userId : Int64) : AvatarBoard ι φ :=
  (b.clearVideoForUser userId).loadAndShowAvatar userId

/-- `CameraVideo::showMainAvatar`, with `showMainVideo`. -/
def showMainAvatar (b : AvatarBoard ι φ) : AvatarBoard ι φ :=
  if b.mainUserId ≤ 0 then b
  else
    match b.lastFrames b.mainUserId with
    | some frame => { b with mainPicture := .video frame }
    | none => b.loadAndShowAvatar b.mainUserId

/-- `CameraVideo::refreshMainForUser`. -/
def refreshMainForUser (b : AvatarBoard ι φ) (userId : Int64) : AvatarBoard ι φ :=
  let b := { b with mainUserId := userId }
  match b.lastFrames userId with
  | some frame => { b with mainPicture := .video frame }
  | none => b.showMainAvatar

/-- `CameraVideo::showVideoForUser`, of a valid frame. -/
def showVideoForUser (b : AvatarBoard ι φ) (userId : Int64) (frame : φ) : AvatarBoard ι φ :=
  ({ b with lastFrames := Function.update b.lastFrames userId (some frame) }.drawTile userId
    (.video frame)).drawMain userId (.video frame)

/-- `CameraVideo::displayAvatarImage`, of an image that is not null. -/
def displayAvatarImage (b : AvatarBoard ι φ) (userId : Int64) (avatar : ι) : AvatarBoard ι φ :=
  ({ b with lastFrames := Function.update b.lastFrames userId none }.drawTile userId
    (.avatar avatar)).drawMain userId (.avatar avatar)

/-- `CameraVideo::endVideo`. -/
def endVideo (b : AvatarBoard ι φ) : AvatarBoard ι φ :=
  { b with
    mainPicture := .blank
    tiles := fun userId => (b.tiles userId).map fun t => { t with picture := .blank }
    lastFrames := fun _ => none }

/-! ## `ParticipantsController` -/

/-- `ParticipantsController::add`: the tile asks for an image when it is made, and
`CameraVideo::addPartnerDisplay` for another one. -/
def add (b : AvatarBoard ι φ) (userId : Int64) : AvatarBoard ι φ :=
  match b.tiles userId with
  | some _ => b
  | none =>
    let tile := b.tileCount + 1
    (({ b with
        tileCount := tile
        partners := userId :: b.partners
        tiles := Function.update b.tiles userId (some ⟨tile, .blank⟩) }.updateProfile userId tile
      []).showAvatarForUser userId)

/-- `ParticipantsController::remove`, with `CameraVideo::removePartnerDisplay`. -/
def remove (b : AvatarBoard ι φ) (userId : Int64) : AvatarBoard ι φ :=
  match b.tiles userId with
  | none => b
  | some _ =>
    { b with
      partners := b.partners.erase userId
      tiles := Function.update b.tiles userId none
      lastFrames := Function.update b.lastFrames userId none
      avatarUrls := Function.update b.avatarUrls userId []
      avatarLoadGen := Function.update b.avatarLoadGen userId 0
      erasures := Function.update b.erasures userId (b.erasures userId + 1) }

/-- `ParticipantsController::clear`, with `CameraVideo::clearAllPartnerDisplays`. -/
def clear (b : AvatarBoard ι φ) : AvatarBoard ι φ :=
  if b.partners.isEmpty then b
  else
    { b with
      partners := []
      tiles := fun _ => none
      participantsMain := 0
      lastFrames := fun _ => none
      avatarUrls := fun _ => []
      avatarLoadGen := fun _ => 0
      erasures := fun userId => b.erasures userId + 1 }

/-- `MeetingWidget::end_meeting_session`: the videos end in `stop_meeting_media`, and
then the partners are cleared; nothing else calls either of the two. -/
def endMeetingSession (b : AvatarBoard ι φ) : AvatarBoard ι φ := b.endVideo.clear

/-- `ParticipantsController::apply_profile`, with `Partner::setProfile`. -/
def applyProfile (b : AvatarBoard ι φ) (userId : Int64) (avatarUrl : ByteString) :
    AvatarBoard ι φ :=
  let b := b.add userId
  let b :=
    match b.tiles userId with
    | some t => b.updateProfile userId t.tile avatarUrl
    | none => b
  let b := { b with avatarUrls := Function.update b.avatarUrls userId avatarUrl }
  let b := if b.hasActiveVideo userId then b else b.showAvatarForUser userId
  if userId = b.participantsMain ∧ b.hasActiveVideo userId = false then b.showMainAvatar else b

/-- `ParticipantsController::select_main`. -/
def selectMain (b : AvatarBoard ι φ) (userId : Int64) : AvatarBoard ι φ :=
  { b with participantsMain := userId }.refreshMainForUser userId

/-- `ParticipantsController::close_video`. -/
def closeVideo (b : AvatarBoard ι φ) (userId : Int64) : AvatarBoard ι φ :=
  match b.tiles userId with
  | some _ => b.showAvatarForUser userId
  | none => b

/-! ## The completions -/

/-- The callback of `CameraVideo::loadAndShowAvatar`. -/
def cameraLoaded (b : AvatarBoard ι φ) (userId : Int64) (generation : ℕ) (image : Option ι) :
    AvatarBoard ι φ :=
  if b.avatarLoadGen userId ≠ generation then b
  else if b.hasActiveVideo userId then b
  else
    match image with
    | some avatar => b.displayAvatarImage userId avatar
    | none => b

/-- The callback of `PartnerTile::loadAvatar`, while the tile is there, with
`showAvatarImage`. -/
def tileLoaded (b : AvatarBoard ι φ) (userId : Int64) (tile : ℕ) (image : Option ι) :
    AvatarBoard ι φ :=
  match b.tiles userId, image with
  | some t, some avatar => if t.tile = tile then b.drawTile userId (.avatar avatar) else b
  | _, _ => b

/-- The download is no longer under way. -/
def finish (b : AvatarBoard ι φ) (request : AvatarRequest) : AvatarBoard ι φ :=
  { b with loading := b.loading.erase request }

/-- A download is completed. -/
def loaded (b : AvatarBoard ι φ) (request : AvatarRequest) (image : Option ι) : AvatarBoard ι φ :=
  match request.loader with
  | .camera generation => (b.finish request).cameraLoaded request.userId generation image
  | .tile tile => (b.finish request).tileLoaded request.userId tile image

/-! ## The runs of the board -/

/-- What can happen. -/
inductive Event (ι φ : Type) where
  | add (userId : Int64)
  | remove (userId : Int64)
  | applyProfile (userId : Int64) (avatarUrl : ByteString)
  | selectMain (userId : Int64)
  | closeVideo (userId : Int64)
  | showVideoForUser (userId : Int64) (frame : φ)
  | showAvatarForUser (userId : Int64)
  | setMainUserId (userId : Int64)
  | showMainAvatar
  | endMeetingSession
  /-- a download is completed, with an image or with none -/
  | loaded (request : AvatarRequest) (image : Option ι)

/-- What an event does, where it can happen. -/
def next (b : AvatarBoard ι φ) : Event ι φ → Option (AvatarBoard ι φ)
  | .add userId => some (b.add userId)
  | .remove userId => some (b.remove userId)
  | .applyProfile userId avatarUrl => some (b.applyProfile userId avatarUrl)
  | .selectMain userId => some (b.selectMain userId)
  | .closeVideo userId => some (b.closeVideo userId)
  | .showVideoForUser userId frame => some (b.showVideoForUser userId frame)
  | .showAvatarForUser userId => some (b.showAvatarForUser userId)
  | .setMainUserId userId => some { b with mainUserId := userId }
  | .showMainAvatar => some b.showMainAvatar
  | .endMeetingSession => some b.endMeetingSession
  | .loaded request image =>
    if request ∈ b.loading then some (b.loaded request image) else none

/-- The runs of the board. -/
def system (ι φ : Type) : System (AvatarBoard ι φ) (Event ι φ) where
  Init b := b = fresh
  Step b e b' := b.next e = some b'

/-! ## The property and its condition -/

/-- What is shown for a user, in its tile and in the main picture. -/
def shown (b : AvatarBoard ι φ) (userId : Int64) : Option (Picture ι φ) × Option (Picture ι φ) :=
  ((b.tiles userId).map MemberTile.picture,
    if userId = b.mainUserId then some b.mainPicture else none)

/-- A download changes what is shown for its user only, and for it only if it is the
last one asked for and there is no video. -/
def Faithful (b : AvatarBoard ι φ) (e : Event ι φ) (b' : AvatarBoard ι φ) : Prop :=
  ∀ request image, e = .loaded request image → ∀ userId, b'.shown userId ≠ b.shown userId →
    userId = request.userId ∧ b.lastRequest userId = request.number ∧ b.lastFrames userId = none

/-- The image is in the tile of the user, where there is one, and in the main picture,
where it shows the user. -/
def AlreadyShown (b : AvatarBoard ι φ) (userId : Int64) (avatar : ι) : Prop :=
  (∀ t, b.tiles userId = some t → t.picture = .avatar avatar) ∧
    (userId = b.mainUserId → b.mainPicture = .avatar avatar)

/-- When the download of a tile does no harm. The tile looks at nothing, and it never
is the last one to ask while there is no video: so it has to be gone, or to show the
image already. -/
def tileKeeps (b : AvatarBoard ι φ) (request : AvatarRequest) (tile : ℕ) (avatar : ι) : Prop :=
  ∀ t, b.tiles request.userId = some t → t.tile = tile → t.picture = .avatar avatar

/-- When the download of `CameraVideo` does no harm: the callback discards it, or it
changes nothing, or the generations of the user have not been erased since. -/
def cameraKeeps (b : AvatarBoard ι φ) (request : AvatarRequest) (generation : ℕ) (avatar : ι) :
    Prop :=
  b.avatarLoadGen request.userId = generation → b.lastFrames request.userId = none →
    b.AlreadyShown request.userId avatar ∨ request.erasures = b.erasures request.userId

/-- The condition under which a download does no harm. -/
def keeps (b : AvatarBoard ι φ) : Event ι φ → Prop
  | .loaded request (some avatar) =>
    match request.loader with
    | .tile tile => b.tileKeeps request tile avatar
    | .camera generation => b.cameraKeeps request generation avatar
  | _ => True

/-! ## What is known of the requests under way -/

/-- A request of `CameraVideo` with a generation. While the generations of its user
have not been erased it is not later than the current one; where they have been, the
current generation is that of a later request. -/
structure CameraRequest (b : AvatarBoard ι φ) (request : AvatarRequest) (generation : ℕ) :
    Prop where
  pos : 0 < generation
  erased : request.erasures ≤ b.erasures request.userId
  bound : request.erasures = b.erasures request.userId →
    generation ≤ b.avatarLoadGen request.userId
  overtaken : request.erasures < b.erasures request.userId →
    0 < b.avatarLoadGen request.userId → request.number < b.lastRequest request.userId

/-- The numbers, the generations and the tiles in use are consistent. -/
structure Numbered (b : AvatarBoard ι φ) : Prop where
  number : ∀ request ∈ b.loading, request.number ≤ b.requests
  last : ∀ userId, b.lastRequest userId ≤ b.requests
  camera : ∀ request ∈ b.loading, ∀ generation, request.loader = .camera generation →
    b.CameraRequest request generation
  tile : ∀ request ∈ b.loading, ∀ tile, request.loader = .tile tile → tile ≤ b.tileCount
  seated : ∀ userId t, b.tiles userId = some t → userId ∈ b.partners ∧ t.tile ≤ b.tileCount

/-- A request of `CameraVideo` with the current generation of the user is the last one,
and the request of a tile is not; with a video either may be otherwise. -/
structure Settled (b : AvatarBoard ι φ) (userId : Int64) : Prop where
  camera : ∀ request ∈ b.loading, request.userId = userId →
    request.loader = .camera (b.avatarLoadGen userId) → request.erasures = b.erasures userId →
      b.lastRequest userId = request.number ∨
        (b.tiles userId).isSome = true ∧ (b.lastFrames userId).isSome = true
  tile : ∀ request ∈ b.loading, request.userId = userId → ∀ t, b.tiles userId = some t →
    request.loader = .tile t.tile →
      request.number < b.lastRequest userId ∨ (b.lastFrames userId).isSome = true

/-- What holds of a board in every run. -/
structure Consistent (b : AvatarBoard ι φ) : Prop where
  numbered : b.Numbered
  settled : ∀ userId, b.Settled userId

theorem consistent_fresh : (fresh : AvatarBoard ι φ).Consistent := by
  constructor
  · exact ⟨nofun, fun _ => le_refl _, nofun, nofun, nofun⟩
  · intro userId
    exact ⟨nofun, nofun⟩

variable {b b' : AvatarBoard ι φ} {userId : Int64}

/-! ## One request more -/

/-- A new request has the last number there is. -/
theorem Numbered.number_load (hb : b.Numbered) (userId : Int64) (url : ByteString)
    (loader : AvatarLoader) : ∀ request ∈ (b.load userId url loader).loading,
      request.number ≤ (b.load userId url loader).requests := by
  intro request hmem
  rcases List.mem_cons.mp hmem with rfl | hmem
  · exact le_refl _
  · exact Nat.le_succ_of_le (hb.number request hmem)

theorem Numbered.last_load (hb : b.Numbered) (userId : Int64) (url : ByteString)
    (loader : AvatarLoader) (other : Int64) :
    b.lastRequest other ≤ (b.load userId url loader).lastRequest other ∧
      (b.load userId url loader).lastRequest other ≤ b.requests + 1 := by
  have := hb.last other
  rcases eq_or_ne other userId with rfl | hne
  · simp only [load, Function.update_self]
    omega
  · simp only [load, Function.update_of_ne hne]
    omega

/-- A request of a tile overtakes all others of its user. -/
theorem Numbered.updateProfile (hb : b.Numbered) {tile : ℕ} (htile : tile ≤ b.tileCount)
    (avatarUrl : ByteString) : (b.updateProfile userId tile avatarUrl).Numbered := by
  have hlast := hb.last_load userId avatarUrl (.tile tile)
  refine ⟨hb.number_load userId _ _, fun other => (hlast other).2, ?_, ?_, hb.seated⟩
  · intro request hmem generation hloader
    rcases List.mem_cons.mp hmem with rfl | hmem
    · cases hloader
    · have hr := hb.camera request hmem generation hloader
      exact ⟨hr.pos, hr.erased, hr.bound, fun herased hpos =>
        (hr.overtaken herased hpos).trans_le (hlast request.userId).1⟩
  · intro request hmem other hloader
    rcases List.mem_cons.mp hmem with rfl | hmem
    · cases hloader
      exact htile
    · exact hb.tile request hmem other hloader

/-- A request of `CameraVideo` takes the current generation from all others. -/
theorem Numbered.loadAndShowAvatar (hb : b.Numbered) (userId : Int64) :
    (b.loadAndShowAvatar userId).Numbered := by
  have hlast := hb.last_load userId (b.avatarUrls userId)
    (.camera (b.avatarLoadGen userId + 1))
  refine ⟨hb.number_load userId _ _, fun other => (hlast other).2, ?_, ?_, hb.seated⟩
  · intro request hmem generation hloader
    rcases List.mem_cons.mp hmem with rfl | hmem
    · cases hloader
      refine ⟨Nat.succ_pos _, le_refl _, ?_, ?_⟩
      · intro _
        simp only [AvatarBoard.loadAndShowAvatar, load, Function.update_self, le_refl]
      · intro herased
        exact absurd herased (lt_irrefl _)
    · have hr := hb.camera request hmem generation hloader
      have hnumber := hb.number request hmem
      rcases eq_or_ne request.userId userId with huser | hne
      · refine ⟨hr.pos, hr.erased, ?_, ?_⟩ <;>
          simp only [AvatarBoard.loadAndShowAvatar, load, huser, Function.update_self]
        · intro herased
          have hle := hr.bound (huser ▸ herased)
          rw [huser] at hle
          omega
        · intro _ _
          omega
      · refine ⟨hr.pos, hr.erased, ?_, ?_⟩ <;>
          simp only [AvatarBoard.loadAndShowAvatar, load, Function.update_of_ne hne]
        exacts [hr.bound, hr.overtaken]
  · intro request hmem tile hloader
    rcases List.mem_cons.mp hmem with rfl | hmem
    · cases hloader
    · exact hb.tile request hmem tile hloader

/-- What is known of one user does not change with what is asked for another one. -/
theorem Settled.load_of_ne {other : Int64} (hb : b.Settled other) (hne : other ≠ userId)
    (url : ByteString) (loader : AvatarLoader) : (b.load userId url loader).Settled other := by
  have hold : ∀ request ∈ (b.load userId url loader).loading, request.userId = other →
      request ∈ b.loading := by
    intro request hmem huser
    rcases List.mem_cons.mp hmem with rfl | hmem
    · exact absurd huser.symm hne
    · exact hmem
  constructor <;> simp only [load, Function.update_of_ne hne]
  · intro request hmem huser
    exact hb.camera request (hold request hmem huser) huser
  · intro request hmem huser
    exact hb.tile request (hold request hmem huser) huser

/-- While there is a video, a tile may ask. -/
theorem settled_updateProfile (htile : (b.tiles userId).isSome = true)
    (hvideo : (b.lastFrames userId).isSome = true) (tile : ℕ) (avatarUrl : ByteString) :
    (b.updateProfile userId tile avatarUrl).Settled userId := by
  constructor
  · intro _ _ _ _ _
    exact Or.inr ⟨htile, hvideo⟩
  · intro _ _ _ _ _ _
    exact Or.inr hvideo

/-- Once `CameraVideo` has asked, everything before is overtaken. -/
theorem Numbered.settled_loadAndShowAvatar (hb : b.Numbered) (userId : Int64) :
    (b.loadAndShowAvatar userId).Settled userId := by
  constructor <;> simp only [AvatarBoard.loadAndShowAvatar, load, Function.update_self]
  · intro request hmem huser hloader herased
    left
    rcases List.mem_cons.mp hmem with rfl | hmem
    · rfl
    · have hle := (hb.camera request hmem _ hloader).bound (huser ▸ herased)
      rw [huser] at hle
      omega
  · intro request hmem _ t _ hloader
    left
    rcases List.mem_cons.mp hmem with rfl | hmem
    · cases hloader
    · exact Nat.lt_succ_of_le (hb.number request hmem)

theorem Consistent.loadAndShowAvatar (hb : b.Consistent) (userId : Int64) :
    (b.loadAndShowAvatar userId).Consistent := by
  refine ⟨hb.numbered.loadAndShowAvatar userId, ?_⟩
  intro other
  rcases eq_or_ne other userId with rfl | hne
  · exact hb.numbered.settled_loadAndShowAvatar other
  · have hother : AvatarBoard.Settled { b with
        avatarLoadGen := Function.update b.avatarLoadGen userId (b.avatarLoadGen userId + 1) }
        other := by
      constructor <;> simp only [Function.update_of_ne hne]
      exacts [(hb.settled other).camera, (hb.settled other).tile]
    exact hother.load_of_ne hne _ _

/-! ## What does not matter -/

/-- The pictures, the frames, the addresses and the main users. -/
structure Same (b b' : AvatarBoard ι φ) : Prop where
  loading : ∀ request ∈ b'.loading, request ∈ b.loading
  requests : b'.requests = b.requests
  lastRequest : b'.lastRequest = b.lastRequest
  erasures : b'.erasures = b.erasures
  avatarLoadGen : b'.avatarLoadGen = b.avatarLoadGen
  tileCount : b'.tileCount = b.tileCount
  partners : b'.partners = b.partners
  tiles : ∀ userId, (b'.tiles userId).map MemberTile.tile = (b.tiles userId).map MemberTile.tile

theorem Same.tile_of (h : b.Same b') {t : MemberTile ι φ} (ht : b'.tiles userId = some t) :
    ∃ t', b.tiles userId = some t' ∧ t'.tile = t.tile := by
  have hmap := h.tiles userId
  rw [ht, Option.map_some] at hmap
  exact Option.map_eq_some_iff.mp hmap.symm

theorem Same.isSome (h : b.Same b') (userId : Int64) :
    (b'.tiles userId).isSome = (b.tiles userId).isSome := by
  have hmap := congrArg Option.isSome (h.tiles userId)
  rwa [Option.isSome_map, Option.isSome_map] at hmap

theorem Numbered.of_same (hb : b.Numbered) (h : b.Same b') : b'.Numbered := by
  constructor
  · rw [h.requests]
    intro request hmem
    exact hb.number request (h.loading request hmem)
  · rw [h.lastRequest, h.requests]
    exact hb.last
  · intro request hmem generation hloader
    have hr := hb.camera request (h.loading request hmem) generation hloader
    refine ⟨hr.pos, ?_, ?_, ?_⟩ <;> simp only [h.lastRequest, h.erasures, h.avatarLoadGen]
    exacts [hr.erased, hr.bound, hr.overtaken]
  · rw [h.tileCount]
    intro request hmem
    exact hb.tile request (h.loading request hmem)
  · rw [h.tileCount, h.partners]
    intro userId t ht
    rcases h.tile_of ht with ⟨t', ht', htile⟩
    have hseated := hb.seated userId t' ht'
    rwa [htile] at hseated

theorem Settled.of_same (hb : b.Settled userId) (h : b.Same b')
    (hvideo : (b.lastFrames userId).isSome = true → (b'.lastFrames userId).isSome = true) :
    b'.Settled userId := by
  constructor
  · rw [h.lastRequest, h.erasures, h.avatarLoadGen, h.isSome userId]
    intro request hmem huser hloader herased
    rcases hb.camera request (h.loading request hmem) huser hloader herased with hlast | hshown
    · exact Or.inl hlast
    · exact Or.inr ⟨hshown.1, hvideo hshown.2⟩
  · rw [h.lastRequest]
    intro request hmem huser t ht hloader
    rcases h.tile_of ht with ⟨t', ht', htile⟩
    rw [← htile] at hloader
    rcases hb.tile request (h.loading request hmem) huser t' ht' hloader with hlater | hshown
    · exact Or.inl hlater
    · exact Or.inr (hvideo hshown)

theorem Consistent.of_same (hb : b.Consistent) (h : b.Same b')
    (hvideo : ∀ userId, (b.lastFrames userId).isSome = true →
      (b'.lastFrames userId).isSome = true) : b'.Consistent :=
  ⟨hb.numbered.of_same h, fun userId => (hb.settled userId).of_same h (hvideo userId)⟩

theorem map_tile_update {tiles : Int64 → Option (MemberTile ι φ)} (userId other : Int64)
    (picture : Picture ι φ) :
    (Function.update tiles userId ((tiles userId).map fun t => { t with picture }) other).map
      MemberTile.tile = (tiles other).map MemberTile.tile := by
  rcases eq_or_ne other userId with rfl | hne
  · rw [Function.update_self, Option.map_map]
    rfl
  · rw [Function.update_of_ne hne]

theorem same_drawTile (userId : Int64) (picture : Picture ι φ) :
    b.Same (b.drawTile userId picture) :=
  ⟨fun _ => id, rfl, rfl, rfl, rfl, rfl, rfl, fun other => map_tile_update userId other picture⟩

theorem same_clearVideoForUser (userId : Int64) : b.Same (b.clearVideoForUser userId) :=
  ⟨fun _ => id, rfl, rfl, rfl, rfl, rfl, rfl, fun other => map_tile_update userId other .blank⟩

/-! ## Every event -/

/-- The video goes, and `CameraVideo` asks at once. What was known of the user before
does not matter. -/
theorem consistent_showAvatarForUser (hb : b.Numbered) (userId : Int64)
    (hother : ∀ other, other ≠ userId → b.Settled other) :
    (b.showAvatarForUser userId).Consistent := by
  have hcleared := hb.of_same (same_clearVideoForUser userId)
  refine ⟨hcleared.loadAndShowAvatar userId, ?_⟩
  intro other
  rcases eq_or_ne other userId with rfl | hne
  · exact hcleared.settled_loadAndShowAvatar other
  · have hsettled : (b.clearVideoForUser userId).Settled other := by
      refine (hother other hne).of_same (same_clearVideoForUser userId) ?_
      intro hvideo
      show (Function.update b.lastFrames userId none other).isSome = true
      rwa [Function.update_of_ne hne]
    have hgen : AvatarBoard.Settled { b.clearVideoForUser userId with
        avatarLoadGen := Function.update b.avatarLoadGen userId (b.avatarLoadGen userId + 1) }
        other := by
      constructor <;> simp only [Function.update_of_ne hne]
      exacts [hsettled.camera, hsettled.tile]
    exact hgen.load_of_ne hne _ _

theorem Consistent.showAvatarForUser (hb : b.Consistent) (userId : Int64) :
    (b.showAvatarForUser userId).Consistent :=
  consistent_showAvatarForUser hb.numbered userId fun other _ => hb.settled other

theorem Consistent.showMainAvatar (hb : b.Consistent) : b.showMainAvatar.Consistent := by
  unfold AvatarBoard.showMainAvatar
  split_ifs
  · exact hb
  · split
    · exact hb.of_same ⟨fun _ => id, rfl, rfl, rfl, rfl, rfl, rfl, fun _ => rfl⟩ fun _ => id
    · exact hb.loadAndShowAvatar b.mainUserId

theorem Consistent.refreshMainForUser (hb : b.Consistent) (userId : Int64) :
    (b.refreshMainForUser userId).Consistent := by
  have hmain : ({ b with mainUserId := userId } : AvatarBoard ι φ).Consistent :=
    hb.of_same ⟨fun _ => id, rfl, rfl, rfl, rfl, rfl, rfl, fun _ => rfl⟩ fun _ => id
  unfold AvatarBoard.refreshMainForUser
  dsimp only
  split
  · exact hb.of_same ⟨fun _ => id, rfl, rfl, rfl, rfl, rfl, rfl, fun _ => rfl⟩ fun _ => id
  · exact hmain.showMainAvatar

/-- A new tile: its own request is overtaken by that of `CameraVideo`. -/
theorem Consistent.add (hb : b.Consistent) (userId : Int64) :
    (b.add userId).Consistent ∧ ((b.add userId).tiles userId).isSome = true := by
  unfold AvatarBoard.add
  cases htile : b.tiles userId with
  | some t => exact ⟨hb, by rw [htile]; rfl⟩
  | none =>
    let made : AvatarBoard ι φ :=
      { b with
        tileCount := b.tileCount + 1
        partners := userId :: b.partners
        tiles := Function.update b.tiles userId (some ⟨b.tileCount + 1, .blank⟩) }
    have hmade : made.Numbered := by
      refine ⟨hb.numbered.number, hb.numbered.last, ?_, ?_, ?_⟩
      · intro request hmem generation hloader
        have hr := hb.numbered.camera request hmem generation hloader
        exact ⟨hr.pos, hr.erased, hr.bound, hr.overtaken⟩
      · intro request hmem tile hloader
        exact Nat.le_succ_of_le (hb.numbered.tile request hmem tile hloader)
      · intro other t ht
        rcases eq_or_ne other userId with rfl | hne
        · rw [show made.tiles other = some ⟨b.tileCount + 1, .blank⟩ from
            Function.update_self ..] at ht
          cases ht
          exact ⟨List.mem_cons_self, le_refl _⟩
        · rw [show made.tiles other = b.tiles other from Function.update_of_ne hne ..] at ht
          have hseated := hb.numbered.seated other t ht
          exact ⟨List.mem_cons_of_mem _ hseated.1, Nat.le_succ_of_le hseated.2⟩
    refine ⟨consistent_showAvatarForUser (hmade.updateProfile (le_refl _) _) userId ?_, ?_⟩
    · intro other hne
      have hsettled : made.Settled other := by
        have htiles : made.tiles other = b.tiles other := Function.update_of_ne hne ..
        constructor <;> rw [htiles]
        exacts [(hb.settled other).camera, (hb.settled other).tile]
      exact hsettled.load_of_ne hne _ _
    · show (((made.updateProfile userId (b.tileCount + 1) []).clearVideoForUser userId).tiles
        userId).isSome = true
      rw [(same_clearVideoForUser userId).isSome]
      show (Function.update b.tiles userId (some ⟨b.tileCount + 1, .blank⟩) userId).isSome = true
      rw [Function.update_self]
      rfl

/-- Erased generations begin with none, so that a request from before meets a
generation in use only after a later request. -/
theorem CameraRequest.erase {request : AvatarRequest} {generation : ℕ}
    (hr : b.CameraRequest request generation)
    (herasures : b'.erasures request.userId = b.erasures request.userId + 1)
    (hgen : b'.avatarLoadGen request.userId = 0) : b'.CameraRequest request generation := by
  have herased := hr.erased
  refine ⟨hr.pos, ?_, ?_, ?_⟩ <;> rw [herasures]
  · omega
  · omega
  · rw [hgen]
    intro _ hpos
    omega

/-- Of a user whose generations have just been erased, and who has no tile, there is
nothing to know. -/
theorem Numbered.settled_erased (hb : b.Numbered) (hloading : b'.loading = b.loading)
    (herasures : b'.erasures userId = b.erasures userId + 1) (htile : b'.tiles userId = none) :
    b'.Settled userId := by
  constructor
  · rw [hloading, herasures]
    intro request hmem huser hloader herased
    have hle := (hb.camera request hmem _ hloader).erased
    rw [huser] at hle
    omega
  · rw [htile]
    intro _ _ _ t ht
    cases ht

theorem Consistent.remove (hb : b.Consistent) (userId : Int64) :
    (b.remove userId).Consistent := by
  unfold AvatarBoard.remove
  split
  · exact hb
  · refine ⟨⟨hb.numbered.number, hb.numbered.last, ?_, hb.numbered.tile, ?_⟩, ?_⟩
    · intro request hmem generation hloader
      have hr := hb.numbered.camera request hmem generation hloader
      rcases eq_or_ne request.userId userId with huser | hne
      · refine hr.erase ?_ ?_ <;> rw [huser] <;> exact Function.update_self ..
      · refine ⟨hr.pos, ?_, ?_, ?_⟩ <;> simp only [Function.update_of_ne hne]
        exacts [hr.erased, hr.bound, hr.overtaken]
    · intro other t ht
      rcases eq_or_ne other userId with rfl | hne
      · cases (Function.update_self ..).symm.trans ht
      · have hseated := hb.numbered.seated other t ((Function.update_of_ne hne ..).symm.trans ht)
        exact ⟨(List.mem_erase_of_ne hne).mpr hseated.1, hseated.2⟩
    · intro other
      rcases eq_or_ne other userId with rfl | hne
      · exact hb.numbered.settled_erased rfl (Function.update_self ..) (Function.update_self ..)
      · constructor <;> simp only [Function.update_of_ne hne]
        exacts [(hb.settled other).camera, (hb.settled other).tile]

/-- The end of a session. Without partners nothing is erased; but then there is no
tile either, and no video matters. -/
theorem Consistent.endMeetingSession (hb : b.Consistent) : b.endMeetingSession.Consistent := by
  have hended : b.Same b.endVideo := by
    refine ⟨fun _ => id, rfl, rfl, rfl, rfl, rfl, rfl, ?_⟩
    intro userId
    show ((b.tiles userId).map _).map _ = _
    rw [Option.map_map]
    rfl
  have hnumbered := hb.numbered.of_same hended
  unfold AvatarBoard.endMeetingSession clear
  split_ifs with hnone
  · have hpartners : b.partners = [] := List.isEmpty_iff.mp hnone
    have hseat : ∀ userId, b.tiles userId = none := by
      intro userId
      rw [Option.eq_none_iff_forall_ne_some]
      intro t ht
      have hmem := (hb.numbered.seated userId t ht).1
      rw [hpartners] at hmem
      cases hmem
    refine ⟨hnumbered, ?_⟩
    intro userId
    constructor
    · intro request hmem huser hloader herased
      rcases (hb.settled userId).camera request hmem huser hloader herased with hlast | hshown
      · exact Or.inl hlast
      · rw [hseat userId] at hshown
        cases hshown.1
    · intro _ _ _ t ht
      rcases hended.tile_of ht with ⟨t', ht', _⟩
      rw [hseat userId] at ht'
      cases ht'
  · refine ⟨⟨hb.numbered.number, hb.numbered.last, ?_, hb.numbered.tile, nofun⟩, ?_⟩
    · intro request hmem generation hloader
      exact (hb.numbered.camera request hmem generation hloader).erase rfl rfl
    · intro userId
      exact hb.numbered.settled_erased rfl rfl rfl

/-- The profile of a user. Its tile asks, and without a video `CameraVideo` asks after
it. -/
theorem Consistent.applyProfile (hb : b.Consistent) (userId : Int64) (avatarUrl : ByteString) :
    (b.applyProfile userId avatarUrl).Consistent := by
  rcases hb.add userId with ⟨hadded, hseat⟩
  rcases Option.isSome_iff_exists.mp hseat with ⟨t, ht⟩
  let asked := (b.add userId).updateProfile userId t.tile avatarUrl
  let named : AvatarBoard ι φ :=
    { asked with avatarUrls := Function.update asked.avatarUrls userId avatarUrl }
  have hasked : asked.Numbered :=
    hadded.numbered.updateProfile (hadded.numbered.seated userId t ht).2 avatarUrl
  have hsame : asked.Same named := ⟨fun _ => id, rfl, rfl, rfl, rfl, rfl, rfl, fun _ => rfl⟩
  have hother : ∀ other, other ≠ userId → named.Settled other := fun other hne =>
    ((hadded.settled other).load_of_ne hne _ _).of_same hsame id
  have hshown : (if named.hasActiveVideo userId then named
      else named.showAvatarForUser userId).Consistent := by
    split_ifs with hvideo
    · refine ⟨hasked.of_same hsame, ?_⟩
      intro other
      rcases eq_or_ne other userId with rfl | hne
      · exact (settled_updateProfile hseat hvideo t.tile avatarUrl).of_same hsame id
      · exact hother other hne
    · exact consistent_showAvatarForUser (hasked.of_same hsame) userId hother
  unfold AvatarBoard.applyProfile
  dsimp only
  rw [ht]
  split_ifs at hshown ⊢
  exacts [hshown.showMainAvatar, hshown, hshown.showMainAvatar, hshown]

/-- A completion asks for nothing, and ends no video. -/
theorem Consistent.loaded (hb : b.Consistent) (request : AvatarRequest) (image : Option ι) :
    (b.loaded request image).Consistent := by
  have hfinish : (b.finish request).Consistent :=
    hb.of_same ⟨fun _ => List.mem_of_mem_erase, rfl, rfl, rfl, rfl, rfl, rfl, fun _ => rfl⟩
      fun _ => id
  unfold AvatarBoard.loaded cameraLoaded tileLoaded
  split
  · split_ifs with _ hvideo
    · exact hfinish
    · exact hfinish
    · split
      · refine hfinish.of_same ⟨fun _ => id, rfl, rfl, rfl, rfl, rfl, rfl,
          fun other => map_tile_update _ other _⟩ ?_
        intro other hother
        show (Function.update (b.finish request).lastFrames request.userId none other).isSome = true
        rcases eq_or_ne other request.userId with rfl | hne
        · exact absurd hother hvideo
        · rwa [Function.update_of_ne hne]
      · exact hfinish
  · split
    · split_ifs
      · exact hfinish.of_same (same_drawTile _ _) fun _ => id
      · exact hfinish
    · exact hfinish

theorem Consistent.step {e : Event ι φ} (hb : b.Consistent) (hstep : (system ι φ).Step b e b') :
    b'.Consistent := by
  cases e <;> unfold system next at hstep <;> simp only [Option.some.injEq] at hstep
  case loaded request image =>
    split_ifs at hstep with hmem
    rcases Option.some.inj hstep with rfl
    exact hb.loaded request image
  all_goals subst hstep
  case add userId => exact (hb.add userId).1
  case remove userId => exact hb.remove userId
  case applyProfile userId avatarUrl => exact hb.applyProfile userId avatarUrl
  case selectMain userId =>
    apply Consistent.refreshMainForUser
    exact hb.of_same ⟨fun _ => id, rfl, rfl, rfl, rfl, rfl, rfl, fun _ => rfl⟩ fun _ => id
  case closeVideo userId =>
    unfold closeVideo
    split
    · exact hb.showAvatarForUser userId
    · exact hb
  case showVideoForUser userId frame =>
    refine hb.of_same ⟨fun _ => id, rfl, rfl, rfl, rfl, rfl, rfl,
      fun other => map_tile_update userId other _⟩ ?_
    intro other hother
    show (Function.update b.lastFrames userId (some frame) other).isSome = true
    rcases eq_or_ne other userId with rfl | hne
    · rw [Function.update_self]
      rfl
    · rwa [Function.update_of_ne hne]
  case showAvatarForUser userId => exact hb.showAvatarForUser userId
  case setMainUserId userId =>
    exact hb.of_same ⟨fun _ => id, rfl, rfl, rfl, rfl, rfl, rfl, fun _ => rfl⟩ fun _ => id
  case showMainAvatar => exact hb.showMainAvatar
  case endMeetingSession => exact hb.endMeetingSession

theorem consistent_of_reachable (hreach : Reachable (system ι φ) b) : b.Consistent := by
  refine hreach.invariant ?_ ?_
  · rintro b rfl
    exact consistent_fresh
  · intro b e b' _ hb hstep
    exact hb.step hstep

/-! ## What the completions change -/

theorem shown_drawTile_of_ne {other : Int64} (hne : other ≠ userId) (picture : Picture ι φ) :
    (b.drawTile userId picture).shown other = b.shown other := by
  unfold drawTile shown
  simp only [Function.update_of_ne hne]

theorem shown_drawTile_iff (b : AvatarBoard ι φ) (userId : Int64) (picture : Picture ι φ) :
    (b.drawTile userId picture).shown userId = b.shown userId ↔
      ∀ t, b.tiles userId = some t → t.picture = picture := by
  unfold drawTile shown
  simp only [Function.update_self]
  cases htile : b.tiles userId with
  | none => simp
  | some t =>
    simp only [Option.map_some, Prod.mk.injEq, Option.some.injEq, and_true, forall_eq']
    exact eq_comm

theorem shown_displayAvatarImage_of_ne {other : Int64} (hne : other ≠ userId) (avatar : ι) :
    (b.displayAvatarImage userId avatar).shown other = b.shown other := by
  unfold displayAvatarImage drawMain drawTile shown
  simp only [Function.update_of_ne hne]
  split_ifs with hother huser
  · exact absurd (hother.trans huser.symm) hne
  · rfl
  · rfl

theorem shown_displayAvatarImage_iff (b : AvatarBoard ι φ) (userId : Int64) (avatar : ι) :
    (b.displayAvatarImage userId avatar).shown userId = b.shown userId ↔
      b.AlreadyShown userId avatar := by
  unfold AlreadyShown
  rw [← shown_drawTile_iff]
  unfold displayAvatarImage drawMain drawTile shown
  rw [Prod.mk.injEq, Prod.mk.injEq]
  refine and_congr (iff_of_eq (by simp only [and_true])) ?_
  split_ifs with hmain
  · simp only [Option.some.injEq, hmain, true_implies]
    exact eq_comm
  · simp only [hmain, false_implies]

/-- A step that is no completion is faithful, and so is one that changes nothing. -/
theorem Faithful.of_shown {e : Event ι φ} (hshown : ∀ userId, b'.shown userId = b.shown userId) :
    b.Faithful e b' := by
  intro request image _ userId hchanged
  exact absurd (hshown userId) hchanged

/-- Where only what is shown for the user of the request may change, a completion is
faithful if that does not change or the request is the last one and there is no video. -/
theorem faithful_loaded_iff {request : AvatarRequest} {image : Option ι}
    (hother : ∀ other, other ≠ request.userId → b'.shown other = b.shown other) :
    b.Faithful (.loaded request image) b' ↔
      b'.shown request.userId = b.shown request.userId ∨
        b.lastRequest request.userId = request.number ∧ b.lastFrames request.userId = none := by
  constructor
  · intro hfaithful
    by_cases hchanged : b'.shown request.userId = b.shown request.userId
    · exact Or.inl hchanged
    · exact Or.inr (hfaithful request image rfl request.userId hchanged).2
  · rintro hsame request' image' heq userId hchanged
    cases heq
    have huser : userId = request.userId := by
      by_contra hne
      exact hchanged (hother userId hne)
    subst huser
    rcases hsame with hsame | hlast
    · exact absurd hsame hchanged
    · exact ⟨rfl, hlast⟩

/-- The tile draws whatever it gets, and its request is not the last one where there
is no video. -/
theorem faithful_tileLoaded_iff {request : AvatarRequest} {tile : ℕ} {avatar : ι}
    (hb : b.Settled request.userId) (hmem : request ∈ b.loading)
    (hloader : request.loader = .tile tile) :
    b.Faithful (.loaded request (some avatar))
        ((b.finish request).tileLoaded request.userId tile (some avatar)) ↔
      b.tileKeeps request tile avatar := by
  unfold tileLoaded tileKeeps
  rw [show (b.finish request).tiles = b.tiles from rfl]
  cases htile : b.tiles request.userId with
  | none =>
    simp only [reduceCtorEq, false_implies, implies_true, iff_true]
    exact Faithful.of_shown fun _ => rfl
  | some t =>
    dsimp only
    split_ifs with hsame
    · have hshown := shown_drawTile_iff (b.finish request) request.userId (.avatar avatar)
      have hother : ∀ other, other ≠ request.userId →
          ((b.finish request).drawTile request.userId (.avatar avatar)).shown other =
            b.shown other :=
        fun other hne => shown_drawTile_of_ne hne (.avatar avatar)
      rw [faithful_loaded_iff hother]
      have hnot : ¬(b.lastRequest request.userId = request.number ∧
          b.lastFrames request.userId = none) := by
        rintro ⟨hlast, hnone⟩
        rcases hb.tile request hmem rfl t htile (hsame ▸ hloader) with hlater | hvideo
        · omega
        · rw [hnone] at hvideo
          cases hvideo
      constructor
      · rintro (hpicture | hlast) t' ht' _
        · exact hshown.mp hpicture t' (htile.trans ht')
        · exact absurd hlast hnot
      · intro hkeeps
        left
        refine hshown.mpr ?_
        intro t' ht'
        rcases Option.some.inj (htile.symm.trans ht') with rfl
        exact hkeeps t rfl hsame
    · constructor
      · intro _ t' ht' htile'
        exact absurd (Option.some.inj ht' ▸ htile') hsame
      · intro _
        exact Faithful.of_shown fun _ => rfl

/-- Without a video, a request of `CameraVideo` whose generation is in use is the last
one if and only if the generations have not been erased since. -/
theorem Consistent.last_iff {request : AvatarRequest} (hb : b.Consistent)
    (hmem : request ∈ b.loading)
    (hloader : request.loader = .camera (b.avatarLoadGen request.userId))
    (hnone : b.lastFrames request.userId = none) :
    b.lastRequest request.userId = request.number ↔
      request.erasures = b.erasures request.userId := by
  have hr := hb.numbered.camera request hmem _ hloader
  have hpos := hr.pos
  have herased := hr.erased
  constructor
  · intro hlast
    -- the generation in use after an erasure is that of a later request
    by_contra hsince
    have hovertaken := hr.overtaken (by omega) hpos
    omega
  · intro hsince
    rcases (hb.settled _).camera request hmem rfl hloader hsince with hlast | hvideo
    · exact hlast
    · rw [hnone] at hvideo
      cases hvideo.2

/-- `CameraVideo` draws only with the generation in use, and where there is no video. -/
theorem faithful_cameraLoaded_iff {request : AvatarRequest} {generation : ℕ} {avatar : ι}
    (hb : b.Consistent) (hmem : request ∈ b.loading)
    (hloader : request.loader = .camera generation) :
    b.Faithful (.loaded request (some avatar))
        ((b.finish request).cameraLoaded request.userId generation (some avatar)) ↔
      b.cameraKeeps request generation avatar := by
  unfold cameraLoaded cameraKeeps hasActiveVideo
  rw [show (b.finish request).avatarLoadGen = b.avatarLoadGen from rfl,
    show (b.finish request).lastFrames = b.lastFrames from rfl]
  by_cases hgen : b.avatarLoadGen request.userId = generation
  · rw [if_neg (not_not.mpr hgen)]
    cases hvideo : b.lastFrames request.userId with
    | some frame =>
      rw [if_pos (by rfl)]
      simp only [reduceCtorEq, false_implies, implies_true, iff_true]
      exact Faithful.of_shown fun _ => rfl
    | none =>
      have hother : ∀ other, other ≠ request.userId →
          ((b.finish request).displayAvatarImage request.userId avatar).shown other =
            b.shown other := fun other hne => shown_displayAvatarImage_of_ne hne avatar
      rw [if_neg (by simp)]
      dsimp only
      rw [faithful_loaded_iff hother]
      have hshown := shown_displayAvatarImage_iff (b.finish request) request.userId avatar
      have hlast := hb.last_iff hmem (hgen ▸ hloader) hvideo
      simp only [hgen, true_implies, hvideo, and_true]
      exact or_congr hshown hlast
  · rw [if_pos hgen]
    constructor
    · intro _ hgen'
      exact absurd hgen' hgen
    · intro _
      exact Faithful.of_shown fun _ => rfl

/-- A step changes what is shown only for the user of the last request, and only
without a video, if and only if it meets the condition. -/
theorem Consistent.faithful_iff {e : Event ι φ} (hb : b.Consistent)
    (hstep : (system ι φ).Step b e b') : b.Faithful e b' ↔ b.keeps e := by
  unfold system next at hstep
  cases e
  case loaded request image =>
    dsimp only at hstep
    split_ifs at hstep with hmem
    rcases Option.some.inj hstep with rfl
    unfold AvatarBoard.loaded
    cases image with
    | none =>
      simp only [keeps, iff_true]
      refine Faithful.of_shown ?_
      intro userId
      unfold cameraLoaded tileLoaded
      split
      · split_ifs <;> rfl
      · split
        · contradiction
        · rfl
    | some avatar =>
      cases hloader : request.loader with
      | camera generation =>
        simp only [keeps, hloader]
        exact faithful_cameraLoaded_iff hb hmem hloader
      | tile tile =>
        simp only [keeps, hloader]
        exact faithful_tileLoaded_iff (hb.settled _) hmem hloader
  all_goals
    simp only [keeps, iff_true]
    intro request image heq
    cases heq

end AvatarBoard

open AvatarBoard

/-- In every state that can be reached, a completion changes what is shown only for
the user of the last request, and only without a video, if and only if it meets the
condition; so it is in a whole run if and only if all its steps meet the condition. -/
theorem avatar_replies {ι φ : Type} (b : AvatarBoard ι φ) :
    (Reachable (AvatarBoard.system ι φ) b → ∀ e b', (AvatarBoard.system ι φ).Step b e b' →
        (Faithful b e b' ↔ b.keeps e)) ∧
      ∀ es, Run ((AvatarBoard.system ι φ).filter Faithful) .fresh es b ↔
        Run ((AvatarBoard.system ι φ).restrict keeps) .fresh es b := by
  constructor
  · intro hreach e b' hstep
    exact (consistent_of_reachable hreach).faithful_iff hstep
  · intro es
    refine run_filter_iff (J := Consistent) ?_ ?_ consistent_fresh
    · intro b e b' hb hstep
      exact hb.step hstep
    · intro b e b' hb hstep
      exact hb.faithful_iff hstep

namespace AvatarBoard

theorem step_loaded {ι φ : Type} {b : AvatarBoard ι φ} {request : AvatarRequest}
    (hmem : request ∈ b.loading) (image : Option ι) :
    (system ι φ).Step b (.loaded request image) (b.loaded request image) := by
  unfold system next
  exact if_pos hmem

/-- A board where user 7 has a tile. -/
def seated : AvatarBoard ℕ ℕ := fresh.add 7

/-- The request that `CameraVideo` made for the tile. -/
def seatedRequest : AvatarRequest where
  userId := 7
  url := []
  loader := .camera 1
  number := 2
  erasures := 0

theorem seated_reachable : Reachable (system ℕ ℕ) seated :=
  .step (e := .add 7) (.init rfl) rfl

/-- The profile of user 7 comes while its video is shown. -/
def speaking : AvatarBoard ℕ ℕ := (seated.showVideoForUser 7 30).applyProfile 7 (ascii "/7.png")

/-- The request that the tile made for the profile. -/
def speakingRequest : AvatarRequest where
  userId := 7
  url := ascii "/7.png"
  loader := .tile 1
  number := 3
  erasures := 0

theorem speaking_reachable : Reachable (system ℕ ℕ) speaking :=
  .step (e := .applyProfile 7 (ascii "/7.png"))
    (.step (e := .showVideoForUser 7 30) seated_reachable rfl) rfl

end AvatarBoard

/-- The last request for user 7 is completed, and its image is shown. -/
theorem avatar_replies_of_seated :
    (seated.loaded seatedRequest (some 1)).shown 7 = (some (.avatar 1), none) ∧
      Faithful seated (.loaded seatedRequest (some 1)) (seated.loaded seatedRequest (some 1)) := by
  have hmem : seatedRequest ∈ seated.loading := List.mem_cons_self ..
  have hstep := step_loaded hmem (some 1)
  refine ⟨rfl, ((avatar_replies _).1 seated_reachable _ _ hstep).mpr ?_⟩
  intro _ _
  exact Or.inr rfl

/-- The image of a profile replaces the video. -/
theorem avatar_over_video :
    ¬∀ b e b', Reachable (AvatarBoard.system ℕ ℕ) b → (AvatarBoard.system ℕ ℕ).Step b e b' →
      Faithful b e b' := by
  intro hall
  have hmem : speakingRequest ∈ speaking.loading := List.mem_cons_self ..
  have hstep := step_loaded hmem (some 1)
  have hbefore : speaking.shown 7 = (some (.video 30), none) := rfl
  have hafter : (speaking.loaded speakingRequest (some 1)).shown 7 = (some (.avatar 1), none) := rfl
  have hfaithful := hall _ _ _ speaking_reachable hstep speakingRequest (some 1) rfl 7
  rw [hbefore, hafter] at hfaithful
  have hvideo : speaking.lastFrames 7 = some 30 := rfl
  rw [(hfaithful (by simp)).2.2] at hvideo
  cases hvideo

end CCMeeting
