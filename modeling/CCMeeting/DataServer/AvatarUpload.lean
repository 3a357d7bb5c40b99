import CCMeeting.DataServer.Accounts
import Mathlib.Logic.Function.Basic

/-! # Uploaded avatars

`AuthService::upload_avatar` with the file it writes. Opening the file is checked;
how much of the image gets into it is not, so a call may succeed with a file that
is cut off.
-/

namespace CCMeeting

open ByteString Transition

/-! ## The program -/

/-- The contents of the files, by their paths. -/
abbrev Files := Path → Option ByteString

/-- What `upload_avatar` meets, with how many bytes are in the file after `write` and
`close`. -/
structure FileOutcomes extends UploadOutcomes where
  written : ℕ

/-- `resolve_upload_root`. -/
def resolveUploadRoot (assets : AssetsConfig) (executableDir : Except FilesystemError Path) :
    Except FilesystemError Path :=
  let root := Path.parse assets.uploadRoot
  if root.absolute then pure root else executableDir.map fun dir => dir.append root

/-- The name of a new avatar. -/
def avatarFileName (random : Option ByteString) (mime : ByteString) : ByteString :=
  randomHex random ++ extensionForMime mime

/-- `upload_root / "avatars" / user_id / file_name`. -/
def avatarPath (uploadRoot : Path) (userId : UInt64) (fileName : ByteString) : Path :=
  ((uploadRoot.append (Path.parse (ascii "avatars"))).append
    (Path.parse (JsonText.decimal userId.toNat))).append (Path.parse fileName)

section Service

variable (crypto : Crypto) (assets : AssetsConfig)

/-- `AuthService::upload_avatar`, with the files. -/
def storeAvatar (d : Database) (files : Files) (o : FileOutcomes) (userId : UInt64)
    (mime dataBase64 : ByteString) : AvatarUploadResult × Database × Files :=
  if userId = 0 then ({ code := 400, message := ascii "user_id is required" }, d, files)
  else if extensionForMime mime = [] then
    ({ code := 400, message := ascii "unsupported mime type" }, d, files)
  else if !d.userExists o.exists_ userId then
    ({ code := 404, message := ascii "user not found" }, d, files)
  else
    match crypto.base64Decode dataBase64 with
    | none => ({ code := 400, message := ascii "invalid base64 data" }, d, files)
    | some decoded =>
      if assets.maxAvatarBytes < decoded.length then
        ({ code := 413, message := ascii "avatar too large" }, d, files)
      else
        match resolveUploadRoot assets o.executableDir with
        | .error _ => ({ code := 500, message := ascii "internal server error" }, d, files)
        | .ok root =>
          match o.createDirectories with
          | .error _ => ({ code := 500, message := ascii "internal server error" }, d, files)
          | .ok () =>
            let fileName := avatarFileName o.random mime
            if !o.opened then
              ({ code := 500, message := ascii "failed to save avatar" }, d, files)
            else
              -- neither `write` nor `close` is checked
              let files := Function.update files (avatarPath root userId fileName)
                (some (decoded.take o.written))
              let avatarUrl := assets.joinPublicUrl
                (ascii "/uploads/avatars/" ++ JsonText.decimal userId.toNat ++ ascii "/" ++ fileName)
              match d.updateAvatarUrl o.update userId avatarUrl with
              | (false, d) =>
                ({ code := 500, message := ascii "failed to update profile" }, d, files)
              | (true, d) => ({ success := true, message := ascii "ok", avatarUrl }, d, files)

/-- The directory and the file, in the order of the calls. -/
theorem saveAvatar_eq (o : UploadOutcomes) :
    saveAvatar assets o =
      match resolveUploadRoot assets o.executableDir with
      | .error e => .error e
      | .ok _ =>
        match o.createDirectories with
        | .error e => .error e
        | .ok () => .ok o.opened := by
  unfold saveAvatar resolveUploadRoot
  dsimp only
  split_ifs
  · rcases o.createDirectories with e | _ <;> rfl
  · rcases o.executableDir with e | dir
    · rfl
    · rcases o.createDirectories with e | _ <;> rfl

/-- But for the files, the call is the one that knows nothing of them. -/
theorem storeAvatar_eq (d : Database) (files : Files) (o : FileOutcomes) (userId : UInt64)
    (mime dataBase64 : ByteString) :
    ((storeAvatar crypto assets d files o userId mime dataBase64).1,
      (storeAvatar crypto assets d files o userId mime dataBase64).2.1) =
      uploadAvatar crypto assets d o.toUploadOutcomes userId mime dataBase64 := by
  unfold storeAvatar uploadAvatar
  rw [saveAvatar_eq]
  by_cases hzero : userId = 0
  · rw [if_pos hzero, if_pos hzero]
  rw [if_neg hzero, if_neg hzero]
  by_cases hmime : extensionForMime mime = []
  · rw [if_pos hmime, if_pos hmime]
  rw [if_neg hmime, if_neg hmime]
  cases d.userExists o.exists_ userId with
  | false => rfl
  | true =>
    rw [Bool.not_true, if_neg Bool.false_ne_true, if_neg Bool.false_ne_true]
    rcases crypto.base64Decode dataBase64 with _ | decoded
    · rfl
    dsimp only
    by_cases hlarge : assets.maxAvatarBytes < decoded.length
    · rw [if_pos hlarge, if_pos hlarge]
    rw [if_neg hlarge, if_neg hlarge]
    rcases resolveUploadRoot assets o.executableDir with e | root
    · rfl
    rcases o.createDirectories with e | _
    · rfl
    dsimp only
    cases o.opened with
    | false => rfl
    | true =>
      -- the file is written, and then the row
      rw [Bool.not_true, if_neg Bool.false_ne_true]
      unfold avatarFileName
      generalize assets.joinPublicUrl _ = avatarUrl
      rcases d.updateAvatarUrl o.update userId avatarUrl with ⟨_ | _, d'⟩ <;> rfl

/-- `avatar_url` of a user. -/
def Database.avatarUrl (d : Database) (userId : UInt64) : Option ByteString :=
  (d.profileColumns userId.toNat).1

/-! ## The property and its condition -/

/-- The file below the upload root has the decoded bytes, and the URL that is returned
is that of the file, and the one that is stored. -/
structure Published (r : AvatarUploadResult × Database × Files) (o : FileOutcomes)
    (userId : UInt64) (mime dataBase64 : ByteString) (root : Path) (decoded : ByteString) :
    Prop where
  resolved : resolveUploadRoot assets o.executableDir = .ok root
  decodes : crypto.base64Decode dataBase64 = some decoded
  file : r.2.2 (avatarPath root userId (avatarFileName o.random mime)) = some decoded
  url : r.1.avatarUrl = uploadedAvatarUrl assets o.random userId mime
  stored : r.2.1.avatarUrl userId = some r.1.avatarUrl

/-- Success is reported for what is published, and else the stored URL is as before. -/
def Atomic (d : Database) (files : Files) (o : FileOutcomes) (userId : UInt64)
    (mime dataBase64 : ByteString) : Prop :=
  let r := storeAvatar crypto assets d files o userId mime dataBase64
  (r.1.success = true ↔
    ∃ root decoded, Published crypto assets r o userId mime dataBase64 root decoded) ∧
  (r.1.success = false → r.2.1.avatarUrl userId = d.avatarUrl userId)

/-- The arguments pass the checks, and the steps whose ends are looked at succeed. -/
structure UploadAccepted (d : Database) (o : FileOutcomes) (userId : UInt64)
    (mime dataBase64 : ByteString) (root : Path) (decoded : ByteString) : Prop where
  user : userId ≠ 0
  image : extensionForMime mime ≠ []
  known : d.userExists o.exists_ userId = true
  decodes : crypto.base64Decode dataBase64 = some decoded
  size : decoded.length ≤ assets.maxAvatarBytes
  resolved : resolveUploadRoot assets o.executableDir = .ok root
  directories : o.createDirectories = .ok ()
  opens : o.opened = true
  updates : o.update = .done

end Service

/-! ## What a call does -/

namespace Database

variable {d : Database} {userId : UInt64}

/-- The new URL of a user there is, up to its first zero byte. -/
theorem Sound.updateAvatarUrl_done (hd : d.Sound) (huser : userId ≠ 0)
    (hknown : ∃ u ∈ d.committed.users, u.userId = userId.toNat) (avatarUrl : ByteString) :
    (d.updateAvatarUrl .done userId avatarUrl).1 = true ∧
      (d.updateAvatarUrl .done userId avatarUrl).2.avatarUrl userId = some (cStr avatarUrl) := by
  have hsound := hd.updateProfileRow .done userId
    (f := fun p => { p with avatarUrl := some (cStr avatarUrl) }) fun _ => rfl
  unfold updateAvatarUrl
  rcases updateProfileRow_cases hd .done userId
    (fun p => { p with avatarUrl := some (cStr avatarUrl) }) with ⟨_, _, heq⟩ | ⟨hnot, _⟩
  · rcases hknown with ⟨u, hu, hid⟩
    rcases hd.tables.exists_profile hu with ⟨p, hp, hpid⟩
    have hupdated : ({ p with avatarUrl := some (cStr avatarUrl) } : ProfileRow) ∈
        (d.committed.updateProfiles userId.toNat
          fun p => { p with avatarUrl := some (cStr avatarUrl) }).profiles := by
      refine List.mem_map.mpr ⟨p, hp, ?_⟩
      rw [if_pos (hpid.trans hid)]
    rw [heq] at hsound ⊢
    constructor
    · exact List.any_eq_true.mpr ⟨_, hupdated, decide_eq_true (hpid.trans hid)⟩
    · have hcolumns := hsound.profileColumns hupdated
      dsimp only at hcolumns
      rw [hpid.trans hid] at hcolumns
      exact congrArg Prod.fst hcolumns
  · exact absurd hnot (by simp [huser])

theorem Sound.updateAvatarUrl_of_failed (hd : d.Sound) {o : Outcome} (ho : o ≠ .done)
    (avatarUrl : ByteString) : d.updateAvatarUrl o userId avatarUrl = (false, d) := by
  unfold updateAvatarUrl
  rcases updateProfileRow_cases hd o userId
    (fun p => { p with avatarUrl := some (cStr avatarUrl) }) with ⟨hdone, _⟩ | ⟨_, heq⟩
  · exact absurd hdone ho
  · exact heq

end Database

section Service

variable {crypto : Crypto} {assets : AssetsConfig} {d : Database} {files : Files}
  {o : FileOutcomes} {userId : UInt64} {mime dataBase64 : ByteString}

variable (files) in
/-- Where the arguments pass the checks and the steps succeed, the file is written as
far as it goes, and the URL is stored. -/
theorem storeAvatar_of_accepted (hd : d.Sound) {root : Path} {decoded : ByteString}
    (h : UploadAccepted crypto assets d o userId mime dataBase64 root decoded) :
    let r := storeAvatar crypto assets d files o userId mime dataBase64
    r.1.success = true ∧ r.1.avatarUrl = uploadedAvatarUrl assets o.random userId mime ∧
      r.2.1.avatarUrl userId = some (cStr (uploadedAvatarUrl assets o.random userId mime)) ∧
      r.2.2 = Function.update files (avatarPath root userId (avatarFileName o.random mime))
        (some (decoded.take o.written)) := by
  have hknown : ∃ u ∈ d.committed.users, u.userId = userId.toNat := by
    have hexists := h.known
    unfold Database.userExists at hexists
    rw [hd.current, Bool.and_eq_true, List.any_eq_true] at hexists
    rcases hexists.2 with ⟨u, hu, hid⟩
    exact ⟨u, hu, of_decide_eq_true hid⟩
  have hupdate := hd.updateAvatarUrl_done h.user hknown
    (uploadedAvatarUrl assets o.random userId mime)
  unfold storeAvatar
  rw [if_neg h.user, if_neg h.image, h.known, h.decodes, h.resolved, h.directories, h.opens,
    h.updates]
  dsimp only
  rw [Bool.not_true, if_neg Bool.false_ne_true, if_neg (Nat.not_lt.mpr h.size),
    if_neg Bool.false_ne_true]
  unfold uploadedAvatarUrl at hupdate ⊢
  unfold avatarFileName
  generalize assets.joinPublicUrl _ = avatarUrl at hupdate ⊢
  rcases hrow : d.updateAvatarUrl .done userId avatarUrl with ⟨_ | _, d'⟩
  · rw [hrow] at hupdate
    exact absurd hupdate.1 Bool.false_ne_true
  · rw [hrow] at hupdate
    exact ⟨rfl, rfl, hupdate.2, rfl⟩

variable (files) in
/-- Otherwise nothing is stored. -/
theorem storeAvatar_of_not_accepted (hd : d.Sound)
    (h : ∀ root decoded, ¬UploadAccepted crypto assets d o userId mime dataBase64 root decoded) :
    let r := storeAvatar crypto assets d files o userId mime dataBase64
    r.1.success = false ∧ r.1.avatarUrl = [] ∧ r.2.1 = d := by
  unfold storeAvatar
  by_cases huser : userId = 0
  · rw [if_pos huser]
    exact ⟨rfl, rfl, rfl⟩
  rw [if_neg huser]
  by_cases himage : extensionForMime mime = []
  · rw [if_pos himage]
    exact ⟨rfl, rfl, rfl⟩
  rw [if_neg himage]
  cases hknown : d.userExists o.exists_ userId with
  | false => exact ⟨rfl, rfl, rfl⟩
  | true =>
    rw [Bool.not_true, if_neg Bool.false_ne_true]
    rcases hdecodes : crypto.base64Decode dataBase64 with _ | decoded
    · exact ⟨rfl, rfl, rfl⟩
    dsimp only
    by_cases hsize : assets.maxAvatarBytes < decoded.length
    · rw [if_pos hsize]
      exact ⟨rfl, rfl, rfl⟩
    rw [if_neg hsize]
    rcases hresolved : resolveUploadRoot assets o.executableDir with e | root
    · exact ⟨rfl, rfl, rfl⟩
    rcases hdirectories : o.createDirectories with e | _
    · exact ⟨rfl, rfl, rfl⟩
    cases hopens : o.opened with
    | false => exact ⟨rfl, rfl, rfl⟩
    | true =>
      -- all that is left to fail is the update
      have hfailed : o.update ≠ .done := by
        intro hdone
        exact h root decoded ⟨huser, himage, hknown, hdecodes, Nat.not_lt.mp hsize, hresolved,
          hdirectories, hopens, hdone⟩
      dsimp only
      rw [Bool.not_true, if_neg Bool.false_ne_true, hd.updateAvatarUrl_of_failed hfailed]
      exact ⟨rfl, rfl, rfl⟩

/-- The URL has a zero byte only where the base has one. -/
theorem zero_mem_uploadedAvatarUrl_iff (assets : AssetsConfig) (random : Option ByteString)
    (userId : UInt64) (mime : ByteString) :
    0 ∈ uploadedAvatarUrl assets random userId mime ↔
      0 ∈ AssetsConfig.withoutSlash assets.publicBaseUrl := by
  have hdecimal : 0 ∉ JsonText.decimal userId.toNat := by
    intro hzero
    exact absurd (JsonText.isDigit_of_mem_decimal 0 hzero) (by decide)
  have hrandom : 0 ∉ randomHex random := by
    unfold randomHex
    cases random with
    | none => decide
    | some bytes => exact plain_hex bytes
  have hextension : 0 ∉ extensionForMime mime := by
    unfold extensionForMime
    split_ifs <;> decide
  have huploads : 0 ∉ ascii "/uploads/avatars/" := by decide
  have hslash : 0 ∉ ascii "/" := by decide
  unfold uploadedAvatarUrl AssetsConfig.joinPublicUrl
  simp only [List.mem_append, hdecimal, hrandom, hextension, huploads, hslash, or_false]

theorem cStr_eq_self_iff {s : ByteString} : cStr s = s ↔ 0 ∉ s := by
  constructor
  · intro h
    rw [← h]
    exact plain_cStr s
  · exact cStr_of_plain

variable (files) in
/-- What is stored is published where all of the image is in the file, and the URL is
stored as it is. -/
theorem published_iff (hd : d.Sound) {root : Path} {decoded : ByteString}
    (h : UploadAccepted crypto assets d o userId mime dataBase64 root decoded) :
    (∃ root decoded, Published crypto assets
      (storeAvatar crypto assets d files o userId mime dataBase64) o userId mime dataBase64 root
        decoded) ↔
      decoded.length ≤ o.written ∧ 0 ∉ AssetsConfig.withoutSlash assets.publicBaseUrl := by
  rcases storeAvatar_of_accepted files hd h with ⟨_, hurl, hstored, hfiles⟩
  rw [← zero_mem_uploadedAvatarUrl_iff assets o.random userId mime, ← cStr_eq_self_iff]
  constructor
  · rintro ⟨root', decoded', hpublished⟩
    have hroot : root' = root := by
      rw [← Except.ok.injEq (ε := FilesystemError), ← hpublished.resolved, h.resolved]
    have hdecoded : decoded' = decoded := by
      rw [← Option.some.injEq, ← hpublished.decodes, h.decodes]
    rcases hroot with rfl
    rcases hdecoded with rfl
    constructor
    · have hfile := hpublished.file
      rw [hfiles, Function.update_self, Option.some.injEq] at hfile
      have hlength := congrArg List.length hfile
      rw [List.length_take] at hlength
      omega
    · have hcolumn := hpublished.stored
      rw [hstored, hurl, Option.some.injEq] at hcolumn
      exact hcolumn
  · rintro ⟨hwritten, hplain⟩
    refine ⟨root, decoded, h.resolved, h.decodes, ?_, hurl, ?_⟩
    · rw [hfiles, Function.update_self, List.take_of_length_le hwritten]
    · rw [hstored, hurl, hplain]

end Service

/-- An upload is atomic exactly where, if the checks pass and the other steps succeed,
all of the image gets into the file, and the base of the URLs has no zero byte. -/
theorem avatar_upload (crypto : Crypto) (assets : AssetsConfig) {d : Database}
    (hreach : Reachable sections d) (files : Files) (o : FileOutcomes) (userId : UInt64)
    (mime dataBase64 : ByteString) :
    Atomic crypto assets d files o userId mime dataBase64 ↔
      ∀ root decoded, UploadAccepted crypto assets d o userId mime dataBase64 root decoded →
        decoded.length ≤ o.written ∧ 0 ∉ AssetsConfig.withoutSlash assets.publicBaseUrl := by
  have hd := sections_sound hreach
  unfold Atomic
  dsimp only
  constructor
  · rintro ⟨hiff, _⟩ root decoded haccepted
    have hsuccess := (storeAvatar_of_accepted files hd haccepted).1
    exact (published_iff files hd haccepted).mp (hiff.mp hsuccess)
  · intro hwhole
    by_cases haccepted : ∃ root decoded,
        UploadAccepted crypto assets d o userId mime dataBase64 root decoded
    · rcases haccepted with ⟨root, decoded, haccepted⟩
      have hsuccess := (storeAvatar_of_accepted files hd haccepted).1
      have hpublished := (published_iff files hd haccepted).mpr
        (hwhole root decoded haccepted)
      constructor
      · exact iff_of_true hsuccess hpublished
      · rw [hsuccess]
        intro hfalse
        exact absurd hfalse.symm Bool.false_ne_true
    · have hrefused := storeAvatar_of_not_accepted files hd
        fun root decoded h => haccepted ⟨root, decoded, h⟩
      rcases hrefused with ⟨hsuccess, hurl, hsame⟩
      constructor
      · rw [hsuccess]
        refine iff_of_false Bool.false_ne_true ?_
        rintro ⟨root, decoded, hpublished⟩
        -- the URL of a file is never empty
        have hempty := hpublished.url
        rw [hurl] at hempty
        unfold uploadedAvatarUrl AssetsConfig.joinPublicUrl at hempty
        simp [ascii] at hempty
      · intro _
        rw [hsame]

/-- The database after the first registration. -/
def Database.firstUser : Database :=
  (Database.create.createRows ⟨.done, .done, .done, .done, .done⟩ (ascii "ann") (ascii "00")
    (ascii "/a.png")).2

theorem reachable_firstUser : Reachable sections .firstUser :=
  Reachable.step (e := .createRows ⟨.done, .done, .done, .done, .done⟩ (ascii "ann") (ascii "00")
    (ascii "/a.png")) (.init rfl) rfl

/-- An OpenSSL that knows one text. -/
def abcCrypto : Crypto where
  sha256 _ := []
  bioReadBase64 encoded := if encoded = ascii "QUJD" then some (ascii "ABC") else none

/-- An upload without failures, but for the number of bytes that are written. -/
def FileOutcomes.writing (written : ℕ) : FileOutcomes where
  exists_ := .done
  update := .done
  executableDir := .ok (Path.parse (ascii "/srv"))
  createDirectories := .ok ()
  opened := true
  random := some [0x2A]
  written := written

/-- The first user sends an image, and the disk has room for it. -/
theorem avatar_upload_of_room :
    Atomic abcCrypto {} .firstUser (fun _ => none) (.writing 3) 1 (ascii "image/png")
      (ascii "QUJD") := by
  apply (avatar_upload abcCrypto {} reachable_firstUser (fun _ => none) (.writing 3) 1
    (ascii "image/png") (ascii "QUJD")).mpr
  intro root decoded haccepted
  have hdecoded : abcCrypto.base64Decode (ascii "QUJD") = some (ascii "ABC") := by decide
  rw [haccepted.decodes] at hdecoded
  rcases Option.some.inj hdecoded with rfl
  decide

/-- The disk is full after two bytes. -/
theorem truncated_avatar_published :
    ¬∀ (crypto : Crypto) (assets : AssetsConfig) (d : Database), Reachable sections d →
      ∀ files o userId mime dataBase64,
        Atomic crypto assets d files o userId mime dataBase64 := by
  intro hall
  have hatomic := hall abcCrypto {} .firstUser reachable_firstUser (fun _ => none) (.writing 2) 1
    (ascii "image/png") (ascii "QUJD")
  have hsuccess : (storeAvatar abcCrypto {} .firstUser (fun _ => none) (.writing 2) 1
      (ascii "image/png") (ascii "QUJD")).1.success = true := by
    decide +kernel
  rcases hatomic.1.mp hsuccess with ⟨root, decoded, hpublished⟩
  have hroot : resolveUploadRoot {} (FileOutcomes.writing 2).executableDir =
      .ok ((Path.parse (ascii "/srv")).append (Path.parse (ascii "./uploads"))) := rfl
  have hdecoded : abcCrypto.base64Decode (ascii "QUJD") = some (ascii "ABC") := by decide
  rw [hpublished.resolved] at hroot
  rw [hpublished.decodes] at hdecoded
  rcases Except.ok.inj hroot with rfl
  rcases Option.some.inj hdecoded with rfl
  exact absurd hpublished.file (by decide +kernel)

end CCMeeting
