import CCMeeting.DataServer.AvatarUpload

/-! # Avatar URLs

The URLs of avatars are put together in three places: for the default avatar, for
an uploaded one, and in the client. What they lead to is decided by the static
files of the server. Where neither the base nor the path of the default avatar has
a slash, `default_avatar_url` does not put one in.
-/

namespace CCMeeting

open ByteString Transition

/-! ## The program -/

/-- `joinBaseUrlPath` of the client. -/
def joinBaseUrlPath (base path : ByteString) : ByteString :=
  if base = [] then path
  else if base.getLast? = some slash ∧ path.head? = some slash then base.dropLast ++ path
  else if base.getLast? ≠ some slash ∧ path.head? ≠ some slash then base ++ slash :: path
  else base ++ path

/-! ## What a file system is relied on for -/

/-- A directory may be resolved before a file is looked up in it, and a resolved path
leads to the same file. -/
structure FileSystem.Transparent (fs : FileSystem) : Prop where
  joins : ∀ {p q r file}, p.absolute = true → fs.weaklyCanonical p = .ok q → r.absolute = false →
    dotDot ∉ r.names → fs.weaklyCanonical (p.append r) = .ok file →
    fs.weaklyCanonical (q.append r) = .ok file
  found : ∀ {p q}, fs.weaklyCanonical p = .ok q → fs.fileExists p = .ok true →
    fs.fileExists q = .ok true
  regular : ∀ {p q}, fs.weaklyCanonical p = .ok q → fs.isRegularFile p = .ok true →
    fs.isRegularFile q = .ok true
  content : ∀ {p q body}, fs.weaklyCanonical p = .ok q → fs.content p = some body →
    fs.content q = some body

/-- A regular file with the contents, which lies below the directory. -/
structure FileSystem.Keeps (fs : FileSystem) (directory file : Path) (body : ByteString) :
    Prop where
  below : ∃ root resolved, fs.weaklyCanonical directory = .ok root ∧
    fs.weaklyCanonical file = .ok resolved ∧ root.IsAncestor resolved
  found : fs.fileExists file = .ok true
  regular : fs.isRegularFile file = .ok true
  content : fs.content file = some body

/-! ## The property and its condition -/

/-- The configurations of a deployment: a base with a slash at its end or without, and a
path below `static` with a slash before it or without. -/
structure AssetsConfig.Deployed (assets : AssetsConfig) (origin path : ByteString) : Prop where
  base : assets.publicBaseUrl = origin ∨ assets.publicBaseUrl = origin ++ [slash]
  origin_end : origin.getLast? ≠ some slash
  origin_plain : 0 ∉ origin
  default : assets.defaultAvatarPath = path ∨ assets.defaultAvatarPath = slash :: path
  path_begin : path.head? ≠ some slash
  path_plain : 0 ∉ path
  path_under : ascii "/static/" <+: normalizedTarget (slash :: path)

/-- Where below the static root the default avatar is. -/
def defaultAvatarFile (path : ByteString) : Path :=
  (Path.parse (slash :: path)).lexicallyNormal.below

/-- The URL is the base, one slash and a path for which the server returns what is kept. -/
def AssetsConfig.Leads (assets : AssetsConfig) (origin url : ByteString)
    (kept : FileSystem → ByteString → Prop) : Prop :=
  ∃ path, path.head? ≠ some slash ∧ url = origin ++ slash :: path ∧
    ∀ fs : FileSystem, fs.Resolves → fs.Transparent → ∀ body, kept fs body →
      ∃ response, tryServeStaticFile (fun _ => fs) (slash :: path) assets = .ok (some response) ∧
        response.body = body

/-- The stored URLs lead to the default avatar and to the bytes that were written, and
the client makes the same default URL. -/
structure AvatarUrlsResolve (crypto : Crypto) (assets : AssetsConfig) (origin path : ByteString) :
    Prop where
  registered : ∀ {d}, Reachable sections d → ∀ o username password,
    ∀ p ∈ (registerUser crypto assets d o username password).2.committed.profiles,
      p ∉ d.committed.profiles →
      ∃ url, p.avatarUrl = some url ∧ assets.Leads origin url fun fs body =>
        ∃ start, configuredRoot fs.executableDir assets.staticRoot = .ok start ∧
          fs.Keeps start (start.append (defaultAvatarFile path)) body
  uploaded : ∀ {d}, Reachable sections d → ∀ files o userId mime dataBase64,
    let r := storeAvatar crypto assets d files o userId mime dataBase64
    r.1.success = true →
      ∃ start url written, resolveUploadRoot assets o.executableDir = .ok start ∧
        r.2.1.avatarUrl userId = some url ∧
        r.2.2 = Function.update files (avatarPath start userId (avatarFileName o.random mime))
          (some written) ∧
        assets.Leads origin url fun fs body => fs.executableDir = o.executableDir ∧
          body = written ∧
          fs.Keeps start (avatarPath start userId (avatarFileName o.random mime)) body
  client : joinBaseUrlPath assets.publicBaseUrl assets.defaultAvatarPath = assets.defaultAvatarUrl

/-- What is kept below a configured directory is returned for the targets that lead to it. -/
theorem FileSystem.Keeps.served {fs : FileSystem} {assets : AssetsConfig}
    {target configured body : ByteString} {relative start : Path} (hfs : fs.Resolves)
    (htransparent : fs.Transparent) (htarget : target.head? = some slash)
    (hserved : servedFrom assets (normalizedTarget target) = some (configured, relative))
    (hstart : configuredRoot fs.executableDir configured = .ok start)
    (h : fs.Keeps start (start.append relative) body) :
    ∃ response, tryServeStaticFile (fun _ => fs) target assets = .ok (some response) ∧
      response.body = body := by
  rcases h.below with ⟨root, file, hroot, hfile, more, hmore, hnames⟩
  rcases servedFrom_relative htarget hserved with ⟨hrelative, hup⟩
  have habsolute := hfs.configuredRoot hstart
  have hresolve : resolveRoot (fun _ => fs) configured = .ok root := by
    rw [resolveRoot_eq]
    exact Fallible.bind_eq_ok_iff.mpr ⟨start, hstart, hroot⟩
  -- the server resolves the directory first, and looks the file up in what it comes to
  have hlocated : fs.Located assets target root file :=
    ⟨htarget, configured, relative, hserved, hresolve,
      htransparent.joins habsolute hroot hrelative hup hfile⟩
  rcases hlocated.resolved hfs with ⟨hrootAbsolute, hself, hfileAbsolute⟩
  have htext := Path.isPrefix_text_of_names hrootAbsolute hfileAbsolute hmore hnames
  have hread : readFileResponse (fun _ => fs) file (normalizedTarget target) =
      .ok (some ⟨mimeTypeForPath file, cacheControlForTarget (normalizedTarget target), body⟩) :=
    readFileResponse_eq_some_iff.mpr ⟨htransparent.found hfile h.found,
      htransparent.regular hfile h.regular, body, htransparent.content hfile h.content, rfl⟩
  exact ⟨_, tryServeStaticFile_eq_some_iff.mpr
    ⟨root, file, root, hlocated, hself, htext, hread⟩, rfl⟩

/-! ## Targets of plain names -/

/-- The target is normal as it is. -/
theorem normalizedTarget_tail {names : List ByteString} (h : ∀ n ∈ names, IsFileName n)
    (hplain : Path.Plain names) (hne : names ≠ []) :
    normalizedTarget (Path.tail names) = Path.tail names := by
  unfold normalizedTarget
  rw [Path.lexicallyNormal_parse_tail h hplain hne]
  have hnames : (Path.ofNames true names h).names ≠ [] := hne
  rw [Path.text_of_absolute rfl hnames]
  exact List.append_nil _

/-- A path of plain names below `static` is looked up under these names. -/
theorem path_of_names {names : List ByteString} (h : ∀ n ∈ names, IsFileName n)
    (hplain : Path.Plain names) (hne : names ≠ []) :
    ascii "/static/" <+: normalizedTarget (slash :: (ascii "static" ++ Path.tail names)) ∧
      defaultAvatarFile (ascii "static" ++ Path.tail names) = Path.ofNames false names h := by
  have hall : ∀ n ∈ ascii "static" :: names, IsFileName n :=
    List.forall_mem_cons.mpr ⟨by decide, h⟩
  have hallPlain : Path.Plain (ascii "static" :: names) :=
    List.forall_mem_cons.mpr ⟨by decide, hplain⟩
  constructor
  · rw [← Path.tail_cons, normalizedTarget_tail hall hallPlain (List.cons_ne_nil _ _)]
    rcases List.exists_cons_of_ne_nil hne with ⟨n, rest, rfl⟩
    rw [Path.tail_cons, Path.tail_cons]
    exact ⟨_, rfl⟩
  · unfold defaultAvatarFile
    rw [← Path.tail_cons, Path.lexicallyNormal_parse_tail hall hallPlain (List.cons_ne_nil _ _)]
    rfl

/-! ## The uploaded file -/

theorem hexDigit_ne_slash_all : ∀ n : Fin 16, JsonText.hexDigit n ≠ slash := by decide +kernel

/-- A number is the name of a directory. -/
theorem isFileName_decimal (n : ℕ) : IsFileName (JsonText.decimal n) := by
  constructor
  · rcases JsonText.decimal_head n with ⟨b, rest, h, _⟩
    rw [h]
    exact List.cons_ne_nil b rest
  · intro h
    exact absurd (JsonText.isDigit_of_mem_decimal slash h) (by decide)

/-- The name of an avatar is that of a file in the directory. -/
theorem isFileName_avatarFileName {mime : ByteString} (himage : extensionForMime mime ≠ [])
    (random : Option ByteString) : IsFileName (avatarFileName random mime) ∧
      4 ≤ (avatarFileName random mime).length := by
  have hextension : slash ∉ extensionForMime mime ∧ 4 ≤ (extensionForMime mime).length := by
    unfold extensionForMime at himage ⊢
    split_ifs at himage ⊢
    · decide
    · decide
    · decide
    · exact absurd rfl himage
  have hrandom : slash ∉ randomHex random := by
    unfold randomHex
    cases random with
    | none => decide
    | some bytes =>
      intro h
      rcases mem_hex h with ⟨n, hn⟩
      exact hexDigit_ne_slash_all n hn.symm
  unfold avatarFileName
  refine ⟨⟨?_, ?_⟩, ?_⟩
  · intro h
    exact himage (List.append_eq_nil_iff.mp h).2
  · rw [List.mem_append]
    rintro (h | h)
    · exact hrandom h
    · exact hextension.1 h
  · rw [List.length_append]
    omega

/-- The names in the target of an avatar. -/
def uploadedNames (userId : UInt64) (fileName : ByteString) : List ByteString :=
  [ascii "uploads", ascii "avatars", JsonText.decimal userId.toNat, fileName]

section Uploaded

variable {userId : UInt64} {fileName : ByteString}

theorem tail_uploadedNames (userId : UInt64) (fileName : ByteString) :
    Path.tail (uploadedNames userId fileName) =
      ascii "/uploads/avatars/" ++ JsonText.decimal userId.toNat ++ ascii "/" ++ fileName := by
  simp [uploadedNames, ascii, slash]

theorem isFileName_uploadedNames (hname : IsFileName fileName) :
    ∀ n ∈ uploadedNames userId fileName, IsFileName n := by
  intro n hn
  simp only [uploadedNames, List.mem_cons, List.not_mem_nil, or_false] at hn
  rcases hn with rfl | rfl | rfl | rfl
  · decide
  · decide
  · exact isFileName_decimal _
  · exact hname

theorem plain_uploadedNames (hlength : 4 ≤ fileName.length) :
    Path.Plain (uploadedNames userId fileName) := by
  have hdecimal : (46 : UInt8) ∉ JsonText.decimal userId.toNat := by
    intro h
    exact absurd (JsonText.isDigit_of_mem_decimal 46 h) (by decide)
  intro n hn
  simp only [uploadedNames, List.mem_cons, List.not_mem_nil, or_false] at hn
  rcases hn with rfl | rfl | rfl | rfl
  · decide
  · decide
  · constructor
    · intro h
      exact hdecimal (by rw [h]; decide)
    · intro h
      exact hdecimal (by rw [h]; decide)
  · constructor
    · rintro rfl
      exact absurd hlength (by decide)
    · rintro rfl
      exact absurd hlength (by decide)

/-- The server looks up below the upload root what the upload has written there. -/
theorem avatarPath_eq (start : Path) (hname : IsFileName fileName)
    (hlength : 4 ≤ fileName.length) : avatarPath start userId fileName =
      start.append
        (Path.parse (Path.tail (uploadedNames userId fileName))).lexicallyNormal.below := by
  have havatars : ∀ n ∈ [ascii "avatars"], IsFileName n :=
    List.forall_mem_singleton.mpr (by decide)
  have hdecimal : ∀ n ∈ [JsonText.decimal userId.toNat], IsFileName n :=
    List.forall_mem_singleton.mpr (isFileName_decimal _)
  have hfile : ∀ n ∈ [fileName], IsFileName n := List.forall_mem_singleton.mpr hname
  rw [Path.lexicallyNormal_parse_tail (isFileName_uploadedNames hname)
    (plain_uploadedNames hlength) (List.cons_ne_nil _ _)]
  unfold avatarPath
  rw [Path.parse_name havatars, Path.parse_name hdecimal, Path.parse_name hfile,
    Path.append_append_ofNames start havatars hdecimal (List.cons_ne_nil _ _),
    Path.append_append_ofNames start _ hfile (List.cons_ne_nil _ _)]
  rfl

end Uploaded

/-! ## The URLs -/

section Urls

variable {crypto : Crypto} {assets : AssetsConfig} {origin path : ByteString}

theorem AssetsConfig.Deployed.withoutSlash_base (h : assets.Deployed origin path) :
    AssetsConfig.withoutSlash assets.publicBaseUrl = origin := by
  unfold AssetsConfig.withoutSlash
  rcases h.base with hbase | hbase
  · rw [hbase, if_neg h.origin_end]
  · rw [hbase, if_pos (List.getLast?_concat ..), List.dropLast_concat]

/-- A base that ends in a slash is the origin and the slash. -/
theorem AssetsConfig.Deployed.base_of_slash (h : assets.Deployed origin path)
    (hslash : assets.publicBaseUrl.getLast? = some slash) :
    assets.publicBaseUrl = origin ++ [slash] := by
  rcases h.base with hbase | hbase
  · rw [hbase] at hslash
    exact absurd hslash h.origin_end
  · exact hbase

/-- With a slash on either side there is one between the two. -/
theorem AssetsConfig.Deployed.defaultAvatarUrl_eq (h : assets.Deployed origin path)
    (hslash : assets.defaultAvatarPath.head? = some slash ∨
      assets.publicBaseUrl.getLast? = some slash) :
    assets.defaultAvatarUrl = origin ++ slash :: path := by
  unfold AssetsConfig.defaultAvatarUrl
  rcases h.default with hpath | hpath
  · have hbegin : assets.defaultAvatarPath.head? ≠ some slash := by
      rw [hpath]
      exact h.path_begin
    rw [if_neg hbegin, h.base_of_slash (hslash.resolve_left hbegin), hpath, List.append_assoc]
    rfl
  · rw [hpath, if_pos List.head?_cons, h.withoutSlash_base]

/-- Without one there is none. -/
theorem AssetsConfig.Deployed.defaultAvatarUrl_of_neither (h : assets.Deployed origin path)
    (hbegin : assets.defaultAvatarPath.head? ≠ some slash)
    (hend : assets.publicBaseUrl.getLast? ≠ some slash) :
    cStr assets.defaultAvatarUrl = origin ++ path := by
  have hbase : assets.publicBaseUrl = origin := by
    refine h.base.resolve_right ?_
    intro hbase
    exact hend (by rw [hbase]; exact List.getLast?_concat ..)
  have hpath : assets.defaultAvatarPath = path := by
    refine h.default.resolve_right ?_
    intro hpath
    exact hbegin (by rw [hpath]; rfl)
  have hplain : 0 ∉ origin ++ path := by
    simp [h.origin_plain, h.path_plain]
  unfold AssetsConfig.defaultAvatarUrl
  rw [if_neg hbegin, hbase, hpath, cStr_of_plain hplain]

/-- In the client there is one too, with a slash on either side. -/
theorem AssetsConfig.Deployed.joinBaseUrlPath_eq (h : assets.Deployed origin path)
    (hslash : assets.defaultAvatarPath.head? = some slash ∨
      assets.publicBaseUrl.getLast? = some slash) :
    joinBaseUrlPath assets.publicBaseUrl assets.defaultAvatarPath = origin ++ slash :: path := by
  unfold joinBaseUrlPath
  rcases h.default with hpath | hpath
  · have hbegin : assets.defaultAvatarPath.head? ≠ some slash := by
      rw [hpath]
      exact h.path_begin
    have hend := hslash.resolve_left hbegin
    have hne : assets.publicBaseUrl ≠ [] := by
      intro hnil
      rw [hnil] at hend
      cases hend
    rw [if_neg hne, if_neg fun hboth => hbegin hboth.2, if_neg fun hneither => hneither.1 hend,
      h.base_of_slash hend, hpath, List.append_assoc]
    rfl
  · rcases h.base with hbase | hbase
    · rw [hbase, hpath]
      by_cases hnil : origin = []
      · rw [if_pos hnil, hnil]
        rfl
      · rw [if_neg hnil, if_neg fun hboth => h.origin_end hboth.1,
          if_neg fun hneither => hneither.2 rfl]
    · have hne : origin ++ [slash] ≠ [] := by
        simp
      rw [hbase, hpath, if_neg hne, if_pos ⟨List.getLast?_concat .., rfl⟩, List.dropLast_concat]

/-- The URL of the default avatar leads to its file. -/
theorem AssetsConfig.Deployed.leads_default (h : assets.Deployed origin path) :
    assets.Leads origin (origin ++ slash :: path) fun fs body =>
      ∃ start, configuredRoot fs.executableDir assets.staticRoot = .ok start ∧
        fs.Keeps start (start.append (defaultAvatarFile path)) body := by
  refine ⟨path, h.path_begin, rfl, ?_⟩
  rintro fs hfs htransparent body ⟨start, hstart, hkeeps⟩
  exact hkeeps.served hfs htransparent rfl (servedFrom_static rfl h.path_under) hstart

/-- The URL of an uploaded avatar leads to the file that was written. -/
theorem leads_uploaded {executableDir : Except FilesystemError Path} {start : Path}
    (hstart : resolveUploadRoot assets executableDir = .ok start) (origin : ByteString)
    (userId : UInt64) {fileName : ByteString} (hname : IsFileName fileName)
    (hlength : 4 ≤ fileName.length) (written : ByteString) :
    assets.Leads origin (origin ++ Path.tail (uploadedNames userId fileName)) fun fs body =>
      fs.executableDir = executableDir ∧ body = written ∧
        fs.Keeps start (avatarPath start userId fileName) body := by
  have hnormal : normalizedTarget (Path.tail (uploadedNames userId fileName)) =
      Path.tail (uploadedNames userId fileName) :=
    normalizedTarget_tail (isFileName_uploadedNames hname) (plain_uploadedNames hlength)
      (List.cons_ne_nil _ _)
  have hbegins : ascii "/uploads/" <+:
      normalizedTarget (Path.tail (uploadedNames userId fileName)) := by
    rw [hnormal, tail_uploadedNames]
    exact ⟨_, rfl⟩
  refine ⟨ascii "uploads" ++ Path.tail [ascii "avatars", JsonText.decimal userId.toNat, fileName],
    ?_, rfl, ?_⟩
  · simp [ascii, slash]
  · rintro fs hfs htransparent body ⟨hdir, _, hkeeps⟩
    rw [avatarPath_eq start hname hlength] at hkeeps
    rw [← hdir] at hstart
    exact hkeeps.served hfs htransparent rfl (servedFrom_uploads rfl hbegins) hstart

/-- A profile that a registration adds has the URL of the default avatar. -/
theorem avatarUrl_of_registered {d : Database} (hd : d.Sound) {o : RegisterOutcomes}
    {username password : ByteString} {p : ProfileRow}
    (hp : p ∈ (registerUser crypto assets d o username password).2.committed.profiles)
    (hnew : p ∉ d.committed.profiles) : p.avatarUrl = some (cStr assets.defaultAvatarUrl) := by
  rcases registerUser_section crypto assets d o username password with hsame | hwrite
  · rw [hsame] at hp
    exact absurd hp hnew
  · rw [hwrite] at hp
    have hcreated := createRows_created hd o.create username (crypto.sha256Hex password)
      assets.defaultAvatarUrl
    generalize d.createRows o.create username (crypto.sha256Hex password)
      assets.defaultAvatarUrl = result at hp hcreated
    cases hcreated with
    | rows _ _ =>
      rcases List.mem_append.mp hp with hp | hp
      · exact absurd hp hnew
      · rw [List.mem_singleton.mp hp]
    | nothing _ => exact absurd hp hnew

/-- The first registration adds one. -/
theorem profile_of_first_registration (crypto : Crypto) (assets : AssetsConfig) :
    ∃ p, p ∈ (registerUser crypto assets .create
      ⟨.done, ⟨.done, .done, .done, .done, .done⟩, .done⟩ (ascii "ann")
      (ascii "pw")).2.committed.profiles :=
  ⟨⟨1, some (cStr assets.defaultAvatarUrl), ⟨some (ascii "ann"), none, none, none, none, none,
    none, none⟩⟩, List.mem_singleton.mpr rfl⟩

theorem AssetsConfig.Deployed.uploadedAvatarUrl_eq (h : assets.Deployed origin path)
    (random : Option ByteString) (userId : UInt64) (mime : ByteString) :
    uploadedAvatarUrl assets random userId mime =
      origin ++ Path.tail (uploadedNames userId (avatarFileName random mime)) := by
  unfold uploadedAvatarUrl AssetsConfig.joinPublicUrl avatarFileName
  rw [h.withoutSlash_base, tail_uploadedNames]

/-- The URL an upload stores leads to the file it has written. -/
theorem AssetsConfig.Deployed.uploaded (h : assets.Deployed origin path) {d : Database}
    (hreach : Reachable sections d) (files : Files) (o : FileOutcomes) (userId : UInt64)
    (mime dataBase64 : ByteString)
    (hsuccess : (storeAvatar crypto assets d files o userId mime dataBase64).1.success = true) :
    let r := storeAvatar crypto assets d files o userId mime dataBase64
    ∃ start url written, resolveUploadRoot assets o.executableDir = .ok start ∧
      r.2.1.avatarUrl userId = some url ∧
      r.2.2 = Function.update files (avatarPath start userId (avatarFileName o.random mime))
        (some written) ∧
      assets.Leads origin url fun fs body => fs.executableDir = o.executableDir ∧
        body = written ∧
        fs.Keeps start (avatarPath start userId (avatarFileName o.random mime)) body := by
  have hd := sections_sound hreach
  by_cases haccepted : ∃ start decoded,
      UploadAccepted crypto assets d o userId mime dataBase64 start decoded
  swap
  · have hrefused := storeAvatar_of_not_accepted files hd
      fun start decoded haccepted' => haccepted ⟨start, decoded, haccepted'⟩
    rw [hrefused.1] at hsuccess
    exact absurd hsuccess Bool.false_ne_true
  rcases haccepted with ⟨start, decoded, haccepted⟩
  rcases storeAvatar_of_accepted files hd haccepted with ⟨_, _, hstored, hfiles⟩
  rcases isFileName_avatarFileName haccepted.image o.random with ⟨hname, hlength⟩
  -- the URL is stored as it is, for it has no zero byte
  have hplain : 0 ∉ uploadedAvatarUrl assets o.random userId mime := by
    rw [zero_mem_uploadedAvatarUrl_iff, h.withoutSlash_base]
    exact h.origin_plain
  rw [cStr_of_plain hplain, h.uploadedAvatarUrl_eq] at hstored
  exact ⟨start, _, decoded.take o.written, haccepted.resolved, hstored, hfiles,
    leads_uploaded haccepted.resolved origin userId hname hlength _⟩

end Urls

/-- The stored URLs resolve, and the client agrees on the default one, exactly where the
path of the default avatar begins with a slash or the base ends in one. -/
theorem avatar_urls (crypto : Crypto) {assets : AssetsConfig} {origin path : ByteString}
    (h : assets.Deployed origin path) :
    AvatarUrlsResolve crypto assets origin path ↔
      assets.defaultAvatarPath.head? = some slash ∨
        assets.publicBaseUrl.getLast? = some slash := by
  constructor
  · intro hresolve
    by_contra hneither
    rcases not_or.mp hneither with ⟨hbegin, hend⟩
    rcases profile_of_first_registration crypto assets with ⟨p, hp⟩
    rcases hresolve.registered (.init rfl) _ _ _ p hp List.not_mem_nil with
      ⟨url, hurl, target, _, hjoined, _⟩
    rw [avatarUrl_of_registered Database.sound_create hp List.not_mem_nil,
      h.defaultAvatarUrl_of_neither hbegin hend, Option.some.injEq] at hurl
    -- nothing stands between the origin and the path
    have hpath : path = slash :: target := by
      rw [← hurl] at hjoined
      exact List.append_cancel_left hjoined
    exact h.path_begin (by rw [hpath]; rfl)
  · intro hslash
    have hurl := h.defaultAvatarUrl_eq hslash
    constructor
    · intro d hreach o username password p hp hnew
      have hplain : 0 ∉ origin ++ slash :: path := by
        simp [h.origin_plain, h.path_plain, slash]
      have hstored := avatarUrl_of_registered (sections_sound hreach) hp hnew
      rw [hurl, cStr_of_plain hplain] at hstored
      exact ⟨_, hstored, h.leads_default⟩
    · intro d hreach files o userId mime dataBase64 r hsuccess
      exact h.uploaded hreach files o userId mime dataBase64 hsuccess
    · rw [h.joinBaseUrlPath_eq hslash, hurl]

/-! ## A file system without links -/

/-- A file has an absolute path that ends in a name. -/
def ProperFiles (files : Files) : Prop :=
  ∀ p, (files p).isSome = true → p.absolute = true ∧ p.trailing = false ∧ p.names ≠ []

/-- The files by their normal paths. -/
def FileSystem.withoutLinks (files : Files) : FileSystem where
  executableDir := .ok (Path.parse (ascii "/srv"))
  weaklyCanonical p := .ok p.lexicallyNormal
  fileExists p := .ok (files p.lexicallyNormal).isSome
  isRegularFile p := .ok (files p.lexicallyNormal).isSome
  content p := files p.lexicallyNormal

section WithoutLinks

variable {files : Files}

theorem withoutLinks_resolves (hfiles : ProperFiles files) :
    (FileSystem.withoutLinks files).Resolves where
  executableDir_absolute := by
    intro dir h
    cases h
    decide
  absolute := by
    intro p q hp h
    cases h
    exact hp
  resolved := by
    intro p q hp h
    cases h
    exact congrArg Except.ok (Path.lexicallyNormal_idem hp)
  regular_trailing := by
    intro q h
    rcases hfiles _ (Except.ok.inj h) with ⟨hnormal, htrailing, hne⟩
    have habsolute : q.absolute = true := hnormal
    by_contra hq
    -- the separator stays in the normal form
    have hkept := (Path.lexicallyNormal_trailing habsolute).mpr
      ⟨⟨hne, fun hlast => (Path.lexicallyNormal_plain habsolute dotDot
        (List.mem_of_getLast? hlast)).2 rfl⟩, Or.inl (by simpa using hq)⟩
    rw [htrailing] at hkept
    cases hkept
  regular_below := by
    intro p q file hp hq hup h hregular hbelow
    cases h
    have hregular' : (files p.lexicallyNormal.lexicallyNormal).isSome = true :=
      Except.ok.inj hregular
    rw [Path.lexicallyNormal_idem hp] at hregular'
    rcases hfiles _ hregular' with ⟨_, htrailing, hne⟩
    exact Path.lexicallyNormal_append_ne hp hq hup hne htrailing (Except.ok.inj hbelow)

/-- The normal path of a file is that of the same file. -/
theorem content_withoutLinks (hfiles : ProperFiles files) {p : Path} {body : ByteString}
    (h : files p.lexicallyNormal = some body) :
    files p.lexicallyNormal.lexicallyNormal = some body := by
  have habsolute : p.absolute = true := (hfiles p.lexicallyNormal (by rw [h]; rfl)).1
  rw [Path.lexicallyNormal_idem habsolute, h]

theorem withoutLinks_transparent (hfiles : ProperFiles files) :
    (FileSystem.withoutLinks files).Transparent where
  joins := by
    intro p q r file hp h hr hup hfile
    cases h
    rw [← hfile]
    refine congrArg Except.ok ?_
    exact Path.lexicallyNormal_append_congr (p := p.lexicallyNormal) hp hr hup
      (Path.lexicallyNormal_idem hp)
  found := by
    intro p q h hfound
    cases h
    rcases Option.isSome_iff_exists.mp (Except.ok.inj hfound) with ⟨body, hbody⟩
    exact congrArg Except.ok (by rw [content_withoutLinks hfiles hbody]; rfl)
  regular := by
    intro p q h hregular
    cases h
    rcases Option.isSome_iff_exists.mp (Except.ok.inj hregular) with ⟨body, hbody⟩
    exact congrArg Except.ok (by rw [content_withoutLinks hfiles hbody]; rfl)
  content := by
    intro p q body h hbody
    cases h
    exact content_withoutLinks hfiles hbody

end WithoutLinks

/-- The default avatar, installed next to the program. -/
def installedFiles : Files := fun p =>
  if p = Path.parse (ascii "/srv/static/avatar/default.png") then some (ascii "PNG") else none

theorem installedFiles_proper : ProperFiles installedFiles := by
  intro p h
  unfold installedFiles at h
  split_ifs at h with hp
  · rw [hp]
    decide +kernel
  · cases h

/-- The configuration of the program as it is delivered. -/
theorem deployed_defaults : AssetsConfig.Deployed {} (ascii "http://127.0.0.1:9000")
    (ascii "static/avatar/default.png") where
  base := Or.inl rfl
  origin_end := by decide +kernel
  origin_plain := by decide
  default := Or.inr rfl
  path_begin := by decide
  path_plain := by decide
  path_under := by
    have hnames : ∀ n ∈ [ascii "avatar", ascii "default.png"], IsFileName n := by decide
    exact (path_of_names hnames (by decide) (List.cons_ne_nil _ _)).1

/-- As delivered, the stored URLs resolve, and the default avatar is returned. -/
theorem avatar_urls_of_defaults :
    AvatarUrlsResolve abcCrypto {} (ascii "http://127.0.0.1:9000")
      (ascii "static/avatar/default.png") ∧
    ∃ response, tryServeStaticFile (fun _ => .withoutLinks installedFiles)
        (ascii "/static/avatar/default.png") {} = .ok (some response) ∧
      response.body = ascii "PNG" := by
  refine ⟨(avatar_urls abcCrypto deployed_defaults).mpr (Or.inl rfl), ?_⟩
  rcases deployed_defaults.leads_default with ⟨target, _, hurl, hserves⟩
  have htarget : slash :: target = ascii "/static/avatar/default.png" :=
    (List.append_cancel_left hurl).symm
  rw [htarget] at hserves
  apply hserves _ (withoutLinks_resolves installedFiles_proper)
    (withoutLinks_transparent installedFiles_proper)
  refine ⟨(Path.parse (ascii "/srv")).append (Path.parse (ascii "./static")), rfl, ?_⟩
  constructor
  · refine ⟨_, _, rfl, rfl, [ascii "avatar", ascii "default.png"], List.cons_ne_nil _ _, ?_⟩
    decide +kernel
  · decide +kernel
  · decide +kernel
  · decide +kernel

/-- Neither the base nor the path has a slash: the stored URL runs them together. -/
theorem default_avatar_url_without_slash :
    ¬∀ (crypto : Crypto) (assets : AssetsConfig) (origin path : ByteString),
      assets.Deployed origin path → AvatarUrlsResolve crypto assets origin path := by
  intro hall
  have hdeployed : AssetsConfig.Deployed
      { defaultAvatarPath := ascii "static/avatar/default.png" } (ascii "http://127.0.0.1:9000")
      (ascii "static/avatar/default.png") :=
    { deployed_defaults with default := Or.inl rfl }
  have hclient := (hall abcCrypto _ _ _ hdeployed).client
  exact absurd hclient (by decide +kernel)

end CCMeeting
