import CCMeeting.Lib.Fallible
import CCMeeting.Lib.Path

/-! # Static files

`try_serve_static_file` of the data server: a GET target is normalised, mapped
below one of two configured directories, resolved by the file system and read.
That the file lies in the directory is checked on the texts of the two paths.
-/

namespace CCMeeting

open ByteString Fallible

/-! ## The program -/

/-- `config::AssetsConfig`. -/
structure AssetsConfig where
  publicBaseUrl : ByteString := ascii "http://127.0.0.1:9000"
  staticRoot : ByteString := ascii "./static"
  uploadRoot : ByteString := ascii "./uploads"
  defaultAvatarPath : ByteString := ascii "/static/avatar/default.png"
  maxAvatarBytes : ℕ := 2 * 1024 * 1024

/-- `std::filesystem::filesystem_error`. -/
structure FilesystemError where
  what : ByteString
deriving DecidableEq

/-- The calls the server makes into the file system. Those without an
`error_code` may throw; a file that cannot be opened has no content. -/
structure FileSystem where
  /-- `executable_dir` -/
  executableDir : Except FilesystemError Path
  weaklyCanonical : Path → Except FilesystemError Path
  fileExists : Path → Except FilesystemError Bool
  isRegularFile : Path → Except FilesystemError Bool
  content : Path → Option ByteString

/-- `StaticFileResponse`, whose status is always 200. -/
structure StaticFileResponse where
  contentType : ByteString
  cacheControl : ByteString
  body : ByteString
deriving DecidableEq

/-- `resolve_root`. What the file system does may change from call to call, so
each call has its own. -/
def resolveRoot (fs : ℕ → FileSystem) (relative : ByteString) : Except FilesystemError Path :=
  let root := Path.parse relative
  (if root.absolute then pure root else (fs 0).executableDir.map fun dir => dir.append root) >>=
    (fs 1).weaklyCanonical

/-- `is_safe_relative`. -/
def isSafeRelative (relative : Path) : Bool := relative.names.all fun part => part ≠ dotDot

/-- `mime_type_for_path`. -/
def mimeTypeForPath (path : Path) : ByteString :=
  if path.extension = ascii ".png" then ascii "image/png"
  else if path.extension = ascii ".jpg" ∨ path.extension = ascii ".jpeg" then ascii "image/jpeg"
  else if path.extension = ascii ".webp" then ascii "image/webp"
  else if path.extension = ascii ".gif" then ascii "image/gif"
  else ascii "application/octet-stream"

/-- `cache_control_for_target`. -/
def cacheControlForTarget (target : ByteString) : ByteString :=
  if target = ascii "/static/avatar/default.png" then ascii "public, max-age=86400"
  else if (ascii "/uploads/avatars/").isPrefixOf target then
    ascii "public, max-age=31536000, immutable"
  else if (ascii "/static/").isPrefixOf target then ascii "public, max-age=86400"
  else ascii "public, max-age=3600"

/-- `read_file_response`. -/
def readFileResponse (fs : ℕ → FileSystem) (filePath : Path) (target : ByteString) :
    Except FilesystemError (Option StaticFileResponse) := do
  if !(← (fs 4).fileExists filePath) then pure none
  else if !(← (fs 5).isRegularFile filePath) then pure none
  else
    match (fs 6).content filePath with
    | none => pure none
    | some body =>
      pure (some
        { contentType := mimeTypeForPath filePath
          cacheControl := cacheControlForTarget target
          body })

/-- The normalised target. -/
def normalizedTarget (target : ByteString) : ByteString :=
  (Path.parse target).lexicallyNormal.text

/-- The directory a normalised target is looked up in, as configured, and where
in it. -/
def servedFrom (assets : AssetsConfig) (normalized : ByteString) : Option (ByteString × Path) :=
  if (ascii "/static/").isPrefixOf normalized then
    some (assets.staticRoot, Path.parse (normalized.drop (ascii "/static/").length))
  else if (ascii "/uploads/").isPrefixOf normalized then
    some (assets.uploadRoot, Path.parse (normalized.drop (ascii "/uploads/").length))
  else none

/-- `try_serve_static_file`. -/
def tryServeStaticFile (fs : ℕ → FileSystem) (target : ByteString) (assets : AssetsConfig) :
    Except FilesystemError (Option StaticFileResponse) :=
  if target.head? ≠ some slash then pure none
  else
    match servedFrom assets (normalizedTarget target) with
    | none => pure none
    | some (configured, relative) => do
      let root ← resolveRoot fs configured
      if !isSafeRelative relative then pure none
      else
        let canonicalRoot ← (fs 2).weaklyCanonical root
        let canonicalFile ← (fs 3).weaklyCanonical (root.append relative)
        if !canonicalRoot.text.isPrefixOf canonicalFile.text then pure none
        else readFileResponse fs canonicalFile (normalizedTarget target)

/-! ## Where in a directory a target leads -/

/-- `/name/` as text. -/
theorem ascii_static : ascii "/static/" = slash :: (ascii "static" ++ [slash]) := rfl

theorem ascii_uploads : ascii "/uploads/" = slash :: (ascii "uploads" ++ [slash]) := rfl

/-- What is left of a normalised target behind `/name/`. -/
theorem parse_drop_normalized {target name front : ByteString}
    (htarget : target.head? = some slash) (hfront : front = slash :: (name ++ [slash]))
    (hname : slash ∉ name) (h : front <+: normalizedTarget target) :
    Path.parse ((normalizedTarget target).drop front.length) =
      (Path.parse target).lexicallyNormal.below := by
  subst hfront
  have hnormal : (Path.parse target).lexicallyNormal.absolute = true := by
    simpa [Path.lexicallyNormal, Path.parse] using htarget
  rcases Path.text_of_isPrefix hnormal hname h with ⟨_, htext⟩
  have hdrop : (normalizedTarget target).drop (slash :: (name ++ [slash])).length =
      (Path.parse target).lexicallyNormal.below.text := by
    rw [normalizedTarget, htext]
    simp [List.drop_append]
  rw [hdrop, Path.parse_text]

/-- It is a relative path that does not go up. -/
theorem below_normalized {target : ByteString} (htarget : target.head? = some slash) :
    (Path.parse target).lexicallyNormal.below.absolute = false ∧
    dotDot ∉ (Path.parse target).lexicallyNormal.below.names := by
  have habsolute : (Path.parse target).absolute = true := by
    simpa [Path.parse] using htarget
  refine ⟨rfl, ?_⟩
  intro hmem
  exact (Path.lexicallyNormal_plain habsolute dotDot (List.mem_of_mem_tail hmem)).2 rfl

theorem servedFrom_static {assets : AssetsConfig} {target : ByteString}
    (htarget : target.head? = some slash) (h : ascii "/static/" <+: normalizedTarget target) :
    servedFrom assets (normalizedTarget target) =
      some (assets.staticRoot, (Path.parse target).lexicallyNormal.below) := by
  rw [← parse_drop_normalized htarget ascii_static (by decide) h]
  unfold servedFrom
  rw [if_pos (List.isPrefixOf_iff_prefix.mpr h)]

theorem servedFrom_uploads {assets : AssetsConfig} {target : ByteString}
    (htarget : target.head? = some slash) (h : ascii "/uploads/" <+: normalizedTarget target) :
    servedFrom assets (normalizedTarget target) =
      some (assets.uploadRoot, (Path.parse target).lexicallyNormal.below) := by
  have hstatic : ¬ascii "/static/" <+: normalizedTarget target := by
    intro hprefix
    -- the second byte is not both
    rcases h with ⟨x, hx⟩
    rcases hprefix with ⟨y, hy⟩
    rw [← hx] at hy
    exact absurd (congrArg (fun t => t[1]?) hy) (by simp [ascii])
  rw [← parse_drop_normalized htarget ascii_uploads (by decide) h]
  unfold servedFrom
  rw [if_neg fun hprefix => hstatic (List.isPrefixOf_iff_prefix.mp hprefix),
    if_pos (List.isPrefixOf_iff_prefix.mpr h)]

theorem servedFrom_relative {assets : AssetsConfig} {target configured : ByteString}
    {relative : Path} (htarget : target.head? = some slash)
    (h : servedFrom assets (normalizedTarget target) = some (configured, relative)) :
    relative.absolute = false ∧ dotDot ∉ relative.names := by
  have hbelow := below_normalized htarget
  by_cases hstatic : ascii "/static/" <+: normalizedTarget target
  · rw [servedFrom_static htarget hstatic] at h
    cases h
    exact hbelow
  by_cases huploads : ascii "/uploads/" <+: normalizedTarget target
  · rw [servedFrom_uploads htarget huploads] at h
    cases h
    exact hbelow
  · unfold servedFrom at h
    rw [if_neg fun hprefix => hstatic (List.isPrefixOf_iff_prefix.mp hprefix),
      if_neg fun hprefix => huploads (List.isPrefixOf_iff_prefix.mp hprefix)] at h
    cases h

/-- The scan for `..` finds nothing: the target has been normalised. -/
theorem isSafeRelative_of_servedFrom {assets : AssetsConfig} {target configured : ByteString}
    {relative : Path} (htarget : target.head? = some slash)
    (h : servedFrom assets (normalizedTarget target) = some (configured, relative)) :
    isSafeRelative relative = true := by
  have hup := (servedFrom_relative htarget h).2
  rw [isSafeRelative, List.all_eq_true]
  intro part hpart
  simp only [ne_eq, decide_not, Bool.not_eq_true', decide_eq_false_iff_not]
  rintro rfl
  exact hup hpart

/-! ## What is served -/

/-- The directory a target is looked up in, resolved, and the file it leads to. -/
def FileSystem.Located (fs : FileSystem) (assets : AssetsConfig) (target : ByteString)
    (root file : Path) : Prop :=
  target.head? = some slash ∧ ∃ configured relative,
    servedFrom assets (normalizedTarget target) = some (configured, relative) ∧
    resolveRoot (fun _ => fs) configured = .ok root ∧
    fs.weaklyCanonical (root.append relative) = .ok file

/-- A regular file that can be opened. -/
def FileSystem.Readable (fs : FileSystem) (file : Path) : Prop :=
  fs.fileExists file = .ok true ∧ fs.isRegularFile file = .ok true ∧
    (fs.content file).isSome = true

theorem readFileResponse_eq_some_iff {fs : FileSystem} {file : Path} {target : ByteString}
    {response : StaticFileResponse} :
    readFileResponse (fun _ => fs) file target = .ok (some response) ↔
      fs.fileExists file = .ok true ∧ fs.isRegularFile file = .ok true ∧
        ∃ body, fs.content file = some body ∧
          response = ⟨mimeTypeForPath file, cacheControlForTarget target, body⟩ := by
  simp only [readFileResponse, bind_eq_ok_iff, pure, Except.pure]
  constructor
  · rintro ⟨found, hexists, h⟩
    split_ifs at h with hfound
    · cases h
    -- the file is there, so `is_regular_file` is asked too, and only then is it opened
    · rcases bind_eq_ok_iff.mp h with ⟨regular, hregular, h⟩
      split_ifs at h with hreg
      · cases h
      · have hfound' : found = true := by simpa using hfound
        have hregular' : regular = true := by simpa using hreg
        subst hfound' hregular'
        cases hcontent : fs.content file with
        | none =>
          rw [hcontent] at h
          cases h
        | some body =>
          rw [hcontent] at h
          cases h
          exact ⟨hexists, hregular, body, rfl, rfl⟩
  · rintro ⟨hexists, hregular, body, hcontent, rfl⟩
    refine ⟨true, hexists, ?_⟩
    rw [Bool.not_true, if_neg Bool.false_ne_true, bind_eq_ok_iff]
    refine ⟨true, hregular, ?_⟩
    rw [Bool.not_true, if_neg Bool.false_ne_true, hcontent]

/-- A target without a place among the assets is passed on without a call. -/
theorem tryServeStaticFile_of_unserved (fs : ℕ → FileSystem) {assets : AssetsConfig}
    {target : ByteString}
    (h : target.head? = some slash → servedFrom assets (normalizedTarget target) = none) :
    tryServeStaticFile fs target assets = .ok none := by
  unfold tryServeStaticFile
  by_cases htarget : target.head? = some slash
  · rw [if_neg (not_not.mpr htarget), h htarget]
    rfl
  · rw [if_pos htarget]
    rfl

/-- The calls made for a target with a place. -/
theorem tryServeStaticFile_of_served (fs : ℕ → FileSystem) {assets : AssetsConfig}
    {target configured : ByteString} {relative : Path} (htarget : target.head? = some slash)
    (h : servedFrom assets (normalizedTarget target) = some (configured, relative)) :
    tryServeStaticFile fs target assets = (do
      let root ← resolveRoot fs configured
      let canonicalRoot ← (fs 2).weaklyCanonical root
      let canonicalFile ← (fs 3).weaklyCanonical (root.append relative)
      if canonicalRoot.text <+: canonicalFile.text then
        readFileResponse fs canonicalFile (normalizedTarget target)
      else pure none) := by
  have hsafe := isSafeRelative_of_servedFrom htarget h
  unfold tryServeStaticFile
  rw [if_neg (not_not.mpr htarget), h]
  simp only [hsafe, Bool.not_true, Bool.false_eq_true, if_false, Bool.not_eq_true',
    Bool.eq_false_iff, ne_eq, List.isPrefixOf_iff_prefix, ite_not]

/-- A response is made exactly for a file that passes the textual test and can
be read. -/
theorem tryServeStaticFile_eq_some_iff {fs : FileSystem} {assets : AssetsConfig}
    {target : ByteString} {response : StaticFileResponse} :
    tryServeStaticFile (fun _ => fs) target assets = .ok (some response) ↔
      ∃ root file canonicalRoot, fs.Located assets target root file ∧
        fs.weaklyCanonical root = .ok canonicalRoot ∧ canonicalRoot.text <+: file.text ∧
        readFileResponse (fun _ => fs) file (normalizedTarget target) = .ok (some response) := by
  by_cases hplace : ∃ place, target.head? = some slash ∧
      servedFrom assets (normalizedTarget target) = some place
  · rcases hplace with ⟨⟨configured, relative⟩, htarget, hserved⟩
    rw [tryServeStaticFile_of_served _ htarget hserved]
    simp only [bind_eq_ok_iff]
    constructor
    · rintro ⟨root, hroot, canonicalRoot, hcanonical, file, hfile, h⟩
      split_ifs at h with hbegins
      · exact ⟨root, file, canonicalRoot, ⟨htarget, _, _, hserved, hroot, hfile⟩, hcanonical,
          hbegins, h⟩
      · cases h
    · rintro ⟨root, file, canonicalRoot, ⟨_, _, _, hplace, hroot, hfile⟩, hcanonical, hbegins, h⟩
      cases hserved.symm.trans hplace
      refine ⟨root, hroot, canonicalRoot, hcanonical, file, hfile, ?_⟩
      rw [if_pos hbegins]
      exact h
  · rw [tryServeStaticFile_of_unserved _ fun htarget => ?_]
    · constructor
      · intro h
        cases h
      · rintro ⟨root, file, _, ⟨htarget, _, _, hserved, _⟩, _⟩
        exact absurd ⟨_, htarget, hserved⟩ hplace
    · rw [Option.eq_none_iff_forall_ne_some]
      exact fun place hserved => hplace ⟨place, htarget, hserved⟩

/-! ## Confinement -/

/-- `file` is below `root`, name by name. -/
def Path.IsAncestor (root file : Path) : Prop := ∃ more, more ≠ [] ∧ file.names = root.names ++ more

/-- Whatever is served for the target is read from a file below the directory
the target belongs to. -/
def Confined (fs : FileSystem) (assets : AssetsConfig) (target : ByteString) : Prop :=
  ∀ response, tryServeStaticFile (fun _ => fs) target assets = .ok (some response) →
    ∃ root file, fs.Located assets target root file ∧ fs.content file = some response.body ∧
      root.IsAncestor file

/-- A directory as it is configured, before it is resolved. -/
def configuredRoot (executableDir : Except FilesystemError Path) (configured : ByteString) :
    Except FilesystemError Path :=
  let root := Path.parse configured
  if root.absolute then pure root else executableDir.map fun dir => dir.append root

theorem resolveRoot_eq (fs : ℕ → FileSystem) (configured : ByteString) :
    resolveRoot fs configured =
      (configuredRoot (fs 0).executableDir configured >>= (fs 1).weaklyCanonical) := rfl

/-- What `weakly_canonical` and `is_regular_file` are relied on for: the paths
are resolved, and a regular file has nothing below it. -/
structure FileSystem.Resolves (fs : FileSystem) : Prop where
  executableDir_absolute : ∀ {dir}, fs.executableDir = .ok dir → dir.absolute = true
  absolute : ∀ {p q}, p.absolute = true → fs.weaklyCanonical p = .ok q → q.absolute = true
  /-- a resolved path resolves to itself -/
  resolved : ∀ {p q}, p.absolute = true → fs.weaklyCanonical p = .ok q →
    fs.weaklyCanonical q = .ok q
  /-- a path with a separator at its end is no regular file -/
  regular_trailing : ∀ {q}, fs.isRegularFile q = .ok true → q.trailing = false
  /-- what is looked up in a regular file is not the file -/
  regular_below : ∀ {p q file}, p.absolute = true → q.absolute = false → dotDot ∉ q.names →
    fs.weaklyCanonical p = .ok file → fs.isRegularFile file = .ok true →
    fs.weaklyCanonical (p.append q) ≠ .ok file

/-- The target leads to a readable file in a sibling of its directory, or to
the sibling itself, whose name begins with the name of the directory. -/
def FileSystem.LeadsAside (fs : FileSystem) (assets : AssetsConfig) (target : ByteString) : Prop :=
  ∃ root file, fs.Located assets target root file ∧ root.trailing = false ∧
    Path.RunsOn root.names file.names ∧ fs.Readable file

section Confinement

variable {fs : FileSystem} {assets : AssetsConfig} {target : ByteString} {root file : Path}

theorem FileSystem.Resolves.configuredRoot (hfs : fs.Resolves) {configured : ByteString}
    {start : Path} (h : CCMeeting.configuredRoot fs.executableDir configured = .ok start) :
    start.absolute = true := by
  unfold CCMeeting.configuredRoot at h
  dsimp only at h
  split_ifs at h with hconfigured
  · cases h
    exact hconfigured
  · cases hdir : fs.executableDir with
    | error e =>
      rw [hdir] at h
      cases h
    | ok dir =>
      rw [hdir] at h
      cases h
      simp [hfs.executableDir_absolute hdir]

theorem FileSystem.Resolves.resolveRoot (hfs : fs.Resolves) {configured : ByteString}
    (h : CCMeeting.resolveRoot (fun _ => fs) configured = .ok root) :
    root.absolute = true ∧ fs.weaklyCanonical root = .ok root := by
  rw [resolveRoot_eq] at h
  rcases bind_eq_ok_iff.mp h with ⟨start, hstart, hcanonical⟩
  have habsolute := hfs.configuredRoot hstart
  exact ⟨hfs.absolute habsolute hcanonical, hfs.resolved habsolute hcanonical⟩

/-- A target leads to one place. -/
theorem FileSystem.Located.unique {root' file' : Path} (h : fs.Located assets target root file)
    (h' : fs.Located assets target root' file') : root = root' ∧ file = file' := by
  rcases h with ⟨_, _, _, hplace, hroot, hfile⟩
  rcases h' with ⟨_, _, _, hplace', hroot', hfile'⟩
  rw [hplace] at hplace'
  cases hplace'
  rw [hroot] at hroot'
  cases hroot'
  rw [hfile] at hfile'
  cases hfile'
  exact ⟨rfl, rfl⟩

/-- The two resolved paths are absolute, and the directory is resolved. -/
theorem FileSystem.Located.resolved (hfs : fs.Resolves) (h : fs.Located assets target root file) :
    root.absolute = true ∧ fs.weaklyCanonical root = .ok root ∧ file.absolute = true := by
  rcases h with ⟨htarget, configured, relative, hserved, hroot, hfile⟩
  rcases hfs.resolveRoot hroot with ⟨habsolute, hresolved⟩
  refine ⟨habsolute, hresolved, hfs.absolute ?_ hfile⟩
  simp [habsolute]

/-- The directory itself is not served. -/
theorem FileSystem.Located.names_ne (hfs : fs.Resolves) (h : fs.Located assets target root file)
    (hregular : fs.isRegularFile file = .ok true) (htext : root.text <+: file.text) :
    file.names ≠ root.names := by
  rcases h.resolved hfs with ⟨hroot, hresolved, hfile⟩
  intro hnames
  rcases h with ⟨htarget, configured, relative, hserved, _, hlocated⟩
  rcases servedFrom_relative htarget hserved with ⟨hrelative, hup⟩
  have hfileTrailing := hfs.regular_trailing hregular
  -- the texts differ in a separator at most, which a regular file does not have
  have hrootTrailing : root.trailing = false := by
    by_contra htrailing
    have htrailing : root.trailing = true := by simpa using htrailing
    have hne := root.trailing_names htrailing
    rw [Path.text_of_absolute hroot hne, Path.text_of_absolute hfile (hnames ▸ hne), hnames,
      htrailing, hfileTrailing, List.prefix_append_right_inj] at htext
    simpa [Path.ending] using htext.length_le
  have heq : file = root := by
    rcases root with ⟨a, ns, t, _, _⟩
    rcases file with ⟨b, ms, u, _, _⟩
    simp only at hnames hroot hfile hfileTrailing hrootTrailing
    simp only [Path.mk.injEq]
    exact ⟨hfile.trans hroot.symm, hnames, hfileTrailing.trans hrootTrailing.symm⟩
  subst heq
  exact hfs.regular_below hroot hrelative hup hresolved hregular hlocated

/-- What is served lies below its directory exactly when the target does not
lead into a sibling whose name begins with the name of the directory. -/
theorem confined_iff (hfs : fs.Resolves) :
    Confined fs assets target ↔ ¬fs.LeadsAside assets target := by
  constructor
  · rintro hconfined ⟨root, file, hlocated, htrailing, hruns, hexists, hregular, hcontent⟩
    rcases hlocated.resolved hfs with ⟨hroot, hresolved, hfile⟩
    rcases Option.isSome_iff_exists.mp hcontent with ⟨body, hbody⟩
    -- the textual test lets the file through
    have hserved := tryServeStaticFile_eq_some_iff.mpr ⟨root, file, root, hlocated, hresolved,
      hruns.isPrefix_text hroot hfile htrailing,
      readFileResponse_eq_some_iff.mpr ⟨hexists, hregular, body, hbody, rfl⟩⟩
    rcases hconfined _ hserved with ⟨root', file', hlocated', _, more, _, hnames⟩
    rcases hlocated.unique hlocated' with ⟨rfl, rfl⟩
    exact hruns.not_isPrefix ⟨more, hnames.symm⟩
  · intro haside response hresponse
    rcases tryServeStaticFile_eq_some_iff.mp hresponse with
      ⟨root, file, canonicalRoot, hlocated, hcanonical, htext, hread⟩
    rcases readFileResponse_eq_some_iff.mp hread with ⟨hexists, hregular, body, hbody, rfl⟩
    rcases hlocated.resolved hfs with ⟨hroot, hresolved, hfile⟩
    rw [hresolved] at hcanonical
    cases hcanonical
    refine ⟨root, file, hlocated, hbody, ?_⟩
    rcases Path.isPrefix_or_runsOn hroot hfile htext with ⟨more, hmore⟩ | ⟨htrailing, hruns⟩
    · refine ⟨more, ?_, hmore.symm⟩
      rintro rfl
      rw [List.append_nil] at hmore
      exact hlocated.names_ne hfs hregular htext hmore.symm
    · exact absurd ⟨root, file, hlocated, htrailing, hruns, hexists, hregular,
        Option.isSome_iff_exists.mpr ⟨body, hbody⟩⟩ haside

end Confinement

/-! ## A directory and its private sibling -/

/-- A page in the directory. -/
def page : Path := Path.parse (ascii "/srv/static/page.png")

/-- A file in the sibling `static-private`. -/
def privateFile : Path := Path.parse (ascii "/srv/static-private/x")

/-- A link in the directory that leads to it. -/
def privateLink : Path := Path.parse (ascii "/srv/static/x")

/-- The two files and the link. -/
def linkedFiles : FileSystem where
  executableDir := .ok (Path.parse (ascii "/srv"))
  weaklyCanonical p :=
    .ok (if p.lexicallyNormal = privateLink then privateFile else p.lexicallyNormal)
  fileExists p := .ok (p = page ∨ p = privateFile)
  isRegularFile p := .ok (p = page ∨ p = privateFile)
  content p := if p = page then some (ascii "page") else some (ascii "private")

/-- The directory is configured by an absolute path. -/
def srvAssets : AssetsConfig := { staticRoot := ascii "/srv/static" }

/-- What a regular file's path is: three names and no separator behind them. -/
theorem linkedFiles_regular {p file : Path} (h : linkedFiles.weaklyCanonical p = .ok file)
    (hregular : linkedFiles.isRegularFile file = .ok true) :
    p.lexicallyNormal.names.length = 3 ∧ file.names.length = 3 ∧ file.trailing = false := by
  have hfile : file = page ∨ file = privateFile := by
    simpa [linkedFiles] using hregular
  have h3 : file.names.length = 3 ∧ file.trailing = false := by
    rcases hfile with rfl | rfl
    · decide
    · decide
  refine ⟨?_, h3⟩
  simp only [linkedFiles, Except.ok.injEq] at h
  split_ifs at h with hlink
  · rw [hlink]
    decide
  · rw [h]
    exact h3.1

theorem linkedFiles_resolves : linkedFiles.Resolves where
  executableDir_absolute h := by
    cases h
    decide
  absolute := by
    intro p q hp h
    simp only [linkedFiles, Except.ok.injEq] at h
    split_ifs at h with hlink
    · rw [← h]
      decide
    · rw [← h]
      exact hp
  resolved := by
    intro p q hp h
    simp only [linkedFiles, Except.ok.injEq] at h ⊢
    split_ifs at h with hlink
    · rw [← h]
      decide
    · rw [← h, Path.lexicallyNormal_idem hp, if_neg hlink]
  regular_trailing := by
    intro q h
    have hq : q = page ∨ q = privateFile := by simpa [linkedFiles] using h
    rcases hq with rfl | rfl
    · decide
    · decide
  regular_below := by
    intro p q file hp hq hup h hregular hbelow
    rcases linkedFiles_regular h hregular with ⟨hlength, hfile, htrailing⟩
    rcases Path.lexicallyNormal_append hp hq hup with ⟨hnames, hend⟩
    have hlength' := (linkedFiles_regular hbelow hregular).1
    -- nothing is added to the three names, so a separator is
    rw [hnames, List.length_append, hlength] at hlength'
    have hdots : q.names.filter (fun n => n ≠ dot) = [] :=
      List.length_eq_zero_iff.mp (by omega)
    have hne : p.lexicallyNormal.names ≠ [] := by
      intro h0
      rw [h0] at hlength
      cases hlength
    have hsep := hend hdots hne
    simp only [linkedFiles, Except.ok.injEq] at hbelow
    split_ifs at hbelow with hlink
    · rw [hlink] at hsep
      exact absurd hsep (by decide)
    · rw [hbelow, htrailing] at hsep
      cases hsep

theorem linkedFiles_located : linkedFiles.Located srvAssets (ascii "/static/x")
    (Path.parse (ascii "/srv/static")) privateFile := by
  refine ⟨by decide, ascii "/srv/static", Path.parse (ascii "x"), by decide +kernel, ?_, ?_⟩
  · decide +kernel
  · decide +kernel

/-- The link leads out of the directory, and what it leads to is served. -/
theorem private_file_served : linkedFiles.Resolves ∧
    ¬Confined linkedFiles srvAssets (ascii "/static/x") := by
  refine ⟨linkedFiles_resolves, ?_⟩
  intro hconfined
  have hserved : tryServeStaticFile (fun _ => linkedFiles) (ascii "/static/x") srvAssets =
      .ok (some ⟨ascii "application/octet-stream", ascii "public, max-age=86400",
        ascii "private"⟩) := by
    decide +kernel
  rcases hconfined _ hserved with ⟨root, file, hlocated, _, hancestor⟩
  rcases hlocated.unique linkedFiles_located with ⟨rfl, rfl⟩
  rcases hancestor with ⟨more, _, hnames⟩
  have hprefix : (Path.parse (ascii "/srv/static")).names <+: privateFile.names :=
    ⟨more, hnames.symm⟩
  exact absurd hprefix (by decide +kernel)

/-- The page of the directory is served from below it. -/
theorem page_confined : Confined linkedFiles srvAssets (ascii "/static/page.png") ∧
    tryServeStaticFile (fun _ => linkedFiles) (ascii "/static/page.png") srvAssets =
      .ok (some ⟨ascii "image/png", ascii "public, max-age=86400", ascii "page"⟩) := by
  refine ⟨(confined_iff linkedFiles_resolves).mpr ?_, by decide +kernel⟩
  have hpage : linkedFiles.Located srvAssets (ascii "/static/page.png")
      (Path.parse (ascii "/srv/static")) page := by
    refine ⟨by decide, ascii "/srv/static", Path.parse (ascii "page.png"), by decide +kernel, ?_,
      ?_⟩
    · decide +kernel
    · decide +kernel
  rintro ⟨root, file, hlocated, _, hruns, _⟩
  rcases hlocated.unique hpage with ⟨rfl, rfl⟩
  exact hruns.not_isPrefix (by decide +kernel)

end CCMeeting
