import ImSplash.FormQuery
import ImSplash.PhotoView
import ImSplash.Relaunch
import ImSplash.SharedFiles

/-!
# Do downloaded pictures survive an update?

A record keeps the absolute string of the file URL a picture was copied to.  An update may move
the app's container, and the files in it along, to another place; the string stays.  So the
pictures are found again as long as the Documents directory keeps its path.

`URL(string:)` reads back what `absoluteString` has written (`URL.ofString_ofFilePath`), and
`path` decodes it (`URL.path_ofFilePath`), whatever is in the file's name.
-/

namespace ImSplash
open Runs

/-! ### The end of a list -/

section End
variable {α : Type*} {p : α → Bool} {l l' : List α}

theorem rdropWhile_append_of_ne_nil (h : l'.rdropWhile p ≠ []) :
    (l ++ l').rdropWhile p = l ++ l'.rdropWhile p := by
  induction l' using List.reverseRecOn with
  | nil => exact absurd (List.rdropWhile_nil p) h
  | append_singleton l' x ih =>
    rw [← List.append_assoc, List.rdropWhile_concat]
    rw [List.rdropWhile_concat] at h ⊢
    by_cases hx : p x = true
    · rw [if_pos hx] at h ⊢
      rw [if_pos hx]
      exact ih h
    · rw [if_neg hx, if_neg hx, List.append_assoc]

theorem rdropWhile_append_of_pos (h : ∀ a ∈ l', p a = true) :
    (l ++ l').rdropWhile p = l.rdropWhile p := by
  induction l' using List.reverseRecOn with
  | nil => rw [List.append_nil]
  | append_singleton l' x ih =>
    rw [← List.append_assoc, List.rdropWhile_concat_pos _ _ _ (h x (by simp))]
    exact ih fun a ha => h a (List.mem_append_left _ ha)

theorem rtakeWhile_append_of_ne_nil (h : l'.rdropWhile p ≠ []) :
    (l ++ l').rtakeWhile p = l'.rtakeWhile p := by
  -- What is taken is what is not dropped.
  have hwhole : (l ++ l').rdropWhile p ++ (l ++ l').rtakeWhile p = l ++ l' :=
    List.rdropWhile_append_rtakeWhile
  have hend : l'.rdropWhile p ++ l'.rtakeWhile p = l' := List.rdropWhile_append_rtakeWhile
  rw [rdropWhile_append_of_ne_nil h, List.append_assoc] at hwhole
  exact List.append_cancel_left ((List.append_cancel_left hwhole).trans hend.symm)

end End

/-! ### File URLs -/

namespace URL
open QueryString

/-- `URL(fileURLWithPath:)`, for a path from the root. -/
def ofFilePath (path : List Char) : URL :=
  ofComponents ⟨"file://".toList, escape isURLPathAllowed path, none, none⟩

/-- A character that may stand in a URL. -/
def isURLCharacter (c : Char) : Bool := isPathAllowed c || "/?#[]%".toList.contains c

/-- `URL(string:)`, as far as characters and escapes decide; strings that fail for their
structure do not come from a file URL. -/
def ofString (string : String) : Option URL :=
  if string ≠ "" ∧ string.toList.all isURLCharacter ∧ (unescape string.toList).isSome then
    some ⟨string⟩
  else none

theorem isURLPathAllowed_slash : isURLPathAllowed '/' = true := by decide

theorem isURLCharacter_of_isURLPathAllowed {c : Char} (h : isURLPathAllowed c = true) :
    isURLCharacter c = true := by
  simp only [isURLPathAllowed, Bool.or_eq_true, Bool.and_eq_true, decide_eq_true_eq] at h
  rcases h with ⟨hpath, -⟩ | rfl
  · rw [isURLCharacter, hpath, Bool.true_or]
  · decide

theorem isURLCharacter_escapeByte (b : UInt8) : (escapeByte b).all isURLCharacter = true := by
  have hdigit : ∀ n : Fin 16, isURLCharacter (hexDigit n) = true := by decide
  have hb : b.toNat < 256 := b.toNat_lt
  have hhigh : isURLCharacter (hexDigit (b.toNat / 16)) = true := hdigit ⟨b.toNat / 16, by omega⟩
  have hlow : isURLCharacter (hexDigit (b.toNat % 16)) = true := hdigit ⟨b.toNat % 16, by omega⟩
  simp only [escapeByte, List.all_cons, List.all_nil, hhigh, hlow]
  decide

/-- What is escaped may stand in a URL. -/
theorem isURLCharacter_escape (component : List Char) :
    (escape isURLPathAllowed component).all isURLCharacter = true := by
  rw [escape, List.all_flatMap, List.all_eq_true]
  intro c _
  unfold escapeChar
  split
  · rename_i hallowed
    simp [isURLCharacter_of_isURLPathAllowed hallowed]
  · rw [List.all_flatMap, List.all_eq_true]
    exact fun b _ => isURLCharacter_escapeByte b

/-- The string of a file URL is all of one escape. -/
theorem absoluteString_ofFilePath (path : List Char) :
    (ofFilePath path).absoluteString.toList =
      escape isURLPathAllowed ("file://".toList ++ path) := by
  have hroot : escape isURLPathAllowed "file://".toList = "file://".toList :=
    escape_of_allowed (List.all_eq_true.mp (by decide))
  rw [escape_append, hroot, ofFilePath, ofComponents, String.toList_ofList]
  simp [URIReference.Parts.toChars, URIReference.Parts.marked]

/-- **A file URL is read back** from its string. -/
theorem ofString_ofFilePath (path : List Char) :
    ofString (ofFilePath path).absoluteString = some (ofFilePath path) := by
  have hne : (ofFilePath path).absoluteString ≠ "" := by
    intro hempty
    have hnil := (absoluteString_ofFilePath path).symm.trans (congrArg String.toList hempty)
    exact absurd (escape_eq_nil.mp hnil) (by simp)
  have hcharacters : (ofFilePath path).absoluteString.toList.all isURLCharacter = true := by
    rw [absoluteString_ofFilePath]
    exact isURLCharacter_escape _
  have hescapes : (unescape (ofFilePath path).absoluteString.toList).isSome = true := by
    rw [absoluteString_ofFilePath, unescape_escape isURLPathAllowed_percent]
    rfl
  exact if_pos ⟨hne, hcharacters, hescapes⟩

theorem components_ofFilePath {path : List Char} (hslash : path.head? = some '/') :
    (ofFilePath path).components =
      ⟨"file://".toList, escape isURLPathAllowed path, none, none⟩ := by
  refine components_ofComponents ⟨⟨"file".toList, [], rfl, by decide,
    by simp [URIReference.isMark], by simp⟩, Or.inr ?_, ?_, by simp⟩
  · obtain ⟨rest, rfl⟩ := List.head?_eq_some_iff.mp hslash
    rw [escape, List.flatMap_cons, escapeChar_of_allowed isURLPathAllowed_slash]
    rfl
  · exact fun c => isMark_of_mem_escape

/-! ### The slashes at the end -/

theorem slash_of_mem_rtakeWhile {path : List Char} {c : Char}
    (h : c ∈ path.rtakeWhile (· = '/')) : c = '/' := by
  simpa using List.mem_rtakeWhile_imp h

/-- Slashes are their own escapes, and no other escape ends in one. -/
theorem escape_rdropWhile (path : List Char) :
    (escape isURLPathAllowed path).rdropWhile (· = '/') =
      escape isURLPathAllowed (path.rdropWhile (· = '/')) := by
  have hslash : ∀ b : UInt8, '/' ∉ escapeByte b := not_mem_escapeByte_of (by decide) (by decide)
  induction path using List.reverseRecOn with
  | nil => rfl
  | append_singleton path c ih =>
    have hescape : escape isURLPathAllowed (path ++ [c]) =
        escape isURLPathAllowed path ++ escapeChar isURLPathAllowed c := by simp [escape]
    rw [hescape]
    by_cases hc : c = '/'
    · subst hc
      rw [escapeChar_of_allowed isURLPathAllowed_slash, List.rdropWhile_concat_pos _ _ _ (by simp),
        List.rdropWhile_concat_pos _ _ _ (by simp), ih]
    · have hself : (escapeChar isURLPathAllowed c).rdropWhile (· = '/') =
          escapeChar isURLPathAllowed c := by
        rw [List.rdropWhile_eq_self_iff]
        intro hl hlast
        have hmem := List.getLast_mem hl
        rw [of_decide_eq_true hlast] at hmem
        exact not_mem_escapeChar hslash hc hmem
      rw [rdropWhile_append_of_ne_nil (by rw [hself]; exact escapeChar_ne_nil c), hself,
        List.rdropWhile_concat_neg _ _ _ (by simpa using hc), hescape]

theorem escape_rtakeWhile (path : List Char) :
    (escape isURLPathAllowed path).rtakeWhile (· = '/') = path.rtakeWhile (· = '/') := by
  have hslashes : escape isURLPathAllowed (path.rtakeWhile (· = '/')) =
      path.rtakeWhile (· = '/') := by
    refine escape_of_allowed fun c hc => ?_
    rw [slash_of_mem_rtakeWhile hc]
    exact isURLPathAllowed_slash
  have hwhole : (escape isURLPathAllowed path).rdropWhile (· = '/') ++
      (escape isURLPathAllowed path).rtakeWhile (· = '/') = escape isURLPathAllowed path :=
    List.rdropWhile_append_rtakeWhile
  have hpath : path.rdropWhile (· = '/') ++ path.rtakeWhile (· = '/') = path :=
    List.rdropWhile_append_rtakeWhile
  rw [escape_rdropWhile] at hwhole
  have hsplit := congrArg (escape isURLPathAllowed) hpath
  rw [escape_append, hslashes] at hsplit
  exact List.append_cancel_left (hwhole.trans hsplit.symm)

theorem trimmedPath_ofFilePath {path : List Char} (hslash : path.head? = some '/') :
    (ofFilePath path).trimmedPath = escape isURLPathAllowed (path.rdropWhile (· = '/')) := by
  rw [trimmedPath, components_ofFilePath hslash, escape_rdropWhile]

/-- **The path of a file URL** is the one it was made of, up to slashes at the end. -/
theorem path_ofFilePath {path : List Char} (hslash : path.head? = some '/')
    (hne : path.rdropWhile (· = '/') ≠ []) :
    (ofFilePath path).path = String.ofList (path.rdropWhile (· = '/')) := by
  have htrimmed : escape isURLPathAllowed (path.rdropWhile (· = '/')) ≠ [] :=
    fun hnil => hne (escape_eq_nil.mp hnil)
  have hdecoded := decodeComponent_escape isURLPathAllowed_percent
    (String.ofList (path.rdropWhile (· = '/')))
  rw [String.toList_ofList] at hdecoded
  rw [URL.path, trimmedPath_ofFilePath hslash, if_neg htrimmed, hdecoded, Option.getD_some]

/-- A file in a directory. -/
theorem ofFilePath_appendingPathComponent {directory : List Char}
    (hslash : (directory ++ ['/']).head? = some '/') (component : String) :
    (ofFilePath (directory ++ ['/'])).appendingPathComponent component =
      ofFilePath (directory ++ '/' :: component.toList) := by
  have hlast : (escape isURLPathAllowed (directory ++ ['/'])).getLast? = some '/' := by
    have hend : escape isURLPathAllowed ['/'] = ['/'] :=
      escape_of_allowed (List.all_eq_true.mp (by decide))
    rw [escape_append, hend, List.getLast?_concat]
  have hpath : escape isURLPathAllowed (directory ++ '/' :: component.toList) =
      escape isURLPathAllowed (directory ++ ['/']) ++
        escape isURLPathAllowed component.toList := by
    simp [escape]
  unfold appendingPathComponent
  simp only [components_ofFilePath hslash]
  rw [if_pos (Or.inl hlast), ofFilePath, hpath]
  rfl

/-- The extension of a file, for an extension that is its own escape. -/
theorem ofFilePath_appendingPathExtension {path : List Char} (hslash : path.head? = some '/')
    (hne : path.rdropWhile (· = '/') ≠ []) {pathExtension : String}
    (hsegment : ∀ c ∈ pathExtension.toList, isPathAllowed c = true)
    (hpath : ∀ c ∈ pathExtension.toList, isURLPathAllowed c = true) :
    (ofFilePath path).appendingPathExtension pathExtension =
      ofFilePath (path.rdropWhile (· = '/') ++ ('.' :: pathExtension.toList ++
        path.rtakeWhile (· = '/'))) := by
  have htrimmed : escape isURLPathAllowed (path.rdropWhile (· = '/')) ≠ [] :=
    fun hnil => hne (escape_eq_nil.mp hnil)
  have hslashes : ∀ c ∈ path.rtakeWhile (· = '/'), isURLPathAllowed c = true := by
    intro c hc
    rw [slash_of_mem_rtakeWhile hc]
    exact isURLPathAllowed_slash
  have hend : escape isURLPathAllowed ('.' :: pathExtension.toList ++
      path.rtakeWhile (· = '/')) = '.' :: pathExtension.toList ++ path.rtakeWhile (· = '/') := by
    refine escape_of_allowed fun c hc => ?_
    rcases List.mem_append.mp hc with hc | hc
    · rcases List.mem_cons.mp hc with rfl | hc
      · decide
      · exact hpath c hc
    · exact hslashes c hc
  unfold appendingPathExtension
  rw [trimmedPath_ofFilePath hslash, if_neg htrimmed, components_ofFilePath hslash,
    escape_rtakeWhile, escape_of_allowed hsegment, ofFilePath, escape_append, hend,
    List.append_assoc]

/-- A path of components, each after its slash. -/
def slashed (components : List String) : List Char :=
  components.flatMap fun component => '/' :: component.toList

theorem slashed_append_head? (components : List String) {rest : List Char}
    (hrest : rest.head? = some '/') : (slashed components ++ rest).head? = some '/' := by
  cases components with
  | nil => exact hrest
  | cons component components => rfl

end URL

/-! ### Files that move along -/

/-- The Documents directory of a container. -/
def documentsPath (container : List String) : URL :=
  .ofFilePath (URL.slashed container ++ "/Documents/".toList)

/-- The files of a container are found at another. -/
def FileManager.moveContainer (files : FileManager) (container container' : List String) :
    FileManager where
  file path :=
    let source := URIReference.resolve (URL.slashed container)
    let target := URIReference.resolve (URL.slashed container')
    if target <+: path then files.file (source ++ path.drop target.length)
    else if source <+: path then none
    else files.file path

/-- Where the container stays, so do the files. -/
theorem FileManager.moveContainer_of_eq (files : FileManager) {container container' : List String}
    (h : URL.slashed container' = URL.slashed container) :
    files.moveContainer container container' = files := by
  obtain ⟨file⟩ := files
  simp only [moveContainer, h, FileManager.mk.injEq]
  funext path
  split
  · rename_i hinit
    rw [List.prefix_iff_eq_append.mp hinit]
  · rfl

theorem path_documentsPath (container : List String) :
    (documentsPath container).path =
      String.ofList (URL.slashed container ++ "/Documents".toList) := by
  have hslash : (URL.slashed container ++ "/Documents/".toList).head? = some '/' :=
    URL.slashed_append_head? container rfl
  have hdrop : "/Documents/".toList.rdropWhile (· = '/') = "/Documents".toList := by decide
  have htrim : (URL.slashed container ++ "/Documents/".toList).rdropWhile (· = '/') =
      URL.slashed container ++ "/Documents".toList := by
    rw [rdropWhile_append_of_ne_nil (by rw [hdrop]; decide), hdrop]
  rw [documentsPath, URL.path_ofFilePath hslash (by rw [htrim]; simp), htrim]

namespace DownloadManager
variable {manager : DownloadManager}

/-- The path of a local file below the container, up to slashes at the end. -/
def localName (source : URL) : List Char :=
  ("/Documents/".toList ++ source.lastPathComponent.toList).rdropWhile (· = '/') ++ ".PNG".toList

theorem named_ne_nil (source : URL) :
    ("/Documents/".toList ++ source.lastPathComponent.toList).rdropWhile (· = '/') ≠ [] := by
  rw [Ne, List.rdropWhile_eq_nil_iff]
  intro hall
  exact absurd (hall 'D' (by simp)) (by decide)

theorem localName_append_head? (source : URL) (rest : List Char) :
    (localName source ++ rest).head? = some '/' := by
  have hwhole : ("/Documents/".toList ++ source.lastPathComponent.toList).head? = some '/' := rfl
  obtain ⟨slashes, hsplit⟩ := List.rdropWhile_prefix (p := (· = '/'))
    ("/Documents/".toList ++ source.lastPathComponent.toList)
  rw [← hsplit, List.head?_append_of_ne_nil _ (named_ne_nil source)] at hwhole
  rw [localName, List.append_assoc, List.head?_append_of_ne_nil _ (named_ne_nil source), hwhole]

theorem localFilePath_eq {container : List String}
    (h : manager.documentsPath = ImSplash.documentsPath container) (source : URL) :
    manager.localFilePath source = .ofFilePath (URL.slashed container ++ (localName source ++
      ("/Documents/".toList ++ source.lastPathComponent.toList).rtakeWhile (· = '/'))) := by
  have hdirectory : (URL.slashed container ++ "/Documents".toList ++ ['/']).head? = some '/' := by
    rw [List.append_assoc]
    exact URL.slashed_append_head? container rfl
  have hdocuments : manager.documentsPath =
      .ofFilePath (URL.slashed container ++ "/Documents".toList ++ ['/']) := by
    rw [h, ImSplash.documentsPath, List.append_assoc]
    rfl
  have hfile : (URL.slashed container ++
      ("/Documents/".toList ++ source.lastPathComponent.toList)).head? = some '/' :=
    URL.slashed_append_head? container rfl
  have hdrop := rdropWhile_append_of_ne_nil (l := URL.slashed container) (named_ne_nil source)
  have htake := rtakeWhile_append_of_ne_nil (l := URL.slashed container) (named_ne_nil source)
  have happend : URL.slashed container ++ "/Documents".toList ++
      '/' :: source.lastPathComponent.toList = URL.slashed container ++
        ("/Documents/".toList ++ source.lastPathComponent.toList) := by
    simp
  have hsegment : ∀ c ∈ "PNG".toList, URL.isPathAllowed c = true := List.all_eq_true.mp (by decide)
  have hpath : ∀ c ∈ "PNG".toList, URL.isURLPathAllowed c = true := List.all_eq_true.mp (by decide)
  rw [localFilePath, hdocuments, URL.ofFilePath_appendingPathComponent hdirectory, happend,
    URL.ofFilePath_appendingPathExtension hfile (by rw [hdrop]; simp) hsegment hpath, hdrop, htake,
    localName, List.append_assoc, List.append_assoc]
  rfl

/-- The path of a local file is below its container. -/
theorem path_localFilePath {container : List String}
    (h : manager.documentsPath = ImSplash.documentsPath container) (source : URL) :
    (manager.localFilePath source).path =
      String.ofList (URL.slashed container ++ localName source) := by
  have hend : (localName source).rdropWhile (· = '/') = localName source := by
    have hextension : ".PNG".toList.rdropWhile (· = '/') = ".PNG".toList := by decide
    rw [localName, rdropWhile_append_of_ne_nil (by rw [hextension]; decide), hextension]
  have hne : (localName source).rdropWhile (· = '/') ≠ [] := by
    rw [hend, localName]
    simp
  have hslash : (URL.slashed container ++ (localName source ++
      ("/Documents/".toList ++ source.lastPathComponent.toList).rtakeWhile (· = '/'))).head? =
        some '/' :=
    URL.slashed_append_head? container (localName_append_head? source _)
  have htrim : (URL.slashed container ++ (localName source ++
      ("/Documents/".toList ++ source.lastPathComponent.toList).rtakeWhile
        (· = '/'))).rdropWhile (· = '/') = URL.slashed container ++ localName source := by
    rw [← List.append_assoc,
      rdropWhile_append_of_pos fun c hc => by simp [URL.slash_of_mem_rtakeWhile hc],
      rdropWhile_append_of_ne_nil hne, hend]
  rw [localFilePath_eq h, URL.path_ofFilePath hslash (by rw [htrim]; simp [localName]), htrim]

/-- The path that is recorded for a local file is read back as its URL. -/
theorem ofString_localFilePath {container : List String}
    (h : manager.documentsPath = ImSplash.documentsPath container) (source : URL) :
    URL.ofString (manager.localFilePath source).absoluteString
      = some (manager.localFilePath source) := by
  rw [localFilePath_eq h]
  exact URL.ofString_ofFilePath _

end DownloadManager

/-! ### What a view reads -/

/-- The path of the file that `configure(with:)` shows a row from. -/
def PhotoView.imagePath (localItem : TransLocalImage) : Option String :=
  if localItem.isDownloading then none
  else (localItem.localImagePath.bind URL.ofString).map URL.path

/-- It is the path whose contents become the image of the cell. -/
theorem PhotoView.configureLocalItem_image {UIImage : Type} {platform : Platform UIImage}
    (hplatform : platform.urlOfString = URL.ofString) (cell : PhotoCell UIImage)
    {localItem : TransLocalImage} {path : String} (h : imagePath localItem = some path)
    (sizedImageURL : URL → URL) (contentsOfFile : String → Option UIImage) :
    ((cell.configureLocalItem platform localItem sizedImageURL contentsOfFile).image.map
      Picture.image) = contentsOfFile path := by
  unfold imagePath at h
  split at h
  · cases h
  · rename_i hdownloading
    obtain ⟨imageURL, hurl, rfl⟩ := Option.map_eq_some_iff.mp h
    obtain ⟨string, hstring, hurl⟩ := Option.bind_eq_some_iff.mp hurl
    simp only [PhotoCell.configureLocalItem, hdownloading, hstring, hplatform, hurl,
      Bool.false_eq_true, if_false, Option.map_map]
    exact congrFun Option.map_id _

/-! ### Runs over several installations -/

/-- The app and the place of its container.  For the statements alone: the source of every save
that waits, and the source of the file that was last recorded for an id. -/
structure Installation where
  app : App
  container : List String
  pending : List (String × URL) := []
  savedFrom : String → Option URL := fun _ => none

/-- Downloads that start, tasks that finish successfully, the main queue, and a launch with the
container at some place. -/
inductive InstallationEvent
  | startDownload (photo : UnsplashPhoto)
  | didFinishDownloadingTo (task : TaskId) (location : ResponseBody) (disk : FileSystem)
  | mainQueue
  | relaunch (container : List String)

namespace Installation
variable (s : Installation)

/-- The save a finish queues for the entry of its URL, with its source. -/
def pendingAfter (sourceURL : URL) : List (String × URL) :=
  s.pending ++ ((s.app.downloadManager.activeDownloads.lookup sourceURL).map fun download =>
    (download.photo.identifier, sourceURL)).toList

/-- The main queue has run a block, which may be the first of the saves. -/
def ranBlock (block : MainBlock) (app : App) : Installation :=
  match block.save?, s.pending with
  | some _, (id, source) :: rest =>
    { s with
      app := app
      pending := rest
      savedFrom := Function.update s.savedFrom id (some source) }
  | _, _ => { s with app := app }

/-- A new process, with the files of the old container in the new one; the saves that waited
are lost. -/
def relaunch (container : List String) : Installation :=
  let app := s.app.relaunch
  { s with
    app := { app with
      files := app.files.moveContainer s.container container
      downloadManager := { app.downloadManager with documentsPath := documentsPath container } }
    container := container
    pending := [] }

def machine : Machine Installation InstallationEvent where
  step s
    | .startDownload photo => some { s with app := s.app.stepControl (.startDownload photo) }
    | .didFinishDownloadingTo task location disk =>
      match s.app.outstanding? task with
      | some request =>
        if s.app.Obtained request.originalURL location disk then
          (s.app.stepSession (.didFinishDownloadingTo task location disk)).map fun app =>
            { s with app := app, pending := s.pendingAfter request.originalURL }
        else none
      | none => none
    | .mainQueue =>
      match s.app.mainQueue with
      | [] => none
      | block :: rest => some (s.ranBlock block (({ s.app with mainQueue := rest } : App).runBlock
          block))
    | .relaunch container => some (s.relaunch container)

/-- The first launch. -/
def launch (files : FileManager) (container : List String) : Installation where
  app := App.launch ⟨[], List.nodup_nil⟩ files (documentsPath container)
  container := container

/-- The path is that of the local file a source was saved to, and the file is there. -/
def Names (source : URL) (path : String) : Prop :=
  path = (s.app.downloadManager.localFilePath source).path
    ∧ (s.app.files.contents (s.app.downloadManager.localFilePath source)).isSome

/-- Every downloaded record is shown from the file that was saved for it, in the current
Documents directory. -/
def PicturesFound : Prop :=
  ∀ item ∈ s.app.realm.objects, item.isDownloaded = true → ∃ path source,
    PhotoView.imagePath (.ofLocal item) = some path ∧ s.savedFrom item.id = some source
      ∧ s.Names source path

/-- The condition: a launch finds the Documents directory at its old path, or no record that is
downloaded. -/
def DocumentsStay : InstallationEvent → Prop
  | .relaunch container => (documentsPath container).path = (documentsPath s.container).path
      ∨ ∀ item ∈ s.app.realm.objects, item.isDownloaded = false
  | _ => True

/-- What the runs keep, beside the pictures. -/
structure Inv : Prop where
  documents : s.app.downloadManager.documentsPath = documentsPath s.container
  found : s.PicturesFound
  pending : s.app.saves.map (fun save => (save.id, save.destinationURL))
    = s.pending.map fun (id, source) => (id, s.app.downloadPath source)
  files : ∀ id source, (id, source) ∈ s.pending →
    (s.app.files.contents (s.app.downloadManager.localFilePath source)).isSome

variable {s}

/-- A step that keeps the store, the saves, the documents and the files. -/
theorem Inv.of_same (h : s.Inv) {t : App} (hrealm : t.realm = s.app.realm)
    (hsaves : t.saves = s.app.saves)
    (hdocuments : t.downloadManager.documentsPath = s.app.downloadManager.documentsPath)
    (hfiles : t.files = s.app.files) : ({ s with app := t } : Installation).Inv := by
  have hlocal : ∀ url, t.downloadManager.localFilePath url
      = s.app.downloadManager.localFilePath url := by
    intro url
    rw [DownloadManager.localFilePath, hdocuments]
    rfl
  refine ⟨hdocuments.trans h.documents, ?_, ?_, ?_⟩
  · intro item hitem hdownloaded
    obtain ⟨path, source, hpath, hsource, hname, hfile⟩ :=
      h.found item (hrealm ▸ hitem) hdownloaded
    refine ⟨path, source, hpath, hsource, ?_, ?_⟩
    · rw [hlocal]
      exact hname
    · rw [hlocal, hfiles]
      exact hfile
  · show t.saves.map _ = s.pending.map fun (id, source) =>
      (id, (t.downloadManager.localFilePath source).absoluteString)
    simp only [hlocal, hsaves]
    exact h.pending
  · intro id source hmem
    rw [hlocal, hfiles]
    exact h.files id source hmem

/-- A finish leaves its file, and a save that names it. -/
theorem Inv.finish (h : s.Inv) (task : TaskId) {sourceURL : URL} {location : ResponseBody}
    {disk : FileSystem} (hobtained : s.app.Obtained sourceURL location disk) :
    ({ s with
      app := (s.app.settle task .finished).didFinishDownloadingTo sourceURL location disk
      pending := s.pendingAfter sourceURL } : Installation).Inv := by
  have hfiles := App.contents_didFinishDownloadingTo hobtained task
  have hkept : ∀ file, (s.app.files.contents file).isSome →
      (((s.app.settle task .finished).didFinishDownloadingTo sourceURL location
        disk).files.contents file).isSome := by
    intro file hfile
    rw [hfiles]
    split
    · rfl
    · exact hfile
  refine ⟨h.documents, ?_, ?_, ?_⟩
  · intro item hitem hdownloaded
    obtain ⟨path, source, hpath, hsource, hname, hfile⟩ := h.found item hitem hdownloaded
    exact ⟨path, source, hpath, hsource, hname, hkept _ hfile⟩
  · show ((s.app.settle task .finished).didFinishDownloadingTo sourceURL location
      disk).saves.map _ = _
    rw [App.didFinishDownloadingTo_saves, List.map_append]
    show s.app.saves.map _ ++ _ = (s.pendingAfter sourceURL).map _
    rw [pendingAfter, List.map_append, h.pending]
    congr 1
    show (Option.map _ (s.app.downloadManager.activeDownloads.lookup sourceURL)).toList.map _ = _
    cases s.app.downloadManager.activeDownloads.lookup sourceURL <;> rfl
  · intro id source hmem
    rcases List.mem_append.mp hmem with hold | hnew
    · exact hkept _ (h.files id source hold)
    · -- the new save is of the file just copied
      cases hlookup : s.app.downloadManager.activeDownloads.lookup sourceURL with
      | none => simp [hlookup] at hnew
      | some download =>
        simp only [hlookup, Option.map_some, Option.toList_some, List.mem_singleton,
          Prod.mk.injEq] at hnew
        obtain ⟨-, rfl⟩ := hnew
        have hsome := hfiles (s.app.downloadManager.localFilePath source)
        rw [if_pos rfl] at hsome
        exact Option.isSome_iff_exists.mpr ⟨location, hsome⟩

/-- With a save written, every downloaded record names its file: the new one that of the save,
the others as before. -/
theorem Inv.found_save (h : s.Inv) {save : PendingSave} {source : URL}
    (hdestination : save.destinationURL = s.app.downloadPath source)
    (hfile : (s.app.files.contents (s.app.downloadManager.localFilePath source)).isSome)
    {item : LocalImage} (hitem : item ∈ (s.app.realm.save save).objects)
    (hdownloaded : item.isDownloaded = true) :
    ∃ path source', PhotoView.imagePath (.ofLocal item) = some path ∧
      Function.update s.savedFrom save.id (some source) item.id = some source' ∧
      s.Names source' path := by
  by_cases hid : item.id = save.id
  · -- the record just written
    have hobject := Realm.object_of_mem hitem
    have hwritten := s.app.realm.downloadedPath_save save item.id
    rw [if_pos hid] at hwritten
    obtain ⟨found, hfound, -, hpath⟩ := Realm.downloadedPath_eq_some.mp hwritten
    obtain rfl : item = found := Option.some.inj (hobject.symm.trans hfound)
    have hread := DownloadManager.ofString_localFilePath h.documents source
    have hstring : (s.app.downloadManager.localFilePath source).absoluteString
        = save.destinationURL := hdestination.symm
    rw [hstring] at hread
    refine ⟨(s.app.downloadManager.localFilePath source).path, source, ?_, ?_, rfl, hfile⟩
    · simp [PhotoView.imagePath, TransLocalImage.ofLocal, hpath, hread]
    · simp [hid]
  · -- an older record
    have hold : item ∈ s.app.realm.objects := by
      have hobject := Realm.object_of_mem hitem
      rw [Realm.save, DataManager.saveDownloadedFilePath, Realm.object_writeObject,
        if_neg hid] at hobject
      exact Realm.mem_of_object hobject
    obtain ⟨path, source', hpath, hsource, hnames⟩ := h.found item hold hdownloaded
    refine ⟨path, source', hpath, ?_, hnames⟩
    rw [Function.update_of_ne hid]
    exact hsource

/-- The next block records the file of the first save that waits, or records nothing. -/
theorem Inv.ranBlock (h : s.Inv) {block : MainBlock} {rest : List MainBlock}
    (hqueue : s.app.mainQueue = block :: rest) :
    (s.ranBlock block (({ s.app with mainQueue := rest } : App).runBlock block)).Inv := by
  have hsaves := App.saves_cons hqueue
  have hrest : (({ s.app with mainQueue := rest } : App).runBlock block).saves
      = rest.filterMap MainBlock.save? := App.runBlock_saves block
  have hrealm : (({ s.app with mainQueue := rest } : App).runBlock block).realm
      = block.save?.toList.foldl Realm.save s.app.realm := App.runBlock_realm_eq block
  cases hblock : block.save? with
  | none =>
    have hsame : s.ranBlock block (({ s.app with mainQueue := rest } : App).runBlock block)
        = { s with app := ({ s.app with mainQueue := rest } : App).runBlock block } := by
      simp only [Installation.ranBlock, hblock]
    rw [hblock] at hsaves hrealm
    rw [hsame]
    refine h.of_same hrealm (hrest.trans hsaves.symm) ?_ (App.runBlock_files block)
    rw [App.runBlock_downloadManager]
  | some save =>
    rw [hblock] at hsaves hrealm
    have hpending := h.pending
    rw [hsaves] at hpending
    cases hwaiting : s.pending with
    | nil => simp [hwaiting] at hpending
    | cons first others =>
      obtain ⟨id, source⟩ := first
      simp only [hwaiting, Option.toList_some, List.cons_append, List.nil_append, List.map_cons,
        List.cons.injEq, Prod.mk.injEq] at hpending
      obtain ⟨⟨rfl, hdestination⟩, hothers⟩ := hpending
      have hfile := h.files save.id source (hwaiting ▸ List.mem_cons_self)
      have hran : s.ranBlock block (({ s.app with mainQueue := rest } : App).runBlock block)
          = { s with
              app := ({ s.app with mainQueue := rest } : App).runBlock block
              pending := others
              savedFrom := Function.update s.savedFrom save.id (some source) } := by
        simp only [Installation.ranBlock, hblock, hwaiting]
      rw [hran]
      refine ⟨?_, ?_, ?_, ?_⟩
      · simpa using h.documents
      · intro item hitem hdownloaded
        simp only [hrealm, Option.toList_some, List.foldl_cons, List.foldl_nil] at hitem
        obtain ⟨path, source', hpath, hsource, hnames⟩ :=
          h.found_save hdestination hfile hitem hdownloaded
        exact ⟨path, source', hpath, hsource, by simpa [Names] using hnames⟩
      · show (App.saves _).map _ = _
        simp only [hrest, App.downloadPath, App.runBlock_downloadManager]
        exact hothers
      · intro id' source' hmem
        have hfile' := h.files id' source' (hwaiting ▸ List.mem_cons_of_mem _ hmem)
        simpa using hfile'

/-- A launch finds the pictures exactly when it meets the condition. -/
theorem Inv.relaunch_found_iff (h : s.Inv) (container : List String) :
    (s.relaunch container).PicturesFound ↔ s.DocumentsStay (.relaunch container) := by
  have hnow : ∀ source, ((s.relaunch container).app.downloadManager.localFilePath source).path
      = String.ofList (URL.slashed container ++ DownloadManager.localName source) :=
    fun source => DownloadManager.path_localFilePath rfl source
  have hthen : ∀ source, (s.app.downloadManager.localFilePath source).path
      = String.ofList (URL.slashed s.container ++ DownloadManager.localName source) :=
    fun source => DownloadManager.path_localFilePath h.documents source
  have hdocuments : (documentsPath container).path = (documentsPath s.container).path
      ↔ URL.slashed container = URL.slashed s.container := by
    rw [path_documentsPath, path_documentsPath, String.ofList_inj, List.append_left_inj]
  rw [DocumentsStay, hdocuments]
  constructor
  · intro hfound
    by_cases hnone : ∀ item ∈ s.app.realm.objects, item.isDownloaded = false
    · exact .inr hnone
    · left
      -- a downloaded record has the old path, and should have the new one
      push Not at hnone
      obtain ⟨item, hitem, hdownloaded⟩ := hnone
      have hdownloaded : item.isDownloaded = true := by simpa using hdownloaded
      obtain ⟨path, source, hpath, hsource, hname, -⟩ := h.found item hitem hdownloaded
      obtain ⟨path', source', hpath', hsource', hname', -⟩ := hfound item hitem hdownloaded
      obtain rfl : path = path' := Option.some.inj (hpath.symm.trans hpath')
      obtain rfl : source = source' := Option.some.inj (hsource.symm.trans hsource')
      rw [hthen] at hname
      rw [hnow] at hname'
      exact List.append_cancel_right (String.ofList_injective (hname'.symm.trans hname))
  · intro hcondition item hitem hdownloaded
    rcases hcondition with hsame | hnone
    · obtain ⟨path, source, hpath, hsource, hname, hfile⟩ := h.found item hitem hdownloaded
      have hlocal : (s.relaunch container).app.downloadManager.localFilePath source
          = s.app.downloadManager.localFilePath source := by
        have hdirectory : (s.relaunch container).app.downloadManager.documentsPath
            = documentsPath container := rfl
        rw [DownloadManager.localFilePath_eq hdirectory,
          DownloadManager.localFilePath_eq h.documents, hsame]
      refine ⟨path, source, hpath, hsource, hname.trans (congrArg URL.path hlocal.symm), ?_⟩
      rw [hlocal]
      show ((s.app.files.moveContainer s.container container).contents _).isSome
      rw [FileManager.moveContainer_of_eq _ hsame]
      exact hfile
    · rw [hnone item hitem] at hdownloaded
      cases hdownloaded

/-- What one step keeps, and when it keeps the pictures. -/
theorem Inv.step (h : s.Inv) {t : Installation} {e : InstallationEvent}
    (hstep : machine.step s e = some t) :
    (t.PicturesFound ↔ s.DocumentsStay e) ∧ (t.PicturesFound → t.Inv) := by
  cases e with
  | startDownload photo =>
    obtain rfl := Option.some.inj hstep
    have hinv : ({ s with app := s.app.stepControl (.startDownload photo) } :
        Installation).Inv :=
      h.of_same rfl rfl (DownloadManager.startDownload_documentsPath photo) rfl
    exact ⟨iff_of_true hinv.found trivial, fun _ => hinv⟩
  | didFinishDownloadingTo task location disk =>
    simp only [machine] at hstep
    split at hstep
    · rename_i request hrequest
      split at hstep
      · rename_i hobtained
        obtain ⟨app, hfinish, rfl⟩ := Option.map_eq_some_iff.mp hstep
        obtain ⟨request', hrequest', rfl⟩ := Option.map_eq_some_iff.mp hfinish
        obtain rfl : request = request' := Option.some.inj (hrequest.symm.trans hrequest')
        have hinv := h.finish task hobtained
        exact ⟨iff_of_true hinv.found trivial, fun _ => hinv⟩
      · cases hstep
    · cases hstep
  | mainQueue =>
    simp only [machine] at hstep
    split at hstep
    · cases hstep
    · rename_i block rest hqueue
      obtain rfl := Option.some.inj hstep
      have hinv := h.ranBlock hqueue
      exact ⟨iff_of_true hinv.found trivial, fun _ => hinv⟩
  | relaunch container =>
    obtain rfl := Option.some.inj hstep
    refine ⟨h.relaunch_found_iff container, ?_⟩
    intro hfound
    refine ⟨rfl, hfound, rfl, ?_⟩
    intro _ _ hmem
    cases hmem

theorem picturesFound_along_iff_of_inv (h : s.Inv) (run : List InstallationEvent) :
    machine.Along (fun _ _ t => t.PicturesFound) s run
      ↔ machine.Along (fun s e _ => s.DocumentsStay e) s run :=
  Machine.along_iff_of_exact (fun _ _ _ hinv hstep => (hinv.step hstep).1)
    (fun _ _ _ hinv hstep hfound => (hinv.step hstep).2 hfound) h run

theorem inv_launch (files : FileManager) (container : List String) :
    (launch files container).Inv := by
  refine ⟨rfl, ?_, rfl, ?_⟩
  · intro _ hitem
    cases hitem
  · intro _ _ hmem
    cases hmem

/-- Downloaded pictures are found in every state of the runs whose launches keep the path of the
Documents directory as long as a record is downloaded, and in no others. -/
theorem picturesFound_along_iff (files : FileManager) (container : List String)
    (run : List InstallationEvent) :
    machine.Along (fun _ _ t => t.PicturesFound) (launch files container) run
      ↔ machine.Along (fun s e _ => s.DocumentsStay e) (launch files container) run :=
  picturesFound_along_iff_of_inv (inv_launch files container) run

/-- One download, and an update that moves the container. -/
theorem moved_picture_not_found :
    ¬ machine.Along (fun _ _ t => t.PicturesFound) (launch ⟨fun _ => none⟩ ["A"])
      [.startDownload (photoAt "p"), .didFinishDownloadingTo 0 ⟨200, [1]⟩ {}, .mainQueue,
        .relaunch ["B"]] := by
  intro h
  have hstay := (picturesFound_along_iff_of_inv (inv_launch _ _) _).mp h
  rcases (((((hstay _ rfl).2 _ rfl).2 _ rfl).2) _ rfl).1 with hpath | hnone
  · rw [path_documentsPath, path_documentsPath, String.ofList_inj] at hpath
    exact absurd hpath (by decide)
  · exact absurd (hnone _ List.mem_cons_self) (by decide)

end Installation

end ImSplash
