import ImSplash.DataManager
import ImSplash.DownloadManager

/-!
# The List screen

The screen keeps two lists of snapshots, one for each tab.  `loadData` builds
both from the store and the registry; a heart tap writes to the store and then
brings the lists up to date by hand, in a way that depends on the tab.

A collection view is kept by the number of rows it knows, and `configured`
records the cells the screen asked to be configured again, which happens to
those that are on screen.
-/

namespace ImSplash

/-- The two tabs, each with its collection view. -/
inductive Tab
  | downloads
  | favorites
deriving DecidableEq, Repr

/-- `cell.configure(with:)` on the cell of a row, if that cell is on screen. -/
structure CellUpdate where
  tab : Tab
  row : Nat
  localItem : TransLocalImage
deriving DecidableEq, Repr

structure ListViewController where
  favList : List TransLocalImage := []
  dowList : List TransLocalImage := []
  isDisplayingDownload : Bool := true
  downloadRows : Nat := 0
  favoriteRows : Nat := 0
  configured : List CellUpdate := []

/-- The registry, as `getActiveDownloads` hands it out. -/
abbrev ActiveDownloads := AList (fun _ : URL => DownloadRequest)

/-- The entries in progress, in the order the dictionary is iterated in. -/
def downloadsInProgress (downloads : ActiveDownloads) : List DownloadRequest :=
  (downloads.entries.map Sigma.snd).filter (·.isDownloading)

theorem mem_downloadsInProgress {downloads : ActiveDownloads} {download : DownloadRequest} :
    download ∈ downloadsInProgress downloads ↔
      (∃ url, downloads.lookup url = some download) ∧ download.isDownloading = true := by
  unfold downloadsInProgress
  rw [List.mem_filter, List.mem_map]
  refine and_congr_left fun _ => ?_
  constructor
  · rintro ⟨⟨url, download⟩, hmem, rfl⟩
    exact ⟨url, AList.mem_lookup_iff.mpr hmem⟩
  · rintro ⟨url, h⟩
    exact ⟨⟨url, download⟩, AList.mem_lookup_iff.mp h, rfl⟩

namespace ListViewController
variable (screen : ListViewController)

/-- The row `loadData` makes for an entry in progress. -/
def downloadingItem (download : DownloadRequest) (favorite : Bool) : TransLocalImage :=
  { TransLocalImage.ofPhoto download.photo with isDownloading := true, favorite := favorite }

/-- The body of the loop over the entries in progress, on (`dowList`, `favList`). -/
def appendDownload (lists : List TransLocalImage × List TransLocalImage)
    (download : DownloadRequest) : List TransLocalImage × List TransLocalImage :=
  let favContains := (lists.2.filter (·.id = download.photo.identifier)).length > 0
  let dowList := lists.1 ++ [downloadingItem download favContains]
  if favContains then
    (dowList, lists.2 ++ [{ downloadingItem download true with progress := download.progress }])
  else (dowList, lists.2)

def loadData (realm : Realm) (downloads : ActiveDownloads) : ListViewController :=
  -- The records follow after the loop, which starts without any favourite.
  let lists := (downloadsInProgress downloads).foldl appendDownload ([], [])
  let dowList := lists.1 ++ (realm.objects.filter (·.isDownloaded)).map TransLocalImage.ofLocal
  let favList := lists.2 ++ (realm.objects.filter (·.favorite)).map TransLocalImage.ofLocal
  { screen with
    dowList := dowList
    favList := favList
    downloadRows := dowList.length
    favoriteRows := favList.length }

def configureCell (tab : Tab) (row : Nat) (localItem : TransLocalImage) : ListViewController :=
  { screen with configured := screen.configured ++ [⟨tab, row, localItem⟩] }

/-- The first row of a list with an id. -/
def firstRow (list : List TransLocalImage) (id : String) : Option (Nat × TransLocalImage) :=
  (list.find? (·.id = id)).map fun item => (list.findIdx (·.id = id), item)

def updateFavoriteForDownloads (changedItem : TransLocalImage) : ListViewController :=
  match firstRow screen.dowList changedItem.id with
  | none => screen
  | some (row, item) =>
    screen.configureCell .downloads row { changedItem with favorite := !item.favorite }

def updateFavoriteForFav (changedItem : TransLocalImage) (realm : Realm)
    (downloads : ActiveDownloads) : ListViewController :=
  match firstRow screen.favList changedItem.id with
  | none => screen.loadData realm downloads
  | some (row, item) =>
    screen.configureCell .favorites row { item with favorite := !item.favorite }

/-- `favList.removeAll(where:)` and `deleteItems(at:)` for the row that was tapped. -/
def removeFavorite (id : String) : ListViewController :=
  { screen with
    favList := screen.favList.filter (·.id ≠ id)
    favoriteRows := screen.favoriteRows - 1 }

/-- `changeFavorite(on:)` for the cell of a row of the tab on display; nothing
happens for a row the tab does not have. -/
def changeFavorite (row : Nat) (realm : Realm) (downloads : ActiveDownloads) :
    Option (ListViewController × Realm) :=
  if screen.isDisplayingDownload then
    match screen.dowList[row]? with
    | none => none
    | some localItem =>
      let realm := DataManager.changeLocalImageFavorite realm localItem.id
      some (screen.updateFavoriteForFav localItem realm downloads, realm)
  else
    match screen.favList[row]? with
    | none => none
    | some localItem =>
      let realm := DataManager.changeLocalImageFavorite realm localItem.id
      let screen := screen.updateFavoriteForDownloads localItem
      some (if localItem.favorite then screen.removeFavorite localItem.id else screen, realm)

/-- The rows of a tab. -/
def rows : Tab → List TransLocalImage
  | .downloads => screen.dowList
  | .favorites => screen.favList

/-- `touchBtnDownload` and `touchBtnFavorite`. -/
def touchTab (tab : Tab) : ListViewController :=
  { screen with isDisplayingDownload := tab = .downloads }

/-- `updateItemWithId(_:progress:)`: one row, of the first list that has the id. -/
def updateItemWithId (id : String) (progress : Progress) : ListViewController :=
  match firstRow screen.dowList id with
  | some (row, item) => screen.configureCell .downloads row { item with progress := progress }
  | none =>
    match firstRow screen.favList id with
    | some (row, item) => screen.configureCell .favorites row { item with progress := progress }
    | none => screen

variable {screen}

theorem foldl_appendDownload (downloads : List DownloadRequest) (dowList : List TransLocalImage) :
    downloads.foldl appendDownload (dowList, []) =
      (dowList ++ downloads.map (downloadingItem · false), []) := by
  -- `favList` stays empty, so no entry is found in it.
  induction downloads generalizing dowList with
  | nil => simp
  | cons download downloads ih =>
    rw [List.foldl_cons]
    have hstep : appendDownload (dowList, []) download =
        (dowList ++ [downloadingItem download false], []) := by
      simp [appendDownload]
    rw [hstep, ih]
    simp

theorem loadData_dowList (realm : Realm) (downloads : ActiveDownloads) :
    (screen.loadData realm downloads).dowList =
      (downloadsInProgress downloads).map (downloadingItem · false) ++
        (realm.objects.filter (·.isDownloaded)).map TransLocalImage.ofLocal := by
  simp [loadData, foldl_appendDownload]

theorem loadData_favList (realm : Realm) (downloads : ActiveDownloads) :
    (screen.loadData realm downloads).favList =
      (realm.objects.filter (·.favorite)).map TransLocalImage.ofLocal := by
  simp [loadData, foldl_appendDownload]

end ListViewController

end ImSplash
