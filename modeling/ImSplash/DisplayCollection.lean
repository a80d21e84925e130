import ImSplash.ListViewController
import Mathlib.Data.List.Forall2

/-!
# The List screen by way of its presenter

`ListInteractor.loadData` hands the entries in progress and the records to the presenter,
which makes a `DisplayCollection` for each tab.  `ListViewController.loadData` builds its
lists from the same three inputs by itself.  The two ways differ for an entry in progress:
the view controller asks for its favourites before it has collected any, and takes neither
the flag nor the progress over.
-/

namespace ImSplash

structure DisplayItem where
  localItem : Option TransLocalImage := none
  download : Option DownloadRequest := none
  isFavorite : Bool := false

structure DisplayCollection where
  items : List DisplayItem := []

namespace DisplayCollection

/-- `init(favList:downloads:)`. -/
def ofFavorites (favList : List TransLocalImage) (downloads : List DownloadRequest) :
    DisplayCollection where
  items := favList.map fun item =>
    match (downloads.filter (·.photo.identifier = item.id)).head? with
    | some download => { download := some download, isFavorite := true }
    | none => { localItem := some item, isFavorite := true }

/-- `init(downloads:downloadedList:favList:)`. -/
def ofDownloads (downloads : List DownloadRequest) (downloadedList favList : List TransLocalImage) :
    DisplayCollection where
  items :=
    (downloads.map fun item =>
      let favContains := (favList.filter (·.id = item.photo.identifier)).length > 0
      { download := some item, isFavorite := favContains }) ++
    downloadedList.map fun item => { localItem := some item, isFavorite := item.favorite }

end DisplayCollection

/-- `didReceiveDownloadList(_:downloadedList:favList:)`: the collections of the Favourites
and of the Downloads tab. -/
def ListPresenter.didReceiveDownloadList (downloads : List DownloadRequest)
    (downloadedList favList : List TransLocalImage) : DisplayCollection × DisplayCollection :=
  (.ofFavorites favList downloads, .ofDownloads downloads downloadedList favList)

/-- `ListInteractor.loadData()`, and what its output makes of it. -/
def ListInteractor.loadData (realm : Realm) (downloads : ActiveDownloads) :
    DisplayCollection × DisplayCollection :=
  let lists := DataManager.getDataCollection realm
  ListPresenter.didReceiveDownloadList (downloadsInProgress downloads) lists.1 lists.2

namespace ListViewController
variable (screen : ListViewController)

variable {screen}

end ListViewController

end ImSplash
