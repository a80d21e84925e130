import ImSplash.Machine
import ImSplash.ListViewController

/-!
# The app as a machine

The Detail and List screens, the download manager with its background session,
the store, the files and the main queue, put together the way `AppDependencies`
wires them.  Events are what the outside can do: taps, the callbacks of the
session (on its own queue, at any time) and the main queue running its next
block.  `ListInteractor` is the delegate of the download manager and answers each
message with a block on the main queue.
-/

namespace ImSplash
open Runs

/-- A block on the main queue. -/
inductive MainBlock
  /-- `ListInteractor.didUpdateLocal`. -/
  | saveDownloadedFilePath (destinationURL id : String) (width height : Int)
  /-- `ListInteractor.progressIsChanged`. -/
  | updateItemWithId (id : String) (progress : Progress)
  /-- `ListViewController.viewWillAppear`. -/
  | loadData

/-- `ListInteractor` as `DownloadManagerDelegate`. -/
def ListInteractor.receive : DownloadManagerDelegate → MainBlock
  | .progressIsChanged progress id => .updateItemWithId id progress
  | .didUpdateLocal destinationURL id width height =>
    .saveDownloadedFilePath destinationURL id width height

structure App where
  realm : Realm := {}
  files : FileManager := ⟨fun _ => none⟩
  downloadManager : DownloadManager
  mainQueue : List MainBlock := []
  listViewController : ListViewController := {}
  /-- `DisplayUtils.getTopViewController()` is the List screen. -/
  listOnTop : Bool := false
  /-- The "Downloaded" alerts the Detail screen has shown. -/
  downloadedAlerts : Nat := 0

namespace App

/-- The app as it starts: a store and files from earlier, no transfer, no screen. -/
def launch (realm : Realm) (files : FileManager) (documentsPath : URL) : App where
  realm := realm
  files := files
  downloadManager := { documentsPath := documentsPath }

variable (app : App)

/-- `ListViewController.loadData`, on the current store and registry. -/
def loadData : App :=
  { app with
    listViewController :=
      app.listViewController.loadData app.realm app.downloadManager.activeDownloads }

/-- `ListWireframe.presentListInterface` pushes a new List screen, whose
`viewWillAppear` queues its first `loadData`. -/
def presentListInterface : App :=
  { app with
    listViewController := {}
    listOnTop := true
    mainQueue := app.mainQueue ++ [.loadData] }

/-- A tap on the heart of a row of a tab: the user goes to the tab and taps. -/
def touchHeart (tab : Tab) (row : Nat) : Option App :=
  let screen := app.listViewController.touchTab tab
  (screen.changeFavorite row app.realm app.downloadManager.activeDownloads).map
    fun (screen, realm) => { app with listViewController := screen, realm := realm }

/-- `DetailInteractor.changeFavorite`. -/
def changeFavorite (photo : UnsplashPhoto) : App :=
  { app with
    realm := DataManager.changeLocalImageFavoriteOfPhoto app.realm photo.identifier
      (((photo.urls .regular).map URL.absoluteString).getD "") photo.width photo.height }

/-- `DetailInteractor.downloadPhoto`. -/
def downloadPhoto (photo : UnsplashPhoto) : App :=
  if DataManager.isLocalImageDownloaded app.realm photo.identifier then
    { app with downloadedAlerts := app.downloadedAlerts + 1 }
  else { app with downloadManager := app.downloadManager.startDownload photo }

/-- A session callback that ends a task: the session has settled it. -/
def settle (task : TaskId) (status : TaskStatus) : App :=
  { app with
    downloadManager := { app.downloadManager with
      downloadsSession := app.downloadManager.downloadsSession.settle task status } }

/-- The delegate callback of a finished task, with the blocks it queues. -/
def didFinishDownloadingTo (sourceURL : URL) (location : ResponseBody) (disk : FileSystem) : App :=
  let (manager, files, messages) :=
    app.downloadManager.didFinishDownloadingTo app.files sourceURL location disk
  { app with
    downloadManager := manager
    files := files
    mainQueue := app.mainQueue ++ messages.map ListInteractor.receive }

def didWriteData (url : URL) (totalBytesWritten totalBytesExpectedToWrite : Int) : App :=
  let (manager, messages) :=
    app.downloadManager.didWriteData url totalBytesWritten totalBytesExpectedToWrite
  { app with
    downloadManager := manager
    mainQueue := app.mainQueue ++ messages.map ListInteractor.receive }

/-- A block of the main queue. -/
def runBlock : MainBlock → App
  | .saveDownloadedFilePath destinationURL id width height =>
    let app := { app with
      realm := DataManager.saveDownloadedFilePath app.realm destinationURL id width height }
    if app.listOnTop then app.loadData else app
  | .updateItemWithId id progress =>
    if app.listOnTop then
      { app with listViewController := app.listViewController.updateItemWithId id progress }
    else app
  | .loadData => app.loadData

variable {app}

/-- A block writes to the List screen; to the store only that of a finished download does. -/
theorem runBlock_cases (app : App) (block : MainBlock) :
    ∃ screen, app.runBlock block = { app with
      listViewController := screen
      realm :=
        match block with
        | .saveDownloadedFilePath destinationURL id width height =>
          DataManager.saveDownloadedFilePath app.realm destinationURL id width height
        | _ => app.realm } := by
  cases block with
  | loadData => exact ⟨_, rfl⟩
  | saveDownloadedFilePath destinationURL id width height =>
    simp only [runBlock]
    split <;> exact ⟨_, rfl⟩
  | updateItemWithId id progress =>
    simp only [runBlock]
    split <;> exact ⟨_, rfl⟩

@[simp] theorem runBlock_downloadManager (block : MainBlock) :
    (app.runBlock block).downloadManager = app.downloadManager := by
  obtain ⟨screen, heq⟩ := app.runBlock_cases block
  rw [heq]

@[simp] theorem runBlock_files (block : MainBlock) : (app.runBlock block).files = app.files := by
  obtain ⟨screen, heq⟩ := app.runBlock_cases block
  rw [heq]

@[simp] theorem runBlock_mainQueue (block : MainBlock) :
    (app.runBlock block).mainQueue = app.mainQueue := by
  obtain ⟨screen, heq⟩ := app.runBlock_cases block
  rw [heq]

theorem runBlock_realm (block : MainBlock) :
    (app.runBlock block).realm =
      match block with
      | .saveDownloadedFilePath destinationURL id width height =>
        DataManager.saveDownloadedFilePath app.realm destinationURL id width height
      | _ => app.realm := by
  obtain ⟨screen, heq⟩ := app.runBlock_cases block
  rw [heq]

/-- A heart tap writes to the store, at the id of the row, and to the screen. -/
theorem touchHeart_cases {tab : Tab} {row : Nat} {t : App} (h : app.touchHeart tab row = some t) :
    ∃ screen item, (app.listViewController.rows tab)[row]? = some item ∧ t = { app with
      listViewController := screen
      realm := DataManager.changeLocalImageFavorite app.realm item.id } := by
  obtain ⟨⟨screen, realm⟩, hchange, rfl⟩ := Option.map_eq_some_iff.mp h
  cases tab with
  | downloads | favorites =>
    simp only [ListViewController.changeFavorite, ListViewController.touchTab, reduceCtorEq,
      decide_true, decide_false, if_true, Bool.false_eq_true, if_false] at hchange
    split at hchange
    · cases hchange
    · rename_i item hitem
      simp only [Option.some.injEq, Prod.mk.injEq] at hchange
      obtain ⟨rfl, rfl⟩ := hchange
      exact ⟨_, item, hitem, rfl⟩

theorem touchHeart_downloadManager {tab : Tab} {row : Nat} {t : App}
    (h : app.touchHeart tab row = some t) : t.downloadManager = app.downloadManager := by
  obtain ⟨screen, item, -, rfl⟩ := touchHeart_cases h
  rfl

end App

/-- What can happen on the List screen. -/
inductive ListEvent
  | loadData
  | touchHeart (tab : Tab) (row : Nat)

/-- The operations of the download manager that no screen calls. -/
inductive ControlEvent
  | startDownload (photo : UnsplashPhoto)
  | pauseDownload (photo : UnsplashPhoto)
  | resumeDownload (photo : UnsplashPhoto)
  | cancelDownload (photo : UnsplashPhoto)

/-- What the session reports of a task.  The download manager implements the
first two; for `didCompleteWithError` it has no method. -/
inductive SessionEvent
  | didFinishDownloadingTo (task : TaskId) (location : ResponseBody) (disk : FileSystem)
  | didWriteData (task : TaskId) (totalBytesWritten totalBytesExpectedToWrite : Int)
  | didCompleteWithError (task : TaskId)

inductive AppEvent
  | presentListInterface
  /-- The List screen is popped. -/
  | dismissListInterface
  | list (event : ListEvent)
  /-- The heart of the Detail screen. -/
  | changeFavorite (photo : UnsplashPhoto)
  /-- The download button of the Detail screen. -/
  | downloadPhoto (photo : UnsplashPhoto)
  | control (event : ControlEvent)
  /-- The resume data of a paused task has been cut. -/
  | didProduceResumeData (url : URL) (identity : Nat) (data : Option Data)
  | session (event : SessionEvent)
  /-- The main queue runs its next block. -/
  | mainQueue

namespace App

def stepList (app : App) : ListEvent → Option App
  | .loadData => some app.loadData
  | .touchHeart tab row => app.touchHeart tab row

def stepControl (app : App) : ControlEvent → App
  | .startDownload photo =>
    { app with downloadManager := app.downloadManager.startDownload photo }
  | .pauseDownload photo =>
    { app with downloadManager := app.downloadManager.pauseDownload photo }
  | .resumeDownload photo =>
    { app with downloadManager := app.downloadManager.resumeDownload photo }
  | .cancelDownload photo =>
    { app with downloadManager := app.downloadManager.cancelDownload photo }

/-- The task a callback is about, if callbacks of it may still come. -/
def outstanding? (app : App) (task : TaskId) : Option DownloadTask :=
  app.downloadManager.downloadsSession.outstanding? task

def stepSession (app : App) : SessionEvent → Option App
  | .didFinishDownloadingTo task location disk =>
    (app.outstanding? task).map fun request =>
      (app.settle task .finished).didFinishDownloadingTo request.originalURL location disk
  | .didWriteData task totalBytesWritten totalBytesExpectedToWrite =>
    (app.outstanding? task).map fun request =>
      app.didWriteData request.originalURL totalBytesWritten totalBytesExpectedToWrite
  | .didCompleteWithError task =>
    (app.outstanding? task).map fun _ => app.settle task .failed

/-- The app, one event at a time. -/
def machine : Machine App AppEvent where
  step app
    | .presentListInterface => some app.presentListInterface
    | .dismissListInterface => some { app with listOnTop := false }
    | .list event => app.stepList event
    | .changeFavorite photo => some (app.changeFavorite photo)
    | .downloadPhoto photo => some (app.downloadPhoto photo)
    | .control event => some (app.stepControl event)
    | .didProduceResumeData url identity data =>
      some { app with
        downloadManager := app.downloadManager.didProduceResumeData url identity data }
    | .session event => app.stepSession event
    | .mainQueue =>
      match app.mainQueue with
      | [] => none
      | block :: rest => some ({ app with mainQueue := rest }.runBlock block)

/-- Everything but the operations that no screen calls. -/
def isOfScreens : AppEvent → Bool
  | .control _ | .didProduceResumeData _ _ _ => false
  | _ => true

/-- The app as its screens drive it. -/
def screens : Machine App AppEvent := machine.restrict isOfScreens

/-- The main queue runs the block that waits longest, if one does. -/
theorem mainQueue_eq_some {app t : App} :
    machine.step app .mainQueue = some t ↔ ∃ block rest, app.mainQueue = block :: rest ∧
      t = ({ app with mainQueue := rest } : App).runBlock block := by
  simp only [machine]
  cases app.mainQueue with
  | nil => simp
  | cons block rest =>
    constructor
    · intro h
      exact ⟨block, rest, rfl, (Option.some.inj h).symm⟩
    · rintro ⟨_, _, ⟨⟩, rfl⟩
      rfl

theorem outstanding?_eq_some {app : App} {task : TaskId} {request : DownloadTask} :
    app.outstanding? task = some request ↔
      app.downloadManager.downloadsSession.Outstanding task request :=
  TaskTable.outstanding?_eq_some

/-- A condition on the request of an outstanding task is one on that request. -/
theorem forall_outstanding?_iff {app : App} {task : TaskId} {request : DownloadTask}
    (hrequest : app.outstanding? task = some request) {condition : DownloadTask → Prop} :
    (∀ request', app.outstanding? task = some request' → condition request') ↔
      condition request := by
  simp only [hrequest, Option.some.injEq, forall_eq']

end App

end ImSplash
