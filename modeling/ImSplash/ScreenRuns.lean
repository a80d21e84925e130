import ImSplash.OneTransfer

/-!
# The app as its screens drive it

No screen pauses, resumes or cancels: the registry changes by the download
button of the Detail screen and by the callbacks of the session.  `ScreenStep`
says once what an event of the screens can do to the registry and to what the
store has recorded; `ScreenInvariant` is what every such step keeps, and what the
results about retries and about the handover to the store rest on.
-/

namespace ImSplash
open Runs

namespace App
variable (app : App)

/-- The store has recorded a photo as downloaded. -/
abbrev Recorded (id : String) : Prop := DataManager.isLocalImageDownloaded app.realm id = true

/-- What an event of the screens can do. -/
inductive ScreenStep : AppEvent → App → Prop
  /-- The registry stays, and what is recorded stays recorded. -/
  | quiet {e : AppEvent} {t : App} (hevent : ∀ event, e ≠ .session event)
      (hmanager : t.downloadManager = app.downloadManager)
      (hrecorded : ∀ id, app.Recorded id → t.Recorded id) : ScreenStep e t
  | start (photo : UnsplashPhoto) (hnew : ¬ app.Recorded photo.identifier) :
      ScreenStep (.downloadPhoto photo)
        { app with downloadManager := app.downloadManager.startDownload photo }
  | finish (task : TaskId) (request : DownloadTask) (location : ResponseBody) (disk : FileSystem)
      (houtstanding : app.downloadManager.downloadsSession.Outstanding task request) :
      ScreenStep (.session (.didFinishDownloadingTo task location disk))
        ((app.settle task .finished).didFinishDownloadingTo request.originalURL location disk)
  | write (task : TaskId) (url : URL) (totalBytesWritten totalBytesExpectedToWrite : Int) :
      ScreenStep (.session (.didWriteData task totalBytesWritten totalBytesExpectedToWrite))
        (app.didWriteData url totalBytesWritten totalBytesExpectedToWrite)
  | fail (task : TaskId) (request : DownloadTask)
      (houtstanding : app.downloadManager.downloadsSession.Outstanding task request) :
      ScreenStep (.session (.didCompleteWithError task)) (app.settle task .failed)

variable {app}

/-- No heart and no block of the main queue takes a record of a download away. -/
theorem recorded_touchHeart {tab : Tab} {row : Nat} {t : App}
    (h : app.touchHeart tab row = some t) (id : String) : t.Recorded id ↔ app.Recorded id := by
  obtain ⟨screen, item, -, rfl⟩ := touchHeart_cases h
  show DataManager.isLocalImageDownloaded _ id = true ↔ _
  rw [DataManager.isLocalImageDownloaded_changeLocalImageFavorite]

theorem recorded_runBlock {block : MainBlock} {id : String} (h : app.Recorded id) :
    (app.runBlock block).Recorded id := by
  show DataManager.isLocalImageDownloaded _ id = true
  rw [runBlock_realm]
  cases block with
  | loadData | updateItemWithId => exact h
  | saveDownloadedFilePath destinationURL k width height =>
    rw [DataManager.isLocalImageDownloaded_saveDownloadedFilePath, h, Bool.or_true]

/-- **What a step of the screens does.** -/
theorem screenStep_of_step {t : App} {e : AppEvent} (hstep : screens.step app e = some t) :
    app.ScreenStep e t := by
  obtain ⟨hscreen, hstep⟩ := Machine.restrict_step.mp hstep
  cases e with
  | presentListInterface | dismissListInterface =>
    obtain rfl := Option.some.inj hstep
    exact .quiet (by simp) rfl fun _ h => h
  | list event =>
    cases event with
    | loadData =>
      obtain rfl := Option.some.inj hstep
      exact .quiet (by simp) rfl fun _ h => h
    | touchHeart tab row =>
      exact .quiet (by simp) (touchHeart_downloadManager hstep)
        fun id h => (recorded_touchHeart hstep id).mpr h
  | changeFavorite photo =>
    obtain rfl := Option.some.inj hstep
    refine .quiet (by simp) rfl fun id h => ?_
    show DataManager.isLocalImageDownloaded _ id = true
    rw [changeFavorite, DataManager.isLocalImageDownloaded_changeLocalImageFavoriteOfPhoto]
    exact h
  | downloadPhoto photo =>
    obtain rfl := Option.some.inj hstep
    by_cases hrecorded : app.Recorded photo.identifier
    · refine .quiet (by simp) ?_ ?_
      · simp only [downloadPhoto, if_pos hrecorded]
      · simp only [downloadPhoto, if_pos hrecorded]
        exact fun _ h => h
    · have heq : app.downloadPhoto photo =
          { app with downloadManager := app.downloadManager.startDownload photo } := by
        simp only [downloadPhoto, if_neg hrecorded]
      rw [heq]
      exact .start photo hrecorded
  | control | didProduceResumeData => cases hscreen
  | session event =>
    cases event with
    | didFinishDownloadingTo task location disk =>
      obtain ⟨request, hrequest, rfl⟩ := Option.map_eq_some_iff.mp hstep
      exact .finish task request location disk (outstanding?_eq_some.mp hrequest)
    | didWriteData task totalBytesWritten totalBytesExpectedToWrite =>
      obtain ⟨request, -, rfl⟩ := Option.map_eq_some_iff.mp hstep
      exact .write task request.originalURL _ _
    | didCompleteWithError task =>
      obtain ⟨request, hrequest, rfl⟩ := Option.map_eq_some_iff.mp hstep
      exact .fail task request (outstanding?_eq_some.mp hrequest)
  | mainQueue =>
    obtain ⟨block, rest, -, rfl⟩ := mainQueue_eq_some.mp hstep
    exact .quiet (by simp) (runBlock_downloadManager _) fun id h => recorded_runBlock h

end App

/-! ### What every step of the screens keeps -/

namespace DownloadManager
variable (manager : DownloadManager)

/-- What the registry and the session keep to while the screens drive the manager. -/
structure ScreenInvariant : Prop where
  oneTransfer : manager.OneTransfer
  notCancelled : ∀ i task, manager.downloadsSession.find? i = some task → task.status ≠ .cancelled
  downloading : ∀ url download, manager.activeDownloads.lookup url = some download →
    download.isDownloading = true
  raw : ∀ i task, manager.downloadsSession.find? i = some task →
    task.request.photo.urls .raw = some task.request.originalURL
  photo : ∀ i request download, manager.downloadsSession.Running i request →
    manager.activeDownloads.lookup request.originalURL = some download →
      download.photo = request.photo

variable {manager}

/-- Nothing is cancelled, so a task whose callbacks may come is running. -/
theorem ScreenInvariant.running (h : manager.ScreenInvariant) {task : TaskId}
    {request : DownloadTask} (houtstanding : manager.downloadsSession.Outstanding task request) :
    manager.downloadsSession.Running task request := by
  obtain ⟨⟨request, status⟩, hfind, rfl, hstatus⟩ := houtstanding
  cases status with
  | running => exact hfind
  | cancelled => exact absurd rfl (h.notCancelled task _ hfind)
  | finished | failed => cases hstatus

/-- A settled task keeps its request, and its new status is the one it was given. -/
theorem find?_of_settle {task : TaskId} {status : TaskStatus} {i : TaskId}
    {found : SessionTask DownloadTask}
    (hfind : (manager.downloadsSession.settle task status).find? i = some found) :
    ∃ old, manager.downloadsSession.find? i = some old ∧ old.request = found.request ∧
      found.status = if i = task then status else old.status := by
  rw [TaskTable.find?_settle] at hfind
  by_cases hi : i = task
  · rw [if_pos hi] at hfind
    obtain ⟨old, hold, rfl⟩ := Option.map_eq_some_iff.mp hfind
    exact ⟨old, hold, rfl, by rw [if_pos hi]⟩
  · rw [if_neg hi] at hfind
    exact ⟨found, hfind, rfl, by rw [if_neg hi]⟩

theorem ScreenInvariant.startDownload (h : manager.ScreenInvariant) (photo : UnsplashPhoto) :
    (manager.startDownload photo).ScreenInvariant := by
  have hone := h.oneTransfer.startDownload photo
  rcases startDownload_cases photo with ⟨heq, -⟩ | ⟨url, hraw, hlookup, heq⟩
  · rw [heq]
    exact h
  · rw [heq] at hone ⊢
    refine ⟨hone, ?_, ?_, ?_, ?_⟩
    · intro i task hfind
      rw [TaskTable.find?_create] at hfind
      split at hfind
      · obtain rfl := Option.some.inj hfind
        simp
      · exact h.notCancelled i task hfind
    · intro u download hfound
      rcases lookup_insert_eq_some.mp hfound with ⟨-, rfl⟩ | ⟨-, hold⟩
      · rfl
      · exact h.downloading u download hold
    · intro i task hfind
      rw [TaskTable.find?_create] at hfind
      split at hfind
      · obtain rfl := Option.some.inj hfind
        exact hraw
      · exact h.raw i task hfind
    · intro i request download hrunning hfound
      rcases TaskTable.running_create.mp hrunning with hrunning | ⟨-, rfl⟩
      · -- A task that runs is registered, and `url` was not.
        have hu : request.originalURL ≠ url := by
          intro hu
          obtain ⟨old, hold, -⟩ := h.oneTransfer.registered i url ⟨request, hrunning, hu⟩
          rw [hlookup] at hold
          cases hold
        rw [AList.lookup_insert_ne hu] at hfound
        exact h.photo i request download hrunning hfound
      · rw [AList.lookup_insert] at hfound
        obtain rfl := Option.some.inj hfound
        rfl

theorem ScreenInvariant.didWriteData (h : manager.ScreenInvariant) (url : URL)
    (totalBytesWritten totalBytesExpectedToWrite : Int) :
    (manager.didWriteData url totalBytesWritten totalBytesExpectedToWrite).1.ScreenInvariant := by
  have hsession :=
    manager.didWriteData_downloadsSession url totalBytesWritten totalBytesExpectedToWrite
  refine ⟨h.oneTransfer.didWriteData url _ _, ?_, ?_, ?_, ?_⟩
  · rw [hsession]
    exact h.notCancelled
  · intro u download hfound
    obtain ⟨old, hold, heq⟩ := lookup_didWriteData hfound
    rw [heq]
    exact h.downloading u old hold
  · rw [hsession]
    exact h.raw
  · rw [hsession]
    intro i request download hrunning hfound
    obtain ⟨old, hold, heq⟩ := lookup_didWriteData hfound
    rw [heq]
    exact h.photo i request old hrunning hold

theorem ScreenInvariant.fail (h : manager.ScreenInvariant) (task : TaskId) :
    ({ manager with downloadsSession := manager.downloadsSession.settle task .failed } :
      DownloadManager).ScreenInvariant := by
  refine ⟨h.oneTransfer.settle task (by decide), ?_, h.downloading, ?_, ?_⟩
  · intro i found hfind
    obtain ⟨old, hold, -, hstatus⟩ := find?_of_settle hfind
    rw [hstatus]
    split
    · decide
    · exact h.notCancelled i old hold
  · intro i found hfind
    obtain ⟨old, hold, hrequest, -⟩ := find?_of_settle hfind
    rw [← hrequest]
    exact h.raw i old hold
  · intro i request download hrunning
    exact h.photo i request download ((TaskTable.running_settle (by decide)).mp hrunning).1

theorem ScreenInvariant.finish (h : manager.ScreenInvariant) {task : TaskId}
    {request : DownloadTask} (hrunning : manager.downloadsSession.Running task request) :
    ({ manager with
        downloadsSession := manager.downloadsSession.settle task .finished
        activeDownloads := manager.activeDownloads.erase request.originalURL } :
          DownloadManager).ScreenInvariant := by
  have hone := (h.oneTransfer.didFinishDownloadingTo_iff task request.originalURL).mpr
    fun i hi hlive => hi (h.oneTransfer.unique i task _ hlive ⟨request, hrunning, rfl⟩)
  refine ⟨hone, ?_, ?_, ?_, ?_⟩
  · intro i found hfind
    obtain ⟨old, hold, -, hstatus⟩ := find?_of_settle hfind
    rw [hstatus]
    split
    · decide
    · exact h.notCancelled i old hold
  · intro u download hfound
    exact h.downloading u download (lookup_erase_eq_some.mp hfound).2
  · intro i found hfind
    obtain ⟨old, hold, hrequest, -⟩ := find?_of_settle hfind
    rw [← hrequest]
    exact h.raw i old hold
  · intro i request' download hrunning' hfound
    exact h.photo i request' download ((TaskTable.running_settle (by decide)).mp hrunning').1
      (lookup_erase_eq_some.mp hfound).2

end DownloadManager

/-- **The screens keep their invariant.** -/
theorem App.ScreenStep.screenInvariant {app t : App} {e : AppEvent}
    (h : app.downloadManager.ScreenInvariant) (hstep : app.ScreenStep e t) :
    t.downloadManager.ScreenInvariant := by
  cases hstep with
  | quiet _ hmanager _ =>
    rw [hmanager]
    exact h
  | start photo _ => exact h.startDownload photo
  | finish task request location disk houtstanding => exact h.finish (h.running houtstanding)
  | write task url totalBytesWritten totalBytesExpectedToWrite =>
    exact h.didWriteData url totalBytesWritten totalBytesExpectedToWrite
  | fail task request _ => exact h.fail task

theorem App.screenInvariant_launch (realm : Realm) (files : FileManager) (documentsPath : URL) :
    (App.launch realm files documentsPath).downloadManager.ScreenInvariant := by
  refine ⟨oneTransfer_launch realm files documentsPath, ?_, ?_, ?_, ?_⟩
  · intro _ _ hfind
    cases hfind
  · intro _ _ hfound
    cases hfound
  · intro _ _ hfind
    cases hfind
  · intro _ _ _ hrunning
    cases hrunning

end ImSplash
