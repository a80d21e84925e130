import ImSplash.App

/-!
# The saves that wait on the main queue

Of the blocks on the main queue only those of finished downloads write to the store.
`saves` lists them in their order, and `drain` lets the queue run until it is empty: what
the store then holds is what it held, with the saves made one after the other.
-/

namespace ImSplash
open Runs

/-- What the block of a finished download is to record. -/
structure PendingSave where
  destinationURL : String
  id : String
  width : Int
  height : Int
deriving DecidableEq, Repr

def MainBlock.save? : MainBlock → Option PendingSave
  | .saveDownloadedFilePath destinationURL id width height =>
    some ⟨destinationURL, id, width, height⟩
  | .updateItemWithId _ _ | .loadData => none

namespace Realm
variable (realm : Realm)

def save (save : PendingSave) : Realm :=
  DataManager.saveDownloadedFilePath realm save.destinationURL save.id save.width save.height

/-- The path of the record of an id, if the record is downloaded. -/
def downloadedPath (id : String) : Option String :=
  (realm.object id).bind fun item => if item.isDownloaded then item.localImagePath else none

variable {realm}

theorem downloadedPath_eq_some {id path : String} :
    realm.downloadedPath id = some path ↔ ∃ item, realm.object id = some item ∧
      item.isDownloaded = true ∧ item.localImagePath = some path := by
  simp only [downloadedPath, Option.bind_eq_some_iff, Option.ite_none_right_eq_some]

/-- A save gives its own id its path and leaves every other id alone. -/
theorem downloadedPath_save (save : PendingSave) (id : String) :
    (realm.save save).downloadedPath id =
      if id = save.id then some save.destinationURL else realm.downloadedPath id := by
  rw [Realm.save, downloadedPath, DataManager.saveDownloadedFilePath, object_writeObject]
  split
  · cases realm.object save.id <;> rfl
  · rfl

end Realm

namespace App
variable (app : App)

/-- The saves that wait, in the order they will be made in. -/
def saves : List PendingSave := app.mainQueue.filterMap MainBlock.save?

/-- The main queue runs the blocks that are on it. -/
def drainBlocks : List MainBlock → App → App
  | [], app => app
  | block :: rest, app => drainBlocks rest (({ app with mainQueue := rest } : App).runBlock block)

/-- The app once its main queue has run empty. -/
def drain : App := drainBlocks app.mainQueue app

/-- The path of the file that a task for a URL leaves. -/
def downloadPath (sourceURL : URL) : String :=
  (app.downloadManager.localFilePath sourceURL).absoluteString

/-- The registry has an entry of the photo id under the URL. -/
def HasEntry (url : URL) (id : String) : Prop :=
  ∃ download, app.downloadManager.activeDownloads.lookup url = some download ∧
    download.photo.identifier = id

variable {app}

theorem mem_saves {save : PendingSave} : save ∈ app.saves ↔
    .saveDownloadedFilePath save.destinationURL save.id save.width save.height ∈
      app.mainQueue := by
  simp only [saves, List.mem_filterMap]
  constructor
  · rintro ⟨block, hblock, hsave⟩
    cases block with
    | saveDownloadedFilePath destinationURL id width height =>
      obtain rfl := Option.some.inj hsave
      exact hblock
    | updateItemWithId | loadData => cases hsave
  · intro hmem
    exact ⟨_, hmem, rfl⟩

/-! ### What the operations queue -/

theorem saves_cons {block : MainBlock} {rest : List MainBlock}
    (hqueue : app.mainQueue = block :: rest) :
    app.saves = block.save?.toList ++ rest.filterMap MainBlock.save? := by
  rw [saves, hqueue, List.filterMap_cons]
  cases block.save? <;> rfl

@[simp] theorem presentListInterface_saves : app.presentListInterface.saves = app.saves := by
  simp [saves, presentListInterface, MainBlock.save?]

theorem runBlock_saves (block : MainBlock) : (app.runBlock block).saves = app.saves := by
  rw [saves, runBlock_mainQueue, saves]

theorem runBlock_realm_eq (block : MainBlock) :
    (app.runBlock block).realm = block.save?.toList.foldl Realm.save app.realm := by
  rw [runBlock_realm]
  cases block <;> rfl

/-- A finish queues a save when its URL has an entry, for the photo of that entry. -/
theorem didFinishDownloadingTo_saves (sourceURL : URL) (location : ResponseBody)
    (disk : FileSystem) :
    (app.didFinishDownloadingTo sourceURL location disk).saves = app.saves ++
      ((app.downloadManager.activeDownloads.lookup sourceURL).map fun download =>
        (⟨(app.downloadManager.localFilePath sourceURL).absoluteString, download.photo.identifier,
          download.photo.width, download.photo.height⟩ : PendingSave)).toList := by
  simp only [saves, didFinishDownloadingTo, DownloadManager.didFinishDownloadingTo]
  cases app.downloadManager.activeDownloads.lookup sourceURL with
  | none => simp
  | some download => simp [ListInteractor.receive, MainBlock.save?]

theorem didWriteData_saves (url : URL) (totalBytesWritten totalBytesExpectedToWrite : Int) :
    (app.didWriteData url totalBytesWritten totalBytesExpectedToWrite).saves = app.saves := by
  simp only [saves, didWriteData, DownloadManager.didWriteData]
  cases app.downloadManager.activeDownloads.lookup url with
  | none => simp
  | some download => simp [ListInteractor.receive, MainBlock.save?]

/-! ### The queue run empty -/

/-- Draining is what the machine does on the main queue alone. -/
theorem run_drain (app : App) :
    machine.Run app (List.replicate app.mainQueue.length .mainQueue) app.drain := by
  have hrun : ∀ queue app, app.mainQueue = queue →
      machine.Run app (List.replicate queue.length .mainQueue) (drainBlocks queue app) := by
    intro queue
    -- On the blocks that are left; running one queues no other.
    induction queue with
    | nil => exact fun app _ => .nil app
    | cons block rest ih =>
      intro app hqueue
      rw [List.length_cons, List.replicate_succ]
      refine .cons ?_ (ih _ (runBlock_mainQueue block))
      exact mainQueue_eq_some.mpr ⟨block, rest, hqueue, rfl⟩
  exact hrun app.mainQueue app rfl

theorem drainBlocks_cases (queue : List MainBlock) (app : App) :
    (drainBlocks queue app).downloadManager = app.downloadManager ∧
      (drainBlocks queue app).files = app.files ∧
      (drainBlocks queue app).realm =
        (queue.filterMap MainBlock.save?).foldl Realm.save app.realm := by
  induction queue generalizing app with
  | nil => exact ⟨rfl, rfl, rfl⟩
  | cons block rest ih =>
    obtain ⟨hmanager, hfiles, hrealm⟩ := ih (({ app with mainQueue := rest } : App).runBlock block)
    refine ⟨?_, ?_, ?_⟩
    · rw [drainBlocks, hmanager, runBlock_downloadManager]
    · rw [drainBlocks, hfiles, runBlock_files]
    · rw [drainBlocks, hrealm, runBlock_realm_eq, ← List.foldl_append, List.filterMap_cons]
      cases block.save? <;> rfl

/-- **What the drained app has stored**: the saves are made in their order. -/
theorem drain_realm (app : App) : app.drain.realm = app.saves.foldl Realm.save app.realm :=
  (drainBlocks_cases app.mainQueue app).2.2

@[simp] theorem drain_files (app : App) : app.drain.files = app.files :=
  (drainBlocks_cases app.mainQueue app).2.1

/-- With an empty queue there is nothing to wait for. -/
theorem drain_of_mainQueue_nil (h : app.mainQueue = []) : app.drain = app := by
  rw [drain, h]
  rfl

/-- The next block leads to the same store. -/
theorem runBlock_drain_realm {block : MainBlock} {rest : List MainBlock}
    (hqueue : app.mainQueue = block :: rest) :
    (({ app with mainQueue := rest } : App).runBlock block).drain.realm = app.drain.realm := by
  rw [drain_realm, drain_realm, runBlock_realm_eq, runBlock_saves, saves_cons hqueue,
    List.foldl_append]
  rfl

@[simp] theorem settle_drain_realm (task : TaskId) (status : TaskStatus) :
    (app.settle task status).drain.realm = app.drain.realm := by
  rw [drain_realm, drain_realm]
  rfl

/-- **What a finish will have recorded**: the photo of its entry, if it has one, at the path
of the task. -/
theorem finish_drain_downloadedPath (task : TaskId) (sourceURL : URL) (location : ResponseBody)
    (disk : FileSystem) (id : String) :
    (app.HasEntry sourceURL id → ((app.settle task .finished).didFinishDownloadingTo sourceURL
      location disk).drain.realm.downloadedPath id = some (app.downloadPath sourceURL)) ∧
    (¬ app.HasEntry sourceURL id → ((app.settle task .finished).didFinishDownloadingTo sourceURL
      location disk).drain.realm.downloadedPath id = app.drain.realm.downloadedPath id) := by
  have hrealm : ((app.settle task .finished).didFinishDownloadingTo sourceURL location
      disk).drain.realm = ((app.downloadManager.activeDownloads.lookup sourceURL).map
        fun download => (⟨app.downloadPath sourceURL, download.photo.identifier,
          download.photo.width, download.photo.height⟩ : PendingSave)).toList.foldl Realm.save
            app.drain.realm := by
    rw [drain_realm, drain_realm, didFinishDownloadingTo_saves, List.foldl_append]
    rfl
  -- Its save is the last one, so it is the one that counts for its id.
  rw [hrealm]
  unfold HasEntry
  cases app.downloadManager.activeDownloads.lookup sourceURL with
  | none => simp
  | some download =>
    simp only [Option.map_some, Option.toList_some, List.foldl_cons, List.foldl_nil,
      Realm.downloadedPath_save, Option.some.injEq, exists_eq_left']
    exact ⟨fun hid => if_pos hid.symm, fun hid => if_neg fun h => hid h.symm⟩

theorem didWriteData_drain_realm (url : URL) (totalBytesWritten totalBytesExpectedToWrite : Int) :
    (app.didWriteData url totalBytesWritten totalBytesExpectedToWrite).drain.realm =
      app.drain.realm := by
  rw [drain_realm, drain_realm, didWriteData_saves]
  rfl

end App

end ImSplash
