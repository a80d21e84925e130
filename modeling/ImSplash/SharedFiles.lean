import ImSplash.SavedFiles
import ImSplash.Saves
import ImSplash.ScreenRuns

/-!
# Do saved pictures overwrite each other?

A transfer is kept by its raw URL, a record by the id of its photo, and a file by the last
path component of the URL alone.  So two photos share a file when the last components of
their URLs are the same once they are decoded, a slash at the end left out, and the one
downloaded later leaves its bytes to both.
-/

namespace ImSplash
open Runs

/-! ### Local file paths -/

namespace DownloadManager
variable {manager : DownloadManager}

/-- What is downloaded from two URLs is saved to one file. -/
def SavedToOneFile (manager : DownloadManager) (url url' : URL) : Prop :=
  (manager.localFilePath url).filePath = (manager.localFilePath url').filePath

theorem startDownload_documentsPath (photo : UnsplashPhoto) :
    (manager.startDownload photo).documentsPath = manager.documentsPath := by
  rcases manager.startDownload_cases photo with ⟨heq, -⟩ | ⟨url, -, -, heq⟩
  · rw [heq]
  · rw [heq]

end DownloadManager

/-! ### The downloads of the app -/

/-- Every downloaded record has a path. -/
def Realm.PathsKnown (realm : Realm) : Prop :=
  ∀ item ∈ realm.objects, item.isDownloaded = true → item.localImagePath.isSome

theorem Realm.PathsKnown.save {realm : Realm} (h : realm.PathsKnown) (save : PendingSave) :
    (realm.save save).PathsKnown := by
  intro item hitem hdownloaded
  rw [Realm.save] at hitem
  rcases Realm.mem_writeObject hitem with rfl | hold
  · cases realm.object save.id <;> rfl
  · exact h item hold hdownloaded

theorem Realm.PathsKnown.foldl_save {realm : Realm} (h : realm.PathsKnown)
    (saves : List PendingSave) : (saves.foldl Realm.save realm).PathsKnown := by
  induction saves generalizing realm with
  | nil => exact h
  | cons save saves ih => exact ih (h.save save)

/-- The path of a downloaded record is what is known of its id. -/
theorem Realm.PathsKnown.downloadedPath {realm : Realm} (h : realm.PathsKnown)
    {item : LocalImage} (hitem : item ∈ realm.objects) (hdownloaded : item.isDownloaded = true) :
    ∃ path, item.localImagePath = some path ∧ realm.downloadedPath item.id = some path := by
  obtain ⟨path, hpath⟩ := Option.isSome_iff_exists.mp (h item hitem hdownloaded)
  refine ⟨path, hpath, ?_⟩
  exact Realm.downloadedPath_eq_some.mpr
    ⟨item, Realm.object_of_mem hitem, hdownloaded, hpath⟩

/-- The app, and for the statements alone what each photo id was last downloaded from, with
the bytes that came. -/
structure Pictures where
  app : App
  latest : String → Option (URL × Data) := fun _ => none

/-- Downloads that start, and tasks that finish successfully. -/
inductive PictureEvent
  | startDownload (photo : UnsplashPhoto)
  | didFinishDownloadingTo (task : TaskId) (location : ResponseBody) (disk : FileSystem)
  | mainQueue

namespace Pictures
variable (run : Pictures)

def machine : Machine Pictures PictureEvent where
  step run
    | .startDownload photo =>
      some { run with app := run.app.stepControl (.startDownload photo) }
    | .didFinishDownloadingTo task location disk =>
      match run.app.outstanding? task with
      | some request =>
        if run.app.Obtained request.originalURL location disk then
          (run.app.stepSession (.didFinishDownloadingTo task location disk)).map fun app =>
            ⟨app, Function.update run.latest request.photo.identifier
              (some (request.originalURL, location.bytes))⟩
        else none
      | none => none
    | .mainQueue => (App.machine.step run.app .mainQueue).map fun app => { run with app := app }

/-- The store, once the main queue is drained, records the last download of every id. -/
structure Records : Prop where
  screen : run.app.downloadManager.ScreenInvariant
  paths : run.app.realm.PathsKnown
  latest : ∀ id, run.app.drain.realm.downloadedPath id =
    (run.latest id).map fun last => run.app.downloadPath last.1

/-- `Intact`, for the last downloads. -/
structure Apart : Prop where
  holds : ∀ id url bytes, run.latest id = some (url, bytes) → ∃ body,
    run.app.files.contents (run.app.downloadManager.localFilePath url) = some body ∧
      body.bytes = bytes
  apart : ∀ id id' url url' bytes bytes', id ≠ id' → run.latest id = some (url, bytes) →
    run.latest id' = some (url', bytes') →
      run.app.downloadManager.SavedToOneFile url url' → url = url'

variable {run}

/-- The registered photo of a running task is the photo of the task. -/
theorem Records.hasEntry_iff (h : run.Records) {task : TaskId} {request : DownloadTask}
    (hrunning : run.app.downloadManager.downloadsSession.Running task request) (id : String) :
    run.app.HasEntry request.originalURL id ↔ id = request.photo.identifier := by
  obtain ⟨download, hlookup, -⟩ :=
    h.screen.oneTransfer.registered task request.originalURL ⟨request, hrunning, rfl⟩
  have hphoto := h.screen.photo task request download hrunning hlookup
  constructor
  · rintro ⟨found, hfound, rfl⟩
    obtain rfl : download = found := Option.some.inj (hlookup.symm.trans hfound)
    rw [hphoto]
  · rintro rfl
    exact ⟨download, hlookup, by rw [hphoto]⟩

theorem Records.startDownload (h : run.Records) (photo : UnsplashPhoto) :
    ({ run with app := run.app.stepControl (.startDownload photo) } : Pictures).Records := by
  refine ⟨h.screen.startDownload photo, h.paths, fun id => ?_⟩
  have hdrain : (run.app.stepControl (.startDownload photo)).drain.realm =
      run.app.drain.realm := by
    rw [App.drain_realm, App.drain_realm]
    rfl
  have hpath : ∀ url, (run.app.stepControl (.startDownload photo)).downloadPath url =
      run.app.downloadPath url := by
    intro url
    show ((run.app.downloadManager.startDownload photo).localFilePath url).absoluteString = _
    rw [DownloadManager.localFilePath, DownloadManager.startDownload_documentsPath]
    rfl
  simp only [hdrain, hpath]
  exact h.latest id

theorem Records.runBlock (h : run.Records) {block : MainBlock} {rest : List MainBlock}
    (hqueue : run.app.mainQueue = block :: rest) :
    ({ run with app := ({ run.app with mainQueue := rest } : App).runBlock block } :
      Pictures).Records := by
  refine ⟨?_, ?_, fun id => ?_⟩
  · rw [App.runBlock_downloadManager]
    exact h.screen
  · rw [App.runBlock_realm_eq]
    exact h.paths.foldl_save _
  · simp only [App.runBlock_drain_realm hqueue, App.downloadPath, App.runBlock_downloadManager]
    exact h.latest id

/-- After a finish the photo of its task is the one last downloaded. -/
theorem Records.finish (h : run.Records) {task : TaskId} {request : DownloadTask}
    (hrunning : run.app.downloadManager.downloadsSession.Running task request)
    (location : ResponseBody) (disk : FileSystem) :
    (⟨(run.app.settle task .finished).didFinishDownloadingTo request.originalURL location disk,
      Function.update run.latest request.photo.identifier
        (some (request.originalURL, location.bytes))⟩ : Pictures).Records := by
  refine ⟨h.screen.finish hrunning, h.paths, fun id => ?_⟩
  obtain ⟨hnew, hold⟩ :=
    run.app.finish_drain_downloadedPath task request.originalURL location disk id
  rw [h.hasEntry_iff hrunning] at hnew hold
  by_cases hid : id = request.photo.identifier
  · subst hid
    refine (hnew rfl).trans ?_
    simp only [Function.update_self]
    rfl
  · refine (hold hid).trans ((h.latest id).trans ?_)
    simp only [Function.update_of_ne hid]
    rfl

/-- Without a change of the files, of what was downloaded and of the documents they stay
apart. -/
theorem Apart.of_same (h : run.Apart) {t : App} (hfiles : t.files = run.app.files)
    (hdocuments : t.downloadManager.documentsPath = run.app.downloadManager.documentsPath) :
    ({ run with app := t } : Pictures).Apart := by
  have hlocal : ∀ url, t.downloadManager.localFilePath url =
      run.app.downloadManager.localFilePath url := by
    intro url
    rw [DownloadManager.localFilePath, hdocuments]
    rfl
  refine ⟨?_, ?_⟩
  · intro id url bytes hlatest
    show ∃ body, t.files.contents (t.downloadManager.localFilePath url) = some body ∧ _
    rw [hfiles, hlocal]
    exact h.holds id url bytes hlatest
  · intro id id' url url' bytes bytes' hne hlatest hlatest' hfile
    have hfile : (t.downloadManager.localFilePath url).filePath =
      (t.downloadManager.localFilePath url').filePath := hfile
    rw [hlocal, hlocal] at hfile
    exact h.apart id id' url url' bytes bytes' hne hlatest hlatest' hfile

end Pictures

end ImSplash
