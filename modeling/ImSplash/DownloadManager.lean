import Mathlib.Data.List.AList
import Mathlib.Logic.Function.Basic
import ImSplash.Models

/-!
# The download manager

`activeDownloads` is the registry the app keeps of its transfers, by raw URL;
the background session keeps the transfers themselves, as tasks.  The four
operations of the app and the two callbacks the delegate implements are
functions of both.  A session callback is told the task it is about and reads
the URL off it; nothing compares that task with the one in the registry.

The entry of a URL is an object in the source and is changed in place; here a
change puts the changed entry back under its URL.
-/

namespace ImSplash
open Runs

/-- What a session task is made for: `downloadTask(with:)` starts from nothing,
`downloadTask(withResumeData:)` from the data a paused task left, which carries
the request it was cut from.  `photo` is the photo of the registry entry the task
is made for; the session does not know it and no callback reads it. -/
structure DownloadTask where
  originalURL : URL
  resumeData : Option Data := none
  photo : UnsplashPhoto

/-- A downloaded file: the body of a response, and the status it came with. -/
structure ResponseBody where
  statusCode : Int
  bytes : Data
deriving DecidableEq, Repr

/-- A 2xx status. -/
def ResponseBody.IsSuccess (body : ResponseBody) : Prop :=
  200 ≤ body.statusCode ∧ body.statusCode < 300

instance (body : ResponseBody) : Decidable body.IsSuccess :=
  inferInstanceAs (Decidable (_ ∧ _))

/-- The files, by the names on the way from the root. -/
structure FileManager where
  file : List String → Option ResponseBody

/-- Whether the file system lets the two file operations of a callback go through. -/
structure FileSystem where
  removes : Bool := true
  copies : Bool := true
deriving DecidableEq, Repr

namespace FileManager
variable (files : FileManager)

/-- The file at a URL. -/
def contents (url : URL) : Option ResponseBody := files.file url.filePath

/-- `try? removeItem(at:)`: an error leaves the files as they were. -/
def removeItem (url : URL) (disk : FileSystem) : FileManager :=
  if disk.removes then ⟨Function.update files.file url.filePath none⟩ else files

/-- `copyItem(at:to:)`, `none` when it throws: a file at the destination is an error. -/
def copyItem (location : ResponseBody) (destination : URL) (disk : FileSystem) :
    Option FileManager :=
  if (files.contents destination).isNone && disk.copies then
    some ⟨Function.update files.file destination.filePath (some location)⟩
  else none

/-- The remove and the copy of a finished download, with the error of the copy only printed. -/
def replaceItem (location : ResponseBody) (destination : URL) (disk : FileSystem) : FileManager :=
  let files := files.removeItem destination disk
  (files.copyItem location destination disk).getD files

/-- The copy of a finished download goes through: nothing is left at the destination. -/
def Copies (destination : URL) (disk : FileSystem) : Prop :=
  (disk.removes = true ∨ files.contents destination = none) ∧ disk.copies = true

instance (destination : URL) (disk : FileSystem) : Decidable (files.Copies destination disk) :=
  inferInstanceAs (Decidable (_ ∧ _))

variable {files}

theorem replaceItem_of_copies {location : ResponseBody} {destination : URL} {disk : FileSystem}
    (h : files.Copies destination disk) :
    (files.replaceItem location destination disk).file =
      Function.update files.file destination.filePath (some location) := by
  obtain ⟨hempty, hcopies⟩ := h
  unfold replaceItem removeItem copyItem
  by_cases hremoves : disk.removes = true
  · simp [contents, hremoves, hcopies]
  · have hnone := hempty.resolve_left hremoves
    simp [hremoves, hcopies, hnone]

theorem replaceItem_of_not_copies {location : ResponseBody} {destination : URL}
    {disk : FileSystem} (h : ¬ files.Copies destination disk) :
    (files.replaceItem location destination disk).file =
      if disk.removes then Function.update files.file destination.filePath none
      else files.file := by
  unfold Copies at h
  unfold replaceItem removeItem copyItem
  by_cases hremoves : disk.removes = true
  · have hcopies : disk.copies = false := by simpa [hremoves] using h
    simp [hremoves, hcopies]
  · have hstays : ¬ (files.contents destination = none ∧ disk.copies = true) := by
      simpa [hremoves] using h
    simp [hremoves, hstays]

/-- After a copy that goes through, the destination holds what was copied, by whatever URL. -/
theorem contents_replaceItem_of_copies {location : ResponseBody} {destination : URL}
    {disk : FileSystem} (h : files.Copies destination disk) (url : URL) :
    (files.replaceItem location destination disk).contents url =
      if url.filePath = destination.filePath then some location else files.contents url := by
  rw [contents, replaceItem_of_copies h, Function.update_apply]
  rfl

/-- Only the destination is touched. -/
theorem replaceItem_of_ne {location : ResponseBody} {destination url : URL} {disk : FileSystem}
    (h : url.filePath ≠ destination.filePath) :
    (files.replaceItem location destination disk).contents url = files.contents url := by
  by_cases hc : files.Copies destination disk
  · rw [contents_replaceItem_of_copies hc, if_neg h]
  · rw [contents, replaceItem_of_not_copies hc]
    split
    · rw [Function.update_of_ne h]
      rfl
    · rfl

end FileManager

/-! ### The entries after an insertion or a removal -/

theorem lookup_insert_eq_some {downloads : AList fun _ : URL => DownloadRequest} {url u : URL}
    {download found : DownloadRequest} : (downloads.insert url download).lookup u = some found ↔
      u = url ∧ download = found ∨ u ≠ url ∧ downloads.lookup u = some found := by
  by_cases hu : u = url
  · subst hu
    simp [AList.lookup_insert]
  · simp [AList.lookup_insert_ne hu, hu]

theorem lookup_erase_eq_some {downloads : AList fun _ : URL => DownloadRequest} {url u : URL}
    {found : DownloadRequest} : (downloads.erase url).lookup u = some found ↔
      u ≠ url ∧ downloads.lookup u = some found := by
  by_cases hu : u = url
  · subst hu
    simp [AList.lookup_erase]
  · simp [AList.lookup_erase_ne hu, hu]

/-- The messages of `DownloadManagerDelegate`. -/
inductive DownloadManagerDelegate
  | progressIsChanged (progress : Progress) (id : String)
  | didUpdateLocal (destinationURL id : String) (width height : Int)

structure DownloadManager where
  documentsPath : URL
  activeDownloads : AList (fun _ : URL => DownloadRequest) := ∅
  downloadsSession : TaskTable DownloadTask := {}

namespace DownloadManager
variable (manager : DownloadManager)

/-- `download.task?.cancel()`. -/
def cancelTask (download : DownloadRequest) : TaskTable DownloadTask :=
  match download.task with
  | none => manager.downloadsSession
  | some task => manager.downloadsSession.cancel task

def cancelDownload (photo : UnsplashPhoto) : DownloadManager :=
  match photo.urls .raw with
  | none => manager
  | some url =>
    match manager.activeDownloads.lookup url with
    | none => manager
    | some download =>
      { manager with
        downloadsSession := manager.cancelTask download
        activeDownloads := manager.activeDownloads.erase url }

def pauseDownload (photo : UnsplashPhoto) : DownloadManager :=
  match photo.urls .raw with
  | none => manager
  | some url =>
    match manager.activeDownloads.lookup url with
    | none => manager
    | some download =>
      if download.isDownloading then
        { manager with
          downloadsSession := manager.cancelTask download
          activeDownloads := manager.activeDownloads.insert url
            { download with isDownloading := false } }
      else manager

/-- Both branches of the source make a task, with resume data when there is some;
neither looks at the task the entry already has. -/
def resumeDownload (photo : UnsplashPhoto) : DownloadManager :=
  match photo.urls .raw with
  | none => manager
  | some url =>
    match manager.activeDownloads.lookup url with
    | none => manager
    | some download =>
      { manager with
        downloadsSession :=
          match download.resumeData with
          | some resumeData =>
            manager.downloadsSession.create ⟨url, some resumeData, download.photo⟩
          | none => manager.downloadsSession.create ⟨url, none, download.photo⟩
        activeDownloads := manager.activeDownloads.insert url
          { download with
            task := some manager.downloadsSession.nextId
            isDownloading := true } }

def startDownload (photo : UnsplashPhoto) : DownloadManager :=
  match photo.urls .raw with
  | none => manager
  | some url =>
    match manager.activeDownloads.lookup url with
    -- A paused entry counts as well.
    | some _ => manager
    | none =>
      { manager with
        downloadsSession := manager.downloadsSession.create ⟨url, none, photo⟩
        activeDownloads := manager.activeDownloads.insert url
          { photo := photo
            task := some manager.downloadsSession.nextId
            isDownloading := true
            identity := manager.downloadsSession.nextId } }

def localFilePath (url : URL) : URL :=
  (manager.documentsPath.appendingPathComponent url.lastPathComponent).appendingPathExtension
    "PNG"

/-- The closure of `cancel(byProducingResumeData:)`, which holds the entry that was
paused.  When another entry has taken its URL, or none has, the write goes to an
object the registry no longer holds. -/
def didProduceResumeData (url : URL) (identity : Nat) (data : Option Data) : DownloadManager :=
  match manager.activeDownloads.lookup url with
  | none => manager
  | some download =>
    if download.identity = identity then
      { manager with
        activeDownloads := manager.activeDownloads.insert url { download with resumeData := data } }
    else manager

/-- `urlSession(_:downloadTask:didFinishDownloadingTo:)`, for a task made for `sourceURL`. -/
def didFinishDownloadingTo (files : FileManager) (sourceURL : URL) (location : ResponseBody)
    (disk : FileSystem) : DownloadManager × FileManager × List DownloadManagerDelegate :=
  let download := manager.activeDownloads.lookup sourceURL
  let destinationURL := manager.localFilePath sourceURL
  ({ manager with activeDownloads := manager.activeDownloads.erase sourceURL },
    files.replaceItem location destinationURL disk,
    -- Neither the status of the response nor the outcome of the copy is looked at.
    match download with
    | none => []
    | some download =>
      [.didUpdateLocal destinationURL.absoluteString download.photo.identifier
        download.photo.width download.photo.height])

/-- `urlSession(_:downloadTask:didWriteData:totalBytesWritten:totalBytesExpectedToWrite:)`,
for a task made for `url`. -/
def didWriteData (url : URL) (totalBytesWritten totalBytesExpectedToWrite : Int) :
    DownloadManager × List DownloadManagerDelegate :=
  match manager.activeDownloads.lookup url with
  | none => (manager, [])
  | some download =>
    let progress := Progress.quotient totalBytesWritten totalBytesExpectedToWrite
    ({ manager with
        activeDownloads := manager.activeDownloads.insert url
          { download with progress := progress } },
      [.progressIsChanged progress download.photo.identifier])

/-- The session has a running task for a URL. -/
def Live (task : TaskId) (url : URL) : Prop :=
  ∃ request, manager.downloadsSession.Running task request ∧ request.originalURL = url

variable {manager}

/-! ### What each operation does -/

/-- `startDownload` does nothing for a photo without a raw URL or with an entry;
otherwise it makes a task and registers it. -/
theorem startDownload_cases (photo : UnsplashPhoto) :
    (manager.startDownload photo = manager ∧ ∀ url, photo.urls .raw = some url →
      ∃ download, manager.activeDownloads.lookup url = some download) ∨
    ∃ url, photo.urls .raw = some url ∧ manager.activeDownloads.lookup url = none ∧
      manager.startDownload photo = { manager with
        downloadsSession := manager.downloadsSession.create ⟨url, none, photo⟩
        activeDownloads := manager.activeDownloads.insert url
          { photo := photo
            task := some manager.downloadsSession.nextId
            isDownloading := true
            identity := manager.downloadsSession.nextId } } := by
  unfold startDownload
  cases hraw : photo.urls .raw with
  | none => exact Or.inl ⟨rfl, by simp⟩
  | some url =>
    cases hlookup : manager.activeDownloads.lookup url with
    | none => exact Or.inr ⟨url, rfl, hlookup, by simp [hlookup]⟩
    | some download =>
      refine Or.inl ⟨by simp [hlookup], ?_⟩
      rintro _ ⟨⟩
      exact ⟨download, hlookup⟩

/-- The other three operations do nothing without an entry. -/
theorem cancelDownload_cases (photo : UnsplashPhoto) :
    manager.cancelDownload photo = manager ∨
    ∃ url download, photo.urls .raw = some url ∧
      manager.activeDownloads.lookup url = some download ∧
      manager.cancelDownload photo = { manager with
        downloadsSession := manager.cancelTask download
        activeDownloads := manager.activeDownloads.erase url } := by
  unfold cancelDownload
  cases hraw : photo.urls .raw with
  | none => exact Or.inl rfl
  | some url =>
    cases hlookup : manager.activeDownloads.lookup url with
    | none => exact Or.inl (by simp [hlookup])
    | some download => exact Or.inr ⟨url, download, rfl, hlookup, by simp [hlookup]⟩

theorem pauseDownload_cases (photo : UnsplashPhoto) :
    manager.pauseDownload photo = manager ∨
    ∃ url download, photo.urls .raw = some url ∧
      manager.activeDownloads.lookup url = some download ∧
      manager.pauseDownload photo = { manager with
        downloadsSession := manager.cancelTask download
        activeDownloads := manager.activeDownloads.insert url
          { download with isDownloading := false } } := by
  unfold pauseDownload
  cases hraw : photo.urls .raw with
  | none => exact Or.inl rfl
  | some url =>
    cases hlookup : manager.activeDownloads.lookup url with
    | none => exact Or.inl (by simp [hlookup])
    | some download =>
      by_cases hdownloading : download.isDownloading = true
      · exact Or.inr ⟨url, download, rfl, hlookup, by simp [hlookup, hdownloading]⟩
      · exact Or.inl (by simp [hlookup, hdownloading])

theorem resumeDownload_cases (photo : UnsplashPhoto) :
    (manager.resumeDownload photo = manager ∧ ∀ url, photo.urls .raw = some url →
      manager.activeDownloads.lookup url = none) ∨
    ∃ url download, photo.urls .raw = some url ∧
      manager.activeDownloads.lookup url = some download ∧
      manager.resumeDownload photo = { manager with
        downloadsSession :=
          manager.downloadsSession.create ⟨url, download.resumeData, download.photo⟩
        activeDownloads := manager.activeDownloads.insert url
          { download with
            task := some manager.downloadsSession.nextId
            isDownloading := true } } := by
  unfold resumeDownload
  cases hraw : photo.urls .raw with
  | none => exact Or.inl ⟨rfl, by simp⟩
  | some url =>
    cases hlookup : manager.activeDownloads.lookup url with
    | none =>
      refine Or.inl ⟨by simp [hlookup], ?_⟩
      rintro _ ⟨⟩
      exact hlookup
    | some download =>
      refine Or.inr ⟨url, download, rfl, hlookup, ?_⟩
      cases hdata : download.resumeData <;> simp [hlookup, hdata]

theorem didProduceResumeData_cases (url : URL) (identity : Nat) (data : Option Data) :
    manager.didProduceResumeData url identity data = manager ∨
    ∃ download, manager.activeDownloads.lookup url = some download ∧
      manager.didProduceResumeData url identity data = { manager with
        activeDownloads :=
          manager.activeDownloads.insert url { download with resumeData := data } } := by
  unfold didProduceResumeData
  cases hlookup : manager.activeDownloads.lookup url with
  | none => exact Or.inl rfl
  | some download =>
    by_cases hidentity : download.identity = identity
    · exact Or.inr ⟨download, rfl, by simp [hidentity]⟩
    · exact Or.inl (by simp [hidentity])

theorem didWriteData_cases (url : URL) (totalBytesWritten totalBytesExpectedToWrite : Int) :
    (manager.didWriteData url totalBytesWritten totalBytesExpectedToWrite = (manager, []) ∧
      manager.activeDownloads.lookup url = none) ∨
    ∃ download progress, manager.activeDownloads.lookup url = some download ∧
      manager.didWriteData url totalBytesWritten totalBytesExpectedToWrite =
        ({ manager with
            activeDownloads :=
              manager.activeDownloads.insert url { download with progress := progress } },
          [.progressIsChanged progress download.photo.identifier]) := by
  unfold didWriteData
  cases hlookup : manager.activeDownloads.lookup url with
  | none => exact Or.inl ⟨rfl, rfl⟩
  | some download => exact Or.inr ⟨download, _, rfl, rfl⟩

theorem didWriteData_downloadsSession (url : URL)
    (totalBytesWritten totalBytesExpectedToWrite : Int) :
    (manager.didWriteData url totalBytesWritten totalBytesExpectedToWrite).1.downloadsSession =
      manager.downloadsSession := by
  rcases didWriteData_cases url totalBytesWritten totalBytesExpectedToWrite with
    ⟨heq, -⟩ | ⟨old, progress, -, heq⟩
  · rw [heq]
  · rw [heq]

/-- A write takes no entry away. -/
theorem lookup_didWriteData_of_eq_some {url u : URL}
    (totalBytesWritten totalBytesExpectedToWrite : Int) {old : DownloadRequest}
    (h : manager.activeDownloads.lookup u = some old) :
    ∃ progress, (manager.didWriteData url totalBytesWritten
      totalBytesExpectedToWrite).1.activeDownloads.lookup u =
        some { old with progress := progress } := by
  rcases didWriteData_cases url totalBytesWritten totalBytesExpectedToWrite with
    ⟨heq, -⟩ | ⟨found, progress, hlookup, heq⟩
  · rw [heq]
    exact ⟨old.progress, h⟩
  · rw [heq]
    by_cases hu : u = url
    · subst hu
      obtain rfl : found = old := Option.some.inj (hlookup.symm.trans h)
      exact ⟨progress, AList.lookup_insert _⟩
    · exact ⟨old.progress, (AList.lookup_insert_ne hu).trans h⟩

/-- A write changes the progress of an entry, and no other part of any. -/
theorem lookup_didWriteData {url u : URL} {totalBytesWritten totalBytesExpectedToWrite : Int}
    {download : DownloadRequest}
    (h : (manager.didWriteData url totalBytesWritten
      totalBytesExpectedToWrite).1.activeDownloads.lookup u = some download) :
    ∃ old, manager.activeDownloads.lookup u = some old ∧
      download = { old with progress := download.progress } := by
  rcases didWriteData_cases url totalBytesWritten totalBytesExpectedToWrite with
    ⟨heq, -⟩ | ⟨old, progress, hlookup, heq⟩
  · rw [heq] at h
    exact ⟨download, h, rfl⟩
  · rw [heq] at h
    rcases lookup_insert_eq_some.mp h with ⟨rfl, rfl⟩ | ⟨-, hother⟩
    · exact ⟨old, hlookup, rfl⟩
    · exact ⟨download, hother, rfl⟩

/-! ### Live tasks -/

theorem live_create {request : DownloadTask} {downloads : AList fun _ : URL => DownloadRequest}
    {i : TaskId} {url : URL} :
    ({ manager with
        downloadsSession := manager.downloadsSession.create request
        activeDownloads := downloads } : DownloadManager).Live i url ↔
      manager.Live i url ∨ i = manager.downloadsSession.nextId ∧ request.originalURL = url := by
  constructor
  · rintro ⟨request', hrunning, hurl⟩
    rcases TaskTable.running_create.mp hrunning with hrunning | ⟨hi, rfl⟩
    · exact Or.inl ⟨request', hrunning, hurl⟩
    · exact Or.inr ⟨hi, hurl⟩
  · rintro (⟨request', hrunning, hurl⟩ | ⟨hi, hurl⟩)
    · exact ⟨request', TaskTable.running_create.mpr (Or.inl hrunning), hurl⟩
    · exact ⟨request, TaskTable.running_create.mpr (Or.inr ⟨hi, rfl⟩), hurl⟩

theorem live_cancelTask {download : DownloadRequest}
    {downloads : AList fun _ : URL => DownloadRequest} {i : TaskId} {url : URL} :
    ({ manager with
        downloadsSession := manager.cancelTask download
        activeDownloads := downloads } : DownloadManager).Live i url ↔
      manager.Live i url ∧ download.task ≠ some i := by
  unfold Live cancelTask
  cases htask : download.task with
  | none => simp
  | some task =>
    simp only [TaskTable.running_cancel, ne_eq, Option.some.injEq]
    constructor
    · rintro ⟨request, ⟨hrunning, hne⟩, hurl⟩
      exact ⟨⟨request, hrunning, hurl⟩, fun h => hne h.symm⟩
    · rintro ⟨⟨request, hrunning, hurl⟩, hne⟩
      exact ⟨request, ⟨hrunning, fun h => hne h.symm⟩, hurl⟩

theorem live_settle {task : TaskId} {status : TaskStatus} (hstatus : status ≠ .running)
    {downloads : AList fun _ : URL => DownloadRequest} {i : TaskId} {url : URL} :
    ({ manager with
        downloadsSession := manager.downloadsSession.settle task status
        activeDownloads := downloads } : DownloadManager).Live i url ↔
      manager.Live i url ∧ i ≠ task := by
  unfold Live
  simp only [TaskTable.running_settle hstatus]
  constructor
  · rintro ⟨request, ⟨hrunning, hne⟩, hurl⟩
    exact ⟨⟨request, hrunning, hurl⟩, hne⟩
  · rintro ⟨⟨request, hrunning, hurl⟩, hne⟩
    exact ⟨request, ⟨hrunning, hne⟩, hurl⟩

theorem Live.lt_nextId {i : TaskId} {url : URL} (h : manager.Live i url) :
    i < manager.downloadsSession.nextId := by
  obtain ⟨request, hrunning, -⟩ := h
  exact TaskTable.lt_nextId_of_find? hrunning

end DownloadManager

end ImSplash
