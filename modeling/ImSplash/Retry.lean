import ImSplash.ScreenRuns

/-!
# Can a failed download be retried?

`startDownload` refuses a URL that has an entry, so a retry needs every entry to
stand for a running task.  The download manager has no method for
`urlSession(_:task:didCompleteWithError:)`: a task that fails leaves its entry
behind, and that is the only way to an entry without a task.
-/

namespace ImSplash
open Runs

/-- An entry in progress always has a running task. -/
def DownloadManager.EntriesLive (manager : DownloadManager) : Prop :=
  ∀ url download, manager.activeDownloads.lookup url = some download →
    download.isDownloading = true → ∃ i, manager.Live i url

namespace DownloadManager
variable {manager : DownloadManager}

theorem EntriesLive.startDownload (h : manager.EntriesLive) (photo : UnsplashPhoto) :
    (manager.startDownload photo).EntriesLive := by
  rcases startDownload_cases photo with ⟨heq, -⟩ | ⟨url, -, -, heq⟩
  · rw [heq]
    exact h
  · rw [heq]
    intro u download hfound hdownloading
    by_cases hu : u = url
    · subst hu
      exact ⟨_, live_create.mpr (Or.inr ⟨rfl, rfl⟩)⟩
    · rw [AList.lookup_insert_ne hu] at hfound
      obtain ⟨i, hlive⟩ := h u download hfound hdownloading
      exact ⟨i, live_create.mpr (Or.inl hlive)⟩

theorem EntriesLive.didWriteData (h : manager.EntriesLive) (url : URL)
    (totalBytesWritten totalBytesExpectedToWrite : Int) :
    (manager.didWriteData url totalBytesWritten totalBytesExpectedToWrite).1.EntriesLive := by
  intro u download hfound hdownloading
  obtain ⟨old, hold, heq⟩ := lookup_didWriteData hfound
  rw [heq] at hdownloading
  obtain ⟨i, request, hrunning, hurl⟩ := h u old hold hdownloading
  refine ⟨i, request, ?_, hurl⟩
  rw [didWriteData_downloadsSession]
  exact hrunning

theorem EntriesLive.finish (h : manager.EntriesLive) {task : TaskId} {request : DownloadTask}
    (hrunning : manager.downloadsSession.Running task request) :
    ({ manager with
        downloadsSession := manager.downloadsSession.settle task .finished
        activeDownloads := manager.activeDownloads.erase request.originalURL } :
          DownloadManager).EntriesLive := by
  intro u download hfound hdownloading
  obtain ⟨hu, hfound⟩ := lookup_erase_eq_some.mp hfound
  obtain ⟨i, request', hrunning', hurl⟩ := h u download hfound hdownloading
  -- The task of an entry that stays is not the one that finished: their URLs differ.
  have hi : i ≠ task := by
    rintro rfl
    exact hu (hurl.symm.trans (congrArg DownloadTask.originalURL (hrunning'.unique hrunning)))
  exact ⟨i, (live_settle (by decide)).mpr ⟨⟨request', hrunning', hurl⟩, hi⟩⟩

/-- A failure leaves the entry of the task behind. -/
theorem ScreenInvariant.not_entriesLive_fail (h : manager.ScreenInvariant) {task : TaskId}
    {request : DownloadTask} (hrunning : manager.downloadsSession.Running task request) :
    ¬ ({ manager with downloadsSession := manager.downloadsSession.settle task .failed } :
      DownloadManager).EntriesLive := by
  intro hlive
  have htask : manager.Live task request.originalURL := ⟨request, hrunning, rfl⟩
  obtain ⟨download, hlookup, -⟩ := h.oneTransfer.registered task _ htask
  obtain ⟨i, hi⟩ := hlive _ download hlookup (h.downloading _ download hlookup)
  obtain ⟨hi, hne⟩ := (live_settle (by decide)).mp hi
  exact hne (h.oneTransfer.unique i task _ hi htask)

end DownloadManager

namespace App
variable (app : App)

/-- A task of the URL has finished, and the block that records its file is still queued. -/
def SavePending (url : URL) : Prop :=
  (∃ i request, app.downloadManager.downloadsSession.find? i = some ⟨request, .finished⟩ ∧
    request.originalURL = url) ∧
  ∃ id width height, .saveDownloadedFilePath
    (app.downloadManager.localFilePath url).absoluteString id width height ∈ app.mainQueue

/-- A tap on the download button makes a new task for every photo that is not
recorded and whose raw URL has no task running or finished and unsaved. -/
def Retryable : Prop :=
  ∀ photo url, photo.urls .raw = some url → ¬ app.Recorded photo.identifier →
    (∀ i, ¬ app.downloadManager.Live i url) → ¬ app.SavePending url →
      (app.downloadPhoto photo).downloadManager.Live
        app.downloadManager.downloadsSession.nextId url

variable {app}

theorem retryable_of_entriesLive (h : app.downloadManager.ScreenInvariant)
    (hlive : app.downloadManager.EntriesLive) : app.Retryable := by
  intro photo url hraw hrecorded hnone _
  have heq : (app.downloadPhoto photo).downloadManager =
      app.downloadManager.startDownload photo := by
    simp only [downloadPhoto, if_neg hrecorded]
  rw [heq]
  rcases DownloadManager.startDownload_cases photo with ⟨-, hentry⟩ | ⟨url', hraw', -, hstart⟩
  · obtain ⟨download, hlookup⟩ := hentry url hraw
    obtain ⟨i, hi⟩ := hlive url download hlookup (h.downloading url download hlookup)
    exact absurd hi (hnone i)
  · obtain rfl : url = url' := Option.some.inj (hraw.symm.trans hraw')
    rw [hstart]
    exact DownloadManager.live_create.mpr (Or.inr ⟨rfl, rfl⟩)

/-- **One step**: the entries stay live exactly when no task fails. -/
theorem entriesLive_step {t : App} {e : AppEvent} (h : app.downloadManager.ScreenInvariant)
    (hlive : app.downloadManager.EntriesLive) (hstep : app.ScreenStep e t) :
    t.downloadManager.EntriesLive ↔ ∀ task, e ≠ .session (.didCompleteWithError task) := by
  cases hstep with
  | quiet hevent hmanager _ =>
    rw [hmanager]
    exact iff_of_true hlive fun task => hevent _
  | start photo _ => exact iff_of_true (hlive.startDownload photo) (by simp)
  | finish task request location disk houtstanding =>
    exact iff_of_true (hlive.finish (h.running houtstanding)) (by simp)
  | write task url totalBytesWritten totalBytesExpectedToWrite =>
    exact iff_of_true (hlive.didWriteData url _ _) (by simp)
  | fail task request houtstanding =>
    exact iff_of_false (h.not_entriesLive_fail (h.running houtstanding)) (by simp)

/-- **Every download can be retried**, and every entry in progress has a running
task, in all states of a run of the screens from the start of the app exactly
when no task fails in the run. -/
theorem retryable_along_iff (realm : Realm) (files : FileManager) (documentsPath : URL)
    (es : List AppEvent) :
    screens.Along (fun _ _ t => t.downloadManager.EntriesLive ∧ t.Retryable)
        (launch realm files documentsPath) es ↔
      screens.Along (fun _ e _ => ∀ task, e ≠ .session (.didCompleteWithError task))
        (launch realm files documentsPath) es := by
  have hexact : ∀ s e t,
      (s.downloadManager.ScreenInvariant ∧ s.downloadManager.EntriesLive) →
      screens.step s e = some t → (t.downloadManager.EntriesLive ∧ t.Retryable ↔
        ∀ task, e ≠ .session (.didCompleteWithError task)) := by
    rintro s e t ⟨h, hlive⟩ hstep
    have hstep := screenStep_of_step hstep
    refine Iff.trans ⟨And.left, fun hlive' => ⟨hlive', ?_⟩⟩ (entriesLive_step h hlive hstep)
    exact retryable_of_entriesLive (hstep.screenInvariant h) hlive'
  have hgood : ∀ s e t,
      (s.downloadManager.ScreenInvariant ∧ s.downloadManager.EntriesLive) →
      screens.step s e = some t → (t.downloadManager.EntriesLive ∧ t.Retryable) →
      (t.downloadManager.ScreenInvariant ∧ t.downloadManager.EntriesLive) :=
    fun _ _ _ h hstep hR => ⟨(screenStep_of_step hstep).screenInvariant h.1, hR.1⟩
  have hlaunch : (launch realm files documentsPath).downloadManager.EntriesLive := by
    intro _ _ hfound
    cases hfound
  exact Machine.along_iff_of_exact hexact hgood
    ⟨screenInvariant_launch realm files documentsPath, hlaunch⟩ es

/-- A download that fails: the entry stays, and the next tap starts nothing. -/
theorem failed_download_stuck : ¬ screens.Along (fun _ _ t => t.Retryable)
    (launch {} ⟨fun _ => none⟩ ⟨"file:///Documents"⟩)
    [.downloadPhoto (photoAt "p"), .session (.didCompleteWithError 0)] := by
  intro h
  have hretry := ((h _ rfl).2 _ rfl).1
  obtain ⟨request, hrunning, -⟩ := hretry (photoAt "p") ⟨"https://i/p"⟩ rfl (by decide)
    (by
      rintro i ⟨request, hrunning, -⟩
      match i with
      | 0 => cases hrunning
      | _ + 1 => cases hrunning)
    (by
      rintro ⟨-, id, width, height, hmem⟩
      cases hmem)
  cases hrunning

end App

end ImSplash
