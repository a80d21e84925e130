import ImSplash.App

/-!
# One transfer for a URL

`OneTransfer` says that a URL has at most one running task and that the registry
entry of the URL points to it.  Of all that can happen to the download manager
two things break it: a resume while a task is running, which makes a second one
because it looks at nothing but the entry, and a finish while another task of the
URL is running, since the callback removes the entry of the URL, not the entry
of the task.  Starting, cancelling, pausing and every other callback keep it.
-/

namespace ImSplash
open Runs

namespace DownloadManager
variable (manager : DownloadManager)

/-- A URL has at most one running task, and the registry knows it. -/
structure OneTransfer : Prop where
  unique : ∀ i j url, manager.Live i url → manager.Live j url → i = j
  registered : ∀ i url, manager.Live i url →
    ∃ download, manager.activeDownloads.lookup url = some download ∧ download.task = some i

variable {manager}

/-- An operation that makes no task and touches the registry only at `url`. -/
theorem OneTransfer.of_at (h : manager.OneTransfer) {manager' : DownloadManager} (url : URL)
    (hlive : ∀ i u, manager'.Live i u → manager.Live i u)
    (hother : ∀ u, u ≠ url → manager'.activeDownloads.lookup u = manager.activeDownloads.lookup u)
    (hat : ∀ i, manager'.Live i url → ∃ download,
      manager'.activeDownloads.lookup url = some download ∧ download.task = some i) :
    manager'.OneTransfer := by
  refine ⟨fun i j u hi hj => ?_, fun i u hi => ?_⟩
  · exact h.unique i j u (hlive i u hi) (hlive j u hj)
  · by_cases hu : u = url
    · subst hu
      exact hat i hi
    · -- Nothing has changed at the other URLs.
      rw [hother u hu]
      exact h.registered i u (hlive i u hi)

/-- A new task for `url`, registered there, is the only one exactly when there
was none. -/
theorem OneTransfer.create_iff (h : manager.OneTransfer) {request : DownloadTask} {url : URL}
    (hurl : request.originalURL = url) {download : DownloadRequest}
    (htask : download.task = some manager.downloadsSession.nextId) :
    ({ manager with
        downloadsSession := manager.downloadsSession.create request
        activeDownloads := manager.activeDownloads.insert url download } :
          DownloadManager).OneTransfer ↔ ∀ i, ¬ manager.Live i url := by
  constructor
  · -- An old task of the URL would run beside the new one.
    intro h' i hlive
    have heq : i = manager.downloadsSession.nextId :=
      h'.unique i _ url (live_create.mpr (Or.inl hlive)) (live_create.mpr (Or.inr ⟨rfl, hurl⟩))
    exact absurd heq (Nat.ne_of_lt hlive.lt_nextId)
  · intro hnone
    refine ⟨fun i j u hi hj => ?_, fun i u hi => ?_⟩
    · rcases live_create.mp hi with hold | ⟨rfl, hu⟩
      · rcases live_create.mp hj with hold' | ⟨rfl, hu⟩
        · exact h.unique i j u hold hold'
        · obtain rfl : u = url := hu.symm.trans hurl
          exact absurd hold (hnone i)
      · obtain rfl : u = url := hu.symm.trans hurl
        rcases live_create.mp hj with hold' | ⟨rfl, -⟩
        · exact absurd hold' (hnone j)
        · rfl
    · rcases live_create.mp hi with hold | ⟨rfl, hu⟩
      · have hne : u ≠ url := by
          intro hu
          exact hnone i (hu ▸ hold)
        rw [AList.lookup_insert_ne hne]
        exact h.registered i u hold
      · obtain rfl : u = url := hu.symm.trans hurl
        exact ⟨download, AList.lookup_insert _, htask⟩

/-- Cancelling the task of the registered entry leaves no task of its URL running. -/
theorem OneTransfer.not_live_cancelTask (h : manager.OneTransfer) {url : URL}
    {download : DownloadRequest} (hlookup : manager.activeDownloads.lookup url = some download)
    {downloads : AList fun _ : URL => DownloadRequest} {i : TaskId} :
    ¬ ({ manager with
        downloadsSession := manager.cancelTask download
        activeDownloads := downloads } : DownloadManager).Live i url := by
  intro hlive
  obtain ⟨hlive, htask⟩ := live_cancelTask.mp hlive
  obtain ⟨found, hfound, hregistered⟩ := h.registered i url hlive
  rw [hlookup] at hfound
  obtain rfl : download = found := Option.some.inj hfound
  exact htask hregistered

/-! ### The operations -/

theorem OneTransfer.startDownload (h : manager.OneTransfer) (photo : UnsplashPhoto) :
    (manager.startDownload photo).OneTransfer := by
  rcases startDownload_cases photo with ⟨heq, -⟩ | ⟨url, -, hlookup, heq⟩
  · rw [heq]
    exact h
  · have hnone : ∀ i, ¬ manager.Live i url := by
      intro i hlive
      obtain ⟨download, hfound, -⟩ := h.registered i url hlive
      rw [hlookup] at hfound
      cases hfound
    rw [heq]
    exact (h.create_iff (by rfl) (by rfl)).mpr hnone

theorem OneTransfer.cancelDownload (h : manager.OneTransfer) (photo : UnsplashPhoto) :
    (manager.cancelDownload photo).OneTransfer := by
  rcases cancelDownload_cases photo with heq | ⟨url, download, -, hlookup, heq⟩
  · rw [heq]
    exact h
  · rw [heq]
    refine h.of_at url (fun i u hi => (live_cancelTask.mp hi).1) ?_ ?_
    · exact fun u hu => AList.lookup_erase_ne hu
    · exact fun i hi => absurd hi (h.not_live_cancelTask hlookup)

theorem OneTransfer.pauseDownload (h : manager.OneTransfer) (photo : UnsplashPhoto) :
    (manager.pauseDownload photo).OneTransfer := by
  rcases pauseDownload_cases photo with heq | ⟨url, download, -, hlookup, heq⟩
  · rw [heq]
    exact h
  · rw [heq]
    refine h.of_at url (fun i u hi => (live_cancelTask.mp hi).1) ?_ ?_
    · exact fun u hu => AList.lookup_insert_ne hu
    · exact fun i hi => absurd hi (h.not_live_cancelTask hlookup)

/-- A resume is safe exactly when no task of the URL is running. -/
theorem OneTransfer.resumeDownload_iff (h : manager.OneTransfer) (photo : UnsplashPhoto) :
    (manager.resumeDownload photo).OneTransfer ↔ ∀ url, photo.urls .raw = some url →
      (manager.activeDownloads.lookup url).isSome → ∀ i, ¬ manager.Live i url := by
  rcases resumeDownload_cases photo with ⟨heq, hnone⟩ | ⟨url, download, hraw, hlookup, heq⟩
  · rw [heq]
    refine iff_of_true h fun url hraw hsome => ?_
    rw [hnone url hraw] at hsome
    cases hsome
  · rw [heq]
    refine (h.create_iff (by rfl) (by rfl)).trans ?_
    constructor
    · intro hfree url' hraw' _
      obtain rfl : url = url' := Option.some.inj (hraw.symm.trans hraw')
      exact hfree
    · intro hfree
      exact hfree url hraw (by rw [hlookup]; rfl)

/-- A change of the entry of `url` that keeps its task. -/
theorem OneTransfer.insert (h : manager.OneTransfer) {url : URL} {download download' :
    DownloadRequest} (hlookup : manager.activeDownloads.lookup url = some download)
    (htask : download'.task = download.task) :
    ({ manager with activeDownloads := manager.activeDownloads.insert url download' } :
      DownloadManager).OneTransfer := by
  refine h.of_at url (fun i u hi => hi) (fun u hu => AList.lookup_insert_ne hu) ?_
  intro i hi
  obtain ⟨found, hfound, hregistered⟩ := h.registered i url hi
  rw [hlookup] at hfound
  obtain rfl : download = found := Option.some.inj hfound
  exact ⟨download', AList.lookup_insert _, htask.trans hregistered⟩

theorem OneTransfer.didProduceResumeData (h : manager.OneTransfer) (url : URL) (identity : Nat)
    (data : Option Data) : (manager.didProduceResumeData url identity data).OneTransfer := by
  rcases didProduceResumeData_cases url identity data with heq | ⟨download, hlookup, heq⟩
  · rw [heq]
    exact h
  · rw [heq]
    exact h.insert hlookup rfl

theorem OneTransfer.didWriteData (h : manager.OneTransfer) (url : URL)
    (totalBytesWritten totalBytesExpectedToWrite : Int) :
    (manager.didWriteData url totalBytesWritten totalBytesExpectedToWrite).1.OneTransfer := by
  rcases didWriteData_cases url totalBytesWritten totalBytesExpectedToWrite with
    ⟨heq, -⟩ | ⟨download, progress, hlookup, heq⟩
  · rw [heq]
    exact h
  · rw [heq]
    exact h.insert hlookup rfl

/-- A task that is settled no longer runs; the registry is not asked. -/
theorem OneTransfer.settle (h : manager.OneTransfer) (task : TaskId) {status : TaskStatus}
    (hstatus : status ≠ .running) :
    ({ manager with downloadsSession := manager.downloadsSession.settle task status } :
      DownloadManager).OneTransfer := by
  refine ⟨fun i j u hi hj => ?_, fun i u hi => ?_⟩
  · exact h.unique i j u ((live_settle hstatus).mp hi).1 ((live_settle hstatus).mp hj).1
  · exact h.registered i u ((live_settle hstatus).mp hi).1

/-- A finish is safe exactly when no other task of the URL is running. -/
theorem OneTransfer.didFinishDownloadingTo_iff (h : manager.OneTransfer) (task : TaskId)
    (sourceURL : URL) :
    ({ manager with
        downloadsSession := manager.downloadsSession.settle task .finished
        activeDownloads := manager.activeDownloads.erase sourceURL } :
          DownloadManager).OneTransfer ↔
      ∀ i, i ≠ task → ¬ manager.Live i sourceURL := by
  have hstatus : TaskStatus.finished ≠ .running := by decide
  constructor
  · intro h' i hi hlive
    obtain ⟨download, hlookup, -⟩ :=
      h'.registered i sourceURL ((live_settle hstatus).mpr ⟨hlive, hi⟩)
    rw [AList.lookup_erase] at hlookup
    cases hlookup
  · intro hnone
    refine h.of_at sourceURL (fun i u hi => ((live_settle hstatus).mp hi).1)
      (fun u hu => AList.lookup_erase_ne hu) ?_
    intro i hi
    obtain ⟨hlive, hne⟩ := (live_settle hstatus).mp hi
    exact absurd hlive (hnone i hne)

end DownloadManager

/-! ### Runs of the app -/

namespace App
variable (app : App)

/-- What an event needs for a URL to have one transfer after it. -/
def KeepsOneTransfer : AppEvent → Prop
  | .control (.resumeDownload photo) => ∀ url, photo.urls .raw = some url →
    (app.downloadManager.activeDownloads.lookup url).isSome →
      ∀ i, ¬ app.downloadManager.Live i url
  | .session (.didFinishDownloadingTo task _ _) => ∀ request, app.outstanding? task = some request →
    ∀ i, i ≠ task → ¬ app.downloadManager.Live i request.originalURL
  | _ => True

variable {app}

/-- **One step**: an event keeps one transfer a URL exactly when it meets its condition. -/
theorem oneTransfer_step {t : App} {e : AppEvent} (h : app.downloadManager.OneTransfer)
    (hstep : machine.step app e = some t) :
    t.downloadManager.OneTransfer ↔ app.KeepsOneTransfer e := by
  cases e with
  | presentListInterface | dismissListInterface | changeFavorite =>
    obtain rfl := Option.some.inj hstep
    exact iff_of_true h trivial
  | list event =>
    refine iff_of_true ?_ trivial
    cases event with
    | loadData =>
      obtain rfl := Option.some.inj hstep
      exact h
    | touchHeart tab row =>
      rw [touchHeart_downloadManager hstep]
      exact h
  | downloadPhoto photo =>
    obtain rfl := Option.some.inj hstep
    refine iff_of_true ?_ trivial
    simp only [downloadPhoto]
    split
    · exact h
    · exact h.startDownload photo
  | control event =>
    obtain rfl := Option.some.inj hstep
    cases event with
    | startDownload photo => exact iff_of_true (h.startDownload photo) trivial
    | pauseDownload photo => exact iff_of_true (h.pauseDownload photo) trivial
    | cancelDownload photo => exact iff_of_true (h.cancelDownload photo) trivial
    | resumeDownload photo => exact h.resumeDownload_iff photo
  | didProduceResumeData url identity data =>
    obtain rfl := Option.some.inj hstep
    exact iff_of_true (h.didProduceResumeData url identity data) trivial
  | session event =>
    cases event with
    | didFinishDownloadingTo task location disk =>
      obtain ⟨request, hrequest, rfl⟩ := Option.map_eq_some_iff.mp hstep
      rw [KeepsOneTransfer, forall_outstanding?_iff hrequest]
      exact h.didFinishDownloadingTo_iff task request.originalURL
    | didWriteData task totalBytesWritten totalBytesExpectedToWrite =>
      obtain ⟨request, -, rfl⟩ := Option.map_eq_some_iff.mp hstep
      exact iff_of_true (h.didWriteData _ _ _) trivial
    | didCompleteWithError task =>
      obtain ⟨request, -, rfl⟩ := Option.map_eq_some_iff.mp hstep
      exact iff_of_true (h.settle task (by decide)) trivial
  | mainQueue =>
    refine iff_of_true ?_ trivial
    obtain ⟨block, rest, -, rfl⟩ := mainQueue_eq_some.mp hstep
    rw [runBlock_downloadManager]
    exact h

theorem oneTransfer_launch (realm : Realm) (files : FileManager) (documentsPath : URL) :
    (launch realm files documentsPath).downloadManager.OneTransfer := by
  refine ⟨?_, ?_⟩
  · rintro i _ _ ⟨_, hrunning, -⟩
    cases hrunning
  · rintro i _ ⟨_, hrunning, -⟩
    cases hrunning

/-- **One transfer for a URL**, after every step of a run from the start of the
app, exactly when every resume finds no task of its URL running and every task
finishes while no other task of its URL is. -/
theorem oneTransfer_along_iff (realm : Realm) (files : FileManager) (documentsPath : URL)
    (es : List AppEvent) :
    machine.Along (fun _ _ t => t.downloadManager.OneTransfer)
        (launch realm files documentsPath) es ↔
      machine.Along (fun s e _ => s.KeepsOneTransfer e) (launch realm files documentsPath) es := by
  have hexact : ∀ s e t, s.downloadManager.OneTransfer → machine.step s e = some t →
      (t.downloadManager.OneTransfer ↔ s.KeepsOneTransfer e) :=
    fun _ _ _ h hstep => oneTransfer_step h hstep
  exact Machine.along_iff_of_exact hexact (fun _ _ _ _ _ h => h)
    (oneTransfer_launch realm files documentsPath) es

/-- A resume without a pause: two tasks of one URL run. -/
theorem resume_without_pause : ¬ machine.Along (fun _ _ t => t.downloadManager.OneTransfer)
    (launch {} ⟨fun _ => none⟩ ⟨"file:///Documents"⟩)
    [.control (.startDownload (photoAt "p")), .control (.resumeDownload (photoAt "p"))] := by
  intro h
  have hone := ((h _ rfl).2 _ rfl).1
  have heq := hone.unique 0 1 ⟨"https://i/p"⟩ ⟨_, rfl, rfl⟩ ⟨_, rfl, rfl⟩
  exact absurd heq (by decide)

end App

end ImSplash
