import ImSplash.ScreenRuns

/-!
# Is a download ever in limbo?

A photo passes from the registry to the store in two steps: the callback of the
finished task removes the entry and queues a block, and the block records the
photo.  `NotInLimbo` says that nothing gets between the two, and its two
consequences are what the readers of both, the download button and the List
screen, rely on.  Every finish breaks it, unless the photo was recorded before.
-/

namespace ImSplash
open Runs

namespace App
variable (app : App)

/-- The registry has an entry of the photo, under its raw URL. -/
def Registered (photo : UnsplashPhoto) : Prop :=
  ∃ url download, photo.urls .raw = some url ∧
    app.downloadManager.activeDownloads.lookup url = some download ∧
    download.photo.identifier = photo.identifier

/-- A transfer for the request was started and has neither failed nor been cancelled. -/
def Transferred (request : DownloadTask) : Prop :=
  ∃ i task, app.downloadManager.downloadsSession.find? i = some task ∧ task.request = request ∧
    (task.status = .running ∨ task.status = .finished)

/-- Every such photo is registered or recorded. -/
def NotInLimbo : Prop :=
  ∀ request, app.Transferred request →
    app.Registered request.photo ∨ app.Recorded request.photo.identifier

/-- A tap makes no task for a photo whose bytes have arrived. -/
def NoSecondTransfer : Prop :=
  ∀ i request, app.downloadManager.downloadsSession.find? i = some ⟨request, .finished⟩ →
    ∀ photo : UnsplashPhoto, photo.identifier = request.photo.identifier →
      photo.urls .raw = some request.originalURL →
        (app.downloadPhoto photo).downloadManager.downloadsSession =
          app.downloadManager.downloadsSession

/-- A load lists every such photo among the downloads. -/
def Listed : Prop :=
  ∀ request, app.Transferred request →
    ∃ item ∈ app.loadData.listViewController.dowList, item.id = request.photo.identifier

/-- What an event needs for nothing to be in limbo after it. -/
def KeepsOutOfLimbo : AppEvent → Prop
  | .session (.didFinishDownloadingTo task _ _) => ∀ request, app.outstanding? task = some request →
    app.Recorded request.photo.identifier
  | _ => True

variable {app}

/-! ### What follows from not being in limbo -/

theorem noSecondTransfer_of_notInLimbo (h : app.downloadManager.ScreenInvariant)
    (hlimbo : app.NotInLimbo) : app.NoSecondTransfer := by
  intro i request hfind photo hid hraw
  have hraw' : request.photo.urls .raw = some request.originalURL := h.raw i _ hfind
  rcases hlimbo request ⟨i, _, hfind, rfl, Or.inr rfl⟩ with ⟨url, download, hurl, hlookup, -⟩ | hrec
  · obtain rfl : request.originalURL = url := Option.some.inj (hraw'.symm.trans hurl)
    simp only [downloadPhoto]
    split
    · rfl
    · rcases DownloadManager.startDownload_cases photo with ⟨heq, -⟩ | ⟨url', hurl', hnone, -⟩
      · rw [heq]
      · obtain rfl : request.originalURL = url' := Option.some.inj (hraw.symm.trans hurl')
        rw [hlookup] at hnone
        cases hnone
  · rw [← hid] at hrec
    simp only [downloadPhoto, if_pos hrec]

theorem listed_of_notInLimbo (h : app.downloadManager.ScreenInvariant)
    (hlimbo : app.NotInLimbo) : app.Listed := by
  intro request htransferred
  show ∃ item ∈ (app.listViewController.loadData app.realm
    app.downloadManager.activeDownloads).dowList, _
  rw [ListViewController.loadData_dowList]
  rcases hlimbo request htransferred with ⟨url, download, -, hlookup, hid⟩ | hrec
  · have hprogress : download ∈ downloadsInProgress app.downloadManager.activeDownloads :=
      mem_downloadsInProgress.mpr ⟨⟨url, hlookup⟩, h.downloading url download hlookup⟩
    exact ⟨_, List.mem_append_left _ (List.mem_map_of_mem hprogress), hid⟩
  · obtain ⟨item, hitem, hdownloaded, hid⟩ := DataManager.isLocalImageDownloaded_iff.mp hrec
    have hmem : item ∈ app.realm.objects.filter (·.isDownloaded) :=
      List.mem_filter.mpr ⟨hitem, hdownloaded⟩
    exact ⟨_, List.mem_append_right _ (List.mem_map_of_mem hmem), hid⟩

/-! ### One step -/

/-- Without a new task, what keeps the registered and the recorded photos keeps
all of them out of limbo. -/
theorem NotInLimbo.of_le (h : app.NotInLimbo) {t : App}
    (htransferred : ∀ request, t.Transferred request → app.Transferred request)
    (hregistered : ∀ photo, app.Registered photo → t.Registered photo)
    (hrecorded : ∀ id, app.Recorded id → t.Recorded id) : t.NotInLimbo := by
  intro request ht
  exact (h request (htransferred request ht)).imp (hregistered _) (hrecorded _)

theorem NotInLimbo.startDownload (h : app.NotInLimbo) (photo : UnsplashPhoto) :
    NotInLimbo { app with downloadManager := app.downloadManager.startDownload photo } := by
  rcases DownloadManager.startDownload_cases photo with ⟨heq, -⟩ | ⟨url, hraw, hlookup, heq⟩
  · rw [heq]
    exact h
  · rw [heq]
    rintro request ⟨i, task, hfind, rfl, hstatus⟩
    rw [TaskTable.find?_create] at hfind
    split at hfind
    · obtain rfl := Option.some.inj hfind
      exact Or.inl ⟨url, _, hraw, AList.lookup_insert _, rfl⟩
    · refine (h task.request ⟨i, task, hfind, rfl, hstatus⟩).imp ?_ id
      rintro ⟨url', download, hraw', hlookup', hid⟩
      have hne : url' ≠ url := by
        rintro rfl
        rw [hlookup] at hlookup'
        cases hlookup'
      exact ⟨url', download, hraw', (AList.lookup_insert_ne hne).trans hlookup', hid⟩

theorem NotInLimbo.didWriteData (h : app.NotInLimbo) (url : URL)
    (totalBytesWritten totalBytesExpectedToWrite : Int) :
    (app.didWriteData url totalBytesWritten totalBytesExpectedToWrite).NotInLimbo := by
  have hmanager :
      (app.didWriteData url totalBytesWritten totalBytesExpectedToWrite).downloadManager =
        (app.downloadManager.didWriteData url totalBytesWritten totalBytesExpectedToWrite).1 := rfl
  refine h.of_le ?_ ?_ fun _ hrec => hrec
  · simp only [Transferred, hmanager, DownloadManager.didWriteData_downloadsSession]
    exact fun _ h => h
  · simp only [Registered, hmanager]
    rintro photo ⟨url', old, hraw, hlookup, hid⟩
    obtain ⟨progress, hlookup'⟩ := DownloadManager.lookup_didWriteData_of_eq_some
      totalBytesWritten totalBytesExpectedToWrite hlookup
    exact ⟨url', _, hraw, hlookup', hid⟩

/-- A failed task is no longer asked about; its entry stays. -/
theorem NotInLimbo.fail (h : app.NotInLimbo) (task : TaskId) :
    (app.settle task .failed).NotInLimbo := by
  refine h.of_le ?_ (fun _ h => h) fun _ h => h
  rintro request ⟨i, found, hfind, rfl, hstatus⟩
  obtain ⟨old, hold, hrequest, hnew⟩ := DownloadManager.find?_of_settle hfind
  rw [hnew] at hstatus
  split at hstatus
  · simp at hstatus
  · exact ⟨i, old, hold, hrequest, hstatus⟩

/-- **A finish** leaves nothing in limbo exactly when its photo was recorded before. -/
theorem notInLimbo_finish_iff (h : app.downloadManager.ScreenInvariant) (hlimbo : app.NotInLimbo)
    {task : TaskId} {request : DownloadTask}
    (hrunning : app.downloadManager.downloadsSession.Running task request)
    (location : ResponseBody) (disk : FileSystem) :
    ((app.settle task .finished).didFinishDownloadingTo request.originalURL location
      disk).NotInLimbo ↔ app.Recorded request.photo.identifier := by
  have hraw : request.photo.urls .raw = some request.originalURL := h.raw task _ hrunning
  constructor
  · intro h'
    have hfinished : (app.downloadManager.downloadsSession.settle task .finished).find? task =
        some ⟨request, .finished⟩ := by
      rw [TaskTable.find?_settle, if_pos rfl, hrunning]
      rfl
    -- The entry of the URL is gone, so only the record can still know the photo.
    refine (h' request ⟨task, _, hfinished, rfl, Or.inr rfl⟩).resolve_left ?_
    rintro ⟨url, download, hurl, hlookup, -⟩
    obtain rfl : request.originalURL = url := Option.some.inj (hraw.symm.trans hurl)
    have hnone : (app.downloadManager.activeDownloads.erase request.originalURL).lookup
        request.originalURL = some download := hlookup
    rw [AList.lookup_erase] at hnone
    cases hnone
  · rintro hrec request' ⟨i, found, hfind, rfl, hstatus⟩
    obtain ⟨old, hold, hrequest, hnew⟩ := DownloadManager.find?_of_settle hfind
    by_cases hi : i = task
    · subst hi
      obtain rfl : old = ⟨request, .running⟩ := Option.some.inj (hold.symm.trans hrunning)
      rw [← hrequest]
      exact Or.inr hrec
    · rw [if_neg hi] at hnew
      rw [hnew] at hstatus
      rcases hlimbo found.request ⟨i, old, hold, hrequest, hstatus⟩ with
        ⟨url, download, hurl, hlookup, hid⟩ | hrec'
      · by_cases hu : url = request.originalURL
        · -- The entry that went was of this photo too, under the same id.
          subst hu
          rw [h.photo task request download hrunning hlookup] at hid
          rw [hid] at hrec
          exact Or.inr hrec
        · exact Or.inl ⟨url, download, hurl, (AList.lookup_erase_ne hu).trans hlookup, hid⟩
      · exact Or.inr hrec'

theorem notInLimbo_step {t : App} {e : AppEvent} (h : app.downloadManager.ScreenInvariant)
    (hlimbo : app.NotInLimbo) (hstep : app.ScreenStep e t) :
    t.NotInLimbo ↔ app.KeepsOutOfLimbo e := by
  cases hstep with
  | quiet hevent hmanager hrecorded =>
    refine iff_of_true (hlimbo.of_le ?_ ?_ hrecorded) ?_
    · simp only [Transferred, hmanager]
      exact fun _ h => h
    · simp only [Registered, hmanager]
      exact fun _ h => h
    · cases e with
      | session event => exact absurd rfl (hevent event)
      | _ => trivial
  | start photo _ => exact iff_of_true (hlimbo.startDownload photo) trivial
  | finish task request location disk houtstanding =>
    have hrequest := outstanding?_eq_some.mpr houtstanding
    rw [KeepsOutOfLimbo, forall_outstanding?_iff hrequest]
    exact notInLimbo_finish_iff h hlimbo (h.running houtstanding) location disk
  | write task url totalBytesWritten totalBytesExpectedToWrite =>
    exact iff_of_true (hlimbo.didWriteData url _ _) trivial
  | fail task request _ => exact iff_of_true (hlimbo.fail task) trivial

/-- **No download is in limbo**, none is started twice and none is dropped from
the Downloads, in all states of a run of the screens from the start of the app
exactly when every task that finishes is of a photo already recorded. -/
theorem notInLimbo_along_iff (realm : Realm) (files : FileManager) (documentsPath : URL)
    (es : List AppEvent) :
    screens.Along (fun _ _ t => t.NotInLimbo ∧ t.NoSecondTransfer ∧ t.Listed)
        (launch realm files documentsPath) es ↔
      screens.Along (fun s e _ => s.KeepsOutOfLimbo e) (launch realm files documentsPath) es := by
  have hexact : ∀ s e t, (s.downloadManager.ScreenInvariant ∧ s.NotInLimbo) →
      screens.step s e = some t →
      (t.NotInLimbo ∧ t.NoSecondTransfer ∧ t.Listed ↔ s.KeepsOutOfLimbo e) := by
    rintro s e t ⟨h, hlimbo⟩ hstep
    have hstep := screenStep_of_step hstep
    have ht := hstep.screenInvariant h
    refine Iff.trans ⟨And.left, fun hlimbo' => ⟨hlimbo', ?_, ?_⟩⟩ (notInLimbo_step h hlimbo hstep)
    · exact noSecondTransfer_of_notInLimbo ht hlimbo'
    · exact listed_of_notInLimbo ht hlimbo'
  have hgood : ∀ s e t, (s.downloadManager.ScreenInvariant ∧ s.NotInLimbo) →
      screens.step s e = some t → (t.NotInLimbo ∧ t.NoSecondTransfer ∧ t.Listed) →
      (t.downloadManager.ScreenInvariant ∧ t.NotInLimbo) :=
    fun _ _ _ h hstep hR => ⟨(screenStep_of_step hstep).screenInvariant h.1, hR.1⟩
  have hlaunch : (launch realm files documentsPath).NotInLimbo := by
    rintro _ ⟨_, _, hfind, -⟩
    cases hfind
  exact Machine.along_iff_of_exact hexact hgood
    ⟨screenInvariant_launch realm files documentsPath, hlaunch⟩ es

/-- Between the callback and the block, a second tap transfers the photo again. -/
theorem finished_download_in_limbo :
    ¬ screens.Along (fun _ _ t => t.NotInLimbo ∧ t.NoSecondTransfer ∧ t.Listed)
      (launch {} ⟨fun _ => none⟩ ⟨"file:///Documents"⟩)
      [.downloadPhoto (photoAt "p"),
        .session (.didFinishDownloadingTo 0 ⟨200, [1]⟩ {})] := by
  intro h
  obtain ⟨-, hsecond, -⟩ := ((h _ rfl).2 _ rfl).1
  have hsame := hsecond 0 ⟨⟨"https://i/p"⟩, none, photoAt "p"⟩ rfl (photoAt "p") rfl rfl
  have hlength := congrArg TaskTable.nextId hsame
  exact absurd hlength (by decide)

end App

end ImSplash
