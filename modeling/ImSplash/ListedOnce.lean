import ImSplash.ScreenRuns

/-!
# Is a photo listed twice under Downloads?

`loadData` lists the entries in progress and then the downloaded records.  The entries are
kept by raw URL and the records by id, so one id has two rows when two URLs of it are in
progress, or when it is in progress and recorded.  The button asks the store for the id and
the registry for the URL, and neither for what the other one knows.
-/

namespace ImSplash
open Runs

/-- A photo with the id is in progress, under the URL. -/
def DownloadManager.Active (manager : DownloadManager) (url : URL) (id : String) : Prop :=
  ∃ download, manager.activeDownloads.lookup url = some download ∧
    download.isDownloading = true ∧ download.photo.identifier = id

namespace DownloadManager
variable {manager : DownloadManager}

/-- A start puts its photo in progress when its URL has no entry, beside the others. -/
theorem active_startDownload_iff {photo : UnsplashPhoto} {u : URL} {id : String} :
    (manager.startDownload photo).Active u id ↔ manager.Active u id ∨
      photo.urls .raw = some u ∧ manager.activeDownloads.lookup u = none ∧
        photo.identifier = id := by
  rcases manager.startDownload_cases photo with ⟨heq, hentry⟩ | ⟨url, hraw, hlookup, heq⟩
  · rw [heq]
    refine (or_iff_left ?_).symm
    rintro ⟨hraw, hnone, -⟩
    obtain ⟨download, hfound⟩ := hentry u hraw
    rw [hnone] at hfound
    cases hfound
  · rw [heq]
    unfold Active
    by_cases hu : u = url
    · subst hu
      simp [AList.lookup_insert, hlookup, hraw]
    · have hne : photo.urls .raw ≠ some u := by
        rw [hraw]
        exact fun h => hu (Option.some.inj h).symm
      simp [AList.lookup_insert_ne hu, hne]

theorem active_didWriteData (url : URL) (totalBytesWritten totalBytesExpectedToWrite : Int)
    {u : URL} {id : String}
    (h : (manager.didWriteData url totalBytesWritten totalBytesExpectedToWrite).1.Active u id) :
    manager.Active u id := by
  obtain ⟨download, hfound, hdownloading, hid⟩ := h
  obtain ⟨old, hold, heq⟩ := lookup_didWriteData hfound
  rw [heq] at hdownloading hid
  exact ⟨old, hold, hdownloading, hid⟩

theorem active_erase {url : URL} {tasks : TaskTable DownloadTask} {u : URL} {id : String}
    (h : ({ manager with
      downloadsSession := tasks
      activeDownloads := manager.activeDownloads.erase url } : DownloadManager).Active u id) :
    manager.Active u id := by
  obtain ⟨download, hfound, hid⟩ := h
  exact ⟨download, (lookup_erase_eq_some.mp hfound).2, hid⟩

end DownloadManager

namespace App
variable (app : App)

/-- A load lists no id twice under Downloads. -/
def ListsOnce : Prop := (app.loadData.listViewController.dowList.map TransLocalImage.id).Nodup

/-- No id is in progress under two URLs, nor in progress and recorded. -/
structure KeptApart : Prop where
  activeOnce : ∀ url url' id, app.downloadManager.Active url id →
    app.downloadManager.Active url' id → url = url'
  notRecorded : ∀ url id, app.downloadManager.Active url id → ¬ app.Recorded id

/-- What an event needs for no id to be listed twice after it: a tap that starts a transfer
and a save that runs find no transfer of the same id. -/
def KeepsApart : AppEvent → Prop
  | .downloadPhoto photo => ¬ app.Recorded photo.identifier → ∀ url, photo.urls .raw = some url →
    app.downloadManager.activeDownloads.lookup url = none →
      ∀ u, ¬ app.downloadManager.Active u photo.identifier
  | .mainQueue => ∀ path id width height,
    app.mainQueue.head? = some (.saveDownloadedFilePath path id width height) →
      ∀ u, ¬ app.downloadManager.Active u id
  | _ => True

variable {app}

/-! ### The list -/

/-- The entries that a load lists, which have distinct URLs. -/
theorem mem_entries_iff {downloads : ActiveDownloads} {url : URL} {download : DownloadRequest} :
    (⟨url, download⟩ : Sigma fun _ : URL => DownloadRequest) ∈
        downloads.entries.filter (·.2.isDownloading) ↔
      downloads.lookup url = some download ∧ download.isDownloading = true := by
  rw [List.mem_filter, AList.mem_lookup_iff.symm]
  rfl

theorem active_of_mem_entries {url : URL} {download : DownloadRequest}
    (h : (⟨url, download⟩ : Sigma fun _ : URL => DownloadRequest) ∈
      app.downloadManager.activeDownloads.entries.filter (·.2.isDownloading)) :
    app.downloadManager.Active url download.photo.identifier := by
  obtain ⟨hlookup, hdownloading⟩ := mem_entries_iff.mp h
  exact ⟨download, hlookup, hdownloading, rfl⟩

/-- The ids under Downloads: of the entries in progress, and of the downloaded records. -/
theorem loadData_dowList_ids : app.loadData.listViewController.dowList.map TransLocalImage.id =
    (app.downloadManager.activeDownloads.entries.filter (·.2.isDownloading)).map
        (·.2.photo.identifier) ++
      (app.realm.objects.filter (·.isDownloaded)).map LocalImage.id := by
  show ((app.listViewController.loadData app.realm
    app.downloadManager.activeDownloads).dowList.map _) = _
  rw [ListViewController.loadData_dowList, downloadsInProgress, List.filter_map]
  simp only [List.map_append, List.map_map]
  rfl

theorem recorded_iff_mem {id : String} : app.Recorded id ↔
    id ∈ (app.realm.objects.filter (·.isDownloaded)).map LocalImage.id := by
  refine DataManager.isLocalImageDownloaded_iff.trans ?_
  simp only [List.mem_map, List.mem_filter, and_assoc]

/-- **The two forms agree**: the ids of the list are distinct exactly when the registry and
the store keep them apart. -/
theorem listsOnce_iff : app.ListsOnce ↔ app.KeptApart := by
  have hentries : (app.downloadManager.activeDownloads.entries.filter
      (·.2.isDownloading)).Nodup :=
    (List.Nodup.of_map Sigma.fst app.downloadManager.activeDownloads.nodupKeys).filter _
  have hrecords : ((app.realm.objects.filter (·.isDownloaded)).map LocalImage.id).Nodup :=
    app.realm.primaryKey.sublist (List.filter_sublist.map _)
  unfold ListsOnce
  rw [loadData_dowList_ids, List.nodup_append, List.nodup_map_iff_inj_on hentries]
  constructor
  · rintro ⟨honce, -, hapart⟩
    refine ⟨?_, ?_⟩
    · rintro url url' id ⟨download, hlookup, hdownloading, rfl⟩
        ⟨download', hlookup', hdownloading', hid⟩
      have heq := honce ⟨url, download⟩ (mem_entries_iff.mpr ⟨hlookup, hdownloading⟩)
        ⟨url', download'⟩ (mem_entries_iff.mpr ⟨hlookup', hdownloading'⟩) hid.symm
      exact congrArg Sigma.fst heq
    · rintro url id ⟨download, hlookup, hdownloading, rfl⟩ hrecorded
      have hmem := mem_entries_iff.mpr ⟨hlookup, hdownloading⟩
      exact hapart download.photo.identifier (List.mem_map_of_mem hmem) _
        (recorded_iff_mem.mp hrecorded) rfl
  · intro h
    refine ⟨?_, hrecords, ?_⟩
    · -- One id has one URL, and one URL has one entry.
      rintro ⟨url, download⟩ hmem ⟨url', download'⟩ hmem' hid
      have hurl := h.activeOnce url url' download.photo.identifier (active_of_mem_entries hmem)
        (hid ▸ active_of_mem_entries hmem')
      subst hurl
      have hlookup := (mem_entries_iff.mp hmem).1
      rw [Option.some.inj (hlookup.symm.trans (mem_entries_iff.mp hmem').1)]
    · intro id hid id' hid' heq
      obtain ⟨⟨url, download⟩, hmem, rfl⟩ := List.mem_map.mp hid
      refine h.notRecorded url _ (active_of_mem_entries hmem) ?_
      exact recorded_iff_mem.mpr (heq ▸ hid')

/-! ### One step -/

/-- Without a new transfer and a new record they stay apart. -/
theorem KeptApart.of_le (h : app.KeptApart) {t : App}
    (hactive : ∀ url id, t.downloadManager.Active url id → app.downloadManager.Active url id)
    (hrecorded : ∀ id, t.Recorded id → app.Recorded id) : t.KeptApart := by
  refine ⟨?_, ?_⟩
  · intro url url' id hurl hurl'
    exact h.activeOnce url url' id (hactive url id hurl) (hactive url' id hurl')
  · intro url id hurl hid
    exact h.notRecorded url id (hactive url id hurl) (hrecorded id hid)

/-- A tap that finds the photo recorded starts nothing, and neither does one whose URL has
an entry. -/
theorem active_downloadPhoto_iff {photo : UnsplashPhoto} {u : URL} {id : String} :
    (app.downloadPhoto photo).downloadManager.Active u id ↔ app.downloadManager.Active u id ∨
      ¬ app.Recorded photo.identifier ∧ photo.urls .raw = some u ∧
        app.downloadManager.activeDownloads.lookup u = none ∧ photo.identifier = id := by
  unfold downloadPhoto
  split
  · rename_i hrecorded
    exact (or_iff_left fun h => h.1 hrecorded).symm
  · rename_i hnew
    rw [DownloadManager.active_startDownload_iff, and_iff_right hnew]

/-- **A tap** keeps them apart exactly when the transfer it starts is the only one of its id. -/
theorem keptApart_downloadPhoto_iff (h : app.KeptApart) (photo : UnsplashPhoto) :
    (app.downloadPhoto photo).KeptApart ↔ app.KeepsApart (.downloadPhoto photo) := by
  have hrealm : ∀ id, (app.downloadPhoto photo).Recorded id ↔ app.Recorded id := by
    intro id
    unfold downloadPhoto
    split <;> rfl
  constructor
  · intro h' hnew url hraw hnone u hactive
    have hstarted := active_downloadPhoto_iff.mpr (Or.inr ⟨hnew, hraw, hnone, rfl⟩)
    -- The transfer it starts and the one in progress would be two of one id.
    obtain rfl : u = url :=
      h'.activeOnce u url _ (active_downloadPhoto_iff.mpr (Or.inl hactive)) hstarted
    obtain ⟨download, hlookup, -⟩ := hactive
    rw [hnone] at hlookup
    cases hlookup
  · intro hfree
    refine ⟨?_, ?_⟩
    · intro url url' id hurl hurl'
      rcases active_downloadPhoto_iff.mp hurl with hold | ⟨hnew, hraw, hnone, rfl⟩
      · rcases active_downloadPhoto_iff.mp hurl' with hold' | ⟨hnew, hraw, hnone, rfl⟩
        · exact h.activeOnce url url' id hold hold'
        · exact absurd hold (hfree hnew url' hraw hnone url)
      · rcases active_downloadPhoto_iff.mp hurl' with hold' | ⟨-, hraw', -, -⟩
        · exact absurd hold' (hfree hnew url hraw hnone url')
        · exact Option.some.inj (hraw.symm.trans hraw')
    · intro url id hurl hid
      rcases active_downloadPhoto_iff.mp hurl with hold | ⟨hnew, -, -, rfl⟩
      · exact h.notRecorded url id hold ((hrealm id).mp hid)
      · exact hnew ((hrealm _).mp hid)

/-- **A block** keeps them apart exactly when nothing of the id it saves is in progress. -/
theorem keptApart_runBlock_iff (h : app.KeptApart) {block : MainBlock} {rest : List MainBlock}
    (hqueue : app.mainQueue = block :: rest) :
    (({ app with mainQueue := rest } : App).runBlock block).KeptApart ↔
      app.KeepsApart .mainQueue := by
  have hactive : ∀ url id, (({ app with mainQueue := rest } : App).runBlock
      block).downloadManager.Active url id ↔ app.downloadManager.Active url id := by
    intro url id
    rw [runBlock_downloadManager]
  have hhead : app.mainQueue.head? = some block := by rw [hqueue, List.head?_cons]
  have hrecorded : ∀ id, (({ app with mainQueue := rest } : App).runBlock block).Recorded id ↔
      app.Recorded id ∨
        ∃ path width height, block = .saveDownloadedFilePath path id width height := by
    intro id
    show DataManager.isLocalImageDownloaded _ id = true ↔ _
    rw [runBlock_realm]
    cases block with
    | loadData | updateItemWithId => simp
    | saveDownloadedFilePath path k width height =>
      rw [DataManager.isLocalImageDownloaded_saveDownloadedFilePath, Bool.or_eq_true,
        decide_eq_true_iff, or_comm]
      refine or_congr_right ⟨?_, ?_⟩
      · rintro rfl
        exact ⟨path, width, height, rfl⟩
      · rintro ⟨_, _, _, ⟨⟩⟩
        rfl
  constructor
  · intro h' path id width height hsave u hu
    obtain rfl := Option.some.inj (hhead.symm.trans hsave)
    exact h'.notRecorded u id ((hactive u id).mpr hu)
      ((hrecorded id).mpr (Or.inr ⟨path, width, height, rfl⟩))
  · intro hfree
    refine ⟨?_, ?_⟩
    · intro url url' id hurl hurl'
      exact h.activeOnce url url' id ((hactive url id).mp hurl) ((hactive url' id).mp hurl')
    · intro url id hurl hid
      rcases (hrecorded id).mp hid with hid | ⟨path, width, height, rfl⟩
      · exact h.notRecorded url id ((hactive url id).mp hurl) hid
      · exact hfree path id width height hhead url ((hactive url id).mp hurl)

/-- **One step**: ids are kept apart exactly when the event meets its condition. -/
theorem keptApart_step {t : App} {e : AppEvent} (h : app.KeptApart)
    (hstep : screens.step app e = some t) : t.KeptApart ↔ app.KeepsApart e := by
  obtain ⟨hscreen, hstep⟩ := Machine.restrict_step.mp hstep
  cases e with
  | presentListInterface | dismissListInterface =>
    obtain rfl := Option.some.inj hstep
    exact iff_of_true (h.of_le (fun _ _ hactive => hactive) fun _ hid => hid) trivial
  | list event =>
    refine iff_of_true ?_ trivial
    cases event with
    | loadData =>
      obtain rfl := Option.some.inj hstep
      exact h.of_le (fun _ _ hactive => hactive) fun _ hid => hid
    | touchHeart tab row =>
      refine h.of_le ?_ fun id hid => (recorded_touchHeart hstep id).mp hid
      rw [touchHeart_downloadManager hstep]
      exact fun _ _ hactive => hactive
  | changeFavorite photo =>
    obtain rfl := Option.some.inj hstep
    refine iff_of_true (h.of_le (fun _ _ hactive => hactive) fun id hid => ?_) trivial
    have hsame : DataManager.isLocalImageDownloaded (app.changeFavorite photo).realm id =
        DataManager.isLocalImageDownloaded app.realm id :=
      DataManager.isLocalImageDownloaded_changeLocalImageFavoriteOfPhoto ..
    exact hsame.symm.trans hid
  | downloadPhoto photo =>
    obtain rfl := Option.some.inj hstep
    exact keptApart_downloadPhoto_iff h photo
  | control | didProduceResumeData => cases hscreen
  | session event =>
    refine iff_of_true ?_ trivial
    cases event with
    | didFinishDownloadingTo task location disk =>
      obtain ⟨request, -, rfl⟩ := Option.map_eq_some_iff.mp hstep
      exact h.of_le (fun _ _ hactive => DownloadManager.active_erase hactive) fun _ hid => hid
    | didWriteData task totalBytesWritten totalBytesExpectedToWrite =>
      obtain ⟨request, -, rfl⟩ := Option.map_eq_some_iff.mp hstep
      exact h.of_le (fun _ _ hactive => DownloadManager.active_didWriteData _ _ _ hactive)
        fun _ hid => hid
    | didCompleteWithError task =>
      obtain ⟨request, -, rfl⟩ := Option.map_eq_some_iff.mp hstep
      exact h.of_le (fun _ _ hactive => hactive) fun _ hid => hid
  | mainQueue =>
    obtain ⟨block, rest, hqueue, rfl⟩ := mainQueue_eq_some.mp hstep
    exact keptApart_runBlock_iff h hqueue

/-- **No photo is listed twice under Downloads**, by a load in any state of a run of the
screens from the start of the app, exactly when every tap that starts a transfer and every
save that runs find no transfer of their id in progress. -/
theorem listsOnce_along_iff (realm : Realm) (files : FileManager) (documentsPath : URL)
    (es : List AppEvent) :
    screens.Along (fun _ _ t => t.ListsOnce ∧ t.KeptApart) (launch realm files documentsPath) es ↔
      screens.Along (fun s e _ => s.KeepsApart e) (launch realm files documentsPath) es := by
  have hexact : ∀ s e t, s.KeptApart → screens.step s e = some t →
      (t.ListsOnce ∧ t.KeptApart ↔ s.KeepsApart e) := by
    intro s e t h hstep
    rw [listsOnce_iff, and_self]
    exact keptApart_step h hstep
  have hlaunch : (launch realm files documentsPath).KeptApart := by
    refine ⟨?_, ?_⟩
    · rintro _ _ _ ⟨_, hlookup, -⟩
      cases hlookup
    · rintro _ _ ⟨_, hlookup, -⟩
      cases hlookup
  exact Machine.along_iff_of_exact hexact (fun _ _ _ _ _ hR => hR.2) hlaunch es

/-- The server gives the photo another raw URL, and it is tapped again. -/
theorem photo_under_two_urls_listed_twice :
    ¬ screens.Along (fun _ _ t => t.ListsOnce ∧ t.KeptApart)
      (launch {} ⟨fun _ => none⟩ ⟨"file:///Documents"⟩)
      [.downloadPhoto (photoAt "p"), .downloadPhoto { photoAt "q" with identifier := "p" }] := by
  intro h
  have honce := ((h _ rfl).2 _ rfl).1.1
  have hnot : ¬ (["p", "p"] : List String).Nodup := by decide
  exact hnot honce

end App

end ImSplash
