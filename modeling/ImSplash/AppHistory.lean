import ImSplash.DetailHeart
import ImSplash.RunLedger
import ImSplash.Saves
import ImSplash.StoreHistory

/-!
# What the user and the downloads make of the store

The store of the whole app is the fold of the hearts that were touched and of the saves that
ran, whichever screen they came from.  The saves are those of the downloads that finished with
an entry, in the order they finished in: between a finish and its save the main queue loses
none and makes none twice.
-/

namespace ImSplash
open Runs

namespace DataManager

/-- A write to the flag of an id: a heart of that photo. -/
def Write.isHeartOf (id : String) (write : Write) : Bool := write.isToggle && write.id == id

/-- A heart turns its own flag, and a save none. -/
theorem isFavorite_perform (realm : Realm) (write : Write) (id : String) :
    (perform realm write).isFavorite id =
      if write.isHeartOf id then !realm.isFavorite id else realm.isFavorite id := by
  cases write with
  | changeLocalImageFavorite k =>
    rw [perform, isFavorite_changeLocalImageFavorite]
    by_cases hk : id = k
    · simp [hk, Write.isHeartOf, Write.isToggle, Write.id]
    · simp [hk, Write.isHeartOf, Write.isToggle, Write.id, Ne.symm hk]
  | changeLocalImageFavoriteOfPhoto k urlRegular width height =>
    rw [perform, isFavorite_changeLocalImageFavoriteOfPhoto]
    by_cases hk : id = k
    · simp [hk, Write.isHeartOf, Write.isToggle, Write.id]
    · simp [hk, Write.isHeartOf, Write.isToggle, Write.id, Ne.symm hk]
  | saveDownloadedFilePath filePath k width height =>
    exact isFavorite_saveDownloadedFilePath realm filePath k width height id

/-- **The flag of an id** is turned once for each heart. -/
theorem isFavorite_foldl_perform (history : List Write) (realm : Realm) (id : String) :
    (history.foldl perform realm).isFavorite id =
      (realm.isFavorite id ^^ (history.countP (Write.isHeartOf id) % 2 == 1)) := by
  induction history generalizing realm with
  | nil => simp
  | cons write history ih =>
    rw [List.foldl_cons, ih, isFavorite_perform, List.countP_cons]
    cases hheart : write.isHeartOf id with
    | false => simp
    | true =>
      rw [if_pos rfl, if_pos rfl, odd_succ]
      cases realm.isFavorite id <;> simp

/-- The save of a write, if it is one. -/
def Write.save? : Write → Option PendingSave
  | saveDownloadedFilePath filePath id width height => some ⟨filePath, id, width, height⟩
  | changeLocalImageFavorite _ | changeLocalImageFavoriteOfPhoto _ _ _ _ => none

/-- A write that keeps the paths of the records changes none, nor makes one. -/
theorem downloadedPath_writeObject {realm : Realm} {k : String}
    {change : LocalImage → LocalImage} {new : LocalImage}
    {hchange : ∀ item, (change item).id = item.id} (hnew : new.id = k)
    (hkept : ∀ item, (change item).isDownloaded = item.isDownloaded ∧
      (change item).localImagePath = item.localImagePath) (hnone : new.isDownloaded = false)
    (id : String) :
    (realm.writeObject k change new hchange hnew).downloadedPath id =
      realm.downloadedPath id := by
  unfold Realm.downloadedPath
  rw [Realm.object_writeObject]
  split
  · rename_i hk
    subst hk
    cases realm.object id with
    | none => simp [hnone]
    | some item => simp [(hkept item).1, (hkept item).2]
  · rfl

theorem downloadedPath_perform (realm : Realm) (write : Write) (id : String) :
    (perform realm write).downloadedPath id =
      ((write.save?.filter (·.id = id)).map PendingSave.destinationURL).or
        (realm.downloadedPath id) := by
  cases write with
  | changeLocalImageFavorite | changeLocalImageFavoriteOfPhoto =>
    refine downloadedPath_writeObject ?_ ?_ ?_ id
    · rfl
    · exact fun _ => ⟨rfl, rfl⟩
    · rfl
  | saveDownloadedFilePath filePath k width height =>
    refine (Realm.downloadedPath_save ⟨filePath, k, width, height⟩ id).trans ?_
    by_cases hk : id = k
    · simp [Write.save?, Option.filter, hk]
    · simp [Write.save?, Option.filter, hk, Ne.symm hk]

/-- **The path of an id** is the one that was saved for it last. -/
theorem downloadedPath_foldl_perform (history : List Write) (realm : Realm) (id : String) :
    (history.foldl perform realm).downloadedPath id =
      (((history.filterMap Write.save?).filter (·.id = id)).getLast?.map
        PendingSave.destinationURL).or (realm.downloadedPath id) := by
  induction history using List.reverseRecOn with
  | nil => rfl
  | append_singleton history write ih =>
    rw [List.foldl_append, List.foldl_cons, List.foldl_nil, downloadedPath_perform, ih,
      List.filterMap_append, List.filter_append]
    cases hsave : write.save? with
    | none => simp [hsave]
    | some save =>
      by_cases hid : save.id = id
      · simp [hsave, hid, Option.filter]
      · simp [hsave, hid, Option.filter]

end DataManager

/-- A download that is started and finishes leaves its save on the main queue. -/
theorem App.stepSession_downloadPhoto (app : App) {photo : UnsplashPhoto} {url : URL}
    (hraw : photo.urls .raw = some url)
    (hlookup : app.downloadManager.activeDownloads.lookup url = none)
    (hnew : DataManager.isLocalImageDownloaded app.realm photo.identifier = false)
    (hqueue : app.mainQueue = []) (location : ResponseBody) (disk : FileSystem) :
    ∃ finished, (app.downloadPhoto photo).stepSession (.didFinishDownloadingTo
        app.downloadManager.downloadsSession.nextId location disk) = some finished ∧
      finished.realm = app.realm ∧
      finished.mainQueue = [.saveDownloadedFilePath (app.downloadPath url) photo.identifier
        photo.width photo.height] := by
  have hstart : app.downloadPhoto photo =
      { app with downloadManager := app.downloadManager.startDownload photo } :=
    if_neg (by rw [hnew]; decide)
  rcases DownloadManager.startDownload_cases photo with
    ⟨-, hentry⟩ | ⟨url', hraw', -, hmanager⟩
  · obtain ⟨download, hfound⟩ := hentry url hraw
    cases hlookup.symm.trans hfound
  · obtain rfl := Option.some.inj (hraw.symm.trans hraw')
    rw [hstart, hmanager]
    refine ⟨_, congrArg (Option.map _) (App.outstanding?_eq_some.mpr
      (TaskTable.outstanding_create.mpr (.inr ⟨rfl, rfl⟩))), rfl, ?_⟩
    simp only [App.didFinishDownloadingTo, DownloadManager.didFinishDownloadingTo, App.settle,
      AList.lookup_insert, hqueue]
    rfl

namespace AppDependencies
variable {whole after : AppDependencies}

/-! ### A visit -/

/-- All that is done with a photo: its Detail screen is opened, its heart and its button are
touched, the download finishes and is saved, and the screen is closed. -/
def visitDetail (item : Nat) (task : TaskId) (location : ResponseBody) (disk : FileSystem) :
    List AppDependenciesEvent :=
  [.didSelectItem item, .touchBtnHeart, .touchBtnDownload,
    .session (.didFinishDownloadingTo task location disk), .mainQueue, .touchBtnClose]

/-- A photo of the grid that is not downloaded can be visited, and is recorded by then. -/
theorem run_visitDetail (hwired : whole.Wired) (hhome : whole.OnTop .home) (item : Nat)
    {photo : UnsplashPhoto} (hphoto : whole.home.view.photos[item]? = some photo)
    (hitem : item < whole.home.view.itemCount) {url : URL} (hraw : photo.urls .raw = some url)
    (hlookup : whole.app.downloadManager.activeDownloads.lookup url = none)
    (hnew : DataManager.isLocalImageDownloaded whole.app.realm photo.identifier = false)
    (hqueue : whole.app.mainQueue = []) (location : ResponseBody) (disk : FileSystem) :
    ∃ after, machine.Run whole (visitDetail item
        whole.app.downloadManager.downloadsSession.nextId location disk) after ∧
      after.home = whole.home.viewWillAppear ∧
      after.app.realm = DataManager.saveDownloadedFilePath (whole.app.changeFavorite photo).realm
        (whole.app.downloadPath url) photo.identifier photo.width photo.height := by
  have hselect := step_didSelectItem hhome hitem hphoto
  obtain ⟨shown, hshown, rfl, halert⟩ : ∃ shown,
      DetailViewController.viewDidLoad whole.app.realm photo = shown ∧ shown.photo = photo ∧
        shown.downloadedAlert = false :=
    ⟨_, rfl, DetailViewController.viewDidLoad_photo _ _,
      DetailViewController.viewDidLoad_downloadedAlert _ _⟩
  rw [hshown] at hselect
  have hselected := hwired.step hselect
  have hheart : machine.step _ .touchBtnHeart = some _ :=
    if_pos (hselected.onTop_detail rfl halert)
  have hhearted := hselected.step hheart
  have hdownload : machine.step _ .touchBtnDownload = some _ :=
    if_pos (hhearted.onTop_detail rfl halert)
  have hnew' : DataManager.isLocalImageDownloaded (whole.app.changeFavorite shown.photo).realm
      shown.photo.identifier = false :=
    (DataManager.isLocalImageDownloaded_changeLocalImageFavoriteOfPhoto ..).trans hnew
  obtain ⟨finished, hfinish, hrealm, hsave⟩ :=
    (whole.app.changeFavorite shown.photo).stepSession_downloadPhoto hraw hlookup hnew' hqueue
      location disk
  generalize hloading : touchBtnDownload _ _ = loading at hdownload
  have hshowing : loading.detail = some { shown with isFavorite := !shown.isFavorite } := by
    rw [← hloading]
    exact congrArg some (if_neg (Bool.eq_false_iff.mp hnew'))
  have hsession : machine.step loading (.session (.didFinishDownloadingTo
      whole.app.downloadManager.downloadsSession.nextId location disk)) =
        some { loading with app := finished } := by
    rw [← hloading]
    exact congrArg (Option.map _) hfinish
  have hfinished := (hhearted.step hdownload).step hsession
  have hsaved := hfinished.step_mainQueue hsave
  have hclosed : machine.step _ .touchBtnClose = some _ :=
    if_pos ((hfinished.step hsaved).onTop_detail hshowing halert)
  refine ⟨_, .cons hselect (.cons hheart (.cons hdownload (.cons hsession (.cons hsaved
    (.cons hclosed (.nil _)))))), ?_, ?_⟩
  · rw [← hloading]
    rfl
  · refine (App.runBlock_realm _).trans ?_
    show DataManager.saveDownloadedFilePath finished.realm _ _ _ _ = _
    rw [hrealm]
    rfl

/-! ### The history of a run -/

/-- The write that an event makes. -/
def write? (whole : AppDependencies) : AppDependenciesEvent → Option DataManager.Write
  | .touchHeart tab row =>
    ((whole.app.listViewController.rows tab)[row]?).map fun item =>
      .changeLocalImageFavorite item.id
  | .touchBtnHeart =>
    whole.detail.map fun detail =>
      .changeLocalImageFavoriteOfPhoto detail.photo.identifier
        (((detail.photo.urls .regular).map URL.absoluteString).getD "") detail.photo.width
        detail.photo.height
  | .mainQueue =>
    (whole.app.mainQueue.head?.bind MainBlock.save?).map fun save =>
      .saveDownloadedFilePath save.destinationURL save.id save.width save.height
  | _ => none

/-- What is to be saved of the download that an event finishes. -/
def finished? (whole : AppDependencies) : AppDependenciesEvent → Option PendingSave
  | .session (.didFinishDownloadingTo task _ _) =>
    (whole.app.outstanding? task).bind fun request =>
      (whole.app.downloadManager.activeDownloads.lookup request.originalURL).map fun download =>
        ⟨whole.app.downloadPath request.originalURL, download.photo.identifier,
          download.photo.width, download.photo.height⟩
  | _ => none

/-- An event changes the store by its write. -/
theorem realm_step (hwired : whole.Wired) {event : AppDependenciesEvent}
    (hstep : machine.step whole event = some after) : after.app.realm =
      (whole.write? event).toList.foldl DataManager.perform whole.app.realm := by
  cases step_of_step hstep with
  | home | select | selectNothing | push | pop | close | dismissAlert => rfl
  | touchHeart htop htouch =>
    obtain ⟨screen, item, hitem, rfl⟩ := App.touchHeart_cases htouch
    rw [write?, hitem]
    rfl
  | heart hdetail =>
    rw [write?, hdetail]
    rfl
  | download hdetail => exact App.downloadPhoto_realm _
  | session happ =>
    rw [App.stepSession_realm happ]
    rfl
  | mainQueue happ =>
    rw [hwired.app_eq] at happ
    obtain ⟨block, rest, hqueue, heq⟩ := App.mainQueue_eq_some.mp happ
    rw [heq, App.runBlock_realm_eq, write?, hqueue]
    cases block <;> rfl

/-- An event takes its save from the front of those that wait, and puts what it finishes at
their end. -/
theorem saves_step (hwired : whole.Wired) {event : AppDependenciesEvent}
    (hstep : machine.step whole event = some after) :
    ((whole.write? event).bind DataManager.Write.save?).toList ++ after.app.saves =
      whole.app.saves ++ (whole.finished? event).toList := by
  cases step_of_step hstep with
  | home | select | selectNothing | pop | close | dismissAlert =>
    exact (List.append_nil _).symm
  | push => exact App.presentListInterface_saves.trans (List.append_nil _).symm
  | touchHeart htop htouch =>
    obtain ⟨screen, item, hitem, rfl⟩ := App.touchHeart_cases htouch
    rw [write?, hitem]
    exact (List.append_nil _).symm
  | heart hdetail =>
    rw [write?, hdetail]
    exact (List.append_nil _).symm
  | @download detail hdetail =>
    have hkept : (whole.app.downloadPhoto detail.photo).saves = whole.app.saves := by
      unfold App.downloadPhoto
      split <;> rfl
    exact hkept.trans (List.append_nil _).symm
  | @session event app happ =>
    cases event with
    | didFinishDownloadingTo task location disk =>
      obtain ⟨request, hrequest, rfl⟩ := Option.map_eq_some_iff.mp happ
      rw [finished?, hrequest]
      exact App.didFinishDownloadingTo_saves _ _ _
    | didWriteData task written expected =>
      obtain ⟨request, -, rfl⟩ := Option.map_eq_some_iff.mp happ
      exact (App.didWriteData_saves _ _ _).trans (List.append_nil _).symm
    | didCompleteWithError task =>
      obtain ⟨request, -, rfl⟩ := Option.map_eq_some_iff.mp happ
      exact (List.append_nil _).symm
  | mainQueue happ =>
    rw [hwired.app_eq] at happ
    obtain ⟨block, rest, hqueue, heq⟩ := App.mainQueue_eq_some.mp happ
    rw [heq, App.runBlock_saves, App.saves_cons hqueue, write?, hqueue]
    cases block with
    | saveDownloadedFilePath | updateItemWithId | loadData => exact (List.append_nil _).symm

/-- The writes of a run, in their order. -/
def history (whole : AppDependencies) (events : List AppDependenciesEvent) :
    List DataManager.Write := machine.collect write? whole events

/-- What is to be saved of the downloads that finish in a run, in the order they do. -/
def finished (whole : AppDependencies) (events : List AppDependenciesEvent) : List PendingSave :=
  machine.collect finished? whole events

theorem collect_save? (events : List AppDependenciesEvent) :
    machine.collect (fun whole event => (whole.write? event).bind DataManager.Write.save?) whole
      events = (whole.history events).filterMap DataManager.Write.save? := by
  induction events generalizing whole with
  | nil => rfl
  | cons event events ih =>
    unfold history at ih ⊢
    cases hstep : machine.step whole event with
    | none => rw [Machine.collect, Machine.collect, hstep]; rfl
    | some after =>
      rw [Machine.collect_cons hstep, Machine.collect_cons hstep, List.filterMap_append, ih]
      cases whole.write? event <;> rfl

/-- **The store is what the user and the downloads made of it**, after any run of the app: it is
the fold of the writes of the run; a photo is a favourite if its hearts, on whichever screen,
were touched an odd number of times, or an even number if it was one before; and its picture
is the last that was saved for it.  What was saved is what finished, in that order, but for the
saves that wait. -/
theorem store_eq_history (realm : Realm) (files : FileManager) (documentsPath : URL)
    {events : List AppDependenciesEvent}
    (hrun : machine.Run (launch realm files documentsPath) events whole) :
    let history := (launch realm files documentsPath).history events
    whole.app.realm = history.foldl DataManager.perform realm ∧
      (∀ id, whole.app.realm.isFavorite id = (realm.isFavorite id ^^
        (history.countP (DataManager.Write.isHeartOf id) % 2 == 1))) ∧
      (∀ id, whole.app.realm.downloadedPath id =
        (((history.filterMap DataManager.Write.save?).filter (·.id = id)).getLast?.map
          PendingSave.destinationURL).or (realm.downloadedPath id)) ∧
      history.filterMap DataManager.Write.save? ++ whole.app.saves =
        (launch realm files documentsPath).finished events := by
  intro history
  have hlaunch := wired_launch realm files documentsPath
  have hstore : whole.app.realm = history.foldl DataManager.perform realm := by
    have hkept : ∀ whole event after, Wired whole → machine.step whole event = some after →
        Wired after ∧ after.app.realm =
          (whole.write? event).toList.foldl DataManager.perform whole.app.realm :=
      fun _ _ _ hwired hstep => ⟨hwired.step hstep, realm_step hwired hstep⟩
    exact hrun.foldl_collect hkept hlaunch
  have hsaved : history.filterMap DataManager.Write.save? ++ whole.app.saves =
      (launch realm files documentsPath).finished events := by
    have hkept : ∀ whole event after, Wired whole → machine.step whole event = some after →
        Wired after ∧ ((whole.write? event).bind DataManager.Write.save?).toList ++
          after.app.saves = whole.app.saves ++ (whole.finished? event).toList :=
      fun _ _ _ hwired hstep => ⟨hwired.step hstep, saves_step hwired hstep⟩
    have hfifo := hrun.fifo hkept hlaunch
    rw [collect_save?] at hfifo
    exact hfifo
  refine ⟨hstore, fun id => ?_, fun id => ?_, hsaved⟩
  · rw [hstore, DataManager.isFavorite_foldl_perform]
  · rw [hstore, DataManager.downloadedPath_foldl_perform]

/-- The first photo of the grid is made a favourite and downloaded. -/
def firstPhoto : List AppDependenciesEvent :=
  [.home .viewWillAppear, .home (.requestDidComplete 0 ⟨none, [some (photoAt "p")]⟩),
    .home .mainQueue, .home .mainQueue, .home .mainQueue] ++ visitDetail 0 0 ⟨200, [1]⟩ {}

theorem store_eq_history_firstPhoto :
    ∃ whole : AppDependencies,
      machine.Run (launch {} ⟨fun _ => none⟩ ⟨"file:///Documents"⟩) firstPhoto whole ∧
      whole.app.realm.isFavorite "p" = true ∧
      whole.app.realm.downloadedPath "p" = some ((App.launch {} ⟨fun _ => none⟩
        ⟨"file:///Documents"⟩).downloadPath ⟨"https://i/p"⟩) ∧
      whole.app.realm = ((launch {} ⟨fun _ => none⟩ ⟨"file:///Documents"⟩).history
        firstPhoto).foldl DataManager.perform {} := by
  have hlaunch := wired_launch {} ⟨fun _ => none⟩ ⟨"file:///Documents"⟩
  have hhome : machine.Run (launch {} ⟨fun _ => none⟩ ⟨"file:///Documents"⟩)
      [.home .viewWillAppear, .home (.requestDidComplete 0 ⟨none, [some (photoAt "p")]⟩),
        .home .mainQueue, .home .mainQueue, .home .mainQueue] _ :=
    .cons rfl (.cons rfl (.cons rfl (.cons rfl (.cons rfl (.nil _)))))
  have hwired := hlaunch.run hhome
  obtain ⟨whole, hvisit, -, hrealm⟩ := run_visitDetail hwired (hwired.onTop_iff.mpr rfl) 0 rfl
    (by decide) rfl rfl rfl rfl ⟨200, [1]⟩ {}
  have hrun := hhome.append hvisit
  refine ⟨whole, hrun, ?_, ?_, (store_eq_history _ _ _ hrun).1⟩
  · rw [hrealm]
    rfl
  · rw [hrealm]
    rfl

end AppDependencies

end ImSplash
