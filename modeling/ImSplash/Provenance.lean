import ImSplash.DetailHeart
import ImSplash.ListAgreement
import ImSplash.Saves

/-!
# Where the records come from

Nothing is downloaded, recorded or listed that the Home screen has not shown: the Detail
screen is only ever presented for a photo of the grid, whose photos never go away; the hearts
of the List screen are those of its rows, which are snapshots of the registry and the store.
What was stored when the app was launched is the exception.
-/

namespace ImSplash
open Runs

/-- The id was stored at the launch, or is that of an offered photo. -/
def KnownId (stored : String → Prop) (offered : List UnsplashPhoto) (id : String) : Prop :=
  stored id ∨ ∃ photo ∈ offered, photo.identifier = id

theorem KnownId.mono {stored : String → Prop} {offered offered' : List UnsplashPhoto}
    {id : String} (h : KnownId stored offered id) (hsub : offered ⊆ offered') :
    KnownId stored offered' id :=
  h.imp_right fun ⟨photo, hphoto, hid⟩ => ⟨photo, hsub hphoto, hid⟩

/-- A write makes a record of its own id, or changes one that keeps its id. -/
theorem Realm.id_of_mem_writeObject {realm : Realm} {id : String}
    {change : LocalImage → LocalImage} {new : LocalImage}
    {hchange : ∀ item, (change item).id = item.id} (hnew : new.id = id) {item : LocalImage}
    (h : item ∈ (realm.writeObject id change new hchange hnew).objects) :
    item.id = id ∨ ∃ old ∈ realm.objects, item.id = old.id := by
  rcases Realm.mem_writeObject h with rfl | hold
  · left
    cases hobject : realm.object id with
    | none => exact hnew
    | some old => exact (hchange old).trans (Realm.object_id hobject)
  · exact Or.inr ⟨item, hold, rfl⟩

namespace ListViewController
variable {screen screen' : ListViewController} {realm realm' : Realm} {downloads : ActiveDownloads}

/-- The rows of a loaded screen are entries in progress and records. -/
theorem mem_rows_loadData {tab : Tab} {item : TransLocalImage}
    (h : item ∈ (screen.loadData realm downloads).rows tab) :
    (∃ url download, downloads.lookup url = some download ∧
      item.id = download.photo.identifier) ∨ ∃ record ∈ realm.objects, item.id = record.id := by
  have hrecord : ∀ p : LocalImage → Bool,
      item ∈ (realm.objects.filter p).map TransLocalImage.ofLocal →
        ∃ record ∈ realm.objects, item.id = record.id := by
    intro p hitem
    obtain ⟨record, hrecord, rfl⟩ := List.mem_map.mp hitem
    exact ⟨record, (List.mem_filter.mp hrecord).1, rfl⟩
  cases tab with
  | downloads =>
    have hitem : item ∈ (screen.loadData realm downloads).dowList := h
    rw [loadData_dowList] at hitem
    rcases List.mem_append.mp hitem with hitem | hitem
    · obtain ⟨download, hdownload, rfl⟩ := List.mem_map.mp hitem
      obtain ⟨url, hlookup⟩ := (mem_downloadsInProgress.mp hdownload).1
      exact Or.inl ⟨url, download, hlookup, rfl⟩
    · exact Or.inr (hrecord _ hitem)
  | favorites =>
    have hitem : item ∈ (screen.loadData realm downloads).favList := h
    rw [loadData_favList] at hitem
    exact Or.inr (hrecord _ hitem)

@[simp] theorem rows_updateItemWithId (id : String) (progress : Progress) (tab : Tab) :
    (screen.updateItemWithId id progress).rows tab = screen.rows tab := by
  unfold updateItemWithId
  cases firstRow screen.dowList id with
  | some found => cases tab <;> rfl
  | none => cases firstRow screen.favList id <;> cases tab <;> rfl

theorem rows_updateFavoriteForDownloads (changedItem : TransLocalImage) (tab : Tab) :
    (screen.updateFavoriteForDownloads changedItem).rows tab = screen.rows tab := by
  obtain ⟨hdow, hfav⟩ := updateFavoriteForDownloads_lists changedItem
  cases tab with
  | downloads => exact hdow
  | favorites => exact hfav

theorem rows_removeFavorite (screen : ListViewController) (id : String) (tab : Tab) :
    (screen.removeFavorite id).rows tab ⊆ screen.rows tab := by
  cases tab with
  | downloads => exact List.Subset.refl _
  | favorites => exact fun _ hitem => (List.mem_filter.mp hitem).1

/-- A heart keeps the rows, takes some away, or has the screen load its data again. -/
theorem rows_changeFavorite {row : Nat}
    (hchange : screen.changeFavorite row realm downloads = some (screen', realm')) (tab : Tab) :
    screen'.rows tab ⊆ screen.rows tab ∨
      ∃ loaded : ListViewController, screen' = loaded.loadData realm' downloads := by
  cases hdisplay : screen.isDisplayingDownload with
  | true =>
    obtain ⟨item, -, hscreen, -⟩ := changeFavorite_downloads_cases hdisplay hchange
    rw [hscreen]
    unfold updateFavoriteForFav
    cases firstRow screen.favList item.id with
    | none => exact Or.inr ⟨screen, rfl⟩
    | some found => exact Or.inl (by cases tab <;> exact List.Subset.refl _)
  | false =>
    obtain ⟨item, -, hscreen, -⟩ := changeFavorite_favorites_cases hdisplay hchange
    left
    rw [hscreen]
    split
    · refine List.Subset.trans (rows_removeFavorite _ _ tab) ?_
      rw [rows_updateFavoriteForDownloads]
      exact List.Subset.refl _
    · rw [rows_updateFavoriteForDownloads]
      exact List.Subset.refl _

end ListViewController

namespace App

/-- What is recorded, listed, transferred and about to be saved is known. -/
structure From (app : App) (stored : String → Prop) (offered : List UnsplashPhoto) : Prop where
  records : ∀ item ∈ app.realm.objects, KnownId stored offered item.id
  rows : ∀ tab, ∀ item ∈ app.listViewController.rows tab, KnownId stored offered item.id
  entries : ∀ url download, app.downloadManager.activeDownloads.lookup url = some download →
    download.photo ∈ offered ∧ download.photo.urls .raw = some url
  /-- A task is there when its entry is gone. -/
  tasks : ∀ request ∈ app.downloadManager.downloadsSession.tasks.map SessionTask.request,
    request.photo ∈ offered ∧ request.photo.urls .raw = some request.originalURL
  saves : ∀ save ∈ app.saves, ∃ photo ∈ offered,
    save.id = photo.identifier ∧ save.width = photo.width ∧ save.height = photo.height

namespace From
variable {app after : App} {stored : String → Prop} {offered offered' : List UnsplashPhoto}

theorem mono (h : app.From stored offered) (hsub : offered ⊆ offered') :
    app.From stored offered' where
  records item hitem := (h.records item hitem).mono hsub
  rows tab item hitem := (h.rows tab item hitem).mono hsub
  entries url download hlookup := ⟨hsub (h.entries url download hlookup).1,
    (h.entries url download hlookup).2⟩
  tasks request hrequest := ⟨hsub (h.tasks request hrequest).1, (h.tasks request hrequest).2⟩
  saves save hsave := (h.saves save hsave).imp fun _ hphoto => ⟨hsub hphoto.1, hphoto.2⟩

/-- The rows of a screen that has loaded its data. -/
theorem rows_loadData (h : app.From stored offered) (screen : ListViewController) {realm : Realm}
    (hrealm : ∀ item ∈ realm.objects, KnownId stored offered item.id) (tab : Tab) :
    ∀ item ∈ (screen.loadData realm app.downloadManager.activeDownloads).rows tab,
      KnownId stored offered item.id := by
  intro item hitem
  rcases ListViewController.mem_rows_loadData hitem with ⟨url, download, hlookup, hid⟩ |
    ⟨record, hrecord, hid⟩
  · exact Or.inr ⟨download.photo, (h.entries url download hlookup).1, hid.symm⟩
  · rw [hid]
    exact hrealm record hrecord

/-- A write to a known id leaves known ids only. -/
theorem records_of_write (h : app.From stored offered) {id : String} {realm : Realm}
    (hid : KnownId stored offered id)
    (hwrite : ∀ item ∈ realm.objects, item.id = id ∨ ∃ old ∈ app.realm.objects, item.id = old.id) :
    ∀ item ∈ realm.objects, KnownId stored offered item.id := by
  intro item hitem
  rcases hwrite item hitem with heq | ⟨old, hold, heq⟩
  · rw [heq]
    exact hid
  · rw [heq]
    exact h.records old hold

theorem touchHeart (h : app.From stored offered) {tab : Tab} {row : Nat}
    (htouch : app.touchHeart tab row = some after) : after.From stored offered := by
  obtain ⟨⟨screen, realm⟩, hchange, rfl⟩ := Option.map_eq_some_iff.mp htouch
  obtain ⟨_, item, hitem, heq⟩ := touchHeart_cases htouch
  have hrealm : realm = DataManager.changeLocalImageFavorite app.realm item.id :=
    congrArg App.realm heq
  have hrecords : ∀ record ∈ realm.objects, KnownId stored offered record.id := by
    rw [hrealm]
    exact h.records_of_write (h.rows tab item (List.mem_of_getElem? hitem))
      fun _ => Realm.id_of_mem_writeObject (by rfl)
  refine ⟨hrecords, fun shown => ?_, h.entries, h.tasks, h.saves⟩
  rcases ListViewController.rows_changeFavorite hchange shown with hsub | ⟨loaded, hloaded⟩
  · have hrows : (app.listViewController.touchTab tab).rows shown =
        app.listViewController.rows shown := by cases shown <;> rfl
    exact fun other hother => h.rows shown other (hrows ▸ hsub hother)
  · rw [hloaded]
    exact h.rows_loadData loaded hrecords shown

theorem changeFavorite (h : app.From stored offered) {photo : UnsplashPhoto}
    (hphoto : photo ∈ offered) : (app.changeFavorite photo).From stored offered :=
  ⟨h.records_of_write (Or.inr ⟨photo, hphoto, rfl⟩) fun _ => Realm.id_of_mem_writeObject (by rfl),
    h.rows, h.entries, h.tasks, h.saves⟩

theorem downloadPhoto (h : app.From stored offered) {photo : UnsplashPhoto}
    (hphoto : photo ∈ offered) : (app.downloadPhoto photo).From stored offered := by
  unfold App.downloadPhoto
  split
  · exact ⟨h.records, h.rows, h.entries, h.tasks, h.saves⟩
  · rcases DownloadManager.startDownload_cases photo with ⟨heq, -⟩ | ⟨url, hraw, -, heq⟩
    · rw [heq]
      exact ⟨h.records, h.rows, h.entries, h.tasks, h.saves⟩
    · rw [heq]
      refine ⟨h.records, h.rows, ?_, ?_, h.saves⟩
      · intro u download hlookup
        rcases lookup_insert_eq_some.mp hlookup with ⟨rfl, rfl⟩ | ⟨-, hold⟩
        · exact ⟨hphoto, hraw⟩
        · exact h.entries u download hold
      · show ∀ request ∈ (_ ++ [_]).map SessionTask.request, _
        rw [List.map_append, List.forall_mem_append]
        refine ⟨h.tasks, fun request hrequest => ?_⟩
        obtain rfl := List.mem_singleton.mp hrequest
        exact ⟨hphoto, hraw⟩

/-- A task that is settled is for the same photo. -/
theorem tasks_settle (h : app.From stored offered) (task : TaskId) (status : TaskStatus) :
    ∀ request ∈ (app.downloadManager.downloadsSession.settle task status).tasks.map
        SessionTask.request,
      request.photo ∈ offered ∧ request.photo.urls .raw = some request.originalURL := by
  rw [TaskTable.map_request_settle]
  exact h.tasks

theorem finish (h : app.From stored offered) (task : TaskId) (sourceURL : URL)
    (location : ResponseBody) (disk : FileSystem) :
    ((app.settle task .finished).didFinishDownloadingTo sourceURL location disk).From
      stored offered := by
  refine ⟨h.records, h.rows, ?_, ?_, ?_⟩
  · intro url download hlookup
    exact h.entries url download (lookup_erase_eq_some.mp hlookup).2
  · exact h.tasks_settle task .finished
  · intro save hsave
    rw [didFinishDownloadingTo_saves] at hsave
    rcases List.mem_append.mp hsave with hold | hnew
    · exact h.saves save hold
    · obtain ⟨download, hlookup, rfl⟩ := Option.map_eq_some_iff.mp (Option.mem_toList.mp hnew)
      exact ⟨download.photo, (h.entries sourceURL download hlookup).1, rfl, rfl, rfl⟩

theorem didWriteData (h : app.From stored offered) (url : URL)
    (totalBytesWritten totalBytesExpectedToWrite : Int) :
    (app.didWriteData url totalBytesWritten totalBytesExpectedToWrite).From stored offered := by
  refine ⟨h.records, h.rows, ?_, ?_, ?_⟩
  · intro u download hlookup
    obtain ⟨old, hold, heq⟩ := DownloadManager.lookup_didWriteData hlookup
    rw [heq]
    exact h.entries u old hold
  · show ∀ request ∈ (app.downloadManager.didWriteData url totalBytesWritten
      totalBytesExpectedToWrite).1.downloadsSession.tasks.map SessionTask.request, _
    rw [DownloadManager.didWriteData_downloadsSession]
    exact h.tasks
  · rw [app.didWriteData_saves]
    exact h.saves

theorem runBlock (h : app.From stored offered) {block : MainBlock} {rest : List MainBlock}
    (hqueue : app.mainQueue = block :: rest) :
    (({ app with mainQueue := rest } : App).runBlock block).From stored offered := by
  have hsaves := saves_cons hqueue
  have hrest : (({ app with mainQueue := rest } : App).runBlock block).saves ⊆ app.saves := by
    rw [runBlock_saves, hsaves]
    exact List.subset_append_right _ _
  have hrecords : ∀ item ∈ (({ app with mainQueue := rest } : App).runBlock block).realm.objects,
      KnownId stored offered item.id := by
    rw [runBlock_realm_eq]
    cases hsave : block.save? with
    | none => exact h.records
    | some save =>
      rw [hsave] at hsaves
      obtain ⟨photo, hphoto, hid, -⟩ := h.saves save (by rw [hsaves]; exact List.mem_cons_self)
      exact h.records_of_write (Or.inr ⟨photo, hphoto, hid.symm⟩)
        fun _ => Realm.id_of_mem_writeObject (by rfl)
  refine ⟨hrecords, ?_, ?_, ?_, fun save hsave => h.saves save (hrest hsave)⟩
  · intro tab
    cases block with
    | loadData => exact h.rows_loadData _ h.records tab
    | updateItemWithId id progress =>
      simp only [App.runBlock]
      split
      · rw [ListViewController.rows_updateItemWithId]
        exact h.rows tab
      · exact h.rows tab
    | saveDownloadedFilePath destinationURL id width height =>
      rw [App.runBlock_realm] at hrecords
      simp only [App.runBlock]
      split
      · exact h.rows_loadData _ hrecords tab
      · exact h.rows tab
  · rw [runBlock_downloadManager]
    exact h.entries
  · rw [runBlock_downloadManager]
    exact h.tasks

/-- **One step of the screens**, on an offered photo if it is on one. -/
theorem step (h : app.From stored offered) {event : AppEvent}
    (hchange : ∀ photo, event = .changeFavorite photo → photo ∈ offered)
    (hdownload : ∀ photo, event = .downloadPhoto photo → photo ∈ offered)
    (hstep : screens.step app event = some after) : after.From stored offered := by
  obtain ⟨hscreen, hstep⟩ := Machine.restrict_step.mp hstep
  cases event with
  | presentListInterface =>
    obtain rfl := Option.some.inj hstep
    refine ⟨h.records, fun tab item hitem => ?_, h.entries, h.tasks, ?_⟩
    · cases tab <;> cases hitem
    · rw [presentListInterface_saves]
      exact h.saves
  | dismissListInterface =>
    obtain rfl := Option.some.inj hstep
    exact ⟨h.records, h.rows, h.entries, h.tasks, h.saves⟩
  | list event =>
    cases event with
    | loadData =>
      obtain rfl := Option.some.inj hstep
      exact ⟨h.records, h.rows_loadData _ h.records, h.entries, h.tasks, h.saves⟩
    | touchHeart tab row => exact h.touchHeart hstep
  | changeFavorite photo =>
    obtain rfl := Option.some.inj hstep
    exact h.changeFavorite (hchange photo rfl)
  | downloadPhoto photo =>
    obtain rfl := Option.some.inj hstep
    exact h.downloadPhoto (hdownload photo rfl)
  | control | didProduceResumeData => cases hscreen
  | session event =>
    cases event with
    | didFinishDownloadingTo task location disk =>
      obtain ⟨request, -, rfl⟩ := Option.map_eq_some_iff.mp hstep
      exact h.finish task request.originalURL location disk
    | didWriteData task totalBytesWritten totalBytesExpectedToWrite =>
      obtain ⟨request, -, rfl⟩ := Option.map_eq_some_iff.mp hstep
      exact h.didWriteData _ _ _
    | didCompleteWithError task =>
      obtain ⟨request, -, rfl⟩ := Option.map_eq_some_iff.mp hstep
      exact ⟨h.records, h.rows, h.entries, h.tasks_settle task .failed, h.saves⟩
  | mainQueue =>
    obtain ⟨block, rest, hqueue, rfl⟩ := mainQueue_eq_some.mp hstep
    exact h.runBlock hqueue

end From

end App

namespace AppDependencies
variable {whole after : AppDependencies} {stored : String → Prop}

/-- Everything comes from the grid, or was stored at the launch. -/
structure FromGrid (whole : AppDependencies) (stored : String → Prop) : Prop where
  app : whole.app.From stored whole.home.view.photos
  detail : ∀ detail, whole.detail = some detail → detail.photo ∈ whole.home.view.photos

/-- No event takes a photo from the grid. -/
theorem photos_step (hwired : whole.Wired) {event : AppDependenciesEvent}
    (hstep : machine.step whole event = some after) :
    whole.home.view.photos ⊆ after.home.view.photos := by
  cases hevent : homeEvent event with
  | none =>
    have hsame : after.home = whole.home := homeProjection.stutter hwired hstep hevent
    rw [hsame]
    exact List.Subset.refl _
  | some home =>
    have hhome : HomeScreen.machine.step whole.home home = some after.home :=
      homeProjection.step hwired hstep hevent
    exact (HomeScreen.photos_step _ hhome).subset

/-- The Detail screen stays that of its photo, or is presented for one of the grid. -/
theorem detail_step {event : AppDependenciesEvent} (hstep : machine.step whole event = some after)
    {detail : DetailViewController} (hdetail : after.detail = some detail) :
    (∃ before, whole.detail = some before ∧ before.photo = detail.photo) ∨
      detail.photo ∈ whole.home.view.photos := by
  cases step_of_step hstep with
  | @select item photo htop hphoto =>
    obtain rfl := Option.some.inj hdetail
    right
    rw [DetailViewController.viewDidLoad_photo]
    exact List.mem_of_getElem? hphoto
  | heart hbefore | dismissAlert hbefore =>
    obtain rfl := Option.some.inj hdetail
    exact Or.inl ⟨_, hbefore, rfl⟩
  | download hbefore =>
    obtain rfl := Option.some.inj hdetail
    refine Or.inl ⟨_, hbefore, ?_⟩
    split <;> rfl
  | close => cases hdetail
  | _ => exact Or.inl ⟨detail, hdetail, rfl⟩

theorem FromGrid.step (h : whole.FromGrid stored) (hwired : whole.Wired)
    {event : AppDependenciesEvent} (hstep : machine.step whole event = some after) :
    after.FromGrid stored := by
  have hgrid := photos_step hwired hstep
  have happ : after.app.From stored whole.home.view.photos := by
    cases hevent : whole.appEvent event with
    | none =>
      have hsame : after.app = whole.app := appProjection.stutter hwired hstep hevent
      rw [hsame]
      exact h.app
    | some appEvent =>
      have hscreens : App.screens.step whole.app appEvent = some after.app :=
        appProjection.step hwired hstep hevent
      -- A photo is changed or downloaded by the Detail screen only.
      refine h.app.step ?_ ?_ hscreens
      · rintro photo rfl
        cases event with
        | touchBtnHeart =>
          obtain ⟨detail, hdetail, ⟨⟩⟩ := Option.map_eq_some_iff.mp hevent
          exact h.detail detail hdetail
        | touchBtnDownload =>
          obtain ⟨detail, -, heq⟩ := Option.map_eq_some_iff.mp hevent
          cases heq
        | _ => cases hevent
      · rintro photo rfl
        cases event with
        | touchBtnDownload =>
          obtain ⟨detail, hdetail, ⟨⟩⟩ := Option.map_eq_some_iff.mp hevent
          exact h.detail detail hdetail
        | touchBtnHeart =>
          obtain ⟨detail, -, heq⟩ := Option.map_eq_some_iff.mp hevent
          cases heq
        | _ => cases hevent
  refine ⟨happ.mono hgrid, fun detail hdetail => ?_⟩
  rcases detail_step hstep hdetail with ⟨before, hbefore, hphoto⟩ | hshown
  · exact hphoto ▸ hgrid (h.detail before hbefore)
  · exact hgrid hshown

theorem fromGrid_launch (realm : Realm) (files : FileManager) (documentsPath : URL) :
    (launch realm files documentsPath).FromGrid fun id => ∃ item ∈ realm.objects, item.id = id := by
  refine ⟨⟨fun item hitem => Or.inl ⟨item, hitem, rfl⟩, ?_, ?_, ?_, ?_⟩, ?_⟩
  · intro tab item hitem
    cases tab <;> cases hitem
  · intro url download hlookup
    cases hlookup
  · intro request hrequest
    cases hrequest
  · intro save hsave
    cases hsave
  · intro detail hdetail
    cases hdetail

/-- **Nothing is recorded, listed or transferred that the Home screen has not shown**, in any
state of any run of the app, but what was stored when it was launched. -/
theorem fromGrid_along (realm : Realm) (files : FileManager) (documentsPath : URL)
    (events : List AppDependenciesEvent) :
    machine.Along
      (fun _ _ after => after.FromGrid fun id => ∃ item ∈ realm.objects, item.id = id)
      (launch realm files documentsPath) events := by
  have hkept : ∀ whole event after,
      whole.Wired ∧ whole.FromGrid (fun id => ∃ item ∈ realm.objects, item.id = id) →
      machine.step whole event = some after →
        (after.Wired ∧ after.FromGrid fun id => ∃ item ∈ realm.objects, item.id = id) ∧
          after.FromGrid fun id => ∃ item ∈ realm.objects, item.id = id := by
    rintro whole event after ⟨hwired, hgrid⟩ hstep
    have hafter := hgrid.step hwired hstep
    exact ⟨⟨hwired.step hstep, hafter⟩, hafter⟩
  exact Machine.along_of_step_invariant hkept
    ⟨wired_launch realm files documentsPath, fromGrid_launch realm files documentsPath⟩ events

end AppDependencies

end ImSplash
