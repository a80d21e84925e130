import ImSplash.OneTransfer
import ImSplash.Saves

/-!
# Does every downloaded photo have its file?

A record that says "downloaded" should point at a file with the body of a
successful response.  `didFinishDownloadingTo` removes what is at the destination,
copies, prints the error of the copy if there is one, and tells the delegate all
the same; it never looks at the status of the response.  A finish without a photo
leaves what was saved alone only when the registry has no entry to report and the
destination nothing to lose.
-/

namespace ImSplash
open Runs

/-- A file that was at the destination stays when it could not be removed, or when
the copy that replaces it is the same. -/
theorem FileManager.replaceItem_keeps_iff {files : FileManager} {location body : ResponseBody}
    {destination : URL} {disk : FileSystem} (h : files.contents destination = some body) :
    (files.replaceItem location destination disk).contents destination = some body ↔
      disk.removes = false ∨ disk.copies = true ∧ location = body := by
  by_cases hcopies : files.Copies destination disk
  · have hremoves : disk.removes = true := by
      rcases hcopies.1 with hremoves | hnone
      · exact hremoves
      · rw [h] at hnone
        cases hnone
    rw [contents_replaceItem_of_copies hcopies, if_pos rfl]
    simp [hremoves, hcopies.2]
  · have hstays : files.file destination.filePath = some body := h
    rw [contents, replaceItem_of_not_copies hcopies]
    by_cases hremoves : disk.removes = true
    · have hnot : disk.copies = false := by
        cases hc : disk.copies with
        | false => rfl
        | true => exact absurd ⟨Or.inl hremoves, hc⟩ hcopies
      simp [hremoves, hnot]
    · simp [hremoves, hstays]

/-- The file at a path, which is recorded as a URL, holds the body of a successful response. -/
def FileManager.HoldsPhoto (files : FileManager) (path : String) : Prop :=
  ∃ body, files.contents ⟨path⟩ = some body ∧ body.IsSuccess

namespace App
variable (app : App)

/-- Every downloaded record has its file. -/
def DownloadedHasFile : Prop :=
  ∀ item ∈ app.realm.objects, item.isDownloaded = true →
    ∃ path, item.localImagePath = some path ∧ app.files.HoldsPhoto path

/-- The records have their files, and so has every path about to be recorded. -/
structure Saved : Prop where
  records : app.DownloadedHasFile
  queued : ∀ path id width height,
    .saveDownloadedFilePath path id width height ∈ app.mainQueue → app.files.HoldsPhoto path

/-- The photo of a finished task was obtained: a success, and copied to its place. -/
def Obtained (sourceURL : URL) (location : ResponseBody) (disk : FileSystem) : Prop :=
  location.IsSuccess ∧ app.files.Copies (app.downloadManager.localFilePath sourceURL) disk

instance (sourceURL : URL) (location : ResponseBody) (disk : FileSystem) :
    Decidable (app.Obtained sourceURL location disk) :=
  inferInstanceAs (Decidable (_ ∧ _))

/-- An unsuccessful finish leaves the saved state as it was: the store is the same
and so is the main queue, where a change of it would be waiting, and a file at the
destination is still there. -/
def FinishLeavesSaved (t : App) : AppEvent → Prop
  | .session (.didFinishDownloadingTo task location disk) => ∀ request,
    app.outstanding? task = some request → ¬ app.Obtained request.originalURL location disk →
      t.realm = app.realm ∧ t.mainQueue = app.mainQueue ∧
        ∀ body, app.files.contents (app.downloadManager.localFilePath request.originalURL) =
          some body →
            t.files.contents (app.downloadManager.localFilePath request.originalURL) = some body
  | _ => True

/-- What a finish needs for that: the photo was obtained, or the URL has no entry
any more and what is at the destination survives the remove and the copy. -/
def KeepsSaved : AppEvent → Prop
  | .session (.didFinishDownloadingTo task location disk) => ∀ request,
    app.outstanding? task = some request → app.Obtained request.originalURL location disk ∨
      app.downloadManager.activeDownloads.lookup request.originalURL = none ∧
        ∀ body, app.files.contents (app.downloadManager.localFilePath request.originalURL) =
          some body → disk.removes = false ∨ disk.copies = true ∧ location = body
  | _ => True

variable {app}

/-! ### What a step does to the saved state -/

/-- A finish queues a block exactly when its URL has an entry. -/
theorem finish_mainQueue_eq_iff (sourceURL : URL) (location : ResponseBody) (disk : FileSystem) :
    (app.didFinishDownloadingTo sourceURL location disk).mainQueue = app.mainQueue ↔
      app.downloadManager.activeDownloads.lookup sourceURL = none := by
  simp only [didFinishDownloadingTo, DownloadManager.didFinishDownloadingTo]
  cases app.downloadManager.activeDownloads.lookup sourceURL <;> simp

theorem finishLeavesSaved_iff {t : App} {e : AppEvent} (hstep : machine.step app e = some t) :
    app.FinishLeavesSaved t e ↔ app.KeepsSaved e := by
  cases e with
  | session event =>
    cases event with
    | didFinishDownloadingTo task location disk =>
      obtain ⟨request, hrequest, rfl⟩ := Option.map_eq_some_iff.mp hstep
      have hqueue := (app.settle task .finished).finish_mainQueue_eq_iff request.originalURL
        location disk
      rw [FinishLeavesSaved, KeepsSaved, forall_outstanding?_iff hrequest,
        forall_outstanding?_iff hrequest]
      constructor
      · intro h
        by_cases hobtained : app.Obtained request.originalURL location disk
        · exact Or.inl hobtained
        · obtain ⟨-, hsame, hkept⟩ := h hobtained
          refine Or.inr ⟨hqueue.mp hsame, fun body hbody => ?_⟩
          exact (FileManager.replaceItem_keeps_iff hbody).mp (hkept body hbody)
      · intro h hobtained
        obtain ⟨hnone, hkept⟩ := h.resolve_left hobtained
        refine ⟨rfl, hqueue.mpr hnone, fun body hbody => ?_⟩
        exact (FileManager.replaceItem_keeps_iff hbody).mpr (hkept body hbody)
    | _ => exact Iff.rfl
  | _ => exact Iff.rfl

/-! ### The saved state along a run -/

theorem Saved.saves (h : app.Saved) :
    ∀ save ∈ app.saves, app.files.HoldsPhoto save.destinationURL :=
  fun save hsave => h.queued save.destinationURL save.id save.width save.height (mem_saves.mp hsave)

/-- What keeps the files, the records and the saves that wait keeps the saved state. -/
theorem Saved.of_le (h : app.Saved) {t : App}
    (hfiles : ∀ path, app.files.HoldsPhoto path → t.files.HoldsPhoto path)
    (hrecords : ∀ item ∈ t.realm.objects, item.isDownloaded = true →
      (∃ old ∈ app.realm.objects, old.isDownloaded = true ∧
        old.localImagePath = item.localImagePath) ∨
      ∃ path, item.localImagePath = some path ∧ t.files.HoldsPhoto path)
    (hqueue : ∀ save ∈ t.saves, save ∈ app.saves ∨ t.files.HoldsPhoto save.destinationURL) :
    t.Saved := by
  refine ⟨fun item hitem hdownloaded => ?_, fun path id width height hmem => ?_⟩
  · rcases hrecords item hitem hdownloaded with ⟨old, hold, hdownloaded', hpath⟩ | hnew
    · obtain ⟨path, hpath', hholds⟩ := h.records old hold hdownloaded'
      exact ⟨path, hpath.symm.trans hpath', hfiles path hholds⟩
    · exact hnew
  · rcases hqueue ⟨path, id, width, height⟩ (mem_saves.mpr hmem) with hsave | hholds
    · exact hfiles path (h.saves _ hsave)
    · exact hholds

/-- A write that leaves the path and the download flag of a record alone, and
creates no downloaded one. -/
theorem downloaded_of_writeObject {realm : Realm} {id : String}
    {change : LocalImage → LocalImage} {new : LocalImage}
    {hchange : ∀ item, (change item).id = item.id} (hnew : new.id = id)
    (hkeep : ∀ item, (change item).isDownloaded = item.isDownloaded ∧
      (change item).localImagePath = item.localImagePath) (hfresh : new.isDownloaded = false)
    {item : LocalImage} (hitem : item ∈ (realm.writeObject id change new hchange hnew).objects)
    (hdownloaded : item.isDownloaded = true) :
    ∃ old ∈ realm.objects, old.isDownloaded = true ∧ old.localImagePath = item.localImagePath := by
  rcases Realm.mem_writeObject hitem with rfl | hold
  · cases hobject : realm.object id with
    | none =>
      rw [hobject, Option.elim_none, hfresh] at hdownloaded
      cases hdownloaded
    | some old =>
      rw [hobject, Option.elim_some, (hkeep old).1] at hdownloaded
      exact ⟨old, Realm.mem_of_object hobject, hdownloaded, (hkeep old).2.symm⟩
  · exact ⟨item, hold, hdownloaded, rfl⟩

/-- The block of a finished download records the path it was given. -/
theorem downloaded_of_saveDownloadedFilePath {realm : Realm} {filePath id : String}
    {width height : Int} {item : LocalImage}
    (hitem : item ∈ (DataManager.saveDownloadedFilePath realm filePath id width height).objects)
    (hdownloaded : item.isDownloaded = true) :
    (∃ old ∈ realm.objects, old.isDownloaded = true ∧
      old.localImagePath = item.localImagePath) ∨ item.localImagePath = some filePath := by
  rcases Realm.mem_writeObject hitem with rfl | hold
  · right
    cases realm.object id <;> rfl
  · exact Or.inl ⟨item, hold, hdownloaded, rfl⟩

/-- A finish that needs nothing undone takes no photo from any path. -/
theorem holdsPhoto_replaceItem {files : FileManager} {location : ResponseBody}
    {destination : URL} {disk : FileSystem}
    (h : (location.IsSuccess ∧ files.Copies destination disk) ∨
      ∀ body, files.contents destination = some body →
        disk.removes = false ∨ disk.copies = true ∧ location = body)
    {path : String} (hholds : files.HoldsPhoto path) :
    (files.replaceItem location destination disk).HoldsPhoto path := by
  obtain ⟨body, hbody, hsuccess⟩ := hholds
  by_cases hfile : (⟨path⟩ : URL).filePath = destination.filePath
  · rcases h with ⟨hlocation, hcopies⟩ | hkept
    · refine ⟨location, ?_, hlocation⟩
      rw [FileManager.contents_replaceItem_of_copies hcopies, if_pos hfile]
    · -- The path and the destination are the same file.
      have hsame : ∀ files : FileManager, files.contents ⟨path⟩ = files.contents destination :=
        fun files => congrArg files.file hfile
      rw [hsame] at hbody
      refine ⟨body, ?_, hsuccess⟩
      rw [hsame]
      exact (FileManager.replaceItem_keeps_iff hbody).mpr (hkept body hbody)
  · exact ⟨body, (FileManager.replaceItem_of_ne hfile).trans hbody, hsuccess⟩

/-- After the finish of a photo that was obtained, its destination holds what was served
and every other file what it held. -/
theorem contents_didFinishDownloadingTo {sourceURL : URL} {location : ResponseBody}
    {disk : FileSystem} (hobtained : app.Obtained sourceURL location disk) (task : TaskId)
    (url : URL) :
    ((app.settle task .finished).didFinishDownloadingTo sourceURL location
        disk).files.contents url =
      if url.filePath = (app.downloadManager.localFilePath sourceURL).filePath then some location
      else app.files.contents url :=
  FileManager.contents_replaceItem_of_copies hobtained.2 url

theorem Saved.finish (h : app.Saved) {sourceURL : URL} {location : ResponseBody}
    {disk : FileSystem}
    (hkeeps : app.Obtained sourceURL location disk ∨
      app.downloadManager.activeDownloads.lookup sourceURL = none ∧
        ∀ body, app.files.contents (app.downloadManager.localFilePath sourceURL) = some body →
          disk.removes = false ∨ disk.copies = true ∧ location = body) (task : TaskId) :
    ((app.settle task .finished).didFinishDownloadingTo sourceURL location disk).Saved := by
  refine h.of_le (fun path => holdsPhoto_replaceItem (hkeeps.imp id And.right)) ?_ ?_
  · exact fun item hitem hdownloaded => Or.inl ⟨item, hitem, hdownloaded, rfl⟩
  · intro save hsave
    rw [didFinishDownloadingTo_saves] at hsave
    rcases List.mem_append.mp hsave with hsave | hnew
    · exact Or.inl hsave
    · -- The only new save names the destination, where the photo of a finish with an entry is.
      right
      obtain ⟨download, hlookup, rfl⟩ := Option.map_eq_some_iff.mp (Option.mem_toList.mp hnew)
      rcases hkeeps with hobtained | ⟨hnone, -⟩
      · have hcopied := contents_didFinishDownloadingTo hobtained task
          (app.downloadManager.localFilePath sourceURL)
        rw [if_pos rfl] at hcopied
        exact ⟨location, hcopied, hobtained.1⟩
      · cases hnone.symm.trans hlookup

/-- The other operations of the download manager and the callbacks of the session
touch neither the store nor the files, and queue nothing to record. -/
theorem Saved.of_same (h : app.Saved) {t : App} (hrealm : t.realm = app.realm)
    (hfiles : t.files = app.files) (hqueue : t.saves ⊆ app.saves) : t.Saved := by
  refine h.of_le ?_ ?_ fun save hsave => Or.inl (hqueue hsave)
  · rw [hfiles]
    exact fun _ hholds => hholds
  · rw [hrealm]
    exact fun item hitem hdownloaded => Or.inl ⟨item, hitem, hdownloaded, rfl⟩

theorem Saved.runBlock {block : MainBlock} {rest : List MainBlock} (h : app.Saved)
    (hqueue : app.mainQueue = block :: rest) :
    (({ app with mainQueue := rest } : App).runBlock block).Saved := by
  have hrest : (({ app with mainQueue := rest } : App).runBlock block).saves ⊆ app.saves := by
    rw [runBlock_saves, saves_cons hqueue]
    exact List.subset_append_right _ _
  cases hblock : block with
  | loadData | updateItemWithId =>
    rw [hblock] at hrest
    exact h.of_same (runBlock_realm _) (runBlock_files _) hrest
  | saveDownloadedFilePath filePath id width height =>
    rw [hblock] at hrest
    refine h.of_le ?_ ?_ fun save hsave => Or.inl (hrest hsave)
    · rw [runBlock_files]
      exact fun _ hholds => hholds
    · rw [runBlock_realm, runBlock_files]
      intro item hitem hdownloaded
      rcases downloaded_of_saveDownloadedFilePath hitem hdownloaded with hold | hpath
      · exact Or.inl hold
      · -- The path that is recorded was queued with its file in place.
        refine Or.inr ⟨filePath, hpath, h.queued filePath id width height ?_⟩
        rw [hqueue, hblock]
        exact List.mem_cons_self

/-- **One step**: from a saved state, an event that meets its condition leads to one. -/
theorem saved_step {t : App} {e : AppEvent} (h : app.Saved)
    (hstep : machine.step app e = some t) (hkeeps : app.KeepsSaved e) : t.Saved := by
  cases e with
  | presentListInterface =>
    obtain rfl := Option.some.inj hstep
    refine h.of_same rfl rfl ?_
    rw [presentListInterface_saves]
    exact List.Subset.refl _
  | dismissListInterface | didProduceResumeData =>
    obtain rfl := Option.some.inj hstep
    exact h.of_same rfl rfl fun _ hsave => hsave
  | control event =>
    obtain rfl := Option.some.inj hstep
    cases event <;> exact h.of_same rfl rfl fun _ hsave => hsave
  | list event =>
    cases event with
    | loadData =>
      obtain rfl := Option.some.inj hstep
      exact h.of_same rfl rfl fun _ hsave => hsave
    | touchHeart tab row =>
      obtain ⟨screen, row, -, rfl⟩ := touchHeart_cases hstep
      refine h.of_le (fun _ hholds => hholds) ?_ fun _ hsave => Or.inl hsave
      intro item hitem hdownloaded
      exact Or.inl (downloaded_of_writeObject (by rfl) (by intro _; exact ⟨rfl, rfl⟩) (by rfl)
        hitem hdownloaded)
  | changeFavorite photo =>
    obtain rfl := Option.some.inj hstep
    refine h.of_le (fun _ hholds => hholds) ?_ fun _ hsave => Or.inl hsave
    intro item hitem hdownloaded
    exact Or.inl (downloaded_of_writeObject (by rfl) (by intro _; exact ⟨rfl, rfl⟩) (by rfl)
      hitem hdownloaded)
  | downloadPhoto photo =>
    obtain rfl := Option.some.inj hstep
    simp only [downloadPhoto]
    split <;> exact h.of_same rfl rfl fun _ hsave => hsave
  | session event =>
    cases event with
    | didFinishDownloadingTo task location disk =>
      obtain ⟨request, hrequest, rfl⟩ := Option.map_eq_some_iff.mp hstep
      exact h.finish (hkeeps request hrequest) task
    | didWriteData task totalBytesWritten totalBytesExpectedToWrite =>
      obtain ⟨request, -, rfl⟩ := Option.map_eq_some_iff.mp hstep
      refine h.of_same rfl rfl ?_
      rw [didWriteData_saves]
      exact List.Subset.refl _
    | didCompleteWithError task =>
      obtain ⟨request, -, rfl⟩ := Option.map_eq_some_iff.mp hstep
      exact h.of_same rfl rfl fun _ hsave => hsave
  | mainQueue =>
    obtain ⟨block, rest, hqueue, rfl⟩ := mainQueue_eq_some.mp hstep
    exact h.runBlock hqueue

/-- **An unsuccessful finish leaves the saved state as it was**, and every
downloaded record has its file, along a run from a start where the records have
their files exactly when every finish of the run meets its condition. -/
theorem finishLeavesSaved_along_iff (realm : Realm) (files : FileManager) (documentsPath : URL)
    (hstart : (launch realm files documentsPath).DownloadedHasFile) (es : List AppEvent) :
    machine.Along (fun s e t => s.FinishLeavesSaved t e ∧ t.DownloadedHasFile)
        (launch realm files documentsPath) es ↔
      machine.Along (fun s e _ => s.KeepsSaved e) (launch realm files documentsPath) es := by
  have hexact : ∀ s e t, s.Saved → machine.step s e = some t →
      (s.FinishLeavesSaved t e ∧ t.DownloadedHasFile ↔ s.KeepsSaved e) := by
    intro s e t h hstep
    constructor
    · exact fun hR => (finishLeavesSaved_iff hstep).mp hR.1
    · intro hkeeps
      exact ⟨(finishLeavesSaved_iff hstep).mpr hkeeps, (saved_step h hstep hkeeps).records⟩
  have hgood : ∀ s e t, s.Saved → machine.step s e = some t →
      (s.FinishLeavesSaved t e ∧ t.DownloadedHasFile) → t.Saved :=
    fun _ _ _ h hstep hR => saved_step h hstep ((finishLeavesSaved_iff hstep).mp hR.1)
  refine Machine.along_iff_of_exact hexact hgood ⟨hstart, ?_⟩ es
  intro _ _ _ _ hmem
  cases hmem

/-- A start with one downloaded record, whose file is there. -/
def savedPhoto : App :=
  launch { objects := [⟨"a", 1, 1, none, some "file:///Documents/a.PNG", false, true⟩] }
    ⟨fun path =>
      if path = (⟨"file:///Documents/a.PNG"⟩ : URL).filePath then some ⟨200, [1]⟩ else none⟩
    ⟨"file:///Documents"⟩

theorem finishLeavesSaved_savedPhoto :
    machine.Along (fun s e t => s.FinishLeavesSaved t e ∧ t.DownloadedHasFile) savedPhoto
        [.downloadPhoto (photoAt "p"), .session (.didFinishDownloadingTo 0 ⟨200, [2]⟩ {})] ↔
      machine.Along (fun s e _ => s.KeepsSaved e) savedPhoto
        [.downloadPhoto (photoAt "p"), .session (.didFinishDownloadingTo 0 ⟨200, [2]⟩ {})] := by
  refine finishLeavesSaved_along_iff _ _ _ ?_ _
  intro item hitem _
  obtain rfl := List.mem_singleton.mp hitem
  exact ⟨_, rfl, ⟨200, [1]⟩, if_pos rfl, by decide⟩

/-- A 404 is reported to the List screen as a download. -/
theorem finish_not_found_reported :
    ¬ machine.Along (fun s e t => s.FinishLeavesSaved t e ∧ t.DownloadedHasFile)
      (launch {} ⟨fun _ => none⟩ ⟨"file:///Documents"⟩)
      [.downloadPhoto (photoAt "p"), .session (.didFinishDownloadingTo 0 ⟨404, []⟩ {})] := by
  intro h
  have hleaves := ((h _ rfl).2 _ rfl).1.1
  have hunsuccessful : ¬ (ResponseBody.IsSuccess ⟨404, []⟩) := by decide
  obtain ⟨-, hqueue, -⟩ := hleaves _ rfl fun hobtained => hunsuccessful hobtained.1
  exact absurd (congrArg List.length hqueue) (by decide)

end App

end ImSplash
