import ImSplash.Saves

/-!
# Can every favourite be displayed?

A record is written by the heart of the Detail screen, by the block of a finished download
and by the heart of the List screen.  The first two bring a picture and the sizes of the
photo; the third brings the id only.  So a favourite has nothing to display when the List
screen was the first to write it, which it can be for a photo in progress, and no save has
come to fill the record in.
-/

namespace ImSplash
open Runs

/-- The photos of the server: each has a regular URL and positive sizes. -/
structure Catalogue where
  contains : UnsplashPhoto → Bool
  regular : ∀ photo, contains photo = true → ∃ url, photo.urls .regular = some url
  width_pos : ∀ photo, contains photo = true → 0 < photo.width
  height_pos : ∀ photo, contains photo = true → 0 < photo.height

namespace Catalogue
variable (catalogue : Catalogue)

/-- The id and the sizes are those of a photo. -/
def HasSize (id : String) (width height : Int) : Prop :=
  ∃ photo, catalogue.contains photo = true ∧ photo.identifier = id ∧
    width = photo.width ∧ height = photo.height

/-- The id and the regular URL are those of a photo. -/
def HasURL (id urlRegular : String) : Prop :=
  ∃ photo url, catalogue.contains photo = true ∧ photo.identifier = id ∧
    photo.urls .regular = some url ∧ urlRegular = url.absoluteString

/-- The screens show the photos of the catalogue and no others. -/
def offers : AppEvent → Bool
  | .changeFavorite photo | .downloadPhoto photo => catalogue.contains photo
  | _ => true

/-- The app as its screens drive it, over the photos of the catalogue. -/
def screens : Machine App AppEvent := App.screens.restrict catalogue.offers

end Catalogue

/-- A record has a picture to load and the sizes of its photo. -/
structure LocalImage.Displayable (item : LocalImage) (catalogue : Catalogue) : Prop where
  source : (∃ urlRegular, item.urlRegular = some urlRegular ∧
    catalogue.HasURL item.id urlRegular) ∨ item.localImagePath.isSome
  size : catalogue.HasSize item.id item.width item.height

namespace App
variable (app : App)

/-- A save of the id is pending. -/
def SavePendingFor (id : String) : Prop := ∃ save ∈ app.saves, save.id = id

/-- Every favourite can be displayed. -/
def FavoritesDisplayable (catalogue : Catalogue) : Prop :=
  ∀ item ∈ app.realm.objects, item.favorite = true → item.Displayable catalogue

/-- Every favourite can be displayed unless a save of it is pending. -/
def SavedFavoritesDisplayable (catalogue : Catalogue) : Prop :=
  ∀ item ∈ app.realm.objects, item.favorite = true → ¬ app.SavePendingFor item.id →
    item.Displayable catalogue

/-- What an event needs for that: a heart of the List screen is for a photo that has a
record, or a save pending. -/
def KeepsDisplayable : AppEvent → Prop
  | .list (.touchHeart tab row) => ∀ item, (app.listViewController.rows tab)[row]? = some item →
    (app.realm.object item.id).isSome ∨ app.SavePendingFor item.id
  | _ => True

/-- Every record can be displayed or has a save pending, and what is saved comes from the
catalogue. -/
structure Pictured (catalogue : Catalogue) : Prop where
  records : ∀ item ∈ app.realm.objects, item.Displayable catalogue ∨ app.SavePendingFor item.id
  entries : ∀ url download, app.downloadManager.activeDownloads.lookup url = some download →
    catalogue.contains download.photo = true
  saves : ∀ save ∈ app.saves, catalogue.HasSize save.id save.width save.height

variable {app} {catalogue : Catalogue}

theorem Pictured.savedFavorites (h : app.Pictured catalogue) :
    app.SavedFavoritesDisplayable catalogue :=
  fun item hitem _ hqueued => (h.records item hitem).resolve_right hqueued

/-- With no save pending that is every favourite. -/
theorem SavedFavoritesDisplayable.favorites (h : app.SavedFavoritesDisplayable catalogue)
    (hnone : app.saves = []) : app.FavoritesDisplayable catalogue := by
  intro item hitem hfavorite
  apply h item hitem hfavorite
  rintro ⟨save, hsave, -⟩
  rw [hnone] at hsave
  cases hsave

/-! ### The three writers -/

/-- The heart of the Detail screen brings all that is needed. -/
theorem displayable_changeLocalImageFavoriteOfPhoto {realm : Realm} {photo : UnsplashPhoto}
    (hphoto : catalogue.contains photo = true) {item : LocalImage}
    (hitem : item ∈ (DataManager.changeLocalImageFavoriteOfPhoto realm photo.identifier
      (((photo.urls .regular).map URL.absoluteString).getD "") photo.width photo.height).objects) :
    item.Displayable catalogue ∨ item ∈ realm.objects := by
  obtain ⟨url, hurl⟩ := catalogue.regular photo hphoto
  refine (Realm.mem_writeObject hitem).imp_left ?_
  rintro rfl
  have hsource : ((photo.urls .regular).map URL.absoluteString).getD "" = url.absoluteString := by
    rw [hurl]
    rfl
  have hhas : catalogue.HasURL photo.identifier
      (((photo.urls .regular).map URL.absoluteString).getD "") :=
    ⟨photo, url, hphoto, rfl, hurl, hsource⟩
  cases hobject : realm.object photo.identifier with
  | none => exact ⟨Or.inl ⟨_, rfl, hhas⟩, photo, hphoto, rfl, rfl, rfl⟩
  | some old =>
    have hid : photo.identifier = old.id := (Realm.object_id hobject).symm
    rw [hid] at hhas
    exact ⟨Or.inl ⟨_, rfl, hhas⟩, photo, hphoto, hid, rfl, rfl⟩

/-- So does the block of a finished download. -/
theorem displayable_save {realm : Realm} {save : PendingSave}
    (hsize : catalogue.HasSize save.id save.width save.height) {item : LocalImage}
    (hitem : item ∈ (realm.save save).objects) :
    item.Displayable catalogue ∨ item ∈ realm.objects ∧ item.id ≠ save.id := by
  have hobject := Realm.object_of_mem hitem
  rw [Realm.save, DataManager.saveDownloadedFilePath, Realm.object_writeObject] at hobject
  by_cases hid : item.id = save.id
  · rw [if_pos hid] at hobject
    obtain rfl := Option.some.inj hobject
    left
    cases hold : realm.object save.id with
    | none => exact ⟨Or.inr rfl, hsize⟩
    | some old =>
      rw [← Realm.object_id hold] at hsize
      exact ⟨Or.inr rfl, hsize⟩
  · rw [if_neg hid] at hobject
    exact Or.inr ⟨Realm.mem_of_object hobject, hid⟩

/-- The heart of the List screen changes the flag of a record, and makes a bare one for an
id that has none. -/
theorem mem_changeLocalImageFavorite {realm : Realm} {id : String} {item : LocalImage}
    (hitem : item ∈ (DataManager.changeLocalImageFavorite realm id).objects) :
    (∃ old ∈ realm.objects, item = { old with favorite := item.favorite }) ∨
      realm.object id = none ∧ item.id = id := by
  rcases Realm.mem_writeObject hitem with rfl | hold
  · cases hobject : realm.object id with
    | none => exact Or.inr ⟨rfl, rfl⟩
    | some old => exact Or.inl ⟨old, Realm.mem_of_object hobject, rfl⟩
  · exact Or.inl ⟨item, hold, rfl⟩

/-- The flag is no part of what is displayed. -/
theorem displayable_favorite_iff {item : LocalImage} {favorite : Bool} :
    ({ item with favorite := favorite } : LocalImage).Displayable catalogue ↔
      item.Displayable catalogue :=
  ⟨fun h => ⟨h.source, h.size⟩, fun h => ⟨h.source, h.size⟩⟩

/-! ### One step -/

/-- An event that leaves the store alone and drops no save. -/
theorem Pictured.of_realm_eq (h : app.Pictured catalogue) {t : App} (hrealm : t.realm = app.realm)
    (hentries : ∀ url download, t.downloadManager.activeDownloads.lookup url = some download →
      catalogue.contains download.photo = true)
    (hkept : ∀ save ∈ app.saves, save ∈ t.saves)
    (hsaves : ∀ save ∈ t.saves, catalogue.HasSize save.id save.width save.height) :
    t.Pictured catalogue := by
  refine ⟨?_, hentries, hsaves⟩
  rw [hrealm]
  intro item hitem
  refine (h.records item hitem).imp_right ?_
  rintro ⟨save, hsave, hid⟩
  exact ⟨save, hkept save hsave, hid⟩

/-- A change of the store alone. -/
theorem Pictured.of_realm (h : app.Pictured catalogue) {screen : ListViewController}
    {realm : Realm}
    (hrecords : ∀ item ∈ realm.objects, item.Displayable catalogue ∨ item ∈ app.realm.objects) :
    ({ app with listViewController := screen, realm := realm } : App).Pictured catalogue := by
  refine ⟨?_, h.entries, h.saves⟩
  intro item hitem
  rcases hrecords item hitem with hnew | hold
  · exact Or.inl hnew
  · exact h.records item hold

/-- **A heart of the List screen** that meets its condition leaves every record with a
picture, or with a save to come. -/
theorem pictured_touchHeart (h : app.Pictured catalogue) {tab : Tab} {row : Nat} {t : App}
    (hstep : app.touchHeart tab row = some t)
    (hkeeps : app.KeepsDisplayable (.list (.touchHeart tab row))) : t.Pictured catalogue := by
  obtain ⟨screen, touched, hrow, rfl⟩ := touchHeart_cases hstep
  refine ⟨?_, h.entries, h.saves⟩
  intro item hitem
  rcases mem_changeLocalImageFavorite hitem with ⟨old, hold, heq⟩ | ⟨hnone, hid⟩
  · rw [heq, displayable_favorite_iff]
    exact h.records old hold
  · -- The record is bare, so a save must be pending.
    refine Or.inr ?_
    rw [hid]
    refine (hkeeps touched hrow).resolve_left ?_
    rw [hnone]
    exact Bool.false_ne_true

/-- The record such a tap makes has nothing to display. -/
theorem keepsDisplayable_of_touchHeart {tab : Tab} {row : Nat} {t : App}
    (hstep : app.touchHeart tab row = some t) (h : t.SavedFavoritesDisplayable catalogue) :
    app.KeepsDisplayable (.list (.touchHeart tab row)) := by
  obtain ⟨screen, touched, hrow, rfl⟩ := touchHeart_cases hstep
  intro touched' hrow'
  obtain rfl : touched = touched' := Option.some.inj (hrow.symm.trans hrow')
  by_cases hqueued : app.SavePendingFor touched.id
  · exact Or.inr hqueued
  · cases hobject : app.realm.object touched.id with
    | some old => exact Or.inl rfl
    | none =>
      have hnew : (DataManager.changeLocalImageFavorite app.realm touched.id).object touched.id =
          some { id := touched.id, favorite := true } := by
        rw [DataManager.changeLocalImageFavorite, Realm.object_writeObject, if_pos rfl, hobject]
        rfl
      have hbare := h _ (Realm.mem_of_object hnew) rfl hqueued
      rcases hbare.source with ⟨_, hurl, -⟩ | hpath
      · cases hurl
      · cases hpath

theorem Pictured.finish (h : app.Pictured catalogue) (task : TaskId) (sourceURL : URL)
    (location : ResponseBody) (disk : FileSystem) :
    ((app.settle task .finished).didFinishDownloadingTo sourceURL location disk).Pictured
      catalogue := by
  have hqueue := (app.settle task .finished).didFinishDownloadingTo_saves sourceURL location disk
  refine h.of_realm_eq rfl ?_ ?_ ?_
  · intro url download hlookup
    exact h.entries url download (lookup_erase_eq_some.mp hlookup).2
  · intro save hsave
    rw [hqueue]
    exact List.mem_append_left _ hsave
  · rw [hqueue]
    intro save hsave
    rcases List.mem_append.mp hsave with hold | hnew
    · exact h.saves save hold
    · obtain ⟨download, hlookup, rfl⟩ := Option.map_eq_some_iff.mp (Option.mem_toList.mp hnew)
      exact ⟨download.photo, h.entries sourceURL download hlookup, rfl, rfl, rfl⟩

theorem Pictured.downloadPhoto (h : app.Pictured catalogue) {photo : UnsplashPhoto}
    (hphoto : catalogue.contains photo = true) : (app.downloadPhoto photo).Pictured catalogue := by
  unfold App.downloadPhoto
  split
  · exact ⟨h.records, h.entries, h.saves⟩
  · refine ⟨h.records, ?_, h.saves⟩
    rcases DownloadManager.startDownload_cases photo with ⟨heq, -⟩ | ⟨url, -, -, heq⟩
    · rw [heq]
      exact h.entries
    · rw [heq]
      intro u download hlookup
      rcases lookup_insert_eq_some.mp hlookup with ⟨-, rfl⟩ | ⟨-, hold⟩
      · exact hphoto
      · exact h.entries u download hold

theorem Pictured.didWriteData (h : app.Pictured catalogue) (url : URL)
    (totalBytesWritten totalBytesExpectedToWrite : Int) :
    (app.didWriteData url totalBytesWritten totalBytesExpectedToWrite).Pictured catalogue := by
  have hqueue := app.didWriteData_saves url totalBytesWritten totalBytesExpectedToWrite
  refine h.of_realm_eq rfl ?_ ?_ ?_
  · intro u download hlookup
    obtain ⟨old, hold, heq⟩ := DownloadManager.lookup_didWriteData hlookup
    rw [heq]
    exact h.entries u old hold
  · rw [hqueue]
    exact fun _ hsave => hsave
  · rw [hqueue]
    exact h.saves

theorem Pictured.runBlock (h : app.Pictured catalogue) {block : MainBlock} {rest : List MainBlock}
    (hqueue : app.mainQueue = block :: rest) :
    (({ app with mainQueue := rest } : App).runBlock block).Pictured catalogue := by
  have hsaves := saves_cons hqueue
  have hrest : (({ app with mainQueue := rest } : App).runBlock block).saves =
      rest.filterMap MainBlock.save? := runBlock_saves block
  refine ⟨?_, ?_, ?_⟩
  · rw [runBlock_realm_eq]
    intro item hitem
    -- A record that waits for a save still waits, unless this is the save.
    have hwaits : item ∈ app.realm.objects → (∀ save ∈ block.save?, save.id ≠ item.id) →
        item.Displayable catalogue ∨
          (({ app with mainQueue := rest } : App).runBlock block).SavePendingFor item.id := by
      intro hold hother
      refine (h.records item hold).imp_right ?_
      rintro ⟨save, hsave, hid⟩
      rw [hsaves] at hsave
      rcases List.mem_append.mp hsave with hnow | hlater
      · exact absurd hid (hother save (Option.mem_toList.mp hnow))
      · exact ⟨save, hrest ▸ hlater, hid⟩
    cases hsave : block.save? with
    | none =>
      rw [hsave] at hitem hwaits
      exact hwaits hitem (by simp)
    | some save =>
      rw [hsave] at hitem hwaits hsaves
      have hsize := h.saves save (by rw [hsaves]; exact List.mem_cons_self)
      rcases displayable_save hsize hitem with hnew | ⟨hold, hid⟩
      · exact Or.inl hnew
      · refine hwaits hold ?_
        rintro _ ⟨⟩
        exact hid.symm
  · rw [runBlock_downloadManager]
    exact h.entries
  · rw [hrest]
    intro save hsave
    apply h.saves
    rw [hsaves]
    exact List.mem_append_right _ hsave

/-- **One step**: an event that meets its condition leaves every record with a picture, or
with a save to come. -/
theorem pictured_step {t : App} {e : AppEvent} (h : app.Pictured catalogue)
    (hstep : catalogue.screens.step app e = some t) (hkeeps : app.KeepsDisplayable e) :
    t.Pictured catalogue := by
  obtain ⟨hoffered, hstep⟩ := Machine.restrict_step.mp hstep
  obtain ⟨hscreen, hstep⟩ := Machine.restrict_step.mp hstep
  cases e with
  | presentListInterface =>
    obtain rfl := Option.some.inj hstep
    refine h.of_realm_eq rfl h.entries ?_ ?_
    · rw [presentListInterface_saves]
      exact fun _ hsave => hsave
    · rw [presentListInterface_saves]
      exact h.saves
  | dismissListInterface =>
    obtain rfl := Option.some.inj hstep
    exact ⟨h.records, h.entries, h.saves⟩
  | list event =>
    cases event with
    | loadData =>
      obtain rfl := Option.some.inj hstep
      exact ⟨h.records, h.entries, h.saves⟩
    | touchHeart tab row => exact pictured_touchHeart h hstep hkeeps
  | changeFavorite photo =>
    obtain rfl := Option.some.inj hstep
    exact h.of_realm fun item hitem => displayable_changeLocalImageFavoriteOfPhoto hoffered hitem
  | downloadPhoto photo =>
    obtain rfl := Option.some.inj hstep
    exact h.downloadPhoto hoffered
  | control | didProduceResumeData => cases hscreen
  | session event =>
    cases event with
    | didFinishDownloadingTo task location disk =>
      obtain ⟨request, -, rfl⟩ := Option.map_eq_some_iff.mp hstep
      exact h.finish task request.originalURL location disk
    | didWriteData task totalBytesWritten totalBytesExpectedToWrite =>
      obtain ⟨request, -, rfl⟩ := Option.map_eq_some_iff.mp hstep
      exact h.didWriteData _ _ _
    | didCompleteWithError task =>
      obtain ⟨request, -, rfl⟩ := Option.map_eq_some_iff.mp hstep
      exact ⟨h.records, h.entries, h.saves⟩
  | mainQueue =>
    obtain ⟨block, rest, hqueue, rfl⟩ := mainQueue_eq_some.mp hstep
    exact h.runBlock hqueue

/-- **Every favourite can be displayed** once no save of it is pending, in all states of a
run of the screens from a start whose records can, exactly when every heart of the List
screen is for a photo that has a record or a save to come. -/
theorem favoritesDisplayable_along_iff (catalogue : Catalogue) (realm : Realm)
    (files : FileManager) (documentsPath : URL)
    (hstart : ∀ item ∈ realm.objects, item.Displayable catalogue) (es : List AppEvent) :
    catalogue.screens.Along (fun _ _ t => t.SavedFavoritesDisplayable catalogue ∧
          (t.saves = [] → t.FavoritesDisplayable catalogue))
        (launch realm files documentsPath) es ↔
      catalogue.screens.Along (fun s e _ => s.KeepsDisplayable e)
        (launch realm files documentsPath) es := by
  have hiff : ∀ s e t, s.Pictured catalogue → catalogue.screens.step s e = some t →
      (t.SavedFavoritesDisplayable catalogue ↔ s.KeepsDisplayable e) := by
    intro s e t h hstep
    refine ⟨fun hshown => ?_, fun hkeeps => (pictured_step h hstep hkeeps).savedFavorites⟩
    cases e with
    | list event =>
      cases event with
      | loadData => trivial
      | touchHeart tab row =>
        have hstep := (Machine.restrict_step.mp (Machine.restrict_step.mp hstep).2).2
        exact keepsDisplayable_of_touchHeart hstep hshown
    | _ => trivial
  have hexact : ∀ s e t, s.Pictured catalogue → catalogue.screens.step s e = some t →
      (t.SavedFavoritesDisplayable catalogue ∧
        (t.saves = [] → t.FavoritesDisplayable catalogue) ↔
          s.KeepsDisplayable e) := by
    intro s e t h hstep
    refine Iff.trans ⟨And.left, fun hshown => ⟨hshown, ?_⟩⟩ (hiff s e t h hstep)
    exact hshown.favorites
  have hgood : ∀ s e t, s.Pictured catalogue → catalogue.screens.step s e = some t →
      (t.SavedFavoritesDisplayable catalogue ∧
        (t.saves = [] → t.FavoritesDisplayable catalogue)) →
      t.Pictured catalogue :=
    fun s e t h hstep hR => pictured_step h hstep ((hiff s e t h hstep).mp hR.1)
  refine Machine.along_iff_of_exact hexact hgood ⟨?_, ?_, ?_⟩ es
  · exact fun item hitem => Or.inl (hstart item hitem)
  · intro _ _ hlookup
    cases hlookup
  · intro _ hsave
    cases hsave

/-- The photos of one id and size. -/
def landscape : Catalogue where
  contains photo := photo.identifier = "p" && photo.width = 30 && photo.height = 20 &&
    (photo.urls .regular).isSome
  regular photo hphoto := by
    simp only [Bool.and_eq_true] at hphoto
    exact Option.isSome_iff_exists.mp hphoto.2
  width_pos photo hphoto := by
    simp only [Bool.and_eq_true, decide_eq_true_eq] at hphoto
    omega
  height_pos photo hphoto := by
    simp only [Bool.and_eq_true, decide_eq_true_eq] at hphoto
    omega

def landscapePhoto : UnsplashPhoto := { photoAt "p" with width := 30, height := 20 }

/-- A photo in progress gets its heart on the List screen. -/
def heartWhileDownloading : List AppEvent :=
  [.downloadPhoto landscapePhoto, .presentListInterface, .mainQueue,
    .list (.touchHeart .downloads 0)]

theorem favoritesDisplayable_heartWhileDownloading :
    landscape.screens.Along (fun _ _ t => t.SavedFavoritesDisplayable landscape ∧
          (t.saves = [] → t.FavoritesDisplayable landscape))
        (launch {} ⟨fun _ => none⟩ ⟨"file:///Documents"⟩) heartWhileDownloading ↔
      landscape.screens.Along (fun s e _ => s.KeepsDisplayable e)
        (launch {} ⟨fun _ => none⟩ ⟨"file:///Documents"⟩) heartWhileDownloading :=
  favoritesDisplayable_along_iff landscape {} ⟨fun _ => none⟩ ⟨"file:///Documents"⟩
    (by simp) heartWhileDownloading

/-- The record it makes has no picture and no size. -/
theorem favorite_in_progress_not_displayable :
    ¬ landscape.screens.Along (fun _ _ t => t.saves = [] → t.FavoritesDisplayable landscape)
      (launch {} ⟨fun _ => none⟩ ⟨"file:///Documents"⟩) heartWhileDownloading := by
  intro h
  have hshown := ((((h _ rfl).2 _ rfl).2 _ rfl).2 _ rfl).1 rfl
  have hbare := hshown { id := "p", favorite := true } List.mem_cons_self rfl
  rcases hbare.source with ⟨_, hurl, -⟩ | hpath
  · cases hurl
  · cases hpath

end App

end ImSplash
