import ImSplash.AppDependencies

/-!
# Does the heart of the Detail screen show what is stored?

The Detail screen reads the flag of its photo once, when it is loaded, and flips its own copy
with every tap; the store flips the flag of the record, or makes a record of it.  The two stay
equal: while a Detail screen is presented no other heart can be touched, and the blocks of
finished downloads leave the flags alone.
-/

namespace ImSplash
open Runs

namespace DataManager

/-- The heart of the Detail screen negates the flag of its own id and of no other. -/
theorem isFavorite_changeLocalImageFavoriteOfPhoto (realm : Realm) (id urlRegular : String)
    (width height : Int) (k : String) :
    (changeLocalImageFavoriteOfPhoto realm id urlRegular width height).isFavorite k =
      if k = id then !realm.isFavorite id else realm.isFavorite k := by
  refine (Realm.any_object_writeObject LocalImage.favorite k).trans ?_
  unfold Realm.isFavorite
  cases realm.object id <;> rfl

/-- A save keeps every flag. -/
theorem isFavorite_saveDownloadedFilePath (realm : Realm) (filePath id : String)
    (width height : Int) (k : String) :
    (saveDownloadedFilePath realm filePath id width height).isFavorite k =
      realm.isFavorite k := by
  refine (Realm.any_object_writeObject LocalImage.favorite k).trans ?_
  by_cases hk : k = id
  · subst hk
    rw [if_pos rfl]
    unfold Realm.isFavorite
    cases realm.object k <;> rfl
  · rw [if_neg hk]
    rfl

end DataManager

namespace App
variable {app after : App}

/-- No block of the main queue changes a flag. -/
theorem isFavorite_runBlock (block : MainBlock) (id : String) :
    (app.runBlock block).realm.isFavorite id = app.realm.isFavorite id := by
  rw [runBlock_realm]
  cases block with
  | loadData | updateItemWithId => rfl
  | saveDownloadedFilePath destinationURL k width height =>
    exact DataManager.isFavorite_saveDownloadedFilePath ..

theorem isFavorite_mainQueue (hstep : machine.step app .mainQueue = some after) (id : String) :
    after.realm.isFavorite id = app.realm.isFavorite id := by
  obtain ⟨block, rest, -, rfl⟩ := mainQueue_eq_some.mp hstep
  exact isFavorite_runBlock block id

theorem stepSession_realm {event : SessionEvent} (hstep : app.stepSession event = some after) :
    after.realm = app.realm := by
  cases event with
  | didFinishDownloadingTo | didWriteData | didCompleteWithError =>
    obtain ⟨request, -, rfl⟩ := Option.map_eq_some_iff.mp hstep
    rfl

theorem downloadPhoto_realm (photo : UnsplashPhoto) :
    (app.downloadPhoto photo).realm = app.realm := by
  unfold downloadPhoto
  split <;> rfl

end App

/-- A Detail screen starts with the flag that is stored. -/
theorem DetailViewController.viewDidLoad_isFavorite (realm : Realm) (photo : UnsplashPhoto) :
    (viewDidLoad realm photo).isFavorite = realm.isFavorite photo.identifier := by
  unfold viewDidLoad DataManager.getLocalImageById Realm.isFavorite
  cases realm.object photo.identifier <;> rfl

@[simp] theorem DetailViewController.viewDidLoad_photo (realm : Realm) (photo : UnsplashPhoto) :
    (viewDidLoad realm photo).photo = photo := by
  unfold viewDidLoad
  split <;> rfl

@[simp] theorem DetailViewController.viewDidLoad_downloadedAlert (realm : Realm)
    (photo : UnsplashPhoto) : (viewDidLoad realm photo).downloadedAlert = false := by
  unfold viewDidLoad
  split <;> rfl

namespace AppDependencies
variable {whole after : AppDependencies}

/-- The heart of the Detail screen is the stored flag of its photo. -/
def HeartIsStored (whole : AppDependencies) : Prop :=
  ∀ detail, whole.detail = some detail →
    detail.isFavorite = whole.app.realm.isFavorite detail.photo.identifier

theorem HeartIsStored.of_eq (h : whole.HeartIsStored) (hdetail : after.detail = whole.detail)
    (hrealm : ∀ id, after.app.realm.isFavorite id = whole.app.realm.isFavorite id) :
    after.HeartIsStored := by
  intro detail hpresented
  rw [hrealm]
  exact h detail (hdetail ▸ hpresented)

theorem HeartIsStored.step (h : whole.HeartIsStored) (hwired : whole.Wired)
    {event : AppDependenciesEvent} (hstep : machine.step whole event = some after) :
    after.HeartIsStored := by
  cases step_of_step hstep with
  | home | selectNothing | push | pop => exact h.of_eq rfl fun _ => rfl
  | @select item photo htop hphoto =>
    rintro detail ⟨⟩
    rw [DetailViewController.viewDidLoad_isFavorite, DetailViewController.viewDidLoad_photo]
  | touchHeart htop htouch =>
    -- The List screen is on top, so no Detail screen is presented.
    intro detail hdetail
    cases (hwired.detail (hwired.onTop_list_iff.mp htop)).symm.trans hdetail
  | @heart detail hdetail =>
    rintro _ ⟨⟩
    show (!detail.isFavorite) =
      (whole.app.changeFavorite detail.photo).realm.isFavorite detail.photo.identifier
    rw [App.changeFavorite, DataManager.isFavorite_changeLocalImageFavoriteOfPhoto, if_pos rfl,
      h detail hdetail]
  | @download detail hdetail =>
    rintro _ ⟨⟩
    show _ = (whole.app.downloadPhoto detail.photo).realm.isFavorite _
    rw [App.downloadPhoto_realm]
    split
    · exact h detail hdetail
    · exact h detail hdetail
  | close =>
    rintro _ ⟨⟩
  | @dismissAlert detail hdetail =>
    rintro _ ⟨⟩
    exact h detail hdetail
  | session happ =>
    refine h.of_eq rfl fun id => ?_
    rw [App.stepSession_realm happ]
  | mainQueue happ => exact h.of_eq rfl fun id => App.isFavorite_mainQueue happ id

/-- **The heart of the Detail screen is what is stored**, in every state of every run of the
app. -/
theorem heartIsStored_along (realm : Realm) (files : FileManager) (documentsPath : URL)
    (events : List AppDependenciesEvent) :
    machine.Along (fun _ _ after => after.HeartIsStored) (launch realm files documentsPath)
      events := by
  have hlaunch : (launch realm files documentsPath).HeartIsStored := fun _ h => by cases h
  have hkept : ∀ whole event after, whole.Wired ∧ whole.HeartIsStored →
      machine.step whole event = some after →
        (after.Wired ∧ after.HeartIsStored) ∧ after.HeartIsStored := by
    rintro whole event after ⟨hwired, hheart⟩ hstep
    have hafter := hheart.step hwired hstep
    exact ⟨⟨hwired.step hstep, hafter⟩, hafter⟩
  exact Machine.along_of_step_invariant hkept
    ⟨wired_launch realm files documentsPath, hlaunch⟩ events

end AppDependencies

end ImSplash
