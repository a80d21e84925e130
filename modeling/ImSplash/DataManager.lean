import Mathlib.Data.List.Nodup
import ImSplash.Models

/-!
# The local store

`Realm` is a set of `LocalImage` records with `id` as primary key; the key is a
field of the structure, so a store that holds an id twice cannot be built.
`DataManager` writes to it in one of two ways: a record that exists is changed in
place, one that does not is created.  The three writers of the source are
`writeObject` with their own change and their own new record, and everything
known about them follows from `object_writeObject`.
-/

namespace ImSplash

/-- The `LocalImage` objects of a Realm, at most one for each primary key. -/
structure Realm where
  objects : List LocalImage := []
  primaryKey : (objects.map LocalImage.id).Nodup := by simp

namespace Realm
variable (realm : Realm)

/-- `object(ofType: LocalImage.self, forPrimaryKey: id)`. -/
def object (id : String) : Option LocalImage := realm.objects.find? (·.id = id)

/-- A `write` block that changes the fields of the object with a key, if there is one. -/
def update (id : String) (change : LocalImage → LocalImage)
    (hchange : ∀ item, (change item).id = item.id) : Realm where
  objects := realm.objects.map fun item => if item.id = id then change item else item
  primaryKey := by
    have hmap : (realm.objects.map fun item => if item.id = id then change item else item).map
        LocalImage.id = realm.objects.map LocalImage.id := by
      rw [List.map_map]
      refine List.map_congr_left fun item _ => ?_
      simp only [Function.comp_apply]
      split
      · exact hchange item
      · rfl
    rw [hmap]
    exact realm.primaryKey

/-- A `write` block that adds an object whose key is new. -/
def add (item : LocalImage) (hnew : realm.object item.id = none) : Realm where
  objects := realm.objects ++ [item]
  primaryKey := by
    rw [List.map_append, List.nodup_append]
    refine ⟨realm.primaryKey, by simp, ?_⟩
    intro a ha b hb hab
    -- An object with the key of the new one would have been found.
    obtain ⟨old, hold, rfl⟩ := List.mem_map.mp ha
    simp only [List.map_cons, List.map_nil, List.mem_singleton] at hb
    have hne := List.find?_eq_none.mp hnew old hold
    exact hne (decide_eq_true (hab.trans hb))

/-- Change the object with a key, or add one when there is none. -/
def writeObject (id : String) (change : LocalImage → LocalImage) (new : LocalImage)
    (hchange : ∀ item, (change item).id = item.id) (hnew : new.id = id) : Realm :=
  match h : realm.object id with
  | some _ => realm.update id change hchange
  | none => realm.add new (by rw [hnew]; exact h)

variable {realm}

theorem object_id {id : String} {item : LocalImage} (h : realm.object id = some item) :
    item.id = id := by
  unfold object at h
  simpa using List.find?_some h

theorem mem_of_object {id : String} {item : LocalImage} (h : realm.object id = some item) :
    item ∈ realm.objects :=
  List.mem_of_find?_eq_some h

/-- With unique keys, every stored object is the one its key finds. -/
theorem object_of_mem {item : LocalImage} (h : item ∈ realm.objects) :
    realm.object item.id = some item := by
  obtain ⟨found, hfound⟩ : ∃ found, realm.object item.id = some found :=
    Option.isSome_iff_exists.mp (List.find?_isSome.mpr ⟨item, h, decide_eq_true rfl⟩)
  have heq : found = item :=
    List.inj_on_of_nodup_map realm.primaryKey (mem_of_object hfound) h (object_id hfound)
  rw [hfound, heq]

theorem object_update (id : String) (change : LocalImage → LocalImage)
    (hchange : ∀ item, (change item).id = item.id) (k : String) :
    (realm.update id change hchange).object k =
      if k = id then (realm.object k).map change else realm.object k := by
  -- The change keeps every key, so the search stops at the same object.
  have hcomp : (fun item : LocalImage => decide (item.id = k)) ∘
      (fun item => if item.id = id then change item else item) =
      fun item => decide (item.id = k) := by
    funext item
    simp only [Function.comp_apply]
    split
    · rw [hchange]
    · rfl
  simp only [object, update, List.find?_map, hcomp]
  cases hf : realm.objects.find? (fun item => decide (item.id = k)) with
  | none => simp
  | some item =>
    have hid : item.id = k := by simpa using List.find?_some hf
    simp only [Option.map_some, hid]
    split <;> rfl

theorem object_add (item : LocalImage) (hnew : realm.object item.id = none) (k : String) :
    (realm.add item hnew).object k = if k = item.id then some item else realm.object k := by
  have hsplit : (realm.add item hnew).object k =
      (realm.object k).or (if item.id = k then some item else none) := by
    simp only [object, add, List.find?_append, List.find?_cons, List.find?_nil]
    by_cases h : item.id = k <;> simp [h]
  rw [hsplit]
  by_cases h : k = item.id
  · subst h
    rw [hnew, if_pos rfl, Option.none_or]
  · rw [if_neg h, if_neg (Ne.symm h), Option.or_none]

/-- **What a write does.**  The object with the key becomes the changed one, or
the new one when there was none; every other object stays as it is. -/
theorem object_writeObject (id : String) (change : LocalImage → LocalImage) (new : LocalImage)
    (hchange : ∀ item, (change item).id = item.id) (hnew : new.id = id) (k : String) :
    (realm.writeObject id change new hchange hnew).object k =
      if k = id then some ((realm.object id).elim new change) else realm.object k := by
  unfold writeObject
  split
  · rename_i item h
    rw [object_update]
    by_cases hk : k = id
    · subst hk
      simp [h]
    · simp [hk]
  · rename_i h
    rw [object_add, hnew, h]
    rfl

/-- A Boolean of an object, after a write. -/
theorem any_object_writeObject {id : String} {change : LocalImage → LocalImage} {new : LocalImage}
    {hchange : ∀ item, (change item).id = item.id} {hnew : new.id = id} (p : LocalImage → Bool)
    (k : String) :
    ((realm.writeObject id change new hchange hnew).object k).any p =
      if k = id then (realm.object id).elim (p new) fun item => p (change item)
      else (realm.object k).any p := by
  rw [object_writeObject]
  split
  · cases realm.object id <;> rfl
  · rfl

/-- An object after a write is the one written, or was there before. -/
theorem mem_writeObject {id : String} {change : LocalImage → LocalImage} {new : LocalImage}
    {hchange : ∀ item, (change item).id = item.id} {hnew : new.id = id} {item : LocalImage}
    (h : item ∈ (realm.writeObject id change new hchange hnew).objects) :
    item = (realm.object id).elim new change ∨ item ∈ realm.objects := by
  have hobject := object_of_mem h
  rw [object_writeObject] at hobject
  split at hobject
  · exact Or.inl (Option.some.inj hobject).symm
  · exact Or.inr (mem_of_object hobject)

/-- The stored flag of an id; an id without a record is no favourite. -/
def isFavorite (realm : Realm) (id : String) : Bool := (realm.object id).any LocalImage.favorite

end Realm

namespace DataManager
variable (realm : Realm)

/-- `changeLocalImageFavorite(id:)`. -/
def changeLocalImageFavorite (id : String) : Realm :=
  -- A record made here has neither a picture nor a size.
  realm.writeObject id (fun item => { item with favorite := !item.favorite })
    { id := id, favorite := true } (fun _ => rfl) rfl

/-- `changeLocalImageFavorite(id:urlRegular:width:height:)`. -/
def changeLocalImageFavoriteOfPhoto (id urlRegular : String) (width height : Int) : Realm :=
  realm.writeObject id
    (fun item => { item with
      urlRegular := some urlRegular, favorite := !item.favorite, width := width, height := height })
    { id := id, favorite := true, urlRegular := some urlRegular, width := width, height := height }
    (fun _ => rfl) rfl

def getLocalImageById (id : String) : Option LocalImage := realm.object id

def saveDownloadedFilePath (filePath id : String) (width height : Int) : Realm :=
  realm.writeObject id
    (fun item => { item with
      localImagePath := some filePath, isDownloaded := true, width := width, height := height })
    { id := id, localImagePath := some filePath, isDownloaded := true, width := width,
      height := height }
    (fun _ => rfl) rfl

def isLocalImageDownloaded (id : String) : Bool :=
  match realm.object id with
  | some specificItem => specificItem.isDownloaded
  | none => false

/-- `getDataCollection()`: the downloaded records and the favourite ones. -/
def getDataCollection : List TransLocalImage × List TransLocalImage :=
  ((realm.objects.filter (·.isDownloaded)).map TransLocalImage.ofLocal,
    (realm.objects.filter (·.favorite)).map TransLocalImage.ofLocal)

variable {realm}

/-- A heart tap negates the flag of its own id and of no other. -/
theorem isFavorite_changeLocalImageFavorite (id k : String) :
    (changeLocalImageFavorite realm id).isFavorite k =
      if k = id then !realm.isFavorite id else realm.isFavorite k := by
  refine (Realm.any_object_writeObject LocalImage.favorite k).trans ?_
  unfold Realm.isFavorite
  cases realm.object id <;> rfl

theorem isLocalImageDownloaded_eq (id : String) :
    isLocalImageDownloaded realm id = (realm.object id).any LocalImage.isDownloaded := by
  unfold isLocalImageDownloaded
  cases realm.object id <;> rfl

/-- Recorded as downloaded: there is a downloaded record of the id. -/
theorem isLocalImageDownloaded_iff {id : String} :
    isLocalImageDownloaded realm id = true ↔
      ∃ item ∈ realm.objects, item.isDownloaded = true ∧ item.id = id := by
  rw [isLocalImageDownloaded_eq, Option.any_eq_true]
  constructor
  · rintro ⟨item, hobject, hdownloaded⟩
    exact ⟨item, Realm.mem_of_object hobject, hdownloaded, Realm.object_id hobject⟩
  · rintro ⟨item, hitem, hdownloaded, rfl⟩
    exact ⟨item, Realm.object_of_mem hitem, hdownloaded⟩

/-- A write that keeps the download flag and creates no downloaded record. -/
theorem isLocalImageDownloaded_writeObject {id : String} {change : LocalImage → LocalImage}
    {new : LocalImage} {hchange : ∀ item, (change item).id = item.id} {hnew : new.id = id}
    (hkeep : ∀ item, (change item).isDownloaded = item.isDownloaded)
    (hfresh : new.isDownloaded = false) (k : String) :
    isLocalImageDownloaded (realm.writeObject id change new hchange hnew) k =
      isLocalImageDownloaded realm k := by
  rw [isLocalImageDownloaded_eq, isLocalImageDownloaded_eq, Realm.any_object_writeObject]
  split
  · rename_i hk
    subst hk
    cases realm.object k with
    | none => exact hfresh
    | some item => exact hkeep item
  · rfl

/-- A heart tap, by either overload, leaves what is recorded of downloads alone. -/
theorem isLocalImageDownloaded_changeLocalImageFavorite (id k : String) :
    isLocalImageDownloaded (changeLocalImageFavorite realm id) k =
      isLocalImageDownloaded realm k :=
  isLocalImageDownloaded_writeObject (fun _ => by rfl) (by rfl) k

theorem isLocalImageDownloaded_changeLocalImageFavoriteOfPhoto (id urlRegular : String)
    (width height : Int) (k : String) :
    isLocalImageDownloaded (changeLocalImageFavoriteOfPhoto realm id urlRegular width height) k =
      isLocalImageDownloaded realm k :=
  isLocalImageDownloaded_writeObject (fun _ => by rfl) (by rfl) k

/-- A save records its own id as downloaded and changes no other. -/
theorem isLocalImageDownloaded_saveDownloadedFilePath (filePath id : String) (width height : Int)
    (k : String) :
    isLocalImageDownloaded (saveDownloadedFilePath realm filePath id width height) k =
      (decide (k = id) || isLocalImageDownloaded realm k) := by
  rw [isLocalImageDownloaded_eq, isLocalImageDownloaded_eq]
  refine (Realm.any_object_writeObject LocalImage.isDownloaded k).trans ?_
  by_cases hk : k = id
  · subst hk
    rw [if_pos rfl]
    cases realm.object k <;> simp
  · simp [hk]

end DataManager

end ImSplash
