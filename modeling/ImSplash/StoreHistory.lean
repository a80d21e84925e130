import Mathlib.Data.List.Induction
import ImSplash.DataManager

/-!
# The store as the fold of its history

A history is the list of the writes of `DataManager`, from an empty Realm.  What the store
holds under an id is read off the writes to that id alone (`recordOf`): how often the heart
was tapped, what was saved last, which URL and which size came last.

The three writers of the source create a record or change one.  Both come to the same:
a new record is the changed default one (`object_perform`).
-/

namespace ImSplash

namespace DataManager

/-- A call of one of the writers, with its arguments. -/
inductive Write
  | changeLocalImageFavorite (id : String)
  | changeLocalImageFavoriteOfPhoto (id urlRegular : String) (width height : Int)
  | saveDownloadedFilePath (filePath id : String) (width height : Int)
deriving DecidableEq, Repr

namespace Write

def id : Write → String
  | changeLocalImageFavorite id => id
  | changeLocalImageFavoriteOfPhoto id _ _ _ => id
  | saveDownloadedFilePath _ id _ _ => id

/-- A tap on a heart, by either overload. -/
def isToggle : Write → Bool
  | changeLocalImageFavorite _ => true
  | changeLocalImageFavoriteOfPhoto _ _ _ _ => true
  | saveDownloadedFilePath _ _ _ _ => false

/-- The path of a save. -/
def savedPath : Write → Option String
  | saveDownloadedFilePath filePath _ _ _ => some filePath
  | _ => none

/-- The URL of a tap by the overload with four arguments. -/
def urlRegular : Write → Option String
  | changeLocalImageFavoriteOfPhoto _ urlRegular _ _ => some urlRegular
  | _ => none

/-- The width and the height of a write that carries them. -/
def size : Write → Option (Int × Int)
  | changeLocalImageFavorite _ => none
  | changeLocalImageFavoriteOfPhoto _ _ width height => some (width, height)
  | saveDownloadedFilePath _ _ width height => some (width, height)

end Write

def perform (realm : Realm) : Write → Realm
  | .changeLocalImageFavorite id => changeLocalImageFavorite realm id
  | .changeLocalImageFavoriteOfPhoto id urlRegular width height =>
    changeLocalImageFavoriteOfPhoto realm id urlRegular width height
  | .saveDownloadedFilePath filePath id width height =>
    saveDownloadedFilePath realm filePath id width height

/-- The Realm after a history. -/
def run (history : List Write) : Realm := history.foldl perform {}

/-- The writes to an id, in their order. -/
def writesTo (id : String) (history : List Write) : List Write := history.filter (·.id = id)

/-- The record an id has by the writes to it. -/
def recordOf (id : String) (writes : List Write) : LocalImage where
  id := id
  width := ((writes.filterMap Write.size).getLast?.map Prod.fst).getD 1
  height := ((writes.filterMap Write.size).getLast?.map Prod.snd).getD 1
  urlRegular := (writes.filterMap Write.urlRegular).getLast?
  localImagePath := (writes.filterMap Write.savedPath).getLast?
  favorite := writes.countP Write.isToggle % 2 == 1
  isDownloaded := writes.any fun write => write.savedPath.isSome

/-! ## One write -/

/-- What a write does to the record of its id. -/
def Write.change : Write → LocalImage → LocalImage
  | changeLocalImageFavorite _, item => { item with favorite := !item.favorite }
  | changeLocalImageFavoriteOfPhoto _ urlRegular width height, item =>
    { item with
      urlRegular := some urlRegular, favorite := !item.favorite, width := width,
      height := height }
  | saveDownloadedFilePath filePath _ width height, item =>
    { item with
      localImagePath := some filePath, isDownloaded := true, width := width, height := height }

/-- Where there was no record, a write leaves what it makes of a default one. -/
theorem object_perform (realm : Realm) (write : Write) (k : String) :
    (perform realm write).object k =
      if k = write.id then some (write.change ((realm.object write.id).getD { id := write.id }))
      else realm.object k := by
  cases write with
  | changeLocalImageFavorite id =>
    simp only [perform, changeLocalImageFavorite, Realm.object_writeObject, Write.id]
    cases realm.object id <;> rfl
  | changeLocalImageFavoriteOfPhoto id urlRegular width height =>
    simp only [perform, changeLocalImageFavoriteOfPhoto, Realm.object_writeObject, Write.id]
    cases realm.object id <;> rfl
  | saveDownloadedFilePath filePath id width height =>
    simp only [perform, saveDownloadedFilePath, Realm.object_writeObject, Write.id]
    cases realm.object id <;> rfl

/-- One more tap turns the parity of the taps. -/
theorem odd_succ (n : Nat) : ((n + 1) % 2 == 1) = !(n % 2 == 1) := by
  rcases Nat.mod_two_eq_zero_or_one n with h | h
  · have hsucc : (n + 1) % 2 = 1 := by omega
    rw [h, hsucc]
    rfl
  · have hsucc : (n + 1) % 2 = 0 := by omega
    rw [h, hsucc]
    rfl

theorem recordOf_concat (id : String) (writes : List Write) (write : Write) :
    recordOf id (writes ++ [write]) = write.change (recordOf id writes) := by
  cases write <;>
    simp [recordOf, Write.change, Write.size, Write.urlRegular, Write.savedPath, Write.isToggle,
      List.filterMap_append, List.countP_append, odd_succ]

theorem writesTo_concat (id : String) (history : List Write) (write : Write) :
    writesTo id (history ++ [write])
      = writesTo id history ++ if write.id = id then [write] else [] := by
  rw [writesTo, writesTo, List.filter_append]
  by_cases h : write.id = id <;> simp [h]

theorem run_concat (history : List Write) (write : Write) :
    run (history ++ [write]) = perform (run history) write := by
  simp [run]

/-! ## A history -/

section History
variable {history : List Write}

/-- An id has a record once it was written to, and the record is what its writes make it. -/
theorem object_run (history : List Write) (id : String) :
    (run history).object id
      = if writesTo id history = [] then none else some (recordOf id (writesTo id history)) := by
  induction history using List.reverseRecOn with
  | nil => rfl
  | append_singleton history write ih =>
    rw [run_concat, object_perform, writesTo_concat]
    by_cases h : write.id = id
    · subst h
      have hne : writesTo write.id history ++ [write] ≠ [] := by simp
      rw [if_pos rfl, if_pos rfl, if_neg hne, ih, recordOf_concat]
      by_cases hnil : writesTo write.id history = []
      · rw [if_pos hnil, hnil]
        rfl
      · rw [if_neg hnil]
        rfl
    · rw [if_neg (Ne.symm h), if_neg h, ih, List.append_nil]

/-- A stored record is the one the writes to its id make. -/
theorem mem_run_iff (history : List Write) (item : LocalImage) :
    item ∈ (run history).objects
      ↔ writesTo item.id history ≠ [] ∧ item = recordOf item.id (writesTo item.id history) := by
  constructor
  · intro hmem
    have hobject := Realm.object_of_mem hmem
    rw [object_run] at hobject
    split at hobject
    · cases hobject
    · rename_i hne
      exact ⟨hne, (Option.some.inj hobject).symm⟩
  · intro ⟨hne, heq⟩
    have hobject : (run history).object item.id = some item := by
      rw [object_run, if_neg hne, ← heq]
    exact Realm.mem_of_object hobject

theorem mem_filter_ofLocal (p : LocalImage → Bool) (image : TransLocalImage) :
    image ∈ ((run history).objects.filter p).map TransLocalImage.ofLocal
      ↔ ∃ item ∈ (run history).objects, p item = true ∧ TransLocalImage.ofLocal item = image := by
  simp [and_assoc]

/-- Records that are kept apart by their ids stay apart in any selection. -/
theorem nodup_ids_filter (p : LocalImage → Bool) :
    (((run history).objects.filter p).map TransLocalImage.ofLocal |>.map
      TransLocalImage.id).Nodup := by
  have hsub := (List.filter_sublist (l := (run history).objects) (p := p)).map LocalImage.id
  rw [List.map_map]
  exact (run history).primaryKey.sublist hsub

end History

/-- The store is the fold of its history: one record for each id written to, made by the
writes to that id; a write changes the record of its own id only; and `getDataCollection`
has the downloaded records and the favourites, each once. -/
theorem store_eq_fold (history : List Write) :
    ((run history).objects.map LocalImage.id).Nodup
    ∧ (∀ id, (run history).object id
      = if writesTo id history = [] then none else some (recordOf id (writesTo id history)))
    ∧ (∀ id write, write.id ≠ id →
      (run (history ++ [write])).object id = (run history).object id)
    ∧ (∀ image, image ∈ (getDataCollection (run history)).1
      ↔ ∃ item ∈ (run history).objects,
        item.isDownloaded = true ∧ TransLocalImage.ofLocal item = image)
    ∧ (∀ image, image ∈ (getDataCollection (run history)).2
      ↔ ∃ item ∈ (run history).objects,
        item.favorite = true ∧ TransLocalImage.ofLocal item = image)
    ∧ ((getDataCollection (run history)).1.map TransLocalImage.id).Nodup
    ∧ ((getDataCollection (run history)).2.map TransLocalImage.id).Nodup := by
  refine ⟨(run history).primaryKey, object_run history, ?_, mem_filter_ofLocal _,
    mem_filter_ofLocal _, nodup_ids_filter _, nodup_ids_filter _⟩
  intro id write hne
  rw [run_concat, object_perform, if_neg (Ne.symm hne)]

/-- A tap, a save and a second tap on one photo, with a tap on another in between: the first
is downloaded and no favourite, and the tap on the second leaves it so. -/
theorem store_eq_fold_two_photos :
    let history : List Write := [.changeLocalImageFavoriteOfPhoto "a" "u" 3 2,
      .saveDownloadedFilePath "f" "a" 4 5, .changeLocalImageFavorite "b",
      .changeLocalImageFavorite "a"]
    (run history).object "a"
        = some ⟨"a", 4, 5, some "u", some "f", false, true⟩
      ∧ (run (history ++ [.changeLocalImageFavorite "b"])).object "a"
        = (run history).object "a" := by
  intro history
  have hfold := store_eq_fold history
  refine ⟨?_, hfold.2.2.1 "a" (.changeLocalImageFavorite "b") (by decide)⟩
  rw [hfold.2.1 "a"]
  decide

end DataManager

end ImSplash
