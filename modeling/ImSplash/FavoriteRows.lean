import ImSplash.App

/-!
# The rows of the Favourites view

A heart on the Favourites tab removes the items with the tapped id from `favList` and deletes
one row of the collection view.  The two agree because `favList` never holds an id twice: it is
always a selection of the records of a store, whose ids are its primary keys.

The screen is on its own here: each of its operations finds whatever store and registry the
rest of the app has made by then.  `App.machine` drives it so (`listStep_of_step`).
-/

namespace ImSplash
open Runs

/-- An operation of the List screen, with the store and the registry it finds. -/
inductive ListOperation
  | loadData (realm : Realm) (downloads : ActiveDownloads)
  | touchHeart (tab : Tab) (row : Nat) (realm : Realm) (downloads : ActiveDownloads)
  | updateItemWithId (id : String) (progress : Progress)

namespace ListViewController

/-- The List screen, one operation at a time. -/
def operations : Machine ListViewController ListOperation where
  step screen
    | .loadData realm downloads => some (screen.loadData realm downloads)
    | .touchHeart tab row realm downloads =>
      ((screen.touchTab tab).changeFavorite row realm downloads).map Prod.fst
    | .updateItemWithId id progress => some (screen.updateItemWithId id progress)

variable (screen : ListViewController)

/-- The row an operation passes to `favoriteCollectionView.deleteItems(at:)`, if it calls it. -/
def deletedRow : ListOperation → Option Nat
  | .touchHeart .favorites row _ _ =>
    match screen.favList[row]? with
    | some localItem => if localItem.favorite then some row else none
    | none => none
  | _ => none

/-- The view knows the rows of `favList`, and no two of them have one id. -/
structure FavoritesKnown : Prop where
  rows : screen.favoriteRows = screen.favList.length
  ids : (screen.favList.map TransLocalImage.id).Nodup

/-- Removing what has the key of the element at an index removes that element. -/
theorem filter_ne_eq_eraseIdx {α β : Type*} [DecidableEq β] {f : α → β} {l : List α} {i : Nat}
    {x : α} (hnodup : (l.map f).Nodup) (hi : l[i]? = some x) :
    l.filter (fun y => f y ≠ f x) = l.eraseIdx i := by
  induction l generalizing i with
  | nil => cases hi
  | cons y l ih =>
    obtain ⟨hy, hl⟩ := List.nodup_cons.mp hnodup
    by_cases hzero : i = 0
    · subst hzero
      obtain rfl : y = x := Option.some.inj hi
      have hrest : ∀ z ∈ l, f z ≠ f y := by
        intro z hz heq
        exact hy (heq ▸ List.mem_map_of_mem hz)
      rw [List.filter_cons_of_neg (by simp), List.eraseIdx_zero, List.tail_cons]
      exact List.filter_eq_self.mpr fun z hz => decide_eq_true (hrest z hz)
    · obtain ⟨j, rfl⟩ := Nat.exists_eq_succ_of_ne_zero hzero
      have hj : l[j]? = some x := by simpa using hi
      have hne : f y ≠ f x := by
        intro heq
        exact hy (heq ▸ List.mem_map_of_mem (List.mem_of_getElem? hj))
      rw [List.filter_cons_of_pos (by simpa using hne), ih hl hj, Nat.succ_eq_add_one,
        List.eraseIdx_cons_succ]

variable {screen}

theorem favoritesKnown_loadData (realm : Realm) (downloads : ActiveDownloads) :
    (screen.loadData realm downloads).FavoritesKnown := by
  refine ⟨rfl, ?_⟩
  rw [loadData_favList, List.map_map]
  exact realm.primaryKey.sublist (List.filter_sublist.map LocalImage.id)

/-- An operation that leaves `favList` and its rows alone. -/
theorem FavoritesKnown.congr {screen' : ListViewController} (h : screen.FavoritesKnown)
    (hlist : screen'.favList = screen.favList)
    (hrows : screen'.favoriteRows = screen.favoriteRows) : screen'.FavoritesKnown := by
  refine ⟨?_, ?_⟩
  · rw [hrows, hlist]
    exact h.rows
  · rw [hlist]
    exact h.ids

/-- The row that was tapped leaves the list, and it alone. -/
theorem FavoritesKnown.favList_removeFavorite (h : screen.FavoritesKnown) {row : Nat}
    {item : TransLocalImage} (hitem : screen.favList[row]? = some item) :
    (screen.removeFavorite item.id).favList = screen.favList.eraseIdx row :=
  filter_ne_eq_eraseIdx h.ids hitem

theorem FavoritesKnown.removeFavorite (h : screen.FavoritesKnown) {row : Nat}
    {item : TransLocalImage} (hitem : screen.favList[row]? = some item) :
    (screen.removeFavorite item.id).FavoritesKnown := by
  have hrow : row < screen.favList.length := (List.getElem?_eq_some_iff.mp hitem).1
  have hlist := h.favList_removeFavorite hitem
  refine ⟨?_, ?_⟩
  · rw [hlist, List.length_eraseIdx_of_lt hrow]
    show screen.favoriteRows - 1 = _
    rw [h.rows]
  · rw [hlist]
    exact h.ids.sublist ((List.eraseIdx_sublist screen.favList row).map _)

theorem updateFavoriteForDownloads_favorites (changedItem : TransLocalImage) :
    (screen.updateFavoriteForDownloads changedItem).favList = screen.favList
      ∧ (screen.updateFavoriteForDownloads changedItem).favoriteRows = screen.favoriteRows := by
  unfold updateFavoriteForDownloads
  split <;> exact ⟨rfl, rfl⟩

theorem updateItemWithId_favorites (id : String) (progress : Progress) :
    (screen.updateItemWithId id progress).favList = screen.favList
      ∧ (screen.updateItemWithId id progress).favoriteRows = screen.favoriteRows := by
  unfold updateItemWithId
  split
  · exact ⟨rfl, rfl⟩
  · split <;> exact ⟨rfl, rfl⟩

theorem FavoritesKnown.updateFavoriteForFav (h : screen.FavoritesKnown)
    (changedItem : TransLocalImage) (realm : Realm) (downloads : ActiveDownloads) :
    (screen.updateFavoriteForFav changedItem realm downloads).FavoritesKnown := by
  unfold ListViewController.updateFavoriteForFav
  split
  · exact favoritesKnown_loadData realm downloads
  · exact h.congr rfl rfl

/-- What a heart on the Favourites tab does to the screen. -/
theorem touchHeart_favorites_cases {row : Nat} {realm : Realm} {downloads : ActiveDownloads}
    {screen' : ListViewController}
    (hstep : operations.step screen (.touchHeart .favorites row realm downloads) = some screen') :
    ∃ item, screen.favList[row]? = some item
      ∧ screen' = if item.favorite then
          ((screen.touchTab .favorites).updateFavoriteForDownloads item).removeFavorite item.id
        else (screen.touchTab .favorites).updateFavoriteForDownloads item := by
  obtain ⟨⟨after, realm'⟩, hchange, rfl⟩ := Option.map_eq_some_iff.mp hstep
  simp only [changeFavorite, touchTab, reduceCtorEq, decide_false, Bool.false_eq_true,
    if_false] at hchange
  split at hchange
  · cases hchange
  · rename_i item hitem
    simp only [Option.some.injEq, Prod.mk.injEq] at hchange
    obtain ⟨rfl, -⟩ := hchange
    exact ⟨item, hitem, rfl⟩

theorem touchHeart_downloads_cases {row : Nat} {realm : Realm} {downloads : ActiveDownloads}
    {screen' : ListViewController}
    (hstep : operations.step screen (.touchHeart .downloads row realm downloads) = some screen') :
    ∃ item realm', screen' =
      (screen.touchTab .downloads).updateFavoriteForFav item realm' downloads := by
  obtain ⟨⟨after, realm'⟩, hchange, rfl⟩ := Option.map_eq_some_iff.mp hstep
  simp only [changeFavorite, touchTab, decide_true, if_true] at hchange
  split at hchange
  · cases hchange
  · rename_i item hitem
    simp only [Option.some.injEq, Prod.mk.injEq] at hchange
    obtain ⟨rfl, rfl⟩ := hchange
    exact ⟨item, _, rfl⟩

/-- What an operation does to the Favourites: it keeps what the view knows, and where it
deletes a row, the list loses the element of that row. -/
theorem FavoritesKnown.step (h : screen.FavoritesKnown) {operation : ListOperation}
    {screen' : ListViewController} (hstep : operations.step screen operation = some screen') :
    screen'.FavoritesKnown ∧ ∀ row, screen.deletedRow operation = some row →
      row < screen.favList.length ∧ screen'.favList = screen.favList.eraseIdx row := by
  cases operation with
  | loadData realm downloads =>
    obtain rfl := Option.some.inj hstep
    refine ⟨favoritesKnown_loadData realm downloads, ?_⟩
    intro row hrow
    cases hrow
  | updateItemWithId id progress =>
    obtain rfl := Option.some.inj hstep
    obtain ⟨hlist, hrows⟩ := @updateItemWithId_favorites screen id progress
    refine ⟨h.congr hlist hrows, ?_⟩
    intro row hrow
    cases hrow
  | touchHeart tab row realm downloads =>
    cases tab with
    | downloads =>
      obtain ⟨item, realm', rfl⟩ := touchHeart_downloads_cases hstep
      have hscreen : (screen.touchTab .downloads).FavoritesKnown := ⟨h.rows, h.ids⟩
      refine ⟨hscreen.updateFavoriteForFav item realm' downloads, ?_⟩
      intro row hrow
      cases hrow
    | favorites =>
      obtain ⟨item, hitem, rfl⟩ := touchHeart_favorites_cases hstep
      obtain ⟨hlist, hrows⟩ :=
        @updateFavoriteForDownloads_favorites (screen.touchTab .favorites) item
      have hscreen : ((screen.touchTab .favorites).updateFavoriteForDownloads
          item).FavoritesKnown := h.congr hlist hrows
      have hitem' : ((screen.touchTab .favorites).updateFavoriteForDownloads
          item).favList[row]? = some item := by
        rw [hlist]
        exact hitem
      by_cases hfavorite : item.favorite = true
      · rw [if_pos hfavorite]
        refine ⟨hscreen.removeFavorite hitem', ?_⟩
        intro row' hrow
        simp only [deletedRow, hitem, hfavorite, if_true, Option.some.injEq] at hrow
        subst hrow
        refine ⟨(List.getElem?_eq_some_iff.mp hitem).1, ?_⟩
        rw [hscreen.favList_removeFavorite hitem', hlist]
        rfl
      · rw [if_neg hfavorite]
        refine ⟨hscreen, ?_⟩
        intro row' hrow
        simp [deletedRow, hitem, hfavorite] at hrow

end ListViewController

/-! ## The app drives the screen so -/

namespace App

/-- A step of the app leaves the List screen as it is, makes a new one, or is one of its
operations on the store and the registry of the moment. -/
theorem listStep_of_step {app t : App} {e : AppEvent} (hstep : machine.step app e = some t) :
    t.listViewController = app.listViewController ∨ t.listViewController = {}
      ∨ ∃ operation, ListViewController.operations.step app.listViewController operation
          = some t.listViewController := by
  cases e with
  | presentListInterface =>
    obtain rfl := Option.some.inj hstep
    exact .inr (.inl rfl)
  | list event =>
    cases event with
    | loadData =>
      obtain rfl := Option.some.inj hstep
      exact .inr (.inr ⟨.loadData app.realm app.downloadManager.activeDownloads, rfl⟩)
    | touchHeart tab row =>
      obtain ⟨⟨screen, realm⟩, hchange, rfl⟩ := Option.map_eq_some_iff.mp hstep
      refine .inr (.inr ⟨.touchHeart tab row app.realm app.downloadManager.activeDownloads, ?_⟩)
      exact Option.map_eq_some_iff.mpr ⟨_, hchange, rfl⟩
  | downloadPhoto photo =>
    obtain rfl := Option.some.inj hstep
    left
    unfold downloadPhoto
    split <;> rfl
  | control event =>
    obtain rfl := Option.some.inj hstep
    cases event <;> exact .inl rfl
  | session event =>
    cases event with
    | didFinishDownloadingTo task location disk =>
      obtain ⟨request, -, rfl⟩ := Option.map_eq_some_iff.mp hstep
      exact .inl rfl
    | didWriteData task totalBytesWritten totalBytesExpectedToWrite =>
      obtain ⟨request, -, rfl⟩ := Option.map_eq_some_iff.mp hstep
      exact .inl rfl
    | didCompleteWithError task =>
      obtain ⟨request, -, rfl⟩ := Option.map_eq_some_iff.mp hstep
      exact .inl rfl
  | dismissListInterface | changeFavorite | didProduceResumeData =>
    obtain rfl := Option.some.inj hstep
    exact .inl rfl
  | mainQueue =>
    obtain ⟨block, rest, -, rfl⟩ := mainQueue_eq_some.mp hstep
    cases block with
    | loadData =>
      exact .inr (.inr ⟨.loadData app.realm app.downloadManager.activeDownloads, rfl⟩)
    | saveDownloadedFilePath destinationURL id width height =>
      simp only [runBlock]
      split
      · exact .inr (.inr ⟨.loadData _ app.downloadManager.activeDownloads, rfl⟩)
      · exact .inl rfl
    | updateItemWithId id progress =>
      simp only [runBlock]
      split
      · exact .inr (.inr ⟨.updateItemWithId id progress, rfl⟩)
      · exact .inl rfl

/-- So the Favourites view of the app knows its rows, whatever happens. -/
theorem favoritesKnown_of_run {app t : App} {run : List AppEvent} (hrun : machine.Run app run t)
    (h : app.listViewController.FavoritesKnown) : t.listViewController.FavoritesKnown := by
  induction hrun with
  | nil => exact h
  | cons hstep _ ih =>
    apply ih
    rcases listStep_of_step hstep with hsame | hnew | ⟨operation, hoperation⟩
    · rw [hsame]
      exact h
    · rw [hnew]
      exact ⟨rfl, List.Pairwise.nil⟩
    · exact (h.step hoperation).1

end App

end ImSplash
