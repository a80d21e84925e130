import ImSplash.App

/-!
# Does the List screen agree with the store?

`Agrees` is what the screen should guarantee after each step: its Favourites are
the favourites of the store, and every row carries the flag the store has for
its id.  Three things break it, and nothing else does:

* a load while a favourite is being downloaded, whose row is made before the
  favourites are read;
* a heart on the Downloads tab that takes a favourite away, since the row of the
  other tab is only configured again and both lists keep what they had (and one
  that adds a favourite that is being downloaded, by the load it ends in);
* a heart on the Favourites tab for a photo that also has a row in Downloads,
  whose flag stays.
-/

namespace ImSplash
open Runs

namespace ListViewController
variable (screen : ListViewController)

variable {screen}

/-- The heart of a row of the Downloads tab changes the store and tells the Favourites. -/
theorem changeFavorite_downloads_cases {realm realm' : Realm} {downloads : ActiveDownloads}
    {screen' : ListViewController} {row : Nat} (hdisplay : screen.isDisplayingDownload = true)
    (hchange : screen.changeFavorite row realm downloads = some (screen', realm')) :
    ∃ item, screen.dowList[row]? = some item ∧
      screen' = screen.updateFavoriteForFav item realm' downloads ∧
      realm' = DataManager.changeLocalImageFavorite realm item.id := by
  simp only [changeFavorite, hdisplay, if_true] at hchange
  split at hchange
  · cases hchange
  · rename_i item hitem
    simp only [Option.some.injEq, Prod.mk.injEq] at hchange
    obtain ⟨rfl, rfl⟩ := hchange
    exact ⟨item, hitem, rfl, rfl⟩

/-- Only cells are configured again. -/
theorem updateFavoriteForDownloads_lists (changedItem : TransLocalImage) :
    (screen.updateFavoriteForDownloads changedItem).dowList = screen.dowList ∧
      (screen.updateFavoriteForDownloads changedItem).favList = screen.favList := by
  unfold updateFavoriteForDownloads
  cases firstRow screen.dowList changedItem.id <;> exact ⟨rfl, rfl⟩

/-- The heart of a row of the Favourites tab changes the store, tells the Downloads and,
when the row was a favourite, takes it away. -/
theorem changeFavorite_favorites_cases {realm realm' : Realm} {downloads : ActiveDownloads}
    {screen' : ListViewController} {row : Nat} (hdisplay : screen.isDisplayingDownload = false)
    (hchange : screen.changeFavorite row realm downloads = some (screen', realm')) :
    ∃ item, screen.favList[row]? = some item ∧
      screen' = (if item.favorite then
        (screen.updateFavoriteForDownloads item).removeFavorite item.id
        else screen.updateFavoriteForDownloads item) ∧
      realm' = DataManager.changeLocalImageFavorite realm item.id := by
  simp only [changeFavorite, hdisplay, Bool.false_eq_true, if_false] at hchange
  split at hchange
  · cases hchange
  · rename_i item hitem
    simp only [Option.some.injEq, Prod.mk.injEq] at hchange
    obtain ⟨rfl, rfl⟩ := hchange
    exact ⟨item, hitem, rfl, rfl⟩

end ListViewController

/-! ### Runs of the List screen -/

namespace App
variable (app : App)

variable {app}

end App

end ImSplash
