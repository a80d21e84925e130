import ImSplash.HomeScreen
import ImSplash.Paging
import ImSplash.Projection
import ImSplash.WaterfallLayout
import Mathlib.Logic.Relation

/-!
# Do the photos keep their place?

The grid is laid out anew for every page that comes.  A photo is placed by the photos before
it alone, and these do not change, so that it is where it was: whatever the screen does between
two times the layout is prepared for one width, the cells of the first are the first cells of
the second.
-/

namespace ImSplash
open Runs

/-! ### The placement loop -/

namespace WaterfallLayout
variable {geometry : ColumnGeometry} {sizeForItemAt sizeForItemAt' : SizeForItemAt}
  {placement : Placement} {count count' : Nat}

/-- The loop asks for the sizes of the items it places, and for no others. -/
theorem placeItems_congr (h : ∀ index < count, sizeForItemAt index = sizeForItemAt' index) :
    placeItems geometry sizeForItemAt placement count =
      placeItems geometry sizeForItemAt' placement count := by
  induction count with
  | zero => rfl
  | succ count ih =>
    have hbefore := ih fun index hindex => h index (Nat.lt_succ_of_lt hindex)
    have hlast := h count (Nat.lt_succ_self count)
    rw [placeItems_succ, placeItems_succ, hbefore, placeItem, placeItem, hlast]

/-- What has been placed stays. -/
theorem placeItems_isPrefix (h : count ≤ count') :
    (placeItems geometry sizeForItemAt placement count).layoutAttributes <+:
      (placeItems geometry sizeForItemAt placement count').layoutAttributes := by
  induction h with
  | refl => exact List.prefix_refl _
  | @step count' _ ih =>
    rw [placeItems_succ, placeItem_layoutAttributes]
    exact ih.trans (List.prefix_append _ _)

end WaterfallLayout

/-! ### The grid -/

namespace HomeGrid

/-- What happens to a grid: a page is appended, a grid without photos is reloaded, or the first
update is made that waits. -/
inductive Step (grid : HomeGrid) : HomeGrid → Prop
  | append (items : List UnsplashPhoto) : Step grid (grid.append items)
  | reload (hphotos : grid.photos = []) :
      Step grid { grid with itemCount := grid.photos.length }
  | update {needInsert : Bool} {newIndexPaths : List Nat} {updates : List (Bool × List Nat)}
      (hupdates : grid.updates = (needInsert, newIndexPaths) :: updates) :
      Step grid { grid with
        itemCount :=
          if needInsert then grid.itemCount + newIndexPaths.length else grid.photos.length
        updates := updates }

/-- The grid has these photos first and knows so many of them; one without photos knows
nothing, and will not. -/
structure Shows (L : List UnsplashPhoto) (n : Nat) (grid : HomeGrid) : Prop where
  photos : L <+: grid.photos
  le : n ≤ L.length
  known : n ≤ grid.itemCount
  empty : grid.photos = [] → grid.itemCount = 0 ∧ ∀ update ∈ grid.updates, update.2 = []

variable {grid after : HomeGrid} {L : List UnsplashPhoto} {n : Nat}

theorem Shows.le_photos (h : grid.Shows L n) : n ≤ grid.photos.length :=
  Nat.le_trans h.le h.photos.length_le

/-- **What a grid shows it goes on to show.** -/
theorem Shows.step (h : grid.Shows L n) (hstep : grid.Step after) : after.Shows L n := by
  cases hstep with
  | append items =>
    refine ⟨h.photos.trans (List.prefix_append _ _), h.le, h.known, fun hphotos => ?_⟩
    obtain ⟨hnone, rfl⟩ := List.append_eq_nil_iff.mp hphotos
    refine ⟨(h.empty hnone).1, fun update hupdate => ?_⟩
    rcases List.mem_append.mp hupdate with hold | hnew
    · exact (h.empty hnone).2 update hold
    · rw [List.mem_singleton.mp hnew]
      rfl
  | reload hphotos =>
    refine ⟨h.photos, h.le, h.le_photos, fun _ => ⟨?_, (h.empty hphotos).2⟩⟩
    exact congrArg List.length hphotos
  | @update needInsert newIndexPaths updates hupdates =>
    cases needInsert with
    | false =>
      refine ⟨h.photos, h.le, h.le_photos, fun hphotos => ⟨congrArg List.length hphotos, ?_⟩⟩
      intro update hupdate
      exact (h.empty hphotos).2 update (hupdates ▸ List.mem_cons_of_mem _ hupdate)
    | true =>
      refine ⟨h.photos, h.le, Nat.le_trans h.known (Nat.le_add_right _ _), fun hphotos => ?_⟩
      obtain ⟨hcount, hempty⟩ := h.empty hphotos
      rw [hupdates, List.forall_mem_cons] at hempty
      refine ⟨?_, hempty.2⟩
      have hnone : newIndexPaths = [] := hempty.1
      show grid.itemCount + newIndexPaths.length = 0
      rw [hcount, hnone]
      rfl

theorem Shows.steps (h : grid.Shows L n) (hsteps : Relation.ReflTransGen Step grid after) :
    after.Shows L n := by
  induction hsteps with
  | refl => exact h
  | tail _ hstep ih => exact ih.step hstep

end HomeGrid

namespace HomeScreen
variable {screen after : HomeScreen}

theorem fetchNextItems_grid (screen : HomeScreen) :
    Relation.ReflTransGen HomeGrid.Step screen.view.grid screen.fetchNextItems.view.grid := by
  obtain ⟨-, ⟨-, hgrid⟩ | ⟨-, -, hgrid⟩ | ⟨-, -, hgrid⟩⟩ := screen.fetchNextItems_cases
  · rw [hgrid]
  · rw [hgrid]
    exact .single (.append [])
  · rw [hgrid]

/-- What an event does to the grid. -/
theorem grid_step {event : HomeEvent} (hstep : machine.step screen event = some after) :
    Relation.ReflTransGen HomeGrid.Step screen.view.grid after.view.grid := by
  cases event with
  | viewWillAppear =>
    obtain rfl := Option.some.inj hstep
    rcases screen.viewWillAppear_cases with heq | ⟨hempty, heq⟩
    · rw [heq]
    · rw [heq]
      exact .head (.reload hempty) (fetchNextItems_grid { screen with
        dataSource := screen.dataSource.reset, view := screen.view.reloadData })
  | willDisplay item =>
    obtain rfl := Option.some.inj hstep
    rcases screen.willDisplay_cases item with heq | ⟨-, heq⟩
    · rw [heq]
    · rw [heq]
      exact fetchNextItems_grid screen
  | requestDidComplete request result =>
    obtain ⟨_, _, -, -, -, ⟨-, -, hgrid⟩ | ⟨items, -, -, -, -, -, hgrid⟩⟩ :=
      requestDidComplete_cases screen hstep
    · rw [hgrid]
    · rw [hgrid]
      exact .single (.append items)
  | mainQueue =>
    rcases mainQueue_grid screen hstep with hgrid | ⟨_, _, _, hupdates, hgrid⟩
    · rw [hgrid]
    · rw [hgrid]
      exact .single (.update hupdates)

end HomeScreen

/-! ### The grid and its layout -/

/-- `HomeViewController` as `WaterfallLayoutDelegate`, which traps past the last photo. -/
def HomeViewController.sizeForItemAt (view : HomeViewController) (index : Nat) : Option CGSize :=
  if 0 < view.photos.length then
    (view.photos[index]?).map fun photo => ⟨photo.width, photo.height⟩
  else some ⟨0, 0⟩

/-- The Home screen with the layout of its collection view. -/
structure HomeLayout where
  screen : HomeScreen
  layout : WaterfallLayout := {}
  frameWidth : CGFloat
  /-- The width the layout was last prepared for. -/
  preparedWidth : Option CGFloat := none

inductive HomeLayoutEvent
  | home (event : HomeEvent)
  /-- The collection view prepares its layout. -/
  | prepare
  | boundsDidChange (width : CGFloat)

namespace HomeLayout

def launch (factory : PhotosDataSourceFactory) (frameWidth : CGFloat) : HomeLayout where
  screen := .launch factory
  frameWidth := frameWidth

/-- The collection view of a width; the margins are those of `setupCollectionView`. -/
def collectionViewFor (frameWidth : CGFloat) (itemCount : Nat) : CollectionView :=
  ⟨frameWidth, ⟨0, 16, 0, 16⟩, [itemCount]⟩

variable (home : HomeLayout)

def collectionView : CollectionView :=
  collectionViewFor home.frameWidth home.screen.view.itemCount

/-- The layout asks its delegate for the size of each item, if it has a column. -/
def sizes : Option (List CGSize) :=
  if 0 < WaterfallLayout.numberOfColumns (some home.collectionView) then
    (List.range home.collectionView.numberOfItems).mapM home.screen.view.sizeForItemAt
  else some []

def prepare : Option HomeLayout :=
  home.sizes.map fun sizes => { home with
    layout := home.layout.prepare (some home.collectionView)
      (some fun index => sizes.getD index ⟨0, 0⟩)
    preparedWidth := some home.frameWidth }

def machine : Machine HomeLayout HomeLayoutEvent where
  step home
    | .home event =>
      (HomeScreen.machine.step home.screen event).map fun screen => { home with screen := screen }
    | .prepare => home.prepare
    | .boundsDidChange width => some { home with frameWidth := width }

/-! ### What is laid out -/

def photoSize (L : List UnsplashPhoto) (index : Nat) : CGSize :=
  ((L[index]?).map fun photo => ⟨photo.width, photo.height⟩).getD ⟨0, 0⟩

/-- The cells of a width, for the first so many of some photos. -/
def cells (L : List UnsplashPhoto) (width : CGFloat) (n : Nat) : List LayoutAttributes :=
  if 0 < WaterfallLayout.numberOfColumns (some (collectionViewFor width n)) then
    (WaterfallLayout.placementUpTo {} (collectionViewFor width n) (photoSize L) n).layoutAttributes
  else []

/-- More photos have the same cells first. -/
theorem cells_isPrefix {L L' : List UnsplashPhoto} {width : CGFloat} {n m : Nat}
    (hphotos : L <+: L') (hn : n ≤ L.length) (hle : n ≤ m) :
    cells L width n <+: cells L' width m := by
  have hcolumns : WaterfallLayout.numberOfColumns (some (collectionViewFor width m)) =
    WaterfallLayout.numberOfColumns (some (collectionViewFor width n)) := rfl
  rw [cells, cells, hcolumns]
  split
  · obtain ⟨rest, rfl⟩ := hphotos
    have hsizes : ∀ index < n, photoSize L index = photoSize (L ++ rest) index := by
      intro index hindex
      rw [photoSize, photoSize, List.getElem?_append_left (Nat.lt_of_lt_of_le hindex hn)]
    rw [WaterfallLayout.placementUpTo, WaterfallLayout.placeItems_congr hsizes]
    exact WaterfallLayout.placeItems_isPrefix hle
  · exact List.prefix_refl _

variable {home after : HomeLayout}

/-- The delegate has been asked for photos that there are. -/
theorem sizes_eq_some {sizes : List CGSize} (hsizes : home.sizes = some sizes)
    (hcolumns : 0 < WaterfallLayout.numberOfColumns (some home.collectionView))
    (hempty : home.screen.view.photos = [] → home.screen.view.itemCount = 0) :
    home.screen.view.itemCount ≤ home.screen.view.photos.length ∧
      ∀ index < home.screen.view.itemCount,
        sizes.getD index ⟨0, 0⟩ = photoSize home.screen.view.photos index := by
  have hitems : home.collectionView.numberOfItems = home.screen.view.itemCount := Nat.add_zero _
  rw [HomeLayout.sizes, if_pos hcolumns, hitems, Paging.mapM_eq_some_iff] at hsizes
  have hsize : ∀ index < home.screen.view.itemCount,
      ∃ photo, home.screen.view.photos[index]? = some photo ∧
        sizes[index]? = some ⟨photo.width, photo.height⟩ := by
    intro index hindex
    have hsome : 0 < home.screen.view.photos.length := by
      refine List.length_pos_iff.mpr fun hnone => ?_
      rw [hempty hnone] at hindex
      exact Nat.not_lt_zero _ hindex
    have heq := congrArg (·[index]?) hsizes
    simp only [List.getElem?_map, List.getElem?_range hindex, Option.map_some] at heq
    obtain ⟨size, hsize, heq⟩ := Option.map_eq_some_iff.mp heq.symm
    rw [HomeViewController.sizeForItemAt, if_pos hsome] at heq
    obtain ⟨photo, hphoto, rfl⟩ := Option.map_eq_some_iff.mp heq.symm
    exact ⟨photo, hphoto, hsize⟩
  constructor
  · refine Nat.le_of_not_lt fun hlt => ?_
    obtain ⟨photo, hphoto, -⟩ := hsize _ hlt
    rw [List.getElem?_eq_none (Nat.le_refl _)] at hphoto
    cases hphoto
  · intro index hindex
    obtain ⟨photo, hphoto, hsize⟩ := hsize index hindex
    rw [List.getD_eq_getElem?_getD, hsize, photoSize, hphoto]
    rfl

/-- What a preparation leaves are the cells of its width, none of them without a photo. -/
theorem prepare_cells (hempty : home.screen.view.photos = [] → home.screen.view.itemCount = 0)
    (hinset : home.layout.topInset = 16) (hprepared : home.prepare = some after) :
    ∃ layout, after = { home with layout := layout, preparedWidth := some home.frameWidth } ∧
      layout.topInset = 16 ∧ layout.frames = layout.layoutAttributes.map (·.frame) ∧
      layout.layoutAttributes = cells home.screen.view.photos home.frameWidth
        home.screen.view.itemCount ∧
      (0 < WaterfallLayout.numberOfColumns (some home.collectionView) →
        home.screen.view.itemCount ≤ home.screen.view.photos.length) := by
  obtain ⟨sizes, hsizes, rfl⟩ := Option.map_eq_some_iff.mp hprepared
  refine ⟨_, rfl, (WaterfallLayout.prepare_topInset _ _ _).trans hinset, ?_⟩
  by_cases hcolumns : 0 < WaterfallLayout.numberOfColumns (some home.collectionView)
  · obtain ⟨hle, hsame⟩ := sizes_eq_some hsizes hcolumns hempty
    have hplacement : home.layout.placementUpTo home.collectionView
        (fun index => sizes.getD index ⟨0, 0⟩) home.collectionView.numberOfItems =
          WaterfallLayout.placementUpTo {} (collectionViewFor home.frameWidth
            home.screen.view.itemCount) (photoSize home.screen.view.photos)
            home.screen.view.itemCount := by
      have hitems : home.collectionView.numberOfItems = home.screen.view.itemCount :=
        Nat.add_zero _
      rw [WaterfallLayout.placementUpTo, hitems, WaterfallLayout.placeItems_congr hsame, hinset]
      rfl
    rw [WaterfallLayout.prepare_frames _ _ hcolumns, WaterfallLayout.prepare_layoutAttributes _ _
      hcolumns, hplacement]
    refine ⟨?_, (if_pos hcolumns).symm, fun _ => hle⟩
    exact (WaterfallLayout.placeItems_layoutAttributes _ _ _ _ _).1
  · simp only [WaterfallLayout.prepare, hcolumns, if_false]
    exact ⟨rfl, (if_neg hcolumns).symm, fun h => h.elim⟩

/-- The cells that were laid out last for a width are those of photos the grid shows, and come
after the first of some other photos. -/
structure Inv (width : CGFloat) (L : List UnsplashPhoto) (n : Nat) (home : HomeLayout) :
    Prop where
  shows : home.screen.view.grid.Shows L n
  topInset : home.layout.topInset = 16
  frames : home.layout.frames = home.layout.layoutAttributes.map (·.frame)
  fresh : home.preparedWidth = none → home.layout.layoutAttributes = []
  laidOut : home.preparedWidth = some width → ∃ L' m, L <+: L' ∧ n ≤ m ∧
    home.screen.view.grid.Shows L' m ∧ home.layout.layoutAttributes = cells L' width m

theorem inv_launch (factory : PhotosDataSourceFactory) (frameWidth width : CGFloat) :
    (launch factory frameWidth).Inv width [] 0 where
  shows := ⟨List.nil_prefix, Nat.le_refl _, Nat.zero_le _, fun _ => ⟨rfl, fun _ h => by cases h⟩⟩
  topInset := rfl
  frames := rfl
  fresh _ := rfl
  laidOut h := by cases h

/-- **One step keeps the cells**, whatever it is. -/
theorem Inv.step {width : CGFloat} {L : List UnsplashPhoto} {n : Nat} (h : home.Inv width L n)
    {event : HomeLayoutEvent} (hstep : machine.step home event = some after) :
    after.Inv width L n := by
  cases event with
  | home event =>
    obtain ⟨screen, hscreen, rfl⟩ := Option.map_eq_some_iff.mp hstep
    have hgrid := HomeScreen.grid_step hscreen
    refine ⟨h.shows.steps hgrid, h.topInset, h.frames, h.fresh, fun hwidth => ?_⟩
    obtain ⟨L', m, hphotos, hle, hshows, hcells⟩ := h.laidOut hwidth
    exact ⟨L', m, hphotos, hle, hshows.steps hgrid, hcells⟩
  | prepare =>
    have hempty := fun hphotos => (h.shows.empty hphotos).1
    obtain ⟨layout, rfl, hinset, hframes, hcells, hle⟩ :=
      prepare_cells hempty h.topInset hstep
    refine ⟨h.shows, hinset, hframes, fun hnone => (by cases hnone), ?_⟩
    rintro ⟨⟩
    by_cases hcolumns : 0 < WaterfallLayout.numberOfColumns (some home.collectionView)
    · exact ⟨home.screen.view.photos, home.screen.view.itemCount, h.shows.photos, h.shows.known,
        ⟨List.prefix_refl _, hle hcolumns, Nat.le_refl _, h.shows.empty⟩, hcells⟩
    · -- Without a column there are no cells.
      refine ⟨L, n, List.prefix_refl _, Nat.le_refl _, h.shows, hcells.trans ?_⟩
      exact (if_neg hcolumns).trans (if_neg hcolumns).symm
  | boundsDidChange frameWidth =>
    obtain rfl := Option.some.inj hstep
    exact ⟨h.shows, h.topInset, h.frames, h.fresh, h.laidOut⟩

theorem Inv.run {width : CGFloat} {L : List UnsplashPhoto} {n : Nat} (h : home.Inv width L n)
    {events : List HomeLayoutEvent} (hrun : machine.Run home events after) :
    after.Inv width L n := by
  induction hrun with
  | nil => exact h
  | cons hstep _ ih => exact ih (h.step hstep)

/-- **The photos keep their place**: of two layouts that were prepared for one width, in any run
of the screen, the cells of the earlier are the first cells of the later. -/
theorem keepsPlace {factory : PhotosDataSourceFactory} {frameWidth : CGFloat}
    {events events' : List HomeLayoutEvent}
    (hrun : machine.Run (launch factory frameWidth) events home)
    (hrun' : machine.Run home events' after) (hwidth : home.preparedWidth = after.preparedWidth) :
    home.layout.layoutAttributes <+: after.layout.layoutAttributes ∧
      home.layout.frames <+: after.layout.frames := by
  have hframes := ((inv_launch factory frameWidth 0).run hrun).frames
  have hframes' := (((inv_launch factory frameWidth 0).run hrun).run hrun').frames
  suffices hcells : home.layout.layoutAttributes <+: after.layout.layoutAttributes by
    rw [hframes, hframes']
    exact ⟨hcells, hcells.map _⟩
  cases hprepared : home.preparedWidth with
  | none =>
    rw [((inv_launch factory frameWidth 0).run hrun).fresh hprepared]
    exact List.nil_prefix
  | some width =>
    have h := (inv_launch factory frameWidth width).run hrun
    obtain ⟨L, n, -, -, hshows, hcells⟩ := h.laidOut hprepared
    have hhome : home.Inv width L n := ⟨hshows, h.topInset, h.frames, h.fresh,
      fun _ => ⟨L, n, List.prefix_refl _, Nat.le_refl _, hshows, hcells⟩⟩
    obtain ⟨L', m, hphotos, hle, -, hcells'⟩ :=
      (hhome.run hrun').laidOut (hwidth.symm.trans hprepared)
    rw [hcells, hcells']
    exact cells_isPrefix hphotos hshows.le hle

/-- There are sizes for the items that have photos. -/
theorem exists_prepare (home : HomeLayout)
    (hle : home.screen.view.itemCount ≤ home.screen.view.photos.length) :
    ∃ layout, home.prepare =
      some { home with layout := layout, preparedWidth := some home.frameWidth } := by
  obtain ⟨sizes, hsizes⟩ : ∃ sizes, home.sizes = some sizes := by
    rw [sizes]
    split
    · refine ⟨(List.range home.collectionView.numberOfItems).map
        (photoSize home.screen.view.photos), Paging.mapM_eq_some_iff.mpr ?_⟩
      rw [List.map_map]
      refine List.map_congr_left fun index hindex => ?_
      have hlt : index < home.screen.view.photos.length :=
        Nat.lt_of_lt_of_le (List.mem_range.mp hindex) hle
      rw [HomeViewController.sizeForItemAt, if_pos (Nat.zero_lt_of_lt hlt), Function.comp_apply,
        photoSize, List.getElem?_eq_getElem hlt]
      rfl
    · exact ⟨[], rfl⟩
  exact ⟨_, by rw [prepare, hsizes]; rfl⟩

/-- With a column every item has its cell. -/
theorem length_cells (L : List UnsplashPhoto) {width : CGFloat} {n : Nat}
    (hcolumns : 0 < WaterfallLayout.numberOfColumns (some (collectionViewFor width n))) :
    (cells L width n).length = n := by
  have hitems : ((WaterfallLayout.placementUpTo {} (collectionViewFor width n) (photoSize L)
      n).layoutAttributes.map (·.item)).length = n := by
    rw [WaterfallLayout.placementUpTo, (WaterfallLayout.placeItems_layoutAttributes _ _ _ _ _).2,
      List.length_range]
  rw [List.length_map] at hitems
  rw [cells, if_pos hcolumns, hitems]

/-- What the screen does leaves the layout as it was. -/
theorem run_home {screen screen' : HomeScreen} {events : List HomeEvent}
    (hrun : HomeScreen.machine.Run screen events screen') (layout : WaterfallLayout)
    (frameWidth : CGFloat) (preparedWidth : Option CGFloat) :
    machine.Run ⟨screen, layout, frameWidth, preparedWidth⟩ (events.map .home)
      ⟨screen', layout, frameWidth, preparedWidth⟩ := by
  induction hrun with
  | nil => exact .nil _
  | cons hstep _ ih => exact .cons (by rw [machine]; exact congrArg (Option.map _) hstep) ih

/-- The layout of a screen whose photos are all in the grid has a cell for each of them. -/
theorem prepare_length {screen : HomeScreen} {layout : WaterfallLayout} {n : Nat}
    (hinset : layout.topInset = 16) (preparedWidth : Option CGFloat)
    (hphotos : screen.view.photos.length = n) (hitems : screen.view.itemCount = n) (hn : 0 < n) :
    ∃ layout', machine.step ⟨screen, layout, 375, preparedWidth⟩ .prepare =
        some ⟨screen, layout', 375, some 375⟩ ∧
      layout'.topInset = 16 ∧ layout'.layoutAttributes.length = n := by
  obtain ⟨layout', hprepared⟩ := exists_prepare ⟨screen, layout, 375, preparedWidth⟩
    (by rw [hphotos, hitems])
  have hempty : screen.view.photos = [] → screen.view.itemCount = 0 := by
    intro hnone
    rw [hnone] at hphotos
    exact absurd hphotos (Nat.ne_of_lt hn)
  obtain ⟨layout'', heq, htop, -, hcells, -⟩ := prepare_cells hempty hinset hprepared
  obtain rfl : layout' = layout'' := congrArg HomeLayout.layout heq
  refine ⟨layout', hprepared, htop, ?_⟩
  have hcolumns : 0 < WaterfallLayout.numberOfColumns (some (collectionViewFor 375
      screen.view.itemCount)) := by
    show 0 < min (numberOfColumnsFor 375 16 150) 3
    decide +kernel
  rw [hcells, length_cells _ hcolumns, hitems]

/-- A full page, and one more photo after it. -/
theorem keepsPlace_two_pages :
    ∃ home after, machine.Run (launch (.collection "317099") 375)
        [.home .viewWillAppear,
          .home (.requestDidComplete 0 ⟨none, (Paging.page gallery 30 0).map some⟩),
          .home .mainQueue, .home .mainQueue, .home .mainQueue, .prepare] home ∧
      machine.Run home [.home (.willDisplay 11),
        .home (.requestDidComplete 1 ⟨none, (Paging.page gallery 30 1).map some⟩),
        .home .mainQueue, .home .mainQueue, .prepare] after ∧
      home.layout.layoutAttributes.length = 30 ∧ after.layout.layoutAttributes.length = 31 ∧
      home.layout.layoutAttributes <+: after.layout.layoutAttributes ∧
      home.layout.frames <+: after.layout.frames := by
  obtain ⟨screen, screen', hscreen, hscreen', hphotos, hitems, hphotos', hitems'⟩ :
      ∃ screen screen', HomeScreen.machine.Run (.launch (.collection "317099"))
          [.viewWillAppear, .requestDidComplete 0 ⟨none, (Paging.page gallery 30 0).map some⟩,
            .mainQueue, .mainQueue, .mainQueue] screen ∧
        HomeScreen.machine.Run screen [.willDisplay 11,
          .requestDidComplete 1 ⟨none, (Paging.page gallery 30 1).map some⟩, .mainQueue,
          .mainQueue] screen' ∧
        screen.view.photos.length = 30 ∧ screen.view.itemCount = 30 ∧
        screen'.view.photos.length = 31 ∧ screen'.view.itemCount = 31 :=
    ⟨_, _, .cons rfl (.cons rfl (.cons rfl (.cons rfl (.cons rfl (.nil _))))),
      .cons rfl (.cons rfl (.cons rfl (.cons rfl (.nil _)))), rfl, rfl, rfl, rfl⟩
  obtain ⟨layout, hprepare, htop, hlength⟩ :=
    prepare_length (by rfl : ({} : WaterfallLayout).topInset = 16) none hphotos hitems (by decide)
  obtain ⟨layout', hprepare', -, hlength'⟩ :=
    prepare_length htop (some 375) hphotos' hitems' (by decide)
  have hrun := (run_home hscreen {} 375 none).append (.cons hprepare (.nil _))
  have hrun' := (run_home hscreen' layout 375 (some 375)).append (.cons hprepare' (.nil _))
  exact ⟨_, _, hrun, hrun', hlength, hlength', keepsPlace hrun hrun' rfl⟩

end HomeLayout

end ImSplash
