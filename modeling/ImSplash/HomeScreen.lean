import ImSplash.Machine
import ImSplash.PagedDataSource

/-!
# The Home screen

`HomeViewController` shows the photos of one `PagedDataSource`.  What the data source
reports passes through `HomeInteractor` and `HomePresenter` to the view controller in
the same call, which changes `photos` at once and leaves the collection view to a block
on the main queue.  Of the collection view the model keeps the number of items it
knows, which a reload and an insertion change.
-/

namespace ImSplash
open Runs

inductive EmptyViewState
  | noResults
  | noInternetConnection
  | serverError
deriving DecidableEq, Repr

/-- The blocks the view controller queues on the main queue. -/
inductive HomeBlock
  /-- `showSpinner`. -/
  | startAnimating
  /-- `hideSpinner`. -/
  | stopAnimating
  /-- `updateWithResult`. -/
  | update (needInsert : Bool) (newIndexPaths : List Nat)
deriving DecidableEq, Repr

structure HomeViewController where
  photos : List UnsplashPhoto := []
  isFetching : Bool := false
  spinnerAnimating : Bool := false
  emptyViewState : Option EmptyViewState := none
  /-- `emptyView` has a superview. -/
  emptyViewShown : Bool := false
  /-- The items the collection view knows of. -/
  itemCount : Nat := 0
  mainQueue : List HomeBlock := []

namespace HomeViewController
variable (view : HomeViewController)

def showEmptyView (state : EmptyViewState) : HomeViewController :=
  let view := { view with emptyViewState := some state }
  if view.emptyViewShown then view
  else { view with spinnerAnimating := false, emptyViewShown := true }

def hideEmptyView : HomeViewController := { view with emptyViewShown := false }

/-- `collectionView.reloadData()`. -/
def reloadData : HomeViewController := { view with itemCount := view.photos.length }

/-- `collectionView.insertItems(at:)`. -/
def insertItems (indexPaths : List Nat) : HomeViewController :=
  { view with itemCount := view.itemCount + indexPaths.length }

def showSpinner : HomeViewController :=
  { view with mainQueue := view.mainQueue ++ [.startAnimating] }

def hideSpinner : HomeViewController :=
  { view with mainQueue := view.mainQueue ++ [.stopAnimating] }

def updateWithResult (newPhotos : List UnsplashPhoto) : HomeViewController :=
  let currentPhotosCount := view.photos.length
  let photos := view.photos ++ newPhotos
  let newPhotosCount := newPhotos.length
  let startIndex := photos.length - newPhotosCount
  let newIndexPaths := List.range' startIndex newPhotosCount
  -- The page is compared with the photos before it, so the first one is a reload.
  let needInsert := newPhotosCount < currentPhotosCount
  { view with
    isFetching := false
    photos := photos
    mainQueue := view.mainQueue ++ [.update needInsert newIndexPaths] }

def showErrorState (state : EmptyViewState) : HomeViewController :=
  { view with isFetching := false }.showEmptyView state

/-- A block of the main queue. -/
def runBlock : HomeBlock → HomeViewController
  | .startAnimating => { view with spinnerAnimating := true }
  | .stopAnimating => { view with spinnerAnimating := false }
  | .update needInsert newIndexPaths =>
    let view := { view with spinnerAnimating := false }.hideEmptyView
    if needInsert then view.insertItems newIndexPaths else view.reloadData

end HomeViewController

/-- `(error as NSError).isNoInternetConnectionError()`; the errors of the data source
itself have a domain of their own. -/
def FetchError.isNoInternetConnectionError : FetchError → Bool
  | .request error => error.isNoInternetConnectionError
  | .dataSourceIsFetching | .wrongItemsType _ => false

structure HomeScreen where
  view : HomeViewController := {}
  dataSource : PagedDataSource

namespace HomeScreen

/-- The screen as it is loaded. -/
def launch (factory : PhotosDataSourceFactory) : HomeScreen where
  dataSource := .new factory

variable (screen : HomeScreen)

/-- `HomeInteractor` as `PagedDataSourceDelegate`, through `HomePresenter`. -/
def receive : PagedDataSourceDelegate → HomeScreen
  | .dataSourceWillStartFetching =>
    if screen.dataSource.items.length = 0 then { screen with view := screen.view.showSpinner }
    else screen
  | .didFetch items =>
    { screen with view := screen.view.hideSpinner.updateWithResult items }
  | .fetchDidFailWithError error =>
    let state :=
      if error.isNoInternetConnectionError then .noInternetConnection else .serverError
    { screen with view := screen.view.hideSpinner.showErrorState state }

/-- The screen after a call of the data source, which has told its delegate. -/
def deliver (called : PagedDataSource × List PagedDataSourceDelegate) : HomeScreen :=
  called.2.foldl receive { screen with dataSource := called.1 }

def fetchNextItems : HomeScreen := screen.deliver screen.dataSource.fetchNextPage

def refresh : HomeScreen :=
  if screen.view.photos.isEmpty then
    if screen.view.isFetching = false ∧ screen.view.photos.length = 0 then
      fetchNextItems
        { screen with dataSource := screen.dataSource.reset, view := screen.view.reloadData }
    else screen
  else screen

def viewWillAppear : HomeScreen :=
  if screen.view.photos.length = 0 then screen.refresh else screen

/-- `collectionView(_:willDisplay:forItemAt:)`. -/
def willDisplay (item : Nat) : HomeScreen :=
  let prefetchCount : Int := 19
  -- One item alone starts the next fetch, however often it is displayed.
  if (item : Int) = screen.view.photos.length - prefetchCount then screen.fetchNextItems
  else screen

end HomeScreen

inductive HomeEvent
  | viewWillAppear
  | willDisplay (item : Nat)
  /-- A request has completed, with its completion block. -/
  | requestDidComplete (request : TaskId) (result : RequestResult)
  /-- The main queue runs its next block. -/
  | mainQueue

namespace HomeScreen

/-- The Home screen, one event at a time. -/
def machine : Machine HomeScreen HomeEvent where
  step screen
    | .viewWillAppear => some screen.viewWillAppear
    | .willDisplay item => some (screen.willDisplay item)
    | .requestDidComplete request result =>
      (screen.dataSource.requestDidComplete request result).map screen.deliver
    | .mainQueue =>
      match screen.view.mainQueue with
      | [] => none
      | block :: rest =>
        some { screen with view := { screen.view with mainQueue := rest }.runBlock block }

end HomeScreen

/-! ### What an event does to the grid -/

/-- The update of a block, if it is one. -/
def HomeBlock.update? : HomeBlock → Option (Bool × List Nat)
  | .update needInsert newIndexPaths => some (needInsert, newIndexPaths)
  | _ => none

/-- The grid of the screen: its photos, the items the collection view knows, and the
updates that wait on the main queue. -/
structure HomeGrid where
  photos : List UnsplashPhoto
  itemCount : Nat
  updates : List (Bool × List Nat)

def HomeViewController.grid (view : HomeViewController) : HomeGrid where
  photos := view.photos
  itemCount := view.itemCount
  updates := view.mainQueue.filterMap HomeBlock.update?

/-- The grid after a page has been appended and its update queued. -/
def HomeGrid.append (grid : HomeGrid) (items : List UnsplashPhoto) : HomeGrid where
  photos := grid.photos ++ items
  itemCount := grid.itemCount
  updates := grid.updates ++
    [(decide (items.length < grid.photos.length), List.range' grid.photos.length items.length)]

namespace HomeViewController
variable (view : HomeViewController)

@[simp] theorem showSpinner_grid : view.showSpinner.grid = view.grid := by
  simp [showSpinner, grid, HomeBlock.update?]

@[simp] theorem hideSpinner_grid : view.hideSpinner.grid = view.grid := by
  simp [hideSpinner, grid, HomeBlock.update?]

theorem updateWithResult_grid (newPhotos : List UnsplashPhoto) :
    (view.updateWithResult newPhotos).grid = view.grid.append newPhotos := by
  have hstart : (view.photos ++ newPhotos).length - newPhotos.length = view.photos.length := by
    simp
  simp only [updateWithResult, grid, HomeGrid.append, hstart, List.filterMap_append]
  rfl

/-- The error screen lies over the grid. -/
theorem showErrorState_grid (state : EmptyViewState) :
    (view.showErrorState state).grid = view.grid := by
  simp only [showErrorState, showEmptyView]
  cases view.emptyViewShown <;> rfl

/-- A block that is no update leaves the grid. -/
theorem runBlock_grid {block : HomeBlock} (h : block.update? = none) :
    (view.runBlock block).grid = view.grid := by
  cases block with
  | startAnimating | stopAnimating => rfl
  | update => cases h

end HomeViewController

namespace HomeScreen
variable (screen : HomeScreen)

@[simp] theorem receive_dataSource (call : PagedDataSourceDelegate) :
    (screen.receive call).dataSource = screen.dataSource := by
  cases call with
  | dataSourceWillStartFetching =>
    simp only [receive]
    split <;> rfl
  | didFetch | fetchDidFailWithError => rfl

theorem receive_didFetch (items : List UnsplashPhoto) :
    (screen.receive (.didFetch items)).view.grid = screen.view.grid.append items := by
  show (screen.view.hideSpinner.updateWithResult items).grid = _
  rw [HomeViewController.updateWithResult_grid, HomeViewController.hideSpinner_grid]

/-- No other call touches the grid. -/
theorem receive_grid {call : PagedDataSourceDelegate} (h : ∀ items, call ≠ .didFetch items) :
    (screen.receive call).view.grid = screen.view.grid := by
  cases call with
  | dataSourceWillStartFetching =>
    simp only [receive]
    split
    · exact screen.view.showSpinner_grid
    · rfl
  | didFetch items => exact absurd rfl (h items)
  | fetchDidFailWithError error =>
    show (screen.view.hideSpinner.showErrorState _).grid = _
    rw [HomeViewController.showErrorState_grid, HomeViewController.hideSpinner_grid]

theorem deliver_singleton (dataSource : PagedDataSource) (call : PagedDataSourceDelegate) :
    screen.deliver (dataSource, [call]) = receive { screen with dataSource := dataSource } call :=
  rfl

/-- No call of the data source sets `isFetching`. -/
theorem receive_isFetching {screen : HomeScreen} (h : screen.view.isFetching = false)
    (call : PagedDataSourceDelegate) : (screen.receive call).view.isFetching = false := by
  cases call with
  | dataSourceWillStartFetching =>
    simp only [receive]
    split <;> exact h
  | didFetch items => rfl
  | fetchDidFailWithError error =>
    simp only [receive, HomeViewController.showErrorState, HomeViewController.showEmptyView]
    split <;> rfl

theorem deliver_isFetching {screen : HomeScreen} (h : screen.view.isFetching = false)
    (called : PagedDataSource × List PagedDataSourceDelegate) :
    (screen.deliver called).view.isFetching = false := by
  have hcalls : ∀ (calls : List PagedDataSourceDelegate) (screen : HomeScreen),
      screen.view.isFetching = false → (calls.foldl receive screen).view.isFetching = false := by
    intro calls
    induction calls with
    | nil => exact fun _ h => h
    | cons call calls ih => exact fun _ h => ih _ (receive_isFetching h call)
  exact hcalls called.2 _ h

/-- A fetch is refused while one is in flight, appends nothing after the last page, or
makes a request. -/
theorem fetchNextItems_cases :
    screen.fetchNextItems.dataSource = screen.dataSource.fetchNextPage.1 ∧
    ((screen.dataSource.isFetching = true ∧ screen.fetchNextItems.view.grid = screen.view.grid) ∨
      (screen.dataSource.isFetching = false ∧ screen.dataSource.canFetchMore = false ∧
        screen.fetchNextItems.view.grid = screen.view.grid.append []) ∨
      screen.dataSource.isFetching = false ∧ screen.dataSource.canFetchMore = true ∧
        screen.fetchNextItems.view.grid = screen.view.grid) := by
  unfold fetchNextItems
  rcases screen.dataSource.fetchNextPage_cases with
    ⟨hfetching, heq⟩ | ⟨hidle, hmore, heq⟩ | ⟨hidle, hmore, heq⟩
  · rw [heq, deliver_singleton]
    refine ⟨receive_dataSource _ _, Or.inl ⟨hfetching, ?_⟩⟩
    exact receive_grid _ (by simp)
  · rw [heq, deliver_singleton]
    refine ⟨receive_dataSource _ _, Or.inr (Or.inl ⟨hidle, hmore, ?_⟩)⟩
    exact receive_didFetch _ _
  · rw [heq, deliver_singleton]
    refine ⟨receive_dataSource _ _, Or.inr (Or.inr ⟨hidle, hmore, ?_⟩)⟩
    exact receive_grid _ (by simp)

/-- `isFetching` is never set, so the photos alone decide. -/
theorem viewWillAppear_of_empty (hphotos : screen.view.photos = [])
    (hidle : screen.view.isFetching = false) :
    screen.viewWillAppear = fetchNextItems { screen with
      dataSource := screen.dataSource.reset, view := screen.view.reloadData } := by
  simp [viewWillAppear, refresh, hphotos, hidle]

/-- Only a screen without photos is refreshed. -/
theorem viewWillAppear_cases : screen.viewWillAppear = screen ∨
    screen.view.photos = [] ∧ screen.viewWillAppear =
      fetchNextItems { screen with
        dataSource := screen.dataSource.reset, view := screen.view.reloadData } := by
  by_cases hphotos : screen.view.photos = []
  · rcases Bool.eq_false_or_eq_true screen.view.isFetching with hfetching | hidle
    · exact Or.inl (by simp [viewWillAppear, refresh, hphotos, hfetching])
    · exact Or.inr ⟨hphotos, screen.viewWillAppear_of_empty hphotos hidle⟩
  · exact Or.inl (by simp [viewWillAppear, hphotos])

theorem willDisplay_cases (item : Nat) : screen.willDisplay item = screen ∨
    item + 19 = screen.view.photos.length ∧ screen.willDisplay item = screen.fetchNextItems := by
  by_cases h : (item : Int) = screen.view.photos.length - 19
  · exact Or.inr ⟨by omega, by simp only [willDisplay, if_pos h]⟩
  · exact Or.inl (by simp only [willDisplay, if_neg h])

/-- A completion changes the data source as its block does, and the grid by the page it
brought, if it did. -/
theorem requestDidComplete_cases {t : HomeScreen} {request : TaskId} {result : RequestResult}
    (hstep : machine.step screen (.requestDidComplete request result) = some t) :
    ∃ operation status, screen.dataSource.operationQueue.Outstanding request operation ∧
      status.Outstanding = false ∧
      t.dataSource = ({ screen.dataSource with
        operationQueue := screen.dataSource.operationQueue.settle request status }.completionBlock
          operation result).1 ∧
      (((result.error = none → result.photos = none) ∧ (∃ error, t.dataSource =
          { screen.dataSource with
            operationQueue := screen.dataSource.operationQueue.settle request status
            isFetching := false
            error := some error }) ∧ t.view.grid = screen.view.grid) ∨
        ∃ items, result.error = none ∧ result.photos = some items ∧
          t.dataSource.isFetching = false ∧
          t.dataSource.canFetchMore = (screen.dataSource.canFetchMore &&
            !decide (items.length < screen.dataSource.cursor.perPage)) ∧
          t.dataSource.cursor = (if items.length < screen.dataSource.cursor.perPage then
            screen.dataSource.cursor else operation.nextCursor) ∧
          t.view.grid = screen.view.grid.append items) := by
  obtain ⟨completed, hcompleted, rfl⟩ := Option.map_eq_some_iff.mp hstep
  obtain ⟨operation, houtstanding, rfl⟩ := PagedDataSource.requestDidComplete_eq_some.mp hcompleted
  refine ⟨operation, if result.error.isNone then .finished else .failed, houtstanding,
    by split <;> rfl, ?_⟩
  rcases PagedDataSource.completionBlock_cases operation result with
    ⟨hno, error, heq⟩ | ⟨items, herror, hphotos, heq⟩
  · rw [heq, deliver_singleton]
    refine ⟨receive_dataSource _ _, Or.inl ⟨hno, ⟨error, receive_dataSource _ _⟩, ?_⟩⟩
    exact receive_grid _ (by simp)
  · rw [heq, deliver_singleton]
    exact ⟨rfl, Or.inr ⟨items, herror, hphotos, rfl, rfl, rfl, receive_didFetch _ _⟩⟩

/-- The main queue runs its first block. -/
theorem mainQueue_eq_some {t : HomeScreen} :
    machine.step screen .mainQueue = some t ↔ ∃ block rest,
      screen.view.mainQueue = block :: rest ∧
        t = { screen with view := { screen.view with mainQueue := rest }.runBlock block } := by
  simp only [machine]
  cases screen.view.mainQueue with
  | nil => simp
  | cons block rest =>
    constructor
    · intro h
      exact ⟨block, rest, rfl, (Option.some.inj h).symm⟩
    · rintro ⟨_, _, hqueue, rfl⟩
      obtain ⟨rfl, rfl⟩ := List.cons.inj hqueue
      rfl

/-- A block changes neither the photos nor the data source. -/
theorem mainQueue_keeps {t : HomeScreen} (hstep : machine.step screen .mainQueue = some t) :
    t.view.photos = screen.view.photos ∧ t.dataSource = screen.dataSource := by
  obtain ⟨block, rest, -, rfl⟩ := screen.mainQueue_eq_some.mp hstep
  refine ⟨?_, rfl⟩
  cases block with
  | startAnimating | stopAnimating => rfl
  | update needInsert newIndexPaths =>
    show (if needInsert then _ else _ : HomeViewController).photos = _
    cases needInsert <;> rfl

/-- Of the grid a block changes at most what the collection view knows: the first update
that waits is made, and waits no longer. -/
theorem mainQueue_grid {t : HomeScreen} (hstep : machine.step screen .mainQueue = some t) :
    t.view.grid = screen.view.grid ∨ ∃ needInsert newIndexPaths updates,
      screen.view.grid.updates = (needInsert, newIndexPaths) :: updates ∧
      t.view.grid = { screen.view.grid with
        itemCount := if needInsert then screen.view.itemCount + newIndexPaths.length
          else screen.view.photos.length
        updates := updates } := by
  obtain ⟨block, rest, hqueue, rfl⟩ := screen.mainQueue_eq_some.mp hstep
  have hupdates : screen.view.grid.updates = (block :: rest).filterMap HomeBlock.update? :=
    congrArg (List.filterMap HomeBlock.update?) hqueue
  cases block with
  | startAnimating | stopAnimating =>
    refine Or.inl ?_
    rw [HomeViewController.runBlock_grid _ rfl]
    exact congrArg (HomeGrid.mk screen.view.photos screen.view.itemCount) hupdates.symm
  | update needInsert newIndexPaths =>
    refine Or.inr ⟨needInsert, newIndexPaths, _, hupdates, ?_⟩
    cases needInsert <;> rfl

/-- **Nothing sets `isFetching`**: once false it stays so. -/
theorem isFetching_step {event : HomeEvent} {t : HomeScreen} (h : screen.view.isFetching = false)
    (hstep : machine.step screen event = some t) : t.view.isFetching = false := by
  cases event with
  | viewWillAppear =>
    obtain rfl := Option.some.inj hstep
    rcases screen.viewWillAppear_cases with hsame | ⟨-, hrefresh⟩
    · rw [hsame]
      exact h
    · rw [hrefresh]
      exact deliver_isFetching (by exact h) _
  | willDisplay item =>
    obtain rfl := Option.some.inj hstep
    rcases screen.willDisplay_cases item with hsame | ⟨-, hfetch⟩
    · rw [hsame]
      exact h
    · rw [hfetch]
      exact deliver_isFetching h _
  | requestDidComplete request result =>
    obtain ⟨called, -, rfl⟩ := Option.map_eq_some_iff.mp hstep
    exact deliver_isFetching h called
  | mainQueue =>
    obtain ⟨block, rest, -, rfl⟩ := screen.mainQueue_eq_some.mp hstep
    cases block with
    | startAnimating | stopAnimating => exact h
    | update needInsert newIndexPaths => cases needInsert <;> exact h

/-- What a fetch appends at once is at most an empty page. -/
theorem fetchNextItems_photos : screen.fetchNextItems.view.photos = screen.view.photos := by
  obtain ⟨-, ⟨-, hgrid⟩ | ⟨-, -, hgrid⟩ | ⟨-, -, hgrid⟩⟩ := screen.fetchNextItems_cases
  · exact congrArg HomeGrid.photos hgrid
  · exact (congrArg HomeGrid.photos hgrid).trans (List.append_nil _)
  · exact congrArg HomeGrid.photos hgrid

/-- **The photos only grow**: a page goes behind those that are there. -/
theorem photos_step {event : HomeEvent} {t : HomeScreen}
    (hstep : machine.step screen event = some t) : screen.view.photos <+: t.view.photos := by
  have hsame : t.view.photos = screen.view.photos → screen.view.photos <+: t.view.photos :=
    fun heq => ⟨[], (List.append_nil _).trans heq.symm⟩
  cases event with
  | viewWillAppear =>
    obtain rfl := Option.some.inj hstep
    rcases screen.viewWillAppear_cases with heq | ⟨hempty, -⟩
    · exact hsame (congrArg (·.view.photos) heq)
    · rw [hempty]
      exact List.nil_prefix
  | willDisplay item =>
    obtain rfl := Option.some.inj hstep
    rcases screen.willDisplay_cases item with heq | ⟨-, hfetch⟩
    · exact hsame (congrArg (·.view.photos) heq)
    · exact hsame ((congrArg (·.view.photos) hfetch).trans screen.fetchNextItems_photos)
  | requestDidComplete request result =>
    obtain ⟨_, _, -, -, -, ⟨-, -, hgrid⟩ | ⟨items, -, -, -, -, -, hgrid⟩⟩ :=
      requestDidComplete_cases screen hstep
    · exact hsame (congrArg HomeGrid.photos hgrid)
    · exact ⟨items, (congrArg HomeGrid.photos hgrid).symm⟩
  | mainQueue => exact hsame (screen.mainQueue_keeps hstep).1

end HomeScreen

end ImSplash
