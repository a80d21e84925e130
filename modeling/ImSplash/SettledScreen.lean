import ImSplash.ErrorScreen
import Mathlib.Data.List.Induction

/-!
# What the Home screen shows when its blocks have run

The spinner is started and stopped by blocks of the main queue, the error screen is put up at
once and taken away by the block of an update.  What the user sees in the end is what they
leave when all have run: whether the spinner turns, and which error is shown.

It should be what the data source is doing: the spinner for its first page and the error screen
for its error.  There are two ways to miss that.  A request that was cancelled completes as
every request does, and without photos stops the spinner of the one that has replaced it.  And
an error that comes while an update waits is taken away with whatever was shown before it.
-/

namespace ImSplash
open Runs

/-- What lies over the grid: the spinner, and the error screen with its state. -/
structure HomeOverlay where
  spinnerAnimating : Bool
  emptyViewShown : Bool
  emptyViewState : Option EmptyViewState

def HomeViewController.overlay (view : HomeViewController) : HomeOverlay where
  spinnerAnimating := view.spinnerAnimating
  emptyViewShown := view.emptyViewShown
  emptyViewState := view.emptyViewState

/-- The spinner turns after the block. -/
def HomeBlock.isStart : HomeBlock → Bool
  | .startAnimating => true
  | .stopAnimating | .update .. => false

namespace HomeViewController
variable (view : HomeViewController)

/-- The view when the blocks that wait have run. -/
def settled : HomeViewController :=
  view.mainQueue.foldl runBlock { view with mainQueue := [] }

theorem runBlock_overlay (block : HomeBlock) : (view.runBlock block).overlay =
    ⟨block.isStart, view.emptyViewShown && block.update?.isNone, view.emptyViewState⟩ := by
  cases block with
  | startAnimating | stopAnimating => simp [runBlock, overlay, HomeBlock.isStart, HomeBlock.update?]
  | update needInsert newIndexPaths =>
    cases needInsert <;> simp [runBlock, overlay, hideEmptyView, insertItems, reloadData,
      HomeBlock.isStart, HomeBlock.update?]

/-- A block leaves those that wait. -/
theorem runBlock_mainQueue (block : HomeBlock) (blocks : List HomeBlock) :
    { view with mainQueue := blocks }.runBlock block =
      { view.runBlock block with mainQueue := blocks } := by
  cases block with
  | startAnimating | stopAnimating => rfl
  | update needInsert newIndexPaths => cases needInsert <;> rfl

/-- The last block decides about the spinner, and an update takes the error screen away. -/
theorem settled_overlay : view.settled.overlay =
    ⟨(view.mainQueue.getLast?.map HomeBlock.isStart).getD view.spinnerAnimating,
      view.emptyViewShown && view.grid.updates.isEmpty, view.emptyViewState⟩ := by
  have hblocks : ∀ blocks : List HomeBlock,
      (blocks.foldl runBlock { view with mainQueue := [] }).overlay =
        ⟨(blocks.getLast?.map HomeBlock.isStart).getD view.spinnerAnimating,
          view.emptyViewShown && (blocks.filterMap HomeBlock.update?).isEmpty,
          view.emptyViewState⟩ := by
    intro blocks
    induction blocks using List.reverseRecOn with
    | nil => simp [overlay]
    | append_singleton blocks block ih =>
      obtain ⟨-, hshown, hstate⟩ := HomeOverlay.mk.inj ih
      rw [List.foldl_append, List.foldl_cons, List.foldl_nil, runBlock_overlay, hshown, hstate,
        List.filterMap_append]
      cases hupdate : block.update? <;> simp [hupdate]
  exact hblocks view.mainQueue

/-- The spinner is started behind all blocks that wait. -/
theorem showSpinner_settled :
    view.showSpinner.settled = { view.settled with spinnerAnimating := true } := by
  show (view.mainQueue ++ [HomeBlock.startAnimating]).foldl runBlock _ = _
  rw [List.foldl_append]
  rfl

theorem settled_spinnerAnimating : view.settled.spinnerAnimating =
    (view.mainQueue.getLast?.map HomeBlock.isStart).getD view.spinnerAnimating :=
  congrArg HomeOverlay.spinnerAnimating view.settled_overlay

theorem settled_emptyViewShown :
    view.settled.emptyViewShown = (view.emptyViewShown && view.grid.updates.isEmpty) :=
  congrArg HomeOverlay.emptyViewShown view.settled_overlay

theorem settled_emptyViewState : view.settled.emptyViewState = view.emptyViewState :=
  congrArg HomeOverlay.emptyViewState view.settled_overlay

end HomeViewController

/-- The items the completed request brought. -/
def RequestResult.fetched (result : RequestResult) : List UnsplashPhoto :=
  if result.error.isNone then result.photos.getD [] else []

/-- The state in which the interactor has an error shown. -/
def FetchError.emptyViewState (error : FetchError) : EmptyViewState :=
  if error.isNoInternetConnectionError then .noInternetConnection else .serverError

namespace HomeScreen
variable (screen : HomeScreen)

/-- The screen when the main queue has run empty. -/
def settled : HomeScreen := { screen with view := screen.view.settled }

/-- The main queue does run empty, and leaves the settled screen. -/
theorem run_settled : machine.Run screen
    (List.replicate screen.view.mainQueue.length .mainQueue) screen.settled := by
  have hblocks : ∀ (blocks : List HomeBlock) (view : HomeViewController),
      machine.Run { screen with view := { view with mainQueue := blocks } }
        (List.replicate blocks.length .mainQueue)
        ⟨blocks.foldl HomeViewController.runBlock { view with mainQueue := [] },
          screen.dataSource⟩ := by
    intro blocks
    induction blocks with
    | nil => exact fun view => .nil _
    | cons block blocks ih =>
      intro view
      refine .cons rfl ?_
      have hrest := ih (view.runBlock block)
      rw [← HomeViewController.runBlock_mainQueue, ← HomeViewController.runBlock_mainQueue] at hrest
      exact hrest
  exact hblocks screen.view.mainQueue screen.view

/-- The settled screen is true to the data source: the spinner turns while the first page is
fetched, and the error of the data source is shown. -/
structure ShowsDataSource : Prop where
  spinner : screen.settled.view.spinnerAnimating = true ↔
    screen.dataSource.InFlight ∧ screen.view.photos = []
  error : ∀ error, screen.dataSource.error = some error →
    screen.settled.view.emptyViewShown = true ∧
      screen.settled.view.emptyViewState = some error.emptyViewState

/-- A request that completes without photos, when there are none, leaves no other in flight;
and no update waits when an error is shown. -/
structure Timely (event : HomeEvent) : Prop where
  spinner : ∀ request result, event = .requestDidComplete request result →
    screen.view.photos = [] → result.fetched = [] →
      ∀ other operation, screen.dataSource.operationQueue.Running other operation → other = request
  error : screen.ShowsErrorState event → screen.view.grid.updates = []

variable {screen}

/-- The photos of the screen are the items of its data source. -/
theorem photos_eq_items_step {event : HomeEvent} {after : HomeScreen}
    (h : screen.view.photos = screen.dataSource.items)
    (hstep : machine.step screen event = some after) :
    after.view.photos = after.dataSource.items := by
  have hfetch : ∀ issued : HomeScreen, issued.view.photos = issued.dataSource.items →
      issued.fetchNextItems.view.photos = issued.fetchNextItems.dataSource.items := by
    intro issued hissued
    rw [fetchNextItems_photos, hissued, issued.fetchNextItems_cases.1]
    rcases issued.dataSource.fetchNextPage_cases with ⟨-, heq⟩ | ⟨-, -, heq⟩ | ⟨-, -, heq⟩
    all_goals rw [heq]
  cases event with
  | viewWillAppear =>
    obtain rfl := Option.some.inj hstep
    rcases screen.viewWillAppear_cases with heq | ⟨hempty, heq⟩
    · rw [heq, h]
    · rw [heq]
      exact hfetch _ hempty
  | willDisplay item =>
    obtain rfl := Option.some.inj hstep
    rcases screen.willDisplay_cases item with heq | ⟨-, heq⟩
    · rw [heq, h]
    · rw [heq]
      exact hfetch _ h
  | requestDidComplete request result =>
    obtain ⟨called, hcalled, rfl⟩ := Option.map_eq_some_iff.mp hstep
    obtain ⟨operation, -, rfl⟩ := PagedDataSource.requestDidComplete_eq_some.mp hcalled
    rcases PagedDataSource.completionBlock_cases operation result with
      ⟨-, error, heq⟩ | ⟨items, -, -, heq⟩
    · rw [heq, deliver_singleton, receive_dataSource]
      exact (congrArg HomeGrid.photos (receive_grid _ (by simp))).trans h
    · rw [heq, deliver_singleton, receive_dataSource]
      refine (congrArg HomeGrid.photos (receive_didFetch _ items)).trans ?_
      exact congrArg (· ++ items) h
  | mainQueue =>
    obtain ⟨hphotos, hsource⟩ := screen.mainQueue_keeps hstep
    rw [hphotos, hsource, h]

/-! ### What a report leaves -/

/-- A page stops the spinner. -/
theorem receive_didFetch_settled (items : List UnsplashPhoto) :
    (screen.receive (.didFetch items)).settled.view.spinnerAnimating = false := by
  rw [settled, HomeViewController.settled_spinnerAnimating]
  simp [receive, HomeViewController.updateWithResult, HomeBlock.isStart]

/-- An error stops the spinner, and is shown unless an update waits. -/
theorem receive_error_settled (screen : HomeScreen) (error : FetchError) :
    (screen.receive (.fetchDidFailWithError error)).settled.view.spinnerAnimating = false ∧
    ((screen.receive (.fetchDidFailWithError error)).settled.view.emptyViewShown = true ↔
      screen.view.grid.updates = []) ∧
    (screen.receive (.fetchDidFailWithError error)).settled.view.emptyViewState =
      some error.emptyViewState := by
  have hgrid : (screen.receive (.fetchDidFailWithError error)).view.grid = screen.view.grid :=
    receive_grid screen (by simp)
  have hview : (screen.receive (.fetchDidFailWithError error)).view.mainQueue =
        screen.view.mainQueue ++ [.stopAnimating] ∧
      (screen.receive (.fetchDidFailWithError error)).view.emptyViewShown = true ∧
      (screen.receive (.fetchDidFailWithError error)).view.emptyViewState =
        some error.emptyViewState := by
    simp only [receive, HomeViewController.showErrorState, HomeViewController.showEmptyView]
    split
    · rename_i hshown
      exact ⟨rfl, hshown, rfl⟩
    · exact ⟨rfl, rfl, rfl⟩
  obtain ⟨hqueue, hshown, hstate⟩ := hview
  refine ⟨?_, ?_, ?_⟩
  · rw [settled, HomeViewController.settled_spinnerAnimating, hqueue, List.getLast?_concat]
    rfl
  · rw [settled, HomeViewController.settled_emptyViewShown, hshown, hgrid, Bool.true_and,
      List.isEmpty_iff]
  · rw [settled, HomeViewController.settled_emptyViewState, hstate]

/-! ### One event -/

/-- A fetch is true to the data source, but for an error that is shown while an update waits:
it is made for photos that are shown, or by a data source that has just been reset. -/
theorem showsDataSource_fetchNextItems (screen : HomeScreen)
    (h : screen.view.photos = screen.dataSource.items)
    (hspinner : screen.view.photos ≠ [] → screen.settled.view.spinnerAnimating = false)
    (hfirst : screen.view.photos = [] →
      screen.dataSource.isFetching = false ∧ screen.dataSource.canFetchMore = true)
    (herror : ∀ error, screen.dataSource.error = some error →
      screen.settled.view.emptyViewShown = true ∧
        screen.settled.view.emptyViewState = some error.emptyViewState) :
    screen.fetchNextItems.ShowsDataSource ↔
      (screen.dataSource.isFetching = true → screen.view.grid.updates = []) := by
  have hphotos : screen.fetchNextItems.view.photos = screen.view.photos :=
    screen.fetchNextItems_photos
  have hsource := screen.fetchNextItems_cases.1
  rcases screen.dataSource.fetchNextPage_cases with
    ⟨hfetching, heq⟩ | ⟨hidle, hlast, heq⟩ | ⟨hidle, hmore, heq⟩
  · have hsome : screen.view.photos ≠ [] := fun hnil =>
      absurd ((hfirst hnil).1.symm.trans hfetching) Bool.false_ne_true
    have hreceive : screen.fetchNextItems = receive
        { screen with dataSource := { screen.dataSource with error := some .dataSourceIsFetching } }
        (.fetchDidFailWithError .dataSourceIsFetching) := by
      rw [fetchNextItems, heq, deliver_singleton]
    obtain ⟨hstop, hshown, hstate⟩ := receive_error_settled
      { screen with dataSource := { screen.dataSource with error := some .dataSourceIsFetching } }
      .dataSourceIsFetching
    rw [← hreceive] at hstop hshown hstate
    have hreported : screen.fetchNextItems.dataSource.error = some .dataSourceIsFetching := by
      rw [hsource, heq]
    constructor
    · exact fun htrue _ => hshown.mp (htrue.error _ hreported).1
    · intro hupdates
      refine ⟨?_, fun error herror' => ?_⟩
      · rw [hstop, hphotos]
        exact iff_of_false Bool.false_ne_true fun hand => hsome hand.2
      · obtain rfl := Option.some.inj (hreported.symm.trans herror')
        exact ⟨hshown.mpr (hupdates hfetching), hstate⟩
  · -- There are no more photos, so some are shown.
    have hsome : screen.view.photos ≠ [] := fun hnil =>
      absurd (hlast.symm.trans (hfirst hnil).2) Bool.false_ne_true
    refine iff_of_true ⟨?_, fun error herror' => ?_⟩ fun hfetching =>
      absurd (hidle.symm.trans hfetching) Bool.false_ne_true
    · rw [hphotos, fetchNextItems, heq, deliver_singleton, receive_didFetch_settled]
      exact iff_of_false Bool.false_ne_true fun hand => hsome hand.2
    · rw [hsource, heq] at herror'
      cases herror'
  · refine iff_of_true ?_ fun hfetching =>
      absurd (hidle.symm.trans hfetching) Bool.false_ne_true
    have hflight : screen.fetchNextItems.dataSource.InFlight := by
      rw [hsource, heq]
      exact ⟨_, _, TaskTable.running_create.mpr (.inr ⟨rfl, rfl⟩)⟩
    have hsame : screen.fetchNextItems.dataSource.error = screen.dataSource.error := by
      rw [hsource, heq]
    by_cases hitems : screen.dataSource.items = []
    · have hview : screen.fetchNextItems.view = screen.view.showSpinner := by
        rw [fetchNextItems, heq, deliver_singleton]
        simp only [receive, hitems, List.length_nil, if_true]
      have hsettled : screen.fetchNextItems.settled.view =
          { screen.settled.view with spinnerAnimating := true } :=
        (congrArg HomeViewController.settled hview).trans screen.view.showSpinner_settled
      refine ⟨?_, fun error herror' => ?_⟩
      · rw [hsettled]
        exact iff_of_true rfl ⟨hflight, hphotos.trans (h.trans hitems)⟩
      · rw [hsettled]
        exact herror error (hsame ▸ herror')
    · have hview : screen.fetchNextItems.view = screen.view := by
        rw [fetchNextItems, heq, deliver_singleton]
        exact (receive_willStartFetching_view _).mpr hitems
      have hsettled : screen.fetchNextItems.settled.view = screen.settled.view :=
        congrArg HomeViewController.settled hview
      refine ⟨?_, fun error herror' => ?_⟩
      · rw [hsettled, hphotos, h, hspinner (h ▸ hitems)]
        exact iff_of_false Bool.false_ne_true fun hand => hitems hand.2
      · rw [hsettled]
        exact herror error (hsame ▸ herror')

/-- An event that fetches shows an error exactly when a fetch is in progress. -/
theorem showsErrorState_iff_of_issued {event : HomeEvent} {issued : HomeScreen}
    (hcall : screen.dataSourceCall event = some (issued, issued.dataSource.fetchNextPage)) :
    screen.ShowsErrorState event ↔ issued.dataSource.isFetching = true := by
  constructor
  · rintro ⟨_, dataSource, calls, error, hcall', hfails⟩
    obtain ⟨-, hpage⟩ := Prod.mk.inj (Option.some.inj (hcall.symm.trans hcall'))
    rcases issued.dataSource.fetchNextPage_cases with ⟨hfetching, -⟩ | ⟨-, -, heq⟩ | ⟨-, -, heq⟩
    · exact hfetching
    all_goals
      rw [heq] at hpage
      obtain ⟨-, rfl⟩ := Prod.mk.inj hpage
      cases List.mem_singleton.mp hfails
  · intro hfetching
    refine ⟨issued, _, issued.dataSource.fetchNextPage.2, .dataSourceIsFetching, hcall, ?_⟩
    rcases issued.dataSource.fetchNextPage_cases with ⟨-, heq⟩ | ⟨hidle, -⟩ | ⟨hidle, -⟩
    · rw [heq]
      exact List.mem_singleton_self _
    all_goals exact absurd (hidle.symm.trans hfetching) Bool.false_ne_true

/-- A reset data source fetches the first page, and has no error to show. -/
theorem showsDataSource_viewWillAppear (htrue : screen.ShowsDataSource) :
    screen.viewWillAppear.ShowsDataSource ∧ screen.Timely .viewWillAppear := by
  cases hissued : screen.fetchIssued .viewWillAppear with
  | none =>
    rw [viewWillAppear_fetchIssued, hissued]
    refine ⟨htrue, by rintro _ _ ⟨⟩, ?_⟩
    rintro ⟨_, _, _, _, hcall, -⟩
    rw [dataSourceCall, hissued] at hcall
    · cases hcall
    · simp
  | some issued =>
    have hcall : screen.dataSourceCall .viewWillAppear =
        some (issued, issued.dataSource.fetchNextPage) := by
      rw [dataSourceCall, hissued]
      · rfl
      · simp
    rw [viewWillAppear_fetchIssued, hissued]
    simp only [fetchIssued, Option.ite_none_right_eq_some, Bool.and_eq_true,
      List.isEmpty_iff] at hissued
    obtain ⟨⟨hempty, -⟩, hissued⟩ := hissued
    obtain rfl := Option.some.inj hissued
    refine ⟨?_, by rintro _ _ ⟨⟩, fun hshown => ?_⟩
    · exact (showsDataSource_fetchNextItems
        { screen with dataSource := screen.dataSource.reset, view := screen.view.reloadData }
        hempty (fun hsome => absurd hempty hsome) (fun _ => ⟨rfl, rfl⟩)
        (by rintro error ⟨⟩)).mpr (by rintro ⟨⟩)
    · cases (showsErrorState_iff_of_issued hcall).mp hshown

theorem showsDataSource_willDisplay_iff (h : screen.view.photos = screen.dataSource.items)
    (htrue : screen.ShowsDataSource) (item : Nat) :
    (screen.willDisplay item).ShowsDataSource ↔ screen.Timely (.willDisplay item) := by
  by_cases hitem : item + 19 = screen.view.photos.length
  · have hissued : screen.fetchIssued (.willDisplay item) = some screen := if_pos hitem
    have hcall : screen.dataSourceCall (.willDisplay item) =
        some (screen, screen.dataSource.fetchNextPage) := by
      rw [dataSourceCall, hissued]
      · rfl
      · simp
    have hsome : screen.view.photos ≠ [] := by
      intro hnil
      rw [hnil] at hitem
      cases hitem
    rw [willDisplay_fetchIssued, hissued]
    refine (showsDataSource_fetchNextItems screen h (fun _ => ?_) (fun hnil => absurd hnil hsome)
      htrue.error).trans ⟨fun hupdates => ⟨by rintro _ _ ⟨⟩, fun hshown => ?_⟩, ?_⟩
    · exact Bool.eq_false_iff.mpr fun hspins => hsome (htrue.spinner.mp hspins).2
    · exact hupdates ((showsErrorState_iff_of_issued hcall).mp hshown)
    · exact fun htimely hfetching =>
        htimely.error ((showsErrorState_iff_of_issued hcall).mpr hfetching)
  · have hissued : screen.fetchIssued (.willDisplay item) = none := if_neg hitem
    rw [willDisplay_fetchIssued, hissued]
    refine iff_of_true htrue ⟨by rintro _ _ ⟨⟩, ?_⟩
    rintro ⟨_, _, _, _, hcall, -⟩
    rw [dataSourceCall, hissued] at hcall
    · cases hcall
    · simp

/-- The error that is reported is shown, unless an update waits. -/
theorem showsDataSource_receive_error_iff (screen : HomeScreen) {error : FetchError}
    (herror : screen.dataSource.error = some error) :
    (screen.receive (.fetchDidFailWithError error)).ShowsDataSource ↔
      ¬ (screen.dataSource.InFlight ∧ screen.view.photos = []) ∧ screen.view.grid.updates = [] := by
  obtain ⟨hstop, hshown, hstate⟩ := screen.receive_error_settled error
  have hphotos : (screen.receive (.fetchDidFailWithError error)).view.photos =
      screen.view.photos := congrArg HomeGrid.photos (receive_grid screen (by simp))
  have hsource := screen.receive_dataSource (.fetchDidFailWithError error)
  constructor
  · intro htrue
    refine ⟨fun hand => ?_, hshown.mp (htrue.error error (hsource ▸ herror)).1⟩
    have hspins := htrue.spinner.mpr (by rw [hsource, hphotos]; exact hand)
    exact Bool.false_ne_true (hstop.symm.trans hspins)
  · rintro ⟨hnot, hupdates⟩
    refine ⟨?_, fun error' herror' => ?_⟩
    · rw [hstop, hsource, hphotos]
      exact iff_of_false Bool.false_ne_true hnot
    · rw [hsource, herror] at herror'
      obtain rfl := Option.some.inj herror'
      exact ⟨hshown.mpr hupdates, hstate⟩

/-- A page leaves no error. -/
theorem showsDataSource_receive_didFetch_iff (screen : HomeScreen)
    (herror : screen.dataSource.error = none) (items : List UnsplashPhoto) :
    (screen.receive (.didFetch items)).ShowsDataSource ↔
      ¬ (screen.dataSource.InFlight ∧ screen.view.photos ++ items = []) := by
  have hstop : (screen.receive (.didFetch items)).settled.view.spinnerAnimating = false :=
    receive_didFetch_settled items
  have hphotos : (screen.receive (.didFetch items)).view.photos = screen.view.photos ++ items :=
    congrArg HomeGrid.photos (screen.receive_didFetch items)
  have hsource := screen.receive_dataSource (.didFetch items)
  constructor
  · intro htrue hand
    have hspins := htrue.spinner.mpr (by rw [hsource, hphotos]; exact hand)
    exact Bool.false_ne_true (hstop.symm.trans hspins)
  · intro hnot
    refine ⟨?_, fun error herror' => ?_⟩
    · rw [hstop, hsource, hphotos]
      exact iff_of_false Bool.false_ne_true hnot
    · rw [hsource, herror] at herror'
      cases herror'

/-- No request is left in flight for the first photos exactly when the one that has completed
brought some, or was the last. -/
theorem not_inFlight_settle_iff {request : TaskId} {status : TaskStatus}
    (hstatus : status ≠ .running) {dataSource : PagedDataSource}
    (hqueue : dataSource.operationQueue =
      screen.dataSource.operationQueue.settle request status) {photos items : List UnsplashPhoto}
    (hphotos : photos = screen.view.photos ++ items) :
    ¬ (dataSource.InFlight ∧ photos = []) ↔
      (screen.view.photos = [] → items = [] → ∀ other operation,
        screen.dataSource.operationQueue.Running other operation → other = request) := by
  rw [PagedDataSource.InFlight, hqueue, hphotos, List.append_eq_nil_iff]
  constructor
  · intro h hempty hnone other operation hrunning
    by_contra hother
    have hflight := (TaskTable.running_settle hstatus).mpr ⟨hrunning, hother⟩
    exact h ⟨⟨other, operation, hflight⟩, hempty, hnone⟩
  · rintro h ⟨⟨other, operation, hflight⟩, hempty, hnone⟩
    obtain ⟨hrunning, hother⟩ := (TaskTable.running_settle hstatus).mp hflight
    exact hother (h hempty hnone other operation hrunning)

theorem showsDataSource_requestDidComplete_iff {request : TaskId} {result : RequestResult}
    {after : HomeScreen} (hstep : machine.step screen (.requestDidComplete request result) =
      some after) :
    after.ShowsDataSource ↔ screen.Timely (.requestDidComplete request result) := by
  obtain ⟨called, hcalled, rfl⟩ := Option.map_eq_some_iff.mp hstep
  have hcall : screen.dataSourceCall (.requestDidComplete request result) =
      some (screen, called) := Option.map_eq_some_iff.mpr ⟨called, hcalled, rfl⟩
  obtain ⟨operation, -, rfl⟩ := PagedDataSource.requestDidComplete_eq_some.mp hcalled
  have hsettled : (if result.error.isNone then .finished else .failed : TaskStatus) ≠ .running := by
    split <;> decide
  have htimely : screen.Timely (.requestDidComplete request result) ↔
      (screen.view.photos = [] → result.fetched = [] → ∀ other operation,
        screen.dataSource.operationQueue.Running other operation → other = request) ∧
      (screen.ShowsErrorState (.requestDidComplete request result) →
        screen.view.grid.updates = []) := by
    constructor
    · exact fun h => ⟨h.spinner request result rfl, h.error⟩
    · rintro ⟨hspinner, herror⟩
      refine ⟨?_, herror⟩
      rintro _ _ ⟨⟩
      exact hspinner
  rw [htimely]
  rcases PagedDataSource.completionBlock_cases operation result with
    ⟨hno, error, heq⟩ | ⟨items, herror, hphotos, heq⟩
  · have hshows : screen.ShowsErrorState (.requestDidComplete request result) := by
      rw [heq] at hcall
      exact ⟨_, _, _, error, hcall, List.mem_singleton_self _⟩
    have hnone : result.fetched = [] := by
      rw [RequestResult.fetched]
      split
      · rename_i hsuccess
        rw [hno (Option.isNone_iff_eq_none.mp hsuccess), Option.getD_none]
      · rfl
    rw [heq, deliver_singleton, showsDataSource_receive_error_iff _ rfl, hnone]
    refine and_congr ?_ ⟨fun h _ => h, fun h => h hshows⟩
    exact not_inFlight_settle_iff hsettled rfl (List.append_nil _).symm
  · have hshows : ¬ screen.ShowsErrorState (.requestDidComplete request result) := by
      rintro ⟨_, _, _, error, hcall', hfails⟩
      obtain ⟨-, hcalls⟩ := Prod.mk.inj (Option.some.inj (hcall.symm.trans hcall'))
      rw [heq] at hcalls
      obtain ⟨-, rfl⟩ := Prod.mk.inj hcalls
      cases List.mem_singleton.mp hfails
    have hitems : result.fetched = items := by
      rw [RequestResult.fetched, herror, hphotos]
      rfl
    rw [heq, deliver_singleton, showsDataSource_receive_didFetch_iff _ rfl, hitems]
    rw [and_iff_left fun h => absurd h hshows]
    exact not_inFlight_settle_iff hsettled rfl rfl

/-- A block that runs leaves the settled screen as it was. -/
theorem mainQueue_settled {after : HomeScreen}
    (hstep : machine.step screen .mainQueue = some after) : after.settled = screen.settled := by
  obtain ⟨block, rest, hqueue, rfl⟩ := screen.mainQueue_eq_some.mp hstep
  have hview : ({ screen.view with mainQueue := rest }.runBlock block).settled =
      screen.view.settled := by
    rw [HomeViewController.settled, HomeViewController.settled, hqueue]
    cases block with
    | startAnimating | stopAnimating => rfl
    | update needInsert newIndexPaths => cases needInsert <;> rfl
  exact congrArg (HomeScreen.mk · screen.dataSource) hview

/-- **One event** leaves the screen true to the data source exactly when it is timely. -/
theorem showsDataSource_iff {event : HomeEvent} {after : HomeScreen}
    (h : screen.view.photos = screen.dataSource.items) (htrue : screen.ShowsDataSource)
    (hstep : machine.step screen event = some after) :
    after.ShowsDataSource ↔ screen.Timely event := by
  cases event with
  | viewWillAppear =>
    obtain rfl := Option.some.inj hstep
    obtain ⟨hafter, htimely⟩ := showsDataSource_viewWillAppear htrue
    exact iff_of_true hafter htimely
  | willDisplay item =>
    obtain rfl := Option.some.inj hstep
    exact showsDataSource_willDisplay_iff h htrue item
  | requestDidComplete request result => exact showsDataSource_requestDidComplete_iff hstep
  | mainQueue =>
    obtain ⟨hphotos, hsource⟩ := screen.mainQueue_keeps hstep
    refine iff_of_true ⟨?_, ?_⟩ ⟨by rintro _ _ ⟨⟩, ?_⟩
    · rw [mainQueue_settled hstep, hphotos, hsource]
      exact htrue.spinner
    · rw [mainQueue_settled hstep, hsource]
      exact htrue.error
    · rintro ⟨_, _, _, _, ⟨⟩, -⟩

theorem showsDataSource_launch (factory : PhotosDataSourceFactory) :
    (launch factory).ShowsDataSource := by
  refine ⟨iff_of_false Bool.false_ne_true ?_, by rintro _ ⟨⟩⟩
  rintro ⟨⟨_, _, hrunning⟩, -⟩
  cases hrunning

/-- **What the Home screen shows in the end** is what its data source is doing, along every run
of the app, exactly when every event is timely. -/
theorem showsDataSource_along_iff (factory : PhotosDataSourceFactory) (events : List HomeEvent) :
    machine.Along (fun _ _ after => after.ShowsDataSource) (launch factory) events ↔
      machine.Along (fun screen event _ => screen.Timely event) (launch factory) events := by
  have hexact : ∀ screen event after,
      (screen.view.photos = screen.dataSource.items ∧ screen.ShowsDataSource) →
      machine.step screen event = some after →
      (after.ShowsDataSource ↔ screen.Timely event) :=
    fun _ _ _ hgood => showsDataSource_iff hgood.1 hgood.2
  refine Machine.along_iff_of_exact hexact (fun _ _ _ hgood hstep hafter => ?_)
    ⟨rfl, showsDataSource_launch factory⟩ events
  exact ⟨photos_eq_items_step hgood.1 hstep, hafter⟩

/-- The screen appears twice before its first page comes, and the request that was cancelled
stops the spinner of its successor. -/
example : (machine.step (launch (.search "sea")).viewWillAppear.viewWillAppear
      (.requestDidComplete 0 ⟨some ⟨NSError.urlErrorDomain, -999⟩, []⟩)).map
    (fun screen => (screen.settled.view.spinnerAnimating, screen.dataSource.isFetching)) =
      some (false, false) := rfl

end HomeScreen

end ImSplash
