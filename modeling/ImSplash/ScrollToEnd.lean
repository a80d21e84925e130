import ImSplash.ErrorScreen

/-!
# Does scrolling to the end ask for more?

The next page is asked for by the cell nineteen before the end, and by no other.  A page is
longer than that, so the cells of a new page cannot be passed without it; but it is the
photos that tell which cell it is, and a request that fails leaves the photos as they are.
The cells behind the prefetch cell do not ask again.

Beside the screen the model keeps how far its cells have been displayed, and whether a
request has failed in vain since the prefetch cell was last displayed.  No code reads
either.
-/

namespace ImSplash
open Runs

/-- The request failed, or its items are no photos. -/
def RequestResult.failed (result : RequestResult) : Bool :=
  result.error.isSome || result.photos.isNone

namespace PagedDataSource
variable {dataSource : PagedDataSource}

theorem inFlight_iff : dataSource.InFlight ↔
    ∃ task ∈ dataSource.operationQueue.tasks, task.status = .running := by
  constructor
  · rintro ⟨request, operation, hrunning⟩
    exact ⟨_, List.mem_of_getElem? hrunning, rfl⟩
  · rintro ⟨⟨operation, status⟩, hmem, hstatus⟩
    obtain ⟨request, hrequest⟩ := List.mem_iff_getElem?.mp hmem
    obtain rfl : status = .running := hstatus
    exact ⟨request, operation, hrequest⟩

instance : Decidable dataSource.InFlight := decidable_of_iff _ inFlight_iff.symm

/-- Pages have thirty photos, and a data source that says it is fetching is. -/
structure FetchesPages (dataSource : PagedDataSource) : Prop where
  perPage : dataSource.cursor.perPage = 30
  requests : ∀ i request, dataSource.operationQueue.Outstanding i request →
    request.cursor.perPage = 30
  inFlight : dataSource.isFetching = true → dataSource.InFlight

theorem fetchesPages_new (factory : PhotosDataSourceFactory) : (new factory).FetchesPages := by
  refine ⟨initialCursor_perPage factory, ?_, ?_⟩
  · rintro i request ⟨_, hfind, -⟩
    cases hfind
  · intro hfetching
    cases hfetching

theorem FetchesPages.reset (h : dataSource.FetchesPages) : dataSource.reset.FetchesPages := by
  refine ⟨initialCursor_perPage _, ?_, ?_⟩
  · intro i request hi
    exact h.requests i request (TaskTable.outstanding_cancelAll.mp hi)
  · intro hfetching
    cases hfetching

theorem FetchesPages.fetchNextPage (h : dataSource.FetchesPages) :
    dataSource.fetchNextPage.1.FetchesPages ∧
      (dataSource.canFetchMore = true → dataSource.fetchNextPage.1.InFlight) := by
  rcases dataSource.fetchNextPage_cases with
    ⟨hfetching, heq⟩ | ⟨-, hlast, heq⟩ | ⟨-, -, heq⟩
  · rw [heq]
    exact ⟨⟨h.perPage, h.requests, h.inFlight⟩, fun _ => h.inFlight hfetching⟩
  · rw [heq]
    refine ⟨⟨h.perPage, h.requests, h.inFlight⟩, fun hmore => ?_⟩
    exact absurd (hlast.symm.trans hmore) (by decide)
  · -- the new request is in flight
    have hnew : InFlight { dataSource with
        isFetching := true
        operationQueue :=
          dataSource.operationQueue.create (dataSource.factory.request dataSource.cursor) } :=
      ⟨_, _, TaskTable.running_create.mpr (.inr ⟨rfl, rfl⟩)⟩
    rw [heq]
    refine ⟨⟨h.perPage, fun i request hi => ?_, fun _ => hnew⟩, fun _ => hnew⟩
    rcases TaskTable.outstanding_create.mp hi with hold | ⟨-, rfl⟩
    · exact h.requests i request hold
    · rw [request_perPage]
      exact h.perPage

theorem FetchesPages.completionBlock (h : dataSource.FetchesPages) {request : TaskId}
    {operation : UnsplashPagedRequest}
    (houtstanding : dataSource.operationQueue.Outstanding request operation)
    {status : TaskStatus} (hstatus : status.Outstanding = false) (result : RequestResult) :
    ({ dataSource with
      operationQueue := dataSource.operationQueue.settle request status }.completionBlock
        operation result).1.FetchesPages := by
  have hrequests : ∀ i q, (dataSource.operationQueue.settle request status).Outstanding i q →
      q.cursor.perPage = 30 :=
    fun i q hi => h.requests i q ((TaskTable.outstanding_settle hstatus).mp hi).1
  rcases completionBlock_cases operation result with ⟨-, error, heq⟩ | ⟨items, -, -, heq⟩
  · rw [heq]
    refine ⟨h.perPage, hrequests, fun hfetching => ?_⟩
    cases hfetching
  · rw [heq]
    refine ⟨?_, hrequests, fun hfetching => ?_⟩
    · show (if _ then _ else _ : Cursor).perPage = 30
      split
      · exact h.perPage
      · exact h.requests request operation houtstanding
    · cases hfetching

/-- A request that completes brings none in flight. -/
theorem inFlight_of_settle {request : TaskId} {status : TaskStatus}
    (hstatus : status.Outstanding = false) {error : Option FetchError}
    (h : InFlight { dataSource with
      operationQueue := dataSource.operationQueue.settle request status
      isFetching := false
      error := error }) : dataSource.InFlight := by
  have hne : status ≠ .running := by
    rintro rfl
    cases hstatus
  obtain ⟨i, operation, hrunning⟩ := h
  exact ⟨i, operation, ((TaskTable.running_settle hne).mp hrunning).1⟩

end PagedDataSource

namespace HomeScreen
variable {screen : HomeScreen}

theorem willDisplay_of_ne {item : Nat} (h : item + 19 ≠ screen.view.photos.length) :
    screen.willDisplay item = screen := by
  rw [willDisplay_fetchIssued, fetchIssued, if_neg h]

theorem willDisplay_of_eq {item : Nat} (h : item + 19 = screen.view.photos.length) :
    screen.willDisplay item = screen.fetchNextItems := by
  rw [willDisplay_fetchIssued, fetchIssued, if_pos h]

/-- A fetch leaves the photos, and a request is in flight after it unless the last page has
come. -/
theorem fetchNextItems_inFlight (h : screen.dataSource.FetchesPages) :
    screen.fetchNextItems.dataSource.FetchesPages ∧
    screen.fetchNextItems.view.photos = screen.view.photos ∧
    screen.fetchNextItems.dataSource.canFetchMore = screen.dataSource.canFetchMore ∧
    (screen.dataSource.canFetchMore = true → screen.fetchNextItems.dataSource.InFlight) := by
  obtain ⟨hdataSource, hgrid⟩ := screen.fetchNextItems_cases
  rw [hdataSource]
  refine ⟨h.fetchNextPage.1, ?_, PagedDataSource.fetchNextPage_canFetchMore _,
    h.fetchNextPage.2⟩
  rcases hgrid with ⟨-, hgrid⟩ | ⟨-, -, hgrid⟩ | ⟨-, -, hgrid⟩
  · exact congrArg HomeGrid.photos hgrid
  · exact (congrArg HomeGrid.photos hgrid).trans (List.append_nil _)
  · exact congrArg HomeGrid.photos hgrid

end HomeScreen

/-- The screen as it is scrolled. -/
structure HomeScroll where
  screen : HomeScreen
  /-- The cells displayed so far are those below. -/
  displayed : Nat := 0
  /-- The last request in flight has failed since the prefetch cell was last displayed. -/
  stranded : Bool := false

namespace HomeScroll

def launch (factory : PhotosDataSourceFactory) : HomeScroll where
  screen := .launch factory

/-- The Home screen, with cells that are first displayed in the order of their indices. -/
def machine : Machine HomeScroll HomeEvent where
  step scroll
    | .willDisplay item =>
      -- A cell is displayed that the grid has and a photo stands for.
      if item < scroll.screen.view.itemCount ∧ item < scroll.screen.view.photos.length ∧
          item ≤ scroll.displayed then
        some
          { screen := scroll.screen.willDisplay item
            displayed := max scroll.displayed (item + 1)
            stranded := scroll.stranded && item + 19 != scroll.screen.view.photos.length }
      else none
    | .requestDidComplete request result =>
      (HomeScreen.machine.step scroll.screen (.requestDidComplete request result)).map
        fun screen =>
          { scroll with
            screen := screen
            stranded := scroll.stranded || result.failed && !decide screen.dataSource.InFlight }
    | event =>
      (HomeScreen.machine.step scroll.screen event).map fun screen =>
        { scroll with screen := screen }

variable (scroll : HomeScroll)

/-- The last photo is displayed, in a grid that shows them all, and there is more to come. -/
def ReachesEnd (event : HomeEvent) : Prop :=
  ∃ item, event = .willDisplay item ∧ item + 1 = scroll.screen.view.photos.length ∧
    scroll.screen.view.itemCount = scroll.screen.view.photos.length ∧
    scroll.screen.dataSource.canFetchMore = true

/-- Displaying the last photo leaves a request in flight, as long as there is more to come. -/
def AsksForMore (event : HomeEvent) (after : HomeScroll) : Prop :=
  ∀ item, event = .willDisplay item → item + 1 = scroll.screen.view.photos.length →
    scroll.screen.view.itemCount = scroll.screen.view.photos.length →
    after.screen.dataSource.canFetchMore = true → after.screen.dataSource.InFlight

/-- When the end is reached, the last request in flight has not failed since the prefetch
cell was last displayed. -/
def NotStranded (event : HomeEvent) : Prop :=
  scroll.ReachesEnd event → scroll.stranded = false

/-- Behind the prefetch cell a request is in flight unless it has failed. -/
structure Inv : Prop where
  fetchesPages : scroll.screen.dataSource.FetchesPages
  displayed_le : scroll.displayed ≤ scroll.screen.view.photos.length
  answered : scroll.screen.dataSource.canFetchMore = true → scroll.screen.view.photos ≠ [] →
    scroll.screen.view.photos.length < scroll.displayed + 19 →
    (scroll.screen.dataSource.InFlight ↔ scroll.stranded = false)

variable {scroll}

theorem inv_launch (factory : PhotosDataSourceFactory) : (launch factory).Inv :=
  ⟨PagedDataSource.fetchesPages_new factory, Nat.zero_le _, fun _ hphotos => absurd rfl hphotos⟩

/-- A cell that is no prefetch cell changes nothing but how far the cells are displayed, and
is not the first one behind the prefetch cell. -/
theorem Inv.willDisplay_of_ne (h : scroll.Inv) {item : Nat}
    (hitem : item < scroll.screen.view.photos.length) (hdisplayed : item ≤ scroll.displayed)
    (hne : item + 19 ≠ scroll.screen.view.photos.length) :
    Inv { scroll with displayed := max scroll.displayed (item + 1) } := by
  refine ⟨h.fetchesPages, ?_, fun hmore hphotos hbehind => h.answered hmore hphotos ?_⟩
  · have hle := h.displayed_le
    show max scroll.displayed (item + 1) ≤ scroll.screen.view.photos.length
    omega
  · have hbehind : scroll.screen.view.photos.length < max scroll.displayed (item + 1) + 19 :=
      hbehind
    show scroll.screen.view.photos.length < scroll.displayed + 19
    omega

theorem Inv.willDisplay (h : scroll.Inv) {item : Nat}
    (hitem : item < scroll.screen.view.photos.length) (hdisplayed : item ≤ scroll.displayed) :
    Inv
      { screen := scroll.screen.willDisplay item
        displayed := max scroll.displayed (item + 1)
        stranded := scroll.stranded && item + 19 != scroll.screen.view.photos.length } := by
  by_cases hprefetch : item + 19 = scroll.screen.view.photos.length
  · -- the prefetch cell has just asked
    obtain ⟨hpages, hphotos, hmore, hflight⟩ :=
      HomeScreen.fetchNextItems_inFlight h.fetchesPages
    rw [HomeScreen.willDisplay_of_eq hprefetch]
    refine ⟨hpages, ?_, fun hmore' _ _ => ?_⟩
    · have hle := h.displayed_le
      show max scroll.displayed (item + 1) ≤ scroll.screen.fetchNextItems.view.photos.length
      rw [hphotos]
      omega
    · refine iff_of_true (hflight (hmore.symm.trans hmore')) ?_
      simp [hprefetch]
  · have hbne : (item + 19 != scroll.screen.view.photos.length) = true := by
      simpa using hprefetch
    rw [HomeScreen.willDisplay_of_ne hprefetch, hbne, Bool.and_true]
    exact h.willDisplay_of_ne hitem hdisplayed hprefetch

/-- A failure leaves the photos, and brings no request in flight. -/
theorem Inv.requestDidFail (h : scroll.Inv) {screen : HomeScreen} {result : RequestResult}
    (hpages : screen.dataSource.FetchesPages)
    (hphotos : screen.view.photos = scroll.screen.view.photos)
    (hcan : screen.dataSource.canFetchMore = scroll.screen.dataSource.canFetchMore)
    (hflight : screen.dataSource.InFlight → scroll.screen.dataSource.InFlight)
    (hfailed : result.failed = true) :
    Inv
      { scroll with
        screen := screen
        stranded := scroll.stranded || result.failed && !decide screen.dataSource.InFlight } := by
  refine ⟨hpages, ?_, fun hmore hne hbehind => ?_⟩
  · show scroll.displayed ≤ screen.view.photos.length
    rw [hphotos]
    exact h.displayed_le
  · have hanswered := h.answered (hcan.symm.trans hmore) (by rwa [← hphotos])
      (by rwa [← hphotos])
    by_cases hafter : screen.dataSource.InFlight
    · simp [hafter, hanswered.mp (hflight hafter)]
    · simp [hafter, hfailed]

/-- A new page puts the prefetch cell ahead of the cells displayed, unless it is the last. -/
theorem Inv.requestDidSucceed (h : scroll.Inv) {screen : HomeScreen}
    {items : List UnsplashPhoto} (hpages : screen.dataSource.FetchesPages)
    (hphotos : screen.view.photos = scroll.screen.view.photos ++ items)
    (hmore : screen.dataSource.canFetchMore = (scroll.screen.dataSource.canFetchMore &&
      !decide (items.length < scroll.screen.dataSource.cursor.perPage))) (stranded : Bool) :
    Inv { scroll with screen := screen, stranded := stranded } := by
  have hle := h.displayed_le
  have hlength : screen.view.photos.length =
      scroll.screen.view.photos.length + items.length := by
    rw [hphotos, List.length_append]
  refine ⟨hpages, ?_, fun hcan _ hbehind => ?_⟩
  · show scroll.displayed ≤ screen.view.photos.length
    omega
  · have hcan : screen.dataSource.canFetchMore = true := hcan
    have hbehind : screen.view.photos.length < scroll.displayed + 19 := hbehind
    have hlong : ¬ items.length < scroll.screen.dataSource.cursor.perPage := by
      rw [hmore] at hcan
      simpa using (Bool.and_eq_true_iff.mp hcan).2
    have hperPage := h.fetchesPages.perPage
    omega

theorem Inv.requestDidComplete (h : scroll.Inv) {request : TaskId} {result : RequestResult}
    {screen : HomeScreen}
    (hstep : HomeScreen.machine.step scroll.screen (.requestDidComplete request result) =
      some screen) :
    Inv
      { scroll with
        screen := screen
        stranded := scroll.stranded || result.failed && !decide screen.dataSource.InFlight } := by
  obtain ⟨operation, status, houtstanding, hstatus, hdataSource, hcases⟩ :=
    scroll.screen.requestDidComplete_cases hstep
  have hpages : screen.dataSource.FetchesPages := by
    rw [hdataSource]
    exact h.fetchesPages.completionBlock houtstanding hstatus result
  rcases hcases with ⟨hno, ⟨error, hafter⟩, hgrid⟩ | ⟨items, -, -, -, hmore, -, hgrid⟩
  · have hfailed : result.failed = true := by
      unfold RequestResult.failed
      cases herror : result.error with
      | some error => rfl
      | none => simp [hno herror]
    apply h.requestDidFail hpages (congrArg HomeGrid.photos hgrid)
    · rw [hafter]
    · rw [hafter]
      exact PagedDataSource.inFlight_of_settle hstatus
    · exact hfailed
  · exact h.requestDidSucceed hpages (congrArg HomeGrid.photos hgrid) hmore _

/-- **One step keeps the invariant.** -/
theorem Inv.step (h : scroll.Inv) {event : HomeEvent} {after : HomeScroll}
    (hstep : machine.step scroll event = some after) : after.Inv := by
  cases event with
  | willDisplay item =>
    obtain ⟨⟨-, hitem, hdisplayed⟩, heq⟩ := Option.ite_none_right_eq_some.mp hstep
    obtain rfl := Option.some.inj heq
    exact h.willDisplay hitem hdisplayed
  | requestDidComplete request result =>
    obtain ⟨screen, hscreen, rfl⟩ := Option.map_eq_some_iff.mp hstep
    exact h.requestDidComplete hscreen
  | viewWillAppear =>
    obtain rfl := Option.some.inj hstep
    rcases scroll.screen.viewWillAppear_cases with hsame | ⟨hnone, hrefresh⟩
    · rw [hsame]
      exact h
    · obtain ⟨hpages, hphotos, -, -⟩ := @HomeScreen.fetchNextItems_inFlight
        { scroll.screen with
          dataSource := scroll.screen.dataSource.reset
          view := scroll.screen.view.reloadData } h.fetchesPages.reset
      have hempty : scroll.screen.viewWillAppear.view.photos = [] := by
        rw [hrefresh, hphotos]
        exact hnone
      refine ⟨by rw [hrefresh]; exact hpages, ?_, fun _ hne => absurd hempty hne⟩
      have hle := h.displayed_le
      rw [hnone] at hle
      exact Nat.le_trans hle (Nat.zero_le _)
  | mainQueue =>
    obtain ⟨screen, hscreen, rfl⟩ := Option.map_eq_some_iff.mp hstep
    obtain ⟨hphotos, hdataSource⟩ := scroll.screen.mainQueue_keeps hscreen
    refine ⟨?_, ?_, ?_⟩
    · rw [hdataSource]
      exact h.fetchesPages
    · rw [hphotos]
      exact h.displayed_le
    · rw [hphotos, hdataSource]
      exact h.answered

/-- **When the end is reached** there is a request in flight exactly when the last one has
not failed since the prefetch cell. -/
theorem Inv.asksForMore_iff (h : scroll.Inv) {event : HomeEvent} {after : HomeScroll}
    (hstep : machine.step scroll event = some after) :
    scroll.AsksForMore event after ↔ scroll.NotStranded event := by
  cases event with
  | willDisplay item =>
    obtain ⟨⟨-, hitem, hdisplayed⟩, heq⟩ := Option.ite_none_right_eq_some.mp hstep
    obtain rfl := Option.some.inj heq
    by_cases hend : item + 1 = scroll.screen.view.photos.length
    · -- the last cell is behind the prefetch cell and asks for nothing
      have hne : item + 19 ≠ scroll.screen.view.photos.length := by omega
      have hsame : scroll.screen.willDisplay item = scroll.screen :=
        HomeScreen.willDisplay_of_ne hne
      have hnonempty : scroll.screen.view.photos ≠ [] := by
        rw [← List.length_pos_iff]
        omega
      have hbehind : scroll.screen.view.photos.length < max scroll.displayed (item + 1) + 19 := by
        omega
      have hanswered := (h.willDisplay_of_ne hitem hdisplayed hne).answered
      constructor
      · rintro hasks ⟨_, ⟨⟩, -, hgrid, hmore⟩
        have hflight := hasks item rfl hend hgrid (by rw [hsame]; exact hmore)
        rw [hsame] at hflight
        exact (hanswered hmore hnonempty hbehind).mp hflight
      · rintro hstranded _ ⟨⟩ - hgrid hmore
        rw [hsame] at hmore ⊢
        exact (hanswered hmore hnonempty hbehind).mpr
          (hstranded ⟨item, rfl, hend, hgrid, hmore⟩)
    · refine iff_of_true ?_ ?_
      · rintro _ ⟨⟩ hend'
        exact absurd hend' hend
      · rintro ⟨_, ⟨⟩, hend', -⟩
        exact absurd hend' hend
  | viewWillAppear | mainQueue | requestDidComplete =>
    refine iff_of_true ?_ ?_
    · rintro _ ⟨⟩
    · rintro ⟨_, ⟨⟩, -⟩

theorem asksForMore_along_iff_of_inv (h : scroll.Inv) (events : List HomeEvent) :
    machine.Along AsksForMore scroll events ↔
      machine.Along (fun scroll event _ => scroll.NotStranded event) scroll events :=
  Machine.along_iff_of_exact (fun _ _ _ hinv hstep => hinv.asksForMore_iff hstep)
    (fun _ _ _ hinv hstep _ => hinv.step hstep) h events

/-- The event is not the failure of a request. -/
def Succeeds (event : HomeEvent) : Prop :=
  ∀ request result, event = .requestDidComplete request result → result.failed = false

theorem stranded_step {event : HomeEvent} {after : HomeScroll}
    (hstep : machine.step scroll event = some after) (h : scroll.stranded = false)
    (hsucceeds : Succeeds event) : after.stranded = false := by
  cases event with
  | willDisplay item =>
    obtain ⟨-, heq⟩ := Option.ite_none_right_eq_some.mp hstep
    obtain rfl := Option.some.inj heq
    simp [h]
  | requestDidComplete request result =>
    obtain ⟨screen, -, rfl⟩ := Option.map_eq_some_iff.mp hstep
    simp [h, hsucceeds request result rfl]
  | viewWillAppear =>
    obtain rfl := Option.some.inj hstep
    exact h
  | mainQueue =>
    obtain ⟨screen, -, rfl⟩ := Option.map_eq_some_iff.mp hstep
    exact h

/-- Where no request fails the end is never reached without a request: the prefetch cell
cannot be passed. -/
theorem asksForMore_along_of_succeeds (factory : PhotosDataSourceFactory)
    (events : List HomeEvent)
    (hsucceeds : machine.Along (fun _ event _ => Succeeds event) (launch factory) events) :
    machine.Along AsksForMore (launch factory) events := by
  rw [asksForMore_along_iff_of_inv (inv_launch factory)]
  exact Machine.along_of_invariant (fun scroll _ _ (h : scroll.stranded = false) hstep hevent =>
    ⟨stranded_step hstep h hevent, fun _ => h⟩) rfl hsucceeds

/-- **Scrolling to the end asks for more**, along every run of the screen, exactly when each
time the end is reached the last request in flight has not failed since the prefetch cell was
last displayed. -/
theorem asksForMore_along_iff (factory : PhotosDataSourceFactory) (events : List HomeEvent) :
    machine.Along AsksForMore (launch factory) events ↔
      machine.Along (fun scroll event _ => scroll.NotStranded event) (launch factory) events :=
  asksForMore_along_iff_of_inv (inv_launch factory) events

/-- The first page comes, its prefetch cell asks for the second, and that fails. -/
def failedPage : List HomeEvent :=
  [.viewWillAppear, .requestDidComplete 0 ⟨none, List.replicate 30 (some (photoAt "p"))⟩,
    .mainQueue, .mainQueue, .mainQueue] ++ (List.range 12).map .willDisplay ++
  [.requestDidComplete 1 ⟨some ⟨NSError.urlErrorDomain, -1009⟩, []⟩] ++
  (List.range' 12 17).map .willDisplay

/-- The cells behind the prefetch cell do not ask again. -/
theorem failedPage_not_asksForMore : ¬ machine.Along AsksForMore (launch (.collection "317099"))
    (failedPage ++ [.willDisplay 29]) := by
  rw [asksForMore_along_iff_of_inv (inv_launch _)]
  intro h
  have hend := h.last (rfl : failedPage.foldlM machine.step _ = some _) rfl
  exact absurd (hend ⟨29, rfl, rfl, rfl, rfl⟩) (by decide)

end HomeScroll

end ImSplash
