import ImSplash.HomeScreen
import ImSplash.Paging

/-!
# Is the Home grid a prefix of the collection?

The server answers page `k` of a fixed list.  With one request at a time the pages
arrive in order and none twice, so the photos on the screen are a prefix of the list.
`refresh` decides by `photos` alone: an appearance of the screen before the first page
has come resets the data source under a request in flight and asks for the first page
again, and both answers are appended.
-/

namespace ImSplash
open Runs

namespace PagedDataSource
variable {dataSource : PagedDataSource}

/-- No request was cancelled while it was in flight. -/
def NoneStale (dataSource : PagedDataSource) : Prop := ∀ request, ¬ dataSource.Stale request

theorem NoneStale.reset (h : dataSource.NoneStale) (hquiet : dataSource.operationQueue.Quiet) :
    dataSource.reset.NoneStale := by
  rintro request ⟨operation, hfind, hcancelled⟩
  have hfind : (dataSource.operationQueue.find? request).map TaskTable.stop = some operation :=
    (TaskTable.find?_cancelAll request).symm.trans hfind
  obtain ⟨old, hold, rfl⟩ := Option.map_eq_some_iff.mp hfind
  by_cases hrunning : old.status = .running
  · exact hquiet request old.request ⟨old, hold, rfl, by rw [hrunning]; rfl⟩
  · rw [TaskTable.stop, if_neg hrunning] at hcancelled
    exact h request ⟨old, hold, hcancelled⟩

theorem NoneStale.fetchNextPage (h : dataSource.NoneStale) :
    dataSource.fetchNextPage.1.NoneStale := by
  rcases dataSource.fetchNextPage_cases with ⟨-, heq⟩ | ⟨-, -, heq⟩ | ⟨-, -, heq⟩
  · rw [heq]
    exact h
  · rw [heq]
    exact h
  · rw [heq]
    rintro request ⟨operation, hfind, hcancelled⟩
    have hfind := (TaskTable.find?_create _ request).symm.trans hfind
    split at hfind
    · obtain rfl := Option.some.inj hfind
      cases hcancelled
    · exact h request ⟨operation, hfind, hcancelled⟩

theorem NoneStale.settle (h : dataSource.NoneStale) {request : TaskId} {status : TaskStatus}
    (hstatus : status.Outstanding = false) {after : PagedDataSource}
    (hqueue : after.operationQueue = dataSource.operationQueue.settle request status) :
    after.NoneStale := by
  rintro i ⟨operation, hfind, hcancelled⟩
  rw [hqueue, TaskTable.find?_settle] at hfind
  split at hfind
  · obtain ⟨old, -, rfl⟩ := Option.map_eq_some_iff.mp hfind
    obtain rfl : status = .cancelled := hcancelled
    cases hstatus
  · exact h i ⟨operation, hfind, hcancelled⟩

end PagedDataSource

/-- What the screen has been served of `L`: the pages before the one the cursor is at,
or all of it. -/
structure ServedPrefix (L photos : List UnsplashPhoto) (dataSource : PagedDataSource) : Prop where
  oneRequest : dataSource.OneRequest
  noneStale : dataSource.NoneStale
  more : dataSource.isFetching = true → dataSource.canFetchMore = true
  pages : ∃ k, dataSource.cursor.page = k + 1 ∧
    if dataSource.canFetchMore then photos = L.take (k * 30) else photos = L

namespace ServedPrefix
variable {L photos : List UnsplashPhoto} {dataSource : PagedDataSource}

theorem isPrefix (h : ServedPrefix L photos dataSource) : photos <+: L := by
  obtain ⟨k, -, hphotos⟩ := h.pages
  split at hphotos
  · rw [hphotos]
    exact List.take_prefix _ _
  · obtain rfl := hphotos
    exact List.prefix_rfl

theorem reset (hstale : dataSource.NoneStale) (hquiet : dataSource.operationQueue.Quiet) :
    ServedPrefix L [] dataSource.reset := by
  refine ⟨.reset hquiet, hstale.reset hquiet, fun hfetching => ?_, 0, ?_, ?_⟩
  · cases hfetching
  · exact PagedDataSource.initialCursor_page dataSource.factory
  · have hmore : dataSource.reset.canFetchMore = true := rfl
    rw [if_pos hmore, Nat.zero_mul, List.take_zero]

theorem fetchNextPage (h : ServedPrefix L photos dataSource) :
    ServedPrefix L photos dataSource.fetchNextPage.1 := by
  refine ⟨h.oneRequest.fetchNextPage, h.noneStale.fetchNextPage, ?_, ?_⟩
  · rcases dataSource.fetchNextPage_cases with ⟨-, heq⟩ | ⟨hidle, -, heq⟩ | ⟨-, hmore, heq⟩
    · rw [heq]
      exact h.more
    · rw [heq]
      exact fun hfetching => h.more hfetching
    · rw [heq]
      exact fun _ => hmore
  · rcases dataSource.fetchNextPage_cases with ⟨-, heq⟩ | ⟨-, -, heq⟩ | ⟨-, -, heq⟩
    all_goals
      rw [heq]
      exact h.pages

/-- A failed request leaves the screen where it was. -/
theorem failed (h : ServedPrefix L photos dataSource) {request : TaskId}
    {operation : UnsplashPagedRequest}
    (houtstanding : dataSource.operationQueue.Outstanding request operation)
    {status : TaskStatus} (hstatus : status.Outstanding = false) (error : FetchError) :
    ServedPrefix L photos { dataSource with
      operationQueue := dataSource.operationQueue.settle request status
      isFetching := false
      error := some error } := by
  refine ⟨.of_quiet (h.oneRequest.quiet_settle houtstanding hstatus) h.oneRequest.perPage.1,
    h.noneStale.settle hstatus rfl, fun hfetching => ?_, h.pages⟩
  cases hfetching

/-- The page the request in flight was made for continues what is on the screen. -/
theorem paged (h : ServedPrefix L photos dataSource) {request : TaskId}
    {operation : UnsplashPagedRequest}
    (houtstanding : dataSource.operationQueue.Outstanding request operation)
    {after : PagedDataSource} (hone : after.OneRequest) (hstale : after.NoneStale)
    (hidle : after.isFetching = false) {items : List UnsplashPhoto}
    (hitems : items = Paging.page L 30 (operation.cursor.page - 1))
    (hmore : after.canFetchMore = (dataSource.canFetchMore &&
      !decide (items.length < dataSource.cursor.perPage)))
    (hcursor : after.cursor = if items.length < dataSource.cursor.perPage then
      dataSource.cursor else operation.nextCursor) :
    ServedPrefix L (photos ++ items) after := by
  obtain ⟨k, hpage, hphotos⟩ := h.pages
  have hfetching := h.more (h.oneRequest.isFetching houtstanding)
  rw [if_pos hfetching] at hphotos
  have hcurrent := h.oneRequest.cursor request operation houtstanding
  rw [h.oneRequest.perPage.1] at hmore hcursor
  rw [hcurrent, hpage, Nat.add_sub_cancel] at hitems
  refine ⟨hone, hstale, fun hbusy => ?_, ?_⟩
  · rw [hidle] at hbusy
    cases hbusy
  · by_cases hshort : items.length < 30
    · -- The last page: the cursor stays, and the list is complete.
      refine ⟨k, by rw [hcursor, if_pos hshort, hpage], ?_⟩
      have hdone : after.canFetchMore = false := by simp [hmore, hshort]
      rw [if_neg (by simp [hdone]), hphotos, hitems]
      exact Paging.take_append_page_of_short (hitems ▸ hshort)
    · -- A full page: the cursor moves on to the next one.
      refine ⟨k + 1, ?_, ?_⟩
      · rw [hcursor, if_neg hshort]
        show operation.cursor.page + 1 = _
        rw [hcurrent, hpage]
      · have hgoesOn : after.canFetchMore = true := by simp [hmore, hshort, hfetching]
        rw [if_pos hgoesOn, hphotos, hitems]
        exact Paging.take_append_page L 30 k

end ServedPrefix

namespace HomeScreen

/-- The server answers page `k` from the list `L`, or the request fails; a request that
was cancelled may also complete with nothing. -/
def ServedFrom (L : List UnsplashPhoto) (screen : HomeScreen) (event : HomeEvent) : Prop :=
  ∀ request result operation, event = .requestDidComplete request result →
    screen.dataSource.operationQueue.Outstanding request operation →
      result.error ≠ none ∨
      result.items = (Paging.page L 30 (operation.cursor.page - 1)).map some ∨
      screen.dataSource.Stale request ∧ result.items = []

/-- A screen without photos appears with no request in flight. -/
def AppearsIdle (screen : HomeScreen) (event : HomeEvent) : Prop :=
  event = .viewWillAppear → screen.view.photos = [] → screen.dataSource.operationQueue.Quiet

/-- The photos on the screen are a prefix of `L`, and none is there twice. -/
def ShowsPrefix (L : List UnsplashPhoto) (screen : HomeScreen) : Prop :=
  screen.view.photos <+: L ∧ (L.Nodup → screen.view.photos.Nodup)

variable {L : List UnsplashPhoto} {screen after : HomeScreen}

/-- The invariant, of the screen. -/
def Served (L : List UnsplashPhoto) (screen : HomeScreen) : Prop :=
  ServedPrefix L screen.view.photos screen.dataSource

theorem Served.showsPrefix (h : screen.Served L) : screen.ShowsPrefix L :=
  ⟨h.isPrefix, fun hnodup => h.isPrefix.sublist.nodup hnodup⟩

theorem served_launch (L : List UnsplashPhoto) (factory : PhotosDataSourceFactory) :
    (launch factory).Served L := by
  refine ⟨PagedDataSource.oneRequest_new factory, ?_, fun hfetching => ?_, 0, ?_, ?_⟩
  · rintro request ⟨_, hfind, -⟩
    cases hfind
  · cases hfetching
  · exact PagedDataSource.initialCursor_page factory
  · have hmore : (launch factory).dataSource.canFetchMore = true := rfl
    rw [if_pos hmore, Nat.zero_mul, List.take_zero]
    rfl

theorem Served.fetchNextItems (h : screen.Served L) : screen.fetchNextItems.Served L := by
  obtain ⟨hdataSource, hgrid⟩ := screen.fetchNextItems_cases
  have hphotos : screen.fetchNextItems.view.photos = screen.view.photos := by
    rcases hgrid with ⟨-, heq⟩ | ⟨-, -, heq⟩ | ⟨-, -, heq⟩
    · exact congrArg HomeGrid.photos heq
    · exact (congrArg HomeGrid.photos heq).trans (List.append_nil _)
    · exact congrArg HomeGrid.photos heq
  rw [Served, hdataSource, hphotos]
  exact ServedPrefix.fetchNextPage h

theorem Served.requestDidComplete (h : screen.Served L) {request : TaskId}
    {result : RequestResult}
    (hstep : machine.step screen (.requestDidComplete request result) = some after)
    (hserved : screen.ServedFrom L (.requestDidComplete request result)) : after.Served L := by
  obtain ⟨operation, status, houtstanding, hstatus, hdataSource, hresult⟩ :=
    screen.requestDidComplete_cases hstep
  rcases hresult with ⟨-, ⟨error, hfailed⟩, hgrid⟩ |
    ⟨items, herror, hphotos, hidle, hmore, hcursor, hgrid⟩
  · have hkept : after.view.photos = screen.view.photos := congrArg HomeGrid.photos hgrid
    rw [Served, hkept, hfailed]
    exact h.failed houtstanding hstatus error
  · have happended : after.view.photos = screen.view.photos ++ items :=
      congrArg HomeGrid.photos hgrid
    have hitems : items = Paging.page L 30 (operation.cursor.page - 1) := by
      rcases hserved request result operation rfl houtstanding with hfail | hpage | ⟨hstale, -⟩
      · exact absurd herror hfail
      · obtain ⟨error, served⟩ := result
        obtain rfl : served = _ := hpage
        rw [RequestResult.photos_map_some] at hphotos
        exact (Option.some.inj hphotos).symm
      · exact absurd hstale (h.noneStale request)
    rw [Served, happended]
    refine h.paged houtstanding ?_ ?_ hidle hitems hmore hcursor
    · rw [hdataSource]
      exact h.oneRequest.completionBlock houtstanding hstatus result
    · rw [hdataSource]
      exact h.noneStale.settle hstatus (PagedDataSource.completionBlock_operationQueue _ _)

/-- The steps of a screen that appears idle keep what it shows to what it was served. -/
theorem served_step {event : HomeEvent} (h : screen.Served L)
    (hstep : machine.step screen event = some after) (hserved : screen.ServedFrom L event)
    (hidle : screen.AppearsIdle event) : after.Served L := by
  cases event with
  | viewWillAppear =>
    obtain rfl := Option.some.inj hstep
    rcases screen.viewWillAppear_cases with hsame | ⟨hphotos, hrefresh⟩
    · rw [hsame]
      exact h
    · -- Starting over is safe: nothing that was asked for is still to come.
      rw [hrefresh]
      apply Served.fetchNextItems
      show ServedPrefix L screen.view.photos screen.dataSource.reset
      rw [hphotos]
      exact .reset h.noneStale (hidle rfl hphotos)
  | willDisplay item =>
    obtain rfl := Option.some.inj hstep
    rcases screen.willDisplay_cases item with hsame | ⟨-, hfetch⟩
    · rw [hsame]
      exact h
    · rw [hfetch]
      exact h.fetchNextItems
  | requestDidComplete request result => exact h.requestDidComplete hstep hserved
  | mainQueue =>
    obtain ⟨hphotos, hdataSource⟩ := screen.mainQueue_keeps hstep
    rw [Served, hphotos, hdataSource]
    exact h

/-- **The Home grid is a prefix of the collection**, along every run from launch in which
the server answers from the list and the screen, while it has no photos, appears only
with no request in flight. -/
theorem showsPrefix_along (L : List UnsplashPhoto) (factory : PhotosDataSourceFactory)
    (events : List HomeEvent)
    (hserved : machine.Along (fun screen event _ => screen.ServedFrom L event)
      (launch factory) events)
    (hidle : machine.Along (fun screen event _ => screen.AppearsIdle event)
      (launch factory) events) :
    machine.Along (fun _ _ after => after.ShowsPrefix L) (launch factory) events := by
  have hkeeps : ∀ screen event after, Served L screen → machine.step screen event = some after →
      screen.ServedFrom L event ∧ screen.AppearsIdle event →
        after.Served L ∧ after.ShowsPrefix L := by
    intro screen event after h hstep ⟨hserved, hidle⟩
    have hafter := served_step h hstep hserved hidle
    exact ⟨hafter, hafter.showsPrefix⟩
  exact Machine.along_of_invariant hkeeps (served_launch L factory) (hserved.and hidle)

/-- A request for a page that brings it is served from the list. -/
theorem servedFrom_page {k : Nat} {request : TaskId}
    (hasked : ∀ operation, screen.dataSource.operationQueue.Outstanding request operation →
      operation.cursor.page = k + 1) :
    screen.ServedFrom L
      (.requestDidComplete request ⟨none, (Paging.page L 30 k).map some⟩) := by
  rintro _ _ operation ⟨⟩ houtstanding
  refine Or.inr (Or.inl ?_)
  rw [hasked operation houtstanding, Nat.add_sub_cancel]

theorem servedFrom_of_ne {event : HomeEvent}
    (h : ∀ request result, event ≠ .requestDidComplete request result) :
    screen.ServedFrom L event :=
  fun request result _ hevent => absurd hevent (h request result)

theorem appearsIdle_of_ne {event : HomeEvent} (h : event ≠ .viewWillAppear) :
    screen.AppearsIdle event :=
  fun hevent => absurd hevent h

/-- The first request fails.  The screen appears again, gets both pages and appears once more. -/
def twoPages : List HomeEvent :=
  [.viewWillAppear, .requestDidComplete 0 ⟨some ⟨"NSURLErrorDomain", -1001⟩, []⟩,
    .viewWillAppear, .requestDidComplete 1 ⟨none, (Paging.page gallery 30 0).map some⟩,
    .willDisplay 11, .requestDidComplete 2 ⟨none, (Paging.page gallery 30 1).map some⟩,
    .viewWillAppear]

/-- It ends with all the photos. -/
theorem showsPrefix_along_twoPages :
    (∃ screen, machine.Run (launch (.collection "317099")) twoPages screen ∧
      screen.view.photos = gallery) ∧
    machine.Along (fun _ _ after => after.ShowsPrefix gallery) (launch (.collection "317099"))
      twoPages := by
  refine ⟨⟨_, .cons rfl (.cons rfl (.cons rfl (.cons rfl (.cons rfl (.cons rfl (.cons rfl
    (.nil _))))))), rfl⟩, showsPrefix_along _ _ _ ?_ ?_⟩
  · refine (Machine.along_cons rfl).mpr ⟨servedFrom_of_ne (by simp), ?_⟩
    refine (Machine.along_cons rfl).mpr ⟨?_, ?_⟩
    · rintro _ _ _ ⟨⟩ -
      exact Or.inl (by simp)
    refine (Machine.along_cons rfl).mpr ⟨servedFrom_of_ne (by simp), ?_⟩
    refine (Machine.along_cons rfl).mpr ⟨servedFrom_page ?_, ?_⟩
    · rintro _ ⟨_, ⟨⟩, rfl, -⟩
      rfl
    refine (Machine.along_cons rfl).mpr ⟨servedFrom_of_ne (by simp), ?_⟩
    refine (Machine.along_cons rfl).mpr ⟨servedFrom_page ?_, ?_⟩
    · rintro _ ⟨_, ⟨⟩, rfl, -⟩
      rfl
    exact (Machine.along_cons rfl).mpr ⟨servedFrom_of_ne (by simp), trivial⟩
  · refine (Machine.along_cons rfl).mpr ⟨fun _ _ => ?_, ?_⟩
    · rintro _ _ ⟨_, ⟨⟩, -⟩
    refine (Machine.along_cons rfl).mpr ⟨appearsIdle_of_ne (by simp), ?_⟩
    -- The request that failed is no longer in flight.
    refine (Machine.along_cons rfl).mpr ⟨fun _ _ => ?_, ?_⟩
    · rintro request _ ⟨_, hfind, -, houtstanding⟩
      cases request with
      | zero =>
        obtain rfl := Option.some.inj hfind
        cases houtstanding
      | succ request => cases hfind
    refine (Machine.along_cons rfl).mpr ⟨appearsIdle_of_ne (by simp), ?_⟩
    refine (Machine.along_cons rfl).mpr ⟨appearsIdle_of_ne (by simp), ?_⟩
    refine (Machine.along_cons rfl).mpr ⟨appearsIdle_of_ne (by simp), ?_⟩
    refine (Machine.along_cons rfl).mpr ⟨fun _ hnone => ?_, trivial⟩
    cases hnone

/-- The screen appears again before the first page has come: both requests are answered,
and the page is on the screen twice. -/
theorem second_appearance_doubles_page :
    ∃ events, machine.Along (fun screen event _ => screen.ServedFrom [photoAt "p"] event)
        (launch (.collection "317099")) events ∧
      ¬ machine.Along (fun _ _ after => after.ShowsPrefix [photoAt "p"])
        (launch (.collection "317099")) events := by
  refine ⟨[.viewWillAppear, .viewWillAppear,
    .requestDidComplete 0 ⟨none, [some (photoAt "p")]⟩,
    .requestDidComplete 1 ⟨none, [some (photoAt "p")]⟩], ?_, ?_⟩
  · rintro _ ⟨⟩
    refine ⟨fun _ _ _ hevent => (by cases hevent), ?_⟩
    rintro _ ⟨⟩
    refine ⟨fun _ _ _ hevent => (by cases hevent), ?_⟩
    rintro _ ⟨⟩
    refine ⟨servedFrom_page (k := 0) ?_, ?_⟩
    · rintro _ ⟨_, ⟨⟩, rfl, -⟩
      rfl
    · rintro _ ⟨⟩
      refine ⟨servedFrom_page (k := 0) ?_, trivial⟩
      rintro _ ⟨_, ⟨⟩, rfl, -⟩
      rfl
  · intro h
    have hdoubled := ((((h _ rfl).2 _ rfl).2 _ rfl).2 _ rfl).1.1
    exact absurd hdoubled.length_le (by decide)

/-! ### Outside the condition -/

/-- A request that brings a page appends it, and leaves the others in flight. -/
theorem requestDidComplete_page {request : TaskId} {operation : UnsplashPagedRequest}
    (houtstanding : screen.dataSource.operationQueue.Outstanding request operation)
    (photos : List UnsplashPhoto) :
    ∃ t, machine.step screen (.requestDidComplete request ⟨none, photos.map some⟩) = some t ∧
      t.view.photos = screen.view.photos ++ photos ∧
      ∀ i operation', t.dataSource.operationQueue.Outstanding i operation' ↔
        screen.dataSource.operationQueue.Outstanding i operation' ∧ i ≠ request := by
  obtain ⟨t, hstep⟩ : ∃ t,
      machine.step screen (.requestDidComplete request ⟨none, photos.map some⟩) = some t :=
    ⟨_, Option.map_eq_some_iff.mpr
      ⟨_, PagedDataSource.requestDidComplete_eq_some.mpr ⟨operation, houtstanding, rfl⟩, rfl⟩⟩
  obtain ⟨operation, status, -, hstatus, hdataSource, hresult⟩ :=
    screen.requestDidComplete_cases hstep
  refine ⟨t, hstep, ?_, fun i operation' => ?_⟩
  · rcases hresult with ⟨hno, -⟩ | ⟨items, -, hitems, -, -, -, hgrid⟩
    · have hnone := hno rfl
      rw [RequestResult.photos_map_some] at hnone
      cases hnone
    · rw [RequestResult.photos_map_some] at hitems
      obtain rfl := Option.some.inj hitems
      exact congrArg HomeGrid.photos hgrid
  · rw [hdataSource, PagedDataSource.completionBlock_operationQueue]
    exact TaskTable.outstanding_settle hstatus

/-- A screen without photos that appears asks for the first page, whatever is in flight. -/
theorem viewWillAppear_requests (hphotos : screen.view.photos = [])
    (hidle : screen.view.isFetching = false) :
    screen.viewWillAppear.view.photos = [] ∧ ∀ i operation,
      screen.viewWillAppear.dataSource.operationQueue.Outstanding i operation ↔
        screen.dataSource.operationQueue.Outstanding i operation ∨
          i = screen.dataSource.operationQueue.nextId ∧
            operation = screen.dataSource.factory.request
              screen.dataSource.factory.initialCursor := by
  rw [screen.viewWillAppear_of_empty hphotos hidle]
  have hready : screen.dataSource.reset.fetchNextPage = _ :=
    PagedDataSource.fetchNextPage_of_ready (by rfl) (by rfl)
  obtain ⟨hdataSource, hgrid⟩ := HomeScreen.fetchNextItems_cases { screen with
    dataSource := screen.dataSource.reset, view := screen.view.reloadData }
  refine ⟨?_, fun i operation => ?_⟩
  · rcases hgrid with ⟨hbusy, -⟩ | ⟨-, hlast, -⟩ | ⟨-, -, hgrid⟩
    · cases hbusy
    · cases hlast
    · exact (congrArg HomeGrid.photos hgrid).trans hphotos
  · rw [hdataSource, hready]
    refine TaskTable.outstanding_create.trans (or_congr TaskTable.outstanding_cancelAll ?_)
    rw [PagedDataSource.reset, TaskTable.nextId_cancelAll]

/-- When both answers come, the first page is on the screen twice. -/
theorem Served.appearance_doubles_page (h : screen.Served L)
    (hidle : screen.view.isFetching = false) (hphotos : screen.view.photos = [])
    {request : TaskId} {operation : UnsplashPagedRequest}
    (houtstanding : screen.dataSource.operationQueue.Outstanding request operation)
    (hnodup : L.Nodup) (hL : L ≠ []) :
    ∃ events, machine.Along (fun screen event _ => screen.ServedFrom L event)
        screen (.viewWillAppear :: events) ∧
      ¬ machine.Along (fun _ _ after => after.ShowsPrefix L)
        screen (.viewWillAppear :: events) := by
  obtain ⟨k, hpage, hserved⟩ := h.pages
  rw [if_pos (h.more (h.oneRequest.isFetching houtstanding)), hphotos] at hserved
  have hk : k = 0 := by
    rcases List.take_eq_nil_iff.mp hserved.symm with hzero | hnil
    · omega
    · exact absurd hnil hL
  obtain ⟨hempty, hrequests⟩ := viewWillAppear_requests hphotos hidle
  -- Both requests are for the first page.
  have hfirst : ∀ i operation,
      screen.viewWillAppear.dataSource.operationQueue.Outstanding i operation →
        operation.cursor.page = 1 := by
    intro i operation hi
    rcases (hrequests i operation).mp hi with hi | ⟨-, rfl⟩
    · rw [h.oneRequest.cursor i operation hi, hpage, hk]
    · rw [PagedDataSource.request_page, PagedDataSource.initialCursor_page]
  obtain ⟨t, ht, htphotos, htrequests⟩ :=
    requestDidComplete_page ((hrequests _ _).mpr (Or.inl houtstanding)) (Paging.page L 30 0)
  have hnew : screen.dataSource.operationQueue.nextId ≠ request :=
    (Nat.ne_of_lt houtstanding.lt_nextId).symm
  obtain ⟨u, hu, huphotos, -⟩ := requestDidComplete_page
    ((htrequests _ _).mpr ⟨(hrequests _ _).mpr (Or.inr ⟨rfl, rfl⟩), hnew⟩) (Paging.page L 30 0)
  refine ⟨[.requestDidComplete request ⟨none, (Paging.page L 30 0).map some⟩,
    .requestDidComplete screen.dataSource.operationQueue.nextId
      ⟨none, (Paging.page L 30 0).map some⟩], ?_, ?_⟩
  · refine (Machine.along_cons (by rfl)).mpr ⟨servedFrom_of_ne (by simp), ?_⟩
    refine (Machine.along_cons ht).mpr ⟨servedFrom_page (hfirst request), ?_⟩
    refine (Machine.along_cons hu).mpr ⟨servedFrom_page fun operation hi => ?_, trivial⟩
    exact hfirst _ operation ((htrequests _ operation).mp hi).1
  · intro halong
    have hshows := ((Machine.along_cons hu).mp ((Machine.along_cons ht).mp
      ((Machine.along_cons (by rfl)).mp halong).2).2).1
    have htwice := hshows.2 hnodup
    rw [huphotos, htphotos, hempty, List.nil_append, List.nodup_append] at htwice
    obtain ⟨photo, rest, hphoto⟩ : ∃ photo rest, Paging.page L 30 0 = photo :: rest := by
      cases L with
      | nil => exact absurd rfl hL
      | cons photo rest => exact ⟨photo, rest.take 29, rfl⟩
    rw [hphoto] at htwice
    exact htwice.2.2 photo List.mem_cons_self photo List.mem_cons_self rfl

/-- **Every appearance outside the condition** can break the grid: at the end of a run
that met it, with no photos yet and a request in flight, the screen appears and the
server answers, and what is shown is no prefix. -/
theorem appearance_doubles_page {factory : PhotosDataSourceFactory} {events : List HomeEvent}
    (hrun : machine.Run (launch factory) events screen)
    (hserved : machine.Along (fun screen event _ => screen.ServedFrom L event)
      (launch factory) events)
    (hidle : machine.Along (fun screen event _ => screen.AppearsIdle event)
      (launch factory) events)
    (hphotos : screen.view.photos = []) {request : TaskId} {operation : UnsplashPagedRequest}
    (houtstanding : screen.dataSource.operationQueue.Outstanding request operation)
    (hnodup : L.Nodup) (hL : L ≠ []) :
    ∃ events, machine.Along (fun screen event _ => screen.ServedFrom L event)
        screen (.viewWillAppear :: events) ∧
      ¬ machine.Along (fun _ _ after => after.ShowsPrefix L)
        screen (.viewWillAppear :: events) := by
  have hkeeps : ∀ screen event after, (Served L screen ∧ screen.view.isFetching = false) →
      machine.step screen event = some after →
      screen.ServedFrom L event ∧ screen.AppearsIdle event →
        after.Served L ∧ after.view.isFetching = false := by
    intro screen event after ⟨h, hfetching⟩ hstep ⟨hserved, hidle⟩
    exact ⟨served_step h hstep hserved hidle, screen.isFetching_step hfetching hstep⟩
  obtain ⟨h, hfetching⟩ := hrun.invariant hkeeps ⟨served_launch L factory, rfl⟩ (hserved.and hidle)
  exact h.appearance_doubles_page hfetching hphotos houtstanding hnodup hL

end HomeScreen

end ImSplash
