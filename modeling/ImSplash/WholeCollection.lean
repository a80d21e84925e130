import ImSplash.Paging
import ImSplash.StaleRequests

/-!
# Paging through a whole collection

A data source that is only ever asked for the next page, and whose requests are answered
page by page from a list, delivers that list: each success appends the page after those
it has, a failure leaves it where it was, and it stops after the first page that is
shorter than the others.  When the length of the list is a multiple of the page size,
that is the empty page after the last full one.
-/

namespace ImSplash
open Runs

/-- What a request brought, when it completed without an error and with photos. -/
def RequestResult.success (result : RequestResult) : Option (List UnsplashPhoto) :=
  if result.error.isNone then result.photos else none

theorem RequestResult.success_eq_some {result : RequestResult} {photos : List UnsplashPhoto} :
    result.success = some photos ↔ result.error = none ∧ result.photos = some photos := by
  rw [success, Option.ite_none_right_eq_some, Option.isNone_iff_eq_none]

/-- The successful completions of a run. -/
def successes (events : List DataSourceEvent) : Nat :=
  events.countP fun
    | .requestDidComplete _ result => result.success.isSome
    | _ => false

namespace PagedDataSource

/-- Pages of size `p` have been delivered of `L` by `s` successes: the cursor is at the
next page, or the last one has come. -/
structure Delivered (L : List UnsplashPhoto) (p s : Nat) (dataSource : PagedDataSource) :
    Prop where
  quiet : dataSource.isFetching = false → dataSource.operationQueue.Quiet
  unique : ∀ i j request request', dataSource.operationQueue.Outstanding i request →
    dataSource.operationQueue.Outstanding j request' → i = j
  request : ∀ i request, dataSource.operationQueue.Outstanding i request →
    request = dataSource.factory.request dataSource.cursor
  more : dataSource.isFetching = true → dataSource.canFetchMore = true
  perPage : dataSource.cursor.perPage = p
  pages : if dataSource.canFetchMore then
      dataSource.cursor.page = s + 1 ∧ s * p ≤ L.length ∧ dataSource.items = L.take (s * p)
    else L.length < s * p ∧ dataSource.items = L

namespace Delivered
variable {L : List UnsplashPhoto} {p s : Nat} {dataSource : PagedDataSource}

theorem items (h : dataSource.Delivered L p s) :
    dataSource.items = L.take (min (s * p) L.length) := by
  have hpages := h.pages
  split at hpages
  · obtain ⟨-, hle, hitems⟩ := hpages
    rw [hitems, Nat.min_eq_left hle]
  · obtain ⟨hlt, hitems⟩ := hpages
    rw [hitems, Nat.min_eq_right (Nat.le_of_lt hlt), List.take_length]

theorem canFetchMore_eq_false_iff (h : dataSource.Delivered L p s) :
    dataSource.canFetchMore = false ↔ L.length < s * p := by
  have hpages := h.pages
  split at hpages
  · rename_i hmore
    have hle := hpages.2.1
    simp only [hmore, Bool.true_eq_false, false_iff]
    omega
  · rename_i hmore
    exact ⟨fun _ => hpages.1, fun _ => Bool.eq_false_iff.mpr hmore⟩

theorem items_of_last (h : dataSource.Delivered L p s)
    (hlast : dataSource.canFetchMore = false) : dataSource.items = L := by
  have hpages := h.pages
  rw [if_neg (by simp [hlast])] at hpages
  exact hpages.2

theorem of_quiet {dataSource : PagedDataSource} (hquiet : dataSource.operationQueue.Quiet)
    (hidle : dataSource.isFetching = false) (hperPage : dataSource.cursor.perPage = p)
    (hpages : if dataSource.canFetchMore then
        dataSource.cursor.page = s + 1 ∧ s * p ≤ L.length ∧ dataSource.items = L.take (s * p)
      else L.length < s * p ∧ dataSource.items = L) : dataSource.Delivered L p s := by
  refine ⟨fun _ => hquiet, fun i _ request _ hi => ?_, fun i request hi => ?_,
    fun hfetching => ?_, hperPage, hpages⟩
  · exact absurd hi (hquiet i request)
  · exact absurd hi (hquiet i request)
  · rw [hidle] at hfetching
    cases hfetching

theorem isFetching (h : dataSource.Delivered L p s) {request : TaskId}
    {operation : UnsplashPagedRequest}
    (houtstanding : dataSource.operationQueue.Outstanding request operation) :
    dataSource.isFetching = true := by
  rcases Bool.eq_false_or_eq_true dataSource.isFetching with hfetching | hidle
  · exact hfetching
  · exact absurd houtstanding (h.quiet hidle request operation)

theorem fetchNextPage (h : dataSource.Delivered L p s) :
    dataSource.fetchNextPage.1.Delivered L p s := by
  rcases dataSource.fetchNextPage_cases with ⟨-, heq⟩ | ⟨-, -, heq⟩ | ⟨hidle, hmore, heq⟩
  · rw [heq]
    exact ⟨h.quiet, h.unique, h.request, h.more, h.perPage, h.pages⟩
  · rw [heq]
    exact ⟨h.quiet, h.unique, h.request, h.more, h.perPage, h.pages⟩
  · have hquiet := h.quiet hidle
    rw [heq]
    refine ⟨fun hfetching => ?_, fun i j request request' hi hj => ?_, fun i request hi => ?_,
      fun _ => hmore, h.perPage, h.pages⟩
    · cases hfetching
    · rw [(hquiet.outstanding_create.mp hi).1, (hquiet.outstanding_create.mp hj).1]
    · exact (hquiet.outstanding_create.mp hi).2

variable {request : TaskId} {operation : UnsplashPagedRequest} {status : TaskStatus}

theorem quiet_settle (h : dataSource.Delivered L p s)
    (houtstanding : dataSource.operationQueue.Outstanding request operation)
    (hstatus : status.Outstanding = false) :
    (dataSource.operationQueue.settle request status).Quiet := by
  refine TaskTable.quiet_settle hstatus fun i request' hi => ?_
  exact h.unique i request request' operation hi houtstanding

/-- A failed request leaves the data source where it was, and idle. -/
theorem failed (h : dataSource.Delivered L p s)
    (houtstanding : dataSource.operationQueue.Outstanding request operation)
    (hstatus : status.Outstanding = false) (error : FetchError) :
    { dataSource with
      operationQueue := dataSource.operationQueue.settle request status
      isFetching := false
      error := some error }.Delivered L p s :=
  .of_quiet (h.quiet_settle houtstanding hstatus) rfl h.perPage h.pages

/-- The page the request in flight was made for is the next one. -/
theorem succeeded (h : dataSource.Delivered L p s)
    (houtstanding : dataSource.operationQueue.Outstanding request operation)
    {after : PagedDataSource} (hquiet : after.operationQueue.Quiet)
    (hidle : after.isFetching = false) {photos : List UnsplashPhoto}
    (hpage : photos = Paging.page L operation.cursor.perPage (operation.cursor.page - 1))
    (hitems : after.items = dataSource.items ++ photos)
    (hmore : after.canFetchMore = (dataSource.canFetchMore &&
      !decide (photos.length < dataSource.cursor.perPage)))
    (hcursor : after.cursor = if photos.length < dataSource.cursor.perPage then
      dataSource.cursor else operation.nextCursor) : after.Delivered L p (s + 1) := by
  have hfetching := h.more (h.isFetching houtstanding)
  have hpages := h.pages
  rw [if_pos hfetching] at hpages
  obtain ⟨hcurrent, -, hserved⟩ := hpages
  have hperPage : operation.cursor.perPage = p := by
    rw [h.request request operation houtstanding, request_perPage, h.perPage]
  have hnumber : operation.cursor.page = s + 1 := by
    rw [h.request request operation houtstanding, request_page, hcurrent]
  rw [hperPage, hnumber, Nat.add_sub_cancel] at hpage
  rw [h.perPage] at hmore hcursor
  have hlength := Paging.length_page_lt_iff L p s
  rw [← hpage] at hlength
  by_cases hshort : photos.length < p
  · -- The last page: the cursor stays, and the collection is complete.
    refine of_quiet hquiet hidle ?_ ?_
    · rw [hcursor, if_pos hshort, h.perPage]
    · have hdone : after.canFetchMore = false := by simp [hmore, hshort]
      rw [if_neg (by simp [hdone]), hitems, hserved, hpage]
      exact ⟨hlength.mp hshort, Paging.take_append_page_of_short (hpage ▸ hshort)⟩
  · -- A full page: the cursor moves on to the next one.
    refine of_quiet hquiet hidle ?_ ?_
    · rw [hcursor, if_neg hshort]
      exact hperPage
    · have hgoesOn : after.canFetchMore = true := by simp [hmore, hshort, hfetching]
      have hfull : (s + 1) * p ≤ L.length := Nat.le_of_not_lt fun hlt => hshort (hlength.mpr hlt)
      rw [if_pos hgoesOn, hcursor, if_neg hshort, hitems, hserved, hpage]
      refine ⟨?_, hfull, Paging.take_append_page L p s⟩
      exact congrArg (· + 1) hnumber

end Delivered

end PagedDataSource

namespace DataSourceRun

/-- A data source for pages of size `p`; the app's own have 30 photos. -/
def start (factory : PhotosDataSourceFactory) (p : Nat) : DataSourceRun :=
  ⟨{ PagedDataSource.new factory with cursor := { factory.initialCursor with perPage := p } }, []⟩

theorem start_initialCursor (factory : PhotosDataSourceFactory) :
    start factory 30 = ⟨.new factory, []⟩ := by
  cases factory <;> rfl

/-- The calls of a run without `reset` and `cancelFetch`. -/
def pagingEvents : DataSourceEvent → Bool
  | .fetchNextPage | .requestDidComplete .. => true
  | .reset | .cancelFetch | .didSetDataSource => false

/-- A data source that is never reset. -/
def paging : Machine DataSourceRun DataSourceEvent := machine.restrict pagingEvents

/-- A request that succeeds brings the page of `L` that its cursor asks for. -/
def AnsweredFrom (L : List UnsplashPhoto) (run : DataSourceRun) (event : DataSourceEvent) : Prop :=
  ∀ request result operation photos, event = .requestDidComplete request result →
    run.dataSource.operationQueue.Outstanding request operation → result.success = some photos →
      photos = Paging.page L operation.cursor.perPage (operation.cursor.page - 1)

/-- After `s` successes, in pages of size `p`, the data source has the first `s * p` photos
of `L`, and it stops when that is all of them and more.  A request that fails changes
nothing but that it is over: the next fetch makes the same request again. -/
structure DeliversCollection (L : List UnsplashPhoto) (p s : Nat) (run : DataSourceRun) :
    Prop where
  atMostOne : ∀ i j request request', run.dataSource.operationQueue.Outstanding i request →
    run.dataSource.operationQueue.Outstanding j request' → i = j
  items : run.dataSource.items = L.take (min (s * p) L.length)
  stops : run.dataSource.canFetchMore = false ↔ L.length < s * p
  complete : run.dataSource.canFetchMore = false → run.dataSource.items = L
  failed : ∀ request result operation after,
    run.dataSource.operationQueue.Outstanding request operation →
    paging.step run (.requestDidComplete request result) = some after → result.success = none →
      after.dataSource.items = run.dataSource.items ∧
      after.dataSource.cursor = run.dataSource.cursor ∧
      after.dataSource.canFetchMore = run.dataSource.canFetchMore ∧
      ∃ again, after.dataSource.fetchNextPage.1.operationQueue.Outstanding again operation

variable {L : List UnsplashPhoto} {p s : Nat} {run after : DataSourceRun}

/-- What a completion does: it fails and leaves the items, the cursor and the end as they
were, or it appends the photos of the request. -/
theorem paging_requestDidComplete {request : TaskId} {result : RequestResult}
    (hstep : paging.step run (.requestDidComplete request result) = some after) :
    ∃ operation status, run.dataSource.operationQueue.Outstanding request operation ∧
      status.Outstanding = false ∧
      after.dataSource.operationQueue =
        run.dataSource.operationQueue.settle request status ∧
      after.dataSource.isFetching = false ∧
      ((result.success = none ∧ ∃ error, after.dataSource = { run.dataSource with
          operationQueue := run.dataSource.operationQueue.settle request status
          isFetching := false
          error := some error }) ∨
        ∃ photos, result.success = some photos ∧
          after.dataSource.items = run.dataSource.items ++ photos ∧
          after.dataSource.canFetchMore = (run.dataSource.canFetchMore &&
            !decide (photos.length < run.dataSource.cursor.perPage)) ∧
          after.dataSource.cursor = if photos.length < run.dataSource.cursor.perPage then
            run.dataSource.cursor else operation.nextCursor) := by
  obtain ⟨-, hstep⟩ := Machine.restrict_step.mp hstep
  obtain ⟨completed, hcompleted, rfl⟩ := Option.map_eq_some_iff.mp hstep
  obtain ⟨operation, houtstanding, rfl⟩ := PagedDataSource.requestDidComplete_eq_some.mp hcompleted
  refine ⟨operation, _, houtstanding, ?_,
    PagedDataSource.completionBlock_operationQueue operation result, ?_⟩
  · split <;> rfl
  · rcases PagedDataSource.completionBlock_cases operation result with
      ⟨hfails, error, heq⟩ | ⟨photos, herror, hphotos, heq⟩
    · refine ⟨congrArg (·.1.isFetching) heq, Or.inl ⟨?_, error, congrArg Prod.fst heq⟩⟩
      rw [RequestResult.success]
      split
      · exact hfails (Option.isNone_iff_eq_none.mp ‹_›)
      · rfl
    · refine ⟨congrArg (·.1.isFetching) heq, Or.inr ⟨photos, ?_, congrArg (·.1.items) heq,
        congrArg (·.1.canFetchMore) heq, congrArg (·.1.cursor) heq⟩⟩
      exact RequestResult.success_eq_some.mpr ⟨herror, hphotos⟩

theorem delivered_start (L : List UnsplashPhoto) (factory : PhotosDataSourceFactory) (p : Nat) :
    (start factory p).dataSource.Delivered L p 0 := by
  refine .of_quiet ?_ rfl rfl ?_
  · rintro i request ⟨_, hfind, -⟩
    cases hfind
  · have hmore : (start factory p).dataSource.canFetchMore = true := rfl
    rw [if_pos hmore]
    refine ⟨PagedDataSource.initialCursor_page factory, ?_, ?_⟩
    · omega
    · rw [Nat.zero_mul, List.take_zero]
      rfl

/-- A step delivers a page when it is a success, and none otherwise. -/
theorem delivered_step {event : DataSourceEvent} (h : run.dataSource.Delivered L p s)
    (hstep : paging.step run event = some after) (hanswered : run.AnsweredFrom L event) :
    after.dataSource.Delivered L p (s + successes [event]) := by
  cases event with
  | fetchNextPage =>
    obtain ⟨-, hstep⟩ := Machine.restrict_step.mp hstep
    obtain rfl := Option.some.inj hstep
    exact h.fetchNextPage
  | requestDidComplete request result =>
    obtain ⟨operation, status, houtstanding, hstatus, hqueue, hidle, hresult⟩ :=
      paging_requestDidComplete hstep
    rcases hresult with ⟨hfails, error, heq⟩ | ⟨photos, hsuccess, hitems, hmore, hcursor⟩
    · have hnone : successes [.requestDidComplete request result] = 0 := by
        simp [successes, hfails]
      rw [hnone, heq]
      exact h.failed houtstanding hstatus error
    · have hone : successes [.requestDidComplete request result] = 1 := by
        simp [successes, hsuccess]
      have hpage := hanswered request result operation photos rfl houtstanding hsuccess
      have hquiet := h.quiet_settle houtstanding hstatus
      rw [← hqueue] at hquiet
      rw [hone]
      exact h.succeeded houtstanding hquiet hidle hpage hitems hmore hcursor
  | reset => cases (Machine.restrict_step.mp hstep).1
  | cancelFetch => cases (Machine.restrict_step.mp hstep).1
  | didSetDataSource => cases (Machine.restrict_step.mp hstep).1

theorem deliversCollection_of_delivered (h : run.dataSource.Delivered L p s) :
    run.DeliversCollection L p s := by
  refine ⟨h.unique, h.items, h.canFetchMore_eq_false_iff, h.items_of_last, ?_⟩
  intro request result operation after houtstanding hstep hfails
  obtain ⟨operation', status, -, hstatus, -, -, ⟨-, error, heq⟩ | ⟨photos, hsuccess, -⟩⟩ :=
    paging_requestDidComplete hstep
  · -- The cursor has not moved, so the new request is the one that failed.
    have hready := after.dataSource.fetchNextPage_of_ready
      (by rw [heq]) (by rw [heq]; exact h.more (h.isFetching houtstanding))
    rw [hready, heq]
    refine ⟨rfl, rfl, rfl, _, TaskTable.outstanding_create.mpr (Or.inr ⟨rfl, ?_⟩)⟩
    exact h.request request operation houtstanding
  · rw [hsuccess] at hfails
    cases hfails

/-- A run delivers a page for each of its successes. -/
theorem delivered_run {events : List DataSourceEvent} (hrun : paging.Run run events after)
    (hanswered : paging.Along (fun run event _ => run.AnsweredFrom L event) run events)
    (h : run.dataSource.Delivered L p s) :
    after.dataSource.Delivered L p (s + successes events) := by
  -- Along the run, with the successes so far as the number of pages.
  induction hrun generalizing s with
  | nil => exact h
  | @cons run next after event events hstep hrun ih =>
    obtain ⟨hevent, hevents⟩ := (Machine.along_cons hstep).mp hanswered
    have hnext := ih hevents (delivered_step h hstep hevent)
    have hsum : successes (event :: events) = successes [event] + successes events := by
      rw [← List.singleton_append, successes, List.countP_append]
      rfl
    rw [hsum, ← Nat.add_assoc]
    exact hnext

/-- **Paging delivers the whole collection once**, for every list and page size, along
every run of fetches and of completions that fail or bring the page asked for. -/
theorem deliversCollection (L : List UnsplashPhoto) (p : Nat) (factory : PhotosDataSourceFactory)
    {events : List DataSourceEvent} (hrun : paging.Run (start factory p) events run)
    (hanswered : paging.Along (fun run event _ => run.AnsweredFrom L event)
      (start factory p) events) :
    run.DeliversCollection L p (successes events) := by
  have h := delivered_run hrun hanswered (delivered_start L factory p)
  rw [Nat.zero_add] at h
  exact deliversCollection_of_delivered h

/-- The first page of a list of one photo is asked for again after a failure; the empty
second page ends the fetching. -/
def retriedPage : List DataSourceEvent :=
  [.fetchNextPage, .requestDidComplete 0 ⟨some ⟨NSError.urlErrorDomain, -1009⟩, []⟩,
    .fetchNextPage, .fetchNextPage, .requestDidComplete 1 ⟨none, [some (photoAt "p")]⟩,
    .fetchNextPage, .requestDidComplete 2 ⟨none, []⟩]

theorem deliversCollection_photo :
    ∃ run, paging.Run (start (.collection "317099") 1) retriedPage run ∧
      run.DeliversCollection [photoAt "p"] 1 (successes retriedPage) := by
  obtain ⟨run, hrun⟩ : ∃ run, paging.Run (start (.collection "317099") 1) retriedPage run := by
    apply Exists.intro
    iterate 7 apply Machine.Run.cons rfl
    apply Machine.Run.nil
  refine ⟨run, hrun, deliversCollection _ 1 _ hrun ?_⟩
  rintro _ ⟨⟩
  refine ⟨fun _ _ _ _ hevent => (by cases hevent), ?_⟩
  rintro _ ⟨⟩
  refine ⟨?_, ?_⟩
  · rintro _ _ _ _ ⟨⟩ - hsuccess
    cases hsuccess
  iterate 2
    rintro _ ⟨⟩
    refine ⟨fun _ _ _ _ hevent => (by cases hevent), ?_⟩
  rintro _ ⟨⟩
  refine ⟨?_, ?_⟩
  · rintro _ _ _ _ ⟨⟩ ⟨_, ⟨⟩, rfl, -⟩ ⟨⟩
    rfl
  rintro _ ⟨⟩
  refine ⟨fun _ _ _ _ hevent => (by cases hevent), ?_⟩
  rintro _ ⟨⟩
  refine ⟨?_, trivial⟩
  rintro _ _ _ _ ⟨⟩ ⟨_, ⟨⟩, rfl, -⟩ ⟨⟩
  rfl

end DataSourceRun

end ImSplash
