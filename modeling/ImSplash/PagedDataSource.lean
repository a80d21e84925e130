import ImSplash.Models

/-!
# The paged data source

`PagedDataSource` asks for one page after the other and keeps what has come.  Its
requests run on an operation queue: cancelling asks them to stop, but every request
completes in the end, and its completion block, which captures the data source, runs
with whatever the request holds by then.

The functions return the calls made to the delegate along with the data source.
-/

namespace ImSplash
open Runs

structure Cursor where
  page : Nat
  perPage : Nat
  parameters : Option (List (String × String))
deriving DecidableEq, Repr

structure UnsplashPagedRequest where
  cursor : Cursor
deriving DecidableEq, Repr

def UnsplashPagedRequest.nextCursor (request : UnsplashPagedRequest) : Cursor :=
  { request.cursor with page := request.cursor.page + 1 }

def SearchPhotosRequest.cursor (query : String) (page perPage : Nat) : Cursor :=
  ⟨page, perPage, some [("query", query)]⟩

def GetCollectionPhotosRequest.cursor (collectionId : String) (page perPage : Nat) : Cursor :=
  ⟨page, perPage, some [("id", collectionId)]⟩

inductive PhotosDataSourceFactory
  | search (query : String)
  | collection (identifier : String)
deriving DecidableEq, Repr

namespace PhotosDataSourceFactory

def initialCursor : PhotosDataSourceFactory → Cursor
  | search query => SearchPhotosRequest.cursor query 1 30
  | collection identifier => GetCollectionPhotosRequest.cursor identifier 1 30

/-- Each request is made for the factory's own query or collection; of the cursor it
reads the page and its size. -/
def request (cursor : Cursor) : PhotosDataSourceFactory → UnsplashPagedRequest
  | search query => ⟨SearchPhotosRequest.cursor query cursor.page cursor.perPage⟩
  | collection identifier =>
    ⟨GetCollectionPhotosRequest.cursor identifier cursor.page cursor.perPage⟩

end PhotosDataSourceFactory

/-- What a request holds when it completes; an item may be anything, `none` standing
for one that is no photo. -/
structure RequestResult where
  error : Option NSError := none
  items : List (Option UnsplashPhoto) := []

/-- `request.items as? [UnsplashPhoto]`. -/
def RequestResult.photos (result : RequestResult) : Option (List UnsplashPhoto) :=
  result.items.mapM id

/-- A page of photos is read back as it was served. -/
theorem RequestResult.photos_map_some (error : Option NSError) (photos : List UnsplashPhoto) :
    (RequestResult.mk error (photos.map some)).photos = some photos := by
  show List.mapM id (photos.map some) = some photos
  induction photos with
  | nil => rfl
  | cons photo photos ih =>
    rw [List.map_cons, List.mapM_cons, ih]
    rfl

/-- The errors a data source reports: its own two, and the error of a request. -/
inductive FetchError
  | dataSourceIsFetching
  | wrongItemsType (returnedItems : List (Option UnsplashPhoto))
  | request (error : NSError)

/-- The calls to `PagedDataSourceDelegate`. -/
inductive PagedDataSourceDelegate
  | dataSourceWillStartFetching
  | didFetch (items : List UnsplashPhoto)
  | fetchDidFailWithError (error : FetchError)

structure PagedDataSource where
  items : List UnsplashPhoto := []
  error : Option FetchError := none
  factory : PhotosDataSourceFactory
  cursor : Cursor
  isFetching : Bool := false
  canFetchMore : Bool := true
  operationQueue : TaskTable UnsplashPagedRequest := {}

namespace PagedDataSource

/-- `init(with:)`. -/
def new (factory : PhotosDataSourceFactory) : PagedDataSource where
  factory := factory
  cursor := factory.initialCursor

variable (dataSource : PagedDataSource)

def reset : PagedDataSource :=
  { dataSource with
    -- A cancelled request completes all the same.
    operationQueue := dataSource.operationQueue.cancelAll
    items := []
    isFetching := false
    canFetchMore := true
    cursor := dataSource.factory.initialCursor
    error := none }

def cancelFetch : PagedDataSource :=
  { dataSource with
    operationQueue := dataSource.operationQueue.cancelAll
    isFetching := false }

def fetchDidComplete (items : Option (List UnsplashPhoto)) (error : Option FetchError) :
    PagedDataSource × List PagedDataSourceDelegate :=
  ({ dataSource with error := error },
    match error with
    | some error => [.fetchDidFailWithError error]
    | none => [.didFetch (items.getD [])])

def fetchNextPage : PagedDataSource × List PagedDataSourceDelegate :=
  if dataSource.isFetching then
    dataSource.fetchDidComplete none (some .dataSourceIsFetching)
  else if dataSource.canFetchMore = false then
    dataSource.fetchDidComplete (some []) none
  else
    ({ dataSource with
        isFetching := true
        operationQueue :=
          dataSource.operationQueue.create (dataSource.factory.request dataSource.cursor) },
      [.dataSourceWillStartFetching])

/-- The completion block of a request. -/
def completionBlock (request : UnsplashPagedRequest) (result : RequestResult) :
    PagedDataSource × List PagedDataSourceDelegate :=
  match result.error with
  | some error =>
    { dataSource with isFetching := false }.fetchDidComplete none (some (.request error))
  | none =>
    match result.photos with
    | none =>
      { dataSource with isFetching := false }.fetchDidComplete none
        (some (.wrongItemsType result.items))
    | some items =>
      -- The page size is that of the cursor by now, the next cursor that of the request.
      let dataSource :=
        if items.length < dataSource.cursor.perPage then
          { dataSource with canFetchMore := false }
        else { dataSource with cursor := request.nextCursor }
      { dataSource with
        items := dataSource.items ++ items
        isFetching := false }.fetchDidComplete (some items) none

def item (index : Nat) : Option UnsplashPhoto :=
  if index < dataSource.items.length then dataSource.items[index]? else none

/-- The request has completed, for better or worse, and its completion block runs. -/
def requestDidComplete (request : TaskId) (result : RequestResult) :
    Option (PagedDataSource × List PagedDataSourceDelegate) :=
  (dataSource.operationQueue.outstanding? request).map fun operation =>
    { dataSource with
      operationQueue := dataSource.operationQueue.settle request
        (if result.error.isNone then .finished else .failed) }.completionBlock operation result

variable {dataSource}

/-! ### What a call does -/

/-- After the last page an empty one is reported. -/
theorem fetchNextPage_of_last (hidle : dataSource.isFetching = false)
    (hlast : dataSource.canFetchMore = false) :
    dataSource.fetchNextPage = ({ dataSource with error := none }, [.didFetch []]) := by
  simp [fetchNextPage, hidle, hlast, fetchDidComplete]

/-- Otherwise an idle data source makes a request for the cursor. -/
theorem fetchNextPage_of_ready (hidle : dataSource.isFetching = false)
    (hmore : dataSource.canFetchMore = true) :
    dataSource.fetchNextPage =
      ({ dataSource with
          isFetching := true
          operationQueue :=
            dataSource.operationQueue.create (dataSource.factory.request dataSource.cursor) },
        [.dataSourceWillStartFetching]) := by
  simp [fetchNextPage, hidle, hmore]

/-- `fetchNextPage` reports that it is busy, reports an empty last page, or makes a
request for the cursor. -/
theorem fetchNextPage_cases (dataSource : PagedDataSource) :
    (dataSource.isFetching = true ∧ dataSource.fetchNextPage =
      ({ dataSource with error := some .dataSourceIsFetching },
        [.fetchDidFailWithError .dataSourceIsFetching])) ∨
    (dataSource.isFetching = false ∧ dataSource.canFetchMore = false ∧ dataSource.fetchNextPage =
      ({ dataSource with error := none }, [.didFetch []])) ∨
    dataSource.isFetching = false ∧ dataSource.canFetchMore = true ∧ dataSource.fetchNextPage =
      ({ dataSource with
          isFetching := true
          operationQueue :=
            dataSource.operationQueue.create (dataSource.factory.request dataSource.cursor) },
        [.dataSourceWillStartFetching]) := by
  rcases Bool.eq_false_or_eq_true dataSource.isFetching with hfetching | hidle
  · exact Or.inl ⟨hfetching, by simp [fetchNextPage, hfetching, fetchDidComplete]⟩
  · rcases Bool.eq_false_or_eq_true dataSource.canFetchMore with hmore | hlast
    · exact Or.inr (Or.inr ⟨hidle, hmore, fetchNextPage_of_ready hidle hmore⟩)
    · exact Or.inr (Or.inl ⟨hidle, hlast, fetchNextPage_of_last hidle hlast⟩)

@[simp] theorem fetchNextPage_canFetchMore (dataSource : PagedDataSource) :
    dataSource.fetchNextPage.1.canFetchMore = dataSource.canFetchMore := by
  rcases dataSource.fetchNextPage_cases with ⟨-, heq⟩ | ⟨-, -, heq⟩ | ⟨-, -, heq⟩
  all_goals rw [heq]

/-- A completion block reports an error and keeps the items, or appends and reports a
page; a page shorter than asked for is the last. -/
theorem completionBlock_cases (request : UnsplashPagedRequest) (result : RequestResult) :
    ((result.error = none → result.photos = none) ∧
      ∃ error, dataSource.completionBlock request result =
        ({ dataSource with isFetching := false, error := some error },
          [.fetchDidFailWithError error])) ∨
    ∃ items, result.error = none ∧ result.photos = some items ∧
      dataSource.completionBlock request result =
        ({ dataSource with
            items := dataSource.items ++ items
            isFetching := false
            error := none
            canFetchMore :=
              dataSource.canFetchMore && !decide (items.length < dataSource.cursor.perPage)
            cursor :=
              if items.length < dataSource.cursor.perPage then dataSource.cursor
              else request.nextCursor },
          [.didFetch items]) := by
  simp only [completionBlock]
  cases herror : result.error with
  | some error => exact Or.inl ⟨by simp, _, rfl⟩
  | none =>
    cases hphotos : result.photos with
    | none => exact Or.inl ⟨fun _ => rfl, _, rfl⟩
    | some items =>
      refine Or.inr ⟨items, rfl, rfl, ?_⟩
      by_cases hshort : items.length < dataSource.cursor.perPage
      · simp [hshort, fetchDidComplete]
      · simp [hshort, fetchDidComplete]

@[simp] theorem completionBlock_operationQueue (request : UnsplashPagedRequest)
    (result : RequestResult) :
    (dataSource.completionBlock request result).1.operationQueue = dataSource.operationQueue := by
  rcases completionBlock_cases request result with ⟨-, error, heq⟩ | ⟨items, -, -, heq⟩
  all_goals rw [heq]

theorem requestDidComplete_eq_some {request : TaskId} {result : RequestResult}
    {after : PagedDataSource × List PagedDataSourceDelegate} :
    dataSource.requestDidComplete request result = some after ↔ ∃ operation,
      dataSource.operationQueue.Outstanding request operation ∧
        after = { dataSource with
          operationQueue := dataSource.operationQueue.settle request
            (if result.error.isNone then .finished else .failed) }.completionBlock
              operation result := by
  unfold requestDidComplete
  rw [Option.map_eq_some_iff]
  exact exists_congr fun operation => and_congr TaskTable.outstanding?_eq_some eq_comm

variable (dataSource)

/-- A request that was in flight when the data source was reset or its fetch cancelled. -/
def Stale (request : TaskId) : Prop :=
  ∃ operation, dataSource.operationQueue.find? request = some operation ∧
    operation.status = .cancelled

/-! ### One request at a time

As long as nothing is reset while a request is in flight. -/

/-- At most one request is in flight, the data source knows of it, and it is for the
page the cursor is at. -/
structure OneRequest : Prop where
  quiet : dataSource.isFetching = false → dataSource.operationQueue.Quiet
  unique : ∀ i j request request', dataSource.operationQueue.Outstanding i request →
    dataSource.operationQueue.Outstanding j request' → i = j
  cursor : ∀ i request, dataSource.operationQueue.Outstanding i request →
    request.cursor.page = dataSource.cursor.page
  perPage : dataSource.cursor.perPage = 30 ∧
    ∀ i request, dataSource.operationQueue.Outstanding i request → request.cursor.perPage = 30

variable {dataSource}

theorem initialCursor_perPage (factory : PhotosDataSourceFactory) :
    factory.initialCursor.perPage = 30 := by
  cases factory <;> rfl

theorem initialCursor_page (factory : PhotosDataSourceFactory) :
    factory.initialCursor.page = 1 := by
  cases factory <;> rfl

@[simp] theorem request_page (factory : PhotosDataSourceFactory) (cursor : Cursor) :
    (factory.request cursor).cursor.page = cursor.page := by
  cases factory <;> rfl

@[simp] theorem request_perPage (factory : PhotosDataSourceFactory) (cursor : Cursor) :
    (factory.request cursor).cursor.perPage = cursor.perPage := by
  cases factory <;> rfl

theorem OneRequest.of_quiet (hquiet : dataSource.operationQueue.Quiet)
    (hperPage : dataSource.cursor.perPage = 30) : dataSource.OneRequest := by
  refine ⟨fun _ => hquiet, fun i _ request _ hi => ?_, fun i request hi => ?_, hperPage,
    fun i request hi => ?_⟩
  all_goals exact absurd hi (hquiet i request)

theorem oneRequest_new (factory : PhotosDataSourceFactory) :
    (new factory).OneRequest := by
  refine .of_quiet ?_ (initialCursor_perPage factory)
  rintro i request ⟨_, hfind, -⟩
  cases hfind

/-- A reset with nothing in flight. -/
theorem OneRequest.reset (hquiet : dataSource.operationQueue.Quiet) :
    dataSource.reset.OneRequest := by
  refine .of_quiet ?_ (initialCursor_perPage dataSource.factory)
  intro i request hi
  exact hquiet i request (TaskTable.outstanding_cancelAll.mp hi)

theorem OneRequest.fetchNextPage (h : dataSource.OneRequest) :
    dataSource.fetchNextPage.1.OneRequest := by
  rcases dataSource.fetchNextPage_cases with ⟨-, heq⟩ | ⟨-, -, heq⟩ | ⟨hidle, -, heq⟩
  · rw [heq]
    exact ⟨h.quiet, h.unique, h.cursor, h.perPage⟩
  · rw [heq]
    exact ⟨h.quiet, h.unique, h.cursor, h.perPage⟩
  · -- The data source was idle, so the new request is the only one.
    have hnew : ∀ i request, (dataSource.operationQueue.create
        (dataSource.factory.request dataSource.cursor)).Outstanding i request →
          i = dataSource.operationQueue.nextId ∧
            request = dataSource.factory.request dataSource.cursor :=
      fun _ _ => (h.quiet hidle).outstanding_create.mp
    rw [heq]
    refine ⟨fun hfetching => ?_, fun i j request request' hi hj => ?_, fun i request hi => ?_,
      h.perPage.1, fun i request hi => ?_⟩
    · cases hfetching
    · rw [(hnew i request hi).1, (hnew j request' hj).1]
    · rw [(hnew i request hi).2, request_page]
    · rw [(hnew i request hi).2, request_perPage]
      exact h.perPage.1

/-- The request in flight completes, and none is left. -/
theorem OneRequest.quiet_settle (h : dataSource.OneRequest) {request : TaskId}
    {operation : UnsplashPagedRequest}
    (houtstanding : dataSource.operationQueue.Outstanding request operation)
    {status : TaskStatus} (hstatus : status.Outstanding = false) :
    (dataSource.operationQueue.settle request status).Quiet := by
  refine TaskTable.quiet_settle hstatus fun i request' hi => ?_
  exact h.unique i request request' operation hi houtstanding

theorem OneRequest.completionBlock (h : dataSource.OneRequest) {request : TaskId}
    {operation : UnsplashPagedRequest}
    (houtstanding : dataSource.operationQueue.Outstanding request operation)
    {status : TaskStatus} (hstatus : status.Outstanding = false) (result : RequestResult) :
    ({ dataSource with
      operationQueue := dataSource.operationQueue.settle request status }.completionBlock
        operation result).1.OneRequest := by
  have hquiet := h.quiet_settle houtstanding hstatus
  rcases completionBlock_cases operation result with ⟨-, error, heq⟩ | ⟨items, -, -, heq⟩
  · rw [heq]
    exact .of_quiet hquiet h.perPage.1
  · rw [heq]
    refine .of_quiet hquiet ?_
    show (if _ then _ else _ : Cursor).perPage = 30
    split
    · exact h.perPage.1
    · exact h.perPage.2 request operation houtstanding

/-- A request can only complete while the data source is fetching. -/
theorem OneRequest.isFetching (h : dataSource.OneRequest) {request : TaskId}
    {operation : UnsplashPagedRequest}
    (houtstanding : dataSource.operationQueue.Outstanding request operation) :
    dataSource.isFetching = true := by
  cases hfetching : dataSource.isFetching with
  | true => rfl
  | false => exact absurd houtstanding (h.quiet hfetching request operation)

end PagedDataSource

/-- `HomeInteractor.dataSource.didSet`, on the data source that was replaced.  It keeps
its delegate. -/
def HomeInteractor.didSetDataSource (oldValue : PagedDataSource) : PagedDataSource :=
  oldValue.cancelFetch

end ImSplash
