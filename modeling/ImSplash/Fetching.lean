import ImSplash.MemberOrder
import ImSplash.RequestAnswer
import ImSplash.WholeCollection

/-!
# From the server to the data source

A data source, the requests on its queue, the URLs they are sent to and the JSON that comes
back, together.  An operation of the data source is a request of its own: its queue starts it,
its URL is made from the cursor, the server reads the URL and answers with the page it asks
for, the photos are read from the answer, and the completion block hands them on.

Whatever the order of all this, and whatever fails, the data source has the first photos of
the server's list, in their order and each of them once, and says that there are no more only
when it has them all.  A photo that cannot be read holds it up for good at its page.
-/

namespace ImSplash
open Runs

/-- The class of the requests of a data source. -/
def PhotosDataSourceFactory.kind : PhotosDataSourceFactory → RequestKind
  | .search _ => .searchPhotos
  | .collection _ => .getCollectionPhotos

/-- A request as it says of itself what it asks for. -/
def PhotosDataSourceFactory.unsplashRequest (operation : UnsplashPagedRequest) :
    PhotosDataSourceFactory → UnsplashRequest
  | .search query =>
    SearchPhotosRequest.request query operation.cursor.page operation.cursor.perPage
  | .collection identifier =>
    GetCollectionPhotosRequest.request identifier operation.cursor.page operation.cursor.perPage

/-- A request on the queue, and the URL its data task was made for. -/
structure PageRequest where
  operation : UnsplashPagedRequest
  network : NetworkRequest
  urlRequest : Option URLRequest := none

structure Fetching where
  run : DataSourceRun
  requests : List PageRequest := []

inductive FetchingEvent
  | fetchNextPage
  | reset
  | cancelFetch
  /-- The queue starts a request, which iterates its parameters in some order. -/
  | start (request : TaskId) (order : IterationOrder)
  /-- The data task of a request completes. -/
  | processResponse (request : TaskId) (outcome : TaskOutcome)
  /-- A finished request runs its completion block. -/
  | completionBlock (request : TaskId)

namespace Fetching
variable (coding : JSONCoding) (serialize : ParameterDictionary → Except NSError Data)

/-- A new data source. -/
def launch (factory : PhotosDataSourceFactory) : Fetching := ⟨⟨.new factory, []⟩, []⟩

variable (fetching : Fetching)

/-- The data source after a call; an operation it has put on its queue is a new request. -/
def call (after : DataSourceRun) : Fetching where
  run := after
  requests := fetching.requests ++
    (after.dataSource.operationQueue.tasks.drop fetching.requests.length).map fun task =>
      ⟨task.request, { kind := after.dataSource.factory.kind }, none⟩

/-- Every request is cancelled along with its operation. -/
def cancelAll (after : DataSourceRun) : Fetching where
  run := after
  requests := fetching.requests.map fun page => { page with network := page.network.cancel }

/-- A request takes a step. -/
def stepRequest (request : TaskId) (step : PageRequest → Option PageRequest) : Option Fetching :=
  (fetching.requests[request]?).bind fun page => (step page).map fun page =>
    { fetching with requests := fetching.requests.set request page }

/-- `start()`; a request that goes on to `main()` has a URL, or completes. -/
def start (factory : PhotosDataSourceFactory) (order : IterationOrder) (page : PageRequest) :
    Option PageRequest :=
  let prepared := (factory.unsplashRequest page.operation).prepareURLRequest order serialize
  ((NetworkRequest.machine coding).step page.network (.start false prepared.isOk)).map
    fun network => { page with
      network := network
      urlRequest := if network.awaitsResponse then prepared.toOption else none }

/-- The data source and its requests, one event at a time. -/
def machine : Machine Fetching FetchingEvent where
  step fetching
    | .fetchNextPage =>
      (DataSourceRun.machine.step fetching.run .fetchNextPage).map fetching.call
    | .reset => (DataSourceRun.machine.step fetching.run .reset).map fetching.cancelAll
    | .cancelFetch => (DataSourceRun.machine.step fetching.run .cancelFetch).map fetching.cancelAll
    | .start request order =>
      fetching.stepRequest request (start coding serialize fetching.run.dataSource.factory order)
    | .processResponse request outcome =>
      fetching.stepRequest request fun page =>
        ((NetworkRequest.machine coding).step page.network (.processResponse outcome)).map
          fun network => { page with network := network }
    | .completionBlock request =>
      (fetching.requests[request]?).bind fun page =>
        if page.network.isFinished then
          (DataSourceRun.machine.step fetching.run
            (.requestDidComplete request page.network.result)).map
              fun run => { fetching with run := run }
        else none

end Fetching

/-! ### What a step does to a request -/

namespace NetworkRequest
variable {coding : JSONCoding} {request after : NetworkRequest}

/-- A response leaves what a request is and what it was handed. -/
theorem Processed.keeps {outcome : TaskOutcome}
    (h : Processed coding request outcome after) :
    after.kind = request.kind ∧ after.received = request.received ∧
      after.started = request.started := by
  cases h with
  | undecodable base error hbase =>
    rcases hbase with rfl | ⟨json, rfl⟩
    · exact ⟨rfl, rfl, rfl⟩
    · exact ⟨rfl, rfl, rfl⟩
  | _ => exact ⟨rfl, rfl, rfl⟩

theorem start_keeps (request : NetworkRequest) (hasCancelledDependency prepared : Bool) :
    (request.start hasCancelledDependency prepared).kind = request.kind ∧
      (request.start hasCancelledDependency prepared).received = request.received ∧
      (request.start hasCancelledDependency prepared).started = true := by
  simp only [start]
  split
  · exact ⟨rfl, rfl, rfl⟩
  · cases prepared <;> exact ⟨rfl, rfl, rfl⟩

/-- A request that has finished has its answer, if it has no error. -/
theorem Life.answer (h : request.Life (CarriesAnswer coding))
    (hfinished : request.isFinished = true) (herror : request.error = none) :
    ∃ photos, request.Answered coding photos ∧ request.items = photos.map some := by
  cases h with
  | ready h => exact absurd (h.isFinished.symm.trans hfinished) (by decide)
  | waiting h => exact absurd (h.isFinished.symm.trans hfinished) (by decide)
  | ended h hP => exact hP.answer hfinished herror

end NetworkRequest

/-! ### What comes back -/

/-- The photos a data source is after. -/
def PhotoServer.photos (server : PhotoServer) : PhotosDataSourceFactory → List JSON
  | .search query => server.search query
  | .collection identifier => server.collection identifier

/-- What a data source asks for can be asked for: the server would read another text, or
another path. -/
def PhotosDataSourceFactory.Plain : PhotosDataSourceFactory → Prop
  | .search query => NetworkRequest.PlainValue query
  | .collection identifier => '/' ∉ identifier.toList

/-- An answer that is no failure is what the server has for the URL that it was asked by. -/
def PageRequest.Served (coding : JSONCoding) (server : PhotoServer) (page : PageRequest)
    (outcome : TaskOutcome) : Prop :=
  ∀ body, outcome.IsSuccess → outcome.data = some body →
    ∃ urlRequest query json, page.urlRequest = some urlRequest ∧
      PageQuery.ofURLRequest urlRequest = some query ∧ coding.jsonObject body = some json ∧
      server.Answers json query

/-- A request for a page, whose answer is the server's. -/
structure PageRequest.Asked (coding : JSONCoding)
    (serialize : ParameterDictionary → Except NSError Data) (server : PhotoServer)
    (factory : PhotosDataSourceFactory) (page : PageRequest) : Prop where
  kind : page.network.kind = factory.kind
  sent : ∀ urlRequest, page.urlRequest = some urlRequest → ∃ order,
    (factory.unsplashRequest page.operation).prepareURLRequest order serialize = .ok urlRequest
  answered : ∀ outcome, page.network.received = some outcome → page.Served coding server outcome

namespace PageRequest.Asked
variable {coding : JSONCoding} {serialize : ParameterDictionary → Except NSError Data}
  {server : PhotoServer} {factory : PhotosDataSourceFactory} {page after : PageRequest}

theorem new (operation : UnsplashPagedRequest) :
    Asked coding serialize server factory ⟨operation, { kind := factory.kind }, none⟩ where
  kind := rfl
  sent _ h := by cases h
  answered _ h := by cases h

theorem cancel (h : page.Asked coding serialize server factory) :
    PageRequest.Asked coding serialize server factory
      { page with network := page.network.cancel } :=
  ⟨h.kind, h.sent, h.answered⟩

theorem start (h : page.Asked coding serialize server factory)
    (hreceived : page.network.received = none) {order : IterationOrder}
    (hstart : Fetching.start coding serialize factory order page = some after) :
    after.Asked coding serialize server factory ∧ after.operation = page.operation := by
  obtain ⟨network, hstep, rfl⟩ := Option.map_eq_some_iff.mp hstart
  obtain ⟨-, hnetwork⟩ := Option.ite_none_left_eq_some.mp hstep
  obtain rfl := Option.some.inj hnetwork
  obtain ⟨hkind, hkept, -⟩ := page.network.start_keeps false
    ((factory.unsplashRequest page.operation).prepareURLRequest order serialize).isOk
  refine ⟨⟨hkind.trans h.kind, fun urlRequest hsent => ?_, fun outcome houtcome => ?_⟩, rfl⟩
  · obtain ⟨-, hprepared⟩ := Option.ite_none_right_eq_some.mp hsent
    exact ⟨order, toOption_eq_some.mp hprepared⟩
  · cases (hreceived.symm.trans (hkept.symm.trans houtcome))

/-- The JSON that comes back is the page that was asked for. -/
theorem answers (h : page.Asked coding serialize server factory) (hplain : factory.Plain)
    {outcome : TaskOutcome} (hserved : page.Served coding server outcome) {body : Data}
    (hsuccess : outcome.IsSuccess) (hdata : outcome.data = some body) :
    ∃ json, coding.jsonObject body = some json ∧
      match factory with
      | .search _ => json.results = some (Paging.page (server.photos factory)
          page.operation.cursor.perPage (page.operation.cursor.page - 1))
      | .collection _ => json = .array (Paging.page (server.photos factory)
          page.operation.cursor.perPage (page.operation.cursor.page - 1)) := by
  obtain ⟨urlRequest, query, json, hurl, hquery, hjson, hanswers⟩ := hserved body hsuccess hdata
  obtain ⟨order, hprepared⟩ := h.sent urlRequest hurl
  refine ⟨json, hjson, ?_⟩
  cases factory with
  | search text =>
    obtain rfl := Option.some.inj (hquery.symm.trans
      (PageQuery.ofURLRequest_search hplain hprepared))
    exact hanswers
  | collection identifier =>
    obtain rfl := Option.some.inj (hquery.symm.trans
      (PageQuery.ofURLRequest_collection hplain hprepared))
    exact hanswers

theorem processResponse (h : page.Asked coding serialize server factory)
    (herror : page.network.error = none) {outcome : TaskOutcome} {network : NetworkRequest}
    (hserved : page.Served coding server outcome)
    (hstep : (NetworkRequest.machine coding).step page.network (.processResponse outcome) =
      some network) :
    PageRequest.Asked coding serialize server factory { page with network := network } := by
  obtain ⟨-, hnetwork⟩ := Option.ite_none_right_eq_some.mp hstep
  obtain rfl := Option.some.inj hnetwork
  have hnone : (page.network.receive outcome).error = none := herror
  obtain ⟨hkind, hreceived, -⟩ := (NetworkRequest.processed hnone outcome).keeps
  refine ⟨hkind.trans h.kind, h.sent, fun outcome' houtcome => ?_⟩
  obtain rfl := Option.some.inj (hreceived.symm.trans houtcome)
  exact hserved

/-- The photos of a request that was answered are the page it was made for. -/
theorem mapM_page {decoder : JSONDecoder} {jsonObject : Data → Option JSON}
    {data : List JSON → Except NSError Data}
    (h : page.Asked (UnsplashPhotoPicker.coding decoder jsonObject data) serialize server factory)
    (hwritten : factory.kind = .searchPhotos → UnsplashPhotoPicker.ReadsBack jsonObject data)
    (hplain : factory.Plain) {photos : List UnsplashPhoto}
    (hanswered : page.network.Answered (UnsplashPhotoPicker.coding decoder jsonObject data)
      photos) :
    (Paging.page (server.photos factory) page.operation.cursor.perPage
      (page.operation.cursor.page - 1)).mapM (UnsplashPhotoPicker.photo? decoder) =
        some photos := by
  obtain ⟨outcome, body, hreceived, houtcome, hdata, hread⟩ := hanswered
  obtain ⟨json, hjson, hanswer⟩ := h.answers hplain (h.answered outcome hreceived) houtcome hdata
  rw [h.kind] at hread
  cases factory with
  | search text =>
    obtain ⟨results, hresults, hmapM⟩ :=
      UnsplashPhotoPicker.mapM_of_photos_search (hwritten rfl) hread
    have hsame : jsonObject body >>= JSON.results = json.results := by
      rw [show jsonObject body = some json from hjson]
      rfl
    rw [hsame, hanswer] at hresults
    rw [Option.some.inj hresults]
    exact hmapM
  | collection identifier =>
    have hphotos := UnsplashPhotoPicker.photos_collection decoder jsonObject data body
    rw [show jsonObject body = some json from hjson, hanswer] at hphotos
    exact hphotos.symm.trans hread

end PageRequest.Asked

/-- Such a request, which was not cancelled before it was started. -/
structure PageRequest.Sound (coding : JSONCoding)
    (serialize : ParameterDictionary → Except NSError Data) (server : PhotoServer)
    (factory : PhotosDataSourceFactory) (page : PageRequest) : Prop extends
    page.Asked coding serialize server factory where
  life : page.network.Life (NetworkRequest.CarriesAnswer coding)
  fresh : page.network.started = false → page.network.isCancelled = false

namespace PageRequest.Sound
variable {coding : JSONCoding} {serialize : ParameterDictionary → Except NSError Data}
  {server : PhotoServer} {factory : PhotosDataSourceFactory} {page after : PageRequest}

theorem new (operation : UnsplashPagedRequest) :
    Sound coding serialize server factory ⟨operation, { kind := factory.kind }, none⟩ where
  toAsked := .new operation
  life := .ready (NetworkRequest.ready_new _)
  fresh _ := rfl

theorem start (h : page.Sound coding serialize server factory) {order : IterationOrder}
    (hstart : Fetching.start coding serialize factory order page = some after) :
    after.Sound coding serialize server factory ∧ after.operation = page.operation := by
  obtain ⟨network, hstep, rfl⟩ := Option.map_eq_some_iff.mp hstart
  obtain ⟨hstarted, hnetwork⟩ := Option.ite_none_left_eq_some.mp hstep
  obtain rfl := Option.some.inj hnetwork
  have hready := h.life.ready_of_not_started (Bool.eq_false_iff.mpr hstarted)
  have hcond : NetworkRequest.ReadsItsAnswer coding page.network (.start false
      ((factory.unsplashRequest page.operation).prepareURLRequest order serialize).isOk) := by
    refine ⟨?_, fun _ _ hevent => by cases hevent⟩
    rintro _ _ ⟨⟩
    rw [h.fresh hready.started, Bool.or_false]
  obtain ⟨hiff, hlife⟩ := (NetworkRequest.carriesAnswer_kept coding).step h.life hstep
  obtain ⟨hasked, hoperation⟩ := h.toAsked.start hready.received hstart
  refine ⟨⟨hasked, hlife (hiff.mpr hcond), fun hfresh => ?_⟩, hoperation⟩
  obtain ⟨-, -, hafter⟩ := page.network.start_keeps false
    ((factory.unsplashRequest page.operation).prepareURLRequest order serialize).isOk
  exact absurd (hfresh.symm.trans hafter) (by decide)

theorem processResponse (h : page.Sound coding serialize server factory) (hplain : factory.Plain)
    {outcome : TaskOutcome} {network : NetworkRequest}
    (hserved : page.Served coding server outcome)
    (hstep : (NetworkRequest.machine coding).step page.network (.processResponse outcome) =
      some network) :
    PageRequest.Sound coding serialize server factory { page with network := network } := by
  have hcond : NetworkRequest.ReadsItsAnswer coding page.network (.processResponse outcome) := by
    refine ⟨fun _ _ hevent => (by cases hevent), ?_⟩
    rintro _ body ⟨⟩ hsuccess hdata ⟨hkind, json', hjson', hresults⟩
    obtain ⟨json, hjson, hpage⟩ := h.answers hplain hserved hsuccess hdata
    obtain rfl := Option.some.inj (hjson.symm.trans hjson')
    cases factory with
    | search text => cases hpage.symm.trans hresults
    | collection identifier => cases h.kind.symm.trans hkind
  obtain ⟨hiff, hlife⟩ := (NetworkRequest.carriesAnswer_kept coding).step h.life hstep
  obtain ⟨hawaits, hnetwork⟩ := Option.ite_none_right_eq_some.mp hstep
  have hwaits := h.life.waiting_of_awaitsResponse hawaits
  refine ⟨h.toAsked.processResponse hwaits.error hserved hstep, hlife (hiff.mpr hcond),
    fun hfresh => ?_⟩
  obtain rfl := Option.some.inj hnetwork
  have hnone : (page.network.receive outcome).error = none := hwaits.error
  obtain ⟨-, -, hstarted⟩ := (NetworkRequest.processed hnone outcome).keeps
  exact absurd (hfresh.symm.trans (hstarted.trans hwaits.started)) (by decide)

end PageRequest.Sound

namespace Fetching

/-! ### Page by page -/

section
variable (decoder : JSONDecoder) (jsonObject : Data → Option JSON)
  (data : List JSON → Except NSError Data)
  (serialize : ParameterDictionary → Except NSError Data) (server : PhotoServer)
  (factory : PhotosDataSourceFactory)

/-- The photos that can be delivered: all of them, or those of the pages before the first with
a photo that cannot be read. -/
def deliverable : List UnsplashPhoto :=
  Paging.readable (UnsplashPhotoPicker.photo? decoder) 30 (server.photos factory)

/-- What the delegate has been handed. -/
def fetched : PagedDataSourceDelegate → List UnsplashPhoto
  | .didFetch items => items
  | .dataSourceWillStartFetching | .fetchDidFailWithError _ => []

/-- The data source has been delivered a number of pages, and its requests are for pages. -/
structure Sound (s : Nat) (fetching : Fetching) : Prop where
  asks : fetching.run.dataSource.factory = factory
  delivered : fetching.run.dataSource.Delivered (deliverable decoder server factory) 30 s
  whole : fetching.run.dataSource.canFetchMore = false →
    ∀ json ∈ server.photos factory, (UnsplashPhotoPicker.photo? decoder json).isSome = true
  handed : fetching.run.delegateCalls.flatMap fetched = fetching.run.dataSource.items
  operations : fetching.requests.map PageRequest.operation =
    fetching.run.dataSource.operationQueue.tasks.map SessionTask.request
  requests : ∀ page ∈ fetching.requests,
    page.Sound (UnsplashPhotoPicker.coding decoder jsonObject data) serialize server factory

/-- The data source is not reset or cancelled, and what comes back is the server's. -/
def ServedBy (fetching : Fetching) (event : FetchingEvent) : Prop :=
  event ≠ .reset ∧ event ≠ .cancelFetch ∧
  ∀ request outcome page, event = .processResponse request outcome →
    fetching.requests[request]? = some page →
      page.Served (UnsplashPhotoPicker.coding decoder jsonObject data) server outcome

end

variable {decoder : JSONDecoder} {jsonObject : Data → Option JSON}
  {data : List JSON → Except NSError Data}
  {serialize : ParameterDictionary → Except NSError Data} {server : PhotoServer}
  {factory : PhotosDataSourceFactory} {fetching after : Fetching} {s : Nat}

theorem sound_launch : Sound decoder jsonObject data serialize server factory 0
    (launch factory) where
  asks := rfl
  delivered := by
    have h := DataSourceRun.delivered_start (deliverable decoder server factory) factory 30
    rw [DataSourceRun.start_initialCursor] at h
    exact h
  whole hlast := by cases hlast
  handed := rfl
  operations := rfl
  requests _ hpage := by cases hpage

/-- Every new operation on the queue becomes a request. -/
theorem call_requests {after : DataSourceRun} {tasks : List (SessionTask UnsplashPagedRequest)}
    (hlength : fetching.requests.length = fetching.run.dataSource.operationQueue.tasks.length)
    (htasks : after.dataSource.operationQueue.tasks =
      fetching.run.dataSource.operationQueue.tasks ++ tasks) :
    (fetching.call after).requests = fetching.requests ++ tasks.map fun task =>
      ⟨task.request, { kind := after.dataSource.factory.kind }, none⟩ := by
  rw [call, htasks, hlength, List.drop_left]

/-- A fetch puts operations on the queue, and does nothing else to the items or the factory. -/
theorem fetchNextPage_keeps (dataSource : PagedDataSource) :
    (∃ tasks, dataSource.fetchNextPage.1.operationQueue.tasks =
      dataSource.operationQueue.tasks ++ tasks) ∧
    dataSource.fetchNextPage.2.flatMap fetched = [] ∧
    dataSource.fetchNextPage.1.items = dataSource.items ∧
    dataSource.fetchNextPage.1.factory = dataSource.factory := by
  rcases dataSource.fetchNextPage_cases with ⟨-, heq⟩ | ⟨-, -, heq⟩ | ⟨-, -, heq⟩
  · rw [heq]
    exact ⟨⟨[], (List.append_nil _).symm⟩, rfl, rfl, rfl⟩
  · rw [heq]
    exact ⟨⟨[], (List.append_nil _).symm⟩, rfl, rfl, rfl⟩
  · rw [heq]
    exact ⟨⟨_, rfl⟩, rfl, rfl, rfl⟩

/-- A fetch keeps what has been delivered. -/
theorem Sound.fetchNextPage
    (h : Sound decoder jsonObject data serialize server factory s fetching) :
    Sound decoder jsonObject data serialize server factory s
      (fetching.call (fetching.run.record fetching.run.dataSource.fetchNextPage)) := by
  obtain ⟨⟨tasks, htasks⟩, hcalls, hitems, hfactory⟩ :=
    fetchNextPage_keeps fetching.run.dataSource
  have hlength : fetching.requests.length =
      fetching.run.dataSource.operationQueue.tasks.length := by
    simpa using congrArg List.length h.operations
  have hrequests : (fetching.call (fetching.run.record
      fetching.run.dataSource.fetchNextPage)).requests = _ := call_requests hlength htasks
  refine ⟨hfactory.trans h.asks, h.delivered.fetchNextPage, fun hlast => h.whole ?_, ?_, ?_, ?_⟩
  · rw [← fetching.run.dataSource.fetchNextPage_canFetchMore]
    exact hlast
  · show (fetching.run.delegateCalls ++ fetching.run.dataSource.fetchNextPage.2).flatMap fetched =
      fetching.run.dataSource.fetchNextPage.1.items
    rw [List.flatMap_append, h.handed, hcalls, List.append_nil, hitems]
  · show _ = fetching.run.dataSource.fetchNextPage.1.operationQueue.tasks.map SessionTask.request
    rw [hrequests, List.map_append, h.operations, htasks, List.map_append, List.map_map]
    rfl
  · rw [hrequests, List.forall_mem_append]
    refine ⟨h.requests, fun page hpage => ?_⟩
    obtain ⟨task, -, rfl⟩ := List.mem_map.mp hpage
    show PageRequest.Sound _ _ _ _ ⟨task.request,
      { kind := fetching.run.dataSource.fetchNextPage.1.factory.kind }, none⟩
    rw [hfactory, h.asks]
    exact .new task.request

/-- A step of a request. -/
theorem Sound.stepRequest (h : Sound decoder jsonObject data serialize server factory s fetching)
    {request : TaskId} {step : PageRequest → Option PageRequest}
    (hkept : ∀ page after, page.Sound (UnsplashPhotoPicker.coding decoder jsonObject data) serialize
      server factory → fetching.requests[request]? = some page → step page = some after →
        after.Sound (UnsplashPhotoPicker.coding decoder jsonObject data) serialize server factory ∧
          after.operation = page.operation)
    (hstep : fetching.stepRequest request step = some after) :
    Sound decoder jsonObject data serialize server factory s after := by
  obtain ⟨page, hpage, hstep⟩ := Option.bind_eq_some_iff.mp hstep
  obtain ⟨page', hpage', rfl⟩ := Option.map_eq_some_iff.mp hstep
  obtain ⟨hsound, hoperation⟩ := hkept page page' (h.requests page (List.mem_of_getElem? hpage))
    hpage hpage'
  refine ⟨h.asks, h.delivered, h.whole, h.handed, ?_, fun other hother => ?_⟩
  · show (fetching.requests.set request page').map PageRequest.operation = _
    obtain ⟨hlt, rfl⟩ := List.getElem?_eq_some_iff.mp hpage
    have hlt' : request < (fetching.requests.map PageRequest.operation).length := by
      rwa [List.length_map]
    rw [List.map_set, hoperation, ← h.operations, ← List.getElem_map (h := hlt'),
      List.set_getElem_self]
  · rcases List.mem_or_eq_of_mem_set hother with hold | rfl
    · exact h.requests other hold
    · exact hsound

/-- The photos of a request are the page it was made for. -/
theorem Sound.mapM_page (h : Sound decoder jsonObject data serialize server factory s fetching)
    (hwritten : UnsplashPhotoPicker.ReadsBack jsonObject data)
    (hplain : factory.Plain) {request : TaskId} {page : PageRequest}
    (hpage : fetching.requests[request]? = some page) (hfinished : page.network.isFinished = true)
    {photos : List UnsplashPhoto} (hsuccess : page.network.result.success = some photos) :
    (Paging.page (server.photos factory) page.operation.cursor.perPage
      (page.operation.cursor.page - 1)).mapM (UnsplashPhotoPicker.photo? decoder) =
        some photos := by
  have hsound := h.requests page (List.mem_of_getElem? hpage)
  obtain ⟨herror, hphotos⟩ := RequestResult.success_eq_some.mp hsuccess
  have hnone : page.network.error = none := Option.map_eq_none_iff.mp herror
  obtain ⟨answered, hanswered, hitems⟩ := hsound.life.answer hfinished hnone
  rw [NetworkRequest.result, hitems, RequestResult.photos_map_some] at hphotos
  obtain rfl := Option.some.inj hphotos
  exact hsound.mapM_page (fun _ => hwritten) hplain hanswered

/-- The operation of a request is the one its data source knows. -/
theorem Sound.operation_eq (h : Sound decoder jsonObject data serialize server factory s fetching)
    {request : TaskId} {page : PageRequest} (hpage : fetching.requests[request]? = some page)
    {operation : UnsplashPagedRequest}
    (houtstanding : fetching.run.dataSource.operationQueue.Outstanding request operation) :
    page.operation = operation := by
  obtain ⟨task, htask, rfl, -⟩ := houtstanding
  have hsame := congrArg (·[request]?) h.operations
  simp only [List.getElem?_map, hpage, Option.map_some] at hsame
  rw [show fetching.run.dataSource.operationQueue.tasks[request]? = some task from htask,
    Option.map_some] at hsame
  exact Option.some.inj hsame

/-- **A page that is read** is the next one of the deliverable photos. -/
theorem Sound.page_eq (h : Sound decoder jsonObject data serialize server factory s fetching)
    (hwritten : UnsplashPhotoPicker.ReadsBack jsonObject data)
    (hplain : factory.Plain) {request : TaskId} {page : PageRequest}
    (hpage : fetching.requests[request]? = some page) (hfinished : page.network.isFinished = true)
    {operation : UnsplashPagedRequest} {photos : List UnsplashPhoto}
    (houtstanding : fetching.run.dataSource.operationQueue.Outstanding request operation)
    (hsuccess : page.network.result.success = some photos) :
    photos = Paging.page (deliverable decoder server factory) operation.cursor.perPage
        (operation.cursor.page - 1) ∧
      (photos.length < 30 → ∀ json ∈ server.photos factory,
        (UnsplashPhotoPicker.photo? decoder json).isSome = true) := by
  have hmore := h.delivered.more (h.delivered.isFetching houtstanding)
  have hpages := h.delivered.pages
  rw [if_pos hmore] at hpages
  obtain ⟨hcurrent, hbefore, -⟩ := hpages
  have hoperation := h.delivered.request request operation houtstanding
  have hperPage : operation.cursor.perPage = 30 := by
    rw [hoperation, PagedDataSource.request_perPage, h.delivered.perPage]
  have hnumber : operation.cursor.page - 1 = s := by
    rw [hoperation, PagedDataSource.request_page, hcurrent, Nat.add_sub_cancel]
  have hmapM := h.mapM_page hwritten hplain hpage hfinished hsuccess
  rw [h.operation_eq hpage houtstanding, hperPage, hnumber] at hmapM
  obtain ⟨hphotos, hwhole⟩ := Paging.page_readable (by decide) hmapM hbefore
  rw [hperPage, hnumber]
  refine ⟨hphotos, fun hshort => hwhole.resolve_right fun hlong => ?_⟩
  rw [hphotos, Paging.length_page_lt_iff] at hshort
  exact absurd hlong (Nat.not_le_of_lt hshort)

/-- The completion block keeps what has been delivered, or delivers a page more. -/
theorem Sound.requestDidComplete
    (h : Sound decoder jsonObject data serialize server factory s fetching)
    (hwritten : UnsplashPhotoPicker.ReadsBack jsonObject data)
    (hplain : factory.Plain) {request : TaskId} {page : PageRequest}
    (hpage : fetching.requests[request]? = some page) (hfinished : page.network.isFinished = true)
    {run : DataSourceRun} (hstep : DataSourceRun.machine.step fetching.run
      (.requestDidComplete request page.network.result) = some run) :
    ∃ s', Sound decoder jsonObject data serialize server factory s'
      { fetching with run := run } := by
  have hpaging : DataSourceRun.paging.step fetching.run
      (.requestDidComplete request page.network.result) = some run :=
    Machine.restrict_step.mpr ⟨rfl, hstep⟩
  have hdelivered := DataSourceRun.delivered_step h.delivered hpaging (by
    rintro _ _ operation photos ⟨⟩ houtstanding hsuccess
    exact (h.page_eq hwritten hplain hpage hfinished houtstanding hsuccess).1)
  obtain ⟨completed, hcompleted, hrun⟩ := Option.map_eq_some_iff.mp hstep
  obtain ⟨operation, houtstanding, rfl⟩ := PagedDataSource.requestDidComplete_eq_some.mp hcompleted
  subst hrun
  have hoperations : ∀ status, (fetching.run.dataSource.operationQueue.settle request
      status).tasks.map SessionTask.request =
        fetching.run.dataSource.operationQueue.tasks.map SessionTask.request := by
    exact fun status => TaskTable.map_request_settle _ _ status
  rcases PagedDataSource.completionBlock_cases operation page.network.result with
    ⟨-, error, heq⟩ | ⟨photos, herror, hphotos, heq⟩
  · rw [heq] at hdelivered ⊢
    refine ⟨_, h.asks, hdelivered, h.whole, ?_, ?_, h.requests⟩
    · show (fetching.run.delegateCalls ++ _).flatMap fetched = _
      rw [List.flatMap_append, h.handed]
      exact List.append_nil _
    · exact h.operations.trans (hoperations _).symm
  · have hsuccess := RequestResult.success_eq_some.mpr ⟨herror, hphotos⟩
    obtain ⟨-, hwhole⟩ := h.page_eq hwritten hplain hpage hfinished houtstanding hsuccess
    rw [heq] at hdelivered ⊢
    refine ⟨_, h.asks, hdelivered, fun hlast => ?_, ?_, ?_, h.requests⟩
    · have hlast : (fetching.run.dataSource.canFetchMore &&
          !decide (photos.length < fetching.run.dataSource.cursor.perPage)) = false := hlast
      rw [h.delivered.more (h.delivered.isFetching houtstanding), h.delivered.perPage] at hlast
      exact hwhole (by simpa using hlast)
    · show (fetching.run.delegateCalls ++ _).flatMap fetched = _
      rw [List.flatMap_append, h.handed]
      exact congrArg _ (List.append_nil _)
    · exact h.operations.trans (hoperations _).symm

/-- **One step** of a run that is served. -/
theorem Sound.step (h : Sound decoder jsonObject data serialize server factory s fetching)
    (hwritten : UnsplashPhotoPicker.ReadsBack jsonObject data)
    (hplain : factory.Plain) {event : FetchingEvent}
    (hserved : ServedBy decoder jsonObject data server fetching event)
    (hstep : (machine (UnsplashPhotoPicker.coding decoder jsonObject data) serialize).step fetching
      event = some after) :
    ∃ s', Sound decoder jsonObject data serialize server factory s' after := by
  cases event with
  | fetchNextPage =>
    have hstep : (DataSourceRun.machine.step fetching.run .fetchNextPage).map fetching.call =
      some after := hstep
    obtain ⟨run, hrun, rfl⟩ := Option.map_eq_some_iff.mp hstep
    obtain rfl := Option.some.inj hrun
    exact ⟨s, h.fetchNextPage⟩
  | reset => exact absurd rfl hserved.1
  | cancelFetch => exact absurd rfl hserved.2.1
  | start request order =>
    refine ⟨s, h.stepRequest (fun page after hsound _ hstart => ?_) hstep⟩
    rw [h.asks] at hstart
    exact hsound.start hstart
  | processResponse request outcome =>
    refine ⟨s, h.stepRequest (fun page after hsound hpage hresponse => ?_) hstep⟩
    obtain ⟨network, hnetwork, rfl⟩ := Option.map_eq_some_iff.mp hresponse
    have hanswer := hserved.2.2 request outcome page rfl hpage
    exact ⟨hsound.processResponse hplain hanswer hnetwork, rfl⟩
  | completionBlock request =>
    obtain ⟨page, hpage, hstep⟩ := Option.bind_eq_some_iff.mp hstep
    obtain ⟨hfinished, hstep⟩ := Option.ite_none_right_eq_some.mp hstep
    obtain ⟨run, hrun, rfl⟩ := Option.map_eq_some_iff.mp hstep
    exact h.requestDidComplete hwritten hplain hpage hfinished hrun

/-! ### Along a run -/

/-- The data source has the first of the server's photos, has handed its delegate just these,
and does not say that there are no more unless it has them all. -/
structure Fetched (decoder : JSONDecoder) (server : PhotoServer) (factory : PhotosDataSourceFactory)
    (fetching : Fetching) : Prop where
  items : (fetching.run.dataSource.items.map some) <+:
    (server.photos factory).map (UnsplashPhotoPicker.photo? decoder)
  handed : fetching.run.delegateCalls.flatMap fetched = fetching.run.dataSource.items
  whole : fetching.run.dataSource.canFetchMore = false → (server.photos factory).map
    (UnsplashPhotoPicker.photo? decoder) = fetching.run.dataSource.items.map some
  stuck : ∀ i, (hi : i < (server.photos factory).length) →
    UnsplashPhotoPicker.photo? decoder (server.photos factory)[i] = none →
      fetching.run.dataSource.canFetchMore = true ∧
      fetching.run.dataSource.items.length ≤ i / 30 * 30

theorem Sound.fetched (h : Sound decoder jsonObject data serialize server factory s fetching) :
    fetching.Fetched decoder server factory := by
  have hread := Paging.map_take_readableLength (UnsplashPhotoPicker.photo? decoder) 30
    (server.photos factory)
  have hwhole : fetching.run.dataSource.canFetchMore = false → (server.photos factory).map
      (UnsplashPhotoPicker.photo? decoder) = fetching.run.dataSource.items.map some := by
    intro hlast
    rw [h.delivered.items_of_last hlast]
    exact Paging.mapM_eq_some_iff.mp (Paging.mapM_eq_readable (h.whole hlast))
  refine ⟨?_, h.handed, hwhole, fun i hi hnone => ⟨?_, ?_⟩⟩
  · rw [h.delivered.items, List.map_take, deliverable, ← hread]
    exact (List.take_prefix _ _).trans ((List.take_prefix _ _).map _)
  · rcases Bool.eq_false_or_eq_true fetching.run.dataSource.canFetchMore with hmore | hlast
    · exact hmore
    · have hsome := h.whole hlast _ (List.getElem_mem hi)
      rw [hnone] at hsome
      cases hsome
  · rw [h.delivered.items, List.length_take]
    exact Nat.le_trans (Nat.min_le_right _ _) (Paging.length_readable_le hi hnone)

end Fetching

end ImSplash
