import ImSplash.Fetching

/-!
# A page, from the fetch to the completion block

An idle data source that fetches has a request for its next page, the request waits for its
response, and with the response the data source has the page, or an error, and is idle again.
-/

namespace ImSplash
open Runs

namespace NetworkRequest
variable {coding : JSONCoding} {request : NetworkRequest}

/-- A request that is started with a URL waits. -/
theorem Ready.waiting_start (coding : JSONCoding) (h : request.Ready)
    (hcancelled : request.isCancelled = false) :
    (NetworkRequest.machine coding).step request (.start false true) =
        some (request.start false true) ∧
      (request.start false true).Waiting := by
  have hstep : (NetworkRequest.machine coding).step request (.start false true) =
      if request.started then none else some (request.start false true) := rfl
  rw [if_neg (by rw [h.started]; decide)] at hstep
  have hnot : ¬ (request.isCancelled || false) = true := by simp [hcancelled]
  have hmain : request.start false true =
      ({ request with started := true }.setIsExecuting true).main true := if_neg hnot
  rw [hmain] at hstep ⊢
  exact ⟨hstep, rfl, rfl, rfl, h.isFinished, h.error, by
    show request.writes ++ _ = _
    rw [h.writes, h.isFinished]
    rfl⟩

theorem Waiting.step_processResponse (h : request.Waiting) (outcome : TaskOutcome) :
    (NetworkRequest.machine coding).step request (.processResponse outcome) =
      some ((request.receive outcome).processResponse coding outcome.response outcome.data
        outcome.error) :=
  if_pos h.awaitsResponse

/-- Without a response it finishes with an error. -/
theorem Waiting.finishes (coding : JSONCoding) (h : request.Waiting) : ∃ after,
    (NetworkRequest.machine coding).step request (.processResponse ⟨none, none, none⟩) =
      some after ∧ after.isFinished = true ∧
      after.result = ⟨some RequestError.noHTTPResponse.toNSError, after.items⟩ :=
  ⟨_, h.step_processResponse _, rfl, rfl⟩

/-- With a body of photos it finishes, and has the photos. -/
theorem Waiting.finishes_with (h : request.Waiting) {body : Data} {json : JSON}
    {photos : List UnsplashPhoto} (hjson : coding.jsonObject body = some json)
    (hphotos : coding.photos body request.kind = some photos) : ∃ after,
    (NetworkRequest.machine coding).step request
      (.processResponse ⟨some (.http 200), some body, none⟩) = some after ∧
      after.isFinished = true ∧ after.result = ⟨none, photos.map some⟩ := by
  have hnone : (request.receive ⟨some (.http 200), some body, none⟩).error = none := h.error
  have hread := processResponse_photos hnone hjson hphotos
  refine ⟨_, h.step_processResponse _, hread.isFinished, ?_⟩
  rw [result, hread.error, hread.items]
  rfl

end NetworkRequest

/-- What a data source asks for after a number of pages. -/
def PhotosDataSourceFactory.query (s : Nat) : PhotosDataSourceFactory → PageQuery
  | .search text => .search text (s + 1) 30
  | .collection identifier => .collection identifier (s + 1) 30

/-- What is plain can be asked for. -/
theorem PhotosDataSourceFactory.Plain.exists_prepared {factory : PhotosDataSourceFactory}
    (hplain : factory.Plain) (operation : UnsplashPagedRequest) (order : IterationOrder)
    (serialize : ParameterDictionary → Except NSError Data) :
    ∃ urlRequest, (factory.unsplashRequest operation).prepareURLRequest order serialize =
      .ok urlRequest := by
  cases factory with
  | search text =>
    have hsurvive : (SearchPhotosRequest.request text operation.cursor.page
        operation.cursor.perPage).ParametersSurvive order serialize :=
      (UnsplashRequest.search_parametersSurvive_iff text _ _).mpr hplain
    obtain ⟨urlRequest, hprepared, -⟩ := hsurvive
    exact ⟨urlRequest, hprepared⟩
  | collection identifier =>
    have hsurvive : (GetCollectionPhotosRequest.request identifier operation.cursor.page
        operation.cursor.perPage).ParametersSurvive order serialize :=
      UnsplashRequest.collection_parametersSurvive identifier _ _
    obtain ⟨urlRequest, hprepared, -⟩ := hsurvive
    exact ⟨urlRequest, hprepared⟩

/-- The server reads from the URL what the cursor is at. -/
theorem PhotosDataSourceFactory.Plain.ofURLRequest {factory : PhotosDataSourceFactory}
    (hplain : factory.Plain) {operation : UnsplashPagedRequest} {order : IterationOrder}
    {serialize : ParameterDictionary → Except NSError Data} {urlRequest : URLRequest} {s : Nat}
    (hpage : operation.cursor.page = s + 1) (hperPage : operation.cursor.perPage = 30)
    (hprepared : (factory.unsplashRequest operation).prepareURLRequest order serialize =
      .ok urlRequest) : PageQuery.ofURLRequest urlRequest = some (factory.query s) := by
  cases factory with
  | search text =>
    have hread := PageQuery.ofURLRequest_search hplain hprepared
    rw [hpage, hperPage] at hread
    exact hread
  | collection identifier =>
    have hread := PageQuery.ofURLRequest_collection hplain hprepared
    rw [hpage, hperPage] at hread
    exact hread

/-- So its answer, for the request that was sent, is what the server has for that page. -/
theorem PhotosDataSourceFactory.Plain.served {factory : PhotosDataSourceFactory}
    (hplain : factory.Plain) {operation : UnsplashPagedRequest} {order : IterationOrder}
    {serialize : ParameterDictionary → Except NSError Data} {urlRequest : URLRequest} {s : Nat}
    (hpage : operation.cursor.page = s + 1) (hperPage : operation.cursor.perPage = 30)
    (hprepared : (factory.unsplashRequest operation).prepareURLRequest order serialize =
      .ok urlRequest)
    (coding : JSONCoding) {server : PhotoServer} {outcome : TaskOutcome}
    (hanswers : ∀ body, outcome.IsSuccess → outcome.data = some body →
      ∃ json, coding.jsonObject body = some json ∧ server.Answers json (factory.query s))
    (network : NetworkRequest) :
    (PageRequest.mk operation network (some urlRequest)).Served coding server outcome := by
  intro body hsuccess hdata
  obtain ⟨json, hjson, hanswer⟩ := hanswers body hsuccess hdata
  exact ⟨urlRequest, factory.query s, json, rfl, hplain.ofURLRequest hpage hperPage hprepared,
    hjson, hanswer⟩

namespace Fetching
variable {coding : JSONCoding} {serialize : ParameterDictionary → Except NSError Data}
  {fetching after : Fetching} {i : TaskId} {page : PageRequest}

/-! ### The steps of a request -/

variable (coding) in
/-- A request that is ready is sent when it starts. -/
theorem start_eq_some (factory : PhotosDataSourceFactory) (hready : page.network.Ready)
    (hcancelled : page.network.isCancelled = false) {order : IterationOrder}
    {urlRequest : URLRequest}
    (hprepared : (factory.unsplashRequest page.operation).prepareURLRequest order serialize =
      .ok urlRequest) :
    start coding serialize factory order page = some { page with
      network := page.network.start false true
      urlRequest := some urlRequest } := by
  obtain ⟨hstep, hwaiting⟩ := hready.waiting_start coding hcancelled
  rw [start, hprepared]
  show Option.map _ ((NetworkRequest.machine coding).step page.network (.start false true)) = _
  rw [hstep, Option.map_some, if_pos hwaiting.awaitsResponse]
  rfl

variable (coding serialize) in
theorem step_start (hpage : fetching.requests[i]? = some page) (hready : page.network.Ready)
    (hcancelled : page.network.isCancelled = false) {order : IterationOrder}
    {urlRequest : URLRequest}
    (hprepared : (fetching.run.dataSource.factory.unsplashRequest
      page.operation).prepareURLRequest order serialize = .ok urlRequest) :
    (machine coding serialize).step fetching (.start i order) = some { fetching with
      requests := fetching.requests.set i { page with
        network := page.network.start false true
        urlRequest := some urlRequest } } := by
  show fetching.stepRequest i _ = _
  rw [stepRequest, hpage, Option.bind_some, start_eq_some coding _ hready hcancelled hprepared]
  rfl

variable (coding serialize) in
theorem step_processResponse (hpage : fetching.requests[i]? = some page) {outcome : TaskOutcome}
    {network : NetworkRequest}
    (hstep : (NetworkRequest.machine coding).step page.network (.processResponse outcome) =
      some network) :
    (machine coding serialize).step fetching (.processResponse i outcome) = some { fetching with
      requests := fetching.requests.set i { page with network := network } } := by
  show fetching.stepRequest i _ = _
  rw [stepRequest, hpage, Option.bind_some, hstep]
  rfl

variable (coding serialize fetching) in
theorem step_completionBlock (hpage : fetching.requests[i]? = some page)
    (hfinished : page.network.isFinished = true)
    {operation : UnsplashPagedRequest}
    (houtstanding : fetching.run.dataSource.operationQueue.Outstanding i operation) :
    ∃ status, (machine coding serialize).step fetching (.completionBlock i) = some { fetching with
      run := fetching.run.record ({ fetching.run.dataSource with
        operationQueue := fetching.run.dataSource.operationQueue.settle i
          status }.completionBlock operation page.network.result) } := by
  refine ⟨if page.network.result.error.isNone then .finished else .failed, ?_⟩
  show (fetching.requests[i]?).bind _ = _
  rw [hpage, Option.bind_some, if_pos hfinished]
  show ((fetching.run.dataSource.requestDidComplete i page.network.result).map _).map _ = _
  rw [PagedDataSource.requestDidComplete_eq_some.mpr ⟨operation, houtstanding, rfl⟩]
  rfl

variable {decoder : JSONDecoder} {jsonObject : Data → Option JSON}
  {data : List JSON → Except NSError Data} {server : PhotoServer}
  {factory : PhotosDataSourceFactory} {s : Nat}

/-! ### A round -/

theorem servedBy_start (order : IterationOrder) :
    ServedBy decoder jsonObject data server fetching (.start i order) :=
  ⟨by simp, by simp, fun _ _ _ h => by cases h⟩

theorem servedBy_completionBlock :
    ServedBy decoder jsonObject data server fetching (.completionBlock i) :=
  ⟨by simp, by simp, fun _ _ _ h => by cases h⟩

theorem servedBy_fetchNextPage :
    ServedBy decoder jsonObject data server fetching .fetchNextPage :=
  ⟨by simp, by simp, fun _ _ _ h => by cases h⟩

theorem servedBy_processResponse (hpage : fetching.requests[i]? = some page)
    {outcome : TaskOutcome}
    (hserved : page.Served (UnsplashPhotoPicker.coding decoder jsonObject data) server outcome) :
    ServedBy decoder jsonObject data server fetching (.processResponse i outcome) := by
  refine ⟨by simp, by simp, ?_⟩
  rintro _ _ page' ⟨⟩ hpage'
  obtain rfl := Option.some.inj (hpage.symm.trans hpage')
  exact hserved

/-- The events of a page: the fetch, the start of its request, the response, and the completion
block. -/
def round (request : TaskId) (outcome : TaskOutcome) : List FetchingEvent :=
  [.fetchNextPage, .start request .identity, .processResponse request outcome,
    .completionBlock request]

variable (coding) in
/-- An idle data source that fetches has a new request, for the page its cursor is at. -/
theorem Sound.step_fetchNextPage
    (h : Sound decoder jsonObject data serialize server factory s fetching)
    (hidle : fetching.run.dataSource.isFetching = false)
    (hmore : fetching.run.dataSource.canFetchMore = true) :
    ∃ after, (machine coding serialize).step fetching .fetchNextPage = some after ∧
      after.requests = fetching.requests ++
        [⟨factory.request fetching.run.dataSource.cursor, { kind := factory.kind }, none⟩] ∧
      after.run.dataSource = { fetching.run.dataSource with
        isFetching := true
        operationQueue := fetching.run.dataSource.operationQueue.create
          (fetching.run.dataSource.factory.request fetching.run.dataSource.cursor) } ∧
      after.run.dataSource.operationQueue.Outstanding fetching.requests.length
        (factory.request fetching.run.dataSource.cursor) := by
  have hlength : fetching.requests.length =
      fetching.run.dataSource.operationQueue.tasks.length := by
    simpa using congrArg List.length h.operations
  have hfetch := PagedDataSource.fetchNextPage_of_ready hidle hmore
  have htasks : (fetching.run.record
      fetching.run.dataSource.fetchNextPage).dataSource.operationQueue.tasks =
        fetching.run.dataSource.operationQueue.tasks ++
        [⟨fetching.run.dataSource.factory.request fetching.run.dataSource.cursor, .running⟩] := by
    show fetching.run.dataSource.fetchNextPage.1.operationQueue.tasks = _
    rw [hfetch]
    rfl
  refine ⟨_, rfl, (call_requests hlength htasks).trans ?_, congrArg Prod.fst hfetch, ?_⟩
  · show fetching.requests ++ [PageRequest.mk (fetching.run.dataSource.factory.request _)
      { kind := fetching.run.dataSource.fetchNextPage.1.factory.kind } none] = _
    rw [hfetch, ← h.asks]
  · show fetching.run.dataSource.fetchNextPage.1.operationQueue.Outstanding _ _
    rw [hfetch, ← h.asks]
    exact TaskTable.outstanding_create.mpr (Or.inr ⟨hlength, rfl⟩)

/-- A new request is sent and gets a response. -/
theorem run_sent (hplain : factory.Plain) {operation : UnsplashPagedRequest}
    (hnew : fetching.requests[i]? = some ⟨operation, { kind := factory.kind }, none⟩)
    (hasks : fetching.run.dataSource.factory = factory)
    (hpage : operation.cursor.page = s + 1) (hperPage : operation.cursor.perPage = 30)
    {outcome : TaskOutcome}
    (hanswers : ∀ body, outcome.IsSuccess → outcome.data = some body →
      ∃ json, jsonObject body = some json ∧ server.Answers json (factory.query s))
    {network : NetworkRequest}
    (hresponse : (NetworkRequest.machine (UnsplashPhotoPicker.coding decoder jsonObject data)).step
      (NetworkRequest.start { kind := factory.kind } false true) (.processResponse outcome) =
        some network) :
    ∃ after page, (machine (UnsplashPhotoPicker.coding decoder jsonObject data) serialize).Run
        fetching [.start i .identity, .processResponse i outcome] after ∧
      (machine (UnsplashPhotoPicker.coding decoder jsonObject data) serialize).Along
        (fun fetching event _ => ServedBy decoder jsonObject data server fetching event) fetching
        [.start i .identity, .processResponse i outcome] ∧
      after.run = fetching.run ∧ after.requests.length = fetching.requests.length ∧
      after.requests[i]? = some page ∧ page.network = network := by
  have hlt := (List.getElem?_eq_some_iff.mp hnew).1
  obtain ⟨urlRequest, hprepared⟩ := hplain.exists_prepared operation .identity serialize
  have hstart := step_start (UnsplashPhotoPicker.coding decoder jsonObject data) serialize hnew
    (NetworkRequest.ready_new factory.kind) rfl (hasks ▸ hprepared)
  have hserved := hplain.served hpage hperPage hprepared
    (UnsplashPhotoPicker.coding decoder jsonObject data) hanswers
    (NetworkRequest.start { kind := factory.kind } false true)
  generalize hsent : (PageRequest.mk operation
    (NetworkRequest.start { kind := factory.kind } false true) (some urlRequest)) = sent
    at hstart hserved
  have hset : ({ fetching with requests := fetching.requests.set i sent } :
      Fetching).requests[i]? = some sent := List.getElem?_set_self hlt
  have hreply := step_processResponse (UnsplashPhotoPicker.coding decoder jsonObject data)
    serialize hset (by
      rw [← hsent]
      exact hresponse)
  refine ⟨_, { sent with network := network }, .cons hstart (.cons hreply (.nil _)), ?_, rfl,
    ?_, ?_, rfl⟩
  · rw [Machine.along_cons hstart, Machine.along_cons hreply]
    exact ⟨servedBy_start _, servedBy_processResponse hset hserved, trivial⟩
  · show ((fetching.requests.set _ _).set _ _).length = _
    rw [List.length_set, List.length_set]
  · refine List.getElem?_set_self ?_
    rwa [List.length_set]

/-- **A round of an idle data source** runs to its end, and the completion block finds what is
made of the response. -/
theorem Sound.run_round (h : Sound decoder jsonObject data serialize server factory s fetching)
    (hplain : factory.Plain) (hidle : fetching.run.dataSource.isFetching = false)
    (hmore : fetching.run.dataSource.canFetchMore = true) {outcome : TaskOutcome}
    (hanswers : ∀ body, outcome.IsSuccess → outcome.data = some body →
      ∃ json, jsonObject body = some json ∧ server.Answers json (factory.query s))
    {network : NetworkRequest}
    (hresponse : (NetworkRequest.machine (UnsplashPhotoPicker.coding decoder jsonObject data)).step
      (NetworkRequest.start { kind := factory.kind } false true) (.processResponse outcome) =
        some network) (hfinished : network.isFinished = true) :
    ∃ after, (machine (UnsplashPhotoPicker.coding decoder jsonObject data) serialize).Run fetching
        (round fetching.requests.length outcome) after ∧
      (machine (UnsplashPhotoPicker.coding decoder jsonObject data) serialize).Along
        (fun fetching event _ => ServedBy decoder jsonObject data server fetching event) fetching
        (round fetching.requests.length outcome) ∧
      after.requests.length = fetching.requests.length + 1 ∧
      ∃ dataSource operation, after.run.dataSource =
          (PagedDataSource.completionBlock dataSource operation network.result).1 ∧
        dataSource.items = fetching.run.dataSource.items ∧ dataSource.canFetchMore = true ∧
        dataSource.cursor.perPage = 30 := by
  have hpages := h.delivered.pages
  rw [if_pos hmore] at hpages
  obtain ⟨called, hcalled, hrequests, hdataSource, houtstanding⟩ := h.step_fetchNextPage
    (UnsplashPhotoPicker.coding decoder jsonObject data) hidle hmore
  have hasks : called.run.dataSource.factory = factory := by
    rw [hdataSource]
    exact h.asks
  have hnew : called.requests[fetching.requests.length]? =
      some ⟨factory.request fetching.run.dataSource.cursor, { kind := factory.kind }, none⟩ := by
    rw [hrequests, List.getElem?_append_right le_rfl, Nat.sub_self]
    rfl
  obtain ⟨sent, page, hsent, hserved, hrun, hlength, hpage, hnetwork⟩ :=
    run_sent hplain hnew hasks ((PagedDataSource.request_page ..).trans hpages.1)
      ((PagedDataSource.request_perPage ..).trans h.delivered.perPage) hanswers hresponse
  rw [← hrun] at hdataSource houtstanding
  obtain ⟨status, hcompletes⟩ := step_completionBlock
    (UnsplashPhotoPicker.coding decoder jsonObject data) serialize sent hpage
    (hnetwork ▸ hfinished) houtstanding
  refine ⟨_, .cons hcalled (hsent.append (.cons hcompletes (.nil _))),
    (Machine.along_cons hcalled).mpr ⟨servedBy_fetchNextPage, hserved.append hsent
      ((Machine.along_cons hcompletes).mpr ⟨servedBy_completionBlock, trivial⟩)⟩, ?_,
    { sent.run.dataSource with
      operationQueue := sent.run.dataSource.operationQueue.settle fetching.requests.length
        status }, factory.request fetching.run.dataSource.cursor, ?_, ?_, ?_, ?_⟩
  · show sent.requests.length = _
    rw [hlength, hrequests, List.length_append]
    rfl
  · rw [← hnetwork]
    rfl
  · rw [hdataSource]
  · rw [hdataSource]
    exact hmore
  · rw [hdataSource]
    exact h.delivered.perPage

/-- A round without a response leaves the data source as far as it was. -/
theorem Sound.run_round_error
    (h : Sound decoder jsonObject data serialize server factory s fetching)
    (hplain : factory.Plain) (hidle : fetching.run.dataSource.isFetching = false)
    (hmore : fetching.run.dataSource.canFetchMore = true) :
    ∃ after, (machine (UnsplashPhotoPicker.coding decoder jsonObject data) serialize).Run fetching
        (round fetching.requests.length ⟨none, none, none⟩) after ∧
      (machine (UnsplashPhotoPicker.coding decoder jsonObject data) serialize).Along
        (fun fetching event _ => ServedBy decoder jsonObject data server fetching event) fetching
        (round fetching.requests.length ⟨none, none, none⟩) ∧
      after.requests.length = fetching.requests.length + 1 ∧
      after.run.dataSource.isFetching = false ∧ after.run.dataSource.canFetchMore = true ∧
      after.run.dataSource.items = fetching.run.dataSource.items := by
  obtain ⟨network, hresponse, hfinished, hresult⟩ :=
    ((NetworkRequest.ready_new factory.kind).waiting_start
      (UnsplashPhotoPicker.coding decoder jsonObject data) rfl).2.finishes
        (UnsplashPhotoPicker.coding decoder jsonObject data)
  obtain ⟨after, hrun, hserved, hlength, dataSource, operation, hafter, hitems, hcan, -⟩ :=
    h.run_round hplain hidle hmore (fun _ _ hdata => by cases hdata) hresponse hfinished
  refine ⟨after, hrun, hserved, hlength, ?_⟩
  rw [hafter, ← hitems, ← hcan]
  rcases PagedDataSource.completionBlock_cases operation network.result with
    ⟨-, error, heq⟩ | ⟨photos, herror, -, -⟩
  · rw [heq]
    exact ⟨rfl, rfl, rfl⟩
  · rw [hresult] at herror
    cases herror

/-- **A round with a body of photos** brings its page, which is the last if it is a short one. -/
theorem Sound.run_round_page
    (h : Sound decoder jsonObject data serialize server factory s fetching)
    (hplain : factory.Plain) (hidle : fetching.run.dataSource.isFetching = false)
    (hmore : fetching.run.dataSource.canFetchMore = true) {body : Data} {json : JSON}
    {photos : List UnsplashPhoto} (hjson : jsonObject body = some json)
    (hanswers : server.Answers json (factory.query s))
    (hphotos : (UnsplashPhotoPicker.coding decoder jsonObject data).photos body factory.kind =
      some photos) :
    ∃ after, (machine (UnsplashPhotoPicker.coding decoder jsonObject data) serialize).Run fetching
        (round fetching.requests.length ⟨some (.http 200), some body, none⟩) after ∧
      (machine (UnsplashPhotoPicker.coding decoder jsonObject data) serialize).Along
        (fun fetching event _ => ServedBy decoder jsonObject data server fetching event) fetching
        (round fetching.requests.length ⟨some (.http 200), some body, none⟩) ∧
      after.requests.length = fetching.requests.length + 1 ∧
      after.run.dataSource.isFetching = false ∧
      after.run.dataSource.canFetchMore = !decide (photos.length < 30) ∧
      after.run.dataSource.items = fetching.run.dataSource.items ++ photos := by
  have hread : (UnsplashPhotoPicker.coding decoder jsonObject data).jsonObject body =
    some json := hjson
  have hwaiting := ((NetworkRequest.ready_new factory.kind).waiting_start
    (UnsplashPhotoPicker.coding decoder jsonObject data) rfl).2
  obtain ⟨network, hresponse, hfinished, hresult⟩ := hwaiting.finishes_with hread hphotos
  obtain ⟨after, hrun, hserved, hlength, dataSource, operation, hafter, hitems, hcan, hperPage⟩ :=
    h.run_round hplain hidle hmore (by
      rintro _ - ⟨⟩
      exact ⟨json, hjson, hanswers⟩) hresponse hfinished
  refine ⟨after, hrun, hserved, hlength, ?_⟩
  rw [hafter, hresult, ← hitems]
  rcases PagedDataSource.completionBlock_cases operation ⟨none, photos.map some⟩ with
    ⟨hfails, -⟩ | ⟨photos', -, hsuccess, heq⟩
  · cases (hfails rfl).symm.trans (RequestResult.photos_map_some none photos)
  · rw [RequestResult.photos_map_some, Option.some.injEq] at hsuccess
    subst hsuccess
    rw [heq]
    refine ⟨rfl, ?_, rfl⟩
    show (dataSource.canFetchMore && _) = _
    rw [hcan, hperPage, Bool.true_and]

/-! ### Whatever happens -/

theorem Sound.run (h : Sound decoder jsonObject data serialize server factory s fetching)
    (hwritten : UnsplashPhotoPicker.ReadsBack jsonObject data) (hplain : factory.Plain)
    {events : List FetchingEvent}
    (hrun : (machine (UnsplashPhotoPicker.coding decoder jsonObject data) serialize).Run fetching
      events after)
    (hserved : (machine (UnsplashPhotoPicker.coding decoder jsonObject data) serialize).Along
      (fun fetching event _ => ServedBy decoder jsonObject data server fetching event) fetching
      events) : ∃ s', Sound decoder jsonObject data serialize server factory s' after := by
  have hkept : ∀ fetching event after,
      (∃ s, Sound decoder jsonObject data serialize server factory s fetching) →
      (machine (UnsplashPhotoPicker.coding decoder jsonObject data) serialize).step fetching
        event = some after → ServedBy decoder jsonObject data server fetching event →
          ∃ s, Sound decoder jsonObject data serialize server factory s after := by
    rintro fetching event after ⟨s, h⟩ hstep hserved
    exact h.step hwritten hplain hserved hstep
  exact hrun.invariant hkept ⟨s, h⟩ hserved

/-- As long as there may be more, there are the photos of the pages so far. -/
theorem Sound.length_items (h : Sound decoder jsonObject data serialize server factory s fetching)
    (hmore : fetching.run.dataSource.canFetchMore = true) :
    fetching.run.dataSource.items.length = s * 30 := by
  have hpages := h.delivered.pages
  rw [if_pos hmore] at hpages
  rw [hpages.2.2, List.length_take, Nat.min_eq_left hpages.2.1]

/-- **Whatever happens between the server and the data source**, as long as it is not reset:
the data source has the first of the server's photos, and says that there are no more when it
has them all; a photo that cannot be read holds it up before its page. -/
theorem fetched_along
    (hwritten : UnsplashPhotoPicker.ReadsBack jsonObject data)
    (hplain : factory.Plain) {events : List FetchingEvent}
    (hserved : (machine (UnsplashPhotoPicker.coding decoder jsonObject data) serialize).Along
      (fun fetching event _ => ServedBy decoder jsonObject data server fetching event)
      (launch factory) events) :
    (machine (UnsplashPhotoPicker.coding decoder jsonObject data) serialize).Along
      (fun _ _ after => after.Fetched decoder server factory) (launch factory) events := by
  have hkept : ∀ fetching event after,
      (∃ s, Sound decoder jsonObject data serialize server factory s fetching) →
      (machine (UnsplashPhotoPicker.coding decoder jsonObject data) serialize).step fetching
        event = some after → ServedBy decoder jsonObject data server fetching event →
          (∃ s, Sound decoder jsonObject data serialize server factory s after) ∧
            after.Fetched decoder server factory := by
    rintro fetching event after ⟨s, h⟩ hstep hevent
    obtain ⟨s', h'⟩ := h.step hwritten hplain hevent hstep
    exact ⟨⟨s', h'⟩, h'.fetched⟩
  exact Machine.along_of_invariant hkept ⟨0, sound_launch⟩ hserved

open PhotoServer in
/-- A fetch that fails, and then both pages. -/
def twoPages : List FetchingEvent :=
  round 0 ⟨none, none, none⟩ ++ (round 1 ⟨some (.http 200), some (galleryBody 0), none⟩ ++
    round 2 ⟨some (.http 200), some (galleryBody 1), none⟩)

open PhotoServer UnsplashPhotoPicker in
theorem fetched_along_twoPages :
    (∃ after, (machine jsonCoding fun _ => .error ⟨"", 0⟩).Run (launch (.collection "317099"))
        twoPages after ∧
      after.run.dataSource.items = coloredGallery ∧
      after.run.dataSource.canFetchMore = false) ∧
    (machine jsonCoding fun _ => .error ⟨"", 0⟩).Along
      (fun _ _ after => after.Fetched anyURL ofGallery (.collection "317099"))
      (launch (.collection "317099")) twoPages := by
  have hplain : PhotosDataSourceFactory.Plain (.collection "317099") := by
    show '/' ∉ "317099".toList
    decide
  have hlaunch : Sound anyURL JSONSerialization.jsonObject JSONSerialization.data
    (fun _ => .error ⟨"", 0⟩) ofGallery (.collection "317099") 0
    (launch (.collection "317099")) := sound_launch
  obtain ⟨failed, hrun, hserved, hlength, hidle, hmore, hitems⟩ :=
    hlaunch.run_round_error hplain rfl rfl
  obtain ⟨s, hfailed⟩ := hlaunch.run readsBack_jsonSerialization hplain hrun hserved
  obtain rfl : s = 0 := by
    have hs := hfailed.length_items hmore
    rw [hitems] at hs
    exact (Nat.mul_eq_zero.mp hs.symm).resolve_right (by decide)
  obtain ⟨first, hrun₁, hserved₁, hlength₁, hidle₁, hmore₁, hitems₁⟩ :=
    hfailed.run_round_page hplain hidle hmore (jsonObject_galleryBody 0) rfl
      (photos_galleryBody 0)
  rw [hitems] at hitems₁
  obtain ⟨s, hfirst⟩ := hfailed.run readsBack_jsonSerialization hplain hrun₁ hserved₁
  obtain rfl : s = 1 := by
    have hs := hfirst.length_items hmore₁
    have hlength : (Paging.page coloredGallery 30 0).length = 30 := by
      rw [Paging.length_page, coloredGallery, List.length_map, List.length_range]
      rfl
    rw [hitems₁] at hs
    have hs : (Paging.page coloredGallery 30 0).length = s * 30 := hs
    omega
  obtain ⟨second, hrun₂, hserved₂, -, -, hlast, hitems₂⟩ :=
    hfirst.run_round_page hplain hidle₁ hmore₁ (jsonObject_galleryBody 1) rfl
      (photos_galleryBody 1)
  rw [hitems₁] at hitems₂
  rw [hlength] at hrun₁ hserved₁ hlength₁
  rw [hlength₁] at hrun₂ hserved₂
  refine ⟨⟨second, hrun.append (hrun₁.append hrun₂), hitems₂, hlast⟩, ?_⟩
  exact fetched_along readsBack_jsonSerialization hplain
    (hserved.append hrun (hserved₁.append hrun₁ hserved₂))

end Fetching

end ImSplash
