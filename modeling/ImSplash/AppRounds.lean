import ImSplash.AppHistory
import ImSplash.FetchRounds
import ImSplash.ServedApp

/-!
# A page for the Home screen

A round of the app is one page: the Home screen asks for it, the queue starts the request, the
response comes and the request completes.  Between two rounds the app runs by itself.  Both are
runs of the app with its requests, whatever state it is in.
-/

namespace ImSplash
open Runs

/-- The body of a response that comes. -/
def ServedAppEvent.body? : ServedAppEvent → Option Data
  | .processResponse _ outcome => outcome.data
  | .app _ | .start .. | .completionBlock _ => none

namespace ServedApp
variable {decoder : JSONDecoder} {jsonObject : Data → Option JSON}
  {data : List JSON → Except NSError Data}
  {serialize : ParameterDictionary → Except NSError Data} {server : PhotoServer}
  {served : ServedApp} {whole : AppDependencies}

/-! ### Between the rounds -/

/-- Only a body is anything of the server's. -/
theorem servedBy_of_body {event : ServedAppEvent} (hbody : event.body? = none) :
    ServedBy decoder jsonObject data server served event := by
  rintro _ _ page rfl - body - hdata
  cases hbody.symm.trans hdata

theorem step_app (coding : JSONCoding) (serialize : ParameterDictionary → Except NSError Data)
    {event : AppDependenciesEvent} (hevent : event.isCompletion = false)
    (hstep : AppDependencies.machine.step served.whole event = some whole) :
    (machine coding serialize).step served (.app event) = some (served.follow whole) := by
  show (if event.isCompletion then none else _) = _
  rw [hevent, hstep]
  rfl

theorem Sound.run (h : Sound decoder jsonObject data serialize server served)
    {events : List ServedAppEvent} {after : ServedApp}
    (hrun : (machine (UnsplashPhotoPicker.coding decoder jsonObject data) serialize).Run served
      events after)
    (hserved : (machine (UnsplashPhotoPicker.coding decoder jsonObject data) serialize).Along
      (fun served event _ => ServedBy decoder jsonObject data server served event) served
      events) :
    Sound decoder jsonObject data serialize server after :=
  hrun.invariant (fun _ _ _ h hstep hserved => h.step hserved hstep) h hserved

/-- **The app by itself**: its requests follow. -/
theorem Sound.run_app (h : Sound decoder jsonObject data serialize server served)
    {before : AppDependencies} (hbefore : served.whole = before)
    (events : List AppDependenciesEvent)
    (hevents : ∀ event ∈ events, event.isCompletion = false)
    (hrun : AppDependencies.machine.Run before events whole) :
    ∃ after, (machine (UnsplashPhotoPicker.coding decoder jsonObject data) serialize).Run served
        (events.map .app) after ∧
      (machine (UnsplashPhotoPicker.coding decoder jsonObject data) serialize).Along
        (fun served event _ => ServedBy decoder jsonObject data server served event) served
        (events.map .app) ∧
      Sound decoder jsonObject data serialize server after ∧ after.whole = whole := by
  subst hbefore
  induction events generalizing served with
  | nil =>
    cases hrun
    exact ⟨served, .nil _, trivial, h, rfl⟩
  | cons event events ih =>
    cases hrun with
    | @cons _ next _ _ _ hstep hrest =>
      have happ := step_app (UnsplashPhotoPicker.coding decoder jsonObject data) serialize
        (hevents event List.mem_cons_self) hstep
      obtain ⟨after, hrun, hserved, hafter⟩ := ih (h.step (servedBy_of_body rfl) happ)
        (fun e he => hevents e (List.mem_cons_of_mem event he)) hrest
      exact ⟨after, .cons happ hrun,
        (Machine.along_cons happ).mpr ⟨servedBy_of_body rfl, hserved⟩, hafter⟩

/-! ### A round -/

section
variable (coding : JSONCoding) (serialize : ParameterDictionary → Except NSError Data)
  {i : TaskId} {page : PageRequest}

theorem step_start (hpage : served.requests[i]? = some page) (hready : page.network.Ready)
    (hcancelled : page.network.isCancelled = false) {order : IterationOrder}
    {urlRequest : URLRequest}
    (hprepared : (served.whole.home.dataSource.factory.unsplashRequest
      page.operation).prepareURLRequest order serialize = .ok urlRequest) :
    (machine coding serialize).step served (.start i order) = some { served with
      requests := served.requests.set i { page with
        network := page.network.start false true
        urlRequest := some urlRequest } } :=
  stepRequest_eq_some.mpr ⟨page, _, hpage,
    Fetching.start_eq_some coding _ hready hcancelled hprepared, rfl⟩

theorem step_processResponse (hpage : served.requests[i]? = some page) {outcome : TaskOutcome}
    {network : NetworkRequest}
    (hstep : (NetworkRequest.machine coding).step page.network (.processResponse outcome) =
      some network) :
    (machine coding serialize).step served (.processResponse i outcome) = some { served with
      requests := served.requests.set i { page with network := network } } :=
  stepRequest_eq_some.mpr ⟨page, _, hpage, congrArg (Option.map _) hstep, rfl⟩

theorem step_completionBlock (hpage : served.requests[i]? = some page)
    (hfinished : page.network.isFinished = true)
    (hwhole : AppDependencies.machine.step served.whole
      (.home (.requestDidComplete i page.network.result)) = some whole) :
    (machine coding serialize).step served (.completionBlock i) = some (served.follow whole) := by
  show (served.requests[i]?).bind _ = _
  rw [hpage, Option.bind_some, if_pos hfinished, hwhole]
  rfl

end

/-- The Home screen asks, and its request is answered. -/
def round (event : AppDependenciesEvent) (request : TaskId) (outcome : TaskOutcome) :
    List ServedAppEvent :=
  [.app event, .start request .identity, .processResponse request outcome,
    .completionBlock request]

/-- A new operation is a new request. -/
theorem requests_follow_new (hfactory : whole.home.dataSource.factory = editorial)
    {operation : SessionTask UnsplashPagedRequest}
    (hnew : whole.home.dataSource.operationQueue.find? served.requests.length =
      some operation) :
    (served.follow whole).requests[served.requests.length]? =
      some ⟨operation.request, { kind := editorial.kind }, none⟩ := by
  have htask : whole.home.dataSource.operationQueue.tasks[served.requests.length]? =
    some operation := hnew
  show (whole.home.dataSource.operationQueue.tasks.mapIdx _)[_]? = _
  rw [List.getElem?_mapIdx, htask, Option.map_some, requestOf,
    List.getElem?_eq_none le_rfl, hfactory]

/-- A new request is sent and gets a response. -/
theorem run_sent {i : TaskId} {k : Nat} {operation : UnsplashPagedRequest}
    (hnew : served.requests[i]? = some ⟨operation, { kind := editorial.kind }, none⟩)
    (hasks : served.whole.home.dataSource.factory = editorial)
    (hpage : operation.cursor.page = k + 1) (hperPage : operation.cursor.perPage = 30)
    {outcome : TaskOutcome}
    (hanswers : ∀ body, outcome.IsSuccess → outcome.data = some body →
      ∃ json, jsonObject body = some json ∧ server.Answers json (editorial.query k))
    {network : NetworkRequest}
    (hresponse : (NetworkRequest.machine (UnsplashPhotoPicker.coding decoder jsonObject
      data)).step (NetworkRequest.start { kind := editorial.kind } false true)
        (.processResponse outcome) = some network) :
    ∃ after page, (machine (UnsplashPhotoPicker.coding decoder jsonObject data) serialize).Run
        served [.start i .identity, .processResponse i outcome] after ∧
      (machine (UnsplashPhotoPicker.coding decoder jsonObject data) serialize).Along
        (fun served event _ => ServedBy decoder jsonObject data server served event) served
        [.start i .identity, .processResponse i outcome] ∧
      after.whole = served.whole ∧ after.requests[i]? = some page ∧ page.network = network := by
  have hlt := (List.getElem?_eq_some_iff.mp hnew).1
  obtain ⟨urlRequest, hprepared⟩ := plain_editorial.exists_prepared operation .identity serialize
  have hstart := step_start (UnsplashPhotoPicker.coding decoder jsonObject data) serialize hnew
    (NetworkRequest.ready_new editorial.kind) rfl (hasks ▸ hprepared)
  have hanswered := plain_editorial.served hpage hperPage hprepared
    (UnsplashPhotoPicker.coding decoder jsonObject data) hanswers
    (NetworkRequest.start { kind := editorial.kind } false true)
  generalize hsent : (PageRequest.mk operation
    (NetworkRequest.start { kind := editorial.kind } false true) (some urlRequest)) = sent
    at hstart hanswered
  have hset : ({ served with requests := served.requests.set i sent } : ServedApp).requests[i]? =
    some sent := List.getElem?_set_self hlt
  have hreply := step_processResponse (UnsplashPhotoPicker.coding decoder jsonObject data) serialize
    hset (by
      rw [← hsent]
      exact hresponse)
  refine ⟨_, { sent with network := network }, .cons hstart (.cons hreply (.nil _)), ?_, rfl, ?_,
    rfl⟩
  · rw [Machine.along_cons hstart, Machine.along_cons hreply]
    refine ⟨servedBy_of_body rfl, ?_, trivial⟩
    rintro _ _ page ⟨⟩ hget
    obtain rfl := Option.some.inj (hset.symm.trans hget)
    exact hanswered
  · refine List.getElem?_set_self ?_
    rwa [List.length_set]

/-- **A page is fetched**: if the response that comes is the server's, it is delivered. -/
theorem Sound.run_round (h : Sound decoder jsonObject data serialize server served)
    {event : AppDependenciesEvent} (hevent : event.isCompletion = false)
    {asked : AppDependencies}
    (hasked : AppDependencies.machine.step served.whole event = some asked)
    {k : Nat} {operation : SessionTask UnsplashPagedRequest}
    (hnew : asked.home.dataSource.operationQueue.find? served.requests.length = some operation)
    (hpage : operation.request.cursor.page = k + 1)
    (hperPage : operation.request.cursor.perPage = 30)
    {outcome : TaskOutcome} {network : NetworkRequest}
    (hresponse : (NetworkRequest.machine (UnsplashPhotoPicker.coding decoder jsonObject
      data)).step (NetworkRequest.start { kind := editorial.kind } false true)
        (.processResponse outcome) = some network)
    (hfinished : network.isFinished = true)
    (hanswers : ∀ body, outcome.IsSuccess → outcome.data = some body →
      ∃ json, jsonObject body = some json ∧ server.Answers json (editorial.query k))
    (hwhole : AppDependencies.machine.step asked
      (.home (.requestDidComplete served.requests.length network.result)) = some whole) :
    ∃ after, (machine (UnsplashPhotoPicker.coding decoder jsonObject data) serialize).Run served
        (round event served.requests.length outcome) after ∧
      (machine (UnsplashPhotoPicker.coding decoder jsonObject data) serialize).Along
        (fun served event _ => ServedBy decoder jsonObject data server served event) served
        (round event served.requests.length outcome) ∧
      Sound decoder jsonObject data serialize server after ∧ after.whole = whole := by
  have happ := step_app (UnsplashPhotoPicker.coding decoder jsonObject data) serialize hevent hasked
  have hfactory : asked.home.dataSource.factory = editorial :=
    (h.step (servedBy_of_body rfl) happ).asks
  obtain ⟨sent, page, hsent, hanswered, hwhole', hget, hnetwork⟩ :=
    run_sent (requests_follow_new hfactory hnew) hfactory hpage hperPage hanswers hresponse
  have hdone : AppDependencies.machine.step sent.whole
      (.home (.requestDidComplete served.requests.length page.network.result)) = some whole := by
    rw [hwhole', hnetwork]
    exact hwhole
  have hcompletes := step_completionBlock (UnsplashPhotoPicker.coding decoder jsonObject data)
    serialize hget (hnetwork ▸ hfinished) hdone
  have hcompleted : (machine (UnsplashPhotoPicker.coding decoder jsonObject data) serialize).Along
      (fun served event _ => ServedBy decoder jsonObject data server served event) sent
      [.completionBlock served.requests.length] := by
    rw [Machine.along_cons hcompletes]
    exact ⟨servedBy_of_body rfl, trivial⟩
  have hrun := Machine.Run.cons happ (hsent.append (.cons hcompletes (.nil _)))
  have hserved := (Machine.along_cons happ).mpr ⟨servedBy_of_body rfl,
    hanswered.append hsent hcompleted⟩
  exact ⟨_, hrun, hserved, h.run hrun hserved, rfl⟩

/-! ### A page of the gallery -/

section
open PhotoServer UnsplashPhotoPicker

/-- The app, whose server has the gallery; it makes no request with a body. -/
abbrev galleryMachine : Machine ServedApp ServedAppEvent :=
  machine jsonCoding fun _ => .error ⟨"", 0⟩

abbrev ByGallery (served : ServedApp) (event : ServedAppEvent) (_ : ServedApp) : Prop :=
  ServedBy anyURL JSONSerialization.jsonObject JSONSerialization.data ofGallery served event

abbrev GallerySound (served : ServedApp) : Prop :=
  Sound anyURL JSONSerialization.jsonObject JSONSerialization.data (fun _ => .error ⟨"", 0⟩)
    ofGallery served

/-- A page of the gallery, as it is answered. -/
def galleryAnswer (k : Nat) : TaskOutcome := ⟨some (.http 200), some (galleryBody k), none⟩

/-- Any page can be fetched, and is delivered. -/
theorem run_galleryPage (h : GallerySound served) {before asked : AppDependencies}
    (hbefore : served.whole = before) (event : AppDependenciesEvent)
    (hevent : event.isCompletion = false)
    (hasked : AppDependencies.machine.step before event = some asked) (k i : Nat)
    (hlength : before.home.dataSource.operationQueue.nextId = i)
    {operation : SessionTask UnsplashPagedRequest}
    (hnew : asked.home.dataSource.operationQueue.find? i = some operation)
    (hpage : operation.request.cursor.page = k + 1)
    (hperPage : operation.request.cursor.perPage = 30)
    (hwhole : AppDependencies.machine.step asked (.home (.requestDidComplete i
      ⟨none, (Paging.page coloredGallery 30 k).map some⟩)) = some whole) :
    ∃ after, galleryMachine.Run served (round event i (galleryAnswer k)) after ∧
      galleryMachine.Along ByGallery served (round event i (galleryAnswer k)) ∧
      GallerySound after ∧ after.whole = whole := by
  subst hbefore
  obtain rfl : served.requests.length = i := h.length.trans hlength
  have hwaiting := ((NetworkRequest.ready_new editorial.kind).waiting_start jsonCoding rfl).2
  obtain ⟨network, hresponse, hfinished, hresult⟩ :=
    hwaiting.finishes_with (jsonObject_galleryBody k) (photos_galleryBody k)
  refine h.run_round hevent hasked hnew hpage hperPage hresponse hfinished ?_ (hresult ▸ hwhole)
  rintro body - ⟨⟩
  exact ⟨_, jsonObject_galleryBody k, rfl⟩

end

end ServedApp

end ImSplash
