import ImSplash.AppDependencies
import ImSplash.ServedRequests

/-!
# The app with its requests

The whole app with the requests of its Home screen.  An operation of the data source is a
request of its own, which the queue starts and a response completes; when the data source is
reset its requests are cancelled, and complete all the same.  If the server reads their URLs
and answers with the pages of its list, what the Home screen takes for granted of a completion
holds.
-/

namespace ImSplash
open Runs

/-! ### The app with its requests -/

/-- The app, and the requests of the data source of its Home screen. -/
structure ServedApp where
  whole : AppDependencies
  requests : List PageRequest := []

inductive ServedAppEvent
  /-- Anything but the completion of a request. -/
  | app (event : AppDependenciesEvent)
  /-- The queue starts a request, which iterates its parameters in some order. -/
  | start (request : TaskId) (order : IterationOrder)
  /-- The data task of a request completes. -/
  | processResponse (request : TaskId) (outcome : TaskOutcome)
  /-- A finished request runs its completion block. -/
  | completionBlock (request : TaskId)

/-- The event is the completion of a request. -/
def AppDependenciesEvent.isCompletion : AppDependenciesEvent → Bool
  | .home (.requestDidComplete ..) => true
  | _ => false

namespace ServedApp

/-- The app as it starts. -/
def launch (realm : Realm) (files : FileManager) (documentsPath : URL) : ServedApp where
  whole := .launch realm files documentsPath

variable (coding : JSONCoding) (serialize : ParameterDictionary → Except NSError Data)
  (served : ServedApp)

/-- The request of an operation: a new one is made for a new operation, and an operation that
is cancelled is its request being cancelled. -/
def requestOf (whole : AppDependencies) (i : TaskId)
    (operation : SessionTask UnsplashPagedRequest) : PageRequest :=
  match served.requests[i]? with
  | some page =>
    if operation.status = .cancelled then { page with network := page.network.cancel } else page
  | none => ⟨operation.request, { kind := whole.home.dataSource.factory.kind }, none⟩

/-- The app after one of its own events. -/
def follow (whole : AppDependencies) : ServedApp where
  whole := whole
  requests := whole.home.dataSource.operationQueue.tasks.mapIdx (served.requestOf whole)

/-- A request takes a step. -/
def stepRequest (request : TaskId) (step : PageRequest → Option PageRequest) : Option ServedApp :=
  (served.requests[request]?).bind fun page => (step page).map fun page =>
    { served with requests := served.requests.set request page }

/-- The app and its requests, one event at a time. -/
def machine : Machine ServedApp ServedAppEvent where
  step served
    | .app event =>
      if event.isCompletion then none
      else (AppDependencies.machine.step served.whole event).map served.follow
    | .start request order =>
      served.stepRequest request
        (Fetching.start coding serialize served.whole.home.dataSource.factory order)
    | .processResponse request outcome =>
      served.stepRequest request fun page =>
        ((NetworkRequest.machine coding).step page.network (.processResponse outcome)).map
          fun network => { page with network := network }
    | .completionBlock request =>
      (served.requests[request]?).bind fun page =>
        if page.network.isFinished then
          (AppDependencies.machine.step served.whole
            (.home (.requestDidComplete request page.network.result))).map served.follow
        else none

/-- The event of the app that an event amounts to. -/
def appEvent : ServedAppEvent → Option AppDependenciesEvent
  | .app event => some event
  | .completionBlock request =>
    (served.requests[request]?).map fun page =>
      .home (.requestDidComplete request page.network.result)
  | .start .. | .processResponse .. => none

variable {coding serialize served} {after : ServedApp}

theorem stepRequest_eq_some {request : TaskId} {step : PageRequest → Option PageRequest} :
    served.stepRequest request step = some after ↔ ∃ page next,
      served.requests[request]? = some page ∧ step page = some next ∧
        after = { served with requests := served.requests.set request next } := by
  unfold stepRequest
  constructor
  · intro h
    obtain ⟨page, hpage, h⟩ := Option.bind_eq_some_iff.mp h
    obtain ⟨next, hnext, rfl⟩ := Option.map_eq_some_iff.mp h
    exact ⟨page, next, hpage, hnext, rfl⟩
  · rintro ⟨page, next, hpage, hnext, rfl⟩
    rw [hpage, Option.bind_some, hnext]
    rfl

/-- What an event does: it is an event of the app, which its requests follow, or a step of one
of the requests. -/
inductive Step (coding : JSONCoding) (serialize : ParameterDictionary → Except NSError Data)
    (served : ServedApp) : ServedAppEvent → ServedApp → Prop
  | app {event : AppDependenciesEvent} {whole : AppDependencies}
      (hevent : event.isCompletion = false)
      (hstep : AppDependencies.machine.step served.whole event = some whole) :
      Step coding serialize served (.app event) (served.follow whole)
  | start {request : TaskId} {order : IterationOrder} {page next : PageRequest}
      (hpage : served.requests[request]? = some page)
      (hnext : Fetching.start coding serialize served.whole.home.dataSource.factory order page =
        some next) :
      Step coding serialize served (.start request order)
        { served with requests := served.requests.set request next }
  | processResponse {request : TaskId} {outcome : TaskOutcome} {page : PageRequest}
      {network : NetworkRequest} (hpage : served.requests[request]? = some page)
      (hstep : (NetworkRequest.machine coding).step page.network (.processResponse outcome) =
        some network) :
      Step coding serialize served (.processResponse request outcome)
        { served with requests := served.requests.set request { page with network := network } }
  | completionBlock {request : TaskId} {page : PageRequest} {whole : AppDependencies}
      (hpage : served.requests[request]? = some page) (hfinished : page.network.isFinished = true)
      (hstep : AppDependencies.machine.step served.whole
        (.home (.requestDidComplete request page.network.result)) = some whole) :
      Step coding serialize served (.completionBlock request) (served.follow whole)

theorem step_of_step {event : ServedAppEvent}
    (hstep : (machine coding serialize).step served event = some after) :
    served.Step coding serialize event after := by
  cases event with
  | app event =>
    obtain ⟨hevent, hstep⟩ := Option.ite_none_left_eq_some.mp hstep
    obtain ⟨whole, hwhole, rfl⟩ := Option.map_eq_some_iff.mp hstep
    exact .app (Bool.eq_false_iff.mpr hevent) hwhole
  | start request order =>
    obtain ⟨page, next, hpage, hnext, rfl⟩ := stepRequest_eq_some.mp hstep
    exact .start hpage hnext
  | processResponse request outcome =>
    obtain ⟨page, next, hpage, hnext, rfl⟩ := stepRequest_eq_some.mp hstep
    obtain ⟨network, hnetwork, rfl⟩ := Option.map_eq_some_iff.mp hnext
    exact .processResponse hpage hnetwork
  | completionBlock request =>
    obtain ⟨page, hpage, hstep⟩ := Option.bind_eq_some_iff.mp hstep
    obtain ⟨hfinished, hstep⟩ := Option.ite_none_right_eq_some.mp hstep
    obtain ⟨whole, hwhole, rfl⟩ := Option.map_eq_some_iff.mp hstep
    exact .completionBlock hpage hfinished hwhole

variable (coding serialize) in
/-- The app with its requests is the app. -/
def projection : Projection (machine coding serialize) AppDependencies.machine fun _ => True where
  state := whole
  event := appEvent
  good _ _ := trivial
  stutter {served after event} _ hstep hevent := by
    cases step_of_step hstep with
    | app => cases hevent
    | start | processResponse => rfl
    | completionBlock hpage =>
      rw [appEvent, hpage] at hevent
      cases hevent
  step {served after event d} _ hstep hevent := by
    cases step_of_step hstep with
    | app hno hwhole =>
      obtain rfl := Option.some.inj hevent
      exact hwhole
    | start | processResponse => cases hevent
    | completionBlock hpage hfinished hwhole =>
      rw [appEvent, hpage] at hevent
      obtain rfl := Option.some.inj hevent
      exact hwhole

/-! ### What the requests of the Home screen bring -/

/-- The collection of the Home screen. -/
def editorial : PhotosDataSourceFactory := .collection "317099"

theorem plain_editorial : editorial.Plain := by
  show '/' ∉ "317099".toList
  decide

section
variable (decoder : JSONDecoder) (jsonObject : Data → Option JSON)
  (data : List JSON → Except NSError Data)
  (serialize : ParameterDictionary → Except NSError Data) (server : PhotoServer)

/-- The photos of the collection that can be delivered. -/
def photos : List UnsplashPhoto := Fetching.deliverable decoder server editorial

/-- A request is for the page of its operation, and is cancelled with it only. -/
structure Follows (page : PageRequest) (operation : SessionTask UnsplashPagedRequest) :
    Prop where
  made : page.operation = operation.request
  asked : page.Asked (UnsplashPhotoPicker.coding decoder jsonObject data) serialize server editorial
  honest : page.network.Honest (UnsplashPhotoPicker.coding decoder jsonObject data)
  running : page.network.isCancelled = true → page.network.error = none →
    operation.status ≠ .running

structure Sound (served : ServedApp) : Prop where
  wired : served.whole.Wired
  asks : served.whole.home.dataSource.factory = editorial
  within : served.whole.home.dataSource.AsksWithin (photos decoder server)
  length : served.requests.length = served.whole.home.dataSource.operationQueue.nextId
  follows : ∀ {i page operation}, served.requests[i]? = some page →
    served.whole.home.dataSource.operationQueue.find? i = some operation →
      Follows decoder jsonObject data serialize server page operation

/-- What comes back is the server's. -/
def ServedBy (served : ServedApp) (event : ServedAppEvent) : Prop :=
  ∀ request outcome page, event = .processResponse request outcome →
    served.requests[request]? = some page →
      page.Served (UnsplashPhotoPicker.coding decoder jsonObject data) server outcome

end

variable {decoder : JSONDecoder} {jsonObject : Data → Option JSON}
  {data : List JSON → Except NSError Data}
  {serialize : ParameterDictionary → Except NSError Data} {server : PhotoServer}
  {served after : ServedApp} {whole : AppDependencies}

/-- **A request that completes** brings what the Home screen takes for granted. -/
theorem Sound.servedFrom (h : Sound decoder jsonObject data serialize server served)
    {request : TaskId} {page : PageRequest} (hpage : served.requests[request]? = some page)
    (hfinished : page.network.isFinished = true) :
    served.whole.home.ServedFrom (photos decoder server)
      (.requestDidComplete request page.network.result) := by
  rintro _ _ operation ⟨⟩ ⟨task, htask, rfl, houtstanding⟩
  obtain ⟨hoperation, hasked, hhonest, hrunning⟩ := h.follows hpage htask
  cases herror : page.network.error with
  | some error =>
    left
    rw [NetworkRequest.result, herror, Option.map_some]
    exact Option.some_ne_none _
  | none =>
    right
    rcases hhonest.finished hfinished herror with ⟨answered, hanswered, hitems⟩ |
      ⟨hcancelled, hnone⟩
    · left
      obtain ⟨hperPage, hfirst, hreached⟩ := h.within.operations htask
      have hmapM := hasked.mapM_page (fun hsearch => by cases hsearch) plain_editorial hanswered
      rw [hoperation, hperPage] at hmapM
      rw [NetworkRequest.result, hitems, photos, Fetching.deliverable,
        (Paging.page_readable (by decide) hmapM hreached).1]
    · right
      refine ⟨⟨task, htask, ?_⟩, hnone⟩
      cases hstatus : task.status with
      | running => exact absurd hstatus (hrunning hcancelled herror)
      | cancelled => rfl
      | finished | failed =>
        rw [hstatus] at houtstanding
        cases houtstanding

/-- The requests follow an event of the app. -/
theorem Sound.follow (h : Sound decoder jsonObject data serialize server served)
    (hwired : whole.Wired)
    (hcontinues : served.whole.home.dataSource.Continues (photos decoder server)
      whole.home.dataSource) :
    Sound decoder jsonObject data serialize server (served.follow whole) := by
  have hfactory := hcontinues.factory.trans h.asks
  refine ⟨hwired, hfactory, hcontinues.asks h.within, ?_, fun {i page operation} hpage htask => ?_⟩
  · exact List.length_mapIdx
  · have htask' : whole.home.dataSource.operationQueue.tasks[i]? = some operation := htask
    have hrequest : served.requestOf whole i operation = page := by
      have hmapped : (whole.home.dataSource.operationQueue.tasks.mapIdx
        (served.requestOf whole))[i]? = some page := hpage
      rw [List.getElem?_mapIdx, htask', Option.map_some] at hmapped
      exact Option.some.inj hmapped
    rw [← hrequest, requestOf]
    cases hold : served.requests[i]? with
    | none =>
      refine ⟨rfl, ?_, ?_, fun hcancelled => (by cases hcancelled)⟩
      · show PageRequest.Asked _ _ _ _ ⟨_, { kind := whole.home.dataSource.factory.kind }, none⟩
        rw [hfactory]
        exact .new operation.request
      · show NetworkRequest.Honest _ { kind := whole.home.dataSource.factory.kind }
        rw [hfactory]
        exact NetworkRequest.honest_new
    | some old =>
      have hlt : i < served.whole.home.dataSource.operationQueue.nextId := by
        rw [← h.length]
        exact (List.getElem?_eq_some_iff.mp hold).1
      obtain ⟨before, hbefore, hsame, hruns⟩ := hcontinues.goesOn.task hlt htask
      obtain ⟨hoperation, hasked, hhonest, hrunning⟩ := h.follows hold hbefore
      dsimp only
      split
      · rename_i hcancelled
        refine ⟨hoperation.trans hsame.symm, hasked.cancel, hhonest.cancel, fun _ _ => ?_⟩
        rw [hcancelled]
        decide
      · exact ⟨hoperation.trans hsame.symm, hasked, hhonest,
          fun hcancelled herror hnow => hrunning hcancelled herror (hruns hnow)⟩

/-- A request takes a step. -/
theorem Sound.set (h : Sound decoder jsonObject data serialize server served) {request : TaskId}
    {page next : PageRequest} (hpage : served.requests[request]? = some page)
    (hnext : ∀ operation, Follows decoder jsonObject data serialize server page operation →
      Follows decoder jsonObject data serialize server next operation) :
    Sound decoder jsonObject data serialize server
      { served with requests := served.requests.set request next } := by
  refine ⟨h.wired, h.asks, h.within, List.length_set.trans h.length,
    fun {i page' operation} hpage' htask => ?_⟩
  have hset : (served.requests.set request next)[i]? = some page' := hpage'
  by_cases hi : request = i
  · subst hi
    rw [List.getElem?_set_self (List.getElem?_eq_some_iff.mp hpage).1] at hset
    obtain rfl := Option.some.inj hset
    exact hnext operation (h.follows hpage htask)
  · rw [List.getElem?_set_ne hi] at hset
    exact h.follows hset htask

/-- The event of the Home screen that an event amounts to. -/
def homeEvent (served : ServedApp) (event : ServedAppEvent) : Option HomeEvent :=
  (served.appEvent event).bind AppDependencies.homeEvent

/-- What completes is served, in whatever event of the app. -/
theorem Sound.servedFrom_homeEvent (h : Sound decoder jsonObject data serialize server served)
    {event : ServedAppEvent} (hstep : (machine (UnsplashPhotoPicker.coding decoder jsonObject data)
      serialize).step served event = some after) {home : HomeEvent}
    (hhome : served.homeEvent event = some home) :
    served.whole.home.ServedFrom (photos decoder server) home := by
  cases step_of_step hstep with
  | @app event whole hno hwhole =>
    rintro request result operation rfl
    have hevent : AppDependencies.homeEvent event = some (.requestDidComplete request result) :=
      hhome
    cases event with
    | home event =>
      obtain rfl := Option.some.inj hevent
      cases hno
    | _ => cases hevent
  | start | processResponse => cases hhome
  | completionBlock hpage hfinished =>
    rw [homeEvent, appEvent, hpage] at hhome
    obtain rfl := Option.some.inj hhome
    exact h.servedFrom hpage hfinished

/-- The data source of the Home screen continues through an event of the app. -/
theorem continues_of_step {L : List UnsplashPhoto} {event : AppDependenciesEvent}
    {whole' : AppDependencies} (hwired : whole.Wired)
    (hserved : ∀ home, AppDependencies.homeEvent event = some home → whole.home.ServedFrom L home)
    (hstep : AppDependencies.machine.step whole event = some whole') :
    whole.home.dataSource.Continues L whole'.home.dataSource := by
  cases hhome : AppDependencies.homeEvent event with
  | none =>
    have hsame : whole'.home = whole.home :=
      AppDependencies.homeProjection.stutter hwired hstep hhome
    rw [hsame]
    exact .refl _ _
  | some home =>
    exact HomeScreen.continues_step (hserved home hhome)
      (AppDependencies.homeProjection.step hwired hstep hhome)

/-- **One event**, of the app or of a request. -/
theorem Sound.step (h : Sound decoder jsonObject data serialize server served)
    {event : ServedAppEvent} (hserved : ServedBy decoder jsonObject data server served event)
    (hstep : (machine (UnsplashPhotoPicker.coding decoder jsonObject data) serialize).step served
      event = some after) : Sound decoder jsonObject data serialize server after := by
  have hfrom : ∀ home, served.homeEvent event = some home →
      served.whole.home.ServedFrom (photos decoder server) home :=
    fun _ hhome => h.servedFrom_homeEvent hstep hhome
  cases step_of_step hstep with
  | app hno hwhole =>
    exact h.follow (h.wired.step hwhole) (continues_of_step h.wired hfrom hwhole)
  | @start request order page next hpage hnext =>
    refine h.set hpage fun operation hfollows => ?_
    rw [h.asks] at hnext
    obtain ⟨network, hnetwork, rfl⟩ := Option.map_eq_some_iff.mp hnext
    obtain ⟨hstarted, hstart⟩ := Option.ite_none_left_eq_some.mp hnetwork
    have hfresh : page.network.started = false := Bool.eq_false_iff.mpr hstarted
    obtain ⟨hasked, hmade⟩ :=
      hfollows.asked.start (hfollows.honest.fresh hfresh).2.2 hnext
    obtain ⟨hhonest, hcancelled⟩ := hfollows.honest.start hfresh
      ((editorial.unsplashRequest page.operation).prepareURLRequest order serialize).isOk
    obtain rfl := Option.some.inj hstart
    exact ⟨hmade.trans hfollows.made, hasked, hhonest, fun hnow hnone =>
      hfollows.running (hcancelled hnow hnone)
        (hfollows.honest.unfinished (hfollows.honest.fresh hfresh).1).1⟩
  | @processResponse request outcome page network hpage hnetwork =>
    refine h.set hpage fun operation hfollows => ?_
    obtain ⟨hawaits, hresponse⟩ := Option.ite_none_right_eq_some.mp hnetwork
    have herror := (hfollows.honest.unfinished (hfollows.honest.waiting hawaits).2).1
    obtain ⟨hhonest, hcancelled⟩ := hfollows.honest.response hawaits (Option.some.inj hresponse)
    exact ⟨hfollows.made,
      hfollows.asked.processResponse herror (hserved request outcome page rfl hpage) hnetwork,
      hhonest, fun hnow hnone => hfollows.running (hcancelled hnow hnone) herror⟩
  | @completionBlock request page whole hpage hfinished hwhole =>
    refine h.follow (h.wired.step hwhole) (continues_of_step h.wired ?_ hwhole)
    rintro home ⟨⟩
    exact h.servedFrom hpage hfinished

theorem sound_launch (realm : Realm) (files : FileManager) (documentsPath : URL) :
    Sound decoder jsonObject data serialize server (launch realm files documentsPath) where
  wired := AppDependencies.wired_launch realm files documentsPath
  asks := rfl
  within := ⟨PagedDataSource.within_initialCursor editorial, fun hfind => by cases hfind⟩
  length := rfl
  follows hpage := by cases hpage

variable (coding : JSONCoding) (serialize : ParameterDictionary → Except NSError Data) in
/-- The Home screen of the app with its requests. -/
def homeProjection : Projection (machine coding serialize) HomeScreen.machine
    fun served => True ∧ served.whole.Wired :=
  (projection coding serialize).comp AppDependencies.homeProjection

end ServedApp

end ImSplash
