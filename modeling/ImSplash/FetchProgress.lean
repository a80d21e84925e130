import ImSplash.FetchRounds

/-!
# Can the data source always get to the end?

A response that succeeded without any data completes nothing: its request waits for good, and
with it the data source.  Nothing else does that.  Whatever has failed by then, a data source
that does not wait for such a request can still get all photos, if all of them can be read.
-/

namespace ImSplash
open Runs

/-- The server has a body for every page, and the results in it can be written. -/
def PhotoServer.CanAnswer (server : PhotoServer) (factory : PhotosDataSourceFactory)
    (jsonObject : Data → Option JSON) (data : List JSON → Except NSError Data) : Prop :=
  ∀ s, ∃ body json written, jsonObject body = some json ∧ server.Answers json (factory.query s) ∧
    data (Paging.page (server.photos factory) 30 s) = .ok written

namespace Fetching
variable {coding : JSONCoding} {serialize : ParameterDictionary → Except NSError Data}
  {fetching after : Fetching} {i : TaskId} {page : PageRequest}

/-! ### A request that nothing comes to -/

/-- The data source waits for a request that has been answered and has not finished. -/
def Stuck (fetching : Fetching) : Prop :=
  ∃ i page operation, fetching.requests[i]? = some page ∧
    fetching.run.dataSource.operationQueue.Outstanding i operation ∧
    page.network.started = true ∧ page.network.awaitsResponse = false ∧
    page.network.isFinished = false

/-- A data source that fetches waits for a request. -/
def Pending (fetching : Fetching) : Prop :=
  fetching.run.dataSource.isFetching = true →
    ∃ i operation, fetching.run.dataSource.operationQueue.Outstanding i operation

section
variable (decoder : JSONDecoder) (jsonObject : Data → Option JSON)
  (data : List JSON → Except NSError Data)
  (serialize : ParameterDictionary → Except NSError Data) (server : PhotoServer)

/-- A run that is served leads from the one to the other. -/
def Reaches : Fetching → Fetching → Prop :=
  (machine (UnsplashPhotoPicker.coding decoder jsonObject data) serialize).Reaches
    fun fetching event _ => ServedBy decoder jsonObject data server fetching event

end

variable {decoder : JSONDecoder} {jsonObject : Data → Option JSON}
  {data : List JSON → Except NSError Data} {server : PhotoServer}
  {factory : PhotosDataSourceFactory} {s : Nat}

/-- Every operation on the queue is a request. -/
theorem Sound.exists_page (h : Sound decoder jsonObject data serialize server factory s fetching)
    {operation : UnsplashPagedRequest}
    (houtstanding : fetching.run.dataSource.operationQueue.Outstanding i operation) :
    ∃ page, fetching.requests[i]? = some page := by
  have hlength : fetching.requests.length =
      fetching.run.dataSource.operationQueue.tasks.length := by
    simpa using congrArg List.length h.operations
  have hlt : i < fetching.requests.length := hlength ▸ houtstanding.lt_nextId
  exact ⟨_, List.getElem?_eq_getElem hlt⟩

theorem Pending.step (h : fetching.Pending) {event : FetchingEvent}
    (hserved : ServedBy decoder jsonObject data server fetching event)
    (hstep : (machine (UnsplashPhotoPicker.coding decoder jsonObject data) serialize).step fetching
      event = some after) : after.Pending := by
  cases event with
  | fetchNextPage =>
    have hstep : (DataSourceRun.machine.step fetching.run .fetchNextPage).map fetching.call =
      some after := hstep
    obtain ⟨run, hrun, rfl⟩ := Option.map_eq_some_iff.mp hstep
    obtain rfl := Option.some.inj hrun
    intro hfetching
    have hfetching : fetching.run.dataSource.fetchNextPage.1.isFetching = true := hfetching
    show ∃ i operation,
      fetching.run.dataSource.fetchNextPage.1.operationQueue.Outstanding i operation
    rcases fetching.run.dataSource.fetchNextPage_cases with ⟨hbusy, heq⟩ | ⟨-, -, heq⟩ | ⟨-, -, heq⟩
    · rw [heq]
      exact h hbusy
    · rw [heq] at hfetching ⊢
      exact h hfetching
    · rw [heq]
      exact ⟨_, _, TaskTable.outstanding_create.mpr (Or.inr ⟨rfl, rfl⟩)⟩
  | reset => exact absurd rfl hserved.1
  | cancelFetch => exact absurd rfl hserved.2.1
  | start request order | processResponse request outcome =>
    obtain ⟨page, -, hstep⟩ := Option.bind_eq_some_iff.mp hstep
    obtain ⟨page', -, rfl⟩ := Option.map_eq_some_iff.mp hstep
    exact h
  | completionBlock request =>
    obtain ⟨page, -, hstep⟩ := Option.bind_eq_some_iff.mp hstep
    obtain ⟨-, hstep⟩ := Option.ite_none_right_eq_some.mp hstep
    obtain ⟨run, hrun, rfl⟩ := Option.map_eq_some_iff.mp hstep
    obtain ⟨completed, hcompleted, rfl⟩ := Option.map_eq_some_iff.mp hrun
    obtain ⟨operation, -, rfl⟩ := PagedDataSource.requestDidComplete_eq_some.mp hcompleted
    intro hfetching
    rcases PagedDataSource.completionBlock_cases operation page.network.result with
      ⟨-, error, heq⟩ | ⟨photos, -, -, heq⟩
    · cases (congrArg (·.1.isFetching) heq).symm.trans hfetching
    · cases (congrArg (·.1.isFetching) heq).symm.trans hfetching

/-- No step of a request helps that the request it waits for cannot take. -/
theorem stuck_of_stepRequest {operation : UnsplashPagedRequest}
    (hpage : fetching.requests[i]? = some page)
    (houtstanding : fetching.run.dataSource.operationQueue.Outstanding i operation)
    (hstarted : page.network.started = true) (hawaits : page.network.awaitsResponse = false)
    (hfinished : page.network.isFinished = false) {request : TaskId}
    {step : PageRequest → Option PageRequest} (hnone : step page = none)
    (hstep : fetching.stepRequest request step = some after) : after.Stuck := by
  obtain ⟨page', hpage', hstep⟩ := Option.bind_eq_some_iff.mp hstep
  obtain ⟨page'', hpage'', rfl⟩ := Option.map_eq_some_iff.mp hstep
  refine ⟨i, page, operation, ?_, houtstanding, hstarted, hawaits, hfinished⟩
  by_cases heq : request = i
  · subst heq
    obtain rfl := Option.some.inj (hpage.symm.trans hpage')
    cases hnone.symm.trans hpage''
  · show (fetching.requests.set request page'')[i]? = some page
    rw [List.getElem?_set_ne heq]
    exact hpage

/-- **A data source that is stuck stays stuck**, whatever is served. -/
theorem Stuck.step (hstuck : fetching.Stuck)
    (h : Sound decoder jsonObject data serialize server factory s fetching)
    {event : FetchingEvent} (hserved : ServedBy decoder jsonObject data server fetching event)
    (hstep : (machine (UnsplashPhotoPicker.coding decoder jsonObject data) serialize).step fetching
      event = some after) : after.Stuck := by
  obtain ⟨i, page, operation, hpage, houtstanding, hstarted, hawaits, hfinished⟩ := hstuck
  cases event with
  | fetchNextPage =>
    have hstep : (DataSourceRun.machine.step fetching.run .fetchNextPage).map fetching.call =
      some after := hstep
    obtain ⟨run, hrun, rfl⟩ := Option.map_eq_some_iff.mp hstep
    obtain rfl := Option.some.inj hrun
    have hlength : fetching.requests.length =
        fetching.run.dataSource.operationQueue.tasks.length := by
      simpa using congrArg List.length h.operations
    obtain ⟨⟨tasks, htasks⟩, -⟩ := fetchNextPage_keeps fetching.run.dataSource
    refine ⟨i, page, operation, ?_, ?_, hstarted, hawaits, hfinished⟩
    · rw [call_requests hlength htasks]
      exact (List.getElem?_append_left (List.getElem?_eq_some_iff.mp hpage).1).trans hpage
    · obtain ⟨task, htask, hrequest⟩ := houtstanding
      refine ⟨task, ?_, hrequest⟩
      show fetching.run.dataSource.fetchNextPage.1.operationQueue.tasks[i]? = some task
      rw [htasks]
      exact (List.getElem?_append_left (List.getElem?_eq_some_iff.mp htask).1).trans htask
  | reset => exact absurd rfl hserved.1
  | cancelFetch => exact absurd rfl hserved.2.1
  | start request order =>
    refine stuck_of_stepRequest hpage houtstanding hstarted hawaits hfinished ?_ hstep
    exact Option.map_eq_none_iff.mpr (if_pos hstarted)
  | processResponse request outcome =>
    refine stuck_of_stepRequest hpage houtstanding hstarted hawaits hfinished ?_ hstep
    exact Option.map_eq_none_iff.mpr (if_neg (by rw [hawaits]; decide))
  | completionBlock request =>
    -- The request that completes is the one in flight, and that has not finished.
    obtain ⟨page', hpage', hstep⟩ := Option.bind_eq_some_iff.mp hstep
    obtain ⟨hfinished', hstep⟩ := Option.ite_none_right_eq_some.mp hstep
    obtain ⟨run, hrun, rfl⟩ := Option.map_eq_some_iff.mp hstep
    obtain ⟨completed, hcompleted, rfl⟩ := Option.map_eq_some_iff.mp hrun
    obtain ⟨operation', houtstanding', -⟩ :=
      PagedDataSource.requestDidComplete_eq_some.mp hcompleted
    obtain rfl := h.delivered.unique _ _ _ _ houtstanding houtstanding'
    obtain rfl := Option.some.inj (hpage.symm.trans hpage')
    cases hfinished.symm.trans hfinished'

/-! ### Out of whatever has happened -/

/-- A request that has finished ends the fetch. -/
theorem reaches_idle_of_finished (hpage : fetching.requests[i]? = some page)
    (hfinished : page.network.isFinished = true) {operation : UnsplashPagedRequest}
    (houtstanding : fetching.run.dataSource.operationQueue.Outstanding i operation) :
    ∃ after, Reaches decoder jsonObject data serialize server fetching after ∧
      after.run.dataSource.isFetching = false := by
  obtain ⟨status, hstep⟩ := step_completionBlock
    (UnsplashPhotoPicker.coding decoder jsonObject data) serialize fetching hpage hfinished
    houtstanding
  refine ⟨_, .head hstep servedBy_completionBlock (.refl _), ?_⟩
  rcases PagedDataSource.completionBlock_cases operation page.network.result with
    ⟨-, error, heq⟩ | ⟨photos, -, -, heq⟩
  · exact congrArg (·.1.isFetching) heq
  · exact congrArg (·.1.isFetching) heq

/-- One that waits may fail. -/
theorem reaches_idle_of_waiting (hpage : fetching.requests[i]? = some page)
    (hwaiting : page.network.Waiting) {operation : UnsplashPagedRequest}
    (houtstanding : fetching.run.dataSource.operationQueue.Outstanding i operation) :
    ∃ after, Reaches decoder jsonObject data serialize server fetching after ∧
      after.run.dataSource.isFetching = false := by
  obtain ⟨network, hstep, hfinished, -⟩ := hwaiting.finishes
    (UnsplashPhotoPicker.coding decoder jsonObject data)
  have hserved : ServedBy decoder jsonObject data server fetching
      (.processResponse i ⟨none, none, none⟩) :=
    servedBy_processResponse hpage fun body _ hdata => by cases hdata
  have hlt := (List.getElem?_eq_some_iff.mp hpage).1
  obtain ⟨after, hreaches, hidle⟩ : ∃ after,
      Reaches decoder jsonObject data serialize server { fetching with
        requests := fetching.requests.set i { page with network := network } } after ∧
        after.run.dataSource.isFetching = false :=
    reaches_idle_of_finished (List.getElem?_set_self hlt) hfinished houtstanding
  exact ⟨after, .head (step_processResponse _ _ hpage hstep) hserved hreaches, hidle⟩

/-- **Unless it is stuck**, a data source can become idle. -/
theorem Sound.reaches_idle (h : Sound decoder jsonObject data serialize server factory s fetching)
    (hplain : factory.Plain) (hpending : fetching.Pending) (hstuck : ¬ fetching.Stuck) :
    ∃ after, Reaches decoder jsonObject data serialize server fetching after ∧
      after.run.dataSource.isFetching = false := by
  rcases Bool.eq_false_or_eq_true fetching.run.dataSource.isFetching with hfetching | hidle
  · obtain ⟨i, operation, houtstanding⟩ := hpending hfetching
    obtain ⟨page, hpage⟩ := h.exists_page houtstanding
    have hsound := h.requests page (List.mem_of_getElem? hpage)
    cases hsound.life with
    | ready hready =>
      obtain ⟨urlRequest, hprepared⟩ := hplain.exists_prepared page.operation .identity serialize
      rw [← h.asks] at hprepared
      have hcancelled := hsound.fresh hready.started
      have hlt := (List.getElem?_eq_some_iff.mp hpage).1
      obtain ⟨after, hreaches, hidle⟩ : ∃ after,
          Reaches decoder jsonObject data serialize server { fetching with
            requests := fetching.requests.set i { page with
              network := page.network.start false true
              urlRequest := some urlRequest } } after ∧
            after.run.dataSource.isFetching = false :=
        reaches_idle_of_waiting (List.getElem?_set_self hlt)
          (hready.waiting_start (UnsplashPhotoPicker.coding decoder jsonObject data)
            hcancelled).2 houtstanding
      exact ⟨after, .head (step_start _ _ hpage hready hcancelled hprepared)
        (servedBy_start .identity) hreaches, hidle⟩
    | waiting hwaiting => exact reaches_idle_of_waiting hpage hwaiting houtstanding
    | ended hover =>
      have hfinished : page.network.isFinished = true := by
        by_contra hnot
        exact hstuck ⟨i, page, operation, hpage, houtstanding, hover.started,
          hover.awaitsResponse, Bool.eq_false_iff.mpr hnot⟩
      exact reaches_idle_of_finished hpage hfinished houtstanding
  · exact ⟨fetching, .refl _, hidle⟩

/-! ### Page after page -/

theorem Sound.reaches (h : Sound decoder jsonObject data serialize server factory s fetching)
    (hwritten : UnsplashPhotoPicker.ReadsBack jsonObject data)
    (hplain : factory.Plain)
    (hreaches : Reaches decoder jsonObject data serialize server fetching after) :
    ∃ s', Sound decoder jsonObject data serialize server factory s' after := by
  obtain ⟨events, hrun, hserved⟩ := hreaches
  exact h.run hwritten hplain hrun hserved

/-- What the data source asks for is a body of photos. -/
theorem exists_photos
    (hwritten : UnsplashPhotoPicker.ReadsBack jsonObject data)
    (hanswers : server.CanAnswer factory jsonObject data)
    (hreadable : ∀ json ∈ server.photos factory,
      (UnsplashPhotoPicker.photo? decoder json).isSome = true) (s : Nat) :
    ∃ body json photos, jsonObject body = some json ∧ server.Answers json (factory.query s) ∧
      (UnsplashPhotoPicker.coding decoder jsonObject data).photos body factory.kind =
        some photos := by
  obtain ⟨body, json, written, hjson, hanswer, hdata⟩ := hanswers s
  obtain ⟨photos, hmapM⟩ : ∃ photos, (Paging.page (server.photos factory) 30 s).mapM
      (UnsplashPhotoPicker.photo? decoder) = some photos :=
    ⟨Paging.readable (UnsplashPhotoPicker.photo? decoder) 30 _, Paging.mapM_eq_readable
      fun json hpage => hreadable json (List.mem_of_mem_drop (List.mem_of_mem_take hpage))⟩
  refine ⟨body, json, photos, hjson, hanswer, ?_⟩
  cases factory with
  | search text =>
    have hresults : jsonObject body >>= JSON.results =
        some (Paging.page (server.search text) 30 s) := by
      rw [hjson]
      exact hanswer
    exact (UnsplashPhotoPicker.photos_search hwritten hresults hdata).trans hmapM
  | collection identifier =>
    have hpage : json = .array (Paging.page (server.collection identifier) 30 s) := hanswer
    have hphotos := UnsplashPhotoPicker.photos_collection decoder jsonObject data body
    rw [hjson, hpage] at hphotos
    exact hphotos.trans hmapM

/-- **The next page can be had**: it is the last, or there are thirty photos more. -/
theorem Sound.reaches_page (h : Sound decoder jsonObject data serialize server factory s fetching)
    (hwritten : UnsplashPhotoPicker.ReadsBack jsonObject data)
    (hplain : factory.Plain) (hanswers : server.CanAnswer factory jsonObject data)
    (hreadable : ∀ json ∈ server.photos factory,
      (UnsplashPhotoPicker.photo? decoder json).isSome = true)
    (hidle : fetching.run.dataSource.isFetching = false)
    (hmore : fetching.run.dataSource.canFetchMore = true) :
    ∃ after, Reaches decoder jsonObject data serialize server fetching after ∧
      after.run.dataSource.isFetching = false ∧
      (after.run.dataSource.canFetchMore = false ∨
        fetching.run.dataSource.items.length + 30 ≤ after.run.dataSource.items.length) := by
  obtain ⟨body, json, photos, hjson, hanswer, hphotos⟩ := exists_photos hwritten hanswers
    hreadable s
  obtain ⟨after, hrun, hserved, -, hidle', hmore', hitems⟩ :=
    h.run_round_page hplain hidle hmore hjson hanswer hphotos
  refine ⟨after, ⟨_, hrun, hserved⟩, hidle', ?_⟩
  rw [hmore', hitems, List.length_append]
  by_cases hshort : photos.length < 30
  · exact Or.inl (by simp [hshort])
  · exact Or.inr (by omega)

theorem Sound.items_length_le
    (h : Sound decoder jsonObject data serialize server factory s fetching) :
    fetching.run.dataSource.items.length ≤ (server.photos factory).length := by
  have hinit := h.fetched.items.length_le
  rwa [List.length_map, List.length_map] at hinit

/-- An idle data source can get all photos. -/
theorem Sound.reaches_whole (h : Sound decoder jsonObject data serialize server factory s fetching)
    (hwritten : UnsplashPhotoPicker.ReadsBack jsonObject data)
    (hplain : factory.Plain) (hanswers : server.CanAnswer factory jsonObject data)
    (hreadable : ∀ json ∈ server.photos factory,
      (UnsplashPhotoPicker.photo? decoder json).isSome = true)
    (hidle : fetching.run.dataSource.isFetching = false) :
    ∃ after, Reaches decoder jsonObject data serialize server fetching after ∧
      after.run.dataSource.canFetchMore = false := by
  -- On how many photos are still to come.
  induction hmissing : (server.photos factory).length - fetching.run.dataSource.items.length
    using Nat.strong_induction_on generalizing fetching s with
  | _ missing ih =>
    rcases Bool.eq_false_or_eq_true fetching.run.dataSource.canFetchMore with hmore | hlast
    · obtain ⟨mid, hreaches, hidle, hlast | hlonger⟩ :=
        h.reaches_page hwritten hplain hanswers hreadable hidle hmore
      · exact ⟨mid, hreaches, hlast⟩
      · obtain ⟨s', hmid⟩ := h.reaches hwritten hplain hreaches
        have hle := hmid.items_length_le
        have hless : (server.photos factory).length - mid.run.dataSource.items.length <
            missing := by
          omega
        obtain ⟨after, hafter, hlast⟩ := ih _ hless hmid hidle rfl
        exact ⟨after, hreaches.trans hafter, hlast⟩
    · exact ⟨fetching, .refl _, hlast⟩

theorem pending_launch : (launch factory).Pending := fun h => by cases h

/-- **All photos can still be had, unless the data source is stuck**: whatever a run that is
served has come to. -/
theorem reaches_whole_iff
    (hwritten : UnsplashPhotoPicker.ReadsBack jsonObject data)
    (hplain : factory.Plain) (hanswers : server.CanAnswer factory jsonObject data)
    (hreadable : ∀ json ∈ server.photos factory,
      (UnsplashPhotoPicker.photo? decoder json).isSome = true)
    (hreached : Reaches decoder jsonObject data serialize server (launch factory) fetching) :
    (∃ after, Reaches decoder jsonObject data serialize server fetching after ∧
      after.run.dataSource.canFetchMore = false ∧
      (server.photos factory).map (UnsplashPhotoPicker.photo? decoder) =
        after.run.dataSource.items.map some) ↔ ¬ fetching.Stuck := by
  obtain ⟨s, h⟩ := sound_launch.reaches hwritten hplain hreached
  constructor
  · rintro ⟨after, hreaches, hlast, -⟩ hstuck
    have hkept : ∀ fetching event after,
        (fetching.Stuck ∧ ∃ s, Sound decoder jsonObject data serialize server factory s fetching) →
        (machine (UnsplashPhotoPicker.coding decoder jsonObject data) serialize).step fetching
          event = some after → ServedBy decoder jsonObject data server fetching event →
            after.Stuck ∧ ∃ s, Sound decoder jsonObject data serialize server factory s after := by
      rintro fetching event after ⟨hstuck, s, h⟩ hstep hserved
      exact ⟨hstuck.step h hserved hstep, h.step hwritten hplain hserved hstep⟩
    obtain ⟨⟨i, page, operation, -, houtstanding, -⟩, s', hafter⟩ :=
      Machine.Reaches.invariant hkept hreaches ⟨hstuck, s, h⟩
    have hmore := hafter.delivered.more (hafter.delivered.isFetching houtstanding)
    cases hlast.symm.trans hmore
  · intro hstuck
    have hkept : ∀ fetching event after, fetching.Pending →
        (machine (UnsplashPhotoPicker.coding decoder jsonObject data) serialize).step fetching
          event = some after → ServedBy decoder jsonObject data server fetching event →
            after.Pending := fun _ _ _ hpending hstep hserved => hpending.step hserved hstep
    have hpending := Machine.Reaches.invariant hkept hreached pending_launch
    obtain ⟨mid, hmid, hidle⟩ := h.reaches_idle hplain hpending hstuck
    obtain ⟨s', hsound⟩ := h.reaches hwritten hplain hmid
    obtain ⟨after, hafter, hlast⟩ := hsound.reaches_whole hwritten hplain hanswers hreadable hidle
    obtain ⟨s'', hwhole⟩ := hsound.reaches hwritten hplain hafter
    exact ⟨after, hmid.trans hafter, hlast, hwhole.fetched.whole hlast⟩

open PhotoServer UnsplashPhotoPicker in
/-- Once a fetch has failed, the data source is not stuck, and both pages can be had. -/
theorem reaches_whole_iff_failed :
    ∃ fetching, (machine jsonCoding fun _ => .error ⟨"", 0⟩).Run (launch (.collection "317099"))
        (round 0 ⟨none, none, none⟩) fetching ∧
      ∃ after, Reaches anyURL JSONSerialization.jsonObject JSONSerialization.data
          (fun _ => .error ⟨"", 0⟩) ofGallery fetching after ∧
        after.run.dataSource.canFetchMore = false ∧
        galleryJSON.map (photo? anyURL) = after.run.dataSource.items.map some := by
  have hplain : PhotosDataSourceFactory.Plain (.collection "317099") := by
    show '/' ∉ "317099".toList
    decide
  have hlaunch : Sound anyURL JSONSerialization.jsonObject JSONSerialization.data
    (fun _ => .error ⟨"", 0⟩) ofGallery (.collection "317099") 0
    (launch (.collection "317099")) := sound_launch
  obtain ⟨fetching, hrun, hserved, -, hidle, -⟩ := hlaunch.run_round_error hplain rfl rfl
  obtain ⟨s, hfetching⟩ := hlaunch.run readsBack_jsonSerialization hplain hrun hserved
  refine ⟨fetching, hrun, (reaches_whole_iff readsBack_jsonSerialization hplain
    (fun s => ?_) (fun json hjson => ?_) ⟨_, hrun, hserved⟩).mpr ?_⟩
  · exact ⟨galleryBody s, _, galleryBody s, jsonObject_galleryBody s, rfl,
      if_pos (isPlain_galleryPage s)⟩
  · obtain ⟨n, -, rfl⟩ := List.mem_map.mp hjson
    rw [photo?_photoJSON]
    rfl
  · rintro ⟨i, -, operation, -, houtstanding, -⟩
    have hquiet := hfetching.delivered.quiet hidle
    exact hquiet i operation houtstanding

end Fetching

end ImSplash
