import ImSplash.NetworkRequest

/-!
# Does a request without an error carry its answer?

The data source takes a request without an error for answered, and a page shorter than it
asked for, an empty one included, for the last.  An operation that is started after it was
cancelled finishes with neither an error nor items, and so does a search whose response
is JSON without results.
-/

namespace ImSplash
open Runs

namespace NetworkRequest
variable (coding : JSONCoding) (request : NetworkRequest)

/-- The request received a successful response, and these are the photos of its body. -/
def Answered (photos : List UnsplashPhoto) : Prop :=
  ∃ outcome body, request.received = some outcome ∧ outcome.IsSuccess ∧
    outcome.data = some body ∧ coding.photos body request.kind = some photos

/-- A request that finishes without an error has the photos it was answered with, so a data
source stops at its page only when that was short. -/
structure CarriesAnswer : Prop where
  answer : request.isFinished = true → request.error = none →
    ∃ photos, request.Answered coding photos ∧ request.items = photos.map some
  lastPage : ∀ (dataSource : PagedDataSource) (operation : UnsplashPagedRequest),
    request.isFinished = true → dataSource.canFetchMore = true →
    (dataSource.completionBlock operation request.result).1.canFetchMore = false →
      ∃ photos, request.Answered coding photos ∧ photos.length < dataSource.cursor.perPage

/-- The request after the photos of a body have been read. -/
structure ReadsPhotos (photos : List UnsplashPhoto) (after : NetworkRequest) : Prop where
  isFinished : after.isFinished = true
  error : after.error = none
  items : after.items = photos.map some
  isCancelled : after.isCancelled = request.isCancelled
  received : after.received = request.received
  kind : after.kind = request.kind

variable {coding request} in
/-- **With a body of photos a request finishes**, and has the photos. -/
theorem processResponse_photos (herror : request.error = none) {body : Data} {json : JSON}
    {photos : List UnsplashPhoto} (hjson : coding.jsonObject body = some json)
    (hphotos : coding.photos body request.kind = some photos) :
    request.ReadsPhotos photos
      (request.processResponse coding (some (.http 200)) (some body) none) := by
  have hstatus : successCodes 200 = true := rfl
  simp only [processResponse, processHTTPResponse, hstatus, if_true]
  cases hkind : request.kind with
  | searchPhotos =>
    have hread : (request.setJSONResponse json).kind = .searchPhotos := hkind
    rw [hkind, JSONCoding.photos, hjson] at hphotos
    obtain ⟨results, hresults, hdecoded⟩ := Option.bind_eq_some_iff.mp hphotos
    rw [Option.bind_eq_bind, Option.bind_some] at hresults
    have hdecode := toOption_eq_some.mp hdecoded
    have hlast : ((request.setJSONResponse json).setItems photos).error = none := herror
    simp only [processResponseData, hkind, readResponseData, herror, hjson, processJSONResponse,
      hread, photosFromJSONResponse_setJSONResponse, hresults, hdecode]
    rw [finishJSONResponse_of_none hlast]
    exact ⟨rfl, hlast, rfl, rfl, rfl, rfl⟩
  | getCollectionPhotos =>
    rw [hkind] at hphotos
    have hdecode : coding.decode body = .ok photos := toOption_eq_some.mp hphotos
    have hagain : (request.setItems photos).completeOperation.error = none := herror
    have hsame : ((request.setItems photos).completeOperation.setJSONResponse json).kind =
      .getCollectionPhotos := hkind
    have hlast : ((request.setItems photos).completeOperation.setJSONResponse json).error =
      none := herror
    simp only [processResponseData, hkind, photosFromResponseData, hdecode, readResponseData,
      hagain, hjson, processJSONResponse, hsame]
    rw [finishJSONResponse_of_none hlast]
    exact ⟨rfl, hlast, rfl, rfl, rfl, rfl⟩

/-- The request is not started once it, or an operation it depends on, is cancelled, and a
search does not receive JSON without results. -/
def ReadsItsAnswer (request : NetworkRequest) (event : RequestEvent) : Prop :=
  (∀ hasCancelledDependency prepared, event = .start hasCancelledDependency prepared →
    (request.isCancelled || hasCancelledDependency) = false) ∧
  ∀ outcome body, event = .processResponse outcome → outcome.IsSuccess →
    outcome.data = some body → ¬ coding.NoResults body request.kind

variable {coding request}

/-- With its answer, a request ends the fetching of a data source by a short page only. -/
theorem carriesAnswer_of_answer
    (answer : request.isFinished = true → request.error = none →
      ∃ photos, request.Answered coding photos ∧ request.items = photos.map some) :
    request.CarriesAnswer coding := by
  refine ⟨answer, fun dataSource operation hfinished hmore hlast => ?_⟩
  rcases PagedDataSource.completionBlock_cases operation request.result with
    ⟨-, error, heq⟩ | ⟨items, herror, hphotos, heq⟩
  · rw [heq] at hlast
    exact absurd (hmore.symm.trans hlast) (by decide)
  · have hnone : request.error = none := Option.map_eq_none_iff.mp herror
    obtain ⟨photos, hanswered, hitems⟩ := answer hfinished hnone
    rw [result, hitems, RequestResult.photos_map_some] at hphotos
    obtain rfl := Option.some.inj hphotos
    rw [heq] at hlast
    exact ⟨photos, hanswered, by simpa [hmore] using hlast⟩

theorem carriesAnswer_of_not_finished (h : request.isFinished = false) :
    request.CarriesAnswer coding :=
  carriesAnswer_of_answer fun hfinished => absurd (h.symm.trans hfinished) (by decide)

theorem carriesAnswer_of_error {error : RequestError} (h : request.error = some error) :
    request.CarriesAnswer coding :=
  carriesAnswer_of_answer fun _ hnone => absurd (h.symm.trans hnone) (by simp)

/-- A request that finishes without an error, and without an answer. -/
theorem not_carriesAnswer (hfinished : request.isFinished = true) (herror : request.error = none)
    (hanswered : ∀ photos, ¬ request.Answered coding photos) : ¬ request.CarriesAnswer coding := by
  intro h
  obtain ⟨photos, hphotos, -⟩ := h.answer hfinished herror
  exact hanswered photos hphotos

theorem Ready.carriesAnswer_start_iff (h : request.Ready)
    (hasCancelledDependency prepared : Bool) :
    (request.start hasCancelledDependency prepared).CarriesAnswer coding ↔
      ReadsItsAnswer coding request (.start hasCancelledDependency prepared) := by
  have hcond : ReadsItsAnswer coding request (.start hasCancelledDependency prepared) ↔
      (request.isCancelled || hasCancelledDependency) = false := by
    refine ⟨fun hcond => hcond.1 _ _ rfl, fun hnot => ⟨?_, fun _ _ hevent => by cases hevent⟩⟩
    rintro _ _ ⟨⟩
    exact hnot
  rw [hcond]
  rcases h.start hasCancelledDependency prepared with ⟨hc, heq⟩ | ⟨hc, heq | hwaits⟩
  · -- It finishes at once, and has received nothing.
    refine iff_of_false (not_carriesAnswer ?_ ?_ ?_) (by simp [hc])
    · rw [heq]
      rfl
    · rw [heq]
      exact h.error
    · rintro photos ⟨outcome, body, hreceived, -⟩
      rw [heq] at hreceived
      cases h.received.symm.trans hreceived
  · refine iff_of_true ?_ hc
    rw [heq]
    exact carriesAnswer_of_error rfl
  · exact iff_of_true (carriesAnswer_of_not_finished hwaits.isFinished) hc

/-- A response is carried along exactly when it has the results a search asks for. -/
theorem Waiting.carriesAnswer_iff (h : request.Waiting) {outcome : TaskOutcome}
    {after : NetworkRequest}
    (hprocessed : Processed coding (request.receive outcome) outcome after) :
    after.CarriesAnswer coding ↔ ReadsItsAnswer coding request (.processResponse outcome) := by
  have hcond : ReadsItsAnswer coding request (.processResponse outcome) ↔
      ∀ body, outcome.IsSuccess → outcome.data = some body →
        ¬ coding.NoResults body request.kind := by
    refine ⟨fun hcond body => hcond.2 outcome body rfl, fun hnot => ⟨?_, ?_⟩⟩
    · rintro _ _ ⟨⟩
    · rintro _ body ⟨⟩
      exact hnot body
  rw [hcond]
  cases hprocessed with
  | failed error hfails =>
    exact iff_of_true (carriesAnswer_of_error rfl) fun _ hsuccess => absurd hsuccess hfails
  | absent hsuccess hdata =>
    refine iff_of_true (carriesAnswer_of_not_finished h.isFinished) fun body _ hbody => ?_
    cases hdata.symm.trans hbody
  | malformed error hsuccess hdata hphotos hresults =>
    refine iff_of_true (carriesAnswer_of_error rfl) fun body _ hbody => ?_
    obtain rfl := Option.some.inj (hdata.symm.trans hbody)
    exact hresults
  | undecodable base error hbase hsuccess hdata hphotos hresults =>
    refine iff_of_true (carriesAnswer_of_error rfl) fun body _ hbody => ?_
    obtain rfl := Option.some.inj (hdata.symm.trans hbody)
    exact hresults
  | noResults json hsuccess hdata hresults =>
    -- It completes as it was, without an error and without items.
    refine iff_of_false (not_carriesAnswer rfl h.error ?_) fun hnot => ?_
    · rintro photos ⟨outcome', body, hreceived, -, hbody, hphotos⟩
      obtain rfl := Option.some.inj hreceived
      obtain rfl := Option.some.inj (hdata.symm.trans hbody)
      exact absurd (hresults.photos_eq_none.symm.trans hphotos) (by simp)
    · exact hnot _ hsuccess hdata hresults
  | search json hkind hsuccess hdata hphotos =>
    refine iff_of_true (carriesAnswer_of_answer fun _ _ => ?_) fun body _ _ hresults => ?_
    · exact ⟨_, ⟨outcome, _, rfl, hsuccess, hdata, hphotos⟩, rfl⟩
    · obtain rfl := Option.some.inj (hdata.symm.trans ‹_›)
      exact absurd (hresults.photos_eq_none.symm.trans hphotos) (by simp)
  | collection json hkind hsuccess hdata hphotos =>
    refine iff_of_true (carriesAnswer_of_answer fun _ _ => ?_) fun body _ _ hresults => ?_
    · exact ⟨_, ⟨outcome, _, rfl, hsuccess, hdata, hphotos⟩, rfl⟩
    · exact absurd (hresults.1.symm.trans hkind) (by decide)
  | collectionNoJSON hkind hsuccess hdata hphotos =>
    refine iff_of_true (carriesAnswer_of_error rfl) fun body _ _ hresults => ?_
    exact absurd (hresults.1.symm.trans hkind) (by decide)

theorem carriesAnswer_kept (coding : JSONCoding) :
    KeptExactly coding (CarriesAnswer coding) (ReadsItsAnswer coding) where
  ready h := carriesAnswer_of_not_finished h.isFinished
  waiting h := carriesAnswer_of_not_finished h.isFinished
  cancel _ h := ⟨h.answer, h.lastPage⟩
  uncancelled _ := ⟨fun _ _ hevent => (by cases hevent), fun _ _ hevent => (by cases hevent)⟩
  start _ _ h := h.carriesAnswer_start_iff _ _
  response h hprocessed := h.carriesAnswer_iff hprocessed

/-- **A request that reports success carries its answer**, along every run from one that has
not been started, exactly when it is not started once cancelled and, if it is a search,
receives no JSON without results. -/
theorem carriesAnswer_along_iff (coding : JSONCoding) (kind : RequestKind)
    (events : List RequestEvent) :
    (machine coding).Along (fun _ _ after => after.CarriesAnswer coding) { kind := kind } events ↔
      (machine coding).Along (fun request event _ => ReadsItsAnswer coding request event)
        { kind := kind } events :=
  (carriesAnswer_kept coding).along_iff (ready_new kind) events

/-- A request that is cancelled before it is started ends the fetching. -/
theorem cancelled_request_ends_fetching :
    ¬ (machine .emptyBodies).Along (fun _ _ after => after.CarriesAnswer .emptyBodies)
      { kind := .getCollectionPhotos } [.cancel, .start false true] := by
  intro h
  have hanswer := ((h _ rfl).2 _ rfl).1
  obtain ⟨_, ⟨_, _, hreceived, -⟩, -⟩ := hanswer.answer rfl rfl
  cases hreceived

end NetworkRequest

end ImSplash
