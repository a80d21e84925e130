import ImSplash.Machine
import ImSplash.PagedDataSource

/-!
# A network request

A page request is an `Operation` that says itself when it is executing and when it has
finished.  Four classes stand over `SearchPhotosRequest` and
`GetCollectionPhotosRequest`, and each answers a response by a method of its own and by
`super`, so what a response does is spread over the chain.

Every write of a property is logged along with the flags as they are after it.  The log,
and the response a request was handed, are read by no code.
-/

namespace ImSplash
open Runs

/-- What `JSONSerialization` reads. -/
inductive JSON
  | null
  | bool (value : Bool)
  | number (value : Rat)
  | string (value : String)
  | array (elements : List JSON)
  | object (members : List (String × JSON))

/-- `(self as? [String: Any])?["results"] as? [Any]`. -/
def JSON.results : JSON → Option (List JSON)
  | object members =>
    match members.lookup "results" with
    | some (array results) => some results
    | _ => none
  | _ => none

/-- `JSONSerialization`, and `JSONDecoder` for the photos of the photo picker. -/
structure JSONCoding where
  jsonObject : Data → Option JSON
  data : List JSON → Except NSError Data
  decode : Data → Except NSError (List UnsplashPhoto)

/-- What they make of the bodies `[]` and `{}`; others are not JSON. -/
def JSONCoding.emptyBodies : JSONCoding where
  jsonObject body :=
    if body = [0x5b, 0x5d] then some (.array [])
    else if body = [0x7b, 0x7d] then some (.object [])
    else none
  data results := if results.isEmpty then .ok [0x5b, 0x5d] else .error ⟨"NSCocoaErrorDomain", 3840⟩
  decode body := if body = [0x5b, 0x5d] then .ok [] else .error ⟨"NSCocoaErrorDomain", 4864⟩

/-- The errors of a request: its own, and those of the session and the decoder. -/
inductive RequestError
  | invalidURL
  | noHTTPResponse
  | http (status : Int)
  | invalidJSONResponse
  | networkService
  | underlying (error : NSError)
deriving DecidableEq

/-- The error as the data source and its delegate see it. -/
def RequestError.toNSError : RequestError → NSError
  | http _ => ⟨"ImSplash.NetworkRequest.RequestError", 0⟩
  | invalidURL => ⟨"ImSplash.NetworkRequest.RequestError", 1⟩
  | noHTTPResponse => ⟨"ImSplash.NetworkRequest.RequestError", 2⟩
  | invalidJSONResponse => ⟨"ImSplash.UnsplashRequest.RequestError", 0⟩
  | networkService => ⟨"NetworkService", 0⟩
  | underlying error => error

inductive URLResponse
  | http (statusCode : Int)
  | other

/-- What the completion handler of a data task is given. -/
structure TaskOutcome where
  response : Option URLResponse
  data : Option Data
  error : Option NSError

inductive RequestKind
  | searchPhotos
  | getCollectionPhotos
deriving DecidableEq

/-- The properties whose writes are logged. -/
inductive RequestProperty
  | isExecuting
  | isFinished
  | error
  | items
deriving DecidableEq

/-- A write, with the flags as they are after it. -/
structure PropertyWrite where
  property : RequestProperty
  isExecuting : Bool
  isFinished : Bool

structure NetworkRequest where
  kind : RequestKind
  isCancelled : Bool := false
  isExecuting : Bool := false
  isFinished : Bool := false
  error : Option RequestError := none
  jsonResponse : Option JSON := none
  items : List (Option UnsplashPhoto) := []
  /-- `start()` has been called. -/
  started : Bool := false
  /-- The completion handler of the data task is still to come. -/
  awaitsResponse : Bool := false
  /-- What the completion handler was given. -/
  received : Option TaskOutcome := none
  writes : List PropertyWrite := []

namespace NetworkRequest

def successCodes (statusCode : Int) : Bool := 200 ≤ statusCode && statusCode < 299

def failureCodes (statusCode : Int) : Bool := 400 ≤ statusCode && statusCode < 499

variable (coding : JSONCoding) (request : NetworkRequest)

/-! ### `ConcurrentOperation` -/

def log (property : RequestProperty) : NetworkRequest :=
  { request with
    writes := request.writes ++ [⟨property, request.isExecuting, request.isFinished⟩] }

def setIsExecuting (value : Bool) : NetworkRequest :=
  { request with isExecuting := value }.log .isExecuting

def setIsFinished (value : Bool) : NetworkRequest :=
  { request with isFinished := value }.log .isFinished

def setError (error : RequestError) : NetworkRequest :=
  { request with error := some error }.log .error

def setItems (photos : List UnsplashPhoto) : NetworkRequest :=
  { request with items := photos.map some }.log .items

def setJSONResponse (json : JSON) : NetworkRequest := { request with jsonResponse := some json }

/-- The data task is asked to stop, which its completion handler will report; an
operation that has finished is not marked. -/
def cancel : NetworkRequest :=
  { request with isCancelled := request.isCancelled || !request.isFinished }

def completeOperation : NetworkRequest := (request.setIsExecuting false).setIsFinished true

def cancelAndCompleteOperation : NetworkRequest := request.cancel.completeOperation

def completeWithError (error : RequestError) : NetworkRequest :=
  (request.setError error).cancelAndCompleteOperation

@[simp] theorem cancel_writes : request.cancel.writes = request.writes := rfl

@[simp] theorem cancel_isFinished : request.cancel.isFinished = request.isFinished := rfl

@[simp] theorem setError_writes (error : RequestError) : (request.setError error).writes =
    request.writes ++ [⟨.error, request.isExecuting, request.isFinished⟩] := rfl

@[simp] theorem setError_isExecuting (error : RequestError) :
    (request.setError error).isExecuting = request.isExecuting := rfl

@[simp] theorem setError_isFinished (error : RequestError) :
    (request.setError error).isFinished = request.isFinished := rfl

@[simp] theorem setItems_writes (photos : List UnsplashPhoto) : (request.setItems photos).writes =
    request.writes ++ [⟨.items, request.isExecuting, request.isFinished⟩] := rfl

@[simp] theorem setItems_isFinished (photos : List UnsplashPhoto) :
    (request.setItems photos).isFinished = request.isFinished := rfl

@[simp] theorem setJSONResponse_writes (json : JSON) :
    (request.setJSONResponse json).writes = request.writes := rfl

@[simp] theorem setJSONResponse_isExecuting (json : JSON) :
    (request.setJSONResponse json).isExecuting = request.isExecuting := rfl

@[simp] theorem setJSONResponse_isFinished (json : JSON) :
    (request.setJSONResponse json).isFinished = request.isFinished := rfl

@[simp] theorem completeOperation_writes : request.completeOperation.writes = request.writes ++
    [⟨.isExecuting, false, request.isFinished⟩, ⟨.isFinished, false, true⟩] := by
  simp [completeOperation, setIsExecuting, setIsFinished, log]

@[simp] theorem completeWithError_writes (error : RequestError) :
    (request.completeWithError error).writes = request.writes ++
      [⟨.error, request.isExecuting, request.isFinished⟩,
        ⟨.isExecuting, false, request.isFinished⟩, ⟨.isFinished, false, true⟩] := by
  simp [completeWithError, cancelAndCompleteOperation]

/-! ### `SearchPhotosRequest` and `GetCollectionPhotosRequest` -/

/-- `photosFromJSONResponse()`: a response without results is no error. -/
def photosFromJSONResponse : NetworkRequest × Option (List UnsplashPhoto) :=
  match request.jsonResponse >>= JSON.results with
  | some results =>
    match coding.data results >>= coding.decode with
    | .ok photos => (request, some photos)
    | .error error => (request.setError (.underlying error), none)
  | none => (request, none)

/-- `photosFromResponseData(_:)`. -/
def photosFromResponseData : Option Data → NetworkRequest × Option (List UnsplashPhoto)
  | none => (request, none)
  | some data =>
    match coding.decode data with
    | .ok photos => (request, some photos)
    | .error error => (request.setError (.underlying error), none)

/-! ### `UnsplashRequest` -/

/-- `UnsplashRequest.processJSONResponse()`. -/
def finishJSONResponse : NetworkRequest :=
  match request.error with
  | some error => request.completeWithError error
  | none => request.completeOperation

/-- `processJSONResponse()`, which only a search overrides. -/
def processJSONResponse : NetworkRequest :=
  match request.kind with
  | .searchPhotos =>
    match request.photosFromJSONResponse coding with
    | (request, some photos) => (request.setItems photos).finishJSONResponse
    | (request, none) => request.finishJSONResponse
  | .getCollectionPhotos => request.finishJSONResponse

/-- `UnsplashRequest.processResponseData(_:)`. -/
def readResponseData (data : Option Data) : NetworkRequest :=
  match request.error with
  | some error => request.completeWithError error
  | none =>
    match data with
    -- The guard returns, and nothing completes.
    | none => request
    | some data =>
      match coding.jsonObject data with
      | some json => (request.setJSONResponse json).processJSONResponse coding
      | none => request.completeWithError .invalidJSONResponse

/-- `processResponseData(_:)`, which only a collection overrides. -/
def processResponseData (data : Option Data) : NetworkRequest :=
  match request.kind with
  | .searchPhotos => request.readResponseData coding data
  | .getCollectionPhotos =>
    match request.photosFromResponseData coding data with
    -- The override completes, and `super` reads the response all the same.
    | (request, some photos) =>
      (request.setItems photos).completeOperation.readResponseData coding data
    | (request, none) => request.readResponseData coding data

/-! ### `NetworkRequest` -/

def processHTTPResponse (statusCode : Int) (data : Option Data) : NetworkRequest :=
  -- 299 and 499 are in neither range.
  if successCodes statusCode then request.processResponseData coding data
  else if failureCodes statusCode then request.completeWithError (.http statusCode)
  else request.completeWithError .networkService

def processResponse (response : Option URLResponse) (data : Option Data)
    (error : Option NSError) : NetworkRequest :=
  match error with
  | some error => request.completeWithError (.underlying error)
  | none =>
    match response with
    | some (.http statusCode) => request.processHTTPResponse coding statusCode data
    | some .other | none => request.completeWithError .noHTTPResponse

/-- `main()`; whether `prepareURLRequest` gives a request is left open. -/
def main (prepared : Bool) : NetworkRequest :=
  if prepared then { request with awaitsResponse := true }
  else request.completeWithError .invalidURL

def start (hasCancelledDependency prepared : Bool) : NetworkRequest :=
  let request := { request with started := true }.setIsExecuting true
  -- Cancelled by now, it completes without an error.
  if request.isCancelled || hasCancelledDependency then request.cancel.completeOperation
  else request.main prepared

/-- What the completion block of the request finds. -/
def result : RequestResult := ⟨request.error.map RequestError.toNSError, request.items⟩

end NetworkRequest

/-- What happens to a request: its queue starts it once, the completion handler of its data
task runs once, and it may be cancelled at any point. -/
inductive RequestEvent
  | start (hasCancelledDependency prepared : Bool)
  | cancel
  | processResponse (outcome : TaskOutcome)

namespace NetworkRequest
variable (coding : JSONCoding)

/-- The completion handler has been called. -/
def receive (request : NetworkRequest) (outcome : TaskOutcome) : NetworkRequest :=
  { request with awaitsResponse := false, received := some outcome }

/-- The steps of a request. -/
def machine : Machine NetworkRequest RequestEvent where
  step request
    | .start hasCancelledDependency prepared =>
      if request.started then none else some (request.start hasCancelledDependency prepared)
    | .cancel => some request.cancel
    | .processResponse outcome =>
      if request.awaitsResponse then
        some ((request.receive outcome).processResponse coding outcome.response outcome.data
          outcome.error)
      else none

end NetworkRequest

/-! ### What a response does -/

/-- A response with a success status, and no error. -/
def TaskOutcome.IsSuccess (outcome : TaskOutcome) : Prop :=
  outcome.error = none ∧ ∃ statusCode, outcome.response = some (.http statusCode) ∧
    NetworkRequest.successCodes statusCode = true

theorem toOption_eq_some {ε α : Type} {x : Except ε α} {a : α} :
    x.toOption = some a ↔ x = .ok a := by
  cases x with
  | error e => exact iff_of_false (by rintro ⟨⟩) (by rintro ⟨⟩)
  | ok b => simp [Except.toOption]

namespace JSONCoding

/-- The photos that a body carries: all of it for a collection, its results for a search. -/
def photos (coding : JSONCoding) (body : Data) : RequestKind → Option (List UnsplashPhoto)
  | .getCollectionPhotos => (coding.decode body).toOption
  | .searchPhotos => do
    let results ← coding.jsonObject body >>= JSON.results
    (coding.data results >>= coding.decode).toOption

/-- JSON without the results of a search. -/
def NoResults (coding : JSONCoding) (body : Data) (kind : RequestKind) : Prop :=
  kind = .searchPhotos ∧ ∃ json, coding.jsonObject body = some json ∧ json.results = none

theorem NoResults.photos_eq_none {coding : JSONCoding} {body : Data} {kind : RequestKind}
    (h : coding.NoResults body kind) : coding.photos body kind = none := by
  obtain ⟨rfl, json, hjson, hresults⟩ := h
  simp [photos, hjson, hresults]

end JSONCoding

namespace NetworkRequest
variable (coding : JSONCoding) (request : NetworkRequest)

/-- The request after a response, case by case. -/
inductive Processed (outcome : TaskOutcome) : NetworkRequest → Prop
  | failed (error : RequestError) (hfails : ¬ outcome.IsSuccess) :
      Processed outcome (request.completeWithError error)
  | absent (hsuccess : outcome.IsSuccess) (hdata : outcome.data = none) :
      Processed outcome request
  | malformed {body : Data} (error : RequestError) (hsuccess : outcome.IsSuccess)
      (hdata : outcome.data = some body) (hphotos : coding.photos body request.kind = none)
      (hresults : ¬ coding.NoResults body request.kind) :
      Processed outcome (request.completeWithError error)
  | undecodable {body : Data} (base : NetworkRequest) (error : RequestError)
      (hbase : base = request ∨ ∃ json, base = request.setJSONResponse json)
      (hsuccess : outcome.IsSuccess) (hdata : outcome.data = some body)
      (hphotos : coding.photos body request.kind = none)
      (hresults : ¬ coding.NoResults body request.kind) :
      Processed outcome ((base.setError error).completeWithError error)
  | noResults {body : Data} (json : JSON) (hsuccess : outcome.IsSuccess)
      (hdata : outcome.data = some body) (hresults : coding.NoResults body request.kind) :
      Processed outcome (request.setJSONResponse json).completeOperation
  | search {body : Data} {photos : List UnsplashPhoto} (json : JSON)
      (hkind : request.kind = .searchPhotos) (hsuccess : outcome.IsSuccess)
      (hdata : outcome.data = some body) (hphotos : coding.photos body request.kind = some photos) :
      Processed outcome ((request.setJSONResponse json).setItems photos).completeOperation
  | collection {body : Data} {photos : List UnsplashPhoto} (json : JSON)
      (hkind : request.kind = .getCollectionPhotos) (hsuccess : outcome.IsSuccess)
      (hdata : outcome.data = some body) (hphotos : coding.photos body request.kind = some photos) :
      Processed outcome
        (((request.setItems photos).completeOperation).setJSONResponse json).completeOperation
  | collectionNoJSON {body : Data} {photos : List UnsplashPhoto}
      (hkind : request.kind = .getCollectionPhotos) (hsuccess : outcome.IsSuccess)
      (hdata : outcome.data = some body) (hphotos : coding.photos body request.kind = some photos) :
      Processed outcome
        ((request.setItems photos).completeOperation.completeWithError .invalidJSONResponse)

variable {coding request}

theorem finishJSONResponse_of_none (herror : request.error = none) :
    request.finishJSONResponse = request.completeOperation := by
  rw [finishJSONResponse, herror]

theorem photosFromJSONResponse_setJSONResponse (json : JSON) :
    (request.setJSONResponse json).photosFromJSONResponse coding =
      match json.results with
      | some results =>
        match coding.data results >>= coding.decode with
        | .ok photos => (request.setJSONResponse json, some photos)
        | .error error => ((request.setJSONResponse json).setError (.underlying error), none)
      | none => (request.setJSONResponse json, none) := rfl

theorem processed_search {outcome : TaskOutcome} {body : Data} (herror : request.error = none)
    (hkind : request.kind = .searchPhotos) (hsuccess : outcome.IsSuccess)
    (hdata : outcome.data = some body) :
    Processed coding request outcome (request.readResponseData coding (some body)) := by
  cases hjson : coding.jsonObject body with
  | none =>
    simp only [readResponseData, herror, hjson]
    refine .malformed _ hsuccess hdata ?_ ?_
    · simp [hkind, JSONCoding.photos, hjson]
    · rintro ⟨-, json, hparsed, -⟩
      rw [hjson] at hparsed
      cases hparsed
  | some json =>
    have hsearch : (request.setJSONResponse json).kind = .searchPhotos := hkind
    have hread : (request.setJSONResponse json).error = none := herror
    have hphotos : coding.photos body request.kind =
        json.results.bind fun results => (coding.data results >>= coding.decode).toOption := by
      rw [hkind, JSONCoding.photos, hjson]
      rfl
    simp only [readResponseData, herror, hjson, processJSONResponse, hsearch,
      photosFromJSONResponse_setJSONResponse]
    cases hresults : json.results with
    | none =>
      show Processed coding request outcome (request.setJSONResponse json).finishJSONResponse
      rw [finishJSONResponse_of_none hread]
      exact .noResults json hsuccess hdata ⟨hkind, json, hjson, hresults⟩
    | some results =>
      rw [hresults, Option.bind_some] at hphotos
      cases hdecoded : coding.data results >>= coding.decode with
      | error error =>
        simp only [hdecoded] at hphotos ⊢
        refine .undecodable _ (.underlying error) (Or.inr ⟨json, rfl⟩) hsuccess hdata hphotos ?_
        rintro ⟨-, json', hparsed, hnone⟩
        obtain rfl := Option.some.inj (hjson.symm.trans hparsed)
        rw [hresults] at hnone
        cases hnone
      | ok photos =>
        simp only [hdecoded] at hphotos ⊢
        have hset : ((request.setJSONResponse json).setItems photos).error = none := herror
        rw [finishJSONResponse_of_none hset]
        exact .search json hkind hsuccess hdata hphotos

theorem processed_collection {outcome : TaskOutcome} {body : Data} (herror : request.error = none)
    (hkind : request.kind = .getCollectionPhotos) (hsuccess : outcome.IsSuccess)
    (hdata : outcome.data = some body) :
    Processed coding request outcome (request.processResponseData coding (some body)) := by
  have hphotos : coding.photos body request.kind = (coding.decode body).toOption := by
    rw [hkind]
    rfl
  simp only [processResponseData, hkind, photosFromResponseData]
  cases hdecoded : coding.decode body with
  | error error =>
    rw [hdecoded] at hphotos
    refine .undecodable request (.underlying error) (Or.inl rfl) hsuccess hdata hphotos ?_
    rintro ⟨hsearch, -⟩
    rw [hkind] at hsearch
    cases hsearch
  | ok photos =>
    rw [hdecoded] at hphotos
    -- The request has completed, and its response is read once more.
    have hagain : (request.setItems photos).completeOperation.error = none := herror
    simp only [readResponseData, hagain]
    cases hjson : coding.jsonObject body with
    | none => exact .collectionNoJSON hkind hsuccess hdata hphotos
    | some json =>
      have hsame : ((request.setItems photos).completeOperation.setJSONResponse json).kind =
        .getCollectionPhotos := hkind
      have hread : ((request.setItems photos).completeOperation.setJSONResponse json).error =
        none := herror
      simp only [processJSONResponse, hsame]
      rw [finishJSONResponse_of_none hread]
      exact .collection json hkind hsuccess hdata hphotos

/-- **What a response does** to a request that has no error yet. -/
theorem processed (herror : request.error = none) (outcome : TaskOutcome) :
    Processed coding request outcome
      (request.processResponse coding outcome.response outcome.data outcome.error) := by
  obtain ⟨response, data, error⟩ := outcome
  cases error with
  | some error => exact .failed _ fun hsuccess => by cases hsuccess.1
  | none =>
    match response with
    | none => exact .failed _ fun ⟨_, _, hresponse, _⟩ => by cases hresponse
    | some .other => exact .failed _ fun ⟨_, _, hresponse, _⟩ => by cases hresponse
    | some (.http statusCode) =>
      simp only [processResponse, processHTTPResponse]
      split
      · rename_i hstatus
        have hsuccess : TaskOutcome.IsSuccess ⟨some (.http statusCode), data, none⟩ :=
          ⟨rfl, statusCode, rfl, hstatus⟩
        cases data with
        | none =>
          have habsent : request.processResponseData coding none = request := by
            cases hkind : request.kind with
            | searchPhotos => simp [processResponseData, hkind, readResponseData, herror]
            | getCollectionPhotos =>
              simp [processResponseData, hkind, photosFromResponseData, readResponseData, herror]
          rw [habsent]
          exact .absent hsuccess rfl
        | some body =>
          cases hkind : request.kind with
          | searchPhotos =>
            simp only [processResponseData, hkind]
            exact processed_search herror hkind hsuccess rfl
          | getCollectionPhotos => exact processed_collection herror hkind hsuccess rfl
      · rename_i hstatus
        have hfails : ¬ TaskOutcome.IsSuccess ⟨some (.http statusCode), data, none⟩ := by
          rintro ⟨-, _, ⟨⟩, hsuccess⟩
          exact hstatus hsuccess
        split
        · exact .failed _ hfails
        · exact .failed _ hfails

/-! ### The life of a request -/

/-- A request that has not been started; it may have been cancelled. -/
structure Ready (request : NetworkRequest) : Prop where
  started : request.started = false
  awaitsResponse : request.awaitsResponse = false
  isExecuting : request.isExecuting = false
  isFinished : request.isFinished = false
  error : request.error = none
  received : request.received = none
  writes : request.writes = []

/-- A request whose data task is on its way. -/
structure Waiting (request : NetworkRequest) : Prop where
  started : request.started = true
  awaitsResponse : request.awaitsResponse = true
  isExecuting : request.isExecuting = true
  isFinished : request.isFinished = false
  error : request.error = none
  writes : request.writes = [⟨.isExecuting, true, false⟩]

/-- A request to which nothing is still to come. -/
structure Over (request : NetworkRequest) : Prop where
  started : request.started = true
  awaitsResponse : request.awaitsResponse = false

theorem ready_new (kind : RequestKind) : Ready { kind := kind } :=
  ⟨rfl, rfl, rfl, rfl, rfl, rfl, rfl⟩

theorem Ready.cancel (h : request.Ready) : request.cancel.Ready :=
  ⟨h.started, h.awaitsResponse, h.isExecuting, h.isFinished, h.error, h.received, h.writes⟩

theorem Waiting.cancel (h : request.Waiting) : request.cancel.Waiting :=
  ⟨h.started, h.awaitsResponse, h.isExecuting, h.isFinished, h.error, h.writes⟩

/-- A request that is started is cancelled, fails to be prepared, or waits. -/
theorem Ready.start (h : request.Ready) (hasCancelledDependency prepared : Bool) :
    (request.isCancelled || hasCancelledDependency) = true ∧
        request.start hasCancelledDependency prepared =
          ({ request with started := true }.setIsExecuting true).cancel.completeOperation ∨
      (request.isCancelled || hasCancelledDependency) = false ∧
        (request.start hasCancelledDependency prepared =
          ({ request with started := true }.setIsExecuting true).completeWithError .invalidURL ∨
        (request.start hasCancelledDependency prepared).Waiting) := by
  rcases Bool.eq_false_or_eq_true (request.isCancelled || hasCancelledDependency) with hc | hc
  · refine Or.inl ⟨hc, ?_⟩
    exact if_pos hc
  · have hmain : request.start hasCancelledDependency prepared =
        ({ request with started := true }.setIsExecuting true).main prepared :=
      if_neg (Bool.eq_false_iff.mp hc)
    refine Or.inr ⟨hc, ?_⟩
    rw [hmain]
    cases prepared with
    | false => exact Or.inl rfl
    | true =>
      refine Or.inr ⟨rfl, rfl, rfl, h.isFinished, h.error, ?_⟩
      show request.writes ++ [⟨.isExecuting, true, request.isFinished⟩] = _
      rw [h.writes, h.isFinished]
      rfl

/-- What a response does to a request keeps it over. -/
theorem Processed.ended {outcome : TaskOutcome} {after : NetworkRequest} (h : request.Over)
    (hprocessed : Processed coding request outcome after) : after.Over := by
  have hstarted := h.started
  have hawaits := h.awaitsResponse
  cases hprocessed with
  | undecodable base error hbase =>
    rcases hbase with rfl | ⟨json, rfl⟩
    · exact ⟨hstarted, hawaits⟩
    · exact ⟨hstarted, hawaits⟩
  | _ => exact ⟨hstarted, hawaits⟩

/-- A property of requests, and the condition on which a step keeps it. -/
structure KeptExactly (coding : JSONCoding) (P : NetworkRequest → Prop)
    (C : NetworkRequest → RequestEvent → Prop) : Prop where
  ready : ∀ {request}, Ready request → P request
  waiting : ∀ {request}, Waiting request → P request
  cancel : ∀ {request}, Over request → P request → P request.cancel
  uncancelled : ∀ request, C request .cancel
  start : ∀ {request} hasCancelledDependency prepared, Ready request →
    (P (request.start hasCancelledDependency prepared) ↔
      C request (.start hasCancelledDependency prepared))
  response : ∀ {request outcome after}, Waiting request →
    Processed coding (request.receive outcome) outcome after →
      (P after ↔ C request (.processResponse outcome))

/-- Where in its life a request is; one that is over has the property. -/
inductive Life (P : NetworkRequest → Prop) (request : NetworkRequest) : Prop
  | ready (h : Ready request)
  | waiting (h : Waiting request)
  | ended (h : Over request) (hP : P request)

section Life
variable {P : NetworkRequest → Prop} {C : NetworkRequest → RequestEvent → Prop}

/-- What `start` needs: a request that was started is no longer ready. -/
theorem Life.ready_of_not_started (h : request.Life P) (hstarted : request.started = false) :
    request.Ready := by
  cases h with
  | ready h => exact h
  | waiting h => exact absurd (h.started.symm.trans hstarted) (by decide)
  | ended h hP => exact absurd (h.started.symm.trans hstarted) (by decide)

/-- What the completion handler needs: only a request that waits is given a response. -/
theorem Life.waiting_of_awaitsResponse (h : request.Life P)
    (hawaits : request.awaitsResponse = true) : request.Waiting := by
  cases h with
  | ready h => exact absurd (h.awaitsResponse.symm.trans hawaits) (by decide)
  | waiting h => exact h
  | ended h hP => exact absurd (h.awaitsResponse.symm.trans hawaits) (by decide)

/-- Started, a request waits or is over. -/
theorem Ready.life_start (h : request.Ready) (hasCancelledDependency prepared : Bool)
    (hP : P (request.start hasCancelledDependency prepared)) :
    (request.start hasCancelledDependency prepared).Life P := by
  rcases h.start hasCancelledDependency prepared with ⟨-, heq⟩ | ⟨-, heq | hwaits⟩
  · refine .ended ?_ hP
    rw [heq]
    exact ⟨rfl, h.awaitsResponse⟩
  · refine .ended ?_ hP
    rw [heq]
    exact ⟨rfl, h.awaitsResponse⟩
  · exact .waiting hwaits

theorem KeptExactly.life_cancel (hkept : KeptExactly coding P C) (h : request.Life P) :
    P request.cancel ∧ request.cancel.Life P := by
  cases h with
  | ready h => exact ⟨hkept.ready h.cancel, .ready h.cancel⟩
  | waiting h => exact ⟨hkept.waiting h.cancel, .waiting h.cancel⟩
  | ended h hP =>
    have hP' := hkept.cancel h hP
    exact ⟨hP', .ended ⟨h.started, h.awaitsResponse⟩ hP'⟩

/-- **One step** of a request in its life. -/
theorem KeptExactly.step (hkept : KeptExactly coding P C) {event : RequestEvent}
    {after : NetworkRequest} (h : request.Life P)
    (hstep : (machine coding).step request event = some after) :
    (P after ↔ C request event) ∧ (P after → after.Life P) := by
  cases event with
  | start hasCancelledDependency prepared =>
    simp only [machine, Option.ite_none_left_eq_some, Option.some.injEq] at hstep
    obtain ⟨hstarted, rfl⟩ := hstep
    have hready := h.ready_of_not_started (Bool.eq_false_iff.mpr hstarted)
    exact ⟨hkept.start _ _ hready, hready.life_start _ _⟩
  | cancel =>
    obtain rfl := Option.some.inj hstep
    obtain ⟨hP, hlife⟩ := hkept.life_cancel h
    exact ⟨iff_of_true hP (hkept.uncancelled request), fun _ => hlife⟩
  | processResponse outcome =>
    simp only [machine, Option.ite_none_right_eq_some, Option.some.injEq] at hstep
    obtain ⟨hawaits, rfl⟩ := hstep
    have hwaits := h.waiting_of_awaitsResponse hawaits
    have hreceived : (request.receive outcome).error = none := hwaits.error
    have hprocessed : Processed coding (request.receive outcome) outcome
        ((request.receive outcome).processResponse coding outcome.response outcome.data
          outcome.error) := processed hreceived outcome
    -- Its one response leaves nothing to come, whatever the response was.
    have hover : (request.receive outcome).Over := ⟨hwaits.started, rfl⟩
    exact ⟨hkept.response hwaits hprocessed, fun hP => .ended (hprocessed.ended hover) hP⟩

/-- **The life of a request**: along every run from one that is ready the property is kept
exactly by the steps that meet the condition. -/
theorem KeptExactly.along_iff (hkept : KeptExactly coding P C) (h : request.Ready)
    (events : List RequestEvent) :
    (machine coding).Along (fun _ _ after => P after) request events ↔
      (machine coding).Along (fun request event _ => C request event) request events := by
  have hlife : request.Life P := .ready h
  refine Machine.along_iff_of_exact ?_ ?_ hlife events
  · exact fun request event after hlife hstep => (hkept.step hlife hstep).1
  · exact fun request event after hlife hstep => (hkept.step hlife hstep).2

end Life

end NetworkRequest

end ImSplash
