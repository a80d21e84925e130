import ImSplash.FormQuery
import ImSplash.ImageURL
import ImSplash.NetworkRequest

/-!
# Do request parameters survive the query string?

A request joins its parameters by `=` and `&` and leaves it to `URLComponents.query` to
escape them.  That setter escapes what may not stand in a query, and the separators may:
a server reads a value that holds `&` as more than one parameter, and `+` as a space.

A request that sends its parameters in its body escapes each value before it joins them,
and every string survives (`body_survives`).
-/

namespace ImSplash

/-- A value of a `[String: Any]`: a string, or anything else by its description. -/
inductive ParameterValue
  | string (value : String)
  | described (description : String)

/-- A Swift `[String: Any]`. -/
abbrev ParameterDictionary := AList fun _ : String => ParameterValue

namespace NetworkRequest

inductive QueryFormat
  | json
  | urlEncoded
deriving DecidableEq

inductive QueryType
  | body
  | path
deriving DecidableEq

/-- `CharacterSet.alphanumerics` with `.-_`; percent-encoding lets only characters of ASCII
stand for themselves. -/
def isValueAllowed (c : Char) : Bool := c.isAlphanum || ".-_".toList.contains c

/-- A value as it goes into the query. -/
def encodedValue (urlEncoded : Bool) : ParameterValue → String
  | .string value =>
    if urlEncoded then String.ofList (QueryString.escape isValueAllowed value.toList) else value
  | .described description => description

def encodedParameters (urlEncoded : Bool) (parameters : ParameterDictionary) :
    List (String × String) :=
  parameters.entries.map fun entry => (entry.1, encodedValue urlEncoded entry.2)

/-- `queryParameters(_:urlEncoded:)`; the dictionary is iterated in an order of its own. -/
def queryParameters (order : IterationOrder) (parameters : Option ParameterDictionary)
    (urlEncoded : Bool) : String :=
  match parameters with
  | none => ""
  | some parameters =>
    (order.arrange (encodedParameters urlEncoded parameters)).foldl
      (fun query entry => query ++ entry.1 ++ "=" ++ entry.2 ++ "&") ""

end NetworkRequest

/-- A request as it is sent, by its URL and its body. -/
structure URLRequest where
  url : URL
  httpBody : Option Data := none

/-- What a subclass of `UnsplashRequest` says of itself. -/
structure UnsplashRequest where
  endpoint : String
  type : NetworkRequest.QueryType := .path
  format : NetworkRequest.QueryFormat := .urlEncoded
  /-- `prepareParameters()`. -/
  parameters : Option ParameterDictionary := none

namespace URL

/-- The characters that stand for themselves in a query. -/
def isQueryAllowed (c : Char) : Bool := isPathAllowed c || c = '/' || c = '?'

theorem keepsSeparators_isQueryAllowed : QueryString.KeepsSeparators isQueryAllowed :=
  ⟨by decide, by decide, by decide, by decide⟩

end URL

namespace UnsplashRequest
open NetworkRequest

/-- `prepareURLComponents()`: the endpoint takes the place of the path. -/
def prepareURLComponents (request : UnsplashRequest) : URIReference.Parts :=
  { (⟨"https://api.unsplash.com/"⟩ : URL).components with
    path := QueryString.escape URL.isURLPathAllowed request.endpoint.toList }

/-- `prepareURLComponents()?.url`: under an authority a path is empty or starts with a slash. -/
def prepareURL (request : UnsplashRequest) : Option URL :=
  if request.endpoint.toList = [] ∨ request.endpoint.toList.head? = some '/' then
    some (.ofComponents request.prepareURLComponents)
  else none

/-- `prepareURLRequest()`; `serialize` is `JSONSerialization.data(withJSONObject:)`. -/
def prepareURLRequest (request : UnsplashRequest) (order : IterationOrder)
    (serialize : ParameterDictionary → Except NSError Data) : Except RequestError URLRequest :=
  match request.prepareURL with
  | none => .error .invalidURL
  | some url =>
    match request.type with
    | .body =>
      match request.parameters with
      | none => .ok { url := url }
      | some parameters =>
        match request.format with
        | .json => (serialize parameters).mapError .underlying |>.map fun data =>
            { url := url, httpBody := some data }
        | .urlEncoded =>
          let query := queryParameters order (some parameters) true
          .ok { url := url, httpBody := some (query.toList.flatMap String.utf8EncodeChar) }
    | .path =>
      -- The setter of `query` escapes what may not stand in one.
      let query := QueryString.escape URL.isQueryAllowed
        (queryParameters order request.parameters false).toList
      .ok { url := .ofComponents { url.components with query := some query } }

end UnsplashRequest

/-! ### The parameters of the requests -/

/-- `UnsplashPagedRequest.prepareParameters()`, over the parts of the cursor. -/
def UnsplashPagedRequest.prepareParameters (page perPage : Int)
    (parameters : Option ParameterDictionary) : ParameterDictionary :=
  let own := ((∅ : ParameterDictionary).insert "page" (.described (toString page))).insert
    "per_page" (.described (toString perPage))
  match parameters with
  | none => own
  | some parameters => parameters.entries.foldl (fun own entry => own.insert entry.1 entry.2) own

/-- `SearchPhotosRequest(with:page:perPage:)`. -/
def SearchPhotosRequest.request (query : String) (page perPage : Int) : UnsplashRequest where
  endpoint := "/search/photos"
  parameters := some (UnsplashPagedRequest.prepareParameters page perPage
    (some ((∅ : ParameterDictionary).insert "query" (.string query))))

/-- `GetCollectionPhotosRequest(for:page:perPage:)`; the identifier is in the path only. -/
def GetCollectionPhotosRequest.request (collectionId : String) (page perPage : Int) :
    UnsplashRequest where
  endpoint := "/collections/" ++ collectionId ++ "/photos"
  parameters := some ((UnsplashPagedRequest.prepareParameters page perPage
    (some ((∅ : ParameterDictionary).insert "id" (.string collectionId)))).erase "id")

/-! ### What the server reads -/

namespace NetworkRequest

/-- The names and values of some parameters. -/
def parameterPairs (parameters : Option ParameterDictionary) : List (String × String) :=
  encodedParameters false (parameters.getD ∅)

/-- A name of characters that stand for themselves everywhere. -/
def IdentifierLike (key : String) : Prop := ∀ c ∈ key.toList, isValueAllowed c = true

instance (key : String) : Decidable (IdentifierLike key) :=
  decidable_of_iff (key.toList.all isValueAllowed = true) List.all_eq_true

/-- Neither a separator nor a plus sign. -/
def PlainValue (value : String) : Prop := '&' ∉ value.toList ∧ '+' ∉ value.toList

instance (value : String) : Decidable (PlainValue value) :=
  inferInstanceAs (Decidable (_ ∧ _))

theorem queryParameters_toList (order : IterationOrder) (parameters : ParameterDictionary)
    (urlEncoded : Bool) : (queryParameters order (some parameters) urlEncoded).toList =
      QueryString.joinItems (order.arrange (encodedParameters urlEncoded parameters)) := by
  have hfold : ∀ (entries : List (String × String)) (query : String),
      (entries.foldl (fun query entry => query ++ entry.1 ++ "=" ++ entry.2 ++ "&") query).toList =
        query.toList ++ QueryString.joinItems entries := by
    intro entries
    induction entries with
    | nil =>
      intro query
      simp [QueryString.joinItems]
    | cons entry entries ih =>
      intro query
      rw [List.foldl_cons, ih]
      simp [QueryString.joinItems]
  rw [queryParameters, hfold]
  simp

theorem IdentifierLike.not_mem {key : String} (h : IdentifierLike key) {c : Char}
    (hc : isValueAllowed c = false) : c ∉ key.toList := by
  intro hmem
  exact absurd (hc.symm.trans (h c hmem)) (by decide)

theorem IdentifierLike.separators_not_mem {key : String} (h : IdentifierLike key) :
    '&' ∉ key.toList ∧ '=' ∉ key.toList :=
  ⟨h.not_mem (by decide), h.not_mem (by decide)⟩

end NetworkRequest

namespace UnsplashRequest
open NetworkRequest

variable {request : UnsplashRequest} {order : IterationOrder}
  {serialize : ParameterDictionary → Except NSError Data}

/-- The request is built, and from the query of its URL its parameters are read, no others
and none of them altered. -/
def ParametersSurvive (request : UnsplashRequest) (order : IterationOrder)
    (serialize : ParameterDictionary → Except NSError Data) : Prop :=
  ∃ urlRequest, request.prepareURLRequest order serialize = .ok urlRequest ∧
    (QueryString.decodeForm (urlRequest.url.query.getD "")).Perm
      (parameterPairs request.parameters)

/-- The parameters as they are iterated. -/
def iterated (request : UnsplashRequest) (order : IterationOrder) : List (String × String) :=
  match request.parameters with
  | none => []
  | some parameters => order.arrange (encodedParameters false parameters)

theorem iterated_perm (request : UnsplashRequest) (order : IterationOrder) :
    (request.iterated order).Perm (parameterPairs request.parameters) := by
  unfold iterated parameterPairs
  cases request.parameters with
  | none => exact .refl _
  | some parameters => exact order.perm _

/-- The URL of a request, taken apart, has the endpoint as its path. -/
theorem prepareURLComponents_wellFormed
    (hendpoint : request.endpoint.toList = [] ∨ request.endpoint.toList.head? = some '/') :
    request.prepareURLComponents.WellFormed where
  root := ⟨"https".toList, "api.unsplash.com".toList, rfl, by decide,
    by simp [URIReference.isMark], by simp [URIReference.isMark]⟩
  slash := by
    rcases hendpoint with hempty | hslash
    · exact Or.inl (by simp [prepareURLComponents, hempty, QueryString.escape])
    · obtain ⟨path, hpath⟩ : ∃ path, request.endpoint.toList = '/' :: path :=
        List.head?_eq_some_iff.mp hslash
      right
      simp only [prepareURLComponents, hpath, QueryString.escape, List.flatMap_cons]
      rfl
  path := fun _ => URL.isMark_of_mem_escape
  query := by
    intro query hquery
    cases hquery

/-- A request with its parameters in the path puts them into the query and nothing else. -/
theorem prepareURLRequest_of_path (order : IterationOrder)
    (serialize : ParameterDictionary → Except NSError Data) (hpath : request.type = .path)
    (hurl : request.prepareURL.isSome) : ∃ urlRequest,
      request.prepareURLRequest order serialize = .ok urlRequest ∧
      urlRequest.url.components = { request.prepareURLComponents with
        query := some (QueryString.escape URL.isQueryAllowed
          (queryParameters order request.parameters false).toList) } := by
  obtain ⟨url, hurl⟩ := Option.isSome_iff_exists.mp hurl
  have hprepared := hurl
  obtain ⟨hendpoint, heq⟩ := Option.ite_none_right_eq_some.mp hprepared
  obtain rfl := Option.some.inj heq
  have hformed := prepareURLComponents_wellFormed hendpoint
  simp only [prepareURLRequest, hurl, hpath, Except.ok.injEq, exists_eq_left',
    URL.components_ofComponents hformed]
  refine URL.components_ofComponents ⟨hformed.root, hformed.slash, hformed.path, ?_⟩
  rintro query ⟨⟩
  exact QueryString.not_mem_escape (by decide)
    (QueryString.not_mem_escapeByte_of (by decide) (by decide)) _

/-- What the server reads from a request with its parameters in the path. -/
theorem parametersSurvive_iff_perm (hpath : request.type = .path)
    (hurl : request.prepareURL.isSome) : request.ParametersSurvive order serialize ↔
      ((QueryString.formItems (QueryString.joinItems (request.iterated order))).map fun item =>
        (String.ofList (QueryString.plusToSpace item.1),
          String.ofList (QueryString.plusToSpace item.2))).Perm
        (parameterPairs request.parameters) := by
  obtain ⟨urlRequest, hprepared, hcomponents⟩ :=
    prepareURLRequest_of_path order serialize hpath hurl
  have hquery : (queryParameters order request.parameters false).toList =
      QueryString.joinItems (request.iterated order) := by
    unfold iterated
    cases request.parameters with
    | none => rfl
    | some parameters => exact queryParameters_toList order parameters false
  rw [← QueryString.decodeForm_escape URL.keepsSeparators_isQueryAllowed, ← hquery]
  unfold ParametersSurvive
  simp only [hprepared, Except.ok.injEq, exists_eq_left', URL.query, hcomponents, Option.map_some,
    Option.getD_some]

/-- **Parameters survive the query string** when no value holds a separator or a plus sign,
and only then. -/
theorem parametersSurvive_of_path_iff (hpath : request.type = .path)
    (hurl : request.prepareURL.isSome)
    (hkeys : ∀ pair ∈ parameterPairs request.parameters, IdentifierLike pair.1) :
    request.ParametersSurvive order serialize ↔
      ∀ pair ∈ parameterPairs request.parameters, PlainValue pair.2 := by
  rw [parametersSurvive_iff_perm hpath hurl]
  have hiterated := request.iterated_perm order
  constructor
  · intro hperm pair hpair
    -- the pair is one that was read, and what was read has been split and freed of plus signs
    obtain ⟨item, hitem, rfl⟩ := List.mem_map.mp (hperm.mem_iff.mpr hpair)
    simp only [PlainValue, String.toList_ofList]
    refine ⟨fun h => ?_, QueryString.plus_not_mem_plusToSpace item.2⟩
    exact (QueryString.ampersand_not_mem_formItems hitem).2
      (QueryString.ampersand_mem_of_plusToSpace h)
  · intro hplain
    have hnames : ∀ item ∈ request.iterated order, IdentifierLike item.1 :=
      fun item h => hkeys item (hiterated.mem_iff.mp h)
    have hvalues : ∀ item ∈ request.iterated order, PlainValue item.2 :=
      fun item h => hplain item (hiterated.mem_iff.mp h)
    rw [QueryString.formItems_joinItems (fun item h => (hnames item h).separators_not_mem)
      fun item h => (hvalues item h).1, List.map_map]
    have hsame : (request.iterated order).map ((fun item : List Char × List Char =>
        (String.ofList (QueryString.plusToSpace item.1),
          String.ofList (QueryString.plusToSpace item.2))) ∘
            fun item => (item.1.toList, item.2.toList)) = request.iterated order := by
      refine (List.map_congr_left fun item h => ?_).trans (List.map_id _)
      have hplus : '+' ∉ item.1.toList := (hnames item h).not_mem (by decide)
      have hname := QueryString.plusToSpace_of_not_mem hplus
      have hvalue := QueryString.plusToSpace_of_not_mem (hvalues item h).2
      simp [hname, hvalue]
    rw [hsame]
    exact hiterated

/-! ### A search -/

theorem plainValue_toString_nat (n : Nat) : PlainValue (toString n) := by
  have hdigit : ∀ c ∈ (toString n).toList, c.isDigit = true := by
    intro c hc
    rw [Nat.toString_eq_repr, Nat.toList_repr] at hc
    exact Nat.isDigit_of_mem_toDigits (by decide) (by decide) hc
  constructor
  · intro h
    exact absurd (hdigit _ h) (by decide)
  · intro h
    exact absurd (hdigit _ h) (by decide)

/-- The numbers of a page are plain. -/
theorem plainValue_toString (n : Int) : PlainValue (toString n) := by
  cases n with
  | ofNat n => exact plainValue_toString_nat n
  | negSucc n =>
    have hneg : toString (Int.negSucc n) = "-" ++ toString (n + 1) := rfl
    have hplain := plainValue_toString_nat (n + 1)
    rw [hneg, PlainValue, String.toList_append, List.mem_append, List.mem_append]
    exact ⟨fun h => h.elim (by decide) hplain.1, fun h => h.elim (by decide) hplain.2⟩

theorem parameterPairs_search (query : String) (page perPage : Int) :
    parameterPairs (SearchPhotosRequest.request query page perPage).parameters =
      [("query", query), ("per_page", toString perPage), ("page", toString page)] := rfl

theorem parameterPairs_collection (collectionId : String) (page perPage : Int) :
    parameterPairs (GetCollectionPhotosRequest.request collectionId page perPage).parameters =
      [("per_page", toString perPage), ("page", toString page)] := rfl

theorem identifierLike_page : IdentifierLike "page" := by decide

theorem identifierLike_per_page : IdentifierLike "per_page" := by decide

theorem identifierLike_search (query : String) (page perPage : Int) :
    ∀ pair ∈ parameterPairs (SearchPhotosRequest.request query page perPage).parameters,
      IdentifierLike pair.1 := by
  rw [parameterPairs_search]
  simp only [List.forall_mem_cons, List.not_mem_nil, false_implies, implies_true, and_true]
  exact ⟨by decide, identifierLike_per_page, identifierLike_page⟩

theorem search_prepareURL_isSome (query : String) (page perPage : Int) :
    (SearchPhotosRequest.request query page perPage).prepareURL.isSome := by
  simp [SearchPhotosRequest.request, prepareURL]

/-- Only the text of a search decides over its parameters. -/
theorem search_parametersSurvive_iff (query : String) (page perPage : Int) :
    (SearchPhotosRequest.request query page perPage).ParametersSurvive order serialize ↔
      PlainValue query := by
  rw [parametersSurvive_of_path_iff rfl (search_prepareURL_isSome query page perPage)
    (identifierLike_search query page perPage), parameterPairs_search]
  simp only [List.forall_mem_cons, plainValue_toString, List.not_mem_nil, false_implies,
    implies_true, and_true]

/-- No collection puts its identifier into the query. -/
theorem collection_parametersSurvive (collectionId : String) (page perPage : Int) :
    (GetCollectionPhotosRequest.request collectionId page perPage).ParametersSurvive
      order serialize := by
  have hurl : (GetCollectionPhotosRequest.request collectionId page perPage).prepareURL.isSome := by
    simp [GetCollectionPhotosRequest.request, prepareURL]
  rw [parametersSurvive_of_path_iff rfl hurl]
  · rw [parameterPairs_collection]
    simp only [List.forall_mem_cons, plainValue_toString, List.not_mem_nil, false_implies,
      implies_true, and_true]
  · rw [parameterPairs_collection]
    simp only [List.forall_mem_cons, List.not_mem_nil, false_implies, implies_true, and_true]
    exact ⟨identifierLike_per_page, identifierLike_page⟩

/-- Exactly the parameters whose values hold neither a separator nor a plus sign survive,
whatever order their dictionary is iterated in; of a search that is its text. -/
theorem parametersSurvive_iff (order : IterationOrder)
    (serialize : ParameterDictionary → Except NSError Data) :
    (∀ request : UnsplashRequest, request.type = .path → request.prepareURL.isSome →
      (∀ pair ∈ parameterPairs request.parameters, IdentifierLike pair.1) →
      (request.ParametersSurvive order serialize ↔
        ∀ pair ∈ parameterPairs request.parameters, PlainValue pair.2)) ∧
    ∀ (query : String) (page perPage : Int),
      (SearchPhotosRequest.request query page perPage).ParametersSurvive order serialize ↔
        PlainValue query :=
  ⟨fun _ hpath hurl hkeys => parametersSurvive_of_path_iff hpath hurl hkeys,
    search_parametersSurvive_iff⟩

/-- A search for two words reaches the server as itself. -/
theorem parametersSurvive_red_panda :
    (SearchPhotosRequest.request "red panda" 1 30).ParametersSurvive .identity
      fun _ => .error ⟨"", 0⟩ := by
  refine ((parametersSurvive_iff .identity _).1 _ rfl (search_prepareURL_isSome _ _ _)
    (identifierLike_search _ _ _)).mpr ?_
  rw [parameterPairs_search]
  decide

/-- The second word of this search is a parameter of its own. -/
theorem ampersand_not_parametersSurvive :
    ¬ (SearchPhotosRequest.request "black&white" 1 30).ParametersSurvive .identity
      fun _ => .error ⟨"", 0⟩ := by
  rw [search_parametersSurvive_iff]
  decide

/-! ### Parameters in the body -/

/-- **Every string survives the body**, where values are escaped before they are joined. -/
theorem body_survives {parameters : ParameterDictionary}
    (hkeys : ∀ entry ∈ parameters.entries, IdentifierLike entry.1)
    (hstrings : ∀ entry ∈ parameters.entries, ∃ value, entry.2 = .string value) :
    (QueryString.decodeForm (queryParameters order (some parameters) true)).Perm
      (parameterPairs (some parameters)) := by
  have hseparators : isValueAllowed '&' = false ∧ isValueAllowed '%' = false ∧
      isValueAllowed '+' = false := by decide
  have hperm := order.perm (encodedParameters true parameters)
  have hnames : ∀ pair ∈ order.arrange (encodedParameters true parameters),
      IdentifierLike pair.1 := by
    intro pair hpair
    obtain ⟨entry, hentry, rfl⟩ := List.mem_map.mp (hperm.mem_iff.mp hpair)
    exact hkeys entry hentry
  have hvalues : ∀ pair ∈ order.arrange (encodedParameters true parameters),
      '&' ∉ pair.2.toList := by
    intro pair hpair
    obtain ⟨entry, hentry, rfl⟩ := List.mem_map.mp (hperm.mem_iff.mp hpair)
    obtain ⟨value, hvalue⟩ := hstrings entry hentry
    simpa [encodedValue, hvalue] using QueryString.not_mem_escape hseparators.1
      (fun b => (QueryString.not_mem_escapeByte b).1) value.toList
  rw [QueryString.decodeForm, queryParameters_toList,
    QueryString.formItems_joinItems (fun pair h => (hnames pair h).separators_not_mem) hvalues,
    List.map_map]
  refine (hperm.map _).trans (.of_eq ?_)
  unfold parameterPairs encodedParameters
  rw [List.map_map]
  refine List.map_congr_left fun entry hentry => ?_
  obtain ⟨value, hvalue⟩ := hstrings entry hentry
  -- a name is its own escape
  have hname := QueryString.escape_of_allowed (hkeys entry hentry)
  have hkey := QueryString.decodeFormComponent_escape_of_plus hseparators.2.1 hseparators.2.2
    entry.1
  rw [hname] at hkey
  simp [encodedValue, hvalue, hkey,
    QueryString.decodeFormComponent_escape_of_plus hseparators.2.1 hseparators.2.2]

end UnsplashRequest

end ImSplash
