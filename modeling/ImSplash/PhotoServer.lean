import ImSplash.JSONText
import ImSplash.Paging
import ImSplash.PhotoDecoding
import ImSplash.RequestParameters

/-!
# What the server is asked for, and what it answers

The server reads the path of a request and the form in its query.  What it reads is what the
data source wanted, page for page, as long as the text of a search is plain and the identifier
of a collection has no slash in it; and it answers with that page of the photos it has.
-/

namespace ImSplash
open NetworkRequest

/-- What a request asks for. -/
inductive PageQuery
  | search (query : String) (page perPage : Nat)
  | collection (identifier : String) (page perPage : Nat)
deriving DecidableEq, Repr

/-- A decimal number. -/
def decimal? (string : String) : Option Nat :=
  if string.toList ≠ [] ∧ string.toList.all Char.isDigit = true then
    some (Nat.ofDigitChars 10 string.toList 0)
  else none

/-- The components of a path, as the server reads them. -/
def pathComponents (path : List Char) : Option (List String) :=
  ((path.splitOn '/').drop 1).mapM QueryString.decodeComponent

/-- What the server reads from a path and a form. -/
def PageQuery.ofForm (pathComponents : List String) (form : List (String × String)) :
    Option PageQuery := do
  let page ← (form.lookup "page").bind decimal?
  let perPage ← (form.lookup "per_page").bind decimal?
  match pathComponents with
  | ["search", "photos"] => (form.lookup "query").map fun query => .search query page perPage
  | ["collections", identifier, "photos"] => some (.collection identifier page perPage)
  | _ => none

/-- What the server reads from a request. -/
def PageQuery.ofURLRequest (urlRequest : URLRequest) : Option PageQuery := do
  let pathComponents ← pathComponents urlRequest.url.components.path
  ofForm pathComponents (QueryString.decodeForm (urlRequest.url.query.getD ""))

/-- The photos a server has, as it writes them down. -/
structure PhotoServer where
  search : String → List JSON
  collection : String → List JSON

/-- The JSON the server has for a query: the page of a collection, or an object with the
page of a search among its members. -/
def PhotoServer.Answers (server : PhotoServer) (json : JSON) : PageQuery → Prop
  | .search query page perPage =>
    json.results = some (Paging.page (server.search query) perPage (page - 1))
  | .collection identifier page perPage =>
    json = .array (Paging.page (server.collection identifier) perPage (page - 1))

/-! ### Looking up a name -/

theorem lookup_eq_some_iff_mem {α : Type*} {l : List (String × α)} (h : (l.map Prod.fst).Nodup)
    {key : String} {value : α} : l.lookup key = some value ↔ (key, value) ∈ l := by
  induction l with
  | nil => simp
  | cons entry l ih =>
    obtain ⟨name, first⟩ := entry
    obtain ⟨hname, hrest⟩ := List.nodup_cons.mp h
    rw [List.lookup_cons, List.mem_cons]
    by_cases hkey : key = name
    · subst hkey
      have hnot : (key, value) ∉ l :=
        fun hmem => hname (List.mem_map.mpr ⟨_, hmem, rfl⟩)
      simp [hnot, eq_comm]
    · have hbeq : (key == name) = false := beq_eq_false_iff_ne.mpr hkey
      rw [hbeq, ih hrest]
      simp [hkey]

/-- The order of the entries does not matter. -/
theorem lookup_perm {α : Type*} {l l' : List (String × α)} (hperm : l.Perm l')
    (h : (l'.map Prod.fst).Nodup) (key : String) : l.lookup key = l'.lookup key := by
  have hnodup : (l.map Prod.fst).Nodup := (hperm.map Prod.fst).nodup_iff.mpr h
  ext value
  rw [lookup_eq_some_iff_mem hnodup, lookup_eq_some_iff_mem h, hperm.mem_iff]

/-! ### What it reads -/

namespace UnsplashRequest
variable {request : UnsplashRequest} {order : IterationOrder}
  {serialize : ParameterDictionary → Except NSError Data} {urlRequest : URLRequest}

theorem mapM_decodeComponent_escape {allowed : Char → Bool} (hpercent : allowed '%' = false)
    (components : List (List Char)) :
    (components.map (QueryString.escape allowed)).mapM QueryString.decodeComponent =
      some (components.map String.ofList) := by
  induction components with
  | nil => rfl
  | cons component components ih =>
    have hcomponent := QueryString.decodeComponent_escape hpercent (String.ofList component)
    rw [String.toList_ofList] at hcomponent
    simp only [List.map_cons, List.mapM_cons, hcomponent, ih]
    rfl

/-- The path of a request is that of its endpoint. -/
theorem pathComponents_of_endpoint {path : List Char} (hpath : request.type = .path)
    (hendpoint : request.endpoint.toList = '/' :: path)
    (hprepared : request.prepareURLRequest order serialize = .ok urlRequest) :
    pathComponents urlRequest.url.components.path =
      some ((path.splitOn '/').map String.ofList) := by
  have hurl : request.prepareURL.isSome := by simp [prepareURL, hendpoint]
  obtain ⟨urlRequest', hprepared', hcomponents⟩ :=
    prepareURLRequest_of_path order serialize hpath hurl
  obtain rfl := Except.ok.inj (hprepared'.symm.trans hprepared)
  have hslash : ∀ b : UInt8, '/' ∉ QueryString.escapeByte b :=
    QueryString.not_mem_escapeByte_of (by decide) (by decide)
  rw [hcomponents, pathComponents]
  show (((QueryString.escape URL.isURLPathAllowed request.endpoint.toList).splitOn '/').drop
    1).mapM QueryString.decodeComponent = _
  rw [QueryString.splitOn_escape (by decide) hslash, ← List.map_drop, hendpoint,
    List.splitOn_cons_eq_if_modifyHead, if_pos (by simp), List.drop_one, List.tail_cons]
  exact mapM_decodeComponent_escape (by decide) _

/-- A parameter is looked up in the form as it was set. -/
theorem lookup_decodeForm (hsurvive : request.ParametersSurvive order serialize)
    (hprepared : request.prepareURLRequest order serialize = .ok urlRequest)
    (hnodup : ((parameterPairs request.parameters).map Prod.fst).Nodup) (key : String) :
    (QueryString.decodeForm (urlRequest.url.query.getD "")).lookup key =
      (parameterPairs request.parameters).lookup key := by
  obtain ⟨urlRequest', hprepared', hperm⟩ := hsurvive
  obtain rfl := Except.ok.inj (hprepared.symm.trans hprepared')
  exact lookup_perm hperm hnodup key

end UnsplashRequest

theorem decimal?_toString (n : Nat) : decimal? (toString (n : Int)) = some n := by
  have hdigits : (toString (n : Int)).toList = Nat.toDigits 10 n := Nat.toList_repr
  have hdecimal : (Nat.toDigits 10 n).all Char.isDigit = true :=
    List.all_eq_true.mpr fun c hc => Nat.isDigit_of_mem_toDigits (by decide) (by decide) hc
  rw [decimal?, hdigits, if_pos ⟨Nat.toDigits_ne_nil, hdecimal⟩,
    Nat.ofDigitChars_toDigits (by decide) (by decide)]

namespace PageQuery
variable {order : IterationOrder} {serialize : ParameterDictionary → Except NSError Data}
  {urlRequest : URLRequest} {page perPage : Nat}

/-- **A search is read as it was asked for.** -/
theorem ofURLRequest_search {query : String} (hplain : PlainValue query)
    (hprepared : (SearchPhotosRequest.request query page perPage).prepareURLRequest order
      serialize = .ok urlRequest) :
    ofURLRequest urlRequest = some (.search query page perPage) := by
  have hsurvive : (SearchPhotosRequest.request query page perPage).ParametersSurvive order
      serialize := (UnsplashRequest.search_parametersSurvive_iff query page perPage).mpr hplain
  have hpairs := UnsplashRequest.parameterPairs_search query page perPage
  have hnames : (parameterPairs (SearchPhotosRequest.request query page perPage).parameters).map
      Prod.fst = ["query", "per_page", "page"] := by rw [hpairs]; rfl
  have hform := UnsplashRequest.lookup_decodeForm hsurvive hprepared (by rw [hnames]; decide)
  rw [hpairs] at hform
  have hendpoint : (SearchPhotosRequest.request query page perPage).endpoint.toList =
      '/' :: "search/photos".toList := by simp [SearchPhotosRequest.request]
  have hpath := UnsplashRequest.pathComponents_of_endpoint rfl hendpoint hprepared
  have hcomponents : ("search/photos".toList.splitOn '/').map String.ofList =
      ["search", "photos"] := by decide
  rw [ofURLRequest, hpath, hcomponents, Option.bind_eq_bind, Option.bind_some, ofForm, hform,
    hform, hform]
  show ((decimal? (toString (page : Int))).bind fun page =>
    (decimal? (toString (perPage : Int))).bind fun perPage => _) = _
  rw [decimal?_toString, decimal?_toString]
  rfl

/-- **A collection is read as it was asked for.** -/
theorem ofURLRequest_collection {identifier : String} (hslash : '/' ∉ identifier.toList)
    (hprepared : (GetCollectionPhotosRequest.request identifier page perPage).prepareURLRequest
      order serialize = .ok urlRequest) :
    ofURLRequest urlRequest = some (.collection identifier page perPage) := by
  have hsurvive : (GetCollectionPhotosRequest.request identifier page perPage).ParametersSurvive
      order serialize := UnsplashRequest.collection_parametersSurvive identifier page perPage
  have hpairs := UnsplashRequest.parameterPairs_collection identifier page perPage
  have hnames : (parameterPairs (GetCollectionPhotosRequest.request identifier page
      perPage).parameters).map Prod.fst = ["per_page", "page"] := by rw [hpairs]; rfl
  have hform := UnsplashRequest.lookup_decodeForm hsurvive hprepared (by rw [hnames]; decide)
  rw [hpairs] at hform
  have hendpoint : (GetCollectionPhotosRequest.request identifier page perPage).endpoint.toList =
      '/' :: ("collections".toList ++ '/' :: (identifier.toList ++ '/' :: "photos".toList)) := by
    simp [GetCollectionPhotosRequest.request]
  have hpath := UnsplashRequest.pathComponents_of_endpoint rfl hendpoint hprepared
  have hcomponents : (("collections".toList ++ '/' :: (identifier.toList ++
      '/' :: "photos".toList)).splitOn '/').map String.ofList =
        ["collections", identifier, "photos"] := by
    have hlast : "photos".toList.splitOn '/' = ["photos".toList] := by decide
    rw [List.splitOn_append_cons_self_of_not_mem (by decide),
      List.splitOn_append_cons_self_of_not_mem hslash, hlast]
    simp
  rw [ofURLRequest, hpath, hcomponents, Option.bind_eq_bind, Option.bind_some, ofForm, hform,
    hform]
  show ((decimal? (toString (page : Int))).bind fun page =>
    (decimal? (toString (perPage : Int))).bind fun perPage => _) = _
  rw [decimal?_toString, decimal?_toString]
  rfl

end PageQuery

/-! ### A server with a photo on its second page -/

namespace UnsplashPhotoPicker

/-- A photo as it is written down, all of whose URLs are `https://i/` and the component. -/
def photoJSON (component : String) : JSON :=
  let url : JSON := .string ("https://i/" ++ component)
  .object [("id", .string component), ("width", .number 1), ("height", .number 1),
    ("color", .string "#FFFFFF"), ("likes", .number 0),
    ("user", .object [("id", .string "u"), ("username", .string "u"), ("name", .string "u"),
      ("profile_image", .object []), ("links", .object []), ("total_collections", .number 0),
      ("total_likes", .number 0), ("total_photos", .number 0)]),
    ("urls", .object [("raw", url), ("full", url), ("regular", url), ("small", url),
      ("thumb", url)]),
    ("links", .object [])]

/-- What is read of it. -/
def coloredPhoto (component : String) : ImSplash.UnsplashPhoto :=
  { photoAt component with color := some (.hex "#FFFFFF") }

/-- `URL(string:)` refuses none of its strings. -/
def anyURL : JSONDecoder := ⟨fun string => some ⟨string⟩, false⟩

abbrev jsonCoding : JSONCoding := coding anyURL JSONSerialization.jsonObject JSONSerialization.data

theorem photo?_photoJSON (component : String) :
    photo? anyURL (photoJSON component) = some (coloredPhoto component) := by
  refine congrArg some ?_
  show ImSplash.UnsplashPhoto.mk component 1 1 (some (.hex "#FFFFFF")) ⟨"u"⟩ _ = _
  rw [coloredPhoto]
  congr 1
  funext kind
  cases kind <;> rfl

theorem isPlain_photoJSON {component : String} (h : ∀ c ∈ component.toList, 32 ≤ c.toNat) :
    (photoJSON component).isPlain = true := by
  have hcomponent : (component.toList.all fun c => 32 ≤ c.toNat) = true :=
    List.all_eq_true.mpr fun c hc => decide_eq_true (h c hc)
  simp [photoJSON, JSON.isPlain, JSON.membersArePlain, hcomponent]

end UnsplashPhotoPicker

namespace PhotoServer
open UnsplashPhotoPicker

def galleryJSON : List JSON := (List.range 31).map fun n => photoJSON (toString n)

/-- A page of photos and one more, whatever it is asked for. -/
def ofGallery : PhotoServer := ⟨fun _ => galleryJSON, fun _ => galleryJSON⟩

/-- A page of them, as it is sent. -/
def galleryBody (k : Nat) : Data := (JSON.array (Paging.page galleryJSON 30 k)).text

def coloredGallery : List UnsplashPhoto :=
  (List.range 31).map fun n => coloredPhoto (toString n)

theorem mapM_photoJSON (l : List Nat) :
    (l.map fun n => photoJSON (toString n)).mapM (photo? anyURL) =
      some (l.map fun n => coloredPhoto (toString n)) := by
  induction l with
  | nil => rfl
  | cons n l ih =>
    rw [List.map_cons, List.mapM_cons, photo?_photoJSON, ih]
    rfl

theorem isPlain_galleryPage (k : Nat) :
    (JSON.array (Paging.page galleryJSON 30 k)).isPlain = true := by
  refine JSON.arePlain_iff.mpr fun element helement => ?_
  have hmem : element ∈ galleryJSON := List.mem_of_mem_drop (List.mem_of_mem_take helement)
  obtain ⟨n, -, rfl⟩ := List.mem_map.mp hmem
  refine isPlain_photoJSON fun c hc => ?_
  have hdigits : (toString n).toList = Nat.toDigits 10 n := Nat.toList_repr
  rw [hdigits] at hc
  have hdigit := Nat.isDigit_of_mem_toDigits (by decide) (by decide) hc
  simp only [Char.isDigit, Bool.and_eq_true, decide_eq_true_eq] at hdigit
  have hle : (48 : Nat) ≤ c.toNat := hdigit.1
  omega

theorem jsonObject_galleryBody (k : Nat) : JSONSerialization.jsonObject (galleryBody k) =
    some (.array (Paging.page galleryJSON 30 k)) :=
  JSONSerialization.jsonObject_text (isPlain_galleryPage k)

/-- A page is read from its body. -/
theorem photos_galleryBody (k : Nat) :
    jsonCoding.photos (galleryBody k) .getCollectionPhotos =
      some (Paging.page coloredGallery 30 k) := by
  rw [photos_collection, jsonObject_galleryBody]
  show (Paging.page galleryJSON 30 k).mapM (photo? anyURL) = _
  rw [Paging.page, galleryJSON, ← List.map_drop, ← List.map_take, mapM_photoJSON, List.map_take,
    List.map_drop, Paging.page, coloredGallery]

end PhotoServer

end ImSplash
