import ImSplash.PhotoView
import ImSplash.QueryString
import Mathlib.Data.List.AList

/-!
# The URL an image is cached under

A view asks for an image in its own size, by two query items on the URL of the photo.
`URL.appending(queryItems:)` collects the items in a dictionary and writes them down in
the order the dictionary is iterated in, which Swift chooses anew for every dictionary and
every launch.  The resulting URL is what the image cache is asked by.
-/

namespace ImSplash
open Runs

/-- A name and, if there is one, its value. -/
abbrev URLQueryItem := String × Option String

/-- A Swift `[String: String]`; the order of the entries means nothing. -/
abbrev QueryDictionary := AList fun _ : String => String

/-- The order in which a dictionary is iterated. -/
structure IterationOrder where
  arrange : List (String × String) → List (String × String)
  perm : ∀ entries, (arrange entries).Perm entries

namespace QueryDictionary
variable (dictionary : QueryDictionary)

/-- `dictionary[item.name] = item.value`. -/
def assign (item : URLQueryItem) : QueryDictionary :=
  match item.2 with
  | some value => dictionary.insert item.1 value
  | none => dictionary.erase item.1

def pairs : List (String × String) := dictionary.entries.map fun entry => (entry.1, entry.2)

end QueryDictionary

namespace URL

/-- The characters that stand for themselves in a query item. -/
def isQueryItemAllowed (c : Char) : Bool :=
  (isPathAllowed c || c = '/' || c = '?') && c ≠ '&' && c ≠ '='

theorem separates_isQueryItemAllowed : QueryString.Separates isQueryItemAllowed :=
  ⟨by decide, by decide, by decide⟩

/-- `URLComponents.queryItems`. -/
def queryItems (url : URL) : Option (List URLQueryItem) :=
  url.query.map QueryString.decode

/-- The dictionary that `appending(queryItems:)` builds. -/
def queryDictionary (url : URL) (queryItems : List URLQueryItem) : QueryDictionary :=
  queryItems.foldl QueryDictionary.assign
    ((url.queryItems.getD []).foldl QueryDictionary.assign ∅)

/-- `appending(queryItems:)`; a URL has components, and with their new items they make one. -/
def appending (url : URL) (queryItems : List URLQueryItem) (order : IterationOrder) : URL :=
  ofComponents { url.components with
    query := some (QueryString.encode isQueryItemAllowed
      (order.arrange (url.queryDictionary queryItems).pairs)).toList }

/-- URLs that differ in their query alone are told apart by it. -/
theorem ofComponents_query_inj {components : URIReference.Parts} {query query' : List Char} :
    ofComponents { components with query := some query } =
      ofComponents { components with query := some query' } ↔ query = query' := by
  simp [ofComponents, URIReference.Parts.toChars, URIReference.Parts.marked, String.ofList_inj]

end URL

/-- The query items that ask for a size; `width` and `height` are written as Swift
describes the numbers. -/
def sizeItems (width height : String) : List URLQueryItem :=
  [("max-w", some width), ("max-h", some height)]

/-- `PhotoView.sizedImageURL(from:)`. -/
def sizedImageURL (width height : String) (url : URL) (order : IterationOrder) : URL :=
  url.appending (sizeItems width height) order

/-- `cache.storeCachedResponse(_:for:)`, under the URL of the request. -/
def storeCachedResponse (cache : URL → Option Data) (data : Data) (url : URL) :
    URL → Option Data :=
  fun url' => if url' = url then some data else cache url'

/-- A data task that brings an image stores its data under the URL it loaded. -/
theorem dataTaskDidComplete_cache {UIImage : Type} (platform : Platform UIImage)
    (cell : PhotoCell UIImage) (task : TaskId) (request : ImageRequest) {data : Data}
    {image : UIImage} (himage : platform.imageOfData data = some image) :
    (cell.dataTaskDidComplete platform task request ⟨some data, true, none⟩).cache =
      storeCachedResponse cell.cache data request.url := by
  simp only [PhotoCell.dataTaskDidComplete, Option.bind_some, himage]
  rfl

/-- Two calls for one URL and one size agree, and the second finds what was stored for the
first, whatever else is in the cache. -/
def FindsStored (url : URL) (width height : String) (order order' : IterationOrder) : Prop :=
  sizedImageURL width height url order = sizedImageURL width height url order' ∧
    ∀ cache data, storeCachedResponse cache data (sizedImageURL width height url order)
      (sizedImageURL width height url order') = some data

/-- The two orders list the query of the sized URL alike. -/
def ArrangeAlike (url : URL) (width height : String) (order order' : IterationOrder) : Prop :=
  order.arrange (url.queryDictionary (sizeItems width height)).pairs =
    order'.arrange (url.queryDictionary (sizeItems width height)).pairs

variable {url : URL} {width height : String}

/-- The query tells the order it was written in. -/
theorem sizedImageURL_eq_iff {order order' : IterationOrder} :
    sizedImageURL width height url order = sizedImageURL width height url order' ↔
      ArrangeAlike url width height order order' := by
  unfold sizedImageURL URL.appending ArrangeAlike
  rw [URL.ofComponents_query_inj, String.toList_inj]
  constructor
  · exact QueryString.encode_injective URL.separates_isQueryItemAllowed
  · intro h
    rw [h]

theorem findsStored_of_arrangeAlike_iff {order order' : IterationOrder} :
    FindsStored url width height order order' ↔ ArrangeAlike url width height order order' := by
  rw [← sizedImageURL_eq_iff]
  refine ⟨fun h => h.1, fun h => ⟨h, fun cache data => ?_⟩⟩
  rw [h, storeCachedResponse, if_pos rfl]

/-! ### Two orders that differ -/

/-- Any order, and its reverse. -/
def IterationOrder.identity : IterationOrder := ⟨id, fun entries => .refl entries⟩

def IterationOrder.reversed : IterationOrder := ⟨List.reverse, List.reverse_perm⟩

/-- A list without duplicates that has two elements is not its own reverse. -/
theorem reverse_ne_self {α : Type*} {l : List α} (h : l.Nodup) {a b : α} (ha : a ∈ l)
    (hb : b ∈ l) (hab : a ≠ b) : l.reverse ≠ l := by
  intro hreverse
  match l, h, ha, hb with
  | [x], _, ha, hb =>
    exact hab ((List.mem_singleton.mp ha).trans (List.mem_singleton.mp hb).symm)
  | x :: y :: rest, h, _, _ =>
    have hfirst := congrArg List.head? hreverse
    rw [List.head?_reverse, List.getLast?_cons_cons, List.head?_cons] at hfirst
    exact (List.nodup_cons.mp h).1 (List.mem_of_getLast? hfirst)

theorem QueryDictionary.pairs_map_fst (dictionary : QueryDictionary) :
    dictionary.pairs.map Prod.fst = dictionary.keys := by
  simp [pairs, AList.keys, List.keys]

/-- Both sizes are in the dictionary of a sized URL. -/
theorem mem_keys_sizeItems : "max-w" ∈ (url.queryDictionary (sizeItems width height)).keys ∧
    "max-h" ∈ (url.queryDictionary (sizeItems width height)).keys := by
  simp only [URL.queryDictionary, sizeItems, List.foldl_cons, List.foldl_nil,
    QueryDictionary.assign]
  rw [← AList.mem_keys, ← AList.mem_keys, AList.mem_insert, AList.mem_insert, AList.mem_insert]
  exact ⟨Or.inr (Or.inl rfl), Or.inl rfl⟩

theorem not_arrangeAlike_reversed :
    ¬ ArrangeAlike url width height .identity .reversed := by
  intro h
  have hkeys := congrArg (List.map Prod.fst) h
  simp only [IterationOrder.identity, IterationOrder.reversed, id, List.map_reverse,
    QueryDictionary.pairs_map_fst] at hkeys
  -- The keys read the same both ways, and two of them differ.
  obtain ⟨hwidth, hheight⟩ := mem_keys_sizeItems
  exact reverse_ne_self (AList.keys_nodup _) hwidth hheight (by decide) hkeys.symm

/-- **The image cache finds what it stored**, for every image URL and every size, exactly
when the two calls iterate their dictionaries alike, and there are calls that do not. -/
theorem findsStored_iff (url : URL) (width height : String) :
    (∀ order order', FindsStored url width height order order' ↔
      ArrangeAlike url width height order order') ∧
    ∃ order order', ¬ FindsStored url width height order order' := by
  refine ⟨fun order order' => findsStored_of_arrangeAlike_iff, .identity, .reversed, ?_⟩
  rw [findsStored_of_arrangeAlike_iff]
  exact not_arrangeAlike_reversed

/-- The image of a photo is stored under one URL and asked for under another. -/
theorem resized_image_not_found :
    ¬ ∀ url width height order order', FindsStored url width height order order' := by
  intro h
  have hfound := h ⟨"https://i/p"⟩ "100.0" "100.0" .identity .reversed
  exact not_arrangeAlike_reversed (findsStored_of_arrangeAlike_iff.mp hfound)

end ImSplash
