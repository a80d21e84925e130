import ImSplash.PhotoServer

/-!
# The order of members does not matter

An object comes as a dictionary, which is iterated in an order of its own in every run of the
app.  `decode([Kind: URL].self, forKey:)` goes through the entries in that order and keeps the
last URL of a kind; as no two keys have the same kind, it is the only one, and a photo is read
as the same photo whatever the order.
-/

namespace ImSplash

/-- The same value, with the members of its objects in any order and none there twice. -/
inductive JSON.Same : JSON → JSON → Prop
  | refl (json : JSON) : Same json json
  | array {elements elements' : List JSON} (hlength : elements.length = elements'.length)
      (h : ∀ (i : Nat) (element element' : JSON), elements[i]? = some element →
        elements'[i]? = some element' → Same element element') :
      Same (.array elements) (.array elements')
  | object {members members' : List (String × JSON)} (hnodup : (members.map Prod.fst).Nodup)
      (hnodup' : (members'.map Prod.fst).Nodup)
      (hkeys : ∀ key, (members.lookup key).isSome = (members'.lookup key).isSome)
      (h : ∀ key value value', members.lookup key = some value →
        members'.lookup key = some value' → Same value value') :
      Same (.object members) (.object members')

namespace JSON.Same

theorem symm {json json' : JSON} (h : Same json json') : Same json' json := by
  induction h with
  | refl json => exact refl json
  | array hlength _ ih => exact array hlength.symm fun i _ _ h h' => ih i _ _ h' h
  | object hnodup hnodup' hkeys _ ih =>
    exact object hnodup' hnodup (fun key => (hkeys key).symm) fun key _ _ h h' => ih key _ _ h' h

theorem of_perm {members members' : List (String × JSON)} (hperm : members.Perm members')
    (hnodup : (members'.map Prod.fst).Nodup) : Same (.object members) (.object members') := by
  have hlookup := lookup_perm hperm hnodup
  refine object ((hperm.map Prod.fst).nodup_iff.mpr hnodup) hnodup
    (fun key => by rw [hlookup key]) fun key value value' h h' => ?_
  rw [hlookup key, h'] at h
  obtain rfl := Option.some.inj h
  exact refl _

/-- The results of a search are the same ones. -/
theorem results {json json' : JSON} (h : Same json json') :
    (json.results = none ∧ json'.results = none) ∨
    ∃ results results', json.results = some results ∧ json'.results = some results' ∧
      Same (.array results) (.array results') := by
  cases h with
  | refl =>
    cases hresults : json.results with
    | none => exact Or.inl ⟨rfl, rfl⟩
    | some results => exact Or.inr ⟨results, results, rfl, rfl, refl _⟩
  | array => exact Or.inl ⟨rfl, rfl⟩
  | @object members members' _ _ hkeys h =>
    have hkey := hkeys "results"
    have hvalue := h "results"
    rw [JSON.results, JSON.results]
    cases hlookup : members.lookup "results" with
    | none =>
      rw [hlookup] at hkey
      rw [Option.isNone_iff_eq_none.mp (Option.isSome_eq_false_iff.mp hkey.symm)]
      exact Or.inl ⟨rfl, rfl⟩
    | some value =>
      rw [hlookup] at hkey
      obtain ⟨value', hlookup'⟩ := Option.isSome_iff_exists.mp hkey.symm
      rw [hlookup']
      cases hvalue value value' hlookup hlookup' with
      | refl =>
        cases value with
        | array results => exact Or.inr ⟨results, results, rfl, rfl, refl _⟩
        | _ => exact Or.inl ⟨rfl, rfl⟩
      | array hlength h => exact Or.inr ⟨_, _, rfl, rfl, array hlength h⟩
      | object => exact Or.inl ⟨rfl, rfl⟩

end JSON.Same

/-- The reader makes the same of a value in any order. -/
def Decode.Unordered {α : Type} (read : Decode α) : Prop :=
  ∀ json json', JSON.Same json json' → (read json).toOption = (read json').toOption

/-- Containers with the same values under the same keys. -/
def KeyedDecodingContainer.Same (container container' : KeyedDecodingContainer) : Prop :=
  ∀ key, Option.Rel JSON.Same (container.members.lookup key) (container'.members.lookup key)

section Unordered
variable {α : Type} {read : Decode α}

theorem unordered_decodeString : Decode.Unordered decodeString := by
  intro json json' h
  cases h <;> rfl

theorem unordered_decodeInt : Decode.Unordered decodeInt := by
  intro json json' h
  cases h <;> rfl

namespace KeyedDecodingContainer
variable {container container' : KeyedDecodingContainer}

theorem Same.lookup (h : container.Same container') (key : String) {value : JSON}
    (hlookup : container.members.lookup key = some value) :
    ∃ value', container'.members.lookup key = some value' ∧ JSON.Same value value' := by
  have hvalue := h key
  rw [hlookup] at hvalue
  cases hlookup' : container'.members.lookup key with
  | none =>
    rw [hlookup'] at hvalue
    cases hvalue
  | some value' =>
    rw [hlookup'] at hvalue
    cases hvalue with
    | some hsame => exact ⟨value', rfl, hsame⟩

theorem Same.lookup_none (h : container.Same container') {key : String}
    (hlookup : container.members.lookup key = none) :
    container'.members.lookup key = none := by
  have hvalue := h key
  rw [hlookup] at hvalue
  cases hlookup' : container'.members.lookup key with
  | none => rfl
  | some value' =>
    rw [hlookup'] at hvalue
    cases hvalue

theorem Same.decode (h : container.Same container') (hread : Decode.Unordered read)
    (key : String) : (container.decode read key).toOption =
      (container'.decode read key).toOption := by
  rw [toOption_decode, toOption_decode]
  cases hlookup : container.members.lookup key with
  | none => rw [h.lookup_none hlookup]
  | some value =>
    obtain ⟨value', hlookup', hsame⟩ := h.lookup key hlookup
    rw [hlookup']
    exact hread _ _ hsame

theorem Same.decode? (h : container.Same container') (hread : Decode.Unordered read)
    (key : String) : container.decode? read key = container'.decode? read key :=
  h.decode hread key

theorem Same.decode_ok (h : container.Same container') (hread : Decode.Unordered read)
    {key : String} {a : α} (hok : container.decode read key = .ok a) :
    container'.decode read key = .ok a :=
  toOption_eq_some.mp ((h.decode hread key).symm.trans (toOption_eq_some.mpr hok))

theorem Same.refl (container : KeyedDecodingContainer) : container.Same container := by
  intro key
  cases container.members.lookup key with
  | none => exact .none
  | some value => exact .some (.refl value)

theorem same_of_object {members members' : List (String × JSON)}
    (hkeys : ∀ key, (members.lookup key).isSome = (members'.lookup key).isSome)
    (h : ∀ key value value', members.lookup key = some value →
      members'.lookup key = some value' → JSON.Same value value') :
    Same ⟨members⟩ ⟨members'⟩ := by
  intro key
  have hkey := hkeys key
  have hsame := h key
  dsimp only
  cases hlookup : members.lookup key with
  | none =>
    rw [hlookup] at hkey
    rw [Option.isNone_iff_eq_none.mp (Option.isSome_eq_false_iff.mp hkey.symm)]
    exact .none
  | some value =>
    rw [hlookup] at hkey
    obtain ⟨value', hlookup'⟩ := Option.isSome_iff_exists.mp hkey.symm
    rw [hlookup']
    exact .some (hsame value value' hlookup hlookup')

/-- The same as an object is an object of the same members. -/
theorem exists_of_same_object {members : List (String × JSON)} {json : JSON}
    (h : JSON.Same (.object members) json) :
    ∃ members', json = .object members' ∧ Same ⟨members⟩ ⟨members'⟩ := by
  cases h with
  | refl => exact ⟨members, rfl, Same.refl _⟩
  | object _ _ hkeys hvalues => exact ⟨_, rfl, same_of_object hkeys hvalues⟩

end KeyedDecodingContainer

/-- What is made of a container is made of a value. -/
theorem unordered_container {read : KeyedDecodingContainer → Except DecodingError α}
    (h : ∀ c c' : KeyedDecodingContainer, c.Same c' → (read c).toOption = (read c').toOption) :
    Decode.Unordered fun json => container json >>= read := by
  intro json json' hsame
  rw [toOption_bind, toOption_bind]
  cases hsame with
  | refl => rfl
  | array => rfl
  | object _ _ hkeys hvalues =>
    exact h _ _ (KeyedDecodingContainer.same_of_object hkeys hvalues)

theorem unordered_decodeArray (hread : Decode.Unordered read) :
    Decode.Unordered (decodeArray read) := by
  intro json json' hsame
  cases hsame with
  | refl => rfl
  | object => rfl
  | @array elements elements' hlength h =>
    rw [decodeArray, decodeArray, toOption_decodeElements, toOption_decodeElements]
    induction elements generalizing elements' with
    | nil => rw [List.length_eq_zero_iff.mp hlength.symm]
    | cons element elements ih =>
      cases elements' with
      | nil => cases hlength
      | cons element' elements' =>
        have hfirst := hread _ _ (h 0 element element' rfl rfl)
        have hrest := ih (Nat.succ.inj hlength) fun i => h (i + 1)
        rw [List.mapM_cons, List.mapM_cons, hfirst, hrest]

end Unordered

/-! ### Dictionaries by kind -/

theorem lookup_eq_none_of_notMem {α : Type*} {l : List (String × α)} {key : String}
    (h : key ∉ l.map Prod.fst) : l.lookup key = none := by
  refine List.lookup_eq_none_iff.mpr fun entry hentry => bne_iff_ne.mpr ?_
  rintro rfl
  exact h (List.mem_map_of_mem hentry)

theorem nodup_map_filterMap {α β : Type*} (f : α → Option β) {l : List (String × α)}
    (h : (l.map Prod.fst).Nodup) :
    ((l.filterMap fun entry => (f entry.2).map fun b => (entry.1, b)).map Prod.fst).Nodup := by
  refine h.sublist ?_
  clear h
  induction l with
  | nil => exact List.Sublist.slnil
  | cons entry l ih =>
    rw [List.filterMap_cons, List.map_cons]
    cases f entry.2 with
    | none => exact ih.cons entry.1
    | some b => exact ih.cons_cons entry.1

namespace JSONDecoder
variable (decoder : JSONDecoder)

/-- What is made of a value in a dictionary of strings, and whether the key is kept. -/
def entry? : JSON → Option (Option String)
  | .string value => some (some value)
  | .null => if decoder.leavesOutNulls then some none else none
  | _ => none

theorem toOption_decodeMembers (members : List (String × JSON)) :
    (decoder.decodeMembers members).toOption =
      if members.all fun member => (decoder.entry? member.2).isSome then
        some (members.filterMap fun member =>
          (decoder.entry? member.2).join.map fun value => (member.1, value))
      else none := by
  induction members with
  | nil => rfl
  | cons member members ih =>
    obtain ⟨key, value⟩ := member
    rw [List.all_cons, List.filterMap_cons]
    cases value with
    | string value =>
      have hread : (decoder.decodeMembers ((key, .string value) :: members)).toOption =
          (decoder.decodeMembers members).toOption.map fun rest => (key, value) :: rest := by
        simp only [decodeMembers, Bool.and_false, Bool.false_eq_true, if_false, toOption_bind]
        cases (decoder.decodeMembers members).toOption <;> rfl
      rw [hread, ih]
      cases members.all fun member => (decoder.entry? member.2).isSome <;> rfl
    | null =>
      cases hnulls : decoder.leavesOutNulls with
      | true => simp only [decodeMembers, entry?, hnulls, ih, Bool.true_and, if_true,
          Option.isSome_some, Option.join_some, Option.map_none]
      | false =>
        simp only [decodeMembers, entry?, hnulls, Bool.false_and, Bool.false_eq_true, if_false,
          Option.isSome_none, toOption_bind, toOption_mapError]
        rfl
    | bool | number | array | object =>
      simp only [decodeMembers, entry?, Bool.and_false, Bool.false_eq_true, if_false,
        Option.isSome_none, Bool.false_and, toOption_bind, toOption_mapError]
      rfl

variable {decoder}

theorem map_entry?_of_rel {value value' : Option JSON} (h : Option.Rel JSON.Same value value') :
    value.map decoder.entry? = value'.map decoder.entry? := by
  cases h with
  | none => rfl
  | some hsame => cases hsame <;> rfl

theorem forall_map_eq_some {value : Option JSON} :
    (∀ entry, value.map decoder.entry? = some entry → entry.isSome) ↔
      ∀ json, value = some json → (decoder.entry? json).isSome := by
  cases value with
  | none => exact iff_of_true (fun _ h => by cases h) fun _ h => by cases h
  | some json => simp

variable {κ : Type} [RawRepresentable κ] [DecidableEq κ]

theorem all_isSome_iff {members : List (String × JSON)} (hnodup : (members.map Prod.fst).Nodup) :
    (members.all fun member => (decoder.entry? member.2).isSome) = true ↔
      ∀ key value, members.lookup key = some value → (decoder.entry? value).isSome := by
  rw [List.all_eq_true, Prod.forall]
  exact forall₂_congr fun key value => by rw [lookup_eq_some_iff_mem hnodup]

/-- The keys that are kept are those with a value that is. -/
theorem lookup_filterMap {members : List (String × JSON)}
    (hnodup : (members.map Prod.fst).Nodup) (key : String) :
    (members.filterMap fun member =>
      (decoder.entry? member.2).join.map fun value => (member.1, value)).lookup key =
      (members.lookup key).bind fun value => (decoder.entry? value).join := by
  induction members with
  | nil => rfl
  | cons member members ih =>
    obtain ⟨name, value⟩ := member
    obtain ⟨hname, hrest⟩ := List.nodup_cons.mp hnodup
    rw [List.filterMap_cons, List.lookup_cons]
    by_cases hkey : key = name
    · subst hkey
      have hnone := lookup_eq_none_of_notMem hname
      cases hvalue : (decoder.entry? value).join with
      | none =>
        rw [Option.map_none, ih hrest, hnone, beq_self_eq_true]
        exact hvalue.symm
      | some string =>
        rw [Option.map_some, List.lookup_cons, beq_self_eq_true]
        exact hvalue.symm
    · have hbeq : (key == name) = false := beq_eq_false_iff_ne.mpr hkey
      rw [hbeq, ← ih hrest]
      cases (decoder.entry? value).join with
      | none => rfl
      | some string => rw [Option.map_some, List.lookup_cons, hbeq]

/-- One step of the loop in `decode([Kind: URL].self, forKey:)`. -/
theorem foldl_update (entries : List (String × String))
    (hnodup : (entries.map Prod.fst).Nodup) (result : κ → Option URL) (kind : κ) :
    entries.foldl (fun result entry =>
      match RawRepresentable.ofRawValue entry.1, decoder.url entry.2 with
      | some kind, some url => Function.update result kind (some url)
      | _, _ => result) result kind =
      ((entries.lookup (RawRepresentable.rawValue kind)).bind decoder.url).or (result kind) := by
  induction entries generalizing result with
  | nil => rfl
  | cons entry entries ih =>
    obtain ⟨name, value⟩ := entry
    obtain ⟨hname, hrest⟩ := List.nodup_cons.mp hnodup
    rw [List.foldl_cons, ih hrest, List.lookup_cons]
    by_cases hkey : RawRepresentable.rawValue kind = name
    · have hkind := RawRepresentable.ofRawValue_eq_some.mpr hkey
      rw [hkey, lookup_eq_none_of_notMem hname, beq_self_eq_true]
      dsimp only
      rw [hkind]
      cases hurl : decoder.url value with
      | none => simp only [Option.bind_none, Option.none_or, Option.bind_some, hurl]
      | some url =>
        simp only [Option.bind_none, Option.none_or, Option.bind_some, hurl, Option.some_or,
          Function.update_self]
    · have hbeq : (RawRepresentable.rawValue kind == name) = false := beq_eq_false_iff_ne.mpr hkey
      rw [hbeq]
      dsimp only
      congr 1
      cases hfound : RawRepresentable.ofRawValue (κ := κ) name with
      | none => rfl
      | some found =>
        have hne : kind ≠ found := by
          rintro rfl
          exact hkey (RawRepresentable.ofRawValue_eq_some.mp hfound)
        cases decoder.url value with
        | none => rfl
        | some url => exact Function.update_of_ne hne _ _

/-- **The URL of a kind is that under its key**, if the values are strings. -/
theorem toOption_decodeURLs {members : List (String × JSON)}
    (hnodup : (members.map Prod.fst).Nodup) :
    (decoder.decodeURLs (κ := κ) (.object members)).toOption =
      if members.all fun member => (decoder.entry? member.2).isSome then
        some fun kind => ((members.lookup (RawRepresentable.rawValue kind)).bind fun value =>
          (decoder.entry? value).join).bind decoder.url
      else none := by
  have hkept := nodup_map_filterMap (fun value => (decoder.entry? value).join) hnodup
  rw [decodeURLs, toOption_bind]
  show (decoder.decodeMembers members).toOption.bind _ = _
  rw [toOption_decodeMembers]
  split
  · rw [Option.bind_some, toOption_pure, Option.some.injEq]
    funext kind
    refine (foldl_update _ hkept _ kind).trans ?_
    rw [lookup_filterMap hnodup, Option.or_none]
  · rfl

/-- **The order in which the loop sees the entries does not matter.** -/
theorem unordered_decodeURLs : Decode.Unordered (decoder.decodeURLs (κ := κ)) := by
  intro json json' hsame
  cases hsame with
  | refl => rfl
  | array => rfl
  | @object members members' hnodup hnodup' hkeys hvalues =>
    have hsame := KeyedDecodingContainer.same_of_object hkeys hvalues
    have hlookup : ∀ key, (members.lookup key).map decoder.entry? =
        (members'.lookup key).map decoder.entry? := fun key => map_entry?_of_rel (hsame key)
    have hall : (members.all fun member => (decoder.entry? member.2).isSome) =
        members'.all fun member => (decoder.entry? member.2).isSome := by
      rw [Bool.eq_iff_iff, all_isSome_iff hnodup, all_isSome_iff hnodup']
      refine forall_congr' fun key => ?_
      rw [← forall_map_eq_some, ← forall_map_eq_some, hlookup key]
    have hbind : ∀ key, ((members.lookup key).bind fun value => (decoder.entry? value).join) =
        (members'.lookup key).bind fun value => (decoder.entry? value).join := by
      intro key
      have hjoin := congrArg (Option.bind · Option.join) (hlookup key)
      simp only [Option.bind_map] at hjoin
      exact hjoin
    rw [toOption_decodeURLs hnodup, toOption_decodeURLs hnodup', hall]
    simp only [hbind]

end JSONDecoder

/-! ### Photos and pages -/

namespace UnsplashPhotoPicker
variable (decoder : JSONDecoder)

theorem unordered_decodeURL : Decode.Unordered decoder.decodeURL := by
  intro json json' hsame
  rw [JSONDecoder.decodeURL, JSONDecoder.decodeURL, toOption_bind, toOption_bind,
    unordered_decodeString json json' hsame]

theorem UnsplashPhotoExif.unordered_decode : Decode.Unordered UnsplashPhotoExif.decode := by
  refine unordered_container fun c c' h => ?_
  simp only [toOption_bind, h.decode unordered_decodeString]

theorem UnsplashUser.unordered_decode : Decode.Unordered (UnsplashUser.decode decoder) := by
  refine unordered_container fun c c' h => ?_
  simp only [toOption_bind, h.decode unordered_decodeString, h.decode unordered_decodeInt,
    h.decode JSONDecoder.unordered_decodeURLs, h.decode? unordered_decodeString,
    h.decode? (unordered_decodeURL decoder)]

theorem UnsplashPhoto.unordered_decodeColor : Decode.Unordered UnsplashPhoto.decodeColor := by
  intro json json' hsame
  have hstring := unordered_decodeString json json' hsame
  show ((decodeString json).map UIColor.hex).toOption =
    ((decodeString json').map UIColor.hex).toOption
  rw [toOption_map, toOption_map, hstring]

/-- **A photo is read as the same photo**, in whatever order its dictionaries are iterated. -/
theorem UnsplashPhoto.unordered_decode : Decode.Unordered (UnsplashPhoto.decode decoder) := by
  refine unordered_container fun c c' h => ?_
  simp only [toOption_bind, h.decode unordered_decodeString, h.decode unordered_decodeInt,
    h.decode UnsplashPhoto.unordered_decodeColor, h.decode? UnsplashPhotoExif.unordered_decode,
    h.decode (UnsplashUser.unordered_decode decoder), h.decode JSONDecoder.unordered_decodeURLs,
    h.decode? unordered_decodeInt]

variable {decoder}

/-- Two arrays of the same photos. -/
theorem mapM_photo?_of_same {elements elements' : List JSON}
    (h : JSON.Same (.array elements) (.array elements')) :
    elements.mapM (photo? decoder) = elements'.mapM (photo? decoder) := by
  have hpage := unordered_decodeArray (UnsplashPhoto.unordered_decode decoder) _ _ h
  rw [← toOption_decodePhotos, ← toOption_decodePhotos, decodePhotos, hpage]

/-- What is written of an array is read as that array, its objects in any order. -/
def ReadsBack (jsonObject : Data → Option JSON) (data : List JSON → Except NSError Data) : Prop :=
  ∀ results body, data results = .ok body → ∃ elements, jsonObject body = some (.array elements) ∧
    JSON.Same (.array elements) (.array results)

theorem readsBack_jsonSerialization : ReadsBack JSONSerialization.jsonObject
    JSONSerialization.data :=
  fun results _ hdata => ⟨results, JSONSerialization.jsonObject_of_data hdata, .refl _⟩

/-- **A search is read from its results alike**, if what is written of them is read back. -/
theorem photos_search {jsonObject : Data → Option JSON}
    {data : List JSON → Except NSError Data} (hwritten : ReadsBack jsonObject data) {body : Data}
    {results : List JSON} (hresults : jsonObject body >>= JSON.results = some results)
    {written : Data} (hdata : data results = .ok written) :
    (coding decoder jsonObject data).photos body .searchPhotos =
      results.mapM (photo? decoder) := by
  obtain ⟨elements, helements, hsame⟩ := hwritten results written hdata
  show (jsonObject body >>= JSON.results).bind (fun results =>
    (data results >>= (coding decoder jsonObject data).decode).toOption) = _
  rw [hresults, Option.bind_some, hdata, ← mapM_photo?_of_same hsame, ← toOption_decodePhotos]
  show ((coding decoder jsonObject data).decode written).toOption = _
  rw [coding]
  dsimp only
  rw [helements, toOption_map, toOption_mapError]

/-- The photos of a search are read from its results. -/
theorem mapM_of_photos_search {jsonObject : Data → Option JSON}
    {data : List JSON → Except NSError Data} (hwritten : ReadsBack jsonObject data) {body : Data}
    {photos : List ImSplash.UnsplashPhoto}
    (hphotos : (coding decoder jsonObject data).photos body .searchPhotos = some photos) :
    ∃ results, jsonObject body >>= JSON.results = some results ∧
      results.mapM (photo? decoder) = some photos := by
  obtain ⟨results, hresults, hread⟩ := Option.bind_eq_some_iff.mp hphotos
  cases hdata : data results with
  | error error =>
    rw [coding] at hread
    dsimp only at hread
    rw [hdata] at hread
    cases hread
  | ok written =>
    refine ⟨results, hresults, ?_⟩
    rw [← photos_search hwritten hresults hdata]
    exact hphotos

/-- **A body is read as the same photos**, in whatever order its members come, if its results
can be written. -/
theorem photos_eq_of_same {jsonObject : Data → Option JSON}
    {data : List JSON → Except NSError Data} (hwritten : ReadsBack jsonObject data)
    {body body' : Data} {json json' : JSON}
    (hbody : jsonObject body = some json) (hbody' : jsonObject body' = some json')
    (hdata : ∀ results, json.results = some results ∨ json'.results = some results →
      ∃ written, data results = .ok written)
    (hsame : json.Same json') (kind : RequestKind) :
    (coding decoder jsonObject data).photos body kind =
      (coding decoder jsonObject data).photos body' kind := by
  cases kind with
  | getCollectionPhotos =>
    rw [photos_collection, photos_collection, hbody, hbody']
    cases hsame with
    | refl => rfl
    | object => rfl
    | array hlength h => exact mapM_photo?_of_same (.array hlength h)
  | searchPhotos =>
    rcases hsame.results with ⟨hnone, hnone'⟩ | ⟨results, results', hresults, hresults', h⟩
    · rw [JSONCoding.NoResults.photos_eq_none ⟨rfl, json, hbody, hnone⟩,
        JSONCoding.NoResults.photos_eq_none ⟨rfl, json', hbody', hnone'⟩]
    · obtain ⟨written, hdata₁⟩ := hdata results (Or.inl hresults)
      obtain ⟨written', hdata₂⟩ := hdata results' (Or.inr hresults')
      have hread : jsonObject body >>= JSON.results = some results := by
        rw [hbody]
        exact hresults
      have hread' : jsonObject body' >>= JSON.results = some results' := by
        rw [hbody']
        exact hresults'
      rw [photos_search hwritten hread hdata₁, photos_search hwritten hread' hdata₂]
      exact mapM_photo?_of_same h

def reverseMembers : JSON → JSON
  | .object members => .object members.reverse
  | json => json

def oneResult (photo : JSON) : JSON :=
  .object [("total", .number 1), ("results", .array [photo])]

theorem same_oneResult : (oneResult (photoJSON "p")).Same
    (reverseMembers (oneResult (reverseMembers (photoJSON "p")))) := by
  have hphoto : (photoJSON "p").Same (reverseMembers (photoJSON "p")) :=
    (JSON.Same.of_perm (List.reverse_perm _) (by decide)).symm
  have hresults : (JSON.array [photoJSON "p"]).Same (.array [reverseMembers (photoJSON "p")]) := by
    refine .array rfl fun i element element' helement helement' => ?_
    obtain ⟨hi, rfl⟩ := List.getElem?_eq_some_iff.mp helement
    obtain rfl : i = 0 := Nat.lt_one_iff.mp hi
    obtain rfl := Option.some.inj helement'
    exact hphoto
  refine .object (by decide) (by decide) (fun key => ?_) fun key value value' h h' => ?_
  · rw [Bool.eq_iff_iff, List.lookup_isSome_iff, List.lookup_isSome_iff]
    simp [or_comm]
  · rw [lookup_eq_some_iff_mem (by decide)] at h h'
    simp only [List.mem_cons, List.not_mem_nil, or_false, Prod.mk.injEq, List.reverse_cons,
      List.reverse_nil, List.nil_append, List.cons_append] at h h'
    rcases h with ⟨rfl, rfl⟩ | ⟨rfl, rfl⟩
    · rcases h' with ⟨hkey, -⟩ | ⟨-, rfl⟩
      · exact absurd hkey (by decide)
      · exact .refl _
    · rcases h' with ⟨-, rfl⟩ | ⟨hkey, -⟩
      · exact hresults
      · exact absurd hkey (by decide)

theorem jsonObject_oneResult : JSONSerialization.jsonObject (oneResult (photoJSON "p")).text =
    some (oneResult (photoJSON "p")) := JSONSerialization.jsonObject_text (by decide)

theorem photos_oneResult :
    jsonCoding.photos (oneResult (photoJSON "p")).text .searchPhotos =
      some [coloredPhoto "p"] := by
  have hresults : JSONSerialization.jsonObject (oneResult (photoJSON "p")).text >>=
      JSON.results = some [photoJSON "p"] := by
    rw [jsonObject_oneResult]
    rfl
  rw [photos_search readsBack_jsonSerialization hresults (if_pos (by decide)), List.mapM_cons,
    photo?_photoJSON]
  rfl

/-- The bytes of a search with a photo, and those with the members of both turned round. -/
theorem photos_eq_of_same_oneResult :
    jsonCoding.photos (oneResult (photoJSON "p")).text .searchPhotos =
      jsonCoding.photos (reverseMembers (oneResult (reverseMembers (photoJSON "p")))).text
        .searchPhotos ∧
    jsonCoding.photos (oneResult (photoJSON "p")).text .searchPhotos =
      some [coloredPhoto "p"] := by
  refine ⟨?_, photos_oneResult⟩
  refine photos_eq_of_same readsBack_jsonSerialization jsonObject_oneResult
    (JSONSerialization.jsonObject_text (by decide)) ?_ same_oneResult .searchPhotos
  rintro results (⟨⟨⟩⟩ | ⟨⟨⟩⟩)
  · exact ⟨_, if_pos (by decide)⟩
  · exact ⟨_, if_pos (by decide)⟩

end UnsplashPhotoPicker

end ImSplash
