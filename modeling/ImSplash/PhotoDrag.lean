import ImSplash.HexColor
import ImSplash.ImageURL
import ImSplash.MemberOrder

/-!
# A photo that is dragged

An item provider offers the photo as JSON, which it writes by `encode(to:)`, and reads it by
`init(from:)`.  The two disagree on the links of the user: they are written as a dictionary
whose keys are no strings, which makes an array of keys and values, and are read as a
dictionary of strings.  Everything else of a photo survives, but for its color.
-/

namespace ImSplash

/-! ### `JSONEncoder` -/

/-- What the platform decides: the order in which a dictionary is iterated. -/
structure JSONEncoder where
  arrange {α : Type} : List α → List α
  perm {α : Type} (entries : List α) : (arrange entries).Perm entries

/-- An optional is written as a null. -/
def encodeOptional {α : Type} (encode : α → JSON) : Option α → JSON
  | some value => encode value
  | none => .null

def encodeInt (value : Int) : JSON := .number value

namespace JSONEncoder
variable (encoder : JSONEncoder) {κ : Type} [RawRepresentable κ]

/-- The entries of a dictionary, as the platform iterates them. -/
def entries (dictionary : κ → Option URL) : List (κ × URL) :=
  encoder.arrange (RawRepresentable.allCases.filterMap fun kind =>
    (dictionary kind).map fun url => (kind, url))

/-- `convert({ ($0.key.rawValue, $0.value.absoluteString) })`. -/
def convert (dictionary : κ → Option URL) : QueryDictionary :=
  (encoder.entries dictionary).foldl (fun converted entry =>
    converted.insert (RawRepresentable.rawValue entry.1) entry.2.absoluteString) ∅

/-- `[String: String]`. -/
def encodeStrings (dictionary : QueryDictionary) : JSON :=
  .object (dictionary.pairs.map fun entry => (entry.1, .string entry.2))

/-- `[Kind: URL]`, whose keys are no strings: the keys and values in turn. -/
def encodeURLs (dictionary : κ → Option URL) : JSON :=
  .array ((encoder.entries dictionary).flatMap fun entry =>
    [.string (RawRepresentable.rawValue entry.1), .string entry.2.absoluteString])

end JSONEncoder

namespace UnsplashPhotoPicker

/-! ### Writing photos -/

/-- `encode(to:)`, which the compiler writes. -/
def UnsplashPhotoExif.encode (exif : UnsplashPhotoExif) : JSON :=
  .object [("aperture", .string exif.aperture), ("exposure_time", .string exif.exposureTime),
    ("focal_length", .string exif.focalLength), ("iso", .string exif.iso),
    ("make", .string exif.make), ("model", .string exif.model)]

/-- `encode(to:)`. -/
def UnsplashUser.encode (encoder : JSONEncoder) (user : UnsplashUser) : JSON :=
  .object [("id", .string user.identifier), ("username", .string user.username),
    ("first_name", encodeOptional .string user.firstName),
    ("last_name", encodeOptional .string user.lastName),
    ("name", encodeOptional .string user.name),
    ("profile_image", JSONEncoder.encodeStrings (encoder.convert user.profileImage)),
    ("bio", encodeOptional .string user.bio),
    ("links", encoder.encodeURLs user.links),
    ("location", encodeOptional .string user.location),
    ("portfolio_url", encodeOptional (fun url => .string url.absoluteString) user.portfolioURL),
    ("total_collections", encodeInt user.totalCollections),
    ("total_likes", encodeInt user.totalLikes),
    ("total_photos", encodeInt user.totalPhotos)]

namespace UnsplashPhoto
variable (view : CharacterView) (encoder : JSONEncoder)

/-- `color?.hexString`, which traps on a color of fewer than four components and on a
component that is too large. -/
def encodeColor : Option UIColor → Option JSON
  | none => some .null
  | some .clear => none
  | some (.hex string) => (UIColor.hexString (UIColor.ofHexString view string)).map .string

/-- `encode(to:)`. -/
def encode (photo : UnsplashPhoto) : Option JSON :=
  (encodeColor view photo.color).map fun color =>
    .object [("id", .string photo.identifier), ("height", encodeInt photo.height),
      ("width", encodeInt photo.width), ("color", color),
      ("exif", encodeOptional UnsplashPhotoExif.encode photo.exif),
      ("user", photo.user.encode encoder),
      ("urls", JSONEncoder.encodeStrings (encoder.convert photo.urls)),
      ("links", JSONEncoder.encodeStrings (encoder.convert photo.links)),
      ("likes", encodeInt photo.likesCount),
      ("downloads", encodeOptional encodeInt photo.downloadsCount),
      ("views", encodeOptional encodeInt photo.viewsCount)]

end UnsplashPhoto

/-! ### The item provider -/

def kUTTypeUnsplashPhoto : String := "com.unsplash.photo"

def kUTTypeJPEG : String := "public.jpeg"

structure UnsplashPhotoItemProvider where
  photo : UnsplashPhoto

namespace UnsplashPhotoItemProvider

inductive ItemProviderError
  | cannotDecodeLink (key photoIdentifier : String)
  | invalidTypeIdentifier (typeIdentifier : String)
deriving DecidableEq, Repr

/-- What a request for data comes to: the completion handler is called right away, or after a
data task, which is followed by another one to the second URL if it succeeds. -/
inductive LoadData
  | data (json : JSON)
  | error (error : ItemProviderError)
  | dataTask (url : URL) (downloadLocationURL : Option URL)

/-- `encode(to:)`, which the compiler writes. -/
def encode (view : CharacterView) (encoder : JSONEncoder)
    (provider : UnsplashPhotoItemProvider) : Option JSON :=
  (provider.photo.encode view encoder).map fun photo => .object [("photo", photo)]

/-- `loadData(withTypeIdentifier:forItemProviderCompletionHandler:)`, unless it traps. -/
def loadData (view : CharacterView) (encoder : JSONEncoder) (accessKey : String)
    (order : IterationOrder) (provider : UnsplashPhotoItemProvider) (typeIdentifier : String) :
    Option LoadData :=
  if typeIdentifier = kUTTypeUnsplashPhoto then
    (provider.encode view encoder).map .data
  else if typeIdentifier = kUTTypeJPEG then
    match provider.photo.urls .full with
    | none =>
      some (.error (.cannotDecodeLink (RawRepresentable.rawValue LinkKind.download)
        provider.photo.identifier))
    | some url =>
      some (.dataTask url ((provider.photo.links .downloadLocation).map fun url =>
        url.appending [("client_id", some accessKey)] order))
  else some (.error (.invalidTypeIdentifier typeIdentifier))

/-- `init(from:)`, which the compiler writes. -/
def decode (decoder : JSONDecoder) : Decode UnsplashPhotoItemProvider := fun json => do
  let container ← container json
  return { photo := ← container.decode (UnsplashPhoto.decode decoder) "photo" }

/-- `object(withItemProviderData:typeIdentifier:)`. -/
def object (decoder : JSONDecoder) : Decode UnsplashPhotoItemProvider := decode decoder

end UnsplashPhotoItemProvider

end UnsplashPhotoPicker

/-! ### Dictionaries by kind -/

namespace JSONEncoder
variable {encoder : JSONEncoder} {κ : Type} [RawRepresentable κ]

theorem mem_entries {dictionary : κ → Option URL} {kind : κ} {url : URL} :
    (kind, url) ∈ encoder.entries dictionary ↔ dictionary kind = some url := by
  rw [entries, (encoder.perm _).mem_iff, List.mem_filterMap]
  constructor
  · rintro ⟨kind', -, hkind⟩
    obtain ⟨url', hurl, heq⟩ := Option.map_eq_some_iff.mp hkind
    obtain ⟨rfl, rfl⟩ := Prod.mk.inj heq
    exact hurl
  · intro h
    exact ⟨kind, RawRepresentable.mem_allCases kind, by rw [h]; rfl⟩

/-- One step of the loop in `convert`. -/
theorem lookup_foldl_insert [DecidableEq κ] {dictionary : κ → Option URL}
    (entries : List (κ × URL)) (hentries : ∀ entry ∈ entries, dictionary entry.1 = some entry.2)
    (converted : QueryDictionary) (kind : κ) :
    (entries.foldl (fun converted entry =>
      converted.insert (RawRepresentable.rawValue entry.1) entry.2.absoluteString)
      converted).lookup (RawRepresentable.rawValue kind) =
      if kind ∈ entries.map Prod.fst then (dictionary kind).map URL.absoluteString
      else converted.lookup (RawRepresentable.rawValue kind) := by
  induction entries generalizing converted with
  | nil => rfl
  | cons entry entries ih =>
    obtain ⟨hentry, hrest⟩ := List.forall_mem_cons.mp hentries
    rw [List.foldl_cons, ih hrest, List.map_cons]
    by_cases hkind : kind ∈ entries.map Prod.fst
    · rw [if_pos hkind, if_pos (List.mem_cons_of_mem _ hkind)]
    · rw [if_neg hkind]
      by_cases hfirst : kind = entry.1
      · subst hfirst
        rw [if_pos List.mem_cons_self, AList.lookup_insert, hentry]
        rfl
      · have hne : RawRepresentable.rawValue kind ≠ RawRepresentable.rawValue entry.1 :=
          fun heq => hfirst (RawRepresentable.rawValue_injective _ _ heq)
        have hnot : kind ∉ entry.1 :: entries.map Prod.fst := 
          fun hmem => (List.mem_cons.mp hmem).elim hfirst hkind
        rw [AList.lookup_insert_ne hne, if_neg hnot]

theorem lookup_convert [DecidableEq κ] (dictionary : κ → Option URL) (kind : κ) :
    (encoder.convert dictionary).lookup (RawRepresentable.rawValue kind) =
      (dictionary kind).map URL.absoluteString := by
  rw [convert, lookup_foldl_insert _ fun entry hentry => mem_entries.mp hentry]
  split
  · rfl
  · next hkind =>
    cases hurl : dictionary kind with
    | none => rfl
    | some url => exact absurd (List.mem_map_of_mem (mem_entries.mpr hurl)) hkind

theorem mem_pairs {dictionary : QueryDictionary} {key value : String} :
    (key, value) ∈ dictionary.pairs ↔ dictionary.lookup key = some value := by
  rw [← Option.mem_def, AList.mem_lookup_iff, QueryDictionary.pairs, List.mem_map]
  constructor
  · rintro ⟨entry, hentry, heq⟩
    obtain ⟨rfl, rfl⟩ := Prod.mk.inj heq
    exact hentry
  · intro hentry
    exact ⟨_, hentry, rfl⟩

theorem nodup_encodeStrings (dictionary : QueryDictionary) :
    ((dictionary.pairs.map fun entry => (entry.1, JSON.string entry.2)).map Prod.fst).Nodup := by
  rw [List.map_map]
  exact (QueryDictionary.pairs_map_fst dictionary).symm ▸ dictionary.keys_nodup

theorem lookup_encodeStrings (dictionary : QueryDictionary) (key : String) :
    (dictionary.pairs.map fun entry => (entry.1, JSON.string entry.2)).lookup key =
      (dictionary.lookup key).map .string := by
  ext value
  rw [lookup_eq_some_iff_mem (nodup_encodeStrings dictionary), List.mem_map,
    Option.map_eq_some_iff]
  constructor
  · rintro ⟨entry, hentry, heq⟩
    obtain ⟨rfl, rfl⟩ := Prod.mk.inj heq
    exact ⟨entry.2, mem_pairs.mp hentry, rfl⟩
  · rintro ⟨string, hstring, rfl⟩
    exact ⟨(key, string), mem_pairs.mpr hstring, rfl⟩

/-- **A dictionary by kind is read as it was written**, but for the URLs that are not. -/
theorem decodeURLs_encodeStrings [DecidableEq κ] (decoder : JSONDecoder)
    (dictionary : κ → Option URL) :
    decoder.decodeURLs (encodeStrings (encoder.convert dictionary)) =
      .ok fun kind => (dictionary kind).bind fun url => decoder.url url.absoluteString := by
  have hnodup := nodup_encodeStrings (encoder.convert dictionary)
  have hall : ((encoder.convert dictionary).pairs.map fun entry =>
      (entry.1, JSON.string entry.2)).all (fun member => (decoder.entry? member.2).isSome) =
      true := by
    rw [List.all_map, List.all_eq_true]
    exact fun _ _ => rfl
  rw [← toOption_eq_some, encodeStrings, JSONDecoder.toOption_decodeURLs hnodup, if_pos hall]
  congr 1
  funext kind
  rw [lookup_encodeStrings, lookup_convert]
  cases dictionary kind <;> rfl

end JSONEncoder

/-! ### What a photo can hold -/

/-- A number that is read as it is written. -/
def IsInt (value : Int) : Prop := decodeInt (encodeInt value) = .ok value

theorem isInt_of_decodeInt {json : JSON} {value : Int} (h : decodeInt json = .ok value) :
    IsInt value := by
  unfold decodeInt at h
  split at h
  · next number =>
    split at h
    · next hfits =>
      obtain rfl := Except.ok.inj h
      rw [IsInt, encodeInt, decodeInt, if_pos ⟨rfl, hfits.2⟩]
      rfl
    · cases h
  · cases h
  · cases h

namespace JSONDecoder
variable {decoder : JSONDecoder} {κ : Type} [RawRepresentable κ] [DecidableEq κ]

/-- A URL of the platform, which reads it as it is written. -/
def Reads (decoder : JSONDecoder) (url : URL) : Prop :=
  decoder.url url.absoluteString = some url

/-- The URLs of a dictionary are the platform's. -/
theorem exists_url_of_foldl (entries : List (String × String)) {result : κ → Option URL}
    (hresult : ∀ kind url, result kind = some url → ∃ string, decoder.url string = some url)
    {kind : κ} {url : URL} (hurl : entries.foldl (fun result entry =>
      match RawRepresentable.ofRawValue entry.1, decoder.url entry.2 with
      | some kind, some url => Function.update result kind (some url)
      | _, _ => result) result kind = some url) : ∃ string, decoder.url string = some url := by
  induction entries generalizing result with
  | nil => exact hresult kind url hurl
  | cons entry entries ih =>
    rw [List.foldl_cons] at hurl
    refine ih (fun kind' url' => ?_) hurl
    cases RawRepresentable.ofRawValue (κ := κ) entry.1 with
    | none => exact hresult kind' url'
    | some found =>
      cases hvalue : decoder.url entry.2 with
      | none => exact hresult kind' url'
      | some url'' =>
        intro h
        by_cases hkind : kind' = found
        · rw [hkind] at h
          exact ⟨entry.2, hvalue.trans ((Function.update_self found _ result).symm.trans h)⟩
        · exact hresult kind' url' ((Function.update_of_ne hkind _ result).symm.trans h)

theorem exists_url_of_decodeURLs {json : JSON} {dictionary : κ → Option URL}
    (h : decoder.decodeURLs json = .ok dictionary) {kind : κ} {url : URL}
    (hurl : dictionary kind = some url) : ∃ string, decoder.url string = some url := by
  rw [← toOption_eq_some, decodeURLs, toOption_bind, Option.bind_eq_some_iff] at h
  obtain ⟨entries, -, h⟩ := h
  obtain rfl := Option.some.inj h
  exact exists_url_of_foldl entries (fun _ _ h => by cases h) hurl

theorem exists_url_of_decodeURL {json : JSON} {url : URL} (h : decoder.decodeURL json = .ok url) :
    ∃ string, decoder.url string = some url := by
  rw [← toOption_eq_some, decodeURL, toOption_bind, Option.bind_eq_some_iff] at h
  obtain ⟨string, -, h⟩ := h
  refine ⟨string, ?_⟩
  cases hurl : decoder.url string with
  | none =>
    rw [hurl] at h
    cases h
  | some url' =>
    rw [hurl] at h
    exact h

end JSONDecoder

theorem decodeURL_of_reads {decoder : JSONDecoder} {url : URL} (h : decoder.Reads url) :
    decoder.decodeURL (.string url.absoluteString) = .ok url := by
  have hread : decoder.url url.absoluteString = some url := h
  simp only [JSONDecoder.decodeURL, decodeString, bind, Except.bind, hread]
  rfl

theorem decodeURLs_of_reads {encoder : JSONEncoder} {κ : Type} [RawRepresentable κ]
    [DecidableEq κ] {decoder : JSONDecoder} {dictionary : κ → Option URL}
    (h : ∀ kind url, dictionary kind = some url → decoder.Reads url) :
    decoder.decodeURLs (JSONEncoder.encodeStrings (encoder.convert dictionary)) =
      .ok dictionary := by
  rw [JSONEncoder.decodeURLs_encodeStrings]
  congr 1
  funext kind
  cases hurl : dictionary kind with
  | none => rfl
  | some url => exact h kind url hurl

/-- What a field is read as comes of a value. -/
theorem KeyedDecodingContainer.exists_of_decode {α : Type} {read : Decode α}
    {container : KeyedDecodingContainer} {key : String} {a : α}
    (h : (container.decode read key).toOption = some a) : ∃ json, read json = .ok a := by
  rw [toOption_decode, Option.bind_eq_some_iff] at h
  obtain ⟨json, -, h⟩ := h
  exact ⟨json, toOption_eq_some.mp h⟩

namespace UnsplashPhotoPicker

/-- What reading a user leaves behind. -/
structure UnsplashUser.Fits (decoder : JSONDecoder) (user : UnsplashUser) : Prop where
  profileImage : ∀ kind url, user.profileImage kind = some url → decoder.Reads url
  portfolioURL : ∀ url, user.portfolioURL = some url → decoder.Reads url
  totalCollections : IsInt user.totalCollections
  totalLikes : IsInt user.totalLikes
  totalPhotos : IsInt user.totalPhotos

/-- What reading a photo leaves behind. -/
structure UnsplashPhoto.Fits (decoder : JSONDecoder) (photo : UnsplashPhoto) : Prop where
  height : IsInt photo.height
  width : IsInt photo.width
  color : ∃ string, photo.color = some (.hex string)
  user : photo.user.Fits decoder
  urls : ∀ kind url, photo.urls kind = some url → decoder.Reads url
  links : ∀ kind url, photo.links kind = some url → decoder.Reads url
  likesCount : IsInt photo.likesCount
  downloadsCount : ∀ count, photo.downloadsCount = some count → IsInt count
  viewsCount : ∀ count, photo.viewsCount = some count → IsInt count

section Fits
variable {decoder : JSONDecoder} {json : JSON} {container : KeyedDecodingContainer} {key : String}

theorem isInt_of_decode {value : Int}
    (h : (container.decode decodeInt key).toOption = some value) : IsInt value := by
  obtain ⟨json, hjson⟩ := KeyedDecodingContainer.exists_of_decode h
  exact isInt_of_decodeInt hjson

theorem exists_of_decodeColor {color : UIColor}
    (h : UnsplashPhoto.decodeColor json = .ok color) :
    ∃ string, decodeString json = .ok string ∧ color = .hex string := by
  unfold UnsplashPhoto.decodeColor at h
  cases hstring : decodeString json with
  | error error =>
    rw [hstring] at h
    cases h
  | ok string =>
    rw [hstring] at h
    exact ⟨string, rfl, (Except.ok.inj h).symm⟩

variable (hplatform : ∀ string url, decoder.url string = some url → decoder.Reads url)
include hplatform

theorem reads_of_decode {κ : Type} [RawRepresentable κ] [DecidableEq κ]
    {dictionary : κ → Option URL}
    (h : (container.decode decoder.decodeURLs key).toOption = some dictionary) (kind : κ)
    (url : URL) (hurl : dictionary kind = some url) : decoder.Reads url := by
  obtain ⟨json, hjson⟩ := KeyedDecodingContainer.exists_of_decode h
  obtain ⟨string, hstring⟩ := JSONDecoder.exists_url_of_decodeURLs hjson hurl
  exact hplatform string url hstring

theorem UnsplashUser.fits_of_decode {user : UnsplashUser}
    (h : UnsplashUser.decode decoder json = .ok user) : user.Fits decoder := by
  rw [← toOption_eq_some, UnsplashUser.decode, toOption_bind, Option.bind_eq_some_iff] at h
  obtain ⟨container, -, h⟩ := h
  simp only [toOption_bind, Option.bind_eq_some_iff, toOption_pure, Option.some.injEq] at h
  obtain ⟨_, -, _, -, profileImage, hprofile, _, -, collections, hcollections, likes, hlikes,
    photos, hphotos, rfl⟩ := h
  refine ⟨reads_of_decode hplatform hprofile, fun url hurl => ?_, isInt_of_decode hcollections,
    isInt_of_decode hlikes, isInt_of_decode hphotos⟩
  obtain ⟨json, hjson⟩ := KeyedDecodingContainer.exists_of_decode hurl
  obtain ⟨string, hstring⟩ := JSONDecoder.exists_url_of_decodeURL hjson
  exact hplatform string url hstring

theorem UnsplashPhoto.fits_of_decode {photo : UnsplashPhoto}
    (h : UnsplashPhoto.decode decoder json = .ok photo) : photo.Fits decoder := by
  rw [← toOption_eq_some, UnsplashPhoto.decode, toOption_bind, Option.bind_eq_some_iff] at h
  obtain ⟨container, -, h⟩ := h
  simp only [toOption_bind, Option.bind_eq_some_iff, toOption_pure, Option.some.injEq] at h
  obtain ⟨_, -, height, hheight, width, hwidth, color, hcolor, user, huser, urls, hurls, links,
    hlinks, likes, hlikes, rfl⟩ := h
  obtain ⟨userJSON, huserJSON⟩ := KeyedDecodingContainer.exists_of_decode huser
  refine ⟨isInt_of_decode hheight, isInt_of_decode hwidth, ?_,
    UnsplashUser.fits_of_decode hplatform huserJSON, reads_of_decode hplatform hurls,
    reads_of_decode hplatform hlinks, isInt_of_decode hlikes, fun _ => isInt_of_decode,
    fun _ => isInt_of_decode⟩
  obtain ⟨colorJSON, hcolorJSON⟩ := KeyedDecodingContainer.exists_of_decode hcolor
  obtain ⟨string, -, rfl⟩ := exists_of_decodeColor hcolorJSON
  exact ⟨string, rfl⟩

end Fits

/-! ### What is read of it -/

/-- Everything of a user is read as it was, and the links are not read. -/
structure UnsplashUser.ReadBack (decoder : JSONDecoder) (user : UnsplashUser)
    (container : KeyedDecodingContainer) : Prop where
  identifier : container.decode decodeString "id" = .ok user.identifier
  username : container.decode decodeString "username" = .ok user.username
  firstName : container.decode? decodeString "first_name" = user.firstName
  lastName : container.decode? decodeString "last_name" = user.lastName
  name : container.decode? decodeString "name" = user.name
  profileImage : container.decode decoder.decodeURLs "profile_image" = .ok user.profileImage
  bio : container.decode? decodeString "bio" = user.bio
  links : container.decode (decoder.decodeURLs (κ := UserLinkKind)) "links" =
    .error (.typeMismatch [.key "links"])
  location : container.decode? decodeString "location" = user.location
  portfolioURL : container.decode? decoder.decodeURL "portfolio_url" = user.portfolioURL
  totalCollections : container.decode decodeInt "total_collections" = .ok user.totalCollections
  totalLikes : container.decode decodeInt "total_likes" = .ok user.totalLikes
  totalPhotos : container.decode decodeInt "total_photos" = .ok user.totalPhotos

/-- Everything of a photo is read as it was but the user, and the color as its hex string is. -/
structure UnsplashPhoto.ReadBack (decoder : JSONDecoder) (view : CharacterView)
    (photo : UnsplashPhoto) (container : KeyedDecodingContainer) : Prop where
  identifier : container.decode decodeString "id" = .ok photo.identifier
  height : container.decode decodeInt "height" = .ok photo.height
  width : container.decode decodeInt "width" = .ok photo.width
  color : ∃ string string', photo.color = some (.hex string) ∧
    container.decode UnsplashPhoto.decodeColor "color" = .ok (.hex string') ∧
    UIColor.rewrite view (UIColor.ofHexString view string) =
      some (UIColor.ofHexString view string')
  exif : container.decode? UnsplashPhotoExif.decode "exif" = photo.exif
  user : ∃ members, container.members.lookup "user" = some (.object members) ∧
    photo.user.ReadBack decoder ⟨members⟩
  urls : container.decode decoder.decodeURLs "urls" = .ok photo.urls
  links : container.decode decoder.decodeURLs "links" = .ok photo.links
  likesCount : container.decode decodeInt "likes" = .ok photo.likesCount
  downloadsCount : container.decode? decodeInt "downloads" = photo.downloadsCount
  viewsCount : container.decode? decodeInt "views" = photo.viewsCount

section ReadBack
variable {decoder : JSONDecoder} {view : CharacterView} {encoder : JSONEncoder}

theorem UnsplashUser.ReadBack.decode {user : UnsplashUser} {members : List (String × JSON)}
    (h : user.ReadBack decoder ⟨members⟩) :
    UnsplashUser.decode decoder (.object members) = .error (.typeMismatch [.key "links"]) := by
  rw [UnsplashUser.decode, container]
  show (KeyedDecodingContainer.decode ⟨members⟩ decodeString "id" >>= _) = _
  simp only [h.identifier, h.username, h.profileImage, h.links]
  rfl

theorem UnsplashPhoto.ReadBack.decode {photo : UnsplashPhoto} {members : List (String × JSON)}
    (h : photo.ReadBack decoder view ⟨members⟩) : UnsplashPhoto.decode decoder (.object members) =
      .error (.typeMismatch [.key "user", .key "links"]) := by
  obtain ⟨_, _, -, hcolor, -⟩ := h.color
  obtain ⟨userMembers, hlookup, huser⟩ := h.user
  have herror : KeyedDecodingContainer.decode ⟨members⟩ (UnsplashUser.decode decoder) "user" =
      .error (.typeMismatch [.key "user", .key "links"]) := by
    rw [KeyedDecodingContainer.decode, hlookup]
    dsimp only
    rw [huser.decode]
    rfl
  rw [UnsplashPhoto.decode, container]
  show (KeyedDecodingContainer.decode ⟨members⟩ decodeString "id" >>= _) = _
  simp only [h.identifier, h.height, h.width, hcolor, herror]
  rfl

/-- What is read of an optional. -/
theorem toOption_encodeOptional {α : Type} {read : Decode α} {encode : α → JSON}
    (hnull : (read .null).toOption = none) {value : Option α}
    (hvalue : ∀ a, value = some a → read (encode a) = .ok a) :
    (read (encodeOptional encode value)).toOption = value := by
  cases value with
  | none => exact hnull
  | some a => exact toOption_eq_some.mpr (hvalue a rfl)

theorem decode?_encodeOptional {α : Type} {read : Decode α} {encode : α → JSON}
    {container : KeyedDecodingContainer} {key : String} {value : Option α}
    (hlookup : container.members.lookup key = some (encodeOptional encode value))
    (hnull : (read .null).toOption = none)
    (hvalue : ∀ a, value = some a → read (encode a) = .ok a) :
    container.decode? read key = value := by
  rw [KeyedDecodingContainer.decode?, KeyedDecodingContainer.toOption_decode, hlookup]
  exact toOption_encodeOptional hnull hvalue

theorem decode_of_lookup {α : Type} {read : Decode α} {container : KeyedDecodingContainer}
    {key : String} {json : JSON} {a : α} (hlookup : container.members.lookup key = some json)
    (hread : read json = .ok a) : container.decode read key = .ok a := by
  rw [KeyedDecodingContainer.decode, hlookup]
  dsimp only
  rw [hread]
  rfl

/-- What was written of a user is read back. -/
theorem UnsplashUser.readBack {user : UnsplashUser} (hfits : user.Fits decoder)
    {received : JSON} (hsame : (user.encode encoder).Same received) :
    ∃ members, received = .object members ∧ user.ReadBack decoder ⟨members⟩ := by
  obtain ⟨members, rfl, h⟩ := KeyedDecodingContainer.exists_of_same_object hsame
  refine ⟨members, rfl, ?_⟩
  constructor
  · exact h.decode_ok unordered_decodeString (decode_of_lookup rfl rfl)
  · exact h.decode_ok unordered_decodeString (decode_of_lookup rfl rfl)
  · exact (h.decode? unordered_decodeString _).symm.trans
      (decode?_encodeOptional rfl rfl fun _ _ => rfl)
  · exact (h.decode? unordered_decodeString _).symm.trans
      (decode?_encodeOptional rfl rfl fun _ _ => rfl)
  · exact (h.decode? unordered_decodeString _).symm.trans
      (decode?_encodeOptional rfl rfl fun _ _ => rfl)
  · exact h.decode_ok JSONDecoder.unordered_decodeURLs
      (decode_of_lookup rfl (decodeURLs_of_reads hfits.profileImage))
  · exact (h.decode? unordered_decodeString _).symm.trans
      (decode?_encodeOptional rfl rfl fun _ _ => rfl)
  · -- The keys and values in turn are no dictionary of strings.
    obtain ⟨links, hlookup, hlinks⟩ := h.lookup "links" rfl
    rw [KeyedDecodingContainer.decode, hlookup]
    cases hlinks <;> rfl
  · exact (h.decode? unordered_decodeString _).symm.trans
      (decode?_encodeOptional rfl rfl fun _ _ => rfl)
  · refine (h.decode? (unordered_decodeURL decoder) _).symm.trans
      (decode?_encodeOptional rfl rfl fun url hurl => ?_)
    exact decodeURL_of_reads (hfits.portfolioURL url hurl)
  · exact h.decode_ok unordered_decodeInt (decode_of_lookup rfl hfits.totalCollections)
  · exact h.decode_ok unordered_decodeInt (decode_of_lookup rfl hfits.totalLikes)
  · exact h.decode_ok unordered_decodeInt (decode_of_lookup rfl hfits.totalPhotos)

/-- What was written of a photo is read back, but for the links of its user. -/
theorem UnsplashPhoto.readBack {photo : UnsplashPhoto} (hfits : photo.Fits decoder)
    {written received : JSON} (hwritten : photo.encode view encoder = some written)
    (hsame : written.Same received) :
    ∃ members, received = .object members ∧ photo.ReadBack decoder view ⟨members⟩ := by
  obtain ⟨string, hstring⟩ := hfits.color
  rw [UnsplashPhoto.encode, hstring] at hwritten
  obtain ⟨color, hcolor, rfl⟩ := Option.map_eq_some_iff.mp hwritten
  obtain ⟨string', hstring', rfl⟩ := Option.map_eq_some_iff.mp hcolor
  obtain ⟨members, rfl, h⟩ := KeyedDecodingContainer.exists_of_same_object hsame
  refine ⟨members, rfl, ?_⟩
  constructor
  · exact h.decode_ok unordered_decodeString (decode_of_lookup rfl rfl)
  · exact h.decode_ok unordered_decodeInt (decode_of_lookup rfl hfits.height)
  · exact h.decode_ok unordered_decodeInt (decode_of_lookup rfl hfits.width)
  · refine ⟨string, string', hstring, ?_, ?_⟩
    · exact h.decode_ok UnsplashPhoto.unordered_decodeColor (decode_of_lookup rfl rfl)
    · rw [UIColor.rewrite, hstring', Option.map_some]
  · exact (h.decode? UnsplashPhotoExif.unordered_decode _).symm.trans
      (decode?_encodeOptional rfl rfl fun _ _ => rfl)
  · obtain ⟨user, hlookup, huser⟩ := h.lookup "user" rfl
    obtain ⟨userMembers, rfl, hback⟩ := UnsplashUser.readBack hfits.user huser
    exact ⟨userMembers, hlookup, hback⟩
  · exact h.decode_ok JSONDecoder.unordered_decodeURLs
      (decode_of_lookup rfl (decodeURLs_of_reads hfits.urls))
  · exact h.decode_ok JSONDecoder.unordered_decodeURLs
      (decode_of_lookup rfl (decodeURLs_of_reads hfits.links))
  · exact h.decode_ok unordered_decodeInt (decode_of_lookup rfl hfits.likesCount)
  · exact (h.decode? unordered_decodeInt _).symm.trans
      (decode?_encodeOptional rfl rfl hfits.downloadsCount)
  · exact (h.decode? unordered_decodeInt _).symm.trans
      (decode?_encodeOptional rfl rfl hfits.viewsCount)

end ReadBack

namespace UnsplashPhotoItemProvider
variable {decoder : JSONDecoder} {view : CharacterView} {encoder : JSONEncoder}
  {accessKey : String} {order : IterationOrder}

/-- **A photo that was dragged cannot be dropped**: of what was written of a photo that was read
once, everything is read back but the links of its user, and so it is not read at all. -/
theorem object_of_loadData
    (hplatform : ∀ string url, decoder.url string = some url → decoder.Reads url)
    {source written received : JSON} {provider : UnsplashPhotoItemProvider}
    (hphoto : UnsplashPhoto.decode decoder source = .ok provider.photo)
    (hloaded : provider.loadData view encoder accessKey order kUTTypeUnsplashPhoto =
      some (.data written))
    (hsame : written.Same received) :
    (∃ members photo, received = .object members ∧
      members.lookup "photo" = some (.object photo) ∧
      provider.photo.ReadBack decoder view ⟨photo⟩) ∧
    object decoder received =
      .error (.typeMismatch [.key "photo", .key "user", .key "links"]) := by
  have hfits := UnsplashPhoto.fits_of_decode hplatform hphoto
  rw [loadData, if_pos rfl, encode, Option.map_map] at hloaded
  obtain ⟨photoJSON, hwritten, heq⟩ := Option.map_eq_some_iff.mp hloaded
  obtain rfl := LoadData.data.inj heq
  obtain ⟨members, rfl, h⟩ := KeyedDecodingContainer.exists_of_same_object hsame
  obtain ⟨photo, hlookup, hphotoSame⟩ := h.lookup "photo" rfl
  obtain ⟨photoMembers, rfl, hback⟩ := UnsplashPhoto.readBack hfits hwritten hphotoSame
  refine ⟨⟨members, photoMembers, rfl, hlookup, hback⟩, ?_⟩
  have herror : KeyedDecodingContainer.decode ⟨members⟩ (UnsplashPhoto.decode decoder) "photo" =
      .error (.typeMismatch [.key "photo", .key "user", .key "links"]) := by
    rw [KeyedDecodingContainer.decode, hlookup]
    dsimp only
    rw [hback.decode]
    rfl
  rw [object, decode, container]
  show (KeyedDecodingContainer.decode ⟨members⟩ (UnsplashPhoto.decode decoder) "photo" >>= _) = _
  rw [herror]
  rfl

/-- One URL. -/
def oneURL : JSONDecoder where
  url string :=
    if string = "https://unsplash.com/a" then some ⟨"https://unsplash.com/a"⟩ else none

/-- A photo, as the server writes it. -/
def onePhoto : JSON :=
  .object [("id", .string "p"), ("height", .number 3), ("width", .number 4),
    ("color", .string "#0C2659"),
    ("user", .object [("id", .string "u"), ("username", .string "u"),
      ("profile_image", .object [("small", .string "https://unsplash.com/a")]),
      ("links", .object [("self", .string "https://unsplash.com/a")]),
      ("total_collections", .number 0), ("total_likes", .number 0), ("total_photos", .number 1)]),
    ("urls", .object [("full", .string "https://unsplash.com/a")]),
    ("links", .object []), ("likes", .number 0)]

theorem object_of_loadData_onePhoto :
    ∃ photo written, UnsplashPhoto.decode oneURL onePhoto = .ok photo ∧
      loadData .scalars ⟨id, .refl⟩ "" .identity ⟨photo⟩ kUTTypeUnsplashPhoto =
        some (.data written) ∧
      object oneURL written =
        .error (.typeMismatch [.key "photo", .key "user", .key "links"]) := by
  have hplatform : ∀ string url, oneURL.url string = some url → oneURL.Reads url := by
    intro string url h
    obtain ⟨-, hurl⟩ := Option.ite_none_right_eq_some.mp h
    obtain rfl := Option.some.inj hurl
    rfl
  obtain ⟨photo, written, hphoto, hloaded⟩ : ∃ photo written,
      UnsplashPhoto.decode oneURL onePhoto = .ok photo ∧
      loadData .scalars ⟨id, .refl⟩ "" .identity ⟨photo⟩ kUTTypeUnsplashPhoto =
        some (.data written) := ⟨_, _, rfl, rfl⟩
  exact ⟨photo, written, hphoto, hloaded,
    (object_of_loadData hplatform hphoto hloaded (.refl _)).2⟩

end UnsplashPhotoItemProvider

end UnsplashPhotoPicker

end ImSplash
