import ImSplash.NetworkRequest
import Mathlib.Data.List.Basic

/-!
# Reading photos

`UnsplashPhoto` and `UnsplashUser` are read field by field: what a field is read as may
throw, and does not if the field is read by `try?`.  The URLs of a photo and of a user come as
dictionaries of strings, of which the kinds the app knows are kept.

A page of photos is an array, and one element that cannot be read makes all of it unreadable.

An error holds the coding path of what could not be read.  A reader is given a value only, so
it knows the path from there, and what reads a field or an element puts its key in front.
-/

namespace ImSplash

/-! ### `JSONDecoder` -/

/-- A step of a coding path. -/
inductive CodingKey
  | key (stringValue : String)
  | index (intValue : Nat)
deriving DecidableEq, Repr

inductive DecodingError
  | typeMismatch (codingPath : List CodingKey)
  | valueNotFound (codingPath : List CodingKey)
  | keyNotFound (key : String) (codingPath : List CodingKey)
  | dataCorrupted (codingPath : List CodingKey)
deriving DecidableEq, Repr

namespace DecodingError

/-- The error, seen from outside of the field or the element. -/
def under (key : CodingKey) : DecodingError → DecodingError
  | typeMismatch codingPath => typeMismatch (key :: codingPath)
  | valueNotFound codingPath => valueNotFound (key :: codingPath)
  | keyNotFound name codingPath => keyNotFound name (key :: codingPath)
  | dataCorrupted codingPath => dataCorrupted (key :: codingPath)

/-- The error as an `NSError`, of which there are two. -/
def toNSError : DecodingError → NSError
  | typeMismatch _ | dataCorrupted _ => ⟨"NSCocoaErrorDomain", 4864⟩
  | valueNotFound _ | keyNotFound .. => ⟨"NSCocoaErrorDomain", 4865⟩

end DecodingError

/-- `init(from:)`, on a value. -/
abbrev Decode (α : Type*) := JSON → Except DecodingError α

/-- What the platform decides: `URL(string:)`, and whether a null in a dictionary of strings
is left out of it. -/
structure JSONDecoder where
  url : String → Option URL
  leavesOutNulls : Bool := false

def decodeString : Decode String
  | .string value => .ok value
  | .null => .error (.valueNotFound [])
  | _ => .error (.typeMismatch [])

/-- An `Int` has 64 bits. -/
def decodeInt : Decode Int
  | .number value =>
    if value.den = 1 ∧ -0x8000000000000000 ≤ value.num ∧ value.num < 0x8000000000000000 then
      .ok value.num
    else .error (.dataCorrupted [])
  | .null => .error (.valueNotFound [])
  | _ => .error (.typeMismatch [])

structure KeyedDecodingContainer where
  members : List (String × JSON)

/-- `container(keyedBy:)`. -/
def container : Decode KeyedDecodingContainer
  | .object members => .ok ⟨members⟩
  | .null => .error (.valueNotFound [])
  | _ => .error (.typeMismatch [])

namespace KeyedDecodingContainer
variable {α : Type*} (container : KeyedDecodingContainer)

/-- `decode(_:forKey:)`. -/
def decode (read : Decode α) (key : String) : Except DecodingError α :=
  match container.members.lookup key with
  | some value => (read value).mapError (.under (.key key))
  | none => .error (.keyNotFound key [])

/-- `try? decode(_:forKey:)`. -/
def decode? (read : Decode α) (key : String) : Option α := (container.decode read key).toOption

end KeyedDecodingContainer

/-- The elements of an array, from a position on. -/
def decodeElements {α : Type*} (read : Decode α) :
    Nat → List JSON → Except DecodingError (List α)
  | _, [] => .ok []
  | i, element :: elements => do
    let first ← (read element).mapError (.under (.index i))
    let rest ← decodeElements read (i + 1) elements
    return first :: rest

def decodeArray {α : Type*} (read : Decode α) : Decode (List α)
  | .array elements => decodeElements read 0 elements
  | .null => .error (.valueNotFound [])
  | _ => .error (.typeMismatch [])

namespace JSONDecoder
variable (decoder : JSONDecoder)

/-- The members of a `[String: String]`, as the platform iterates them. -/
def decodeMembers : List (String × JSON) → Except DecodingError (List (String × String))
  | [] => .ok []
  | (key, value) :: members =>
    if decoder.leavesOutNulls && value matches .null then decodeMembers members
    else do
      let first ← (decodeString value).mapError (.under (.key key))
      let rest ← decodeMembers members
      return (key, first) :: rest

/-- `[String: String]`. -/
def decodeStrings : Decode (List (String × String))
  | .object members => decoder.decodeMembers members
  | .null => .error (.valueNotFound [])
  | _ => .error (.typeMismatch [])

/-- `URL`. -/
def decodeURL : Decode URL := fun json => do
  let string ← decodeString json
  match decoder.url string with
  | some url => return url
  | none => .error (.dataCorrupted [])

end JSONDecoder

/-! ### Dictionaries by kind -/

/-- An enumeration of strings. -/
class RawRepresentable (κ : Type) where
  rawValue : κ → String
  allCases : List κ
  mem_allCases : ∀ kind, kind ∈ allCases
  rawValue_injective : ∀ kind kind', rawValue kind = rawValue kind' → kind = kind'

namespace RawRepresentable
variable {κ : Type} [RawRepresentable κ]

/-- `init(rawValue:)`. -/
def ofRawValue (string : String) : Option κ :=
  (allCases (κ := κ)).find? fun kind => rawValue kind = string

theorem ofRawValue_eq_some {string : String} {kind : κ} :
    ofRawValue string = some kind ↔ rawValue kind = string := by
  constructor
  · intro h
    simpa using List.find?_some h
  · rintro rfl
    cases hfind : ofRawValue (κ := κ) (rawValue kind) with
    | none =>
      have hnot := List.find?_eq_none.mp hfind kind (mem_allCases kind)
      simp at hnot
    | some found =>
      have heq : rawValue found = rawValue kind := by simpa using List.find?_some hfind
      rw [rawValue_injective found kind heq]

end RawRepresentable

/-- `decode([Kind: URL].self, forKey:)`, which reads a dictionary of strings and keeps the
entries of a kind with a URL. -/
def JSONDecoder.decodeURLs {κ : Type} [RawRepresentable κ] [DecidableEq κ]
    (decoder : JSONDecoder) : Decode (κ → Option URL) := fun json => do
  let urlsDictionary ← decoder.decodeStrings json
  return urlsDictionary.foldl (fun result entry =>
    match RawRepresentable.ofRawValue entry.1, decoder.url entry.2 with
    | some kind, some url => Function.update result kind (some url)
    | _, _ => result) fun _ => none

instance : RawRepresentable URLKind where
  rawValue
    | .raw => "raw"
    | .full => "full"
    | .regular => "regular"
    | .small => "small"
    | .thumb => "thumb"
  allCases := [.raw, .full, .regular, .small, .thumb]
  mem_allCases kind := by cases kind <;> decide
  rawValue_injective kind kind' := by cases kind <;> cases kind' <;> decide

namespace UnsplashPhotoPicker

/-- `UnsplashPhoto.LinkKind`. -/
inductive LinkKind
  | own
  | html
  | download
  | downloadLocation
deriving DecidableEq, Repr

instance : RawRepresentable LinkKind where
  rawValue
    | .own => "self"
    | .html => "html"
    | .download => "download"
    | .downloadLocation => "download_location"
  allCases := [.own, .html, .download, .downloadLocation]
  mem_allCases kind := by cases kind <;> decide
  rawValue_injective kind kind' := by cases kind <;> cases kind' <;> decide

/-- `UnsplashUser.LinkKind`. -/
inductive UserLinkKind
  | self
  | html
  | photos
  | likes
  | portfolio
deriving DecidableEq, Repr

instance : RawRepresentable UserLinkKind where
  rawValue
    | .self => "self"
    | .html => "html"
    | .photos => "photos"
    | .likes => "likes"
    | .portfolio => "portfolio"
  allCases := [.self, .html, .photos, .likes, .portfolio]
  mem_allCases kind := by cases kind <;> decide
  rawValue_injective kind kind' := by cases kind <;> cases kind' <;> decide

inductive ProfileImageSize
  | small
  | medium
  | large
deriving DecidableEq, Repr

instance : RawRepresentable ProfileImageSize where
  rawValue
    | .small => "small"
    | .medium => "medium"
    | .large => "large"
  allCases := [.small, .medium, .large]
  mem_allCases kind := by cases kind <;> decide
  rawValue_injective kind kind' := by cases kind <;> cases kind' <;> decide

/-! ### Photos and users -/

structure UnsplashPhotoExif where
  aperture : String
  exposureTime : String
  focalLength : String
  iso : String
  make : String
  model : String
deriving DecidableEq, Repr

/-- `init(from:)`, which the compiler writes. -/
def UnsplashPhotoExif.decode : Decode UnsplashPhotoExif := fun json => do
  let container ← container json
  return {
    aperture := ← container.decode decodeString "aperture"
    exposureTime := ← container.decode decodeString "exposure_time"
    focalLength := ← container.decode decodeString "focal_length"
    iso := ← container.decode decodeString "iso"
    make := ← container.decode decodeString "make"
    model := ← container.decode decodeString "model" }

structure UnsplashUser where
  identifier : String
  username : String
  firstName : Option String
  lastName : Option String
  name : Option String
  profileImage : ProfileImageSize → Option URL
  bio : Option String
  links : UserLinkKind → Option URL
  location : Option String
  portfolioURL : Option URL
  totalCollections : Int
  totalLikes : Int
  totalPhotos : Int

/-- `init(from:)`. -/
def UnsplashUser.decode (decoder : JSONDecoder) : Decode UnsplashUser := fun json => do
  let container ← container json
  return {
    identifier := ← container.decode decodeString "id"
    username := ← container.decode decodeString "username"
    firstName := container.decode? decodeString "first_name"
    lastName := container.decode? decodeString "last_name"
    name := container.decode? decodeString "name"
    profileImage := ← container.decode decoder.decodeURLs "profile_image"
    bio := container.decode? decodeString "bio"
    links := ← container.decode decoder.decodeURLs "links"
    location := container.decode? decodeString "location"
    portfolioURL := container.decode? decoder.decodeURL "portfolio_url"
    totalCollections := ← container.decode decodeInt "total_collections"
    totalLikes := ← container.decode decodeInt "total_likes"
    totalPhotos := ← container.decode decodeInt "total_photos" }

/-- A photo as it is read, of which `ImSplash.UnsplashPhoto` is what the app shows. -/
structure UnsplashPhoto where
  identifier : String
  height : Int
  width : Int
  color : Option UIColor
  exif : Option UnsplashPhotoExif
  user : UnsplashUser
  urls : URLKind → Option URL
  links : LinkKind → Option URL
  likesCount : Int
  downloadsCount : Option Int
  viewsCount : Option Int

namespace UnsplashPhoto

/-- `decode(UIColor.self, forKey:)`: any string is a color. -/
def decodeColor : Decode UIColor := fun json => .hex <$> decodeString json

/-- `init(from:)`. -/
def decode (decoder : JSONDecoder) : Decode UnsplashPhoto := fun json => do
  let container ← container json
  return {
    identifier := ← container.decode decodeString "id"
    height := ← container.decode decodeInt "height"
    width := ← container.decode decodeInt "width"
    color := some (← container.decode decodeColor "color")
    exif := container.decode? UnsplashPhotoExif.decode "exif"
    user := ← container.decode (UnsplashUser.decode decoder) "user"
    urls := ← container.decode decoder.decodeURLs "urls"
    links := ← container.decode decoder.decodeURLs "links"
    likesCount := ← container.decode decodeInt "likes"
    downloadsCount := container.decode? decodeInt "downloads"
    viewsCount := container.decode? decodeInt "views" }

/-- What the app shows of a photo; a label without a text is one with an empty text. -/
def shown (photo : UnsplashPhoto) : ImSplash.UnsplashPhoto where
  identifier := photo.identifier
  height := photo.height
  width := photo.width
  color := photo.color
  user := ⟨photo.user.name.getD ""⟩
  urls := photo.urls

end UnsplashPhoto

/-! ### Pages -/

/-- The photos of a page. -/
def decodePhotos (decoder : JSONDecoder) : Decode (List UnsplashPhoto) :=
  decodeArray (UnsplashPhoto.decode decoder)

/-- What the app shows of an element of a page, if it can be read. -/
def photo? (decoder : JSONDecoder) (json : JSON) : Option ImSplash.UnsplashPhoto :=
  (UnsplashPhoto.decode decoder json).toOption.map UnsplashPhoto.shown

/-- `JSONSerialization`, and `JSONDecoder` on what it reads. -/
def coding (decoder : JSONDecoder) (jsonObject : Data → Option JSON)
    (data : List JSON → Except NSError Data) : JSONCoding where
  jsonObject := jsonObject
  data := data
  decode body :=
    match jsonObject body with
    | none => .error (DecodingError.toNSError (.dataCorrupted []))
    | some json =>
      ((decodePhotos decoder json).mapError DecodingError.toNSError).map fun photos =>
        photos.map UnsplashPhoto.shown

end UnsplashPhotoPicker

/-! ### What is read -/

section Reading
variable {ε α β : Type}

@[simp] theorem toOption_bind (x : Except ε α) (f : α → Except ε β) :
    (x >>= f).toOption = x.toOption.bind fun a => (f a).toOption := by
  cases x <;> rfl

@[simp] theorem toOption_map (x : Except ε α) (f : α → β) :
    (x.map f).toOption = x.toOption.map f := by
  cases x <;> rfl

@[simp] theorem toOption_mapError {ε' : Type} (x : Except ε α) (f : ε → ε') :
    (x.mapError f).toOption = x.toOption := by
  cases x <;> rfl

@[simp] theorem toOption_pure (a : α) : (pure a : Except ε α).toOption = some a := rfl

variable {read : Decode α}

/-- A field is what its value is read as, if it has one. -/
theorem KeyedDecodingContainer.toOption_decode (container : KeyedDecodingContainer)
    (key : String) : (container.decode read key).toOption =
      (container.members.lookup key).bind fun value => (read value).toOption := by
  unfold KeyedDecodingContainer.decode
  cases container.members.lookup key with
  | none => rfl
  | some value => exact toOption_mapError _ _

theorem toOption_decodeElements (i : Nat) (elements : List JSON) :
    (decodeElements read i elements).toOption =
      elements.mapM fun element => (read element).toOption := by
  induction elements generalizing i with
  | nil => rfl
  | cons element elements ih =>
    rw [decodeElements, toOption_bind, toOption_mapError, List.mapM_cons]
    congr 1
    funext first
    rw [toOption_bind, ih]
    rfl

end Reading

namespace UnsplashPhotoPicker
variable (decoder : JSONDecoder)

/-- The photos of a page, as the app shows them. -/
theorem toOption_decodePhotos (elements : List JSON) :
    (decodePhotos decoder (.array elements)).toOption.map (List.map UnsplashPhoto.shown) =
      elements.mapM (photo? decoder) := by
  have hmap : ∀ elements : List JSON,
      (elements.mapM fun element => (UnsplashPhoto.decode decoder element).toOption).map
        (List.map UnsplashPhoto.shown) = elements.mapM (photo? decoder) := by
    intro elements
    induction elements with
    | nil => rfl
    | cons element elements ih =>
      rw [List.mapM_cons, List.mapM_cons, ← ih, photo?]
      cases (UnsplashPhoto.decode decoder element).toOption with
      | none => rfl
      | some photo =>
        cases elements.mapM fun element => (UnsplashPhoto.decode decoder element).toOption <;> rfl
  rw [← hmap, ← toOption_decodeElements 0]
  rfl

/-- A collection is read from the array it is. -/
theorem photos_collection (jsonObject : Data → Option JSON)
    (data : List JSON → Except NSError Data) (body : Data) :
    (coding decoder jsonObject data).photos body .getCollectionPhotos =
      match jsonObject body with
      | some (.array elements) => elements.mapM (photo? decoder)
      | _ => none := by
  show ((coding decoder jsonObject data).decode body).toOption = _
  rw [coding]
  dsimp only
  cases jsonObject body with
  | none => rfl
  | some json =>
    rw [toOption_map, toOption_mapError]
    cases json with
    | array elements => exact toOption_decodePhotos decoder elements
    | _ => rfl

end UnsplashPhotoPicker

end ImSplash
