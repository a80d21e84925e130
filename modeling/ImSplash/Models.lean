import ImSplash.Foundation
import ImSplash.TaskTable

/-!
# The app's records

The photos the server describes, the records Realm stores, the items the List
screen shows and the entries of the download registry.
-/

namespace ImSplash
open Runs

inductive URLKind
  | raw
  | full
  | regular
  | small
  | thumb
deriving DecidableEq, Repr

inductive UIColor
  | clear
  | hex (hexString : String)
deriving DecidableEq, Repr

structure UnsplashUser where
  name : String
deriving DecidableEq, Repr

/-- A photo from the Unsplash API. -/
structure UnsplashPhoto where
  identifier : String
  height : Int
  width : Int
  color : Option UIColor
  user : UnsplashUser
  urls : URLKind → Option URL

/-- A photo all of whose URLs are `https://i/` and the component, which is its id too. -/
def photoAt (component : String) : UnsplashPhoto where
  identifier := component
  height := 1
  width := 1
  color := none
  user := ⟨"u"⟩
  urls _ := some ⟨"https://i/" ++ component⟩

/-- A full page of photos and one more. -/
def gallery : List UnsplashPhoto := (List.range 31).map fun n => photoAt (toString n)

/-- A Realm record, with the defaults of its class. -/
structure LocalImage where
  id : String := ""
  width : Int := 1
  height : Int := 1
  urlRegular : Option String := none
  localImagePath : Option String := none
  favorite : Bool := false
  isDownloaded : Bool := false
deriving DecidableEq, Repr

/-- A quotient of two `Float`s over exact rationals.  `none` stands for the
infinities and the not-a-number that a zero divisor gives. -/
abbrev Progress := Option Rat

/-- `Float(numerator) / Float(denominator)`. -/
def Progress.quotient (numerator denominator : Int) : Progress :=
  if denominator = 0 then none else some (numerator / denominator)

/-- A snapshot of a photo for the List screen. -/
structure TransLocalImage where
  id : String := ""
  width : Int := 1
  height : Int := 1
  urlRegular : Option String
  localImagePath : Option String
  favorite : Bool := false
  isDownloaded : Bool := false
  isDownloading : Bool := false
  progress : Progress := some 0
deriving DecidableEq, Repr

namespace TransLocalImage

/-- `init(local:)` and the field-by-field initialiser that
`ListViewController.loadData` applies to the fields of one record. -/
def ofLocal (item : LocalImage) : TransLocalImage where
  id := item.id
  width := item.width
  height := item.height
  urlRegular := item.urlRegular
  localImagePath := item.localImagePath
  favorite := item.favorite
  isDownloaded := item.isDownloaded

/-- `init(photo:)`. -/
def ofPhoto (photo : UnsplashPhoto) : TransLocalImage where
  id := photo.identifier
  width := photo.width
  height := photo.height
  urlRegular := (photo.urls .regular).map URL.absoluteString
  localImagePath := none
  favorite := false
  isDownloaded := false

end TransLocalImage

/-- An entry of the download registry.  The source has a class: `identity` stands
for the object, which a closure may still hold after the entry is gone. -/
structure DownloadRequest where
  isDownloading : Bool := false
  progress : Progress := some 0
  resumeData : Option Data := none
  task : Option TaskId := none
  photo : UnsplashPhoto
  identity : Nat

end ImSplash
