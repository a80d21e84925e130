import ImSplash.Machine
import ImSplash.Models

/-!
# A photo view and its image downloader

`PhotoView` owns one `ImageDownloader`, which loads one image at a time over the
shared session and shares a cache with all other downloaders.  `PhotoCell` puts
together what one view is about: its picture, its downloader, the data tasks that
were made for it, the cache and the completion closures on the main queue.

The size of a view, and with it what `sizedImageURL` makes of a URL, is part of the
event that configures the view; so is what the file system has at that time.
-/

namespace ImSplash
open Runs

/-- What the platform decides: `UIImage(data:)` and `URL(string:)`. -/
structure Platform (UIImage : Type) where
  imageOfData : Data → Option UIImage
  urlOfString : String → Option URL

/-- What a cell is configured with. -/
inductive CellItem
  | ofPhoto (photo : UnsplashPhoto)
  | ofLocalItem (localItem : TransLocalImage)

/-- Where a picture comes from: the photo at a regular URL, in whatever size, or a file. -/
inductive PictureSource
  | remote (regularUrl : URL)
  | file (path : String)
deriving DecidableEq, Repr

/-- A `UIImage`, and where it comes from. -/
structure Picture (UIImage : Type) where
  image : UIImage
  source : PictureSource

structure ImageDownloader where
  imageDataTask : Option TaskId := none
  isCancelled : Bool := false
deriving DecidableEq, Repr

/-- A data task: the URL it loads, sized for the view from the regular URL that the
completion closure was made for. -/
structure ImageRequest where
  url : URL
  regularUrl : URL

/-- What a data task hands to its completion handler. -/
structure DataTaskResult where
  data : Option Data := none
  hasResponse : Bool := false
  error : Option NSError := none

/-- The load a reused view owes.  No code reads it. -/
inductive Load
  | idle
  /-- `prepareForReuse` has been called, and the view not configured since. -/
  | prepared
  /-- The configuration after that asked for `url`, when `firstTask` was the identity
  of the next task; `shown` says that it left the picture of `url` on the view. -/
  | requested (url : URL) (firstTask : TaskId) (shown : Bool)
deriving DecidableEq, Repr

structure PhotoCell (UIImage : Type) where
  /-- `imageView.image`. -/
  image : Option (Picture UIImage) := none
  imageDownloader : ImageDownloader := {}
  session : TaskTable ImageRequest := {}
  cache : URL → Option Data := fun _ => none
  /-- The completion closures, each with the picture it was given. -/
  mainQueue : List (Picture UIImage) := []
  /-- The item configured last.  No code reads it. -/
  configured : Option CellItem := none
  load : Load := .idle

namespace CellItem
variable {UIImage : Type} (platform : Platform UIImage)

/-- The URL of an item. -/
def url : CellItem → Option URL
  | .ofPhoto photo => photo.urls .regular
  | .ofLocalItem localItem => localItem.urlRegular.bind platform.urlOfString

def localImagePath : CellItem → Option String
  | .ofPhoto _ => none
  | .ofLocalItem localItem => localItem.localImagePath

/-- The URL an item is loaded from: a row in progress shows a percentage instead,
and a row with a file is shown from the file. -/
def requestedURL : CellItem → Option URL
  | .ofPhoto photo => photo.urls .regular
  | .ofLocalItem localItem =>
    if localItem.isDownloading then none
    else match localItem.localImagePath with
      | some _ => none
      | none => localItem.urlRegular.bind platform.urlOfString

/-- The configuration sets the image by itself, to the file or to nothing. -/
def setsImage : CellItem → Bool
  | .ofPhoto _ => false
  | .ofLocalItem localItem =>
    if localItem.isDownloading then false
    else match localItem.localImagePath with
      | some path => (platform.urlOfString path).isSome
      | none => (localItem.urlRegular.bind platform.urlOfString).isNone

/-- The picture belongs to the item. -/
def Owns (item : CellItem) : PictureSource → Prop
  | .remote regularUrl => item.url platform = some regularUrl
  | .file path => item.localImagePath = some path

theorem url_of_requestedURL {item : CellItem} {u : URL}
    (h : item.requestedURL platform = some u) : item.url platform = some u := by
  cases item with
  | ofPhoto photo => exact h
  | ofLocalItem localItem =>
    simp only [requestedURL] at h
    split at h
    · cases h
    · split at h
      · cases h
      · exact h

theorem setsImage_of_requestedURL {item : CellItem} {u : URL}
    (h : item.requestedURL platform = some u) : item.setsImage platform = false := by
  cases item with
  | ofPhoto photo => rfl
  | ofLocalItem localItem =>
    by_cases hdownloading : localItem.isDownloading = true
    · simp [requestedURL, hdownloading] at h
    · cases hpath : localItem.localImagePath with
      | some path => simp [requestedURL, hdownloading, hpath] at h
      | none =>
        have hurl : localItem.urlRegular.bind platform.urlOfString = some u := by
          simpa [requestedURL, hdownloading, hpath] using h
        simp [setsImage, hdownloading, hpath, hurl]

end CellItem

namespace PhotoCell
variable {UIImage : Type} (platform : Platform UIImage) (cell : PhotoCell UIImage)

/-- The completion closure of `downloadImage`; a cross-dissolve sets the image too. -/
def completion (picture : Picture UIImage) : PhotoCell UIImage :=
  if cell.imageDownloader.isCancelled then cell else { cell with image := some picture }

/-- `ImageDownloader.downloadPhoto`, with the completion closure of `downloadImage`.
The cache is asked by the URL to be loaded, so what it finds is a picture of it. -/
def downloadPhoto (url regularUrl : URL) : PhotoCell UIImage :=
  match cell.imageDownloader.imageDataTask with
  -- A task that has been cancelled but not completed is still there.
  | some _ => cell
  | none =>
    let cell := { cell with
      imageDownloader := { cell.imageDownloader with isCancelled := false } }
    match (cell.cache url).bind platform.imageOfData with
    | some image => cell.completion ⟨image, .remote regularUrl⟩
    | none =>
      { cell with
        session := cell.session.create ⟨url, regularUrl⟩
        imageDownloader := { cell.imageDownloader with
          imageDataTask := some cell.session.nextId } }

/-- `ImageDownloader.cancel`, which keeps the task it cancels. -/
def cancel : PhotoCell UIImage :=
  { cell with
    imageDownloader := { cell.imageDownloader with isCancelled := true }
    session :=
      match cell.imageDownloader.imageDataTask with
      | none => cell.session
      | some task => cell.session.cancel task }

/-- The completion handler of a data task. -/
def dataTaskDidComplete (task : TaskId) (request : ImageRequest) (result : DataTaskResult) :
    PhotoCell UIImage :=
  let cell := { cell with
    session := cell.session.settle task (if result.error.isNone then .finished else .failed)
    imageDownloader := { cell.imageDownloader with imageDataTask := none } }
  match result.data, result.data.bind platform.imageOfData with
  | some data, some image =>
    if result.hasResponse && result.error.isNone then
      -- The closure asks whether it was cancelled when it runs, not here.
      { cell with
        cache := fun url => if url = request.url then some data else cell.cache url
        mainQueue := cell.mainQueue ++ [⟨image, .remote request.regularUrl⟩] }
    else cell
  | _, _ => cell

def prepareForReuse : PhotoCell UIImage :=
  { { cell with image := none }.cancel with load := .prepared }

/-- `configure(with: UnsplashPhoto)`. -/
def configurePhoto (photo : UnsplashPhoto) (sizedImageURL : URL → URL) : PhotoCell UIImage :=
  match photo.urls .regular with
  | none => cell
  | some regularUrl => cell.downloadPhoto platform (sizedImageURL regularUrl) regularUrl

/-- `configure(with: TransLocalImage)`. -/
def configureLocalItem (localItem : TransLocalImage) (sizedImageURL : URL → URL)
    (contentsOfFile : String → Option UIImage) : PhotoCell UIImage :=
  if localItem.isDownloading then cell
  else
    match localItem.localImagePath with
    | some path =>
      match platform.urlOfString path with
      | some imageURL =>
        { cell with image := (contentsOfFile imageURL.path).map fun image => ⟨image, .file path⟩ }
      | none => cell
    | none =>
      match localItem.urlRegular.bind platform.urlOfString with
      | some url => cell.downloadPhoto platform (sizedImageURL url) url
      | none => { cell with image := none }

def configureItem (item : CellItem) (sizedImageURL : URL → URL)
    (contentsOfFile : String → Option UIImage) : PhotoCell UIImage :=
  match item with
  | .ofPhoto photo => cell.configurePhoto platform photo sizedImageURL
  | .ofLocalItem localItem =>
    cell.configureLocalItem platform localItem sizedImageURL contentsOfFile

/-- The load owed after a configuration: only one that comes right after
`prepareForReuse` and asks for a URL owes one. -/
def owedLoad (before after : PhotoCell UIImage) (item : CellItem) : Load :=
  match before.load, item.requestedURL platform with
  | .prepared, some url =>
    .requested url before.session.nextId
      (after.image.any fun picture => picture.source = .remote url)
  | _, _ => .idle

/-- A configuration of the view. -/
def configure (item : CellItem) (sizedImageURL : URL → URL)
    (contentsOfFile : String → Option UIImage) : PhotoCell UIImage :=
  let after := cell.configureItem platform item sizedImageURL contentsOfFile
  { after with configured := some item, load := owedLoad platform cell after item }

end PhotoCell

inductive CellEvent (UIImage : Type)
  | prepareForReuse
  | configure (item : CellItem) (sizedImageURL : URL → URL)
      (contentsOfFile : String → Option UIImage)
  /-- The completion handler of a data task, on the session's queue. -/
  | dataTaskDidComplete (task : TaskId) (result : DataTaskResult)
  /-- Other views store into the shared cache, and it evicts as it likes. -/
  | cacheChanges (cache : URL → Option Data)
  /-- The main queue runs its next completion closure. -/
  | mainQueue

namespace PhotoCell
variable {UIImage : Type} (platform : Platform UIImage)

/-- The task a completion handler is about, if it has not run yet. -/
def outstanding? (cell : PhotoCell UIImage) (task : TaskId) : Option ImageRequest :=
  cell.session.outstanding? task

/-- One view, one event at a time. -/
def machine : Machine (PhotoCell UIImage) (CellEvent UIImage) where
  step cell
    | .prepareForReuse => some cell.prepareForReuse
    | .configure item sizedImageURL contentsOfFile =>
      some (cell.configure platform item sizedImageURL contentsOfFile)
    | .dataTaskDidComplete task result =>
      (cell.outstanding? task).map fun request =>
        cell.dataTaskDidComplete platform task request result
    | .cacheChanges cache => some { cell with cache := cache }
    | .mainQueue =>
      match cell.mainQueue with
      | [] => none
      | picture :: rest => some ({ cell with mainQueue := rest }.completion picture)

variable {platform}

/-- The main queue runs the closure that waits longest, if one does. -/
theorem mainQueue_eq_some {cell after : PhotoCell UIImage} :
    (machine platform).step cell .mainQueue = some after ↔ ∃ picture rest,
      cell.mainQueue = picture :: rest ∧
        after = ({ cell with mainQueue := rest } : PhotoCell UIImage).completion picture := by
  simp only [machine]
  cases cell.mainQueue with
  | nil => simp
  | cons picture rest =>
    constructor
    · intro h
      exact ⟨picture, rest, rfl, (Option.some.inj h).symm⟩
    · rintro ⟨_, _, ⟨⟩, rfl⟩
      rfl

theorem outstanding?_eq_some {cell : PhotoCell UIImage} {task : TaskId} {request : ImageRequest} :
    cell.outstanding? task = some request ↔ cell.session.Outstanding task request :=
  TaskTable.outstanding?_eq_some

end PhotoCell

end ImSplash
