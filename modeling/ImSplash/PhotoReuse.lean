import ImSplash.PhotoView

/-!
# Reusing a photo view

Two promises of a reused cell: it never shows a picture of another photo, and it
never drops a load.  One Boolean and one optional task guard both.  `isCancelled`
is cleared by the next request, for closures of earlier requests as well; and
`imageDataTask` outlives `cancel`, until its handler runs, so a request made before
that returns at once.
-/

namespace ImSplash
open Runs

namespace PhotoCell
variable {UIImage : Type} {platform : Platform UIImage} {cell : PhotoCell UIImage}

/-! ### What a request and a configuration do -/

/-- A request is refused, answered from the cache, or made a data task. -/
theorem downloadPhoto_cases (url regularUrl : URL) :
    (∃ task, cell.imageDownloader.imageDataTask = some task ∧
      cell.downloadPhoto platform url regularUrl = cell) ∨
    (∃ image, cell.imageDownloader.imageDataTask = none ∧
      (cell.cache url).bind platform.imageOfData = some image ∧
      cell.downloadPhoto platform url regularUrl = { cell with
        imageDownloader := ⟨none, false⟩
        image := some ⟨image, .remote regularUrl⟩ }) ∨
    cell.imageDownloader.imageDataTask = none ∧
      (cell.cache url).bind platform.imageOfData = none ∧
      cell.downloadPhoto platform url regularUrl = { cell with
        imageDownloader := ⟨some cell.session.nextId, false⟩
        session := cell.session.create ⟨url, regularUrl⟩ } := by
  obtain ⟨image, ⟨imageDataTask, isCancelled⟩, session, cache, mainQueue, configured, load⟩ := cell
  cases imageDataTask with
  | some task => exact Or.inl ⟨task, rfl, rfl⟩
  | none =>
    cases hcached : (cache url).bind platform.imageOfData with
    | some image =>
      exact Or.inr (Or.inl ⟨image, rfl, rfl, by simp [downloadPhoto, hcached, completion]⟩)
    | none => exact Or.inr (Or.inr ⟨rfl, rfl, by simp [downloadPhoto, hcached]⟩)

/-- A configuration either requests the URL of the item or only sets the image. -/
theorem configureItem_cases (item : CellItem) (sizedImageURL : URL → URL)
    (contentsOfFile : String → Option UIImage) :
    (∃ url, item.requestedURL platform = some url ∧
      cell.configureItem platform item sizedImageURL contentsOfFile =
        cell.downloadPhoto platform (sizedImageURL url) url) ∨
    item.requestedURL platform = none ∧ ∃ image,
      cell.configureItem platform item sizedImageURL contentsOfFile = { cell with image := image } ∧
        if item.setsImage platform then
          ∀ picture, image = some picture → item.Owns platform picture.source
        else image = cell.image := by
  cases item with
  | ofPhoto photo =>
    simp only [configureItem, configurePhoto, CellItem.requestedURL, CellItem.setsImage]
    cases hurl : photo.urls .regular with
    | none => exact Or.inr ⟨rfl, cell.image, rfl, by simp⟩
    | some url => exact Or.inl ⟨url, rfl, rfl⟩
  | ofLocalItem localItem =>
    simp only [configureItem, configureLocalItem, CellItem.requestedURL, CellItem.setsImage]
    by_cases hdownloading : localItem.isDownloading = true
    · refine Or.inr ⟨?_, cell.image, ?_, ?_⟩
      all_goals simp [hdownloading]
    · simp only [hdownloading, Bool.false_eq_true, if_false]
      cases hpath : localItem.localImagePath with
      | some path =>
        right
        cases himage : platform.urlOfString path with
        | none => exact ⟨rfl, cell.image, by simp [himage], by simp [himage]⟩
        | some imageURL =>
          refine ⟨rfl, (contentsOfFile imageURL.path).map fun image => ⟨image, .file path⟩,
            by simp [himage], ?_⟩
          rw [if_pos (by simp [himage])]
          intro picture hpicture
          obtain ⟨image, -, rfl⟩ := Option.map_eq_some_iff.mp hpicture
          exact hpath
      | none =>
        cases hurl : localItem.urlRegular.bind platform.urlOfString with
        | some url => exact Or.inl ⟨url, rfl, rfl⟩
        | none => exact Or.inr ⟨rfl, none, rfl, by simp⟩

/-- A data task is settled and forgotten; if it brought an image, the image is cached
and its closure queued. -/
theorem dataTaskDidComplete_cases (task : TaskId) (request : ImageRequest)
    (result : DataTaskResult) : ∃ status : TaskStatus, status.Outstanding = false ∧
      (cell.dataTaskDidComplete platform task request result = { cell with
          session := cell.session.settle task status
          imageDownloader := ⟨none, cell.imageDownloader.isCancelled⟩ } ∨
        ∃ image cache, cell.dataTaskDidComplete platform task request result = { cell with
          session := cell.session.settle task status
          imageDownloader := ⟨none, cell.imageDownloader.isCancelled⟩
          cache := cache
          mainQueue := cell.mainQueue ++ [⟨image, .remote request.regularUrl⟩] }) := by
  refine ⟨if result.error.isNone then .finished else .failed, by split <;> rfl, ?_⟩
  simp only [dataTaskDidComplete]
  cases hdata : result.data with
  | none => exact Or.inl rfl
  | some data =>
    cases himage : platform.imageOfData data with
    | none => exact Or.inl (by simp [himage])
    | some image =>
      by_cases hresponse : (result.hasResponse && result.error.isNone) = true
      · right
        refine ⟨image, fun url => if url = request.url then some data else cell.cache url, ?_⟩
        simp [himage, hresponse]
      · exact Or.inl (by simp [himage, hresponse])

/-! ### No other photo's picture -/

variable (platform cell)

/-- The picture belongs to the item configured last. -/
def Shows (source : PictureSource) : Prop :=
  ∃ item, cell.configured = some item ∧ item.Owns platform source

/-- A completion closure that sets the image sets the picture of the item configured
last, and with nothing pending the image is empty or that picture. -/
def ShowsOwnPicture (event : CellEvent UIImage) (after : PhotoCell UIImage) : Prop :=
  (∀ picture rest, event = .mainQueue → cell.mainQueue = picture :: rest →
    cell.imageDownloader.isCancelled = false → cell.Shows platform picture.source) ∧
  (after.session.Quiet → after.mainQueue = [] → ∀ picture, after.image = some picture →
    after.Shows platform picture.source)

/-- Whatever is pending, as a closure or as a data task, is for the item. -/
def PendingFor (item : CellItem) : Prop :=
  (∀ picture ∈ cell.mainQueue, item.Owns platform picture.source) ∧
  ∀ i request, cell.session.Outstanding i request →
    item.Owns platform (.remote request.regularUrl)

/-- What a configuration needs.  Either the closures of earlier requests stay
cancelled, because the item requests nothing or its request is refused, or whatever is
pending is for the item; and the image on the view belongs to the item, unless the
configuration replaces it at once or a closure that is not cancelled is still to do so. -/
def KeepsOwnPicture : CellEvent UIImage → Prop
  | .configure item sizedImageURL _ =>
    ((cell.imageDownloader.isCancelled = true ∧
        (item.requestedURL platform = none ∨ cell.imageDownloader.imageDataTask ≠ none)) ∨
      cell.PendingFor platform item) ∧
    ((∀ picture, cell.image = some picture → item.Owns platform picture.source) ∨
      item.setsImage platform = true ∨
      (∃ url, item.requestedURL platform = some url ∧ cell.imageDownloader.imageDataTask = none ∧
        ((cell.cache (sizedImageURL url)).bind platform.imageOfData).isSome) ∨
      cell.mainQueue ≠ [] ∧ (cell.imageDownloader.isCancelled = false ∨
        item.requestedURL platform ≠ none ∧ cell.imageDownloader.imageDataTask = none))
  | _ => True

/-- What the view keeps to: closures that are not cancelled are for the item
configured last, those to come included, and so is the image, unless one of these
closures is still to replace it. -/
structure OwnPicture : Prop where
  queued : cell.imageDownloader.isCancelled = false →
    ∀ picture ∈ cell.mainQueue, cell.Shows platform picture.source
  loading : cell.imageDownloader.isCancelled = false →
    ∀ i request, cell.session.Outstanding i request →
      cell.Shows platform (.remote request.regularUrl)
  image : ∀ picture, cell.image = some picture → cell.Shows platform picture.source ∨
    cell.imageDownloader.isCancelled = false ∧ cell.mainQueue ≠ []

variable {platform cell}

theorem OwnPicture.prepareForReuse (cell : PhotoCell UIImage) :
    cell.prepareForReuse.OwnPicture platform := by
  refine ⟨fun hcancelled => ?_, fun hcancelled => ?_, fun picture himage => ?_⟩
  · cases hcancelled
  · cases hcancelled
  · cases himage

/-- What a data task brings is for the item it was made for. -/
theorem OwnPicture.dataTaskDidComplete (h : cell.OwnPicture platform) {task : TaskId}
    {request : ImageRequest} (houtstanding : cell.session.Outstanding task request)
    (result : DataTaskResult) :
    (cell.dataTaskDidComplete platform task request result).OwnPicture platform := by
  obtain ⟨status, hstatus, hafter⟩ := dataTaskDidComplete_cases task request result
  have hloading : cell.imageDownloader.isCancelled = false → ∀ i request',
      (cell.session.settle task status).Outstanding i request' →
        cell.Shows platform (.remote request'.regularUrl) :=
    fun hcancelled i request' hi =>
      h.loading hcancelled i request' ((TaskTable.outstanding_settle hstatus).mp hi).1
  rcases hafter with hafter | ⟨image, cache, hafter⟩
  · rw [hafter]
    exact ⟨h.queued, hloading, h.image⟩
  · rw [hafter]
    refine ⟨fun hcancelled picture hmem => ?_, hloading, fun picture himage => ?_⟩
    · rcases List.mem_append.mp hmem with hmem | hmem
      · exact h.queued hcancelled picture hmem
      · obtain rfl := List.mem_singleton.mp hmem
        exact h.loading hcancelled task request houtstanding
    · exact (h.image picture himage).imp_right fun hwaits => ⟨hwaits.1, by simp⟩

theorem OwnPicture.completion {picture : Picture UIImage} {rest : List (Picture UIImage)}
    (h : cell.OwnPicture platform) (hqueue : cell.mainQueue = picture :: rest) :
    (({ cell with mainQueue := rest } : PhotoCell UIImage).completion picture).OwnPicture
      platform := by
  have hrest : cell.imageDownloader.isCancelled = false →
      ∀ picture' ∈ rest, cell.Shows platform picture'.source := by
    intro hclear picture' hmem
    exact h.queued hclear picture' (by rw [hqueue]; exact List.mem_cons_of_mem _ hmem)
  unfold PhotoCell.completion
  split
  · rename_i hcancelled
    refine ⟨hrest, h.loading, fun picture' himage => ?_⟩
    rcases h.image picture' himage with hshows | ⟨hclear, -⟩
    · exact Or.inl hshows
    · exact absurd hclear (by simp [show cell.imageDownloader.isCancelled = true from hcancelled])
  · rename_i hcancelled
    refine ⟨hrest, h.loading, fun picture' himage => ?_⟩
    obtain rfl := Option.some.inj himage
    have hclear : cell.imageDownloader.isCancelled = false := Bool.eq_false_iff.mpr hcancelled
    exact Or.inl (h.queued hclear picture (by rw [hqueue]; exact List.mem_cons_self))

/-- After a configuration the item configured last is its own, so "shows" is "owns". -/
theorem ownPicture_of_configureItem {item : CellItem} {sizedImageURL : URL → URL}
    {contentsOfFile : String → Option UIImage} {after : PhotoCell UIImage}
    (hafter : cell.configureItem platform item sizedImageURL contentsOfFile = after)
    (hpending : after.imageDownloader.isCancelled = false → after.PendingFor platform item)
    (himage : ∀ picture, after.image = some picture → item.Owns platform picture.source ∨
      after.imageDownloader.isCancelled = false ∧ after.mainQueue ≠ []) :
    (cell.configure platform item sizedImageURL contentsOfFile).OwnPicture platform := by
  subst hafter
  refine ⟨fun hcancelled picture hmem => ?_, fun hcancelled i request hi => ?_,
    fun picture hpicture => ?_⟩
  · exact ⟨item, rfl, (hpending hcancelled).1 picture hmem⟩
  · exact ⟨item, rfl, (hpending hcancelled).2 i request hi⟩
  · exact (himage picture hpicture).imp_left fun howns => ⟨item, rfl, howns⟩

/-- A configuration that requests the URL of its item. -/
theorem ownPicture_configure_of_requested {item : CellItem} {sizedImageURL : URL → URL}
    {contentsOfFile : String → Option UIImage} {url : URL}
    (hkeeps : cell.KeepsOwnPicture platform (.configure item sizedImageURL contentsOfFile))
    (hrequested : item.requestedURL platform = some url)
    (hafter : cell.configureItem platform item sizedImageURL contentsOfFile =
      cell.downloadPhoto platform (sizedImageURL url) url) :
    (cell.configure platform item sizedImageURL contentsOfFile).OwnPicture platform := by
  obtain ⟨hpending, himage⟩ := hkeeps
  have howns : item.Owns platform (.remote url) :=
    CellItem.url_of_requestedURL platform hrequested
  have hnotSet := CellItem.setsImage_of_requestedURL platform hrequested
  rw [hnotSet, hrequested] at himage
  rw [hrequested] at hpending
  rcases downloadPhoto_cases (sizedImageURL url) url with
    ⟨task, htask, hdownload⟩ | ⟨image, htask, hcached, hdownload⟩ | ⟨htask, hcached, hdownload⟩
  · -- The request is refused, and `isCancelled` stays what it was.
    refine ownPicture_of_configureItem (hafter.trans hdownload) (fun hclear => ?_) ?_
    · rcases hpending with ⟨hcancelled, -⟩ | hpending
      · rw [hclear] at hcancelled
        cases hcancelled
      · exact hpending
    · rcases himage with himage | hset | ⟨_, -, hnone, -⟩ | ⟨hqueue, hclear | ⟨-, hnone⟩⟩
      · exact fun picture hpicture => Or.inl (himage picture hpicture)
      · cases hset
      · rw [htask] at hnone
        cases hnone
      · exact fun _ _ => Or.inr ⟨hclear, hqueue⟩
      · rw [htask] at hnone
        cases hnone
  · -- `isCancelled` is cleared, so whatever is pending will be shown.
    have hpending := hpending.resolve_left (by simp [htask])
    refine ownPicture_of_configureItem (hafter.trans hdownload) (fun _ => hpending)
      fun picture hpicture => ?_
    obtain rfl := Option.some.inj hpicture
    exact Or.inl howns
  · have hpending := hpending.resolve_left (by simp [htask])
    refine ownPicture_of_configureItem (hafter.trans hdownload)
      (fun _ => ⟨hpending.1, fun i request hi => ?_⟩) ?_
    · rcases TaskTable.outstanding_create.mp hi with hi | ⟨-, rfl⟩
      · exact hpending.2 i request hi
      · exact howns
    · rcases himage with himage | hset | ⟨url', hurl, -, hsome⟩ | ⟨hqueue, -⟩
      · exact fun picture hpicture => Or.inl (himage picture hpicture)
      · cases hset
      · obtain rfl := Option.some.inj hurl
        rw [hcached] at hsome
        cases hsome
      · exact fun _ _ => Or.inr ⟨rfl, hqueue⟩

/-- A configuration that at most sets the image. -/
theorem ownPicture_configure_of_not_requested {item : CellItem} {sizedImageURL : URL → URL}
    {contentsOfFile : String → Option UIImage} {image : Option (Picture UIImage)}
    (hkeeps : cell.KeepsOwnPicture platform (.configure item sizedImageURL contentsOfFile))
    (hrequested : item.requestedURL platform = none)
    (hafter : cell.configureItem platform item sizedImageURL contentsOfFile =
      { cell with image := image })
    (hset : if item.setsImage platform then
        ∀ picture, image = some picture → item.Owns platform picture.source
      else image = cell.image) :
    (cell.configure platform item sizedImageURL contentsOfFile).OwnPicture platform := by
  obtain ⟨hpending, himage⟩ := hkeeps
  rw [hrequested] at himage
  refine ownPicture_of_configureItem hafter (fun hclear => ?_) fun picture hpicture => ?_
  · rcases hpending with ⟨hcancelled, -⟩ | hpending
    · rw [show cell.imageDownloader.isCancelled = false from hclear] at hcancelled
      cases hcancelled
    · exact hpending
  · by_cases hsets : item.setsImage platform = true
    · rw [if_pos hsets] at hset
      exact Or.inl (hset picture hpicture)
    · rw [if_neg hsets] at hset
      rcases himage with himage | hset' | ⟨_, hurl, -⟩ | ⟨hqueue, hclear | ⟨hrequests, -⟩⟩
      · exact Or.inl (himage picture (hset.symm.trans hpicture))
      · exact absurd hset' hsets
      · cases hurl
      · exact Or.inr ⟨hclear, hqueue⟩
      · exact absurd rfl hrequests

/-- **A configuration** that meets its condition. -/
theorem ownPicture_configure {item : CellItem} {sizedImageURL : URL → URL}
    {contentsOfFile : String → Option UIImage}
    (hkeeps : cell.KeepsOwnPicture platform (.configure item sizedImageURL contentsOfFile)) :
    (cell.configure platform item sizedImageURL contentsOfFile).OwnPicture platform := by
  rcases configureItem_cases item sizedImageURL contentsOfFile with
    ⟨url, hrequested, hafter⟩ | ⟨hrequested, image, hafter, hset⟩
  · exact ownPicture_configure_of_requested hkeeps hrequested hafter
  · exact ownPicture_configure_of_not_requested hkeeps hrequested hafter hset

/-- **One step** of the view. -/
theorem ownPicture_step {after : PhotoCell UIImage} {event : CellEvent UIImage}
    (h : cell.OwnPicture platform) (hstep : (machine platform).step cell event = some after)
    (hkeeps : cell.KeepsOwnPicture platform event) : after.OwnPicture platform := by
  cases event with
  | prepareForReuse =>
    obtain rfl := Option.some.inj hstep
    exact .prepareForReuse cell
  | configure item sizedImageURL contentsOfFile =>
    obtain rfl := Option.some.inj hstep
    exact ownPicture_configure hkeeps
  | dataTaskDidComplete task result =>
    obtain ⟨request, hrequest, rfl⟩ := Option.map_eq_some_iff.mp hstep
    exact h.dataTaskDidComplete (outstanding?_eq_some.mp hrequest) result
  | cacheChanges cache =>
    obtain rfl := Option.some.inj hstep
    exact ⟨h.queued, h.loading, h.image⟩
  | mainQueue =>
    obtain ⟨picture, rest, hqueue, rfl⟩ := mainQueue_eq_some.mp hstep
    exact h.completion hqueue

/-- A view that has shown nothing, over any cache. -/
def fresh (cache : URL → Option Data) : PhotoCell UIImage := { cache := cache }

/-- **A reused view never shows another photo's picture**, in any run whose
configurations meet their condition. -/
theorem showsOwnPicture_along (platform : Platform UIImage) (cache : URL → Option Data)
    (events : List (CellEvent UIImage))
    (hkeeps : (machine platform).Along (fun cell event _ => cell.KeepsOwnPicture platform event)
      (fresh cache) events) :
    (machine platform).Along (fun cell event after => cell.ShowsOwnPicture platform event after)
      (fresh cache) events := by
  have hstep : ∀ cell event after, cell.OwnPicture platform →
      (machine platform).step cell event = some after → cell.KeepsOwnPicture platform event →
      after.OwnPicture platform ∧ cell.ShowsOwnPicture platform event after := by
    intro cell event after h hstep hkeeps
    have hafter := ownPicture_step h hstep hkeeps
    refine ⟨hafter, fun picture rest _ hqueue hclear => ?_, fun _ hempty picture himage => ?_⟩
    · exact h.queued hclear picture (by rw [hqueue]; exact List.mem_cons_self)
    · exact (hafter.image picture himage).resolve_right fun hwaits => hwaits.2 hempty
  have hfresh : (fresh cache : PhotoCell UIImage).OwnPicture platform := by
    refine ⟨fun _ picture hmem => ?_, fun _ i request hi => ?_, fun picture himage => ?_⟩
    · cases hmem
    · obtain ⟨_, hfind, -⟩ := hi
      cases hfind
    · cases himage
  exact Machine.along_of_invariant hstep hfresh hkeeps

/-- A platform whose images are their data. -/
def rawPlatform : Platform Data := ⟨some, fun _ => none⟩

/-- A view that shows one photo and is reused for another, each load ending before the next
begins. -/
def reuse : List (CellEvent Data) :=
  [.configure (.ofPhoto (photoAt "a")) id fun _ => none,
    .dataTaskDidComplete 0 ⟨some [1], true, none⟩, .mainQueue, .prepareForReuse,
    .configure (.ofPhoto (photoAt "b")) id fun _ => none,
    .dataTaskDidComplete 1 ⟨some [2], true, none⟩, .mainQueue]

/-- It ends on the picture of the second photo. -/
theorem showsOwnPicture_along_reuse :
    (∃ cell, (machine rawPlatform).Run (fresh fun _ => none) reuse cell ∧
      cell.image = some ⟨[2], .remote ⟨"https://i/b"⟩⟩) ∧
    (machine rawPlatform).Along (fun cell event after =>
      cell.ShowsOwnPicture rawPlatform event after) (fresh fun _ => none) reuse := by
  refine ⟨⟨_, .cons rfl (.cons rfl (.cons rfl (.cons rfl (.cons rfl (.cons rfl (.cons rfl
    (.nil _))))))), rfl⟩, showsOwnPicture_along rawPlatform _ _ ?_⟩
  refine (Machine.along_cons rfl).mpr ⟨⟨Or.inr ⟨?_, ?_⟩, Or.inl ?_⟩, ?_⟩
  · intro _ hmem
    cases hmem
  · rintro _ _ ⟨_, hfind, -⟩
    cases hfind
  · intro _ himage
    cases himage
  refine (Machine.along_cons rfl).mpr ⟨trivial, (Machine.along_cons rfl).mpr ⟨trivial,
    (Machine.along_cons rfl).mpr ⟨trivial, ?_⟩⟩⟩
  -- The task of the first photo has finished, and its picture is gone.
  refine (Machine.along_cons rfl).mpr ⟨⟨Or.inr ⟨?_, ?_⟩, Or.inl ?_⟩, ?_⟩
  · intro _ hmem
    cases hmem
  · rintro i _ ⟨task, hfind, -, houtstanding⟩
    cases i with
    | zero =>
      obtain rfl := Option.some.inj hfind
      cases houtstanding
    | succ i => cases hfind
  · intro _ himage
    cases himage
  exact (Machine.along_cons rfl).mpr ⟨trivial, (Machine.along_cons rfl).mpr ⟨trivial, trivial⟩⟩

/-- The closure of the old photo runs after the next one has been requested. -/
theorem reused_view_shows_old_photo :
    ¬ (machine rawPlatform).Along (fun cell event after =>
        cell.ShowsOwnPicture rawPlatform event after) (fresh fun _ => none)
      [.configure (.ofPhoto (photoAt "a")) id fun _ => none,
        .dataTaskDidComplete 0 ⟨some [1], true, none⟩, .prepareForReuse,
        .configure (.ofPhoto (photoAt "b")) id fun _ => none, .mainQueue] := by
  intro h
  have hshows := (((((h _ rfl).2 _ rfl).2 _ rfl).2 _ rfl).2 _ rfl).1.1 _ _ rfl rfl rfl
  obtain ⟨item, hitem, howns⟩ := hshows
  obtain rfl := Option.some.inj hitem
  have hother : (photoAt "b").urls .regular = some ⟨"https://i/a"⟩ := howns
  exact absurd hother (by decide)

/-! ### No load is dropped -/

variable (platform cell)

/-- The load a reused view owes is served: its picture came from the cache, or there is
a data task for it, made since and not cancelled, in flight or completed. -/
def LoadServed : Prop :=
  ∀ url firstTask shown, cell.load = .requested url firstTask shown → shown = true ∨
    ∃ i task, firstTask ≤ i ∧ cell.session.find? i = some task ∧
      task.request.regularUrl = url ∧ task.status ≠ .cancelled

/-- What a configuration right after `prepareForReuse` needs: if it asks for a URL, no
data task of the view is on its way. -/
def KeepsLoad : CellEvent UIImage → Prop
  | .configure item _ _ => cell.load = .prepared → item.requestedURL platform ≠ none →
    cell.imageDownloader.imageDataTask = none
  | _ => True

/-- Until it is configured, a view that is prepared for reuse stays empty. -/
def PreparedEmpty : Prop :=
  cell.load = .prepared → cell.image = none ∧ cell.imageDownloader.isCancelled = true

variable {platform cell}

/-- Between two configurations tasks are settled and made, never taken back. -/
theorem LoadServed.of_le (h : cell.LoadServed) {after : PhotoCell UIImage}
    (hload : after.load = cell.load)
    (htasks : ∀ i task, cell.session.find? i = some task → task.status ≠ .cancelled →
      ∃ task', after.session.find? i = some task' ∧ task'.request = task.request ∧
        task'.status ≠ .cancelled) : after.LoadServed := by
  intro url firstTask shown hrequested
  rw [hload] at hrequested
  rcases h url firstTask shown hrequested with hshown | ⟨i, task, hi, hfind, hurl, hstatus⟩
  · exact Or.inl hshown
  · obtain ⟨task', hfind', hrequest, hstatus'⟩ := htasks i task hfind hstatus
    exact Or.inr ⟨i, task', hi, hfind', by rw [hrequest]; exact hurl, hstatus'⟩

/-- A configuration owes a load only right after `prepareForReuse`. -/
theorem configure_load (item : CellItem) (sizedImageURL : URL → URL)
    (contentsOfFile : String → Option UIImage) :
    (cell.load = .prepared ∧ ∃ url, item.requestedURL platform = some url ∧
      (cell.configure platform item sizedImageURL contentsOfFile).load =
        .requested url cell.session.nextId
          ((cell.configureItem platform item sizedImageURL contentsOfFile).image.any
            fun picture => picture.source = .remote url)) ∨
    (cell.load = .prepared → item.requestedURL platform = none) ∧
      (cell.configure platform item sizedImageURL contentsOfFile).load = .idle := by
  have hload : (cell.configure platform item sizedImageURL contentsOfFile).load =
    owedLoad platform cell (cell.configureItem platform item sizedImageURL contentsOfFile) item :=
      rfl
  rw [hload, owedLoad]
  cases hrequested : item.requestedURL platform with
  | none => exact Or.inr ⟨fun _ => rfl, by split <;> simp_all⟩
  | some url =>
    cases hprepared : cell.load with
    | prepared => exact Or.inl ⟨rfl, url, rfl, rfl⟩
    | idle | requested => exact Or.inr ⟨by simp, rfl⟩

/-- **A configuration** serves the load it owes exactly when it meets its condition. -/
theorem loadServed_configure_iff (hempty : cell.PreparedEmpty) (item : CellItem)
    (sizedImageURL : URL → URL) (contentsOfFile : String → Option UIImage) :
    (cell.configure platform item sizedImageURL contentsOfFile).LoadServed ↔
      cell.KeepsLoad platform (.configure item sizedImageURL contentsOfFile) := by
  rcases configure_load item sizedImageURL contentsOfFile with
    ⟨hprepared, url, hrequested, hload⟩ | ⟨hnone, hload⟩
  · have hdownload : cell.configureItem platform item sizedImageURL contentsOfFile =
        cell.downloadPhoto platform (sizedImageURL url) url := by
      rcases configureItem_cases item sizedImageURL contentsOfFile with
        ⟨url', hurl, hafter⟩ | ⟨hnone, -⟩
      · obtain rfl : url = url' := Option.some.inj (hrequested.symm.trans hurl)
        exact hafter
      · rw [hrequested] at hnone
        cases hnone
    have hsession : (cell.configure platform item sizedImageURL contentsOfFile).session =
        (cell.downloadPhoto platform (sizedImageURL url) url).session := by
      rw [← hdownload]
      rfl
    rw [hdownload] at hload
    have hkeeps : cell.KeepsLoad platform (.configure item sizedImageURL contentsOfFile) ↔
        cell.imageDownloader.imageDataTask = none := by
      refine ⟨fun h => h hprepared (by simp [hrequested]), fun h _ _ => h⟩
    rw [hkeeps]
    rcases downloadPhoto_cases (sizedImageURL url) url with
      ⟨task, htask, heq⟩ | ⟨image, htask, -, heq⟩ | ⟨htask, -, heq⟩
    · -- Refused: the view stays empty, and no task is younger than the request.
      rw [heq] at hload hsession
      rw [(hempty hprepared).1] at hload
      refine iff_of_false (fun hserved => ?_) (by simp [htask])
      rcases hserved _ _ _ hload with hshown | ⟨i, found, hi, hfind, -⟩
      · cases hshown
      · rw [hsession] at hfind
        exact absurd (TaskTable.lt_nextId_of_find? hfind) (Nat.not_lt.mpr hi)
    · rw [heq] at hload
      refine iff_of_true (fun url' firstTask shown hrequested' => ?_) htask
      rw [hload] at hrequested'
      obtain ⟨rfl, rfl, rfl⟩ := Load.requested.inj hrequested'
      exact Or.inl (by simp)
    · rw [heq] at hsession
      refine iff_of_true (fun url' firstTask shown hrequested' => ?_) htask
      rw [hload] at hrequested'
      obtain ⟨rfl, rfl, -⟩ := Load.requested.inj hrequested'
      refine Or.inr ⟨cell.session.nextId, ⟨⟨sizedImageURL url, url⟩, .running⟩, Nat.le_refl _,
        ?_, rfl, by simp⟩
      rw [hsession, TaskTable.find?_create, if_pos rfl]
  · refine iff_of_true (fun url firstTask shown hrequested => ?_) fun hprepared hrequested => ?_
    · rw [hload] at hrequested
      cases hrequested
    · exact absurd (hnone hprepared) hrequested

/-- **One step**: a view without a dropped load has none after an event exactly when the
event meets its condition. -/
theorem loadServed_step {after : PhotoCell UIImage} {event : CellEvent UIImage}
    (h : cell.LoadServed) (hempty : cell.PreparedEmpty)
    (hstep : (machine platform).step cell event = some after) :
    after.LoadServed ↔ cell.KeepsLoad platform event := by
  cases event with
  | prepareForReuse =>
    obtain rfl := Option.some.inj hstep
    refine iff_of_true (fun url firstTask shown hrequested => ?_) trivial
    cases hrequested
  | configure item sizedImageURL contentsOfFile =>
    obtain rfl := Option.some.inj hstep
    exact loadServed_configure_iff hempty item sizedImageURL contentsOfFile
  | dataTaskDidComplete task result =>
    obtain ⟨request, hrequest, rfl⟩ := Option.map_eq_some_iff.mp hstep
    obtain ⟨status, hstatus, hafter⟩ := dataTaskDidComplete_cases task request result
    have htasks : ∀ i found, cell.session.find? i = some found → found.status ≠ .cancelled →
        ∃ found', (cell.session.settle task status).find? i = some found' ∧
          found'.request = found.request ∧ found'.status ≠ .cancelled := by
      intro i found hfind hnot
      rw [TaskTable.find?_settle, hfind]
      split
      · refine ⟨_, rfl, rfl, ?_⟩
        rintro rfl
        cases hstatus
      · exact ⟨found, rfl, rfl, hnot⟩
    refine iff_of_true ?_ trivial
    rcases hafter with hafter | ⟨image, cache, hafter⟩
    · rw [hafter]
      exact h.of_le rfl htasks
    · rw [hafter]
      exact h.of_le rfl htasks
  | cacheChanges cache =>
    obtain rfl := Option.some.inj hstep
    exact iff_of_true h trivial
  | mainQueue =>
    obtain ⟨picture, rest, -, rfl⟩ := mainQueue_eq_some.mp hstep
    refine iff_of_true ?_ trivial
    unfold completion
    split <;> exact h

theorem preparedEmpty_step {after : PhotoCell UIImage} {event : CellEvent UIImage}
    (h : cell.PreparedEmpty) (hstep : (machine platform).step cell event = some after) :
    after.PreparedEmpty := by
  cases event with
  | prepareForReuse =>
    obtain rfl := Option.some.inj hstep
    exact fun _ => ⟨rfl, rfl⟩
  | configure item sizedImageURL contentsOfFile =>
    obtain rfl := Option.some.inj hstep
    intro hprepared
    rcases configure_load item sizedImageURL contentsOfFile with ⟨-, url, -, hload⟩ | ⟨-, hload⟩
    · rw [hload] at hprepared
      cases hprepared
    · rw [hload] at hprepared
      cases hprepared
  | dataTaskDidComplete task result =>
    obtain ⟨request, -, rfl⟩ := Option.map_eq_some_iff.mp hstep
    obtain ⟨status, -, hafter⟩ := dataTaskDidComplete_cases task request result
    rcases hafter with hafter | ⟨image, cache, hafter⟩
    · rw [hafter]
      exact h
    · rw [hafter]
      exact h
  | cacheChanges cache =>
    obtain rfl := Option.some.inj hstep
    exact h
  | mainQueue =>
    obtain ⟨picture, rest, -, rfl⟩ := mainQueue_eq_some.mp hstep
    unfold completion
    split
    · exact h
    · rename_i hclear
      exact fun hprepared => absurd (h hprepared).2 hclear

/-- **No load is dropped when a view is reused**, along a run from a fresh view, exactly
when every view that is reused for a URL is configured while it has no data task on
its way. -/
theorem loadServed_along_iff (platform : Platform UIImage) (cache : URL → Option Data)
    (events : List (CellEvent UIImage)) :
    (machine platform).Along (fun _ _ after => after.LoadServed) (fresh cache) events ↔
      (machine platform).Along (fun cell event _ => cell.KeepsLoad platform event)
        (fresh cache) events := by
  have hexact : ∀ cell event after, (cell.LoadServed ∧ cell.PreparedEmpty) →
      (machine platform).step cell event = some after →
      (after.LoadServed ↔ cell.KeepsLoad platform event) :=
    fun _ _ _ h hstep => loadServed_step h.1 h.2 hstep
  have hgood : ∀ cell event after, (cell.LoadServed ∧ cell.PreparedEmpty) →
      (machine platform).step cell event = some after → after.LoadServed →
      (after.LoadServed ∧ after.PreparedEmpty) :=
    fun _ _ _ h hstep hserved => ⟨hserved, preparedEmpty_step h.2 hstep⟩
  have hfresh : (fresh cache : PhotoCell UIImage).LoadServed ∧
      (fresh cache : PhotoCell UIImage).PreparedEmpty := by
    refine ⟨fun _ _ _ hrequested => ?_, fun hprepared => ?_⟩
    · cases hrequested
    · cases hprepared
  exact Machine.along_iff_of_exact hexact hgood hfresh events

/-- A view reused before the handler of its cancelled task has run. -/
theorem reused_view_drops_load :
    ¬ (machine rawPlatform).Along (fun _ _ after => after.LoadServed) (fresh fun _ => none)
      [.configure (.ofPhoto (photoAt "a")) id fun _ => none, .prepareForReuse,
        .configure (.ofPhoto (photoAt "b")) id fun _ => none] := by
  intro h
  have hserved := (((h _ rfl).2 _ rfl).2 _ rfl).1
  rcases hserved _ _ _ rfl with hshown | ⟨i, task, hi, hfind, -⟩
  · cases hshown
  · exact absurd (TaskTable.lt_nextId_of_find? hfind) (Nat.not_lt.mpr hi)

end PhotoCell

end ImSplash
