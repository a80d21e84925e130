import ImSplash.Fetching
import ImSplash.HomePrefix
import ImSplash.RequestQueue

/-!
# Is the Home screen served?

That the grid is a prefix of the collection rests on what a request of the Home screen brings
when it completes: an error, the page it was made for, or nothing after it was cancelled.  Its
requests do bring that.  What is here is what holds of one of them through its life, cancelled
or not, and of the data source while the Home screen goes on: the pages it asks for are pages
of the list.
-/

namespace ImSplash
open Runs

namespace NetworkRequest
variable {coding : JSONCoding} {request : NetworkRequest}

/-- A request for a collection, which may be cancelled at any time: without an error it finishes
with the photos it was answered with, or cancelled and with nothing. -/
structure Honest (coding : JSONCoding) (request : NetworkRequest) : Prop where
  kind : request.kind = .getCollectionPhotos
  fresh : request.started = false → request.isFinished = false ∧ request.awaitsResponse = false ∧
    request.received = none
  waiting : request.awaitsResponse = true → request.started = true ∧ request.isFinished = false
  unfinished : request.isFinished = false → request.error = none ∧ request.items = []
  finished : request.isFinished = true → request.error = none →
    (∃ photos, request.Answered coding photos ∧ request.items = photos.map some) ∨
      (request.isCancelled = true ∧ request.items = [])

theorem honest_new : Honest coding { kind := .getCollectionPhotos } where
  kind := rfl
  fresh _ := ⟨rfl, rfl, rfl⟩
  waiting hawaits := by cases hawaits
  unfinished _ := ⟨rfl, rfl⟩
  finished hfinished := by cases hfinished

theorem Honest.cancel (h : request.Honest coding) : request.cancel.Honest coding := by
  refine ⟨h.kind, h.fresh, h.waiting, h.unfinished, fun hfinished herror => ?_⟩
  refine (h.finished hfinished herror).imp_right fun ⟨hcancelled, hitems⟩ => ⟨?_, hitems⟩
  show (request.isCancelled || _) = true
  rw [hcancelled, Bool.true_or]

/-- A request with an error has finished. -/
theorem honest_completeWithError (request : NetworkRequest)
    (hkind : request.kind = .getCollectionPhotos)
    (hstarted : request.started = true) (hawaits : request.awaitsResponse = false)
    (error : RequestError) : (request.completeWithError error).Honest coding where
  kind := hkind
  fresh hfresh := absurd (hfresh.symm.trans hstarted) Bool.false_ne_true
  waiting hwaits := absurd (hawaits.symm.trans hwaits) Bool.false_ne_true
  unfinished hunfinished := by cases hunfinished
  finished _ herror := by cases herror

/-- Started, a request is cancelled only if it was, or has an error. -/
theorem Honest.start (h : request.Honest coding) (hstarted : request.started = false)
    (prepared : Bool) : (request.start false prepared).Honest coding ∧
      ((request.start false prepared).isCancelled = true →
        (request.start false prepared).error = none → request.isCancelled = true) := by
  obtain ⟨hunfinished, hawaits, hreceived⟩ := h.fresh hstarted
  obtain ⟨herror, hitems⟩ := h.unfinished hunfinished
  rcases request.start_cases false prepared with ⟨hcancelled, heq⟩ | ⟨hnot, heq⟩
  · rw [Bool.or_false] at hcancelled
    rw [heq]
    refine ⟨⟨h.kind, fun hfresh => (by cases hfresh), fun hwaits => ?_, fun hno => (by cases hno),
      fun _ _ => .inr ⟨?_, hitems⟩⟩, fun _ _ => hcancelled⟩
    · exact absurd (hawaits.symm.trans hwaits) Bool.false_ne_true
    · show (request.isCancelled || _) = true
      rw [hcancelled, Bool.true_or]
  · rw [heq]
    cases prepared with
    | false =>
      exact ⟨honest_completeWithError ({ request with started := true }.setIsExecuting true)
        h.kind rfl hawaits .invalidURL, fun _ hno => by cases hno⟩
    | true =>
      refine ⟨⟨h.kind, fun hfresh => (by cases hfresh), fun _ => ⟨rfl, hunfinished⟩,
        fun _ => ⟨herror, hitems⟩, fun hfinished => ?_⟩, fun hcancelled _ => hcancelled⟩
      exact absurd (hunfinished.symm.trans hfinished) Bool.false_ne_true

/-- A response is read, or leaves an error. -/
theorem Honest.response (h : request.Honest coding) (hawaits : request.awaitsResponse = true)
    {outcome : TaskOutcome} {after : NetworkRequest}
    (hafter : (request.receive outcome).processResponse coding outcome.response outcome.data
      outcome.error = after) :
    after.Honest coding ∧
      (after.isCancelled = true → after.error = none → request.isCancelled = true) := by
  obtain ⟨hstarted, hunfinished⟩ := h.waiting hawaits
  obtain ⟨herror, hitems⟩ := h.unfinished hunfinished
  have hprocessed : Processed coding (request.receive outcome) outcome after := by
    rw [← hafter]
    exact processed (by exact herror) outcome
  cases hprocessed with
  | failed error | malformed error =>
    exact ⟨honest_completeWithError (request.receive outcome) h.kind hstarted rfl error,
      fun _ hno => by cases hno⟩
  | undecodable base error hbase =>
    refine ⟨honest_completeWithError (base.setError error) ?_ ?_ ?_ error,
      fun _ hno => by cases hno⟩
    all_goals rcases hbase with rfl | ⟨json, rfl⟩
    · exact h.kind
    · exact h.kind
    · exact hstarted
    · exact hstarted
    · rfl
    · rfl
  | absent =>
    refine ⟨⟨h.kind, fun hfresh => ?_, fun hwaits => (by cases hwaits),
      fun _ => ⟨herror, hitems⟩, fun hfinished => ?_⟩, fun hcancelled _ => hcancelled⟩
    · exact absurd (hfresh.symm.trans hstarted) Bool.false_ne_true
    · exact absurd (hunfinished.symm.trans hfinished) Bool.false_ne_true
  | noResults json hsuccess hdata hresults => cases h.kind.symm.trans hresults.1
  | search json hkind => cases h.kind.symm.trans hkind
  | collection json hkind hsuccess hdata hphotos =>
    refine ⟨⟨h.kind, fun hfresh => ?_, fun hwaits => (by cases hwaits), fun hno => (by cases hno),
      fun _ _ => .inl ⟨_, ⟨outcome, _, rfl, hsuccess, hdata, hphotos⟩, rfl⟩⟩,
      fun hcancelled _ => hcancelled⟩
    exact absurd (hfresh.symm.trans hstarted) Bool.false_ne_true
  | collectionNoJSON =>
    exact ⟨honest_completeWithError (((request.receive outcome).setItems _).completeOperation)
      h.kind hstarted rfl _, fun _ hno => by cases hno⟩

end NetworkRequest

/-! ### The data source of the Home screen -/

/-- The cursor is at a page that the list reaches. -/
structure Cursor.Within (L : List UnsplashPhoto) (cursor : Cursor) : Prop where
  perPage : cursor.perPage = 30
  page : 0 < cursor.page
  reached : (cursor.page - 1) * 30 ≤ L.length

namespace PagedDataSource
variable {dataSource after : PagedDataSource} {L : List UnsplashPhoto}

/-- The data source asks, and has asked, for pages that the list reaches. -/
structure AsksWithin (L : List UnsplashPhoto) (dataSource : PagedDataSource) : Prop where
  cursor : dataSource.cursor.Within L
  operations : ∀ {i task}, dataSource.operationQueue.find? i = some task →
    task.request.cursor.Within L

theorem within_initialCursor (factory : PhotosDataSourceFactory) :
    factory.initialCursor.Within L := by
  refine ⟨initialCursor_perPage factory, ?_, ?_⟩
  · rw [initialCursor_page]
    exact Nat.one_pos
  · rw [initialCursor_page, Nat.sub_self, Nat.zero_mul]
    exact Nat.zero_le _

/-- The one data source after the other: what holds of its requests goes on. -/
structure Continues (L : List UnsplashPhoto) (dataSource after : PagedDataSource) : Prop where
  factory : after.factory = dataSource.factory
  asks : dataSource.AsksWithin L → after.AsksWithin L
  goesOn : dataSource.operationQueue.GoesOn after.operationQueue

theorem Continues.refl (L : List UnsplashPhoto) (dataSource : PagedDataSource) :
    dataSource.Continues L dataSource :=
  ⟨rfl, id, .refl _⟩

theorem Continues.trans {after' : PagedDataSource} (h : dataSource.Continues L after)
    (h' : after.Continues L after') : dataSource.Continues L after' :=
  ⟨h'.factory.trans h.factory, fun hasks => h'.asks (h.asks hasks), h.goesOn.trans h'.goesOn⟩

theorem continues_reset (L : List UnsplashPhoto) (dataSource : PagedDataSource) :
    dataSource.Continues L dataSource.reset := by
  refine ⟨rfl, fun h => ⟨within_initialCursor _, fun {i task} hfind => ?_⟩,
    TaskTable.goesOn_cancelAll _⟩
  obtain ⟨old, hold, hrequest, -⟩ := (TaskTable.goesOn_cancelAll _).task
    (TaskTable.nextId_cancelAll ▸ TaskTable.lt_nextId_of_find? hfind) hfind
  rw [hrequest]
  exact h.operations hold

theorem continues_fetchNextPage (L : List UnsplashPhoto) (dataSource : PagedDataSource) :
    dataSource.Continues L dataSource.fetchNextPage.1 := by
  rcases dataSource.fetchNextPage_cases with ⟨-, heq⟩ | ⟨-, -, heq⟩ | ⟨-, -, heq⟩
  · rw [heq]
    exact ⟨rfl, fun h => ⟨h.cursor, h.operations⟩, .refl _⟩
  · rw [heq]
    exact ⟨rfl, fun h => ⟨h.cursor, h.operations⟩, .refl _⟩
  · rw [heq]
    refine ⟨rfl, fun h => ⟨h.cursor, fun {i task} hfind => ?_⟩, TaskTable.goesOn_create _ _⟩
    have hfind := (TaskTable.find?_create _ i).symm.trans hfind
    split at hfind
    · obtain rfl := Option.some.inj hfind
      refine ⟨?_, ?_, ?_⟩
      · rw [request_perPage, h.cursor.perPage]
      · rw [request_page]
        exact h.cursor.page
      · rw [request_page]
        exact h.cursor.reached
    · exact h.operations hfind

/-- With a full page the list reaches the next one. -/
theorem continues_completionBlock {request : TaskId} {operation : UnsplashPagedRequest}
    {result : RequestResult} {status : TaskStatus} (hstatus : status ≠ .running)
    (hfind : dataSource.operationQueue.Outstanding request operation)
    (hserved : ∀ items, result.error = none → result.photos = some items → items = [] ∨
      items = Paging.page L 30 (operation.cursor.page - 1)) :
    dataSource.Continues L ({ dataSource with
      operationQueue := dataSource.operationQueue.settle request status }.completionBlock
        operation result).1 := by
  have hgoesOn := TaskTable.goesOn_settle dataSource.operationQueue request hstatus
  have hoperations : dataSource.AsksWithin L → ∀ {i task},
      (dataSource.operationQueue.settle request status).find? i = some task →
        task.request.cursor.Within L := by
    intro h i task htask
    have hlt := TaskTable.lt_nextId_of_find? htask
    have hnext : (dataSource.operationQueue.settle request status).nextId =
        dataSource.operationQueue.nextId := by
      simp [TaskTable.nextId, TaskTable.settle]
    obtain ⟨old, hold, hrequest, -⟩ := hgoesOn.task (hnext ▸ hlt) htask
    rw [hrequest]
    exact h.operations hold
  rcases completionBlock_cases operation result with ⟨-, error, heq⟩ | ⟨items, herror, hphotos, heq⟩
  · rw [heq]
    exact ⟨rfl, fun h => ⟨h.cursor, hoperations h⟩, hgoesOn⟩
  · rw [heq]
    refine ⟨rfl, fun h => ⟨?_, hoperations h⟩, hgoesOn⟩
    show Cursor.Within L (if items.length < dataSource.cursor.perPage then dataSource.cursor
      else operation.nextCursor)
    rw [h.cursor.perPage]
    split
    · exact h.cursor
    · rename_i hfull
      obtain ⟨task, htask, rfl, -⟩ := hfind
      obtain ⟨hperPage, hpage, -⟩ := h.operations htask
      refine ⟨hperPage, Nat.succ_pos _, ?_⟩
      have hitems := (hserved items herror hphotos).resolve_left fun hnil =>
        hfull (hnil ▸ Nat.succ_pos 29)
      rw [hitems, Paging.length_page_lt_iff, Nat.sub_add_cancel hpage] at hfull
      exact Nat.le_of_not_lt hfull

end PagedDataSource

namespace HomeScreen
variable {screen after : HomeScreen} {L : List UnsplashPhoto}

/-- What is served are no photos, or a page of the list. -/
theorem ServedFrom.items_eq {request : TaskId} {result : RequestResult}
    (h : screen.ServedFrom L (.requestDidComplete request result))
    {operation : UnsplashPagedRequest}
    (houtstanding : screen.dataSource.operationQueue.Outstanding request operation)
    {items : List UnsplashPhoto} (herror : result.error = none)
    (hphotos : result.photos = some items) :
    items = [] ∨ items = Paging.page L 30 (operation.cursor.page - 1) := by
  rcases h request result operation rfl houtstanding with hfails | hpage | ⟨-, hnone⟩
  · exact absurd herror hfails
  · right
    rw [RequestResult.photos, hpage] at hphotos
    exact Option.some.inj (hphotos.symm.trans (RequestResult.photos_map_some none _))
  · left
    rw [RequestResult.photos, hnone] at hphotos
    exact (Option.some.inj hphotos).symm

/-- Whatever the screen does, its data source continues, if what completes is served. -/
theorem continues_step {event : HomeEvent} (hserved : screen.ServedFrom L event)
    (hstep : machine.step screen event = some after) :
    screen.dataSource.Continues L after.dataSource := by
  cases event with
  | viewWillAppear =>
    obtain rfl := Option.some.inj hstep
    rcases screen.viewWillAppear_cases with heq | ⟨-, heq⟩
    · rw [heq]
      exact .refl _ _
    · rw [heq, (fetchNextItems_cases _).1]
      exact (PagedDataSource.continues_reset L _).trans
        (PagedDataSource.continues_fetchNextPage L _)
  | willDisplay item =>
    obtain rfl := Option.some.inj hstep
    rcases screen.willDisplay_cases item with heq | ⟨-, heq⟩
    · rw [heq]
      exact .refl _ _
    · rw [heq, screen.fetchNextItems_cases.1]
      exact PagedDataSource.continues_fetchNextPage L _
  | requestDidComplete request result =>
    obtain ⟨operation, status, houtstanding, hstatus, hsource, -⟩ :=
      screen.requestDidComplete_cases hstep
    rw [hsource]
    refine PagedDataSource.continues_completionBlock ?_ houtstanding fun _ => ?_
    · rintro rfl
      cases hstatus
    · exact hserved.items_eq houtstanding
  | mainQueue =>
    rw [(screen.mainQueue_keeps hstep).2]
    exact .refl _ _

/-- What is served is of the list, and so is what is shown. -/
theorem photos_subset_step {event : HomeEvent} (hserved : screen.ServedFrom L event)
    (hstep : machine.step screen event = some after) (h : screen.view.photos ⊆ L) :
    after.view.photos ⊆ L := by
  cases event with
  | viewWillAppear =>
    obtain rfl := Option.some.inj hstep
    rcases screen.viewWillAppear_cases with heq | ⟨-, heq⟩
    · rwa [heq]
    · rw [heq, fetchNextItems_photos]
      exact h
  | willDisplay item =>
    obtain rfl := Option.some.inj hstep
    rcases screen.willDisplay_cases item with heq | ⟨-, heq⟩
    · rwa [heq]
    · rwa [heq, fetchNextItems_photos]
  | requestDidComplete request result =>
    obtain ⟨operation, status, houtstanding, -, -, ⟨-, -, hgrid⟩ |
      ⟨items, herror, hphotos, -, -, -, hgrid⟩⟩ := screen.requestDidComplete_cases hstep
    · have hsame : after.view.photos = screen.view.photos := congrArg HomeGrid.photos hgrid
      rwa [hsame]
    · have happended : after.view.photos = screen.view.photos ++ items :=
        congrArg HomeGrid.photos hgrid
      rw [happended, List.append_subset]
      refine ⟨h, ?_⟩
      rcases hserved.items_eq houtstanding herror hphotos with rfl | rfl
      · exact List.nil_subset L
      · exact List.Subset.trans (List.take_subset _ _) (List.drop_subset _ _)
  | mainQueue =>
    rw [(screen.mainQueue_keeps hstep).1]
    exact h

end HomeScreen

end ImSplash
