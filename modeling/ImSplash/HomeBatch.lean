import ImSplash.HomeScreen

/-!
# Are the insertions of the Home grid consistent?

`updateWithResult` appends to `photos` at once and fixes the index paths of the
insertion; the block that inserts runs later.  The insertion is consistent if the
collection view knows, when the block runs, exactly the photos before those paths.

A prefetch begins 19 items before the end and a page that is not the last has 30, so no
item that is known starts the next fetch while an update of a full page waits.  A
refresh can: with a request in flight, or an update still queued, the requests before
and after the reset overlap, and a reload makes known what a later block inserts.
-/

namespace ImSplash
open Runs

/-- The updates, run in turn, take the collection view from `known` items to `count`,
and every insertion has exactly the items that are missing when its turn comes. -/
def Settles (count : Nat) : Nat → List (Bool × List Nat) → Prop
  | known, [] => known = count
  | known, (true, newIndexPaths) :: updates =>
    newIndexPaths = List.range' known (count - known) ∧ known ≤ count ∧
      Settles count count updates
  | _, (false, _) :: updates => Settles count count updates

/-- An insertion of nothing may follow. -/
theorem Settles.append_empty {count known : Nat} {updates : List (Bool × List Nat)}
    (h : Settles count known updates) (needInsert : Bool) :
    Settles count known (updates ++ [(needInsert, [])]) := by
  induction updates generalizing known with
  | nil =>
    obtain rfl : known = count := h
    cases needInsert with
    | false => exact rfl
    | true => exact ⟨by simp, Nat.le_refl _, rfl⟩
  | cons update updates ih =>
    obtain ⟨inserts, newIndexPaths⟩ := update
    cases inserts with
    | false => exact ih h
    | true => exact ⟨h.1, h.2.1, ih h.2.2⟩

/-- The first page that comes after everything is known. -/
theorem settles_singleton (known added : Nat) (needInsert : Bool) :
    Settles (known + added) known [(needInsert, List.range' known added)] := by
  cases needInsert with
  | false => exact rfl
  | true => exact ⟨by rw [Nat.add_sub_cancel_left], Nat.le_add_right _ _, rfl⟩

/-- The updates that wait settle the grid, none waits while a request is in flight, and
while one waits no known item asks for a further page. -/
structure Batched (grid : HomeGrid) (dataSource : PagedDataSource) : Prop where
  oneRequest : dataSource.OneRequest
  settles : Settles grid.photos.length grid.itemCount grid.updates
  fetching : dataSource.isFetching = true → grid.updates = []
  waiting : grid.updates ≠ [] → dataSource.canFetchMore = false ∨
    grid.updates.length = 1 ∧ grid.itemCount + 19 ≤ grid.photos.length

namespace HomeScreen

/-- An insertion block has exactly the index paths from the known count up to the
number of photos. -/
def InsertsConsistent (screen : HomeScreen) (event : HomeEvent) : Prop :=
  ∀ newIndexPaths rest, event = .mainQueue →
    screen.view.mainQueue = .update true newIndexPaths :: rest →
      newIndexPaths = List.range' screen.view.itemCount
        (screen.view.photos.length - screen.view.itemCount) ∧
      screen.view.itemCount + newIndexPaths.length = screen.view.photos.length

/-- The collection view displays only items it knows. -/
def DisplaysKnown (screen : HomeScreen) (event : HomeEvent) : Prop :=
  ∀ item, event = .willDisplay item → item < screen.view.itemCount

/-- A screen without photos appears with no request in flight and no update queued. -/
def AppearsSettled (screen : HomeScreen) (event : HomeEvent) : Prop :=
  event = .viewWillAppear → screen.view.photos = [] →
    screen.dataSource.operationQueue.Quiet ∧ screen.view.grid.updates = []

variable {screen after : HomeScreen}

/-- The invariant, of the screen. -/
def GridBatched (screen : HomeScreen) : Prop := Batched screen.view.grid screen.dataSource

theorem gridBatched_launch (factory : PhotosDataSourceFactory) :
    (launch factory).GridBatched := by
  refine ⟨PagedDataSource.oneRequest_new factory, rfl, fun _ => rfl, fun hwaiting => ?_⟩
  exact absurd rfl hwaiting

/-- While no update waits, or there is no further page, fetching keeps the invariant. -/
theorem GridBatched.fetchNextItems (h : screen.GridBatched)
    (hready : screen.dataSource.canFetchMore = true → screen.view.grid.updates = []) :
    screen.fetchNextItems.GridBatched := by
  obtain ⟨hdataSource, hgrid⟩ := screen.fetchNextItems_cases
  have hone : screen.fetchNextItems.dataSource.OneRequest :=
    hdataSource ▸ h.oneRequest.fetchNextPage
  have hcanFetchMore : screen.fetchNextItems.dataSource.canFetchMore =
      screen.dataSource.canFetchMore := by
    rw [hdataSource, PagedDataSource.fetchNextPage_canFetchMore]
  rcases hgrid with ⟨hbusy, hgrid⟩ | ⟨hidle, hlast, hgrid⟩ | ⟨hidle, hmore, hgrid⟩
  · refine ⟨hone, ?_, fun _ => ?_, ?_⟩
    · rw [hgrid]
      exact h.settles
    · rw [hgrid]
      exact h.fetching hbusy
    · rw [hgrid, hcanFetchMore]
      exact h.waiting
  · -- After the last page an empty one is appended.
    have hstays : screen.fetchNextItems.dataSource.isFetching = false := by
      rw [hdataSource, PagedDataSource.fetchNextPage_of_last hidle hlast]
      exact hidle
    refine ⟨hone, ?_, fun hfetching => ?_, fun _ => Or.inl (hcanFetchMore.trans hlast)⟩
    · rw [hgrid]
      have hempty := h.settles.append_empty (decide (0 < screen.view.grid.photos.length))
      simpa [HomeGrid.append] using hempty
    · rw [hstays] at hfetching
      cases hfetching
  · refine ⟨hone, ?_, fun _ => ?_, ?_⟩
    · rw [hgrid]
      exact h.settles
    · rw [hgrid]
      exact hready hmore
    · rw [hgrid]
      exact fun hwaiting => absurd (hready hmore) hwaiting

/-- A refresh with nothing in flight starts over. -/
theorem gridBatched_refresh (hquiet : screen.dataSource.operationQueue.Quiet)
    (hupdates : screen.view.grid.updates = []) :
    GridBatched { screen with
      dataSource := screen.dataSource.reset, view := screen.view.reloadData } := by
  refine ⟨.reset hquiet, ?_, fun _ => hupdates, fun hwaiting => absurd hupdates hwaiting⟩
  show Settles screen.view.photos.length screen.view.photos.length screen.view.grid.updates
  rw [hupdates]
  rfl

/-- A completion finds no update waiting, and queues at most that of its own page. -/
theorem GridBatched.requestDidComplete (h : screen.GridBatched) {request : TaskId}
    {result : RequestResult}
    (hstep : machine.step screen (.requestDidComplete request result) = some after) :
    after.GridBatched := by
  obtain ⟨operation, status, houtstanding, hstatus, hdataSource, hresult⟩ :=
    screen.requestDidComplete_cases hstep
  have hone : after.dataSource.OneRequest :=
    hdataSource ▸ h.oneRequest.completionBlock houtstanding hstatus result
  -- A request was in flight, so everything that came before it is known.
  have hupdates : screen.view.grid.updates = [] :=
    h.fetching (h.oneRequest.isFetching houtstanding)
  have hknown : screen.view.grid.itemCount = screen.view.grid.photos.length := by
    have hsettles := h.settles
    rw [hupdates] at hsettles
    exact hsettles
  rcases hresult with ⟨-, ⟨error, hfailed⟩, hgrid⟩ |
    ⟨items, -, -, hidle, hmore, -, hgrid⟩
  · refine ⟨hone, ?_, fun _ => ?_, fun hwaiting => ?_⟩
    · rw [hgrid]
      exact h.settles
    · rw [hgrid]
      exact hupdates
    · rw [hgrid] at hwaiting
      exact absurd hupdates hwaiting
  · refine ⟨hone, ?_, fun hfetching => ?_, fun _ => ?_⟩
    · rw [hgrid]
      show Settles (screen.view.grid.photos ++ items).length screen.view.grid.itemCount
        (screen.view.grid.updates ++ [_])
      rw [hupdates, hknown, List.length_append]
      exact settles_singleton _ _ _
    · rw [hidle] at hfetching
      cases hfetching
    · -- A page of fewer than 30 photos is the last; 30 are more than the prefetch distance.
      rw [h.oneRequest.perPage.1] at hmore
      by_cases hshort : items.length < 30
      · exact Or.inl (by simp [hmore, hshort])
      · refine Or.inr ?_
        rw [hgrid]
        simp only [HomeGrid.append, hupdates, hknown, List.length_append, List.nil_append,
          List.length_singleton, true_and]
        omega

/-- A block that runs leaves what the later ones settle. -/
theorem GridBatched.mainQueue (h : screen.GridBatched)
    (hstep : machine.step screen .mainQueue = some after) : after.GridBatched := by
  obtain ⟨-, hdataSource⟩ := screen.mainQueue_keeps hstep
  rw [GridBatched, hdataSource]
  rcases screen.mainQueue_grid hstep with
    hgrid | ⟨needInsert, newIndexPaths, updates, hfirst, hgrid⟩
  · rw [hgrid]
    exact h
  · have hsettles := h.settles
    rw [hfirst] at hsettles
    refine ⟨h.oneRequest, ?_, fun hfetching => ?_, fun hwaiting => ?_⟩
    · rw [hgrid]
      cases needInsert with
      | false => exact hsettles
      | true =>
        obtain ⟨hpaths, hle, hrest⟩ := hsettles
        have hcount : screen.view.itemCount + newIndexPaths.length = screen.view.photos.length := by
          rw [hpaths, List.length_range']
          exact Nat.add_sub_cancel' hle
        show Settles _ (screen.view.itemCount + newIndexPaths.length) updates
        rw [hcount]
        exact hrest
    · have hnone := h.fetching hfetching
      rw [hfirst] at hnone
      cases hnone
    · -- An update that still waits is not the only one, so the last page has come.
      rw [hgrid] at hwaiting
      rcases h.waiting (by rw [hfirst]; simp) with hlast | ⟨hone, -⟩
      · exact Or.inl hlast
      · rw [hfirst, List.length_cons] at hone
        exact absurd (List.length_eq_zero_iff.mp (Nat.succ.inj hone)) hwaiting

/-- The steps of a screen that appears settled keep the invariant. -/
theorem gridBatched_step {event : HomeEvent} (h : screen.GridBatched)
    (hstep : machine.step screen event = some after) (hknown : screen.DisplaysKnown event)
    (hsettled : screen.AppearsSettled event) : after.GridBatched := by
  cases event with
  | viewWillAppear =>
    obtain rfl := Option.some.inj hstep
    rcases screen.viewWillAppear_cases with hsame | ⟨hphotos, hrefresh⟩
    · rw [hsame]
      exact h
    · obtain ⟨hquiet, hupdates⟩ := hsettled rfl hphotos
      rw [hrefresh]
      exact (gridBatched_refresh hquiet hupdates).fetchNextItems fun _ => hupdates
  | willDisplay item =>
    obtain rfl := Option.some.inj hstep
    rcases screen.willDisplay_cases item with hsame | ⟨hprefetch, hfetch⟩
    · rw [hsame]
      exact h
    · rw [hfetch]
      refine h.fetchNextItems fun hmore => ?_
      -- The item is known and 19 before the end, so no full page waits.
      refine Decidable.byContradiction fun hwaiting => ?_
      rcases h.waiting hwaiting with hlast | ⟨-, hfar⟩
      · rw [hmore] at hlast
        cases hlast
      · have hitem : item < screen.view.grid.itemCount := hknown item rfl
        have hcount : item + 19 = screen.view.grid.photos.length := hprefetch
        omega
  | requestDidComplete request result => exact h.requestDidComplete hstep
  | mainQueue => exact h.mainQueue hstep

theorem GridBatched.insertsConsistent (h : screen.GridBatched) (event : HomeEvent) :
    screen.InsertsConsistent event := by
  intro newIndexPaths rest hevent hqueue
  have hsettles := h.settles
  have hfirst : screen.view.grid.updates =
      (true, newIndexPaths) :: rest.filterMap HomeBlock.update? :=
    congrArg (List.filterMap HomeBlock.update?) hqueue
  rw [hfirst] at hsettles
  obtain ⟨hpaths, hle, -⟩ := hsettles
  refine ⟨hpaths, ?_⟩
  rw [hpaths, List.length_range']
  exact Nat.add_sub_cancel' hle

/-- **Every batch insertion is consistent**, along every run from launch in which the
collection view displays what it knows and the screen, while it has no photos, appears
only with no request in flight and no update queued. -/
theorem insertsConsistent_along (factory : PhotosDataSourceFactory) (events : List HomeEvent)
    (hknown : machine.Along (fun screen event _ => screen.DisplaysKnown event)
      (launch factory) events)
    (hsettled : machine.Along (fun screen event _ => screen.AppearsSettled event)
      (launch factory) events) :
    machine.Along (fun screen event _ => screen.InsertsConsistent event)
      (launch factory) events := by
  have hkeeps : ∀ screen event after, GridBatched screen →
      machine.step screen event = some after →
        screen.DisplaysKnown event ∧ screen.AppearsSettled event →
          after.GridBatched ∧ screen.InsertsConsistent event := by
    intro screen event after h hstep ⟨hknown, hsettled⟩
    exact ⟨gridBatched_step h hstep hknown hsettled, h.insertsConsistent event⟩
  exact Machine.along_of_invariant hkeeps (gridBatched_launch factory) (hknown.and hsettled)

/-- A full page of the collection. -/
def fullPage : RequestResult := ⟨none, List.replicate 30 (some (photoAt "p"))⟩

/-- A full page is reloaded, and the last photo after it inserted. -/
theorem insertsConsistent_along_two_pages :
    machine.Along (fun screen event _ => screen.InsertsConsistent event)
      (launch (.collection "317099"))
      [.viewWillAppear, .requestDidComplete 0 fullPage, .mainQueue, .mainQueue, .mainQueue,
        .willDisplay 11, .requestDidComplete 1 ⟨none, [some (photoAt "q")]⟩, .mainQueue,
        .mainQueue] := by
  refine insertsConsistent_along _ _ ?_ ?_
  · iterate 5
      rintro _ ⟨⟩
      refine ⟨fun _ hevent => (by cases hevent), ?_⟩
    rintro _ ⟨⟩
    refine ⟨?_, ?_⟩
    · rintro _ ⟨⟩
      decide
    · iterate 3
        rintro _ ⟨⟩
        refine ⟨fun _ hevent => (by cases hevent), ?_⟩
      trivial
  · rintro _ ⟨⟩
    refine ⟨fun _ _ => ⟨?_, rfl⟩, ?_⟩
    · rintro _ _ ⟨_, ⟨⟩, -⟩
    · iterate 8
        rintro _ ⟨⟩
        refine ⟨fun hevent => (by cases hevent), ?_⟩
      trivial

/-- Two appearances ask for the first page twice; the first answer lets the next page be
asked for.  The reload after the second answer finds the third one appended too, and the
insertion comes after. -/
theorem second_appearance_inserts_twice :
    ∃ events, machine.Along (fun screen event _ => screen.DisplaysKnown event)
        (launch (.collection "317099")) events ∧
      ¬ machine.Along (fun screen event _ => screen.InsertsConsistent event)
        (launch (.collection "317099")) events := by
  refine ⟨[.viewWillAppear, .viewWillAppear, .requestDidComplete 0 fullPage,
    .mainQueue, .mainQueue, .mainQueue, .mainQueue, .willDisplay 11,
    .requestDidComplete 1 fullPage, .requestDidComplete 2 fullPage,
    .mainQueue, .mainQueue, .mainQueue, .mainQueue], ?_, ?_⟩
  · iterate 7
      rintro _ ⟨⟩
      refine ⟨fun _ hevent => (by cases hevent), ?_⟩
    rintro _ ⟨⟩
    refine ⟨?_, ?_⟩
    · rintro _ ⟨⟩
      decide
    · iterate 6
        rintro _ ⟨⟩
        refine ⟨fun _ hevent => (by cases hevent), ?_⟩
      trivial
  · intro h
    iterate 13 replace h := (h _ rfl).2
    obtain ⟨-, hcount⟩ := (h _ rfl).1 _ _ rfl rfl
    exact absurd hcount (by decide)

end HomeScreen

end ImSplash
