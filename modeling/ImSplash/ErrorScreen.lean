import ImSplash.HomeScreen

/-!
# Is the error screen shown for errors only?

A fetch that comes while another is in flight is refused by the data source with an error
of its own, which takes the way of a failed request: through the delegate and the
interactor to `showErrorState`.  The collection view displays a cell as often as it likes,
so scrolling back and forth over the prefetch cell is enough.
-/

namespace ImSplash
open Runs

/-- A request is in flight that has not been cancelled. -/
def PagedDataSource.InFlight (dataSource : PagedDataSource) : Prop :=
  ∃ request operation, dataSource.operationQueue.Running request operation

theorem PagedDataSource.not_inFlight_reset (dataSource : PagedDataSource) :
    ¬ dataSource.reset.InFlight := by
  rintro ⟨request, operation, hrunning⟩
  exact TaskTable.not_running_cancelAll hrunning

namespace HomeScreen
variable (screen : HomeScreen)

/-- The screen as it calls `fetchNextItems`, when the event makes it do so. -/
def fetchIssued : HomeEvent → Option HomeScreen
  | .viewWillAppear =>
    if screen.view.photos.isEmpty && !screen.view.isFetching then
      some { screen with dataSource := screen.dataSource.reset, view := screen.view.reloadData }
    else none
  | .willDisplay item => if item + 19 = screen.view.photos.length then some screen else none
  | .requestDidComplete .. | .mainQueue => none

/-- What the data source is called for in an event, if it is: the screen at the call, the
data source after it, and the calls to its delegate. -/
def dataSourceCall (event : HomeEvent) :
    Option (HomeScreen × PagedDataSource × List PagedDataSourceDelegate) :=
  match event with
  | .requestDidComplete request result =>
    (screen.dataSource.requestDidComplete request result).map fun called => (screen, called)
  | event =>
    (screen.fetchIssued event).map fun issued => (issued, issued.dataSource.fetchNextPage)

/-- `showErrorState` is called: the interactor does so when a fetch has failed. -/
def ShowsErrorState (event : HomeEvent) : Prop :=
  ∃ issued dataSource calls error, screen.dataSourceCall event = some (issued, dataSource, calls) ∧
    .fetchDidFailWithError error ∈ calls

/-- The error state is shown for a request that completed with an error, and a fetch that
is issued with a request in flight changes neither the error nor the screen. -/
structure ErrorIsReal (event : HomeEvent) (after : HomeScreen) : Prop where
  shown : screen.ShowsErrorState event → ∃ request result,
    event = .requestDidComplete request result ∧ result.error ≠ none
  redundant : ∀ issued, screen.fetchIssued event = some issued → issued.dataSource.InFlight →
    after.dataSource.error = issued.dataSource.error ∧ after.view = issued.view

/-- The prefetch cell is displayed with no fetch in progress; should a request be in flight
all the same, there are items and more to come.  A request that completes without an error
brings photos. -/
structure NoRedundantFetch (event : HomeEvent) : Prop where
  prefetch : ∀ item, event = .willDisplay item → item + 19 = screen.view.photos.length →
    screen.dataSource.isFetching = false ∧ (screen.dataSource.InFlight →
      screen.dataSource.canFetchMore = true ∧ screen.dataSource.items ≠ [])
  photos : ∀ request result, event = .requestDidComplete request result →
    result.error = none → result.photos ≠ none

variable {screen}

theorem viewWillAppear_fetchIssued : screen.viewWillAppear =
    match screen.fetchIssued .viewWillAppear with
    | some issued => issued.fetchNextItems
    | none => screen := by
  by_cases hphotos : screen.view.photos = []
  · rcases Bool.eq_false_or_eq_true screen.view.isFetching with hfetching | hidle
    · simp [fetchIssued, viewWillAppear, refresh, hphotos, hfetching]
    · simp [fetchIssued, viewWillAppear, refresh, hphotos, hidle]
  · simp [fetchIssued, viewWillAppear, hphotos]

theorem willDisplay_fetchIssued (item : Nat) : screen.willDisplay item =
    match screen.fetchIssued (.willDisplay item) with
    | some issued => issued.fetchNextItems
    | none => screen := by
  by_cases h : item + 19 = screen.view.photos.length
  · have hitem : (item : Int) = screen.view.photos.length - 19 := by omega
    simp only [fetchIssued, if_pos h, willDisplay, if_pos hitem]
  · have hitem : ¬ (item : Int) = screen.view.photos.length - 19 := by omega
    simp only [fetchIssued, if_neg h, willDisplay, if_neg hitem]

/-- All that an event but a block of the main queue does to the screen is by a call of the
data source. -/
theorem step_dataSourceCall {event : HomeEvent} {after : HomeScreen}
    (hstep : machine.step screen event = some after) (hqueue : event ≠ .mainQueue) :
    (screen.dataSourceCall event = none ∧ after = screen) ∨ ∃ issued called,
      screen.dataSourceCall event = some (issued, called) ∧ after = issued.deliver called := by
  cases event with
  | viewWillAppear =>
    obtain rfl := Option.some.inj hstep
    rw [dataSourceCall, viewWillAppear_fetchIssued]
    · cases screen.fetchIssued .viewWillAppear with
      | none => exact Or.inl ⟨rfl, rfl⟩
      | some issued => exact Or.inr ⟨issued, _, rfl, rfl⟩
    · simp
  | willDisplay item =>
    obtain rfl := Option.some.inj hstep
    rw [dataSourceCall, willDisplay_fetchIssued]
    · cases screen.fetchIssued (.willDisplay item) with
      | none => exact Or.inl ⟨rfl, rfl⟩
      | some issued => exact Or.inr ⟨issued, _, rfl, rfl⟩
    · simp
  | requestDidComplete request result =>
    obtain ⟨called, hcalled, rfl⟩ := Option.map_eq_some_iff.mp hstep
    exact Or.inr ⟨screen, called, Option.map_eq_some_iff.mpr ⟨called, hcalled, rfl⟩, rfl⟩
  | mainQueue => exact absurd rfl hqueue

/-! ### Fetches -/

/-- The spinner is shown for the first fetch only. -/
theorem receive_willStartFetching_view (screen : HomeScreen) :
    (screen.receive .dataSourceWillStartFetching).view = screen.view ↔
      screen.dataSource.items ≠ [] := by
  simp only [receive, List.length_eq_zero_iff]
  split
  · rename_i hempty
    refine iff_of_false (fun hview => ?_) fun hitems => hitems hempty
    have hlength := congrArg (List.length ∘ HomeViewController.mainQueue) hview
    simp [HomeViewController.showSpinner] at hlength
  · rename_i hitems
    exact iff_of_true rfl hitems

/-- A fetch shows no error, and is harmless while a request is in flight, exactly when the
data source is idle and, with a request in flight, has items and more to come. -/
theorem errorIsReal_fetch_iff {issued : HomeScreen} :
    ((∀ error, .fetchDidFailWithError error ∉ issued.dataSource.fetchNextPage.2) ∧
      (issued.dataSource.InFlight →
        issued.fetchNextItems.dataSource.error = issued.dataSource.error ∧
          issued.fetchNextItems.view = issued.view)) ↔
      issued.dataSource.isFetching = false ∧ (issued.dataSource.InFlight →
        issued.dataSource.canFetchMore = true ∧ issued.dataSource.items ≠ []) := by
  unfold fetchNextItems
  rcases issued.dataSource.fetchNextPage_cases with
    ⟨hfetching, heq⟩ | ⟨hidle, hlast, heq⟩ | ⟨hidle, hmore, heq⟩
  · refine iff_of_false (fun h => ?_) fun h => ?_
    · exact h.1 .dataSourceIsFetching (by rw [heq]; exact List.mem_singleton_self _)
    · exact absurd (hfetching.symm.trans h.1) (by decide)
  · -- After the last page an update of nothing is queued.
    rw [heq, deliver_singleton]
    constructor
    · rintro ⟨-, hkeeps⟩
      refine ⟨hidle, fun hflight => ?_⟩
      have hview := congrArg (List.length ∘ HomeViewController.mainQueue) (hkeeps hflight).2
      simp [receive, HomeViewController.updateWithResult, HomeViewController.hideSpinner] at hview
    · rintro ⟨-, hcond⟩
      refine ⟨by simp, fun hflight => ?_⟩
      exact absurd (hlast.symm.trans (hcond hflight).1) (by decide)
  · rw [heq, deliver_singleton, receive_dataSource, receive_willStartFetching_view]
    simp [hidle, hmore]

/-- An event that does not call the data source shows no error. -/
theorem errorIsReal_of_none {event : HomeEvent} {after : HomeScreen}
    (hcall : screen.dataSourceCall event = none) (hissued : screen.fetchIssued event = none) :
    screen.ErrorIsReal event after := by
  refine ⟨?_, ?_⟩
  · rintro ⟨_, _, _, _, hsome, -⟩
    rw [hcall] at hsome
    cases hsome
  · intro issued hsome
    rw [hissued] at hsome
    cases hsome

theorem errorIsReal_of_issued {event : HomeEvent} {issued : HomeScreen}
    (hevent : ∀ request result, event ≠ .requestDidComplete request result)
    (hcall : screen.dataSourceCall event = some (issued, issued.dataSource.fetchNextPage))
    (hissued : screen.fetchIssued event = some issued) :
    screen.ErrorIsReal event issued.fetchNextItems ↔
      issued.dataSource.isFetching = false ∧ (issued.dataSource.InFlight →
        issued.dataSource.canFetchMore = true ∧ issued.dataSource.items ≠ []) := by
  rw [← errorIsReal_fetch_iff]
  constructor
  · intro h
    refine ⟨fun error hfails => ?_, h.redundant issued hissued⟩
    obtain ⟨request, result, heq, -⟩ := h.shown ⟨_, _, _, error, hcall, hfails⟩
    exact hevent request result heq
  · rintro ⟨hno, hkeeps⟩
    refine ⟨?_, fun issued' hissued' => ?_⟩
    · rintro ⟨_, _, calls, error, hcall', hfails⟩
      obtain ⟨-, hcalls⟩ := Prod.mk.inj (Option.some.inj (hcall.symm.trans hcall'))
      rw [hcalls] at hno
      exact absurd hfails (hno error)
    · obtain rfl := Option.some.inj (hissued.symm.trans hissued')
      exact hkeeps

/-- The data source has just been reset, so no fetch is in progress. -/
theorem errorIsReal_viewWillAppear :
    screen.ErrorIsReal .viewWillAppear screen.viewWillAppear := by
  cases hissued : screen.fetchIssued .viewWillAppear with
  | none => exact errorIsReal_of_none (by rw [dataSourceCall, hissued] <;> simp) hissued
  | some issued =>
    rw [viewWillAppear_fetchIssued, hissued]
    refine (errorIsReal_of_issued (by simp) (by rw [dataSourceCall, hissued] <;> simp)
      hissued).mpr ?_
    simp only [fetchIssued, Option.ite_none_right_eq_some] at hissued
    obtain ⟨-, hissued⟩ := hissued
    obtain rfl := Option.some.inj hissued
    exact ⟨rfl, fun hflight => absurd hflight screen.dataSource.not_inFlight_reset⟩

/-- **The cell displayed** shows no error exactly when its fetch is not redundant. -/
theorem errorIsReal_willDisplay_iff (item : Nat) :
    screen.ErrorIsReal (.willDisplay item) (screen.willDisplay item) ↔
      screen.NoRedundantFetch (.willDisplay item) := by
  by_cases hitem : item + 19 = screen.view.photos.length
  · have hissued : screen.fetchIssued (.willDisplay item) = some screen := if_pos hitem
    rw [willDisplay_fetchIssued, hissued]
    refine (errorIsReal_of_issued (by simp) (by rw [dataSourceCall, hissued] <;> simp)
      hissued).trans ⟨fun h => ⟨?_, ?_⟩, fun h => h.prefetch item rfl hitem⟩
    · exact fun _ _ _ => h
    · rintro _ _ ⟨⟩
  · have hissued : screen.fetchIssued (.willDisplay item) = none := if_neg hitem
    refine iff_of_true ?_ ⟨?_, ?_⟩
    · exact errorIsReal_of_none (by rw [dataSourceCall, hissued] <;> simp) hissued
    · rintro _ ⟨⟩ hitem'
      exact absurd hitem' hitem
    · rintro _ _ ⟨⟩

/-- **The completion of a request** shows an error that is its own exactly when a request
without an error has photos. -/
theorem errorIsReal_requestDidComplete_iff {request : TaskId} {result : RequestResult}
    {called : PagedDataSource × List PagedDataSourceDelegate} {after : HomeScreen}
    (hcalled : screen.dataSource.requestDidComplete request result = some called) :
    screen.ErrorIsReal (.requestDidComplete request result) after ↔
      screen.NoRedundantFetch (.requestDidComplete request result) := by
  have hcall : screen.dataSourceCall (.requestDidComplete request result) =
      some (screen, called) := Option.map_eq_some_iff.mpr ⟨called, hcalled, rfl⟩
  obtain ⟨operation, -, rfl⟩ := PagedDataSource.requestDidComplete_eq_some.mp hcalled
  constructor
  · intro h
    refine ⟨by simp, ?_⟩
    rintro _ _ ⟨⟩ herror hphotos
    -- Without photos the completion block reports an error that is not the request's.
    rcases PagedDataSource.completionBlock_cases operation result with
      ⟨-, error, heq⟩ | ⟨items, -, hitems, -⟩
    · rw [heq] at hcall
      obtain ⟨_, _, ⟨⟩, hfailed⟩ := h.shown ⟨_, _, _, error, hcall, List.mem_singleton_self _⟩
      exact hfailed herror
    · rw [hphotos] at hitems
      cases hitems
  · intro h
    refine ⟨?_, by rintro _ ⟨⟩⟩
    rintro ⟨_, _, _, error, hcall', hfails⟩
    obtain ⟨-, heq'⟩ := Prod.mk.inj (Option.some.inj (hcall.symm.trans hcall'))
    refine ⟨request, result, rfl, fun herror => ?_⟩
    rcases PagedDataSource.completionBlock_cases operation result with
      ⟨hno, -⟩ | ⟨items, -, -, heq⟩
    · exact h.photos request result rfl herror (hno herror)
    · rw [heq] at heq'
      obtain ⟨-, rfl⟩ := Prod.mk.inj heq'
      cases List.mem_singleton.mp hfails

/-- **One step** shows no error but that of a request exactly when it makes no redundant
fetch. -/
theorem errorIsReal_iff {event : HomeEvent} {after : HomeScreen}
    (hstep : machine.step screen event = some after) :
    screen.ErrorIsReal event after ↔ screen.NoRedundantFetch event := by
  cases event with
  | viewWillAppear =>
    obtain rfl := Option.some.inj hstep
    refine iff_of_true errorIsReal_viewWillAppear ⟨?_, ?_⟩
    · rintro _ ⟨⟩
    · rintro _ _ ⟨⟩
  | willDisplay item =>
    obtain rfl := Option.some.inj hstep
    exact errorIsReal_willDisplay_iff item
  | requestDidComplete request result =>
    obtain ⟨called, hcalled, -⟩ := Option.map_eq_some_iff.mp hstep
    exact errorIsReal_requestDidComplete_iff hcalled
  | mainQueue =>
    refine iff_of_true (errorIsReal_of_none rfl rfl) ⟨?_, ?_⟩
    · rintro _ ⟨⟩
    · rintro _ _ ⟨⟩

/-- **The error screen appears only for a real failure**, along every run of the screen,
exactly when it makes no redundant fetch. -/
theorem errorIsReal_along_iff (screen : HomeScreen) (events : List HomeEvent) :
    machine.Along ErrorIsReal screen events ↔
      machine.Along (fun screen event _ => screen.NoRedundantFetch event) screen events := by
  have hexact : ∀ screen event after, True → machine.step screen event = some after →
      (ErrorIsReal screen event after ↔ screen.NoRedundantFetch event) :=
    fun _ _ _ _ hstep => errorIsReal_iff hstep
  exact Machine.along_iff_of_exact hexact (fun _ _ _ _ _ _ => trivial) trivial events

/-- The prefetch cell is displayed a second time before the second page has come. -/
theorem prefetch_cell_shows_error :
    ¬ machine.Along ErrorIsReal (launch (.collection "317099"))
      [.viewWillAppear, .requestDidComplete 0 ⟨none, List.replicate 30 (some (photoAt "p"))⟩,
        .mainQueue, .mainQueue, .mainQueue, .willDisplay 11, .willDisplay 11] := by
  intro h
  have hreal := (((((((h _ rfl).2 _ rfl).2 _ rfl).2 _ rfl).2 _ rfl).2 _ rfl).2 _ rfl).1
  obtain ⟨_, _, ⟨⟩, -⟩ := hreal.shown ⟨_, _, _, _, rfl, List.mem_singleton_self _⟩

end HomeScreen

end ImSplash
