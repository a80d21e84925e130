import ImSplash.Machine
import ImSplash.PagedDataSource

/-!
# Requests from before a reset

`reset` and `cancelFetch` cancel the operations and start afresh, but the completion
block of a request has no notion of the generation it belongs to: it runs on the data
source as it is by then.  Whatever a late request brings, the delegate is told.
-/

namespace ImSplash
open Runs

/-- A data source, and the calls made to its delegate so far. -/
structure DataSourceRun where
  dataSource : PagedDataSource
  delegateCalls : List PagedDataSourceDelegate := []

inductive DataSourceEvent
  | fetchNextPage
  | reset
  | cancelFetch
  /-- The interactor replaces the data source. -/
  | didSetDataSource
  | requestDidComplete (request : TaskId) (result : RequestResult)

namespace DataSourceRun
variable (run : DataSourceRun)

/-- The data source after a call, its calls to the delegate recorded. -/
def record (after : PagedDataSource × List PagedDataSourceDelegate) : DataSourceRun :=
  ⟨after.1, run.delegateCalls ++ after.2⟩

def machine : Machine DataSourceRun DataSourceEvent where
  step run
    | .fetchNextPage => some (run.record run.dataSource.fetchNextPage)
    | .reset => some { run with dataSource := run.dataSource.reset }
    | .cancelFetch => some { run with dataSource := run.dataSource.cancelFetch }
    | .didSetDataSource =>
      some { run with dataSource := HomeInteractor.didSetDataSource run.dataSource }
    | .requestDidComplete request result =>
      (run.dataSource.requestDidComplete request result).map run.record

/-- A late completion leaves the state as it was and is not reported. -/
def LateHasNoEffect (event : DataSourceEvent) (after : DataSourceRun) : Prop :=
  ∀ request result, event = .requestDidComplete request result → run.dataSource.Stale request →
    after.dataSource.items = run.dataSource.items ∧
    after.dataSource.cursor = run.dataSource.cursor ∧
    after.dataSource.canFetchMore = run.dataSource.canFetchMore ∧
    after.dataSource.isFetching = run.dataSource.isFetching ∧
    after.dataSource.error = run.dataSource.error ∧
    after.delegateCalls = run.delegateCalls

/-- The event is no late completion. -/
def NotLate (event : DataSourceEvent) : Prop :=
  ∀ request result, event = .requestDidComplete request result → ¬ run.dataSource.Stale request

variable {run}

/-- **Every completion is reported**, and ends the fetch the data source believes it has
in flight, whichever request that is. -/
theorem requestDidComplete_reports {after : DataSourceRun} {request : TaskId}
    {result : RequestResult}
    (hstep : machine.step run (.requestDidComplete request result) = some after) :
    (∃ call, after.delegateCalls = run.delegateCalls ++ [call]) ∧
      after.dataSource.isFetching = false := by
  obtain ⟨completed, hcompleted, rfl⟩ := Option.map_eq_some_iff.mp hstep
  obtain ⟨operation, -, rfl⟩ := PagedDataSource.requestDidComplete_eq_some.mp hcompleted
  rcases PagedDataSource.completionBlock_cases operation result with
    ⟨-, error, heq⟩ | ⟨items, -, -, heq⟩
  · rw [heq]
    exact ⟨⟨_, rfl⟩, rfl⟩
  · rw [heq]
    exact ⟨⟨_, rfl⟩, rfl⟩

/-- **One step** leaves no trace of a late request exactly when it is no late completion. -/
theorem lateHasNoEffect_iff {after : DataSourceRun} {event : DataSourceEvent}
    (hstep : machine.step run event = some after) :
    run.LateHasNoEffect event after ↔ run.NotLate event := by
  constructor
  · rintro h request result rfl hstale
    obtain ⟨-, -, -, -, -, hcalls⟩ := h request result rfl hstale
    obtain ⟨⟨call, hreported⟩, -⟩ := requestDidComplete_reports hstep
    have hlength := congrArg List.length (hreported.symm.trans hcalls)
    rw [List.length_append, List.length_singleton] at hlength
    omega
  · intro h request result hevent hstale
    exact absurd hstale (h request result hevent)

/-- **A request from before a reset has no effect**, along a run from any state, exactly
when none completes: no late completion is without effect. -/
theorem lateHasNoEffect_along_iff (run : DataSourceRun) (events : List DataSourceEvent) :
    machine.Along (fun run event after => run.LateHasNoEffect event after) run events ↔
      machine.Along (fun run event _ => run.NotLate event) run events := by
  have hexact : ∀ run event after, True → machine.step run event = some after →
      (run.LateHasNoEffect event after ↔ run.NotLate event) :=
    fun _ _ _ _ hstep => lateHasNoEffect_iff hstep
  exact Machine.along_iff_of_exact hexact (fun _ _ _ _ _ _ => trivial) trivial events

/-- A page asked for before a reset lands among the items after it. -/
theorem late_page_appended :
    ¬ machine.Along (fun run event after => run.LateHasNoEffect event after)
      ⟨.new (.collection "317099"), []⟩
      [.fetchNextPage, .reset, .requestDidComplete 0 ⟨none, [some (photoAt "p")]⟩] := by
  intro h
  have hlate := (((h _ rfl).2 _ rfl).2 _ rfl).1
  obtain ⟨hitems, -⟩ := hlate _ _ rfl ⟨_, rfl, rfl⟩
  exact absurd (congrArg List.length hitems) (by decide)

end DataSourceRun

end ImSplash
