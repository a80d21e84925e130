import ImSplash.SavedFiles
import ImSplash.Saves

/-!
# Does a finished download survive a relaunch?

The background session and its tasks outlive the process; the registry and the main queue
do not.  A task that finishes in a later launch finds no entry under its URL, or the entry
of another request for it, and only the photo of the entry is recorded; and a save that was
still queued when the process ended is never made.
-/

namespace ImSplash
open Runs

namespace App
variable (app : App)

/-- A new launch: the store, the files and the tasks of the session are those of before. -/
def relaunch : App where
  realm := app.realm
  files := app.files
  downloadManager :=
    { documentsPath := app.downloadManager.documentsPath
      downloadsSession := app.downloadManager.downloadsSession }

end App

/-- The app over several launches.  `obtained` is read by the statements alone: the path at
which the last successful task of a photo id has left its file. -/
structure Launches where
  app : App
  obtained : String → Option String := fun _ => none

inductive LaunchEvent
  | startDownload (photo : UnsplashPhoto)
  | relaunch
  | session (event : SessionEvent)
  | mainQueue

namespace Launches
variable (run : Launches)

/-- A task that has obtained its photo has left it under the id it was started for. -/
def obtainedAfter : SessionEvent → String → Option String
  | .didFinishDownloadingTo task location disk => fun id =>
    match run.app.outstanding? task with
    | some request =>
      if run.app.Obtained request.originalURL location disk ∧ id = request.photo.identifier then
        some (run.app.downloadPath request.originalURL)
      else run.obtained id
    | none => run.obtained id
  | .didWriteData _ _ _ | .didCompleteWithError _ => run.obtained

def machine : Machine Launches LaunchEvent where
  step run
    | .startDownload photo =>
      some { run with app := run.app.stepControl (.startDownload photo) }
    | .relaunch => some { run with app := run.app.relaunch }
    | .session event =>
      (run.app.stepSession event).map fun app => ⟨app, run.obtainedAfter event⟩
    | .mainQueue => (App.machine.step run.app .mainQueue).map fun app => { run with app := app }

/-- Once the main queue is drained, every photo obtained is recorded with its file. -/
def KeepsDownloads : Prop :=
  ∀ id path, run.obtained id = some path → run.app.drain.realm.downloadedPath id = some path

/-- What an event needs for no download to be lost by it.

A finish: the task that has obtained its photo finds an entry of that photo, or the photo is
about to be recorded at that path anyway; and the photo of the entry, when it is not the one
obtained, was not obtained at another path.  A relaunch: what was obtained is recorded. -/
def LosesNothing : LaunchEvent → Prop
  | .session (.didFinishDownloadingTo task location disk) => ∀ request,
    run.app.outstanding? task = some request →
      (run.app.Obtained request.originalURL location disk →
        run.app.HasEntry request.originalURL request.photo.identifier ∨
        run.app.drain.realm.downloadedPath request.photo.identifier =
          some (run.app.downloadPath request.originalURL)) ∧
      ∀ id, run.app.HasEntry request.originalURL id →
        ¬ (run.app.Obtained request.originalURL location disk ∧ id = request.photo.identifier) →
          ∀ path, run.obtained id = some path → path = run.app.downloadPath request.originalURL
  | .relaunch => ∀ id path, run.obtained id = some path →
    run.app.realm.downloadedPath id = some path
  | _ => True

variable {run}

/-- An event that records and obtains nothing. -/
theorem KeepsDownloads.of_same (h : run.KeepsDownloads) {t : App}
    (hrealm : t.drain.realm = run.app.drain.realm) :
    ({ run with app := t } : Launches).KeepsDownloads := by
  intro id path hobtained
  show t.drain.realm.downloadedPath id = some path
  rw [hrealm]
  exact h id path hobtained

/-- **A finish** loses nothing exactly when it meets its condition. -/
theorem keepsDownloads_finish_iff (h : run.KeepsDownloads) {task : TaskId}
    {request : DownloadTask} (hrequest : run.app.outstanding? task = some request)
    (location : ResponseBody) (disk : FileSystem) :
    (⟨(run.app.settle task .finished).didFinishDownloadingTo request.originalURL location disk,
        run.obtainedAfter (.didFinishDownloadingTo task location disk)⟩ :
          Launches).KeepsDownloads ↔
      run.LosesNothing (.session (.didFinishDownloadingTo task location disk)) := by
  have hrecords := run.app.finish_drain_downloadedPath task request.originalURL location disk
  have hnow : ∀ id, run.obtainedAfter (.didFinishDownloadingTo task location disk) id =
      if run.app.Obtained request.originalURL location disk ∧ id = request.photo.identifier then
        some (run.app.downloadPath request.originalURL)
      else run.obtained id := by
    intro id
    simp only [obtainedAfter, hrequest]
  rw [LosesNothing, App.forall_outstanding?_iff hrequest]
  constructor
  · intro hkeeps
    refine ⟨?_, ?_⟩
    · intro hobtained
      have hpath := hkeeps request.photo.identifier _ ((hnow _).trans (if_pos ⟨hobtained, rfl⟩))
      -- Without an entry the finish records nothing, so the path was recorded before.
      by_cases hentry : run.app.HasEntry request.originalURL request.photo.identifier
      · exact Or.inl hentry
      · exact Or.inr (((hrecords _).2 hentry).symm.trans hpath)
    · intro id hentry hother path hold
      have hpath := hkeeps id path ((hnow id).trans ((if_neg hother).trans hold))
      exact Option.some.inj (hpath.symm.trans ((hrecords id).1 hentry))
  · intro hcondition id path hobtained
    obtain ⟨hsaved, hkept⟩ := hcondition
    have hpath := (hnow id).symm.trans hobtained
    show (App.drain _).realm.downloadedPath id = some path
    by_cases hentry : run.app.HasEntry request.originalURL id
    · rw [(hrecords id).1 hentry]
      split at hpath
      · exact hpath
      · rename_i hother
        rw [hkept id hentry hother path hpath]
    · rw [(hrecords id).2 hentry]
      split at hpath
      · rename_i hnew
        obtain ⟨hsuccess, rfl⟩ := hnew
        exact ((hsaved hsuccess).resolve_left hentry).trans hpath
      · exact h id path hpath

/-- **One step**: what was obtained stays recorded exactly when the event meets its
condition. -/
theorem keepsDownloads_step {t : Launches} {e : LaunchEvent} (h : run.KeepsDownloads)
    (hstep : machine.step run e = some t) : t.KeepsDownloads ↔ run.LosesNothing e := by
  cases e with
  | startDownload photo =>
    obtain rfl := Option.some.inj hstep
    refine iff_of_true (h.of_same ?_) trivial
    rw [App.drain_realm, App.drain_realm]
    rfl
  | relaunch =>
    obtain rfl := Option.some.inj hstep
    -- The main queue is gone with the process, so there is nothing to drain.
    have hempty : run.app.relaunch.drain = run.app.relaunch := App.drain_of_mainQueue_nil rfl
    unfold KeepsDownloads
    rw [hempty]
    exact Iff.rfl
  | session event =>
    obtain ⟨app, hsession, rfl⟩ := Option.map_eq_some_iff.mp hstep
    cases event with
    | didFinishDownloadingTo task location disk =>
      obtain ⟨request, hrequest, rfl⟩ := Option.map_eq_some_iff.mp hsession
      exact keepsDownloads_finish_iff h hrequest location disk
    | didWriteData task totalBytesWritten totalBytesExpectedToWrite =>
      obtain ⟨request, -, rfl⟩ := Option.map_eq_some_iff.mp hsession
      exact iff_of_true (h.of_same (App.didWriteData_drain_realm _ _ _)) trivial
    | didCompleteWithError task =>
      obtain ⟨request, -, rfl⟩ := Option.map_eq_some_iff.mp hsession
      exact iff_of_true (h.of_same (App.settle_drain_realm task .failed)) trivial
  | mainQueue =>
    obtain ⟨app, hblock, rfl⟩ := Option.map_eq_some_iff.mp hstep
    obtain ⟨block, rest, hqueue, rfl⟩ := App.mainQueue_eq_some.mp hblock
    exact iff_of_true (h.of_same (App.runBlock_drain_realm hqueue)) trivial

/-- **No finished download is lost across a relaunch**, in any state of a run of starts,
relaunches, callbacks and blocks, exactly when every finish and every relaunch of it meets
its condition. -/
theorem keepsDownloads_along_iff (realm : Realm) (files : FileManager) (documentsPath : URL)
    (es : List LaunchEvent) :
    machine.Along (fun _ _ t => t.KeepsDownloads)
        ⟨App.launch realm files documentsPath, fun _ => none⟩ es ↔
      machine.Along (fun s e _ => s.LosesNothing e)
        ⟨App.launch realm files documentsPath, fun _ => none⟩ es := by
  have hexact : ∀ s e t, s.KeepsDownloads → machine.step s e = some t →
      (t.KeepsDownloads ↔ s.LosesNothing e) := fun _ _ _ h hstep => keepsDownloads_step h hstep
  refine Machine.along_iff_of_exact hexact (fun _ _ _ _ _ h => h) ?_ es
  intro _ _ hobtained
  cases hobtained

/-- A task that finishes in the next launch: its file is copied, and nothing recorded. -/
theorem relaunched_download_lost :
    ¬ machine.Along (fun _ _ t => t.KeepsDownloads)
      ⟨App.launch {} ⟨fun _ => none⟩ ⟨"file:///Documents"⟩, fun _ => none⟩
      [.startDownload (photoAt "p"), .relaunch,
        .session (.didFinishDownloadingTo 0 ⟨200, [1]⟩ {})] := by
  intro h
  have hkeeps := (((h _ rfl).2 _ rfl).2 _ rfl).1
  have hrecorded := hkeeps "p" _ rfl
  cases hrecorded

end Launches

end ImSplash
