import Mathlib.Algebra.Order.Field.Rat
import Mathlib.Tactic.Linarith
import Mathlib.Tactic.Positivity
import ImSplash.App

/-!
# The progress of a transfer

`didWriteData` divides the bytes written by the bytes expected and looks at neither.  The
session gives minus one for the bytes expected when it does not know them, and zero for an
empty file.

`Transfers` puts beside the app the last byte counts of every task, by which the callbacks are
those a session makes: the bytes written never decrease, the bytes expected are those of the
task's one response.
-/

namespace ImSplash
open Runs

namespace Progress

/-- Defined, and between zero and one. -/
def Proper (progress : Progress) : Prop := ∃ q : Rat, progress = some q ∧ 0 ≤ q ∧ q ≤ 1

/-- Both are defined, and the second is not below the first. -/
def AtMost (progress progress' : Progress) : Prop :=
  ∃ q q' : Rat, progress = some q ∧ progress' = some q' ∧ q ≤ q'

theorem proper_zero : Proper (some 0) := ⟨0, rfl, le_refl 0, by norm_num⟩

theorem quotient_of_ne {numerator denominator : Int} (h : denominator ≠ 0) :
    quotient numerator denominator = some ((numerator : Rat) / denominator) := by
  simp [quotient, h]

/-- A part of a known total. -/
theorem proper_quotient_of_pos {written expected : Int} (hwritten : 0 ≤ written)
    (hle : written ≤ expected) (hpos : 0 < expected) : (quotient written expected).Proper := by
  have hnum : (0 : Rat) ≤ written := by exact_mod_cast hwritten
  have hden : (0 : Rat) < expected := by exact_mod_cast hpos
  have hcast : (written : Rat) ≤ expected := by exact_mod_cast hle
  refine ⟨(written : Rat) / expected, quotient_of_ne (by omega), by positivity, ?_⟩
  rw [div_le_one hden]
  exact hcast

theorem atMost_quotient_of_pos {written written' expected : Int} (hle : written ≤ written')
    (hpos : 0 < expected) : (quotient written expected).AtMost (quotient written' expected) := by
  have hden : (0 : Rat) < expected := by exact_mod_cast hpos
  have hcast : (written : Rat) ≤ written' := by exact_mod_cast hle
  refine ⟨_, _, quotient_of_ne (by omega), quotient_of_ne (by omega), ?_⟩
  exact div_le_div_of_nonneg_right hcast (le_of_lt hden)

end Progress

/-! ## Callbacks as a session makes them -/

/-- The byte counts of a callback: `totalBytesWritten` and `totalBytesExpectedToWrite`. -/
abbrev ByteCounts := Int × Int

/-- `NSURLSessionTransferSizeUnknown`. -/
def transferSizeUnknown : Int := -1

/-- Byte counts a session can report after the last ones it reported of the task. -/
def ByteCounts.Reportable (last : Option ByteCounts) (counts : ByteCounts) : Prop :=
  0 ≤ counts.1 ∧ (counts.2 = transferSizeUnknown ∨ counts.1 ≤ counts.2)
    ∧ ∀ before ∈ last, before.1 ≤ counts.1 ∧ counts.2 = before.2

instance (last : Option ByteCounts) (counts : ByteCounts) : Decidable (counts.Reportable last) :=
  inferInstanceAs (Decidable (_ ∧ _))

/-- The app, and what the session last reported of each task. -/
structure Transfers where
  app : App
  lastWrite : TaskId → Option ByteCounts := fun _ => none

namespace Transfers

/-- The app with a session that makes its callbacks as documented. -/
def machine : Machine Transfers AppEvent where
  step s
    | .session (.didWriteData task written expected) =>
      if ByteCounts.Reportable (s.lastWrite task) (written, expected) then
        (App.machine.step s.app (.session (.didWriteData task written expected))).map fun app =>
          ⟨app, Function.update s.lastWrite task (some (written, expected))⟩
      else none
    | e => (App.machine.step s.app e).map fun app => ⟨app, s.lastWrite⟩

def launch (realm : Realm) (files : FileManager) (documentsPath : URL) : Transfers :=
  { app := App.launch realm files documentsPath }

variable (s : Transfers)

/-- The registry entry of a URL. -/
def entry (url : URL) : Option DownloadRequest := s.app.downloadManager.activeDownloads.lookup url

/-- Every progress that is stored, or on its way to the List screen, is a proper fraction. -/
structure Proper : Prop where
  stored : ∀ url download, s.entry url = some download → download.progress.Proper
  reported : ∀ id progress, .updateItemWithId id progress ∈ s.app.mainQueue → progress.Proper

/-- What a step should do to progress.  A callback of a task whose URL has an entry stores and
reports one value, not below that of the byte counts before; no other entry changes. -/
structure KeepsProgress (e : AppEvent) (t : Transfers) : Prop where
  proper : t.Proper
  callback : ∀ task written expected request download,
    e = .session (.didWriteData task written expected) → s.app.outstanding? task = some request →
    s.entry request.originalURL = some download →
    ∃ progress : Progress, progress.Proper
      ∧ t.entry request.originalURL = some { download with progress := progress }
      ∧ t.app.mainQueue
        = s.app.mainQueue ++ [.updateItemWithId download.photo.identifier progress]
      ∧ ∀ before ∈ s.lastWrite task, (Progress.quotient before.1 before.2).AtMost progress
  others : ∀ task written expected request url,
    e = .session (.didWriteData task written expected) → s.app.outstanding? task = some request →
    url ≠ request.originalURL → t.entry url = s.entry url

/-- The condition: a callback that finds an entry knows a total that is not zero, or knows none
and has no byte yet. -/
def TotalKnown (e : AppEvent) : Prop :=
  ∀ task written expected request, e = .session (.didWriteData task written expected) →
    s.app.outstanding? task = some request → (s.entry request.originalURL).isSome →
    0 < expected ∨ (expected = transferSizeUnknown ∧ written = 0)

end Transfers

/-! ## What the other events do to progress -/

namespace DownloadManager
variable {manager : DownloadManager}

/-- Every entry of the second manager is a new one or has the progress of one of the first. -/
def KeepsEntries (manager manager' : DownloadManager) : Prop :=
  ∀ url download, manager'.activeDownloads.lookup url = some download →
    download.progress = some 0
      ∨ ∃ old, manager.activeDownloads.lookup url = some old ∧ download.progress = old.progress

theorem KeepsEntries.refl : manager.KeepsEntries manager :=
  fun _ download h => .inr ⟨download, h, rfl⟩

/-- A change of the entry of one URL that keeps its progress or starts it. -/
theorem keepsEntries_insert {url : URL} {session : TaskTable DownloadTask}
    {download : DownloadRequest}
    (h : download.progress = some 0 ∨ ∃ old, manager.activeDownloads.lookup url = some old
      ∧ download.progress = old.progress) :
    manager.KeepsEntries { manager with
      downloadsSession := session
      activeDownloads := manager.activeDownloads.insert url download } := by
  intro u found hfound
  rcases lookup_insert_eq_some.mp hfound with ⟨rfl, rfl⟩ | ⟨-, hold⟩
  · exact h
  · exact .inr ⟨found, hold, rfl⟩

theorem keepsEntries_erase {url : URL} {session : TaskTable DownloadTask} :
    manager.KeepsEntries { manager with
      downloadsSession := session
      activeDownloads := manager.activeDownloads.erase url } := by
  intro u found hfound
  exact .inr ⟨found, (lookup_erase_eq_some.mp hfound).2, rfl⟩

theorem keepsEntries_startDownload (photo : UnsplashPhoto) :
    manager.KeepsEntries (manager.startDownload photo) := by
  rcases startDownload_cases photo with ⟨heq, -⟩ | ⟨url, -, -, heq⟩
  · rw [heq]
    exact .refl
  · rw [heq]
    exact keepsEntries_insert (.inl rfl)

theorem keepsEntries_pauseDownload (photo : UnsplashPhoto) :
    manager.KeepsEntries (manager.pauseDownload photo) := by
  rcases pauseDownload_cases photo with heq | ⟨url, download, -, hlookup, heq⟩
  · rw [heq]
    exact .refl
  · rw [heq]
    exact keepsEntries_insert (.inr ⟨download, hlookup, rfl⟩)

theorem keepsEntries_resumeDownload (photo : UnsplashPhoto) :
    manager.KeepsEntries (manager.resumeDownload photo) := by
  rcases resumeDownload_cases photo with ⟨heq, -⟩ | ⟨url, download, -, hlookup, heq⟩
  · rw [heq]
    exact .refl
  · rw [heq]
    exact keepsEntries_insert (.inr ⟨download, hlookup, rfl⟩)

theorem keepsEntries_cancelDownload (photo : UnsplashPhoto) :
    manager.KeepsEntries (manager.cancelDownload photo) := by
  rcases cancelDownload_cases photo with heq | ⟨url, download, -, -, heq⟩
  · rw [heq]
    exact .refl
  · rw [heq]
    exact keepsEntries_erase

theorem keepsEntries_didProduceResumeData (url : URL) (identity : Nat) (data : Option Data) :
    manager.KeepsEntries (manager.didProduceResumeData url identity data) := by
  rcases didProduceResumeData_cases url identity data with heq | ⟨download, hlookup, heq⟩
  · rw [heq]
    exact .refl
  · rw [heq]
    exact keepsEntries_insert (.inr ⟨download, hlookup, rfl⟩)

end DownloadManager

/-- The message of a finished task is a save, so a finish sends no progress. -/
theorem App.updateItem_mem_of_didFinishDownloadingTo {app : App} {sourceURL : URL}
    {location : ResponseBody} {disk : FileSystem} {id : String} {progress : Progress}
    (hmem : .updateItemWithId id progress ∈
      (app.didFinishDownloadingTo sourceURL location disk).mainQueue) :
    .updateItemWithId id progress ∈ app.mainQueue := by
  rcases List.mem_append.mp hmem with hold | hnew
  · exact hold
  · obtain ⟨message, hmessage, heq⟩ := List.mem_map.mp hnew
    have hupdate : message ∈ (app.downloadManager.didFinishDownloadingTo app.files sourceURL
        location disk).2.2 := hmessage
    simp only [DownloadManager.didFinishDownloadingTo] at hupdate
    split at hupdate
    · cases hupdate
    · obtain rfl := List.mem_singleton.mp hupdate
      cases heq

/-- Every event but a write keeps the entries' progress and sends none to the List screen. -/
theorem App.keepsEntries_of_step {app t : App} {e : AppEvent}
    (hstep : App.machine.step app e = some t)
    (hne : ∀ task written expected, e ≠ .session (.didWriteData task written expected)) :
    app.downloadManager.KeepsEntries t.downloadManager
      ∧ ∀ id progress, .updateItemWithId id progress ∈ t.mainQueue →
        .updateItemWithId id progress ∈ app.mainQueue := by
  cases e with
  | presentListInterface =>
    obtain rfl := Option.some.inj hstep
    refine ⟨.refl, ?_⟩
    intro id progress hmem
    simpa [presentListInterface] using hmem
  | dismissListInterface | changeFavorite =>
    obtain rfl := Option.some.inj hstep
    exact ⟨.refl, fun _ _ h => h⟩
  | list event =>
    cases event with
    | loadData =>
      obtain rfl := Option.some.inj hstep
      exact ⟨.refl, fun _ _ h => h⟩
    | touchHeart tab row =>
      obtain ⟨screen, item, -, rfl⟩ := touchHeart_cases hstep
      exact ⟨.refl, fun _ _ h => h⟩
  | downloadPhoto photo =>
    obtain rfl := Option.some.inj hstep
    unfold downloadPhoto
    split
    · exact ⟨.refl, fun _ _ h => h⟩
    · exact ⟨DownloadManager.keepsEntries_startDownload photo, fun _ _ h => h⟩
  | control event =>
    obtain rfl := Option.some.inj hstep
    cases event with
    | startDownload photo =>
      exact ⟨DownloadManager.keepsEntries_startDownload photo, fun _ _ h => h⟩
    | pauseDownload photo =>
      exact ⟨DownloadManager.keepsEntries_pauseDownload photo, fun _ _ h => h⟩
    | resumeDownload photo =>
      exact ⟨DownloadManager.keepsEntries_resumeDownload photo, fun _ _ h => h⟩
    | cancelDownload photo =>
      exact ⟨DownloadManager.keepsEntries_cancelDownload photo, fun _ _ h => h⟩
  | didProduceResumeData url identity data =>
    obtain rfl := Option.some.inj hstep
    exact ⟨DownloadManager.keepsEntries_didProduceResumeData url identity data, fun _ _ h => h⟩
  | session event =>
    cases event with
    | didFinishDownloadingTo task location disk =>
      obtain ⟨request, -, rfl⟩ := Option.map_eq_some_iff.mp hstep
      exact ⟨DownloadManager.keepsEntries_erase,
        fun _ _ => updateItem_mem_of_didFinishDownloadingTo⟩
    | didWriteData task written expected => exact absurd rfl (hne task written expected)
    | didCompleteWithError task =>
      obtain ⟨request, -, rfl⟩ := Option.map_eq_some_iff.mp hstep
      exact ⟨.refl, fun _ _ h => h⟩
  | mainQueue =>
    obtain ⟨block, rest, hqueue, rfl⟩ := mainQueue_eq_some.mp hstep
    rw [runBlock_downloadManager, runBlock_mainQueue, hqueue]
    exact ⟨.refl, fun _ _ h => List.mem_cons_of_mem block h⟩

/-! ## One step -/

namespace Transfers

/-- What the steps keep: proper progress, and byte counts that are not negative. -/
structure Inv (s : Transfers) : Prop where
  proper : s.Proper
  counted : ∀ task before, s.lastWrite task = some before → 0 ≤ before.1

variable {s t : Transfers}

/-- A callback that can happen is one of an outstanding task, with byte counts a session can
report. -/
theorem step_didWriteData {task : TaskId} {written expected : Int}
    (hstep : machine.step s (.session (.didWriteData task written expected)) = some t) :
    ByteCounts.Reportable (s.lastWrite task) (written, expected)
      ∧ ∃ request, s.app.outstanding? task = some request
        ∧ t = ⟨s.app.didWriteData request.originalURL written expected,
          Function.update s.lastWrite task (some (written, expected))⟩ := by
  simp only [machine] at hstep
  split at hstep
  · rename_i hreportable
    obtain ⟨app, happ, rfl⟩ := Option.map_eq_some_iff.mp hstep
    obtain ⟨request, hrequest, rfl⟩ := Option.map_eq_some_iff.mp happ
    exact ⟨hreportable, request, hrequest, rfl⟩
  · cases hstep

/-- Any other event leaves the byte counts alone. -/
theorem step_of_ne {e : AppEvent} (hstep : machine.step s e = some t)
    (hne : ∀ task written expected, e ≠ .session (.didWriteData task written expected)) :
    App.machine.step s.app e = some t.app ∧ t.lastWrite = s.lastWrite := by
  simp only [machine] at hstep
  obtain ⟨app, happ, rfl⟩ := Option.map_eq_some_iff.mp hstep
  exact ⟨happ, rfl⟩

/-- Where the total is known the quotient is proper, and not below the one before. -/
theorem proper_quotient_of_reportable {last : Option ByteCounts} {written expected : Int}
    (hlast : ∀ before ∈ last, 0 ≤ before.1)
    (hreportable : ByteCounts.Reportable last (written, expected))
    (hknown : 0 < expected ∨ (expected = transferSizeUnknown ∧ written = 0)) :
    (Progress.quotient written expected).Proper
      ∧ ∀ before ∈ last,
        (Progress.quotient before.1 before.2).AtMost (Progress.quotient written expected) := by
  obtain ⟨hwritten, hle, hbefore⟩ := hreportable
  rcases hknown with hpos | ⟨rfl, rfl⟩
  · have hle : written ≤ expected := by
      rcases hle with hunknown | hle
      · simp only [transferSizeUnknown] at hunknown
        omega
      · exact hle
    refine ⟨Progress.proper_quotient_of_pos hwritten hle hpos, ?_⟩
    intro before hmem
    obtain ⟨hmono, hsame⟩ := hbefore before hmem
    simp only at hmono hsame
    rw [← hsame]
    exact Progress.atMost_quotient_of_pos hmono hpos
  · -- no byte yet of an unknown total: zero, as before
    have hzero : Progress.quotient 0 transferSizeUnknown = some 0 := by
      simp [Progress.quotient, transferSizeUnknown]
    rw [hzero]
    refine ⟨Progress.proper_zero, ?_⟩
    intro before hmem
    obtain ⟨hmono, hsame⟩ := hbefore before hmem
    have hnonneg := hlast before hmem
    have hnone : before.1 = 0 := le_antisymm hmono hnonneg
    rw [hnone, ← hsame, hzero]
    exact ⟨0, 0, rfl, rfl, le_refl 0⟩

/-- A proper quotient of byte counts has a known total, or no byte. -/
theorem known_of_proper_quotient {last : Option ByteCounts} {written expected : Int}
    (hreportable : ByteCounts.Reportable last (written, expected))
    (hproper : (Progress.quotient written expected).Proper) :
    0 < expected ∨ (expected = transferSizeUnknown ∧ written = 0) := by
  obtain ⟨hwritten, hle, -⟩ := hreportable
  obtain ⟨q, hq, hnonneg, -⟩ := hproper
  have hne : expected ≠ 0 := by
    intro hzero
    simp [Progress.quotient, hzero] at hq
  rw [Progress.quotient_of_ne hne] at hq
  obtain rfl := Option.some.inj hq
  rcases hle with hunknown | hle
  · right
    refine ⟨hunknown, ?_⟩
    simp only [transferSizeUnknown] at hunknown
    subst hunknown
    have hnum : (written : Rat) ≤ 0 := by
      have hneg : (written : Rat) / ((-1 : Int) : Rat) = -written := by
        push_cast
        rw [div_neg, div_one]
      rw [hneg] at hnonneg
      linarith
    have hint : written ≤ 0 := by exact_mod_cast hnum
    exact le_antisymm hint hwritten
  · left
    simp only at hwritten hle
    omega

/-- A callback for a URL without an entry changes nothing in the app. -/
theorem didWriteData_of_none {app : App} {url : URL} (written expected : Int)
    (h : app.downloadManager.activeDownloads.lookup url = none) :
    app.didWriteData url written expected = app := by
  simp [App.didWriteData, DownloadManager.didWriteData, h]

/-- With an entry, the quotient is stored there and sent to the List screen. -/
theorem didWriteData_of_some {app : App} {url : URL} (written expected : Int)
    {download : DownloadRequest}
    (h : app.downloadManager.activeDownloads.lookup url = some download) :
    (app.didWriteData url written expected).downloadManager.activeDownloads
        = app.downloadManager.activeDownloads.insert url
          { download with progress := Progress.quotient written expected }
      ∧ (app.didWriteData url written expected).mainQueue = app.mainQueue
        ++ [.updateItemWithId download.photo.identifier (Progress.quotient written expected)] := by
  simp [App.didWriteData, DownloadManager.didWriteData, h, ListInteractor.receive]

/-- After a callback that finds an entry, that entry has the new progress and the others are as
they were. -/
theorem entry_didWriteData {task : TaskId} {request : DownloadTask} {download : DownloadRequest}
    (written expected : Int) (hentry : s.entry request.originalURL = some download) (url : URL) :
    (⟨s.app.didWriteData request.originalURL written expected,
      Function.update s.lastWrite task (some (written, expected))⟩ : Transfers).entry url =
      (s.app.downloadManager.activeDownloads.insert request.originalURL
        { download with progress := Progress.quotient written expected }).lookup url := by
  rw [← (didWriteData_of_some written expected hentry).1]
  rfl

/-- A callback that finds no entry keeps to what it should do, and to the condition. -/
theorem Inv.keepsProgress_of_none (h : s.Inv) {task : TaskId} {request : DownloadTask}
    (written expected : Int) (hrequest : s.app.outstanding? task = some request)
    (hentry : s.entry request.originalURL = none) :
    s.KeepsProgress (.session (.didWriteData task written expected))
      ⟨s.app.didWriteData request.originalURL written expected,
        Function.update s.lastWrite task (some (written, expected))⟩ ∧
      s.TotalKnown (.session (.didWriteData task written expected)) := by
  have hsame := didWriteData_of_none written expected hentry
  refine ⟨⟨?_, ?_, ?_⟩, ?_⟩
  · rw [hsame]
    exact ⟨h.proper.stored, h.proper.reported⟩
  · intro task' written' expected' request' download heq hrequest' hentry'
    cases heq
    obtain rfl : request = request' := Option.some.inj (hrequest.symm.trans hrequest')
    rw [hentry] at hentry'
    cases hentry'
  · intro task' written' expected' request' url heq _ _
    rw [hsame]
    rfl
  · intro task' written' expected' request' heq hrequest' hentry'
    cases heq
    obtain rfl : request = request' := Option.some.inj (hrequest.symm.trans hrequest')
    rw [hentry] at hentry'
    cases hentry'

/-- A callback that finds an entry and stores a proper fraction there has met the condition. -/
theorem totalKnown_of_keepsProgress {task : TaskId} {request : DownloadTask}
    {download : DownloadRequest} {written expected : Int}
    (hreportable : ByteCounts.Reportable (s.lastWrite task) (written, expected))
    (hrequest : s.app.outstanding? task = some request)
    (hentry : s.entry request.originalURL = some download)
    (hkeeps : s.KeepsProgress (.session (.didWriteData task written expected))
      ⟨s.app.didWriteData request.originalURL written expected,
        Function.update s.lastWrite task (some (written, expected))⟩) :
    s.TotalKnown (.session (.didWriteData task written expected)) := by
  intro task' written' expected' request' heq _ _
  cases heq
  obtain ⟨progress, hproper, hstored, -⟩ :=
    hkeeps.callback task written expected request download rfl hrequest hentry
  rw [entry_didWriteData written expected hentry, AList.lookup_insert] at hstored
  have heq : Progress.quotient written expected = progress :=
    congrArg DownloadRequest.progress (Option.some.inj hstored)
  rw [← heq] at hproper
  exact known_of_proper_quotient hreportable hproper

/-- A callback that finds an entry and meets the condition does what it should. -/
theorem Inv.keepsProgress_of_totalKnown (h : s.Inv) {task : TaskId} {request : DownloadTask}
    {download : DownloadRequest} {written expected : Int}
    (hreportable : ByteCounts.Reportable (s.lastWrite task) (written, expected))
    (hrequest : s.app.outstanding? task = some request)
    (hentry : s.entry request.originalURL = some download)
    (htotal : s.TotalKnown (.session (.didWriteData task written expected))) :
    s.KeepsProgress (.session (.didWriteData task written expected))
      ⟨s.app.didWriteData request.originalURL written expected,
        Function.update s.lastWrite task (some (written, expected))⟩ := by
  obtain ⟨-, hqueue⟩ := didWriteData_of_some written expected hentry
  have hknown := htotal task written expected request rfl hrequest (by rw [hentry]; rfl)
  have hlast : ∀ before ∈ s.lastWrite task, 0 ≤ before.1 :=
    fun before hbefore => h.counted task before hbefore
  obtain ⟨hproper, hmono⟩ := proper_quotient_of_reportable hlast hreportable hknown
  refine ⟨⟨?_, ?_⟩, ?_, ?_⟩
  · intro url found hfound
    rw [entry_didWriteData written expected hentry] at hfound
    rcases lookup_insert_eq_some.mp hfound with ⟨-, rfl⟩ | ⟨-, hold⟩
    · exact hproper
    · exact h.proper.stored url found hold
  · intro id progress hmem
    rw [hqueue] at hmem
    rcases List.mem_append.mp hmem with hold | hnew
    · exact h.proper.reported id progress hold
    · cases List.mem_singleton.mp hnew
      exact hproper
  · intro task' written' expected' request' download' heq hrequest' hentry'
    cases heq
    obtain rfl : request = request' := Option.some.inj (hrequest.symm.trans hrequest')
    obtain rfl : download = download' := Option.some.inj (hentry.symm.trans hentry')
    refine ⟨_, hproper, ?_, hqueue, hmono⟩
    rw [entry_didWriteData written expected hentry, AList.lookup_insert]
  · intro task' written' expected' request' url heq hrequest' hne
    cases heq
    obtain rfl : request = request' := Option.some.inj (hrequest.symm.trans hrequest')
    rw [entry_didWriteData written expected hentry, AList.lookup_insert_ne hne]
    rfl

/-- Every other event keeps to what it should do, and to the condition. -/
theorem Inv.keepsProgress_of_ne (h : s.Inv) {e : AppEvent} (hstep : machine.step s e = some t)
    (hne : ∀ task written expected, e ≠ .session (.didWriteData task written expected)) :
    s.KeepsProgress e t ∧ s.TotalKnown e := by
  obtain ⟨happ, -⟩ := step_of_ne hstep hne
  obtain ⟨hentries, hqueue⟩ := App.keepsEntries_of_step happ hne
  refine ⟨⟨⟨?_, ?_⟩, ?_, ?_⟩, ?_⟩
  · intro url download hfound
    rcases hentries url download hfound with hzero | ⟨old, hold, hsame⟩
    · rw [hzero]
      exact Progress.proper_zero
    · rw [hsame]
      exact h.proper.stored url old hold
  · intro id progress hmem
    exact h.proper.reported id progress (hqueue id progress hmem)
  · intro task written expected _ _ heq
    exact absurd heq (hne task written expected)
  · intro task written expected _ _ heq
    exact absurd heq (hne task written expected)
  · intro task written expected _ heq
    exact absurd heq (hne task written expected)

/-- From a state that keeps the invariant, a step treats progress as it should exactly when the
callback it makes, if it makes one, knows a total or has no byte yet. -/
theorem Inv.step_keepsProgress_iff (h : s.Inv) {e : AppEvent} (hstep : machine.step s e = some t) :
    s.KeepsProgress e t ↔ s.TotalKnown e := by
  by_cases hwrite : ∃ task written expected, e = .session (.didWriteData task written expected)
  · obtain ⟨task, written, expected, rfl⟩ := hwrite
    obtain ⟨hreportable, request, hrequest, rfl⟩ := step_didWriteData hstep
    cases hentry : s.entry request.originalURL with
    | none =>
      obtain ⟨hkeeps, htotal⟩ := h.keepsProgress_of_none written expected hrequest hentry
      exact iff_of_true hkeeps htotal
    | some download =>
      constructor
      · exact totalKnown_of_keepsProgress hreportable hrequest hentry
      · exact h.keepsProgress_of_totalKnown hreportable hrequest hentry
  · have hne : ∀ task written expected, e ≠ .session (.didWriteData task written expected) :=
      fun task written expected heq => hwrite ⟨task, written, expected, heq⟩
    obtain ⟨hkeeps, htotal⟩ := h.keepsProgress_of_ne hstep hne
    exact iff_of_true hkeeps htotal

theorem Inv.step (h : s.Inv) {e : AppEvent} (hstep : machine.step s e = some t)
    (hkeeps : s.KeepsProgress e t) : t.Inv := by
  refine ⟨hkeeps.proper, ?_⟩
  by_cases hwrite : ∃ task written expected, e = .session (.didWriteData task written expected)
  · obtain ⟨task, written, expected, rfl⟩ := hwrite
    obtain ⟨⟨hnonneg, -⟩, request, -, rfl⟩ := step_didWriteData hstep
    intro task' before hbefore
    by_cases hsame : task' = task
    · subst hsame
      have heq : (written, expected) = before := by simpa using hbefore
      rw [← heq]
      exact hnonneg
    · have hold : s.lastWrite task' = some before :=
        (Function.update_of_ne hsame _ _).symm.trans hbefore
      exact h.counted task' before hold
  · obtain ⟨-, hlast⟩ := step_of_ne hstep
      fun task written expected heq => hwrite ⟨task, written, expected, heq⟩
    rw [hlast]
    exact h.counted

theorem inv_launch (realm : Realm) (files : FileManager) (documentsPath : URL) :
    (launch realm files documentsPath).Inv := by
  refine ⟨⟨?_, ?_⟩, ?_⟩
  · intro _ _ hfound
    cases hfound
  · intro _ _ hmem
    cases hmem
  · intro _ _ hbefore
    cases hbefore

theorem keepsProgress_along_iff (h : s.Inv) (run : List AppEvent) :
    machine.Along KeepsProgress s run ↔ machine.Along (fun s e _ => s.TotalKnown e) s run :=
  Machine.along_iff_of_exact (fun _ _ _ hinv hstep => hinv.step_keepsProgress_iff hstep)
    (fun _ _ _ hinv hstep hkeeps => hinv.step hstep hkeeps) h run

/-- Progress is a proper fraction of its own transfer in the runs where every callback that
finds an entry knows a total that is not zero, or has no byte yet, and in no other. -/
theorem keepsProgress_iff (realm : Realm) (files : FileManager) (documentsPath : URL)
    (run : List AppEvent) :
    machine.Along KeepsProgress (launch realm files documentsPath) run
      ↔ machine.Along (fun s e _ => s.TotalKnown e) (launch realm files documentsPath) run :=
  keepsProgress_along_iff (inv_launch realm files documentsPath) run

/-- Ten bytes of a response without a length: the progress is minus ten. -/
theorem unknown_length_not_keepsProgress :
    ¬ machine.Along KeepsProgress (launch {} ⟨fun _ => none⟩ ⟨"file:///Documents"⟩)
      [.downloadPhoto (photoAt "p"), .session (.didWriteData 0 10 transferSizeUnknown)] := by
  intro h
  have hknown := (keepsProgress_along_iff (inv_launch _ _ _) _).mp h
  have hreached := hknown _ rfl
  have hlast := (hreached.2 _ rfl).1 0 10 transferSizeUnknown _ rfl rfl rfl
  revert hlast
  decide

end Transfers

end ImSplash
