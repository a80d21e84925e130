import ImSplash.App
import ImSplash.HomeScreen
import ImSplash.Navigation
import ImSplash.Projection

/-!
# The whole app

`AppDependencies` wires three modules, Home, Detail and List, to one window.  The Home
screen is the root of a navigation controller; its button pushes a List screen, and a photo
of its grid presents a Detail screen over everything.  What the user can touch is on the
screen that is on top, and that is what `getTopViewController` is asked for when a block of
the main queue is to update the List screen.

The Home screen and the rest of the app were machines of their own.  Here they are parts
of one: `homeProjection` and `appProjection` say that a run of the whole is a run of each.
The main queue is still two queues, the blocks of the Home screen and those of the others,
which may take turns in any way.
-/

namespace ImSplash
open Runs

structure DetailViewController where
  photo : UnsplashPhoto
  isFavorite : Bool := false
  /-- The "Downloaded" alert is presented. -/
  downloadedAlert : Bool := false

namespace DetailViewController
variable (detail : DetailViewController)

def updateUIWithLocalItem (item : LocalImage) : DetailViewController :=
  { detail with isFavorite := item.favorite }

/-- The screen of a photo as `viewDidLoad` leaves it, with `DetailInteractor.loadLocalImageById`. -/
def viewDidLoad (realm : Realm) (photo : UnsplashPhoto) : DetailViewController :=
  match DataManager.getLocalImageById realm photo.identifier with
  | some item => updateUIWithLocalItem { photo := photo } item
  | none => { photo := photo }

def displayDownloadedAlert : DetailViewController := { detail with downloadedAlert := true }

end DetailViewController

structure AppDependencies where
  home : HomeScreen
  app : App
  /-- The stack of the navigation controller. -/
  viewControllers : List Screen := [.home]
  /-- The Detail screen, while it is presented. -/
  detail : Option DetailViewController := none

namespace AppDependencies

/-- The app as it starts. -/
def launch (realm : Realm) (files : FileManager) (documentsPath : URL) : AppDependencies where
  home := .launch (.collection "317099")
  app := .launch realm files documentsPath

variable (whole : AppDependencies)

/-- The view controllers of the window. -/
def rootViewController : ViewController :=
  .navigation (whole.viewControllers.map fun screen => .screen screen none)
    (whole.detail.map fun detail =>
      .screen .detail (if detail.downloadedAlert then some (.screen .alert none) else none))

/-- `DisplayUtils.getTopViewController()`. -/
def getTopViewController : Option ViewController :=
  UIWindow.getVisibleViewControllerFrom (some whole.rootViewController)

/-- A screen is on top. -/
def OnTop (screen : Screen) : Prop :=
  ViewController.isScreen screen whole.getTopViewController = true

instance (screen : Screen) : Decidable (whole.OnTop screen) :=
  inferInstanceAs (Decidable (_ = true))

/-- `collectionView(_:didSelectItemAt:)` of the Home screen, which has the photo's Detail
screen presented. -/
def didSelectItem (item : Nat) : Option AppDependencies :=
  if 0 < whole.home.view.photos.length then
    (whole.home.view.photos[item]?).map fun photo =>
      { whole with detail := some (.viewDidLoad whole.app.realm photo) }
  else some whole

/-- `touchBtnHeart`. -/
def touchBtnHeart (detail : DetailViewController) : AppDependencies :=
  { whole with
    app := whole.app.changeFavorite detail.photo
    detail := some { detail with isFavorite := !detail.isFavorite } }

/-- `touchBtnDownload`. -/
def touchBtnDownload (detail : DetailViewController) : AppDependencies :=
  { whole with
    app := whole.app.downloadPhoto detail.photo
    detail := some
      (if DataManager.isLocalImageDownloaded whole.app.realm detail.photo.identifier then
        detail.displayDownloadedAlert
      else detail) }

end AppDependencies

/-- What can happen to the app: taps, the callbacks of its sessions and its main queue. -/
inductive AppDependenciesEvent
  | home (event : HomeEvent)
  | didSelectItem (item : Nat)
  /-- The button of the Home screen. -/
  | touchedBtnDownload
  /-- The back button of the List screen. -/
  | back
  | touchHeart (tab : Tab) (row : Nat)
  | touchBtnHeart
  | touchBtnDownload
  | touchBtnClose
  | dismissAlert
  | session (event : SessionEvent)
  | mainQueue

namespace AppDependencies

/-- The whole app, one event at a time; the grid offers the items it knows. -/
def machine : Machine AppDependencies AppDependenciesEvent where
  step whole
    | .home event =>
      (HomeScreen.machine.step whole.home event).map fun home => { whole with home := home }
    | .didSelectItem item =>
      if whole.OnTop .home ∧ item < whole.home.view.itemCount then whole.didSelectItem item
      else none
    | .touchedBtnDownload =>
      if whole.OnTop .home then
        some { whole with
          app := whole.app.presentListInterface
          viewControllers := whole.viewControllers ++ [.list] }
      else none
    | .back =>
      if whole.OnTop .list then
        some { whole with
          home := whole.home.viewWillAppear
          app := { whole.app with listOnTop := false }
          viewControllers := whole.viewControllers.dropLast }
      else none
    | .touchHeart tab row =>
      if whole.OnTop .list then
        (whole.app.touchHeart tab row).map fun app => { whole with app := app }
      else none
    | .touchBtnHeart =>
      if whole.OnTop .detail then whole.detail.map whole.touchBtnHeart else none
    | .touchBtnDownload =>
      if whole.OnTop .detail then whole.detail.map whole.touchBtnDownload else none
    | .touchBtnClose =>
      if whole.OnTop .detail then
        some { whole with home := whole.home.viewWillAppear, detail := none }
      else none
    | .dismissAlert =>
      if whole.OnTop .alert then
        whole.detail.map fun detail =>
          { whole with detail := some { detail with downloadedAlert := false } }
      else none
    | .session event =>
      (whole.app.stepSession event).map fun app => { whole with app := app }
    | .mainQueue =>
      -- The block asks for the top view controller when it runs.
      (App.machine.step { whole.app with listOnTop := decide (whole.OnTop .list) } .mainQueue).map
        fun app => { whole with app := app }

/-! ### The window -/

variable {whole : AppDependencies}

theorem getTopViewController_of_detail {detail : DetailViewController}
    (h : whole.detail = some detail) : whole.getTopViewController =
      some (.screen (if detail.downloadedAlert then .alert else .detail) none) := by
  unfold getTopViewController rootViewController
  rw [h, Option.map_some, UIWindow.getVisibleViewControllerFrom_presented]
  cases detail.downloadedAlert <;> simp

theorem getTopViewController_of_stack {screen : Screen} (h : whole.detail = none)
    (hlast : whole.viewControllers.getLast? = some screen) :
    whole.getTopViewController = some (.screen screen none) := by
  unfold getTopViewController rootViewController
  have htop : (whole.viewControllers.map fun screen => ViewController.screen screen none).getLast? =
      some (.screen screen none) := by
    rw [List.getLast?_map, hlast]
    rfl
  rw [h, Option.map_none, UIWindow.getVisibleViewControllerFrom_stack htop]
  simp

/-- The stack is the Home screen, under a List screen or not; a Detail screen is presented
over the Home screen only, and the app knows when a List screen is on top. -/
structure Wired (whole : AppDependencies) : Prop where
  stack : whole.viewControllers = if whole.app.listOnTop then [.home, .list] else [.home]
  detail : whole.app.listOnTop = true → whole.detail = none

/-- The screen that is on top. -/
def topScreen (whole : AppDependencies) : Screen :=
  match whole.detail with
  | some detail => if detail.downloadedAlert then .alert else .detail
  | none => if whole.app.listOnTop then .list else .home

namespace Wired

/-- **What the window shows.** -/
theorem getTopViewController (h : whole.Wired) :
    whole.getTopViewController = some (.screen whole.topScreen none) := by
  unfold topScreen
  cases hdetail : whole.detail with
  | some detail => exact getTopViewController_of_detail hdetail
  | none =>
    refine getTopViewController_of_stack hdetail ?_
    rw [h.stack]
    cases whole.app.listOnTop <;> rfl

theorem onTop_iff (h : whole.Wired) {screen : Screen} :
    whole.OnTop screen ↔ whole.topScreen = screen := by
  rw [OnTop, h.getTopViewController, ViewController.isScreen, decide_eq_true_iff]

theorem onTop_list_iff (h : whole.Wired) : whole.OnTop .list ↔ whole.app.listOnTop = true := by
  rw [h.onTop_iff, topScreen]
  cases hdetail : whole.detail with
  | some detail =>
    have hlist : whole.app.listOnTop ≠ true := by
      intro hlist
      cases hdetail.symm.trans (h.detail hlist)
    cases hshown : detail.downloadedAlert <;> simp [hlist, hshown]
  | none => cases whole.app.listOnTop <;> simp

theorem onTop_detail (h : whole.Wired) {detail : DetailViewController}
    (hdetail : whole.detail = some detail) (halert : detail.downloadedAlert = false) :
    whole.OnTop .detail := by
  rw [h.onTop_iff, topScreen, hdetail]
  exact if_neg (Bool.eq_false_iff.mp halert)

theorem of_onTop_home (h : whole.Wired) (htop : whole.OnTop .home) :
    whole.app.listOnTop = false ∧ whole.detail = none := by
  rw [h.onTop_iff, topScreen] at htop
  cases hdetail : whole.detail with
  | some detail =>
    rw [hdetail] at htop
    cases hshown : detail.downloadedAlert <;> simp [hshown] at htop
  | none =>
    rw [hdetail] at htop
    cases hlist : whole.app.listOnTop with
    | true => simp [hlist] at htop
    | false => exact ⟨rfl, rfl⟩

end Wired

/-! ### What an event does -/

/-- What an event does to the app, and on which screen it can happen. -/
inductive Step (whole : AppDependencies) : AppDependenciesEvent → AppDependencies → Prop
  | home {event : HomeEvent} {home : HomeScreen}
      (hstep : HomeScreen.machine.step whole.home event = some home) :
      Step whole (.home event) { whole with home := home }
  | select {item : Nat} {photo : UnsplashPhoto} (htop : whole.OnTop .home)
      (hphoto : whole.home.view.photos[item]? = some photo) :
      Step whole (.didSelectItem item)
        { whole with detail := some (.viewDidLoad whole.app.realm photo) }
  | selectNothing (item : Nat) : Step whole (.didSelectItem item) whole
  | push (htop : whole.OnTop .home) :
      Step whole .touchedBtnDownload { whole with
        app := whole.app.presentListInterface
        viewControllers := whole.viewControllers ++ [.list] }
  | pop (htop : whole.OnTop .list) :
      Step whole .back { whole with
        home := whole.home.viewWillAppear
        app := { whole.app with listOnTop := false }
        viewControllers := whole.viewControllers.dropLast }
  | touchHeart {tab : Tab} {row : Nat} {app : App} (htop : whole.OnTop .list)
      (htouch : whole.app.touchHeart tab row = some app) :
      Step whole (.touchHeart tab row) { whole with app := app }
  | heart {detail : DetailViewController} (hdetail : whole.detail = some detail) :
      Step whole .touchBtnHeart (whole.touchBtnHeart detail)
  | download {detail : DetailViewController} (hdetail : whole.detail = some detail) :
      Step whole .touchBtnDownload (whole.touchBtnDownload detail)
  | close : Step whole .touchBtnClose
      { whole with home := whole.home.viewWillAppear, detail := none }
  | dismissAlert {detail : DetailViewController} (hdetail : whole.detail = some detail) :
      Step whole .dismissAlert
        { whole with detail := some { detail with downloadedAlert := false } }
  | session {event : SessionEvent} {app : App} (hstep : whole.app.stepSession event = some app) :
      Step whole (.session event) { whole with app := app }
  | mainQueue {app : App} (hstep : App.machine.step
      { whole.app with listOnTop := decide (whole.OnTop .list) } .mainQueue = some app) :
      Step whole .mainQueue { whole with app := app }

theorem step_of_step {event : AppDependenciesEvent} {after : AppDependencies}
    (hstep : machine.step whole event = some after) : whole.Step event after := by
  cases event with
  | home event =>
    obtain ⟨home, hhome, rfl⟩ := Option.map_eq_some_iff.mp hstep
    exact .home hhome
  | didSelectItem item =>
    simp only [machine, Option.ite_none_right_eq_some, didSelectItem] at hstep
    obtain ⟨⟨htop, -⟩, hstep⟩ := hstep
    split at hstep
    · obtain ⟨photo, hphoto, rfl⟩ := Option.map_eq_some_iff.mp hstep
      exact .select htop hphoto
    · obtain rfl := Option.some.inj hstep
      exact .selectNothing item
  | touchedBtnDownload =>
    simp only [machine, Option.ite_none_right_eq_some, Option.some.injEq] at hstep
    obtain ⟨htop, rfl⟩ := hstep
    exact .push htop
  | back =>
    simp only [machine, Option.ite_none_right_eq_some, Option.some.injEq] at hstep
    obtain ⟨htop, rfl⟩ := hstep
    exact .pop htop
  | touchHeart tab row =>
    simp only [machine, Option.ite_none_right_eq_some] at hstep
    obtain ⟨app, htouch, rfl⟩ := Option.map_eq_some_iff.mp hstep.2
    exact .touchHeart hstep.1 htouch
  | touchBtnHeart =>
    simp only [machine, Option.ite_none_right_eq_some] at hstep
    obtain ⟨detail, hdetail, rfl⟩ := Option.map_eq_some_iff.mp hstep.2
    exact .heart hdetail
  | touchBtnDownload =>
    simp only [machine, Option.ite_none_right_eq_some] at hstep
    obtain ⟨detail, hdetail, rfl⟩ := Option.map_eq_some_iff.mp hstep.2
    exact .download hdetail
  | touchBtnClose =>
    simp only [machine, Option.ite_none_right_eq_some, Option.some.injEq] at hstep
    obtain ⟨-, rfl⟩ := hstep
    exact .close
  | dismissAlert =>
    simp only [machine, Option.ite_none_right_eq_some] at hstep
    obtain ⟨detail, hdetail, rfl⟩ := Option.map_eq_some_iff.mp hstep.2
    exact .dismissAlert hdetail
  | session event =>
    obtain ⟨app, happ, rfl⟩ := Option.map_eq_some_iff.mp hstep
    exact .session happ
  | mainQueue =>
    obtain ⟨app, happ, rfl⟩ := Option.map_eq_some_iff.mp hstep
    exact .mainQueue happ

/-! ### The parts -/

/-- The callbacks of the session leave the screens alone. -/
theorem stepSession_listOnTop {app after : App} {event : SessionEvent}
    (hstep : app.stepSession event = some after) : after.listOnTop = app.listOnTop := by
  cases event with
  | didFinishDownloadingTo | didWriteData | didCompleteWithError =>
    obtain ⟨request, -, rfl⟩ := Option.map_eq_some_iff.mp hstep
    rfl

theorem mainQueue_listOnTop {app after : App}
    (hstep : App.machine.step app .mainQueue = some after) :
    after.listOnTop = app.listOnTop := by
  obtain ⟨block, rest, -, rfl⟩ := App.mainQueue_eq_some.mp hstep
  obtain ⟨screen, heq⟩ := App.runBlock_cases { app with mainQueue := rest } block
  rw [heq]

theorem Wired.app_eq (h : whole.Wired) :
    ({ whole.app with listOnTop := decide (whole.OnTop .list) } : App) = whole.app := by
  have htop : decide (whole.OnTop .list) = whole.app.listOnTop := by
    rw [Bool.eq_iff_iff, decide_eq_true_iff, h.onTop_list_iff]
  rw [htop]

theorem step_home {event : HomeEvent} {before after : HomeScreen} (hbefore : whole.home = before)
    (hstep : HomeScreen.machine.step before event = some after) :
    machine.step whole (.home event) = some { whole with home := after } := by
  subst hbefore
  exact congrArg (Option.map _) hstep

/-- A tap on a cell of a photo opens its Detail screen. -/
theorem step_didSelectItem (hhome : whole.OnTop .home) {item : Nat}
    (hitem : item < whole.home.view.itemCount) {photo : UnsplashPhoto}
    (hphoto : whole.home.view.photos[item]? = some photo) :
    machine.step whole (.didSelectItem item) =
      some { whole with detail := some (.viewDidLoad whole.app.realm photo) } := by
  have hphotos : 0 < whole.home.view.photos.length :=
    Nat.lt_of_le_of_lt (Nat.zero_le item) (List.getElem?_eq_some_iff.mp hphoto).1
  refine (if_pos ⟨hhome, hitem⟩).trans ?_
  rw [didSelectItem, if_pos hphotos, hphoto, Option.map_some]

/-- The main queue runs the block that waits longest. -/
theorem Wired.step_mainQueue (h : whole.Wired) {block : MainBlock} {rest : List MainBlock}
    (hqueue : whole.app.mainQueue = block :: rest) :
    machine.step whole .mainQueue = some { whole with
      app := ({ whole.app with mainQueue := rest } : App).runBlock block } := by
  show (App.machine.step { whole.app with listOnTop := decide (whole.OnTop .list) }
    .mainQueue).map _ = _
  rw [h.app_eq, App.mainQueue_eq_some.mpr ⟨block, rest, hqueue, rfl⟩]
  rfl

theorem wired_launch (realm : Realm) (files : FileManager) (documentsPath : URL) :
    (launch realm files documentsPath).Wired :=
  ⟨rfl, fun h => by cases h⟩

theorem Wired.step (h : whole.Wired) {event : AppDependenciesEvent} {after : AppDependencies}
    (hstep : machine.step whole event = some after) : after.Wired := by
  cases step_of_step hstep with
  | home | selectNothing => exact ⟨h.stack, h.detail⟩
  | select htop =>
    obtain ⟨hlist, -⟩ := h.of_onTop_home htop
    exact ⟨h.stack, fun hon => absurd (hlist.symm.trans hon) (by decide)⟩
  | push htop =>
    obtain ⟨hlist, hdetail⟩ := h.of_onTop_home htop
    refine ⟨?_, fun _ => hdetail⟩
    show whole.viewControllers ++ [.list] = [.home, .list]
    rw [h.stack, hlist]
    rfl
  | pop htop =>
    refine ⟨?_, fun hon => by cases hon⟩
    show whole.viewControllers.dropLast = [.home]
    rw [h.stack, h.onTop_list_iff.mp htop]
    rfl
  | touchHeart htop htouch =>
    obtain ⟨screen, item, -, rfl⟩ := App.touchHeart_cases htouch
    exact ⟨h.stack, h.detail⟩
  | heart hdetail | dismissAlert hdetail =>
    refine ⟨h.stack, fun hon => ?_⟩
    cases hdetail.symm.trans (h.detail hon)
  | @download detail hdetail =>
    have hkept : (whole.app.downloadPhoto detail.photo).listOnTop = whole.app.listOnTop := by
      unfold App.downloadPhoto
      split <;> rfl
    refine ⟨?_, fun hon => ?_⟩
    · show whole.viewControllers =
        if (whole.app.downloadPhoto detail.photo).listOnTop then _ else _
      rw [hkept]
      exact h.stack
    · cases hdetail.symm.trans (h.detail (hkept.symm.trans hon))
  | close => exact ⟨h.stack, fun _ => rfl⟩
  | session happ =>
    have hkept := stepSession_listOnTop happ
    exact ⟨by rw [hkept]; exact h.stack, fun hon => h.detail (hkept.symm.trans hon)⟩
  | mainQueue happ =>
    rw [h.app_eq] at happ
    have hkept := mainQueue_listOnTop happ
    exact ⟨by rw [hkept]; exact h.stack, fun hon => h.detail (hkept.symm.trans hon)⟩

theorem Wired.run (h : whole.Wired) {events : List AppDependenciesEvent} {after : AppDependencies}
    (hrun : machine.Run whole events after) : after.Wired := by
  induction hrun with
  | nil => exact h
  | cons hstep _ ih => exact ih (h.step hstep)

/-- The event of the managers and the List screen that an event amounts to. -/
def appEvent (whole : AppDependencies) : AppDependenciesEvent → Option AppEvent
  | .home _ | .didSelectItem _ | .touchBtnClose | .dismissAlert => none
  | .touchedBtnDownload => some .presentListInterface
  | .back => some .dismissListInterface
  | .touchHeart tab row => some (.list (.touchHeart tab row))
  | .touchBtnHeart => whole.detail.map fun detail => .changeFavorite detail.photo
  | .touchBtnDownload => whole.detail.map fun detail => .downloadPhoto detail.photo
  | .session event => some (.session event)
  | .mainQueue => some .mainQueue

/-- The managers and the List screen are `App.screens`. -/
def appProjection : Projection machine App.screens Wired where
  state := app
  event := appEvent
  good h hstep := h.step hstep
  stutter {whole after event} h hstep hevent := by
    cases step_of_step hstep with
    | home | select | selectNothing | close | dismissAlert => rfl
    | heart hdetail | download hdetail =>
      rw [appEvent, hdetail] at hevent
      cases hevent
    | push | pop | touchHeart | session | mainQueue => cases hevent
  step {whole after event d} h hstep hevent := by
    have hscreens : App.isOfScreens d = true ∧ App.machine.step whole.app d = some after.app := by
      cases step_of_step hstep with
      | home | select | selectNothing | close | dismissAlert => cases hevent
      | push | pop =>
        obtain rfl := Option.some.inj hevent
        exact ⟨rfl, rfl⟩
      | touchHeart htop htouch =>
        obtain rfl := Option.some.inj hevent
        exact ⟨rfl, htouch⟩
      | heart hdetail | download hdetail =>
        rw [appEvent, hdetail] at hevent
        obtain rfl := Option.some.inj hevent
        exact ⟨rfl, rfl⟩
      | session happ =>
        obtain rfl := Option.some.inj hevent
        exact ⟨rfl, happ⟩
      | mainQueue happ =>
        obtain rfl := Option.some.inj hevent
        rw [h.app_eq] at happ
        exact ⟨rfl, happ⟩
    exact Machine.restrict_step.mpr hscreens

/-- The event of the Home screen that an event amounts to: it appears again when what lay
over it has gone. -/
def homeEvent : AppDependenciesEvent → Option HomeEvent
  | .home event => some event
  | .back | .touchBtnClose => some .viewWillAppear
  | _ => none

/-- The Home screen is `HomeScreen.machine`. -/
def homeProjection : Projection machine HomeScreen.machine Wired where
  state := home
  event _ := homeEvent
  good h hstep := h.step hstep
  stutter {whole after event} h hstep hevent := by
    cases step_of_step hstep with
    | home | pop | close => cases hevent
    | _ => rfl
  step {whole after event d} h hstep hevent := by
    cases step_of_step hstep with
    | home hhome =>
      obtain rfl := Option.some.inj hevent
      exact hhome
    | pop | close =>
      obtain rfl := Option.some.inj hevent
      rfl
    | _ => cases hevent

/-- **Every run of the whole app is a run of its parts**, and its window shows one of the
app's screens: the List screen exactly while the app takes it to be on top. -/
theorem run_parts (realm : Realm) (files : FileManager) (documentsPath : URL)
    {events : List AppDependenciesEvent} {after : AppDependencies}
    (hrun : machine.Run (launch realm files documentsPath) events after) :
    App.screens.Run (App.launch realm files documentsPath)
        (appProjection.trace (launch realm files documentsPath) events) after.app ∧
      HomeScreen.machine.Run (HomeScreen.launch (.collection "317099"))
        (homeProjection.trace (launch realm files documentsPath) events) after.home ∧
      after.getTopViewController = some (.screen after.topScreen none) ∧
      (after.OnTop .list ↔ after.app.listOnTop = true) := by
  have hlaunch := wired_launch realm files documentsPath
  have hwired := hlaunch.run hrun
  exact ⟨appProjection.run hrun hlaunch, homeProjection.run hrun hlaunch,
    hwired.getTopViewController, hwired.onTop_list_iff⟩

/-- The List screen is pushed and popped. -/
theorem run_parts_back :
    ∃ after : AppDependencies, HomeScreen.machine.Run (HomeScreen.launch (.collection "317099"))
        (homeProjection.trace (launch {} ⟨fun _ => none⟩ ⟨"file:///Documents"⟩)
          [.touchedBtnDownload, .back]) after.home ∧
      after.getTopViewController = some (.screen .home none) := by
  have hlaunch := wired_launch {} ⟨fun _ => none⟩ ⟨"file:///Documents"⟩
  have hpush : machine.step (launch {} ⟨fun _ => none⟩ ⟨"file:///Documents"⟩)
      .touchedBtnDownload = some _ := if_pos (hlaunch.onTop_iff.mpr rfl)
  have hpop : machine.step _ .back = some _ :=
    if_pos ((hlaunch.step hpush).onTop_iff.mpr rfl)
  obtain ⟨-, hhome, htop, -⟩ := run_parts _ _ _ (.cons hpush (.cons hpop (.nil _)))
  exact ⟨_, hhome, htop⟩

end AppDependencies

end ImSplash
