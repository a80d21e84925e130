import ImSplash.Models

/-!
# Which screen is on top

`ListInteractor` asks `DisplayUtils.getTopViewController()` before it updates the List screen.
That follows the view controllers of the window down to one that shows nothing else:
the visible one of a navigation controller, the selected one of a tab bar controller, the
presented one of any other.
-/

namespace ImSplash

/-- The screens of the app, and the alert that the Detail screen presents. -/
inductive Screen
  | home
  | list
  | detail
  | alert
deriving DecidableEq, Repr

/-- A `UIViewController`, with the view controllers it shows. -/
inductive ViewController
  /-- A `UINavigationController`. -/
  | navigation (viewControllers : List ViewController) (presented : Option ViewController)
  /-- A `UITabBarController`. -/
  | tabBar (selectedViewController : Option ViewController)
  | screen (screen : Screen) (presented : Option ViewController)

namespace ViewController

/-- `visibleViewController` of a navigation controller: what is presented on it, or the top
of its stack. -/
def visible (viewControllers : List ViewController) (presented : Option ViewController) :
    Option ViewController :=
  presented <|> viewControllers.getLast?

/-- `vc is ListViewController`. -/
def isScreen (screen : Screen) : Option ViewController → Bool
  | some (.screen shown _) => shown = screen
  | _ => false

theorem sizeOf_visible {viewControllers : List ViewController}
    {presented : Option ViewController} {vc : ViewController}
    (h : visible viewControllers presented = some vc) :
    sizeOf vc < sizeOf (navigation viewControllers presented) := by
  cases presented with
  | some shown =>
    obtain rfl : shown = vc := Option.some.inj h
    simp only [navigation.sizeOf_spec, Option.some.sizeOf_spec]
    omega
  | none =>
    have hlast : viewControllers.getLast? = some vc := h
    have hlt := List.sizeOf_lt_of_mem (List.mem_of_getLast? hlast)
    simp only [navigation.sizeOf_spec]
    omega

end ViewController

/-- `getVisibleViewControllerFrom(_:)`. -/
def UIWindow.getVisibleViewControllerFrom : Option ViewController → Option ViewController
  | some (.navigation viewControllers presented) =>
    match _h : ViewController.visible viewControllers presented with
    | some visibleViewController => getVisibleViewControllerFrom (some visibleViewController)
    | none =>
      match _h : viewControllers.getLast? with
      | some lastViewController => getVisibleViewControllerFrom (some lastViewController)
      | none => some (.navigation viewControllers presented)
  | some (.tabBar selectedViewController) => getVisibleViewControllerFrom selectedViewController
  | some (.screen _ (some pvc)) => getVisibleViewControllerFrom (some pvc)
  | some (.screen shown none) => some (.screen shown none)
  | none => none
termination_by vc => sizeOf vc
decreasing_by
  · have hlt := ViewController.sizeOf_visible _h
    simp only [Option.some.sizeOf_spec]
    omega
  · have hlt := List.sizeOf_lt_of_mem (List.mem_of_getLast? _h)
    simp only [Option.some.sizeOf_spec, ViewController.navigation.sizeOf_spec]
    omega
  · simp only [Option.some.sizeOf_spec, ViewController.tabBar.sizeOf_spec]
    omega
  · simp only [Option.some.sizeOf_spec, ViewController.screen.sizeOf_spec]
    omega

namespace UIWindow
open ViewController

/-- A view controller that shows no other: a screen nothing is presented on, or a navigation
controller without view controllers. -/
inductive Bare : ViewController → Prop
  | screen (screen : Screen) : Bare (.screen screen none)
  | navigation : Bare (.navigation [] none)

/-- Whatever the window has, the one found shows no other. -/
theorem bare_of_getVisibleViewControllerFrom {vc : Option ViewController} {found : ViewController}
    (h : getVisibleViewControllerFrom vc = some found) : Bare found := by
  fun_induction getVisibleViewControllerFrom vc with
  | case1 viewControllers presented shown hvisible ih => exact ih h
  | case2 viewControllers presented hvisible last hlast ih => exact ih h
  | case3 viewControllers presented hvisible hlast =>
    -- Neither a top of the stack nor a presented one.
    obtain rfl := Option.some.inj h
    cases presented with
    | some shown => cases hvisible
    | none =>
      rw [List.getLast?_eq_none_iff.mp hlast]
      exact .navigation
  | case4 selected ih => exact ih h
  | case5 shown pvc ih => exact ih h
  | case6 shown =>
    obtain rfl := Option.some.inj h
    exact .screen shown
  | case7 => cases h

/-- On a navigation controller, what is presented comes before the stack. -/
theorem getVisibleViewControllerFrom_presented (viewControllers : List ViewController)
    (pvc : ViewController) :
    getVisibleViewControllerFrom (some (.navigation viewControllers (some pvc))) =
      getVisibleViewControllerFrom (some pvc) := by
  rw [getVisibleViewControllerFrom]
  rfl

theorem getVisibleViewControllerFrom_stack {viewControllers : List ViewController}
    {last : ViewController} (h : viewControllers.getLast? = some last) :
    getVisibleViewControllerFrom (some (.navigation viewControllers none)) =
      getVisibleViewControllerFrom (some last) := by
  have hvisible : visible viewControllers none = some last := h
  rw [getVisibleViewControllerFrom]
  split
  · rename_i shown hshown
    rw [hvisible] at hshown
    rw [Option.some.inj hshown]
  · rename_i hnone
    cases hvisible.symm.trans hnone

@[simp] theorem getVisibleViewControllerFrom_screen (screen : Screen) :
    getVisibleViewControllerFrom (some (.screen screen none)) = some (.screen screen none) := by
  rw [getVisibleViewControllerFrom]

@[simp] theorem getVisibleViewControllerFrom_screen_presented (screen : Screen)
    (pvc : ViewController) : getVisibleViewControllerFrom (some (.screen screen (some pvc))) =
      getVisibleViewControllerFrom (some pvc) := by
  rw [getVisibleViewControllerFrom]

end UIWindow

end ImSplash
