import GDTAdapter.Foundation
import GDTAdapter.Reactive.Walk
import Mathlib.Order.WellFounded

namespace GDTAdapter

open Reactive

/-! # The top view controller -/

/-- What `topVC` reads of the running application.  `delegateWindow` is `none` if
the application delegate does not answer `window`.  UIKit keeps every chain of
presented controllers finite. -/
structure UIApplication where
  keyWindow : Option UIWindow
  windows : List UIWindow
  rootViewController : UIWindow → Option UIViewController
  delegateWindow : Option (Option UIWindow)
  presentedViewController : UIViewController → Option UIViewController
  finite : WellFounded fun later earlier => presentedViewController earlier = some later

namespace UIApplication

def topmost (application : UIApplication) (controller : UIViewController) : UIViewController :=
  match _presents : application.presentedViewController controller with
  | none => controller
  | some presented => application.topmost presented
termination_by application.finite.wrap controller

def rootWindow (application : UIApplication) : Option UIWindow :=
  -- `containsObject:` answers NO for nil
  if application.keyWindow.all (fun window => !application.windows.contains window)
      && 0 < application.windows.length then
    application.windows.head?
  else application.keyWindow

def topVC (application : UIApplication) : Option UIViewController :=
  let topVC := application.rootWindow.bind application.rootViewController
  let topVC :=
    match topVC, application.delegateWindow with
    | none, some window => window.bind application.rootViewController
    | topVC, _ => topVC
  topVC.map application.topmost

/-- The key window if it is one of the application's windows or if there are
none, else the first window. -/
def chosenWindow (application : UIApplication) : Option UIWindow :=
  if application.windows = [] ∨ ∃ window ∈ application.windows, application.keyWindow = some window then
    application.keyWindow
  else application.windows.head?

def chosenWindowRoot (application : UIApplication) : Option UIViewController :=
  application.chosenWindow.bind application.rootViewController

def delegateWindowRoot (application : UIApplication) : Option UIViewController :=
  application.delegateWindow.join.bind application.rootViewController

/-- What `topVC` holds when its loop is entered. -/
def firstVC (application : UIApplication) : Option UIViewController :=
  match application.rootWindow.bind application.rootViewController, application.delegateWindow with
  | none, some window => window.bind application.rootViewController
  | topVC, _ => topVC

/-- `topVC` with its loop cut off after `fuel` tests of the condition; `none` if
it is still running then. -/
def topVCWithin (fuel : Nat) (application : UIApplication) : Option (Option UIViewController) :=
  match application.firstVC with
  -- the condition of the loop sends `presentedViewController` to nil
  | none => some none
  | some root => (walk application.presentedViewController fuel root).map some

theorem rootWindow_eq_chosenWindow (application : UIApplication) :
    application.rootWindow = application.chosenWindow := by
  unfold rootWindow chosenWindow
  cases windows : application.windows with
  | nil => simp
  | cons first rest =>
      cases key : application.keyWindow with
      | none => simp
      | some window =>
          by_cases listed : window ∈ first :: rest
          · have found : (first :: rest).contains window = true := List.contains_iff_mem.mpr listed
            rw [if_neg (by rw [Option.all_some, found]; exact Bool.false_ne_true),
              if_pos (.inr ⟨window, listed, rfl⟩)]
          · rw [if_pos (by simpa using listed), if_neg]
            rintro (none | ⟨other, otherListed, same⟩)
            · cases none
            · cases same
              exact listed otherListed

theorem topVC_eq (application : UIApplication) :
    application.topVC = application.firstVC.map application.topmost := rfl

theorem firstVC_eq (application : UIApplication) :
    application.firstVC = application.chosenWindowRoot.or application.delegateWindowRoot := by
  unfold firstVC
  rw [rootWindow_eq_chosenWindow]
  unfold chosenWindowRoot delegateWindowRoot
  cases application.chosenWindow.bind application.rootViewController with
  | some root => rfl
  | none =>
      cases application.delegateWindow with
      | none => rfl
      | some window => rfl

/-- The loop follows the chain to its end. -/
theorem ends_topmost (application : UIApplication) (root : UIViewController) :
    Ends application.presentedViewController root (application.topmost root) := by
  induction root using application.finite.induction with
  | _ controller ih =>
      rw [topmost]
      split
      · next stops => exact .here stops
      · next presented presents => exact .head presents (ih presented presents)

theorem topVC_eq_none_iff (application : UIApplication) :
    application.topVC = none ↔
      application.chosenWindowRoot = none ∧ application.delegateWindowRoot = none := by
  rw [topVC_eq, firstVC_eq, Option.map_eq_none_iff, Option.or_eq_none_iff]

theorem topVCWithin_eq (application : UIApplication) :
    ∃ steps, ∀ fuel, steps ≤ fuel → application.topVCWithin fuel = some application.topVC := by
  rw [topVC_eq]
  unfold topVCWithin
  cases application.firstVC with
  | none => exact ⟨0, fun _ _ => rfl⟩
  | some root =>
      obtain ⟨steps, reaches⟩ := (application.ends_topmost root).walk_eq
      refine ⟨steps, ?_⟩
      intro fuel enough
      simp only [reaches fuel enough, Option.map_some]

theorem topVC_end_of_chain (application : UIApplication) :
    (∃ steps, ∀ fuel, steps ≤ fuel → application.topVCWithin fuel = some application.topVC) ∧
    (application.topVC = none ↔
      application.chosenWindowRoot = none ∧ application.delegateWindowRoot = none) ∧
    ∀ root ∈ application.chosenWindowRoot.or application.delegateWindowRoot, ∃ top,
      application.topVC = some top ∧
      ∀ controller, Ends application.presentedViewController root controller ↔ controller = top := by
  refine ⟨application.topVCWithin_eq, application.topVC_eq_none_iff, ?_⟩
  intro root start
  refine ⟨application.topmost root, ?_, ?_⟩
  · rw [topVC_eq, firstVC_eq, start, Option.map_some]
  · intro controller
    constructor
    · exact (application.ends_topmost root).unique
    · rintro rfl
      exact application.ends_topmost root

/-- Window 0 is key but not listed, window 1 has no root and the delegate's window
has controller 1, which presents 2. -/
def twoPresented : UIApplication where
  keyWindow := some 0
  windows := [1]
  rootViewController window := if window = 2 then some 1 else none
  delegateWindow := some (some 2)
  presentedViewController controller := if controller = 1 then some 2 else none
  finite := by
    refine Subrelation.wf ?_ (measure fun controller => 2 - controller).wf
    intro later earlier presents
    change (if earlier = 1 then some 2 else none) = some later at presents
    split at presents
    · next first =>
        cases presents
        subst first
        exact Nat.one_pos
    · cases presents

theorem twoPresented_topVC :
    1 ∈ twoPresented.chosenWindowRoot.or twoPresented.delegateWindowRoot ∧
      twoPresented.topVC = some 2 := by
  have start : 1 ∈ twoPresented.chosenWindowRoot.or twoPresented.delegateWindowRoot := by decide
  obtain ⟨top, found, atEnd⟩ := twoPresented.topVC_end_of_chain.2.2 1 start
  have ends : Ends twoPresented.presentedViewController 1 2 := .head rfl (.here rfl)
  rw [(atEnd 2).mp ends]
  exact ⟨start, found⟩

end UIApplication

end GDTAdapter
