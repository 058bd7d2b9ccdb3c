import GDTAdapter.BannerHost.Slots

namespace GDTAdapter.BannerHost

open Reactive Timers

/-! # What the ad view hears

The `MPAdView` is told of ads and of modals.  It is never given another ad while
the user is in a modal, and a modal whose ad is taken away has ended with it.
-/

/-- What there is on the screen; `torn` is a modal without its ad. -/
inductive Screen where
  | blank
  | shown
  | modal
  | torn
deriving DecidableEq, Repr

namespace Screen

def hear : Screen → ManagerMessage → Option Screen
  | .blank, .managerDidLoadAd _ => some .shown
  | .shown, .managerDidLoadAd _ => some .shown
  | .shown, .invalidateContentView => some .blank
  | .modal, .invalidateContentView => some .torn
  | .shown, .userActionWillBegin => some .modal
  | .modal, .userActionWillBegin => some .modal
  | .shown, .userActionDidFinish => some .shown
  | .modal, .userActionDidFinish => some .shown
  | .torn, .userActionDidFinish => some .blank
  | .shown, .userWillLeaveApplication => some .shown
  | .modal, .userWillLeaveApplication => some .modal
  | .blank, .managerDidFailToLoadAdWithError _ => some .blank
  | .shown, .managerDidFailToLoadAdWithError _ => some .shown
  | .modal, .managerDidFailToLoadAdWithError _ => some .modal
  | _, _ => none

/-- Nothing comes between the loss of an ad and the end of its modal. -/
def monitor : Monitor Screen Output
  | screen, .manager message => screen.hear message
  | .torn, _ => none
  | screen, _ => some screen

def Tells : Output → Prop
  | .manager _ => True
  | _ => False

end Screen

namespace AdManager

/-- The screen as the ad view was told of it is what there is. -/
structure Pictures (manager : AdManager) (screen : Screen) : Prop where
  whole : screen ≠ .torn
  modal : screen = .modal ↔ manager.adActionInProgress = true
  visible : screen = .blank ↔ manager.adContentView = none
  touches : manager.userInteractionEnabled = manager.adContentView.isSome
  onscreen : manager.onscreenAdapter.isSome = true → screen ≠ .blank

section Acts

variable {before after : AdManager} {screen : Screen} {now : ℚ} {outputs : List Output}

/-- What an act leaves alone of the screen. -/
structure SameScreen (before after : AdManager) : Prop where
  modal : after.adActionInProgress = before.adActionInProgress
  visible : after.adContentView = before.adContentView
  touches : after.userInteractionEnabled = before.userInteractionEnabled
  onscreen : after.onscreenAdapter.isSome = true → before.onscreenAdapter.isSome = true

/-- The outputs tell the ad view how the screen changes. -/
def Told (screen : Screen) (outputs : List Output) (after : AdManager) : Prop :=
  ∃ later, Screen.monitor.run screen outputs = some later ∧ Pictures after later

theorem Told.append {more : List Output} {middle : AdManager}
    (first : Told screen outputs middle)
    (second : ∀ later, Pictures middle later → Told later more after) :
    Told screen (outputs ++ more) after := by
  obtain ⟨later, here, pictures⟩ := first
  obtain ⟨last, there, finallyPictures⟩ := second later pictures
  refine ⟨last, ?_, finallyPictures⟩
  rw [Monitor.run_append, here, Option.bind_some, there]

theorem SameScreen.replace {adapter other : Adapter} (replaces : Replaces adapter other before after) :
    SameScreen before after := by
  cases replaces with
  | requesting held => exact ⟨rfl, rfl, rfl, id⟩
  | onscreen held => exact ⟨rfl, rfl, rfl, fun _ => by rw [held]; rfl⟩

end Acts

end AdManager

end GDTAdapter.BannerHost
