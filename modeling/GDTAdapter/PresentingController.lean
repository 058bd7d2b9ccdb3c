import GDTAdapter.Interstitial.CustomEvent
import GDTAdapter.Reactive.Holder
import GDTAdapter.Reactive.Observer
import GDTAdapter.RewardedVideo.Availability

namespace GDTAdapter

open Reactive

/-! # The presenting controller

Both full-screen custom events store the controller of a present call in `rootVC`
and clear it in the callbacks that end a presentation.  The observer lists the
presentations handed to GDT that have neither been closed nor failed.
-/

abbrev Opened := List (Nat × Option UIViewController)

namespace RewardedVideo

/-- A failure of an ad with no open presentation is the failure of its load. -/
def CustomEvent.Callback.ends : CustomEvent.Callback → Bool
  | .didClose => true
  | .didFailWithError _ => true
  | _ => false

def handedOver : Call → Option (Nat × Option UIViewController)
  | .showAdFromRootViewController ad viewController => some (ad.ref, viewController)
  | _ => none

def recordOpened (state : Instance) (opened : Opened) : Input → Opened
  | .present reading viewController =>
      (calls (state.event.presentRewardedVideo reading viewController).2).filterMap handedOver ++ opened
  | .callback _ ad callback => if callback.ends then Holder.finish ad opened else opened
  | _ => opened

def presenting : Machine (Instance × Opened) Input (Effect Call Message) :=
  machine.observed recordOpened

def holder (seen : Instance × Opened) : Holder UIViewController where
  held := seen.1.event.rootVC
  opened := seen.2

/-- A present call that is refused leaves every property of the event as it was. -/
def RefusalUnchanged (seen : Instance × Opened) : Input → Prop
  | .present reading viewController => seen.1.event.isAdValid reading = false →
      (seen.1.event.presentRewardedVideo reading viewController).1 = seen.1.event
  | _ => True

def CustomEvent.accepted (reading : Reading) (event : CustomEvent) : Option Nat :=
  event.rewardVideoAd.bind fun ad => if reading.isAdValid ad.ref then some ad.ref else none

def move (seen : Instance × Opened) : Input → Holder.Move UIViewController
  | .present reading viewController => .present (seen.1.event.accepted reading) viewController
  | .callback _ ad callback => if callback.ends then .finish ad else .rest
  | _ => .rest

theorem accepted_eq_none_iff {reading : Reading} {event : CustomEvent} :
    event.accepted reading = none ↔ event.isAdValid reading = false := by
  unfold CustomEvent.accepted CustomEvent.isAdValid
  cases event.rewardVideoAd with
  | none => simp
  | some ad => cases valid : reading.isAdValid ad.ref <;> simp [valid]

theorem handedOver_present (reading : Reading) (viewController : Option UIViewController)
    (event : CustomEvent) :
    (calls (event.presentRewardedVideo reading viewController).2).filterMap handedOver =
      ((event.accepted reading).map fun ad => (ad, viewController)).toList := by
  cases valid : event.isAdValid reading with
  | true =>
      obtain ⟨ad, current, effects⟩ := CustomEvent.presentRewardedVideo_of_valid viewController valid
      have valid : reading.isAdValid ad.ref = true := by
        simpa [CustomEvent.isAdValid, current] using valid
      rw [effects]
      simp [CustomEvent.accepted, current, valid, handedOver]
  | false =>
      rw [CustomEvent.presentRewardedVideo_of_invalid valid, accepted_eq_none_iff.mpr valid,
        Delegate.calls_send]
      rfl

theorem presentRewardedVideo_rootVC (reading : Reading) (viewController : Option UIViewController)
    (event : CustomEvent) :
    (event.presentRewardedVideo reading viewController).1.rootVC =
      viewController.or event.rootVC := by
  rw [CustomEvent.presentRewardedVideo_fst]
  cases viewController <;> rfl

theorem presentRewardedVideo_unchanged_iff {reading : Reading}
    {viewController : Option UIViewController} {event : CustomEvent} :
    (event.presentRewardedVideo reading viewController).1 = event ↔
      viewController = none ∨ event.rootVC = viewController := by
  rw [CustomEvent.presentRewardedVideo_fst]
  obtain ⟨delegate, rewardVideoAd, rootVC⟩ := event
  cases viewController with
  | none => simp
  | some controller => simp [eq_comm]

theorem holder_next (seen : Instance × Opened) (input : Input) :
    holder (presenting.next seen input) = (holder seen).after (move seen input) := by
  obtain ⟨state, opened⟩ := seen
  cases input with
  | request info =>
      have kept : (machine.next state (.request info)).event.rootVC = state.event.rootVC := by
        simp only [Machine.next, machine, Instance.step, CustomEvent.requestRewardedVideo]
        split <;> rfl
      exact congrArg (Holder.mk · opened) kept
  | present reading viewController =>
      refine Eq.trans ?_ (Holder.after_present _ _).symm
      exact congrArg₂ Holder.mk (presentRewardedVideo_rootVC reading viewController state.event)
        (congrArg (· ++ opened) (handedOver_present reading viewController state.event))
  | callback reading ad callback =>
      cases callback with
      | videoDidLoad =>
          have kept : (machine.next state (.callback reading ad .videoDidLoad)).event.rootVC =
              state.event.rootVC := by
            simp only [Machine.next, machine, Instance.step, CustomEvent.receive,
              CustomEvent.gdtRewardVideoAdVideoDidLoad_eq]
            split <;> rfl
          exact congrArg (Holder.mk · opened) kept
      | _ => rfl
  | handleAdPlayed reading =>
      have kept : (machine.next state (.handleAdPlayed reading)).event.rootVC = state.event.rootVC := by
        simp only [Machine.next, machine, Instance.step, CustomEvent.handleAdPlayed_eq]
      exact congrArg (Holder.mk · opened) kept
  | setDelegate delegate => rfl

theorem refusalUnchanged_iff (seen : Instance × Opened) (input : Input) :
    RefusalUnchanged seen input ↔ (holder seen).Unmoved (move seen input) := by
  cases input with
  | present reading viewController =>
      refine Iff.trans ?_ Holder.unmoved_present_iff.symm
      exact imp_congr accepted_eq_none_iff.symm presentRewardedVideo_unchanged_iff
  | callback reading ad callback => cases callback <;> exact Iff.rfl
  | _ => exact Iff.rfl

/-- In every state `rootVC` is held exactly while a presentation from a controller
is open, and refused present calls change nothing. -/
structure HeldExactly (delegate : Delegate Selector) (inputs : List Input) : Prop where
  held : presenting.Always (fun seen => (holder seen).Exact) (({ event := { delegate } } : Instance), []) inputs
  refused : presenting.Along RefusalUnchanged (({ event := { delegate } } : Instance), []) inputs

theorem heldExactly_iff_keeps (delegate : Delegate Selector) (inputs : List Input) :
    HeldExactly delegate inputs ↔
      presenting.Along (fun seen input => (holder seen).Keeps (move seen input))
        (({ event := { delegate } } : Instance), []) inputs := by
  have start : (holder (({ event := { delegate } } : Instance), [])).Exact :=
    Holder.exact_none_iff.mpr nofun
  have run := Holder.exact_run_iff holder_next start inputs
  rw [← run, ← Machine.along_congr_step refusalUnchanged_iff]
  constructor
  · intro exactly
    exact ⟨exactly.held, exactly.refused⟩
  · intro exactly
    exact ⟨exactly.1, exactly.2⟩

end RewardedVideo

namespace Interstitial

def CustomEvent.Callback.ends : CustomEvent.Callback → Bool
  | .didDismissScreen => true
  | .failToPresent _ => true
  | _ => false

def handedOver : Call → Option (Nat × Option UIViewController)
  | .presentAdFromRootViewController ad rootViewController => some (ad.ref, rootViewController)
  | _ => none

def recordOpened (state : Instance) (opened : Opened) : Input → Opened
  | .show reading rootViewController =>
      (calls (state.event.showInterstitial reading rootViewController).2).filterMap handedOver ++ opened
  | .callback ad callback => if callback.ends then Holder.finish ad opened else opened
  | _ => opened

def presenting : Machine (Instance × Opened) Input (Effect Call Message) :=
  machine.observed recordOpened

def holder (seen : Instance × Opened) : Holder UIViewController where
  held := seen.1.event.rootVC
  opened := seen.2

def RefusalUnchanged (seen : Instance × Opened) : Input → Prop
  | .show reading rootViewController => seen.1.event.hasAdAvailable reading = false →
      (seen.1.event.showInterstitial reading rootViewController).1 = seen.1.event
  | _ => True

def CustomEvent.accepted (reading : Reading) (event : CustomEvent) : Option Nat :=
  event.interstitial.bind fun ad => if reading.isAdValid ad.ref then some ad.ref else none

/-- A failed load clears the controller as well, but ends no presentation. -/
def move (seen : Instance × Opened) : Input → Holder.Move UIViewController
  | .show reading rootViewController => .present (seen.1.event.accepted reading) rootViewController
  | .callback _ (.failToLoadAd _) => .release
  | .callback ad callback => if callback.ends then .finish ad else .rest
  | _ => .rest

theorem accepted_eq_none_iff {reading : Reading} {event : CustomEvent} :
    event.accepted reading = none ↔ event.hasAdAvailable reading = false := by
  unfold CustomEvent.accepted CustomEvent.hasAdAvailable
  cases event.interstitial with
  | none => simp
  | some ad => cases valid : reading.isAdValid ad.ref <;> simp [valid]

theorem handedOver_show (reading : Reading) (rootViewController : Option UIViewController)
    (event : CustomEvent) :
    (calls (event.showInterstitial reading rootViewController).2).filterMap handedOver =
      ((event.accepted reading).map fun ad => (ad, rootViewController)).toList := by
  cases available : event.hasAdAvailable reading with
  | true =>
      obtain ⟨ad, current, effects⟩ :=
        CustomEvent.showInterstitial_of_valid rootViewController available
      have valid : reading.isAdValid ad.ref = true := by
        simpa [CustomEvent.hasAdAvailable, current] using available
      rw [effects]
      simp [CustomEvent.accepted, current, valid, handedOver]
  | false =>
      rw [CustomEvent.showInterstitial_of_invalid available, accepted_eq_none_iff.mpr available,
        Delegate.calls_send]
      rfl

theorem showInterstitial_rootVC (reading : Reading) (rootViewController : Option UIViewController)
    (event : CustomEvent) :
    (event.showInterstitial reading rootViewController).1.rootVC =
      rootViewController.or event.rootVC := by
  rw [CustomEvent.showInterstitial_fst]
  cases rootViewController <;> rfl

theorem showInterstitial_unchanged_iff {reading : Reading}
    {rootViewController : Option UIViewController} {event : CustomEvent} :
    (event.showInterstitial reading rootViewController).1 = event ↔
      rootViewController = none ∨ event.rootVC = rootViewController := by
  rw [CustomEvent.showInterstitial_fst]
  obtain ⟨delegate, interstitial, rootVC⟩ := event
  cases rootViewController with
  | none => simp
  | some controller => simp [eq_comm]

theorem holder_next (seen : Instance × Opened) (input : Input) :
    holder (presenting.next seen input) = (holder seen).after (move seen input) := by
  obtain ⟨state, opened⟩ := seen
  cases input with
  | request info =>
      have kept : (machine.next state (.request info)).event.rootVC = state.event.rootVC := by
        simp only [Machine.next, machine, Instance.step, CustomEvent.requestInterstitial]
        split <;> rfl
      exact congrArg (Holder.mk · opened) kept
  | «show» reading rootViewController =>
      refine Eq.trans ?_ (Holder.after_present _ _).symm
      exact congrArg₂ Holder.mk (showInterstitial_rootVC reading rootViewController state.event)
        (congrArg (· ++ opened) (handedOver_show reading rootViewController state.event))
  | callback ad callback => cases callback <;> rfl
  | setDelegate delegate => rfl

theorem refusalUnchanged_iff (seen : Instance × Opened) (input : Input) :
    RefusalUnchanged seen input ↔ (holder seen).Unmoved (move seen input) := by
  cases input with
  | «show» reading rootViewController =>
      refine Iff.trans ?_ Holder.unmoved_present_iff.symm
      exact imp_congr accepted_eq_none_iff.symm showInterstitial_unchanged_iff
  | callback ad callback => cases callback <;> exact Iff.rfl
  | _ => exact Iff.rfl

structure HeldExactly (delegate : Delegate Selector) (inputs : List Input) : Prop where
  held : presenting.Always (fun seen => (holder seen).Exact) (({ event := { delegate } } : Instance), []) inputs
  refused : presenting.Along RefusalUnchanged (({ event := { delegate } } : Instance), []) inputs

theorem heldExactly_iff_keeps (delegate : Delegate Selector) (inputs : List Input) :
    HeldExactly delegate inputs ↔
      presenting.Along (fun seen input => (holder seen).Keeps (move seen input))
        (({ event := { delegate } } : Instance), []) inputs := by
  have start : (holder (({ event := { delegate } } : Instance), [])).Exact :=
    Holder.exact_none_iff.mpr nofun
  have run := Holder.exact_run_iff holder_next start inputs
  rw [← run, ← Machine.along_congr_step refusalUnchanged_iff]
  constructor
  · intro exactly
    exact ⟨exactly.held, exactly.refused⟩
  · intro exactly
    exact ⟨exactly.1, exactly.2⟩

end Interstitial

theorem rootVC_heldExactly_iff (videoDelegate : Delegate RewardedVideo.Selector)
    (videoInputs : List RewardedVideo.Input) (delegate : Delegate Interstitial.Selector)
    (inputs : List Interstitial.Input) :
    (RewardedVideo.HeldExactly videoDelegate videoInputs ↔
      RewardedVideo.presenting.Along
        (fun seen input => (RewardedVideo.holder seen).Keeps (RewardedVideo.move seen input))
        ({ event := { delegate := videoDelegate } }, []) videoInputs) ∧
    (Interstitial.HeldExactly delegate inputs ↔
      Interstitial.presenting.Along
        (fun seen input => (Interstitial.holder seen).Keeps (Interstitial.move seen input))
        ({ event := { delegate } }, []) inputs) :=
  ⟨RewardedVideo.heldExactly_iff_keeps videoDelegate videoInputs,
    Interstitial.heldExactly_iff_keeps delegate inputs⟩

/-- The ad shown from controller 1 is still on screen when the load of the next
one fails. -/
def nextFailsWhileShowing : List Interstitial.Input :=
  [.request { adunit := some "8020" },
    .show { now := 0, isAdValid := fun _ => true, expiredTimestamp := fun _ => 0 } (some 1),
    .callback 0 .willPresentScreen, .request { adunit := some "8020" },
    .callback 1 (.failToLoadAd { domain := "GDT", code := 5004, localizedDescription := none })]

def refusedWithController : List RewardedVideo.Input :=
  [.request { adunit := some "8020" },
    .present { now := 0, isAdValid := fun _ => false, expiredTimestamp := fun _ => 0 } (some 1)]

theorem rootVC_not_heldExactly :
    (RewardedVideo.machine.Runs { event := { delegate := none } } refusedWithController ∧
      ¬ RewardedVideo.HeldExactly none refusedWithController) ∧
    Interstitial.machine.Runs { event := { delegate := none } } nextFailsWhileShowing ∧
      ¬ Interstitial.HeldExactly none nextFailsWhileShowing := by
  refine ⟨⟨⟨trivial, trivial, trivial⟩, ?_⟩, ?_, ?_⟩
  · intro exactly
    cases exactly.refused.2.1 rfl
  · exact ⟨trivial, trivial, Nat.one_pos, trivial, Nat.one_lt_two, trivial⟩
  · intro exactly
    have released := (exactly.held nextFailsWhileShowing [] (List.append_nil _).symm).held_iff
    cases released.mpr ⟨(0, some 1), List.mem_cons_self, rfl⟩

end GDTAdapter
