import GDTAdapter.Feed.Relay
import GDTAdapter.Interstitial.CustomEvent
import GDTAdapter.Reactive.Requester
import GDTAdapter.RewardedVideo.Availability
import GDTAdapter.Splash.CustomEvent

namespace GDTAdapter

open Reactive

/-! # Callbacks of superseded ads

GDT hands every load callback the ad it is about.  The four custom events that
keep an ad forward the callback without comparing that ad with their own.
-/

namespace RewardedVideo

def answered : Input → Option Nat
  | .callback _ ad .didLoad => some ad
  | .callback _ ad .videoDidLoad => some ad
  | .callback _ ad (.didFailWithError _) => some ad
  | _ => none

def Message.reportsLoad : Message → Bool
  | .rewardedVideoDidLoadAd => true
  | .rewardedVideoAdVideoDidLoad => true
  | .rewardedVideoDidFailToLoadAd _ => true
  | .rewardedVideoDidExpire => true
  | .rewardedVideoDidFailToPlay _ => true
  | _ => false

def requester : Requester Instance Input Call Message CustomEvent where
  machine := machine
  fresh := Instance.fresh
  presented := Instance.presented
  frame := Instance.event
  answered := answered
  reports := Message.reportsLoad

/-- The delegate does not implement what the callback sends, and what the callback
resets is reset already. -/
def Instance.Deaf (self : Instance) : Input → Prop
  | .callback _ _ .didLoad => self.event.delegate.responds .rewardedVideoDidLoadAd = false
  | .callback reading _ .videoDidLoad =>
      if self.event.hasAdAvailable reading then
        self.event.delegate.responds .rewardedVideoAdVideoDidLoad = false
      else self.event.delegate.responds .rewardedVideoDidExpire = false
  | .callback _ _ (.didFailWithError _) =>
      self.event.rootVC = none ∧ self.event.delegate.responds .rewardedVideoDidFailToPlay = false
  | _ => True

theorem untouched_iff_deaf (state : Instance) (input : Input) (ad : Nat)
    (about : requester.answered input = some ad) :
    requester.Untouched state input ↔ state.Deaf input := by
  cases input with
  | callback reading ref callback =>
      cases callback with
      | didLoad => exact (and_iff_right rfl).trans (requester.silent_notify_iff rfl)
      | videoDidLoad =>
          cases available : state.event.hasAdAvailable reading with
          | true =>
              simp only [Requester.Untouched, requester, Machine.next, Machine.emit, machine,
                Instance.step, CustomEvent.receive, CustomEvent.gdtRewardVideoAdVideoDidLoad_eq,
                Instance.Deaf, available, if_true, true_and]
              exact requester.silent_notify_iff rfl
          | false =>
              simp only [Requester.Untouched, requester, Machine.next, Machine.emit, machine,
                Instance.step, CustomEvent.receive, CustomEvent.gdtRewardVideoAdVideoDidLoad_eq,
                Instance.Deaf, available, Bool.false_eq_true, if_false, true_and]
              exact requester.silent_notify_iff rfl
      | didFailWithError error =>
          have released : ({ state.event with rootVC := none } : CustomEvent) = state.event ↔
              state.event.rootVC = none := by
            constructor
            · intro same
              exact (congrArg CustomEvent.rootVC same).symm
            · intro absent
              rw [← absent]
          exact and_congr released (requester.silent_notify_iff rfl)
      | _ => cases about
  | _ => cases about

end RewardedVideo

namespace Interstitial

def answered : Input → Option Nat
  | .callback ad .successToLoadAd => some ad
  | .callback ad (.failToLoadAd _) => some ad
  | _ => none

def Message.reportsLoad : Message → Bool
  | .didLoadAd => true
  | .didFailToLoadAdWithError _ => true
  | .didExpire => true
  | _ => false

def requester : Requester Instance Input Call Message CustomEvent where
  machine := machine
  fresh := Instance.fresh
  presented := Instance.presented
  frame := Instance.event
  answered := answered
  reports := Message.reportsLoad

def Instance.Deaf (self : Instance) : Input → Prop
  | .callback _ .successToLoadAd => self.event.delegate.responds .didLoadAd = false
  | .callback _ (.failToLoadAd _) =>
      self.event.rootVC = none ∧ self.event.delegate.responds .didFailToLoadAdWithError = false
  | _ => True

theorem untouched_iff_deaf (state : Instance) (input : Input) (ad : Nat)
    (about : requester.answered input = some ad) :
    requester.Untouched state input ↔ state.Deaf input := by
  cases input with
  | callback ref callback =>
      cases callback with
      | successToLoadAd => exact (and_iff_right rfl).trans (requester.silent_notify_iff rfl)
      | failToLoadAd error =>
          have released : ({ state.event with rootVC := none } : CustomEvent) = state.event ↔
              state.event.rootVC = none := by
            constructor
            · intro same
              exact (congrArg CustomEvent.rootVC same).symm
            · intro absent
              rw [← absent]
          exact and_congr released (requester.silent_notify_iff rfl)
      | _ => cases about
  | _ => cases about

end Interstitial

namespace Feed

def answered : Input → Option Nat
  | .callback _ (.successToLoad ad _) => some ad
  | .callback _ (.failToLoad ad _) => some ad
  | _ => none

def Message.reportsLoad : Message → Bool
  | .nativeExpressAdSuccessToLoad _ => true
  | .nativeExpressAdFailToLoad _ => true
  | .nativeExpressAdDidExpire => true
  | _ => false

def requester : Requester Instance Input Call Message CustomEvent where
  machine := machine
  fresh := Instance.fresh
  presented := Instance.presented
  frame := Instance.event
  answered := answered
  reports := Message.reportsLoad

def Instance.Deaf (self : Instance) : Input → Prop
  | .callback _ (.successToLoad _ views) =>
      (∀ array, self.event.expressAdViews = some array → array.contents = views) ∧
        self.event.delegate.responds .nativeExpressAdSuccessToLoad = false
  | .callback _ (.failToLoad _ _) =>
      -- the guard of the failed load asks for the selector of the successful one
      self.event.delegate.responds .nativeExpressAdSuccessToLoad = false
  | _ => True

theorem refilled_iff {event : CustomEvent} {views : List Nat} :
    { event with
        expressAdViews := event.expressAdViews.map fun array => { array with contents := views } } =
      event ↔ ∀ array, event.expressAdViews = some array → array.contents = views := by
  constructor
  · intro same array held
    have sameArray := congrArg CustomEvent.expressAdViews same
    simp only [held, Option.map_some, Option.some.injEq] at sameArray
    rw [← sameArray]
  · intro filled
    cases held : event.expressAdViews with
    | none =>
        rw [Option.map_none, ← held]
    | some array =>
        rw [Option.map_some, ← filled array held, ← held]

theorem untouched_iff_deaf (state : Instance) (input : Input) (ad : Nat)
    (about : requester.answered input = some ad) :
    requester.Untouched state input ↔ state.Deaf input := by
  cases input with
  | callback application callback =>
      cases callback with
      | successToLoad ref views =>
          have received : state.event.receive application (.successToLoad ref views) =
              state.event.nativeExpressAdSuccessToLoad application views :=
            CustomEvent.receive_found (by simp [CustomEvent.Callback.selector,
              CustomEvent.implementedSelectors])
          simp only [Requester.Untouched, requester, Machine.next, Machine.emit, machine,
            Instance.step, Instance.event_observe, received,
            CustomEvent.nativeExpressAdSuccessToLoad, messages_append, CustomEvent.messages_render,
            List.nil_append]
          exact and_congr refilled_iff (requester.silent_notify_iff rfl)
      | failToLoad ref error =>
          have received : state.event.receive application (.failToLoad ref error) =
              state.event.nativeExpressAdFailToLoad error :=
            CustomEvent.receive_found (by simp [CustomEvent.Callback.selector,
              CustomEvent.implementedSelectors])
          simp only [Requester.Untouched, requester, Machine.next, Machine.emit, machine,
            Instance.step, Instance.event_observe, received, CustomEvent.nativeExpressAdFailToLoad,
            true_and]
          exact requester.silent_notify_iff rfl
      | _ => cases about
  | _ => cases about

end Feed

namespace Splash

def answered : Input → Option Nat
  | .callback ad .didLoad => some ad
  | .callback ad (.failToPresent _) => some ad
  | _ => none

def Message.reportsLoad : Message → Bool
  | .splashAdDidLoad => true
  | .splashAdFailToPresent _ => true
  | .splashAdDidExpire => true
  | _ => false

def requester : Requester Instance Input Call Message CustomEvent where
  machine := machine
  fresh := Instance.fresh
  presented := Instance.presented
  frame := Instance.event
  answered := answered
  reports := Message.reportsLoad

def Instance.Deaf (self : Instance) : Input → Prop
  | .callback _ .didLoad => self.event.delegate.responds .splashAdDidLoad = false
  | .callback _ (.failToPresent _) =>
      self.event.splash = none ∧ self.event.delegate.responds .splashAdFailToPresent = false
  | _ => True

theorem untouched_iff_deaf (state : Instance) (input : Input) (ad : Nat)
    (about : requester.answered input = some ad) :
    requester.Untouched state input ↔ state.Deaf input := by
  cases input with
  | callback ref callback =>
      cases callback with
      | didLoad => exact (and_iff_right rfl).trans (requester.silent_notify_iff rfl)
      | failToPresent error =>
          have dropped : ({ state.event with splash := none } : CustomEvent) = state.event ↔
              state.event.splash = none := by
            constructor
            · intro same
              exact (congrArg CustomEvent.splash same).symm
            · intro absent
              rw [← absent]
          exact and_congr dropped (requester.silent_notify_iff rfl)
      | _ => cases about
  | _ => cases about

end Splash

/-- In every run of each of the four custom events, superseded ads are inert just
if none of their load callbacks is heard. -/
theorem superseded_inert_iff
    (video : Delegate RewardedVideo.Selector) (videoRun : List RewardedVideo.Input)
    (interstitial : Delegate Interstitial.Selector) (interstitialRun : List Interstitial.Input)
    (feed : Delegate Feed.Selector) (feedRun : List Feed.Input)
    (splash : Delegate Splash.Selector) (splashRun : List Splash.Input) :
    (RewardedVideo.machine.Along RewardedVideo.requester.Inert
        { event := { delegate := video } } videoRun ↔
      RewardedVideo.machine.Along (RewardedVideo.requester.Unheard RewardedVideo.Instance.Deaf)
        { event := { delegate := video } } videoRun) ∧
    (Interstitial.machine.Along Interstitial.requester.Inert
        { event := { delegate := interstitial } } interstitialRun ↔
      Interstitial.machine.Along (Interstitial.requester.Unheard Interstitial.Instance.Deaf)
        { event := { delegate := interstitial } } interstitialRun) ∧
    (Feed.machine.Along Feed.requester.Inert { event := { delegate := feed } } feedRun ↔
      Feed.machine.Along (Feed.requester.Unheard Feed.Instance.Deaf)
        { event := { delegate := feed } } feedRun) ∧
    (Splash.machine.Along Splash.requester.Inert { event := { delegate := splash } } splashRun ↔
      Splash.machine.Along (Splash.requester.Unheard Splash.Instance.Deaf)
        { event := { delegate := splash } } splashRun) := by
  refine ⟨?_, ?_, ?_, ?_⟩
  · exact Requester.along_inert_iff RewardedVideo.untouched_iff_deaf
  · exact Requester.along_inert_iff Interstitial.untouched_iff_deaf
  · exact Requester.along_inert_iff Feed.untouched_iff_deaf
  · exact Requester.along_inert_iff Splash.untouched_iff_deaf

theorem late_failure_not_inert :
    let start : Splash.Instance := { event := { delegate := some fun _ => true } }
    let timedOut : NSError := { domain := "GDTAdErrorDomain", code := 3001, localizedDescription := none }
    let run : List Splash.Input :=
      [.request { adunit := some "8020" }, .request { adunit := some "8021" },
        .callback 0 (.failToPresent timedOut)]
    Splash.machine.Runs start run ∧ ¬ Splash.machine.Along Splash.requester.Inert start run := by
  refine ⟨⟨trivial, trivial, (by decide : 0 < 2), trivial⟩, fun inert => ?_⟩
  obtain ⟨_, _, callback, _⟩ := inert
  obtain ⟨unchanged, _⟩ := callback 0 rfl ⟨(by decide : 0 + 1 < 2), List.not_mem_nil⟩
  exact nomatch congrArg Splash.CustomEvent.splash unchanged

end GDTAdapter
