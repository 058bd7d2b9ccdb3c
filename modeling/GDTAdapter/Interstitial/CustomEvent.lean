import GDTAdapter.Foundation
import GDTAdapter.Reactive.Machine
import GDTAdapter.Reactive.Messaging

namespace GDTAdapter.Interstitial

open Reactive

/-! # MobiGDTInterstitialCustomEvent -/

structure GDTUnifiedInterstitialAd where
  ref : Nat
  placementId : String
  videoMuted : Bool
  videoAutoPlayOnWWAN : Bool
deriving DecidableEq, Repr

inductive Selector where
  | didLoadAd
  | didFailToLoadAdWithError
  | didExpire
  | willAppear
  | didAppear
  | willDisappear
  | didDisappear
  | didReceiveTapEvent
  | willLeaveApplication
  | willPresentModal
  | didDismissModal
deriving DecidableEq, Repr

/-- The ad object that `didLoadAd:` carries is nil on every path. -/
inductive Message where
  | didLoadAd
  | didFailToLoadAdWithError (error : NSError)
  | didExpire
  | willAppear
  | didAppear
  | willDisappear
  | didDisappear
  | didReceiveTapEvent
  | willLeaveApplication
  | willPresentModal
  | didDismissModal
deriving DecidableEq, Repr

inductive Call where
  | initWithPlacementId (ad : GDTUnifiedInterstitialAd)
  | loadAd (ad : GDTUnifiedInterstitialAd)
  | presentAdFromRootViewController (ad : GDTUnifiedInterstitialAd)
      (rootViewController : Option UIViewController)
deriving DecidableEq, Repr

structure CustomEvent where
  delegate : Delegate Selector
  interstitial : Option GDTUnifiedInterstitialAd := none
  rootVC : Option UIViewController := none

namespace CustomEvent

abbrev Effects := List (Effect Call Message)

def invalidPosid : NSError where
  domain := "MobiInterstitialAdsSDKDomain"
  code := -1500
  localizedDescription := some "Ad Unit ID cannot be nil."

def noAdsAvailable : NSError where
  domain := "MobiInterstitialAdsSDKDomain"
  code := -1100
  localizedDescription := some "Cannot present intersitial ads. Cause interstitial ad is invalid"

def requestInterstitial (fresh : Nat) (info : Info) (self : CustomEvent) : CustomEvent × Effects :=
  match info.adunit with
  | none => (self, self.delegate.send (.didFailToLoadAdWithError invalidPosid))
  | some adUnitId =>
      let ad : GDTUnifiedInterstitialAd :=
        { ref := fresh, placementId := adUnitId, videoMuted := true, videoAutoPlayOnWWAN := false }
      ({ self with interstitial := some ad }, [.call (.initWithPlacementId ad), .call (.loadAd ad)])

def hasAdAvailable (reading : Reading) (self : CustomEvent) : Bool :=
  self.interstitial.elim false (fun ad => reading.isAdValid ad.ref)

def showInterstitial (reading : Reading) (rootViewController : Option UIViewController)
    (self : CustomEvent) : CustomEvent × Effects :=
  let self := if rootViewController.isSome then { self with rootVC := rootViewController } else self
  match self.interstitial with
  | some ad =>
      if reading.isAdValid ad.ref then
        (self, [.call (.presentAdFromRootViewController ad rootViewController)])
      else (self, self.delegate.send (.didFailToLoadAdWithError noAdsAvailable))
  | none => (self, self.delegate.send (.didFailToLoadAdWithError noAdsAvailable))

def enableAutomaticImpressionAndClickTracking : Bool := true

inductive Callback where
  | successToLoadAd
  | failToLoadAd (error : NSError)
  | willPresentScreen
  | didPresentScreen
  | failToPresent (error : NSError)
  | didDismissScreen
  | willLeaveApplication
  | willExposure
  | clicked
  | adWillPresentFullScreenModal
  | adDidPresentFullScreenModal
  | adWillDismissFullScreenModal
  | adDidDismissFullScreenModal
  | playerStatusChanged (status : GDTMediaPlayerStatus)
  | adViewWillPresentVideoVC
  | adViewDidPresentVideoVC
  | adViewWillDismissVideoVC
  | adViewDidDismissVideoVC
deriving DecidableEq, Repr

def unifiedInterstitialSuccessToLoadAd (self : CustomEvent) : CustomEvent × Effects :=
  (self, self.delegate.notify .didLoadAd .didLoadAd)

def unifiedInterstitialFailToLoadAd (error : NSError) (self : CustomEvent) : CustomEvent × Effects :=
  ({ self with rootVC := none },
    self.delegate.notify .didFailToLoadAdWithError (.didFailToLoadAdWithError error))

def unifiedInterstitialWillPresentScreen (self : CustomEvent) : CustomEvent × Effects :=
  (self, self.delegate.notify .willAppear .willAppear)

def unifiedInterstitialDidPresentScreen (self : CustomEvent) : CustomEvent × Effects :=
  (self, self.delegate.notify .didAppear .didAppear)

def unifiedInterstitialDidDismissScreen (self : CustomEvent) : CustomEvent × Effects :=
  ({ self with rootVC := none },
    self.delegate.notify .willDisappear .willDisappear ++
      self.delegate.notify .didDisappear .didDisappear)

/-- A failed presentation is reported by the message of a failed load. -/
def unifiedInterstitialFailToPresent (error : NSError) (self : CustomEvent) : CustomEvent × Effects :=
  ({ self with rootVC := none },
    self.delegate.notify .didFailToLoadAdWithError (.didFailToLoadAdWithError error))

def unifiedInterstitialClicked (self : CustomEvent) : CustomEvent × Effects :=
  (self, self.delegate.notify .didReceiveTapEvent .didReceiveTapEvent)

def unifiedInterstitialAdWillDismissFullScreenModal (self : CustomEvent) : CustomEvent × Effects :=
  (self, self.delegate.notify .didDismissModal .didDismissModal)

def unifiedInterstitialWillLeaveApplication (self : CustomEvent) : CustomEvent × Effects :=
  (self, self.delegate.notify .willLeaveApplication .willLeaveApplication)

/-- GDT's dispatch; no body looks at the ad the callback is about. -/
def receive (_ad : Nat) (self : CustomEvent) : Callback → CustomEvent × Effects
  | .successToLoadAd => self.unifiedInterstitialSuccessToLoadAd
  | .failToLoadAd error => self.unifiedInterstitialFailToLoadAd error
  | .willPresentScreen => self.unifiedInterstitialWillPresentScreen
  | .didPresentScreen => self.unifiedInterstitialDidPresentScreen
  | .failToPresent error => self.unifiedInterstitialFailToPresent error
  | .didDismissScreen => self.unifiedInterstitialDidDismissScreen
  | .willLeaveApplication => self.unifiedInterstitialWillLeaveApplication
  | .clicked => self.unifiedInterstitialClicked
  | .adWillDismissFullScreenModal => self.unifiedInterstitialAdWillDismissFullScreenModal
  -- the class does not implement the others, so GDT does not send them
  | _ => (self, [])

variable {reading : Reading} {event : CustomEvent} {rootViewController : Option UIViewController}

theorem exists_ad_of_available (available : event.hasAdAvailable reading = true) :
    ∃ ad, event.interstitial = some ad ∧ reading.isAdValid ad.ref = true := by
  cases current : event.interstitial with
  | none => simp [hasAdAvailable, current] at available
  | some ad => exact ⟨ad, rfl, by simpa [hasAdAvailable, current] using available⟩

theorem showInterstitial_of_valid (rootViewController : Option UIViewController)
    (available : event.hasAdAvailable reading = true) :
    ∃ ad, event.interstitial = some ad ∧
      (event.showInterstitial reading rootViewController).2 =
        [.call (.presentAdFromRootViewController ad rootViewController)] := by
  obtain ⟨ad, current, valid⟩ := exists_ad_of_available available
  refine ⟨ad, current, ?_⟩
  cases rootViewController <;> simp [showInterstitial, current, valid]

theorem showInterstitial_of_invalid (unavailable : event.hasAdAvailable reading = false) :
    (event.showInterstitial reading rootViewController).2 =
      event.delegate.send (.didFailToLoadAdWithError noAdsAvailable) := by
  cases current : event.interstitial with
  | none => cases rootViewController <;> simp [showInterstitial, current]
  | some ad =>
      have invalid : reading.isAdValid ad.ref = false := by
        simpa [hasAdAvailable, current] using unavailable
      cases rootViewController <;> simp [showInterstitial, current, invalid]

theorem showInterstitial_fst :
    (event.showInterstitial reading rootViewController).1 =
      if rootViewController.isSome then { event with rootVC := rootViewController } else event := by
  cases current : event.interstitial with
  | none => cases rootViewController <;> simp [showInterstitial, current]
  | some ad =>
      cases valid : reading.isAdValid ad.ref <;> cases rootViewController <;>
        simp [showInterstitial, current, valid]

theorem showInterstitial_delegate :
    (event.showInterstitial reading rootViewController).1.delegate = event.delegate := by
  rw [showInterstitial_fst]
  split <;> rfl

theorem showInterstitial_interstitial :
    (event.showInterstitial reading rootViewController).1.interstitial = event.interstitial := by
  rw [showInterstitial_fst]
  split <;> rfl

end CustomEvent

/-- Ads are numbered in the order of the accepted requests; `presented` keeps
those handed to GDT for presentation. -/
structure Instance where
  event : CustomEvent
  fresh : Nat := 0
  presented : List Nat := []

inductive Input where
  | request (info : Info)
  | show (reading : Reading) (rootViewController : Option UIViewController)
  | callback (ad : Nat) (callback : CustomEvent.Callback)
  | setDelegate (delegate : Delegate Selector)

def shownAd : Call → Option Nat
  | .presentAdFromRootViewController ad _ => some ad.ref
  | _ => none

def Instance.step (self : Instance) : Input → Instance × CustomEvent.Effects
  | .request info =>
      let (event, effects) := self.event.requestInterstitial self.fresh info
      ({ self with event, fresh := if info.adunit.isSome then self.fresh + 1 else self.fresh }, effects)
  | .show reading rootViewController =>
      let (event, effects) := self.event.showInterstitial reading rootViewController
      ({ self with event, presented := self.presented ++ (calls effects).filterMap shownAd }, effects)
  | .callback ad callback =>
      let (event, effects) := self.event.receive ad callback
      ({ self with event }, effects)
  | .setDelegate delegate => ({ self with event := { self.event with delegate } }, [])

def Instance.enabled (self : Instance) : Input → Prop
  | .callback ad _ => ad < self.fresh
  | _ => True

def machine : Machine Instance Input (Effect Call Message) where
  enabled := Instance.enabled
  step := Instance.step

end GDTAdapter.Interstitial
