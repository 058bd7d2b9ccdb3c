import GDTAdapter.Foundation
import GDTAdapter.Reactive.Machine
import GDTAdapter.Reactive.Messaging

namespace GDTAdapter.Splash

open Reactive

/-! # MobiGDTSplashCustomEvent -/

structure GDTSplashAd where
  ref : Nat
  placementId : String
  fetchDelay : Int
deriving DecidableEq, Repr

inductive Selector where
  | splashAdSuccessPresentScreen
  | splashAdDidLoad
  | splashAdFailToPresent
  | splashAdApplicationWillEnterBackground
  | splashAdExposured
  | splashAdClicked
  | splashAdWillClosed
  | splashAdClosed
  | splashAdDidExpire
  | splashAdWillPresentFullScreenModal
  | splashAdDidPresentFullScreenModal
  | splashAdWillDismissFullScreenModal
  | splashAdDidDismissFullScreenModal
  | splashAdLifeTime
deriving DecidableEq, Repr

inductive Message where
  | splashAdSuccessPresentScreen
  | splashAdDidLoad
  | splashAdFailToPresent (error : NSError)
  | splashAdApplicationWillEnterBackground
  | splashAdExposured
  | splashAdClicked
  | splashAdWillClosed
  | splashAdClosed
  | splashAdDidExpire
  | splashAdWillPresentFullScreenModal
  | splashAdDidPresentFullScreenModal
  | splashAdWillDismissFullScreenModal
  | splashAdDidDismissFullScreenModal
  | splashAdLifeTime (time : Nat)
deriving DecidableEq, Repr

/-- Calls on `GDTSplashAd`; the skip view is nil on the only path that shows an ad. -/
inductive Call where
  | initWithPlacementId (ad : GDTSplashAd)
  | loadAd (ad : GDTSplashAd)
  | showAdInWindow (ad : GDTSplashAd) (window : Option UIWindow) (bottomView : Option UIView)
  | preloadSplashOrder (placementId : Option String)
deriving DecidableEq, Repr

structure CustomEvent where
  delegate : Delegate Selector
  splash : Option GDTSplashAd := none
  bottomView : Option UIView := none
  adUnitId : Option String := none

namespace CustomEvent

abbrev Effects := List (Effect Call Message)

/-- `+[NSError splashErrorWithCode:localizedDescription:]` with `MobiSplashAdErrorNoAdsAvailable`. -/
def noAdsAvailable (localizedDescription : String) : NSError where
  domain := "MobiSplashAdsSDKDomain"
  code := -1100
  localizedDescription := some localizedDescription

/-- What a request stores before it makes the ad; a bottom view stays until a
later request brings another. -/
def prepare (adUnitId : String) (info : Info) (self : CustomEvent) : CustomEvent :=
  let prepared : CustomEvent := { self with adUnitId := some adUnitId }
  if info.bottomView.isSome then { prepared with bottomView := info.bottomView } else prepared

def makeSplash (fresh : Nat) (adUnitId : String) (info : Info) : GDTSplashAd :=
  -- `backImageView` is read here as well, and used nowhere
  let delay := floatValue info.delay
  { ref := fresh, placementId := adUnitId, fetchDelay := truncate (if delay ≠ 0 then delay else 3) }

def requestSplash (fresh : Nat) (info : Info) (self : CustomEvent) : CustomEvent × Effects :=
  match info.adunit with
  | none =>
      (self, self.delegate.notify .splashAdFailToPresent
        (.splashAdFailToPresent (noAdsAvailable "posid cannot be nil")))
  | some adUnitId =>
      let ad := makeSplash fresh adUnitId info
      -- the ad is stored after `loadAd` has returned
      ({ self.prepare adUnitId info with splash := some ad },
        [.call (.initWithPlacementId ad), .call (.loadAd ad)])

def hasAdAvailable (reading : Reading) (self : CustomEvent) : Bool :=
  self.splash.elim false (fun ad => reading.isAdValid ad.ref)

def presentSplash (reading : Reading) (window : Option UIWindow) (self : CustomEvent) :
    CustomEvent × Effects :=
  let refusal := self.delegate.notify .splashAdFailToPresent
    (.splashAdFailToPresent (noAdsAvailable "splash ad is not avaliable"))
  match self.splash with
  | some ad =>
      if reading.isAdValid ad.ref then
        (self, [.call (.showAdInWindow ad window self.bottomView)])
      else (self, refusal)
  | none => (self, refusal)

def handleAdPlayedForCustomEventNetwork (reading : Reading) (self : CustomEvent) :
    CustomEvent × Effects :=
  if !self.hasAdAvailable reading then (self, self.delegate.send .splashAdDidExpire) else (self, [])

inductive Callback where
  | successPresentScreen
  | didLoad
  | failToPresent (error : NSError)
  | applicationWillEnterBackground
  | exposured
  | clicked
  | willClosed
  | closed
  | willPresentFullScreenModal
  | didPresentFullScreenModal
  | willDismissFullScreenModal
  | didDismissFullScreenModal
  | lifeTime (time : Nat)
deriving DecidableEq, Repr

def splashAdSuccessPresentScreen (self : CustomEvent) : CustomEvent × Effects :=
  (self, self.delegate.notify .splashAdSuccessPresentScreen .splashAdSuccessPresentScreen ++
    [.call (.preloadSplashOrder self.adUnitId)])

/-- GDT reports failed loads here too; the current ad is dropped whichever ad failed. -/
def splashAdFailToPresent (error : NSError) (self : CustomEvent) : CustomEvent × Effects :=
  ({ self with splash := none },
    self.delegate.notify .splashAdFailToPresent (.splashAdFailToPresent error))

/-- The body that the other callbacks share. -/
def forward (selector : Selector) (message : Message) (self : CustomEvent) : CustomEvent × Effects :=
  (self, self.delegate.notify selector message)

def splashAdDidLoad : CustomEvent → CustomEvent × Effects :=
  forward .splashAdDidLoad .splashAdDidLoad

def splashAdApplicationWillEnterBackground : CustomEvent → CustomEvent × Effects :=
  forward .splashAdApplicationWillEnterBackground .splashAdApplicationWillEnterBackground

def splashAdExposured : CustomEvent → CustomEvent × Effects :=
  forward .splashAdExposured .splashAdExposured

def splashAdClicked : CustomEvent → CustomEvent × Effects :=
  forward .splashAdClicked .splashAdClicked

def splashAdWillClosed : CustomEvent → CustomEvent × Effects :=
  forward .splashAdWillClosed .splashAdWillClosed

def splashAdClosed : CustomEvent → CustomEvent × Effects :=
  forward .splashAdClosed .splashAdClosed

def splashAdWillPresentFullScreenModal : CustomEvent → CustomEvent × Effects :=
  forward .splashAdWillPresentFullScreenModal .splashAdWillPresentFullScreenModal

def splashAdDidPresentFullScreenModal : CustomEvent → CustomEvent × Effects :=
  forward .splashAdDidPresentFullScreenModal .splashAdDidPresentFullScreenModal

def splashAdWillDismissFullScreenModal : CustomEvent → CustomEvent × Effects :=
  forward .splashAdWillDismissFullScreenModal .splashAdWillDismissFullScreenModal

def splashAdDidDismissFullScreenModal : CustomEvent → CustomEvent × Effects :=
  forward .splashAdDidDismissFullScreenModal .splashAdDidDismissFullScreenModal

def splashAdLifeTime (time : Nat) : CustomEvent → CustomEvent × Effects :=
  forward .splashAdLifeTime (.splashAdLifeTime time)

/-- GDT's dispatch; no body looks at the ad the callback is about. -/
def receive (_ad : Nat) (self : CustomEvent) : Callback → CustomEvent × Effects
  | .successPresentScreen => self.splashAdSuccessPresentScreen
  | .didLoad => self.splashAdDidLoad
  | .failToPresent error => self.splashAdFailToPresent error
  | .applicationWillEnterBackground => self.splashAdApplicationWillEnterBackground
  | .exposured => self.splashAdExposured
  | .clicked => self.splashAdClicked
  | .willClosed => self.splashAdWillClosed
  | .closed => self.splashAdClosed
  | .willPresentFullScreenModal => self.splashAdWillPresentFullScreenModal
  | .didPresentFullScreenModal => self.splashAdDidPresentFullScreenModal
  | .willDismissFullScreenModal => self.splashAdWillDismissFullScreenModal
  | .didDismissFullScreenModal => self.splashAdDidDismissFullScreenModal
  | .lifeTime time => self.splashAdLifeTime time

variable {reading : Reading} {event : CustomEvent}

theorem presentSplash_fst (reading : Reading) (window : Option UIWindow) (event : CustomEvent) :
    (event.presentSplash reading window).1 = event := by
  unfold presentSplash
  cases event.splash with
  | none => rfl
  | some ad =>
      simp only
      split <;> rfl

theorem presentSplash_of_valid (window : Option UIWindow) {ad : GDTSplashAd}
    (current : event.splash = some ad) (valid : reading.isAdValid ad.ref = true) :
    (event.presentSplash reading window).2 = [.call (.showAdInWindow ad window event.bottomView)] := by
  simp only [presentSplash, current, valid, if_true]

theorem presentSplash_of_invalid (window : Option UIWindow)
    (unavailable : event.hasAdAvailable reading = false) :
    (event.presentSplash reading window).2 =
      event.delegate.notify .splashAdFailToPresent
        (.splashAdFailToPresent (noAdsAvailable "splash ad is not avaliable")) := by
  cases current : event.splash with
  | none => simp only [presentSplash, current]
  | some ad =>
      have invalid : reading.isAdValid ad.ref = false := by
        simpa [hasAdAvailable, current] using unavailable
      simp only [presentSplash, current, invalid, Bool.false_eq_true, if_false]

theorem exists_ad_of_available (available : event.hasAdAvailable reading = true) :
    ∃ ad, event.splash = some ad ∧ reading.isAdValid ad.ref = true := by
  cases current : event.splash with
  | none => simp [hasAdAvailable, current] at available
  | some ad => exact ⟨ad, rfl, by simpa [hasAdAvailable, current] using available⟩

end CustomEvent

/-- Ads are numbered in the order of the accepted requests; `presented` keeps
those handed to GDT for presentation. -/
structure Instance where
  event : CustomEvent
  fresh : Nat := 0
  presented : List Nat := []

inductive Input where
  | request (info : Info)
  | present (reading : Reading) (window : Option UIWindow)
  | handleAdPlayed (reading : Reading)
  | callback (ad : Nat) (callback : CustomEvent.Callback)
  | setDelegate (delegate : Delegate Selector)

def shownAd : Call → Option Nat
  | .showAdInWindow ad _ _ => some ad.ref
  | _ => none

def Instance.step (self : Instance) : Input → Instance × CustomEvent.Effects
  | .request info =>
      let (event, effects) := self.event.requestSplash self.fresh info
      ({ self with event, fresh := if info.adunit.isSome then self.fresh + 1 else self.fresh }, effects)
  | .present reading window =>
      let (event, effects) := self.event.presentSplash reading window
      ({ self with event, presented := self.presented ++ (calls effects).filterMap shownAd }, effects)
  | .handleAdPlayed reading =>
      let (event, effects) := self.event.handleAdPlayedForCustomEventNetwork reading
      ({ self with event }, effects)
  | .callback ad callback =>
      let (event, effects) := self.event.receive ad callback
      ({ self with event }, effects)
  | .setDelegate delegate => ({ self with event := { self.event with delegate } }, [])

def Instance.enabled (self : Instance) : Input → Prop
  | .callback ad _ => ad < self.fresh
  | _ => True

def machine : Machine Instance Input (Effect Call Message) where
  enabled := Instance.enabled
  step := Instance.step

end GDTAdapter.Splash
