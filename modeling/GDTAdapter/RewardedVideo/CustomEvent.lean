import GDTAdapter.Foundation
import GDTAdapter.Reactive.Machine
import GDTAdapter.Reactive.Messaging

namespace GDTAdapter.RewardedVideo

open Reactive

/-! # MobiGDTRewardedVideoCustomEvent -/

structure GDTRewardVideoAd where
  ref : Nat
  placementId : String
deriving DecidableEq, Repr

structure MobiRewardedVideoReward where
  currencyType : String
  amount : Int
deriving DecidableEq, Repr

/-- The selectors of `MobiRewardedVideoCustomEventDelegate` that carry events,
and the play-finish selector the custom event asks for besides. -/
inductive Selector where
  | rewardedVideoDidLoadAd
  | rewardedVideoAdVideoDidLoad
  | rewardedVideoDidFailToLoadAd
  | rewardedVideoDidExpire
  | rewardedVideoDidFailToPlay
  | rewardedVideoWillAppear
  | rewardedVideoDidAppear
  | rewardedVideoWillDisappear
  | rewardedVideoDidDisappear
  | rewardedVideoWillLeaveApplication
  | rewardedVideoDidReceiveTapEvent
  | rewardedVideoShouldRewardUser
  | rewardedVideoAdDidPlayFinish
deriving DecidableEq, Repr

inductive Message where
  | rewardedVideoDidLoadAd
  | rewardedVideoAdVideoDidLoad
  | rewardedVideoDidFailToLoadAd (error : NSError)
  | rewardedVideoDidExpire
  | rewardedVideoDidFailToPlay (error : NSError)
  | rewardedVideoWillAppear
  | rewardedVideoDidAppear
  | rewardedVideoWillDisappear
  | rewardedVideoDidDisappear
  | rewardedVideoWillLeaveApplication
  | rewardedVideoDidReceiveTapEvent
  | rewardedVideoShouldRewardUser (reward : Option MobiRewardedVideoReward)
  | rewardedVideoAdDidPlayFinish (error : Option NSError)
deriving DecidableEq, Repr

inductive Call where
  | initWithPlacementId (ad : GDTRewardVideoAd)
  | loadAd (ad : GDTRewardVideoAd)
  | showAdFromRootViewController (ad : GDTRewardVideoAd) (viewController : Option UIViewController)
deriving DecidableEq, Repr

structure CustomEvent where
  delegate : Delegate Selector
  rewardVideoAd : Option GDTRewardVideoAd := none
  rootVC : Option UIViewController := none

namespace CustomEvent

abbrev Effects := List (Effect Call Message)

def invalidPosid : NSError where
  domain := "MobiRewardedVideoAdsSDKDomain"
  code := -1500
  localizedDescription := some "Ad Unit ID cannot be nil."

def noAdReady : NSError where
  domain := "MobiRewardedVideoAdsSDKDomain"
  code := -1401
  localizedDescription := some "Rewarded ad is not ready to be presented."

/-- `fresh` is the reference the initialiser of the GDT ad returns. -/
def requestRewardedVideo (fresh : Nat) (info : Info) (self : CustomEvent) : CustomEvent × Effects :=
  match info.adunit with
  | none => (self, self.delegate.send (.rewardedVideoDidFailToLoadAd invalidPosid))
  | some adUnitId =>
      let ad : GDTRewardVideoAd := { ref := fresh, placementId := adUnitId }
      ({ self with rewardVideoAd := some ad }, [.call (.initWithPlacementId ad), .call (.loadAd ad)])

def expiredTimestamp (reading : Reading) (self : CustomEvent) : Int :=
  self.rewardVideoAd.elim 0 (fun ad => reading.expiredTimestamp ad.ref)

def isAdValid (reading : Reading) (self : CustomEvent) : Bool :=
  self.rewardVideoAd.elim false (fun ad => reading.isAdValid ad.ref)

def hasAdAvailable (reading : Reading) (self : CustomEvent) : Bool :=
  if (self.expiredTimestamp reading : ℚ) ≤ reading.now then false
  else if !self.isAdValid reading then false
  else true

def presentRewardedVideo (reading : Reading) (viewController : Option UIViewController)
    (self : CustomEvent) : CustomEvent × Effects :=
  let self := if viewController.isSome then { self with rootVC := viewController } else self
  match self.rewardVideoAd with
  | some ad =>
      if reading.isAdValid ad.ref then
        (self, [.call (.showAdFromRootViewController ad viewController)])
      else (self, self.delegate.send (.rewardedVideoDidFailToPlay noAdReady))
  | none => (self, self.delegate.send (.rewardedVideoDidFailToPlay noAdReady))

def enableAutomaticImpressionAndClickTracking : Bool := true

def handleAdPlayedForCustomEventNetwork (reading : Reading) (self : CustomEvent) : CustomEvent × Effects :=
  if !self.isAdValid reading then (self, self.delegate.send .rewardedVideoDidExpire) else (self, [])

inductive Callback where
  | didLoad
  | videoDidLoad
  | willVisible
  | didExposed
  | didClose
  | didClicked
  | didFailWithError (error : NSError)
  | didRewardEffective
  | didPlayFinish
deriving DecidableEq, Repr

def gdtRewardVideoAdDidLoad (self : CustomEvent) : CustomEvent × Effects :=
  (self, self.delegate.notify .rewardedVideoDidLoadAd .rewardedVideoDidLoadAd)

def gdtRewardVideoAdVideoDidLoad (reading : Reading) (self : CustomEvent) : CustomEvent × Effects :=
  if (self.expiredTimestamp reading : ℚ) ≤ reading.now then
    (self, self.delegate.notify .rewardedVideoDidExpire .rewardedVideoDidExpire)
  else if !self.isAdValid reading then
    (self, self.delegate.notify .rewardedVideoDidExpire .rewardedVideoDidExpire)
  else (self, self.delegate.notify .rewardedVideoAdVideoDidLoad .rewardedVideoAdVideoDidLoad)

def gdtRewardVideoAdWillVisible (self : CustomEvent) : CustomEvent × Effects :=
  (self, self.delegate.notify .rewardedVideoWillAppear .rewardedVideoWillAppear)

def gdtRewardVideoAdDidExposed (self : CustomEvent) : CustomEvent × Effects :=
  (self, self.delegate.notify .rewardedVideoDidAppear .rewardedVideoDidAppear)

def gdtRewardVideoAdDidClose (self : CustomEvent) : CustomEvent × Effects :=
  ({ self with rootVC := none },
    self.delegate.notify .rewardedVideoWillDisappear .rewardedVideoWillDisappear ++
      self.delegate.notify .rewardedVideoDidDisappear .rewardedVideoDidDisappear)

def gdtRewardVideoAdDidClicked (self : CustomEvent) : CustomEvent × Effects :=
  (self, self.delegate.notify .rewardedVideoDidReceiveTapEvent .rewardedVideoDidReceiveTapEvent)

/-- Every failure GDT reports, of the load as well as of the presentation, ends here. -/
def gdtRewardVideoAdDidFailWithError (error : NSError) (self : CustomEvent) : CustomEvent × Effects :=
  ({ self with rootVC := none },
    self.delegate.notify .rewardedVideoDidFailToPlay (.rewardedVideoDidFailToPlay error))

def gdtRewardVideoAdDidRewardEffective (self : CustomEvent) : CustomEvent × Effects :=
  -- the body is empty in the source
  (self, [])

def gdtRewardVideoAdDidPlayFinish (self : CustomEvent) : CustomEvent × Effects :=
  (self, self.delegate.notify .rewardedVideoAdDidPlayFinish (.rewardedVideoAdDidPlayFinish none))

/-- GDT's dispatch of a callback.  The ad it is about is an argument of every
callback in the source, and no body looks at it. -/
def receive (reading : Reading) (_ad : Nat) (self : CustomEvent) : Callback → CustomEvent × Effects
  | .didLoad => self.gdtRewardVideoAdDidLoad
  | .videoDidLoad => self.gdtRewardVideoAdVideoDidLoad reading
  | .willVisible => self.gdtRewardVideoAdWillVisible
  | .didExposed => self.gdtRewardVideoAdDidExposed
  | .didClose => self.gdtRewardVideoAdDidClose
  | .didClicked => self.gdtRewardVideoAdDidClicked
  | .didFailWithError error => self.gdtRewardVideoAdDidFailWithError error
  | .didRewardEffective => self.gdtRewardVideoAdDidRewardEffective
  | .didPlayFinish => self.gdtRewardVideoAdDidPlayFinish

end CustomEvent

/-- One custom event with what GDT knows of it: ads are numbered in the order of
the accepted requests, and the ones handed to GDT for presentation are kept. -/
structure Instance where
  event : CustomEvent
  fresh : Nat := 0
  presented : List Nat := []

inductive Input where
  | request (info : Info)
  | present (reading : Reading) (viewController : Option UIViewController)
  | handleAdPlayed (reading : Reading)
  | callback (reading : Reading) (ad : Nat) (callback : CustomEvent.Callback)
  | setDelegate (delegate : Delegate Selector)

def shownAd : Call → Option Nat
  | .showAdFromRootViewController ad _ => some ad.ref
  | _ => none

def Instance.step (self : Instance) : Input → Instance × CustomEvent.Effects
  | .request info =>
      let (event, effects) := self.event.requestRewardedVideo self.fresh info
      ({ self with event, fresh := if info.adunit.isSome then self.fresh + 1 else self.fresh }, effects)
  | .present reading viewController =>
      let (event, effects) := self.event.presentRewardedVideo reading viewController
      ({ self with event, presented := self.presented ++ (calls effects).filterMap shownAd }, effects)
  | .handleAdPlayed reading =>
      let (event, effects) := self.event.handleAdPlayedForCustomEventNetwork reading
      ({ self with event }, effects)
  | .callback reading ad callback =>
      let (event, effects) := self.event.receive reading ad callback
      ({ self with event }, effects)
  | .setDelegate delegate => ({ self with event := { self.event with delegate } }, [])

def Instance.enabled (self : Instance) : Input → Prop
  | .callback _ ad _ => ad < self.fresh
  | _ => True

def machine : Machine Instance Input (Effect Call Message) where
  enabled := Instance.enabled
  step := Instance.step

end GDTAdapter.RewardedVideo
