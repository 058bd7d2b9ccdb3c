import GDTAdapter.Adapter.TopViewController
import GDTAdapter.Reactive.Machine
import GDTAdapter.Reactive.Messaging

namespace GDTAdapter.Feed

open Reactive

/-! # MobiGDTFeedCustomEvent -/

structure GDTNativeExpressAd where
  ref : Nat
  placementId : String
  adSize : CGSize
deriving DecidableEq, Repr

/-- A mutable array is an object: `ref` says which one, `contents` what it holds
at the moment. -/
structure NSMutableArray where
  ref : Nat
  contents : List Nat
deriving DecidableEq, Repr

inductive Selector where
  | nativeExpressAdSuccessToLoad
  | nativeExpressAdFailToLoad
  | nativeExpressAdViewRenderSuccess
  | nativeExpressAdViewRenderFail
  | nativeExpressAdViewExposure
  | nativeExpressAdViewClicked
  | nativeExpressAdViewClosed
  | nativeExpressAdDidExpire
  | nativeExpressAdViewWillPresentScreen
  | nativeExpressAdViewDidPresentScreen
  | nativeExpressAdViewWillDissmissScreen
  | nativeExpressAdViewDidDissmissScreen
  | nativeExpressAdViewApplicationWillEnterBackground
  | nativeExpressAdViewPlayerStatusChanged
  | nativeExpressAdViewWillPresentVideoVC
  | nativeExpressAdViewDidPresentVideoVC
  | nativeExpressAdViewWillDismissVideoVC
  | nativeExpressAdViewDidDismissVideoVC
deriving DecidableEq, Repr

/-- A success hands over the array itself, with what it holds when it is sent. -/
inductive Message where
  | nativeExpressAdSuccessToLoad (views : Option NSMutableArray)
  | nativeExpressAdFailToLoad (error : NSError)
  | nativeExpressAdViewRenderSuccess (view : Nat)
  | nativeExpressAdViewRenderFail (view : Nat)
  | nativeExpressAdViewExposure (view : Nat)
  | nativeExpressAdViewClicked (view : Nat)
  | nativeExpressAdViewClosed (view : Nat)
  | nativeExpressAdDidExpire
  | nativeExpressAdViewWillPresentScreen (view : Nat)
  | nativeExpressAdViewDidPresentScreen (view : Nat)
  | nativeExpressAdViewWillDissmissScreen (view : Nat)
  | nativeExpressAdViewDidDissmissScreen (view : Nat)
  | nativeExpressAdViewApplicationWillEnterBackground (view : Nat)
  | nativeExpressAdViewPlayerStatusChanged (view : Nat) (status : GDTMediaPlayerStatus)
  | nativeExpressAdViewWillPresentVideoVC (view : Nat)
  | nativeExpressAdViewDidPresentVideoVC (view : Nat)
  | nativeExpressAdViewWillDismissVideoVC (view : Nat)
  | nativeExpressAdViewDidDismissVideoVC (view : Nat)
deriving DecidableEq, Repr

inductive Call where
  | initWithPlacementId (ad : GDTNativeExpressAd)
  | loadAd (ad : GDTNativeExpressAd) (count : Int)
  | setController (view : Nat) (controller : Option UIViewController)
  | render (view : Nat)
deriving DecidableEq, Repr

structure CustomEvent where
  delegate : Delegate Selector
  expressAdViews : Option NSMutableArray := none
  nativeExpressAd : Option GDTNativeExpressAd := none

namespace CustomEvent

abbrev Effects := List (Effect Call Message)

def invalidPosid : NSError where
  domain := "MobiFeedAdsSDKDomain"
  code := -1500
  localizedDescription := some "Ad Unit ID cannot be nil."

/-- `fresh` names the two objects an accepted request makes, the array and the ad. -/
def requestFeed (fresh : Nat) (info : Info) (self : CustomEvent) : CustomEvent × Effects :=
  match info.adunit with
  | none => (self, self.delegate.send (.nativeExpressAdFailToLoad invalidPosid))
  | some adUnitId =>
      let ad : GDTNativeExpressAd :=
        { ref := fresh, placementId := adUnitId
          adSize := { width := floatValue info.width, height := 0 } }
      ({ self with expressAdViews := some { ref := fresh, contents := [] }, nativeExpressAd := some ad },
        [.call (.initWithPlacementId ad), .call (.loadAd ad (intValue info.count))])

def hasAdAvailable : Bool := true

def enableAutomaticImpressionAndClickTracking : Bool := true

def handleAdPlayedForCustomEventNetwork (self : CustomEvent) : CustomEvent × Effects :=
  (self, self.delegate.send .nativeExpressAdDidExpire)

inductive Callback where
  | successToLoad (ad : Nat) (views : List Nat)
  | failToLoad (ad : Nat) (error : NSError)
  | renderSuccess (view : Nat)
  | renderFail (view : Nat)
  | exposure (view : Nat)
  | clicked (view : Nat)
  | closed (view : Nat)
  | willPresentScreen (view : Nat)
  | didPresentScreen (view : Nat)
  | willDissmissScreen (view : Nat)
  | didDissmissScreen (view : Nat)
  | applicationWillEnterBackground (view : Nat)
  | playerStatusChanged (view : Nat) (status : GDTMediaPlayerStatus)
  | willPresentVideoVC (view : Nat)
  | didPresentVideoVC (view : Nat)
  | willDismissVideoVC (view : Nat)
  | didDismissVideoVC (view : Nat)
deriving DecidableEq, Repr

/-- The selectors as `GDTNativeExpressAd.h` spells them. -/
def Callback.selector : Callback → String
  | successToLoad .. => "nativeExpressAdSuccessToLoad:views:"
  | failToLoad .. => "nativeExpressAdFailToLoad:error:"
  | renderSuccess _ => "nativeExpressAdViewRenderSuccess:"
  | renderFail _ => "nativeExpressAdViewRenderFail:"
  | exposure _ => "nativeExpressAdViewExposure:"
  | clicked _ => "nativeExpressAdViewClicked:"
  | closed _ => "nativeExpressAdViewClosed:"
  | willPresentScreen _ => "nativeExpressAdViewWillPresentScreen:"
  | didPresentScreen _ => "nativeExpressAdViewDidPresentScreen:"
  | willDissmissScreen _ => "nativeExpressAdViewWillDissmissScreen:"
  | didDissmissScreen _ => "nativeExpressAdViewDidDissmissScreen:"
  | applicationWillEnterBackground _ => "nativeExpressAdViewApplicationWillEnterBackground:"
  | playerStatusChanged .. => "nativeExpressAdView:playerStatusChanged:"
  | willPresentVideoVC _ => "nativeExpressAdViewWillPresentVideoVC:"
  | didPresentVideoVC _ => "nativeExpressAdViewDidPresentVideoVC:"
  | willDismissVideoVC _ => "nativeExpressAdViewWillDismissVideoVC:"
  | didDismissVideoVC _ => "nativeExpressAdViewDidDismissVideoVC:"

/-- The delegate methods as `MobiGDTFeedCustomEvent.m` spells them. -/
def implementedSelectors : List String :=
  ["nativeExpressAdSuccessToLoad:views:",
    "nativeExpressAdRenderFail:",
    "nativeExpressAdFailToLoad:error:",
    "nativeExpressAdViewRenderSuccess:",
    "nativeExpressAdViewExposure:",
    "nativeExpressAdViewClicked:",
    "nativeExpressAdViewClosed:",
    "nativeExpressAdViewWillPresentScreen:",
    "nativeExpressAdViewDidPresentScreen:",
    "nativeExpressAdViewWillDismissScreen:",
    "nativeExpressAdViewDidDismissScreen:",
    "nativeExpressAdViewApplicationWillEnterBackground:",
    "nativeExpressAdView:playerStatusChanged:",
    "nativeExpressAdViewWillPresentVideoVC:",
    "nativeExpressAdViewDidPresentVideoVC:",
    "nativeExpressAdViewWillDismissVideoVC:",
    "nativeExpressAdViewDidDismissVideoVC:"]

/-- The array is emptied and refilled in place, so whoever was handed it before
sees the new views; a message to a nil array does nothing. -/
def nativeExpressAdSuccessToLoad (application : UIApplication) (views : List Nat) (self : CustomEvent) :
    CustomEvent × Effects :=
  let expressAdViews := self.expressAdViews.map fun array => { array with contents := views }
  ({ self with expressAdViews },
    (views.flatMap fun view =>
      [.call (.setController view application.topVC), .call (.render view)]) ++
    self.delegate.notify .nativeExpressAdSuccessToLoad (.nativeExpressAdSuccessToLoad expressAdViews))

def nativeExpressAdFailToLoad (error : NSError) (self : CustomEvent) : CustomEvent × Effects :=
  -- the guard asks for the selector of the successful load
  (self, self.delegate.notify .nativeExpressAdSuccessToLoad (.nativeExpressAdFailToLoad error))

/-- The body that most view callbacks share. -/
def forward (selector : Selector) (message : Nat → Message) (view : Nat) (self : CustomEvent) :
    CustomEvent × Effects :=
  (self, self.delegate.notify selector (message view))

def nativeExpressAdRenderFail : Nat → CustomEvent → CustomEvent × Effects :=
  forward .nativeExpressAdViewRenderFail .nativeExpressAdViewRenderFail

def nativeExpressAdViewRenderSuccess : Nat → CustomEvent → CustomEvent × Effects :=
  forward .nativeExpressAdViewRenderSuccess .nativeExpressAdViewRenderSuccess

def nativeExpressAdViewExposure : Nat → CustomEvent → CustomEvent × Effects :=
  forward .nativeExpressAdViewExposure .nativeExpressAdViewExposure

def nativeExpressAdViewClicked : Nat → CustomEvent → CustomEvent × Effects :=
  forward .nativeExpressAdViewClicked .nativeExpressAdViewClicked

def nativeExpressAdViewClosed : Nat → CustomEvent → CustomEvent × Effects :=
  forward .nativeExpressAdViewClosed .nativeExpressAdViewClosed

def nativeExpressAdViewWillPresentScreen : Nat → CustomEvent → CustomEvent × Effects :=
  forward .nativeExpressAdViewWillPresentScreen .nativeExpressAdViewWillPresentScreen

def nativeExpressAdViewDidPresentScreen : Nat → CustomEvent → CustomEvent × Effects :=
  forward .nativeExpressAdViewDidPresentScreen .nativeExpressAdViewDidPresentScreen

def nativeExpressAdViewWillDismissScreen : Nat → CustomEvent → CustomEvent × Effects :=
  forward .nativeExpressAdViewWillDissmissScreen .nativeExpressAdViewWillDissmissScreen

def nativeExpressAdViewDidDismissScreen : Nat → CustomEvent → CustomEvent × Effects :=
  forward .nativeExpressAdViewDidDissmissScreen .nativeExpressAdViewDidDissmissScreen

def nativeExpressAdViewApplicationWillEnterBackground : Nat → CustomEvent → CustomEvent × Effects :=
  forward .nativeExpressAdViewApplicationWillEnterBackground
    .nativeExpressAdViewApplicationWillEnterBackground

def nativeExpressAdViewPlayerStatusChanged (view : Nat) (status : GDTMediaPlayerStatus)
    (self : CustomEvent) : CustomEvent × Effects :=
  (self, self.delegate.notify .nativeExpressAdViewPlayerStatusChanged
    (.nativeExpressAdViewPlayerStatusChanged view status))

def nativeExpressAdViewWillPresentVideoVC : Nat → CustomEvent → CustomEvent × Effects :=
  forward .nativeExpressAdViewWillPresentVideoVC .nativeExpressAdViewWillPresentVideoVC

def nativeExpressAdViewDidPresentVideoVC (_view : Nat) (self : CustomEvent) : CustomEvent × Effects :=
  -- the body is empty in the source
  (self, [])

def nativeExpressAdViewWillDismissVideoVC : Nat → CustomEvent → CustomEvent × Effects :=
  forward .nativeExpressAdViewWillDismissVideoVC .nativeExpressAdViewWillDismissVideoVC

def nativeExpressAdViewDidDismissVideoVC : Nat → CustomEvent → CustomEvent × Effects :=
  forward .nativeExpressAdViewDidDismissVideoVC .nativeExpressAdViewDidDismissVideoVC

/-- The method written for each callback, whether or not GDT finds it. -/
def invoke (application : UIApplication) (self : CustomEvent) : Callback → CustomEvent × Effects
  | .successToLoad _ views => self.nativeExpressAdSuccessToLoad application views
  | .failToLoad _ error => self.nativeExpressAdFailToLoad error
  | .renderSuccess view => self.nativeExpressAdViewRenderSuccess view
  | .renderFail view => self.nativeExpressAdRenderFail view
  | .exposure view => self.nativeExpressAdViewExposure view
  | .clicked view => self.nativeExpressAdViewClicked view
  | .closed view => self.nativeExpressAdViewClosed view
  | .willPresentScreen view => self.nativeExpressAdViewWillPresentScreen view
  | .didPresentScreen view => self.nativeExpressAdViewDidPresentScreen view
  | .willDissmissScreen view => self.nativeExpressAdViewWillDismissScreen view
  | .didDissmissScreen view => self.nativeExpressAdViewDidDismissScreen view
  | .applicationWillEnterBackground view => self.nativeExpressAdViewApplicationWillEnterBackground view
  | .playerStatusChanged view status => self.nativeExpressAdViewPlayerStatusChanged view status
  | .willPresentVideoVC view => self.nativeExpressAdViewWillPresentVideoVC view
  | .didPresentVideoVC view => self.nativeExpressAdViewDidPresentVideoVC view
  | .willDismissVideoVC view => self.nativeExpressAdViewWillDismissVideoVC view
  | .didDismissVideoVC view => self.nativeExpressAdViewDidDismissVideoVC view

/-- GDT asks for the selector of its own protocol and calls nothing if the class
does not spell a method that way. -/
def receive (application : UIApplication) (self : CustomEvent) (callback : Callback) :
    CustomEvent × Effects :=
  if callback.selector ∈ implementedSelectors then self.invoke application callback else (self, [])

end CustomEvent

/-- Ads are numbered in the order of the accepted requests; `delivered` keeps the
views GDT reported for each, and `exposed` the views that came on screen. -/
structure Instance where
  event : CustomEvent
  fresh : Nat := 0
  delivered : List (Nat × List Nat) := []
  exposed : List Nat := []

inductive Input where
  | request (info : Info)
  | handleAdPlayed
  | callback (application : UIApplication) (callback : CustomEvent.Callback)
  | setDelegate (delegate : Delegate Selector)

namespace Instance

def presented (self : Instance) : List Nat :=
  (self.delivered.filter fun batch => batch.2.any self.exposed.contains).map Prod.fst

def observe (self : Instance) : CustomEvent.Callback → Instance
  | .successToLoad ad views => { self with delivered := self.delivered ++ [(ad, views)] }
  | .exposure view => { self with exposed := self.exposed ++ [view] }
  | _ => self

def step (self : Instance) : Input → Instance × CustomEvent.Effects
  | .request info =>
      let (event, effects) := self.event.requestFeed self.fresh info
      ({ self with event, fresh := if info.adunit.isSome then self.fresh + 1 else self.fresh }, effects)
  | .handleAdPlayed =>
      let (event, effects) := self.event.handleAdPlayedForCustomEventNetwork
      ({ self with event }, effects)
  | .callback application callback =>
      let (event, effects) := self.event.receive application callback
      ({ self with event }.observe callback, effects)
  | .setDelegate delegate => ({ self with event := { self.event with delegate } }, [])

def enabled (self : Instance) : Input → Prop
  | .callback _ (.successToLoad ad _) => ad < self.fresh
  | .callback _ (.failToLoad ad _) => ad < self.fresh
  | _ => True

end Instance

def machine : Machine Instance Input (Effect Call Message) where
  enabled := Instance.enabled
  step := Instance.step

end GDTAdapter.Feed
