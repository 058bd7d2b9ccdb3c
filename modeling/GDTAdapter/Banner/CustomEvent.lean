import GDTAdapter.Foundation
import GDTAdapter.Reactive.Machine
import GDTAdapter.Reactive.Messaging

namespace GDTAdapter.Banner

open Reactive

/-! # MobiGDTBannerCustomEvent -/

/-- The view lies at `CGPointZero`; `autoSwitchInterval` is an `int`. -/
structure GDTUnifiedBannerView where
  ref : Nat
  size : CGSize
  placementId : String
  viewController : Option UIViewController
  accessibilityIdentifier : String
  autoSwitchInterval : Int
deriving DecidableEq, Repr

/-- The events of `MPBannerCustomEventDelegate`, and the three selectors the
custom event asks for besides. -/
inductive Selector where
  | didLoadAd
  | didFailToLoadAdWithError
  | willBeginAction
  | didFinishAction
  | willLeaveApplication
  | willExpandAd
  | didCollapseAd
  | willVisible
  | didClick
  | willClose
deriving DecidableEq, Repr

/-- Views are sent by reference; `didLoadAd` sends whatever `bannerView` holds. -/
inductive Message where
  | didLoadAd (view : Option Nat)
  | didFailToLoadAdWithError (error : NSError)
  | willVisible (view : Nat)
  | didClick (view : Nat)
  | willLeaveApplication
  | willClose (view : Nat)
deriving DecidableEq, Repr

inductive Call where
  | initWithFrame (view : GDTUnifiedBannerView)
  | loadAdAndShow (view : GDTUnifiedBannerView)
  | animateAlphaToZero (view : Nat)
  | removeFromSuperview (view : Nat)
deriving DecidableEq, Repr

structure CustomEvent where
  delegate : Delegate Selector
  bannerView : Option GDTUnifiedBannerView := none

/-- The constants of `MobiBannerError.h`, a header of the host that the
repository does not hold. -/
structure MobiBannerError where
  adsSDKDomain : String
  adErrorInvalidPosid : Int

def MobiBannerError.invalidPosid (constants : MobiBannerError) : NSError where
  domain := constants.adsSDKDomain
  code := constants.adErrorInvalidPosid
  localizedDescription := some "Ad Unit ID cannot be nil."

def someConstants : MobiBannerError where
  adsSDKDomain := "MobiBannerAdsSDKDomain"
  adErrorInvalidPosid := -1500

namespace CustomEvent

abbrev Effects := List (Effect Call Message)

def makeBannerView (fresh : Nat) (size : CGSize) (info : Info) (adUnitId : String) :
    GDTUnifiedBannerView where
  ref := fresh
  size := size
  placementId := adUnitId
  viewController := info.rootVC
  accessibilityIdentifier := "banner_ad"
  autoSwitchInterval := truncate (floatValue info.interval)

def requestAd (constants : MobiBannerError) (fresh : Nat) (size : CGSize) (info : Info)
    (self : CustomEvent) : CustomEvent × Effects :=
  -- `whRatio` is read here as well, and used nowhere
  match info.adunit with
  | none => (self, self.delegate.send (.didFailToLoadAdWithError constants.invalidPosid))
  | some adUnitId =>
      match self.bannerView with
      | some view => (self, [.call (.loadAdAndShow view)])
      | none =>
          let view := makeBannerView fresh size info adUnitId
          ({ self with bannerView := some view },
            [.call (.initWithFrame view), .call (.loadAdAndShow view)])

def enableAutomaticImpressionAndClickTracking : Bool := true

inductive Callback where
  | didLoad
  | failedToLoad (error : NSError)
  | willExpose
  | clicked
  | willPresentFullScreenModal
  | didPresentFullScreenModal
  | willDismissFullScreenModal
  | didDismissFullScreenModal
  | willLeaveApplication
  | willClose
deriving DecidableEq, Repr

def unifiedBannerViewDidLoad (self : CustomEvent) : CustomEvent × Effects :=
  (self, self.delegate.notify .didLoadAd (.didLoadAd (self.bannerView.map (·.ref))))

def unifiedBannerViewFailedToLoad (error : NSError) (self : CustomEvent) : CustomEvent × Effects :=
  (self, self.delegate.notify .didFailToLoadAdWithError (.didFailToLoadAdWithError error))

def unifiedBannerViewWillExpose (view : Nat) (self : CustomEvent) : CustomEvent × Effects :=
  (self, self.delegate.notify .willVisible (.willVisible view))

def unifiedBannerViewClicked (view : Nat) (self : CustomEvent) : CustomEvent × Effects :=
  (self, self.delegate.notify .didClick (.didClick view))

def unifiedBannerViewWillLeaveApplication (self : CustomEvent) : CustomEvent × Effects :=
  (self, self.delegate.notify .willLeaveApplication .willLeaveApplication)

def unifiedBannerViewWillClose (view : Nat) (self : CustomEvent) : CustomEvent × Effects :=
  (self, self.delegate.notify .willClose (.willClose view) ++ [.call (.animateAlphaToZero view)])

/-- The completion block that `unifiedBannerViewWillClose:` hands to the animation. -/
def closeCompletion (view : Nat) (self : CustomEvent) : CustomEvent × Effects :=
  ({ self with bannerView := if self.bannerView.map (·.ref) = some view then none else self.bannerView },
    [.call (.removeFromSuperview view)])

def receive (view : Nat) (self : CustomEvent) : Callback → CustomEvent × Effects
  | .didLoad => self.unifiedBannerViewDidLoad
  | .failedToLoad error => self.unifiedBannerViewFailedToLoad error
  | .willExpose => self.unifiedBannerViewWillExpose view
  | .clicked => self.unifiedBannerViewClicked view
  | .willLeaveApplication => self.unifiedBannerViewWillLeaveApplication
  | .willClose => self.unifiedBannerViewWillClose view
  -- the class does not implement the four full-screen ones, so GDT does not send them
  | _ => (self, [])

end CustomEvent

/-- One custom event with its views.  They are numbered in the order of their
creation; `closing` are the completions of close animations still to run,
`loaded` is the view of the latest `loadAdAndShow`, and `current` says that no
close has begun since. -/
structure Instance where
  event : CustomEvent
  fresh : Nat := 0
  closing : List Nat := []
  faded : List Nat := []
  removed : List Nat := []
  loaded : Option Nat := none
  current : Bool := false

inductive Input where
  | request (size : CGSize) (info : Info)
  | callback (view : Nat) (callback : CustomEvent.Callback)
  | complete (view : Nat)
  | setDelegate (delegate : Delegate Selector)

namespace Instance

/-- What a call does to the views.  The animations block runs at once; its
completion is left for a later step. -/
def perform (self : Instance) : Effect Call Message → Instance
  | .call (.initWithFrame _) => { self with fresh := self.fresh + 1 }
  | .call (.loadAdAndShow view) => { self with loaded := some view.ref, current := true }
  | .call (.animateAlphaToZero view) =>
      { self with faded := view :: self.faded, closing := self.closing ++ [view], current := false }
  | .call (.removeFromSuperview view) => { self with removed := view :: self.removed }
  | .message _ => self

def run (self : Instance) (answer : CustomEvent × CustomEvent.Effects) :
    Instance × CustomEvent.Effects :=
  (answer.2.foldl perform { self with event := answer.1 }, answer.2)

def step (constants : MobiBannerError) (self : Instance) : Input → Instance × CustomEvent.Effects
  | .request size info => self.run (self.event.requestAd constants self.fresh size info)
  | .callback view callback => self.run (self.event.receive view callback)
  | .complete view =>
      { self with closing := self.closing.erase view }.run (self.event.closeCompletion view)
  | .setDelegate delegate => ({ self with event := { self.event with delegate } }, [])

/-- GDT calls back on any view it was given; a completion runs once for each
animation that was started. -/
def enabled (self : Instance) : Input → Prop
  | .callback view _ => view < self.fresh
  | .complete view => view ∈ self.closing
  | _ => True

end Instance

def machine (constants : MobiBannerError) : Machine Instance Input (Effect Call Message) where
  enabled := Instance.enabled
  step := Instance.step constants

end GDTAdapter.Banner
