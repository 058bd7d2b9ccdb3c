import GDTAdapter.Foundation

namespace GDTAdapter

/-! # Configurations of the mediation host -/

inductive MobiAdType where
  | banner
  | feed
  | rewardedVideo
  | fullScreenVideo
  | interstitial
  | splash
  | unknown
deriving DecidableEq, Repr

inductive CustomEventClass where
  | splash
  | banner
  | feed
  | interstitial
  | rewardedVideo
  | fullscreen
  | drawView
  | other (name : String)
deriving DecidableEq, Repr

def CustomEventClass.name : CustomEventClass → String
  | splash => "MobiGDTSplashCustomEvent"
  | banner => "MobiGDTBannerCustomEvent"
  | feed => "MobiGDTFeedCustomEvent"
  | interstitial => "MobiGDTInterstitialCustomEvent"
  | rewardedVideo => "MobiGDTRewardedVideoCustomEvent"
  | fullscreen => "MobiGDTFullscreenCustomEvent"
  | drawView => "MobiGDTDrawViewCustomEvent"
  | other name => name

/-- What the managers and adapters read of a configuration.  The custom event
receives the configuration itself as its info dictionary. -/
structure MobiConfig where
  adType : MobiAdType
  customEventClass : Option CustomEventClass
  adTimeoutInterval : ℚ
  adUnitWarmingUp : Bool := false
  info : Info
deriving DecidableEq, Repr

/-- `startTimeoutTimer`: a negative interval means the default one, and no timer
is scheduled for zero. -/
def MobiConfig.armsTimeout (defaultInterval : ℚ) (configuration : MobiConfig) : Bool :=
  let timeInterval :=
    if 0 ≤ configuration.adTimeoutInterval then configuration.adTimeoutInterval else defaultInterval
  0 < timeInterval

namespace NSError

def errorWithCode (code : Int) (localizedDescription : Option String) : NSError where
  domain := "com.mobipub.iossdk"
  code := code
  localizedDescription := localizedDescription

def customEventClassDoesNotInheritFrom (customEventClass : Option CustomEventClass)
    (baseClass : String) : NSError :=
  let name := (customEventClass.map CustomEventClass.name).getD "(null)"
  errorWithCode 28
    (some (name ++ " is an invalid custom event class because it does not extend " ++ baseClass))

def adRequestTimedOut (localizedDescription : String) : NSError :=
  errorWithCode 25 (some localizedDescription)

end NSError

end GDTAdapter
