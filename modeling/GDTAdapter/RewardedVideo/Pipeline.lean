import GDTAdapter.MobiConfig
import GDTAdapter.RewardedVideo.CustomEvent

namespace GDTAdapter.RewardedVideo

open Reactive

/-! # The rewarded-video pipeline

`MobiRewardedVideoAdManager` owns one `MobiRewardedVideoAdapter`, which owns one
custom event.  Ownership is strong downwards and weak upwards, so an adapter
lives exactly as long as the manager holds it and a GDT callback reaches a custom
event only while its adapter holds it.

A call that the host or GDT makes from inside a message it receives is taken as
the next step.
-/

inductive HostMessage where
  | rewardedVideoDidLoad
  | rewardedVideoAdVideoDidLoad
  | rewardedVideoDidFailToLoad (error : NSError)
  | rewardedVideoDidExpire
  | rewardedVideoDidFailToPlay (error : NSError)
  | rewardedVideoWillAppear
  | rewardedVideoDidAppear
  | rewardedVideoWillDisappear
  | rewardedVideoDidDisappear
  | rewardedVideoDidReceiveTapEvent
  | rewardedVideoWillLeaveApplication
  | rewardedVideoShouldRewardUser (reward : MobiRewardedVideoReward)
deriving DecidableEq, Repr

inductive AdapterMessage where
  | rewardedVideoDidLoad
  | rewardedVideoAdVideoDidLoad
  | rewardedVideoDidFailToLoad (error : NSError)
  | rewardedVideoDidExpire
  | rewardedVideoDidFailToPlay (error : NSError)
  | rewardedVideoWillAppear
  | rewardedVideoDidAppear
  | rewardedVideoWillDisappear
  | rewardedVideoDidDisappear
  | rewardedVideoDidReceiveTapEvent
  | rewardedVideoDidReceiveImpressionEvent
  | rewardedVideoWillLeaveApplication
  | rewardedVideoShouldRewardUser (reward : MobiRewardedVideoReward)
deriving DecidableEq, Repr

inductive Output where
  | loadURL
  | received (configurations : List MobiConfig)
  | fetch (configuration : MobiConfig)
  | gdt (call : Call)
  | customEvent (message : Message)
  | trackImpression (configuration : MobiConfig)
  | trackClick (configuration : MobiConfig)
  | host (message : HostMessage)
deriving DecidableEq, Repr

/-- `delegate` tells whether the manager is still set; the timers tell whether
they are scheduled. -/
structure Adapter where
  configuration : MobiConfig
  delegate : Bool := true
  rewardedVideoCustomEvent : Option CustomEvent := none
  timeoutTimer : Bool := false
  expirationTimer : Bool := false
  hasTrackedImpression : Bool := false
  hasTrackedClick : Bool := false
  hasSuccessfullyLoaded : Bool := false
  hasExpired : Bool := false

namespace Adapter

def implements : Selector → Bool
  | .rewardedVideoAdDidPlayFinish => false
  | _ => true

def ad? (self : Adapter) : Option Nat :=
  (self.rewardedVideoCustomEvent.bind CustomEvent.rewardVideoAd).map GDTRewardVideoAd.ref

def rewardedVideoDidExpire (self : Adapter) : Adapter × List Output × List AdapterMessage :=
  if self.hasExpired then (self, [], [])
  else ({ self with hasExpired := true }, [], [.rewardedVideoDidExpire])

/-- The methods of `MobiRewardedVideoCustomEventDelegate`: what they report to
the tracker and what they pass on. -/
def receive (self : Adapter) : Message → Adapter × List Output × List AdapterMessage
  | .rewardedVideoDidLoadAd =>
      if self.hasSuccessfullyLoaded then (self, [], [])
      else
        ({ self with hasSuccessfullyLoaded := true, timeoutTimer := false, expirationTimer := true },
          [], [.rewardedVideoDidLoad])
  | .rewardedVideoAdVideoDidLoad => (self, [], [.rewardedVideoAdVideoDidLoad])
  | .rewardedVideoDidFailToLoadAd error =>
      ({ self with rewardedVideoCustomEvent := none, timeoutTimer := false },
        [], [.rewardedVideoDidFailToLoad error])
  | .rewardedVideoDidExpire => self.rewardedVideoDidExpire
  | .rewardedVideoDidFailToPlay error => (self, [], [.rewardedVideoDidFailToPlay error])
  | .rewardedVideoWillAppear => (self, [], [.rewardedVideoWillAppear])
  | .rewardedVideoDidAppear =>
      if CustomEvent.enableAutomaticImpressionAndClickTracking && !self.hasTrackedImpression then
        ({ self with hasTrackedImpression := true, expirationTimer := false },
          [.trackImpression self.configuration],
          [.rewardedVideoDidReceiveImpressionEvent, .rewardedVideoDidAppear])
      else (self, [], [.rewardedVideoDidAppear])
  | .rewardedVideoWillDisappear => (self, [], [.rewardedVideoWillDisappear])
  | .rewardedVideoDidDisappear => (self, [], [.rewardedVideoDidDisappear])
  | .rewardedVideoWillLeaveApplication => (self, [], [.rewardedVideoWillLeaveApplication])
  | .rewardedVideoDidReceiveTapEvent =>
      if CustomEvent.enableAutomaticImpressionAndClickTracking && !self.hasTrackedClick then
        ({ self with hasTrackedClick := true }, [.trackClick self.configuration],
          [.rewardedVideoDidReceiveTapEvent])
      else (self, [], [.rewardedVideoDidReceiveTapEvent])
  | .rewardedVideoShouldRewardUser (some reward) => (self, [], [.rewardedVideoShouldRewardUser reward])
  | .rewardedVideoShouldRewardUser none => (self, [], [])
  -- not implemented by the adapter; the custom event asks before it sends
  | .rewardedVideoAdDidPlayFinish _ => (self, [], [])

end Adapter

/-- The manager, the adapter it holds, and what the config server and GDT still
owe.  `loaded` lists the ads that GDT has reported as loaded. -/
structure Pipeline where
  loading : Bool := false
  playedAd : Bool := false
  ready : Bool := false
  remainingConfigurations : List MobiConfig := []
  adapter : Option Adapter := none
  configRequest : Bool := false
  fresh : Nat := 0
  unanswered : List Nat := []
  loaded : List Nat := []

namespace Pipeline

def sdkError (code : Int) (localizedDescription : Option String) : NSError where
  domain := "MobiRewardedVideoAdsSDKDomain"
  code := code
  localizedDescription := localizedDescription

def adUnitWarmingUp : NSError := sdkError (-1001) none

def noAdsAvailable : NSError := sdkError (-1100) none

def adAlreadyPlayed : NSError := sdkError (-1400) none

def notReadyToBeShown : NSError :=
  sdkError (-1401) (some "Rewarded video ad view is not ready to be shown")

def requestTimedOut : NSError := .adRequestTimedOut "Rewarded video ad request timed out"

def conforms : Option CustomEventClass → Bool
  | some .rewardedVideo => true
  | _ => false

/-- What GDT does with a call: an initialised ad takes the next reference, and a
load is owed an answer. -/
def perform (self : Pipeline) : Call → Pipeline
  | .initWithPlacementId _ => { self with fresh := self.fresh + 1 }
  | .loadAd ad => { self with unanswered := self.unanswered ++ [ad.ref] }
  | .showAdFromRootViewController _ _ => self

def loadFailure? : Message → Option NSError
  | .rewardedVideoDidFailToLoadAd error => some error
  | _ => none

/-- `getAdWithConfiguration:targeting:` of a new adapter.  The last component is
the failure that the custom event or the adapter reports before returning. -/
def getAd (configuration : MobiConfig) (self : Pipeline) : Pipeline × List Output × Option NSError :=
  let adapter : Adapter := { configuration }
  if conforms configuration.customEventClass then
    let adapter := { adapter with timeoutTimer := configuration.armsTimeout 30 }
    let (event, effects) := CustomEvent.requestRewardedVideo self.fresh configuration.info
      { delegate := some Adapter.implements }
    let adapter := { adapter with rewardedVideoCustomEvent := some event }
    let outputs := (calls effects).map Output.gdt ++ (messages effects).map Output.customEvent
    match (messages effects).findSome? loadFailure? with
    | none => ({ (calls effects).foldl perform self with adapter := some adapter }, outputs, none)
    | some error =>
        ({ (calls effects).foldl perform self with
            adapter := some (adapter.receive (.rewardedVideoDidFailToLoadAd error)).1 },
          outputs, some error)
  else
    ({ self with adapter := some adapter }, [], some
      (.customEventClassDoesNotInheritFrom configuration.customEventClass "MobiRewardedVideoCustomEvent"))

/-- `fetchAdWithConfiguration:`, with the configurations that remain to be tried
when it fails before returning. -/
def fetchAd (configuration : MobiConfig) (remaining : List MobiConfig) (self : Pipeline) :
    Pipeline × List Output :=
  let self := { self with remainingConfigurations := remaining }
  if configuration.adUnitWarmingUp then
    ({ self with loading := false },
      [.fetch configuration, .host (.rewardedVideoDidFailToLoad adUnitWarmingUp)])
  else if configuration.adType = .unknown then
    ({ self with loading := false },
      [.fetch configuration, .host (.rewardedVideoDidFailToLoad noAdsAvailable)])
  else
    match self.getAd configuration with
    | (self, outputs, none) => (self, .fetch configuration :: outputs)
    | (self, outputs, some error) =>
        match remaining with
        | next :: rest =>
            let (self, more) := fetchAd next rest self
            (self, .fetch configuration :: (outputs ++ more))
        | [] =>
            ({ self with ready := false, loading := false },
              .fetch configuration :: (outputs ++ [.host (.rewardedVideoDidFailToLoad error)]))

/-- What has to be shown of a fetch: the manager refuses the configuration, its
load starts, it fails at once and the next one is fetched, or it was the last. -/
theorem fetchAd_induct
    {motive : MobiConfig → List MobiConfig → Pipeline → Pipeline × List Output → Prop}
    (refused : ∀ configuration remaining (self : Pipeline) error,
      motive configuration remaining self
        ({ self with remainingConfigurations := remaining, loading := false },
          [.fetch configuration, .host (.rewardedVideoDidFailToLoad error)]))
    (started : ∀ configuration remaining (self : Pipeline) after outputs,
      getAd configuration { self with remainingConfigurations := remaining } =
        (after, outputs, none) →
      motive configuration remaining self (after, .fetch configuration :: outputs))
    (failed : ∀ configuration next rest (self : Pipeline) after outputs error result,
      getAd configuration { self with remainingConfigurations := next :: rest } =
        (after, outputs, some error) →
      motive next rest after result →
      motive configuration (next :: rest) self
        (result.1, .fetch configuration :: (outputs ++ result.2)))
    (exhausted : ∀ configuration (self : Pipeline) after outputs error,
      getAd configuration { self with remainingConfigurations := [] } =
        (after, outputs, some error) →
      motive configuration [] self ({ after with ready := false, loading := false },
        .fetch configuration :: (outputs ++ [.host (.rewardedVideoDidFailToLoad error)])))
    (configuration : MobiConfig) (remaining : List MobiConfig) (self : Pipeline) :
    motive configuration remaining self (self.fetchAd configuration remaining) := by
  induction remaining generalizing configuration self with
  | nil =>
      by_cases warming : configuration.adUnitWarmingUp = true
      · simpa [fetchAd, warming] using refused configuration [] self adUnitWarmingUp
      · by_cases unknown : configuration.adType = .unknown
        · simpa [fetchAd, warming, unknown] using refused configuration [] self noAdsAvailable
        · rcases got : getAd configuration { self with remainingConfigurations := [] } with
            ⟨after, outputs, failure⟩
          cases failure with
          | none => simpa [fetchAd, warming, unknown, got] using started _ _ _ _ _ got
          | some error => simpa [fetchAd, warming, unknown, got] using exhausted _ _ _ _ _ got
  | cons next rest ih =>
      by_cases warming : configuration.adUnitWarmingUp = true
      · simpa [fetchAd, warming] using refused configuration (next :: rest) self adUnitWarmingUp
      · by_cases unknown : configuration.adType = .unknown
        · simpa [fetchAd, warming, unknown] using
            refused configuration (next :: rest) self noAdsAvailable
        · rcases got : getAd configuration { self with remainingConfigurations := next :: rest } with
            ⟨after, outputs, failure⟩
          cases failure with
          | none => simpa [fetchAd, warming, unknown, got] using started _ _ _ _ _ got
          | some error =>
              have later := failed _ _ _ _ _ _ _ _ got (ih next after)
              rw [fetchAd]
              simpa only [warming, unknown, got, Bool.false_eq_true, if_false] using later

def rewardedVideoDidFailToLoad (error : NSError) (self : Pipeline) : Pipeline × List Output :=
  match self.remainingConfigurations with
  | next :: rest => self.fetchAd next rest
  | [] =>
      ({ self with ready := false, loading := false }, [.host (.rewardedVideoDidFailToLoad error)])

def receive (self : Pipeline) : AdapterMessage → Pipeline × List Output
  | .rewardedVideoDidLoad =>
      ({ self with remainingConfigurations := [], ready := true, loading := false },
        [.host .rewardedVideoDidLoad])
  | .rewardedVideoAdVideoDidLoad => (self, [.host .rewardedVideoAdVideoDidLoad])
  | .rewardedVideoDidFailToLoad error => self.rewardedVideoDidFailToLoad error
  | .rewardedVideoDidExpire => ({ self with ready := false }, [.host .rewardedVideoDidExpire])
  | .rewardedVideoDidFailToPlay error =>
      ({ self with ready := false, playedAd := false }, [.host (.rewardedVideoDidFailToPlay error)])
  | .rewardedVideoWillAppear => (self, [.host .rewardedVideoWillAppear])
  | .rewardedVideoDidAppear => (self, [.host .rewardedVideoDidAppear])
  | .rewardedVideoWillDisappear => (self, [.host .rewardedVideoWillDisappear])
  | .rewardedVideoDidDisappear =>
      ({ self with ready := false, playedAd := true }, [.host .rewardedVideoDidDisappear])
  | .rewardedVideoDidReceiveTapEvent => (self, [.host .rewardedVideoDidReceiveTapEvent])
  | .rewardedVideoDidReceiveImpressionEvent => (self, [])
  | .rewardedVideoWillLeaveApplication => (self, [.host .rewardedVideoWillLeaveApplication])
  | .rewardedVideoShouldRewardUser reward => (self, [.host (.rewardedVideoShouldRewardUser reward)])

def receiveAll : List AdapterMessage → Pipeline → Pipeline × List Output
  | [], self => (self, [])
  | message :: rest, self =>
      let (self, outputs) := self.receive message
      let (self, more) := receiveAll rest self
      (self, outputs ++ more)

def report (adapter : Adapter) (tracked : List Output) (passedOn : List AdapterMessage)
    (self : Pipeline) : Pipeline × List Output :=
  let self := { self with adapter := some adapter }
  if adapter.delegate then
    let (self, outputs) := receiveAll passedOn self
    (self, tracked ++ outputs)
  else (self, tracked)

def adapterReceive (message : Message) (self : Pipeline) : Pipeline × List Output :=
  match self.adapter with
  | none => (self, [])
  | some adapter =>
      let (adapter, tracked, passedOn) := adapter.receive message
      self.report adapter tracked passedOn

def handle : CustomEvent.Effects → Pipeline → Pipeline × List Output
  | [], self => (self, [])
  | .call call :: rest, self =>
      let (self, more) := handle rest (self.perform call)
      (self, .gdt call :: more)
  | .message message :: rest, self =>
      let (self, outputs) := self.adapterReceive message
      let (self, more) := handle rest self
      (self, .customEvent message :: (outputs ++ more))

/-- Runs a method of the current custom event; a message to nil does nothing. -/
def withCustomEvent (method : CustomEvent → CustomEvent × CustomEvent.Effects) (self : Pipeline) :
    Pipeline × List Output :=
  match self.adapter with
  | none => (self, [])
  | some adapter =>
      match adapter.rewardedVideoCustomEvent with
      | none => (self, [])
      | some event =>
          let (event, effects) := method event
          handle effects
            { self with adapter := some { adapter with rewardedVideoCustomEvent := some event } }

def loadAdWithURL (self : Pipeline) : Pipeline × List Output :=
  let self := { self with playedAd := false }
  if self.loading then (self, [])
  else ({ self with loading := true, configRequest := true }, [.loadURL])

def loadRewardedVideoAd (self : Pipeline) : Pipeline × List Output :=
  if self.ready && !self.playedAd then (self, [.host .rewardedVideoDidLoad])
  else self.loadAdWithURL

def presentRewardedVideoAd (reading : Reading) (viewController : Option UIViewController)
    (self : Pipeline) : Pipeline × List Output :=
  if !self.ready then (self, [.host (.rewardedVideoDidFailToPlay notReadyToBeShown)])
  else if self.playedAd then (self, [.host (.rewardedVideoDidFailToPlay adAlreadyPlayed)])
  else self.withCustomEvent (·.presentRewardedVideo reading viewController)

def handleAdPlayedForCustomEventNetwork (reading : Reading) (self : Pipeline) :
    Pipeline × List Output :=
  if self.ready then self.withCustomEvent (·.handleAdPlayedForCustomEventNetwork reading)
  else (self, [])

def communicatorDidReceiveAdConfigurations (configurations : List MobiConfig) (self : Pipeline) :
    Pipeline × List Output :=
  let self := { self with configRequest := false }
  match configurations with
  | [] =>
      ({ self with remainingConfigurations := [], loading := false },
        [.received [], .host (.rewardedVideoDidFailToLoad noAdsAvailable)])
  | first :: rest =>
      let (self, outputs) := self.fetchAd first rest
      (self, .received configurations :: outputs)

def communicatorDidFailWithError (error : NSError) (self : Pipeline) : Pipeline × List Output :=
  ({ self with configRequest := false, ready := false, loading := false },
    [.host (.rewardedVideoDidFailToLoad error)])

/-- The source clears the adapter's delegate after the manager has handled the
failure; the manager does not look at the adapter there, so it is cleared first. -/
def timeout (self : Pipeline) : Pipeline × List Output :=
  match self.adapter with
  | none => (self, [])
  | some adapter =>
      let timedOut := { self with adapter := some { adapter with timeoutTimer := false, delegate := false } }
      if adapter.delegate then timedOut.rewardedVideoDidFailToLoad requestTimedOut
      else (timedOut, [])

def expire (self : Pipeline) : Pipeline × List Output :=
  match self.adapter with
  | none => (self, [])
  | some adapter =>
      let adapter := { adapter with expirationTimer := false }
      if adapter.hasTrackedImpression then ({ self with adapter := some adapter }, [])
      else
        let (adapter, tracked, passedOn) := adapter.rewardedVideoDidExpire
        self.report adapter tracked passedOn

def Live (ad : Nat) (self : Pipeline) : Prop :=
  self.adapter.bind Adapter.ad? = some ad

instance (ad : Nat) (self : Pipeline) : Decidable (self.Live ad) :=
  inferInstanceAs (Decidable (self.adapter.bind Adapter.ad? = some ad))

def settle (ad : Nat) (self : Pipeline) : CustomEvent.Callback → Pipeline
  | .didLoad => { self with unanswered := self.unanswered.erase ad, loaded := self.loaded ++ [ad] }
  | .didFailWithError _ => { self with unanswered := self.unanswered.erase ad }
  | _ => self

def callback (reading : Reading) (ad : Nat) (callback : CustomEvent.Callback) (self : Pipeline) :
    Pipeline × List Output :=
  let settled := self.settle ad callback
  if self.Live ad then settled.withCustomEvent (·.receive reading ad callback) else (settled, [])

inductive Input where
  | load
  | present (reading : Reading) (viewController : Option UIViewController)
  | handleAdPlayed (reading : Reading)
  | receiveConfigurations (configurations : List MobiConfig)
  | requestFailed (error : NSError)
  | callback (reading : Reading) (ad : Nat) (callback : CustomEvent.Callback)
  | timeout
  | expire

def step (self : Pipeline) : Input → Pipeline × List Output
  | .load => self.loadRewardedVideoAd
  | .present reading viewController => self.presentRewardedVideoAd reading viewController
  | .handleAdPlayed reading => self.handleAdPlayedForCustomEventNetwork reading
  | .receiveConfigurations configurations =>
      self.communicatorDidReceiveAdConfigurations configurations
  | .requestFailed error => self.communicatorDidFailWithError error
  | .callback reading ad callback => self.callback reading ad callback
  | .timeout => self.timeout
  | .expire => self.expire

/-- A config request is answered once; a load is answered once, by success or
failure, and a loaded ad may still fail when it plays; timers fire while they are
scheduled. -/
def enabled (self : Pipeline) : Input → Prop
  | .receiveConfigurations _ => self.configRequest = true
  | .requestFailed _ => self.configRequest = true
  | .callback _ ad .didLoad => ad ∈ self.unanswered
  | .callback _ ad (.didFailWithError _) => ad ∈ self.unanswered ∨ ad ∈ self.loaded
  | .callback _ ad _ => ad < self.fresh
  | .timeout => self.adapter.any Adapter.timeoutTimer = true
  | .expire => self.adapter.any Adapter.expirationTimer = true
  | _ => True

def machine : Machine Pipeline Input Output where
  enabled := enabled
  step := step

end Pipeline

end GDTAdapter.RewardedVideo
