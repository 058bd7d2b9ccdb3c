import GDTAdapter.MobiConfig
import GDTAdapter.Interstitial.CustomEvent

namespace GDTAdapter.Interstitial

open Reactive

/-! # The interstitial pipeline

`MPInterstitialAdManager` over `MPInterstitialCustomEventAdapter` over the custom
event, with ownership as in the rewarded-video pipeline.  Calls that the host
makes from inside a message are taken as the next step.
-/

inductive HostMessage where
  | managerDidLoadInterstitial
  | didFailToLoadInterstitialWithError (error : NSError)
  | managerWillPresentInterstitial
  | managerDidPresentInterstitial
  | managerWillDismissInterstitial
  | managerDidDismissInterstitial
  | managerDidExpireInterstitial
  | managerWillPresentModal
  | managerDidDismissModal
  | managerDidReceiveTapEventFromInterstitial
deriving DecidableEq, Repr

inductive AdapterMessage where
  | adapterDidFinishLoadingAd
  | didFailToLoadAdWithError
  | interstitialWillAppear
  | interstitialDidAppear
  | interstitialWillDisappear
  | interstitialDidDisappear
  | interstitialDidExpire
  | interstitialDidReceiveTapEvent
  | interstitialWillLeaveApplication
  | interstitialWillPresentModal
  | interstitialDidDismissModal
  | interstitialDidReceiveImpressionEvent
deriving DecidableEq, Repr

/-- `accepted` is no call of the source: it marks a load that the manager answers
at once or starts, as opposed to one it drops. -/
inductive Output where
  | accepted
  | loadURL
  | gdt (call : Call)
  | customEvent (message : Message)
  | trackImpression (configuration : MobiConfig)
  | trackClick (configuration : MobiConfig)
  | host (message : HostMessage)
deriving DecidableEq, Repr

/-- The `MPInterstitialCustomEventAdapter`.  Its expiration timer is scheduled only for
the host's own custom events. -/
structure Adapter where
  configuration : MobiConfig
  delegate : Bool := true
  interstitialCustomEvent : Option CustomEvent := none
  timeoutTimer : Bool := false
  hasTrackedImpression : Bool := false
  hasTrackedClick : Bool := false

namespace Adapter

def implements : Selector → Bool := fun _ => true

def ad? (self : Adapter) : Option Nat :=
  (self.interstitialCustomEvent.bind CustomEvent.interstitial).map GDTUnifiedInterstitialAd.ref

/-- The methods of `MPInterstitialCustomEventDelegate`: what they report to the
tracker and what they pass on. -/
def receive (self : Adapter) : Message → Adapter × List Output × List AdapterMessage
  | .didLoadAd => ({ self with timeoutTimer := false }, [], [.adapterDidFinishLoadingAd])
  | .didFailToLoadAdWithError _ =>
      ({ self with timeoutTimer := false }, [], [.didFailToLoadAdWithError])
  | .didExpire => (self, [], [.interstitialDidExpire])
  | .willAppear => (self, [], [.interstitialWillAppear])
  | .didAppear =>
      if CustomEvent.enableAutomaticImpressionAndClickTracking && !self.hasTrackedImpression then
        ({ self with hasTrackedImpression := true }, [.trackImpression self.configuration],
          [.interstitialDidReceiveImpressionEvent, .interstitialDidAppear])
      else (self, [], [.interstitialDidAppear])
  | .willDisappear => (self, [], [.interstitialWillDisappear])
  | .didDisappear => (self, [], [.interstitialDidDisappear])
  | .didReceiveTapEvent =>
      if CustomEvent.enableAutomaticImpressionAndClickTracking && !self.hasTrackedClick then
        ({ self with hasTrackedClick := true }, [.trackClick self.configuration],
          [.interstitialDidReceiveTapEvent])
      else (self, [], [.interstitialDidReceiveTapEvent])
  | .willLeaveApplication => (self, [], [.interstitialWillLeaveApplication])
  | .willPresentModal => (self, [], [.interstitialWillPresentModal])
  | .didDismissModal => (self, [], [.interstitialDidDismissModal])

end Adapter

structure Pipeline where
  adUnitId : String
  loading : Bool := false
  ready : Bool := false
  remainingConfigurations : List MobiConfig := []
  adapter : Option Adapter := none
  configRequest : Bool := false
  fresh : Nat := 0
  unanswered : List Nat := []

namespace Pipeline

def adUnitWarmingUp : NSError := .errorWithCode 1 none

def noInventory : NSError := .errorWithCode 0 none

def clearResponseError (self : Pipeline) : NSError :=
  .errorWithCode 0 (some ("No ads found for ad unit: " ++ self.adUnitId))

def inherits : CustomEventClass → Bool
  | .interstitial => true
  | _ => false

/-- What GDT does with a call: an initialised ad takes the next reference, and a
load is owed an answer. -/
def perform (self : Pipeline) : Call → Pipeline
  | .initWithPlacementId _ => { self with fresh := self.fresh + 1 }
  | .loadAd ad => { self with unanswered := self.unanswered ++ [ad.ref] }
  | .presentAdFromRootViewController _ _ => self

/-- `_getAdWithConfiguration:targeting:` of a new adapter; the last component
tells whether it reports a failure before returning.  An adapter whose class is
refused leaves its timer scheduled. -/
def getAd (configuration : MobiConfig) (customEventClass : CustomEventClass) (self : Pipeline) :
    Pipeline × List Output × Bool :=
  let adapter : Adapter := { configuration, timeoutTimer := configuration.armsTimeout 30 }
  if inherits customEventClass then
    let (event, effects) := CustomEvent.requestInterstitial self.fresh configuration.info
      { delegate := some Adapter.implements }
    let adapter := { adapter with interstitialCustomEvent := some event }
    let outputs := (calls effects).map Output.gdt ++ (messages effects).map Output.customEvent
    match messages effects with
    | [] => ({ (calls effects).foldl perform self with adapter := some adapter }, outputs, false)
    | message :: _ =>
        ({ (calls effects).foldl perform self with adapter := some (adapter.receive message).1 },
          outputs, true)
  else ({ self with adapter := some adapter }, [], true)

/-- `setUpAdapterWithConfiguration:`; without a class the manager keeps the
adapter it has and takes the configuration as failed. -/
def setUpAdapter (configuration : MobiConfig) (self : Pipeline) : Pipeline × List Output × Bool :=
  match configuration.customEventClass with
  | none => (self, [], true)
  | some customEventClass => self.getAd configuration customEventClass

def noMoreConfigurations (self : Pipeline) : Pipeline × List Output :=
  ({ self with ready := false, loading := false },
    [.host (.didFailToLoadInterstitialWithError self.clearResponseError)])

/-- `fetchAdWithConfiguration:`, with the configurations that remain to be tried
when it fails before returning. -/
def fetchAd (configuration : MobiConfig) (remaining : List MobiConfig) (self : Pipeline) :
    Pipeline × List Output :=
  let self := { self with remainingConfigurations := remaining }
  if configuration.adUnitWarmingUp then
    ({ self with loading := false }, [.host (.didFailToLoadInterstitialWithError adUnitWarmingUp)])
  else
    match self.setUpAdapter configuration with
    | (self, outputs, false) => (self, outputs)
    | (self, outputs, true) =>
        match remaining with
        | next :: rest =>
            let (self, more) := fetchAd next rest self
            (self, outputs ++ more)
        | [] =>
            let (self, more) := self.noMoreConfigurations
            (self, outputs ++ more)

/-- What has to be shown of a fetch: the manager refuses the configuration, its
load starts, it fails at once and the next one is fetched, or it was the last. -/
theorem fetchAd_induct
    {motive : MobiConfig → List MobiConfig → Pipeline → Pipeline × List Output → Prop}
    (refused : ∀ configuration remaining (self : Pipeline),
      motive configuration remaining self
        ({ self with remainingConfigurations := remaining, loading := false },
          [.host (.didFailToLoadInterstitialWithError adUnitWarmingUp)]))
    (started : ∀ configuration remaining (self : Pipeline) after outputs,
      setUpAdapter configuration { self with remainingConfigurations := remaining } =
        (after, outputs, false) →
      motive configuration remaining self (after, outputs))
    (failed : ∀ configuration next rest (self : Pipeline) after outputs result,
      setUpAdapter configuration { self with remainingConfigurations := next :: rest } =
        (after, outputs, true) →
      motive next rest after result →
      motive configuration (next :: rest) self (result.1, outputs ++ result.2))
    (exhausted : ∀ configuration (self : Pipeline) after outputs,
      setUpAdapter configuration { self with remainingConfigurations := [] } =
        (after, outputs, true) →
      motive configuration [] self
        (after.noMoreConfigurations.1, outputs ++ after.noMoreConfigurations.2))
    (configuration : MobiConfig) (remaining : List MobiConfig) (self : Pipeline) :
    motive configuration remaining self (self.fetchAd configuration remaining) := by
  induction remaining generalizing configuration self with
  | nil =>
      by_cases warming : configuration.adUnitWarmingUp = true
      · simpa [fetchAd, warming] using refused configuration [] self
      · rcases got : setUpAdapter configuration { self with remainingConfigurations := [] } with
          ⟨after, outputs, failure⟩
        cases failure with
        | false => simpa [fetchAd, warming, got] using started _ _ _ _ _ got
        | true => simpa [fetchAd, warming, got] using exhausted _ _ _ _ got
  | cons next rest ih =>
      by_cases warming : configuration.adUnitWarmingUp = true
      · simpa [fetchAd, warming] using refused configuration (next :: rest) self
      · rcases got : setUpAdapter configuration { self with remainingConfigurations := next :: rest }
          with ⟨after, outputs, failure⟩
        cases failure with
        | false => simpa [fetchAd, warming, got] using started _ _ _ _ _ got
        | true =>
            have later := failed _ _ _ _ _ _ _ got (ih next after)
            rw [fetchAd]
            simpa only [warming, got, Bool.false_eq_true, if_false] using later

/-- `adapter:didFailToLoadAdWithError:`; the error is not passed on. -/
def didFailToLoadAd (self : Pipeline) : Pipeline × List Output :=
  match self.remainingConfigurations with
  | next :: rest => self.fetchAd next rest
  | [] => self.noMoreConfigurations

def receive (self : Pipeline) : AdapterMessage → Pipeline × List Output
  | .adapterDidFinishLoadingAd =>
      ({ self with remainingConfigurations := [], ready := true, loading := false },
        [.host .managerDidLoadInterstitial])
  | .didFailToLoadAdWithError => self.didFailToLoadAd
  | .interstitialWillAppear => (self, [.host .managerWillPresentInterstitial])
  | .interstitialDidAppear => (self, [.host .managerDidPresentInterstitial])
  | .interstitialWillDisappear => (self, [.host .managerWillDismissInterstitial])
  | .interstitialDidDisappear =>
      ({ self with ready := false }, [.host .managerDidDismissInterstitial])
  | .interstitialDidExpire => ({ self with ready := false }, [.host .managerDidExpireInterstitial])
  | .interstitialDidReceiveTapEvent => (self, [.host .managerDidReceiveTapEventFromInterstitial])
  | .interstitialWillLeaveApplication => (self, [])
  | .interstitialWillPresentModal => (self, [.host .managerWillPresentModal])
  | .interstitialDidDismissModal => (self, [.host .managerDidDismissModal])
  | .interstitialDidReceiveImpressionEvent => (self, [])

def receiveAll : List AdapterMessage → Pipeline → Pipeline × List Output
  | [], self => (self, [])
  | message :: rest, self =>
      let (self, outputs) := self.receive message
      let (self, more) := receiveAll rest self
      (self, outputs ++ more)

def adapterReceive (message : Message) (self : Pipeline) : Pipeline × List Output :=
  match self.adapter with
  | none => (self, [])
  | some adapter =>
      let (adapter, tracked, passedOn) := adapter.receive message
      let self := { self with adapter := some adapter }
      if adapter.delegate then
        let (self, outputs) := receiveAll passedOn self
        (self, tracked ++ outputs)
      else (self, tracked)

def handle : CustomEvent.Effects → Pipeline → Pipeline × List Output
  | [], self => (self, [])
  | .call call :: rest, self =>
      let (self, more) := handle rest (self.perform call)
      (self, .gdt call :: more)
  | .message message :: rest, self =>
      let (self, outputs) := self.adapterReceive message
      let (self, more) := handle rest self
      (self, .customEvent message :: (outputs ++ more))

/-- Runs a method of the current custom event; a message to nil does nothing. -/
def withCustomEvent (method : CustomEvent → CustomEvent × CustomEvent.Effects) (self : Pipeline) :
    Pipeline × List Output :=
  match self.adapter with
  | none => (self, [])
  | some adapter =>
      match adapter.interstitialCustomEvent with
      | none => (self, [])
      | some event =>
          let (event, effects) := method event
          handle effects
            { self with adapter := some { adapter with interstitialCustomEvent := some event } }

def loadInterstitial (self : Pipeline) : Pipeline × List Output :=
  if self.ready then (self, [.accepted, .host .managerDidLoadInterstitial])
  else if self.loading then (self, [])
  else ({ self with loading := true, configRequest := true }, [.accepted, .loadURL])

def presentInterstitial (reading : Reading) (controller : Option UIViewController) (self : Pipeline) :
    Pipeline × List Output :=
  if !self.ready then (self, [])
  else self.withCustomEvent (·.showInterstitial reading controller)

def communicatorDidReceiveAdConfigurations (configurations : List MobiConfig) (self : Pipeline) :
    Pipeline × List Output :=
  let self := { self with configRequest := false }
  match configurations with
  | [] =>
      ({ self with remainingConfigurations := [], loading := false },
        [.host (.didFailToLoadInterstitialWithError noInventory)])
  | first :: rest => self.fetchAd first rest

def communicatorDidFailWithError (error : NSError) (self : Pipeline) : Pipeline × List Output :=
  ({ self with configRequest := false, ready := false, loading := false },
    [.host (.didFailToLoadInterstitialWithError error)])

/-- The source clears the adapter's delegate after the manager has handled the
failure; the manager does not look at the adapter there, so it is cleared first. -/
def timeout (self : Pipeline) : Pipeline × List Output :=
  match self.adapter with
  | none => (self, [])
  | some adapter =>
      let timedOut := { self with adapter := some { adapter with timeoutTimer := false, delegate := false } }
      if adapter.delegate then timedOut.didFailToLoadAd else (timedOut, [])

def Live (ad : Nat) (self : Pipeline) : Prop :=
  self.adapter.bind Adapter.ad? = some ad

instance (ad : Nat) (self : Pipeline) : Decidable (self.Live ad) :=
  inferInstanceAs (Decidable (self.adapter.bind Adapter.ad? = some ad))

def settle (ad : Nat) (self : Pipeline) : CustomEvent.Callback → Pipeline
  | .successToLoadAd => { self with unanswered := self.unanswered.erase ad }
  | .failToLoadAd _ => { self with unanswered := self.unanswered.erase ad }
  | _ => self

def callback (ad : Nat) (callback : CustomEvent.Callback) (self : Pipeline) : Pipeline × List Output :=
  let settled := self.settle ad callback
  if self.Live ad then settled.withCustomEvent (·.receive ad callback) else (settled, [])

inductive Input where
  | load
  | present (reading : Reading) (controller : Option UIViewController)
  | receiveConfigurations (configurations : List MobiConfig)
  | requestFailed (error : NSError)
  | callback (ad : Nat) (callback : CustomEvent.Callback)
  | timeout

def step (self : Pipeline) : Input → Pipeline × List Output
  | .load => self.loadInterstitial
  | .present reading controller => self.presentInterstitial reading controller
  | .receiveConfigurations configurations =>
      self.communicatorDidReceiveAdConfigurations configurations
  | .requestFailed error => self.communicatorDidFailWithError error
  | .callback ad callback => self.callback ad callback
  | .timeout => self.timeout

/-- A config request and a load are answered once; the timer fires while it is
scheduled.  No order is asked of the callbacks that follow a load. -/
def enabled (self : Pipeline) : Input → Prop
  | .receiveConfigurations _ => self.configRequest = true
  | .requestFailed _ => self.configRequest = true
  | .callback ad .successToLoadAd => ad ∈ self.unanswered
  | .callback ad (.failToLoadAd _) => ad ∈ self.unanswered
  | .callback ad _ => ad < self.fresh
  | .timeout => self.adapter.any Adapter.timeoutTimer = true
  | _ => True

def machine : Machine Pipeline Input Output where
  enabled := enabled
  step := step

end Pipeline

end GDTAdapter.Interstitial
