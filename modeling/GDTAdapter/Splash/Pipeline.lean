import GDTAdapter.MobiConfig
import GDTAdapter.Splash.CustomEvent

namespace GDTAdapter.Splash

open Reactive

/-! # The splash pipeline

`MobiSplash` over `MobiSplashAdManager` over `MobiSplashAdapter` over the custom
event, for one ad unit, with ownership as in the rewarded-video pipeline.  A splash
is shown as soon as it has loaded.
-/

/-- What the delegate of the ad unit is told.  `splashAdDidLoad:` is not among it:
`MobiSplash` asks its delegate for `splashAdDidLoadForManager:` before, which is a
method of its own. -/
inductive HostMessage where
  | splashAdSuccessPresentScreen
  | splashAdFailToPresent (error : NSError)
  | splashAdApplicationWillEnterBackground
  | splashAdClicked
  | splashAdWillClosed
  | splashAdClosed
  | splashAdDidExpire
  | splashAdWillPresentFullScreenModal
  | splashAdDidPresentFullScreenModal
  | splashAdWillDismissFullScreenModal
  | splashAdDidDismissFullScreenModal
  | splashAdLifeTime (time : Nat)
deriving DecidableEq, Repr

inductive AdapterMessage where
  | splashAdDidLoad
  | splashAdFailToPresent (error : NSError)
  | splashAdClosed
  | splashAdDidExpire
  /-- The others, which the manager passes on. -/
  | relayed (message : HostMessage)
deriving DecidableEq, Repr

inductive Output where
  | loadURL
  | gdt (call : Call)
  | customEvent (message : Message)
  | trackImpression (configuration : MobiConfig)
  | trackClick (configuration : MobiConfig)
  | host (message : HostMessage)
deriving DecidableEq, Repr

structure Adapter where
  configuration : MobiConfig
  delegate : Bool := true
  splashCustomEvent : Option CustomEvent := none
  timeoutTimer : Bool := false
  expirationTimer : Bool := false
  hasTrackedImpression : Bool := false
  hasTrackedClick : Bool := false
  hasSuccessfullyLoaded : Bool := false
  hasExpired : Bool := false

namespace Adapter

def implements : Selector → Bool := fun _ => true

def ad? (self : Adapter) : Option Nat :=
  (self.splashCustomEvent.bind CustomEvent.splash).map GDTSplashAd.ref

def splashAdDidExpire (self : Adapter) : Adapter × List Output × List AdapterMessage :=
  if self.hasExpired then (self, [], [])
  else ({ self with hasExpired := true }, [], [.splashAdDidExpire])

/-- The methods of `MobiSplashCustomEventDelegate`.  An exposure is passed on as a
successful presentation.  The expiration timer is made once the load has been
passed on; nobody looks at it there, so it is made first. -/
def receive (self : Adapter) : Message → Adapter × List Output × List AdapterMessage
  | .splashAdDidLoad =>
      if self.hasSuccessfullyLoaded then (self, [], [])
      else
        ({ self with hasSuccessfullyLoaded := true, timeoutTimer := false, expirationTimer := true },
          [], [.splashAdDidLoad])
  | .splashAdFailToPresent error =>
      ({ self with splashCustomEvent := none, timeoutTimer := false },
        [], [.splashAdFailToPresent error])
  | .splashAdSuccessPresentScreen => (self, [], [.relayed .splashAdSuccessPresentScreen])
  | .splashAdApplicationWillEnterBackground =>
      (self, [], [.relayed .splashAdApplicationWillEnterBackground])
  | .splashAdExposured =>
      if !self.hasTrackedImpression then
        ({ self with hasTrackedImpression := true, expirationTimer := false },
          [.trackImpression self.configuration], [.relayed .splashAdSuccessPresentScreen])
      else (self, [], [.relayed .splashAdSuccessPresentScreen])
  | .splashAdClicked =>
      if !self.hasTrackedClick then
        ({ self with hasTrackedClick := true }, [.trackClick self.configuration],
          [.relayed .splashAdClicked])
      else (self, [], [.relayed .splashAdClicked])
  | .splashAdWillClosed => (self, [], [.relayed .splashAdWillClosed])
  | .splashAdClosed => (self, [], [.splashAdClosed])
  | .splashAdDidExpire => self.splashAdDidExpire
  | .splashAdWillPresentFullScreenModal =>
      (self, [], [.relayed .splashAdWillPresentFullScreenModal])
  | .splashAdDidPresentFullScreenModal => (self, [], [.relayed .splashAdDidPresentFullScreenModal])
  | .splashAdWillDismissFullScreenModal =>
      (self, [], [.relayed .splashAdWillDismissFullScreenModal])
  | .splashAdDidDismissFullScreenModal => (self, [], [.relayed .splashAdDidDismissFullScreenModal])
  | .splashAdLifeTime time => (self, [], [.relayed (.splashAdLifeTime time)])

end Adapter

/-- The manager, the adapter it holds, the window of `MobiSplash`, and what the
config server and GDT still owe. -/
structure Pipeline where
  loading : Bool := false
  playedAd : Bool := false
  ready : Bool := false
  remainingConfigurations : List MobiConfig := []
  adapter : Option Adapter := none
  window : Option UIWindow := none
  configRequest : Bool := false
  fresh : Nat := 0
  unanswered : List Nat := []

namespace Pipeline

def sdkError (code : Int) (localizedDescription : Option String) : NSError where
  domain := "MobiSplashAdsSDKDomain"
  code := code
  localizedDescription := localizedDescription

def adUnitWarmingUp : NSError := sdkError (-1001) none

def noAdsAvailable : NSError := sdkError (-1100) none

def notReadyToBeShown : NSError := sdkError (-1401) (some "Splash ad view is not ready to be shown")

def adAlreadyPlayed : NSError := sdkError (-1400) (some "Splash ad view is playing")

def requestTimedOut : NSError := .adRequestTimedOut "Splash ad request timed out"

def conforms : Option CustomEventClass → Bool
  | some .splash => true
  | _ => false

/-- What GDT does with a call: an initialised ad takes the next reference, and a
load is owed an answer. -/
def perform (self : Pipeline) : Call → Pipeline
  | .initWithPlacementId _ => { self with fresh := self.fresh + 1 }
  | .loadAd ad => { self with unanswered := self.unanswered ++ [ad.ref] }
  | .showAdInWindow _ _ _ => self
  | .preloadSplashOrder _ => self

def loadFailure? : Message → Option NSError
  | .splashAdFailToPresent error => some error
  | _ => none

/-- `getAdWithConfiguration:targeting:` of a new adapter.  The last component is
the failure that the custom event or the adapter reports before returning. -/
def getAd (configuration : MobiConfig) (self : Pipeline) : Pipeline × List Output × Option NSError :=
  let adapter : Adapter := { configuration }
  if conforms configuration.customEventClass then
    let adapter := { adapter with timeoutTimer := configuration.armsTimeout 30 }
    let (event, effects) := CustomEvent.requestSplash self.fresh configuration.info
      { delegate := some Adapter.implements }
    let adapter := { adapter with splashCustomEvent := some event }
    let outputs := (calls effects).map Output.gdt ++ (messages effects).map Output.customEvent
    match (messages effects).findSome? loadFailure? with
    | none => ({ (calls effects).foldl perform self with adapter := some adapter }, outputs, none)
    | some error =>
        ({ (calls effects).foldl perform self with
            adapter := some (adapter.receive (.splashAdFailToPresent error)).1 },
          outputs, some error)
  else
    ({ self with adapter := some adapter }, [], some
      (.customEventClassDoesNotInheritFrom configuration.customEventClass "MobiSplashCustomEvent"))

/-- `fetchAdWithConfiguration:`, with the configurations that remain to be tried
when it fails before returning. -/
def fetchAd (configuration : MobiConfig) (remaining : List MobiConfig) (self : Pipeline) :
    Pipeline × List Output :=
  let self := { self with remainingConfigurations := remaining }
  if configuration.adUnitWarmingUp then
    ({ self with loading := false }, [.host (.splashAdFailToPresent adUnitWarmingUp)])
  else if configuration.adType = .unknown then
    ({ self with loading := false }, [.host (.splashAdFailToPresent noAdsAvailable)])
  else
    match self.getAd configuration with
    | (self, outputs, none) => (self, outputs)
    | (self, outputs, some error) =>
        match remaining with
        | next :: rest =>
            let (self, more) := fetchAd next rest self
            (self, outputs ++ more)
        | [] =>
            ({ self with ready := false, loading := false },
              outputs ++ [.host (.splashAdFailToPresent error)])

def splashAdFailToPresent (error : NSError) (self : Pipeline) : Pipeline × List Output :=
  match self.remainingConfigurations with
  | next :: rest => self.fetchAd next rest
  | [] => ({ self with ready := false, loading := false }, [.host (.splashAdFailToPresent error)])

/-- `presentSplashAdFromWindow:`, which `MobiSplash` calls when the ad has loaded.
The custom event reports a failure before it returns, or nothing. -/
def presentSplashAd (reading : Reading) (self : Pipeline) : Pipeline × List Output :=
  if !self.ready then (self, [.host (.splashAdFailToPresent notReadyToBeShown)])
  else if self.playedAd then (self, [.host (.splashAdFailToPresent adAlreadyPlayed)])
  else
    match self.adapter with
    | none => (self, [])
    | some adapter =>
        match adapter.splashCustomEvent with
        | none => (self, [])
        | some event =>
            let (_, effects) := event.presentSplash reading self.window
            let outputs := (calls effects).map Output.gdt ++ (messages effects).map Output.customEvent
            match (messages effects).findSome? loadFailure? with
            | none => ((calls effects).foldl perform self, outputs)
            | some error =>
                let (adapter, _, _) := adapter.receive (.splashAdFailToPresent error)
                let self := { self with adapter := some adapter }
                if adapter.delegate then
                  let (self, more) := self.splashAdFailToPresent error
                  (self, outputs ++ more)
                else (self, outputs)

def receive (reading : Reading) (self : Pipeline) : AdapterMessage → Pipeline × List Output
  | .splashAdDidLoad =>
      { self with remainingConfigurations := [], ready := true, loading := false }.presentSplashAd reading
  | .splashAdFailToPresent error => self.splashAdFailToPresent error
  | .splashAdClosed => ({ self with ready := false, playedAd := true }, [.host .splashAdClosed])
  | .splashAdDidExpire => ({ self with ready := false }, [.host .splashAdDidExpire])
  | .relayed message => (self, [.host message])

def receiveAll (reading : Reading) : List AdapterMessage → Pipeline → Pipeline × List Output
  | [], self => (self, [])
  | message :: rest, self =>
      let (self, outputs) := self.receive reading message
      let (self, more) := receiveAll reading rest self
      (self, outputs ++ more)

def report (reading : Reading) (adapter : Adapter) (tracked : List Output)
    (passedOn : List AdapterMessage) (self : Pipeline) : Pipeline × List Output :=
  let self := { self with adapter := some adapter }
  if adapter.delegate then
    let (self, outputs) := receiveAll reading passedOn self
    (self, tracked ++ outputs)
  else (self, tracked)

def adapterReceive (reading : Reading) (message : Message) (self : Pipeline) :
    Pipeline × List Output :=
  match self.adapter with
  | none => (self, [])
  | some adapter =>
      let (adapter, tracked, passedOn) := adapter.receive message
      self.report reading adapter tracked passedOn

def handle (reading : Reading) : CustomEvent.Effects → Pipeline → Pipeline × List Output
  | [], self => (self, [])
  | .call call :: rest, self =>
      let (self, more) := handle reading rest (self.perform call)
      (self, .gdt call :: more)
  | .message message :: rest, self =>
      let (self, outputs) := self.adapterReceive reading message
      let (self, more) := handle reading rest self
      (self, .customEvent message :: (outputs ++ more))

/-- Runs a method of the current custom event; a message to nil does nothing. -/
def withCustomEvent (reading : Reading) (method : CustomEvent → CustomEvent × CustomEvent.Effects)
    (self : Pipeline) : Pipeline × List Output :=
  match self.adapter with
  | none => (self, [])
  | some adapter =>
      match adapter.splashCustomEvent with
      | none => (self, [])
      | some event =>
          let (event, effects) := method event
          handle reading effects
            { self with adapter := some { adapter with splashCustomEvent := some event } }

def loadAdWithURL (self : Pipeline) : Pipeline × List Output :=
  let self := { self with playedAd := false }
  if self.loading then (self, [])
  else ({ self with loading := true, configRequest := true }, [.loadURL])

/-- `loadSplashAdAndShowWithWindow:posid:SplashModel:`; an ad that is there is shown. -/
def loadSplashAdAndShow (reading : Reading) (window : Option UIWindow) (self : Pipeline) :
    Pipeline × List Output :=
  if window.isNone then (self, [])
  else
    let self := { self with window }
    if self.ready && !self.playedAd then self.presentSplashAd reading else self.loadAdWithURL

def stopSplashAd (self : Pipeline) : Pipeline := { self with ready := false }

def communicatorDidReceiveAdConfigurations (configurations : List MobiConfig) (self : Pipeline) :
    Pipeline × List Output :=
  let self := { self with configRequest := false }
  match configurations with
  | [] =>
      ({ self with remainingConfigurations := [], loading := false },
        [.host (.splashAdFailToPresent noAdsAvailable)])
  | first :: rest => self.fetchAd first rest

def communicatorDidFailWithError (error : NSError) (self : Pipeline) : Pipeline × List Output :=
  ({ self with configRequest := false, ready := false, loading := false },
    [.host (.splashAdFailToPresent error)])

/-- The source clears the adapter's delegate after the manager has handled the
failure; the manager does not look at the adapter there, so it is cleared first. -/
def timeout (self : Pipeline) : Pipeline × List Output :=
  match self.adapter with
  | none => (self, [])
  | some adapter =>
      let timedOut := { self with adapter := some { adapter with timeoutTimer := false, delegate := false } }
      if adapter.delegate then timedOut.splashAdFailToPresent requestTimedOut else (timedOut, [])

def expire (reading : Reading) (self : Pipeline) : Pipeline × List Output :=
  match self.adapter with
  | none => (self, [])
  | some adapter =>
      let adapter := { adapter with expirationTimer := false }
      if adapter.hasTrackedImpression then ({ self with adapter := some adapter }, [])
      else
        let (adapter, tracked, passedOn) := adapter.splashAdDidExpire
        self.report reading adapter tracked passedOn

def Live (ad : Nat) (self : Pipeline) : Prop :=
  self.adapter.bind Adapter.ad? = some ad

instance (ad : Nat) (self : Pipeline) : Decidable (self.Live ad) :=
  inferInstanceAs (Decidable (self.adapter.bind Adapter.ad? = some ad))

def settle (ad : Nat) (self : Pipeline) : CustomEvent.Callback → Pipeline
  | .didLoad => { self with unanswered := self.unanswered.erase ad }
  | .failToPresent _ => { self with unanswered := self.unanswered.erase ad }
  | _ => self

def callback (reading : Reading) (ad : Nat) (callback : CustomEvent.Callback) (self : Pipeline) :
    Pipeline × List Output :=
  let settled := self.settle ad callback
  if self.Live ad then settled.withCustomEvent reading (·.receive ad callback) else (settled, [])

inductive Input where
  | load (reading : Reading) (window : Option UIWindow)
  | stop
  | receiveConfigurations (configurations : List MobiConfig)
  | requestFailed (error : NSError)
  | callback (reading : Reading) (ad : Nat) (callback : CustomEvent.Callback)
  | timeout
  | expire (reading : Reading)

def step (self : Pipeline) : Input → Pipeline × List Output
  | .load reading window => self.loadSplashAdAndShow reading window
  | .stop => (self.stopSplashAd, [])
  | .receiveConfigurations configurations =>
      self.communicatorDidReceiveAdConfigurations configurations
  | .requestFailed error => self.communicatorDidFailWithError error
  | .callback reading ad callback => self.callback reading ad callback
  | .timeout => self.timeout
  | .expire reading => self.expire reading

/-- A config request is answered once and the timers fire while they are scheduled.
GDT reports the end of a load once, and a failure later at any time. -/
def enabled (self : Pipeline) : Input → Prop
  | .receiveConfigurations _ => self.configRequest = true
  | .requestFailed _ => self.configRequest = true
  | .callback _ ad .didLoad => ad ∈ self.unanswered
  | .callback _ ad _ => ad < self.fresh
  | .timeout => self.adapter.any Adapter.timeoutTimer = true
  | .expire _ => self.adapter.any Adapter.expirationTimer = true
  | _ => True

def machine : Machine Pipeline Input Output where
  enabled := enabled
  step := step

def shown (output : Output) : Bool := output = .host .splashAdSuccessPresentScreen

/-- The manager is the delegate of the custom event it holds. -/
def Wired (self : Pipeline) : Prop :=
  ∀ adapter ∈ self.adapter, ∀ event ∈ adapter.splashCustomEvent,
    event.delegate = some Adapter.implements

/-- A step that does not say that a splash was shown. -/
def Quiet (result : Pipeline × List Output) : Prop :=
  result.1.Wired ∧ ∀ output ∈ result.2, shown output = false

variable {self : Pipeline} {reading : Reading}

theorem Quiet.countP {result : Pipeline × List Output} (quiet : Quiet result) :
    result.2.countP shown = 0 := by
  rw [List.countP_eq_zero]
  intro output member
  rw [quiet.2 output member]
  exact Bool.false_ne_true

/-- What an adapter keeps when it hears of its custom event. -/
theorem receive_frame (adapter : Adapter) (message : Message) :
    ((adapter.receive message).1.splashCustomEvent = adapter.splashCustomEvent ∨
        (adapter.receive message).1.splashCustomEvent = none) ∧
      (adapter.receive message).1.delegate = adapter.delegate ∧
      (∀ output ∈ (adapter.receive message).2.1, shown output = false) := by
  cases message with
  | splashAdDidLoad =>
      unfold Adapter.receive
      cases adapter.hasSuccessfullyLoaded <;> simp
  | splashAdExposured =>
      unfold Adapter.receive
      cases adapter.hasTrackedImpression <;> simp [shown]
  | splashAdClicked =>
      unfold Adapter.receive
      cases adapter.hasTrackedClick <;> simp [shown]
  | splashAdDidExpire =>
      unfold Adapter.receive Adapter.splashAdDidExpire
      cases adapter.hasExpired <;> simp
  | _ => simp [Adapter.receive]

theorem Wired.received {adapter : Adapter} (wired : self.Wired) (held : self.adapter = some adapter)
    (message : Message) : Wired { self with adapter := some (adapter.receive message).1 } := by
  intro other isOther event isEvent
  cases isOther
  rcases (receive_frame adapter message).1 with same | gone
  · rw [same] at isEvent
    exact wired adapter held event isEvent
  · rw [gone] at isEvent
    cases isEvent

theorem Wired.perform (wired : self.Wired) (call : Call) : (self.perform call).Wired := by
  cases call <;> exact wired

/-- The callbacks that end in one of the two. -/
def sayingOf : CustomEvent.Callback → Option Message
  | .successPresentScreen => some .splashAdSuccessPresentScreen
  | .exposured => some .splashAdExposured
  | _ => none

theorem receive_delegate (ad : Nat) (event : CustomEvent) (callback : CustomEvent.Callback) :
    (event.receive ad callback).1.delegate = event.delegate := by
  cases callback <;> rfl

/-- The adapter of `ad` hears of it and passes it on. -/
def Hears (ad : Nat) (self : Pipeline) : Prop :=
  self.Live ad ∧ self.adapter.any Adapter.delegate = true

instance (ad : Nat) (self : Pipeline) : Decidable (self.Hears ad) :=
  inferInstanceAs (Decidable (self.Live ad ∧ self.adapter.any Adapter.delegate = true))

/-- What a step adds to the presentations that the host hears of. -/
def adds (self : Pipeline) : Input → Nat
  | .callback _ ad callback => if (sayingOf callback).isSome ∧ self.Hears ad then 1 else 0
  | _ => 0

end Pipeline

end GDTAdapter.Splash
