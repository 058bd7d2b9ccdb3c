import GDTAdapter.Host.AdConfigServer
import GDTAdapter.Timers.AdImpressionTimer

namespace GDTAdapter.BannerHost

open Reactive Timers

/-! # The banner host

`MPBannerAdManager` has an adapter on screen and asks for the next one behind it.
It shares the main queue with its communicator: an answer of the server and the
request of a new adapter to its network both wait there for their turn.

Adapters are held by the manager alone.  One that is dropped is unregistered, so
what its custom event sends reaches nobody.  A call that the app or a network
makes from inside a message it receives is taken as the next step.
-/

/-- What the manager and the adapter read of a configuration besides. -/
structure BannerConfig extends MobiConfig where
  refreshInterval : ℚ
  impressionMinVisibleTimeInSec : ℚ
  impressionMinVisiblePixels : ℚ
deriving DecidableEq, Repr

/-- The banner custom events that are linked in: whether they leave the tracking
of impressions and clicks to the adapter.  Any other class is no subclass of
`MPBannerCustomEvent`. -/
abbrev Networks := CustomEventClass → Option Bool

/-- The messages of `MPBannerCustomEventDelegate`. -/
inductive EventMessage where
  | didLoadAd (ad : Option UIView)
  | didFailToLoadAdWithError (error : Option NSError)
  | willBeginAction
  | didFinishAction
  | willLeaveApplication
  | trackImpression
  | trackClick
  | willExpandAd
  | didCollapseAd
deriving DecidableEq, Repr

/-- The messages of `MPBannerAdManagerDelegate`; the delegate is the `MPAdView`. -/
inductive ManagerMessage where
  | managerDidLoadAd (ad : UIView)
  | managerDidFailToLoadAdWithError (error : NSError)
  | invalidateContentView
  | userActionWillBegin
  | userActionDidFinish
  | userWillLeaveApplication
deriving DecidableEq, Repr

/-- The tracker is sent the configuration; the adapter is the sender. -/
inductive Output where
  | start (task : Nat)
  | cancel (task : Nat)
  | received (configurations : List BannerConfig)
  | fetch (configuration : BannerConfig)
  | requestAd (event : Nat) (configuration : BannerConfig)
  | trackImpression (adapter : Nat) (configuration : Option BannerConfig)
  | trackClick (adapter : Nat) (configuration : Option BannerConfig)
  | manager (message : ManagerMessage)
deriving DecidableEq, Repr

structure Event where
  ref : Nat
  enableAutomaticImpressionAndClickTracking : Bool
deriving DecidableEq, Repr

/-- The `MPBannerCustomEventAdapter`; `ref` tells adapters apart. -/
structure Adapter where
  ref : Nat
  configuration : Option BannerConfig := none
  bannerCustomEvent : Option Event := none
  hasTrackedClick : Bool := false
  impressionTimer : Option MPAdImpressionTimer := none
  adView : Option UIView := none

/-- The messages of `MPBannerAdapterDelegate`. -/
inductive Report where
  | didFinishLoadingAd (ad : UIView)
  | didFailToLoadAdWithError (error : Option NSError)
  | didTrackImpression
  | userActionWillBegin
  | userActionDidFinish
  | userWillLeaveApplication
  | adWillExpand
  | adDidCollapse
deriving DecidableEq, Repr

namespace Adapter

def kDefaultRequiredPixelsInViewForImpression : ℚ := 1

def kDefaultRequiredSecondsInViewForImpression : ℚ := 0

def replace (self held : Adapter) : Adapter := if held.ref = self.ref then self else held

def tracksAutomatically (self : Adapter) : Bool :=
  self.bannerCustomEvent.any Event.enableAutomaticImpressionAndClickTracking

/-- A message to a nil configuration answers zero. -/
def startViewableTrackingTimer (now : ℚ) (self : Adapter) : Adapter :=
  let seconds := (self.configuration.map BannerConfig.impressionMinVisibleTimeInSec).getD 0
  let pixels := (self.configuration.map BannerConfig.impressionMinVisiblePixels).getD 0
  let minimumSecondsForImpression :=
    if 0 ≤ seconds then seconds else kDefaultRequiredSecondsInViewForImpression
  let minimumPixelsForImpression :=
    if 0 ≤ pixels then pixels else kDefaultRequiredPixelsInViewForImpression
  let impressionTimer := MPAdImpressionTimer.initWithRequiredViewVisibilityPixels
    minimumSecondsForImpression minimumPixelsForImpression
  { self with impressionTimer := some (impressionTimer.startTrackingView now self.adView) }

/-- `didDisplayAd` of the custom event does nothing. -/
def didDisplayAd (now : ℚ) (self : Adapter) : Adapter :=
  if self.tracksAutomatically then self.startViewableTrackingTimer now else self

def trackClickOnce (self : Adapter) : Adapter × List Output :=
  if self.tracksAutomatically && !self.hasTrackedClick then
    ({ self with hasTrackedClick := true }, [.trackClick self.ref self.configuration])
  else (self, [])

/-- What the adapter reports to the tracker, and what it tells the manager. -/
def receive (self : Adapter) : EventMessage → Adapter × List Output × Option Report
  | .didLoadAd (some ad) => ({ self with adView := some ad }, [], some (.didFinishLoadingAd ad))
  | .didLoadAd none => (self, [], some (.didFailToLoadAdWithError none))
  | .didFailToLoadAdWithError error => (self, [], some (.didFailToLoadAdWithError error))
  | .willBeginAction =>
      let (self, tracked) := self.trackClickOnce
      (self, tracked, some .userActionWillBegin)
  | .didFinishAction => (self, [], some .userActionDidFinish)
  | .willLeaveApplication =>
      let (self, tracked) := self.trackClickOnce
      (self, tracked, some .userWillLeaveApplication)
  | .trackImpression => (self, [.trackImpression self.ref self.configuration], some .didTrackImpression)
  | .trackClick => (self, [.trackClick self.ref self.configuration], none)
  | .willExpandAd => (self, [], some .adWillExpand)
  | .didCollapseAd => (self, [], some .adDidCollapse)

end Adapter

/-- A block on the main queue. -/
inductive Block where
  | communicator (message : CommunicatorMessage BannerConfig)
  | getAd (configuration : BannerConfig)

/-- The manager, its communicator and network tasks, the main queue, and what the
`MPAdView` shows.  `fresh` numbers tasks, adapters and custom events. -/
structure AdManager where
  adUnitId : String
  communicator : MobiAdConfigServer := {}
  onscreenAdapter : Option Adapter := none
  requestingAdapter : Option Adapter := none
  requestingAdapterAdContentView : Option UIView := none
  requestingConfiguration : Option BannerConfig := none
  remainingConfigurations : List BannerConfig := []
  refreshTimer : Option MobiTimer := none
  adActionInProgress : Bool := false
  automaticallyRefreshesContents : Bool := true
  hasRequestedAtLeastOneAd : Bool := false
  adContentView : Option UIView := none
  userInteractionEnabled : Bool := false
  fresh : Nat := 0
  inFlight : List Nat := []
  mainQueue : List Block := []

namespace AdManager

def defaultBannerRefreshInterval : ℚ := 60

def adUnitWarmingUp : NSError := .errorWithCode 1 none

def noInventory : NSError := .errorWithCode 0 none

def clearResponseError (self : AdManager) : NSError :=
  .errorWithCode 0 (some ("No ads found for ad unit: " ++ self.adUnitId))

def loading (self : AdManager) : Bool :=
  self.communicator.loading || self.requestingAdapter.isSome

/-- Of the `MPAdView`. -/
def setAdContentView (view : Option UIView) (self : AdManager) : AdManager :=
  { self with adContentView := view, userInteractionEnabled := view.isSome }

/-- A message to the `MPAdView`, and what it does to the view. -/
def tell (message : ManagerMessage) (self : AdManager) : AdManager × List Output :=
  let self :=
    match message with
    | .managerDidLoadAd ad => self.setAdContentView (some ad)
    | .invalidateContentView => self.setAdContentView none
    | _ => self
  (self, [.manager message])

def scheduleRefreshTimer (now : ℚ) (self : AdManager) : AdManager :=
  let timeInterval :=
    (self.requestingConfiguration.map BannerConfig.refreshInterval).getD defaultBannerRefreshInterval
  if self.automaticallyRefreshesContents && decide (0 < timeInterval) then
    { self with
        refreshTimer := some ((MobiTimer.timerWithTimeInterval timeInterval false).scheduleNow now) }
  else { self with refreshTimer := self.refreshTimer.map MobiTimer.invalidate }

def pauseRefreshTimer (self : AdManager) : AdManager :=
  { self with
      refreshTimer := self.refreshTimer.map fun timer =>
        if timer.isValid then MobiTimer.pause timer else timer }

def resumeRefreshTimer (now : ℚ) (self : AdManager) : AdManager :=
  { self with
      refreshTimer := self.refreshTimer.map fun timer =>
        if timer.isValid then MobiTimer.resume now timer else timer }

def loadAdWithURL (self : AdManager) : AdManager × List Output :=
  ({ self with
      requestingConfiguration := none
      requestingAdapter := none
      requestingAdapterAdContentView := none
      communicator := self.communicator.cancel.loadURL self.fresh
      fresh := self.fresh + 1
      inFlight := self.inFlight ++ [self.fresh] },
    self.communicator.task.toList.map .cancel ++ [.start self.fresh])

def loadAdWithTargeting (self : AdManager) : AdManager × List Output :=
  let self := { self with hasRequestedAtLeastOneAd := true }
  if self.loading then (self, []) else self.loadAdWithURL

def forceRefreshAd (self : AdManager) : AdManager × List Output := self.loadAdWithURL

def didFailToLoadAdapterWithError (now : ℚ) (error : NSError) (self : AdManager) :
    AdManager × List Output :=
  let (self, outputs) := self.tell (.managerDidFailToLoadAdWithError error)
  (self.scheduleRefreshTimer now, outputs)

/-- `requestingConfiguration = [remainingConfigurations removeFirst]` -/
def takeConfiguration (configuration : BannerConfig) (remaining : List BannerConfig)
    (self : AdManager) : AdManager :=
  { self with requestingConfiguration := some configuration, remainingConfigurations := remaining }

/-- A new adapter, which asks its network when the main queue comes to it. -/
def makeRequestingAdapter (configuration : BannerConfig) (self : AdManager) : AdManager :=
  { self with
      requestingAdapter := some { ref := self.fresh }
      fresh := self.fresh + 1
      mainQueue := self.mainQueue ++ [.getAd configuration] }

/-- The initialiser of the adapter answers nil. -/
def missRequestingAdapter (self : AdManager) : AdManager := { self with requestingAdapter := none }

/-- `fetchAdWithConfiguration:`, with the configurations that remain to be tried.
A configuration without a class gives no adapter and fails at once. -/
def fetchAd (now : ℚ) (configuration : BannerConfig) (remaining : List BannerConfig)
    (self : AdManager) : AdManager × List Output :=
  let self := self.takeConfiguration configuration remaining
  if configuration.adUnitWarmingUp then
    let (self, outputs) := self.didFailToLoadAdapterWithError now adUnitWarmingUp
    (self, .fetch configuration :: outputs)
  else if configuration.customEventClass.isNone then
    let self := self.missRequestingAdapter
    match remaining with
    | next :: rest =>
        let (self, outputs) := fetchAd now next rest self
        (self, .fetch configuration :: outputs)
    | [] =>
        let (self, outputs) := self.didFailToLoadAdapterWithError now self.clearResponseError
        (self, .fetch configuration :: outputs)
  else (self.makeRequestingAdapter configuration, [.fetch configuration])

def communicatorDidReceiveAdConfigurations (now : ℚ) (configurations : List BannerConfig)
    (self : AdManager) : AdManager × List Output :=
  match configurations with
  | [] =>
      let self := { self with remainingConfigurations := [], requestingConfiguration := none }
      let (self, outputs) := self.didFailToLoadAdapterWithError now noInventory
      (self, .received [] :: outputs)
  | first :: rest =>
      let (self, outputs) := self.fetchAd now first rest
      (self, .received configurations :: outputs)

def IsRef (ref : Nat) (adapter : Option Adapter) : Prop := adapter.map Adapter.ref = some ref

instance (ref : Nat) (adapter : Option Adapter) : Decidable (IsRef ref adapter) :=
  inferInstanceAs (Decidable (adapter.map Adapter.ref = some ref))

def presentRequestingAdapter (now : ℚ) (self : AdManager) : AdManager × List Output :=
  match self.requestingAdapterAdContentView with
  | none => (self, [])
  | some ad =>
      if self.adActionInProgress then (self, [])
      else
        let self := { self with onscreenAdapter := self.requestingAdapter, requestingAdapter := none }
        let (self, outputs) := self.tell (.managerDidLoadAd ad)
        ({ self with
            onscreenAdapter := self.onscreenAdapter.map (Adapter.didDisplayAd now)
            requestingAdapterAdContentView := none }, outputs)

def adapterDidFinishLoadingAd (now : ℚ) (ref : Nat) (ad : UIView) (self : AdManager) :
    AdManager × List Output :=
  if IsRef ref self.requestingAdapter then
    { self with remainingConfigurations := [], requestingAdapterAdContentView := some ad }
      |>.presentRequestingAdapter now
  else (self, [])

/-- The requesting adapter has failed, or there is none and its creation has. -/
def requestingAdapterDidFail (now : ℚ) (self : AdManager) : AdManager × List Output :=
  match self.remainingConfigurations with
  | next :: rest => self.fetchAd now next rest
  | [] => self.didFailToLoadAdapterWithError now self.clearResponseError

def finishAction (self : AdManager) : AdManager × List Output :=
  if self.adActionInProgress then
    let (self, outputs) := self.tell .userActionDidFinish
    ({ self with adActionInProgress := false }, outputs)
  else (self, [])

/-- Without the adapter there can be no modal on display any more, either. -/
def removeOnscreenAdapter (self : AdManager) : AdManager × List Output :=
  let (self, invalidated) := self.tell .invalidateContentView
  let (self, finished) := { self with onscreenAdapter := none }.finishAction
  (self, invalidated ++ finished)

def onscreenAdapterDidFail (now : ℚ) (self : AdManager) : AdManager × List Output :=
  let (self, removed) := self.removeOnscreenAdapter
  let (self, outputs) :=
    if self.requestingAdapterAdContentView.isSome then self.presentRequestingAdapter now
    else self.loadAdWithTargeting
  (self, removed ++ outputs)

def adapterDidFailToLoadAd (now : ℚ) (ref : Nat) (self : AdManager) : AdManager × List Output :=
  let (self, outputs) :=
    if IsRef ref self.requestingAdapter then self.requestingAdapterDidFail now else (self, [])
  let (self, more) :=
    if IsRef ref self.onscreenAdapter then self.onscreenAdapterDidFail now else (self, [])
  (self, outputs ++ more)

/-- The messages of an adapter; expanding and collapsing are not checked for
coming from the one on screen. -/
def receive (now : ℚ) (ref : Nat) (self : AdManager) : Report → AdManager × List Output
  | .didFinishLoadingAd ad => self.adapterDidFinishLoadingAd now ref ad
  | .didFailToLoadAdWithError _ => self.adapterDidFailToLoadAd now ref
  | .didTrackImpression =>
      if IsRef ref self.onscreenAdapter then (self.scheduleRefreshTimer now, []) else (self, [])
  | .userActionWillBegin =>
      if IsRef ref self.onscreenAdapter then
        { self with adActionInProgress := true }.tell .userActionWillBegin
      else (self, [])
  | .userActionDidFinish =>
      if IsRef ref self.onscreenAdapter then
        let (self, outputs) := self.tell .userActionDidFinish
        let (self, more) := { self with adActionInProgress := false }.presentRequestingAdapter now
        (self, outputs ++ more)
      else (self, [])
  | .userWillLeaveApplication =>
      if IsRef ref self.onscreenAdapter then self.tell .userWillLeaveApplication else (self, [])
  | .adWillExpand => (self.pauseRefreshTimer, [])
  | .adDidCollapse => (self.resumeRefreshTimer now, [])

def adapters (self : AdManager) : List Adapter :=
  self.requestingAdapter.toList ++ self.onscreenAdapter.toList

/-- The adapter has changed; it is the one with the same number that is held. -/
def update (adapter : Adapter) (self : AdManager) : AdManager :=
  { self with
      requestingAdapter := self.requestingAdapter.map adapter.replace
      onscreenAdapter := self.onscreenAdapter.map adapter.replace }

def holds (event : Nat) (adapter : Adapter) : Bool :=
  adapter.bannerCustomEvent.map Event.ref == some event

/-- A custom event sends a message to the adapter it belongs to, if that is held. -/
def message (now : ℚ) (event : Nat) (message : EventMessage) (self : AdManager) :
    AdManager × List Output :=
  match self.adapters.find? (holds event) with
  | none => (self, [])
  | some adapter =>
      let (adapter, tracked, report) := adapter.receive message
      let self := self.update adapter
      match report with
      | none => (self, tracked)
      | some report =>
          let (self, outputs) := self.receive now adapter.ref report
          (self, tracked ++ outputs)

/-- A tick of the impression timer of an adapter. -/
def tick (now : ℚ) (ref : Nat) (sight : Sight) (self : AdManager) : AdManager × List Output :=
  match self.adapters.find? fun adapter => adapter.ref == ref with
  | none => (self, [])
  | some adapter =>
      match adapter.impressionTimer with
      | none => (self, [])
      | some timer =>
          let (timer, logged) := timer.step (now, .tick sight)
          let self := self.update { adapter with impressionTimer := some timer }
          match logged with
          | [] => (self, [])
          | _ :: _ =>
              let (self, outputs) := self.receive now ref .didTrackImpression
              (self, .trackImpression adapter.ref adapter.configuration :: outputs)

/-- `_getAdWithConfiguration:` of the adapter that is the requesting one when the
block runs.  The custom event is created and asked. -/
def getAd (networks : Networks) (now : ℚ) (configuration : BannerConfig) (self : AdManager) :
    AdManager × List Output :=
  match self.requestingAdapter with
  | none => (self, [])
  | some adapter =>
      let adapter := { adapter with configuration := some configuration }
      match configuration.customEventClass.bind networks with
      | none =>
          { self with requestingAdapter := some adapter }.adapterDidFailToLoadAd now adapter.ref
      | some automatic =>
          ({ self with
              requestingAdapter := some { adapter with bannerCustomEvent := some ⟨self.fresh, automatic⟩ }
              fresh := self.fresh + 1 },
            [.requestAd self.fresh configuration])

inductive Input where
  | loadAd
  | forceRefreshAd
  | applicationWillEnterForeground
  | applicationDidEnterBackground
  | stopAutomaticallyRefreshingContents
  | startAutomaticallyRefreshingContents
  /-- A network task completes. -/
  | complete (task : Nat) (completion : Completion BannerConfig)
  /-- The main queue runs its first block. -/
  | runBlock
  | message (event : Nat) (message : EventMessage)
  | tick (ref : Nat) (sight : Sight)
  | refreshTimerDidFire

def applicationWillEnterForeground (self : AdManager) : AdManager × List Output :=
  if self.automaticallyRefreshesContents && self.hasRequestedAtLeastOneAd then self.loadAdWithURL
  else (self, [])

def stopAutomaticallyRefreshingContents (self : AdManager) : AdManager :=
  { self with automaticallyRefreshesContents := false }.pauseRefreshTimer

def startAutomaticallyRefreshingContents (now : ℚ) (self : AdManager) : AdManager :=
  let self := { self with automaticallyRefreshesContents := true }
  match self.refreshTimer with
  | none => self
  | some timer => if timer.isValid then self.resumeRefreshTimer now else self.scheduleRefreshTimer now

def complete (task : Nat) (completion : Completion BannerConfig) (self : AdManager) : AdManager :=
  let (communicator, message) := self.communicator.complete completion
  { self with
      communicator
      inFlight := self.inFlight.erase task
      mainQueue := self.mainQueue ++ [.communicator message] }

def runBlock (networks : Networks) (now : ℚ) (self : AdManager) : AdManager × List Output :=
  match self.mainQueue with
  | [] => (self, [])
  | block :: rest =>
      let self := { self with mainQueue := rest }
      match block with
      | .communicator (.communicatorDidReceiveAdConfigurations configurations) =>
          self.communicatorDidReceiveAdConfigurations now configurations
      | .communicator (.communicatorDidFailWithError error) =>
          self.didFailToLoadAdapterWithError now error
      | .getAd configuration => self.getAd networks now configuration

/-- The `NSTimer` of the refresh timer fires. -/
def refreshTimerDidFire (now : ℚ) (self : AdManager) : AdManager × List Output :=
  match self.refreshTimer with
  | none => (self, [])
  | some timer =>
      let (timer, sent) := timer.timerDidFire
      let self := { self with refreshTimer := some (timer.afterFiring now) }
      if sent && !self.loading then self.loadAdWithTargeting else (self, [])

def step (networks : Networks) (self : AdManager) (input : ℚ × Input) : AdManager × List Output :=
  match input.2 with
  | .loadAd => self.loadAdWithTargeting
  | .forceRefreshAd => self.forceRefreshAd
  | .applicationWillEnterForeground => self.applicationWillEnterForeground
  | .applicationDidEnterBackground => (self.pauseRefreshTimer, [])
  | .stopAutomaticallyRefreshingContents => (self.stopAutomaticallyRefreshingContents, [])
  | .startAutomaticallyRefreshingContents => (self.startAutomaticallyRefreshingContents input.1, [])
  | .complete task completion => (self.complete task completion, [])
  | .runBlock => self.runBlock networks input.1
  | .message event message => self.message input.1 event message
  | .tick ref sight => self.tick input.1 ref sight
  | .refreshTimerDidFire => self.refreshTimerDidFire input.1

/-- A task completes once, timers fire when they are due, and a custom event has
to exist before it sends anything. -/
def enabled (self : AdManager) (input : ℚ × Input) : Prop :=
  match input.2 with
  | .complete task _ => task ∈ self.inFlight
  | .runBlock => self.mainQueue ≠ []
  | .message event _ => event < self.fresh
  | .tick ref _ => ∃ adapter ∈ self.adapters, adapter.ref = ref ∧ ∃ timer visibility,
      adapter.impressionTimer = some timer ∧ timer.viewVisibilityTimer = some visibility ∧
        visibility.IsDue input.1
  | .refreshTimerDidFire => ∃ timer, self.refreshTimer = some timer ∧ timer.IsDue input.1
  | _ => True

instance decidableEnabled (self : AdManager) :
    (input : ℚ × Input) → Decidable (self.enabled input)
  | (_, .complete task _) => inferInstanceAs (Decidable (task ∈ self.inFlight))
  | (_, .runBlock) => inferInstanceAs (Decidable (self.mainQueue ≠ []))
  | (_, .message event _) => inferInstanceAs (Decidable (event < self.fresh))
  | (now, .tick ref _) =>
      decidable_of_iff
        (self.adapters.any (fun adapter => decide (adapter.ref = ref) &&
          adapter.impressionTimer.any fun timer =>
            timer.viewVisibilityTimer.any fun visibility => decide (visibility.IsDue now)) = true)
        (by simp [enabled, Option.any_eq_true])
  | (now, .refreshTimerDidFire) =>
      decidable_of_iff (self.refreshTimer.any (fun timer => decide (timer.IsDue now)) = true)
        (by simp [enabled, Option.any_eq_true])
  | (_, .loadAd) => isTrue trivial
  | (_, .forceRefreshAd) => isTrue trivial
  | (_, .applicationWillEnterForeground) => isTrue trivial
  | (_, .applicationDidEnterBackground) => isTrue trivial
  | (_, .stopAutomaticallyRefreshingContents) => isTrue trivial
  | (_, .startAutomaticallyRefreshingContents) => isTrue trivial

def machine (networks : Networks) : Machine AdManager (ℚ × Input) Output where
  enabled := enabled
  step := step networks

instance (networks : Networks) (self : AdManager) (input : ℚ × Input) :
    Decidable ((machine networks).enabled self input) :=
  inferInstanceAs (Decidable (self.enabled input))

/-- `initWithDelegate:` for an ad view. -/
def initWithAdUnitId (adUnitId : String) : AdManager where
  adUnitId := adUnitId

end AdManager

end GDTAdapter.BannerHost
