import GDTAdapter.Banner.CustomEvent
import GDTAdapter.Feed.CustomEvent
import GDTAdapter.Interstitial.CustomEvent
import GDTAdapter.MobiConfig
import GDTAdapter.RewardedVideo.CustomEvent
import GDTAdapter.Splash.CustomEvent

namespace GDTAdapter

open Reactive

/-! # The advertised formats

`MEGDTAdapter` names one class for each ad format.  The host makes an instance of
it, calls its request method and waits for a load or a failure.
-/

def NSClassFromString (name : String) : Option CustomEventClass :=
  [.splash, .banner, .feed, .interstitial, .rewardedVideo, .fullscreen, .drawView].find?
    fun customEventClass => customEventClass.name == name

namespace MEGDTAdapter

def getSplashCustomEvent : Option CustomEventClass := NSClassFromString "MobiGDTSplashCustomEvent"

def getBannerCustomEvent : Option CustomEventClass := NSClassFromString "MobiGDTBannerCustomEvent"

def getFeedCustomEvent : Option CustomEventClass := NSClassFromString "MobiGDTFeedCustomEvent"

def getInterstitialCustomEvent : Option CustomEventClass :=
  NSClassFromString "MobiGDTInterstitialCustomEvent"

def getRewardedVideoCustomEvent : Option CustomEventClass :=
  NSClassFromString "MobiGDTRewardedVideoCustomEvent"

def getFullscreenCustomEvent : Option CustomEventClass :=
  NSClassFromString "MobiGDTFullscreenCustomEvent"

def getDrawViewCustomEvent : Option CustomEventClass := NSClassFromString "MobiGDTDrawViewCustomEvent"

def customEvents : List (Option CustomEventClass) :=
  [getSplashCustomEvent, getBannerCustomEvent, getFeedCustomEvent, getInterstitialCustomEvent,
    getRewardedVideoCustomEvent, getFullscreenCustomEvent, getDrawViewCustomEvent]

end MEGDTAdapter

/-- A request method, and how to read what it does: which messages report a
failed load, and the placements of the GDT ads it makes and loads. -/
structure RequestMethod (State Call Message : Type) where
  request : Info → State → State × List (Effect Call Message)
  isLoadFailure : Message → Bool
  created : Call → Option String
  loaded : Call → Option String

namespace RequestMethod

variable {State Call Message : Type}

def Refuses (method : RequestMethod State Call Message) (info : Info) (state : State) : Prop :=
  (∃ message, messages (method.request info state).2 = [message] ∧
    method.isLoadFailure message = true) ∧
  (calls (method.request info state).2).filterMap method.created = [] ∧
  (calls (method.request info state).2).filterMap method.loaded = [] ∧
  (method.request info state).1 = state

def Starts (method : RequestMethod State Call Message) (adUnitId : String) (info : Info)
    (state : State) : Prop :=
  (calls (method.request info state).2).filterMap method.loaded = [adUnitId] ∧
  messages (method.request info state).2 = []

def Answers (method : RequestMethod State Call Message) (info : Info) (state : State) : Prop :=
  match info.adunit with
  | none => method.Refuses info state
  | some adUnitId => method.Starts adUnitId info state

variable {method : RequestMethod State Call Message} {info : Info} {state : State}

/-- A request that only sends its failure refuses just if the message gets through. -/
theorem refuses_iff_heard {effects : List (Effect Call Message)} {failure : Message} {heard : Bool}
    (request : method.request info state = (state, effects))
    (idle : calls effects = []) (sent : messages effects = if heard then [failure] else [])
    (isFailure : method.isLoadFailure failure = true) :
    method.Refuses info state ↔ heard = true := by
  rw [Refuses, request, idle, sent]
  cases heard with
  | true => exact iff_of_true ⟨⟨failure, rfl, isFailure⟩, rfl, rfl, rfl⟩ rfl
  | false =>
      refine iff_of_false (fun refuses => ?_) Bool.false_ne_true
      obtain ⟨⟨message, nothing, _⟩, _⟩ := refuses
      exact nomatch nothing

theorem refuses_iff_of_send {Selector : Type} {delegate : Delegate Selector} {failure : Message}
    (request : method.request info state = (state, delegate.send failure))
    (isFailure : method.isLoadFailure failure = true) :
    method.Refuses info state ↔ delegate.isSome = true :=
  refuses_iff_heard request (Delegate.calls_send failure) (Delegate.messages_send failure) isFailure

theorem refuses_iff_of_notify {Selector : Type} {delegate : Delegate Selector} {guard : Selector}
    {failure : Message} (request : method.request info state = (state, delegate.notify guard failure))
    (isFailure : method.isLoadFailure failure = true) :
    method.Refuses info state ↔ delegate.responds guard = true :=
  refuses_iff_heard request (Delegate.calls_notify guard failure)
    (Delegate.messages_notify guard failure) isFailure

/-- A method that starts every load it is given an ad unit for answers just if its
refusals are heard. -/
theorem answers_iff_heard {heard : Prop}
    (refuses : info.adunit = none → (method.Refuses info state ↔ heard))
    (starts : ∀ adUnitId, info.adunit = some adUnitId → method.Starts adUnitId info state) :
    method.Answers info state ↔ (info.adunit = none → heard) := by
  rw [Answers]
  cases adunit : info.adunit with
  | none =>
      have refused := refuses adunit
      constructor
      · intro answers _
        exact refused.mp answers
      · intro prepared
        exact refused.mpr (prepared rfl)
  | some adUnitId =>
      constructor
      · intro _ absent
        cases absent
      · intro _
        exact starts adUnitId adunit

end RequestMethod

namespace Splash

def requestMethod (fresh : Nat) : RequestMethod CustomEvent Call Message where
  request := CustomEvent.requestSplash fresh
  isLoadFailure
    | .splashAdFailToPresent _ => true
    | _ => false
  created
    | .initWithPlacementId ad => some ad.placementId
    | _ => none
  loaded
    | .loadAd ad => some ad.placementId
    | _ => none

end Splash

namespace Banner

def requestMethod (constants : MobiBannerError) (fresh : Nat) (size : CGSize) :
    RequestMethod CustomEvent Call Message where
  request := CustomEvent.requestAd constants fresh size
  isLoadFailure
    | .didFailToLoadAdWithError _ => true
    | _ => false
  created
    | .initWithFrame view => some view.placementId
    | _ => none
  loaded
    | .loadAdAndShow view => some view.placementId
    | _ => none

end Banner

namespace Feed

def requestMethod (fresh : Nat) : RequestMethod CustomEvent Call Message where
  request := CustomEvent.requestFeed fresh
  isLoadFailure
    | .nativeExpressAdFailToLoad _ => true
    | _ => false
  created
    | .initWithPlacementId ad => some ad.placementId
    | _ => none
  loaded
    | .loadAd ad _ => some ad.placementId
    | _ => none

end Feed

namespace Interstitial

def requestMethod (fresh : Nat) : RequestMethod CustomEvent Call Message where
  request := CustomEvent.requestInterstitial fresh
  isLoadFailure
    | .didFailToLoadAdWithError _ => true
    | _ => false
  created
    | .initWithPlacementId ad => some ad.placementId
    | _ => none
  loaded
    | .loadAd ad => some ad.placementId
    | _ => none

end Interstitial

namespace RewardedVideo

def requestMethod (fresh : Nat) : RequestMethod CustomEvent Call Message where
  request := CustomEvent.requestRewardedVideo fresh
  isLoadFailure
    | .rewardedVideoDidFailToLoadAd _ => true
    | _ => false
  created
    | .initWithPlacementId ad => some ad.placementId
    | _ => none
  loaded
    | .loadAd ad => some ad.placementId
    | _ => none

end RewardedVideo

/-- The request method of a base class of the host, whose default body is empty.
The fullscreen and draw-view classes inherit it. -/
def inheritedRequestMethod : RequestMethod Unit Unit Unit where
  request := fun _ state => (state, [])
  isLoadFailure := fun _ => true
  created := fun _ => none
  loaded := fun _ => none

inductive Receiver where
  | splash (event : Splash.CustomEvent)
  | banner (event : Banner.CustomEvent)
  | feed (event : Feed.CustomEvent)
  | interstitial (event : Interstitial.CustomEvent)
  | rewardedVideo (event : RewardedVideo.CustomEvent)
  | fullscreen
  | drawView

namespace Receiver

def isa : Receiver → CustomEventClass
  | splash _ => .splash
  | banner _ => .banner
  | feed _ => .feed
  | interstitial _ => .interstitial
  | rewardedVideo _ => .rewardedVideo
  | fullscreen => .fullscreen
  | drawView => .drawView

def Answers (constants : Banner.MobiBannerError) (fresh : Nat) (size : CGSize) (info : Info) :
    Receiver → Prop
  | splash event => (Splash.requestMethod fresh).Answers info event
  | banner event => (Banner.requestMethod constants fresh size).Answers info event
  | feed event => (Feed.requestMethod fresh).Answers info event
  | interstitial event => (Interstitial.requestMethod fresh).Answers info event
  | rewardedVideo event => (RewardedVideo.requestMethod fresh).Answers info event
  | fullscreen => inheritedRequestMethod.Answers info ()
  | drawView => inheritedRequestMethod.Answers info ()

/-- The class has a request method of its own, a missing ad unit finds a delegate
to report to, and the banner holds no view of another placement. -/
def Prepared (info : Info) : Receiver → Prop
  | splash event =>
      info.adunit = none → event.delegate.responds .splashAdFailToPresent = true
  | banner event =>
      (info.adunit = none → event.delegate.isSome = true) ∧
        ∀ adUnitId view, info.adunit = some adUnitId → event.bannerView = some view →
          view.placementId = adUnitId
  | feed event => info.adunit = none → event.delegate.isSome = true
  | interstitial event => info.adunit = none → event.delegate.isSome = true
  | rewardedVideo event => info.adunit = none → event.delegate.isSome = true
  | fullscreen => False
  | drawView => False

end Receiver

section Methods

variable {fresh : Nat} {info : Info}

theorem Splash.answers_iff_heard {event : Splash.CustomEvent} :
    (Splash.requestMethod fresh).Answers info event ↔
      (info.adunit = none → event.delegate.responds .splashAdFailToPresent = true) := by
  apply RequestMethod.answers_iff_heard
  · intro absent
    have request : (Splash.requestMethod fresh).request info event =
        (event, event.delegate.notify .splashAdFailToPresent (.splashAdFailToPresent
          (Splash.CustomEvent.noAdsAvailable "posid cannot be nil"))) := by
      simp only [Splash.requestMethod, Splash.CustomEvent.requestSplash, absent]
    exact RequestMethod.refuses_iff_of_notify request rfl
  · intro adUnitId present
    simp [RequestMethod.Starts, Splash.requestMethod, Splash.CustomEvent.requestSplash, present,
      Splash.CustomEvent.makeSplash]

theorem Feed.answers_iff_heard {event : Feed.CustomEvent} :
    (Feed.requestMethod fresh).Answers info event ↔
      (info.adunit = none → event.delegate.isSome = true) := by
  apply RequestMethod.answers_iff_heard
  · intro absent
    have request : (Feed.requestMethod fresh).request info event =
        (event, event.delegate.send
          (.nativeExpressAdFailToLoad Feed.CustomEvent.invalidPosid)) := by
      simp only [Feed.requestMethod, Feed.CustomEvent.requestFeed, absent]
    exact RequestMethod.refuses_iff_of_send request rfl
  · intro adUnitId present
    simp [RequestMethod.Starts, Feed.requestMethod, Feed.CustomEvent.requestFeed, present]

theorem Interstitial.answers_iff_heard {event : Interstitial.CustomEvent} :
    (Interstitial.requestMethod fresh).Answers info event ↔
      (info.adunit = none → event.delegate.isSome = true) := by
  apply RequestMethod.answers_iff_heard
  · intro absent
    have request : (Interstitial.requestMethod fresh).request info event =
        (event, event.delegate.send
          (.didFailToLoadAdWithError Interstitial.CustomEvent.invalidPosid)) := by
      simp only [Interstitial.requestMethod, Interstitial.CustomEvent.requestInterstitial, absent]
    exact RequestMethod.refuses_iff_of_send request rfl
  · intro adUnitId present
    simp [RequestMethod.Starts, Interstitial.requestMethod,
      Interstitial.CustomEvent.requestInterstitial, present]

theorem RewardedVideo.answers_iff_heard {event : RewardedVideo.CustomEvent} :
    (RewardedVideo.requestMethod fresh).Answers info event ↔
      (info.adunit = none → event.delegate.isSome = true) := by
  apply RequestMethod.answers_iff_heard
  · intro absent
    have request : (RewardedVideo.requestMethod fresh).request info event =
        (event, event.delegate.send
          (.rewardedVideoDidFailToLoadAd RewardedVideo.CustomEvent.invalidPosid)) := by
      simp only [RewardedVideo.requestMethod, RewardedVideo.CustomEvent.requestRewardedVideo, absent]
    exact RequestMethod.refuses_iff_of_send request rfl
  · intro adUnitId present
    simp [RequestMethod.Starts, RewardedVideo.requestMethod,
      RewardedVideo.CustomEvent.requestRewardedVideo, present]

/-- The banner loads the view it holds, whatever placement that view was made for. -/
theorem Banner.starts_iff {constants : Banner.MobiBannerError} {size : CGSize}
    {event : Banner.CustomEvent} {adUnitId : String} (present : info.adunit = some adUnitId) :
    (Banner.requestMethod constants fresh size).Starts adUnitId info event ↔
      ∀ view, event.bannerView = some view → view.placementId = adUnitId := by
  cases held : event.bannerView with
  | none =>
      simp [RequestMethod.Starts, Banner.requestMethod, Banner.CustomEvent.requestAd, present, held,
        Banner.CustomEvent.makeBannerView]
  | some view =>
      simp [RequestMethod.Starts, Banner.requestMethod, Banner.CustomEvent.requestAd, present, held]

theorem Banner.answers_iff_prepared {constants : Banner.MobiBannerError} {size : CGSize}
    {event : Banner.CustomEvent} :
    (Banner.requestMethod constants fresh size).Answers info event ↔
      (info.adunit = none → event.delegate.isSome = true) ∧
        ∀ adUnitId view, info.adunit = some adUnitId → event.bannerView = some view →
          view.placementId = adUnitId := by
  rw [RequestMethod.Answers]
  cases adunit : info.adunit with
  | none =>
      have request : (Banner.requestMethod constants fresh size).request info event =
          (event, event.delegate.send (.didFailToLoadAdWithError constants.invalidPosid)) := by
        simp only [Banner.requestMethod, Banner.CustomEvent.requestAd, adunit]
      have refuses := RequestMethod.refuses_iff_of_send request rfl
      constructor
      · intro refused
        exact ⟨fun _ => refuses.mp refused, fun _ _ present => nomatch present⟩
      · intro prepared
        exact refuses.mpr (prepared.1 rfl)
  | some adUnitId =>
      have starts : (Banner.requestMethod constants fresh size).Starts adUnitId info event ↔ _ :=
        Banner.starts_iff adunit
      constructor
      · intro started
        refine ⟨fun absent => (nomatch absent), fun other view same held => ?_⟩
        exact (starts.mp started view held).trans (Option.some.inj same)
      · intro prepared
        exact starts.mpr (fun view held => prepared.2 adUnitId view rfl held)

theorem inherited_not_answers (info : Info) : ¬ inheritedRequestMethod.Answers info () := by
  rw [RequestMethod.Answers]
  cases info.adunit with
  | none =>
      intro refuses
      obtain ⟨⟨message, nothing, _⟩, _⟩ := refuses
      exact nomatch nothing
  | some adUnitId =>
      intro starts
      exact nomatch starts.1

end Methods

/-- Every class the adapter advertises is found, and a request of any instance in
any state is answered just if it is prepared for it. -/
theorem request_answered_iff (constants : Banner.MobiBannerError) (fresh : Nat) (size : CGSize)
    (info : Info) :
    ∀ getter ∈ MEGDTAdapter.customEvents, ∃ customEventClass, getter = some customEventClass ∧
      ∀ receiver : Receiver, receiver.isa = customEventClass →
        (receiver.Answers constants fresh size info ↔ receiver.Prepared info) := by
  have answered (receiver : Receiver) :
      receiver.Answers constants fresh size info ↔ receiver.Prepared info := by
    cases receiver with
    | splash event => exact Splash.answers_iff_heard
    | banner event => exact Banner.answers_iff_prepared
    | feed event => exact Feed.answers_iff_heard
    | interstitial event => exact Interstitial.answers_iff_heard
    | rewardedVideo event => exact RewardedVideo.answers_iff_heard
    | fullscreen => exact iff_of_false (inherited_not_answers info) id
    | drawView => exact iff_of_false (inherited_not_answers info) id
  have found : ∀ getter ∈ MEGDTAdapter.customEvents, getter.isSome = true := by decide
  intro getter member
  obtain ⟨customEventClass, named⟩ := Option.isSome_iff_exists.mp (found getter member)
  exact ⟨customEventClass, named, fun receiver _ => answered receiver⟩

section Requests

def someSize : CGSize where
  width := 320
  height := 50

def someInfo : Info := { adunit := some "8020" }

def unheardSplash : Receiver := .splash { delegate := none }

theorem splash_answered :
    MEGDTAdapter.getSplashCustomEvent ∈ MEGDTAdapter.customEvents ∧
      unheardSplash.Answers Banner.someConstants 0 someSize someInfo := by
  have advertised : MEGDTAdapter.getSplashCustomEvent ∈ MEGDTAdapter.customEvents :=
    List.mem_cons_self
  obtain ⟨customEventClass, found, answered⟩ :=
    request_answered_iff Banner.someConstants 0 someSize someInfo _ advertised
  have isSplash : some unheardSplash.isa = some customEventClass :=
    (by decide : some unheardSplash.isa = MEGDTAdapter.getSplashCustomEvent).trans found
  refine ⟨advertised, (answered unheardSplash (Option.some.inj isSplash)).mpr ?_⟩
  exact fun absent => nomatch absent

theorem fullscreen_not_answered :
    MEGDTAdapter.getFullscreenCustomEvent = some Receiver.fullscreen.isa ∧
      ¬ Receiver.fullscreen.Answers Banner.someConstants 0 someSize someInfo :=
  ⟨by decide, inherited_not_answers someInfo⟩

end Requests

end GDTAdapter
