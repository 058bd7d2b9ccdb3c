import GDTAdapter.Banner.CustomEvent
import GDTAdapter.Splash.CustomEvent

namespace GDTAdapter

open Reactive
open Banner (MobiBannerError)

/-! # Requests against earlier requests

The banner custom event keeps its view over requests, the splash custom event its
bottom view.  Two histories that end in the same accepted request should lead to
GDT objects that are configured by that request alone.
-/

namespace Banner

/-- What a banner view was created with and the interval it carries. -/
structure Configuration where
  placementId : String
  size : CGSize
  viewController : Option UIViewController
  autoSwitchInterval : Int
deriving DecidableEq, Repr

def GDTUnifiedBannerView.configuration (view : GDTUnifiedBannerView) : Configuration where
  placementId := view.placementId
  size := view.size
  viewController := view.viewController
  autoSwitchInterval := view.autoSwitchInterval

def requested (size : CGSize) (info : Info) (adUnitId : String) : Configuration where
  placementId := adUnitId
  size := size
  viewController := info.rootVC
  autoSwitchInterval := truncate (floatValue info.interval)

def loadedView : Call → Option Configuration
  | .loadAdAndShow view => some view.configuration
  | _ => none

def loadedViews (effects : CustomEvent.Effects) : List Configuration :=
  (calls effects).filterMap loadedView

/-- After two histories the same request loads views that are configured alike,
and as the request says. -/
structure Independent (constants : MobiBannerError) (size : CGSize) (info : Info) (adUnitId : String)
    (left right : Instance) : Prop where
  alike : loadedViews ((machine constants).emit left (.request size info)) =
    loadedViews ((machine constants).emit right (.request size info))
  own : loadedViews ((machine constants).emit left (.request size info)) =
    [requested size info adUnitId]

/-- There is no view, or one that the request would have created as well. -/
def NothingKept (size : CGSize) (info : Info) (adUnitId : String) (before : Instance) : Prop :=
  ∀ view, before.event.bannerView = some view → view.configuration = requested size info adUnitId

theorem loadedViews_request {constants : MobiBannerError} {size : CGSize} {info : Info}
    {adUnitId : String} (accepted : info.adunit = some adUnitId) (before : Instance) :
    loadedViews ((machine constants).emit before (.request size info)) =
      [before.event.bannerView.elim (requested size info adUnitId) (·.configuration)] := by
  have answer : (machine constants).emit before (.request size info) =
      (before.event.requestAd constants before.fresh size info).2 := rfl
  rw [answer]
  cases held : before.event.bannerView with
  | none =>
      simp only [CustomEvent.requestAd, accepted, held]
      rfl
  | some view =>
      simp only [CustomEvent.requestAd, accepted, held]
      rfl

theorem own_iff {constants : MobiBannerError} {size : CGSize} {info : Info} {adUnitId : String}
    (accepted : info.adunit = some adUnitId) (before : Instance) :
    loadedViews ((machine constants).emit before (.request size info)) =
        [requested size info adUnitId] ↔
      NothingKept size info adUnitId before := by
  rw [loadedViews_request accepted, List.singleton_inj]
  unfold NothingKept
  cases before.event.bannerView with
  | none => simp
  | some view => simp

theorem independent_iff_nothingKept (constants : MobiBannerError) (size : CGSize) {info : Info}
    {adUnitId : String} (accepted : info.adunit = some adUnitId) (left right : Instance) :
    Independent constants size info adUnitId left right ↔
      NothingKept size info adUnitId left ∧ NothingKept size info adUnitId right := by
  rw [← @own_iff constants _ _ _ accepted, ← @own_iff constants _ _ _ accepted]
  constructor
  · intro independent
    exact ⟨independent.own, independent.alike.symm.trans independent.own⟩
  · intro own
    exact ⟨own.1.trans own.2.symm, own.1⟩

end Banner

namespace Splash

/-- The ad shown and what is shown below it. -/
structure Shown where
  placementId : String
  fetchDelay : Int
  bottomView : Option UIView
deriving DecidableEq, Repr

def shownWith : Call → Option Shown
  | .showAdInWindow ad _ bottomView => some ⟨ad.placementId, ad.fetchDelay, bottomView⟩
  | _ => none

def shows (effects : CustomEvent.Effects) : List Shown :=
  (calls effects).filterMap shownWith

def requested (info : Info) (adUnitId : String) : Shown where
  placementId := adUnitId
  fetchDelay := (CustomEvent.makeSplash 0 adUnitId info).fetchDelay
  bottomView := info.bottomView

def Input.accepted : Input → Bool
  | .request info => info.adunit.isSome
  | _ => false

/-- Whatever follows, up to the next accepted request, is shown as requested. -/
def ShowsOwn (info : Info) (adUnitId : String) (before : Instance) : Prop :=
  ∀ later : List Input, (∀ input ∈ later, input.accepted = false) →
    ∀ shown ∈ shows (machine.trace (machine.next before (.request info)) later),
      shown = requested info adUnitId

/-- After both histories the same request shows its own ad and bottom view. -/
structure Independent (info : Info) (adUnitId : String) (left right : Instance) : Prop where
  left : ShowsOwn info adUnitId left
  right : ShowsOwn info adUnitId right

/-- The request brings a bottom view, or none is kept from an earlier one. -/
def NothingKept (info : Info) (before : Instance) : Prop :=
  info.bottomView.isSome = true ∨ before.event.bottomView = none

/-- What the steps that follow the request keep. -/
structure Serves (info : Info) (adUnitId : String) (bottomView : Option UIView) (after : Instance) :
    Prop where
  ad : ∀ ad, after.event.splash = some ad →
    ad.placementId = adUnitId ∧ ad.fetchDelay = (requested info adUnitId).fetchDelay
  bottomView : after.event.bottomView = bottomView

theorem shows_append (first second : CustomEvent.Effects) :
    shows (first ++ second) = shows first ++ shows second := by
  simp only [shows, calls_append, List.filterMap_append]

theorem shows_notify (delegate : Delegate Selector) (guard : Selector) (message : Message) :
    shows (delegate.notify guard message) = [] := by
  rw [shows, Delegate.calls_notify]
  rfl

theorem receive_keeps {event : CustomEvent} (ad : Nat) (callback : CustomEvent.Callback) :
    shows (event.receive ad callback).2 = [] ∧
      (event.receive ad callback).1.bottomView = event.bottomView ∧
      ∀ current, (event.receive ad callback).1.splash = some current → event.splash = some current := by
  cases callback with
  | successPresentScreen =>
      refine ⟨?_, rfl, fun _ held => held⟩
      refine (shows_append _ _).trans ?_
      rw [shows_notify]
      rfl
  | failToPresent error => exact ⟨shows_notify _ _ _, rfl, nofun⟩
  | _ => exact ⟨shows_notify _ _ _, rfl, fun _ held => held⟩

section Later

variable {info : Info} {adUnitId : String} {bottomView : Option UIView} {after : Instance}

theorem Serves.of_event {later : Instance} (serves : Serves info adUnitId bottomView after)
    (sameBottom : later.event.bottomView = after.event.bottomView)
    (sameAd : ∀ ad, later.event.splash = some ad → after.event.splash = some ad) :
    Serves info adUnitId bottomView later :=
  ⟨fun ad held => serves.ad ad (sameAd ad held), sameBottom.trans serves.bottomView⟩

theorem request_event (before : Instance) (accepted : info.adunit = some adUnitId) :
    (machine.next before (.request info)).event =
      { before.event.prepare adUnitId info with
        splash := some (CustomEvent.makeSplash before.fresh adUnitId info) } := by
  simp only [Machine.next, machine, Instance.step, CustomEvent.requestSplash, accepted]

theorem Serves.request (before : Instance) (accepted : info.adunit = some adUnitId) :
    Serves info adUnitId (info.bottomView.or before.event.bottomView)
      (machine.next before (.request info)) := by
  constructor
  · intro ad held
    rw [request_event before accepted] at held
    cases held
    exact ⟨rfl, rfl⟩
  · rw [request_event before accepted]
    unfold CustomEvent.prepare
    cases info.bottomView with
    | none => rfl
    | some view => rfl

theorem refused_request_keeps {other : Info} (refused : (Input.request other).accepted = false) :
    (machine.next after (.request other)).event = after.event ∧
      shows (machine.emit after (.request other)) = [] := by
  have absent : other.adunit = none := by simpa [Input.accepted] using refused
  constructor
  · simp only [Machine.next, machine, Instance.step, CustomEvent.requestSplash, absent]
  · simp only [Machine.emit, machine, Instance.step, CustomEvent.requestSplash, absent]
    exact shows_notify _ _ _

theorem mem_shows_present {reading : Reading} {window : Option UIWindow} {event : CustomEvent}
    {shown : Shown} (member : shown ∈ shows (event.presentSplash reading window).2) :
    ∃ ad, event.splash = some ad ∧ shown = ⟨ad.placementId, ad.fetchDelay, event.bottomView⟩ := by
  cases available : event.hasAdAvailable reading with
  | true =>
      obtain ⟨ad, current, valid⟩ := CustomEvent.exists_ad_of_available available
      rw [CustomEvent.presentSplash_of_valid window current valid] at member
      exact ⟨ad, current, List.mem_singleton.mp member⟩
  | false =>
      rw [CustomEvent.presentSplash_of_invalid window available, shows_notify] at member
      cases member

/-- A step that is not an accepted request goes on serving the request, and shows
only its ad. -/
theorem Serves.step (serves : Serves info adUnitId bottomView after) {input : Input}
    (refused : input.accepted = false) :
    Serves info adUnitId bottomView (machine.next after input) ∧
      ∀ shown ∈ shows (machine.emit after input),
        shown = { requested info adUnitId with bottomView } := by
  cases input with
  | request other =>
      obtain ⟨same, quiet⟩ := @refused_request_keeps after other refused
      rw [quiet]
      exact ⟨serves.of_event (by rw [same]) (by rw [same]; exact fun _ held => held), nofun⟩
  | present reading window =>
      have same : (machine.next after (.present reading window)).event = after.event :=
        CustomEvent.presentSplash_fst reading window after.event
      refine ⟨serves.of_event (by rw [same]) (by rw [same]; exact fun _ held => held), ?_⟩
      intro shown member
      obtain ⟨ad, current, rfl⟩ := mem_shows_present member
      obtain ⟨placement, delay⟩ := serves.ad ad current
      rw [placement, delay, serves.bottomView]
      rfl
  | handleAdPlayed reading =>
      simp only [Machine.next, Machine.emit, machine, Instance.step,
        CustomEvent.handleAdPlayedForCustomEventNetwork]
      split
      · refine ⟨serves.of_event rfl (fun _ held => held), ?_⟩
        rw [shows, Delegate.calls_send]
        exact nofun
      · exact ⟨serves.of_event rfl (fun _ held => held), nofun⟩
  | callback ad callback =>
      obtain ⟨quiet, sameBottom, sameAd⟩ := @receive_keeps after.event ad callback
      refine ⟨serves.of_event sameBottom sameAd, ?_⟩
      intro shown member
      have member : shown ∈ shows (after.event.receive ad callback).2 := member
      rw [quiet] at member
      cases member
  | setDelegate delegate => exact ⟨serves.of_event rfl (fun _ held => held), nofun⟩

theorem Serves.run (serves : Serves info adUnitId bottomView after) {later : List Input}
    (refused : ∀ input ∈ later, input.accepted = false) :
    ∀ shown ∈ shows (machine.trace after later), shown = { requested info adUnitId with bottomView } := by
  induction later generalizing after with
  | nil => exact nofun
  | cons input rest ih =>
      obtain ⟨stillServes, here⟩ := serves.step (refused input List.mem_cons_self)
      have there := ih stillServes (fun other member => refused other (List.mem_cons_of_mem _ member))
      intro shown member
      rw [Machine.trace_cons, shows_append] at member
      rcases List.mem_append.mp member with first | second
      · exact here shown first
      · exact there shown second

end Later

theorem showsOwn_iff_nothingKept {info : Info} {adUnitId : String}
    (accepted : info.adunit = some adUnitId) (before : Instance) :
    ShowsOwn info adUnitId before ↔ NothingKept info before := by
  have serves := Serves.request before accepted
  constructor
  · intro own
    -- a valid ad shown at once shows which bottom view is passed on
    let reading : Reading := { now := 0, isAdValid := fun _ => true, expiredTimestamp := fun _ => 0 }
    have shown : shows (machine.trace (machine.next before (.request info)) [.present reading none]) =
        [{ requested info adUnitId with bottomView := info.bottomView.or before.event.bottomView }] := by
      have emitted : machine.emit (machine.next before (.request info)) (.present reading none) =
          ((machine.next before (.request info)).event.presentSplash reading none).2 := rfl
      rw [Machine.trace_cons, Machine.trace_nil, List.append_nil, emitted]
      rw [CustomEvent.presentSplash_of_valid none (by rw [request_event before accepted]) rfl,
        serves.bottomView]
      rfl
    have same := own [.present reading none] (by simp [Input.accepted]) _
      (shown ▸ List.mem_singleton.mpr rfl)
    have bottom : info.bottomView.or before.event.bottomView = info.bottomView :=
      congrArg Shown.bottomView same
    unfold NothingKept
    cases brought : info.bottomView with
    | none =>
        rw [brought] at bottom
        exact .inr bottom
    | some view => exact .inl rfl
  · intro nothing later refused shown member
    have bottom : info.bottomView.or before.event.bottomView = info.bottomView := by
      rcases nothing with brought | none
      · obtain ⟨view, brought⟩ := Option.isSome_iff_exists.mp brought
        rw [brought]
        rfl
      · rw [none, Option.or_none]
    rw [serves.run refused shown member, bottom]
    rfl

end Splash

/-- Any two histories of a banner and of a splash custom event, each followed by
one and the same accepted request. -/
theorem requests_independent_iff (constants : MobiBannerError)
    (bannerDelegate : Delegate Banner.Selector) (bannerLeft bannerRight : List Banner.Input)
    (splashDelegate : Delegate Splash.Selector) (splashLeft splashRight : List Splash.Input)
    (size : CGSize) (info : Info) (adUnitId : String) :
    let info : Info := { info with adunit := some adUnitId }
    let banner := (Banner.machine constants).after { event := { delegate := bannerDelegate } }
    let splash := Splash.machine.after { event := { delegate := splashDelegate } }
    (Banner.Independent constants size info adUnitId (banner bannerLeft) (banner bannerRight) ↔
      Banner.NothingKept size info adUnitId (banner bannerLeft) ∧
        Banner.NothingKept size info adUnitId (banner bannerRight)) ∧
    (Splash.Independent info adUnitId (splash splashLeft) (splash splashRight) ↔
      Splash.NothingKept info (splash splashLeft) ∧ Splash.NothingKept info (splash splashRight)) := by
  intro info banner splash
  have accepted : info.adunit = some adUnitId := rfl
  refine ⟨Banner.independent_iff_nothingKept constants size accepted _ _, ?_⟩
  rw [← Splash.showsOwn_iff_nothingKept accepted, ← Splash.showsOwn_iff_nothingKept accepted]
  constructor
  · intro independent
    exact ⟨independent.left, independent.right⟩
  · intro own
    exact ⟨own.1, own.2⟩

theorem requests_not_independent :
    let constants : MobiBannerError := { adsSDKDomain := "MobiBannerAdsSDKDomain", adErrorInvalidPosid := -1500 }
    let size : CGSize := { width := 320, height := 50 }
    let banner := (Banner.machine constants).after { event := { delegate := none } }
    let splash := Splash.machine.after { event := { delegate := none } }
    ¬ Banner.Independent constants size { adunit := some "8021" } "8021" (banner [])
        (banner [.request size { adunit := some "8020" }]) ∧
      ¬ Splash.Independent { adunit := some "8021" } "8021" (splash [])
        (splash [.request { adunit := some "8020", bottomView := some 7 }]) := by
  intro constants size banner splash
  constructor
  · intro independent
    have same : ["8021"] = ["8020"] :=
      congrArg (List.map Banner.Configuration.placementId) independent.alike
    exact absurd same (by decide)
  · intro independent
    rcases (Splash.showsOwn_iff_nothingKept rfl _).mp independent.right with brought | none
    · cases brought
    · cases none

end GDTAdapter
