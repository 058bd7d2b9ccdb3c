import GDTAdapter.Reactive.Observer
import GDTAdapter.Splash.CustomEvent

namespace GDTAdapter.Splash

open Reactive

/-! # Callbacks inside loadAd

A request stores its ad after `loadAd` has returned.  GDT may answer inside that
call, and the host may present or request again from inside a delegate message,
so a request is split here at the call of `loadAd`.
-/

/-- An instance with the ads whose requests are inside `loadAd`, the innermost first. -/
structure Nested where
  owner : Instance
  loading : List GDTSplashAd := []

inductive Nested.Input where
  | request (info : Info)
  | loadAdReturns
  | present (reading : Reading) (window : Option UIWindow)
  | handleAdPlayed (reading : Reading)
  | callback (ad : Nat) (callback : CustomEvent.Callback)
  | setDelegate (delegate : Delegate Selector)

namespace Nested

def atOnce (before : Nested) (input : Splash.Input) : Nested × CustomEvent.Effects :=
  let (owner, effects) := before.owner.step input
  ({ before with owner }, effects)

/-- A request up to the call of `loadAd`. -/
def request (info : Info) (before : Nested) : Nested × CustomEvent.Effects :=
  match info.adunit with
  | none => before.atOnce (.request info)
  | some adUnitId =>
      let ad := CustomEvent.makeSplash before.owner.fresh adUnitId info
      let event := before.owner.event.prepare adUnitId info
      ({ owner := { before.owner with event, fresh := before.owner.fresh + 1 }
         loading := ad :: before.loading },
        [.call (.initWithPlacementId ad), .call (.loadAd ad)])

/-- `self.splash = splash`, the last statement of the innermost request. -/
def loadAdReturns (before : Nested) : Nested :=
  match before.loading with
  | [] => before
  | ad :: rest =>
      { owner := { before.owner with event := { before.owner.event with splash := some ad } }
        loading := rest }

def step (before : Nested) : Input → Nested × CustomEvent.Effects
  | .request info => before.request info
  | .loadAdReturns => (before.loadAdReturns, [])
  | .present reading window => before.atOnce (.present reading window)
  | .handleAdPlayed reading => before.atOnce (.handleAdPlayed reading)
  | .callback ad callback => before.atOnce (.callback ad callback)
  | .setDelegate delegate => before.atOnce (.setDelegate delegate)

def enabled (before : Nested) : Input → Prop
  | .loadAdReturns => before.loading ≠ []
  | .callback ad _ => ad < before.owner.fresh
  | _ => True

end Nested

def nestedMachine : Machine Nested Nested.Input (Effect Call Message) where
  enabled := Nested.enabled
  step := Nested.step

/-- With nothing in between, the two halves are the request. -/
theorem request_returned (before : Nested) (info : Info) (adUnitId : String)
    (accepted : info.adunit = some adUnitId) :
    nestedMachine.after before [.request info, .loadAdReturns] =
        { before with owner := machine.next before.owner (.request info) } ∧
      nestedMachine.trace before [.request info, .loadAdReturns] =
        machine.emit before.owner (.request info) := by
  constructor
  · simp [nestedMachine, machine, Machine.next, Nested.step, Nested.request, Nested.loadAdReturns,
      Instance.step, CustomEvent.requestSplash, accepted]
  · simp [nestedMachine, machine, Machine.next, Machine.emit, Nested.step, Nested.request,
      Instance.step, CustomEvent.requestSplash, accepted]

/-- What has become of the ad of the latest accepted request: whether its
`splashAdDidLoad` has been sent on, and whether it has failed. -/
structure Fate where
  ad : Nat
  reported : Bool := false
  failed : Bool := false

def Fate.heard (delegate : Delegate Selector) (fate : Fate) (ad : Nat) :
    CustomEvent.Callback → Fate
  | .didLoad =>
      if ad = fate.ad then { fate with reported := fate.reported || delegate.responds .splashAdDidLoad }
      else fate
  | .failToPresent _ => if ad = fate.ad then { fate with failed := true } else fate
  | _ => fate

def recordFate (before : Nested) (fate : Option Fate) : Nested.Input → Option Fate
  | .request info => if info.adunit.isSome then some { ad := before.owner.fresh } else fate
  | .callback ad callback => fate.map (·.heard before.owner.event.delegate ad callback)
  | _ => fate

def watched : Machine (Nested × Option Fate) Nested.Input (Effect Call Message) :=
  nestedMachine.observed recordFate

/-- A present call shows that very ad, and reports no failure. -/
def Shows (event : CustomEvent) (ad : Nat) : Prop :=
  ∀ reading window, reading.isAdValid ad = true → ∃ shown : GDTSplashAd, shown.ref = ad ∧
    (event.presentSplash reading window).2 = [.call (.showAdInWindow shown window event.bottomView)]

/-- An ad that has failed counts as no longer valid. -/
structure Settled (event : CustomEvent) (fate : Fate) : Prop where
  shows : fate.reported = true → fate.failed = false → Shows event fate.ad
  dropped : fate.failed = true → event.splash = none

def SettledLatest (seen : Nested × Option Fate) : Prop :=
  ∀ fate, seen.2 = some fate → Settled seen.1.owner.event fate

theorem shows_iff {event : CustomEvent} {ad : Nat} :
    Shows event ad ↔ event.splash.map (·.ref) = some ad := by
  constructor
  · intro shows
    let reading : Reading :=
      { now := 0, isAdValid := fun other => other == ad, expiredTimestamp := fun _ => 0 }
    obtain ⟨shown, same, effects⟩ := shows reading none (beq_self_eq_true ad)
    cases available : event.hasAdAvailable reading with
    | true =>
        obtain ⟨current, held, valid⟩ := CustomEvent.exists_ad_of_available available
        rw [held, Option.map_some, beq_iff_eq.mp valid]
    | false =>
        rw [CustomEvent.presentSplash_of_invalid none available] at effects
        have called := congrArg calls effects
        rw [Delegate.calls_notify] at called
        cases called
  · intro current reading window valid
    obtain ⟨shown, held, rfl⟩ := Option.map_eq_some_iff.mp current
    exact ⟨shown, rfl, CustomEvent.presentSplash_of_valid window held valid⟩

/-- The latest ad is reported only when it is in `splash`; an older ad does not
fail while the latest one is reported and has not failed; and `loadAd` does not
return once the latest ad has failed, nor, for an older ad, once the latest one is
reported. -/
def Orderly (event : CustomEvent) (loading : List GDTSplashAd) (fate : Fate) : Nested.Input → Prop
  | .loadAdReturns => ∀ ad, loading.head? = some ad →
      fate.failed = false ∧ (fate.reported = true → ad.ref = fate.ad)
  | .callback ad .didLoad => ad = fate.ad → event.delegate.responds .splashAdDidLoad = true →
      fate.failed = false → event.splash.map (·.ref) = some ad
  | .callback ad (.failToPresent _) => fate.reported = true → fate.failed = false → ad = fate.ad
  | _ => True

def OrderlyLatest (seen : Nested × Option Fate) (input : Nested.Input) : Prop :=
  ∀ fate, seen.2 = some fate → Orderly seen.1.owner.event seen.1.loading fate input

theorem settled_iff {event : CustomEvent} {fate : Fate} :
    Settled event fate ↔
      (fate.reported = true → fate.failed = false → event.splash.map (·.ref) = some fate.ad) ∧
        (fate.failed = true → event.splash = none) := by
  constructor
  · intro settled
    exact ⟨fun reported holds => shows_iff.mp (settled.shows reported holds), settled.dropped⟩
  · intro settled
    exact ⟨fun reported holds => shows_iff.mpr (settled.1 reported holds), settled.2⟩

/-- What is settled is read off `splash` alone. -/
theorem Settled.of_splash {event later : CustomEvent} {fate : Fate} (settled : Settled event fate)
    (same : later.splash = event.splash) : Settled later fate := by
  rw [settled_iff] at settled ⊢
  rw [same]
  exact settled

section Callbacks

variable {event : CustomEvent} {fate : Fate}

theorem receive_splash (ad : Nat) {callback : CustomEvent.Callback}
    (other : ∀ error, callback ≠ .failToPresent error) :
    (event.receive ad callback).1.splash = event.splash := by
  cases callback with
  | failToPresent error => exact absurd rfl (other error)
  | _ => rfl

theorem settled_didLoad_iff (settled : Settled event fate) (ad : Nat) :
    Settled (event.receive ad .didLoad).1 (fate.heard event.delegate ad .didLoad) ↔
      (ad = fate.ad → event.delegate.responds .splashAdDidLoad = true → fate.failed = false →
        event.splash.map (·.ref) = some ad) := by
  have held := settled_iff.mp settled
  have kept : (event.receive ad .didLoad).1.splash = event.splash := rfl
  rw [settled_iff, kept]
  unfold Fate.heard
  by_cases latest : ad = fate.ad
  · subst latest
    rw [if_pos rfl]
    constructor
    · intro later _ hears holds
      exact later.1 (by simp [hears]) holds
    · intro orderly
      refine ⟨?_, held.2⟩
      intro reported holds
      rcases Bool.or_eq_true _ _ ▸ reported with before | hears
      · exact held.1 before holds
      · exact orderly rfl hears holds
  · rw [if_neg latest]
    exact iff_of_true held (fun same => absurd same latest)

theorem settled_failToPresent_iff (ad : Nat) (error : NSError) :
    Settled (event.receive ad (.failToPresent error)).1
        (fate.heard event.delegate ad (.failToPresent error)) ↔
      (fate.reported = true → fate.failed = false → ad = fate.ad) := by
  have dropped : (event.receive ad (.failToPresent error)).1.splash = none := rfl
  rw [settled_iff, dropped]
  by_cases latest : ad = fate.ad
  · have failed : (fate.heard event.delegate ad (.failToPresent error)).failed = true := by
      simp [Fate.heard, latest]
    refine iff_of_true ⟨?_, fun _ => rfl⟩ (fun _ _ => latest)
    intro _ holds
    rw [failed] at holds
    cases holds
  · have heard : fate.heard event.delegate ad (.failToPresent error) = fate := if_neg latest
    rw [heard]
    simp [latest]

theorem settled_callback_iff (settled : Settled event fate) {loading : List GDTSplashAd} (ad : Nat)
    (callback : CustomEvent.Callback) :
    Settled (event.receive ad callback).1 (fate.heard event.delegate ad callback) ↔
      Orderly event loading fate (.callback ad callback) := by
  cases callback with
  | didLoad => exact settled_didLoad_iff settled ad
  | failToPresent error => exact settled_failToPresent_iff ad error
  | _ => exact iff_of_true (settled.of_splash (receive_splash ad (fun _ => nofun))) trivial

theorem settled_loadAdReturns_iff {ad : GDTSplashAd} :
    Settled { event with splash := some ad } fate ↔
      fate.failed = false ∧ (fate.reported = true → ad.ref = fate.ad) := by
  rw [settled_iff]
  cases fate.failed with
  | true => simp
  | false => simp

end Callbacks

theorem SettledLatest.of_splash {before later : Nested} {fate : Option Fate}
    (settled : SettledLatest (before, fate))
    (same : later.owner.event.splash = before.owner.event.splash) :
    SettledLatest (later, fate) :=
  fun latest current => (settled latest current).of_splash same

/-- A new request starts with nothing reported and nothing failed. -/
theorem SettledLatest.request {before : Nested} {fate : Option Fate}
    (settled : SettledLatest (before, fate)) (info : Info) :
    SettledLatest ((before.request info).1, recordFate before fate (.request info)) := by
  cases adunit : info.adunit with
  | none =>
      have refused : (before.request info).1.owner.event = before.owner.event := by
        simp only [Nested.request, adunit, Nested.atOnce, Instance.step, CustomEvent.requestSplash]
      have same : recordFate before fate (.request info) = fate := by simp [recordFate, adunit]
      rw [same]
      exact settled.of_splash (congrArg CustomEvent.splash refused)
  | some adUnitId =>
      have fresh : recordFate before fate (.request info) = some { ad := before.owner.fresh } := by
        simp [recordFate, adunit]
      rw [fresh]
      intro latest current
      cases current
      exact ⟨nofun, nofun⟩

theorem settledLatest_returns_iff {before : Nested} {fate : Option Fate}
    (settled : SettledLatest (before, fate)) :
    SettledLatest (before.loadAdReturns, fate) ↔ OrderlyLatest (before, fate) .loadAdReturns := by
  unfold Nested.loadAdReturns
  cases loading : before.loading with
  | nil => exact iff_of_true settled (fun _ _ ad first => nomatch loading ▸ first)
  | cons ad rest =>
      constructor
      · intro later latest current other first
        rw [loading] at first
        cases first
        exact settled_loadAdReturns_iff.mp (later latest current)
      · intro orderly latest current
        exact settled_loadAdReturns_iff.mpr (orderly latest current ad (by rw [loading]; rfl))

theorem settledLatest_callback_iff {before : Nested} {fate : Option Fate}
    (settled : SettledLatest (before, fate)) (ad : Nat) (callback : CustomEvent.Callback) :
    SettledLatest ((before.atOnce (.callback ad callback)).1,
        recordFate before fate (.callback ad callback)) ↔
      OrderlyLatest (before, fate) (.callback ad callback) := by
  cases fate with
  | none => exact iff_of_true nofun nofun
  | some latest =>
      have step := @settled_callback_iff _ _ (settled latest rfl) before.loading ad callback
      constructor
      · intro later other current
        cases current
        exact step.mp (later _ rfl)
      · intro orderly other current
        cases current
        exact step.mpr (orderly latest rfl)

theorem settledLatest_next_iff (seen : Nested × Option Fate) (input : Nested.Input)
    (settled : SettledLatest seen) :
    SettledLatest (watched.next seen input) ↔ OrderlyLatest seen input := by
  obtain ⟨before, fate⟩ := seen
  cases input with
  | request info => exact iff_of_true (settled.request info) (fun _ _ => trivial)
  | loadAdReturns => exact settledLatest_returns_iff settled
  | present reading window =>
      refine iff_of_true (settled.of_splash ?_) (fun _ _ => trivial)
      exact congrArg CustomEvent.splash (CustomEvent.presentSplash_fst reading window _)
  | handleAdPlayed reading =>
      refine iff_of_true (settled.of_splash ?_) (fun _ _ => trivial)
      simp only [Nested.atOnce, Machine.next, nestedMachine, Nested.step, Instance.step,
        CustomEvent.handleAdPlayedForCustomEventNetwork]
      split <;> rfl
  | callback ad callback => exact settledLatest_callback_iff settled ad callback
  | setDelegate delegate => exact iff_of_true (settled.of_splash rfl) (fun _ _ => trivial)

/-- `start` is an instance in any state, with no request under way. -/
theorem settledLatest_iff_orderly (start : Instance) (inputs : List Nested.Input) :
    watched.Always SettledLatest ({ owner := start }, none) inputs ↔
      watched.Along OrderlyLatest ({ owner := start }, none) inputs := by
  have initially : SettledLatest ({ owner := start }, none) := by
    intro fate current
    cases current
  exact Machine.always_iff_along_of_exact settledLatest_next_iff initially inputs

def loadedInside : List Nested.Input :=
  [.request { adunit := some "8020" }, .callback 0 .didLoad, .loadAdReturns]

def failedInside : List Nested.Input :=
  [.request { adunit := some "8020" },
    .callback 0 (.failToPresent { domain := "GDT", code := 5004, localizedDescription := none }),
    .loadAdReturns]

theorem answers_inside_loadAd_not_settled :
    let start : Instance := { event := { delegate := some fun _ => true } }
    (nestedMachine.Runs { owner := start } loadedInside ∧
      ¬ watched.Always SettledLatest ({ owner := start }, none) loadedInside) ∧
    nestedMachine.Runs { owner := start } failedInside ∧
      ¬ watched.Always SettledLatest ({ owner := start }, none) failedInside := by
  intro start
  refine ⟨⟨⟨trivial, Nat.one_pos, nofun, trivial⟩, ?_⟩, ⟨trivial, Nat.one_pos, nofun, trivial⟩, ?_⟩
  · intro settled
    have inside := settled (loadedInside.take 2) [.loadAdReturns] rfl _ rfl
    cases shows_iff.mp (inside.shows rfl rfl)
  · intro settled
    have returned := settled failedInside [] rfl _ rfl
    cases returned.dropped rfl

end GDTAdapter.Splash
