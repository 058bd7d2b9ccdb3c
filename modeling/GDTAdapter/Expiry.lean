import GDTAdapter.Feed.Relay
import GDTAdapter.Reactive.Expiry
import GDTAdapter.RewardedVideo.Sessions
import GDTAdapter.Splash.CustomEvent

namespace GDTAdapter

open Reactive

/-! # Expiry notices of the custom events

When another unit of the network has played, `handleAdPlayedForCustomEventNetwork`
makes a custom event look at its ad again.  The rewarded video looks at the GDT
validity alone, the splash at what `hasAdAvailable` looks at, and the feed at
nothing.
-/

/-- An ad has loaded once GDT has said so or calls it valid. -/
def loadsOf (moment : Reading) (held reported : Option Nat) : List Nat :=
  reported.toList ++ held.toList.filter moment.isAdValid

theorem mem_loadsOf_of_valid {moment : Reading} {reported : Option Nat} {ad : Nat}
    (valid : moment.isAdValid ad = true) : ad ∈ loadsOf moment (some ad) reported :=
  List.mem_append_right _ (List.mem_filter.mpr ⟨List.mem_singleton_self ad, valid⟩)

theorem of_mem_loadsOf {moment : Reading} {held reported : Option Nat} {ad : Nat}
    (member : ad ∈ loadsOf moment held reported) : reported = some ad ∨ held = some ad := by
  rcases List.mem_append.mp member with member | member
  · exact .inl (Option.mem_toList.mp member)
  · exact .inr (Option.mem_toList.mp (List.mem_filter.mp member).1)

section Numbered

variable {State Input Output : Type} {keeper : Keeper State Input Output Reading Nat}
variable {usable : Reading → Nat → Bool} {reported : Input → Option Nat} {fresh : State → Nat}

/-- Ads are numbered as they are made, and a custom event holds the ad it made
last or none. -/
theorem lawful_of_numbered
    (loads : ∀ moment state input,
      keeper.loads moment state input = loadsOf moment (keeper.held state) (reported input))
    (perishes : ∀ watch moment, keeper.promise watch moment → watch.Perishes usable moment)
    (available : ∀ moment state,
      keeper.available moment state = (keeper.held state).elim false (usable moment))
    (valid : ∀ moment ad, usable moment ad = true → moment.isAdValid ad = true)
    (announced : ∀ moment state input, keeper.reads moment input →
      keeper.notice ∈ keeper.machine.emit state input → keeper.available moment state = false)
    (reported_lt : ∀ state input ad, keeper.machine.enabled state input →
      reported input = some ad → ad < fresh state)
    (fresh_le : ∀ state input, fresh state ≤ fresh (keeper.machine.next state input))
    (held_next : ∀ state input,
      keeper.held (keeper.machine.next state input) = keeper.held state ∨
        ∀ ad, keeper.held (keeper.machine.next state input) = some ad →
          ad = fresh state ∧ fresh (keeper.machine.next state input) = fresh state + 1) :
    keeper.Lawful usable fun state ad => ad < fresh state where
  perishes := perishes
  available moment state input offered := by
    rw [available] at offered
    rw [loads]
    cases current : keeper.held state with
    | none =>
        rw [current] at offered
        cases offered
    | some ad =>
        rw [current] at offered
        exact ⟨ad, rfl, offered, mem_loadsOf_of_valid (valid moment ad offered)⟩
  announced moment state input reads sent ad holds := by
    have unavailable := announced moment state input reads sent
    rw [available, holds] at unavailable
    exact unavailable
  loads moment state input enabled known ad member := by
    rw [loads] at member
    rcases of_mem_loadsOf member with answers | holds
    · exact reported_lt state input ad enabled answers
    · exact known ad holds
  known_next state input ad known := Nat.lt_of_lt_of_le known (fresh_le state input)
  turnover state input := by
    apply (held_next state input).imp_right
    intro renewed ad holds
    obtain ⟨rfl, counted⟩ := renewed ad holds
    exact ⟨Nat.lt_irrefl _, by omega⟩

end Numbered

namespace RewardedVideo

def Input.ReadsAt (moment : Reading) : Input → Prop
  | .present reading _ => reading = moment
  | .handleAdPlayed reading => reading = moment
  | .callback reading _ _ => reading = moment
  | _ => True

def Input.loadReport : Input → Option Nat
  | .callback _ ad .didLoad => some ad
  | _ => none

def Input.isAdPlayed : Input → Bool
  | .handleAdPlayed _ => true
  | _ => false

def Instance.held (self : Instance) : Option Nat :=
  self.event.rewardVideoAd.map GDTRewardVideoAd.ref

/-- The clock does not go back; of a loaded ad, a lost validity does not return and
the timestamp is not put off. -/
structure KeepsTime (watch : Watch Reading Nat) (moment : Reading) : Prop where
  clock : ∀ last, watch.last = some last → last.now ≤ moment.now
  lost : watch.Perishes Reading.isAdValid moment
  timestamp : ∀ last, watch.last = some last →
    ∀ ad ∈ watch.loaded, moment.expiredTimestamp ad ≤ last.expiredTimestamp ad

instance (watch : Watch Reading Nat) (moment : Reading) : Decidable (KeepsTime watch moment) :=
  decidable_of_iff
    ((∀ last ∈ watch.last, last.now ≤ moment.now) ∧ watch.Perishes Reading.isAdValid moment ∧
      ∀ last ∈ watch.last, ∀ ad ∈ watch.loaded,
        moment.expiredTimestamp ad ≤ last.expiredTimestamp ad)
    ⟨fun ⟨clock, lost, timestamp⟩ => ⟨clock, lost, timestamp⟩,
      fun ⟨clock, lost, timestamp⟩ => ⟨clock, lost, timestamp⟩⟩

def keeper : Keeper Instance Input (Effect Call Message) Reading Nat where
  machine := machine
  reads := Input.ReadsAt
  promise := KeepsTime
  held := Instance.held
  loads moment self input := loadsOf moment self.held input.loadReport
  available moment self := self.event.hasAdAvailable moment
  played := Input.isAdPlayed
  notice := .message .rewardedVideoDidExpire

instance (watch : Watch Reading Nat) (moment : Reading) : Decidable (keeper.promise watch moment) :=
  inferInstanceAs (Decidable (KeepsTime watch moment))

def usable (moment : Reading) (ad : Nat) : Bool :=
  !decide ((moment.expiredTimestamp ad : ℚ) ≤ moment.now) && moment.isAdValid ad

/-- The ad is not one that GDT calls valid past its timestamp, and if it is not
valid there is a delegate to hear so. -/
def Instance.Announces (self : Instance) : Input → Prop
  | .handleAdPlayed reading =>
      ¬ (self.event.isAdValid reading = true ∧ self.event.Expired reading) ∧
        (self.event.isAdValid reading = false → self.event.delegate.isSome = true)
  | _ => True

theorem hasAdAvailable_eq_usable (moment : Reading) (self : Instance) :
    self.event.hasAdAvailable moment = self.held.elim false (usable moment) := by
  cases current : self.event.rewardVideoAd with
  | none =>
      have invalid : self.event.isAdValid moment = false := by simp [CustomEvent.isAdValid, current]
      simp [CustomEvent.hasAdAvailable_eq_false.mpr (.inl invalid), Instance.held, current]
  | some ad =>
      simp only [CustomEvent.hasAdAvailable, CustomEvent.expiredTimestamp, CustomEvent.isAdValid,
        Instance.held, usable, current, Option.elim_some, Option.map_some]
      by_cases expired : (moment.expiredTimestamp ad.ref : ℚ) ≤ moment.now
      · simp [expired]
      · cases moment.isAdValid ad.ref <;> simp [expired]

theorem unavailable_of_expiry {moment : Reading} {self : Instance} {input : Input}
    (reads : input.ReadsAt moment)
    (sent : .message .rewardedVideoDidExpire ∈ machine.emit self input) :
    self.event.hasAdAvailable moment = false := by
  cases input with
  | request info =>
      simp only [Machine.emit, machine, Instance.step, CustomEvent.requestRewardedVideo] at sent
      split at sent
      · cases Delegate.mem_send sent
      · simp at sent
  | present reading viewController =>
      simp only [Machine.emit, machine, Instance.step] at sent
      cases valid : self.event.isAdValid reading with
      | true =>
          obtain ⟨ad, -, effects⟩ := CustomEvent.presentRewardedVideo_of_valid viewController valid
          simp [effects] at sent
      | false =>
          rw [CustomEvent.presentRewardedVideo_of_invalid valid] at sent
          cases Delegate.mem_send sent
  | handleAdPlayed reading =>
      cases reads
      simp only [Machine.emit, machine, Instance.step, CustomEvent.handleAdPlayed_eq] at sent
      split at sent
      · cases sent
      · rename_i invalid
        exact CustomEvent.hasAdAvailable_eq_false.mpr (.inl (Bool.eq_false_of_not_eq_true invalid))
  | callback reading ad callback =>
      cases reads
      simp only [Machine.emit, machine, Instance.step, CustomEvent.receive_eq_script,
        CustomEvent.relay] at sent
      obtain ⟨entry, member, sent⟩ := List.mem_flatMap.mp sent
      have message := Delegate.mem_notify sent
      cases callback with
      | videoDidLoad =>
          simp only [CustomEvent.script] at member
          split at member
          · cases List.mem_singleton.mp member
            cases message
          · rename_i unavailable
            exact Bool.eq_false_of_not_eq_true unavailable
      | didRewardEffective => cases member
      | didClose =>
          rcases List.mem_pair.mp member with rfl | rfl <;> cases message
      | _ =>
          cases List.mem_singleton.mp member
          cases message
  | setDelegate delegate => cases sent

theorem KeepsTime.perishes {watch : Watch Reading Nat} {moment : Reading}
    (keeps : KeepsTime watch moment) : watch.Perishes usable moment := by
  intro last latest ad loaded unusable
  have clock := keeps.clock last latest
  have timestamp : (moment.expiredTimestamp ad : ℚ) ≤ last.expiredTimestamp ad :=
    Rat.intCast_le_intCast.mpr (keeps.timestamp last latest ad loaded)
  simp only [usable, Bool.and_eq_false_iff, Bool.not_eq_false', decide_eq_true_eq] at unusable ⊢
  rcases unusable with expired | invalid
  · exact .inl (Rat.le_trans timestamp (Rat.le_trans expired clock))
  · exact .inr (keeps.lost last latest ad loaded invalid)

theorem fresh_le_next (self : Instance) (input : Input) :
    self.fresh ≤ (machine.next self input).fresh := by
  cases input with
  | request info =>
      simp only [Machine.next, machine, Instance.step]
      split
      · exact Nat.le_succ _
      · exact Nat.le_refl _
  | _ => exact Nat.le_refl _

theorem held_next (self : Instance) (input : Input) :
    (machine.next self input).held = self.held ∨
      ∀ ad, (machine.next self input).held = some ad →
        ad = self.fresh ∧ (machine.next self input).fresh = self.fresh + 1 := by
  cases input with
  | request info =>
      simp only [Machine.next, machine, Instance.step, CustomEvent.requestRewardedVideo]
      cases info.adunit with
      | none => exact .inl rfl
      | some adUnitId =>
          right
          intro ad holds
          cases holds
          exact ⟨rfl, rfl⟩
  | present reading viewController =>
      refine .inl (congrArg (Option.map GDTRewardVideoAd.ref) ?_)
      simp only [Machine.next, machine, Instance.step, CustomEvent.presentRewardedVideo_fst]
      split <;> rfl
  | handleAdPlayed reading =>
      left
      simp only [Machine.next, machine, Instance.step, CustomEvent.handleAdPlayed_eq, Instance.held]
  | callback reading ad callback =>
      left
      simp only [Machine.next, machine, Instance.step, CustomEvent.receive_eq_script, Instance.held]
      cases callback <;> rfl
  | setDelegate delegate => exact .inl rfl

theorem loadReport_lt {self : Instance} {input : Input} {ad : Nat} (enabled : self.enabled input)
    (reported : input.loadReport = some ad) : ad < self.fresh := by
  cases input with
  | callback reading about callback =>
      cases callback with
      | didLoad =>
          cases reported
          exact enabled
      | _ => cases reported
  | _ => cases reported

theorem keeper_lawful : keeper.Lawful usable fun self ad => ad < self.fresh := by
  apply lawful_of_numbered
  · exact fun moment self input => rfl
  · exact fun watch moment => KeepsTime.perishes
  · exact hasAdAvailable_eq_usable
  · exact fun moment ad isUsable => (Bool.and_eq_true_iff.mp isUsable).2
  · exact fun moment self input => unavailable_of_expiry
  · exact fun self input ad => loadReport_lt
  · exact fresh_le_next
  · exact held_next

theorem check_exact (moment : Reading) (self : Instance) (input : Input)
    (reads : input.ReadsAt moment) :
    (input.isAdPlayed = true → machine.emit self input =
      if self.event.hasAdAvailable moment then [] else [.message .rewardedVideoDidExpire]) ↔
    self.Announces input := by
  cases input with
  | handleAdPlayed reading =>
      cases reads
      have emitted : machine.emit self (.handleAdPlayed moment) =
          if self.event.isAdValid moment then []
          else self.event.delegate.send .rewardedVideoDidExpire := by
        simp only [Machine.emit, machine, Instance.step, CustomEvent.handleAdPlayed_eq]
      rw [emitted]
      cases valid : self.event.isAdValid moment with
      | false =>
          have unavailable := CustomEvent.hasAdAvailable_eq_false.mpr (.inl valid)
          simp [Input.isAdPlayed, Instance.Announces, valid, unavailable,
            Delegate.send_eq_singleton_iff]
      | true =>
          by_cases expired : self.event.Expired moment
          · have unavailable := CustomEvent.hasAdAvailable_eq_false.mpr (.inr expired)
            simp [Input.isAdPlayed, Instance.Announces, valid, unavailable, expired]
          · have available := CustomEvent.hasAdAvailable_iff.mpr ⟨valid, expired⟩
            simp [Input.isAdPlayed, Instance.Announces, valid, available, expired]
  | _ =>
      refine iff_of_true ?_ trivial
      intro played
      cases played

end RewardedVideo

namespace Splash

def Input.ReadsAt (moment : Reading) : Input → Prop
  | .present reading _ => reading = moment
  | .handleAdPlayed reading => reading = moment
  | _ => True

def Input.loadReport : Input → Option Nat
  | .callback ad .didLoad => some ad
  | _ => none

def Input.isAdPlayed : Input → Bool
  | .handleAdPlayed _ => true
  | _ => false

def Instance.held (self : Instance) : Option Nat :=
  self.event.splash.map GDTSplashAd.ref

/-- The splash reads no clock: of a loaded ad, a lost validity does not return. -/
def keeper : Keeper Instance Input (Effect Call Message) Reading Nat where
  machine := machine
  reads := Input.ReadsAt
  promise watch moment := watch.Perishes Reading.isAdValid moment
  held := Instance.held
  loads moment self input := loadsOf moment self.held input.loadReport
  available moment self := self.event.hasAdAvailable moment
  played := Input.isAdPlayed
  notice := .message .splashAdDidExpire

instance (watch : Watch Reading Nat) (moment : Reading) : Decidable (keeper.promise watch moment) :=
  inferInstanceAs (Decidable (watch.Perishes Reading.isAdValid moment))

def Instance.Announces (self : Instance) : Input → Prop
  | .handleAdPlayed reading =>
      self.event.hasAdAvailable reading = false → self.event.delegate.isSome = true
  | _ => True

theorem hasAdAvailable_eq_valid (moment : Reading) (self : Instance) :
    self.event.hasAdAvailable moment = self.held.elim false moment.isAdValid := by
  cases current : self.event.splash <;> simp [CustomEvent.hasAdAvailable, Instance.held, current]

theorem not_mem_receive (ad : Nat) (event : CustomEvent) (callback : CustomEvent.Callback) :
    .message .splashAdDidExpire ∉ (event.receive ad callback).2 := by
  intro sent
  cases callback with
  | successPresentScreen =>
      rcases List.mem_append.mp sent with sent | sent
      · cases Delegate.mem_notify sent
      · cases List.mem_singleton.mp sent
  | _ => cases Delegate.mem_notify sent

theorem unavailable_of_expiry {moment : Reading} {self : Instance} {input : Input}
    (reads : input.ReadsAt moment) (sent : .message .splashAdDidExpire ∈ machine.emit self input) :
    self.event.hasAdAvailable moment = false := by
  cases input with
  | request info =>
      simp only [Machine.emit, machine, Instance.step, CustomEvent.requestSplash] at sent
      split at sent
      · cases Delegate.mem_notify sent
      · simp at sent
  | present reading window =>
      cases reads
      simp only [Machine.emit, machine, Instance.step] at sent
      cases available : self.event.hasAdAvailable moment with
      | true =>
          obtain ⟨ad, current, valid⟩ := CustomEvent.exists_ad_of_available available
          simp [CustomEvent.presentSplash_of_valid window current valid] at sent
      | false => rfl
  | handleAdPlayed reading =>
      cases reads
      simp only [Machine.emit, machine, Instance.step,
        CustomEvent.handleAdPlayedForCustomEventNetwork] at sent
      cases available : self.event.hasAdAvailable moment with
      | true => simp [available] at sent
      | false => rfl
  | callback ad callback => exact absurd sent (not_mem_receive ad self.event callback)
  | setDelegate delegate => cases sent

theorem fresh_le_next (self : Instance) (input : Input) :
    self.fresh ≤ (machine.next self input).fresh := by
  cases input with
  | request info =>
      simp only [Machine.next, machine, Instance.step]
      split
      · exact Nat.le_succ _
      · exact Nat.le_refl _
  | _ => exact Nat.le_refl _

theorem held_next (self : Instance) (input : Input) :
    (machine.next self input).held = self.held ∨
      ∀ ad, (machine.next self input).held = some ad →
        ad = self.fresh ∧ (machine.next self input).fresh = self.fresh + 1 := by
  cases input with
  | request info =>
      simp only [Machine.next, machine, Instance.step, CustomEvent.requestSplash]
      cases info.adunit with
      | none => exact .inl rfl
      | some adUnitId =>
          right
          intro ad holds
          cases holds
          exact ⟨rfl, rfl⟩
  | present reading window =>
      left
      simp only [Machine.next, machine, Instance.step, CustomEvent.presentSplash_fst, Instance.held]
  | handleAdPlayed reading =>
      left
      simp only [Machine.next, machine, Instance.step,
        CustomEvent.handleAdPlayedForCustomEventNetwork, Instance.held]
      split <;> rfl
  | callback ad callback =>
      cases callback with
      | failToPresent error =>
          right
          intro ad holds
          cases holds
      | _ => exact .inl rfl
  | setDelegate delegate => exact .inl rfl

theorem loadReport_lt {self : Instance} {input : Input} {ad : Nat} (enabled : self.enabled input)
    (reported : input.loadReport = some ad) : ad < self.fresh := by
  cases input with
  | callback about callback =>
      cases callback with
      | didLoad =>
          cases reported
          exact enabled
      | _ => cases reported
  | _ => cases reported

theorem keeper_lawful : keeper.Lawful Reading.isAdValid fun self ad => ad < self.fresh := by
  apply lawful_of_numbered
  · exact fun moment self input => rfl
  · exact fun watch moment perishes => perishes
  · exact hasAdAvailable_eq_valid
  · exact fun moment ad valid => valid
  · exact fun moment self input => unavailable_of_expiry
  · exact fun self input ad => loadReport_lt
  · exact fresh_le_next
  · exact held_next

theorem check_exact (moment : Reading) (self : Instance) (input : Input)
    (reads : input.ReadsAt moment) :
    (input.isAdPlayed = true → machine.emit self input =
      if self.event.hasAdAvailable moment then [] else [.message .splashAdDidExpire]) ↔
    self.Announces input := by
  cases input with
  | handleAdPlayed reading =>
      cases reads
      simp only [Machine.emit, machine, Instance.step,
        CustomEvent.handleAdPlayedForCustomEventNetwork, Instance.Announces, Input.isAdPlayed]
      cases self.event.hasAdAvailable moment with
      | true => simp
      | false => simp [Delegate.send_eq_singleton_iff]
  | _ =>
      refine iff_of_true ?_ trivial
      intro played
      cases played

end Splash

namespace Feed

def Input.loadReport : Input → List Nat
  | .callback _ (.successToLoad ad _) => [ad]
  | _ => []

def Input.isAdPlayed : Input → Bool
  | .handleAdPlayed => true
  | _ => false

/-- Nothing the feed does depends on the moment, so nothing is promised about it. -/
def keeper : Keeper Instance Input (Effect Call Message) Reading Nat where
  machine := machine
  reads _ _ := True
  promise _ _ := True
  held self := self.event.nativeExpressAd.map GDTNativeExpressAd.ref
  loads _ _ input := input.loadReport
  available _ _ := CustomEvent.hasAdAvailable
  played := Input.isAdPlayed
  notice := .message .nativeExpressAdDidExpire

/-- The feed is not asked to look at its ad while anybody listens. -/
def Instance.Unasked (self : Instance) : Input → Prop
  | .handleAdPlayed => self.event.delegate.isSome = false
  | _ => True

theorem not_mem_receive (application : UIApplication) (event : CustomEvent)
    (callback : CustomEvent.Callback) :
    .message .nativeExpressAdDidExpire ∉ (event.receive application callback).2 := by
  intro sent
  unfold CustomEvent.receive at sent
  split at sent
  · cases callback with
    | successToLoad ad views =>
        have listed := mem_messages.mpr sent
        simp only [CustomEvent.invoke, CustomEvent.nativeExpressAdSuccessToLoad, messages_append,
          CustomEvent.messages_render, List.nil_append] at listed
        cases Delegate.mem_messages_notify listed
    | didPresentVideoVC view => cases sent
    | _ => cases Delegate.mem_notify sent
  · cases sent

theorem not_mem_emit_of_unasked {self : Instance} {input : Input} (unasked : self.Unasked input) :
    .message .nativeExpressAdDidExpire ∉ machine.emit self input := by
  intro sent
  cases input with
  | request info =>
      simp only [Machine.emit, machine, Instance.step, CustomEvent.requestFeed] at sent
      split at sent
      · cases Delegate.mem_send sent
      · simp at sent
  | handleAdPlayed =>
      have silent : machine.emit self .handleAdPlayed = [] := Delegate.send_eq_nil_iff.mpr unasked
      rw [silent] at sent
      cases sent
  | callback application callback => exact not_mem_receive application self.event callback sent
  | setDelegate delegate => cases sent

theorem unasked_of_matches {seen : Instance × Watch Reading Nat} {input : Reading × Input}
    (matched : keeper.Matches seen input) : seen.1.Unasked input.2 := by
  obtain ⟨moment, input⟩ := input
  cases input with
  | handleAdPlayed => exact Delegate.send_eq_nil_iff.mp (matched.checked rfl)
  | _ => trivial

theorem matches_iff {seen : Instance × Watch Reading Nat} {input : Reading × Input}
    (unnoticed : seen.2.spent = none) :
    (keeper.watched.next seen input).2.spent = none ∧ keeper.Matches seen input ↔
      seen.1.Unasked input.2 := by
  constructor
  · intro holds
    exact unasked_of_matches holds.2
  · intro unasked
    have silent := not_mem_emit_of_unasked unasked
    refine ⟨?_, ?_, ?_⟩
    · have unsent : decide (keeper.notice ∈ keeper.machine.emit seen.1 input.2) = false :=
        decide_eq_false silent
      simp only [Machine.next, Keeper.watched, Watch.record, unsent, Bool.false_eq_true, if_false,
        unnoticed]
    · intro played
      obtain ⟨moment, input⟩ := input
      cases input with
      | handleAdPlayed => exact Delegate.send_eq_nil_iff.mpr unasked
      | _ => cases played
    · intro _ spent noticed
      rw [Watch.arrive, unnoticed] at noticed
      cases noticed

theorem runs_match_iff (delegate : Delegate Selector) (inputs : List (Reading × Input)) :
    keeper.watched.Along keeper.Matches ({ event := { delegate } }, {}) inputs ↔
      keeper.watched.Along (fun seen input => seen.1.Unasked input.2)
        ({ event := { delegate } }, {}) inputs := by
  have rule := @Machine.always_and_along_iff _ _ _ keeper.watched (fun _ => True)
    (fun seen => seen.2.spent = none) (fun _ _ => True) keeper.Matches
    (fun seen input => seen.1.Unasked input.2) (fun _ _ _ _ => trivial)
    (fun _ _ _ unnoticed _ => matches_iff unnoticed)
    ({ event := { delegate } }, {}) trivial rfl inputs (Machine.along_true _ _)
  constructor
  · intro matched
    exact matched.mono fun _ _ => unasked_of_matches
  · intro unasked
    exact (rule.mpr unasked).2

end Feed

/-- In every run, the notices match the availability just if the checks come at
moments that the test of the custom event judges as `hasAdAvailable` does. -/
theorem expiry_matches_iff (videoDelegate : Delegate RewardedVideo.Selector)
    (videoInputs : List (Reading × RewardedVideo.Input)) (splashDelegate : Delegate Splash.Selector)
    (splashInputs : List (Reading × Splash.Input)) (feedDelegate : Delegate Feed.Selector)
    (feedInputs : List (Reading × Feed.Input))
    (videoRuns : RewardedVideo.keeper.watched.Runs
      ({ event := { delegate := videoDelegate } }, {}) videoInputs)
    (splashRuns : Splash.keeper.watched.Runs
      ({ event := { delegate := splashDelegate } }, {}) splashInputs) :
    (RewardedVideo.keeper.watched.Along RewardedVideo.keeper.Matches
        ({ event := { delegate := videoDelegate } }, {}) videoInputs ↔
      RewardedVideo.keeper.watched.Along (fun seen input => seen.1.Announces input.2)
        ({ event := { delegate := videoDelegate } }, {}) videoInputs) ∧
    (Splash.keeper.watched.Along Splash.keeper.Matches
        ({ event := { delegate := splashDelegate } }, {}) splashInputs ↔
      Splash.keeper.watched.Along (fun seen input => seen.1.Announces input.2)
        ({ event := { delegate := splashDelegate } }, {}) splashInputs) ∧
    (Feed.keeper.watched.Along Feed.keeper.Matches
        ({ event := { delegate := feedDelegate } }, {}) feedInputs ↔
      Feed.keeper.watched.Along (fun seen input => seen.1.Unasked input.2)
        ({ event := { delegate := feedDelegate } }, {}) feedInputs) := by
  refine ⟨?_, ?_, Feed.runs_match_iff feedDelegate feedInputs⟩
  · exact RewardedVideo.keeper_lawful.matches_iff RewardedVideo.check_exact rfl videoRuns
  · exact Splash.keeper_lawful.matches_iff Splash.check_exact rfl splashRuns

def readingAt (now : ℚ) (valid : List Nat) : Reading where
  now
  isAdValid ad := decide (ad ∈ valid)
  expiredTimestamp _ := 100

/-- Ad 0 is lost and announced as expired; ad 1 loads and is still there when the
next unit has played. -/
def reloadAfterExpiry : List (Reading × RewardedVideo.Input) :=
  [(readingAt 0 [], .request { adunit := some "8020" }),
    (readingAt 1 [0], .callback (readingAt 1 [0]) 0 .didLoad),
    (readingAt 2 [], .handleAdPlayed (readingAt 2 [])),
    (readingAt 3 [], .request { adunit := some "8020" }),
    (readingAt 4 [1], .callback (readingAt 4 [1]) 1 .didLoad),
    (readingAt 5 [1], .handleAdPlayed (readingAt 5 [1]))]

def splashLost : List (Reading × Splash.Input) :=
  [(readingAt 0 [], .request { adunit := some "8020" }),
    (readingAt 1 [0], .callback 0 .didLoad),
    (readingAt 2 [], .handleAdPlayed (readingAt 2 []))]

def feedUnheard : List (Reading × Feed.Input) :=
  [(readingAt 0 [], .request { adunit := some "8020" }),
    (readingAt 1 [], .setDelegate none),
    (readingAt 2 [], .handleAdPlayed)]

theorem reloadAfterExpiry_matches :
    RewardedVideo.keeper.watched.Along RewardedVideo.keeper.Matches
      ({ event := { delegate := some fun _ => true } }, {}) reloadAfterExpiry ∧
    Splash.keeper.watched.Along Splash.keeper.Matches
      ({ event := { delegate := some fun _ => true } }, {}) splashLost ∧
    Feed.keeper.watched.Along Feed.keeper.Matches
      ({ event := { delegate := some fun _ => true } }, {}) feedUnheard := by
  have videoRuns : RewardedVideo.keeper.watched.Runs
      ({ event := { delegate := some fun _ => true } }, {}) reloadAfterExpiry := by
    refine ⟨⟨trivial, trivial, ?_⟩, ⟨Nat.one_pos, rfl, ?_⟩, ⟨trivial, rfl, ?_⟩, ⟨trivial, trivial, ?_⟩,
      ⟨Nat.one_lt_two, rfl, ?_⟩, ⟨trivial, rfl, ?_⟩, trivial⟩ <;> decide
  have splashRuns : Splash.keeper.watched.Runs
      ({ event := { delegate := some fun _ => true } }, {}) splashLost := by
    refine ⟨⟨trivial, trivial, ?_⟩, ⟨Nat.one_pos, trivial, ?_⟩, ⟨trivial, rfl, ?_⟩, trivial⟩ <;> decide
  obtain ⟨video, splash, feed⟩ := expiry_matches_iff (some fun _ => true) reloadAfterExpiry
    (some fun _ => true) splashLost (some fun _ => true) feedUnheard videoRuns splashRuns
  refine ⟨video.mpr ?_, splash.mpr ?_, feed.mpr ?_⟩
  · refine ⟨trivial, trivial, ⟨?_, ?_⟩, trivial, trivial, ⟨?_, ?_⟩, trivial⟩ <;> decide
  · exact ⟨trivial, trivial, fun _ => rfl, trivial⟩
  · exact ⟨trivial, trivial, rfl, trivial⟩

/-- The ad is asked about at the second its timestamp names, and is valid still. -/
def validPastTimestamp : List (Reading × RewardedVideo.Input) :=
  [(readingAt 0 [], .request { adunit := some "8020" }),
    (readingAt 1 [0], .callback (readingAt 1 [0]) 0 .didLoad),
    (readingAt 100 [0], .handleAdPlayed (readingAt 100 [0]))]

theorem expiry_does_not_match :
    (RewardedVideo.keeper.watched.Runs ({ event := { delegate := some fun _ => true } }, {})
        validPastTimestamp ∧
      ¬ RewardedVideo.keeper.watched.Along RewardedVideo.keeper.Matches
        ({ event := { delegate := some fun _ => true } }, {}) validPastTimestamp) ∧
    ¬ Feed.keeper.watched.Along Feed.keeper.Matches
      ({ event := { delegate := some fun _ => true } }, {}) [(readingAt 0 [], .handleAdPlayed)] := by
  refine ⟨⟨?_, ?_⟩, ?_⟩
  · refine ⟨⟨trivial, trivial, ?_⟩, ⟨Nat.one_pos, rfl, ?_⟩, ⟨trivial, rfl, ?_⟩, trivial⟩ <;> decide
  · intro matched
    have owed := matched.2.2.1.checked rfl
    revert owed
    decide
  · intro matched
    cases matched.1.checked rfl

end GDTAdapter
