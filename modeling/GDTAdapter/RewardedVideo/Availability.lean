import GDTAdapter.RewardedVideo.CustomEvent

namespace GDTAdapter.RewardedVideo

open Reactive

/-! # Availability

`hasAdAvailable`, the present path and the video-cached callback each test the
expiry of the current ad and its GDT validity with code of their own.
-/

namespace CustomEvent

def Expired (reading : Reading) (self : CustomEvent) : Prop :=
  (self.expiredTimestamp reading : ℚ) ≤ reading.now

instance (reading : Reading) (self : CustomEvent) : Decidable (self.Expired reading) :=
  inferInstanceAs (Decidable ((self.expiredTimestamp reading : ℚ) ≤ reading.now))

def HandsOver (reading : Reading) (viewController : Option UIViewController)
    (self : CustomEvent) : Prop :=
  ∃ ad, self.rewardVideoAd = some ad ∧
    calls (self.presentRewardedVideo reading viewController).2 =
      [.showAdFromRootViewController ad viewController]

/-- The three pieces of code judge the availability of the current ad alike. -/
structure JudgedAlike (reading : Reading) (event : CustomEvent) : Prop where
  present : ∀ viewController,
    event.HandsOver reading viewController ↔ event.hasAdAvailable reading = true
  refused : ∀ viewController, event.hasAdAvailable reading = false →
    calls (event.presentRewardedVideo reading viewController).2 = [] ∧
      messages (event.presentRewardedVideo reading viewController).2 =
        [.rewardedVideoDidFailToPlay noAdReady]
  cached : ∀ ad, event.rewardVideoAd = some ad → event.hasAdAvailable reading = true →
    messages (event.receive reading ad.ref .videoDidLoad).2 = [.rewardedVideoAdVideoDidLoad]
  late : ∀ ad, event.rewardVideoAd = some ad → event.hasAdAvailable reading = false →
    messages (event.receive reading ad.ref .videoDidLoad).2 = [.rewardedVideoDidExpire]

/-- The delegate is there to hear a refusal and, if there is an ad, implements
the event that the video-cached callback owes it. -/
structure Heard (reading : Reading) (event : CustomEvent) : Prop where
  set : event.delegate.isSome = true
  usable : event.isAdValid reading = true → ¬ event.Expired reading →
    event.delegate.responds .rewardedVideoAdVideoDidLoad = true
  unusable : event.rewardVideoAd.isSome = true →
    event.isAdValid reading = false ∨ event.Expired reading →
      event.delegate.responds .rewardedVideoDidExpire = true

variable {reading : Reading} {self : CustomEvent} {viewController : Option UIViewController}

theorem hasAdAvailable_iff :
    self.hasAdAvailable reading = true ↔ self.isAdValid reading = true ∧ ¬ self.Expired reading := by
  unfold hasAdAvailable Expired
  by_cases expired : (self.expiredTimestamp reading : ℚ) ≤ reading.now
  · simp [expired]
  · cases valid : self.isAdValid reading <;> simp [expired]

theorem hasAdAvailable_eq_false :
    self.hasAdAvailable reading = false ↔ self.isAdValid reading = false ∨ self.Expired reading := by
  rw [← Bool.not_eq_true, hasAdAvailable_iff]
  cases self.isAdValid reading <;> simp

theorem exists_ad_of_valid (valid : self.isAdValid reading = true) :
    ∃ ad, self.rewardVideoAd = some ad ∧ reading.isAdValid ad.ref = true := by
  unfold isAdValid at valid
  cases current : self.rewardVideoAd with
  | none => simp [current] at valid
  | some ad => exact ⟨ad, rfl, by simpa [current] using valid⟩

/-- The present path asks GDT only whether the ad is valid. -/
theorem presentRewardedVideo_of_valid (viewController : Option UIViewController)
    (valid : self.isAdValid reading = true) :
    ∃ ad, self.rewardVideoAd = some ad ∧
      (self.presentRewardedVideo reading viewController).2 =
        [.call (.showAdFromRootViewController ad viewController)] := by
  obtain ⟨ad, current, valid⟩ := exists_ad_of_valid valid
  refine ⟨ad, current, ?_⟩
  cases viewController <;> simp [presentRewardedVideo, current, valid]

theorem presentRewardedVideo_of_invalid (invalid : self.isAdValid reading = false) :
    (self.presentRewardedVideo reading viewController).2 =
      self.delegate.send (.rewardedVideoDidFailToPlay noAdReady) := by
  unfold isAdValid at invalid
  cases current : self.rewardVideoAd with
  | none => cases viewController <;> simp [presentRewardedVideo, current]
  | some ad =>
      have invalid : reading.isAdValid ad.ref = false := by simpa [current] using invalid
      cases viewController <;> simp [presentRewardedVideo, current, invalid]

theorem presentRewardedVideo_fst :
    (self.presentRewardedVideo reading viewController).1 =
      if viewController.isSome then { self with rootVC := viewController } else self := by
  cases current : self.rewardVideoAd with
  | none => cases viewController <;> simp [presentRewardedVideo, current]
  | some ad =>
      cases valid : reading.isAdValid ad.ref <;> cases viewController <;>
        simp [presentRewardedVideo, current, valid]

theorem presentRewardedVideo_delegate :
    (self.presentRewardedVideo reading viewController).1.delegate = self.delegate := by
  rw [presentRewardedVideo_fst]
  split <;> rfl

theorem handleAdPlayed_eq :
    self.handleAdPlayedForCustomEventNetwork reading =
      (self, if self.isAdValid reading then [] else self.delegate.send .rewardedVideoDidExpire) := by
  unfold handleAdPlayedForCustomEventNetwork
  cases self.isAdValid reading <;> rfl

theorem handsOver_iff : self.HandsOver reading viewController ↔ self.isAdValid reading = true := by
  cases valid : self.isAdValid reading with
  | true =>
      obtain ⟨ad, current, effects⟩ := presentRewardedVideo_of_valid viewController valid
      exact iff_of_true ⟨ad, current, by rw [effects]; rfl⟩ rfl
  | false =>
      refine iff_of_false (fun handed => ?_) Bool.false_ne_true
      obtain ⟨ad, current, handed⟩ := handed
      rw [presentRewardedVideo_of_invalid valid, Delegate.calls_send] at handed
      exact absurd handed (List.cons_ne_nil _ _).symm

theorem gdtRewardVideoAdVideoDidLoad_eq (reading : Reading) (self : CustomEvent) :
    self.gdtRewardVideoAdVideoDidLoad reading =
      if self.hasAdAvailable reading then
        (self, self.delegate.notify .rewardedVideoAdVideoDidLoad .rewardedVideoAdVideoDidLoad)
      else (self, self.delegate.notify .rewardedVideoDidExpire .rewardedVideoDidExpire) := by
  unfold gdtRewardVideoAdVideoDidLoad hasAdAvailable
  by_cases expired : (self.expiredTimestamp reading : ℚ) ≤ reading.now
  · simp [expired]
  · cases self.isAdValid reading <;> simp [expired]

private theorem guarded_singleton {responds : Bool} {message : Message} :
    (if responds then [message] else []) = [message] ↔ responds = true := by
  cases responds <;> simp

theorem JudgedAlike.not_stale (alike : self.JudgedAlike reading) :
    ¬ (self.isAdValid reading = true ∧ self.Expired reading) := by
  intro stale
  have available := (alike.present none).mp (handsOver_iff.mpr stale.1)
  exact (hasAdAvailable_iff.mp available).2 stale.2

/-- The three tests agree exactly when the current ad is not one that GDT still
calls valid past its timestamp (and the delegate hears the event that is due). -/
theorem judgedAlike_iff (reading : Reading) (self : CustomEvent) :
    self.JudgedAlike reading ↔
      self.Heard reading ∧ ¬ (self.isAdValid reading = true ∧ self.Expired reading) := by
  refine ⟨fun alike => ⟨?_, alike.not_stale⟩, fun ⟨heard, notStale⟩ => ?_⟩
  · have usable (valid : self.isAdValid reading = true) (fresh : ¬ self.Expired reading) :
        self.delegate.responds .rewardedVideoAdVideoDidLoad = true := by
      obtain ⟨ad, current, _⟩ := exists_ad_of_valid valid
      have available := hasAdAvailable_iff.mpr ⟨valid, fresh⟩
      have sent := alike.cached ad current available
      simpa [receive, gdtRewardVideoAdVideoDidLoad_eq, available, guarded_singleton] using sent
    refine ⟨?_, usable, ?_⟩
    · cases available : self.hasAdAvailable reading with
      | true =>
          obtain ⟨valid, fresh⟩ := hasAdAvailable_iff.mp available
          exact Delegate.isSome_of_responds (usable valid fresh)
      | false =>
          have handed := (alike.present none).not.mpr (by simp [available])
          rw [handsOver_iff, Bool.not_eq_true] at handed
          have sent := (alike.refused none available).2
          rw [presentRewardedVideo_of_invalid handed, Delegate.messages_send] at sent
          exact guarded_singleton.mp sent
    · intro current unusable
      obtain ⟨ad, current⟩ := Option.isSome_iff_exists.mp current
      have unavailable := hasAdAvailable_eq_false.mpr unusable
      have sent := alike.late ad current unavailable
      simpa [receive, gdtRewardVideoAdVideoDidLoad_eq, unavailable, guarded_singleton] using sent
  · have available_iff_valid : self.hasAdAvailable reading = true ↔ self.isAdValid reading = true := by
      rw [hasAdAvailable_iff]
      exact ⟨And.left, fun valid => ⟨valid, fun expired => notStale ⟨valid, expired⟩⟩⟩
    refine ⟨fun _ => handsOver_iff.trans available_iff_valid.symm, ?_, ?_, ?_⟩
    · intro viewController unavailable
      have invalid : self.isAdValid reading = false := by
        rw [← Bool.not_eq_true, ← available_iff_valid, Bool.not_eq_true, unavailable]
      rw [presentRewardedVideo_of_invalid invalid, Delegate.calls_send, Delegate.messages_send]
      exact ⟨rfl, guarded_singleton.mpr heard.set⟩
    · intro ad current available
      obtain ⟨valid, fresh⟩ := hasAdAvailable_iff.mp available
      simp [receive, gdtRewardVideoAdVideoDidLoad_eq, available, heard.usable valid fresh]
    · intro ad current unavailable
      have responds := heard.unusable (by simp [current]) (hasAdAvailable_eq_false.mp unavailable)
      simp [receive, gdtRewardVideoAdVideoDidLoad_eq, unavailable, responds]

end CustomEvent

theorem valid_past_timestamp_not_judgedAlike :
    let start : Instance := { event := { delegate := some fun _ => true } }
    let run : List Input := [.request { adunit := some "8020" }]
    let reading : Reading := { now := 5, isAdValid := fun _ => true, expiredTimestamp := fun _ => 5 }
    machine.Runs start run ∧ ¬ (machine.after start run).event.JudgedAlike reading := by
  refine ⟨by simp [Machine.Runs, machine, Instance.enabled], fun alike => ?_⟩
  exact alike.not_stale ⟨rfl, (by decide : ((5 : Int) : ℚ) ≤ 5)⟩

end GDTAdapter.RewardedVideo
