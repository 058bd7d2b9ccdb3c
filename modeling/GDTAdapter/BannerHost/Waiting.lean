import GDTAdapter.BannerHost.Slots

namespace GDTAdapter.BannerHost

open Reactive Timers

/-! # What waits behind the banner on screen

While the user is in a modal of the ad on screen, the view of the next one waits.
If meanwhile another configuration is tried, the adapter of that view is given up,
but the view is kept: it will be put on screen together with an adapter that has
not loaded it.
-/

namespace AdManager

instance (networks : Networks) (self : AdManager) (input : ℚ × Input) :
    Decidable (Patient networks self input) :=
  decidable_of_iff (self.requestingAdapterAdContentView.isSome = true →
      (self.attempts networks input.2).all (fun configuration => configuration.adUnitWarmingUp) = true)
    (by simp only [Patient, Option.all_eq_true])

section Steps

variable {self : AdManager} {networks : Networks} {now : ℚ}

/-- Another adapter is behind, which has not loaded, or none. -/
structure Strands (before after : AdManager) : Prop where
  onscreen : after.onscreenAdapter = before.onscreenAdapter
  ready : after.requestingAdapterAdContentView = before.requestingAdapterAdContentView
  unloaded : ∀ back, after.requestingAdapter = some back → back.adView = none

theorem Strands.of_view {after : AdManager}
    (emptied : self.requestingAdapter = none) (sameView : after.view = self.view) :
    Strands self after := by
  refine ⟨congrArg DoubleBuffer.front sameView, congrArg DoubleBuffer.ready sameView, ?_⟩
  intro back held
  have same : after.requestingAdapter = self.requestingAdapter := congrArg DoubleBuffer.back sameView
  rw [same, emptied] at held
  cases held

theorem Strands.trans {middle after : AdManager} (first : Strands self middle)
    (second : Strands middle after) : Strands self after :=
  ⟨second.onscreen.trans first.onscreen, second.ready.trans first.ready, second.unloaded⟩

theorem strands_missRequestingAdapter (configuration : BannerConfig) (remaining : List BannerConfig)
    (self : AdManager) :
    Strands self (self.takeConfiguration configuration remaining).missRequestingAdapter := by
  refine ⟨rfl, rfl, ?_⟩
  intro back held
  cases held

theorem strands_fetchAd (configuration : BannerConfig) (remaining : List BannerConfig)
    (self : AdManager)
    (given : configuration.adUnitWarmingUp = false ∨ self.requestingAdapter = none) :
    Strands self (self.fetchAd now configuration remaining).1 := by
  refine @fetchAd_induct now (fun configuration _ self result =>
    configuration.adUnitWarmingUp = false ∨ self.requestingAdapter = none → Strands self result.1)
    ?refused ?created ?missing ?exhausted configuration remaining self given
  case refused =>
    intro configuration remaining self warming given
    rcases given with warm | emptied
    · rw [warm] at warming
      cases warming
    · exact .of_view emptied view_scheduleRefreshTimer
  case created =>
    intro configuration remaining self _ _ _
    refine ⟨rfl, rfl, ?_⟩
    intro back held
    cases held
    rfl
  case missing =>
    intro configuration next rest self result _ _ ih _
    exact (strands_missRequestingAdapter configuration (next :: rest) self).trans (ih (.inr rfl))
  case exhausted =>
    intro configuration self _ _ _
    exact (strands_missRequestingAdapter configuration [] self).trans
      (.of_view rfl view_scheduleRefreshTimer)

theorem Strands.not_paired {after : AdManager} (strands : Strands self after)
    (waiting : self.requestingAdapterAdContentView.isSome = true) : ¬ after.Paired := by
  intro paired
  obtain ⟨ad, held⟩ := Option.isSome_iff_exists.mp waiting
  obtain ⟨back, behind, shows⟩ := paired ad (strands.ready.trans held)
  have loaded : back.adView = some ad := shows
  rw [strands.unloaded back behind] at loaded
  cases loaded

theorem strands_adapterDidFailToLoadAd {ref : Nat} {next : BannerConfig}
    (isRequesting : IsRef ref self.requestingAdapter) (elsewhere : ¬ IsRef ref self.onscreenAdapter)
    (first : self.remainingConfigurations.head? = some next) (warm : next.adUnitWarmingUp = false) :
    Strands self (self.adapterDidFailToLoadAd now ref).1 := by
  obtain ⟨rest, remaining⟩ := List.head?_eq_some_iff.mp first
  have tried : Strands self (self.requestingAdapterDidFail now).1 := by
    unfold requestingAdapterDidFail
    rw [remaining]
    exact strands_fetchAd next rest self (.inl warm)
  unfold adapterDidFailToLoadAd
  rw [if_pos isRequesting]
  simp only
  rw [if_neg (by rw [tried.onscreen]; exact elsewhere)]
  exact tried

theorem strands_getAd (sound : self.Sound) {configuration next : BannerConfig}
    (requesting : self.requestingAdapter.isSome = true)
    (missing : (configuration.customEventClass.bind networks).isNone = true)
    (first : self.remainingConfigurations.head? = some next) (warm : next.adUnitWarmingUp = false) :
    Strands self (self.getAd networks now configuration).1 := by
  obtain ⟨adapter, held⟩ := Option.isSome_iff_exists.mp requesting
  have elsewhere := not_isRef_onscreen sound held
  unfold getAd
  rw [held, Option.isNone_iff_eq_none.mp missing]
  have tried := @strands_adapterDidFailToLoadAd
    { self with requestingAdapter := some { adapter with configuration := some configuration } } now
    adapter.ref next rfl elsewhere first warm
  exact ⟨tried.onscreen, tried.ready, tried.unloaded⟩

theorem strands_message (sound : self.Sound) {event : Nat} {message : EventMessage}
    {next : BannerConfig} (fails : message.isFailure = true)
    (answers : self.requestingAdapter.any (holds event) = true)
    (first : self.remainingConfigurations.head? = some next) (warm : next.adUnitWarmingUp = false) :
    Strands self (self.message now event message).1 := by
  obtain ⟨adapter, held, belongs⟩ := (Option.any_eq_true _ _).mp answers
  have found : self.adapters.find? (holds event) = some adapter := by
    unfold adapters
    rw [held]
    exact List.find?_cons_of_pos belongs
  obtain ⟨error, reported⟩ : ∃ error, adapter.receive message =
      (adapter, [], some (.didFailToLoadAdWithError error)) := by
    cases message with
    | didLoadAd ad =>
        cases ad with
        | none => exact ⟨none, rfl⟩
        | some ad => cases fails
    | didFailToLoadAdWithError error => exact ⟨error, rfl⟩
    | _ => cases fails
  have elsewhere := not_isRef_onscreen sound held
  unfold AdManager.message
  rw [found]
  simp only [reported]
  rw [update_requesting sound held rfl]
  have tried := @strands_adapterDidFailToLoadAd { self with requestingAdapter := some adapter } now
    adapter.ref next rfl elsewhere first warm
  exact ⟨tried.onscreen, tried.ready, tried.unloaded⟩

/-- The adapter that has loaded is given up for another one, but what it has
loaded is kept. -/
theorem not_paired_of_impatient (sound : self.Sound) {input : ℚ × Input}
    (impatient : ¬ Patient networks self input) : ¬ ((machine networks).next self input).Paired := by
  obtain ⟨now, input⟩ := input
  unfold Patient at impatient
  simp only [not_forall, Bool.not_eq_true] at impatient
  obtain ⟨waiting, next, tried, warm⟩ := impatient
  cases input with
  | runBlock =>
      change ¬ (self.runBlock networks now).1.Paired
      unfold attempts at tried
      unfold AdManager.runBlock
      cases queue : self.mainQueue with
      | nil =>
          rw [queue] at tried
          cases tried
      | cons block rest =>
          rw [queue] at tried
          cases block with
          | communicator message =>
              cases message with
              | communicatorDidReceiveAdConfigurations configurations =>
                  obtain ⟨others, rfl⟩ := List.head?_eq_some_iff.mp tried
                  exact (strands_fetchAd next others _ (.inl warm)).not_paired waiting
              | communicatorDidFailWithError error => cases tried
          | getAd configuration =>
              have failing : (self.requestingAdapter.isSome &&
                  (configuration.customEventClass.bind networks).isNone) = true := by
                by_contra fine
                simp only [if_neg fine] at tried
                cases tried
              simp only [if_pos failing] at tried
              obtain ⟨requesting, missing⟩ := Bool.and_eq_true_iff.mp failing
              have soundRest : Sound { self with mainQueue := rest } := sound
              exact (strands_getAd soundRest requesting missing tried warm).not_paired waiting
  | message event message =>
      change ¬ (self.message now event message).1.Paired
      unfold attempts at tried
      have failing : (message.isFailure && self.requestingAdapter.any (holds event)) = true := by
        by_contra fine
        simp only [if_neg fine] at tried
        cases tried
      simp only [if_pos failing] at tried
      obtain ⟨fails, answers⟩ := Bool.and_eq_true_iff.mp failing
      exact (strands_message sound fails answers tried warm).not_paired waiting
  | _ => cases tried

end Steps

section Runs

variable {networks : Networks} {adUnitId : String} {inputs : List (ℚ × Input)}

theorem paired_initWithAdUnitId (adUnitId : String) : (initWithAdUnitId adUnitId).Paired := by
  intro ad held
  cases held

theorem paired_next_iff {self : AdManager} {input : ℚ × Input} (sorted : self.Sorted)
    (paired : self.Paired) (enabled : self.enabled input) :
    ((machine networks).next self input).Paired ↔ Patient networks self input := by
  constructor
  · intro kept
    by_contra impatient
    exact not_paired_of_impatient sorted.1 impatient kept
  · intro patient
    have acts := @acts_step self networks true sorted.1 input enabled fun _ => patient
    have kept := @Acts.preserves _ _ (Act input true) _ _ _ (fun self => self.Sorted ∧ self.Paired)
      ?_ acts ⟨sorted, paired⟩
    · exact kept.2
    · rintro before outputs after act ⟨sorted, paired⟩
      exact ⟨sorted_act act sorted, paired.steps (Advance.of_act act sorted.2).moves⟩

/-- The view that waits is the one that the requesting adapter has loaded, just if
no other adapter is tried while a view waits: neither on another answer of the
server nor after a failure. -/
theorem paired_iff_patient (runs : (machine networks).Runs (initWithAdUnitId adUnitId) inputs) :
    (machine networks).Always Paired (initWithAdUnitId adUnitId) inputs ↔
      (machine networks).Along (Patient networks) (initWithAdUnitId adUnitId) inputs :=
  @Machine.always_iff_along _ _ _ (machine networks) Sorted Paired (Patient networks)
    (fun _ _ sorted enabled => sorted_next sorted enabled)
    (fun _ _ sorted paired enabled => paired_next_iff sorted paired enabled) _
    (sorted_initWithAdUnitId adUnitId) (paired_initWithAdUnitId adUnitId) inputs runs

theorem twoAds_paired : (machine gdtOnly).Always Paired (initWithAdUnitId "banner") twoAds :=
  (paired_iff_patient twoAds_runs).mpr (by decide +kernel)

end Runs

end AdManager

end GDTAdapter.BannerHost
