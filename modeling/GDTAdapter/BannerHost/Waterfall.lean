import GDTAdapter.BannerHost.Slots

namespace GDTAdapter.BannerHost

open Reactive Timers

/-! # The waterfall of configurations

An answer of the server lists configurations.  They are fetched one by one; the
network of one is asked later, when the main queue comes to it.
-/

/-- An adapter is made for the configuration. -/
def BannerConfig.isAskable (configuration : BannerConfig) : Bool :=
  !configuration.adUnitWarmingUp && configuration.customEventClass.isSome

def Block.getAd? : Block → Option BannerConfig
  | .getAd configuration => some configuration
  | .communicator _ => none

namespace Output

/-- The configuration is fetched and an adapter made for it. -/
def made? : Output → Option BannerConfig
  | .fetch configuration => if configuration.isAskable then some configuration else none
  | _ => none

/-- A network is asked by a custom event. -/
def requested? : Output → Option (Nat × BannerConfig)
  | .requestAd event configuration => some (event, configuration)
  | _ => none

end Output

/-- Keeps the configurations of the latest answer that have not been fetched yet. -/
def untried : Monitor (List BannerConfig) Output
  | _, .received configurations => some configurations
  | next :: rest, .fetch configuration => if configuration = next then some rest else none
  | [], .fetch _ => none
  | left, _ => some left

namespace AdManager

/-- The manager has no other configurations left than those not tried yet. -/
def Leaves (self : AdManager) (left : List BannerConfig) : Prop :=
  self.remainingConfigurations = left ∨ self.remainingConfigurations = []

section Untried

variable {before after : AdManager} {left : List BannerConfig} {input : ℚ × Input} {careful : Bool}
variable {outputs : List Output}

theorem leaves_of_same (leaves : Leaves before left)
    (same : after.remainingConfigurations = before.remainingConfigurations) : Leaves after left := by
  unfold Leaves
  rw [same]
  exact leaves

theorem run_untried_of_ignored
    (ignored : ∀ output ∈ outputs, (∀ configurations, output ≠ .received configurations) ∧
      ∀ configuration, output ≠ .fetch configuration) :
    untried.run left outputs = some left := by
  refine Monitor.run_of_ignored ?_
  intro output member
  obtain ⟨noAnswer, noFetch⟩ := ignored output member
  cases output with
  | received configurations => exact absurd rfl (noAnswer configurations)
  | fetch configuration => exact absurd rfl (noFetch configuration)
  | _ => cases left <;> rfl

theorem run_untried_of_manager (all : ∀ output ∈ outputs, ∃ message, output = .manager message) :
    untried.run left outputs = some left := by
  refine run_untried_of_ignored ?_
  intro output member
  obtain ⟨message, rfl⟩ := all output member
  simp

theorem run_untried_fetch {next : BannerConfig} {rest : List BannerConfig} (leaves : Leaves before left)
    (remaining : before.remainingConfigurations = next :: rest) :
    untried.run left [.fetch next] = some rest := by
  rcases leaves with same | emptied
  · rw [← same, remaining, Monitor.run_cons]
    change (if next = next then some rest else none).bind _ = _
    rw [if_pos rfl]
    rfl
  · rw [remaining] at emptied
    cases emptied

/-- The next fetch is of the next configuration that is left. -/
theorem untried_act (act : Act input careful before outputs after) (leaves : Leaves before left) :
    ∃ later, untried.run left outputs = some later ∧ Leaves after later := by
  have quietly (silent : outputs = []) (same : after.remainingConfigurations = before.remainingConfigurations) :
      ∃ later, untried.run left outputs = some later ∧ Leaves after later := by
    rw [silent]
    exact ⟨left, rfl, leaves_of_same leaves same⟩
  cases act with
  | note automatic asked => exact quietly rfl rfl
  | scheduleRefreshTimer =>
      have same := congrArg remainingConfigurations (@untimed_scheduleRefreshTimer before input.1)
      exact quietly rfl same
  | pauseRefreshTimer => exact quietly rfl rfl
  | resumeRefreshTimer => exact quietly rfl rfl
  | fire held => exact quietly rfl rfl
  | load asked =>
      refine ⟨left, run_untried_of_ignored ?_, leaves⟩
      intro output member
      rcases eq_of_mem_loadAdWithURL member with ⟨task, rfl⟩ | ⟨task, rfl⟩
      · simp
      · simp
  | complete completes flies => exact quietly rfl rfl
  | take queue => exact quietly rfl rfl
  | noAnswer queue => exact ⟨[], rfl, .inr rfl⟩
  | answer queue => exact ⟨_, rfl, .inl rfl⟩
  | refuse remaining warming => exact ⟨_, run_untried_fetch leaves remaining, .inl rfl⟩
  | miss remaining warm missing idle => exact ⟨_, run_untried_fetch leaves remaining, .inl rfl⟩
  | make remaining warm found idle => exact ⟨_, run_untried_fetch leaves remaining, .inl rfl⟩
  | fail error => exact ⟨left, run_untried_of_ignored (by simp), leaves⟩
  | configure queue held => exact quietly rfl rfl
  | ask queue held automatic => exact ⟨left, run_untried_of_ignored (by simp), leaves⟩
  | click first replaces =>
      refine ⟨left, run_untried_of_ignored (by simp), leaves_of_same leaves ?_⟩
      cases replaces <;> rfl
  | trackImpression itself ref configuration =>
      exact ⟨left, run_untried_of_ignored (by simp), leaves⟩
  | trackClick itself ref configuration => exact ⟨left, run_untried_of_ignored (by simp), leaves⟩
  | look tracking running quiet replaces =>
      refine quietly rfl ?_
      cases replaces <;> rfl
  | impression ticks tracking running logs replaces =>
      refine ⟨left, run_untried_of_ignored (by simp), leaves_of_same leaves ?_⟩
      cases replaces <;> rfl
  | loaded sent sends held =>
      refine ⟨left, run_untried_of_manager fun _ => eq_of_mem_presentRequestingAdapter, .inr ?_⟩
      rw [remainingConfigurations_presentRequestingAdapter]
  | reloaded held ad => exact quietly rfl rfl
  | lock sent held => exact ⟨left, run_untried_of_ignored (by simp), leaves⟩
  | unlock held =>
      refine ⟨left, run_untried_of_manager fun _ => eq_of_mem_unlock, leaves_of_same leaves ?_⟩
      rw [remainingConfigurations_presentRequestingAdapter]
  | leave held => exact ⟨left, run_untried_of_ignored (by simp), leaves⟩
  | lose held =>
      refine ⟨left, run_untried_of_manager fun _ => eq_of_mem_lose, leaves_of_same leaves ?_⟩
      have same := congrArg remainingConfigurations (@offscreen_removeOnscreenAdapter before)
      rw [remainingConfigurations_presentRequestingAdapter]
      exact same

end Untried

/-- What has been asked, and waits to be, of what adapters were made for. -/
structure Asks (manager : AdManager) (history : List Output) : Prop where
  order : List.Sublist
    ((history.filterMap Output.requested?).map Prod.snd ++ manager.mainQueue.filterMap Block.getAd?)
    (history.filterMap Output.made?)
  events : ((history.filterMap Output.requested?).map Prod.fst).Pairwise (· < ·)
  fresh : ∀ event ∈ (history.filterMap Output.requested?).map Prod.fst, event < manager.fresh

section Asks

variable {before after : AdManager} {history outputs : List Output} {input : ℚ × Input} {careful : Bool}

theorem asks_of_quiet (asks : Asks before history)
    (quiet : ∀ output ∈ outputs, output.made? = none ∧ output.requested? = none)
    (queue : List.Sublist (after.mainQueue.filterMap Block.getAd?)
      (before.mainQueue.filterMap Block.getAd?))
    (later : before.fresh ≤ after.fresh) : Asks after (history ++ outputs) := by
  have noneMade : outputs.filterMap Output.made? = [] :=
    List.filterMap_eq_nil_iff.mpr fun output member => (quiet output member).1
  have noneAsked : outputs.filterMap Output.requested? = [] :=
    List.filterMap_eq_nil_iff.mpr fun output member => (quiet output member).2
  refine ⟨?_, ?_, ?_⟩
  · rw [List.filterMap_append, List.filterMap_append, noneMade, noneAsked, List.append_nil,
      List.append_nil]
    exact ((List.Sublist.refl _).append queue).trans asks.order
  · rw [List.filterMap_append, noneAsked, List.append_nil]
    exact asks.events
  · rw [List.filterMap_append, noneAsked, List.append_nil]
    intro event member
    exact Nat.lt_of_lt_of_le (asks.fresh event member) later

/-- A configuration for which an adapter is made joins the queue. -/
theorem asks_make (asks : Asks before history) {next : BannerConfig} {rest : List BannerConfig}
    (askable : next.isAskable = true) :
    Asks ((before.takeConfiguration next rest).makeRequestingAdapter next) (history ++ [.fetch next]) := by
  have made : [Output.fetch next].filterMap Output.made? = [next] := by
    simp [Output.made?, askable]
  have noneAsked : [Output.fetch next].filterMap Output.requested? = [] := rfl
  refine ⟨?_, ?_, ?_⟩
  · have queue : ((before.takeConfiguration next rest).makeRequestingAdapter next).mainQueue.filterMap
        Block.getAd? = before.mainQueue.filterMap Block.getAd? ++ [next] :=
      List.filterMap_append
    rw [queue, List.filterMap_append, List.filterMap_append, made, noneAsked, List.append_nil,
      ← List.append_assoc]
    exact asks.order.append (List.Sublist.refl [next])
  · rw [List.filterMap_append, noneAsked, List.append_nil]
    exact asks.events
  · rw [List.filterMap_append, noneAsked, List.append_nil]
    intro event member
    exact Nat.lt_succ_of_lt (asks.fresh event member)

/-- It is asked when its turn has come. -/
theorem asks_ask (asks : Asks before history) {configuration : BannerConfig} {rest : List Block}
    (queue : before.mainQueue = .getAd configuration :: rest) (left : after.mainQueue = rest)
    (counted : after.fresh = before.fresh + 1) :
    Asks after (history ++ [.requestAd before.fresh configuration]) := by
  have asked : (history ++ [Output.requestAd before.fresh configuration]).filterMap Output.requested? =
      history.filterMap Output.requested? ++ [(before.fresh, configuration)] :=
    List.filterMap_append
  have noneMade : [Output.requestAd before.fresh configuration].filterMap Output.made? = [] := rfl
  have waited : before.mainQueue.filterMap Block.getAd? =
      configuration :: rest.filterMap Block.getAd? := by
    rw [queue]
    rfl
  refine ⟨?_, ?_, ?_⟩
  · have order := asks.order
    rw [waited] at order
    rw [asked, left, List.filterMap_append, noneMade, List.append_nil, List.map_append,
      List.append_assoc]
    exact order
  · rw [asked, List.map_append]
    refine List.pairwise_append.mpr ⟨asks.events, List.pairwise_singleton _ _, ?_⟩
    intro earlier member later same
    rw [List.mem_singleton.mp same]
    exact asks.fresh earlier member
  · rw [asked, List.map_append, counted]
    intro event member
    rcases List.mem_append.mp member with earlier | here
    · exact Nat.lt_succ_of_lt (asks.fresh event earlier)
    · rw [List.mem_singleton.mp here]
      exact Nat.lt_succ_self before.fresh

theorem not_askable {configuration : BannerConfig}
    (refused : configuration.adUnitWarmingUp = true ∨ configuration.customEventClass = none) :
    configuration.isAskable = false := by
  unfold BannerConfig.isAskable
  rcases refused with warming | missing
  · rw [warming]
    rfl
  · rw [missing, Option.isSome_none, Bool.and_false]

theorem silent {output : Output} (tells : ∃ message, output = .manager message) :
    output.made? = none ∧ output.requested? = none := by
  obtain ⟨message, rfl⟩ := tells
  exact ⟨rfl, rfl⟩

theorem asks_act (act : Act input careful before outputs after) (asks : Asks before history) :
    Asks after (history ++ outputs) := by
  have refused {configuration : BannerConfig} (unaskable : configuration.isAskable = false)
      (same : after.mainQueue = before.mainQueue) (sameFresh : after.fresh = before.fresh)
      (sends : outputs = [.fetch configuration]) : Asks after (history ++ outputs) := by
    refine asks_of_quiet asks ?_ (by rw [same]) (Nat.le_of_eq sameFresh.symm)
    intro output member
    rw [sends] at member
    rw [List.mem_singleton.mp member]
    simp [Output.made?, Output.requested?, unaskable]
  have frame (quiet : ∀ output ∈ outputs, output.made? = none ∧ output.requested? = none)
      (same : after.mainQueue = before.mainQueue) (sameFresh : after.fresh = before.fresh) :
      Asks after (history ++ outputs) :=
    asks_of_quiet asks quiet (by rw [same]) (Nat.le_of_eq sameFresh.symm)
  have replaced {adapter other : Adapter} (replaces : Replaces adapter other before after)
      (quiet : ∀ output ∈ outputs, output.made? = none ∧ output.requested? = none) :
      Asks after (history ++ outputs) := by
    cases replaces with
    | requesting held => exact frame quiet rfl rfl
    | onscreen held => exact frame quiet rfl rfl
  have taken {block : Block} {rest : List Block}
      (quiet : ∀ output ∈ outputs, output.made? = none ∧ output.requested? = none)
      (queue : before.mainQueue = block :: rest) (left : after.mainQueue = rest)
      (sameFresh : after.fresh = before.fresh) : Asks after (history ++ outputs) := by
    refine asks_of_quiet asks quiet ?_ (Nat.le_of_eq sameFresh.symm)
    rw [queue, left]
    exact (List.sublist_cons_self _ _).filterMap _
  cases act with
  | note automatic asked => exact frame (List.forall_mem_nil _) rfl rfl
  | scheduleRefreshTimer =>
      have same := congrArg mainQueue (@untimed_scheduleRefreshTimer before input.1)
      exact frame (List.forall_mem_nil _) same fresh_scheduleRefreshTimer
  | pauseRefreshTimer => exact frame (List.forall_mem_nil _) rfl rfl
  | resumeRefreshTimer => exact frame (List.forall_mem_nil _) rfl rfl
  | fire held => exact frame (List.forall_mem_nil _) rfl rfl
  | load asked =>
      refine asks_of_quiet asks ?_ (List.Sublist.refl _) (Nat.le_succ before.fresh)
      intro output member
      rcases eq_of_mem_loadAdWithURL member with ⟨task, rfl⟩ | ⟨task, rfl⟩
      · exact ⟨rfl, rfl⟩
      · exact ⟨rfl, rfl⟩
  | complete completes flies =>
      refine asks_of_quiet asks (List.forall_mem_nil _) ?_ (Nat.le_refl _)
      change List.Sublist ((before.mainQueue ++ [_]).filterMap Block.getAd?) _
      rw [List.filterMap_append, List.filterMap_cons_none rfl, List.filterMap_nil, List.append_nil]
  | take queue => exact taken (List.forall_mem_nil _) queue rfl rfl
  | noAnswer queue => exact taken (by simp [Output.made?, Output.requested?]) queue rfl rfl
  | answer queue => exact taken (by simp [Output.made?, Output.requested?]) queue rfl rfl
  | refuse remaining warming => exact refused (not_askable (.inl warming)) rfl rfl rfl
  | miss remaining warm missing idle => exact refused (not_askable (.inr missing)) rfl rfl rfl
  | make remaining warm found idle =>
      exact asks_make asks (by rw [BannerConfig.isAskable, warm, found]; rfl)
  | fail error => exact frame (by simp [Output.made?, Output.requested?]) rfl rfl
  | configure queue held => exact taken (List.forall_mem_nil _) queue rfl rfl
  | ask queue held automatic => exact asks_ask asks queue rfl rfl
  | click first replaces =>
      exact replaced replaces (by simp [Output.made?, Output.requested?])
  | trackImpression itself ref configuration =>
      exact frame (by simp [Output.made?, Output.requested?]) rfl rfl
  | trackClick itself ref configuration =>
      exact frame (by simp [Output.made?, Output.requested?]) rfl rfl
  | look tracking running quiet replaces => exact replaced replaces (List.forall_mem_nil _)
  | impression ticks tracking running logs replaces =>
      exact replaced replaces (by simp [Output.made?, Output.requested?])
  | loaded sent sends held =>
      exact frame (fun _ member => silent (eq_of_mem_presentRequestingAdapter member))
        mainQueue_presentRequestingAdapter fresh_presentRequestingAdapter
  | reloaded held ad => exact frame (List.forall_mem_nil _) rfl rfl
  | lock sent held => exact frame (by simp [Output.made?, Output.requested?]) rfl rfl
  | unlock held =>
      exact frame (fun _ member => silent (eq_of_mem_unlock member))
        mainQueue_presentRequestingAdapter fresh_presentRequestingAdapter
  | leave held => exact frame (by simp [Output.made?, Output.requested?]) rfl rfl
  | lose held =>
      have removed := congrArg mainQueue (@offscreen_removeOnscreenAdapter before)
      exact frame (fun _ member => silent (eq_of_mem_lose member))
        (mainQueue_presentRequestingAdapter.trans removed)
        (fresh_presentRequestingAdapter.trans fresh_removeOnscreenAdapter)

end Asks

/-- The configurations of each answer are fetched in their order, from the first
one on, until the next answer comes.  Every network that is asked is asked for a
configuration for which an adapter was made, in the order of the fetches and at
most once for each, and by a custom event of its own. -/
theorem waterfall {networks : Networks} {adUnitId : String} {inputs : List (ℚ × Input)}
    (runs : (machine networks).Runs (initWithAdUnitId adUnitId) inputs) :
    untried.Accepts [] ((machine networks).trace (initWithAdUnitId adUnitId) inputs) ∧
      Asks ((machine networks).after (initWithAdUnitId adUnitId) inputs)
        ((machine networks).trace (initWithAdUnitId adUnitId) inputs) := by
  constructor
  · obtain ⟨later, accepted, -⟩ := (apart networks).run_trace
      (fun _ _ _ _ act _ leaves => untried_act act leaves)
      (sorted_initWithAdUnitId adUnitId) (.inr rfl) runs
    rw [Monitor.Accepts, accepted, Option.isSome_some]
  · have start : Asks (initWithAdUnitId adUnitId) [] :=
      ⟨List.Sublist.refl _, List.Pairwise.nil, List.forall_mem_nil _⟩
    exact (apart networks).records_trace (fun _ _ _ _ act _ asks => asks_act act asks)
      (sorted_initWithAdUnitId adUnitId) start runs

theorem twoAds_waterfall :
    untried.Accepts [] ((machine gdtOnly).trace (initWithAdUnitId "banner") twoAds) ∧
      Asks ((machine gdtOnly).after (initWithAdUnitId "banner") twoAds)
        ((machine gdtOnly).trace (initWithAdUnitId "banner") twoAds) :=
  waterfall twoAds_runs

end AdManager

end GDTAdapter.BannerHost
