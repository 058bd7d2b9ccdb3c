import GDTAdapter.BannerHost.Slots
import GDTAdapter.Reactive.History

namespace GDTAdapter.BannerHost

open Reactive Timers

/-! # A request that comes to nothing

The manager counts as loading while it has a requesting adapter, and it keeps the
last one after that has failed.
-/

namespace AdManager

/-- The custom event of the last configuration has been asked, and nothing else is
under way. -/
structure Stalled (event : Nat) (manager : AdManager) : Prop where
  requesting : ∃ adapter, manager.requestingAdapter = some adapter ∧
    adapter.bannerCustomEvent.map Event.ref = some event
  ready : manager.requestingAdapterAdContentView = none
  remaining : manager.remainingConfigurations = []
  queue : manager.mainQueue = []
  inFlight : manager.inFlight = []

/-- The custom event has got an ad after all, or a request is made regardless of
loading. -/
def Wakes (event : Nat) (input : ℚ × Input) : Prop :=
  input.2 = .forceRefreshAd ∨ input.2 = .applicationWillEnterForeground ∨
    ∃ ad, input.2 = .message event (.didLoadAd (some ad))

section Acts

variable {event : Nat} {before after : AdManager} {input : ℚ × Input} {careful : Bool}
variable {outputs : List Output}

theorem Stalled.loading (stalled : Stalled event before) : before.loading = true := by
  obtain ⟨adapter, held, -⟩ := stalled.requesting
  rw [AdManager.loading, held, Option.isSome_some, Bool.or_true]

theorem Stalled.frame (stalled : Stalled event before)
    (back : after.requestingAdapter = before.requestingAdapter)
    (ready : after.requestingAdapterAdContentView = before.requestingAdapterAdContentView)
    (remaining : after.remainingConfigurations = before.remainingConfigurations)
    (queue : after.mainQueue = before.mainQueue) (inFlight : after.inFlight = before.inFlight) :
    Stalled event after := by
  refine ⟨?_, ready.trans stalled.ready, remaining.trans stalled.remaining,
    queue.trans stalled.queue, inFlight.trans stalled.inFlight⟩
  rw [back]
  exact stalled.requesting

theorem Stalled.scheduleRefreshTimer (stalled : Stalled event before) (now : ℚ) :
    Stalled event (before.scheduleRefreshTimer now) := by
  have same := @untimed_scheduleRefreshTimer before now
  have back := congrArg requestingAdapter same
  have ready := congrArg requestingAdapterAdContentView same
  have remaining := congrArg remainingConfigurations same
  have queue := congrArg mainQueue same
  have sameInFlight := congrArg AdManager.inFlight same
  exact stalled.frame back ready remaining queue sameInFlight

theorem Stalled.replace {adapter other : Adapter} (stalled : Stalled event before)
    (replaces : Replaces adapter other before after)
    (kept : other.bannerCustomEvent = adapter.bannerCustomEvent) : Stalled event after := by
  cases replaces with
  | requesting held =>
      obtain ⟨requesting, same, asked⟩ := stalled.requesting
      rw [held] at same
      cases same
      exact ⟨⟨other, rfl, kept ▸ asked⟩, stalled.ready, stalled.remaining, stalled.queue,
        stalled.inFlight⟩
  | onscreen held =>
      exact ⟨stalled.requesting, stalled.ready, stalled.remaining, stalled.queue, stalled.inFlight⟩

theorem present_of_idle (idle : before.requestingAdapterAdContentView = none) (now : ℚ) :
    before.presentRequestingAdapter now = (before, []) := by
  rw [presentRequestingAdapter, idle]

theorem Stalled.remove (stalled : Stalled event before) :
    Stalled event before.removeOnscreenAdapter.1 := by
  have view := @view_removeOnscreenAdapter before
  have rest := @offscreen_removeOnscreenAdapter before
  have back := congrArg DoubleBuffer.back view
  have ready := congrArg DoubleBuffer.ready view
  have remaining := congrArg remainingConfigurations rest
  have queue := congrArg mainQueue rest
  have sameInFlight := congrArg AdManager.inFlight rest
  exact stalled.frame back ready remaining queue sameInFlight

/-- No act starts a task, and the adapter stays what it is. -/
theorem stalled_act (act : Act input careful before outputs after) (asleep : ¬ Wakes event input)
    (stalled : Stalled event before) :
    Stalled event after ∧ ∀ output ∈ outputs, ∀ task, output ≠ .start task := by
  have quietly (kept : Stalled event after) (silent : outputs = []) :
      Stalled event after ∧ ∀ output ∈ outputs, ∀ task, output ≠ .start task := by
    rw [silent]
    exact ⟨kept, List.forall_mem_nil _⟩
  have left {next : BannerConfig} {rest : List BannerConfig}
      (remaining : before.remainingConfigurations = next :: rest) : False := by
    rw [stalled.remaining] at remaining
    cases remaining
  have queued {block : Block} {rest : List Block} (queue : before.mainQueue = block :: rest) :
      False := by
    rw [stalled.queue] at queue
    cases queue
  cases act with
  | note automatic asked => exact quietly (stalled.frame rfl rfl rfl rfl rfl) rfl
  | scheduleRefreshTimer => exact quietly (stalled.scheduleRefreshTimer _) rfl
  | pauseRefreshTimer => exact quietly (stalled.frame rfl rfl rfl rfl rfl) rfl
  | resumeRefreshTimer => exact quietly (stalled.frame rfl rfl rfl rfl rfl) rfl
  | fire held => exact quietly (stalled.frame rfl rfl rfl rfl rfl) rfl
  | load asked =>
      rcases asked stalled.loading with forced | entered
      · exact absurd (.inl forced) asleep
      · exact absurd (.inr (.inl entered)) asleep
  | complete completes flies =>
      rw [stalled.inFlight] at flies
      cases flies
  | take queue => exact (queued queue).elim
  | noAnswer queue => exact (queued queue).elim
  | answer queue => exact (queued queue).elim
  | refuse remaining warming => exact (left remaining).elim
  | miss remaining warm missing idle => exact (left remaining).elim
  | make remaining warm found idle => exact (left remaining).elim
  | fail error => exact ⟨stalled, by simp⟩
  | configure queue held => exact (queued queue).elim
  | ask queue held automatic => exact (queued queue).elim
  | click first replaces => exact ⟨stalled.replace replaces rfl, by simp⟩
  | look tracking running quiet replaces => exact quietly (stalled.replace replaces rfl) rfl
  | impression ticks tracking running logs replaces => exact ⟨stalled.replace replaces rfl, by simp⟩
  | trackImpression itself ref configuration => exact ⟨stalled, by simp⟩
  | trackClick itself ref configuration => exact ⟨stalled, by simp⟩
  | loaded sent sends held =>
      obtain ⟨adapter, same, asked⟩ := stalled.requesting
      rw [held] at same
      cases same
      have isEvent := beq_iff_eq.mp sends
      rw [asked] at isEvent
      cases isEvent
      exact absurd (.inr (.inr ⟨_, sent⟩)) asleep
  | reloaded held ad => exact quietly (stalled.frame rfl rfl rfl rfl rfl) rfl
  | lock sent held => exact ⟨stalled.frame rfl rfl rfl rfl rfl, by simp⟩
  | unlock held =>
      have finished : Stalled event { before with adActionInProgress := false } :=
        stalled.frame rfl rfl rfl rfl rfl
      rw [present_of_idle finished.ready]
      exact ⟨finished, by simp⟩
  | leave held => exact ⟨stalled, by simp⟩
  | lose held =>
      have removed := stalled.remove
      rw [present_of_idle removed.ready, List.append_nil]
      refine ⟨removed, ?_⟩
      intro output member task
      obtain ⟨message, rfl⟩ := eq_of_mem_removeOnscreenAdapter member
      exact nofun

end Acts

section Runs

variable {networks : Networks} {event : Nat}

theorem stalled_run {self : AdManager} {inputs : List (ℚ × Input)} (sorted : self.Sorted)
    (stalled : Stalled event self) (runs : (machine networks).Runs self inputs)
    (asleep : ∀ input ∈ inputs, ¬ Wakes event input) :
    Stalled event ((machine networks).after self inputs) ∧
      ∀ output ∈ (machine networks).trace self inputs, ∀ task, output ≠ .start task := by
  induction inputs generalizing self with
  | nil => exact ⟨stalled, List.forall_mem_nil _⟩
  | cons input rest ih =>
      have acts := @acts_step self networks false sorted.1 input runs.1 nofun
      have asleepHere := asleep input List.mem_cons_self
      have stays : ∀ before outputs after, Act input false before outputs after →
          Stalled event before → Stalled event after :=
        fun _ _ _ act stalled => (stalled_act act asleepHere stalled).1
      have quiet : ∀ before outputs after, Act input false before outputs after →
          Stalled event before → ∀ output ∈ outputs, ∀ task, output ≠ .start task :=
        fun _ _ _ act stalled => (stalled_act act asleepHere stalled).2
      have kept := acts.preserves stays stalled
      have silent := acts.emits stays quiet stalled
      have later := ih (sorted_next sorted runs.1) kept runs.2
        fun other member => asleep other (List.mem_cons_of_mem input member)
      refine ⟨later.1, ?_⟩
      intro output member
      rcases List.mem_append.mp member with here | there
      · exact silent output here
      · exact later.2 output there

/-- Once the network of the last configuration has been asked and nothing else is
under way, no task is started any more before that network delivers an ad, a
refresh is forced or the app enters the foreground: not if the network fails, not
if the refresh timer fires, not if the ad on screen fails or another load is asked
for. -/
theorem nothing_starts {adUnitId : String} {before inputs : List (ℚ × Input)}
    (runs : (machine networks).Runs (initWithAdUnitId adUnitId) (before ++ inputs))
    (stalled : Stalled event ((machine networks).after (initWithAdUnitId adUnitId) before))
    (asleep : ∀ input ∈ inputs, ¬ Wakes event input) :
    ∀ output ∈ (machine networks).trace
        ((machine networks).after (initWithAdUnitId adUnitId) before) inputs,
      ∀ task, output ≠ .start task := by
  obtain ⟨earlier, later⟩ := Machine.along_append.mp runs
  have sorted : ((machine networks).after (initWithAdUnitId adUnitId) before).Sorted := by
    have always := @Machine.always_of_invariant _ _ _ (machine networks) Sorted (fun _ _ => True)
      (fun _ _ sorted enabled _ => sorted_next sorted enabled) _ (sorted_initWithAdUnitId adUnitId)
      before earlier (Machine.along_true _ before)
    exact always before [] (List.append_nil before).symm
  exact (stalled_run sorted stalled later asleep).2

end Runs

/-- The GDT banner is asked for an ad. -/
def oneRequest : List (ℚ × Input) :=
  [(0, .loadAd), (1, .complete 0 (answered [gdtBanner])), (1, .runBlock), (1, .runBlock)]

theorem oneRequest_runs :
    (machine gdtOnly).Runs (initWithAdUnitId "banner") oneRequest :=
  ⟨trivial, List.mem_cons_self, List.cons_ne_nil _ _, List.cons_ne_nil _ _, trivial⟩

/-- The GDT banner fails, the refresh timer fires, and the app asks for an ad. -/
def failsForGood : List (ℚ × Input) :=
  [(2, .message 2 (.didFailToLoadAdWithError none)), (12, .refreshTimerDidFire), (13, .loadAd)]

theorem failsForGood_runs :
    (machine gdtOnly).Runs (initWithAdUnitId "banner") (oneRequest ++ failsForGood) := by
  refine Machine.along_append.mpr ⟨oneRequest_runs, ?_, ?_, trivial, trivial⟩
  · exact (by decide : 2 < 3)
  · exact ⟨_, rfl, rfl, 2 + 10, rfl, by norm_num⟩

theorem failsForGood_starts_nothing :
    Stalled 2 ((machine gdtOnly).after (initWithAdUnitId "banner") oneRequest) ∧
      ∀ output ∈ (machine gdtOnly).trace
          ((machine gdtOnly).after (initWithAdUnitId "banner") oneRequest) failsForGood,
        ∀ task, output ≠ .start task := by
  have stalled : Stalled 2 ((machine gdtOnly).after (initWithAdUnitId "banner") oneRequest) :=
    ⟨⟨_, rfl, rfl⟩, rfl, rfl, rfl, rfl⟩
  exact ⟨stalled, nothing_starts failsForGood_runs stalled (by simp [failsForGood, Wakes])⟩

end AdManager

end GDTAdapter.BannerHost
