import GDTAdapter.BannerHost.Slots
import GDTAdapter.Reactive.Clock
import GDTAdapter.Reactive.History

namespace GDTAdapter.BannerHost

open Reactive Timers

/-! # The refresh timer

A refresh timer runs for the interval of the configuration that is requested, or
for a minute.  To resume it is to start it anew.
-/

/-- A one-shot timer of at least the interval, which does not fire before the moment. -/
structure Tuned (interval moment : ℚ) (timer : MobiTimer) : Prop where
  sound : timer.Sound timer.timeInterval false
  long : interval ≤ timer.timeInterval
  rests : ∀ date, timer.fireDate = some date → moment ≤ date

section Timers

variable {timer : MobiTimer} {interval moment now : ℚ}

theorem tuned_timerWithTimeInterval {seconds : ℚ} (long : interval ≤ seconds) :
    Tuned interval moment (MobiTimer.timerWithTimeInterval seconds false) where
  sound := MobiTimer.sound_timerWithTimeInterval seconds false
  long := long
  rests _ set := nomatch set

theorem Tuned.scheduleNow (tuned : Tuned interval moment timer) (near : moment ≤ now + interval) :
    Tuned interval moment (timer.scheduleNow now) := by
  by_cases refused : timer.isValid = true → timer.isCountdownActive = true
  · rw [MobiTimer.scheduleNow_of_refused refused]
    exact tuned
  · obtain ⟨valid, idle⟩ := Classical.not_imp.mp refused
    have sound := @MobiTimer.Sound.scheduleNow timer _ now _ tuned.sound
    rw [MobiTimer.scheduleNow_of_idle valid (Bool.eq_false_iff.mpr idle)] at sound ⊢
    refine ⟨sound, tuned.long, ?_⟩
    rintro date ⟨⟩
    have long := tuned.long
    change moment ≤ now + timer.timeInterval
    linarith

theorem Tuned.pause (tuned : Tuned interval moment timer) :
    Tuned interval moment (MobiTimer.pause timer) := by
  have sound := tuned.sound.pause
  rw [tuned.sound.pause_eq] at sound ⊢
  exact ⟨sound, tuned.long, fun _ set => nomatch set⟩

theorem Tuned.invalidate (tuned : Tuned interval moment timer) :
    Tuned interval moment timer.invalidate :=
  ⟨tuned.sound.invalidate, tuned.long, fun _ set => nomatch set⟩

/-- A one-shot timer that has fired will not fire again. -/
theorem Tuned.fired (tuned : Tuned interval moment timer) (later : ℚ) :
    Tuned interval later (timer.timerDidFire.1.afterFiring now) := by
  have spent : timer.timerDidFire.1.afterFiring now =
      { timer with isValid := false, fireDate := none, isCountdownActive := false } := by
    simp [MobiTimer.timerDidFire, MobiTimer.afterFiring, tuned.sound.repeats]
  rw [spent]
  refine ⟨⟨rfl, tuned.sound.repeats, rfl, ?_, ?_⟩, tuned.long, ?_⟩
  · intro counting
    cases counting
  · intro valid
    cases valid
  · intro date set
    cases set

theorem Tuned.sooner {earlier : ℚ} (tuned : Tuned interval moment timer) (sooner : earlier ≤ moment) :
    Tuned interval earlier timer :=
  ⟨tuned.sound, tuned.long, fun date set => sooner.trans (tuned.rests date set)⟩

end Timers

/-- The configuration asks for no shorter refresh interval. -/
def Keeps (interval : ℚ) (configuration : BannerConfig) : Prop :=
  0 < configuration.refreshInterval → interval ≤ configuration.refreshInterval

namespace AdManager

/-- Refresh timers run for at least the interval, now and later, and there is no
refresh before the moment. -/
structure Paced (interval moment : ℚ) (manager : AdManager) : Prop where
  timer : ∀ timer, manager.refreshTimer = some timer → Tuned interval moment timer
  requesting : ∀ configuration, manager.requestingConfiguration = some configuration →
    Keeps interval configuration
  remaining : ∀ configuration ∈ manager.remainingConfigurations, Keeps interval configuration
  answers : ∀ configurations,
    Block.communicator (.communicatorDidReceiveAdConfigurations configurations) ∈ manager.mainQueue →
      ∀ configuration ∈ configurations, Keeps interval configuration

/-- What the input delivers keeps the interval. -/
def Delivers (interval : ℚ) (input : ℚ × Input) : Prop :=
  ∀ task completion configurations, input.2 = .complete task completion →
    MobiAdConfigServer.message completion = .communicatorDidReceiveAdConfigurations configurations →
      ∀ configuration ∈ configurations, Keeps interval configuration

section Acts

variable {before after : AdManager} {interval moment now : ℚ}

theorem Paced.scheduleRefreshTimer (paced : Paced interval moment before)
    (bounded : interval ≤ defaultBannerRefreshInterval) (near : moment ≤ now + interval) :
    Paced interval moment (before.scheduleRefreshTimer now) := by
  have long : ∀ seconds,
      (before.requestingConfiguration.map BannerConfig.refreshInterval).getD
        defaultBannerRefreshInterval = seconds → 0 < seconds → interval ≤ seconds := by
    intro seconds same positive
    cases requesting : before.requestingConfiguration with
    | none =>
        rw [requesting] at same
        exact bounded.trans (le_of_eq same)
    | some configuration =>
        rw [requesting] at same
        have equal : configuration.refreshInterval = seconds := same
        have keeps := paced.requesting configuration requesting
        rw [Keeps, equal] at keeps
        exact keeps positive
  unfold AdManager.scheduleRefreshTimer
  simp only
  split
  · next starts =>
      have positive := of_decide_eq_true (Bool.and_eq_true_iff.mp starts).2
      refine ⟨?_, paced.requesting, paced.remaining, paced.answers⟩
      rintro timer ⟨⟩
      exact (tuned_timerWithTimeInterval (long _ rfl positive)).scheduleNow near
  · refine ⟨?_, paced.requesting, paced.remaining, paced.answers⟩
    intro timer held
    obtain ⟨old, wasHeld, rfl⟩ := Option.map_eq_some_iff.mp held
    exact (paced.timer old wasHeld).invalidate

theorem Paced.pauseRefreshTimer (paced : Paced interval moment before) :
    Paced interval moment before.pauseRefreshTimer := by
  refine ⟨?_, paced.requesting, paced.remaining, paced.answers⟩
  intro timer held
  obtain ⟨old, wasHeld, rfl⟩ := Option.map_eq_some_iff.mp held
  split
  · exact (paced.timer old wasHeld).pause
  · exact paced.timer old wasHeld

theorem Paced.resumeRefreshTimer (paced : Paced interval moment before)
    (near : moment ≤ now + interval) : Paced interval moment (before.resumeRefreshTimer now) := by
  refine ⟨?_, paced.requesting, paced.remaining, paced.answers⟩
  intro timer held
  obtain ⟨old, wasHeld, rfl⟩ := Option.map_eq_some_iff.mp held
  split
  · exact (paced.timer old wasHeld).scheduleNow near
  · exact paced.timer old wasHeld

theorem Paced.offscreen (paced : Paced interval moment before)
    (same : after.offscreen = before.offscreen) : Paced interval moment after := by
  have there : Paced interval moment after.offscreen := by
    rw [same]
    exact ⟨paced.timer, paced.requesting, paced.remaining, paced.answers⟩
  exact ⟨there.timer, there.requesting, there.remaining, there.answers⟩

theorem Paced.replace {adapter other : Adapter} (paced : Paced interval moment before)
    (replaces : Replaces adapter other before after) : Paced interval moment after := by
  cases replaces with
  | requesting held => exact ⟨paced.timer, paced.requesting, paced.remaining, paced.answers⟩
  | onscreen held => exact ⟨paced.timer, paced.requesting, paced.remaining, paced.answers⟩

/-- The next configuration is as good as the others. -/
theorem Paced.take (paced : Paced interval moment before) {next : BannerConfig}
    {rest : List BannerConfig} (remaining : before.remainingConfigurations = next :: rest) :
    Paced interval moment (before.takeConfiguration next rest) := by
  have all := paced.remaining
  rw [remaining] at all
  refine ⟨paced.timer, ?_, ?_, paced.answers⟩
  · rintro configuration ⟨⟩
    exact all next List.mem_cons_self
  · intro configuration member
    exact all configuration (List.mem_cons_of_mem next member)

theorem Paced.answered (paced : Paced interval moment before) {block : Block} {rest : List Block}
    (queue : before.mainQueue = block :: rest) :
    ∀ configurations,
      Block.communicator (.communicatorDidReceiveAdConfigurations configurations) ∈ rest →
        ∀ configuration ∈ configurations, Keeps interval configuration := by
  intro configurations member
  refine paced.answers configurations ?_
  rw [queue]
  exact List.mem_cons_of_mem block member

theorem Paced.complete (paced : Paced interval moment before) {task : Nat}
    {completion : Completion BannerConfig}
    (delivers : ∀ configurations,
      MobiAdConfigServer.message completion = .communicatorDidReceiveAdConfigurations configurations →
        ∀ configuration ∈ configurations, Keeps interval configuration) :
    Paced interval moment (before.complete task completion) := by
  refine ⟨paced.timer, paced.requesting, paced.remaining, ?_⟩
  intro configurations member
  rcases List.mem_append.mp member with queued | last
  · exact paced.answers configurations queued
  · have sent := MobiAdConfigServer.complete_snd completion before.communicator
    injection List.mem_singleton.mp last with same
    exact delivers configurations (sent.symm.trans same.symm)

theorem Paced.act {input : ℚ × Input} {careful : Bool} {outputs : List Output}
    (act : Act input careful before outputs after) (bounded : interval ≤ defaultBannerRefreshInterval)
    (delivers : Delivers interval input) (near : moment ≤ input.1 + interval)
    (paced : Paced interval moment before) : Paced interval moment after := by
  cases act with
  | note automatic asked => exact ⟨paced.timer, paced.requesting, paced.remaining, paced.answers⟩
  | scheduleRefreshTimer => exact paced.scheduleRefreshTimer bounded near
  | pauseRefreshTimer => exact paced.pauseRefreshTimer
  | resumeRefreshTimer => exact paced.resumeRefreshTimer near
  | fire held =>
      refine ⟨?_, paced.requesting, paced.remaining, paced.answers⟩
      rintro timer ⟨⟩
      exact (paced.timer _ held).fired moment
  | load asked =>
      refine ⟨paced.timer, ?_, paced.remaining, paced.answers⟩
      intro configuration held
      cases held
  | complete completes flies => exact paced.complete (delivers _ _ · completes)
  | take queue => exact ⟨paced.timer, paced.requesting, paced.remaining, paced.answered queue⟩
  | noAnswer queue =>
      refine ⟨paced.timer, ?_, List.forall_mem_nil _, paced.answered queue⟩
      intro configuration held
      cases held
  | answer queue =>
      refine ⟨paced.timer, paced.requesting, paced.answers _ ?_, paced.answered queue⟩
      rw [queue]
      exact List.mem_cons_self
  | refuse remaining warming => exact paced.take remaining
  | miss remaining warm missing idle => exact (paced.take remaining).offscreen rfl
  | make remaining warm found idle =>
      have taken := paced.take remaining
      refine ⟨taken.timer, taken.requesting, taken.remaining, ?_⟩
      intro configurations member
      rcases List.mem_append.mp member with queued | last
      · exact taken.answers configurations queued
      · cases List.mem_singleton.mp last
  | fail error => exact paced
  | configure queue held =>
      exact ⟨paced.timer, paced.requesting, paced.remaining, paced.answered queue⟩
  | ask queue held automatic =>
      exact ⟨paced.timer, paced.requesting, paced.remaining, paced.answered queue⟩
  | click first replaces => exact paced.replace replaces
  | look tracking running quiet replaces => exact paced.replace replaces
  | impression ticks tracking running logs replaces => exact paced.replace replaces
  | trackImpression itself ref configuration => exact paced
  | trackClick itself ref configuration => exact paced
  | loaded sent sends held =>
      have emptied : Paced interval moment { before with remainingConfigurations := [] } :=
        ⟨paced.timer, paced.requesting, List.forall_mem_nil _, paced.answers⟩
      exact emptied.offscreen offscreen_presentRequestingAdapter
  | reloaded held ad => exact paced.offscreen rfl
  | lock sent held => exact paced.offscreen rfl
  | unlock held => exact paced.offscreen offscreen_presentRequestingAdapter
  | leave held => exact paced
  | lose held =>
      exact paced.offscreen
        ((@offscreen_presentRequestingAdapter before.removeOnscreenAdapter.1 input.1).trans
          offscreen_removeOnscreenAdapter)

end Acts

section Runs

variable {self : AdManager} {networks : Networks} {interval moment : ℚ} {input : ℚ × Input}

theorem Paced.sooner {earlier : ℚ} (paced : Paced interval moment self) (sooner : earlier ≤ moment) :
    Paced interval earlier self :=
  ⟨fun timer held => (paced.timer timer held).sooner sooner, paced.requesting, paced.remaining,
    paced.answers⟩

theorem Paced.acts {careful : Bool} {outputs : List Output} {after : AdManager}
    (acts : Acts (Act input careful) self outputs after)
    (bounded : interval ≤ defaultBannerRefreshInterval) (delivers : Delivers interval input)
    (near : moment ≤ input.1 + interval) (paced : Paced interval moment self) :
    Paced interval moment after :=
  acts.preserves (fun _ _ _ act paced => paced.act act bounded delivers near) paced

/-- The refresh timer fires. -/
def Refreshes (interval : ℚ) (self : AdManager) (input : ℚ × Input) : Prop :=
  input.2 = .refreshTimerDidFire ∧ self.Sorted ∧ ∃ moment, Paced interval moment self

theorem waits_of_paced (paced : Paced interval moment self) (enabled : self.enabled input)
    (refreshes : Refreshes interval self input) : moment ≤ input.1 := by
  obtain ⟨now, given⟩ := input
  obtain ⟨rfl, -⟩ := refreshes
  obtain ⟨timer, held, -, date, set, passed⟩ := enabled
  exact ((paced.timer timer held).rests date set).trans passed

/-- After it has fired, the timer must be made anew. -/
theorem paced_of_refreshes (bounded : interval ≤ defaultBannerRefreshInterval)
    (refreshes : Refreshes interval self input) :
    Paced interval (input.1 + interval) ((machine networks).next self input) := by
  obtain ⟨now, given⟩ := input
  obtain ⟨rfl, -, moment, paced⟩ := refreshes
  change Paced interval (now + interval) (self.refreshTimerDidFire now).1
  unfold AdManager.refreshTimerDidFire
  cases held : self.refreshTimer with
  | none =>
      refine ⟨?_, paced.requesting, paced.remaining, paced.answers⟩
      intro timer other
      rw [held] at other
      cases other
  | some timer =>
      have fired : Paced interval (now + interval)
          { self with refreshTimer := some (timer.timerDidFire.1.afterFiring now) } := by
        refine ⟨?_, paced.requesting, paced.remaining, paced.answers⟩
        rintro other ⟨⟩
        exact (paced.timer timer held).fired _
      simp only
      split
      · exact fired.acts (@does_loadAdWithTargeting _ (now, .loadAd) false) bounded nofun (le_refl _)
      · exact fired

theorem paced_next (bounded : interval ≤ defaultBannerRefreshInterval)
    (known : self.Sorted ∧ Paced interval moment self) (enabled : self.enabled input)
    (delivers : Delivers interval input) (near : moment ≤ input.1 + interval) :
    ((machine networks).next self input).Sorted ∧
      Paced interval moment ((machine networks).next self input) :=
  ⟨sorted_next known.1 enabled,
    known.2.acts (@acts_step self networks false known.1.1 input enabled nofun) bounded delivers near⟩

theorem paced_after {adUnitId : String} {inputs : List (ℚ × Input)}
    (bounded : interval ≤ defaultBannerRefreshInterval)
    (runs : (machine networks).Runs (initWithAdUnitId adUnitId) inputs)
    (delivers : ∀ input ∈ inputs, Delivers interval input) :
    (machine networks).Always (fun self => self.Sorted ∧ ∃ moment, Paced interval moment self)
      (initWithAdUnitId adUnitId) inputs := by
  refine @Machine.always_of_invariant _ _ _ (machine networks) _ (fun _ input => Delivers interval input)
    ?_ _ ⟨sorted_initWithAdUnitId adUnitId, 0, ?_⟩ inputs runs (Machine.along_of_forall_mem delivers)
  · rintro self input ⟨sorted, moment, paced⟩ enabled delivers
    have sooner : Paced interval (min moment (input.1 + interval)) self := paced.sooner (min_le_left _ _)
    have kept := @paced_next self networks _ _ input bounded ⟨sorted, sooner⟩ enabled delivers
      (min_le_right _ _)
    exact ⟨kept.1, _, kept.2⟩
  · refine ⟨?_, ?_, List.forall_mem_nil _, ?_⟩
    · intro timer held
      cases held
    · intro configuration held
      cases held
    · intro configurations member
      cases member

/-- Two firings of the refresh timer are as far apart as the shortest interval that
any configuration asks for, and at most a minute of that can be counted on.
Pausing and resuming the timer never brings them closer. -/
theorem refreshes_apart {adUnitId : String} {clock : ℚ} {first second : ℚ × Input}
    {before middle later : List (ℚ × Input)}
    (bounded : interval ≤ defaultBannerRefreshInterval)
    (runs : (machine networks).clocked.Runs (initWithAdUnitId adUnitId, clock)
      (before ++ first :: (middle ++ second :: later)))
    (delivers : ∀ input ∈ before ++ first :: (middle ++ second :: later), Delivers interval input)
    (fires : first.2 = .refreshTimerDidFire) (firesAgain : second.2 = .refreshTimerDidFire) :
    first.1 + interval ≤ second.1 := by
  have known := paced_after bounded (Machine.runs_of_clocked runs) delivers
  have early := known before _ rfl
  have late := known (before ++ first :: middle) (second :: later) (by simp)
  rw [Machine.after_append] at late
  refine @Machine.apart_of_quiet _ _ _ _ (machine networks) _ _ _
    (fun _ input => Delivers interval input) (Refreshes interval)
    (fun moment self => self.Sorted ∧ Paced interval moment self) interval ?_ ?_ ?_
    (initWithAdUnitId adUnitId, clock) first second before middle later runs
    (Machine.along_of_forall_mem delivers) ⟨fires, early⟩ ⟨firesAgain, late⟩
  · intro moment self input quiet enabled refreshes
    exact waits_of_paced quiet.2 enabled refreshes
  · intro self input enabled refreshes
    exact ⟨sorted_next refreshes.2.1 enabled, paced_of_refreshes bounded refreshes⟩
  · intro moment self input quiet enabled delivers near
    exact paced_next bounded quiet enabled delivers near

end Runs

/-- The server fails twice, and the banner is refreshed a minute after each time. -/
def twoRefreshes : List (ℚ × Input) × List (ℚ × Input) :=
  ([(0, .loadAd), (1, .complete 0 (.failed noInventory)), (1, .runBlock)],
    [(62, .complete 1 (.failed noInventory)), (62, .runBlock)])

theorem twoRefreshes_runs : (machine gdtOnly).clocked.Runs (initWithAdUnitId "banner", 0)
    (twoRefreshes.1 ++ (61, .refreshTimerDidFire) ::
      (twoRefreshes.2 ++ [(130, .refreshTimerDidFire)])) := by
  have early : (1 : ℚ) + defaultBannerRefreshInterval ≤ 61 := by norm_num [defaultBannerRefreshInterval]
  have late : (62 : ℚ) + defaultBannerRefreshInterval ≤ 130 := by norm_num [defaultBannerRefreshInterval]
  refine ⟨⟨le_refl 0, trivial⟩, ⟨zero_le_one, List.mem_cons_self⟩, ⟨le_refl 1, List.cons_ne_nil _ _⟩,
    ⟨?_, _, rfl, rfl, _, rfl, early⟩, ⟨?_, List.mem_cons_self⟩, ⟨le_refl 62, List.cons_ne_nil _ _⟩,
    ⟨?_, _, rfl, rfl, _, rfl, late⟩, trivial⟩
  · exact (by norm_num : (1 : ℚ) ≤ 61)
  · exact (by norm_num : (61 : ℚ) ≤ 62)
  · exact (by norm_num : (62 : ℚ) ≤ 130)

theorem twoRefreshes_apart : (61 : ℚ) + defaultBannerRefreshInterval ≤ 130 := by
  refine refreshes_apart (le_refl _) twoRefreshes_runs ?_ rfl rfl
  intro input member task completion configurations given sent
  simp [twoRefreshes] at member
  rcases member with rfl | rfl | rfl | rfl | rfl | rfl | rfl
  all_goals cases given
  all_goals cases sent

end AdManager

end GDTAdapter.BannerHost
