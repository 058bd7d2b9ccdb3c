import GDTAdapter.BannerHost.Acts

namespace GDTAdapter.BannerHost

open Reactive Timers

/-! # The adapter on screen and the requesting one -/

def Adapter.Shows (adapter : Adapter) (ad : UIView) : Prop := adapter.adView = some ad

theorem Adapter.ref_didDisplayAd (now : ℚ) (adapter : Adapter) :
    (adapter.didDisplayAd now).ref = adapter.ref := by
  unfold didDisplayAd
  split <;> rfl

theorem Adapter.hasTrackedClick_didDisplayAd (now : ℚ) (adapter : Adapter) :
    (adapter.didDisplayAd now).hasTrackedClick = adapter.hasTrackedClick := by
  unfold didDisplayAd
  split <;> rfl

namespace AdManager

/-- Adapters are numbered as they are made. -/
abbrev Numbered (self : AdManager) : Prop := self.view.Below Adapter.ref self.fresh

abbrev Paired (self : AdManager) : Prop := self.view.Paired Adapter.Shows

/-- What acts at the moment can do to the two adapters. -/
abbrev Moves (now : ℚ) (careful : Bool) (before after : AdManager) : Prop :=
  DoubleBuffer.Steps Adapter.ref Adapter.Shows (Adapter.didDisplayAd now) careful before.view after.view

section Frames

variable {self : AdManager} {now : ℚ}

/-- Everything but the refresh timer. -/
def untimed (self : AdManager) : AdManager := { self with refreshTimer := none }

theorem untimed_scheduleRefreshTimer : (self.scheduleRefreshTimer now).untimed = self.untimed := by
  simp only [scheduleRefreshTimer]
  split <;> rfl

@[simp] theorem view_scheduleRefreshTimer : (self.scheduleRefreshTimer now).view = self.view := by
  have same := congrArg view (@untimed_scheduleRefreshTimer self now)
  exact same

@[simp] theorem fresh_scheduleRefreshTimer : (self.scheduleRefreshTimer now).fresh = self.fresh := by
  have same := congrArg fresh (@untimed_scheduleRefreshTimer self now)
  exact same

/-- Everything but the adapters and the screen. -/
def offscreen (self : AdManager) : AdManager :=
  { self with
      onscreenAdapter := none
      requestingAdapter := none
      requestingAdapterAdContentView := none
      adActionInProgress := false
      adContentView := none
      userInteractionEnabled := false }

theorem offscreen_presentRequestingAdapter :
    (self.presentRequestingAdapter now).1.offscreen = self.offscreen := by
  unfold presentRequestingAdapter
  cases self.requestingAdapterAdContentView with
  | none => rfl
  | some ad => cases self.adActionInProgress <;> rfl

theorem offscreen_removeOnscreenAdapter : self.removeOnscreenAdapter.1.offscreen = self.offscreen := by
  cases locked : self.adActionInProgress <;>
    simp [removeOnscreenAdapter, finishAction, tell, setAdContentView, offscreen, locked]

theorem eq_of_mem_loadAdWithURL {output : Output} (member : output ∈ self.loadAdWithURL.2) :
    (∃ task, output = .cancel task) ∨ ∃ task, output = .start task := by
  rcases List.mem_append.mp member with cancels | starts
  · obtain ⟨task, -, same⟩ := List.mem_map.mp cancels
    exact .inl ⟨task, same.symm⟩
  · exact .inr ⟨self.fresh, List.mem_singleton.mp starts⟩

/-- Nothing is presented, or the requesting adapter. -/
theorem presentRequestingAdapter_cases :
    self.presentRequestingAdapter now = (self, []) ∨
      ∃ ad, (self.presentRequestingAdapter now).2 = [.manager (.managerDidLoadAd ad)] ∧
        (self.presentRequestingAdapter now).1.requestingAdapter = none ∧
        (self.presentRequestingAdapter now).1.onscreenAdapter =
          self.requestingAdapter.map (Adapter.didDisplayAd now) := by
  unfold presentRequestingAdapter
  cases self.requestingAdapterAdContentView with
  | none => exact .inl rfl
  | some ad =>
      cases self.adActionInProgress with
      | true => exact .inl rfl
      | false => exact .inr ⟨ad, rfl, rfl, rfl⟩

theorem eq_of_mem_presentRequestingAdapter {output : Output}
    (member : output ∈ (self.presentRequestingAdapter now).2) :
    ∃ message, output = .manager message := by
  rcases @presentRequestingAdapter_cases self now with same | ⟨ad, sends, -⟩
  · rw [same] at member
    cases member
  · rw [sends] at member
    exact ⟨_, List.mem_singleton.mp member⟩

theorem eq_of_mem_removeOnscreenAdapter {output : Output}
    (member : output ∈ self.removeOnscreenAdapter.2) : ∃ message, output = .manager message := by
  cases locked : self.adActionInProgress with
  | true =>
      simp [removeOnscreenAdapter, finishAction, tell, setAdContentView, locked] at member
      rcases member with same | same
      · exact ⟨_, same⟩
      · exact ⟨_, same⟩
  | false =>
      simp [removeOnscreenAdapter, finishAction, tell, setAdContentView, locked] at member
      exact ⟨_, member⟩

theorem eq_of_mem_unlock {output : Output}
    (member : output ∈ .manager .userActionDidFinish :: (self.presentRequestingAdapter now).2) :
    ∃ message, output = .manager message := by
  rcases List.mem_cons.mp member with same | member
  · exact ⟨_, same⟩
  · exact eq_of_mem_presentRequestingAdapter member

theorem eq_of_mem_lose {output : Output}
    (member : output ∈ self.removeOnscreenAdapter.2 ++
      (self.removeOnscreenAdapter.1.presentRequestingAdapter now).2) :
    ∃ message, output = .manager message := by
  rcases List.mem_append.mp member with member | member
  · exact eq_of_mem_removeOnscreenAdapter member
  · exact eq_of_mem_presentRequestingAdapter member

theorem view_presentRequestingAdapter :
    (self.presentRequestingAdapter now).1.view = self.view.swap (Adapter.didDisplayAd now) := by
  unfold presentRequestingAdapter
  cases ready : self.requestingAdapterAdContentView with
  | none => exact (DoubleBuffer.swap_of_idle ready).symm
  | some ad =>
      cases locked : self.adActionInProgress with
      | true => exact (DoubleBuffer.swap_of_locked locked).symm
      | false =>
          rw [DoubleBuffer.swap_of_ready ready locked]
          simp [view, tell, setAdContentView, locked]

@[simp] theorem fresh_presentRequestingAdapter :
    (self.presentRequestingAdapter now).1.fresh = self.fresh := by
  have same := congrArg fresh (@offscreen_presentRequestingAdapter self now)
  exact same

@[simp] theorem mainQueue_presentRequestingAdapter :
    (self.presentRequestingAdapter now).1.mainQueue = self.mainQueue := by
  have same := congrArg mainQueue (@offscreen_presentRequestingAdapter self now)
  exact same

@[simp] theorem remainingConfigurations_presentRequestingAdapter :
    (self.presentRequestingAdapter now).1.remainingConfigurations = self.remainingConfigurations := by
  have same := congrArg remainingConfigurations (@offscreen_presentRequestingAdapter self now)
  exact same

theorem view_removeOnscreenAdapter :
    self.removeOnscreenAdapter.1.view =
      { self.view with front := none, shown := none, locked := false } := by
  cases locked : self.adActionInProgress <;>
    simp [removeOnscreenAdapter, finishAction, tell, setAdContentView, view, locked]

theorem fresh_removeOnscreenAdapter : self.removeOnscreenAdapter.1.fresh = self.fresh := by
  have same := congrArg fresh (@offscreen_removeOnscreenAdapter self)
  exact same

end Frames

/-- What an act has done to the adapters, and that they are numbered after it. -/
structure Advance (now : ℚ) (careful : Bool) (before after : AdManager) : Prop where
  moves : Moves now careful before after
  numbered : after.Numbered
  later : before.fresh ≤ after.fresh

section Advances

variable {before middle after : AdManager} {now : ℚ} {careful : Bool} {adapter other : Adapter}

theorem Advance.of_view (numbered : before.Numbered) (sameView : after.view = before.view)
    (sameFresh : after.fresh = before.fresh) : Advance now careful before after := by
  refine ⟨?_, ?_, Nat.le_of_eq sameFresh.symm⟩
  · unfold Moves
    rw [sameView]
  · unfold Numbered
    rw [sameView, sameFresh]
    exact numbered

/-- Another adapter behind, or none. -/
theorem Advance.renew {behind : Option Adapter}
    (idle : careful = true → before.requestingAdapterAdContentView = none)
    (sameView : after.view = { before.view with back := behind }) (later : before.fresh ≤ after.fresh)
    (fresh : ∀ back, behind = some back → before.fresh ≤ back.ref ∧ back.ref < after.fresh)
    (numbered : before.Numbered) : Advance now careful before after := by
  refine ⟨.single ?_, ?_, later⟩
  · rw [sameView]
    refine .renew idle behind ?_
    intro front back inFront isBehind
    exact Nat.ne_of_lt (Nat.lt_of_lt_of_le (numbered.front front inFront) (fresh back isBehind).1)
  · unfold Numbered
    rw [sameView]
    refine ⟨?_, ?_⟩
    · intro front held
      exact Nat.lt_of_lt_of_le (numbered.front front held) later
    · intro back held
      exact (fresh back held).2

/-- The requesting adapter is rewritten, and keeps its number and the view it has loaded. -/
theorem Advance.reviseRequesting (held : before.requestingAdapter = some adapter)
    (sameView : after.view = { before.view with back := some other }) (later : before.fresh ≤ after.fresh)
    (named : other.ref = adapter.ref) (kept : other.adView = adapter.adView)
    (numbered : before.Numbered) : Advance now careful before after := by
  refine ⟨.single ?_, ?_, later⟩
  · rw [sameView]
    refine .reviseBack held named ?_
    intro ad shows
    exact kept.trans shows
  · unfold Numbered
    rw [sameView]
    refine ⟨?_, ?_⟩
    · intro front isFront
      exact Nat.lt_of_lt_of_le (numbered.front front isFront) later
    · intro back isBehind
      cases isBehind
      rw [named]
      exact Nat.lt_of_lt_of_le (numbered.back adapter held) later

/-- So is the one on screen, which may also load another view. -/
theorem Advance.reviseOnscreen (held : before.onscreenAdapter = some adapter)
    (named : other.ref = adapter.ref) (numbered : before.Numbered) :
    Advance now careful before { before with onscreenAdapter := some other } := by
  refine ⟨.single (.reviseFront held named), ⟨?_, numbered.back⟩, Nat.le_refl _⟩
  intro front isFront
  cases isFront
  rw [named]
  exact numbered.front adapter held

theorem Advance.replace (replaces : Replaces adapter other before after)
    (named : other.ref = adapter.ref) (kept : other.adView = adapter.adView)
    (numbered : before.Numbered) : Advance now careful before after := by
  cases replaces with
  | requesting held => exact .reviseRequesting held rfl (Nat.le_refl _) named kept numbered
  | onscreen held => exact .reviseOnscreen held named numbered

theorem Advance.load (numbered : before.Numbered) : Advance now careful before before.loadAdWithURL.1 := by
  have cleared : before.loadAdWithURL.1.view = before.view.clear := rfl
  refine ⟨.single ?_, ?_, Nat.le_succ before.fresh⟩
  · rw [cleared]
    exact .clear
  · unfold Numbered
    rw [cleared]
    refine ⟨?_, ?_⟩
    · intro front held
      exact Nat.lt_succ_of_lt (numbered.front front held)
    · intro back held
      cases held

theorem Advance.present (numbered : middle.Numbered) (sameFresh : middle.fresh = before.fresh)
    (step : DoubleBuffer.Step Adapter.ref Adapter.Shows (Adapter.didDisplayAd now) careful before.view
      (middle.view.swap (Adapter.didDisplayAd now))) :
    Advance now careful before (middle.presentRequestingAdapter now).1 := by
  refine ⟨.single ?_, ?_, ?_⟩
  · rw [view_presentRequestingAdapter]
    exact step
  · unfold Numbered
    rw [view_presentRequestingAdapter, fresh_presentRequestingAdapter]
    exact numbered.swap fun adapter => Adapter.ref_didDisplayAd now adapter
  · rw [fresh_presentRequestingAdapter, sameFresh]

theorem Advance.loaded (held : before.requestingAdapter = some adapter) (ad : UIView)
    (numbered : before.Numbered) :
    Advance now careful before
      ({ before with
          requestingAdapter := some { adapter with adView := some ad }
          remainingConfigurations := []
          requestingAdapterAdContentView := some ad }.presentRequestingAdapter now).1 := by
  have step := @DoubleBuffer.Step.load _ _ Adapter.ref Adapter.Shows (Adapter.didDisplayAd now) careful
    before.view adapter held { adapter with adView := some ad } ad rfl rfl
  refine .present ⟨numbered.front, ?_⟩ rfl step
  intro back isBehind
  cases isBehind
  exact numbered.back adapter held

theorem Advance.lose (numbered : before.Numbered) :
    Advance now careful before (before.removeOnscreenAdapter.1.presentRequestingAdapter now).1 := by
  refine .present ?_ fresh_removeOnscreenAdapter ?_
  · unfold Numbered
    rw [view_removeOnscreenAdapter, fresh_removeOnscreenAdapter]
    refine ⟨?_, numbered.back⟩
    intro front held
    cases held
  · rw [view_removeOnscreenAdapter]
    exact .lose

theorem Advance.of_act {input : ℚ × Input} {outputs : List Output} (act : Act input careful before outputs after)
    (numbered : before.Numbered) : Advance input.1 careful before after := by
  cases act with
  | note automatic asked => exact .of_view numbered rfl rfl
  | scheduleRefreshTimer =>
      exact .of_view numbered view_scheduleRefreshTimer fresh_scheduleRefreshTimer
  | pauseRefreshTimer => exact .of_view numbered rfl rfl
  | resumeRefreshTimer => exact .of_view numbered rfl rfl
  | fire held => exact .of_view numbered rfl rfl
  | load asked => exact .load numbered
  | complete completes flies => exact .of_view numbered rfl rfl
  | take queue => exact .of_view numbered rfl rfl
  | noAnswer queue => exact .of_view numbered rfl rfl
  | answer queue => exact .of_view numbered rfl rfl
  | refuse remaining warming => exact .of_view numbered rfl rfl
  | miss remaining warm missing idle =>
      refine .renew idle rfl (Nat.le_refl _) ?_ numbered
      intro back made
      cases made
  | make remaining warm found idle =>
      refine .renew idle rfl (Nat.le_succ _) ?_ numbered
      intro back made
      cases made
      exact ⟨Nat.le_refl _, Nat.lt_succ_self _⟩
  | fail error => exact .of_view numbered rfl rfl
  | configure queue held =>
      exact .reviseRequesting held rfl (Nat.le_refl _) rfl rfl numbered
  | ask queue held automatic =>
      exact .reviseRequesting held rfl (Nat.le_succ _) rfl rfl numbered
  | click first replaces => exact .replace replaces rfl rfl numbered
  | trackImpression itself ref configuration => exact .of_view numbered rfl rfl
  | trackClick itself ref configuration => exact .of_view numbered rfl rfl
  | look tracking running quiet replaces => exact .replace replaces rfl rfl numbered
  | impression ticks tracking running logs replaces => exact .replace replaces rfl rfl numbered
  | loaded sent sends held => exact .loaded held _ numbered
  | reloaded held ad => exact .reviseOnscreen held rfl numbered
  | lock sent held =>
      exact ⟨.single (.lock held), ⟨numbered.front, numbered.back⟩, Nat.le_refl before.fresh⟩
  | unlock held => exact .present ⟨numbered.front, numbered.back⟩ rfl .unlock
  | leave held => exact .of_view numbered rfl rfl
  | lose held => exact .lose numbered

end Advances

section Runs

variable {networks : Networks} {adUnitId : String} {inputs : List (ℚ × Input)}

/-- Neither adapter is in both places, and their numbers are in order. -/
def Sorted (self : AdManager) : Prop := self.Sound ∧ self.Numbered

theorem sorted_initWithAdUnitId (adUnitId : String) : (initWithAdUnitId adUnitId).Sorted := by
  refine ⟨⟨?_, ?_, ?_⟩, ?_, ?_⟩
  · intro front back held
    cases held
  · intro locked
    cases locked
  · intro waiting
    cases waiting
  · intro front held
    cases held
  · intro back held
    cases held

theorem sorted_act {before after : AdManager} {input : ℚ × Input} {careful : Bool}
    {outputs : List Output} (act : Act input careful before outputs after) (sorted : before.Sorted) :
    after.Sorted := by
  have advance := Advance.of_act act sorted.2
  exact ⟨sorted.1.steps advance.moves, advance.numbered⟩

theorem sorted_next {self : AdManager} {input : ℚ × Input} (sorted : self.Sorted)
    (enabled : self.enabled input) : ((machine networks).next self input).Sorted :=
  (@acts_step self networks false sorted.1 input enabled nofun).preserves
    (fun _ _ _ act sorted => sorted_act act sorted) sorted

/-- All steps are acts. -/
theorem apart (networks : Networks) :
    (machine networks).Apart (fun input => Act input false) Sorted where
  preserved _ _ sorted enabled := sorted_next sorted enabled
  acts _ _ sorted enabled := acts_step sorted.1 enabled nofun

/-- The adapter on screen and the requesting one are never the same, a view waits
only while the user is in a modal of the ad on screen, and there is no such modal
without an ad on screen. -/
theorem slots_sound (runs : (machine networks).Runs (initWithAdUnitId adUnitId) inputs) :
    (machine networks).Always Sound (initWithAdUnitId adUnitId) inputs := by
  have always := @Machine.always_of_invariant _ _ _ (machine networks) Sorted (fun _ _ => True)
    (fun _ _ sorted enabled _ => sorted_next sorted enabled) _ (sorted_initWithAdUnitId adUnitId)
    inputs runs (Machine.along_true _ inputs)
  exact always.mono fun _ sorted => sorted.1

end Runs

/-- Only the GDT banner is linked in. -/
def gdtOnly : Networks
  | .banner => some true
  | _ => none

def gdtBanner : BannerConfig where
  adType := .banner
  customEventClass := some .banner
  adTimeoutInterval := 10
  info := {}
  refreshInterval := 10
  impressionMinVisibleTimeInSec := 0
  impressionMinVisiblePixels := 0

def answered (configurations : List BannerConfig) : Completion BannerConfig :=
  .data (.ok { code := some 0, ads := configurations })

def inFullView : Sight where
  width := 320
  height := 50
  hidden := false
  superviews := [{ hidden := false, isWindow := true }]
  intersectsWindow := true
  intersectionArea := 16000
  isActive := true

/-- The first configuration has no class, the class of the second one is not linked
in, and the ad of the third one is put on screen and seen. -/
def oneShown : List (ℚ × Input) :=
  [(0, .loadAd),
    (1, .complete 0 (answered [{ gdtBanner with customEventClass := none },
      { gdtBanner with customEventClass := some .feed }, gdtBanner])),
    (1, .runBlock), (1, .runBlock), (1, .runBlock), (2, .message 3 (.didLoadAd (some 7))),
    (3, .tick 2 inFullView), (4, .tick 2 inFullView)]

/-- The user is in a modal of the ad when the next one is asked for.  Its first
network fails, the ad of the second one waits. -/
def anotherWaits : List (ℚ × Input) :=
  [(5, .message 3 .willBeginAction), (6, .loadAd), (7, .complete 4 (answered [gdtBanner, gdtBanner])),
    (7, .runBlock), (7, .runBlock), (8, .message 6 (.didFailToLoadAdWithError none)),
    (8, .runBlock), (9, .message 8 (.didLoadAd (some 9)))]

/-- The ad on screen is lost to the one that waits, which is seen and clicked. -/
def oneLost : List (ℚ × Input) :=
  [(10, .message 3 (.didFailToLoadAdWithError none)), (11, .tick 7 inFullView),
    (12, .tick 7 inFullView), (13, .message 8 .willLeaveApplication)]

def twoAds : List (ℚ × Input) := oneShown ++ anotherWaits ++ oneLost

theorem twoAds_runs : (machine gdtOnly).Runs (initWithAdUnitId "banner") twoAds := by
  decide +kernel

/-- Before the first ad is lost. -/
def midway : AdManager :=
  (machine gdtOnly).after (initWithAdUnitId "banner") (oneShown ++ anotherWaits)

theorem twoAds_slots :
    (machine gdtOnly).Always Sound (initWithAdUnitId "banner") twoAds ∧
      midway.onscreenAdapter.isSome ∧ midway.requestingAdapter.isSome ∧ midway.adActionInProgress ∧
      midway.requestingAdapterAdContentView = some 9 :=
  ⟨slots_sound twoAds_runs, by decide +kernel⟩

end AdManager

end GDTAdapter.BannerHost
