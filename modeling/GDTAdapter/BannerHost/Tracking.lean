import GDTAdapter.BannerHost.Slots
import GDTAdapter.Reactive.History

namespace GDTAdapter.BannerHost

open Reactive Timers

/-! # What the tracker is sent

Of each adapter one impression is tracked, when it is on screen, and one click.  A
network may track more than that by itself.
-/

theorem viewVisibilityTimer_of_logs {now : ℚ} {sight : Sight} {timer : MPAdImpressionTimer}
    (logs : (timer.step (now, .tick sight)).2 ≠ []) :
    (timer.step (now, .tick sight)).1.viewVisibilityTimer = none := by
  revert logs
  simp only [MPAdImpressionTimer.step, MPAdImpressionTimer.tick]
  split
  · intro logs
    exact absurd rfl logs
  · split
    · intro logs
      exact absurd rfl logs
    · split
      · split
        · intro logs
          exact absurd rfl logs
        · split
          · intro _
            rfl
          · intro logs
            exact absurd rfl logs
      · intro logs
        exact absurd rfl logs

inductive Track where
  | impression
  | click
deriving DecidableEq, Repr

namespace Track

/-- The adapter of which something is tracked. -/
def of? : Track → Output → Option Nat
  | .impression, .trackImpression adapter _ => some adapter
  | .click, .trackClick adapter _ => some adapter
  | _, _ => none

def isOf (track : Track) (ref : Nat) (output : Output) : Bool := track.of? output == some ref

/-- It is still to come. -/
def isAwaited (adapter : Adapter) : Track → Bool
  | .impression => adapter.impressionTimer.all fun timer => timer.viewVisibilityTimer.isSome
  | .click => !adapter.hasTrackedClick

end Track

/-- Nothing is awaited anew of an adapter that is held. -/
structure Adapter.Stems (other adapter : Adapter) : Prop where
  ref : adapter.ref = other.ref
  awaited : ∀ track : Track, track.isAwaited adapter = true → track.isAwaited other = true

theorem Adapter.Stems.same {other adapter : Adapter} (ref : adapter.ref = other.ref)
    (timer : adapter.impressionTimer = other.impressionTimer)
    (tracked : adapter.hasTrackedClick = other.hasTrackedClick) : Stems other adapter := by
  refine ⟨ref, ?_⟩
  intro track awaited
  cases track with
  | impression => rwa [Track.isAwaited, ← timer]
  | click => rwa [Track.isAwaited, ← tracked]

theorem Adapter.Stems.trans {origin other adapter : Adapter} (first : Stems origin other)
    (second : Stems other adapter) : Stems origin adapter := by
  refine ⟨second.ref.trans first.ref, ?_⟩
  intro track awaited
  exact first.awaited track (second.awaited track awaited)

theorem Adapter.Stems.didDisplayAd (now : ℚ) {adapter : Adapter}
    (undisplayed : adapter.impressionTimer = none) : Stems adapter (adapter.didDisplayAd now) := by
  refine ⟨Adapter.ref_didDisplayAd now adapter, ?_⟩
  intro track awaited
  cases track with
  | impression => rw [Track.isAwaited, undisplayed, Option.all_none]
  | click => rwa [Track.isAwaited, Adapter.hasTrackedClick_didDisplayAd] at awaited

namespace AdManager

/-- The requesting adapter has not been displayed. -/
def Undisplayed (self : AdManager) : Prop :=
  ∀ adapter, self.requestingAdapter = some adapter → adapter.impressionTimer = none

/-- It is still to come of the adapter with this number, which is not made yet or is
held. -/
def Ahead (track : Track) (ref : Nat) (self : AdManager) : Prop :=
  self.fresh ≤ ref ∨ ∃ adapter ∈ self.adapters, adapter.ref = ref ∧ track.isAwaited adapter = true

section Acts

variable {before after : AdManager} {history outputs : List Output} {input : ℚ × Input}
variable {careful : Bool} {track : Track} {ref : Nat} {adapter other : Adapter}

/-- The adapters after an act are those before it, or new. -/
structure Inherits (before after : AdManager) : Prop where
  undisplayed : after.Undisplayed
  adapters : ∀ adapter ∈ after.adapters, before.fresh ≤ adapter.ref ∨
    ∃ other ∈ before.adapters, Adapter.Stems other adapter

/-- An adapter has changed behind. -/
theorem inherits_behind (undisplayed : before.Undisplayed)
    (front : after.onscreenAdapter = before.onscreenAdapter)
    (behind : ∀ adapter, after.requestingAdapter = some adapter →
      before.fresh ≤ adapter.ref ∧ adapter.impressionTimer = none ∨
      ∃ other, before.requestingAdapter = some other ∧ Adapter.Stems other adapter ∧
        adapter.impressionTimer = other.impressionTimer) : Inherits before after := by
  refine ⟨?_, ?_⟩
  · intro adapter held
    rcases behind adapter held with ⟨-, none⟩ | ⟨other, isBehind, -, same⟩
    · exact none
    · exact same.trans (undisplayed other isBehind)
  · intro adapter member
    rcases held_of_mem member with held | held
    · rcases behind adapter held with ⟨made, -⟩ | ⟨other, isBehind, stems, -⟩
      · exact .inl made
      · exact .inr ⟨other, mem_of_held (.inl isBehind), stems⟩
    · exact .inr ⟨adapter, mem_of_held (.inr (front ▸ held)), .same rfl rfl rfl⟩

theorem inherits_view (undisplayed : before.Undisplayed)
    (front : after.onscreenAdapter = before.onscreenAdapter)
    (back : after.requestingAdapter = before.requestingAdapter) : Inherits before after := by
  refine inherits_behind undisplayed front ?_
  intro adapter held
  exact .inr ⟨adapter, back ▸ held, .same rfl rfl rfl, rfl⟩

/-- The requesting adapter has been rewritten, but for what is tracked of it. -/
theorem inherits_revised (undisplayed : before.Undisplayed)
    (front : after.onscreenAdapter = before.onscreenAdapter)
    (held : before.requestingAdapter = some adapter) (isBehind : after.requestingAdapter = some other)
    (ref : other.ref = adapter.ref) (timer : other.impressionTimer = adapter.impressionTimer)
    (tracked : other.hasTrackedClick = adapter.hasTrackedClick) : Inherits before after := by
  refine inherits_behind undisplayed front ?_
  intro back same
  rw [isBehind] at same
  cases same
  exact .inr ⟨adapter, held, .same ref timer tracked, timer⟩

theorem inherits_onscreen (undisplayed : before.Undisplayed)
    (held : before.onscreenAdapter = some adapter) (stems : Adapter.Stems adapter other) :
    Inherits before { before with onscreenAdapter := some other } := by
  refine ⟨undisplayed, ?_⟩
  intro front member
  rcases held_of_mem member with behind | isFront
  · exact .inr ⟨front, mem_of_held (.inl behind), .same rfl rfl rfl⟩
  · cases isFront
    exact .inr ⟨adapter, mem_of_held (.inr held), stems⟩

theorem inherits_present {now : ℚ} (undisplayed : before.Undisplayed) :
    Inherits before (before.presentRequestingAdapter now).1 := by
  rcases @presentRequestingAdapter_cases before now with same | ⟨ad, -, behind, onscreen⟩
  · rw [same]
    exact inherits_view undisplayed rfl rfl
  · refine ⟨?_, ?_⟩
    · intro adapter held
      rw [behind] at held
      cases held
    · intro adapter member
      rcases held_of_mem member with held | held
      · rw [behind] at held
        cases held
      · rw [onscreen] at held
        obtain ⟨back, isBehind, rfl⟩ := Option.map_eq_some_iff.mp held
        exact .inr ⟨back, mem_of_held (.inl isBehind), .didDisplayAd now (undisplayed back isBehind)⟩

theorem Inherits.trans {middle : AdManager} (first : Inherits before middle)
    (second : Inherits middle after) (later : before.fresh ≤ middle.fresh) : Inherits before after := by
  refine ⟨second.undisplayed, ?_⟩
  intro adapter member
  rcases second.adapters adapter member with made | ⟨other, held, stems⟩
  · exact .inl (later.trans made)
  · rcases first.adapters other held with made | ⟨origin, isHeld, origins⟩
    · exact .inl (stems.ref ▸ made)
    · exact .inr ⟨origin, isHeld, origins.trans stems⟩

/-- A timer that runs belongs to the adapter on screen. -/
theorem inherits_ticked {timer : MPAdImpressionTimer} (ticked : MPAdImpressionTimer)
    (undisplayed : before.Undisplayed) (tracking : adapter.impressionTimer = some timer)
    (running : timer.viewVisibilityTimer.isSome = true)
    (replaces : Replaces adapter { adapter with impressionTimer := some ticked } before after) :
    Inherits before after := by
  cases replaces with
  | requesting held =>
      rw [undisplayed adapter held] at tracking
      cases tracking
  | onscreen held =>
      refine inherits_onscreen undisplayed held ⟨rfl, ?_⟩
      intro track awaited
      cases track with
      | impression => rwa [Track.isAwaited, tracking, Option.all_some]
      | click => exact awaited

theorem inherits_clicked (undisplayed : before.Undisplayed)
    (replaces : Replaces adapter { adapter with hasTrackedClick := true } before after) :
    Inherits before after := by
  have stems : Adapter.Stems adapter { adapter with hasTrackedClick := true } := by
    refine ⟨rfl, ?_⟩
    intro track awaited
    cases track with
    | impression => exact awaited
    | click => cases awaited
  cases replaces with
  | requesting held =>
      refine inherits_behind undisplayed rfl ?_
      rintro back ⟨⟩
      exact .inr ⟨adapter, held, stems, rfl⟩
  | onscreen held => exact inherits_onscreen undisplayed held stems

theorem inherits_act (act : Act input careful before outputs after) (undisplayed : before.Undisplayed) :
    Inherits before after := by
  have same := @inherits_view before after undisplayed
  have emptied (front : after.onscreenAdapter = before.onscreenAdapter)
      (back : after.requestingAdapter = none) : Inherits before after := by
    refine inherits_behind undisplayed front ?_
    intro adapter held
    rw [back] at held
    cases held
  cases act with
  | note automatic asked => exact same rfl rfl
  | scheduleRefreshTimer =>
      have view := @view_scheduleRefreshTimer before input.1
      exact same (congrArg DoubleBuffer.front view) (congrArg DoubleBuffer.back view)
  | pauseRefreshTimer => exact same rfl rfl
  | resumeRefreshTimer => exact same rfl rfl
  | fire held => exact same rfl rfl
  | load asked => exact emptied rfl rfl
  | complete completes flies => exact same rfl rfl
  | take queue => exact same rfl rfl
  | noAnswer queue => exact same rfl rfl
  | answer queue => exact same rfl rfl
  | refuse remaining warming => exact same rfl rfl
  | miss remaining warm missing idle => exact emptied rfl rfl
  | make remaining warm found idle =>
      refine inherits_behind undisplayed rfl ?_
      rintro adapter ⟨⟩
      exact .inl ⟨Nat.le_refl before.fresh, rfl⟩
  | fail error => exact same rfl rfl
  | configure queue held => exact inherits_revised undisplayed rfl held rfl rfl rfl rfl
  | ask queue held automatic => exact inherits_revised undisplayed rfl held rfl rfl rfl rfl
  | click first replaces => exact inherits_clicked undisplayed replaces
  | trackImpression itself ref configuration => exact same rfl rfl
  | trackClick itself ref configuration => exact same rfl rfl
  | look tracking running quiet replaces =>
      exact inherits_ticked _ undisplayed tracking running replaces
  | impression ticks tracking running logs replaces =>
      exact inherits_ticked _ undisplayed tracking running replaces
  | @loaded adapter event ad sent sends held =>
      have revised : Inherits before
          { before with
              requestingAdapter := some { adapter with adView := some ad }
              remainingConfigurations := []
              requestingAdapterAdContentView := some ad } :=
        inherits_revised undisplayed rfl held rfl rfl rfl rfl
      exact revised.trans (inherits_present revised.undisplayed) (Nat.le_refl before.fresh)
  | reloaded held ad => exact inherits_onscreen undisplayed held (.same rfl rfl rfl)
  | lock sent held => exact same rfl rfl
  | unlock held =>
      have unlocked : Inherits before { before with adActionInProgress := false } :=
        inherits_view undisplayed rfl rfl
      exact unlocked.trans (inherits_present undisplayed) (Nat.le_refl before.fresh)
  | leave held => exact same rfl rfl
  | lose held =>
      have view := @view_removeOnscreenAdapter before
      have front : before.removeOnscreenAdapter.1.onscreenAdapter = none :=
        congrArg DoubleBuffer.front view
      have back : before.removeOnscreenAdapter.1.requestingAdapter = before.requestingAdapter :=
        congrArg DoubleBuffer.back view
      have removed : Inherits before before.removeOnscreenAdapter.1 := by
        refine ⟨?_, ?_⟩
        · intro adapter isBehind
          exact undisplayed adapter (back ▸ isBehind)
        · intro adapter member
          rcases held_of_mem member with isBehind | isFront
          · exact .inr ⟨adapter, mem_of_held (.inl (back ▸ isBehind)), .same rfl rfl rfl⟩
          · rw [front] at isFront
            cases isFront
      exact removed.trans (inherits_present removed.undisplayed) fresh_removeOnscreenAdapter.ge

theorem ahead_of_act (act : Act input careful before outputs after)
    (given : before.Sorted ∧ before.Undisplayed) (ahead : Ahead track ref after) :
    Ahead track ref before := by
  have later := (Advance.of_act act given.1.2).later
  rcases ahead with made | ⟨adapter, member, rfl, awaited⟩
  · exact .inl (later.trans made)
  · rcases (inherits_act act given.2).adapters adapter member with made | ⟨other, held, stems⟩
    · exact .inl made
    · exact .inr ⟨other, held, stems.ref.symm, stems.awaited track awaited⟩

/-- No other adapter has its number. -/
theorem not_ahead (sorted : before.Sorted) (member : adapter ∈ before.adapters)
    (spent : track.isAwaited adapter = false) : ¬ Ahead track adapter.ref before := by
  rintro (made | ⟨other, isHeld, same, awaited⟩)
  · rcases held_of_mem member with held | held
    · exact absurd (sorted.2.back adapter held) (Nat.not_lt.mpr made)
    · exact absurd (sorted.2.front adapter held) (Nat.not_lt.mpr made)
  · have found := find_of_held sorted.1 (held_of_mem member)
    have foundOther := find_of_held sorted.1 (held_of_mem isHeld)
    rw [same] at foundOther
    have alike : other = adapter := Option.some.inj (foundOther.symm.trans found)
    rw [alike, spent] at awaited
    cases awaited

/-- It is tracked at most once, and not before it is awaited no more. -/
structure Once (track : Track) (ref : Nat) (history : List Output) (manager : AdManager) : Prop where
  once : history.countP (track.isOf ref) ≤ 1
  untracked : manager.Ahead track ref → history.countP (track.isOf ref) = 0

/-- Nothing is tracked. -/
theorem Once.frame (once : Once track ref history before)
    (silent : outputs.countP (track.isOf ref) = 0)
    (ahead : after.Ahead track ref → before.Ahead track ref) :
    Once track ref (history ++ outputs) after := by
  refine ⟨?_, ?_⟩
  · rw [List.countP_append, silent]
    exact once.once
  · intro awaited
    rw [List.countP_append, silent]
    exact once.untracked (ahead awaited)

theorem Once.quiet (once : Once track ref history before)
    (quiet : ∀ output ∈ outputs, track.of? output = none)
    (ahead : after.Ahead track ref → before.Ahead track ref) :
    Once track ref (history ++ outputs) after := by
  refine once.frame (List.countP_eq_zero.mpr ?_) ahead
  intro output member
  simp [Track.isOf, quiet output member]

/-- What is tracked was awaited, and is so no more. -/
theorem Once.tracks (once : Once track ref history before) {sent : Track} {output : Output}
    (of : sent.of? output = some adapter.ref) (only : ∀ other, other ≠ sent → other.of? output = none)
    (held : adapter ∈ before.adapters) (awaited : sent.isAwaited adapter = true)
    (spent : ¬ after.Ahead sent adapter.ref)
    (ahead : after.Ahead track ref → before.Ahead track ref) :
    Once track ref (history ++ [output]) after := by
  by_cases counted : track = sent ∧ ref = adapter.ref
  · obtain ⟨rfl, rfl⟩ := counted
    have before := once.untracked (.inr ⟨adapter, held, rfl, awaited⟩)
    refine ⟨?_, fun ahead => absurd ahead spent⟩
    rw [List.countP_append, before, Nat.zero_add, List.countP_singleton]
    split <;> decide
  · refine once.frame ?_ ahead
    rw [List.countP_singleton, if_neg]
    intro isOf
    have same : track.of? output = some ref := by simpa [Track.isOf] using isOf
    by_cases alike : track = sent
    · rw [alike, of] at same
      exact counted ⟨alike, (Option.some.inj same).symm⟩
    · rw [only track alike] at same
      cases same

theorem held_of_replaces (replaces : Replaces adapter other before after) :
    adapter ∈ before.adapters ∧ other ∈ after.adapters := by
  cases replaces with
  | requesting held => exact ⟨mem_of_held (.inl held), mem_of_held (.inl rfl)⟩
  | onscreen held => exact ⟨mem_of_held (.inr held), mem_of_held (.inr rfl)⟩

theorem Once.click (once : Once track ref history before) (sorted : after.Sorted)
    (ahead : after.Ahead track ref → before.Ahead track ref) (first : adapter.hasTrackedClick = false)
    (replaces : Replaces adapter { adapter with hasTrackedClick := true } before after) :
    Once track ref (history ++ [.trackClick adapter.ref adapter.configuration]) after := by
  obtain ⟨held, stillHeld⟩ := held_of_replaces replaces
  have spent := @not_ahead after .click _ sorted stillHeld rfl
  refine @Once.tracks _ _ _ _ _ adapter once .click _ rfl ?_ held ?_ spent ahead
  · intro other distinct
    cases other with
    | impression => rfl
    | click => exact absurd rfl distinct
  · rw [Track.isAwaited, first]
    rfl

theorem Once.impression {timer ticked : MPAdImpressionTimer} (once : Once track ref history before)
    (sorted : after.Sorted) (ahead : after.Ahead track ref → before.Ahead track ref)
    (tracking : adapter.impressionTimer = some timer)
    (running : timer.viewVisibilityTimer.isSome = true) (stopped : ticked.viewVisibilityTimer = none)
    (replaces : Replaces adapter { adapter with impressionTimer := some ticked } before after) :
    Once track ref (history ++ [.trackImpression adapter.ref adapter.configuration]) after := by
  obtain ⟨held, stillHeld⟩ := held_of_replaces replaces
  have ended : Track.isAwaited { adapter with impressionTimer := some ticked } .impression = false := by
    rw [Track.isAwaited, Option.all_some, stopped]
    rfl
  have spent := @not_ahead after .impression _ sorted stillHeld ended
  refine @Once.tracks _ _ _ _ _ adapter once .impression _ rfl ?_ held ?_ spent ahead
  · intro other distinct
    cases other with
    | impression => exact absurd rfl distinct
    | click => rfl
  · rw [Track.isAwaited, tracking, Option.all_some, running]

theorem of?_manager (message : ManagerMessage) : track.of? (.manager message) = none := by
  cases track <;> rfl

theorem once_act (act : Act input careful before outputs after) (plain : ¬ input.2.tracksItself = true)
    (given : before.Sorted ∧ before.Undisplayed) (once : Once track ref history before) :
    Once track ref (history ++ outputs) after := by
  have ahead : after.Ahead track ref → before.Ahead track ref := ahead_of_act act given
  have sorted := sorted_act act given.1
  have silent : outputs = [] → Once track ref (history ++ outputs) after := by
    rintro rfl
    exact once.quiet (List.forall_mem_nil _) ahead
  have telling : (∀ output ∈ outputs, ∃ message, output = .manager message) →
      Once track ref (history ++ outputs) after := by
    intro all
    refine once.quiet ?_ ahead
    intro output member
    obtain ⟨message, rfl⟩ := all output member
    exact of?_manager message
  have single (output : Output) (sends : outputs = [output])
      (unheard : ∀ track : Track, track.of? output = none) :
      Once track ref (history ++ outputs) after := by
    rw [sends]
    exact once.quiet (List.forall_mem_singleton.mpr (unheard track)) ahead
  cases act with
  | note automatic asked => exact silent rfl
  | scheduleRefreshTimer => exact silent rfl
  | pauseRefreshTimer => exact silent rfl
  | resumeRefreshTimer => exact silent rfl
  | fire held => exact silent rfl
  | load asked =>
      refine once.quiet ?_ ahead
      intro output member
      rcases eq_of_mem_loadAdWithURL member with ⟨task, rfl⟩ | ⟨task, rfl⟩
      · cases track <;> rfl
      · cases track <;> rfl
  | complete completes flies => exact silent rfl
  | take queue => exact silent rfl
  | noAnswer queue => exact single _ rfl (by rintro (_ | _) <;> rfl)
  | answer queue => exact single _ rfl (by rintro (_ | _) <;> rfl)
  | refuse remaining warming => exact single _ rfl (by rintro (_ | _) <;> rfl)
  | miss remaining warm missing idle => exact single _ rfl (by rintro (_ | _) <;> rfl)
  | make remaining warm found idle => exact single _ rfl (by rintro (_ | _) <;> rfl)
  | fail error => exact single _ rfl fun track => of?_manager _
  | configure queue held => exact silent rfl
  | ask queue held automatic => exact single _ rfl (by rintro (_ | _) <;> rfl)
  | click first replaces => exact once.click sorted ahead first replaces
  | trackImpression itself ref configuration => exact absurd itself plain
  | trackClick itself ref configuration => exact absurd itself plain
  | look tracking running quiet replaces => exact silent rfl
  | impression ticks tracking running logs replaces =>
      exact once.impression sorted ahead tracking running (viewVisibilityTimer_of_logs logs) replaces
  | loaded sent sends held => exact telling fun _ => eq_of_mem_presentRequestingAdapter
  | reloaded held ad => exact silent rfl
  | lock sent held => exact single _ rfl fun track => of?_manager _
  | unlock held => exact telling fun _ => eq_of_mem_unlock
  | leave held => exact single _ rfl fun track => of?_manager _
  | lose held => exact telling fun _ => eq_of_mem_lose

/-- An impression is tracked on a tick of the timer of its adapter. -/
theorem ticks_of_impression (act : Act input careful before outputs after)
    (plain : ¬ input.2.tracksItself = true) :
    ∀ output ∈ outputs, ∀ ref, Track.impression.of? output = some ref →
      ∃ sight, input.2 = .tick ref sight := by
  have telling : (∀ output ∈ outputs, ∃ message, output = .manager message) →
      ∀ output ∈ outputs, ∀ ref, Track.impression.of? output = some ref →
        ∃ sight, input.2 = .tick ref sight := by
    intro all output member ref tracks
    obtain ⟨message, rfl⟩ := all output member
    cases tracks
  cases act with
  | load asked =>
      intro output member ref tracks
      rcases eq_of_mem_loadAdWithURL member with ⟨task, rfl⟩ | ⟨task, rfl⟩
      · cases tracks
      · cases tracks
  | trackImpression itself ref configuration => exact absurd itself plain
  | trackClick itself ref configuration => exact absurd itself plain
  | impression ticks tracking running logs replaces =>
      intro output member ref tracks
      obtain rfl := List.mem_singleton.mp member
      cases tracks
      exact ⟨_, ticks⟩
  | loaded sent sends held => exact telling fun _ => eq_of_mem_presentRequestingAdapter
  | unlock held => exact telling fun _ => eq_of_mem_unlock
  | lose held => exact telling fun _ => eq_of_mem_lose
  | _ => simp [Track.of?]

end Acts

section Runs

variable {self : AdManager} {networks : Networks} {history : List Output} {track : Track} {ref : Nat}
variable {input : ℚ × Input}

/-- The network does not track by itself. -/
def isPlain (input : ℚ × Input) : Bool := !input.2.tracksItself

theorem undisplayed_next (enabled : self.enabled input) (given : self.Sorted ∧ self.Undisplayed) :
    ((machine networks).next self input).Sorted ∧ ((machine networks).next self input).Undisplayed :=
  @Acts.preserves _ _ (Act input false) _ _ _ (fun self => self.Sorted ∧ self.Undisplayed)
    (fun _ _ _ act given => ⟨sorted_act act given.1, (inherits_act act given.2).undisplayed⟩)
    (acts_step given.1.1 enabled nofun) given

theorem once_next (enabled : self.enabled input) (given : self.Sorted ∧ self.Undisplayed)
    (once : Once track ref history self) :
    Once track ref (history ++ if isPlain input then (machine networks).emit self input else [])
      ((machine networks).next self input) := by
  have acts := @acts_step self networks false given.1.1 input enabled nofun
  by_cases plain : isPlain input = true
  · rw [if_pos plain]
    have records := @Acts.records _ _ (Act input false) _ _ _
      (fun self history => (self.Sorted ∧ self.Undisplayed) ∧ Once track ref history self) ?_ acts
      history ⟨given, once⟩
    · exact records.2
    · rintro before outputs after act history ⟨given, once⟩
      refine ⟨⟨sorted_act act given.1, (inherits_act act given.2).undisplayed⟩, ?_⟩
      exact once_act act (by simpa [isPlain] using plain) given once
  · rw [if_neg plain]
    have kept := @Acts.preserves _ _ (Act input false) _ _ _
      (fun self => (self.Sorted ∧ self.Undisplayed) ∧ Once track ref (history ++ []) self) ?_ acts
      ⟨given, by rwa [List.append_nil]⟩
    · exact kept.2
    · rintro before outputs after act ⟨given, once⟩
      refine ⟨⟨sorted_act act given.1, (inherits_act act given.2).undisplayed⟩, ?_⟩
      have still := once.quiet (List.forall_mem_nil _) (ahead_of_act act given)
      rwa [List.append_nil] at still

theorem once_run {inputs : List (ℚ × Input)} (given : self.Sorted ∧ self.Undisplayed)
    (once : Once track ref history self) (runs : (machine networks).Runs self inputs) :
    Once track ref (history ++ (machine networks).traceOn isPlain self inputs)
      ((machine networks).after self inputs) := by
  induction inputs generalizing self history with
  | nil =>
      rw [Machine.traceOn, List.append_nil]
      exact once
  | cons input rest ih =>
      rw [Machine.traceOn, ← List.append_assoc]
      exact ih (undisplayed_next runs.1 given) (once_next runs.1 given once) runs.2

/-- The impression of an adapter is tracked only while it is on screen. -/
def SeesOnscreen (networks : Networks) (self : AdManager) (input : ℚ × Input) : Prop :=
  isPlain input = true → ∀ output ∈ (machine networks).emit self input, ∀ ref,
    Track.impression.of? output = some ref → IsRef ref self.onscreenAdapter

theorem seesOnscreen_step (enabled : self.enabled input) (given : self.Sorted ∧ self.Undisplayed) :
    SeesOnscreen networks self input := by
  intro plain output member ref tracks
  have acts := @acts_step self networks false given.1.1 input enabled nofun
  obtain ⟨sight, ticks⟩ := @Acts.emits _ _ (Act input false) _ _ _ (fun _ => True) _
    (fun _ _ _ _ _ => trivial)
    (fun _ _ _ act _ => ticks_of_impression act (by simpa [isPlain] using plain)) acts trivial
    output member ref tracks
  obtain ⟨now, input⟩ := input
  obtain rfl : input = .tick ref sight := ticks
  obtain ⟨adapter, isHeld, rfl, timer, visibility, tracking, -⟩ := enabled
  rcases held_of_mem isHeld with held | held
  · rw [given.2 adapter held] at tracking
    cases tracking
  · rw [IsRef, held]
    rfl

theorem seesOnscreen_run {inputs : List (ℚ × Input)} (given : self.Sorted ∧ self.Undisplayed)
    (runs : (machine networks).Runs self inputs) :
    (machine networks).Along (SeesOnscreen networks) self inputs := by
  induction inputs generalizing self with
  | nil => trivial
  | cons input rest ih =>
      exact ⟨seesOnscreen_step runs.1 given, ih (undisplayed_next runs.1 given) runs.2⟩

theorem undisplayed_initWithAdUnitId (adUnitId : String) :
    (initWithAdUnitId adUnitId).Undisplayed := by
  intro adapter held
  cases held

/-- Of every adapter at most one impression is tracked and at most one click, but
for what its network tracks by itself, and the impression only while the adapter is
on screen. -/
theorem tracked_once {adUnitId : String} {inputs : List (ℚ × Input)}
    (runs : (machine networks).Runs (initWithAdUnitId adUnitId) inputs) :
    (∀ track ref,
      ((machine networks).traceOn isPlain (initWithAdUnitId adUnitId) inputs).countP
        (Track.isOf track ref) ≤ 1) ∧
      (machine networks).Along (SeesOnscreen networks) (initWithAdUnitId adUnitId) inputs := by
  have given := And.intro (sorted_initWithAdUnitId adUnitId) (undisplayed_initWithAdUnitId adUnitId)
  refine ⟨?_, seesOnscreen_run given runs⟩
  intro track ref
  have start : Once track ref [] (initWithAdUnitId adUnitId) := ⟨Nat.zero_le 1, fun _ => rfl⟩
  exact (once_run given start runs).once

end Runs

/-- Both ads are seen and clicked. -/
theorem twoAds_tracked :
    ((∀ track ref,
        ((machine gdtOnly).traceOn isPlain (initWithAdUnitId "banner") twoAds).countP
          (Track.isOf track ref) ≤ 1) ∧
      (machine gdtOnly).Along (SeesOnscreen gdtOnly) (initWithAdUnitId "banner") twoAds) ∧
      ∀ track ∈ [Track.impression, Track.click], ∀ ref ∈ [2, 7],
        ((machine gdtOnly).traceOn isPlain (initWithAdUnitId "banner") twoAds).countP
          (Track.isOf track ref) = 1 :=
  ⟨tracked_once twoAds_runs, by decide +kernel⟩

end AdManager

end GDTAdapter.BannerHost
