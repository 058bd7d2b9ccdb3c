import GDTAdapter.Reactive.Clock
import GDTAdapter.Reactive.Streak
import GDTAdapter.Foundation
import GDTAdapter.Timers.MobiTimer

namespace GDTAdapter.Timers

open Reactive

/-! # MPAdImpressionTimer

An impression is logged once the ad view has been visible for the required time.
The timer looks at the view every tenth of a second.
-/

structure Superview where
  hidden : Bool
  isWindow : Bool
deriving DecidableEq, Repr

/-- What a tick sees of the ad view: its bounds, its place among the views, and
what its frame shares with the frame of its window. -/
structure Sight where
  width : ℚ
  height : ℚ
  hidden : Bool
  superviews : List Superview
  intersectsWindow : Bool
  intersectionArea : ℚ
  isActive : Bool
deriving DecidableEq, Repr

namespace Sight

def area (sight : Sight) : ℚ := sight.width * sight.height

def hasHiddenAncestor (sight : Sight) : Bool := sight.superviews.any Superview.hidden

def hasParentWindow (sight : Sight) : Bool := sight.superviews.any Superview.isWindow

def intersectsParentWindow (sight : Sight) : Bool :=
  if !sight.hasParentWindow then false else sight.intersectsWindow

def isVisible (sight : Sight) : Bool :=
  !sight.hidden && !sight.hasHiddenAncestor && sight.intersectsParentWindow

def intersectsParentWindowWithPercent (percentVisible : ℚ) (sight : Sight) : Bool :=
  if !sight.hasParentWindow then false
  else decide (sight.area * percentVisible ≤ sight.intersectionArea)

end Sight

structure MPAdImpressionTimer where
  requiredSecondsForImpression : ℚ
  pixelsRequiredForViewVisibility : ℚ
  percentageRequiredForViewVisibility : ℚ := 0
  firstVisibilityTimestamp : ℚ
  viewVisibilityTimer : Option MobiTimer
  adView : Option UIView := none
deriving DecidableEq, Repr

namespace MPAdImpressionTimer

def kImpressionTimerInterval : ℚ := 1 / 10

def kFirstVisibilityTimestampNone : ℚ := -1

/-- `CGFLOAT_MIN` -/
def kDefaultPixelCountWhenUsingPercentage : ℚ := 1 / 2 ^ 1022

def initWithRequiredViewVisibilityPixels (requiredSeconds visibilityPixels : ℚ) :
    MPAdImpressionTimer where
  requiredSecondsForImpression := requiredSeconds
  pixelsRequiredForViewVisibility := visibilityPixels
  firstVisibilityTimestamp := kFirstVisibilityTimestampNone
  viewVisibilityTimer := some (MobiTimer.timerWithTimeInterval kImpressionTimerInterval true)

def initWithRequiredViewVisibilityPercentage (requiredSeconds visibilityPercentage : ℚ) :
    MPAdImpressionTimer where
  requiredSecondsForImpression := requiredSeconds
  pixelsRequiredForViewVisibility := kDefaultPixelCountWhenUsingPercentage
  percentageRequiredForViewVisibility := visibilityPercentage
  firstVisibilityTimestamp := kFirstVisibilityTimestampNone
  viewVisibilityTimer := some (MobiTimer.timerWithTimeInterval kImpressionTimerInterval true)

def startTrackingView (now : ℚ) (view : Option UIView) (self : MPAdImpressionTimer) :
    MPAdImpressionTimer :=
  match view with
  | none => self
  | some view =>
      if self.viewVisibilityTimer.any MobiTimer.isCountdownActive then self
      else
        { self with
            viewVisibilityTimer := self.viewVisibilityTimer.map (MobiTimer.scheduleNow now)
            adView := some view }

/-- The share of the view that has to be in the window; for a number of pixels it
is computed anew each time.  It is exact here, where the source divides doubles. -/
def percentage (sight : Sight) (self : MPAdImpressionTimer) : ℚ :=
  if self.pixelsRequiredForViewVisibility ≠ kDefaultPixelCountWhenUsingPercentage then
    self.pixelsRequiredForViewVisibility * self.pixelsRequiredForViewVisibility / sight.area
  else self.percentageRequiredForViewVisibility

def sees (sight : Sight) (self : MPAdImpressionTimer) : Bool :=
  sight.isVisible && sight.intersectsParentWindowWithPercent (self.percentage sight) && sight.isActive

/-- The output is the view of the impression. -/
def tick (now : ℚ) (sight : Sight) (self : MPAdImpressionTimer) : MPAdImpressionTimer × List UIView :=
  match self.adView with
  | none => (self, [])
  | some view =>
      if sight.area = 0 then (self, [])
      else
        let visible := self.sees sight
        let self := { self with percentageRequiredForViewVisibility := self.percentage sight }
        if visible then
          if self.firstVisibilityTimestamp = kFirstVisibilityTimestampNone then
            ({ self with firstVisibilityTimestamp := now }, [])
          else if self.requiredSecondsForImpression ≤ now - self.firstVisibilityTimestamp then
            ({ self with
                firstVisibilityTimestamp := kFirstVisibilityTimestampNone
                viewVisibilityTimer := none }, [view])
          else (self, [])
        else ({ self with firstVisibilityTimestamp := kFirstVisibilityTimestampNone }, [])

inductive Input where
  | startTrackingView (view : Option UIView)
  | tick (sight : Sight)
deriving DecidableEq, Repr

/-- The `NSTimer` of the visibility timer moves on to its next date as it fires. -/
def step (self : MPAdImpressionTimer) (input : ℚ × Input) : MPAdImpressionTimer × List UIView :=
  match input.2 with
  | .startTrackingView view => (self.startTrackingView input.1 view, [])
  | .tick sight =>
      { self with
          viewVisibilityTimer :=
            self.viewVisibilityTimer.map fun timer =>
              (MobiTimer.timerDidFire timer).1.afterFiring input.1 }.tick input.1 sight

def machine : Machine MPAdImpressionTimer (ℚ × Input) UIView where
  enabled self input :=
    match input.2 with
    | .startTrackingView _ => True
    | .tick _ => ∃ timer, self.viewVisibilityTimer = some timer ∧ timer.IsDue input.1
  step := step

/-- The looks at a view of some extent, in the order of the ticks; a view without
extent is not looked at. -/
def look (timer : MPAdImpressionTimer) (input : ℚ × Input) : Option (Look ℚ) :=
  match input.2 with
  | .startTrackingView _ => none
  | .tick sight => if sight.area = 0 then none else some ⟨input.1, timer.sees sight⟩

def looks (timer : MPAdImpressionTimer) (inputs : List (ℚ × Input)) : List (Look ℚ) :=
  inputs.filterMap timer.look

/-- The view that tracking was started for. -/
def tracked (inputs : List (ℚ × Input)) : Option UIView :=
  inputs.findSome? fun input =>
    match input.2 with
    | .startTrackingView view => view
    | .tick _ => none

section Steps

variable {fresh timer : MPAdImpressionTimer} {inputs : List (ℚ × Input)} {now : ℚ} {sight : Sight}

theorem tracked_snoc (inputs : List (ℚ × Input)) (input : ℚ × Input) :
    tracked (inputs ++ [input]) = (tracked inputs).or (tracked [input]) := by
  unfold tracked
  rw [List.findSome?_append]

theorem looks_snoc (inputs : List (ℚ × Input)) (input : ℚ × Input) :
    fresh.looks (inputs ++ [input]) = fresh.looks inputs ++ (fresh.look input).toList := by
  unfold looks
  rw [List.filterMap_append, List.filterMap_cons, List.filterMap_nil]
  cases fresh.look input <;> rfl

/-- Before the impression: the visibility timer runs once a view is tracked, and
the timestamp is the beginning of the streak that the looks end with. -/
structure Running (fresh : MPAdImpressionTimer) (view : Option UIView) (seen : List (Look ℚ))
    (timer : MPAdImpressionTimer) : Prop where
  required : timer.requiredSecondsForImpression = fresh.requiredSecondsForImpression
  sees : ∀ sight, timer.sees sight = fresh.sees sight
  visibility : ∃ visibility, timer.viewVisibilityTimer = some visibility ∧
    MobiTimer.Sound kImpressionTimerInterval true visibility ∧ visibility.isValid = true ∧
    visibility.isCountdownActive = view.isSome
  adView : timer.adView = view
  timestamp : timer.firstVisibilityTimestamp = (streak seen).getD kFirstVisibilityTimestampNone

/-- What the timer has sent is decided by the looks. -/
def Follows (fresh : MPAdImpressionTimer) (view : Option UIView) (seen : List (Look ℚ))
    (timer : MPAdImpressionTimer) (sent : List UIView) : Prop :=
  (Running fresh view seen timer ∧ sent = [] ∧ ¬ Lasts fresh.requiredSecondsForImpression seen) ∨
    (timer.viewVisibilityTimer = none ∧ (∃ tracked, view = some tracked ∧ sent = [tracked]) ∧
      Lasts fresh.requiredSecondsForImpression seen)

variable {view started : Option UIView} {seen : List (Look ℚ)} {sent : List UIView}

theorem Running.startTrackingView (running : Running fresh view seen timer) :
    Running fresh (view.or started) seen (timer.startTrackingView now started) := by
  obtain ⟨required, sees, ⟨visibility, held, sound, valid, counting⟩, adView, timestamp⟩ := running
  cases started with
  | none =>
      rw [Option.or_none]
      exact ⟨required, sees, ⟨visibility, held, sound, valid, counting⟩, adView, timestamp⟩
  | some started =>
      cases view with
      | some view =>
          have unchanged : timer.startTrackingView now (some started) = timer := by
            simp [MPAdImpressionTimer.startTrackingView, held, counting]
          rw [unchanged, Option.some_or]
          exact ⟨required, sees, ⟨visibility, held, sound, valid, counting⟩, adView, timestamp⟩
      | none =>
          have changed : timer.startTrackingView now (some started) =
              { timer with
                  viewVisibilityTimer := some (visibility.scheduleNow now)
                  adView := some started } := by
            simp [MPAdImpressionTimer.startTrackingView, held, counting]
          rw [changed, Option.none_or]
          refine ⟨required, sees, ⟨_, rfl, sound.scheduleNow, ?_, ?_⟩, rfl, timestamp⟩
          · rw [MobiTimer.isValid_scheduleNow]
            exact valid
          · rw [MobiTimer.scheduleNow_of_idle valid counting]
            rfl

/-- Starting to track is no look, and only the first start counts. -/
theorem follows_startTrackingView (follows : Follows fresh view seen timer sent) :
    Follows fresh (view.or started) seen (timer.startTrackingView now started) sent := by
  rcases follows with ⟨running, silent, short⟩ | ⟨ended, ⟨tracked, rfl, sent⟩, long⟩
  · exact .inl ⟨running.startTrackingView, silent, short⟩
  · refine .inr ⟨?_, ⟨tracked, rfl, sent⟩, long⟩
    unfold startTrackingView
    split
    · exact ended
    · split
      · exact ended
      · simp [ended]

/-- The timer as it looks at the view, after its visibility timer has moved on. -/
theorem Running.fires (running : Running fresh view seen timer) {visibility : MobiTimer}
    (held : timer.viewVisibilityTimer = some visibility) (due : visibility.IsDue now) :
    ∃ tracked, view = some tracked ∧
      Running fresh view seen
        { timer with
            viewVisibilityTimer :=
              timer.viewVisibilityTimer.map fun timer =>
                (MobiTimer.timerDidFire timer).1.afterFiring now } := by
  obtain ⟨required, sees, ⟨other, same, sound, valid, counting⟩, adView, timestamp⟩ := running
  rw [held] at same
  cases same
  have enabled : MobiTimer.machine.enabled visibility (now, .fire) := fun _ => due
  have active : visibility.isCountdownActive = true := by
    obtain ⟨-, date, set, -⟩ := due
    rw [sound.counting, set, Option.isSome_some]
  obtain ⟨tracked, tracks⟩ := Option.isSome_iff_exists.mp (counting.symm.trans active)
  refine ⟨tracked, tracks, required, sees, ?_, adView, timestamp⟩
  have next := MobiTimer.sound_next sound (now, .fire) enabled
  rw [held, Option.map_some]
  refine ⟨_, rfl, next, ?_⟩
  rcases MobiTimer.next_fire_cases sound due with ⟨-, date, -, moved⟩ | ⟨repeats, -⟩
  · change (MobiTimer.machine.next visibility (now, .fire)).isValid = true ∧
      (MobiTimer.machine.next visibility (now, .fire)).isCountdownActive = view.isSome
    rw [moved]
    exact ⟨valid, counting⟩
  · cases repeats

theorem timestamp_eq_none_iff (running : Running fresh view seen timer)
    (positive : ∀ look ∈ seen, 0 ≤ look.moment) :
    timer.firstVisibilityTimestamp = kFirstVisibilityTimestampNone ↔ streak seen = none := by
  rw [running.timestamp]
  cases found : streak seen with
  | none => exact iff_of_true rfl rfl
  | some start =>
      refine iff_of_false ?_ nofun
      obtain ⟨before, first, later, split, begins, -⟩ := streakFrom_of_streak found
      have member : first ∈ seen := by
        rw [split]
        exact List.mem_append_right before List.mem_cons_self
      have bound := positive first member
      rw [begins] at bound
      intro same
      rw [Option.getD_some] at same
      rw [same] at bound
      exact absurd bound (by decide)

/-- The share in use is recomputed from the pixels, or stays what it was. -/
theorem percentage_set (other : Sight) (stamp : ℚ) :
    MPAdImpressionTimer.percentage other
        { timer with
            percentageRequiredForViewVisibility := timer.percentage sight
            firstVisibilityTimestamp := stamp } =
      timer.percentage other := by
  by_cases pixels : timer.pixelsRequiredForViewVisibility ≠ kDefaultPixelCountWhenUsingPercentage
  · simp [percentage, pixels]
  · simp [percentage, not_not.mp pixels]

variable {shown : UIView}

/-- A look that does not end in an impression leaves the timer running. -/
theorem Running.look (running : Running fresh (some shown) seen timer) {good : Bool} {stamp : ℚ}
    (stamped : stamp = (streak (seen ++ [⟨now, good⟩])).getD kFirstVisibilityTimestampNone) :
    Running fresh (some shown) (seen ++ [⟨now, good⟩])
      { timer with
          percentageRequiredForViewVisibility := timer.percentage sight
          firstVisibilityTimestamp := stamp } := by
  refine ⟨running.required, ?_, running.visibility, running.adView, stamped⟩
  intro other
  rw [← running.sees other]
  unfold MPAdImpressionTimer.sees
  rw [percentage_set]

/-! What a tick of a running timer does: it looks away from a view without extent,
starts anew when it does not see the view, and otherwise compares the time. -/

theorem Running.tick_of_empty (running : Running fresh (some shown) seen timer)
    (empty : sight.area = 0) : timer.tick now sight = (timer, []) := by
  simp [MPAdImpressionTimer.tick, running.adView, empty]

theorem Running.tick_of_unseen (running : Running fresh (some shown) seen timer)
    (extended : ¬ sight.area = 0) (visible : fresh.sees sight = false) :
    timer.tick now sight =
      ({ timer with
          percentageRequiredForViewVisibility := timer.percentage sight
          firstVisibilityTimestamp := kFirstVisibilityTimestampNone }, []) := by
  simp [MPAdImpressionTimer.tick, running.adView, extended, running.sees, visible]

theorem Running.tick_of_begun (running : Running fresh (some shown) seen timer)
    (extended : ¬ sight.area = 0) (visible : fresh.sees sight = true)
    (unseen : timer.firstVisibilityTimestamp = kFirstVisibilityTimestampNone) :
    timer.tick now sight =
      ({ timer with
          percentageRequiredForViewVisibility := timer.percentage sight
          firstVisibilityTimestamp := now }, []) := by
  simp [MPAdImpressionTimer.tick, running.adView, extended, running.sees, visible, unseen]

theorem Running.tick_of_seen (running : Running fresh (some shown) seen timer)
    (extended : ¬ sight.area = 0) (visible : fresh.sees sight = true)
    (begun : timer.firstVisibilityTimestamp ≠ kFirstVisibilityTimestampNone) :
    timer.tick now sight =
      if timer.firstVisibilityTimestamp + fresh.requiredSecondsForImpression ≤ now then
        ({ timer with
            percentageRequiredForViewVisibility := timer.percentage sight
            firstVisibilityTimestamp := kFirstVisibilityTimestampNone
            viewVisibilityTimer := none }, [shown])
      else
        ({ timer with
            percentageRequiredForViewVisibility := timer.percentage sight
            firstVisibilityTimestamp := timer.firstVisibilityTimestamp }, []) := by
  have reached_iff : fresh.requiredSecondsForImpression ≤ now - timer.firstVisibilityTimestamp ↔
      timer.firstVisibilityTimestamp + fresh.requiredSecondsForImpression ≤ now :=
    le_sub_iff_add_le'
  simp [MPAdImpressionTimer.tick, running.adView, extended, running.sees, visible, begun,
    running.required, reached_iff]

/-- One tick: it logs the impression just if the looks now last long enough. -/
theorem Running.tick (running : Running fresh (some shown) seen timer)
    (short : ¬ Lasts fresh.requiredSecondsForImpression seen)
    (ordered : seen.Pairwise fun earlier later => earlier.moment ≤ later.moment)
    (positive : ∀ look ∈ seen, 0 ≤ look.moment) :
    Follows fresh (some shown) (seen ++ (fresh.look (now, .tick sight)).toList)
      (timer.tick now sight).1 (timer.tick now sight).2 := by
  by_cases extended : sight.area = 0
  · have unseen : fresh.look (now, .tick sight) = none := by simp [MPAdImpressionTimer.look, extended]
    rw [unseen, running.tick_of_empty extended]
    refine .inl ⟨?_, rfl, ?_⟩
    · simpa using running
    · simpa using short
  · have seenOnce : fresh.look (now, .tick sight) = some ⟨now, fresh.sees sight⟩ := by
      simp [MPAdImpressionTimer.look, extended]
    have lasts_iff := @lasts_snoc_iff _ _ _ _ fresh.requiredSecondsForImpression seen
      ⟨now, fresh.sees sight⟩ ordered
    have none_iff := timestamp_eq_none_iff running positive
    rw [seenOnce]
    cases visible : fresh.sees sight with
    | false =>
        rw [running.tick_of_unseen extended visible]
        refine .inl ⟨running.look (by simp), rfl, ?_⟩
        intro lasts
        rw [visible] at lasts_iff
        cases (lasts_iff.mp lasts).1
    | true =>
        rw [visible] at lasts_iff
        cases found : streak seen with
        | none =>
            rw [running.tick_of_begun extended visible (none_iff.mpr found)]
            refine .inl ⟨running.look (by simp [found]), rfl, ?_⟩
            intro lasts
            obtain ⟨-, start, same, -⟩ := lasts_iff.mp lasts
            rw [found] at same
            cases same
        | some start =>
            have begun : timer.firstVisibilityTimestamp ≠ kFirstVisibilityTimestampNone := by
              rw [Ne, none_iff, found]
              exact Option.some_ne_none start
            have stamp : timer.firstVisibilityTimestamp = start := by
              rw [running.timestamp, found, Option.getD_some]
            rw [running.tick_of_seen extended visible begun, stamp]
            split
            · next enough =>
                exact .inr ⟨rfl, ⟨shown, rfl, rfl⟩, lasts_iff.mpr ⟨rfl, start, found, enough⟩⟩
            · next early =>
                refine .inl ⟨running.look (by simp [found]), rfl, ?_⟩
                intro lasts
                obtain ⟨-, other, same, long⟩ := lasts_iff.mp lasts
                rw [found] at same
                cases same
                exact early long

end Steps

theorem look_moment {fresh : MPAdImpressionTimer} {input : ℚ × Input} {look : Look ℚ}
    (looked : fresh.look input = some look) : look.moment = input.1 := by
  obtain ⟨now, input⟩ := input
  cases input with
  | startTrackingView view => cases looked
  | tick sight =>
      simp only [MPAdImpressionTimer.look] at looked
      split at looked
      · cases looked
      · cases looked
        rfl

theorem looks_ordered {fresh : MPAdImpressionTimer} {clock : ℚ} {inputs : List (ℚ × Input)}
    (runs : machine.clocked.Runs (fresh, clock) inputs) :
    (fresh.looks inputs).Pairwise fun earlier later => earlier.moment ≤ later.moment := by
  refine List.Pairwise.filterMap fresh.look ?_ (Machine.ordered_of_clocked runs).2
  intro earlier later inOrder first looked second lookedAgain
  rw [look_moment looked, look_moment lookedAgain]
  exact inOrder

theorem looks_positive {fresh : MPAdImpressionTimer} {inputs : List (ℚ × Input)}
    (runs : machine.clocked.Runs (fresh, 0) inputs) : ∀ look ∈ fresh.looks inputs, 0 ≤ look.moment := by
  intro look member
  obtain ⟨input, member, looked⟩ := List.mem_filterMap.mp member
  rw [look_moment looked]
  exact (Machine.ordered_of_clocked runs).1 input member

/-- As the initialisers leave it. -/
def Initial (fresh : MPAdImpressionTimer) : Prop :=
  ∃ required share, fresh = initWithRequiredViewVisibilityPixels required share ∨
    fresh = initWithRequiredViewVisibilityPercentage required share

theorem follows_initial {fresh : MPAdImpressionTimer} (initial : fresh.Initial) :
    Follows fresh none [] fresh [] := by
  refine .inl ⟨?_, rfl, not_lasts_nil _⟩
  have sound := MobiTimer.sound_timerWithTimeInterval kImpressionTimerInterval true
  obtain ⟨required, share, rfl | rfl⟩ := initial
  · exact ⟨rfl, fun _ => rfl, ⟨_, rfl, sound, rfl, rfl⟩, rfl, rfl⟩
  · exact ⟨rfl, fun _ => rfl, ⟨_, rfl, sound, rfl, rfl⟩, rfl, rfl⟩

theorem follows_run {fresh : MPAdImpressionTimer} (initial : fresh.Initial)
    {inputs : List (ℚ × Input)} (runs : machine.clocked.Runs (fresh, 0) inputs) :
    Follows fresh (tracked inputs) (fresh.looks inputs) (machine.after fresh inputs)
      (machine.trace fresh inputs) := by
  induction inputs using List.reverseRecOn with
  | nil => exact follows_initial initial
  | append_singleton inputs input ih =>
      obtain ⟨earlier, -, enabled⟩ := Machine.runs_snoc.mp runs
      rw [Machine.clocked_after_fst] at enabled
      have before := ih earlier
      rw [Machine.trace_append, Machine.after_append, tracked_snoc, looks_snoc, Machine.trace_cons,
        Machine.after_cons]
      obtain ⟨now, input⟩ := input
      cases input with
      | startTrackingView view =>
          have started := @follows_startTrackingView _ _ now _ view _ _ before
          cases view <;> simpa [look, tracked, machine, Machine.emit, Machine.next, step] using started
      | tick sight =>
          obtain ⟨visibility, held, due⟩ := enabled
          rcases before with ⟨running, silent, short⟩ | ⟨ended, -⟩
          · obtain ⟨shown, tracks, running⟩ := running.fires held due
            rw [tracks] at running
            have ticked := @Running.tick _ _ now sight _ _ running short (looks_ordered earlier)
              (looks_positive earlier)
            rw [silent, tracks]
            simpa [tracked, machine, Machine.emit, Machine.next, step] using ticked
          · rw [ended] at held
            cases held

/-- The impression is logged once, for the view that was tracked first, and just
if the looks have found it visible for the required time without a break; ticks
while the view has no extent neither count nor break. -/
theorem logs_once {fresh : MPAdImpressionTimer} (initial : fresh.Initial)
    {inputs : List (ℚ × Input)} (runs : machine.clocked.Runs (fresh, 0) inputs) :
    (machine.trace fresh inputs = [] ∧
        ¬ Lasts fresh.requiredSecondsForImpression (fresh.looks inputs)) ∨
      ∃ view, tracked inputs = some view ∧ machine.trace fresh inputs = [view] ∧
        Lasts fresh.requiredSecondsForImpression (fresh.looks inputs) := by
  rcases follows_run initial runs with ⟨-, silent, short⟩ | ⟨-, ⟨view, tracks, sent⟩, long⟩
  · exact .inl ⟨silent, short⟩
  · exact .inr ⟨view, tracks, sent, long⟩

/-- A banner in its window. -/
def inWindow : Sight where
  width := 320
  height := 50
  hidden := false
  superviews := [{ hidden := false, isWindow := true }]
  intersectsWindow := true
  intersectionArea := 16000
  isActive := true

/-- The banner is looked at twice within a second. -/
def looksTwice : List (ℚ × Input) :=
  [(0, .startTrackingView (some 7)), (1 / 10, .tick inWindow), (1, .tick inWindow)]

/-- The first look that finds the view does not end the timer. -/
theorem viewVisibilityTimer_tick {now : ℚ} {sight : Sight} {timer : MPAdImpressionTimer}
    (unseen : timer.firstVisibilityTimestamp = kFirstVisibilityTimestampNone) :
    (timer.tick now sight).1.viewVisibilityTimer = timer.viewVisibilityTimer := by
  unfold tick
  cases timer.adView with
  | none => rfl
  | some view =>
      simp only [unseen, if_true]
      split
      · rfl
      · split <;> rfl

theorem looksTwice_runs :
    machine.clocked.Runs (initWithRequiredViewVisibilityPercentage (1 / 2) (1 / 2), 0) looksTwice := by
  have first : (0 : ℚ) + kImpressionTimerInterval ≤ 1 / 10 := by norm_num [kImpressionTimerInterval]
  have second : MobiTimer.nextFireDate (1 / 10) kImpressionTimerInterval
      (0 + kImpressionTimerInterval) ≤ 1 := by
    norm_num [MobiTimer.nextFireDate, kImpressionTimerInterval]
  refine ⟨⟨le_refl 0, trivial⟩, ⟨?_, _, rfl, rfl, _, rfl, first⟩, ⟨?_, ?_⟩, trivial⟩
  · exact (by norm_num : (0 : ℚ) ≤ 1 / 10)
  · exact (by norm_num : (1 / 10 : ℚ) ≤ 1)
  · exact ⟨_, viewVisibilityTimer_tick rfl, rfl, _, rfl, second⟩

theorem looksTwice_logs_once :
    let fresh := initWithRequiredViewVisibilityPercentage (1 / 2) (1 / 2)
    (machine.trace fresh looksTwice = [] ∧
        ¬ Lasts fresh.requiredSecondsForImpression (fresh.looks looksTwice)) ∨
      ∃ view, tracked looksTwice = some view ∧ machine.trace fresh looksTwice = [view] ∧
        Lasts fresh.requiredSecondsForImpression (fresh.looks looksTwice) :=
  logs_once ⟨1 / 2, 1 / 2, .inr rfl⟩ looksTwice_runs

end MPAdImpressionTimer

end GDTAdapter.Timers
