import GDTAdapter.Timers.MobiTimer

namespace GDTAdapter.Timers

open Reactive

/-! # MobiRealTimeTimer

A one-shot timer that keeps time while the app is in the background.  It holds a
date of its own, drops its `MobiTimer` when the app leaves the foreground, and
looks at the date when the app comes back.
-/

/-- `isObserving` tells whether the notification centre knows the timer. -/
structure MobiRealTimeTimer where
  interval : ℚ
  isScheduled : Bool := false
  isObserving : Bool := false
  fireDate : Option ℚ := none
  currentTimeInterval : ℚ := 0
  timer : Option MobiTimer := none
deriving DecidableEq, Repr

namespace MobiRealTimeTimer

def setTimerWithCurrentTimeInterval (now : ℚ) (self : MobiRealTimeTimer) : MobiRealTimeTimer :=
  { self with
      timer := some ((MobiTimer.timerWithTimeInterval self.currentTimeInterval false).scheduleNow now)
      fireDate := self.fireDate.or (some (now + self.currentTimeInterval)) }

def scheduleNow (now : ℚ) (self : MobiRealTimeTimer) : MobiRealTimeTimer :=
  if !self.isScheduled then
    let self := { self with isObserving := true, currentTimeInterval := self.interval }
    { self.setTimerWithCurrentTimeInterval now with isScheduled := true }
  else self

def invalidate (self : MobiRealTimeTimer) : MobiRealTimeTimer :=
  { self with timer := none, isObserving := false, isScheduled := false, fireDate := none }

/-- The output is the run of the block. -/
def fire (self : MobiRealTimeTimer) : MobiRealTimeTimer × List Unit := (self.invalidate, [()])

def didEnterBackground (self : MobiRealTimeTimer) : MobiRealTimeTimer :=
  { self with timer := self.timer.map MobiTimer.invalidate }

def willEnterForeground (now : ℚ) (self : MobiRealTimeTimer) : MobiRealTimeTimer × List Unit :=
  if self.timer.any MobiTimer.isValid then (self, [])
  else
    match self.fireDate with
    | none => (self, [])
    | some date =>
        if date ≤ now then self.fire
        else
          ({ self with currentTimeInterval := date - now }.setTimerWithCurrentTimeInterval now, [])

/-- The `NSTimer` fires; the target of the `MobiTimer` is `fire`. -/
def timerDidFire (now : ℚ) (self : MobiRealTimeTimer) : MobiRealTimeTimer × List Unit :=
  match self.timer with
  | none => (self, [])
  | some timer =>
      let (timer, sent) := timer.timerDidFire
      let self := { self with timer := some (timer.afterFiring now) }
      if sent then self.fire else (self, [])

inductive Input where
  | scheduleNow
  | invalidate
  | fire
  | didEnterBackground
  | willEnterForeground
  | timerDidFire
deriving DecidableEq, Repr

def step (self : MobiRealTimeTimer) (input : ℚ × Input) : MobiRealTimeTimer × List Unit :=
  match input.2 with
  | .scheduleNow => (self.scheduleNow input.1, [])
  | .invalidate => (self.invalidate, [])
  | .fire => self.fire
  | .didEnterBackground => (self.didEnterBackground, [])
  | .willEnterForeground => self.willEnterForeground input.1
  | .timerDidFire => self.timerDidFire input.1

/-- Notifications reach an observer only, and the `NSTimer` fires when it is due. -/
def enabled (self : MobiRealTimeTimer) (input : ℚ × Input) : Prop :=
  match input.2 with
  | .didEnterBackground => self.isObserving = true
  | .willEnterForeground => self.isObserving = true
  | .timerDidFire => ∃ timer, self.timer = some timer ∧ timer.IsDue input.1
  | _ => True

def machine : Machine MobiRealTimeTimer (ℚ × Input) Unit where
  enabled := enabled
  step := step

def initWithInterval (interval : ℚ) : MobiRealTimeTimer where
  interval := interval

/-- The timer counts down to the date. -/
def CountsTo (date : ℚ) (timer : MobiTimer) : Prop :=
  timer.isValid = true ∧ timer.selector = true ∧ timer.fireDate = some date

/-- A scheduled timer has a date, and a valid `MobiTimer` counts down to it. -/
structure Sound (interval : ℚ) (realTime : MobiRealTimeTimer) : Prop where
  interval : realTime.interval = interval
  scheduled : realTime.isScheduled = realTime.fireDate.isSome
  observing : realTime.isObserving = realTime.isScheduled
  held : realTime.timer.isSome = realTime.isScheduled
  counts : ∀ timer, realTime.timer = some timer → timer.isValid = true →
    ∃ date, realTime.fireDate = some date ∧ CountsTo date timer

theorem sound_initWithInterval (interval : ℚ) : (initWithInterval interval).Sound interval :=
  ⟨rfl, rfl, rfl, rfl, nofun⟩

section Steps

variable {self : MobiRealTimeTimer} {interval now date : ℚ}

theorem countsTo_scheduleNow (seconds : ℚ) :
    CountsTo (now + seconds) ((MobiTimer.timerWithTimeInterval seconds false).scheduleNow now) :=
  ⟨rfl, rfl, rfl⟩

theorem isDue_of_countsTo {timer : MobiTimer} (counts : CountsTo date timer) (moment : ℚ) :
    timer.IsDue moment ↔ date ≤ moment := by
  obtain ⟨valid, -, set⟩ := counts
  constructor
  · rintro ⟨-, other, same, passed⟩
    rw [set] at same
    cases same
    exact passed
  · intro passed
    exact ⟨valid, date, set, passed⟩

theorem Sound.fireDate_of_unscheduled (sound : self.Sound interval)
    (unscheduled : self.isScheduled = false) : self.fireDate = none := by
  rw [← Option.not_isSome_iff_eq_none, ← sound.scheduled, unscheduled]
  exact Bool.false_ne_true

theorem Sound.scheduleNow_eq (sound : self.Sound interval) (unscheduled : self.isScheduled = false) :
    self.scheduleNow now =
      { self with
          isScheduled := true
          isObserving := true
          fireDate := some (now + self.interval)
          currentTimeInterval := self.interval
          timer := some ((MobiTimer.timerWithTimeInterval self.interval false).scheduleNow now) } := by
  simp [scheduleNow, setTimerWithCurrentTimeInterval, unscheduled,
    sound.fireDate_of_unscheduled unscheduled]

/-- The `NSTimer` fires on the date, and the block runs. -/
theorem Sound.timerDidFire_eq (sound : self.Sound interval) {timer : MobiTimer}
    (held : self.timer = some timer) (due : timer.IsDue now) :
    self.timerDidFire now = self.fire ∧ ∃ date, self.fireDate = some date ∧ date ≤ now := by
  obtain ⟨date, set, counts⟩ := sound.counts timer held due.1
  refine ⟨?_, date, set, (isDue_of_countsTo counts now).mp due⟩
  have sent : timer.timerDidFire.2 = true := by
    unfold MobiTimer.timerDidFire
    split <;> exact counts.2.1
  simp [timerDidFire, held, sent, fire, invalidate]

/-- The `MobiTimer` has been dropped, although the timer is scheduled. -/
def Silent (self : MobiRealTimeTimer) : Prop :=
  self.isScheduled = true ∧ self.timer.any MobiTimer.isValid = false

theorem Sound.willEnterForeground_cases (sound : self.Sound interval)
    (observing : self.isObserving = true) :
    ¬ self.Silent ∧ self.willEnterForeground now = (self, []) ∨
      ∃ date, self.Silent ∧ self.fireDate = some date ∧
        (date ≤ now ∧ self.willEnterForeground now = self.fire ∨
          now < date ∧ self.willEnterForeground now =
            ({ self with
                currentTimeInterval := date - now
                timer := some ((MobiTimer.timerWithTimeInterval (date - now) false).scheduleNow now) },
              [])) := by
  have isScheduled : self.isScheduled = true := sound.observing.symm.trans observing
  cases valid : self.timer.any MobiTimer.isValid with
  | true =>
      refine .inl ⟨?_, by simp [willEnterForeground, valid]⟩
      rintro ⟨-, invalid⟩
      rw [valid] at invalid
      cases invalid
  | false =>
      obtain ⟨date, set⟩ := Option.isSome_iff_exists.mp (sound.scheduled.symm.trans isScheduled)
      refine .inr ⟨date, ⟨isScheduled, valid⟩, set, ?_⟩
      by_cases passed : date ≤ now
      · exact .inl ⟨passed, by simp [willEnterForeground, valid, set, passed]⟩
      · refine .inr ⟨not_le.mp passed, ?_⟩
        simp [willEnterForeground, valid, set, passed, setTimerWithCurrentTimeInterval]

theorem Sound.invalidate (sound : self.Sound interval) : self.invalidate.Sound interval :=
  ⟨sound.interval, rfl, rfl, rfl, nofun⟩

theorem Sound.scheduleNow (sound : self.Sound interval) : (self.scheduleNow now).Sound interval := by
  cases unscheduled : self.isScheduled with
  | true => simpa [MobiRealTimeTimer.scheduleNow, unscheduled] using sound
  | false =>
      rw [sound.scheduleNow_eq unscheduled]
      refine ⟨sound.interval, rfl, rfl, rfl, ?_⟩
      intro timer held _
      cases held
      exact ⟨_, rfl, countsTo_scheduleNow _⟩

theorem Sound.didEnterBackground (sound : self.Sound interval) :
    self.didEnterBackground.Sound interval := by
  refine ⟨sound.interval, sound.scheduled, sound.observing, ?_, ?_⟩
  · exact Option.isSome_map.trans sound.held
  · intro timer held valid
    obtain ⟨before, -, rfl⟩ := Option.map_eq_some_iff.mp held
    cases valid

theorem sound_next (sound : self.Sound interval) (input : ℚ × Input)
    (enabled : machine.enabled self input) : (machine.next self input).Sound interval := by
  obtain ⟨now, input⟩ := input
  cases input with
  | scheduleNow => exact sound.scheduleNow
  | invalidate => exact sound.invalidate
  | fire => exact sound.invalidate
  | didEnterBackground => exact sound.didEnterBackground
  | willEnterForeground =>
      change (self.willEnterForeground now).1.Sound interval
      rcases sound.willEnterForeground_cases enabled with
        ⟨-, same⟩ | ⟨date, -, set, ⟨-, rang⟩ | ⟨-, restarted⟩⟩
      · rw [same]
        exact sound
      · rw [rang]
        exact sound.invalidate
      · rw [restarted]
        refine ⟨sound.interval, sound.scheduled, sound.observing, ?_, ?_⟩
        · rw [sound.scheduled, set]
          rfl
        · intro timer held _
          cases held
          refine ⟨date, set, ?_⟩
          have counts := @countsTo_scheduleNow now (date - now)
          rw [add_sub_cancel] at counts
          exact counts
  | timerDidFire =>
      obtain ⟨timer, held, due⟩ := enabled
      change (self.timerDidFire now).1.Sound interval
      rw [(sound.timerDidFire_eq held due).1]
      exact sound.invalidate

end Steps

/-- The input schedules the timer for the date. -/
def Schedules (date : ℚ) (realTime : MobiRealTimeTimer) (input : ℚ × Input) : Prop :=
  input.2 = .scheduleNow ∧ realTime.isScheduled = false ∧ input.1 + realTime.interval = date

/-- The timer is neither invalidated nor does it run its block. -/
def Unfinished (realTime : MobiRealTimeTimer) (input : ℚ × Input) : Prop :=
  input.2 ≠ .invalidate ∧ machine.emit realTime input = []

def Backgrounds (_ : MobiRealTimeTimer) (input : ℚ × Input) : Prop :=
  input.2 = .didEnterBackground

/-- The timer stays scheduled, and the app does not come back. -/
def Away (realTime : MobiRealTimeTimer) (input : ℚ × Input) : Prop :=
  realTime.Unfinished input ∧ input.2 ≠ .willEnterForeground

section History

variable {realTime : MobiRealTimeTimer} {interval now date : ℚ}

theorem fireDate_next_iff (sound : realTime.Sound interval) (input : ℚ × Input)
    (enabled : machine.enabled realTime input) :
    (machine.next realTime input).fireDate = some date ↔
      realTime.Schedules date input ∨ realTime.fireDate = some date ∧ realTime.Unfinished input := by
  obtain ⟨now, input⟩ := input
  cases input with
  | scheduleNow =>
      cases scheduled : realTime.isScheduled with
      | true =>
          have same : machine.next realTime (now, .scheduleNow) = realTime := by
            simp [machine, Machine.next, step, scheduleNow, scheduled]
          rw [same]
          simp [Schedules, Unfinished, scheduled, machine, Machine.emit, step]
      | false =>
          have none := sound.fireDate_of_unscheduled scheduled
          change (realTime.scheduleNow now).fireDate = some date ↔ _
          rw [sound.scheduleNow_eq scheduled]
          simp [Schedules, scheduled, none]
  | invalidate => simp [Schedules, Unfinished, machine, Machine.next, step, invalidate]
  | fire => simp [Schedules, Unfinished, machine, Machine.next, Machine.emit, step, fire, invalidate]
  | didEnterBackground =>
      simp [Schedules, Unfinished, machine, Machine.next, Machine.emit, step, didEnterBackground]
  | willEnterForeground =>
      change (realTime.willEnterForeground now).1.fireDate = some date ↔
        _ ∨ _ ∧ _ ∧ (realTime.willEnterForeground now).2 = []
      rcases sound.willEnterForeground_cases enabled with
        ⟨-, same⟩ | ⟨_, -, set, ⟨-, rang⟩ | ⟨-, restarted⟩⟩
      · rw [same]
        simp [Schedules]
      · rw [rang]
        simp [Schedules, fire, invalidate]
      · rw [restarted]
        simp [Schedules]
  | timerDidFire =>
      obtain ⟨timer, held, due⟩ := enabled
      change (realTime.timerDidFire now).1.fireDate = some date ↔
        _ ∨ _ ∧ _ ∧ (realTime.timerDidFire now).2 = []
      rw [(sound.timerDidFire_eq held due).1]
      simp [Schedules, fire, invalidate]

theorem silent_next_iff (sound : realTime.Sound interval) (input : ℚ × Input)
    (enabled : machine.enabled realTime input) :
    (machine.next realTime input).Silent ↔
      realTime.Backgrounds input ∨ realTime.Silent ∧ realTime.Away input := by
  obtain ⟨now, input⟩ := input
  cases input with
  | scheduleNow =>
      cases scheduled : realTime.isScheduled with
      | true =>
          have same : machine.next realTime (now, .scheduleNow) = realTime := by
            simp [machine, Machine.next, step, scheduleNow, scheduled]
          rw [same]
          simp [Backgrounds, Away, Unfinished, machine, Machine.emit, step]
      | false =>
          change (realTime.scheduleNow now).Silent ↔ _
          rw [sound.scheduleNow_eq scheduled]
          simp [Silent, Backgrounds, scheduled, MobiTimer.scheduleNow, MobiTimer.timerWithTimeInterval]
  | invalidate =>
      simp [Silent, Backgrounds, Away, Unfinished, machine, Machine.next, step, invalidate]
  | fire =>
      simp [Silent, Backgrounds, Away, Unfinished, machine, Machine.next, Machine.emit, step, fire,
        invalidate]
  | didEnterBackground =>
      have scheduled : realTime.isScheduled = true := sound.observing.symm.trans enabled
      have silent : realTime.didEnterBackground.Silent := by
        refine ⟨scheduled, ?_⟩
        cases held : realTime.timer <;> simp [didEnterBackground, held, MobiTimer.invalidate]
      exact iff_of_true silent (.inl rfl)
  | willEnterForeground =>
      change (realTime.willEnterForeground now).1.Silent ↔ _
      refine iff_of_false ?_ (by simp [Backgrounds, Away])
      rcases sound.willEnterForeground_cases enabled with
        ⟨awake, same⟩ | ⟨_, -, -, ⟨-, rang⟩ | ⟨-, restarted⟩⟩
      · rw [same]
        exact awake
      · rw [rang]
        simp [Silent, fire, invalidate]
      · rw [restarted]
        simp [Silent, MobiTimer.scheduleNow, MobiTimer.timerWithTimeInterval]
  | timerDidFire =>
      obtain ⟨timer, held, due⟩ := enabled
      change (realTime.timerDidFire now).1.Silent ↔
        _ ∨ _ ∧ (_ ∧ (realTime.timerDidFire now).2 = []) ∧ _
      rw [(sound.timerDidFire_eq held due).1]
      simp [Silent, Backgrounds, fire, invalidate]

/-- The block runs when it is told to, and otherwise on the date at the earliest. -/
theorem rings_cases (sound : realTime.Sound interval) {input : ℚ × Input}
    (enabled : machine.enabled realTime input) (rings : machine.emit realTime input ≠ []) :
    input.2 = .fire ∨ ∃ date, realTime.fireDate = some date ∧ date ≤ input.1 := by
  obtain ⟨now, input⟩ := input
  cases input with
  | scheduleNow => exact absurd rfl rings
  | invalidate => exact absurd rfl rings
  | fire => exact .inl rfl
  | didEnterBackground => exact absurd rfl rings
  | willEnterForeground =>
      change (realTime.willEnterForeground now).2 ≠ [] at rings
      rcases sound.willEnterForeground_cases enabled with
        ⟨-, same⟩ | ⟨date, -, set, ⟨passed, -⟩ | ⟨-, restarted⟩⟩
      · rw [same] at rings
        exact absurd rfl rings
      · exact .inr ⟨date, set, passed⟩
      · rw [restarted] at rings
        exact absurd rfl rings
  | timerDidFire =>
      obtain ⟨timer, held, due⟩ := enabled
      exact .inr (sound.timerDidFire_eq held due).2

/-- What is left of a countdown: the `MobiTimer` runs to the date, or the app is
away and its return is compared with the date. -/
theorem awaits (sound : realTime.Sound interval) (set : realTime.fireDate = some date) :
    (realTime.Silent ∧ ∀ now, machine.emit realTime (now, .willEnterForeground) = [()] ↔ date ≤ now) ∨
      (¬ realTime.Silent ∧
        ∃ timer, realTime.timer = some timer ∧ ∀ now, timer.IsDue now ↔ date ≤ now) := by
  have scheduled : realTime.isScheduled = true := by rw [sound.scheduled, set, Option.isSome_some]
  have observing : realTime.isObserving = true := sound.observing.trans scheduled
  by_cases silent : realTime.Silent
  · refine .inl ⟨silent, ?_⟩
    intro now
    change (realTime.willEnterForeground now).2 = [()] ↔ _
    rcases sound.willEnterForeground_cases observing with
      ⟨awake, -⟩ | ⟨other, -, same, ⟨passed, rang⟩ | ⟨ahead, restarted⟩⟩
    · exact absurd silent awake
    · rw [set] at same
      cases same
      rw [rang]
      exact iff_of_true rfl passed
    · rw [set] at same
      cases same
      rw [restarted]
      exact iff_of_false nofun (not_le.mpr ahead)
  · refine .inr ⟨silent, ?_⟩
    obtain ⟨timer, held⟩ := Option.isSome_iff_exists.mp (sound.held.trans scheduled)
    have valid : timer.isValid = true := by
      by_contra invalid
      refine silent ⟨scheduled, ?_⟩
      simpa [held] using invalid
    obtain ⟨other, same, counts⟩ := sound.counts timer held valid
    rw [set] at same
    cases same
    exact ⟨timer, held, isDue_of_countsTo counts⟩

end History

/-- Running the block at once counts as setting the alarm for it. -/
def moves (realTime : MobiRealTimeTimer) (input : ℚ × Input) : List Alarm.Move :=
  match input.2 with
  | .scheduleNow => if realTime.isScheduled then [] else [.set]
  | .invalidate => [.clear]
  | .fire => [.set, .ring]
  | _ => if machine.emit realTime input = [] then [] else [.ring]

def IsAlarm (interval : ℚ) (realTime : MobiRealTimeTimer) (isSet : Bool) : Prop :=
  realTime.Sound interval ∧ realTime.isScheduled = isSet

/-- The moves send what the step sends, and end where it ends. -/
def AnsweredByMoves (realTime : MobiRealTimeTimer) (input : ℚ × Input) : Prop :=
  Alarm.machine.Runs realTime.isScheduled (realTime.moves input) ∧
    Alarm.machine.trace realTime.isScheduled (realTime.moves input) =
      machine.emit realTime input ∧
    Alarm.machine.after realTime.isScheduled (realTime.moves input) =
      (machine.next realTime input).isScheduled

section Alarm

variable {realTime : MobiRealTimeTimer} {interval now : ℚ}

/-- The inputs that the host does not control: they leave a scheduled timer
scheduled, or it runs its block and is not scheduled any more. -/
theorem passive_cases (sound : realTime.Sound interval) {input : Input}
    (passive : input = .didEnterBackground ∨ input = .willEnterForeground ∨ input = .timerDidFire)
    (enabled : machine.enabled realTime (now, input)) :
    realTime.isScheduled = true ∧
      (machine.emit realTime (now, input) = [] ∧
          (machine.next realTime (now, input)).isScheduled = true ∨
        machine.emit realTime (now, input) = [()] ∧
          (machine.next realTime (now, input)).isScheduled = false) := by
  rcases passive with rfl | rfl | rfl
  · have scheduled : realTime.isScheduled = true := sound.observing.symm.trans enabled
    exact ⟨scheduled, .inl ⟨rfl, scheduled⟩⟩
  · have scheduled : realTime.isScheduled = true := sound.observing.symm.trans enabled
    refine ⟨scheduled, ?_⟩
    change (realTime.willEnterForeground now).2 = [] ∧
        (realTime.willEnterForeground now).1.isScheduled = true ∨
      (realTime.willEnterForeground now).2 = [()] ∧
        (realTime.willEnterForeground now).1.isScheduled = false
    rcases sound.willEnterForeground_cases enabled with
      ⟨-, same⟩ | ⟨_, -, -, ⟨-, rang⟩ | ⟨-, restarted⟩⟩
    · rw [same]
      exact .inl ⟨rfl, scheduled⟩
    · rw [rang]
      exact .inr ⟨rfl, rfl⟩
    · rw [restarted]
      exact .inl ⟨rfl, scheduled⟩
  · obtain ⟨timer, held, due⟩ := enabled
    have scheduled : realTime.isScheduled = true := by rw [← sound.held, held, Option.isSome_some]
    refine ⟨scheduled, .inr ?_⟩
    change (realTime.timerDidFire now).2 = [()] ∧ (realTime.timerDidFire now).1.isScheduled = false
    rw [(sound.timerDidFire_eq held due).1]
    exact ⟨rfl, rfl⟩

theorem moves_passive {input : Input}
    (passive : input = .didEnterBackground ∨ input = .willEnterForeground ∨ input = .timerDidFire) :
    realTime.moves (now, input) =
      if machine.emit realTime (now, input) = [] then [] else [.ring] := by
  rcases passive with rfl | rfl | rfl <;> rfl

theorem answered_by_moves (sound : realTime.Sound interval) (input : ℚ × Input)
    (enabled : machine.enabled realTime input) : realTime.AnsweredByMoves input := by
  have passively : ∀ {now input}, input = .didEnterBackground ∨ input = .willEnterForeground ∨
      input = .timerDidFire → machine.enabled realTime (now, input) →
        realTime.AnsweredByMoves (now, input) := by
    intro now input passive enabled
    unfold AnsweredByMoves
    obtain ⟨scheduled, ⟨silent, kept⟩ | ⟨rang, ended⟩⟩ := passive_cases sound passive enabled
    · rw [moves_passive passive, silent, kept, scheduled]
      exact ⟨trivial, rfl, rfl⟩
    · rw [moves_passive passive, rang, ended, scheduled]
      exact ⟨⟨fun _ => rfl, trivial⟩, rfl, rfl⟩
  obtain ⟨now, input⟩ := input
  cases input with
  | scheduleNow =>
      cases scheduled : realTime.isScheduled with
      | true =>
          simp [AnsweredByMoves, moves, scheduled, machine, Machine.emit, Machine.next, step,
            scheduleNow, Machine.Runs]
      | false =>
          have changed : (realTime.scheduleNow now).isScheduled = true := by
            rw [sound.scheduleNow_eq scheduled]
          simp only [AnsweredByMoves, moves, scheduled]
          refine ⟨⟨?_, trivial⟩, rfl, changed.symm⟩
          intro same
          cases same
  | invalidate =>
      refine ⟨⟨?_, trivial⟩, rfl, rfl⟩
      intro same
      cases same
  | fire =>
      refine ⟨⟨?_, fun _ => rfl, trivial⟩, rfl, rfl⟩
      intro same
      cases same
  | didEnterBackground => exact passively (.inl rfl) enabled
  | willEnterForeground => exact passively (.inr (.inl rfl)) enabled
  | timerDidFire => exact passively (.inr (.inr rfl)) enabled

end Alarm

/-- A real-time timer refines an alarm: the flag `isScheduled` is all that the
rest of the program can tell of it. -/
theorem refines_alarm (interval : ℚ) :
    Refines machine Alarm.machine (IsAlarm interval) moves where
  allowed := by
    rintro realTime isSet input ⟨sound, rfl⟩ enabled
    exact (answered_by_moves sound input enabled).1
  sends := by
    rintro realTime isSet input ⟨sound, rfl⟩ enabled
    exact (answered_by_moves sound input enabled).2.1
  arrives := by
    rintro realTime isSet input ⟨sound, rfl⟩ enabled
    exact ⟨sound_next sound input enabled, (answered_by_moves sound input enabled).2.2.symm⟩

/-- The inputs that can start the timer or run its block outright. -/
def asks (input : ℚ × Input) : Bool :=
  input.2 = .scheduleNow || input.2 = .fire

theorem count_set_moves_le (realTime : MobiRealTimeTimer) (input : ℚ × Input) :
    (realTime.moves input).count .set ≤ (asks input).toNat := by
  obtain ⟨now, input⟩ := input
  have passively : ∀ moves : List Alarm.Move, moves = [] ∨ moves = [.ring] → moves.count .set ≤ 0 := by
    rintro moves (rfl | rfl) <;> exact Nat.le_refl _
  cases input with
  | scheduleNow =>
      unfold moves
      simp only
      split
      · exact Nat.zero_le _
      · exact Nat.le_refl _
  | invalidate => exact Nat.le_refl _
  | fire => exact Nat.le_refl _
  | didEnterBackground =>
      apply passively
      rw [moves_passive (.inl rfl)]
      split <;> simp
  | willEnterForeground =>
      apply passively
      rw [moves_passive (.inr (.inl rfl))]
      split <;> simp
  | timerDidFire =>
      apply passively
      rw [moves_passive (.inr (.inr rfl))]
      split <;> simp

theorem count_set_images_le (realTime : MobiRealTimeTimer) (inputs : List (ℚ × Input)) :
    (images machine moves realTime inputs).count .set ≤ inputs.countP asks := by
  induction inputs generalizing realTime with
  | nil => exact Nat.le_refl _
  | cons input rest ih =>
      have here := count_set_moves_le realTime input
      have later := ih (machine.next realTime input)
      rw [images, List.count_append, List.countP_cons]
      cases asked : asks input <;> rw [asked] at here <;> simp at here ⊢ <;> omega

/-- However often the app comes and goes, a scheduled timer keeps the date it was
scheduled for; it runs its block once for each time it is asked to, by itself
never before the date, and never loses it: unless the app is away, a
`MobiTimer` runs to the date, and when it is away, its return is compared with it. -/
theorem punctual (interval : ℚ) {inputs : List (ℚ × Input)}
    (runs : machine.Runs (initWithInterval interval) inputs) :
    (machine.trace (initWithInterval interval) inputs).length ≤ inputs.countP asks ∧
      (∀ date, (machine.after (initWithInterval interval) inputs).fireDate = some date ↔
        machine.Since (Schedules date) Unfinished (initWithInterval interval) inputs) ∧
      (∀ date, (machine.after (initWithInterval interval) inputs).fireDate = some date →
        (machine.Since Backgrounds Away (initWithInterval interval) inputs ∧
            ∀ now, machine.emit (machine.after (initWithInterval interval) inputs)
              (now, .willEnterForeground) = [()] ↔ date ≤ now) ∨
          (¬ machine.Since Backgrounds Away (initWithInterval interval) inputs ∧
            ∃ timer, (machine.after (initWithInterval interval) inputs).timer = some timer ∧
              ∀ now, timer.IsDue now ↔ date ≤ now)) ∧
      ∀ input, machine.enabled (machine.after (initWithInterval interval) inputs) input →
        machine.emit (machine.after (initWithInterval interval) inputs) input ≠ [] →
          input.2 = .fire ∨ ∃ date,
            (machine.after (initWithInterval interval) inputs).fireDate = some date ∧
              date ≤ input.1 := by
  have initially := sound_initWithInterval interval
  have preserved : ∀ realTime input, realTime.Sound interval → machine.enabled realTime input →
      (machine.next realTime input).Sound interval :=
    fun realTime input sound enabled => sound_next sound input enabled
  have silent_iff : (machine.after (initWithInterval interval) inputs).Silent ↔
      machine.Since Backgrounds Away (initWithInterval interval) inputs := by
    refine Machine.live_iff_since preserved ?_ initially ?_ runs
    · intro realTime input sound enabled
      exact silent_next_iff sound input enabled
    · intro silent
      cases silent.1
  have date_iff : ∀ date, (machine.after (initWithInterval interval) inputs).fireDate = some date ↔
      machine.Since (Schedules date) Unfinished (initWithInterval interval) inputs := by
    intro date
    apply @Machine.live_iff_since _ _ _ machine _ _ _ (fun realTime => realTime.fireDate = some date)
      preserved ?_ _ initially ?_ _ runs
    · intro realTime input sound enabled
      exact fireDate_next_iff sound input enabled
    · intro set
      cases set
  have isAlarm : IsAlarm interval (initWithInterval interval) false := ⟨initially, rfl⟩
  obtain ⟨alarmRuns, alarmTrace, sound, -⟩ := (refines_alarm interval).run isAlarm runs
  refine ⟨?_, date_iff, ?_, ?_⟩
  · rw [← alarmTrace]
    exact le_trans (Alarm.rings_le_sets false _ alarmRuns) (count_set_images_le _ inputs)
  · intro date set
    rw [← silent_iff]
    exact awaits sound set
  · intro input enabled rings
    exact rings_cases sound enabled rings

/-- The app is away at the date of the timer. -/
def comesBackLate : List (ℚ × Input) :=
  [(0, .scheduleNow), (1, .didEnterBackground), (20, .willEnterForeground)]

theorem comesBackLate_runs : machine.Runs (initWithInterval 10) comesBackLate :=
  ⟨trivial, rfl, rfl, trivial⟩

theorem comesBackLate_punctual :
    (machine.trace (initWithInterval 10) comesBackLate).length ≤ comesBackLate.countP asks ∧
      (∀ date, (machine.after (initWithInterval 10) comesBackLate).fireDate = some date ↔
        machine.Since (Schedules date) Unfinished (initWithInterval 10) comesBackLate) ∧
      (∀ date, (machine.after (initWithInterval 10) comesBackLate).fireDate = some date →
        (machine.Since Backgrounds Away (initWithInterval 10) comesBackLate ∧
            ∀ now, machine.emit (machine.after (initWithInterval 10) comesBackLate)
              (now, .willEnterForeground) = [()] ↔ date ≤ now) ∨
          (¬ machine.Since Backgrounds Away (initWithInterval 10) comesBackLate ∧
            ∃ timer, (machine.after (initWithInterval 10) comesBackLate).timer = some timer ∧
              ∀ now, timer.IsDue now ↔ date ≤ now)) ∧
      ∀ input, machine.enabled (machine.after (initWithInterval 10) comesBackLate) input →
        machine.emit (machine.after (initWithInterval 10) comesBackLate) input ≠ [] →
          input.2 = .fire ∨ ∃ date,
            (machine.after (initWithInterval 10) comesBackLate).fireDate = some date ∧
              date ≤ input.1 :=
  punctual 10 comesBackLate_runs

end MobiRealTimeTimer

end GDTAdapter.Timers
