import GDTAdapter.Reactive.Refinement
import Mathlib.Data.Rat.Floor
import Mathlib.Tactic.Linarith

namespace GDTAdapter.Timers

open Reactive

/-! # MobiTimer

A timer that can be paused.  It wraps an `NSTimer` whose fire date it moves: to
the distant future while it is paused, and a whole interval ahead when it is
scheduled.
-/

/-- `isValid` and `fireDate` are those of the `NSTimer`; the distant future is
`none`.  `selector` tells whether there is still something to send. -/
structure MobiTimer where
  timeInterval : ℚ
  isRepeatingTimer : Bool
  isValid : Bool := true
  fireDate : Option ℚ := none
  isCountdownActive : Bool := false
  selector : Bool := true
deriving DecidableEq, Repr

namespace MobiTimer

def timerWithTimeInterval (seconds : ℚ) (repeats : Bool) : MobiTimer where
  timeInterval := seconds
  isRepeatingTimer := repeats

def invalidate (self : MobiTimer) : MobiTimer :=
  { self with selector := false, isValid := false, fireDate := none, isCountdownActive := false }

def scheduleNow (now : ℚ) (self : MobiTimer) : MobiTimer :=
  if !self.isValid then self
  else if self.isCountdownActive then self
  else { self with fireDate := some (now + self.timeInterval), isCountdownActive := true }

def pause (self : MobiTimer) : MobiTimer :=
  if !self.isCountdownActive then self
  else if !self.isValid then self
  else { self with fireDate := none, isCountdownActive := false }

def resume (now : ℚ) (self : MobiTimer) : MobiTimer := self.scheduleNow now

/-- The second component tells whether the target is sent the selector. -/
def timerDidFire (self : MobiTimer) : MobiTimer × Bool :=
  let self := if !self.isRepeatingTimer then { self with isCountdownActive := false } else self
  (self, self.selector)

/-- The first of the dates `date`, `date + interval`, … that lies after `now`.  An
`NSTimer` takes a tenth of a millisecond for an interval that is not positive. -/
def nextFireDate (now interval date : ℚ) : ℚ :=
  let interval := if 0 < interval then interval else 1 / 10000
  date + interval * (⌊(now - date) / interval⌋ + 1)

/-- What the `NSTimer` does after it has fired: a repeating one moves on to its
next date, the other one is invalid. -/
def afterFiring (now : ℚ) (self : MobiTimer) : MobiTimer :=
  if self.isRepeatingTimer then
    { self with fireDate := self.fireDate.map (nextFireDate now self.timeInterval) }
  else { self with isValid := false, fireDate := none }

inductive Input where
  | scheduleNow
  | pause
  | resume
  | invalidate
  /-- The `NSTimer` fires. -/
  | fire
deriving DecidableEq, Repr

def step (self : MobiTimer) (input : ℚ × Input) : MobiTimer × List Unit :=
  match input.2 with
  | .scheduleNow => (self.scheduleNow input.1, [])
  | .pause => (self.pause, [])
  | .resume => (self.resume input.1, [])
  | .invalidate => (self.invalidate, [])
  | .fire => ((self.timerDidFire.1).afterFiring input.1, if self.timerDidFire.2 then [()] else [])

/-- The `NSTimer` has reached its fire date. -/
def IsDue (now : ℚ) (self : MobiTimer) : Prop :=
  self.isValid = true ∧ ∃ date, self.fireDate = some date ∧ date ≤ now

instance (now : ℚ) (self : MobiTimer) : Decidable (self.IsDue now) :=
  decidable_of_iff (self.isValid = true ∧ self.fireDate.any (fun date => decide (date ≤ now)) = true)
    (by simp only [IsDue, Option.any_eq_true, decide_eq_true_eq])

def machine : Machine MobiTimer (ℚ × Input) Unit where
  enabled self input := input.2 = .fire → self.IsDue input.1
  step := step

/-- The fire date is set exactly while the timer counts down. -/
structure Sound (seconds : ℚ) (repeats : Bool) (timer : MobiTimer) : Prop where
  interval : timer.timeInterval = seconds
  repeats : timer.isRepeatingTimer = repeats
  counting : timer.isCountdownActive = timer.fireDate.isSome
  valid : timer.isCountdownActive = true → timer.isValid = true
  target : timer.isValid = true → timer.selector = true

theorem sound_timerWithTimeInterval (seconds : ℚ) (repeats : Bool) :
    (timerWithTimeInterval seconds repeats).Sound seconds repeats :=
  ⟨rfl, rfl, rfl, fun _ => rfl, fun _ => rfl⟩

section Operations

variable {self : MobiTimer} {seconds now : ℚ} {repeats : Bool}

theorem scheduleNow_of_idle (valid : self.isValid = true) (idle : self.isCountdownActive = false) :
    self.scheduleNow now =
      { self with fireDate := some (now + self.timeInterval), isCountdownActive := true } := by
  simp [scheduleNow, valid, idle]

theorem scheduleNow_of_refused (refused : self.isValid = true → self.isCountdownActive = true) :
    self.scheduleNow now = self := by
  cases valid : self.isValid with
  | false => simp [scheduleNow, valid]
  | true => simp [scheduleNow, valid, refused valid]

theorem Sound.scheduleNow (sound : self.Sound seconds repeats) : (self.scheduleNow now).Sound seconds repeats := by
  by_cases refused : self.isValid = true → self.isCountdownActive = true
  · rw [scheduleNow_of_refused refused]
    exact sound
  · obtain ⟨valid, idle⟩ := Classical.not_imp.mp refused
    rw [scheduleNow_of_idle valid (Bool.eq_false_iff.mpr idle)]
    exact ⟨sound.interval, sound.repeats, rfl, fun _ => valid, sound.target⟩

theorem Sound.pause_eq (sound : self.Sound seconds repeats) :
    self.pause = { self with fireDate := none, isCountdownActive := false } := by
  cases active : self.isCountdownActive with
  | true => simp [MobiTimer.pause, active, sound.valid active]
  | false =>
      have stopped : self.fireDate = none := by
        rw [← Option.not_isSome_iff_eq_none, ← sound.counting, active]
        exact Bool.false_ne_true
      obtain ⟨timeInterval, isRepeatingTimer, isValid, fireDate, isCountdownActive, selector⟩ := self
      subst active stopped
      rfl

theorem Sound.pause (sound : self.Sound seconds repeats) : self.pause.Sound seconds repeats := by
  rw [sound.pause_eq]
  exact ⟨sound.interval, sound.repeats, rfl, nofun, sound.target⟩

theorem Sound.invalidate (sound : self.Sound seconds repeats) : self.invalidate.Sound seconds repeats :=
  ⟨sound.interval, sound.repeats, rfl, nofun, nofun⟩

theorem lt_nextFireDate {interval date : ℚ} : now < nextFireDate now interval date := by
  unfold nextFireDate
  generalize step_eq : (if 0 < interval then interval else 1 / 10000) = step
  have positive : 0 < step := by
    rw [← step_eq]
    split
    · assumption
    · norm_num
  have bound := Int.lt_floor_add_one ((now - date) / step)
  rw [div_lt_iff₀ positive] at bound
  simp only
  linarith

end Operations

section Steps

variable {timer : MobiTimer} {seconds now moment : ℚ} {repeats : Bool}

/-- What firing leaves behind. -/
theorem next_fire_cases (sound : timer.Sound seconds repeats) (due : timer.IsDue now) :
    (repeats = true ∧ ∃ date, now < date ∧
        machine.next timer (now, .fire) = { timer with fireDate := some date }) ∨
      (repeats = false ∧ machine.next timer (now, .fire) =
        { timer with isValid := false, fireDate := none, isCountdownActive := false }) := by
  obtain ⟨-, date, set, -⟩ := due
  cases repeats with
  | true =>
      refine .inl ⟨rfl, nextFireDate now timer.timeInterval date, lt_nextFireDate, ?_⟩
      simp [machine, Machine.next, step, timerDidFire, afterFiring, sound.repeats, set]
  | false =>
      refine .inr ⟨rfl, ?_⟩
      simp [machine, Machine.next, step, timerDidFire, afterFiring, sound.repeats]

theorem sound_next (sound : timer.Sound seconds repeats) (input : ℚ × Input)
    (enabled : machine.enabled timer input) : (machine.next timer input).Sound seconds repeats := by
  obtain ⟨now, input⟩ := input
  cases input with
  | scheduleNow => exact sound.scheduleNow
  | pause => exact sound.pause
  | resume => exact sound.scheduleNow
  | invalidate => exact sound.invalidate
  | fire =>
      have due := enabled rfl
      rcases next_fire_cases sound due with ⟨-, date, -, moved⟩ | ⟨-, spent⟩
      · obtain ⟨valid, date, set, -⟩ := due
        have active : timer.isCountdownActive = true := by
          rw [sound.counting, set, Option.isSome_some]
        rw [moved]
        exact ⟨sound.interval, sound.repeats, active, fun _ => valid, sound.target⟩
      · rw [spent]
        exact ⟨sound.interval, sound.repeats, rfl, nofun, nofun⟩

/-- The input starts a countdown that has run out at the moment. -/
def Starts (moment : ℚ) (timer : MobiTimer) (input : ℚ × Input) : Prop :=
  (input.2 = .scheduleNow ∨ input.2 = .resume) ∧ timer.isValid = true ∧
    timer.isCountdownActive = false ∧ input.1 + timer.timeInterval ≤ moment

/-- The input does not disturb a countdown. -/
def Undisturbed (_ : MobiTimer) (input : ℚ × Input) : Prop :=
  input.2 = .scheduleNow ∨ input.2 = .resume

theorem due_scheduleNow (due : (timer.scheduleNow now).IsDue moment) :
    (timer.isValid = true ∧ timer.isCountdownActive = false ∧ now + timer.timeInterval ≤ moment) ∨
      timer.IsDue moment := by
  by_cases refused : timer.isValid = true → timer.isCountdownActive = true
  · rw [scheduleNow_of_refused refused] at due
    exact .inr due
  · obtain ⟨valid, idle⟩ := Classical.not_imp.mp refused
    have idle := Bool.eq_false_iff.mpr idle
    rw [scheduleNow_of_idle valid idle] at due
    obtain ⟨-, date, set, passed⟩ := due
    cases set
    exact .inl ⟨valid, idle, passed⟩

/-- The cause of a one-shot timer's being due. -/
theorem due_traced (sound : timer.Sound seconds false) (input : ℚ × Input)
    (enabled : machine.enabled timer input) (due : (machine.next timer input).IsDue moment) :
    timer.Starts moment input ∨ timer.IsDue moment ∧ timer.Undisturbed input := by
  obtain ⟨now, input⟩ := input
  cases input with
  | scheduleNow =>
      rcases due_scheduleNow due with started | kept
      · exact .inl ⟨.inl rfl, started⟩
      · exact .inr ⟨kept, .inl rfl⟩
  | resume =>
      rcases due_scheduleNow due with started | kept
      · exact .inl ⟨.inr rfl, started⟩
      · exact .inr ⟨kept, .inr rfl⟩
  | pause =>
      have paused : machine.next timer (now, .pause) = timer.pause := rfl
      rw [paused, sound.pause_eq] at due
      obtain ⟨-, date, set, -⟩ := due
      cases set
  | invalidate => cases due.1
  | fire =>
      rcases next_fire_cases sound (enabled rfl) with ⟨repeats, -⟩ | ⟨-, spent⟩
      · cases repeats
      · rw [spent] at due
        cases due.1

theorem due_of_starts {input : ℚ × Input} (starts : timer.Starts moment input) :
    (machine.next timer input).IsDue moment := by
  obtain ⟨now, input⟩ := input
  obtain ⟨scheduled, valid, idle, passed⟩ := starts
  have moved : machine.next timer (now, input) = timer.scheduleNow now := by
    rcases scheduled with rfl | rfl <;> rfl
  rw [moved, scheduleNow_of_idle valid idle]
  exact ⟨valid, _, rfl, passed⟩

theorem due_of_undisturbed (sound : timer.Sound seconds repeats) {input : ℚ × Input}
    (due : timer.IsDue moment) (undisturbed : timer.Undisturbed input) :
    (machine.next timer input).IsDue moment := by
  obtain ⟨now, input⟩ := input
  have moved : machine.next timer (now, input) = timer.scheduleNow now := by
    rcases undisturbed with rfl | rfl <;> rfl
  have active : timer.isCountdownActive = true := by
    obtain ⟨-, date, set, -⟩ := due
    rw [sound.counting, set, Option.isSome_some]
  rw [moved, scheduleNow_of_refused fun _ => active]
  exact due

theorem due_next_iff (sound : timer.Sound seconds false) (input : ℚ × Input)
    (enabled : machine.enabled timer input) :
    (machine.next timer input).IsDue moment ↔
      timer.Starts moment input ∨ timer.IsDue moment ∧ timer.Undisturbed input := by
  constructor
  · intro due
    exact due_traced sound input enabled due
  · rintro (starts | ⟨due, undisturbed⟩)
    · exact due_of_starts starts
    · exact due_of_undisturbed sound due undisturbed

theorem isValid_scheduleNow : (timer.scheduleNow now).isValid = timer.isValid := by
  unfold scheduleNow
  split
  · rfl
  · split <;> rfl

/-- A step uses up as many firings as it sends. -/
theorem fires_step (sound : timer.Sound seconds false) (input : ℚ × Input)
    (enabled : machine.enabled timer input) :
    (machine.emit timer input).length + (machine.next timer input).isValid.toNat ≤
      timer.isValid.toNat := by
  obtain ⟨now, input⟩ := input
  cases input with
  | scheduleNow => exact Nat.le_of_eq (by simp [machine, Machine.emit, Machine.next, step, isValid_scheduleNow])
  | resume =>
      exact Nat.le_of_eq (by
        simp [machine, Machine.emit, Machine.next, step, resume, isValid_scheduleNow])
  | pause =>
      have paused : machine.next timer (now, .pause) = timer.pause := rfl
      rw [paused, sound.pause_eq]
      exact Nat.le_of_eq (Nat.zero_add _)
  | invalidate => exact Nat.zero_le _
  | fire =>
      have due := enabled rfl
      rcases next_fire_cases sound due with ⟨repeats, -⟩ | ⟨-, spent⟩
      · cases repeats
      · have once : (machine.emit timer (now, .fire)).length ≤ 1 := by
          change (if timer.timerDidFire.2 = true then [()] else []).length ≤ 1
          split <;> simp
        rw [spent, due.1]
        exact once

/-- A one-shot timer that is still valid has one firing left. -/
theorem fires_le_valid (sound : timer.Sound seconds false) {inputs : List (ℚ × Input)}
    (runs : machine.Runs timer inputs) : (machine.trace timer inputs).length ≤ timer.isValid.toNat := by
  induction inputs generalizing timer with
  | nil => exact Nat.zero_le _
  | cons input rest ih =>
      have here := fires_step sound input runs.1
      have later := ih (sound_next sound input runs.1) runs.2
      rw [Machine.trace_cons, List.length_append]
      exact le_trans (Nat.add_le_add_left later _) here

end Steps

/-- A one-shot timer fires at most once, and it is due just if a countdown was
started a whole interval ago that nothing has paused or ended since. -/
theorem one_shot (seconds : ℚ) {inputs : List (ℚ × Input)}
    (runs : machine.Runs (timerWithTimeInterval seconds false) inputs) :
    (machine.trace (timerWithTimeInterval seconds false) inputs).length ≤ 1 ∧
      ∀ moment, (machine.after (timerWithTimeInterval seconds false) inputs).IsDue moment ↔
        machine.Since (Starts moment) Undisturbed (timerWithTimeInterval seconds false) inputs := by
  have sound := sound_timerWithTimeInterval seconds false
  refine ⟨fires_le_valid sound runs, ?_⟩
  intro moment
  apply Machine.live_iff_since (fun _ input sound enabled => sound_next sound input enabled)
    (fun _ input sound enabled => due_next_iff sound input enabled) sound ?_ runs
  rintro ⟨-, date, set, -⟩
  cases set

/-- Pausing makes a timer of five seconds run for five more. -/
def pausedOnce : List (ℚ × Input) := [(0, .scheduleNow), (1, .pause), (2, .resume), (7, .fire)]

theorem pausedOnce_runs : machine.Runs (timerWithTimeInterval 5 false) pausedOnce := by
  refine ⟨nofun, nofun, nofun, ?_, trivial⟩
  intro _
  exact ⟨rfl, 2 + 5, rfl, by norm_num⟩

theorem pausedOnce_fires :
    (machine.trace (timerWithTimeInterval 5 false) pausedOnce).length ≤ 1 ∧
      ∀ moment, (machine.after (timerWithTimeInterval 5 false) pausedOnce).IsDue moment ↔
        machine.Since (Starts moment) Undisturbed (timerWithTimeInterval 5 false) pausedOnce :=
  one_shot 5 pausedOnce_runs

end MobiTimer

end GDTAdapter.Timers
