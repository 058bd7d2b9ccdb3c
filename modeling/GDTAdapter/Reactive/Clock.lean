import GDTAdapter.Reactive.Machine
import Mathlib.Algebra.Order.Group.Defs

namespace Reactive

universe u v w x

/-! # Timed runs

The inputs of a timed machine come with the moment of their arrival, and moments
do not run backwards.
-/

namespace Machine

variable {State : Type u} {Input : Type v} {Output : Type w} {Time : Type x}

/-- The machine beside a clock that shows the moment of the latest input. -/
def clocked [LE Time] (machine : Machine State (Time × Input) Output) :
    Machine (State × Time) (Time × Input) Output where
  enabled seen input := seen.2 ≤ input.1 ∧ machine.enabled seen.1 input
  step seen input := ((machine.next seen.1 input, input.1), machine.emit seen.1 input)

variable {machine : Machine State (Time × Input) Output}

@[simp] theorem clocked_next [LE Time] (seen : State × Time) (input : Time × Input) :
    machine.clocked.next seen input = (machine.next seen.1 input, input.1) := rfl

@[simp] theorem clocked_emit [LE Time] (seen : State × Time) (input : Time × Input) :
    machine.clocked.emit seen input = machine.emit seen.1 input := rfl

theorem clocked_after_fst [LE Time] (seen : State × Time) (inputs : List (Time × Input)) :
    (machine.clocked.after seen inputs).1 = machine.after seen.1 inputs := by
  induction inputs generalizing seen with
  | nil => rfl
  | cons input rest ih => exact ih (machine.clocked.next seen input)

theorem runs_of_clocked [LE Time] {seen : State × Time} {inputs : List (Time × Input)}
    (runs : machine.clocked.Runs seen inputs) : machine.Runs seen.1 inputs := by
  induction inputs generalizing seen with
  | nil => trivial
  | cons input rest ih => exact ⟨runs.1.2, ih runs.2⟩

/-- The moments of a run are in order, and none is earlier than its start. -/
theorem ordered_of_clocked [Preorder Time] {seen : State × Time} {inputs : List (Time × Input)}
    (runs : machine.clocked.Runs seen inputs) :
    (∀ input ∈ inputs, seen.2 ≤ input.1) ∧
      inputs.Pairwise fun earlier later => earlier.1 ≤ later.1 := by
  induction inputs generalizing seen with
  | nil => exact ⟨nofun, .nil⟩
  | cons input rest ih =>
      obtain ⟨later, ordered⟩ := ih runs.2
      have here : seen.2 ≤ input.1 := runs.1.1
      refine ⟨?_, .cons later ordered⟩
      intro other member
      rcases List.mem_cons.mp member with rfl | member
      · exact here
      · exact le_trans here (later other member)

section Spacing

variable [AddCommGroup Time] [LinearOrder Time] [IsOrderedAddMonoid Time]
variable {good ring : State → Time × Input → Prop} {quiet : Time → State → Prop} {gap : Time}

/-- What is quiet until some moment stays so, if no step of the run brings the
next ring closer than the gap. -/
theorem quiet_after
    (postpones : ∀ moment state input, quiet moment state → machine.enabled state input →
      good state input → moment ≤ input.1 + gap → quiet moment (machine.next state input))
    {moment : Time} {seen : State × Time} {inputs : List (Time × Input)}
    (runs : machine.clocked.Runs seen inputs) (allGood : machine.Along good seen.1 inputs)
    (start : quiet moment seen.1) (recent : moment ≤ seen.2 + gap) :
    quiet moment (machine.after seen.1 inputs) := by
  induction inputs generalizing seen with
  | nil => exact start
  | cons input rest ih =>
      have later : moment ≤ input.1 + gap := le_trans recent (add_le_add_left runs.1.1 gap)
      have kept := postpones moment seen.1 input start runs.1.2 allGood.1 later
      exact @ih (machine.next seen.1 input, input.1) runs.2 allGood.2 kept later

/-- The spacing rule: if a ring makes the machine quiet for the gap, and no step
brings the next ring closer than that, any two rings are that far apart. -/
theorem apart_of_quiet
    (waits : ∀ moment state input, quiet moment state → machine.enabled state input →
      ring state input → moment ≤ input.1)
    (rewinds : ∀ state input, machine.enabled state input → ring state input →
      quiet (input.1 + gap) (machine.next state input))
    (postpones : ∀ moment state input, quiet moment state → machine.enabled state input →
      good state input → moment ≤ input.1 + gap → quiet moment (machine.next state input))
    {seen : State × Time} {first second : Time × Input} {before middle later : List (Time × Input)}
    (runs : machine.clocked.Runs seen (before ++ first :: (middle ++ second :: later)))
    (allGood : machine.Along good seen.1 (before ++ first :: (middle ++ second :: later)))
    (rings : ring (machine.after seen.1 before) first)
    (ringsAgain : ring (machine.after (machine.after seen.1 before) (first :: middle)) second) :
    first.1 + gap ≤ second.1 := by
  obtain ⟨-, enabled, rest⟩ := along_append.mp runs
  obtain ⟨middleRuns, enabledAgain, -⟩ := along_append.mp rest
  obtain ⟨-, -, restGood⟩ := along_append.mp allGood
  obtain ⟨middleGood, -, -⟩ := along_append.mp restGood
  have same : (machine.clocked.after seen before).1 = machine.after seen.1 before :=
    clocked_after_fst seen before
  have allowed := enabled.2
  rw [same] at allowed
  have quieted := rewinds _ first allowed rings
  have kept := quiet_after postpones middleRuns (by rw [clocked_next, same]; exact middleGood)
    (by rw [clocked_next, same]; exact quieted) (le_refl _)
  have allowedAgain := enabledAgain.2
  rw [clocked_after_fst, clocked_next, same] at allowedAgain
  rw [clocked_next, same] at kept
  exact waits _ _ second kept allowedAgain ringsAgain

end Spacing

end Machine

end Reactive
