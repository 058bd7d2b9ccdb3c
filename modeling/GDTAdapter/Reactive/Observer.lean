import GDTAdapter.Reactive.Monitor

namespace Reactive

universe u v w x y

/-! # Observers

An observer keeps a record of a run beside the machine.  It reads every step and
influences none.
-/

namespace Machine

variable {State : Type u} {Input : Type v} {Output : Type w} {Record : Type x}

def observed (machine : Machine State Input Output) (record : State → Record → Input → Record) :
    Machine (State × Record) Input Output where
  enabled seen input := machine.enabled seen.1 input
  step seen input :=
    ((machine.next seen.1 input, record seen.1 seen.2 input), machine.emit seen.1 input)

variable {machine : Machine State Input Output} {record : State → Record → Input → Record}

@[simp] theorem observed_next (seen : State × Record) (input : Input) :
    (machine.observed record).next seen input =
      (machine.next seen.1 input, record seen.1 seen.2 input) := rfl

@[simp] theorem observed_emit (seen : State × Record) (input : Input) :
    (machine.observed record).emit seen input = machine.emit seen.1 input := rfl

variable {Phase : Type y}

/-- The phase of the monitor, as long as it has not rejected. -/
def monitored (machine : Machine State Input Output) (monitor : Monitor Phase Output) :
    Machine (State × Phase) Input Output :=
  machine.observed fun state phase input => (monitor.run phase (machine.emit state input)).getD phase

/-- If a step is accepted in its phase and has `stepProperty` just if it is
`good`, then a run is accepted and has `stepProperty` throughout just if all its
steps are. -/
theorem accepts_and_along_iff {monitor : Monitor Phase Output} {stepProperty : State → Input → Prop}
    {good : State × Phase → Input → Prop}
    (exact_step : ∀ state phase input,
      (monitor.run phase (machine.emit state input)).isSome = true ∧ stepProperty state input ↔
        good (state, phase) input)
    (state : State) (phase : Phase) (inputs : List Input) :
    monitor.Accepts phase (machine.trace state inputs) ∧ machine.Along stepProperty state inputs ↔
      (machine.monitored monitor).Along good (state, phase) inputs := by
  induction inputs generalizing state phase with
  | nil => exact iff_of_true ⟨rfl, trivial⟩ trivial
  | cons input rest ih =>
      have here := exact_step state phase input
      rw [Monitor.Accepts, trace_cons, Monitor.run_append, along_cons, along_cons]
      cases accepted : monitor.run phase (machine.emit state input) with
      | none =>
          rw [accepted] at here
          refine iff_of_false ?_ ?_
          · intro holds
            cases holds.1
          · intro holds
            cases (here.mpr holds.1).1
      | some later =>
          have moved : (machine.monitored monitor).next (state, phase) input =
              (machine.next state input, later) := by
            simp only [monitored, observed_next, accepted, Option.getD_some]
          rw [accepted] at here
          rw [moved, ← ih, ← here, Option.bind_some]
          constructor
          · rintro ⟨accepts, holds, along⟩
            exact ⟨⟨rfl, holds⟩, accepts, along⟩
          · rintro ⟨⟨-, holds⟩, accepts, along⟩
            exact ⟨accepts, holds, along⟩

end Machine

end Reactive
