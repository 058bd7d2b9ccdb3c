import GDTAdapter.Reactive.Machine

namespace Reactive

universe u v w x

/-! # Monitors

A monitor reads the outputs of a run one after another.  It moves to its next
phase or rejects, so an accepted trace is a word of the language the monitor
describes.
-/

abbrev Monitor (Phase : Type u) (Output : Type v) := Phase → Output → Option Phase

namespace Monitor

variable {Phase : Type u} {Output : Type v} (monitor : Monitor Phase Output)

def run (phase : Phase) : List Output → Option Phase
  | [] => some phase
  | output :: rest => (monitor phase output).bind (fun phase => run phase rest)

def Accepts (phase : Phase) (outputs : List Output) : Prop :=
  (monitor.run phase outputs).isSome = true

variable {monitor}

@[simp] theorem run_nil (phase : Phase) : monitor.run phase [] = some phase := rfl

@[simp] theorem run_cons (phase : Phase) (output : Output) (rest : List Output) :
    monitor.run phase (output :: rest) =
      (monitor phase output).bind (fun phase => monitor.run phase rest) := rfl

theorem run_append (phase : Phase) (first second : List Output) :
    monitor.run phase (first ++ second) =
      (monitor.run phase first).bind (fun phase => monitor.run phase second) := by
  induction first generalizing phase with
  | nil => rfl
  | cons output rest ih =>
      rw [List.cons_append, run_cons, run_cons]
      cases monitor phase output with
      | none => rfl
      | some later => exact ih later

theorem run_of_ignored {phase : Phase} {outputs : List Output}
    (ignored : ∀ output ∈ outputs, monitor phase output = some phase) :
    monitor.run phase outputs = some phase := by
  induction outputs with
  | nil => rfl
  | cons output rest ih =>
      have first := ignored output List.mem_cons_self
      have later := ih (fun other member => ignored other (List.mem_cons_of_mem _ member))
      rw [run_cons, first, Option.bind_some, later]

variable {State : Type w} {Input : Type x} {machine : Machine State Input Output}

/-- If every good step drives the monitor from a related phase to a related
phase, a run of good steps is accepted. -/
theorem run_trace_of_simulation {related : State → Phase → Prop} {good : State → Input → Prop}
    (simulates : ∀ state input phase, related state phase → machine.enabled state input →
      good state input → ∃ later, monitor.run phase (machine.emit state input) = some later ∧
        related (machine.next state input) later)
    {state : State} {phase : Phase} (initially : related state phase) {inputs : List Input}
    (runs : machine.Runs state inputs) (allGood : machine.Along good state inputs) :
    ∃ later, monitor.run phase (machine.trace state inputs) = some later ∧
      related (machine.after state inputs) later := by
  induction inputs generalizing state phase with
  | nil => exact ⟨phase, rfl, initially⟩
  | cons input rest ih =>
      obtain ⟨middle, here, stillRelated⟩ :=
        simulates state input phase initially runs.1 allGood.1
      obtain ⟨later, there, finallyRelated⟩ := ih stillRelated runs.2 allGood.2
      refine ⟨later, ?_, finallyRelated⟩
      rw [Machine.trace_cons, run_append, here, Option.bind_some, there]

theorem accepts_trace_of_simulation {related : State → Phase → Prop}
    (simulates : ∀ state input phase, related state phase →
      ∃ later, monitor.run phase (machine.emit state input) = some later ∧
        related (machine.next state input) later)
    {state : State} {phase : Phase} (initially : related state phase) (inputs : List Input) :
    monitor.Accepts phase (machine.trace state inputs) := by
  induction inputs generalizing state phase with
  | nil => rfl
  | cons input rest ih =>
      obtain ⟨middle, here, stillRelated⟩ := simulates state input phase initially
      have there := ih stillRelated
      rw [Accepts, Machine.trace_cons, run_append, here, Option.bind_some]
      exact there

end Monitor

end Reactive
