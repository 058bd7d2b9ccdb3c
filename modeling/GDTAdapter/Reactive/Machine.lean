import Mathlib.Data.List.Basic

namespace Reactive

universe u v w

/-! # Reactive machines

A reactive object answers each input by a new state and the list of outputs it
sends while it does so.  The environment is free in the order of its inputs;
`enabled` records only what the environment promises (an answer arrives once,
a timer fires while it is armed).  Runs are input lists, so that every theorem
about a run is a theorem about one list.
-/

/-- `enabled` is the environment's promise, `step` the object's answer. -/
structure Machine (State : Type u) (Input : Type v) (Output : Type w) where
  enabled : State → Input → Prop
  step : State → Input → State × List Output

namespace Machine

variable {State : Type u} {Input : Type v} {Output : Type w}
variable (machine : Machine State Input Output)

def next (state : State) (input : Input) : State :=
  (machine.step state input).1

def emit (state : State) (input : Input) : List Output :=
  (machine.step state input).2

def after (state : State) : List Input → State
  | [] => state
  | input :: rest => after (machine.next state input) rest

def trace (state : State) : List Input → List Output
  | [] => []
  | input :: rest => machine.emit state input ++ trace (machine.next state input) rest

/-- `property` holds of every step of the run, read in the state before it. -/
def Along (property : State → Input → Prop) (state : State) : List Input → Prop
  | [] => True
  | input :: rest => property state input ∧ Along property (machine.next state input) rest

def Runs (state : State) (inputs : List Input) : Prop :=
  machine.Along machine.enabled state inputs

/-- `property` holds in every state the run passes through. -/
def Always (property : State → Prop) (state : State) (inputs : List Input) : Prop :=
  ∀ before later, inputs = before ++ later → property (machine.after state before)

variable {machine}

@[simp] theorem after_nil (state : State) : machine.after state [] = state := rfl

@[simp] theorem after_cons (state : State) (input : Input) (rest : List Input) :
    machine.after state (input :: rest) = machine.after (machine.next state input) rest := rfl

@[simp] theorem trace_nil (state : State) : machine.trace state [] = [] := rfl

@[simp] theorem trace_cons (state : State) (input : Input) (rest : List Input) :
    machine.trace state (input :: rest) =
      machine.emit state input ++ machine.trace (machine.next state input) rest := rfl

@[simp] theorem along_nil (property : State → Input → Prop) (state : State) :
    machine.Along property state [] := trivial

@[simp] theorem along_cons (property : State → Input → Prop) (state : State) (input : Input)
    (rest : List Input) :
    machine.Along property state (input :: rest) ↔
      property state input ∧ machine.Along property (machine.next state input) rest := Iff.rfl

theorem along_append {property : State → Input → Prop} {state : State} {before later : List Input} :
    machine.Along property state (before ++ later) ↔
      machine.Along property state before ∧
        machine.Along property (machine.after state before) later := by
  induction before generalizing state with
  | nil => simp
  | cons input rest ih => simp only [List.cons_append, along_cons, after_cons, ih, and_assoc]

instance decidableAlong (property : State → Input → Prop)
    [∀ state input, Decidable (property state input)] (state : State) :
    (inputs : List Input) → Decidable (machine.Along property state inputs)
  | [] => isTrue trivial
  | input :: rest =>
      have := decidableAlong property (machine.next state input) rest
      inferInstanceAs (Decidable (property state input ∧
        machine.Along property (machine.next state input) rest))

instance [∀ state input, Decidable (machine.enabled state input)] (state : State)
    (inputs : List Input) : Decidable (machine.Runs state inputs) :=
  inferInstanceAs (Decidable (machine.Along machine.enabled state inputs))

theorem Along.mono {property weaker : State → Input → Prop} {state : State} {inputs : List Input}
    (holds : machine.Along property state inputs)
    (weaken : ∀ state input, property state input → weaker state input) :
    machine.Along weaker state inputs := by
  induction inputs generalizing state with
  | nil => trivial
  | cons input rest ih => exact ⟨weaken state input holds.1, ih holds.2⟩

theorem along_congr_step {left right : State → Input → Prop}
    (agree : ∀ state input, left state input ↔ right state input) {state : State}
    {inputs : List Input} :
    machine.Along left state inputs ↔ machine.Along right state inputs := by
  induction inputs generalizing state with
  | nil => exact Iff.rfl
  | cons input rest ih => simp only [along_cons, agree, ih]

theorem always_cons {property : State → Prop} {state : State} {input : Input} {rest : List Input} :
    machine.Always property state (input :: rest) ↔
      property state ∧ machine.Always property (machine.next state input) rest := by
  constructor
  · intro holds
    refine ⟨holds [] _ rfl, ?_⟩
    rintro before later rfl
    exact holds (input :: before) later rfl
  · rintro ⟨first, holds⟩ before later split
    cases before with
    | nil => exact first
    | cons head before =>
        obtain ⟨rfl, rfl⟩ := List.cons.inj split
        exact holds before later rfl

theorem always_nil {property : State → Prop} {state : State} :
    machine.Always property state [] ↔ property state := by
  constructor
  · intro holds
    exact holds [] [] rfl
  · intro holds before later split
    obtain ⟨rfl, rfl⟩ := List.append_eq_nil_iff.mp split.symm
    exact holds

/-- The invariant rule.  `good` is what the run is assumed to satisfy beyond
the promise of the environment; only those steps have to preserve. -/
theorem always_of_invariant {invariant : State → Prop} {good : State → Input → Prop}
    (preserved : ∀ state input, invariant state → machine.enabled state input →
      good state input → invariant (machine.next state input))
    {state : State} (initially : invariant state) {inputs : List Input}
    (runs : machine.Runs state inputs) (allGood : machine.Along good state inputs) :
    machine.Always invariant state inputs := by
  induction inputs generalizing state with
  | nil => exact always_nil.mpr initially
  | cons input rest ih =>
      exact always_cons.mpr ⟨initially,
        ih (preserved state input initially runs.1 allGood.1) runs.2 allGood.2⟩

/-- The exactness rule.  When, in states of the invariant, a step keeps `property`
and has `stepProperty` just if it is `good`, a run never leaves `property` and has
`stepProperty` throughout just if all its steps are.  `promise` is what every step
of the run is known to satisfy. -/
theorem always_and_along_iff {invariant property : State → Prop}
    {promise stepProperty good : State → Input → Prop}
    (preserved : ∀ state input, invariant state → promise state input →
      invariant (machine.next state input))
    (exact_step : ∀ state input, invariant state → property state → promise state input →
      (property (machine.next state input) ∧ stepProperty state input ↔ good state input))
    {state : State} (initially : invariant state) (start : property state) {inputs : List Input}
    (promised : machine.Along promise state inputs) :
    machine.Always property state inputs ∧ machine.Along stepProperty state inputs ↔
      machine.Along good state inputs := by
  induction inputs generalizing state with
  | nil => exact iff_of_true ⟨always_nil.mpr start, trivial⟩ trivial
  | cons input rest ih =>
      have keeps := exact_step state input initially start promised.1
      have later := ih (preserved state input initially promised.1)
      rw [always_cons, along_cons, along_cons]
      constructor
      · rintro ⟨⟨-, holds⟩, here, steps⟩
        have kept : property (machine.next state input) := holds [] rest rfl
        exact ⟨keeps.mp ⟨kept, here⟩, (later kept promised.2).mp ⟨holds, steps⟩⟩
      · rintro ⟨here, allGood⟩
        obtain ⟨kept, stepHolds⟩ := keeps.mpr here
        obtain ⟨holds, steps⟩ := (later kept promised.2).mpr allGood
        exact ⟨⟨start, holds⟩, stepHolds, steps⟩

theorem along_true (state : State) (inputs : List Input) :
    machine.Along (fun _ _ => True) state inputs := by
  induction inputs generalizing state with
  | nil => trivial
  | cons input rest ih => exact ⟨trivial, ih _⟩

theorem always_iff_along {invariant property : State → Prop} {good : State → Input → Prop}
    (preserved : ∀ state input, invariant state → machine.enabled state input →
      invariant (machine.next state input))
    (exact_step : ∀ state input, invariant state → property state → machine.enabled state input →
      (property (machine.next state input) ↔ good state input))
    {state : State} (initially : invariant state) (start : property state) {inputs : List Input}
    (runs : machine.Runs state inputs) :
    machine.Always property state inputs ↔ machine.Along good state inputs := by
  have rule := always_and_along_iff preserved
    (fun state input sound holds enabled =>
      (and_iff_left trivial).trans (exact_step state input sound holds enabled))
    initially start runs
  exact (and_iff_left (along_true state inputs)).symm.trans rule

/-- The exactness rule for a property of the single steps. -/
theorem along_iff_along {invariant : State → Prop} {promise stepProperty good : State → Input → Prop}
    (preserved : ∀ state input, invariant state → promise state input →
      invariant (machine.next state input))
    (exact_step : ∀ state input, invariant state → promise state input →
      (stepProperty state input ↔ good state input))
    {state : State} (initially : invariant state) {inputs : List Input}
    (promised : machine.Along promise state inputs) :
    machine.Along stepProperty state inputs ↔ machine.Along good state inputs := by
  have rule := @always_and_along_iff _ _ _ machine invariant (fun _ => True) promise stepProperty
    good preserved
    (fun state input sound _ given => (and_iff_right trivial).trans (exact_step state input sound given))
    state initially trivial inputs promised
  exact (and_iff_right fun _ _ _ => trivial).symm.trans rule

/-- The exactness rule for a property that needs no invariant and no promise. -/
theorem always_iff_along_of_exact {property : State → Prop} {good : State → Input → Prop}
    (exact_step : ∀ state input, property state →
      (property (machine.next state input) ↔ good state input))
    {state : State} (start : property state) (inputs : List Input) :
    machine.Always property state inputs ↔ machine.Along good state inputs := by
  have rule := @always_and_along_iff _ _ _ machine (fun _ => True) property (fun _ _ => True)
    (fun _ _ => True) good (fun _ _ _ _ => trivial)
    (fun state input _ holds _ => (and_iff_left trivial).trans (exact_step state input holds))
    state trivial start inputs (along_true state inputs)
  exact (and_iff_left (along_true state inputs)).symm.trans rule

theorem Always.mono {property weaker : State → Prop} {state : State} {inputs : List Input}
    (weaken : ∀ state, property state → weaker state)
    (holds : machine.Always property state inputs) : machine.Always weaker state inputs :=
  fun before later split => weaken _ (holds before later split)

end Machine

end Reactive
