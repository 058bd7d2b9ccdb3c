import GDTAdapter.Reactive.Monitor

namespace Reactive

universe u v w x

/-! # Steps taken apart

A step of a large object is a sequence of small acts.  Once every step has been
taken apart, what is known of the acts is known of the steps and so of the runs.
-/

section Acts

variable {State : Type u} {Input : Type v} {Output : Type w} {Phase : Type x}

/-- Acts that follow each other, with all that they send. -/
inductive Acts (act : State → List Output → State → Prop) : State → List Output → State → Prop
  | nil (state : State) : Acts act state [] state
  | cons {before middle after : State} {outputs more : List Output}
      (first : act before outputs middle) (rest : Acts act middle more after) :
      Acts act before (outputs ++ more) after

namespace Acts

variable {act : State → List Output → State → Prop} {before middle after : State}
variable {outputs more : List Output}

theorem single (first : act before outputs after) : Acts act before outputs after := by
  have chain := cons first (nil after)
  rw [List.append_nil] at chain
  exact chain

/-- An act that sends nothing, before others. -/
theorem silently (first : act before [] middle) (rest : Acts act middle outputs after) :
    Acts act before outputs after :=
  cons first rest

theorem trans (first : Acts act before outputs middle) (second : Acts act middle more after) :
    Acts act before (outputs ++ more) after := by
  induction first with
  | nil state => exact second
  | cons first rest ih =>
      rw [List.append_assoc]
      exact cons first (ih second)

/-- What every act preserves, acts preserve. -/
theorem preserves {invariant : State → Prop}
    (preserved : ∀ before outputs after, act before outputs after → invariant before →
      invariant after)
    (acts : Acts act before outputs after) (holds : invariant before) : invariant after := by
  induction acts with
  | nil state => exact holds
  | cons first rest ih => exact ih (preserved _ _ _ first holds)

/-- What every act shows of the outputs, acts show of them. -/
theorem emits {invariant : State → Prop} {shows : Output → Prop}
    (preserved : ∀ before outputs after, act before outputs after → invariant before →
      invariant after)
    (shown : ∀ before outputs after, act before outputs after → invariant before →
      ∀ output ∈ outputs, shows output)
    (acts : Acts act before outputs after) (holds : invariant before) :
    ∀ output ∈ outputs, shows output := by
  induction acts with
  | nil state => exact nofun
  | cons first rest ih =>
      intro output member
      rcases List.mem_append.mp member with here | later
      · exact shown _ _ _ first holds output here
      · exact ih (preserved _ _ _ first holds) output later

/-- A monitor that every act drives between related phases is driven by acts. -/
theorem drives {monitor : Monitor Phase Output} {related : State → Phase → Prop}
    (driven : ∀ before outputs after, act before outputs after → ∀ phase, related before phase →
      ∃ later, monitor.run phase outputs = some later ∧ related after later)
    (acts : Acts act before outputs after) {phase : Phase} (start : related before phase) :
    ∃ later, monitor.run phase outputs = some later ∧ related after later := by
  induction acts generalizing phase with
  | nil state => exact ⟨phase, rfl, start⟩
  | cons first rest ih =>
      obtain ⟨middle, here, stillRelated⟩ := driven _ _ _ first phase start
      obtain ⟨later, there, finallyRelated⟩ := ih stillRelated
      refine ⟨later, ?_, finallyRelated⟩
      rw [Monitor.run_append, here, Option.bind_some, there]

/-- What relates the state to all that has been sent is kept up by acts. -/
theorem records {related : State → List Output → Prop}
    (recorded : ∀ before outputs after, act before outputs after → ∀ history,
      related before history → related after (history ++ outputs))
    (acts : Acts act before outputs after) {history : List Output} (start : related before history) :
    related after (history ++ outputs) := by
  induction acts generalizing history with
  | nil state =>
      rw [List.append_nil]
      exact start
  | cons first rest ih =>
      rw [← List.append_assoc]
      exact ih (recorded _ _ _ first history start)

end Acts

variable {machine : Machine State Input Output}

/-- A machine is taken apart if in states of its invariant all its steps are acts. -/
structure Machine.Apart (machine : Machine State Input Output)
    (act : Input → State → List Output → State → Prop) (invariant : State → Prop) : Prop where
  preserved : ∀ state input, invariant state → machine.enabled state input →
    invariant (machine.next state input)
  acts : ∀ state input, invariant state → machine.enabled state input →
    Acts (act input) state (machine.emit state input) (machine.next state input)

variable {act : Input → State → List Output → State → Prop} {invariant : State → Prop}

theorem Machine.Apart.run_trace (apart : machine.Apart act invariant)
    {monitor : Monitor Phase Output} {related : State → Phase → Prop}
    (driven : ∀ input before outputs after, act input before outputs after →
      ∀ phase, related before phase →
        ∃ later, monitor.run phase outputs = some later ∧ related after later)
    {state : State} {phase : Phase} (holds : invariant state) (start : related state phase)
    {inputs : List Input} (runs : machine.Runs state inputs) :
    ∃ later, monitor.run phase (machine.trace state inputs) = some later ∧
      related (machine.after state inputs) later := by
  have simulated := @Monitor.run_trace_of_simulation _ _ monitor _ _ machine
    (fun state phase => invariant state ∧ related state phase) (fun _ _ => True) ?_
    state phase ⟨holds, start⟩ inputs runs (Machine.along_true state inputs)
  · obtain ⟨later, accepted, -, finallyRelated⟩ := simulated
    exact ⟨later, accepted, finallyRelated⟩
  · rintro state input phase ⟨holds, start⟩ enabled -
    obtain ⟨later, here, stillRelated⟩ := (apart.acts state input holds enabled).drives (driven input) start
    exact ⟨later, here, apart.preserved state input holds enabled, stillRelated⟩

theorem Machine.Apart.records_trace (apart : machine.Apart act invariant)
    {related : State → List Output → Prop}
    (recorded : ∀ input before outputs after, act input before outputs after → ∀ history,
      related before history → related after (history ++ outputs))
    {state : State} (holds : invariant state) {history : List Output} (start : related state history)
    {inputs : List Input} (runs : machine.Runs state inputs) :
    related (machine.after state inputs) (history ++ machine.trace state inputs) := by
  induction inputs generalizing state history with
  | nil =>
      rw [Machine.trace_nil, List.append_nil]
      exact start
  | cons input rest ih =>
      have here := (apart.acts state input holds runs.1).records (recorded input) start
      rw [Machine.trace_cons, ← List.append_assoc]
      exact ih (apart.preserved state input holds runs.1) here runs.2

end Acts

end Reactive
