import GDTAdapter.Reactive.Machine
import Mathlib.Data.List.Induction

namespace Reactive

universe u v w

/-! # What a run has been through

A state often says what has happened before it: something was begun, and nothing
since has ended it.
-/

namespace Machine

variable {State : Type u} {Input : Type v} {Output : Type w}
variable (machine : Machine State Input Output)

/-- Some input of the run has begun it, and every later one has kept it. -/
def Since (began kept : State → Input → Prop) (state : State) (inputs : List Input) : Prop :=
  ∃ before input later, inputs = before ++ input :: later ∧
    began (machine.after state before) input ∧
    machine.Along kept (machine.next (machine.after state before) input) later

/-- What is sent on the inputs that count. -/
def traceOn (counts : Input → Bool) (state : State) : List Input → List Output
  | [] => []
  | input :: rest =>
      (if counts input then machine.emit state input else []) ++
        traceOn counts (machine.next state input) rest

variable {machine} {began kept : State → Input → Prop}

theorem after_append (state : State) (before later : List Input) :
    machine.after state (before ++ later) = machine.after (machine.after state before) later := by
  induction before generalizing state with
  | nil => rfl
  | cons input before ih => exact ih (machine.next state input)

theorem trace_append (state : State) (before later : List Input) :
    machine.trace state (before ++ later) =
      machine.trace state before ++ machine.trace (machine.after state before) later := by
  induction before generalizing state with
  | nil => rfl
  | cons input before ih =>
      rw [List.cons_append, trace_cons, trace_cons, ih, List.append_assoc, after_cons]

theorem along_of_forall_mem {good : Input → Prop} {state : State} {inputs : List Input}
    (allGood : ∀ input ∈ inputs, good input) :
    machine.Along (fun _ input => good input) state inputs := by
  induction inputs generalizing state with
  | nil => trivial
  | cons input rest ih =>
      exact ⟨allGood input List.mem_cons_self,
        ih fun other member => allGood other (List.mem_cons_of_mem input member)⟩

theorem along_and {left right : State → Input → Prop} {state : State} {inputs : List Input} :
    machine.Along (fun state input => left state input ∧ right state input) state inputs ↔
      machine.Along left state inputs ∧ machine.Along right state inputs := by
  induction inputs generalizing state with
  | nil => exact iff_of_true trivial ⟨trivial, trivial⟩
  | cons input rest ih =>
      rw [along_cons, along_cons, along_cons, ih]
      exact and_and_and_comm

theorem runs_snoc {state : State} {inputs : List Input} {input : Input} :
    machine.Runs state (inputs ++ [input]) ↔
      machine.Runs state inputs ∧ machine.enabled (machine.after state inputs) input := by
  rw [Runs, along_append, along_cons]
  exact and_congr_right fun _ => and_iff_left trivial

theorem since_snoc {state : State} {inputs : List Input} {input : Input} :
    machine.Since began kept state (inputs ++ [input]) ↔
      began (machine.after state inputs) input ∨
        machine.Since began kept state inputs ∧ kept (machine.after state inputs) input := by
  constructor
  · rintro ⟨before, first, later, split, begins, along⟩
    induction later using List.reverseRecOn with
    | nil =>
        obtain ⟨rfl, same⟩ := List.append_inj' split rfl
        cases same
        exact .inl begins
    | append_singleton later last _ =>
        rw [← List.cons_append, ← List.append_assoc] at split
        obtain ⟨rfl, same⟩ := List.append_inj' split rfl
        cases same
        obtain ⟨along, keeps, -⟩ := along_append.mp along
        refine .inr ⟨⟨before, first, later, rfl, begins, along⟩, ?_⟩
        rw [after_append, after_cons]
        exact keeps
  · rintro (begins | ⟨⟨before, first, later, rfl, begins, along⟩, keeps⟩)
    · exact ⟨inputs, input, [], rfl, begins, trivial⟩
    · rw [after_append, after_cons] at keeps
      refine ⟨before, first, later ++ [input], ?_, begins, along_append.mpr ⟨along, keeps, trivial⟩⟩
      rw [List.append_assoc, List.cons_append]

/-- The history rule: what becomes `live` just when it is begun, and stays so
just while it is kept, is live after a run just if the run has begun it and kept
it since. -/
theorem live_iff_since {invariant live : State → Prop}
    (preserved : ∀ state input, invariant state → machine.enabled state input →
      invariant (machine.next state input))
    (traced : ∀ state input, invariant state → machine.enabled state input →
      (live (machine.next state input) ↔ began state input ∨ live state ∧ kept state input))
    {state : State} (initially : invariant state) (dead : ¬ live state) {inputs : List Input}
    (runs : machine.Runs state inputs) :
    live (machine.after state inputs) ↔ machine.Since began kept state inputs := by
  induction inputs using List.reverseRecOn with
  | nil =>
      refine iff_of_false dead ?_
      rintro ⟨before, input, later, split, -⟩
      cases before <;> cases split
  | append_singleton inputs input ih =>
      obtain ⟨runs, enabled⟩ := runs_snoc.mp runs
      have sound : invariant (machine.after state inputs) := by
        refine always_of_invariant (fun state input holds enabled _ => preserved state input holds enabled)
          initially runs (along_true state inputs) inputs [] ?_
        rw [List.append_nil]
      rw [after_append, after_cons, after_nil, traced _ input sound enabled, ih runs, since_snoc]

/-- If `related` follows whether something has been sent, and a step is good just
if it does not send it again, then a run sends it at most once just if all its
steps are good. -/
theorem countP_trace_le_one_iff {sent : Output → Bool} {related : State → Bool → Prop}
    {promise good : State → Input → Prop}
    (follows : ∀ state input already, related state already → promise state input →
      ∃ now : Bool, (machine.emit state input).countP sent = now.toNat ∧
        (good state input ↔ ¬ (already = true ∧ now = true)) ∧
        related (machine.next state input) (already || now))
    {state : State} {already : Bool} (initially : related state already) {inputs : List Input}
    (promised : machine.Along promise state inputs) :
    (already.toNat + (machine.trace state inputs).countP sent ≤ 1 ↔
        machine.Along good state inputs) ∧
      related (machine.after state inputs)
        (already || decide (0 < (machine.trace state inputs).countP sent)) := by
  induction inputs generalizing state already with
  | nil =>
      refine ⟨iff_of_true ?_ trivial, ?_⟩
      · exact Bool.toNat_le already
      · rw [trace_nil, List.countP_nil, decide_eq_false (Nat.lt_irrefl 0), Bool.or_false]
        exact initially
  | cons input rest ih =>
      obtain ⟨now, count, exact_step, stays⟩ := follows state input already initially promised.1
      obtain ⟨later, finally_⟩ := ih stays promised.2
      rw [trace_cons, List.countP_append, count, along_cons, after_cons, exact_step, ← later]
      generalize (machine.trace (machine.next state input) rest).countP sent = others at finally_ ⊢
      have again : ¬ 1 + (1 + others) ≤ 1 := by omega
      have any : 0 < 1 + others := by omega
      cases already <;> cases now <;> simp [again, any] at finally_ ⊢ <;> exact finally_

end Machine

end Reactive
