import GDTAdapter.Reactive.History

namespace Reactive

universe u v w x y

/-! # Refinement

A machine refines another if each of its steps can be answered by a run of the
other one that sends the same.  Whatever is known of the runs of the abstract
machine then holds of the concrete one.
-/

section Refinement

variable {State : Type u} {Input : Type v} {Output : Type w}
variable {Abstract : Type x} {Move : Type y}

/-- `image` names the moves that answer a step. -/
structure Refines (concrete : Machine State Input Output) (abstract : Machine Abstract Move Output)
    (related : State → Abstract → Prop) (image : State → Input → List Move) : Prop where
  allowed : ∀ state model input, related state model → concrete.enabled state input →
    abstract.Runs model (image state input)
  sends : ∀ state model input, related state model → concrete.enabled state input →
    abstract.trace model (image state input) = concrete.emit state input
  arrives : ∀ state model input, related state model → concrete.enabled state input →
    related (concrete.next state input) (abstract.after model (image state input))

def images (concrete : Machine State Input Output) (image : State → Input → List Move)
    (state : State) : List Input → List Move
  | [] => []
  | input :: rest => image state input ++ images concrete image (concrete.next state input) rest

variable {concrete : Machine State Input Output} {abstract : Machine Abstract Move Output}
variable {related : State → Abstract → Prop} {image : State → Input → List Move}

theorem Refines.run (refines : Refines concrete abstract related image) {state : State}
    {model : Abstract} (initially : related state model) {inputs : List Input}
    (runs : concrete.Runs state inputs) :
    abstract.Runs model (images concrete image state inputs) ∧
      abstract.trace model (images concrete image state inputs) = concrete.trace state inputs ∧
      related (concrete.after state inputs)
        (abstract.after model (images concrete image state inputs)) := by
  induction inputs generalizing state model with
  | nil => exact ⟨trivial, rfl, initially⟩
  | cons input rest ih =>
      have here := refines.arrives state model input initially runs.1
      obtain ⟨laterRuns, laterTrace, laterRelated⟩ := ih here runs.2
      have allowed := refines.allowed state model input initially runs.1
      have sends := refines.sends state model input initially runs.1
      refine ⟨Machine.along_append.mpr ⟨allowed, laterRuns⟩, ?_, ?_⟩
      · rw [images, Machine.trace_append, sends, laterTrace, Machine.trace_cons]
      · rw [images, Machine.after_append]
        exact laterRelated

end Refinement

namespace Alarm

inductive Move where
  | set
  | clear
  | ring
deriving DecidableEq, Repr

/-- The simplest timer: it is set or not, and rings once for each time it is set. -/
def machine : Machine Bool Move Unit where
  enabled isSet move := move = .ring → isSet = true
  step _ move :=
    match move with
    | .set => (true, [])
    | .clear => (false, [])
    | .ring => (false, [()])

@[simp] theorem next_set (isSet : Bool) : machine.next isSet .set = true := rfl

@[simp] theorem next_clear (isSet : Bool) : machine.next isSet .clear = false := rfl

@[simp] theorem next_ring (isSet : Bool) : machine.next isSet .ring = false := rfl

@[simp] theorem emit_set (isSet : Bool) : machine.emit isSet .set = [] := rfl

@[simp] theorem emit_clear (isSet : Bool) : machine.emit isSet .clear = [] := rfl

@[simp] theorem emit_ring (isSet : Bool) : machine.emit isSet .ring = [()] := rfl

/-- An alarm rings no more often than it is set, counting the setting it starts with. -/
theorem rings_le_sets (isSet : Bool) (moves : List Move) (runs : machine.Runs isSet moves) :
    (machine.trace isSet moves).length ≤ moves.count .set + isSet.toNat := by
  induction moves generalizing isSet with
  | nil => exact Nat.zero_le _
  | cons move rest ih =>
      have later := ih _ runs.2
      rw [Machine.trace_cons, List.length_append, List.count_cons]
      cases move with
      | set =>
          simp only [next_set, Bool.toNat_true] at later
          simp only [emit_set, next_set, List.length_nil, beq_self_eq_true, if_true]
          omega
      | clear =>
          simp only [next_clear, Bool.toNat_false] at later
          simp only [emit_clear, next_clear, List.length_nil]
          omega
      | ring =>
          have wasSet : isSet = true := runs.1 rfl
          simp only [next_ring, Bool.toNat_false] at later
          simp only [emit_ring, next_ring, List.length_singleton, wasSet, Bool.toNat_true]
          omega

end Alarm

end Reactive
