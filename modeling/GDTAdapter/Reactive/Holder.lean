import GDTAdapter.Reactive.Machine

namespace Reactive

universe u v w x

/-! # Holders

A presenter keeps hold of the controller it presents from.  `opened` lists the
presentations that have been handed over and have not ended, the newest first;
each has the subject presented and the controller it was given, if any.
-/

structure Holder (Controller : Type u) where
  held : Option Controller
  opened : List (Nat × Option Controller)

namespace Holder

variable {Controller : Type u}

inductive Move (Controller : Type u) where
  | accept (subject : Nat) (controller : Option Controller)
  | refuse (controller : Option Controller)
  | finish (subject : Nat)
  | release
  | rest

/-- The newest presentation of `subject` has ended. -/
def finish (subject : Nat) (opened : List (Nat × Option Controller)) :
    List (Nat × Option Controller) :=
  opened.eraseP fun presentation => presentation.1 == subject

def after (holder : Holder Controller) : Move Controller → Holder Controller
  | .accept subject controller =>
      { held := controller.or holder.held, opened := (subject, controller) :: holder.opened }
  | .refuse controller => { holder with held := controller.or holder.held }
  | .finish subject => { held := none, opened := finish subject holder.opened }
  | .release => { holder with held := none }
  | .rest => holder

/-- The controller is held exactly while a presentation from one is open. -/
structure Exact (holder : Holder Controller) : Prop where
  held_iff : holder.held.isSome = true ↔
    ∃ presentation ∈ holder.opened, presentation.2.isSome = true
  given : ∀ controller, holder.held = some controller →
    ∃ presentation ∈ holder.opened, presentation.2 = some controller

def Keeps (holder : Holder Controller) : Move Controller → Prop
  | .refuse controller => controller = none ∨ holder.held = controller
  | .finish subject => ∀ presentation ∈ finish subject holder.opened, presentation.2 = none
  | .release => ∀ presentation ∈ holder.opened, presentation.2 = none
  | _ => True

def Unmoved (holder : Holder Controller) : Move Controller → Prop
  | .refuse controller => holder.after (.refuse controller) = holder
  | _ => True

/-- A present call that is accepted for a subject, or refused. -/
def Move.present (accepted : Option Nat) (controller : Option Controller) : Move Controller :=
  accepted.elim (.refuse controller) (fun subject => .accept subject controller)

variable {holder : Holder Controller}

theorem after_present (accepted : Option Nat) (controller : Option Controller) :
    holder.after (.present accepted controller) =
      { held := controller.or holder.held
        opened := (accepted.map fun subject => (subject, controller)).toList ++ holder.opened } := by
  cases accepted <;> rfl

theorem exact_none_iff {opened : List (Nat × Option Controller)} :
    Exact { held := none, opened } ↔ ∀ presentation ∈ opened, presentation.2 = none := by
  constructor
  · intro exact presentation member
    by_contra given
    have isSome := Option.isSome_iff_ne_none.mpr given
    cases exact.held_iff.mpr ⟨presentation, member, isSome⟩
  · intro empty
    refine ⟨⟨nofun, ?_⟩, nofun⟩
    rintro ⟨presentation, member, given⟩
    rw [empty presentation member] at given
    cases given

theorem Exact.accept (exact : holder.Exact) (subject : Nat) (controller : Option Controller) :
    (holder.after (.accept subject controller)).Exact := by
  cases controller with
  | some controller =>
      refine ⟨iff_of_true rfl ⟨_, List.mem_cons_self, rfl⟩, ?_⟩
      intro other same
      exact ⟨_, List.mem_cons_self, same⟩
  | none =>
      refine ⟨exact.held_iff.trans ?_, ?_⟩
      · simp [after]
      · intro other same
        obtain ⟨presentation, member, given⟩ := exact.given other same
        exact ⟨presentation, List.mem_cons_of_mem _ member, given⟩

theorem refuse_eq_iff {controller : Option Controller} :
    holder.after (.refuse controller) = holder ↔ controller = none ∨ holder.held = controller := by
  obtain ⟨held, opened⟩ := holder
  cases controller with
  | none => simp [after]
  | some controller => simp [after, eq_comm]

theorem unmoved_present_iff {accepted : Option Nat} {controller : Option Controller} :
    holder.Unmoved (.present accepted controller) ↔
      (accepted = none → controller = none ∨ holder.held = controller) := by
  cases accepted with
  | none =>
      refine refuse_eq_iff.trans ?_
      simp
  | some subject => exact iff_of_true trivial nofun

/-- A move keeps the holder exact, and a refusal leaves it alone, just if it is
one of those `Keeps` names. -/
theorem exact_after_iff (exact : holder.Exact) (move : Move Controller) :
    (holder.after move).Exact ∧ holder.Unmoved move ↔ holder.Keeps move := by
  cases move with
  | accept subject controller => exact iff_of_true ⟨exact.accept subject controller, trivial⟩ trivial
  | refuse controller =>
      refine Iff.trans ?_ refuse_eq_iff
      constructor
      · exact And.right
      · intro same
        exact ⟨same.symm ▸ exact, same⟩
  | finish subject => exact (and_iff_left trivial).trans exact_none_iff
  | release => exact (and_iff_left trivial).trans exact_none_iff
  | rest => exact iff_of_true ⟨exact, trivial⟩ trivial

variable {State : Type v} {Input : Type w} {Output : Type x} {machine : Machine State Input Output}

theorem exact_run_iff {view : State → Holder Controller} {move : State → Input → Move Controller}
    (follows : ∀ state input,
      view (machine.next state input) = (view state).after (move state input))
    {state : State} (start : (view state).Exact) (inputs : List Input) :
    machine.Always (fun state => (view state).Exact) state inputs ∧
        machine.Along (fun state input => (view state).Unmoved (move state input)) state inputs ↔
      machine.Along (fun state input => (view state).Keeps (move state input)) state inputs := by
  refine @Machine.always_and_along_iff _ _ _ machine (fun _ => True)
    (fun state => (view state).Exact) (fun _ _ => True) _ _ (fun _ _ _ _ => trivial) ?_ _ trivial
    start _ (Machine.along_true state inputs)
  intro state input _ exact _
  rw [follows]
  exact exact_after_iff exact (move state input)

end Holder

end Reactive
