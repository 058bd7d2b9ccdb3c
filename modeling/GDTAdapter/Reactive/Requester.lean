import GDTAdapter.Reactive.Machine
import GDTAdapter.Reactive.Messaging

namespace Reactive

universe u v w x y

/-! # Superseded items

A requester asks a library for one item at a time and keeps only the latest one.
The library may still answer for an item that a later request has replaced.
-/

/-- Items are numbered in the order of the requests.  `answered` tells for which
item an input reports the end of a load, `frame` what such a report must not
touch, and `reports` which messages tell the delegate of a load. -/
structure Requester (State : Type u) (Input : Type v) (Call : Type w) (Message : Type x)
    (Frame : Type y) where
  machine : Machine State Input (Effect Call Message)
  fresh : State → Nat
  presented : State → List Nat
  frame : State → Frame
  answered : Input → Option Nat
  reports : Message → Bool

namespace Requester

variable {State : Type u} {Input : Type v} {Call : Type w} {Message : Type x} {Frame : Type y}
variable (requester : Requester State Input Call Message Frame)

def Superseded (state : State) (item : Nat) : Prop :=
  item + 1 < requester.fresh state ∧ item ∉ requester.presented state

/-- The input changes nothing of the frame and tells the delegate of no load. -/
def Untouched (state : State) (input : Input) : Prop :=
  requester.frame (requester.machine.next state input) = requester.frame state ∧
    ∀ message ∈ messages (requester.machine.emit state input), requester.reports message = false

def Inert (state : State) (input : Input) : Prop :=
  ∀ item, requester.answered input = some item → requester.Superseded state item →
    requester.Untouched state input

def Unheard (deaf : State → Input → Prop) (state : State) (input : Input) : Prop :=
  ∀ item, requester.answered input = some item → requester.Superseded state item → deaf state input

variable {requester}

/-- If `deaf` says for every report when it touches nothing, it says along every
run when the superseded items are inert. -/
theorem along_inert_iff {deaf : State → Input → Prop}
    (exact_report : ∀ state input item, requester.answered input = some item →
      (requester.Untouched state input ↔ deaf state input))
    {state : State} {inputs : List Input} :
    requester.machine.Along requester.Inert state inputs ↔
      requester.machine.Along (requester.Unheard deaf) state inputs := by
  apply Machine.along_congr_step
  intro state input
  constructor
  · intro inert item answered superseded
    exact (exact_report state input item answered).mp (inert item answered superseded)
  · intro unheard item answered superseded
    exact (exact_report state input item answered).mpr (unheard item answered superseded)

theorem silent_notify_iff {Selector : Type} {delegate : Delegate Selector} {guard : Selector}
    {report : Message} (reported : requester.reports report = true) :
    (∀ message ∈ messages (delegate.notify guard report : List (Effect Call Message)),
        requester.reports message = false) ↔
      delegate.responds guard = false := by
  cases responds : delegate.responds guard with
  | true => simp [responds, reported]
  | false => simp [responds]

end Requester

end Reactive
