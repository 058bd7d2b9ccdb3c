import Mathlib.Data.List.Basic

namespace Reactive

universe u v w

/-! # Delegates

An object of a delegate-based framework has two kinds of outgoing effects: calls
on the library it wraps, and messages to a delegate it does not own.  The
delegate may be nil and may implement only part of its protocol; a message to nil
is dropped, and a guarded message is dropped unless the guard's selector is
implemented.  A relay passes on the images of those inputs that its gate lets
through.
-/

inductive Effect (Call : Type u) (Message : Type v) where
  | call (call : Call)
  | message (message : Message)
deriving DecidableEq, Repr

section Projections

variable {Call : Type u} {Message : Type v}

def Effect.message? : Effect Call Message → Option Message
  | .call _ => none
  | .message sent => some sent

def Effect.call? : Effect Call Message → Option Call
  | .call made => some made
  | .message _ => none

/-- The messages among the effects, in the order they are sent. -/
def messages (effects : List (Effect Call Message)) : List Message :=
  effects.filterMap Effect.message?

def calls (effects : List (Effect Call Message)) : List Call :=
  effects.filterMap Effect.call?

@[simp] theorem messages_nil : messages ([] : List (Effect Call Message)) = [] := rfl

@[simp] theorem calls_nil : calls ([] : List (Effect Call Message)) = [] := rfl

@[simp] theorem messages_message (message : Message) (rest : List (Effect Call Message)) :
    messages (.message message :: rest) = message :: messages rest := rfl

@[simp] theorem messages_call (call : Call) (rest : List (Effect Call Message)) :
    messages (.call call :: rest) = messages rest := rfl

@[simp] theorem calls_call (call : Call) (rest : List (Effect Call Message)) :
    calls (.call call :: rest) = call :: calls rest := rfl

@[simp] theorem calls_message (message : Message) (rest : List (Effect Call Message)) :
    calls (.message message :: rest) = calls rest := rfl

@[simp] theorem messages_append (first second : List (Effect Call Message)) :
    messages (first ++ second) = messages first ++ messages second :=
  List.filterMap_append

@[simp] theorem calls_append (first second : List (Effect Call Message)) :
    calls (first ++ second) = calls first ++ calls second :=
  List.filterMap_append

theorem mem_messages {effects : List (Effect Call Message)} {message : Message} :
    message ∈ messages effects ↔ .message message ∈ effects := by
  constructor
  · intro member
    obtain ⟨effect, member, sent⟩ := List.mem_filterMap.mp member
    cases effect with
    | call made => cases sent
    | message other =>
        cases sent
        exact member
  · intro member
    exact List.mem_filterMap.mpr ⟨.message message, member, rfl⟩

end Projections

/-- `none` is nil; otherwise the answers to `respondsToSelector:`. -/
abbrev Delegate (Selector : Type w) := Option (Selector → Bool)

namespace Delegate

variable {Selector : Type w} {Call : Type u} {Message : Type v}

def responds (delegate : Delegate Selector) (selector : Selector) : Bool :=
  delegate.elim false (fun implements => implements selector)

/-- `[self.delegate message]`, with no test before it. -/
def send (delegate : Delegate Selector) (message : Message) : List (Effect Call Message) :=
  if delegate.isSome then [.message message] else []

/-- `if (self.delegate && [self.delegate respondsToSelector:guard]) [self.delegate message]`. -/
def notify (delegate : Delegate Selector) (guard : Selector) (message : Message) :
    List (Effect Call Message) :=
  if delegate.responds guard then [.message message] else []

variable {delegate : Delegate Selector}

theorem isSome_of_responds {selector : Selector} (responds : delegate.responds selector = true) :
    delegate.isSome = true := by
  cases delegate with
  | none => simp [Delegate.responds] at responds
  | some implements => rfl

@[simp] theorem calls_send (message : Message) :
    calls (delegate.send message : List (Effect Call Message)) = [] := by
  unfold send
  split <;> rfl

@[simp] theorem calls_notify (guard : Selector) (message : Message) :
    calls (delegate.notify guard message : List (Effect Call Message)) = [] := by
  unfold notify
  split <;> rfl

@[simp] theorem messages_send (message : Message) :
    messages (delegate.send message : List (Effect Call Message)) =
      if delegate.isSome then [message] else [] := by
  unfold send
  split <;> rfl

@[simp] theorem messages_notify (guard : Selector) (message : Message) :
    messages (delegate.notify guard message : List (Effect Call Message)) =
      if delegate.responds guard then [message] else [] := by
  unfold notify
  split <;> rfl

theorem send_eq_singleton_iff {message : Message} :
    (delegate.send message : List (Effect Call Message)) = [.message message] ↔
      delegate.isSome = true := by
  unfold send
  cases delegate.isSome <;> simp

theorem send_eq_nil_iff {message : Message} :
    (delegate.send message : List (Effect Call Message)) = [] ↔ delegate.isSome = false := by
  unfold send
  cases delegate.isSome <;> simp

theorem mem_send {message : Message} {effect : Effect Call Message}
    (member : effect ∈ delegate.send message) : effect = .message message := by
  unfold send at member
  split at member
  · exact List.mem_singleton.mp member
  · cases member

theorem mem_notify {guard : Selector} {message : Message} {effect : Effect Call Message}
    (member : effect ∈ delegate.notify guard message) : effect = .message message := by
  unfold notify at member
  split at member
  · exact List.mem_singleton.mp member
  · cases member

theorem mem_messages_send {message sent : Message}
    (member : sent ∈ messages (delegate.send message : List (Effect Call Message))) :
    sent = message :=
  Effect.message.inj (mem_send (mem_messages.mp member))

theorem mem_messages_notify {guard : Selector} {message sent : Message}
    (member : sent ∈ messages (delegate.notify guard message : List (Effect Call Message))) :
    sent = message :=
  Effect.message.inj (mem_notify (mem_messages.mp member))

end Delegate

section Gates

variable {Value : Type u} {Image : Type v}

/-- A gate that is nowhere wider than another and lets as many values through is
the same gate. -/
theorem gates_eq_of_count {narrow wide : Value → Bool} {values : List Value}
    (narrower : ∀ value ∈ values, narrow value = true → wide value = true)
    (count : values.countP wide ≤ values.countP narrow) :
    ∀ value ∈ values, narrow value = wide value := by
  induction values with
  | nil => simp
  | cons first values ih =>
      have narrowerRest := fun value member => narrower value (List.mem_cons_of_mem first member)
      have countRest : values.countP narrow ≤ values.countP wide := List.countP_mono_left narrowerRest
      rw [List.countP_cons, List.countP_cons] at count
      have agrees : narrow first = wide first := by
        cases inNarrow : narrow first with
        | true => exact (narrower first List.mem_cons_self inNarrow).symm
        | false =>
            cases inWide : wide first with
            | false => rfl
            | true =>
                -- the wide gate would let one value more through
                simp only [inNarrow, inWide, if_true, Bool.false_eq_true, if_false] at count
                omega
      rw [agrees] at count
      intro value member
      rcases List.mem_cons.mp member with rfl | member
      · exact agrees
      · exact ih narrowerRest (by omega) value member

/-- Two gates, the second of which reads only the image, pass the same images
just if they agree. -/
theorem filter_map_eq_iff {gate : Value → Bool} {wanted : Image → Bool} {image : Value → Image}
    {values : List Value} :
    (values.filter gate).map image = (values.filter fun value => wanted (image value)).map image ↔
      ∀ value ∈ values, gate value = wanted (image value) := by
  constructor
  · intro same
    apply gates_eq_of_count
    · intro value member passes
      have passed : image value ∈ (values.filter gate).map image :=
        List.mem_map_of_mem (List.mem_filter.mpr ⟨member, passes⟩)
      rw [same] at passed
      obtain ⟨other, otherPasses, sameImage⟩ := List.mem_map.mp passed
      rw [← sameImage]
      exact (List.mem_filter.mp otherPasses).2
    · have lengths := congrArg List.length same
      rw [List.length_map, List.length_map, ← List.countP_eq_length_filter,
        ← List.countP_eq_length_filter] at lengths
      omega
  · intro agree
    rw [List.filter_congr agree]

end Gates

end Reactive
