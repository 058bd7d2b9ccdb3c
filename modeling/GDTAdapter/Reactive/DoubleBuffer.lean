import GDTAdapter.Reactive.Machine
import Mathlib.Logic.Relation

namespace Reactive

universe u v w x y

/-! # Double buffers

One item is in front and shows its content, the next one is prepared behind it.
As soon as the content of the back item is ready the two are swapped, unless the
front is locked; then the swap waits for the lock to go.
-/

/-- `ready` is the content that waits to be shown. -/
structure DoubleBuffer (Item : Type u) (Content : Type v) where
  front : Option Item
  back : Option Item
  ready : Option Content
  locked : Bool
  shown : Option Content

namespace DoubleBuffer

variable {Item : Type u} {Content : Type v}

/-- `polish` is what is done to an item that comes to the front. -/
def swap (polish : Item → Item) (buffer : DoubleBuffer Item Content) : DoubleBuffer Item Content :=
  match buffer.ready with
  | none => buffer
  | some content =>
      if buffer.locked then buffer
      else
        { front := buffer.back.map polish
          back := none
          ready := none
          locked := false
          shown := some content }

/-- The front is lost: what is ready takes its place. -/
def lose (polish : Item → Item) (buffer : DoubleBuffer Item Content) : DoubleBuffer Item Content :=
  swap polish { buffer with front := none, shown := none, locked := false }

def clear (buffer : DoubleBuffer Item Content) : DoubleBuffer Item Content :=
  { buffer with back := none, ready := none }

section Laws

variable (name : Item → Nat) (belongs : Item → Content → Prop)

/-- No item is in both places, and content waits only for a lock of the front. -/
structure Sound (buffer : DoubleBuffer Item Content) : Prop where
  distinct : ∀ front back, buffer.front = some front → buffer.back = some back → name front ≠ name back
  locked : buffer.locked = true → buffer.front.isSome = true
  waits : buffer.ready.isSome = true → buffer.locked = true

/-- What waits belongs to the item behind. -/
def Paired (buffer : DoubleBuffer Item Content) : Prop :=
  ∀ content, buffer.ready = some content → ∃ back, buffer.back = some back ∧ belongs back content

/-- What can be done to a buffer.  With `careful` set, another item is put behind
only while nothing waits. -/
inductive Step (polish : Item → Item) (careful : Bool) (before : DoubleBuffer Item Content) :
    DoubleBuffer Item Content → Prop where
  | clear : Step polish careful before before.clear
  | renew (idle : careful = true → before.ready = none) (item : Option Item)
      (fresh : ∀ front back, before.front = some front → item = some back → name front ≠ name back) :
      Step polish careful before { before with back := item }
  | reviseFront {item other : Item} (held : before.front = some item) (named : name other = name item) :
      Step polish careful before { before with front := some other }
  | reviseBack {item other : Item} (held : before.back = some item) (named : name other = name item)
      (kept : ∀ content, belongs item content → belongs other content) :
      Step polish careful before { before with back := some other }
  | load {item : Item} (held : before.back = some item) {loaded : Item} {content : Content}
      (named : name loaded = name item) (loads : belongs loaded content) :
      Step polish careful before
        (swap polish { before with back := some loaded, ready := some content })
  | lock (held : before.front.isSome = true) : Step polish careful before { before with locked := true }
  | unlock : Step polish careful before (swap polish { before with locked := false })
  | lose : Step polish careful before (before.lose polish)

abbrev Steps (polish : Item → Item) (careful : Bool) :=
  Relation.ReflTransGen (@Step Item Content name belongs polish careful)

variable {name belongs} {polish : Item → Item} {buffer after : DoubleBuffer Item Content}

theorem swap_of_idle (idle : buffer.ready = none) : buffer.swap polish = buffer := by
  rw [swap, idle]

theorem swap_of_locked (locked : buffer.locked = true) : buffer.swap polish = buffer := by
  unfold swap
  cases buffer.ready with
  | none => rfl
  | some content => simp [locked]

theorem swap_of_ready {content : Content} (ready : buffer.ready = some content)
    (unlocked : buffer.locked = false) :
    buffer.swap polish =
      { front := buffer.back.map polish
        back := none
        ready := none
        locked := false
        shown := some content } := by
  simp [swap, ready, unlocked]

/-- A swap does nothing, or puts what is behind in front. -/
theorem swap_cases :
    buffer.swap polish = buffer ∧ (buffer.ready.isSome = true → buffer.locked = true) ∨
      buffer.swap polish =
        { front := buffer.back.map polish
          back := none
          ready := none
          locked := false
          shown := buffer.ready } := by
  cases ready : buffer.ready with
  | none => exact .inl ⟨swap_of_idle ready, nofun⟩
  | some content =>
      cases locked : buffer.locked with
      | true => exact .inl ⟨swap_of_locked locked, fun _ => rfl⟩
      | false => exact .inr (swap_of_ready ready locked)

/-- A swap leaves nothing that waits without a lock. -/
theorem sound_swap
    (distinct : ∀ front back, buffer.front = some front → buffer.back = some back →
      name front ≠ name back)
    (locked : buffer.locked = true → buffer.front.isSome = true) :
    Sound name (buffer.swap polish) := by
  rcases @swap_cases _ _ polish buffer with ⟨same, waits⟩ | swaps
  · rw [same]
    exact ⟨distinct, locked, waits⟩
  · rw [swaps]
    exact ⟨nofun, nofun, nofun⟩

/-- A swap keeps together what belongs together. -/
theorem paired_swap (paired : Paired belongs buffer) : Paired belongs (buffer.swap polish) := by
  rcases @swap_cases _ _ polish buffer with ⟨same, -⟩ | swaps
  · rw [same]
    exact paired
  · rw [swaps]
    exact nofun

theorem Sound.step {careful : Bool} (sound : Sound name buffer)
    (step : Step name belongs polish careful buffer after) : Sound name after := by
  cases step with
  | clear =>
      refine ⟨?_, sound.locked, ?_⟩
      · intro front back _ held
        cases held
      · intro ready
        cases ready
  | renew idle item fresh => exact ⟨fresh, sound.locked, sound.waits⟩
  | reviseFront held named =>
      refine ⟨?_, fun _ => rfl, sound.waits⟩
      intro front back inFront behind
      cases inFront
      rw [named]
      exact sound.distinct _ back held behind
  | reviseBack held named kept =>
      refine ⟨?_, sound.locked, sound.waits⟩
      intro front back inFront behind
      cases behind
      rw [named]
      exact sound.distinct front _ inFront held
  | load held named loads =>
      refine sound_swap ?_ sound.locked
      intro front back inFront behind
      cases behind
      rw [named]
      exact sound.distinct front _ inFront held
  | lock held => exact ⟨sound.distinct, fun _ => held, fun _ => rfl⟩
  | unlock => exact sound_swap sound.distinct nofun
  | lose => exact sound_swap nofun nofun

theorem Paired.step (paired : Paired belongs buffer)
    (step : Step name belongs polish true buffer after) : Paired belongs after := by
  cases step with
  | clear => exact nofun
  | renew idle item fresh =>
      intro content ready
      rw [idle rfl] at ready
      cases ready
  | reviseFront held named => exact paired
  | reviseBack held named kept =>
      intro content ready
      obtain ⟨back, behind, belonging⟩ := paired content ready
      rw [held] at behind
      cases behind
      exact ⟨_, rfl, kept content belonging⟩
  | load held named loads =>
      refine paired_swap ?_
      intro content ready
      cases ready
      exact ⟨_, rfl, loads⟩
  | lock held => exact paired
  | unlock => exact paired_swap paired
  | lose => exact paired_swap paired

theorem Sound.steps {careful : Bool} (sound : Sound name buffer)
    (steps : Steps name belongs polish careful buffer after) : Sound name after := by
  induction steps with
  | refl => exact sound
  | tail _ step ih => exact ih.step step

theorem Paired.steps (paired : Paired belongs buffer)
    (steps : Steps name belongs polish true buffer after) : Paired belongs after := by
  induction steps with
  | refl => exact paired
  | tail _ step ih => exact ih.step step

/-- All names in the buffer are below the bound. -/
structure Below (name : Item → Nat) (bound : Nat) (buffer : DoubleBuffer Item Content) : Prop where
  front : ∀ front, buffer.front = some front → name front < bound
  back : ∀ back, buffer.back = some back → name back < bound

theorem Below.swap {bound : Nat} (below : Below name bound buffer)
    (named : ∀ item, name (polish item) = name item) : Below name bound (buffer.swap polish) := by
  rcases @swap_cases _ _ polish buffer with ⟨same, -⟩ | swaps
  · rw [same]
    exact below
  · rw [swaps]
    refine ⟨?_, nofun⟩
    intro front held
    obtain ⟨back, behind, rfl⟩ := Option.map_eq_some_iff.mp held
    rw [named]
    exact below.back back behind

end Laws

end DoubleBuffer

end Reactive
