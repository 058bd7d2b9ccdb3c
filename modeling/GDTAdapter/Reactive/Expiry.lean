import GDTAdapter.Reactive.Machine

namespace Reactive

universe u v w x y

/-! # Expiry notices

An object holds at most one item at a time.  Items load, perish and do not
recover, and the object sends a notice when the item it holds has perished.
After a notice it has nothing to offer until another item has loaded.
-/

/-- What is known of a run: the latest moment, the items that have loaded, and
those of them that had loaded when the latest notice was sent. -/
structure Watch (Moment : Type x) (Item : Type y) where
  last : Option Moment := none
  loaded : List Item := []
  spent : Option (List Item) := none

namespace Watch

variable {Moment : Type x} {Item : Type y}

def arrive (loads : List Item) (watch : Watch Moment Item) : Watch Moment Item :=
  { watch with loaded := loads ++ watch.loaded }

def record (moment : Moment) (loads : List Item) (notice : Bool) (watch : Watch Moment Item) :
    Watch Moment Item where
  last := some moment
  loaded := loads ++ watch.loaded
  spent := if notice then some (loads ++ watch.loaded) else watch.spent

/-- Since the latest notice, if there was one, the item in hand has loaded. -/
def Renewed (held : Option Item) (watch : Watch Moment Item) : Prop :=
  ∀ spent, watch.spent = some spent → ∃ item, held = some item ∧ item ∈ watch.loaded ∧ item ∉ spent

/-- A loaded item that is not usable does not become usable again. -/
def Perishes (usable : Moment → Item → Bool) (watch : Watch Moment Item) (moment : Moment) : Prop :=
  ∀ last, watch.last = some last →
    ∀ item ∈ watch.loaded, usable last item = false → usable moment item = false

instance (usable : Moment → Item → Bool) (watch : Watch Moment Item) (moment : Moment) :
    Decidable (watch.Perishes usable moment) :=
  inferInstanceAs (Decidable (∀ last ∈ watch.last,
    ∀ item ∈ watch.loaded, usable last item = false → usable moment item = false))

structure Sound (usable : Moment → Item → Bool) (held : Option Item) (watch : Watch Moment Item) :
    Prop where
  loaded : ∀ spent, watch.spent = some spent → spent ⊆ watch.loaded
  perished : ∀ spent item, watch.spent = some spent → held = some item → item ∈ spent →
    ∃ last, watch.last = some last ∧ usable last item = false

variable {usable : Moment → Item → Bool} {held kept : Option Item} {watch : Watch Moment Item}
variable {moment : Moment} {loads : List Item} {notice : Bool}

theorem Sound.initial : Sound usable held ({} : Watch Moment Item) :=
  ⟨nofun, nofun⟩

theorem Sound.unusable (sound : watch.Sound usable held) (perishes : watch.Perishes usable moment)
    {spent : List Item} {item : Item} (noticed : watch.spent = some spent)
    (holds : held = some item) (member : item ∈ spent) : usable moment item = false := by
  obtain ⟨last, latest, unusable⟩ := sound.perished spent item noticed holds member
  exact perishes last latest item (sound.loaded spent noticed member) unusable

/-- An item that is usable in spite of the latest notice has loaded since. -/
theorem Sound.renewed (sound : watch.Sound usable held) (perishes : watch.Perishes usable moment)
    {item : Item} (holds : held = some item) (isUsable : usable moment item = true)
    (loading : item ∈ loads) : (watch.arrive loads).Renewed held := by
  intro spent noticed
  refine ⟨item, holds, List.mem_append_left _ loading, ?_⟩
  intro member
  rw [sound.unusable perishes noticed holds member] at isUsable
  cases isUsable

/-- One step: a notice is sent only if the item in hand is not usable, and the
object keeps that item or turns to one that has not loaded. -/
theorem Sound.record (sound : watch.Sound usable held) (perishes : watch.Perishes usable moment)
    (announced : notice = true → ∀ item, held = some item → usable moment item = false)
    (turnover : kept = held ∨ ∀ item, kept = some item → item ∉ loads ++ watch.loaded) :
    (watch.record moment loads notice).Sound usable kept := by
  have loaded : ∀ spent, (watch.record moment loads notice).spent = some spent →
      spent ⊆ loads ++ watch.loaded := by
    intro spent noticed
    cases notice with
    | true =>
        cases noticed
        exact List.Subset.refl _
    | false => exact List.subset_append_of_subset_right loads (sound.loaded spent noticed)
  refine ⟨loaded, ?_⟩
  intro spent item noticed holds member
  refine ⟨moment, rfl, ?_⟩
  rcases turnover with rfl | renewed
  · cases notice with
    | true => exact announced rfl item holds
    | false => exact sound.unusable perishes noticed holds member
  · exact absurd (loaded spent noticed member) (renewed item holds)

end Watch

/-- How a machine is to be read as such an object. -/
structure Keeper (State : Type u) (Input : Type v) (Output : Type w) (Moment : Type x)
    (Item : Type y) where
  machine : Machine State Input Output
  /-- The input reads the world, if at all, as it is at the moment. -/
  reads : Moment → Input → Prop
  /-- What the world promises about successive moments. -/
  promise : Watch Moment Item → Moment → Prop
  held : State → Option Item
  /-- The items known to have loaded by this step. -/
  loads : Moment → State → Input → List Item
  available : Moment → State → Bool
  /-- The input that asks the object to check the item it holds. -/
  played : Input → Bool
  notice : Output

namespace Keeper

variable {State : Type u} {Input : Type v} {Output : Type w} {Moment : Type x} {Item : Type y}
variable [DecidableEq Output]

/-- The machine beside the watch; every input comes with its moment. -/
def watched (keeper : Keeper State Input Output Moment Item) :
    Machine (State × Watch Moment Item) (Moment × Input) Output where
  enabled seen input :=
    keeper.machine.enabled seen.1 input.2 ∧ keeper.reads input.1 input.2 ∧
      keeper.promise seen.2 input.1
  step seen input :=
    let effects := keeper.machine.emit seen.1 input.2
    ((keeper.machine.next seen.1 input.2,
      seen.2.record input.1 (keeper.loads input.1 seen.1 input.2) (decide (keeper.notice ∈ effects))),
      effects)

/-- One step of the specification: the check sends one notice if nothing is
available and nothing otherwise, and after a notice nothing is available until
the item in hand has loaded since. -/
structure Matches (keeper : Keeper State Input Output Moment Item)
    (seen : State × Watch Moment Item) (input : Moment × Input) : Prop where
  checked : keeper.played input.2 = true →
    keeper.machine.emit seen.1 input.2 =
      if keeper.available input.1 seen.1 then [] else [keeper.notice]
  stays : keeper.available input.1 seen.1 = true →
    (seen.2.arrive (keeper.loads input.1 seen.1 input.2)).Renewed (keeper.held seen.1)

/-- `usable` judges one item, `known` says which items exist. -/
structure Lawful (keeper : Keeper State Input Output Moment Item) (usable : Moment → Item → Bool)
    (known : State → Item → Prop) : Prop where
  perishes : ∀ watch moment, keeper.promise watch moment → watch.Perishes usable moment
  available : ∀ moment state input, keeper.available moment state = true →
    ∃ item, keeper.held state = some item ∧ usable moment item = true ∧
      item ∈ keeper.loads moment state input
  announced : ∀ moment state input, keeper.reads moment input →
    keeper.notice ∈ keeper.machine.emit state input →
      ∀ item, keeper.held state = some item → usable moment item = false
  loads : ∀ moment state input, keeper.machine.enabled state input →
    (∀ item, keeper.held state = some item → known state item) →
      ∀ item ∈ keeper.loads moment state input, known state item
  known_next : ∀ state input item, known state item → known (keeper.machine.next state input) item
  turnover : ∀ state input,
    keeper.held (keeper.machine.next state input) = keeper.held state ∨
      ∀ item, keeper.held (keeper.machine.next state input) = some item →
        ¬ known state item ∧ known (keeper.machine.next state input) item

/-- The watch is sound and knows of no item that does not exist. -/
structure Kept (keeper : Keeper State Input Output Moment Item) (usable : Moment → Item → Bool)
    (known : State → Item → Prop) (seen : State × Watch Moment Item) : Prop where
  sound : seen.2.Sound usable (keeper.held seen.1)
  loaded : ∀ item ∈ seen.2.loaded, known seen.1 item
  held : ∀ item, keeper.held seen.1 = some item → known seen.1 item

variable {keeper : Keeper State Input Output Moment Item} {usable : Moment → Item → Bool}
variable {known : State → Item → Prop}

theorem Lawful.kept_next (lawful : keeper.Lawful usable known) {seen : State × Watch Moment Item}
    {input : Moment × Input} (kept : keeper.Kept usable known seen)
    (enabled : keeper.watched.enabled seen input) :
    keeper.Kept usable known (keeper.watched.next seen input) := by
  obtain ⟨enabled, reads, promise⟩ := enabled
  have loading := lawful.loads input.1 seen.1 input.2 enabled kept.held
  have loaded : ∀ item ∈ keeper.loads input.1 seen.1 input.2 ++ seen.2.loaded, known seen.1 item := by
    intro item member
    rcases List.mem_append.mp member with member | member
    · exact loading item member
    · exact kept.loaded item member
  have turnover := lawful.turnover seen.1 input.2
  refine ⟨?_, ?_, ?_⟩
  · apply kept.sound.record (lawful.perishes _ _ promise)
    · intro noticed
      exact lawful.announced input.1 seen.1 input.2 reads (of_decide_eq_true noticed)
    · apply turnover.imp_right
      intro renewed item holds member
      exact (renewed item holds).1 (loaded item member)
  · intro item member
    exact lawful.known_next _ _ _ (loaded item member)
  · intro item holds
    rcases turnover with same | renewed
    · exact lawful.known_next _ _ _ (kept.held item (same.symm.trans holds))
    · exact (renewed item holds).2

theorem Lawful.stays (lawful : keeper.Lawful usable known) {seen : State × Watch Moment Item}
    {input : Moment × Input} (kept : keeper.Kept usable known seen)
    (enabled : keeper.watched.enabled seen input)
    (available : keeper.available input.1 seen.1 = true) :
    (seen.2.arrive (keeper.loads input.1 seen.1 input.2)).Renewed (keeper.held seen.1) := by
  obtain ⟨item, holds, isUsable, loading⟩ := lawful.available _ _ input.2 available
  exact kept.sound.renewed (lawful.perishes _ _ enabled.2.2) holds isUsable loading

/-- A lawful keeper never offers a spent item, so that a run is as specified just
if its checks are answered so. -/
theorem Lawful.matches_iff (lawful : keeper.Lawful usable known) {good : State → Input → Prop}
    (exact_check : ∀ moment state input, keeper.reads moment input →
      ((keeper.played input = true →
        keeper.machine.emit state input = if keeper.available moment state then [] else [keeper.notice]) ↔
      good state input))
    {state : State} (start : keeper.held state = none) {inputs : List (Moment × Input)}
    (runs : keeper.watched.Runs (state, {}) inputs) :
    keeper.watched.Along keeper.Matches (state, {}) inputs ↔
      keeper.watched.Along (fun seen input => good seen.1 input.2) (state, {}) inputs := by
  have initially : keeper.Kept usable known (state, {}) := by
    refine ⟨Watch.Sound.initial, nofun, ?_⟩
    intro item holds
    rw [start] at holds
    cases holds
  have exact_step : ∀ seen input, keeper.Kept usable known seen → keeper.watched.enabled seen input →
      (keeper.Matches seen input ↔ good seen.1 input.2) := by
    intro seen input kept enabled
    rw [← exact_check input.1 seen.1 input.2 enabled.2.1]
    exact ⟨Matches.checked, fun checked => ⟨checked, lawful.stays kept enabled⟩⟩
  exact Machine.along_iff_along (fun seen input kept => lawful.kept_next kept) exact_step initially runs

end Keeper

end Reactive
