import Mathlib.Logic.Relation
import Mathlib.Order.WellFounded

namespace Reactive

universe u

/-! # Walks

A loop `while (next(place)) place = next(place)` follows a partial function to
the end of its chain.  `Ends` says where a chain ends, `walk` runs the loop for a
bounded number of tests of its condition.
-/

section Walk

variable {Place : Type u} (successor : Place → Option Place)

def walk : Nat → Place → Option Place
  | 0, _ => none
  | fuel + 1, place =>
      match successor place with
      | none => some place
      | some later => walk fuel later

structure Ends (place last : Place) : Prop where
  chain : Relation.ReflTransGen (fun earlier later => successor earlier = some later) place last
  stops : successor last = none

variable {successor}

theorem Ends.here {place : Place} (stops : successor place = none) : Ends successor place place :=
  ⟨.refl, stops⟩

theorem Ends.head {place later last : Place} (leads : successor place = some later)
    (ends : Ends successor later last) : Ends successor place last :=
  ⟨.head leads ends.chain, ends.stops⟩

theorem Ends.cases_head {place last : Place} (ends : Ends successor place last) :
    (successor place = none ∧ last = place) ∨
      ∃ later, successor place = some later ∧ Ends successor later last := by
  rcases ends.chain.cases_head with rfl | ⟨later, leads, chain⟩
  · exact .inl ⟨ends.stops, rfl⟩
  · exact .inr ⟨later, leads, chain, ends.stops⟩

theorem Ends.tail {place later last : Place} (ends : Ends successor place last)
    (leads : successor place = some later) : Ends successor later last := by
  rcases ends.cases_head with ⟨stops, -⟩ | ⟨other, leadsOther, rest⟩
  · rw [leads] at stops
    cases stops
  · rw [leads] at leadsOther
    cases leadsOther
    exact rest

theorem Ends.unique {place last other : Place} (ends : Ends successor place last)
    (endsOther : Ends successor place other) : other = last := by
  obtain ⟨chain, stops⟩ := ends
  induction chain using Relation.ReflTransGen.head_induction_on with
  | refl =>
      rcases endsOther.cases_head with ⟨-, same⟩ | ⟨later, leads, -⟩
      · exact same
      · rw [stops] at leads
        cases leads
  | head leads _ ih => exact ih (endsOther.tail leads)

/-- The loop stops at the end of the chain, and more fuel changes nothing. -/
theorem Ends.walk_eq {place last : Place} (ends : Ends successor place last) :
    ∃ steps, ∀ fuel, steps ≤ fuel → walk successor fuel place = some last := by
  obtain ⟨chain, stops⟩ := ends
  induction chain using Relation.ReflTransGen.head_induction_on with
  | refl =>
      refine ⟨1, ?_⟩
      intro fuel enough
      obtain ⟨fuel, rfl⟩ := Nat.exists_eq_add_of_le' enough
      simp only [walk, stops]
  | head leads _ ih =>
      obtain ⟨steps, reaches⟩ := ih
      refine ⟨steps + 1, ?_⟩
      intro fuel enough
      obtain ⟨fuel, rfl⟩ := Nat.exists_eq_add_of_le' (Nat.le_of_add_left_le enough)
      simp only [walk, leads]
      exact reaches fuel (by omega)

/-- A loop that comes back does not stop. -/
theorem walk_of_cycle {place later : Place} (leads : successor place = some later)
    (leadsBack : successor later = some place) (fuel : Nat) :
    walk successor fuel place = none ∧ walk successor fuel later = none := by
  induction fuel with
  | zero => exact ⟨rfl, rfl⟩
  | succ fuel ih =>
      constructor
      · simp only [walk, leads]
        exact ih.2
      · simp only [walk, leadsBack]
        exact ih.1

theorem walk_three_isSome_iff {start : Place} :
    (walk successor 3 start).isSome = true ↔
      ¬ ∃ first second third, successor start = some first ∧ successor first = some second ∧
        successor second = some third := by
  constructor
  · rintro stops ⟨first, second, third, leads, leadsOn, leadsBack⟩
    simp only [walk, leads, leadsOn, leadsBack] at stops
    cases stops
  · intro short
    cases startsTo : successor start with
    | none => simp only [walk, startsTo, Option.isSome_some]
    | some first =>
        cases firstTo : successor first with
        | none => simp only [walk, startsTo, firstTo, Option.isSome_some]
        | some second =>
            cases secondTo : successor second with
            | none => simp only [walk, startsTo, firstTo, secondTo, Option.isSome_some]
            | some third => exact absurd ⟨first, second, third, startsTo, firstTo, secondTo⟩ short

/-- A loop whose chain comes back after its first step stops in three steps or
never. -/
theorem walk_isSome_iff_of_returning {start : Place}
    (returns : ∀ first second third, successor start = some first → successor first = some second →
      successor second = some third → third = first) :
    (∃ fuel, (walk successor fuel start).isSome = true) ↔
      (walk successor 3 start).isSome = true := by
  constructor
  · rintro ⟨fuel, stopped⟩
    rw [walk_three_isSome_iff]
    rintro ⟨first, second, third, leads, leadsOn, leadsBack⟩
    obtain rfl := returns first second third leads leadsOn leadsBack
    cases fuel with
    | zero => cases stopped
    | succ fuel =>
        simp only [walk, leads] at stopped
        rw [(walk_of_cycle leadsOn leadsBack fuel).1] at stopped
        cases stopped
  · intro stopped
    exact ⟨3, stopped⟩

end Walk

end Reactive
