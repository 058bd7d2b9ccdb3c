import Mathlib.Algebra.Order.Group.Defs
import Mathlib.Data.List.Induction

namespace Reactive

universe u

/-! # Streaks

Something is looked at from time to time, and each look finds it good or not.  A
streak is a stretch of good looks with no other one between them.
-/

structure Look (Time : Type u) where
  moment : Time
  good : Bool
deriving DecidableEq, Repr

section Streak

variable {Time : Type u}

/-- The looks end with a streak that begins at the moment. -/
def StreakFrom (moment : Time) (looks : List (Look Time)) : Prop :=
  ∃ before first later, looks = before ++ first :: later ∧ first.moment = moment ∧
    ∀ look ∈ first :: later, look.good = true

/-- The beginning of the streak that the looks end with, found in one pass. -/
def streak (looks : List (Look Time)) : Option Time :=
  looks.foldl (fun start look => if look.good then start.or (some look.moment) else none) none

@[simp] theorem streak_nil : streak ([] : List (Look Time)) = none := rfl

@[simp] theorem streak_snoc (looks : List (Look Time)) (look : Look Time) :
    streak (looks ++ [look]) =
      if look.good then (streak looks).or (some look.moment) else none := by
  rw [streak, List.foldl_append]
  rfl

theorem not_streakFrom_nil (moment : Time) : ¬ StreakFrom moment ([] : List (Look Time)) := by
  rintro ⟨before, first, later, split, -⟩
  cases before <;> cases split

theorem streakFrom_snoc_iff {moment : Time} {looks : List (Look Time)} {look : Look Time} :
    StreakFrom moment (looks ++ [look]) ↔
      look.good = true ∧ (look.moment = moment ∨ StreakFrom moment looks) := by
  constructor
  · rintro ⟨before, first, later, split, begins, good⟩
    induction later using List.reverseRecOn with
    | nil =>
        obtain ⟨rfl, same⟩ := List.append_inj' split rfl
        cases same
        exact ⟨good look List.mem_cons_self, .inl begins⟩
    | append_singleton later last _ =>
        rw [← List.cons_append, ← List.append_assoc] at split
        obtain ⟨rfl, same⟩ := List.append_inj' split rfl
        cases same
        refine ⟨good look (List.mem_append_right (first :: later) List.mem_cons_self), .inr ?_⟩
        refine ⟨before, first, later, rfl, begins, ?_⟩
        intro seen member
        exact good seen (List.mem_append_left [look] member)
  · rintro ⟨goodLast, begins | ⟨before, first, later, rfl, begins, good⟩⟩
    · refine ⟨looks, look, [], rfl, begins, ?_⟩
      intro seen member
      rw [List.mem_singleton.mp member]
      exact goodLast
    · refine ⟨before, first, later ++ [look], ?_, begins, ?_⟩
      · rw [List.append_assoc, List.cons_append]
      · intro seen member
        rw [← List.cons_append] at member
        rcases List.mem_append.mp member with earlier | last
        · exact good seen earlier
        · rw [List.mem_singleton.mp last]
          exact goodLast

theorem streakFrom_of_streak {moment : Time} {looks : List (Look Time)}
    (found : streak looks = some moment) : StreakFrom moment looks := by
  induction looks using List.reverseRecOn generalizing moment with
  | nil => cases found
  | append_singleton looks look ih =>
      rw [streak_snoc] at found
      cases good : look.good with
      | false =>
          rw [good] at found
          cases found
      | true =>
          rw [good, if_pos rfl] at found
          refine streakFrom_snoc_iff.mpr ⟨good, ?_⟩
          cases earlier : streak looks with
          | none =>
              rw [earlier, Option.none_or] at found
              cases found
              exact .inl rfl
          | some start =>
              rw [earlier, Option.some_or] at found
              cases found
              exact .inr (ih earlier)

variable [Preorder Time]

/-- If moments do not run backwards, no streak begins before the one found. -/
theorem streak_le_of_streakFrom {moment : Time} {looks : List (Look Time)}
    (ordered : looks.Pairwise fun earlier later => earlier.moment ≤ later.moment)
    (ends : StreakFrom moment looks) : ∃ start, streak looks = some start ∧ start ≤ moment := by
  induction looks using List.reverseRecOn with
  | nil => exact absurd ends (not_streakFrom_nil moment)
  | append_singleton looks look ih =>
      obtain ⟨ordered, -, recent⟩ := List.pairwise_append.mp ordered
      obtain ⟨good, begins⟩ := streakFrom_snoc_iff.mp ends
      rw [streak_snoc, good, if_pos rfl]
      cases earlier : streak looks with
      | none =>
          refine ⟨look.moment, rfl, ?_⟩
          rcases begins with same | before
          · exact le_of_eq same
          · obtain ⟨start, found, -⟩ := ih ordered before
            rw [earlier] at found
            cases found
      | some start =>
          refine ⟨start, rfl, ?_⟩
          rcases begins with same | before
          · obtain ⟨front, first, later, split, begins, -⟩ := streakFrom_of_streak earlier
            have member : first ∈ looks := by
              rw [split]
              exact List.mem_append_right front List.mem_cons_self
            have step := recent first member look List.mem_cons_self
            rw [begins, same] at step
            exact step
          · obtain ⟨other, found, reaches⟩ := ih ordered before
            rw [earlier] at found
            cases found
            exact reaches

end Streak

section Lasting

variable {Time : Type u} [AddCommGroup Time] [LinearOrder Time] [IsOrderedAddMonoid Time]

/-- The looks end with a good one, and the streak before it began long enough ago. -/
def Lasts (gap : Time) (looks : List (Look Time)) : Prop :=
  ∃ earlier last start, looks = earlier ++ [last] ∧ last.good = true ∧
    StreakFrom start earlier ∧ start + gap ≤ last.moment

omit [IsOrderedAddMonoid Time] in
theorem not_lasts_nil (gap : Time) : ¬ Lasts gap ([] : List (Look Time)) := by
  rintro ⟨earlier, last, start, split, -⟩
  cases earlier <;> cases split

/-- If moments do not run backwards, the streak found in one pass decides. -/
theorem lasts_snoc_iff {gap : Time} {looks : List (Look Time)} {look : Look Time}
    (ordered : looks.Pairwise fun earlier later => earlier.moment ≤ later.moment) :
    Lasts gap (looks ++ [look]) ↔
      look.good = true ∧ ∃ start, streak looks = some start ∧ start + gap ≤ look.moment := by
  constructor
  · rintro ⟨earlier, last, start, split, good, streaking, long⟩
    obtain ⟨rfl, same⟩ := List.append_inj' split rfl
    cases same
    obtain ⟨first, found, before⟩ := streak_le_of_streakFrom ordered streaking
    exact ⟨good, first, found, le_trans (add_le_add_left before gap) long⟩
  · rintro ⟨good, start, found, long⟩
    exact ⟨looks, look, start, rfl, good, streakFrom_of_streak found, long⟩

end Lasting

end Reactive
