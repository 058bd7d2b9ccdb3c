import GDTAdapter.BannerHost.Slots
import GDTAdapter.Banner.CustomEvent
import GDTAdapter.Reactive.History

namespace GDTAdapter.BannerHost

open Reactive Timers

/-! # GDT banners on screen

The GDT banner never says that the user is in a modal.  Without modals an ad is put
on screen as soon as it has been sent.
-/

namespace AdManager

/-- What the adapter hears of the messages of the GDT banner; it has no methods
for the others. -/
def heard : Banner.Message → Option EventMessage
  | .didLoadAd view => some (.didLoadAd view)
  | .didFailToLoadAdWithError error => some (.didFailToLoadAdWithError (some error))
  | .willLeaveApplication => some .willLeaveApplication
  | .willVisible _ => none
  | .didClick _ => none
  | .willClose _ => none

/-- The ad that the custom event sends. -/
def adFrom (event : Nat) (input : ℚ × Input) : Option UIView :=
  match input.2 with
  | .message sender (.didLoadAd ad) => if sender = event then ad else none
  | _ => none

/-- The first ad that the custom event has sent. -/
def firstAd (event : Nat) (past : List (ℚ × Input)) : Option UIView := past.findSome? (adFrom event)

def eventOf (slot : Option Adapter) : Option Nat :=
  slot.bind fun adapter => adapter.bannerCustomEvent.map Event.ref

/-- There is an ad on screen just if there is an adapter, and it is the first one
that the custom event of this adapter has sent. -/
structure Fronts (past : List (ℚ × Input)) (manager : AdManager) : Prop where
  present : manager.adContentView.isSome = manager.onscreenAdapter.isSome
  first : manager.adContentView =
    (eventOf manager.onscreenAdapter).bind fun event => firstAd event past

/-- Without modals no adapter that has loaded is left behind. -/
structure Modeless (past : List (ℚ × Input)) (manager : AdManager) : Prop where
  sorted : manager.Sorted
  unlocked : manager.adActionInProgress = false
  later : ∀ event, manager.fresh ≤ event → firstAd event past = none
  behind : ∀ event, eventOf manager.requestingAdapter = some event → firstAd event past = none
  fronts : Fronts past manager

/-- The input is no ad of the requesting adapter. -/
def Elsewhere (input : ℚ × Input) (self : AdManager) : Prop :=
  ∀ event ad, input.2 = .message event (.didLoadAd (some ad)) →
    event < self.fresh ∧ eventOf self.requestingAdapter ≠ some event

section Modeless

variable {before after : AdManager} {past : List (ℚ × Input)} {input : ℚ × Input} {careful : Bool}
variable {outputs : List Output} {event : Nat} {adapter : Adapter}

/-- The requesting adapter has the same custom event as before, none, or a new one. -/
structure Renews (before after : AdManager) : Prop where
  sorted : after.Sorted
  later : before.fresh ≤ after.fresh
  behind : eventOf after.requestingAdapter = eventOf before.requestingAdapter ∨
    eventOf after.requestingAdapter = none ∨
    eventOf after.requestingAdapter = some before.fresh

theorem Elsewhere.renew (elsewhere : Elsewhere input before) (renews : Renews before after) :
    Elsewhere input after := by
  intro event ad sent
  obtain ⟨old, other⟩ := elsewhere event ad sent
  refine ⟨Nat.lt_of_lt_of_le old renews.later, ?_⟩
  rcases renews.behind with kept | taken | made
  · rw [kept]
    exact other
  · rw [taken]
    exact (Option.some_ne_none event).symm
  · rw [made]
    intro same
    exact Nat.ne_of_gt old (Option.some.inj same)

theorem Modeless.renew (modeless : Modeless past before) (renews : Renews before after)
    (unlocked : after.adActionInProgress = false) (fronts : Fronts past after) :
    Modeless past after := by
  refine ⟨renews.sorted, unlocked, ?_, ?_, fronts⟩
  · intro event made
    exact modeless.later event (renews.later.trans made)
  · intro event held
    rcases renews.behind with kept | taken | made
    · exact modeless.behind event (kept ▸ held)
    · rw [taken] at held
      cases held
    · rw [made] at held
      cases held
      exact modeless.later before.fresh (Nat.le_refl _)

end Modeless

end AdManager

end GDTAdapter.BannerHost
