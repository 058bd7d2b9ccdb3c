import GDTAdapter.Banner.CustomEvent

namespace GDTAdapter.Banner

open Reactive

/-! # Close against reload

A close fades its view at once and forgets it in a completion block that runs
later.  A request between the two finds the closing view still in `bannerView`.
-/

namespace Instance

/-- If no close has begun since the latest accepted request, then running all
pending completions, in any order, leaves the view of that request in
`bannerView`, in its superview and visible. -/
def Undisturbed (constants : MobiBannerError) (self : Instance) : Prop :=
  self.current = true → ∀ order : List Nat, order.Perm self.closing →
    let settled := (machine constants).after self (order.map .complete)
    ∃ view, settled.event.bannerView = some view ∧ self.loaded = some view.ref ∧
      view.ref ∉ settled.removed ∧ view.ref ∉ settled.faded

/-- An accepted request finds no view, or one with no close under way. -/
def OutsideClose (self : Instance) : Input → Prop
  | .request _ info => info.adunit.isSome = true →
      ∀ view, self.event.bannerView = some view → view.ref ∉ self.closing
  | _ => True

/-- What every step keeps.  A view that was removed never comes back, and a faded
one is held only until its completion has run. -/
structure Tracked (banner : Instance) : Prop where
  held : ∀ view, banner.event.bannerView = some view → view.ref < banner.fresh ∧ view.ref ∉ banner.removed
  fading : ∀ view, banner.event.bannerView = some view → view.ref ∈ banner.faded → view.ref ∈ banner.closing
  closing_faded : ∀ ref ∈ banner.closing, ref ∈ banner.faded
  faded_created : ∀ ref ∈ banner.faded, ref < banner.fresh
  removed_created : ∀ ref ∈ banner.removed, ref < banner.fresh

def Settled (self : Instance) : Prop :=
  self.current = true → ∃ view, self.event.bannerView = some view ∧ self.loaded = some view.ref ∧
    view.ref ∉ self.closing

variable {constants : MobiBannerError} {self : Instance}

theorem next_request_none {size : CGSize} {info : Info} (absent : info.adunit = none) :
    (machine constants).next self (.request size info) = self := by
  cases delegate : self.event.delegate <;>
    simp [Machine.next, machine, step, run, CustomEvent.requestAd, absent, Delegate.send, delegate,
      perform]

theorem next_request_reuse {size : CGSize} {info : Info} {adUnitId : String}
    (accepted : info.adunit = some adUnitId) {view : GDTUnifiedBannerView}
    (held : self.event.bannerView = some view) :
    (machine constants).next self (.request size info) =
      { self with loaded := some view.ref, current := true } := by
  simp [Machine.next, machine, step, run, CustomEvent.requestAd, accepted, held, perform]

theorem next_request_create {size : CGSize} {info : Info} {adUnitId : String}
    (accepted : info.adunit = some adUnitId) (none_held : self.event.bannerView = none) :
    (machine constants).next self (.request size info) =
      { self with
        event := { self.event with
          bannerView := some (CustomEvent.makeBannerView self.fresh size info adUnitId) }
        fresh := self.fresh + 1, loaded := some self.fresh, current := true } := by
  simp [Machine.next, machine, step, run, CustomEvent.requestAd, accepted, none_held, perform,
    CustomEvent.makeBannerView]

theorem foldl_perform_notify {delegate : Delegate Selector} {guard : Selector} {message : Message} :
    (delegate.notify guard message).foldl perform self = self := by
  unfold Delegate.notify
  split <;> rfl

theorem next_willClose {view : Nat} :
    (machine constants).next self (.callback view .willClose) =
      { self with
        faded := view :: self.faded, closing := self.closing ++ [view], current := false } := by
  simp [Machine.next, machine, step, run, CustomEvent.receive,
    CustomEvent.unifiedBannerViewWillClose, foldl_perform_notify, perform]

theorem next_callback {view : Nat} {callback : CustomEvent.Callback}
    (other : callback ≠ .willClose) :
    (machine constants).next self (.callback view callback) = self := by
  cases callback with
  | didLoad | failedToLoad | willExpose | clicked | willLeaveApplication =>
      exact foldl_perform_notify
  | willPresentFullScreenModal | didPresentFullScreenModal => rfl
  | willDismissFullScreenModal | didDismissFullScreenModal => rfl
  | willClose => exact absurd rfl other

theorem bannerView_complete {ref : Nat} {view : GDTUnifiedBannerView} :
    ((machine constants).next self (.complete ref)).event.bannerView = some view ↔
      self.event.bannerView = some view ∧ view.ref ≠ ref := by
  cases held : self.event.bannerView with
  | none => simp [Machine.next, machine, step, run, CustomEvent.closeCompletion, perform, held]
  | some current =>
      by_cases same : current.ref = ref
      · have other (equal : current = view) : view.ref = ref := equal ▸ same
        simpa [Machine.next, machine, step, run, CustomEvent.closeCompletion, perform, held, same]
          using other
      · have other (equal : current = view) : view.ref ≠ ref := equal ▸ same
        simpa [Machine.next, machine, step, run, CustomEvent.closeCompletion, perform, held, same]
          using other

theorem bannerView_completions {order : List Nat} {view : GDTUnifiedBannerView} :
    ((machine constants).after self (order.map .complete)).event.bannerView = some view ↔
      self.event.bannerView = some view ∧ view.ref ∉ order := by
  induction order generalizing self with
  | nil => simp
  | cons ref order ih =>
      rw [List.map_cons, Machine.after_cons, ih, bannerView_complete, List.mem_cons, not_or, and_assoc]

theorem faded_completions {order : List Nat} :
    ((machine constants).after self (order.map .complete)).faded = self.faded := by
  induction order generalizing self with
  | nil => rfl
  | cons ref order ih =>
      rw [List.map_cons, Machine.after_cons, ih]
      rfl

theorem mem_removed_completions {order : List Nat} {ref : Nat} :
    ref ∈ ((machine constants).after self (order.map .complete)).removed ↔
      ref ∈ order ∨ ref ∈ self.removed := by
  induction order generalizing self with
  | nil => simp
  | cons first order ih =>
      rw [List.map_cons, Machine.after_cons, ih]
      have removed : ((machine constants).next self (.complete first)).removed =
          first :: self.removed := rfl
      rw [removed, List.mem_cons, List.mem_cons]
      tauto

theorem undisturbed_iff (tracked : self.Tracked) :
    self.Undisturbed constants ↔ self.Settled := by
  constructor
  · intro undisturbed current
    obtain ⟨view, held, loaded, _, _⟩ := undisturbed current self.closing (List.Perm.refl _)
    obtain ⟨held, notClosing⟩ := bannerView_completions.mp held
    exact ⟨view, held, loaded, notClosing⟩
  · intro settled current order perm
    obtain ⟨view, held, loaded, notClosing⟩ := settled current
    have notPending : view.ref ∉ order := fun member => notClosing (perm.mem_iff.mp member)
    refine ⟨view, bannerView_completions.mpr ⟨held, notPending⟩, loaded, ?_, ?_⟩
    · intro removed
      rcases mem_removed_completions.mp removed with pending | removed
      · exact notPending pending
      · exact (tracked.held view held).2 removed
    · rw [faded_completions]
      exact fun faded => notClosing (tracked.fading view held faded)

theorem Tracked.step (tracked : self.Tracked) {input : Input} (enabled : self.enabled input) :
    ((machine constants).next self input).Tracked := by
  cases input with
  | setDelegate delegate => exact { tracked with }
  | request size info =>
      cases accepted : info.adunit with
      | none => rwa [next_request_none accepted]
      | some adUnitId =>
          cases held : self.event.bannerView with
          | some view =>
              rw [next_request_reuse accepted held]
              exact { tracked with }
          | none =>
              rw [next_request_create accepted held]
              have notRemoved : self.fresh ∉ self.removed :=
                fun removed => Nat.lt_irrefl _ (tracked.removed_created _ removed)
              have notFaded : self.fresh ∉ self.faded :=
                fun faded => Nat.lt_irrefl _ (tracked.faded_created _ faded)
              refine ⟨?_, ?_, tracked.closing_faded, ?_, ?_⟩
              · intro view created
                obtain rfl := Option.some.inj created
                exact ⟨Nat.lt_succ_self _, notRemoved⟩
              · intro view created faded
                obtain rfl := Option.some.inj created
                exact absurd faded notFaded
              · exact fun ref faded => Nat.lt_succ_of_lt (tracked.faded_created ref faded)
              · exact fun ref removed => Nat.lt_succ_of_lt (tracked.removed_created ref removed)
  | callback view callback =>
      by_cases closes : callback = .willClose
      · subst closes
        rw [next_willClose]
        refine ⟨tracked.held, ?_, ?_, ?_, tracked.removed_created⟩
        · intro banner held faded
          rcases List.mem_cons.mp faded with same | faded
          · exact List.mem_append_right _ (by simp [same])
          · exact List.mem_append_left _ (tracked.fading banner held faded)
        · intro ref member
          rcases List.mem_append.mp member with member | member
          · exact List.mem_cons_of_mem _ (tracked.closing_faded ref member)
          · exact List.mem_cons.mpr (.inl (List.mem_singleton.mp member))
        · intro ref faded
          rcases List.mem_cons.mp faded with rfl | faded
          · exact enabled
          · exact tracked.faded_created ref faded
      · rwa [next_callback closes]
  | complete ref =>
      refine ⟨?_, ?_, ?_, tracked.faded_created, ?_⟩
      · intro view held
        obtain ⟨held, other⟩ := bannerView_complete.mp held
        obtain ⟨created, kept⟩ := tracked.held view held
        refine ⟨created, fun removed => ?_⟩
        rcases List.mem_cons.mp removed with same | removed
        · exact other same
        · exact kept removed
      · intro view held faded
        obtain ⟨held, other⟩ := bannerView_complete.mp held
        exact (List.mem_erase_of_ne other).mpr (tracked.fading view held faded)
      · exact fun other member => tracked.closing_faded other (List.mem_of_mem_erase member)
      · intro other removed
        rcases List.mem_cons.mp removed with rfl | removed
        · exact tracked.faded_created other (tracked.closing_faded other enabled)
        · exact tracked.removed_created other removed

/-- A settled state stays settled except by a request into a close. -/
theorem settled_step (tracked : self.Tracked) (settled : self.Settled) {input : Input}
    (enabled : self.enabled input) :
    ((machine constants).next self input).Settled ↔ self.OutsideClose input := by
  cases input with
  | setDelegate delegate => exact iff_of_true settled trivial
  | request size info =>
      cases accepted : info.adunit with
      | none =>
          rw [next_request_none accepted]
          refine iff_of_true settled (fun present => ?_)
          simp [accepted] at present
      | some adUnitId =>
          cases held : self.event.bannerView with
          | some view =>
              rw [next_request_reuse accepted held]
              constructor
              · intro later _ other same
                obtain ⟨kept, keeps, _, notClosing⟩ := later rfl
                have sameKept : kept = other := Option.some.inj (keeps.symm.trans same)
                exact sameKept ▸ notClosing
              · intro outside _
                exact ⟨view, held, rfl, outside (by simp [accepted]) view held⟩
          | none =>
              rw [next_request_create accepted held]
              have notClosing : self.fresh ∉ self.closing := fun member =>
                Nat.lt_irrefl _ (tracked.faded_created _ (tracked.closing_faded _ member))
              refine iff_of_true (fun _ => ⟨_, rfl, rfl, notClosing⟩) (fun _ view same => ?_)
              rw [held] at same
              cases same
  | callback view callback =>
      refine iff_of_true ?_ trivial
      by_cases closes : callback = .willClose
      · subst closes
        rw [next_willClose]
        exact fun current => absurd current Bool.false_ne_true
      · rwa [next_callback closes]
  | complete ref =>
      refine iff_of_true (fun current => ?_) trivial
      obtain ⟨view, held, loaded, notClosing⟩ := settled current
      have other : view.ref ≠ ref := fun same => notClosing (same ▸ enabled)
      exact ⟨view, bannerView_complete.mpr ⟨held, other⟩, loaded,
        fun member => notClosing (List.mem_of_mem_erase member)⟩

end Instance

theorem tracked_start (delegate : Delegate Selector) :
    Instance.Tracked { event := { delegate } } := by
  refine ⟨?_, ?_, ?_, ?_, ?_⟩ <;> simp

/-- A run keeps every request safe from the closes before it just if no accepted
request reuses a view whose close has not finished. -/
theorem undisturbed_iff_outsideClose (constants : MobiBannerError) (delegate : Delegate Selector)
    (inputs : List Input) (runs : (machine constants).Runs { event := { delegate } } inputs) :
    (machine constants).Always (Instance.Undisturbed constants) { event := { delegate } } inputs ↔
      (machine constants).Along Instance.OutsideClose { event := { delegate } } inputs := by
  refine Machine.always_iff_along (fun state input tracked enabled => tracked.step enabled) ?_
    (tracked_start delegate) (fun current => absurd current Bool.false_ne_true) runs
  intro state input tracked undisturbed enabled
  rw [Instance.undisturbed_iff (tracked.step enabled)]
  exact Instance.settled_step tracked ((Instance.undisturbed_iff tracked).mp undisturbed) enabled

section Runs

def fullDelegate : Delegate Selector := some fun _ => true

def bannerRequest : Input :=
  .request { width := 320, height := 50 } { adunit := some "8020", interval := some 30 }

def reloadAfterClose : List Input :=
  [bannerRequest, .callback 0 .willClose, .complete 0, bannerRequest, .callback 0 .willClose]

def reloadInsideClose : List Input :=
  [bannerRequest, .callback 0 .willClose, bannerRequest]

theorem reloadAfterClose_undisturbed :
    (machine someConstants).Runs { event := { delegate := fullDelegate } } reloadAfterClose ∧
      (machine someConstants).Along Instance.OutsideClose { event := { delegate := fullDelegate } }
        reloadAfterClose ∧
      (machine someConstants).Always (Instance.Undisturbed someConstants)
        { event := { delegate := fullDelegate } } reloadAfterClose := by
  have runs : (machine someConstants).Runs { event := { delegate := fullDelegate } }
      reloadAfterClose := by
    refine ⟨trivial, ?_, ?_, trivial, ?_, trivial⟩
    · exact (by decide : 0 < 1)
    · exact List.mem_singleton.mpr rfl
    · exact (by decide : 0 < 2)
  have outside : (machine someConstants).Along Instance.OutsideClose
      { event := { delegate := fullDelegate } } reloadAfterClose := by
    refine ⟨?_, trivial, trivial, ?_, trivial, trivial⟩
    · exact fun _ view held => nomatch held
    · exact fun _ view held => nomatch held
  exact ⟨runs, outside,
    (undisturbed_iff_outsideClose someConstants fullDelegate reloadAfterClose runs).mpr outside⟩

theorem reloadInsideClose_not_undisturbed :
    (machine someConstants).Runs { event := { delegate := fullDelegate } } reloadInsideClose ∧
      ¬ (machine someConstants).Always (Instance.Undisturbed someConstants)
        { event := { delegate := fullDelegate } } reloadInsideClose := by
  refine ⟨⟨trivial, (by decide : 0 < 1), trivial, trivial⟩, fun always => ?_⟩
  obtain ⟨view, held, _⟩ := always reloadInsideClose [] rfl rfl [0] (List.Perm.refl _)
  exact nomatch held

end Runs

end GDTAdapter.Banner
