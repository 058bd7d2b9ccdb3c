import GDTAdapter.Banner.CustomEvent
import GDTAdapter.Reactive.Observer

namespace GDTAdapter.Banner

open Reactive

/-! # Load outcomes under auto-refresh

A banner view with an `autoSwitchInterval` reports a load success or failure for
every refresh.  The custom event passes each of them on as if it answered a
request, and sends `bannerView` in place of the view that was loaded.
-/

inductive Due where
  | unrequested
  | owed
  | paid
deriving DecidableEq, Repr

def Due.pay : Due → Due
  | .owed => .paid
  | due => due

/-- Between two accepted requests there is at most one load outcome. -/
def outcomes : Monitor Due (Effect Call Message)
  | _, .call (.loadAdAndShow _) => some .owed
  | .paid, .message (.didLoadAd _) => none
  | .paid, .message (.didFailToLoadAdWithError _) => none
  | .owed, .message (.didLoadAd _) => some .paid
  | .owed, .message (.didFailToLoadAdWithError _) => some .paid
  | due, _ => some due

namespace Instance

variable {constants : MobiBannerError}

/-- What is sent as loaded is the view that GDT reported. -/
def CarriesReported (constants : MobiBannerError) (self : Instance) (input : Input) : Prop :=
  ∀ carried, .message (.didLoadAd carried) ∈ (machine constants).emit self input →
    ∃ view, input = .callback view .didLoad ∧ carried = some view

/-- What is due after the input: an accepted request makes an outcome due, and a
load callback or a refusal that the delegate hears is one. -/
def recordDue (self : Instance) (due : Due) : Input → Due
  | .request _ info =>
      if info.adunit.isSome then .owed else if self.event.delegate.isSome then due.pay else due
  | .callback _ .didLoad => if self.event.delegate.responds .didLoadAd then due.pay else due
  | .callback _ (.failedToLoad _) =>
      if self.event.delegate.responds .didFailToLoadAdWithError then due.pay else due
  | _ => due

/-- No outcome of a load is heard after the first one since the latest accepted
request, and a success that is heard is of the view in `bannerView`. -/
def HeardOnce (seen : Instance × Due) : Input → Prop
  | .request _ info =>
      info.adunit = none → seen.1.event.delegate.isSome = true → seen.2 ≠ .paid
  | .callback view .didLoad =>
      seen.1.event.delegate.responds .didLoadAd = true →
        seen.2 ≠ .paid ∧ seen.1.event.bannerView.map (·.ref) = some view
  | .callback _ (.failedToLoad _) =>
      seen.1.event.delegate.responds .didFailToLoadAdWithError = true → seen.2 ≠ .paid
  | _ => True

theorem isSome_failure_iff {due : Due} {error : NSError} :
    (outcomes.run due [.message (.didFailToLoadAdWithError error)]).isSome = true ↔ due ≠ .paid := by
  cases due <;> simp [outcomes]

theorem isSome_success_iff {due : Due} {carried : Option Nat} :
    (outcomes.run due [.message (.didLoadAd carried)]).isSome = true ↔ due ≠ .paid := by
  cases due <;> simp [outcomes]

section Step

variable {self : Instance} {due : Due} {input : Input}

/-- An accepted answer that reports no loaded view. -/
theorem exact_of_silent {effects : CustomEvent.Effects}
    (answer : (machine constants).emit self input = effects)
    (accepted : (outcomes.run due effects).isSome = true)
    (silent : ∀ carried, .message (.didLoadAd carried) ∉ effects)
    (heard : HeardOnce (self, due) input) :
    (outcomes.run due ((machine constants).emit self input)).isSome = true ∧
        self.CarriesReported constants input ↔
      HeardOnce (self, due) input := by
  refine iff_of_true ⟨?_, ?_⟩ heard
  · rw [answer]
    exact accepted
  · intro carried member
    rw [answer] at member
    exact absurd member (silent carried)

/-- A failure is passed on if it is heard at all. -/
theorem exact_of_failure {heard : Bool} {error : NSError}
    (answer : (machine constants).emit self input =
      if heard = true then [.message (.didFailToLoadAdWithError error)] else [])
    (condition : HeardOnce (self, due) input ↔ (heard = true → due ≠ .paid)) :
    (outcomes.run due ((machine constants).emit self input)).isSome = true ∧
        self.CarriesReported constants input ↔
      HeardOnce (self, due) input := by
  have silent : self.CarriesReported constants input := by
    intro carried member
    rw [answer] at member
    cases heard <;> simp at member
  rw [answer, condition, and_iff_left silent]
  cases heard with
  | true => simpa using isSome_failure_iff
  | false => simp

theorem run_of_other {delegate : Delegate Selector} {guard : Selector} {message : Message}
    {made : List Call} (otherMessage : outcomes due (.message message) = some due)
    (otherCalls : ∀ call ∈ made, outcomes due (.call call) = some due) :
    outcomes.run due (delegate.notify guard message ++ made.map .call) = some due := by
  apply Monitor.run_of_ignored
  intro effect member
  rcases List.mem_append.mp member with sent | called
  · rw [Delegate.mem_notify sent]
    exact otherMessage
  · obtain ⟨call, made, rfl⟩ := List.mem_map.mp called
    exact otherCalls call made

theorem getD_of_other {delegate : Delegate Selector} {guard : Selector} {message : Message}
    {made : List Call} (otherMessage : outcomes due (.message message) = some due)
    (otherCalls : ∀ call ∈ made, outcomes due (.call call) = some due) :
    (outcomes.run due (delegate.notify guard message ++ made.map .call)).getD due = due := by
  rw [run_of_other otherMessage otherCalls]
  rfl

/-- A notification that is not about a load. -/
theorem exact_of_other {guard : Selector} {message : Message} {made : List Call}
    (answer : (machine constants).emit self input =
      self.event.delegate.notify guard message ++ made.map .call)
    (otherMessage : outcomes due (.message message) = some due)
    (noLoad : ∀ carried, message ≠ .didLoadAd carried)
    (otherCalls : ∀ call ∈ made, outcomes due (.call call) = some due)
    (heard : HeardOnce (self, due) input) :
    (outcomes.run due ((machine constants).emit self input)).isSome = true ∧
        self.CarriesReported constants input ↔
      HeardOnce (self, due) input := by
  refine exact_of_silent answer ?_ ?_ heard
  · rw [run_of_other otherMessage otherCalls]
    rfl
  · intro carried member
    rcases List.mem_append.mp member with sent | called
    · cases Delegate.mem_notify sent
      exact noLoad carried rfl
    · obtain ⟨call, -, same⟩ := List.mem_map.mp called
      cases same

theorem exact_request (size : CGSize) (info : Info) :
    (outcomes.run due ((machine constants).emit self (.request size info))).isSome = true ∧
        self.CarriesReported constants (.request size info) ↔
      HeardOnce (self, due) (.request size info) := by
  cases adunit : info.adunit with
  | none =>
      refine @exact_of_failure _ _ _ _ self.event.delegate.isSome constants.invalidPosid ?_ ?_
      · simp only [Machine.emit, machine, step, run, CustomEvent.requestAd, adunit, Delegate.send]
      · simp only [HeardOnce, adunit, forall_const]
  | some adUnitId =>
      have heard : HeardOnce (self, due) (.request size info) := by
        intro absent
        rw [adunit] at absent
        cases absent
      cases held : self.event.bannerView with
      | some view =>
          refine @exact_of_silent _ _ _ _ [.call (.loadAdAndShow view)] ?_ rfl ?_ heard
          · simp only [Machine.emit, machine, step, run, CustomEvent.requestAd, adunit, held]
          · simp
      | none =>
          let view := CustomEvent.makeBannerView self.fresh size info adUnitId
          refine @exact_of_silent _ _ _ _ [.call (.initWithFrame view), .call (.loadAdAndShow view)]
            ?_ rfl ?_ heard
          · simp only [Machine.emit, machine, step, run, CustomEvent.requestAd, adunit, held, view]
          · simp

theorem exact_didLoad (view : Nat) :
    (outcomes.run due ((machine constants).emit self (.callback view .didLoad))).isSome = true ∧
        self.CarriesReported constants (.callback view .didLoad) ↔
      HeardOnce (self, due) (.callback view .didLoad) := by
  have answer : (machine constants).emit self (.callback view .didLoad) =
      self.event.delegate.notify .didLoadAd (.didLoadAd (self.event.bannerView.map (·.ref))) := rfl
  simp only [CarriesReported, HeardOnce, answer, Delegate.notify]
  cases self.event.delegate.responds .didLoadAd with
  | false => simp
  | true =>
      simp only [if_true, isSome_success_iff, forall_const]
      refine and_congr_right' ?_
      constructor
      · intro carries
        obtain ⟨reported, same, carried⟩ := carries _ List.mem_cons_self
        cases same
        exact carried
      · intro current carried member
        cases List.mem_singleton.mp member
        exact ⟨view, rfl, current⟩

theorem exact_step (input : Input) :
    (outcomes.run due ((machine constants).emit self input)).isSome = true ∧
        self.CarriesReported constants input ↔
      HeardOnce (self, due) input := by
  cases input with
  | request size info => exact exact_request size info
  | callback view callback =>
      cases callback with
      | didLoad => exact exact_didLoad view
      | failedToLoad error =>
          exact @exact_of_failure _ _ _ _ (self.event.delegate.responds .didFailToLoadAdWithError)
            error rfl Iff.rfl
      | willExpose =>
          exact @exact_of_other _ _ _ _ .willVisible (.willVisible view) [] (List.append_nil _).symm
            (by cases due <;> rfl) nofun nofun trivial
      | clicked =>
          exact @exact_of_other _ _ _ _ .didClick (.didClick view) [] (List.append_nil _).symm
            (by cases due <;> rfl) nofun nofun trivial
      | willLeaveApplication =>
          exact @exact_of_other _ _ _ _ .willLeaveApplication .willLeaveApplication []
            (List.append_nil _).symm (by cases due <;> rfl) nofun nofun trivial
      | willClose =>
          refine @exact_of_other _ _ _ _ .willClose (.willClose view) [.animateAlphaToZero view] rfl
            (by cases due <;> rfl) nofun ?_ trivial
          intro call member
          cases List.mem_singleton.mp member
          cases due <;> rfl
      | _ => exact exact_of_silent rfl rfl nofun trivial
  | complete view =>
      refine @exact_of_silent _ _ _ _ [.call (.removeFromSuperview view)] rfl ?_ ?_ trivial
      · cases due <;> rfl
      · simp
  | setDelegate delegate => exact exact_of_silent rfl rfl nofun trivial

theorem run_request (size : CGSize) (info : Info) :
    (outcomes.run due ((machine constants).emit self (.request size info))).getD due =
      recordDue self due (.request size info) := by
  have answer : (machine constants).emit self (.request size info) =
      (self.event.requestAd constants self.fresh size info).2 := rfl
  rw [answer]
  cases adunit : info.adunit with
  | none =>
      simp only [CustomEvent.requestAd, recordDue, adunit, Delegate.send]
      cases self.event.delegate.isSome <;> cases due <;> rfl
  | some adUnitId =>
      cases held : self.event.bannerView with
      | none => simp [CustomEvent.requestAd, recordDue, adunit, held, outcomes]
      | some view => simp [CustomEvent.requestAd, recordDue, adunit, held, outcomes]

/-- What the monitor has read of the outcomes can be told from the inputs. -/
theorem run_emit (input : Input) :
    (outcomes.run due ((machine constants).emit self input)).getD due = recordDue self due input := by
  cases input with
  | request size info => exact run_request size info
  | callback view callback =>
      have answer : (machine constants).emit self (.callback view callback) =
          (self.event.receive view callback).2 := rfl
      rw [answer]
      cases callback with
      | didLoad =>
          simp only [CustomEvent.receive, CustomEvent.unifiedBannerViewDidLoad, recordDue,
            Delegate.notify]
          cases self.event.delegate.responds .didLoadAd <;> cases due <;> rfl
      | failedToLoad error =>
          simp only [CustomEvent.receive, CustomEvent.unifiedBannerViewFailedToLoad, recordDue,
            Delegate.notify]
          cases self.event.delegate.responds .didFailToLoadAdWithError <;> cases due <;> rfl
      | willExpose | clicked | willLeaveApplication =>
          refine (congrArg (fun effects => (outcomes.run due effects).getD due)
            (List.append_nil _).symm).trans ?_
          exact @getD_of_other _ _ _ _ [] (by cases due <;> rfl) nofun
      | willClose =>
          refine @getD_of_other _ _ _ _ [.animateAlphaToZero view] (by cases due <;> rfl) ?_
          intro call member
          cases List.mem_singleton.mp member
          cases due <;> rfl
      | _ => rfl
  | complete view => cases due <;> rfl
  | setDelegate delegate => rfl

end Step

/-- In every run from any state at most one load outcome is sent between two
accepted requests, and each success carries the view that was loaded. -/
structure OutcomesOnce (constants : MobiBannerError) (start : Instance) (inputs : List Input) :
    Prop where
  once : outcomes.Accepts .unrequested ((machine constants).trace start inputs)
  carries : (machine constants).Along (CarriesReported constants) start inputs

theorem monitored_eq_observed :
    (machine constants).monitored outcomes = (machine constants).observed recordDue := by
  have same : (fun self due input => (outcomes.run due ((machine constants).emit self input)).getD due) =
      recordDue := by
    funext self due input
    exact run_emit input
  rw [Machine.monitored, same]

theorem outcomesOnce_iff (constants : MobiBannerError) (start : Instance) (inputs : List Input) :
    OutcomesOnce constants start inputs ↔
      ((machine constants).observed recordDue).Along HeardOnce (start, .unrequested) inputs := by
  have run := Machine.accepts_and_along_iff
    (fun state due input => @exact_step constants state due input) start .unrequested inputs
  rw [← monitored_eq_observed, ← run]
  constructor
  · intro outcomes
    exact ⟨outcomes.once, outcomes.carries⟩
  · intro outcomes
    exact ⟨outcomes.1, outcomes.2⟩

def failedRefresh : List Input :=
  [.request { width := 320, height := 50 } { adunit := some "8020", interval := some 30 },
    .callback 0 .didLoad,
    .callback 0 (.failedToLoad { domain := "GDT", code := 5004, localizedDescription := none })]

theorem failedRefresh_not_outcomesOnce :
    let constants : MobiBannerError := { adsSDKDomain := "MobiBannerAdsSDKDomain", adErrorInvalidPosid := -1500 }
    let start : Instance := { event := { delegate := some fun _ => true } }
    (machine constants).Runs start failedRefresh ∧ ¬ OutcomesOnce constants start failedRefresh := by
  intro constants start
  refine ⟨⟨trivial, Nat.one_pos, Nat.one_pos, trivial⟩, ?_⟩
  intro outcomes
  cases outcomes.once

end Instance

end GDTAdapter.Banner
