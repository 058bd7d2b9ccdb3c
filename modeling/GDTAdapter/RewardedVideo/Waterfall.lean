import GDTAdapter.Reactive.Monitor
import GDTAdapter.RewardedVideo.Pipeline

namespace GDTAdapter.RewardedVideo

open Reactive

/-! # The waterfall

In every run, whatever GDT answers, the configurations of a response are tried in
the order of the list, none of them twice.
-/

/-- A received list replaces the pending one, and a fetch takes its head. -/
def order : Monitor (List MobiConfig) Output
  | _, .received configurations => some configurations
  | [], .fetch _ => none
  | next :: rest, .fetch configuration => if configuration = next then some rest else none
  | pending, _ => some pending

def Output.silent : Output → Bool
  | .received _ => false
  | .fetch _ => false
  | _ => true

theorem order_silent {output : Output} (silent : output.silent = true) (pending : List MobiConfig) :
    order pending output = some pending := by
  cases output with
  | received configurations => cases silent
  | fetch configuration => cases silent
  | _ => cases pending <;> rfl

/-- The outputs follow the pending list, and the manager keeps no configuration
that is not pending. -/
def Follows (before : List MobiConfig) (result : Pipeline × List Output) : Prop :=
  ∀ pending, before <+: pending → ∃ later, order.run pending result.2 = some later ∧
    result.1.remainingConfigurations <+: later

theorem Follows.of_silent {before : List MobiConfig} {result : Pipeline × List Output}
    (silent : ∀ output ∈ result.2, output.silent = true)
    (kept : result.1.remainingConfigurations <+: before) : Follows before result := by
  intro pending included
  have ignored : order.run pending result.2 = some pending :=
    Monitor.run_of_ignored (fun output member => order_silent (silent output member) pending)
  exact ⟨pending, ignored, kept.trans included⟩

theorem Follows.append {before : List MobiConfig} {middle last : Pipeline} {first second : List Output}
    (here : Follows before (middle, first))
    (there : Follows middle.remainingConfigurations (last, second)) :
    Follows before (last, first ++ second) := by
  intro pending included
  obtain ⟨halfway, ran, kept⟩ := here pending included
  obtain ⟨later, continued, keptLast⟩ := there halfway kept
  refine ⟨later, ?_, keptLast⟩
  rw [Monitor.run_append, ran, Option.bind_some, continued]

theorem Follows.fetch {configuration : MobiConfig} {rest : List MobiConfig} {result : Pipeline}
    {outputs : List Output} (follows : Follows rest (result, outputs)) :
    Follows (configuration :: rest) (result, .fetch configuration :: outputs) := by
  intro pending included
  cases pending with
  | nil => exact absurd (List.prefix_nil.mp included) (List.cons_ne_nil _ _)
  | cons next others =>
      obtain ⟨same, tail⟩ := List.cons_prefix_cons.mp included
      subst next
      obtain ⟨later, ran, kept⟩ := follows others tail
      refine ⟨later, ?_, kept⟩
      rw [Monitor.run_cons, order, if_pos rfl, Option.bind_some, ran]

theorem Adapter.receive_silent (adapter : Adapter) (message : Message) :
    ∀ output ∈ (adapter.receive message).2.1, output.silent = true := by
  cases message with
  | rewardedVideoDidLoadAd =>
      simp only [receive]
      split <;> simp
  | rewardedVideoDidExpire =>
      simp only [receive, rewardedVideoDidExpire]
      split <;> simp
  | rewardedVideoDidAppear =>
      simp only [receive]
      split <;> simp [Output.silent]
  | rewardedVideoDidReceiveTapEvent =>
      simp only [receive]
      split <;> simp [Output.silent]
  | rewardedVideoShouldRewardUser reward => cases reward <;> simp [receive]
  | _ => simp [receive]

namespace Pipeline

theorem getAd_follows {self after : Pipeline} {configuration : MobiConfig} {outputs : List Output}
    {failure : Option NSError} (got : self.getAd configuration = (after, outputs, failure)) :
    (∀ output ∈ outputs, output.silent = true) ∧
      after.remainingConfigurations = self.remainingConfigurations := by
  have checked : (∀ output ∈ (self.getAd configuration).2.1, output.silent = true) ∧
      (self.getAd configuration).1.remainingConfigurations = self.remainingConfigurations := by
    unfold getAd CustomEvent.requestRewardedVideo
    split
    · cases configuration.info.adunit with
      | none => simp [Delegate.send, loadFailure?, Output.silent]
      | some adUnitId => simp [perform, Output.silent]
    · simp
  rw [got] at checked
  exact checked

theorem fetchAd_follows (configuration : MobiConfig) (remaining : List MobiConfig) (self : Pipeline) :
    Follows (configuration :: remaining) (self.fetchAd configuration remaining) := by
  refine fetchAd_induct (motive := fun configuration remaining _ result =>
    Follows (configuration :: remaining) result) ?_ ?_ ?_ ?_ configuration remaining self
  · intro configuration remaining self error
    exact Follows.fetch (Follows.of_silent (by simp [Output.silent]) List.prefix_rfl)
  · intro configuration remaining self after outputs got
    obtain ⟨silent, kept⟩ := getAd_follows got
    exact Follows.fetch (Follows.of_silent silent (kept ▸ List.prefix_rfl))
  · intro configuration next rest self after outputs error result got later
    obtain ⟨silent, kept⟩ := getAd_follows got
    have kept : after.remainingConfigurations = next :: rest := kept
    have early : Follows (next :: rest) (after, outputs) :=
      Follows.of_silent silent (kept ▸ List.prefix_rfl)
    exact Follows.fetch (early.append (kept ▸ later))
  · intro configuration self after outputs error got
    obtain ⟨silent, kept⟩ := getAd_follows got
    refine Follows.fetch (Follows.of_silent ?_ (kept ▸ List.prefix_rfl))
    intro output member
    rcases List.mem_append.mp member with early | late
    · exact silent output early
    · rw [List.mem_singleton.mp late]
      rfl

theorem didFailToLoad_follows (error : NSError) (self : Pipeline) :
    Follows self.remainingConfigurations (self.rewardedVideoDidFailToLoad error) := by
  cases remaining : self.remainingConfigurations with
  | nil =>
      simp only [rewardedVideoDidFailToLoad, remaining]
      exact Follows.of_silent (by simp [Output.silent]) List.prefix_rfl
  | cons next rest =>
      simp only [rewardedVideoDidFailToLoad, remaining]
      exact self.fetchAd_follows next rest

theorem receive_follows (message : AdapterMessage) (self : Pipeline) :
    Follows self.remainingConfigurations (self.receive message) := by
  cases message with
  | rewardedVideoDidFailToLoad error => exact self.didFailToLoad_follows error
  | rewardedVideoDidLoad =>
      exact Follows.of_silent (by simp [receive, Output.silent]) List.nil_prefix
  | _ => exact Follows.of_silent (by simp [receive, Output.silent]) List.prefix_rfl

theorem receiveAll_follows (messages : List AdapterMessage) (self : Pipeline) :
    Follows self.remainingConfigurations (receiveAll messages self) := by
  induction messages generalizing self with
  | nil => exact Follows.of_silent (by simp [receiveAll]) List.prefix_rfl
  | cons message rest ih => exact (self.receive_follows message).append (ih (self.receive message).1)

theorem report_follows {adapter : Adapter} {tracked : List Output} {passedOn : List AdapterMessage}
    (silent : ∀ output ∈ tracked, output.silent = true) (self : Pipeline) :
    Follows self.remainingConfigurations (self.report adapter tracked passedOn) := by
  have tracks : Follows self.remainingConfigurations
      ({ self with adapter := some adapter }, tracked) :=
    Follows.of_silent silent List.prefix_rfl
  unfold report
  split
  · exact tracks.append (receiveAll_follows passedOn { self with adapter := some adapter })
  · exact tracks

theorem adapterReceive_follows (message : Message) (self : Pipeline) :
    Follows self.remainingConfigurations (self.adapterReceive message) := by
  unfold adapterReceive
  cases self.adapter with
  | none => exact Follows.of_silent (by simp) List.prefix_rfl
  | some adapter => exact self.report_follows (adapter.receive_silent message)

theorem perform_remaining (call : Call) (self : Pipeline) :
    (self.perform call).remainingConfigurations = self.remainingConfigurations := by
  cases call <;> rfl

theorem handle_follows (effects : CustomEvent.Effects) (self : Pipeline) :
    Follows self.remainingConfigurations (handle effects self) := by
  induction effects generalizing self with
  | nil => exact Follows.of_silent (by simp [handle]) List.prefix_rfl
  | cons effect rest ih =>
      cases effect with
      | call call =>
          have made : Follows self.remainingConfigurations (self.perform call, [.gdt call]) :=
            Follows.of_silent (by simp [Output.silent]) (perform_remaining call self ▸ List.prefix_rfl)
          exact made.append (ih (self.perform call))
      | message message =>
          have sent : Follows self.remainingConfigurations (self, [.customEvent message]) :=
            Follows.of_silent (by simp [Output.silent]) List.prefix_rfl
          exact sent.append
            ((self.adapterReceive_follows message).append (ih (self.adapterReceive message).1))

theorem withCustomEvent_follows (method : CustomEvent → CustomEvent × CustomEvent.Effects)
    (self : Pipeline) : Follows self.remainingConfigurations (self.withCustomEvent method) := by
  have unchanged : Follows self.remainingConfigurations (self, []) :=
    Follows.of_silent (by simp) List.prefix_rfl
  unfold withCustomEvent
  cases self.adapter with
  | none => exact unchanged
  | some adapter =>
      cases held : adapter.rewardedVideoCustomEvent with
      | none => simpa [held] using unchanged
      | some event =>
          simp only [held]
          let updated : Adapter := { adapter with rewardedVideoCustomEvent := some (method event).1 }
          exact handle_follows (method event).2 { self with adapter := some updated }

theorem timeout_follows (self : Pipeline) :
    Follows self.remainingConfigurations self.timeout := by
  unfold timeout
  cases self.adapter with
  | none => exact Follows.of_silent (by simp) List.prefix_rfl
  | some adapter =>
      let timedOut : Adapter := { adapter with timeoutTimer := false, delegate := false }
      by_cases connected : adapter.delegate = true
      · simp only [if_pos connected]
        exact didFailToLoad_follows requestTimedOut { self with adapter := some timedOut }
      · simp only [if_neg connected]
        exact Follows.of_silent (by simp) List.prefix_rfl

theorem expire_follows (self : Pipeline) : Follows self.remainingConfigurations self.expire := by
  unfold expire
  cases self.adapter with
  | none => exact Follows.of_silent (by simp) List.prefix_rfl
  | some adapter =>
      by_cases tracked : adapter.hasTrackedImpression = true
      · simp only [tracked, if_true]
        exact Follows.of_silent (by simp) List.prefix_rfl
      · simp only [tracked]
        apply self.report_follows
        unfold Adapter.rewardedVideoDidExpire
        split <;> simp

/-- The one step that brings a list replaces what was pending, so it follows
whatever came before it. -/
theorem communicatorDidReceive_follows (configurations before : List MobiConfig) (self : Pipeline) :
    Follows before (self.communicatorDidReceiveAdConfigurations configurations) := by
  intro pending _
  cases configurations with
  | nil => exact ⟨[], rfl, List.prefix_rfl⟩
  | cons first rest =>
      obtain ⟨later, ran, kept⟩ :=
        fetchAd_follows first rest { self with configRequest := false } (first :: rest) List.prefix_rfl
      exact ⟨later, ran, kept⟩

theorem step_follows (input : Input) (self : Pipeline) :
    Follows self.remainingConfigurations (self.step input) := by
  have silently (result : Pipeline × List Output)
      (silent : ∀ output ∈ result.2, output.silent = true)
      (kept : result.1.remainingConfigurations = self.remainingConfigurations) :
      Follows self.remainingConfigurations result :=
    Follows.of_silent silent (kept ▸ List.prefix_rfl)
  cases input with
  | load =>
      simp only [step, loadRewardedVideoAd, loadAdWithURL]
      split
      · exact silently _ (by simp [Output.silent]) rfl
      · split
        · exact silently _ (by simp) rfl
        · exact silently _ (by simp [Output.silent]) rfl
  | present reading viewController =>
      simp only [step, presentRewardedVideoAd]
      split
      · exact silently _ (by simp [Output.silent]) rfl
      · split
        · exact silently _ (by simp [Output.silent]) rfl
        · exact self.withCustomEvent_follows _
  | handleAdPlayed reading =>
      simp only [step, handleAdPlayedForCustomEventNetwork]
      split
      · exact self.withCustomEvent_follows _
      · exact silently _ (by simp) rfl
  | receiveConfigurations configurations => exact self.communicatorDidReceive_follows configurations _
  | requestFailed error =>
      exact silently _ (by simp [step, communicatorDidFailWithError, Output.silent]) rfl
  | callback reading ad callback =>
      have settled : (self.settle ad callback).remainingConfigurations =
          self.remainingConfigurations := by
        cases callback <;> rfl
      simp only [step, Pipeline.callback]
      split
      · rw [← settled]
        exact (self.settle ad callback).withCustomEvent_follows _
      · exact silently _ (by simp) settled
  | timeout => exact self.timeout_follows
  | expire => exact self.expire_follows

theorem trace_follows (inputs : List Input) : order.Accepts [] (machine.trace {} inputs) := by
  have simulates (self : Pipeline) (input : Input) (pending : List MobiConfig)
      (included : self.remainingConfigurations <+: pending) :
      ∃ later, order.run pending (machine.emit self input) = some later ∧
        (machine.next self input).remainingConfigurations <+: later :=
    self.step_follows input pending included
  have initially : ({} : Pipeline).remainingConfigurations <+: [] := List.prefix_rfl
  exact Monitor.accepts_trace_of_simulation simulates initially inputs

end Pipeline

end GDTAdapter.RewardedVideo
