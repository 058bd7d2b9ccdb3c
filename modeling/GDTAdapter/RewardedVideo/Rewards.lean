import GDTAdapter.RewardedVideo.CustomEvent

namespace GDTAdapter.RewardedVideo

open Reactive

/-! # Reward delivery

GDT reports an earned reward by `gdt_rewardVideoAdDidRewardEffective:`; the host
pays on `rewardedVideoShouldRewardUserForCustomEvent:reward:` and its adapter
drops a nil reward.
-/

def Message.reward? : Message → Option (Option MobiRewardedVideoReward)
  | .rewardedVideoShouldRewardUser reward => some reward
  | _ => none

def rewardsSent (effects : CustomEvent.Effects) : List (Option MobiRewardedVideoReward) :=
  (messages effects).filterMap Message.reward?

def Input.earned : Input → Bool
  | .callback _ _ .didRewardEffective => true
  | _ => false

/-- In every prefix of the run as many rewards have been sent as were earned,
and none of them is nil. -/
def RewardsDelivered (self : Instance) (inputs : List Input) : Prop :=
  ∀ before later, inputs = before ++ later →
    (rewardsSent (machine.trace self before)).length = before.countP Input.earned ∧
      ∀ reward ∈ rewardsSent (machine.trace self before), reward.isSome

theorem rewardsSent_append (first second : CustomEvent.Effects) :
    rewardsSent (first ++ second) = rewardsSent first ++ rewardsSent second := by
  simp only [rewardsSent, messages_append, List.filterMap_append]

theorem rewardsSent_send {delegate : Delegate Selector} {message : Message}
    (other : message.reward? = none) : rewardsSent (delegate.send message) = [] := by
  rw [rewardsSent, Delegate.messages_send]
  split <;> simp [other]

theorem rewardsSent_notify {delegate : Delegate Selector} {guard : Selector} {message : Message}
    (other : message.reward? = none) : rewardsSent (delegate.notify guard message) = [] := by
  rw [rewardsSent, Delegate.messages_notify]
  split <;> simp [other]

theorem receive_sends_no_reward (reading : Reading) (ad : Nat) (event : CustomEvent)
    (callback : CustomEvent.Callback) : rewardsSent (event.receive reading ad callback).2 = [] := by
  cases callback with
  | videoDidLoad =>
      simp only [CustomEvent.receive, CustomEvent.gdtRewardVideoAdVideoDidLoad]
      split
      · exact rewardsSent_notify rfl
      · split <;> exact rewardsSent_notify rfl
  | didClose =>
      simp only [CustomEvent.receive, CustomEvent.gdtRewardVideoAdDidClose, rewardsSent_append]
      rw [rewardsSent_notify rfl, rewardsSent_notify rfl, List.append_nil]
  | didRewardEffective => rfl
  | _ => exact rewardsSent_notify rfl

theorem emit_sends_no_reward (self : Instance) (input : Input) :
    rewardsSent (machine.emit self input) = [] := by
  cases input with
  | request info =>
      simp only [Machine.emit, machine, Instance.step, CustomEvent.requestRewardedVideo]
      cases info.adunit with
      | none => exact rewardsSent_send rfl
      | some adUnitId => rfl
  | present reading viewController =>
      simp only [Machine.emit, machine, Instance.step, CustomEvent.presentRewardedVideo]
      split
      · split
        · rfl
        · exact rewardsSent_send rfl
      · exact rewardsSent_send rfl
  | handleAdPlayed reading =>
      simp only [Machine.emit, machine, Instance.step, CustomEvent.handleAdPlayedForCustomEventNetwork]
      split
      · exact rewardsSent_send rfl
      · rfl
  | callback reading ad callback => exact receive_sends_no_reward reading ad self.event callback
  | setDelegate delegate => rfl

theorem trace_sends_no_reward (self : Instance) (inputs : List Input) :
    rewardsSent (machine.trace self inputs) = [] := by
  induction inputs generalizing self with
  | nil => rfl
  | cons input rest ih =>
      rw [Machine.trace_cons, rewardsSent_append, emit_sends_no_reward, ih, List.append_nil]

/-- The counting law holds of exactly those runs in which nothing is earned. -/
theorem rewardsDelivered_iff (self : Instance) (inputs : List Input) :
    RewardsDelivered self inputs ↔ ∀ input ∈ inputs, input.earned = false := by
  refine ⟨fun delivered input member => ?_, fun unearned before later split => ?_⟩
  · have counted := (delivered inputs [] (List.append_nil inputs).symm).1
    rw [trace_sends_no_reward] at counted
    have none := List.countP_eq_zero.mp counted.symm input member
    simpa using none
  · have none : before.countP Input.earned = 0 := by
      refine List.countP_eq_zero.mpr (fun input member => ?_)
      have same := unearned input (split ▸ List.mem_append_left later member)
      simp [same]
    rw [trace_sends_no_reward, none]
    exact ⟨rfl, by simp⟩

/-- A loaded, presented ad whose reward GDT reports: the delegate implements the
whole protocol and is never told. -/
def earnedRun : List Input :=
  let reading : Reading := { now := 0, isAdValid := fun _ => true, expiredTimestamp := fun _ => 10 }
  [.request { adunit := some "8020" }, .callback reading 0 .didLoad, .present reading (some 1),
    .callback reading 0 .willVisible, .callback reading 0 .didExposed,
    .callback reading 0 .didRewardEffective]

theorem earnedRun_not_delivered :
    machine.Runs { event := { delegate := some fun _ => true } } earnedRun ∧
      ¬ RewardsDelivered { event := { delegate := some fun _ => true } } earnedRun := by
  refine ⟨by simp [Machine.Runs, machine, earnedRun, Instance.enabled, Machine.next, Instance.step], ?_⟩
  intro delivered
  have counted := (delivered earnedRun [] (List.append_nil _).symm).1
  rw [trace_sends_no_reward] at counted
  exact absurd counted (by decide)

end GDTAdapter.RewardedVideo
