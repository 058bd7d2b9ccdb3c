import GDTAdapter.Reactive.Loader
import GDTAdapter.RewardedVideo.Availability
import GDTAdapter.RewardedVideo.Waterfall

namespace GDTAdapter.RewardedVideo

open Reactive

/-! # The load phase of the pipeline

The pipeline is a loader whose slot is the adapter that the manager holds.
Everything that happens to an ad after its load leaves the loader alone.
-/

def Adapter.slot (self : Adapter) : Slot where
  connected := self.delegate
  load := self.ad?
  heard := self.rewardedVideoCustomEvent.elim true
    (fun event => event.delegate.responds .rewardedVideoDidLoadAd)
  timer := self.timeoutTimer

/-- The loader, with what decides whether a load answer is reported. -/
structure View extends Loader where
  hasSuccessfullyLoaded : Bool
  loaded : List Nat

namespace Pipeline

def view (self : Pipeline) : View where
  loading := self.loading
  requested := self.configRequest
  slot := self.adapter.map Adapter.slot
  fresh := self.fresh
  unanswered := self.unanswered
  hasSuccessfullyLoaded := self.adapter.any Adapter.hasSuccessfullyLoaded
  loaded := self.loaded

end Pipeline

def AdapterMessage.idle : AdapterMessage → Bool
  | .rewardedVideoDidLoad => false
  | .rewardedVideoDidFailToLoad _ => false
  | _ => true

def Message.idle : Message → Bool
  | .rewardedVideoDidLoadAd => false
  | .rewardedVideoDidFailToLoadAd _ => false
  | _ => true

def idleEffect : Effect Call Message → Bool
  | .message message => message.idle
  | .call (.showAdFromRootViewController _ _) => true
  | .call _ => false

theorem idleEffect_of_mem_send {delegate : Delegate Selector} {message : Message}
    (idle : message.idle = true) : ∀ effect ∈ delegate.send message, idleEffect effect = true := by
  intro effect member
  have sent := Delegate.mem_send member
  rw [sent]
  exact idle

theorem idleEffect_of_mem_notify {delegate : Delegate Selector} {guard : Selector} {message : Message}
    (idle : message.idle = true) :
    ∀ effect ∈ delegate.notify guard message, idleEffect effect = true := by
  intro effect member
  have sent := Delegate.mem_notify member
  rw [sent]
  exact idle

/-- The method keeps the ad and the delegate, and reports no load outcome. -/
structure Idles (event : CustomEvent) (result : CustomEvent × CustomEvent.Effects) : Prop where
  ad : result.1.rewardVideoAd = event.rewardVideoAd
  delegate : result.1.delegate = event.delegate
  idle : ∀ effect ∈ result.2, idleEffect effect = true

theorem Idles.of_send {event : CustomEvent} {message : Message} (idle : message.idle = true) :
    Idles event (event, event.delegate.send message) :=
  ⟨rfl, rfl, idleEffect_of_mem_send idle⟩

theorem Idles.of_notify {event : CustomEvent} {guard : Selector} {message : Message}
    (idle : message.idle = true) : Idles event (event, event.delegate.notify guard message) :=
  ⟨rfl, rfl, idleEffect_of_mem_notify idle⟩

namespace CustomEvent

theorem presentRewardedVideo_idles (reading : Reading) (viewController : Option UIViewController)
    (event : CustomEvent) : Idles event (event.presentRewardedVideo reading viewController) := by
  have stored : (event.presentRewardedVideo reading viewController).1.rewardVideoAd =
      event.rewardVideoAd ∧
        (event.presentRewardedVideo reading viewController).1.delegate = event.delegate := by
    cases current : event.rewardVideoAd with
    | none => cases viewController <;> simp [presentRewardedVideo, current]
    | some ad =>
        cases valid : reading.isAdValid ad.ref <;> cases viewController <;>
          simp [presentRewardedVideo, current, valid]
  refine ⟨stored.1, stored.2, ?_⟩
  cases valid : event.isAdValid reading with
  | true =>
      obtain ⟨ad, _, shown⟩ := presentRewardedVideo_of_valid viewController valid
      rw [shown]
      intro effect member
      rw [List.mem_singleton.mp member]
      rfl
  | false =>
      rw [presentRewardedVideo_of_invalid valid]
      exact idleEffect_of_mem_send rfl

theorem handleAdPlayed_idles (reading : Reading) (event : CustomEvent) :
    Idles event (event.handleAdPlayedForCustomEventNetwork reading) := by
  unfold handleAdPlayedForCustomEventNetwork
  split
  · exact Idles.of_send rfl
  · exact ⟨rfl, rfl, by simp⟩

theorem receive_idles (reading : Reading) (ad : Nat) {callback : Callback}
    (later : callback ≠ .didLoad) (event : CustomEvent) :
    Idles event (event.receive reading ad callback) := by
  cases callback with
  | didLoad => exact absurd rfl later
  | videoDidLoad =>
      simp only [receive, gdtRewardVideoAdVideoDidLoad]
      split
      · exact Idles.of_notify rfl
      · split <;> exact Idles.of_notify rfl
  | willVisible => exact Idles.of_notify rfl
  | didExposed => exact Idles.of_notify rfl
  | didClose =>
      refine ⟨rfl, rfl, ?_⟩
      intro effect member
      rcases List.mem_append.mp member with first | second
      · exact idleEffect_of_mem_notify rfl effect first
      · exact idleEffect_of_mem_notify rfl effect second
  | didClicked => exact Idles.of_notify rfl
  | didFailWithError error => exact ⟨rfl, rfl, idleEffect_of_mem_notify rfl⟩
  | didRewardEffective => exact ⟨rfl, rfl, by simp [receive, gdtRewardVideoAdDidRewardEffective]⟩
  | didPlayFinish => exact Idles.of_notify rfl

end CustomEvent

theorem Adapter.receive_idle (adapter : Adapter) {message : Message} (idle : message.idle = true) :
    (adapter.receive message).1.slot = adapter.slot ∧
      (adapter.receive message).1.hasSuccessfullyLoaded = adapter.hasSuccessfullyLoaded ∧
      ∀ passedOn ∈ (adapter.receive message).2.2, passedOn.idle = true := by
  cases message with
  | rewardedVideoDidLoadAd => cases idle
  | rewardedVideoDidFailToLoadAd error => cases idle
  | rewardedVideoDidExpire =>
      simp only [receive, rewardedVideoDidExpire]
      split
      · simp
      · simp [slot, ad?, AdapterMessage.idle]
  | rewardedVideoDidAppear =>
      simp only [receive]
      split
      · simp [slot, ad?, AdapterMessage.idle]
      · simp [AdapterMessage.idle]
  | rewardedVideoDidReceiveTapEvent =>
      simp only [receive]
      split
      · simp [slot, ad?, AdapterMessage.idle]
      · simp [AdapterMessage.idle]
  | rewardedVideoShouldRewardUser reward =>
      cases reward with
      | none => simp [receive]
      | some reward => simp [receive, AdapterMessage.idle]
  | _ => simp [receive, AdapterMessage.idle]

namespace Pipeline

theorem receive_view (self : Pipeline) {message : AdapterMessage} (idle : message.idle = true) :
    (self.receive message).1.view = self.view := by
  cases message with
  | rewardedVideoDidLoad => cases idle
  | rewardedVideoDidFailToLoad error => cases idle
  | _ => rfl

theorem receiveAll_view (self : Pipeline) {messages : List AdapterMessage}
    (idle : ∀ message ∈ messages, message.idle = true) :
    (receiveAll messages self).1.view = self.view := by
  induction messages generalizing self with
  | nil => rfl
  | cons message rest ih =>
      have here := receive_view self (idle message List.mem_cons_self)
      have there := ih (self.receive message).1
        (fun other member => idle other (List.mem_cons_of_mem _ member))
      exact there.trans here

theorem view_setAdapter {self : Pipeline} {adapter other : Adapter}
    (current : self.adapter = some adapter) (same : other.slot = adapter.slot)
    (alike : other.hasSuccessfullyLoaded = adapter.hasSuccessfullyLoaded) :
    view { self with adapter := some other } = self.view := by
  simp [view, current, same, alike]

theorem report_view {self : Pipeline} {adapter other : Adapter} {tracked : List Output}
    {passedOn : List AdapterMessage} (current : self.adapter = some adapter)
    (same : other.slot = adapter.slot)
    (alike : other.hasSuccessfullyLoaded = adapter.hasSuccessfullyLoaded)
    (idle : ∀ message ∈ passedOn, message.idle = true) :
    (self.report other tracked passedOn).1.view = self.view := by
  have stored := view_setAdapter current same alike
  cases connected : other.delegate with
  | false =>
      simp only [report, connected]
      exact stored
  | true =>
      simp only [report, connected]
      have told := receiveAll_view { self with adapter := some other } idle
      exact told.trans stored

theorem adapterReceive_view (self : Pipeline) {message : Message} (idle : message.idle = true) :
    (self.adapterReceive message).1.view = self.view := by
  cases current : self.adapter with
  | none => simp only [adapterReceive, current]
  | some adapter =>
      simp only [adapterReceive, current]
      obtain ⟨same, alike, passedOn⟩ := adapter.receive_idle idle
      exact report_view current same alike passedOn

theorem handle_view (self : Pipeline) {effects : CustomEvent.Effects}
    (idle : ∀ effect ∈ effects, idleEffect effect = true) :
    (handle effects self).1.view = self.view := by
  induction effects generalizing self with
  | nil => rfl
  | cons effect rest ih =>
      have first := idle effect List.mem_cons_self
      have others := fun other member => idle other (List.mem_cons_of_mem effect member)
      cases effect with
      | call call =>
          cases call with
          | initWithPlacementId ad => cases first
          | loadAd ad => cases first
          | showAdFromRootViewController ad viewController => exact ih self others
      | message message =>
          have received := adapterReceive_view self first
          have continued := ih (self.adapterReceive message).1 others
          exact continued.trans received

theorem withCustomEvent_view (self : Pipeline)
    {method : CustomEvent → CustomEvent × CustomEvent.Effects}
    (idles : ∀ event, Idles event (method event)) :
    (self.withCustomEvent method).1.view = self.view := by
  cases current : self.adapter with
  | none => simp only [withCustomEvent, current]
  | some adapter =>
      cases held : adapter.rewardedVideoCustomEvent with
      | none => simp only [withCustomEvent, current, held]
      | some event =>
          simp only [withCustomEvent, current, held]
          let updated : Adapter := { adapter with rewardedVideoCustomEvent := some (method event).1 }
          have same : updated.slot = adapter.slot := by
            simp [updated, Adapter.slot, Adapter.ad?, held, (idles event).ad, (idles event).delegate]
          have handled := handle_view { self with adapter := some updated } (idles event).idle
          exact handled.trans (view_setAdapter current same rfl)

theorem present_view (self : Pipeline) (reading : Reading)
    (viewController : Option UIViewController) :
    (self.presentRewardedVideoAd reading viewController).1.view = self.view := by
  unfold presentRewardedVideoAd
  split
  · rfl
  · split
    · rfl
    · exact withCustomEvent_view self
        (CustomEvent.presentRewardedVideo_idles reading viewController)

theorem handleAdPlayed_view (self : Pipeline) (reading : Reading) :
    (self.handleAdPlayedForCustomEventNetwork reading).1.view = self.view := by
  unfold handleAdPlayedForCustomEventNetwork
  split
  · exact withCustomEvent_view self (CustomEvent.handleAdPlayed_idles reading)
  · rfl

theorem expire_view (self : Pipeline) : self.expire.1.view = self.view := by
  cases current : self.adapter with
  | none => simp only [expire, current]
  | some adapter =>
      have timer : { adapter with expirationTimer := false }.slot = adapter.slot := rfl
      by_cases tracked : adapter.hasTrackedImpression = true
      · simp only [expire, current, if_pos tracked]
        exact view_setAdapter current timer rfl
      · obtain ⟨same, alike, passedOn⟩ :=
          @Adapter.receive_idle { adapter with expirationTimer := false } .rewardedVideoDidExpire rfl
        simp only [expire, current, if_neg tracked]
        exact report_view current (same.trans timer) alike passedOn

end Pipeline

inductive Fetches (before : View) : View → Prop where
  | refused : Fetches before { before with loading := false }
  | failed :
      Fetches before
        { before with loading := false, slot := some Slot.failed, hasSuccessfullyLoaded := false }
  | started (timer : Bool) :
      Fetches before
        { before with
            slot := some (Slot.started before.fresh timer)
            fresh := before.fresh + 1
            unanswered := before.unanswered ++ [before.fresh]
            hasSuccessfullyLoaded := false }

theorem Fetches.after_failed {before after : View}
    (fetches : Fetches { before with slot := some Slot.failed, hasSuccessfullyLoaded := false } after) :
    Fetches before after := by
  cases fetches with
  | refused => exact Fetches.failed
  | failed => exact Fetches.failed
  | started timer => exact Fetches.started timer

theorem Fetches.fetched {before after : View} (fetches : Fetches before after) :
    Loader.Fetched before.toLoader after.toLoader := by
  cases fetches with
  | refused => exact Loader.Fetched.refused
  | failed => exact Loader.Fetched.failed
  | started timer => exact Loader.Fetched.started timer

namespace Pipeline

theorem getAd_view {self after : Pipeline} {configuration : MobiConfig} {outputs : List Output}
    {failure : Option NSError} (got : self.getAd configuration = (after, outputs, failure)) :
    (failure = none ∧ after.view =
      { self.view with
          slot := some (Slot.started self.fresh (configuration.armsTimeout 30))
          fresh := self.fresh + 1
          unanswered := self.unanswered ++ [self.fresh]
          hasSuccessfullyLoaded := false }) ∨
    (failure.isSome = true ∧
      after.view = { self.view with slot := some Slot.failed, hasSuccessfullyLoaded := false }) := by
  unfold getAd CustomEvent.requestRewardedVideo at got
  cases conforming : conforms configuration.customEventClass with
  | false =>
      simp only [conforming, Bool.false_eq_true, if_false, Prod.mk.injEq] at got
      obtain ⟨rfl, _, rfl⟩ := got
      exact Or.inr ⟨rfl, rfl⟩
  | true =>
      cases unit : configuration.info.adunit with
      | none =>
          simp [conforming, unit, Delegate.send, loadFailure?, Prod.mk.injEq] at got
          obtain ⟨rfl, _, rfl⟩ := got
          exact Or.inr ⟨rfl, rfl⟩
      | some adUnitId =>
          simp [conforming, unit, Prod.mk.injEq, perform] at got
          obtain ⟨rfl, _, rfl⟩ := got
          exact Or.inl ⟨rfl, rfl⟩

theorem fetchAd_fetches (configuration : MobiConfig) (remaining : List MobiConfig) (self : Pipeline) :
    Fetches self.view (self.fetchAd configuration remaining).1.view := by
  refine fetchAd_induct (motive := fun _ _ self result => Fetches self.view result.1.view)
    ?_ ?_ ?_ ?_ configuration remaining self
  · intro configuration remaining self error
    exact Fetches.refused
  · intro configuration remaining self after outputs got
    rcases getAd_view got with ⟨_, started⟩ | ⟨failed, _⟩
    · rw [started]
      exact Fetches.started (configuration.armsTimeout 30)
    · cases failed
  · intro configuration next rest self after outputs error result got later
    rcases getAd_view got with ⟨started, _⟩ | ⟨_, failed⟩
    · cases started
    · rw [failed] at later
      exact later.after_failed
  · intro configuration self after outputs error got
    rcases getAd_view got with ⟨started, _⟩ | ⟨_, failed⟩
    · cases started
    · have same : view { after with ready := false, loading := false } =
          { after.view with loading := false } := rfl
      rw [same, failed]
      exact Fetches.failed

theorem didFailToLoad_fetches (error : NSError) (self : Pipeline) :
    Fetches self.view (self.rewardedVideoDidFailToLoad error).1.view := by
  cases remaining : self.remainingConfigurations with
  | nil =>
      simp only [rewardedVideoDidFailToLoad, remaining]
      exact Fetches.refused
  | cons next rest =>
      simp only [rewardedVideoDidFailToLoad, remaining]
      exact fetchAd_fetches next rest self

end Pipeline

/-- What a step can do to the view, as long as no load fails. -/
inductive Moves (before : View) : View → Prop where
  | stay : Moves before before
  | request (idle : before.loading = false) :
      Moves before { before with loading := true, requested := true }
  | response {after : View} (requested : before.requested = true)
      (fetches : Fetches { before with requested := false } after) : Moves before after
  | loaded {slot : Slot} {ad : Nat} (held : before.slot = some slot) (same : slot.load = some ad)
      (owed : ad ∈ before.unanswered) :
      Moves before
        { toLoader := before.toLoader.loaded slot ad
          hasSuccessfullyLoaded := true
          loaded := before.loaded ++ [ad] }
  | timeout {slot : Slot} {after : View} (held : before.slot = some slot) (armed : slot.timer = true)
      (fetches : Fetches { before with toLoader := before.toLoader.timedOut slot } after) :
      Moves before after
  | stale {ad : Nat} {loaded : List Nat}
      (other : ∀ slot, before.slot = some slot → slot.load ≠ some ad)
      (reported : loaded = before.loaded ∨ (loaded = before.loaded ++ [ad] ∧ ad ∈ before.unanswered)) :
      Moves before { before with unanswered := before.unanswered.erase ad, loaded := loaded }

/-- An adapter has not reported a load that is unanswered, and no load is
answered twice. -/
structure View.Consistent (view : View) : Prop where
  unloaded : ∀ slot ad, view.slot = some slot → slot.load = some ad → ad ∈ view.unanswered →
    view.hasSuccessfullyLoaded = false
  answered : ∀ ad ∈ view.loaded, ad ∉ view.unanswered ∧ ad < view.fresh

theorem Moves.sound {before after : View} (moves : Moves before after)
    (sound : before.toLoader.Sound) : after.toLoader.Sound := by
  cases moves with
  | stay => exact sound
  | request idle => exact sound.step (Loader.Step.request idle)
  | response requested fetches => exact sound.step (Loader.Step.response requested fetches.fetched)
  | loaded held same owed => exact sound.step (Loader.Step.loaded held same owed)
  | timeout held armed fetches => exact sound.step (Loader.Step.timeout held armed fetches.fetched)
  | stale other reported => exact sound.step (Loader.Step.stale other)

theorem Fetches.consistent {before after : View} (fetches : Fetches before after)
    (consistent : before.Consistent) : after.Consistent := by
  cases fetches with
  | refused => exact ⟨consistent.unloaded, consistent.answered⟩
  | failed => exact ⟨fun _ _ _ _ _ => rfl, consistent.answered⟩
  | started timer =>
      refine ⟨fun _ _ _ _ _ => rfl, ?_⟩
      intro ad reported
      obtain ⟨settled, allocated⟩ := consistent.answered ad reported
      refine ⟨?_, Nat.lt_succ_of_lt allocated⟩
      intro owed
      rcases List.mem_append.mp owed with earlier | last
      · exact settled earlier
      · have equal : ad = before.fresh := List.mem_singleton.mp last
        omega

theorem View.Consistent.erase {view : View} (consistent : view.Consistent)
    (sound : view.toLoader.Sound) {ad : Nat} (owed : ad ∈ view.unanswered) :
    ∀ known ∈ view.loaded ++ [ad], known ∉ view.unanswered.erase ad ∧ known < view.fresh := by
  intro known reported
  rcases List.mem_append.mp reported with earlier | last
  · obtain ⟨settled, allocated⟩ := consistent.answered known earlier
    exact ⟨fun again => settled (List.mem_of_mem_erase again), allocated⟩
  · rw [List.mem_singleton.mp last]
    exact ⟨sound.distinct.not_mem_erase, sound.allocated ad owed⟩

theorem Moves.consistent {before after : View} (moves : Moves before after)
    (sound : before.toLoader.Sound) (consistent : before.Consistent) : after.Consistent := by
  cases moves with
  | stay => exact consistent
  | request idle => exact ⟨consistent.unloaded, consistent.answered⟩
  | response requested fetches =>
      exact fetches.consistent ⟨consistent.unloaded, consistent.answered⟩
  | loaded held same owed =>
      refine ⟨?_, consistent.erase sound owed⟩
      intro slot ad current sameLoad again
      cases current
      have equal := same.symm.trans sameLoad
      cases equal
      exact absurd again sound.distinct.not_mem_erase
  | timeout held armed fetches =>
      refine fetches.consistent ⟨?_, consistent.answered⟩
      intro slot ad current same owed
      cases current
      exact consistent.unloaded _ ad held same owed
  | @stale ad loaded other reported =>
      refine ⟨?_, ?_⟩
      · intro slot waited held same owed
        exact consistent.unloaded slot waited held same (List.mem_of_mem_erase owed)
      · rcases reported with kept | ⟨added, owed⟩
        · subst kept
          intro known reported
          obtain ⟨settled, allocated⟩ := consistent.answered known reported
          exact ⟨fun again => settled (List.mem_of_mem_erase again), allocated⟩
        · subst added
          exact consistent.erase sound owed

namespace Pipeline

structure Sound (pipeline : Pipeline) : Prop where
  loader : pipeline.view.toLoader.Sound
  consistent : pipeline.view.Consistent

/-- GDT tells a live custom event that an ad it has not reported as loaded failed. -/
def FailsEarly (self : Pipeline) : Input → Prop
  | .callback _ ad (.didFailWithError _) => ad ∉ self.loaded ∧ self.Live ad
  | _ => False

theorem live_iff {self : Pipeline} {ad : Nat} :
    self.Live ad ↔ ∃ slot, self.view.slot = some slot ∧ slot.load = some ad := by
  unfold Live view
  cases self.adapter with
  | none => simp
  | some adapter => simp [Adapter.slot]

theorem load_moves (self : Pipeline) : Moves self.view self.loadRewardedVideoAd.1.view := by
  simp only [loadRewardedVideoAd, loadAdWithURL]
  split
  · exact Moves.stay
  · by_cases active : self.loading = true
    · rw [if_pos active]
      exact Moves.stay
    · rw [if_neg active]
      exact Moves.request (Bool.not_eq_true _ ▸ active)

theorem receiveConfigurations_moves {self : Pipeline} (requested : self.configRequest = true)
    (configurations : List MobiConfig) :
    Moves self.view (self.communicatorDidReceiveAdConfigurations configurations).1.view := by
  cases configurations with
  | nil => exact Moves.response requested Fetches.refused
  | cons first rest =>
      exact Moves.response requested (fetchAd_fetches first rest { self with configRequest := false })

theorem timeout_moves {self : Pipeline} (sound : self.Sound)
    (scheduled : self.adapter.any Adapter.timeoutTimer = true) :
    Moves self.view self.timeout.1.view := by
  cases current : self.adapter with
  | none =>
      rw [current] at scheduled
      cases scheduled
  | some adapter =>
      have armed : adapter.slot.timer = true := by
        rw [current] at scheduled
        exact scheduled
      have held : self.view.slot = some adapter.slot := by simp [view, current]
      have connected : adapter.delegate = true := by
        obtain ⟨slot, ad, other, listening, _⟩ := sound.loader.armed adapter.slot held armed
        rw [held] at other
        cases other
        exact listening
      let timedOut : Adapter := { adapter with timeoutTimer := false, delegate := false }
      have same : view { self with adapter := some timedOut } =
          { self.view with toLoader := self.view.toLoader.timedOut adapter.slot } := by
        simp [view, current, timedOut, Loader.timedOut, Adapter.slot, Adapter.ad?]
      have fetches := didFailToLoad_fetches requestTimedOut { self with adapter := some timedOut }
      rw [same] at fetches
      simp only [timeout, current, if_pos connected]
      exact Moves.timeout held armed fetches

theorem didLoad_view {self : Pipeline} {slot : Slot} {ad : Nat} {reading : Reading}
    (held : self.view.slot = some slot) (heard : slot.heard = true) (same : slot.load = some ad)
    (unloaded : self.view.hasSuccessfullyLoaded = false) :
    (self.callback reading ad .didLoad).1.view =
      { toLoader := self.view.toLoader.loaded slot ad
        hasSuccessfullyLoaded := true
        loaded := self.loaded ++ [ad] } := by
  have live : self.Live ad := live_iff.mpr ⟨slot, held, same⟩
  cases current : self.adapter with
  | none => simp [view, current] at held
  | some adapter =>
      have equal : adapter.slot = slot := by simpa [view, current] using held
      subst equal
      cases event : adapter.rewardedVideoCustomEvent with
      | none => simp [Adapter.slot, Adapter.ad?, event] at same
      | some customEvent =>
          have responds : customEvent.delegate.responds .rewardedVideoDidLoadAd = true := by
            simpa [Adapter.slot, event] using heard
          have unloaded : adapter.hasSuccessfullyLoaded = false := by
            simpa [view, current] using unloaded
          simp only [callback, if_pos live, settle, withCustomEvent, current, event,
            CustomEvent.receive, CustomEvent.gdtRewardVideoAdDidLoad, Delegate.notify,
            if_pos responds, handle, adapterReceive, Adapter.receive, unloaded, report]
          cases connected : adapter.delegate with
          | true =>
              simp [connected, receiveAll, receive, view, Loader.loaded, Loader.answer, Adapter.slot,
                Adapter.ad?, event]
          | false =>
              simp [connected, view, Loader.loaded, Loader.answer, Adapter.slot, Adapter.ad?, event]

theorem settle_view_of_loaded {self : Pipeline} (sound : self.Sound) {ad : Nat} {error : NSError}
    (known : ad ∈ self.loaded) : (self.settle ad (.didFailWithError error)).view = self.view := by
  have settled := (sound.consistent.answered ad known).1
  have same : self.unanswered.erase ad = self.unanswered := List.erase_of_not_mem settled
  simp [settle, view, same]

theorem dead_callback_moves {self : Pipeline} {reading : Reading} {ad : Nat}
    {callback : CustomEvent.Callback} (promised : self.enabled (.callback reading ad callback))
    (dead : ¬ self.Live ad) : Moves self.view (self.settle ad callback).view := by
  have other : ∀ slot, self.view.slot = some slot → slot.load ≠ some ad := by
    intro slot held same
    exact dead (live_iff.mpr ⟨slot, held, same⟩)
  cases callback with
  | didLoad => exact Moves.stale other (Or.inr ⟨rfl, promised⟩)
  | didFailWithError error => exact Moves.stale other (Or.inl rfl)
  | _ => exact Moves.stay

theorem callback_moves {self : Pipeline} (sound : self.Sound) {reading : Reading} {ad : Nat}
    {callback : CustomEvent.Callback} (promised : self.enabled (.callback reading ad callback))
    (notEarly : ¬ self.FailsEarly (.callback reading ad callback)) :
    Moves self.view (self.callback reading ad callback).1.view := by
  by_cases live : self.Live ad
  · -- only the answer to the load is seen in the view
    have later (notLoad : callback ≠ .didLoad)
        (settled : (self.settle ad callback).view = self.view) :
        Moves self.view (self.callback reading ad callback).1.view := by
      have same := withCustomEvent_view (self.settle ad callback)
        (CustomEvent.receive_idles reading ad notLoad)
      simp only [Pipeline.callback, if_pos live]
      rw [same, settled]
      exact Moves.stay
    cases callback with
    | didLoad =>
        obtain ⟨slot, held, same⟩ := live_iff.mp live
        have unloaded := sound.consistent.unloaded slot ad held same promised
        rw [didLoad_view held (sound.loader.heard slot held) same unloaded]
        exact Moves.loaded held same promised
    | didFailWithError error =>
        have known : ad ∈ self.loaded := by
          by_contra unknown
          exact notEarly ⟨unknown, live⟩
        exact later (by simp) (settle_view_of_loaded sound known)
    | _ => exact later (by simp) rfl
  · simp only [Pipeline.callback, if_neg live]
    exact dead_callback_moves promised live

theorem step_moves {self : Pipeline} {input : Input} (sound : self.Sound)
    (promised : machine.enabled self input) (notEarly : ¬ self.FailsEarly input) :
    Moves self.view (machine.next self input).view := by
  cases input with
  | load => exact load_moves self
  | present reading viewController =>
      have same := present_view self reading viewController
      exact same ▸ Moves.stay
  | handleAdPlayed reading =>
      have same := handleAdPlayed_view self reading
      exact same ▸ Moves.stay
  | receiveConfigurations configurations => exact receiveConfigurations_moves promised configurations
  | requestFailed error => exact Moves.response promised Fetches.refused
  | callback reading ad callback => exact callback_moves sound promised notEarly
  | timeout => exact timeout_moves sound promised
  | expire =>
      have same := expire_view self
      exact same ▸ Moves.stay

theorem step_sound (self : Pipeline) (input : Input) (sound : self.Sound)
    (promised : machine.enabled self input) (notEarly : ¬ self.FailsEarly input) :
    (machine.next self input).Sound := by
  have moves := step_moves sound promised notEarly
  exact ⟨moves.sound sound.loader, moves.consistent sound.loader sound.consistent⟩

theorem initial_sound : ({} : Pipeline).Sound := by
  refine ⟨Loader.Sound.of_idle ⟨?_, List.nodup_nil, ?_⟩ rfl rfl ?_ ?_, ?_, ?_⟩
  · intro slot held
    cases held
  · intro load owed
    cases owed
  · intro awaits
    obtain ⟨slot, load, held, _⟩ := awaits
    cases held
  · intro slot held
    cases held
  · intro slot ad held
    cases held
  · intro ad reported
    cases reported

/-- A failure that comes before the ad was reported as loaded is passed up as one
of the load, and not as one of the presentation. -/
def PassedUp (self : Pipeline) (input : Input) : Prop :=
  ∀ reading ad error, input = .callback reading ad (.didFailWithError error) → ad ∉ self.loaded →
    self.Live ad →
      .customEvent (.rewardedVideoDidFailToLoadAd error) ∈ machine.emit self input ∧
        ∀ other, .customEvent (.rewardedVideoDidFailToPlay other) ∉ machine.emit self input

def Unstuck (self : Pipeline) : Prop :=
  self.loading = true → self.configRequest = true ∨ self.view.toLoader.Awaits

structure LoadPhase (inputs : List Input) : Prop where
  passedUp : machine.Along PassedUp {} inputs
  unstuck : machine.Always Unstuck {} inputs
  ordered : order.Accepts [] (machine.trace {} inputs)

theorem failToPlay_outputs (self : Pipeline) (error : NSError) :
    ∀ output ∈ (self.adapterReceive (.rewardedVideoDidFailToPlay error)).2,
      output = .host (.rewardedVideoDidFailToPlay error) := by
  intro output member
  cases current : self.adapter with
  | none => simp [adapterReceive, current] at member
  | some adapter =>
      by_cases connected : adapter.delegate = true
      · simpa [adapterReceive, current, Adapter.receive, report, connected, receiveAll, receive]
          using member
      · simp [adapterReceive, current, Adapter.receive, report, connected] at member

/-- The failure callback never sends a load failure, whoever listens. -/
theorem didFail_outputs (self : Pipeline) (reading : Reading) (ad : Nat) (error other : NSError) :
    .customEvent (.rewardedVideoDidFailToLoadAd other) ∉
      (self.callback reading ad (.didFailWithError error)).2 := by
  intro member
  simp only [Pipeline.callback] at member
  split at member
  · simp only [withCustomEvent] at member
    split at member
    · cases member
    · split at member
      · cases member
      · rename_i event _
        by_cases responds : event.delegate.responds .rewardedVideoDidFailToPlay = true
        · simp only [CustomEvent.receive, CustomEvent.gdtRewardVideoAdDidFailWithError,
            Delegate.notify, if_pos responds, handle, List.append_nil] at member
          rcases List.mem_cons.mp member with first | later
          · cases first
          · have told := failToPlay_outputs _ error _ later
            cases told
        · simp only [CustomEvent.receive, CustomEvent.gdtRewardVideoAdDidFailWithError,
            Delegate.notify, if_neg responds, handle] at member
          cases member
  · cases member

theorem passedUp_iff (self : Pipeline) (input : Input) :
    PassedUp self input ↔ ¬ self.FailsEarly input := by
  refine ⟨fun passedUp early => ?_, fun notEarly => ?_⟩
  · cases input with
    | callback reading ad callback =>
        cases callback with
        | didFailWithError error =>
            have sent := (passedUp reading ad error rfl early.1 early.2).1
            exact didFail_outputs self reading ad error error sent
        | _ => cases early
    | _ => cases early
  · intro reading ad error same unknown live
    subst input
    exact absurd ⟨unknown, live⟩ notEarly

/-- The load phase runs as it should exactly in those runs in which GDT never
fails a load whose custom event is still there to hear it. -/
theorem loadPhase_iff {inputs : List Input} (runs : machine.Runs {} inputs) :
    LoadPhase inputs ↔ machine.Along (fun self input => ¬ self.FailsEarly input) {} inputs := by
  refine ⟨fun phase => (Machine.along_congr_step passedUp_iff).mp phase.passedUp, fun notEarly => ?_⟩
  have sound : machine.Always Sound {} inputs :=
    Machine.always_of_invariant step_sound initial_sound runs notEarly
  refine ⟨(Machine.along_congr_step passedUp_iff).mpr notEarly, ?_, trace_follows inputs⟩
  exact sound.mono (fun self sound => sound.loader.waiting)

def untimed (adUnitId : Option String) : MobiConfig where
  adType := .rewardedVideo
  customEventClass := some .rewardedVideo
  adTimeoutInterval := 0
  info := { adunit := adUnitId }

def quietReading : Reading where
  now := 0
  isAdValid := fun _ => true
  expiredTimestamp := fun _ => 10

def secondLoads : List Input :=
  [.load, .receiveConfigurations [untimed none, untimed (some "8020")],
    .callback quietReading 0 .didLoad]

theorem secondLoads_loadPhase : machine.Runs {} secondLoads ∧ LoadPhase secondLoads := by
  have runs : machine.Runs {} secondLoads := ⟨trivial, rfl, List.mem_cons_self, trivial⟩
  refine ⟨runs, (loadPhase_iff runs).mpr ⟨?_, ?_, ?_, trivial⟩⟩
  · intro early
    cases early
  · intro early
    cases early
  · intro early
    cases early

def onlyFails : List Input :=
  [.load, .receiveConfigurations [untimed (some "8020")],
    .callback quietReading 0 (.didFailWithError { domain := "GDTAdErrorDomain", code := 5004, localizedDescription := none })]

theorem onlyFails_not_loadPhase :
    machine.Runs {} onlyFails ∧ ¬ Unstuck (machine.after {} onlyFails) ∧ ¬ LoadPhase onlyFails := by
  have stuck : ¬ Unstuck (machine.after {} onlyFails) := by
    intro unstuck
    rcases unstuck rfl with requested | awaits
    · cases requested
    · obtain ⟨slot, ad, _, _, _, owed⟩ := awaits
      have none : (machine.after {} onlyFails).view.unanswered = [] := by decide
      rw [none] at owed
      cases owed
  refine ⟨⟨trivial, rfl, Or.inl List.mem_cons_self, trivial⟩, stuck, ?_⟩
  intro phase
  exact stuck (phase.unstuck onlyFails [] (List.append_nil _).symm)

end Pipeline

end GDTAdapter.RewardedVideo
