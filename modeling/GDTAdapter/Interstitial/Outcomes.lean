import GDTAdapter.Reactive.Loader
import GDTAdapter.Reactive.Monitor
import GDTAdapter.Interstitial.Pipeline

namespace GDTAdapter.Interstitial

open Reactive

/-! # Outcomes of a load

The manager owes its delegate one outcome for each load it accepts.  Its `loading`
flag is the debt, as long as nothing after the load is reported as a load failure.
-/

/-- An accepted load opens a debt, and an outcome has to find one open. -/
def outcomes : Monitor Bool Output
  | _, .accepted => some true
  | owed, .host .managerDidLoadInterstitial => if owed then some false else none
  | owed, .host (.didFailToLoadInterstitialWithError _) => if owed then some false else none
  | owed, _ => some owed

def Output.silent : Output → Bool
  | .accepted => false
  | .host .managerDidLoadInterstitial => false
  | .host (.didFailToLoadInterstitialWithError _) => false
  | _ => true

theorem outcomes_silent {output : Output} (silent : output.silent = true) (owed : Bool) :
    outcomes owed output = some owed := by
  cases output with
  | accepted => cases silent
  | host message =>
      cases message with
      | managerDidLoadInterstitial => cases silent
      | didFailToLoadInterstitialWithError error => cases silent
      | _ => rfl
  | _ => rfl

/-- If the debt is open whenever `loading` is set before, the outputs are
accepted and the same holds afterwards. -/
def Tells (loading : Bool) (result : Pipeline × List Output) : Prop :=
  ∀ owed, (loading = true → owed = true) → ∃ later, outcomes.run owed result.2 = some later ∧
    (result.1.loading = true → later = true)

theorem Tells.of_silent {loading : Bool} {result : Pipeline × List Output}
    (silent : ∀ output ∈ result.2, output.silent = true) (same : result.1.loading = loading) :
    Tells loading result := by
  intro owed debt
  have ignored : outcomes.run owed result.2 = some owed :=
    Monitor.run_of_ignored (fun output member => outcomes_silent (silent output member) owed)
  exact ⟨owed, ignored, fun active => debt (same ▸ active)⟩

theorem Tells.append {loading : Bool} {middle last : Pipeline} {first second : List Output}
    (here : Tells loading (middle, first)) (there : Tells middle.loading (last, second)) :
    Tells loading (last, first ++ second) := by
  intro owed debt
  obtain ⟨halfway, ran, stillOwed⟩ := here owed debt
  obtain ⟨later, continued, finallyOwed⟩ := there halfway stillOwed
  refine ⟨later, ?_, finallyOwed⟩
  rw [Monitor.run_append, ran, Option.bind_some, continued]

theorem Tells.of_outcome {result : Pipeline} {message : HostMessage}
    (outcome : (Output.host message).silent = false) (stopped : result.loading = false) :
    Tells true (result, [.host message]) := by
  intro owed debt
  have paid : owed = true := debt rfl
  subst paid
  refine ⟨false, ?_, fun active => ?_⟩
  · cases message with
    | managerDidLoadInterstitial => rfl
    | didFailToLoadInterstitialWithError error => rfl
    | _ => cases outcome
  · rw [stopped] at active
    cases active

def Adapter.slot (self : Adapter) : Slot where
  connected := self.delegate
  load := self.ad?
  heard := self.interstitialCustomEvent.elim true (fun event =>
    event.delegate.responds .didLoadAd && event.delegate.responds .didFailToLoadAdWithError)
  timer := self.timeoutTimer && self.interstitialCustomEvent.isSome

def Pipeline.loader (self : Pipeline) : Loader where
  loading := self.loading
  requested := self.configRequest
  slot := self.adapter.map Adapter.slot
  fresh := self.fresh
  unanswered := self.unanswered

/-- The step leaves the loader alone, makes no ad ready and sends no outcome. -/
structure Calm (before : Pipeline) (result : Pipeline × List Output) : Prop where
  loader : result.1.loader = before.loader
  ready : result.1.ready = true → before.ready = true
  silent : ∀ output ∈ result.2, output.silent = true

theorem Calm.append {before middle last : Pipeline} {first second : List Output}
    (here : Calm before (middle, first)) (there : Calm middle (last, second)) :
    Calm before (last, first ++ second) := by
  refine ⟨there.loader.trans here.loader, fun ready => here.ready (there.ready ready), ?_⟩
  intro output member
  rcases List.mem_append.mp member with early | late
  · exact here.silent output early
  · exact there.silent output late

def AdapterMessage.idle : AdapterMessage → Bool
  | .adapterDidFinishLoadingAd => false
  | .didFailToLoadAdWithError => false
  | _ => true

def Message.idle : Message → Bool
  | .didLoadAd => false
  | .didFailToLoadAdWithError _ => false
  | _ => true

def idleEffect : Effect Call Message → Bool
  | .message message => message.idle
  | .call (.presentAdFromRootViewController _ _) => true
  | .call _ => false

theorem Adapter.receive_idle (adapter : Adapter) {message : Message} (idle : message.idle = true) :
    (adapter.receive message).1.slot = adapter.slot ∧
      (∀ output ∈ (adapter.receive message).2.1, output.silent = true) ∧
      ∀ passedOn ∈ (adapter.receive message).2.2, passedOn.idle = true := by
  cases message with
  | didLoadAd => cases idle
  | didFailToLoadAdWithError error => cases idle
  | didAppear =>
      simp only [receive]
      split
      · simp [slot, ad?, AdapterMessage.idle, Output.silent]
      · simp [AdapterMessage.idle]
  | didReceiveTapEvent =>
      simp only [receive]
      split
      · simp [slot, ad?, AdapterMessage.idle, Output.silent]
      · simp [AdapterMessage.idle]
  | _ => simp [receive, AdapterMessage.idle]

namespace Pipeline

theorem receive_calm (self : Pipeline) {message : AdapterMessage} (idle : message.idle = true) :
    Calm self (self.receive message) := by
  cases message with
  | adapterDidFinishLoadingAd => cases idle
  | didFailToLoadAdWithError => cases idle
  | interstitialDidDisappear => exact ⟨rfl, by simp [receive], by simp [receive, Output.silent]⟩
  | interstitialDidExpire => exact ⟨rfl, by simp [receive], by simp [receive, Output.silent]⟩
  | _ => exact ⟨rfl, fun ready => ready, by simp [receive, Output.silent]⟩

theorem receiveAll_calm (self : Pipeline) {messages : List AdapterMessage}
    (idle : ∀ message ∈ messages, message.idle = true) : Calm self (receiveAll messages self) := by
  induction messages generalizing self with
  | nil => exact ⟨rfl, fun ready => ready, by simp [receiveAll]⟩
  | cons message rest ih =>
      have here := receive_calm self (idle message List.mem_cons_self)
      have there := ih (self.receive message).1
        (fun other member => idle other (List.mem_cons_of_mem _ member))
      exact here.append there

theorem loader_setAdapter {self : Pipeline} {adapter other : Adapter}
    (current : self.adapter = some adapter) (same : other.slot = adapter.slot) :
    loader { self with adapter := some other } = self.loader := by
  simp [loader, current, same]

theorem adapterReceive_calm (self : Pipeline) {message : Message} (idle : message.idle = true) :
    Calm self (self.adapterReceive message) := by
  cases current : self.adapter with
  | none =>
      simp only [adapterReceive, current]
      exact ⟨rfl, fun ready => ready, by simp⟩
  | some adapter =>
      simp only [adapterReceive, current]
      obtain ⟨same, silent, passedOn⟩ := adapter.receive_idle idle
      have stored : Calm self
          ({ self with adapter := some (adapter.receive message).1 }, (adapter.receive message).2.1) :=
        ⟨loader_setAdapter current same, fun ready => ready, silent⟩
      split
      · exact stored.append (receiveAll_calm _ passedOn)
      · exact stored

theorem handle_calm (self : Pipeline) {effects : CustomEvent.Effects}
    (idle : ∀ effect ∈ effects, idleEffect effect = true) : Calm self (handle effects self) := by
  induction effects generalizing self with
  | nil => exact ⟨rfl, fun ready => ready, by simp [handle]⟩
  | cons effect rest ih =>
      have first := idle effect List.mem_cons_self
      have others := fun other member => idle other (List.mem_cons_of_mem effect member)
      cases effect with
      | call call =>
          cases call with
          | initWithPlacementId ad => cases first
          | loadAd ad => cases first
          | presentAdFromRootViewController ad controller =>
              have made : Calm self
                  (self, [.gdt (.presentAdFromRootViewController ad controller)]) :=
                ⟨rfl, fun ready => ready, by simp [Output.silent]⟩
              exact made.append (ih self others)
      | message message =>
          have sent : Calm self (self, [.customEvent message]) :=
            ⟨rfl, fun ready => ready, by simp [Output.silent]⟩
          have received := adapterReceive_calm self first
          have continued := ih (self.adapterReceive message).1 others
          exact sent.append (received.append continued)

end Pipeline

structure Idles (event : CustomEvent) (result : CustomEvent × CustomEvent.Effects) : Prop where
  ad : result.1.interstitial = event.interstitial
  delegate : result.1.delegate = event.delegate
  idle : ∀ effect ∈ result.2, idleEffect effect = true

theorem idleEffect_of_mem_notify {delegate : Delegate Selector} {guard : Selector} {message : Message}
    (idle : message.idle = true) :
    ∀ effect ∈ delegate.notify guard message, idleEffect effect = true := by
  intro effect member
  have sent := Delegate.mem_notify member
  rw [sent]
  exact idle

namespace CustomEvent

def Callback.idle : Callback → Bool
  | .successToLoadAd => false
  | .failToLoadAd _ => false
  | .failToPresent _ => false
  | _ => true

theorem receive_idles (ad : Nat) {callback : Callback} (idle : callback.idle = true)
    (event : CustomEvent) : Idles event (event.receive ad callback) := by
  cases callback with
  | successToLoadAd => cases idle
  | failToLoadAd error => cases idle
  | failToPresent error => cases idle
  | willPresentScreen => exact ⟨rfl, rfl, idleEffect_of_mem_notify rfl⟩
  | didPresentScreen => exact ⟨rfl, rfl, idleEffect_of_mem_notify rfl⟩
  | didDismissScreen =>
      refine ⟨rfl, rfl, ?_⟩
      intro effect member
      rcases List.mem_append.mp member with first | second
      · exact idleEffect_of_mem_notify rfl effect first
      · exact idleEffect_of_mem_notify rfl effect second
  | willLeaveApplication => exact ⟨rfl, rfl, idleEffect_of_mem_notify rfl⟩
  | clicked => exact ⟨rfl, rfl, idleEffect_of_mem_notify rfl⟩
  | adWillDismissFullScreenModal => exact ⟨rfl, rfl, idleEffect_of_mem_notify rfl⟩
  | _ => exact ⟨rfl, rfl, by simp [receive]⟩

end CustomEvent

namespace Pipeline

theorem withCustomEvent_calm (self : Pipeline)
    {method : CustomEvent → CustomEvent × CustomEvent.Effects}
    (idles : ∀ adapter event, self.adapter = some adapter →
      adapter.interstitialCustomEvent = some event → Idles event (method event)) :
    Calm self (self.withCustomEvent method) := by
  cases current : self.adapter with
  | none =>
      simp only [withCustomEvent, current]
      exact ⟨rfl, fun ready => ready, by simp⟩
  | some adapter =>
      cases held : adapter.interstitialCustomEvent with
      | none =>
          simp only [withCustomEvent, current, held]
          exact ⟨rfl, fun ready => ready, by simp⟩
      | some event =>
          simp only [withCustomEvent, current, held]
          have idle := idles adapter event current held
          let updated : Adapter := { adapter with interstitialCustomEvent := some (method event).1 }
          have same : updated.slot = adapter.slot := by
            simp [updated, Adapter.slot, Adapter.ad?, held, idle.ad, idle.delegate]
          have handled := handle_calm { self with adapter := some updated } idle.idle
          exact ⟨handled.loader.trans (loader_setAdapter current same), handled.ready, handled.silent⟩

theorem setUpAdapter_cases {self after : Pipeline} {configuration : MobiConfig}
    {outputs : List Output} {failure : Bool}
    (got : self.setUpAdapter configuration = (after, outputs, failure)) :
    (∀ output ∈ outputs, output.silent = true) ∧ after.ready = self.ready ∧
      ((failure = false ∧ Loader.Fetched self.loader after.loader ∧ after.loading = self.loading) ∨
        (failure = true ∧
          (after.loader = self.loader ∨
            after.loader = { self.loader with slot := some Slot.failed }))) := by
  cases given : configuration.customEventClass with
  | none =>
      simp only [setUpAdapter, given, Prod.mk.injEq] at got
      obtain ⟨rfl, rfl, rfl⟩ := got
      exact ⟨by simp, rfl, Or.inr ⟨rfl, Or.inl rfl⟩⟩
  | some customEventClass =>
      simp only [setUpAdapter, given, getAd, CustomEvent.requestInterstitial] at got
      cases inheriting : inherits customEventClass with
      | false =>
          simp only [inheriting, Bool.false_eq_true, if_false, Prod.mk.injEq] at got
          obtain ⟨rfl, rfl, rfl⟩ := got
          refine ⟨by simp, rfl, Or.inr ⟨rfl, Or.inr ?_⟩⟩
          simp [loader, Adapter.slot, Adapter.ad?, Slot.failed]
      | true =>
          cases unit : configuration.info.adunit with
          | none =>
              simp [inheriting, unit, Delegate.send, Prod.mk.injEq, Adapter.receive] at got
              obtain ⟨rfl, rfl, rfl⟩ := got
              refine ⟨by simp [Output.silent], rfl, Or.inr ⟨rfl, Or.inr ?_⟩⟩
              simp [loader, Adapter.slot, Adapter.ad?, Slot.failed, Delegate.responds,
                Adapter.implements]
          | some adUnitId =>
              simp [inheriting, unit, Prod.mk.injEq, perform] at got
              obtain ⟨rfl, rfl, rfl⟩ := got
              refine ⟨by simp [Output.silent], rfl, Or.inl ⟨rfl, ?_, rfl⟩⟩
              have started := @Loader.Fetched.started self.loader (configuration.armsTimeout 30)
              simpa [loader, Adapter.slot, Adapter.ad?, Slot.started, Delegate.responds,
                Adapter.implements] using started

/-- A fetch on behalf of a manager that loads and is not ready. -/
structure Fetches (before : Pipeline) (result : Pipeline × List Output) : Prop where
  loader : Loader.Fetched before.loader result.1.loader
  ready : result.1.ready = false
  tells : Tells true result

theorem fetchAd_fetches (configuration : MobiConfig) (remaining : List MobiConfig) {self : Pipeline}
    (active : self.loading = true) (unready : self.ready = false) :
    Fetches self (self.fetchAd configuration remaining) := by
  refine fetchAd_induct (motive := fun _ _ self result =>
    self.loading = true → self.ready = false → Fetches self result)
    ?_ ?_ ?_ ?_ configuration remaining self active unready
  · intro configuration remaining self _ unready
    exact ⟨Loader.Fetched.refused, unready, Tells.of_outcome rfl rfl⟩
  · intro configuration remaining self after outputs got active unready
    obtain ⟨silent, kept, ⟨_, fetched, same⟩ | ⟨failed, _⟩⟩ := setUpAdapter_cases got
    · exact ⟨fetched, kept.trans unready, Tells.of_silent silent (same.trans active)⟩
    · cases failed
  · intro configuration next rest self after outputs result got later active unready
    obtain ⟨silent, kept, ⟨started, _⟩ | ⟨_, changed⟩⟩ := setUpAdapter_cases got
    · cases started
    · have afterActive : after.loading = true := by
        rcases changed with same | failed
        · exact (congrArg Loader.loading same).trans active
        · exact (congrArg Loader.loading failed).trans active
      have fetches := later afterActive (kept.trans unready)
      have early : Tells true (after, outputs) := Tells.of_silent silent afterActive
      refine ⟨?_, fetches.ready, early.append (afterActive ▸ fetches.tells)⟩
      rcases changed with same | failed
      · have fetched := fetches.loader
        rw [same] at fetched
        exact fetched
      · have fetched := fetches.loader
        rw [failed] at fetched
        exact fetched.after_failed
  · intro configuration self after outputs got active unready
    obtain ⟨silent, kept, ⟨started, _⟩ | ⟨_, changed⟩⟩ := setUpAdapter_cases got
    · cases started
    · have stopped : after.noMoreConfigurations.1.loader = { after.loader with loading := false } := rfl
      have afterActive : after.loading = true := by
        rcases changed with same | failed
        · exact (congrArg Loader.loading same).trans active
        · exact (congrArg Loader.loading failed).trans active
      have early : Tells true (after, outputs) := Tells.of_silent silent afterActive
      have outcome : Tells after.loading after.noMoreConfigurations :=
        afterActive ▸ Tells.of_outcome rfl rfl
      refine ⟨?_, rfl, early.append outcome⟩
      rcases changed with same | failed
      · rw [stopped, same]
        exact Loader.Fetched.refused
      · rw [stopped, failed]
        exact Loader.Fetched.failed

theorem didFailToLoadAd_fetches {self : Pipeline} (active : self.loading = true)
    (unready : self.ready = false) : Fetches self self.didFailToLoadAd := by
  cases remaining : self.remainingConfigurations with
  | nil =>
      simp only [didFailToLoadAd, remaining]
      exact ⟨Loader.Fetched.refused, rfl, Tells.of_outcome rfl rfl⟩
  | cons next rest =>
      simp only [didFailToLoadAd, remaining]
      exact fetchAd_fetches next rest active unready

structure Sound (pipeline : Pipeline) : Prop where
  loader : pipeline.loader.Sound
  unready : pipeline.loading = true → pipeline.ready = false

/-- A show that finds the ad invalid, a presentation that GDT reports as failed
to a live custom event, and the timeout of an adapter whose class was refused. -/
def FailsLate (self : Pipeline) : Input → Prop
  | .present reading _ => self.ready = true ∧ ∃ adapter event, self.adapter = some adapter ∧
      adapter.interstitialCustomEvent = some event ∧ event.hasAdAvailable reading = false
  | .callback ad (.failToPresent _) => self.Live ad
  | .timeout => ∃ adapter, self.adapter = some adapter ∧ adapter.interstitialCustomEvent = none
  | _ => False

/-- What a step without a late failure does. -/
structure Advances (before : Pipeline) (result : Pipeline × List Output) : Prop where
  sound : Sound result.1
  tells : Tells before.loading result

theorem advances_of_calm {before : Pipeline} {result : Pipeline × List Output} (sound : before.Sound)
    (calm : Calm before result) : Advances before result := by
  have same : result.1.loading = before.loading := congrArg Loader.loading calm.loader
  refine ⟨⟨?_, ?_⟩, Tells.of_silent calm.silent same⟩
  · rw [calm.loader]
    exact sound.loader
  · intro active
    have unready := sound.unready (same ▸ active)
    cases ready : result.1.ready with
    | false => rfl
    | true =>
        rw [calm.ready ready] at unready
        cases unready

theorem advances_of_fetches {before middle : Pipeline} {result : Pipeline × List Output}
    (sound : before.Sound) (active : before.loading = true) (fetches : Fetches middle result)
    (step : ∀ after, Loader.Fetched middle.loader after → Loader.Step before.loader after) :
    Advances before result := by
  refine ⟨⟨sound.loader.step (step _ fetches.loader), fun _ => fetches.ready⟩, ?_⟩
  rw [active]
  exact fetches.tells

theorem load_advances {self : Pipeline} (sound : self.Sound) : Advances self self.loadInterstitial := by
  by_cases ready : self.ready = true
  · simp only [loadInterstitial, if_pos ready]
    refine ⟨sound, ?_⟩
    intro owed _
    refine ⟨false, rfl, ?_⟩
    intro active
    have unready := sound.unready active
    rw [ready] at unready
    cases unready
  · by_cases active : self.loading = true
    · simp only [loadInterstitial, if_neg ready, if_pos active]
      exact advances_of_calm sound ⟨rfl, fun ready => ready, by simp⟩
    · simp only [loadInterstitial, if_neg ready, if_neg active]
      have idle : self.loader.loading = false := Bool.not_eq_true _ ▸ active
      refine ⟨⟨sound.loader.step (Loader.Step.request idle), fun _ => Bool.not_eq_true _ ▸ ready⟩, ?_⟩
      intro owed _
      exact ⟨true, rfl, fun _ => rfl⟩

theorem present_advances {self : Pipeline} (sound : self.Sound) {reading : Reading}
    {controller : Option UIViewController} (valid : ¬ self.FailsLate (.present reading controller)) :
    Advances self (self.presentInterstitial reading controller) := by
  by_cases ready : self.ready = true
  · have calm : Calm self (self.withCustomEvent (·.showInterstitial reading controller)) := by
      apply withCustomEvent_calm self
      intro adapter event current held
      have available : event.hasAdAvailable reading = true := by
        by_contra invalid
        exact valid ⟨ready, adapter, event, current, held, Bool.not_eq_true _ ▸ invalid⟩
      obtain ⟨ad, -, effects⟩ := CustomEvent.showInterstitial_of_valid controller available
      refine ⟨CustomEvent.showInterstitial_interstitial, CustomEvent.showInterstitial_delegate, ?_⟩
      rw [effects]
      simp [idleEffect]
    simp only [presentInterstitial, ready, Bool.not_true, Bool.false_eq_true, if_false]
    exact advances_of_calm sound calm
  · simp only [presentInterstitial, ready]
    exact advances_of_calm sound ⟨rfl, fun ready => ready, by simp⟩

theorem receiveConfigurations_advances {self : Pipeline} (sound : self.Sound)
    (requested : self.configRequest = true) (configurations : List MobiConfig) :
    Advances self (self.communicatorDidReceiveAdConfigurations configurations) := by
  have active : self.loading = true := sound.loader.busy requested
  have unready := sound.unready active
  have fetches : Fetches { self with configRequest := false }
      (self.communicatorDidReceiveAdConfigurations configurations) := by
    cases configurations with
    | nil => exact ⟨Loader.Fetched.refused, unready, Tells.of_outcome rfl rfl⟩
    | cons first rest => exact fetchAd_fetches first rest active unready
  exact advances_of_fetches sound active fetches (fun _ fetched => Loader.Step.response requested fetched)

theorem requestFailed_advances {self : Pipeline} (sound : self.Sound)
    (requested : self.configRequest = true) (error : NSError) :
    Advances self (self.communicatorDidFailWithError error) := by
  have active : self.loading = true := sound.loader.busy requested
  have fetches : Fetches { self with configRequest := false }
      (self.communicatorDidFailWithError error) :=
    ⟨Loader.Fetched.refused, rfl, Tells.of_outcome rfl rfl⟩
  exact advances_of_fetches sound active fetches (fun _ fetched => Loader.Step.response requested fetched)

theorem timeout_advances {self : Pipeline} (sound : self.Sound)
    (scheduled : self.adapter.any Adapter.timeoutTimer = true) (onTime : ¬ self.FailsLate .timeout) :
    Advances self self.timeout := by
  cases current : self.adapter with
  | none =>
      rw [current] at scheduled
      cases scheduled
  | some adapter =>
      have held : self.loader.slot = some adapter.slot := by simp [loader, current]
      have armed : adapter.slot.timer = true := by
        have scheduled : adapter.timeoutTimer = true := by simpa [current] using scheduled
        cases event : adapter.interstitialCustomEvent with
        | none => exact absurd ⟨adapter, current, event⟩ onTime
        | some customEvent => simp [Adapter.slot, scheduled, event]
      have awaits := sound.loader.armed adapter.slot held armed
      have active : self.loading = true := (sound.loader.exclusive awaits).1
      have connected : adapter.delegate = true := by
        obtain ⟨slot, ad, other, listening, _⟩ := awaits
        rw [held] at other
        cases other
        exact listening
      let timedOut : Adapter := { adapter with timeoutTimer := false, delegate := false }
      have same : loader { self with adapter := some timedOut } = self.loader.timedOut adapter.slot := by
        simp [loader, timedOut, Loader.timedOut, Adapter.slot, Adapter.ad?]
      have fetches := @didFailToLoadAd_fetches { self with adapter := some timedOut } active
        (sound.unready active)
      simp only [timeout, current, if_pos connected]
      apply advances_of_fetches sound active fetches
      intro after fetched
      rw [same] at fetched
      exact Loader.Step.timeout held armed fetched

theorem live_iff {self : Pipeline} {ad : Nat} :
    self.Live ad ↔ ∃ slot, self.loader.slot = some slot ∧ slot.load = some ad := by
  unfold Live loader
  cases self.adapter with
  | none => simp
  | some adapter => simp [Adapter.slot]

theorem exists_of_live {self : Pipeline} {ad : Nat} (live : self.Live ad) :
    ∃ adapter event, self.adapter = some adapter ∧
      adapter.interstitialCustomEvent = some event ∧ adapter.slot.load = some ad := by
  cases current : self.adapter with
  | none => simp [Live, current] at live
  | some adapter =>
      cases held : adapter.interstitialCustomEvent with
      | none => simp [Live, current, Adapter.ad?, held] at live
      | some event => exact ⟨adapter, event, rfl, held, by simpa [Live, current, Adapter.slot] using live⟩

/-- The pipeline after the answer to the load of the current custom event has been
heard by its adapter. -/
def answered (self : Pipeline) (adapter : Adapter) (event : CustomEvent) (ad : Nat) : Pipeline :=
  { self with
      unanswered := self.unanswered.erase ad
      adapter := some { adapter with interstitialCustomEvent := some event, timeoutTimer := false } }

theorem loader_answered {self : Pipeline} {adapter : Adapter} {event before : CustomEvent} {ad : Nat}
    (held : adapter.interstitialCustomEvent = some before)
    (sameAd : event.interstitial = before.interstitial) (sameDelegate : event.delegate = before.delegate) :
    (self.answered adapter event ad).loader = self.loader.answer adapter.slot ad := by
  simp [answered, loader, Loader.answer, Adapter.slot, Adapter.ad?, held, sameAd, sameDelegate]

theorem success_advances {self : Pipeline} (sound : self.Sound) {ad : Nat} (live : self.Live ad)
    (owed : ad ∈ self.unanswered) : Advances self (self.callback ad .successToLoadAd) := by
  obtain ⟨adapter, event, current, held, same⟩ := exists_of_live live
  have slotHeld : self.loader.slot = some adapter.slot := by simp [loader, current]
  have heard := sound.loader.heard adapter.slot slotHeld
  have responds : event.delegate.responds .didLoadAd = true := by
    simp only [Adapter.slot, held, Option.elim_some, Bool.and_eq_true] at heard
    exact heard.1
  have step := Loader.Step.loaded slotHeld same owed
  have kept := @loader_answered self adapter event event ad held rfl rfl
  have result : self.callback ad .successToLoadAd =
      if adapter.delegate then
        ({ self.answered adapter event ad with
            remainingConfigurations := [], ready := true, loading := false },
          [.customEvent .didLoadAd, .host .managerDidLoadInterstitial])
      else (self.answered adapter event ad, [.customEvent .didLoadAd]) := by
    by_cases connected : adapter.delegate = true
    · simp [callback, live, settle, withCustomEvent, current, held, CustomEvent.receive,
        CustomEvent.unifiedInterstitialSuccessToLoadAd, Delegate.notify, responds, handle,
        adapterReceive, Adapter.receive, connected, receiveAll, receive, answered]
    · simp [callback, live, settle, withCustomEvent, current, held, CustomEvent.receive,
        CustomEvent.unifiedInterstitialSuccessToLoadAd, Delegate.notify, responds, handle,
        adapterReceive, Adapter.receive, connected, answered]
  rw [result]
  by_cases connected : adapter.delegate = true
  · have active : self.loading = true :=
      (sound.loader.exclusive ⟨adapter.slot, ad, slotHeld, connected, same, owed⟩).1
    rw [if_pos connected]
    refine ⟨⟨?_, ?_⟩, ?_⟩
    · have loaded : loader
          { self.answered adapter event ad with
              remainingConfigurations := [], ready := true, loading := false } =
          self.loader.loaded adapter.slot ad := by
        have listening : adapter.slot.connected = true := connected
        rw [Loader.loaded, if_pos listening, ← kept]
        rfl
      rw [loaded]
      exact sound.loader.step step
    · intro stopped
      cases stopped
    · have sent : Tells self.loading (self.answered adapter event ad, [.customEvent .didLoadAd]) :=
        Tells.of_silent (by simp [Output.silent]) rfl
      have outcome : Tells self.loading
          ({ self.answered adapter event ad with
              remainingConfigurations := [], ready := true, loading := false },
            [.host .managerDidLoadInterstitial]) := active ▸ Tells.of_outcome rfl rfl
      exact sent.append outcome
  · rw [if_neg connected]
    have disconnected : adapter.slot.connected = false := Bool.not_eq_true _ ▸ connected
    refine ⟨⟨?_, sound.unready⟩, Tells.of_silent (by simp [Output.silent]) rfl⟩
    rw [kept]
    exact sound.loader.step (Loader.Step.unheard slotHeld same owed disconnected)

theorem failure_advances {self : Pipeline} (sound : self.Sound) {ad : Nat} {error : NSError}
    (live : self.Live ad) (owed : ad ∈ self.unanswered) :
    Advances self (self.callback ad (.failToLoadAd error)) := by
  obtain ⟨adapter, event, current, held, same⟩ := exists_of_live live
  have slotHeld : self.loader.slot = some adapter.slot := by simp [loader, current]
  have heard := sound.loader.heard adapter.slot slotHeld
  have responds : event.delegate.responds .didFailToLoadAdWithError = true := by
    simp only [Adapter.slot, held, Option.elim_some, Bool.and_eq_true] at heard
    exact heard.2
  let released : CustomEvent := { event with rootVC := none }
  have kept := @loader_answered self adapter released event ad held rfl rfl
  have result : self.callback ad (.failToLoadAd error) =
      if adapter.delegate then
        ((self.answered adapter released ad).didFailToLoadAd.1,
          .customEvent (.didFailToLoadAdWithError error) ::
            (self.answered adapter released ad).didFailToLoadAd.2)
      else (self.answered adapter released ad, [.customEvent (.didFailToLoadAdWithError error)]) := by
    by_cases connected : adapter.delegate = true
    · simp [callback, live, settle, withCustomEvent, current, held, CustomEvent.receive,
        CustomEvent.unifiedInterstitialFailToLoadAd, Delegate.notify, responds, handle,
        adapterReceive, Adapter.receive, connected, receiveAll, receive, answered, released]
    · simp [callback, live, settle, withCustomEvent, current, held, CustomEvent.receive,
        CustomEvent.unifiedInterstitialFailToLoadAd, Delegate.notify, responds, handle,
        adapterReceive, Adapter.receive, connected, answered, released]
  rw [result]
  by_cases connected : adapter.delegate = true
  · have active : self.loading = true :=
      (sound.loader.exclusive ⟨adapter.slot, ad, slotHeld, connected, same, owed⟩).1
    have fetches := @didFailToLoadAd_fetches (self.answered adapter released ad) active
      (sound.unready active)
    rw [if_pos connected]
    have sent : Tells true (self.answered adapter released ad,
        [.customEvent (.didFailToLoadAdWithError error)]) :=
      Tells.of_silent (by simp [Output.silent]) active
    have told : Tells true ((self.answered adapter released ad).didFailToLoadAd.1,
        .customEvent (.didFailToLoadAdWithError error) ::
          (self.answered adapter released ad).didFailToLoadAd.2) :=
      sent.append (active ▸ fetches.tells)
    have passed : Fetches (self.answered adapter released ad)
        ((self.answered adapter released ad).didFailToLoadAd.1,
          .customEvent (.didFailToLoadAdWithError error) ::
            (self.answered adapter released ad).didFailToLoadAd.2) :=
      ⟨fetches.loader, fetches.ready, told⟩
    apply advances_of_fetches sound active passed
    intro after fetched
    rw [kept] at fetched
    exact Loader.Step.failed slotHeld same owed connected fetched
  · rw [if_neg connected]
    have disconnected : adapter.slot.connected = false := Bool.not_eq_true _ ▸ connected
    refine ⟨⟨?_, sound.unready⟩, Tells.of_silent (by simp [Output.silent]) rfl⟩
    rw [kept]
    exact sound.loader.step (Loader.Step.unheard slotHeld same owed disconnected)

theorem callback_advances {self : Pipeline} (sound : self.Sound) {ad : Nat}
    {callback : CustomEvent.Callback} (promised : self.enabled (.callback ad callback))
    (onTime : ¬ self.FailsLate (.callback ad callback)) :
    Advances self (self.callback ad callback) := by
  by_cases live : self.Live ad
  · have calm (idle : callback.idle = true) (settled : self.settle ad callback = self) :
        Advances self (self.callback ad callback) := by
      simp only [Pipeline.callback, if_pos live, settled]
      refine advances_of_calm sound (withCustomEvent_calm self ?_)
      intro _ event _ _
      exact CustomEvent.receive_idles ad idle event
    cases callback with
    | successToLoadAd => exact success_advances sound live promised
    | failToLoadAd error => exact failure_advances sound live promised
    | failToPresent error => exact absurd live onTime
    | _ => exact calm rfl rfl
  · -- the answer to a load that nobody holds
    have other : ∀ slot, self.loader.slot = some slot → slot.load ≠ some ad := by
      intro slot held same
      exact live (live_iff.mpr ⟨slot, held, same⟩)
    have stale := sound.loader.step (Loader.Step.stale other)
    simp only [Pipeline.callback, if_neg live]
    cases callback with
    | successToLoadAd => exact ⟨⟨stale, sound.unready⟩, Tells.of_silent (by simp) rfl⟩
    | failToLoadAd error => exact ⟨⟨stale, sound.unready⟩, Tells.of_silent (by simp) rfl⟩
    | _ => exact advances_of_calm sound ⟨rfl, fun ready => ready, by simp⟩

theorem step_advances {self : Pipeline} {input : Input} (sound : self.Sound)
    (promised : machine.enabled self input) (onTime : ¬ self.FailsLate input) :
    Advances self (machine.step self input) := by
  cases input with
  | load => exact load_advances sound
  | present reading controller => exact present_advances sound onTime
  | receiveConfigurations configurations =>
      exact receiveConfigurations_advances sound promised configurations
  | requestFailed error => exact requestFailed_advances sound promised error
  | callback ad callback => exact callback_advances sound promised onTime
  | timeout => exact timeout_advances sound promised onTime

theorem initial_sound (adUnitId : String) : ({ adUnitId } : Pipeline).Sound := by
  refine ⟨Loader.Sound.of_idle ⟨?_, List.nodup_nil, ?_⟩ rfl rfl ?_ ?_, fun _ => rfl⟩
  · intro slot held
    cases held
  · intro load owed
    cases owed
  · intro awaits
    obtain ⟨slot, load, held, _⟩ := awaits
    cases held
  · intro slot held
    cases held

def Input.presents : Input → Bool
  | .present _ _ => true
  | .callback _ (.failToPresent _) => true
  | _ => false

/-- A step of a presentation sends no load failure. -/
def KeptApart (self : Pipeline) (input : Input) : Prop :=
  input.presents = true → ∀ error,
    .customEvent (.didFailToLoadAdWithError error) ∉ machine.emit self input

/-- Each accepted load has at most one outcome, and what happens to a loaded ad is
not reported as one. -/
structure OneOutcome (adUnitId : String) (inputs : List Input) : Prop where
  once : outcomes.Accepts false (machine.trace { adUnitId } inputs)
  apart : machine.Along KeptApart { adUnitId } inputs

theorem present_outputs {self : Pipeline} {reading : Reading} {controller : Option UIViewController}
    (onTime : ¬ self.FailsLate (.present reading controller)) (error : NSError) :
    .customEvent (.didFailToLoadAdWithError error) ∉ (self.presentInterstitial reading controller).2 := by
  intro member
  by_cases ready : self.ready = true
  · simp only [presentInterstitial, ready, Bool.not_true, Bool.false_eq_true, if_false] at member
    cases current : self.adapter with
    | none => simp [withCustomEvent, current] at member
    | some adapter =>
        cases held : adapter.interstitialCustomEvent with
        | none => simp [withCustomEvent, current, held] at member
        | some event =>
            have available : event.hasAdAvailable reading = true := by
              by_contra invalid
              exact onTime ⟨ready, adapter, event, current, held, Bool.not_eq_true _ ▸ invalid⟩
            obtain ⟨ad, -, effects⟩ := CustomEvent.showInterstitial_of_valid controller available
            simp [withCustomEvent, current, held, effects, handle] at member
  · simp [presentInterstitial, ready] at member

theorem keptApart_of_onTime {self : Pipeline} {input : Input} (onTime : ¬ self.FailsLate input) :
    KeptApart self input := by
  intro presents error
  cases input with
  | present reading controller => exact present_outputs onTime error
  | callback ad callback =>
      cases callback with
      | failToPresent failure =>
          have dead : ¬ self.Live ad := onTime
          simp [Machine.emit, machine, step, Pipeline.callback, dead]
      | _ => cases presents
  | _ => cases presents

/-- In every run without a late failure each accepted load has at most one
outcome. -/
theorem oneOutcome_of_onTime {adUnitId : String} {inputs : List Input}
    (runs : machine.Runs { adUnitId } inputs)
    (onTime : machine.Along (fun self input => ¬ self.FailsLate input) { adUnitId } inputs) :
    OneOutcome adUnitId inputs := by
  have simulates (self : Pipeline) (input : Input) (owed : Bool)
      (related : self.Sound ∧ (self.loading = true → owed = true))
      (promised : machine.enabled self input) (timely : ¬ self.FailsLate input) :
      ∃ later, outcomes.run owed (machine.emit self input) = some later ∧
        (machine.next self input).Sound ∧ ((machine.next self input).loading = true → later = true) := by
    have advances := step_advances related.1 promised timely
    obtain ⟨later, ran, debt⟩ := advances.tells owed related.2
    exact ⟨later, ran, advances.sound, debt⟩
  have initially : ({ adUnitId } : Pipeline).Sound ∧
      (({ adUnitId } : Pipeline).loading = true → false = true) :=
    ⟨initial_sound adUnitId, fun active => active⟩
  obtain ⟨later, accepted, _⟩ := Monitor.run_trace_of_simulation simulates initially runs onTime
  refine ⟨?_, onTime.mono (fun _ _ => keptApart_of_onTime)⟩
  rw [Monitor.Accepts, accepted]
  rfl

def gdtConfiguration : MobiConfig where
  adType := .interstitial
  customEventClass := some .interstitial
  adTimeoutInterval := 10
  info := { adunit := some "8020" }

def readingValid (valid : Bool) : Reading where
  now := 0
  isAdValid := fun _ => valid
  expiredTimestamp := fun _ => 10

def shownTwice : List Input :=
  [.load, .receiveConfigurations [gdtConfiguration], .callback 0 .successToLoadAd,
    .present (readingValid true) (some 1), .callback 0 .willPresentScreen,
    .present (readingValid true) (some 1), .callback 0 .didPresentScreen,
    .callback 0 .didDismissScreen, .load]

theorem shownTwice_oneOutcome :
    machine.Runs { adUnitId := "42" } shownTwice ∧ OneOutcome "42" shownTwice := by
  have runs : machine.Runs { adUnitId := "42" } shownTwice :=
    ⟨trivial, rfl, List.mem_cons_self, trivial, Nat.zero_lt_one, trivial, Nat.zero_lt_one,
      Nat.zero_lt_one, trivial, trivial⟩
  refine ⟨runs, oneOutcome_of_onTime runs ⟨id, id, id, ?_, id, ?_, id, id, id, trivial⟩⟩
  · intro late
    obtain ⟨_, adapter, event, current, held, invalid⟩ := late
    cases current
    cases held
    cases invalid
  · intro late
    obtain ⟨_, adapter, event, current, held, invalid⟩ := late
    cases current
    cases held
    cases invalid

def shownInvalid : List Input :=
  [.load, .receiveConfigurations [gdtConfiguration], .callback 0 .successToLoadAd,
    .present (readingValid false) (some 1)]

theorem shownInvalid_not_oneOutcome :
    machine.Runs { adUnitId := "42" } shownInvalid ∧ ¬ OneOutcome "42" shownInvalid := by
  refine ⟨⟨trivial, rfl, List.mem_cons_self, trivial, trivial⟩, ?_⟩
  intro outcome
  have rejected : outcomes.run false (machine.trace { adUnitId := "42" } shownInvalid) = none := by
    decide
  have accepted := outcome.once
  rw [Monitor.Accepts, rejected] at accepted
  cases accepted

end Pipeline

end GDTAdapter.Interstitial
