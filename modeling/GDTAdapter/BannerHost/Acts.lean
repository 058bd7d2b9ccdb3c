import GDTAdapter.BannerHost.AdManager
import GDTAdapter.Reactive.Acts
import GDTAdapter.Reactive.DoubleBuffer

namespace GDTAdapter.BannerHost

open Reactive Timers

/-! # What a step of the banner host does

Each step is a sequence of a few acts: a task is started, a configuration is
fetched, an adapter is made, a view is put on screen.
-/

/-- The message reports that there will be no ad. -/
def EventMessage.isFailure : EventMessage → Bool
  | .didLoadAd none => true
  | .didFailToLoadAdWithError _ => true
  | _ => false

/-- The network tracks by itself. -/
def EventMessage.tracksItself : EventMessage → Bool
  | .trackImpression => true
  | .trackClick => true
  | _ => false

namespace Adapter

variable {message : EventMessage}

theorem message_of_ad (adapter : Adapter) {ad : UIView}
    (reported : (adapter.receive message).2.2 = some (.didFinishLoadingAd ad)) :
    message = .didLoadAd (some ad) := by
  cases message with
  | didLoadAd loaded =>
      cases loaded with
      | none => cases reported
      | some view =>
          cases reported
          rfl
  | _ => cases reported

theorem message_of_begin (adapter : Adapter)
    (reported : (adapter.receive message).2.2 = some .userActionWillBegin) :
    message = .willBeginAction := by
  cases message with
  | didLoadAd loaded => cases loaded <;> cases reported
  | willBeginAction => rfl
  | _ => cases reported

theorem isFailure_of_report (adapter : Adapter) {error : Option NSError}
    (reported : (adapter.receive message).2.2 = some (.didFailToLoadAdWithError error)) :
    message.isFailure = true := by
  cases message with
  | didLoadAd ad =>
      cases ad with
      | none => rfl
      | some ad => cases reported
  | didFailToLoadAdWithError error => rfl
  | _ => cases reported

theorem receive_of_failure (adapter : Adapter) (fails : message.isFailure = true) :
    (adapter.receive message).1 = adapter := by
  cases message with
  | didLoadAd ad =>
      cases ad with
      | none => rfl
      | some ad => cases fails
  | didFailToLoadAdWithError error => rfl
  | _ => cases fails

end Adapter

namespace AdManager

/-- The adapter on screen and the requesting one are a double buffer: the view of the
requesting adapter is put on screen as soon as it has loaded, unless the user is
in a modal of the ad on screen. -/
def view (self : AdManager) : DoubleBuffer Adapter UIView where
  front := self.onscreenAdapter
  back := self.requestingAdapter
  ready := self.requestingAdapterAdContentView
  locked := self.adActionInProgress
  shown := self.adContentView

abbrev Sound (self : AdManager) : Prop := self.view.Sound Adapter.ref

section Slots

variable {self : AdManager} {adapter other : Adapter}

/-- The requesting adapter is replaced where it is. -/
theorem update_requesting (sound : self.Sound) (held : self.requestingAdapter = some adapter)
    (named : other.ref = adapter.ref) :
    self.update other = { self with requestingAdapter := some other } := by
  have elsewhere : self.onscreenAdapter.map other.replace = self.onscreenAdapter := by
    cases front : self.onscreenAdapter with
    | none => rfl
    | some onscreen =>
        have distinct : onscreen.ref ≠ adapter.ref := sound.distinct onscreen adapter front held
        rw [Option.map_some, Adapter.replace, if_neg (named ▸ distinct)]
  unfold update
  rw [elsewhere, held, Option.map_some, Adapter.replace, if_pos named.symm]

/-- So is the one on screen. -/
theorem update_onscreen (sound : self.Sound) (held : self.onscreenAdapter = some adapter)
    (named : other.ref = adapter.ref) :
    self.update other = { self with onscreenAdapter := some other } := by
  have elsewhere : self.requestingAdapter.map other.replace = self.requestingAdapter := by
    cases back : self.requestingAdapter with
    | none => rfl
    | some requesting =>
        have distinct : adapter.ref ≠ requesting.ref := sound.distinct adapter requesting held back
        rw [Option.map_some, Adapter.replace, if_neg (named ▸ distinct.symm)]
  unfold update
  rw [elsewhere, held, Option.map_some, Adapter.replace, if_pos named.symm]

theorem held_of_isRef {ref : Nat} {slot : Option Adapter} (isRef : IsRef ref slot) :
    ∃ adapter, slot = some adapter ∧ adapter.ref = ref :=
  Option.map_eq_some_iff.mp isRef

theorem not_isRef_onscreen (sound : self.Sound) (held : self.requestingAdapter = some adapter) :
    ¬ IsRef adapter.ref self.onscreenAdapter := by
  intro isRef
  obtain ⟨onscreen, front, same⟩ := held_of_isRef isRef
  exact sound.distinct onscreen adapter front held same

theorem not_isRef_requesting (sound : self.Sound) (held : self.onscreenAdapter = some adapter) :
    ¬ IsRef adapter.ref self.requestingAdapter := by
  intro isRef
  obtain ⟨requesting, back, same⟩ := held_of_isRef isRef
  exact sound.distinct adapter requesting held back same.symm

/-- An adapter that is held is behind or in front. -/
theorem held_of_mem (member : adapter ∈ self.adapters) :
    self.requestingAdapter = some adapter ∨ self.onscreenAdapter = some adapter := by
  unfold adapters at member
  rw [List.mem_append, Option.mem_toList, Option.mem_toList] at member
  exact member

theorem mem_of_held
    (held : self.requestingAdapter = some adapter ∨ self.onscreenAdapter = some adapter) :
    adapter ∈ self.adapters := by
  unfold adapters
  rw [List.mem_append, Option.mem_toList, Option.mem_toList]
  exact held

theorem find_of_held (sound : self.Sound)
    (held : self.requestingAdapter = some adapter ∨ self.onscreenAdapter = some adapter) :
    self.adapters.find? (fun other => other.ref == adapter.ref) = some adapter := by
  unfold adapters
  rcases held with held | held
  · rw [held]
    exact List.find?_cons_of_pos (beq_self_eq_true adapter.ref)
  · rw [held]
    cases back : self.requestingAdapter with
    | none => exact List.find?_cons_of_pos (beq_self_eq_true adapter.ref)
    | some requesting =>
        have distinct : adapter.ref ≠ requesting.ref := sound.distinct adapter requesting held back
        refine (List.find?_cons_of_neg ?_).trans (List.find?_cons_of_pos (beq_self_eq_true adapter.ref))
        rw [beq_iff_eq]
        exact distinct.symm

end Slots

/-- An adapter that is held is rewritten where it is. -/
inductive Replaces (adapter other : Adapter) (before : AdManager) : AdManager → Prop
  | requesting (held : before.requestingAdapter = some adapter) :
      Replaces adapter other before { before with requestingAdapter := some other }
  | onscreen (held : before.onscreenAdapter = some adapter) :
      Replaces adapter other before { before with onscreenAdapter := some other }

section Replaces

variable {self : AdManager} {adapter other : Adapter}

theorem replaces_update (sound : self.Sound)
    (held : self.requestingAdapter = some adapter ∨ self.onscreenAdapter = some adapter)
    (named : other.ref = adapter.ref) : Replaces adapter other self (self.update other) := by
  rcases held with held | held
  · rw [update_requesting sound held named]
    exact .requesting held
  · rw [update_onscreen sound held named]
    exact .onscreen held

theorem update_same (sound : self.Sound)
    (held : self.requestingAdapter = some adapter ∨ self.onscreenAdapter = some adapter) :
    self.update adapter = self := by
  rcases held with held | held
  · rw [update_requesting sound held rfl, ← held]
  · rw [update_onscreen sound held rfl, ← held]

end Replaces

/-- A custom event sends what the network tracks by itself. -/
def Input.tracksItself : Input → Bool
  | .message _ sent => sent.tracksItself
  | _ => false

/-- What is done of a step at the moment.  With `careful` set, another adapter is
put behind only while no view waits. -/
inductive Act (input : ℚ × Input) (careful : Bool) (before : AdManager) : List Output → AdManager → Prop
  | note (automatic asked : Bool) :
      Act input careful before []
        { before with automaticallyRefreshesContents := automatic, hasRequestedAtLeastOneAd := asked }
  | scheduleRefreshTimer : Act input careful before [] (before.scheduleRefreshTimer input.1)
  | pauseRefreshTimer : Act input careful before [] before.pauseRefreshTimer
  | resumeRefreshTimer : Act input careful before [] (before.resumeRefreshTimer input.1)
  | fire {timer : MobiTimer} (held : before.refreshTimer = some timer) :
      Act input careful before []
        { before with refreshTimer := some (timer.timerDidFire.1.afterFiring input.1) }
  | load (asked : before.loading = true →
        input.2 = .forceRefreshAd ∨ input.2 = .applicationWillEnterForeground) :
      Act input careful before before.loadAdWithURL.2 before.loadAdWithURL.1
  | complete {task : Nat} {completion : Completion BannerConfig}
      (completes : input.2 = .complete task completion) (flies : task ∈ before.inFlight) :
      Act input careful before [] (before.complete task completion)
  | take {block : Block} {rest : List Block} (queue : before.mainQueue = block :: rest) :
      Act input careful before [] { before with mainQueue := rest }
  | noAnswer {rest : List Block}
      (queue : before.mainQueue =
        .communicator (.communicatorDidReceiveAdConfigurations []) :: rest) :
      Act input careful before [.received []]
        { before with mainQueue := rest, remainingConfigurations := [], requestingConfiguration := none }
  | answer {first : BannerConfig} {others : List BannerConfig} {rest : List Block}
      (queue : before.mainQueue =
        .communicator (.communicatorDidReceiveAdConfigurations (first :: others)) :: rest) :
      Act input careful before [.received (first :: others)]
        { before with mainQueue := rest, remainingConfigurations := first :: others }
  | refuse {next : BannerConfig} {rest : List BannerConfig}
      (remaining : before.remainingConfigurations = next :: rest)
      (warming : next.adUnitWarmingUp = true) :
      Act input careful before [.fetch next] (before.takeConfiguration next rest)
  | miss {next : BannerConfig} {rest : List BannerConfig}
      (remaining : before.remainingConfigurations = next :: rest)
      (warm : next.adUnitWarmingUp = false) (missing : next.customEventClass = none)
      (idle : careful = true → before.requestingAdapterAdContentView = none) :
      Act input careful before [.fetch next] (before.takeConfiguration next rest).missRequestingAdapter
  | make {next : BannerConfig} {rest : List BannerConfig}
      (remaining : before.remainingConfigurations = next :: rest)
      (warm : next.adUnitWarmingUp = false) (found : next.customEventClass.isSome = true)
      (idle : careful = true → before.requestingAdapterAdContentView = none) :
      Act input careful before [.fetch next]
        ((before.takeConfiguration next rest).makeRequestingAdapter next)
  | fail (error : NSError) :
      Act input careful before [.manager (.managerDidFailToLoadAdWithError error)] before
  | configure {adapter : Adapter} {configuration : BannerConfig} {rest : List Block}
      (queue : before.mainQueue = .getAd configuration :: rest)
      (held : before.requestingAdapter = some adapter) :
      Act input careful before []
        { before with
            mainQueue := rest
            requestingAdapter := some { adapter with configuration := some configuration } }
  | ask {adapter : Adapter} {configuration : BannerConfig} {rest : List Block}
      (queue : before.mainQueue = .getAd configuration :: rest)
      (held : before.requestingAdapter = some adapter) (automatic : Bool) :
      Act input careful before [.requestAd before.fresh configuration]
        { before with
            mainQueue := rest
            requestingAdapter := some
              { adapter with
                  configuration := some configuration
                  bannerCustomEvent := some ⟨before.fresh, automatic⟩ }
            fresh := before.fresh + 1 }
  | click {adapter : Adapter} {after : AdManager} (first : adapter.hasTrackedClick = false)
      (replaces : Replaces adapter { adapter with hasTrackedClick := true } before after) :
      Act input careful before [.trackClick adapter.ref adapter.configuration] after
  | trackImpression (itself : input.2.tracksItself = true) (ref : Nat)
      (configuration : Option BannerConfig) :
      Act input careful before [.trackImpression ref configuration] before
  | trackClick (itself : input.2.tracksItself = true) (ref : Nat)
      (configuration : Option BannerConfig) :
      Act input careful before [.trackClick ref configuration] before
  | look {adapter : Adapter} {timer : MPAdImpressionTimer} {sight : Sight} {after : AdManager}
      (tracking : adapter.impressionTimer = some timer)
      (running : timer.viewVisibilityTimer.isSome = true)
      (quiet : (timer.step (input.1, .tick sight)).2 = [])
      (replaces : Replaces adapter
        { adapter with impressionTimer := some (timer.step (input.1, .tick sight)).1 } before after) :
      Act input careful before [] after
  | impression {adapter : Adapter} {timer : MPAdImpressionTimer} {sight : Sight} {after : AdManager}
      (ticks : input.2 = .tick adapter.ref sight) (tracking : adapter.impressionTimer = some timer)
      (running : timer.viewVisibilityTimer.isSome = true)
      (logs : (timer.step (input.1, .tick sight)).2 ≠ [])
      (replaces : Replaces adapter
        { adapter with impressionTimer := some (timer.step (input.1, .tick sight)).1 } before after) :
      Act input careful before [.trackImpression adapter.ref adapter.configuration] after
  | loaded {adapter : Adapter} {event : Nat} {ad : UIView}
      (sent : input.2 = .message event (.didLoadAd (some ad))) (sends : holds event adapter = true)
      (held : before.requestingAdapter = some adapter) :
      Act input careful before
        ({ before with
            requestingAdapter := some { adapter with adView := some ad }
            remainingConfigurations := []
            requestingAdapterAdContentView := some ad }.presentRequestingAdapter input.1).2
        ({ before with
            requestingAdapter := some { adapter with adView := some ad }
            remainingConfigurations := []
            requestingAdapterAdContentView := some ad }.presentRequestingAdapter input.1).1
  | reloaded {adapter : Adapter} (held : before.onscreenAdapter = some adapter) (ad : UIView) :
      Act input careful before []
        { before with onscreenAdapter := some { adapter with adView := some ad } }
  | lock {event : Nat} (sent : input.2 = .message event .willBeginAction)
      (held : before.onscreenAdapter.isSome = true) :
      Act input careful before [.manager .userActionWillBegin] { before with adActionInProgress := true }
  | unlock (held : before.onscreenAdapter.isSome = true) :
      Act input careful before
        (.manager .userActionDidFinish ::
          ({ before with adActionInProgress := false }.presentRequestingAdapter input.1).2)
        ({ before with adActionInProgress := false }.presentRequestingAdapter input.1).1
  | leave (held : before.onscreenAdapter.isSome = true) :
      Act input careful before [.manager .userWillLeaveApplication] before
  | lose (held : before.onscreenAdapter.isSome = true) :
      Act input careful before
        (before.removeOnscreenAdapter.2 ++ (before.removeOnscreenAdapter.1.presentRequestingAdapter input.1).2)
        (before.removeOnscreenAdapter.1.presentRequestingAdapter input.1).1

/-- A function of the manager does acts. -/
abbrev Does (input : ℚ × Input) (careful : Bool) (self : AdManager) (result : AdManager × List Output) : Prop :=
  Acts (Act input careful) self result.2 result.1

/-- What has to be shown of a fetch: the configuration is refused, an adapter is
made for it, or there is no class for it and the next one is fetched, if any. -/
theorem fetchAd_induct {now : ℚ}
    {motive : BannerConfig → List BannerConfig → AdManager → AdManager × List Output → Prop}
    (refused : ∀ configuration remaining (self : AdManager),
      configuration.adUnitWarmingUp = true →
      motive configuration remaining self
        (((self.takeConfiguration configuration remaining).didFailToLoadAdapterWithError now
            adUnitWarmingUp).1,
          [.fetch configuration, .manager (.managerDidFailToLoadAdWithError adUnitWarmingUp)]))
    (created : ∀ configuration remaining (self : AdManager),
      configuration.adUnitWarmingUp = false → configuration.customEventClass.isSome = true →
      motive configuration remaining self
        ((self.takeConfiguration configuration remaining).makeRequestingAdapter configuration,
          [.fetch configuration]))
    (missing : ∀ configuration next rest (self : AdManager) result,
      configuration.adUnitWarmingUp = false → configuration.customEventClass = none →
      motive next rest (self.takeConfiguration configuration (next :: rest)).missRequestingAdapter
        result →
      motive configuration (next :: rest) self (result.1, .fetch configuration :: result.2))
    (exhausted : ∀ configuration (self : AdManager),
      configuration.adUnitWarmingUp = false → configuration.customEventClass = none →
      motive configuration [] self
        (((self.takeConfiguration configuration []).missRequestingAdapter.didFailToLoadAdapterWithError
            now self.clearResponseError).1,
          [.fetch configuration,
            .manager (.managerDidFailToLoadAdWithError self.clearResponseError)]))
    (configuration : BannerConfig) (remaining : List BannerConfig) (self : AdManager) :
    motive configuration remaining self (self.fetchAd now configuration remaining) := by
  induction remaining generalizing configuration self with
  | nil =>
      cases warming : configuration.adUnitWarmingUp with
      | true =>
          rw [fetchAd, if_pos warming]
          exact refused configuration [] self warming
      | false =>
          rw [fetchAd, if_neg (Bool.eq_false_iff.mp warming)]
          cases found : configuration.customEventClass with
          | some customEventClass => exact created configuration [] self warming (by rw [found]; rfl)
          | none => exact exhausted configuration self warming found
  | cons next rest ih =>
      cases warming : configuration.adUnitWarmingUp with
      | true =>
          rw [fetchAd, if_pos warming]
          exact refused configuration (next :: rest) self warming
      | false =>
          rw [fetchAd, if_neg (Bool.eq_false_iff.mp warming)]
          cases found : configuration.customEventClass with
          | some customEventClass =>
              exact created configuration (next :: rest) self warming (by rw [found]; rfl)
          | none => exact missing configuration next rest self _ warming found (ih next _)

section Does

variable {self : AdManager} {input : ℚ × Input} {careful : Bool}

theorem does_scheduleRefreshTimer : Does input careful self (self.scheduleRefreshTimer input.1, []) :=
  .single .scheduleRefreshTimer

theorem does_didFailToLoadAdapterWithError (error : NSError) :
    Does input careful self (self.didFailToLoadAdapterWithError input.1 error) :=
  .cons (Act.fail error) (.single .scheduleRefreshTimer)

theorem does_loadAdWithURL
    (asked : self.loading = true →
      input.2 = .forceRefreshAd ∨ input.2 = .applicationWillEnterForeground) :
    Does input careful self self.loadAdWithURL := .single (.load asked)

theorem does_loadAdWithTargeting : Does input careful self self.loadAdWithTargeting := by
  have asked : Act input careful self [] { self with hasRequestedAtLeastOneAd := true } :=
    .note self.automaticallyRefreshesContents true
  unfold AdManager.loadAdWithTargeting
  simp only
  split
  · exact .single asked
  · next idle => exact .silently asked (does_loadAdWithURL fun loading => absurd loading idle)

/-- A fetch tries one configuration after another, until an adapter is made. -/
theorem does_fetchAd (configuration : BannerConfig) (remaining : List BannerConfig)
    (self : AdManager) (left : self.remainingConfigurations = configuration :: remaining)
    (idle : careful = true → configuration.adUnitWarmingUp = false →
      self.requestingAdapterAdContentView = none) :
    Does input careful self (self.fetchAd input.1 configuration remaining) := by
  refine @fetchAd_induct input.1 (fun configuration remaining self result =>
    self.remainingConfigurations = configuration :: remaining →
    (careful = true → configuration.adUnitWarmingUp = false →
      self.requestingAdapterAdContentView = none) → Does input careful self result)
    ?refused ?created ?missing ?exhausted configuration remaining self left idle
  case refused =>
    intro configuration remaining self warming left _
    exact .cons (Act.refuse left warming) (does_didFailToLoadAdapterWithError adUnitWarmingUp)
  case created =>
    intro configuration remaining self warm found left idle
    exact .single (.make left warm found fun isCareful => idle isCareful warm)
  case missing =>
    intro configuration next rest self result warm missing ih left idle
    exact .cons (Act.miss left warm missing fun isCareful => idle isCareful warm)
      (ih rfl fun isCareful _ => idle isCareful warm)
  case exhausted =>
    intro configuration self warm missing left idle
    exact .cons (Act.miss left warm missing fun isCareful => idle isCareful warm)
      (does_didFailToLoadAdapterWithError self.clearResponseError)

theorem does_onscreenAdapterDidFail (held : self.onscreenAdapter.isSome = true) :
    Does input careful self (self.onscreenAdapterDidFail input.1) := by
  have lost := Acts.single (@Act.lose input careful self held)
  have ready : self.removeOnscreenAdapter.1.requestingAdapterAdContentView =
      self.requestingAdapterAdContentView := by
    simp only [removeOnscreenAdapter, finishAction]
    split <;> rfl
  unfold AdManager.onscreenAdapterDidFail
  simp only
  cases waiting : self.requestingAdapterAdContentView with
  | some ad =>
      rw [if_pos (by rw [ready, waiting]; rfl)]
      exact lost
  | none =>
      rw [if_neg (by rw [ready, waiting]; exact Bool.false_ne_true)]
      have nothing : self.removeOnscreenAdapter.1.presentRequestingAdapter input.1 =
          (self.removeOnscreenAdapter.1, []) := by
        rw [AdManager.presentRequestingAdapter, ready, waiting]
      rw [nothing, List.append_nil] at lost
      exact lost.trans does_loadAdWithTargeting

theorem does_requestingAdapterDidFail
    (idle : careful = true → ∀ next ∈ self.remainingConfigurations.head?,
      next.adUnitWarmingUp = false → self.requestingAdapterAdContentView = none) :
    Does input careful self (self.requestingAdapterDidFail input.1) := by
  unfold AdManager.requestingAdapterDidFail
  cases remaining : self.remainingConfigurations with
  | nil => exact does_didFailToLoadAdapterWithError _
  | cons next rest =>
      refine does_fetchAd next rest self remaining ?_
      intro isCareful warm
      exact idle isCareful next (by rw [remaining]; rfl) warm

theorem does_adapterDidFailToLoadAd {ref : Nat}
    (idle : careful = true → IsRef ref self.requestingAdapter →
      ∀ next ∈ self.remainingConfigurations.head?, next.adUnitWarmingUp = false →
        self.requestingAdapterAdContentView = none) :
    Does input careful self (self.adapterDidFailToLoadAd input.1 ref) := by
  have first : Does input careful self
      (if IsRef ref self.requestingAdapter then self.requestingAdapterDidFail input.1 else (self, [])) := by
    split
    · next isRequesting => exact does_requestingAdapterDidFail fun isCareful => idle isCareful isRequesting
    · exact .nil self
  unfold AdManager.adapterDidFailToLoadAd
  generalize (if IsRef ref self.requestingAdapter then self.requestingAdapterDidFail input.1
    else (self, [])) = tried at first
  have second : Does input careful tried.1
      (if IsRef ref tried.1.onscreenAdapter then tried.1.onscreenAdapterDidFail input.1
        else (tried.1, [])) := by
    split
    · next isOnscreen =>
        obtain ⟨adapter, held, -⟩ := held_of_isRef isOnscreen
        exact does_onscreenAdapterDidFail (by rw [held]; rfl)
    · exact .nil tried.1
  exact first.trans second

theorem does_trackClickOnce {adapter : Adapter} (sound : self.Sound)
    (held : self.requestingAdapter = some adapter ∨ self.onscreenAdapter = some adapter) :
    Does input careful self (self.update adapter.trackClickOnce.1, adapter.trackClickOnce.2) := by
  unfold Adapter.trackClickOnce
  split
  · next first =>
      have untracked := (Bool.and_eq_true_iff.mp first).2
      have replaces := @replaces_update _ _ { adapter with hasTrackedClick := true } sound held rfl
      exact .single (.click (by simpa using untracked) replaces)
  · rw [update_same sound held]
    exact .nil self

/-- What the adapter makes of a message without an ad. -/
theorem does_receive {adapter : Adapter} {message : EventMessage} (sound : self.Sound)
    (held : self.requestingAdapter = some adapter ∨ self.onscreenAdapter = some adapter)
    (noAd : ∀ ad, message ≠ .didLoadAd (some ad))
    (itself : message.tracksItself = true → input.2.tracksItself = true) :
    Does input careful self (self.update (adapter.receive message).1, (adapter.receive message).2.1) := by
  have unchanged : Does input careful self (self.update adapter, []) := by
    rw [update_same sound held]
    exact .nil self
  cases message with
  | didLoadAd ad =>
      cases ad with
      | none => exact unchanged
      | some ad => exact absurd rfl (noAd ad)
  | didFailToLoadAdWithError error => exact unchanged
  | willBeginAction => exact does_trackClickOnce sound held
  | didFinishAction => exact unchanged
  | willLeaveApplication => exact does_trackClickOnce sound held
  | trackImpression =>
      change Does input careful self
        (self.update adapter, [.trackImpression adapter.ref adapter.configuration])
      rw [update_same sound held]
      exact .single (.trackImpression (itself rfl) adapter.ref adapter.configuration)
  | trackClick =>
      change Does input careful self
        (self.update adapter, [.trackClick adapter.ref adapter.configuration])
      rw [update_same sound held]
      exact .single (.trackClick (itself rfl) adapter.ref adapter.configuration)
  | willExpandAd => exact unchanged
  | didCollapseAd => exact unchanged

/-- The ad of the requesting adapter; that of the one on screen changes nothing
on the screen. -/
theorem does_loaded (adapter : Adapter) {event : Nat} (ad : UIView)
    (sent : input.2 = .message event (.didLoadAd (some ad))) (sends : holds event adapter = true)
    (sound : self.Sound)
    (held : self.requestingAdapter = some adapter ∨ self.onscreenAdapter = some adapter) :
    Does input careful self
      ((self.update { adapter with adView := some ad }).adapterDidFinishLoadingAd input.1 adapter.ref ad) := by
  rcases held with held | held
  · have same := @update_requesting _ _ { adapter with adView := some ad } sound held rfl
    rw [same, adapterDidFinishLoadingAd, if_pos (by rfl)]
    exact .single (.loaded sent sends held)
  · have same := @update_onscreen _ _ { adapter with adView := some ad } sound held rfl
    rw [same, adapterDidFinishLoadingAd, if_neg (not_isRef_requesting sound held)]
    exact .single (.reloaded held ad)

/-- Every report of an adapter except that of its ad. -/
theorem does_report {ref : Nat} (report : Report) (noAd : ∀ ad, report ≠ .didFinishLoadingAd ad)
    (begins : report = .userActionWillBegin → ∃ event, input.2 = .message event .willBeginAction)
    (idle : ∀ error, report = .didFailToLoadAdWithError error →
      careful = true → IsRef ref self.requestingAdapter →
        ∀ next ∈ self.remainingConfigurations.head?, next.adUnitWarmingUp = false →
          self.requestingAdapterAdContentView = none) :
    Does input careful self (self.receive input.1 ref report) := by
  have present : IsRef ref self.onscreenAdapter → self.onscreenAdapter.isSome = true := by
    intro isOnscreen
    obtain ⟨adapter, held, -⟩ := held_of_isRef isOnscreen
    rw [held, Option.isSome_some]
  cases report with
  | didFinishLoadingAd ad => exact absurd rfl (noAd ad)
  | didFailToLoadAdWithError error => exact does_adapterDidFailToLoadAd (idle error rfl)
  | didTrackImpression =>
      rw [AdManager.receive]
      split
      · exact does_scheduleRefreshTimer
      · exact .nil self
  | userActionWillBegin =>
      rw [AdManager.receive]
      split
      · next isOnscreen =>
          obtain ⟨event, sent⟩ := begins rfl
          exact .single (.lock sent (present isOnscreen))
      · exact .nil self
  | userActionDidFinish =>
      rw [AdManager.receive]
      split
      · next isOnscreen => exact .single (.unlock (present isOnscreen))
      · exact .nil self
  | userWillLeaveApplication =>
      rw [AdManager.receive]
      split
      · next isOnscreen => exact .single (.leave (present isOnscreen))
      · exact .nil self
  | adWillExpand => exact .single .pauseRefreshTimer
  | adDidCollapse => exact .single .resumeRefreshTimer

end Does

/-- The first configuration of an answer, or the next one when the requesting
adapter fails. -/
def attempts (networks : Networks) (self : AdManager) : Input → Option BannerConfig
  | .runBlock =>
      match self.mainQueue with
      | .communicator (.communicatorDidReceiveAdConfigurations configurations) :: _ =>
          configurations.head?
      | .getAd configuration :: _ =>
          if self.requestingAdapter.isSome && (configuration.customEventClass.bind networks).isNone then
            self.remainingConfigurations.head?
          else none
      | _ => none
  | .message event message =>
      if message.isFailure && self.requestingAdapter.any (holds event) then
        self.remainingConfigurations.head?
      else none
  | _ => none

/-- While the view of the requesting adapter waits, no other adapter is tried. -/
def Patient (networks : Networks) (self : AdManager) (input : ℚ × Input) : Prop :=
  self.requestingAdapterAdContentView.isSome = true →
    ∀ configuration, self.attempts networks input.2 = some configuration →
      configuration.adUnitWarmingUp = true

section Steps

variable {self : AdManager} {networks : Networks} {input : ℚ × Input} {careful : Bool}

theorem idle_of_patient {now : ℚ} {given : Input} (patient : Patient networks self (now, given))
    {configuration : BannerConfig} (tried : self.attempts networks given = some configuration)
    (warm : configuration.adUnitWarmingUp = false) : self.requestingAdapterAdContentView = none := by
  cases waiting : self.requestingAdapterAdContentView with
  | none => rfl
  | some ad =>
      have refused := patient (by rw [waiting]; rfl) configuration tried
      rw [warm] at refused
      cases refused

theorem does_message {now : ℚ} {event : Nat} {message : EventMessage} (sound : self.Sound)
    (patient : careful = true → Patient networks self (now, .message event message)) :
    Does (now, .message event message) careful self (self.message now event message) := by
  unfold AdManager.message
  cases found : self.adapters.find? (holds event) with
  | none => exact .nil self
  | some adapter =>
      have held := held_of_mem (List.mem_of_find?_eq_some found)
      by_cases loads : ∃ ad, message = .didLoadAd (some ad)
      · obtain ⟨ad, rfl⟩ := loads
        exact does_loaded adapter ad rfl (List.find?_some found) sound held
      · have noAd : ∀ ad, message ≠ .didLoadAd (some ad) := fun ad same => loads ⟨ad, same⟩
        have received := @does_receive self (now, .message event message) careful adapter message sound
          held noAd id
        simp only
        cases reported : (adapter.receive message).2.2 with
        | none => exact received
        | some report =>
            refine received.trans (does_report report ?_ ?_ ?_)
            · rintro ad rfl
              exact noAd ad (adapter.message_of_ad reported)
            · rintro rfl
              obtain rfl := adapter.message_of_begin reported
              exact ⟨event, rfl⟩
            · rintro error rfl isCareful isRequesting next first warm
              have fails : message.isFailure = true := adapter.isFailure_of_report reported
              have same : (adapter.receive message).1 = adapter := adapter.receive_of_failure fails
              rw [same, update_same sound held] at isRequesting
              rcases held with held | held
              · have answers : holds event adapter = true := List.find?_some found
                have tried : self.attempts networks (.message event message) = some next := by
                  simp only [attempts, fails, held, Option.any_some, answers, Bool.and_self, if_true]
                  exact first
                exact @idle_of_patient self networks now _ (patient isCareful) next tried warm
              · exact absurd isRequesting (not_isRef_requesting sound held)

theorem does_tick {now : ℚ} {ref : Nat} {sight : Sight} (sound : self.Sound)
    (enabled : self.enabled (now, .tick ref sight)) :
    Does (now, .tick ref sight) careful self (self.tick now ref sight) := by
  obtain ⟨adapter, member, rfl, timer, visibility, tracking, running, -⟩ := enabled
  have held := held_of_mem member
  have replaces := @replaces_update _ _
    { adapter with impressionTimer := some (timer.step (now, .tick sight)).1 } sound held rfl
  have runs : timer.viewVisibilityTimer.isSome = true := by rw [running, Option.isSome_some]
  unfold AdManager.tick
  rw [find_of_held sound held]
  simp only [tracking]
  cases logged : (timer.step (now, .tick sight)).2 with
  | nil => exact .single (.look tracking runs logged replaces)
  | cons view views =>
      have logs : (timer.step (now, .tick sight)).2 ≠ [] := by
        rw [logged]
        exact List.cons_ne_nil view views
      refine .cons (@Act.impression (now, .tick adapter.ref sight) careful self adapter timer sight _
        rfl tracking runs logs replaces) ?_
      refine @does_report _ (now, .tick adapter.ref sight) careful adapter.ref .didTrackImpression
        ?_ ?_ ?_
      · intro ad same
        cases same
      · intro same
        cases same
      · intro error same
        cases same

theorem does_getAd {configuration : BannerConfig} {rest : List Block}
    (queue : self.mainQueue = .getAd configuration :: rest)
    (idle : careful = true → self.requestingAdapter.isSome = true →
      (configuration.customEventClass.bind networks).isNone = true →
      ∀ next ∈ self.remainingConfigurations.head?, next.adUnitWarmingUp = false →
        self.requestingAdapterAdContentView = none) :
    Does input careful self ({ self with mainQueue := rest }.getAd networks input.1 configuration) := by
  obtain ⟨waiting, isWaiting⟩ : ∃ waiting, waiting = { self with mainQueue := rest } := ⟨_, rfl⟩
  have taken : Act input careful self [] waiting := by
    rw [isWaiting]
    exact .take queue
  rw [← isWaiting]
  unfold AdManager.getAd
  cases held : waiting.requestingAdapter with
  | none => exact .single taken
  | some adapter =>
      simp only
      cases made : configuration.customEventClass.bind networks with
      | none =>
          subst isWaiting
          refine .silently (.configure queue held) (does_adapterDidFailToLoadAd ?_)
          intro isCareful _
          exact idle isCareful (Option.isSome_iff_exists.mpr ⟨adapter, held⟩)
            (Option.isNone_iff_eq_none.mpr made)
      | some automatic =>
          subst isWaiting
          exact .single (.ask queue held automatic)

theorem does_communicatorDidReceiveAdConfigurations {configurations : List BannerConfig}
    {rest : List Block}
    (queue : self.mainQueue =
      .communicator (.communicatorDidReceiveAdConfigurations configurations) :: rest)
    (idle : careful = true → ∀ next ∈ configurations.head?, next.adUnitWarmingUp = false →
      self.requestingAdapterAdContentView = none) :
    Does input careful self
      ({ self with mainQueue := rest }.communicatorDidReceiveAdConfigurations input.1
        configurations) := by
  unfold AdManager.communicatorDidReceiveAdConfigurations
  cases configurations with
  | nil => exact .cons (.noAnswer queue) (does_didFailToLoadAdapterWithError noInventory)
  | cons first others =>
      have fetched := @does_fetchAd input careful first others
        { self with mainQueue := rest, remainingConfigurations := first :: others } rfl
        fun isCareful => idle isCareful first rfl
      have same : { self with mainQueue := rest, remainingConfigurations := first :: others }.fetchAd
          input.1 first others = { self with mainQueue := rest }.fetchAd input.1 first others := by
        cases others <;> rfl
      rw [same] at fetched
      exact .cons (.answer queue) fetched

theorem does_runBlock (patient : careful = true → Patient networks self (input.1, .runBlock)) :
    Does input careful self (self.runBlock networks input.1) := by
  unfold AdManager.runBlock
  cases queue : self.mainQueue with
  | nil => exact .nil self
  | cons block rest =>
      cases block with
      | communicator message =>
          cases message with
          | communicatorDidReceiveAdConfigurations configurations =>
              refine does_communicatorDidReceiveAdConfigurations queue ?_
              intro isCareful next first warm
              have tried : self.attempts networks .runBlock = some next := by
                simp only [attempts, queue]
                exact first
              exact @idle_of_patient self networks input.1 _ (patient isCareful) next tried warm
          | communicatorDidFailWithError error =>
              exact .silently (.take queue) (does_didFailToLoadAdapterWithError error)
      | getAd configuration =>
          refine does_getAd queue ?_
          intro isCareful requesting missing next first warm
          have tried : self.attempts networks .runBlock = some next := by
            simp only [attempts, queue, requesting, missing, Bool.and_self, if_true]
            exact first
          exact @idle_of_patient self networks input.1 _ (patient isCareful) next tried warm

theorem does_refreshTimerDidFire : Does input careful self (self.refreshTimerDidFire input.1) := by
  unfold AdManager.refreshTimerDidFire
  cases held : self.refreshTimer with
  | none => exact .nil self
  | some timer =>
      refine .silently (.fire held) ?_
      simp only
      split
      · exact does_loadAdWithTargeting
      · exact .nil _

theorem does_startAutomaticallyRefreshingContents :
    Does input careful self (self.startAutomaticallyRefreshingContents input.1, []) := by
  refine .silently (.note true self.hasRequestedAtLeastOneAd) ?_
  unfold AdManager.startAutomaticallyRefreshingContents
  simp only
  split
  · exact .nil _
  · split
    · exact .single .resumeRefreshTimer
    · exact does_scheduleRefreshTimer

/-- The acts of a step. -/
theorem acts_step (sound : self.Sound) {input : ℚ × Input} (enabled : self.enabled input)
    (patient : careful = true → Patient networks self input) :
    Acts (Act input careful) self ((machine networks).emit self input)
      ((machine networks).next self input) := by
  obtain ⟨now, given⟩ := input
  cases given with
  | loadAd => exact does_loadAdWithTargeting
  | forceRefreshAd => exact does_loadAdWithURL fun _ => .inl rfl
  | applicationWillEnterForeground =>
      change Does (now, .applicationWillEnterForeground) careful self self.applicationWillEnterForeground
      unfold AdManager.applicationWillEnterForeground
      split
      · exact does_loadAdWithURL fun _ => .inr rfl
      · exact .nil self
  | applicationDidEnterBackground => exact .single .pauseRefreshTimer
  | stopAutomaticallyRefreshingContents =>
      exact .silently (.note false self.hasRequestedAtLeastOneAd) (.single .pauseRefreshTimer)
  | startAutomaticallyRefreshingContents => exact does_startAutomaticallyRefreshingContents
  | complete task completion => exact .single (.complete rfl enabled)
  | runBlock => exact does_runBlock patient
  | message event message => exact does_message sound patient
  | tick ref sight => exact does_tick sound enabled
  | refreshTimerDidFire => exact does_refreshTimerDidFire

end Steps

end AdManager

end GDTAdapter.BannerHost
