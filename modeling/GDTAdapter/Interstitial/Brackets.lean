import GDTAdapter.Interstitial.CustomEvent
import GDTAdapter.Reactive.Monitor

namespace GDTAdapter.Interstitial

open Reactive

/-! # Bracketed presentation events

GDT opens and closes a full-screen modal with four callbacks of its own.  The
delegate protocol has one message for each side of the bracket, and the custom
event implements only a callback that leads to the closing one.
-/

inductive ModalStage where
  | opening
  | opened
  | closing
deriving DecidableEq, Repr

/-- Where the presentation of an ad stands; the innermost modal comes first. -/
inductive Phase where
  | idle
  | presenting (ad : Nat)
  | presented (ad : Nat) (modals : List ModalStage)
deriving DecidableEq, Repr

def Phase.admits (ad : Nat) : Phase → Bool
  | .idle => true
  | .presenting shown => ad == shown
  | .presented shown _ => ad == shown

/-- What may happen while the screen is shown: clicks, leaving the application, and
modals that open and close in four steps each. -/
def during (modals : List ModalStage) : CustomEvent.Callback → Option (List ModalStage)
  | .clicked => some modals
  | .willLeaveApplication => some modals
  | .adWillPresentFullScreenModal =>
      match modals with
      | [] => some [.opening]
      | .opened :: outer => some (.opening :: .opened :: outer)
      | _ => none
  | .adDidPresentFullScreenModal =>
      match modals with
      | .opening :: outer => some (.opened :: outer)
      | _ => none
  | .adWillDismissFullScreenModal =>
      match modals with
      | .opened :: outer => some (.closing :: outer)
      | _ => none
  | .adDidDismissFullScreenModal =>
      match modals with
      | .closing :: outer => some outer
      | _ => none
  | _ => none

def Phase.advance (ad : Nat) (callback : CustomEvent.Callback) : Phase → Option Phase
  | .idle => if callback = .willPresentScreen then some (.presenting ad) else none
  | .presenting _ => if callback = .didPresentScreen then some (.presented ad []) else none
  | .presented _ modals =>
      if callback = .didDismissScreen then if modals = [] then some .idle else none
      else (during modals callback).map (.presented ad)

/-- Callbacks about loading, failures, exposure and the video player, which the
order does not mention. -/
def CustomEvent.Callback.isFree : CustomEvent.Callback → Bool
  | .willPresentScreen => false
  | .didPresentScreen => false
  | .didDismissScreen => false
  | .willLeaveApplication => false
  | .clicked => false
  | .adWillPresentFullScreenModal => false
  | .adDidPresentFullScreenModal => false
  | .adWillDismissFullScreenModal => false
  | .adDidDismissFullScreenModal => false
  | _ => true

def documentedOrder : Monitor Phase (Nat × CustomEvent.Callback) := fun phase report =>
  if report.2.isFree then some phase
  else if phase.admits report.1 then phase.advance report.1 report.2
  else none

inductive Screen where
  | gone
  | appearing
  | shown (openModals : Nat)
  | disappearing
deriving DecidableEq, Repr

def nested : Monitor Screen Message
  | .gone, .willAppear => some .appearing
  | .appearing, .didAppear => some (.shown 0)
  | .shown openModals, .didReceiveTapEvent => some (.shown openModals)
  | .shown openModals, .willLeaveApplication => some (.shown openModals)
  | .shown openModals, .willPresentModal => some (.shown (openModals + 1))
  | .shown (openModals + 1), .didDismissModal => some (.shown openModals)
  | .shown 0, .willDisappear => some .disappearing
  | .disappearing, .didDisappear => some .gone
  | screen, .didLoadAd => some screen
  | screen, .didFailToLoadAdWithError _ => some screen
  | screen, .didExpire => some screen
  | _, _ => none

def reportsOf (callback : CustomEvent.Callback) (callbacks : List (Nat × CustomEvent.Callback)) : Nat :=
  callbacks.countP fun report => report.2 = callback

structure WellBracketed (callbacks : List (Nat × CustomEvent.Callback)) (sent : List Message) : Prop where
  word : nested.Accepts .gone sent
  willAppear : sent.count .willAppear = reportsOf .willPresentScreen callbacks
  didAppear : sent.count .didAppear = reportsOf .didPresentScreen callbacks
  willDisappear : sent.count .willDisappear = reportsOf .didDismissScreen callbacks
  didDisappear : sent.count .didDisappear = reportsOf .didDismissScreen callbacks

def Input.callback? : Input → Option (Nat × CustomEvent.Callback)
  | .callback ad report => some (ad, report)
  | _ => none

/-- A delegate, if it is replaced, is replaced by one with the whole protocol. -/
def Input.Conforms : Input → Prop
  | .setDelegate delegate => delegate = some fun _ => true
  | _ => True

def CustomEvent.Callback.events : CustomEvent.Callback → List Message
  | .successToLoadAd => [.didLoadAd]
  | .failToLoadAd error => [.didFailToLoadAdWithError error]
  | .willPresentScreen => [.willAppear]
  | .didPresentScreen => [.didAppear]
  | .failToPresent error => [.didFailToLoadAdWithError error]
  | .didDismissScreen => [.willDisappear, .didDisappear]
  | .willLeaveApplication => [.willLeaveApplication]
  | .clicked => [.didReceiveTapEvent]
  | .adWillDismissFullScreenModal => [.didDismissModal]
  | _ => []

theorem messages_receive {event : CustomEvent} (whole : event.delegate = some fun _ => true)
    (ad : Nat) (callback : CustomEvent.Callback) :
    messages (event.receive ad callback).2 = callback.events ∧
      (event.receive ad callback).1.delegate = some fun _ => true := by
  obtain ⟨delegate, interstitial, rootVC⟩ := event
  subst whole
  cases callback <;> exact ⟨rfl, rfl⟩

theorem messages_reported {state : Instance} {input : Input} {report : Nat × CustomEvent.Callback}
    (whole : state.event.delegate = some fun _ => true) (reports : input.callback? = some report) :
    messages (machine.emit state input) = report.2.events := by
  cases input with
  | callback ad callback =>
      cases reports
      exact (messages_receive whole ad callback).1
  | _ => cases reports

theorem messages_host {state : Instance} {input : Input} (host : input.callback? = none) :
    ∀ message ∈ messages (machine.emit state input),
      ∃ error, message = .didFailToLoadAdWithError error := by
  intro message member
  cases input with
  | request info =>
      simp only [Machine.emit, machine, Instance.step, CustomEvent.requestInterstitial] at member
      split at member
      · exact ⟨_, Delegate.mem_messages_send member⟩
      · cases member
  | «show» reading rootViewController =>
      simp only [Machine.emit, machine, Instance.step] at member
      cases available : state.event.hasAdAvailable reading with
      | true =>
          obtain ⟨ad, -, effects⟩ :=
            CustomEvent.showInterstitial_of_valid rootViewController available
          rw [effects] at member
          cases member
      | false =>
          rw [CustomEvent.showInterstitial_of_invalid available] at member
          exact ⟨_, Delegate.mem_messages_send member⟩
  | callback ad report => cases host
  | setDelegate delegate => cases member

theorem next_whole {state : Instance} {input : Input}
    (whole : state.event.delegate = some fun _ => true) (conforms : input.Conforms) :
    (machine.next state input).event.delegate = some fun _ => true := by
  cases input with
  | request info =>
      simp only [Machine.next, machine, Instance.step, CustomEvent.requestInterstitial]
      split <;> exact whole
  | «show» reading rootViewController => exact CustomEvent.showInterstitial_delegate.trans whole
  | callback ad report => exact (messages_receive whole ad report).2
  | setDelegate delegate => exact conforms

/-- The screen GDT's phase stands for.  No modal is ever open: the message that
opens one is not sent. -/
def Phase.screen : Phase → Screen
  | .idle => .gone
  | .presenting _ => .appearing
  | .presented _ _ => .shown 0

theorem run_of_during {modals later : List ModalStage} {callback : CustomEvent.Callback}
    (moves : during modals callback = some later)
    (other : callback ≠ .adWillDismissFullScreenModal) :
    nested.run (.shown 0) callback.events = some (.shown 0) := by
  cases callback with
  | clicked => rfl
  | willLeaveApplication => rfl
  | adWillPresentFullScreenModal => rfl
  | adDidPresentFullScreenModal => rfl
  | adDidDismissFullScreenModal => rfl
  | adWillDismissFullScreenModal => exact absurd rfl other
  | _ => cases moves

theorem run_of_advance {phase later : Phase} {ad : Nat} {callback : CustomEvent.Callback}
    (moves : phase.advance ad callback = some later)
    (other : callback ≠ .adWillDismissFullScreenModal) :
    nested.run phase.screen callback.events = some later.screen := by
  cases phase with
  | idle =>
      obtain ⟨rfl, moves⟩ := Option.ite_none_right_eq_some.mp moves
      cases moves
      rfl
  | presenting shown =>
      obtain ⟨rfl, moves⟩ := Option.ite_none_right_eq_some.mp moves
      cases moves
      rfl
  | presented shown modals =>
      simp only [Phase.advance] at moves
      by_cases dismissed : callback = .didDismissScreen
      · rw [if_pos dismissed] at moves
        obtain ⟨-, moves⟩ := Option.ite_none_right_eq_some.mp moves
        cases moves
        rw [dismissed]
        rfl
      · rw [if_neg dismissed] at moves
        obtain ⟨remaining, goesOn, rfl⟩ := Option.map_eq_some_iff.mp moves
        exact run_of_during goesOn other

theorem run_of_free {callback : CustomEvent.Callback} (free : callback.isFree = true) (screen : Screen) :
    nested.run screen callback.events = some screen := by
  cases callback with
  | successToLoadAd => cases screen <;> rfl
  | failToLoadAd error => cases screen <;> rfl
  | failToPresent error => cases screen <;> rfl
  | willExposure => rfl
  | playerStatusChanged status => rfl
  | adViewWillPresentVideoVC => rfl
  | adViewDidPresentVideoVC => rfl
  | adViewWillDismissVideoVC => rfl
  | adViewDidDismissVideoVC => rfl
  | _ => cases free

theorem run_of_order {phase later : Phase} {report : Nat × CustomEvent.Callback}
    (moves : documentedOrder phase report = some later)
    (other : report.2 ≠ .adWillDismissFullScreenModal) :
    nested.run phase.screen report.2.events = some later.screen := by
  unfold documentedOrder at moves
  cases free : report.2.isFree with
  | true =>
      rw [if_pos free] at moves
      cases moves
      exact run_of_free free phase.screen
  | false =>
      rw [if_neg (by simp [free])] at moves
      obtain ⟨-, moves⟩ := Option.ite_none_right_eq_some.mp moves
      exact run_of_advance moves other

/-- The closing message finds no open modal. -/
theorem run_of_willDismiss (phase : Phase) :
    nested.run phase.screen CustomEvent.Callback.adWillDismissFullScreenModal.events = none := by
  cases phase <;> rfl

theorem accepts_iff {state : Instance} {phase : Phase} {inputs : List Input}
    (whole : state.event.delegate = some fun _ => true)
    (conform : ∀ input ∈ inputs, input.Conforms)
    (ordered : documentedOrder.Accepts phase (inputs.filterMap Input.callback?)) :
    nested.Accepts phase.screen (messages (machine.trace state inputs)) ↔
      ∀ report ∈ inputs.filterMap Input.callback?, report.2 ≠ .adWillDismissFullScreenModal := by
  induction inputs generalizing state phase with
  | nil =>
      refine iff_of_true rfl ?_
      intro report member
      cases member
  | cons input rest ih =>
      have stillWhole := next_whole whole (conform input List.mem_cons_self)
      have restConforms := fun other member => conform other (List.mem_cons_of_mem input member)
      rw [Machine.trace_cons, messages_append, Monitor.Accepts, Monitor.run_append]
      cases reports : input.callback? with
      | none =>
          rw [List.filterMap_cons_none reports] at ordered ⊢
          have ignored : nested.run phase.screen (messages (machine.emit state input)) =
              some phase.screen := by
            apply Monitor.run_of_ignored
            intro message member
            obtain ⟨error, rfl⟩ := messages_host reports message member
            cases phase.screen <;> rfl
          rw [ignored, Option.bind_some]
          exact ih stillWhole restConforms ordered
      | some report =>
          rw [List.filterMap_cons_some reports] at ordered ⊢
          rw [Monitor.Accepts, Monitor.run_cons] at ordered
          rw [messages_reported whole reports, List.forall_mem_cons]
          by_cases closes : report.2 = .adWillDismissFullScreenModal
          · rw [closes, run_of_willDismiss]
            refine iff_of_false ?_ (fun none => none.1 rfl)
            intro accepted
            cases accepted
          · cases moves : documentedOrder phase report with
            | none => simp [moves] at ordered
            | some later =>
                rw [moves, Option.bind_some] at ordered
                rw [run_of_order moves closes, Option.bind_some]
                exact (ih stillWhole restConforms ordered).trans (and_iff_right closes).symm

/-- Every screen event is sent as often as GDT reports its callback. -/
theorem count_sent {state : Instance} {inputs : List Input}
    (whole : state.event.delegate = some fun _ => true)
    (conform : ∀ input ∈ inputs, input.Conforms)
    {message : Message} {reported : CustomEvent.Callback}
    (screenEvent : ∀ error, message ≠ .didFailToLoadAdWithError error)
    (image : ∀ callback : CustomEvent.Callback,
      callback.events.count message = if callback = reported then 1 else 0) :
    (messages (machine.trace state inputs)).count message =
      reportsOf reported (inputs.filterMap Input.callback?) := by
  induction inputs generalizing state with
  | nil => rfl
  | cons input rest ih =>
      have later := ih (next_whole whole (conform input List.mem_cons_self))
        (fun other member => conform other (List.mem_cons_of_mem input member))
      rw [Machine.trace_cons, messages_append, List.count_append, later]
      cases reports : input.callback? with
      | none =>
          have absent : message ∉ messages (machine.emit state input) := by
            intro member
            obtain ⟨error, same⟩ := messages_host reports message member
            exact screenEvent error same
          rw [List.filterMap_cons_none reports, List.count_eq_zero.mpr absent, Nat.zero_add]
      | some report =>
          rw [List.filterMap_cons_some reports, messages_reported whole reports, image, reportsOf,
            reportsOf, List.countP_cons, Nat.add_comm]
          simp

theorem wellBracketed_iff (event : CustomEvent) (fresh : Nat) (presented : List Nat)
    (inputs : List Input) :
    let event : CustomEvent := { event with delegate := some fun _ => true }
    let start : Instance := { event, fresh, presented }
    let callbacks := inputs.filterMap Input.callback?
    (∀ input ∈ inputs, input.Conforms) → documentedOrder.Accepts .idle callbacks →
      (WellBracketed callbacks (messages (machine.trace start inputs)) ↔
        ∀ report ∈ callbacks, report.2 ≠ .adWillDismissFullScreenModal) := by
  intro event start callbacks conform ordered
  have whole : start.event.delegate = some fun _ => true := rfl
  constructor
  · intro bracketed
    exact (accepts_iff whole conform ordered).mp bracketed.word
  · intro noModalCloses
    refine ⟨(accepts_iff whole conform ordered).mpr noModalCloses, ?_, ?_, ?_, ?_⟩
    · exact count_sent whole conform nofun (fun callback => by cases callback <;> rfl)
    · exact count_sent whole conform nofun (fun callback => by cases callback <;> rfl)
    · exact count_sent whole conform nofun (fun callback => by cases callback <;> rfl)
    · exact count_sent whole conform nofun (fun callback => by cases callback <;> rfl)

/-- A presentation with a click, and one that is still on screen. -/
def shownAndClicked : List Input :=
  [.request { adunit := some "8020" }, .callback 0 .successToLoadAd,
    .callback 0 .willPresentScreen, .callback 0 .didPresentScreen, .callback 0 .clicked,
    .callback 0 .didDismissScreen, .callback 0 .willPresentScreen, .callback 0 .didPresentScreen]

theorem shownAndClicked_wellBracketed :
    WellBracketed (shownAndClicked.filterMap Input.callback?)
      (messages (machine.trace { event := { delegate := some fun _ => true } } shownAndClicked)) := by
  refine (wellBracketed_iff { delegate := none } 0 [] shownAndClicked ?_ rfl).mpr ?_
  · simp [shownAndClicked, Input.Conforms]
  · decide

def oneModal : List Input :=
  [.request { adunit := some "8020" }, .callback 0 .successToLoadAd,
    .callback 0 .willPresentScreen, .callback 0 .didPresentScreen,
    .callback 0 .adWillPresentFullScreenModal, .callback 0 .adDidPresentFullScreenModal,
    .callback 0 .adWillDismissFullScreenModal, .callback 0 .adDidDismissFullScreenModal,
    .callback 0 .didDismissScreen]

theorem oneModal_not_wellBracketed :
    let start : Instance := { event := { delegate := some fun _ => true } }
    machine.Runs start oneModal ∧
      documentedOrder.run .idle (oneModal.filterMap Input.callback?) = some .idle ∧
      ¬ WellBracketed (oneModal.filterMap Input.callback?) (messages (machine.trace start oneModal)) := by
  refine ⟨?_, rfl, ?_⟩
  · simp [oneModal, Machine.Runs, machine, Instance.enabled, Machine.next, Instance.step,
      CustomEvent.requestInterstitial]
  · intro bracketed
    cases bracketed.word

end GDTAdapter.Interstitial
