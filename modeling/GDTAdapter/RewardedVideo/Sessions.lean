import GDTAdapter.Reactive.Monitor
import GDTAdapter.RewardedVideo.Availability

namespace GDTAdapter.RewardedVideo

open Reactive

/-! # Presentation sessions

The delegate is a weak reference and can become nil between two messages of one
callback.  A callback is therefore split here into what it does on entry and the
guarded messages it then sends, each of which reads the delegate anew.
-/

namespace CustomEvent

def entered (callback : Callback) (event : CustomEvent) : CustomEvent :=
  match callback with
  | .didClose => { event with rootVC := none }
  | .didFailWithError _ => { event with rootVC := none }
  | _ => event

def script (reading : Reading) (event : CustomEvent) : Callback → List (Selector × Message)
  | .didLoad => [(.rewardedVideoDidLoadAd, .rewardedVideoDidLoadAd)]
  | .videoDidLoad =>
      if event.hasAdAvailable reading then
        [(.rewardedVideoAdVideoDidLoad, .rewardedVideoAdVideoDidLoad)]
      else [(.rewardedVideoDidExpire, .rewardedVideoDidExpire)]
  | .willVisible => [(.rewardedVideoWillAppear, .rewardedVideoWillAppear)]
  | .didExposed => [(.rewardedVideoDidAppear, .rewardedVideoDidAppear)]
  | .didClose =>
      [(.rewardedVideoWillDisappear, .rewardedVideoWillDisappear),
        (.rewardedVideoDidDisappear, .rewardedVideoDidDisappear)]
  | .didClicked => [(.rewardedVideoDidReceiveTapEvent, .rewardedVideoDidReceiveTapEvent)]
  | .didFailWithError error =>
      [(.rewardedVideoDidFailToPlay, .rewardedVideoDidFailToPlay error)]
  | .didRewardEffective => []
  | .didPlayFinish => [(.rewardedVideoAdDidPlayFinish, .rewardedVideoAdDidPlayFinish none)]

def relay (delegate : Delegate Selector) (script : List (Selector × Message)) : Effects :=
  script.flatMap fun entry => delegate.notify entry.1 entry.2

/-- With a delegate that stays, the split callback is the callback. -/
theorem receive_eq_script (reading : Reading) (ad : Nat) (event : CustomEvent) (callback : Callback) :
    event.receive reading ad callback =
      (event.entered callback, relay event.delegate (event.script reading callback)) := by
  cases callback with
  | videoDidLoad =>
      simp only [receive, gdtRewardVideoAdVideoDidLoad_eq, entered, script]
      cases event.hasAdAvailable reading with
      | true => simp [relay]
      | false => simp [relay]
  | didRewardEffective => rfl
  | didClose =>
      simp [receive, gdtRewardVideoAdDidClose, entered, script, relay]
  | _ => exact congrArg (Prod.mk _) (List.append_nil _).symm

theorem entered_delegate (callback : Callback) (event : CustomEvent) :
    (event.entered callback).delegate = event.delegate := by
  cases callback <;> rfl

end CustomEvent

/-- An instance with the messages its running callback has not sent yet. -/
structure Delivery where
  owner : Instance
  pending : List (Selector × Message) := []

inductive Delivery.Input where
  | request (info : Info)
  | present (reading : Reading) (viewController : Option UIViewController)
  | handleAdPlayed (reading : Reading)
  | callback (reading : Reading) (ad : Nat) (callback : CustomEvent.Callback)
  | deliver
  | vanish

namespace Delivery

def host (before : Delivery) (input : RewardedVideo.Input) : Delivery × CustomEvent.Effects :=
  let (owner, effects) := before.owner.step input
  ({ before with owner }, effects)

def step (before : Delivery) : Input → Delivery × CustomEvent.Effects
  | .request info => before.host (.request info)
  | .present reading viewController => before.host (.present reading viewController)
  | .handleAdPlayed reading => before.host (.handleAdPlayed reading)
  | .callback reading _ callback =>
      ({ owner := { before.owner with event := before.owner.event.entered callback }
         pending := before.owner.event.script reading callback }, [])
  | .deliver =>
      match before.pending with
      | [] => (before, [])
      | (guard, message) :: rest =>
          ({ before with pending := rest }, before.owner.event.delegate.notify guard message)
  | .vanish =>
      let event := { before.owner.event with delegate := none }
      ({ before with owner := { before.owner with event } }, [])

/-- Present calls that the custom event refuses are left out, and a callback
arrives when the one before it has returned. -/
def enabled (before : Delivery) : Input → Prop
  | .present reading _ => before.owner.event.isAdValid reading = true
  | .callback _ ad _ => before.pending = [] ∧ ad < before.owner.fresh
  | _ => True

end Delivery

def deliveryMachine : Machine Delivery Delivery.Input (Effect Call Message) where
  enabled := Delivery.enabled
  step := Delivery.step

namespace Delivery

theorem deliver_pending (before : Delivery) :
    deliveryMachine.after before (List.replicate before.pending.length .deliver) =
        { before with pending := [] } ∧
      deliveryMachine.trace before (List.replicate before.pending.length .deliver) =
        CustomEvent.relay before.owner.event.delegate before.pending := by
  obtain ⟨owner, pending⟩ := before
  induction pending with
  | nil => exact ⟨rfl, rfl⟩
  | cons entry rest ih =>
      refine ⟨ih.1, ?_⟩
      have sent : deliveryMachine.emit ⟨owner, entry :: rest⟩ .deliver =
          owner.event.delegate.notify entry.1 entry.2 := rfl
      rw [List.length_cons, List.replicate_succ, Machine.trace_cons, sent]
      exact congrArg (owner.event.delegate.notify entry.1 entry.2 ++ ·) ih.2

/-- A callback whose messages are all delivered does what the instance does in
one step. -/
theorem callback_delivered (before : Delivery) (reading : Reading) (ad : Nat)
    (callback : CustomEvent.Callback) :
    let deliveries := List.replicate (before.owner.event.script reading callback).length Input.deliver
    deliveryMachine.after before (.callback reading ad callback :: deliveries) =
        ⟨machine.next before.owner (.callback reading ad callback), []⟩ ∧
      deliveryMachine.trace before (.callback reading ad callback :: deliveries) =
        machine.emit before.owner (.callback reading ad callback) := by
  have delivered := deliver_pending (deliveryMachine.next before (.callback reading ad callback))
  have owned : machine.next before.owner (.callback reading ad callback) =
      { before.owner with event := before.owner.event.entered callback } := by
    simp only [Machine.next, machine, Instance.step, CustomEvent.receive_eq_script]
  have sent : machine.emit before.owner (.callback reading ad callback) =
      CustomEvent.relay before.owner.event.delegate (before.owner.event.script reading callback) := by
    simp only [Machine.emit, machine, Instance.step, CustomEvent.receive_eq_script]
  refine ⟨?_, ?_⟩
  · rw [Machine.after_cons, owned]
    exact delivered.1
  · rw [Machine.trace_cons, sent]
    refine delivered.2.trans ?_
    exact congrArg (fun delegate => CustomEvent.relay delegate _) (CustomEvent.entered_delegate _ _)

end Delivery

def Message.isPresentation : Message → Bool
  | .rewardedVideoDidFailToPlay _ => true
  | .rewardedVideoWillAppear => true
  | .rewardedVideoDidAppear => true
  | .rewardedVideoWillDisappear => true
  | .rewardedVideoDidDisappear => true
  | .rewardedVideoDidReceiveTapEvent => true
  | .rewardedVideoAdDidPlayFinish _ => true
  | _ => false

def presentationEvents (effects : CustomEvent.Effects) : List Message :=
  (messages effects).filter Message.isPresentation

def CustomEvent.Callback.reports : CustomEvent.Callback → List Message
  | .willVisible => [.rewardedVideoWillAppear]
  | .didExposed => [.rewardedVideoDidAppear]
  | .didClicked => [.rewardedVideoDidReceiveTapEvent]
  | .didPlayFinish => [.rewardedVideoAdDidPlayFinish none]
  | .didClose => [.rewardedVideoWillDisappear, .rewardedVideoDidDisappear]
  | .didFailWithError error => [.rewardedVideoDidFailToPlay error]
  | _ => []

def Delivery.Input.callback? : Delivery.Input → Option (Nat × CustomEvent.Callback)
  | .callback _ ad report => some (ad, report)
  | _ => none

def reported (callbacks : List (Nat × CustomEvent.Callback)) : List Message :=
  callbacks.flatMap fun report => report.2.reports

inductive Moment where
  | tap
  | playFinish
deriving DecidableEq, Repr

def Moment.event : Moment → Message
  | .tap => .rewardedVideoDidReceiveTapEvent
  | .playFinish => .rewardedVideoAdDidPlayFinish none

inductive Ending where
  | disappeared
  | failed (error : NSError)
deriving DecidableEq, Repr

def Ending.events : Ending → List Message
  | .disappeared => [.rewardedVideoWillDisappear, .rewardedVideoDidDisappear]
  | .failed error => [.rewardedVideoDidFailToPlay error]

structure Session where
  moments : List Moment
  ending : Ending

/-- What follows `rewardedVideoDidAppear` in a session. -/
def Session.rest (session : Session) : List Message :=
  session.moments.map Moment.event ++ session.ending.events

def Session.events (session : Session) : List Message :=
  .rewardedVideoWillAppear :: .rewardedVideoDidAppear :: session.rest

inductive Phase where
  | idle
  | visible (ad : Nat)
  | exposed (ad : Nat)
deriving DecidableEq, Repr

def Phase.admits (ad : Nat) : Phase → Bool
  | .idle => true
  | .visible shown => ad == shown
  | .exposed shown => ad == shown

def Phase.advance (ad : Nat) : Phase → CustomEvent.Callback → Option Phase
  | .idle, .willVisible => some (.visible ad)
  | .visible _, .didExposed => some (.exposed ad)
  | .exposed _, .didClicked => some (.exposed ad)
  | .exposed _, .didRewardEffective => some (.exposed ad)
  | .exposed _, .didPlayFinish => some (.exposed ad)
  | .exposed _, .didClose => some .idle
  | .exposed _, .didFailWithError _ => some .idle
  | _, _ => none

def CustomEvent.Callback.isLoad : CustomEvent.Callback → Bool
  | .didLoad => true
  | .videoDidLoad => true
  | _ => false

/-- GDT's callbacks: one presented ad after another, and load callbacks of any
ad in between. -/
def lifecycle : Monitor Phase (Nat × CustomEvent.Callback) := fun phase report =>
  if report.2.isLoad then some phase
  else if phase.admits report.1 then phase.advance report.1 report.2
  else none

/-- The word can still be completed to whole sessions when the part of the open
session that lies before it has been read. -/
def Completable (word : List Message) : Phase → Prop
  | .idle => ∃ sessions : List Session, word <+: sessions.flatMap Session.events
  | .visible _ => ∃ (session : Session) (sessions : List Session),
      word <+: .rewardedVideoDidAppear :: (session.rest ++ sessions.flatMap Session.events)
  | .exposed _ => ∃ (session : Session) (sessions : List Session),
      word <+: session.rest ++ sessions.flatMap Session.events

theorem completable_nil (phase : Phase) : Completable [] phase := by
  have session : Session := ⟨[], .disappeared⟩
  cases phase with
  | idle => exact ⟨[], List.nil_prefix⟩
  | visible ad => exact ⟨session, [], List.nil_prefix⟩
  | exposed ad => exact ⟨session, [], List.nil_prefix⟩

theorem Completable.willVisible {word : List Message} {ad : Nat}
    (completable : Completable word (.visible ad)) :
    Completable (.rewardedVideoWillAppear :: word) .idle := by
  obtain ⟨session, sessions, completed⟩ := completable
  exact ⟨session :: sessions, List.cons_prefix_cons.mpr ⟨rfl, completed⟩⟩

theorem Completable.didExposed {word : List Message} {ad : Nat}
    (completable : Completable word (.exposed ad)) :
    Completable (.rewardedVideoDidAppear :: word) (.visible ad) := by
  obtain ⟨session, sessions, completed⟩ := completable
  exact ⟨session, sessions, List.cons_prefix_cons.mpr ⟨rfl, completed⟩⟩

theorem Completable.moment {word : List Message} {ad : Nat} (moment : Moment)
    (completable : Completable word (.exposed ad)) :
    Completable (moment.event :: word) (.exposed ad) := by
  obtain ⟨session, sessions, completed⟩ := completable
  exact ⟨⟨moment :: session.moments, session.ending⟩, sessions,
    List.cons_prefix_cons.mpr ⟨rfl, completed⟩⟩

theorem Completable.ending {word : List Message} {ad : Nat} (ending : Ending)
    (completable : Completable word .idle) :
    Completable (ending.events ++ word) (.exposed ad) := by
  obtain ⟨sessions, completed⟩ := completable
  exact ⟨⟨[], ending⟩, sessions, (List.prefix_append_right_inj _).mpr completed⟩

theorem Completable.advanced {phase later : Phase} {ad : Nat} {callback : CustomEvent.Callback}
    {word : List Message} (moves : phase.advance ad callback = some later)
    (completable : Completable word later) : Completable (callback.reports ++ word) phase := by
  cases phase with
  | idle =>
      cases callback with
      | willVisible =>
          cases moves
          exact completable.willVisible
      | _ => cases moves
  | visible shown =>
      cases callback with
      | didExposed =>
          cases moves
          exact completable.didExposed
      | _ => cases moves
  | exposed shown =>
      cases callback with
      | didClicked =>
          cases moves
          exact completable.moment .tap
      | didPlayFinish =>
          cases moves
          exact completable.moment .playFinish
      | didRewardEffective =>
          cases moves
          exact completable
      | didClose =>
          cases moves
          exact completable.ending .disappeared
      | didFailWithError error =>
          cases moves
          exact completable.ending (.failed error)
      | _ => cases moves

theorem Completable.before {phase later : Phase} {report : Nat × CustomEvent.Callback}
    {word : List Message} (moves : lifecycle phase report = some later)
    (completable : Completable word later) : Completable (report.2.reports ++ word) phase := by
  obtain ⟨ad, callback⟩ := report
  unfold lifecycle at moves
  cases load : callback.isLoad with
  | true =>
      rw [if_pos load] at moves
      cases moves
      cases callback with
      | didLoad => exact completable
      | videoDidLoad => exact completable
      | _ => cases load
  | false =>
      rw [if_neg (by simp [load])] at moves
      obtain ⟨-, moves⟩ := Option.ite_none_right_eq_some.mp moves
      exact completable.advanced moves

theorem completable_reported {phase : Phase} {callbacks : List (Nat × CustomEvent.Callback)}
    (ordered : lifecycle.Accepts phase callbacks) : Completable (reported callbacks) phase := by
  induction callbacks generalizing phase with
  | nil => exact completable_nil phase
  | cons report rest ih =>
      rw [Monitor.Accepts, Monitor.run_cons] at ordered
      cases moves : lifecycle phase report with
      | none => simp [moves] at ordered
      | some later =>
          rw [moves, Option.bind_some] at ordered
          exact (ih ordered).before moves

namespace Delivery

def owed (before : Delivery) : List Message :=
  (before.pending.map Prod.snd).filter Message.isPresentation

end Delivery

theorem presentation_script (reading : Reading) (event : CustomEvent)
    (callback : CustomEvent.Callback) :
    ((event.script reading callback).map Prod.snd).filter Message.isPresentation =
      callback.reports := by
  cases callback with
  | videoDidLoad =>
      simp only [CustomEvent.script]
      split <;> rfl
  | _ => rfl

namespace Delivery

theorem presentationEvents_append (first second : CustomEvent.Effects) :
    presentationEvents (first ++ second) = presentationEvents first ++ presentationEvents second := by
  simp only [presentationEvents, messages_append, List.filter_append]

theorem presentationEvents_send {delegate : Delegate Selector} {message : Message}
    (other : message.isPresentation = false) : presentationEvents (delegate.send message) = [] := by
  rw [presentationEvents, Delegate.messages_send]
  split <;> simp [other]

variable {before : Delivery} {input : Delivery.Input}

/-- No step brings the delegate back, and only `vanish` takes it away. -/
theorem step_delegate :
    (deliveryMachine.next before input).owner.event.delegate = before.owner.event.delegate ∨
      (deliveryMachine.next before input).owner.event.delegate = none := by
  cases input with
  | request info =>
      left
      simp only [Machine.next, deliveryMachine, step, host, Instance.step,
        CustomEvent.requestRewardedVideo]
      split <;> rfl
  | present reading viewController => exact .inl CustomEvent.presentRewardedVideo_delegate
  | handleAdPlayed reading =>
      exact .inl (congrArg (fun answer => answer.1.delegate) CustomEvent.handleAdPlayed_eq)
  | callback reading ad callback => exact .inl (CustomEvent.entered_delegate _ _)
  | deliver =>
      left
      simp only [Machine.next, deliveryMachine, step]
      split <;> rfl
  | vanish => exact .inr rfl

theorem request_events (info : Info) : presentationEvents (before.host (.request info)).2 = [] := by
  simp only [host, Instance.step, CustomEvent.requestRewardedVideo]
  split
  · exact presentationEvents_send rfl
  · rfl

theorem present_events {reading : Reading} (viewController : Option UIViewController)
    (valid : before.owner.event.isAdValid reading = true) :
    presentationEvents (before.host (.present reading viewController)).2 = [] := by
  obtain ⟨ad, -, effects⟩ := CustomEvent.presentRewardedVideo_of_valid viewController valid
  simp only [host, Instance.step, effects]
  rfl

theorem handleAdPlayed_events (reading : Reading) :
    presentationEvents (before.host (.handleAdPlayed reading)).2 = [] := by
  simp only [host, Instance.step, CustomEvent.handleAdPlayed_eq]
  split
  · rfl
  · exact presentationEvents_send rfl

theorem emit_of_gone (runs : deliveryMachine.enabled before input)
    (gone : before.owner.event.delegate = none) :
    presentationEvents (deliveryMachine.emit before input) = [] := by
  cases input with
  | request info => exact request_events info
  | present reading viewController => exact present_events viewController runs
  | handleAdPlayed reading => exact handleAdPlayed_events reading
  | callback reading ad callback => rfl
  | deliver =>
      simp only [Machine.emit, deliveryMachine, step]
      split
      · rfl
      · rw [gone]
        rfl
  | vanish => rfl

/-- A step moves events from GDT's report to what is owed and from there to the
delegate, and loses none. -/
theorem emit_balanced (runs : deliveryMachine.enabled before input)
    (there : before.owner.event.delegate = some fun _ => true) :
    presentationEvents (deliveryMachine.emit before input) ++
        (deliveryMachine.next before input).owed =
      before.owed ++ reported input.callback?.toList := by
  cases input with
  | request info =>
      exact (congrArg (· ++ before.owed) (request_events info)).trans (List.append_nil _).symm
  | present reading viewController =>
      exact (congrArg (· ++ before.owed) (present_events viewController runs)).trans
        (List.append_nil _).symm
  | handleAdPlayed reading =>
      exact (congrArg (· ++ before.owed) (handleAdPlayed_events reading)).trans
        (List.append_nil _).symm
  | callback reading ad callback =>
      have idle : before.owed = [] := by simp [owed, runs.1]
      rw [idle]
      refine (presentation_script reading before.owner.event callback).trans ?_
      exact (List.append_nil _).symm
  | deliver =>
      simp only [Machine.emit, Machine.next, deliveryMachine, step]
      cases pending : before.pending with
      | nil => exact (List.append_nil _).symm
      | cons entry rest =>
          have sent : presentationEvents (before.owner.event.delegate.notify entry.1 entry.2) =
              [entry.2].filter Message.isPresentation := by
            rw [there]
            rfl
          simp only [sent, owed, pending, ← List.filter_append, List.map_cons]
          exact (List.append_nil _).symm
  | vanish => exact (List.append_nil _).symm

theorem trace_of_gone {inputs : List Delivery.Input} (runs : deliveryMachine.Runs before inputs)
    (gone : before.owner.event.delegate = none) :
    presentationEvents (deliveryMachine.trace before inputs) = [] ∧
      (deliveryMachine.after before inputs).owner.event.delegate = none := by
  induction inputs generalizing before with
  | nil => exact ⟨rfl, gone⟩
  | cons input rest ih =>
      have stillGone : (deliveryMachine.next before input).owner.event.delegate = none := by
        rcases @step_delegate before input with same | lost
        · rw [same, gone]
        · exact lost
      have later := ih runs.2 stillGone
      rw [Machine.trace_cons, presentationEvents_append, emit_of_gone runs.1 gone, later.1]
      exact ⟨rfl, later.2⟩

theorem reported_append (first second : List (Nat × CustomEvent.Callback)) :
    reported (first ++ second) = reported first ++ reported second :=
  List.flatMap_append

/-- What has been received is a part of what GDT reported, and all of it as long
as the delegate is there. -/
theorem received_prefix {inputs : List Delivery.Input} (runs : deliveryMachine.Runs before inputs)
    (there : before.owner.event.delegate = some fun _ => true) :
    presentationEvents (deliveryMachine.trace before inputs) <+:
        before.owed ++ reported (inputs.filterMap Input.callback?) ∧
      ((deliveryMachine.after before inputs).owner.event.delegate.isSome = true →
        presentationEvents (deliveryMachine.trace before inputs) ++
            (deliveryMachine.after before inputs).owed =
          before.owed ++ reported (inputs.filterMap Input.callback?)) := by
  induction inputs generalizing before with
  | nil => exact ⟨List.nil_prefix, fun _ => (List.append_nil _).symm⟩
  | cons input rest ih =>
      have split : before.owed ++ reported ((input :: rest).filterMap Input.callback?) =
          presentationEvents (deliveryMachine.emit before input) ++
            ((deliveryMachine.next before input).owed ++ reported (rest.filterMap Input.callback?)) := by
        rw [← List.append_assoc, emit_balanced runs.1 there, List.append_assoc, ← reported_append,
          List.filterMap_cons]
        cases input.callback? <;> rfl
      rw [split, Machine.trace_cons, presentationEvents_append, Machine.after_cons]
      rcases @step_delegate before input with same | lost
      · obtain ⟨shorter, whole⟩ := ih runs.2 (same.trans there)
        refine ⟨(List.prefix_append_right_inj _).mpr shorter, ?_⟩
        intro set
        rw [List.append_assoc, whole set]
      · obtain ⟨silent, gone⟩ := trace_of_gone runs.2 lost
        rw [silent, gone]
        exact ⟨(List.prefix_append_right_inj _).mpr List.nil_prefix, nofun⟩

end Delivery

/-- `event` is a custom event in any state, with a delegate that implements
every event it sends. -/
theorem received_sessions (event : CustomEvent) (fresh : Nat) (presented : List Nat)
    (inputs : List Delivery.Input) :
    let event : CustomEvent := { event with delegate := some fun _ => true }
    let start : Delivery := { owner := { event, fresh, presented } }
    let callbacks := inputs.filterMap Delivery.Input.callback?
    let received := presentationEvents (deliveryMachine.trace start inputs)
    let later := deliveryMachine.after start inputs
    deliveryMachine.Runs start inputs → lifecycle.Accepts .idle callbacks →
      received <+: reported callbacks ∧
      (later.owner.event.delegate.isSome = true → received ++ later.owed = reported callbacks) ∧
      ∃ sessions : List Session, received <+: sessions.flatMap Session.events := by
  intro event start callbacks received later runs ordered
  obtain ⟨shorter, whole⟩ := Delivery.received_prefix runs rfl
  obtain ⟨sessions, completed⟩ := completable_reported ordered
  exact ⟨shorter, whole, sessions, shorter.trans completed⟩

/-- Of two sessions the second one is cut off: the delegate goes away between the two
messages of `didClose`. -/
def vanishesWhileClosing : List Delivery.Input :=
  let reading : Reading := { now := 0, isAdValid := fun _ => true, expiredTimestamp := fun _ => 9 }
  [.request { adunit := some "8020" }, .present reading (some 1),
    .callback reading 0 .willVisible, .deliver, .callback reading 0 .didExposed, .deliver,
    .callback reading 0 .didLoad, .deliver, .callback reading 0 .didClicked, .deliver,
    .callback reading 0 .didClose, .deliver, .deliver,
    .request { adunit := some "8020" }, .present reading (some 1),
    .callback reading 1 .willVisible, .deliver, .callback reading 1 .didExposed, .deliver,
    .callback reading 1 .didClose, .deliver, .vanish, .deliver]

theorem vanishesWhileClosing_sessions :
    let start : Delivery := { owner := { event := { delegate := some fun _ => true } } }
    presentationEvents (deliveryMachine.trace start vanishesWhileClosing) =
        [.rewardedVideoWillAppear, .rewardedVideoDidAppear, .rewardedVideoDidReceiveTapEvent,
          .rewardedVideoWillDisappear, .rewardedVideoDidDisappear, .rewardedVideoWillAppear,
          .rewardedVideoDidAppear, .rewardedVideoWillDisappear] ∧
      ∃ sessions : List Session,
        presentationEvents (deliveryMachine.trace start vanishesWhileClosing) <+:
          sessions.flatMap Session.events := by
  refine ⟨rfl, ?_⟩
  refine (received_sessions { delegate := none } 0 [] vanishesWhileClosing ?_ rfl).2.2
  refine ⟨trivial, rfl, ⟨rfl, Nat.one_pos⟩, trivial, ⟨rfl, Nat.one_pos⟩, trivial, ⟨rfl, Nat.one_pos⟩,
    trivial, ⟨rfl, Nat.one_pos⟩, trivial, ⟨rfl, Nat.one_pos⟩, trivial, trivial, trivial, rfl,
    ⟨rfl, Nat.one_lt_two⟩, trivial, ⟨rfl, Nat.one_lt_two⟩, trivial, ⟨rfl, Nat.one_lt_two⟩, trivial,
    trivial, trivial, trivial⟩

end GDTAdapter.RewardedVideo
