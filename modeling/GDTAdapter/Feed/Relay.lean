import GDTAdapter.Feed.CustomEvent

namespace GDTAdapter.Feed

open Reactive

/-! # Relaying the callbacks of the feed

Each callback of GDT's protocol has a counterpart of the same name in the host's.
A callback is relayed if GDT finds the method, the method has a body, and the body
asks the delegate for the selector that it then sends.
-/

/-- What a message or a callback carries; an array is read by its contents. -/
inductive Payload where
  | views (views : Option (List Nat))
  | error (error : NSError)
  | view (view : Nat)
  | status (view : Nat) (status : GDTMediaPlayerStatus)
  | nothing
deriving DecidableEq, Repr

def Message.read : Message → Selector × Payload
  | .nativeExpressAdSuccessToLoad views =>
      (.nativeExpressAdSuccessToLoad, .views (views.map NSMutableArray.contents))
  | .nativeExpressAdFailToLoad error => (.nativeExpressAdFailToLoad, .error error)
  | .nativeExpressAdViewRenderSuccess view => (.nativeExpressAdViewRenderSuccess, .view view)
  | .nativeExpressAdViewRenderFail view => (.nativeExpressAdViewRenderFail, .view view)
  | .nativeExpressAdViewExposure view => (.nativeExpressAdViewExposure, .view view)
  | .nativeExpressAdViewClicked view => (.nativeExpressAdViewClicked, .view view)
  | .nativeExpressAdViewClosed view => (.nativeExpressAdViewClosed, .view view)
  | .nativeExpressAdDidExpire => (.nativeExpressAdDidExpire, .nothing)
  | .nativeExpressAdViewWillPresentScreen view =>
      (.nativeExpressAdViewWillPresentScreen, .view view)
  | .nativeExpressAdViewDidPresentScreen view =>
      (.nativeExpressAdViewDidPresentScreen, .view view)
  | .nativeExpressAdViewWillDissmissScreen view =>
      (.nativeExpressAdViewWillDissmissScreen, .view view)
  | .nativeExpressAdViewDidDissmissScreen view =>
      (.nativeExpressAdViewDidDissmissScreen, .view view)
  | .nativeExpressAdViewApplicationWillEnterBackground view =>
      (.nativeExpressAdViewApplicationWillEnterBackground, .view view)
  | .nativeExpressAdViewPlayerStatusChanged view status =>
      (.nativeExpressAdViewPlayerStatusChanged, .status view status)
  | .nativeExpressAdViewWillPresentVideoVC view =>
      (.nativeExpressAdViewWillPresentVideoVC, .view view)
  | .nativeExpressAdViewDidPresentVideoVC view =>
      (.nativeExpressAdViewDidPresentVideoVC, .view view)
  | .nativeExpressAdViewWillDismissVideoVC view =>
      (.nativeExpressAdViewWillDismissVideoVC, .view view)
  | .nativeExpressAdViewDidDismissVideoVC view =>
      (.nativeExpressAdViewDidDismissVideoVC, .view view)

namespace CustomEvent

/-- The counterpart in the host's protocol, with the same argument. -/
def Callback.read : Callback → Selector × Payload
  | successToLoad _ views => (.nativeExpressAdSuccessToLoad, .views (some views))
  | failToLoad _ error => (.nativeExpressAdFailToLoad, .error error)
  | renderSuccess view => (.nativeExpressAdViewRenderSuccess, .view view)
  | renderFail view => (.nativeExpressAdViewRenderFail, .view view)
  | exposure view => (.nativeExpressAdViewExposure, .view view)
  | clicked view => (.nativeExpressAdViewClicked, .view view)
  | closed view => (.nativeExpressAdViewClosed, .view view)
  | willPresentScreen view => (.nativeExpressAdViewWillPresentScreen, .view view)
  | didPresentScreen view => (.nativeExpressAdViewDidPresentScreen, .view view)
  | willDissmissScreen view => (.nativeExpressAdViewWillDissmissScreen, .view view)
  | didDissmissScreen view => (.nativeExpressAdViewDidDissmissScreen, .view view)
  | applicationWillEnterBackground view =>
      (.nativeExpressAdViewApplicationWillEnterBackground, .view view)
  | playerStatusChanged view status =>
      (.nativeExpressAdViewPlayerStatusChanged, .status view status)
  | willPresentVideoVC view => (.nativeExpressAdViewWillPresentVideoVC, .view view)
  | didPresentVideoVC view => (.nativeExpressAdViewDidPresentVideoVC, .view view)
  | willDismissVideoVC view => (.nativeExpressAdViewWillDismissVideoVC, .view view)
  | didDismissVideoVC view => (.nativeExpressAdViewDidDismissVideoVC, .view view)

/-- The delegate's answers under which a callback is relayed as it should be. -/
def Relayable (delegate : Delegate Selector) : Callback → Prop
  | .failToLoad .. =>
      delegate.responds .nativeExpressAdSuccessToLoad = delegate.responds .nativeExpressAdFailToLoad
  | .renderFail _ => delegate.responds .nativeExpressAdViewRenderFail = false
  | .willDissmissScreen _ => delegate.responds .nativeExpressAdViewWillDissmissScreen = false
  | .didDissmissScreen _ => delegate.responds .nativeExpressAdViewDidDissmissScreen = false
  | .didPresentVideoVC _ => delegate.responds .nativeExpressAdViewDidPresentVideoVC = false
  | _ => True

def gate (delegate : Delegate Selector) : Callback → Bool
  | .failToLoad .. => delegate.responds .nativeExpressAdSuccessToLoad
  | .renderFail _ | .willDissmissScreen _ | .didDissmissScreen _ | .didPresentVideoVC _ => false
  | callback => delegate.responds callback.read.1

theorem relayable_iff (delegate : Delegate Selector) (callback : Callback) :
    Relayable delegate callback ↔ gate delegate callback = delegate.responds callback.read.1 := by
  cases callback with
  | failToLoad => exact Iff.rfl
  | renderFail | willDissmissScreen | didDissmissScreen | didPresentVideoVC => exact eq_comm
  | successToLoad | renderSuccess | exposure | clicked | closed => exact iff_of_true trivial rfl
  | willPresentScreen | didPresentScreen => exact iff_of_true trivial rfl
  | applicationWillEnterBackground | playerStatusChanged => exact iff_of_true trivial rfl
  | willPresentVideoVC | willDismissVideoVC | didDismissVideoVC => exact iff_of_true trivial rfl

theorem read_notify (delegate : Delegate Selector) (guard : Selector) (message : Message) :
    (messages (delegate.notify guard message : Effects)).map Message.read =
      if delegate.responds guard then [message.read] else [] := by
  rw [Delegate.messages_notify]
  split <;> rfl

theorem receive_missing {application : UIApplication} {self : CustomEvent} {callback : Callback}
    (missing : callback.selector ∉ implementedSelectors) :
    self.receive application callback = (self, []) :=
  if_neg missing

theorem receive_found {application : UIApplication} {self : CustomEvent} {callback : Callback}
    (found : callback.selector ∈ implementedSelectors) :
    self.receive application callback = self.invoke application callback :=
  if_pos found

theorem messages_render (application : UIApplication) (views : List Nat) :
    messages (views.flatMap fun view =>
      ([.call (.setController view application.topVC), .call (.render view)] : Effects)) = [] := by
  induction views with
  | nil => rfl
  | cons view views ih => simpa using ih

/-- The method GDT calls sends the counterpart if the gate is open, and nothing else. -/
theorem receive_read (application : UIApplication) (self : CustomEvent) (callback : Callback)
    (array : self.expressAdViews.isSome = true ∨ ∀ ad views, callback ≠ .successToLoad ad views) :
    (messages (self.receive application callback).2).map Message.read =
      if gate self.delegate callback then [callback.read] else [] := by
  cases callback with
  | renderFail | willDissmissScreen | didDissmissScreen =>
      rw [receive_missing (by simp [Callback.selector, implementedSelectors])]
      rfl
  | didPresentVideoVC =>
      rw [receive_found (by simp [Callback.selector, implementedSelectors])]
      rfl
  | successToLoad ad views =>
      obtain ⟨array, held⟩ : ∃ array, self.expressAdViews = some array := by
        rcases array with held | other
        · exact Option.isSome_iff_exists.mp held
        · exact absurd rfl (other ad views)
      rw [receive_found (by simp [Callback.selector, implementedSelectors])]
      simp only [invoke, nativeExpressAdSuccessToLoad, messages_append, messages_render,
        List.nil_append, read_notify, held]
      rfl
  | failToLoad | renderSuccess | exposure | clicked | closed | willPresentScreen | didPresentScreen =>
      rw [receive_found (by simp [Callback.selector, implementedSelectors])]
      exact read_notify _ _ _
  | applicationWillEnterBackground | playerStatusChanged =>
      rw [receive_found (by simp [Callback.selector, implementedSelectors])]
      exact read_notify _ _ _
  | willPresentVideoVC | willDismissVideoVC | didDismissVideoVC =>
      rw [receive_found (by simp [Callback.selector, implementedSelectors])]
      exact read_notify _ _ _

theorem receive_delegate (application : UIApplication) (self : CustomEvent) (callback : Callback) :
    (self.receive application callback).1.delegate = self.delegate := by
  unfold receive
  split
  · cases callback <;> rfl
  · rfl

theorem receive_array (application : UIApplication) (self : CustomEvent) (callback : Callback) :
    (self.receive application callback).1.expressAdViews.isSome = self.expressAdViews.isSome := by
  unfold receive
  split
  · cases callback with
    | successToLoad ad views => exact Option.isSome_map
    | _ => rfl
  · rfl

end CustomEvent

/-- A callback with the state of the application while its method runs. -/
abbrev Arrival := UIApplication × CustomEvent.Callback

def Arrival.input (arrival : Arrival) : Input := .callback arrival.1 arrival.2

namespace Instance

/-- The delegate receives the counterparts of the callbacks, as far as it
implements them: the same ones, in the same order, with the same arguments. -/
def Relays (self : Instance) (arrivals : List Arrival) : Prop :=
  (messages (machine.trace self (arrivals.map Arrival.input))).map Message.read =
    (arrivals.filter fun arrival => self.event.delegate.responds arrival.2.read.1).map
      fun arrival => arrival.2.read

def ArrayHeld (self : Instance) : Prop :=
  0 < self.fresh → self.event.expressAdViews.isSome = true

variable {self : Instance}

theorem event_observe (callback : CustomEvent.Callback) : (self.observe callback).event = self.event := by
  cases callback <;> rfl

theorem fresh_observe (callback : CustomEvent.Callback) : (self.observe callback).fresh = self.fresh := by
  cases callback <;> rfl

theorem event_next_callback (application : UIApplication) (callback : CustomEvent.Callback) :
    (machine.next self (.callback application callback)).event =
      (self.event.receive application callback).1 :=
  event_observe callback

theorem ArrayHeld.step (held : self.ArrayHeld) (input : Input) :
    (machine.next self input).ArrayHeld := by
  cases input with
  | request info =>
      cases accepted : info.adunit with
      | none => simpa [Machine.next, machine, Instance.step, CustomEvent.requestFeed, accepted] using held
      | some adUnitId =>
          simp [ArrayHeld, Machine.next, machine, Instance.step, CustomEvent.requestFeed, accepted]
  | handleAdPlayed => exact held
  | callback application callback =>
      have sameFresh : (machine.next self (.callback application callback)).fresh = self.fresh :=
        fresh_observe callback
      rw [ArrayHeld, sameFresh, event_next_callback, CustomEvent.receive_array]
      exact held
  | setDelegate delegate => exact held

theorem arrayHeld_after {delegate : Delegate Selector} {history : List Input}
    (runs : machine.Runs { event := { delegate } } history) :
    (machine.after { event := { delegate } } history).ArrayHeld := by
  have always : machine.Always ArrayHeld { event := { delegate } } history :=
    Machine.always_of_invariant (fun _ input held _ _ => held.step input)
      (fun created => absurd created (Nat.lt_irrefl 0)) runs runs
  exact always history [] (List.append_nil history).symm

theorem read_emit (held : self.ArrayHeld) {arrival : Arrival} (enabled : self.enabled arrival.input) :
    (messages (machine.emit self arrival.input)).map Message.read =
      if CustomEvent.gate self.event.delegate arrival.2 then [arrival.2.read] else [] := by
  obtain ⟨application, callback⟩ := arrival
  apply CustomEvent.receive_read application self.event callback
  cases callback with
  | successToLoad ad views => exact .inl (held (Nat.zero_lt_of_lt enabled))
  | _ => exact .inr (fun _ _ same => nomatch same)

theorem read_trace (held : self.ArrayHeld) {arrivals : List Arrival}
    (runs : machine.Runs self (arrivals.map Arrival.input)) :
    (messages (machine.trace self (arrivals.map Arrival.input))).map Message.read =
      (arrivals.filter fun arrival => CustomEvent.gate self.event.delegate arrival.2).map
        fun arrival => arrival.2.read := by
  induction arrivals generalizing self with
  | nil => rfl
  | cons arrival arrivals ih =>
      have sameDelegate : (machine.next self arrival.input).event.delegate = self.event.delegate := by
        rw [Arrival.input, event_next_callback, CustomEvent.receive_delegate]
      have later := ih (held.step arrival.input) runs.2
      rw [sameDelegate] at later
      rw [List.map_cons, Machine.trace_cons, messages_append, List.map_append, later,
        read_emit held runs.1]
      cases opened : CustomEvent.gate self.event.delegate arrival.2 <;> simp [opened]

end Instance

/-- In any state GDT can call back on, a sequence of callbacks is relayed just if
each of them meets answers of the delegate under which its method is right. -/
theorem relays_iff (delegate : Delegate Selector) (history : List Input) (arrivals : List Arrival)
    (runs : machine.Runs { event := { delegate } } (history ++ arrivals.map Arrival.input)) :
    (machine.after { event := { delegate } } history).Relays arrivals ↔
      ∀ arrival ∈ arrivals, CustomEvent.Relayable
        (machine.after { event := { delegate } } history).event.delegate arrival.2 := by
  obtain ⟨before, later⟩ := Machine.along_append.mp runs
  rw [Instance.Relays, Instance.read_trace (Instance.arrayHeld_after before) later]
  generalize (machine.after { event := { delegate } } history).event.delegate = current
  have agree := @filter_map_eq_iff Arrival (Selector × Payload)
    (fun arrival => CustomEvent.gate current arrival.2) (fun read => current.responds read.1)
    (fun arrival => arrival.2.read) arrivals
  rw [agree]
  exact forall₂_congr fun arrival _ => (CustomEvent.relayable_iff current arrival.2).symm

section Runs

def quietApplication : UIApplication where
  keyWindow := some 0
  windows := [0]
  rootViewController := fun _ => some 1
  delegateWindow := none
  presentedViewController := fun _ => none
  finite := ⟨fun _ => ⟨_, fun _ presents => nomatch presents⟩⟩

def feedRequest : Input := .request { adunit := some "8020", width := some 320, count := some 2 }

def shownAndClicked : List Arrival :=
  [(quietApplication, .successToLoad 0 [3, 4]), (quietApplication, .renderSuccess 3),
    (quietApplication, .exposure 3), (quietApplication, .clicked 3)]

theorem shownAndClicked_relayed :
    machine.Runs { event := { delegate := some fun _ => true } }
        ([feedRequest] ++ shownAndClicked.map Arrival.input) ∧
      (machine.after { event := { delegate := some fun _ => true } } [feedRequest]).Relays
        shownAndClicked := by
  have runs : machine.Runs { event := { delegate := some fun _ => true } }
      ([feedRequest] ++ shownAndClicked.map Arrival.input) :=
    ⟨trivial, (by decide : 0 < 1), trivial, trivial, trivial, trivial⟩
  refine ⟨runs, (relays_iff _ _ _ runs).mpr ?_⟩
  intro arrival member
  simp only [shownAndClicked, List.mem_cons, List.not_mem_nil, or_false] at member
  rcases member with rfl | rfl | rfl | rfl <;> trivial

theorem renderFail_not_relayed :
    machine.Runs { event := { delegate := some fun _ => true } }
        [feedRequest, .callback quietApplication (.renderFail 3)] ∧
      ¬ (machine.after { event := { delegate := some fun _ => true } } [feedRequest]).Relays
        [(quietApplication, .renderFail 3)] := by
  refine ⟨⟨trivial, trivial, trivial⟩, fun relays => ?_⟩
  have lengths := congrArg List.length relays
  exact absurd lengths (by decide)

end Runs

end GDTAdapter.Feed
