import GDTAdapter.Feed.Relay
import GDTAdapter.Reactive.Observer

namespace GDTAdapter.Feed

open Reactive

/-! # Batches of views

A successful load sets the controller of every view and renders it before the
delegate is told.  GDT may report the result of a render inside `render`, and the
array the delegate then receives is the one that the next batch is put into.
-/

inductive RenderResult where
  | success
  | failure
deriving DecidableEq, Repr

def RenderResult.callback (view : Nat) : RenderResult → CustomEvent.Callback
  | .success => .renderSuccess view
  | .failure => .renderFail view

/-- The views of a load, each with the result that its `render` reports before it
returns, if it does. -/
abbrev Batch := List (Nat × Option RenderResult)

def Batch.views (batch : Batch) : List Nat := batch.map Prod.fst

namespace CustomEvent

def refill (views : List Nat) (event : CustomEvent) : CustomEvent :=
  { event with
    expressAdViews := event.expressAdViews.map fun array => { array with contents := views } }

def renderView (application : UIApplication) (event : CustomEvent) (entry : Nat × Option RenderResult) :
    Effects :=
  [.call (.setController entry.1 application.topVC), .call (.render entry.1)] ++
    entry.2.elim [] (fun result => (event.receive application (result.callback entry.1)).2)

def successRendering (application : UIApplication) (batch : Batch) (event : CustomEvent) :
    CustomEvent × Effects :=
  let event := event.refill batch.views
  (event, batch.flatMap (event.renderView application) ++
    event.delegate.notify .nativeExpressAdSuccessToLoad
      (.nativeExpressAdSuccessToLoad event.expressAdViews))

/-- When no render answers at once this is the callback as it was. -/
theorem nativeExpressAdSuccessToLoad_eq (application : UIApplication) (views : List Nat)
    (event : CustomEvent) :
    event.nativeExpressAdSuccessToLoad application views =
      event.successRendering application (views.map fun view => (view, none)) := by
  have sameViews : Batch.views (views.map fun view => (view, none)) = views := by
    simp [Batch.views, Function.comp_def]
  simp only [nativeExpressAdSuccessToLoad, successRendering, sameViews, List.flatMap_map]
  rfl

end CustomEvent

inductive RenderInput where
  | plain (input : Input)
  | success (application : UIApplication) (ad : Nat) (batch : Batch)

def RenderInput.batch? : RenderInput → Option (UIApplication × Batch)
  | .plain (.callback application (.successToLoad _ views)) =>
      some (application, views.map fun view => (view, none))
  | .plain _ => none
  | .success application _ batch => some (application, batch)

namespace Instance

def stepRendering (before : Instance) : RenderInput → Instance × CustomEvent.Effects
  | .plain input => before.step input
  | .success application ad batch =>
      let (event, effects) := before.event.successRendering application batch
      ({ before with event }.observe (.successToLoad ad batch.views), effects)

def enabledRendering (before : Instance) : RenderInput → Prop
  | .plain input => before.enabled input
  | .success _ ad _ => ad < before.fresh

end Instance

def renderingMachine : Machine Instance RenderInput (Effect Call Message) where
  enabled := Instance.enabledRendering
  step := Instance.stepRendering

def Message.array? : Message → Option NSMutableArray
  | .nativeExpressAdSuccessToLoad views => views
  | _ => none

def Message.success? : Message → Option (Option (List Nat))
  | .nativeExpressAdSuccessToLoad views => some (views.map NSMutableArray.contents)
  | _ => none

def Message.isViewEvent : Message → Bool
  | .nativeExpressAdViewRenderSuccess _ => true
  | .nativeExpressAdViewExposure _ => true
  | .nativeExpressAdViewClicked _ => true
  | .nativeExpressAdViewClosed _ => true
  | _ => false

/-- What every array holds at the moment, and what the arrays held that the
delegate has received, when it received them. -/
structure Shared where
  heap : Nat → List Nat := fun _ => []
  handed : List NSMutableArray := []

def recordShared (before : Instance) (shared : Shared) (input : RenderInput) : Shared where
  heap := (renderingMachine.next before input).event.expressAdViews.elim shared.heap
    fun array => Function.update shared.heap array.ref array.contents
  handed := (messages (renderingMachine.emit before input)).filterMap Message.array? ++ shared.handed

def sharing : Machine (Instance × Shared) RenderInput (Effect Call Message) :=
  renderingMachine.observed recordShared

/-- Every array the delegate has received still holds what it held then. -/
def Kept (seen : Instance × Shared) : Prop :=
  ∀ array ∈ seen.2.handed, seen.2.heap array.ref = array.contents

/-- A batch is rendered in order and announced once, with its own views and before
any event of a view. -/
structure HandedOver (application : UIApplication) (batch : Batch) (effects : CustomEvent.Effects) :
    Prop where
  rendered : calls effects = batch.views.flatMap fun view =>
    [.setController view application.topVC, .render view]
  announced : (messages effects).filterMap Message.success? = [some batch.views]
  first : (messages effects).Pairwise fun earlier later =>
    earlier.isViewEvent = true → later.success? = none

def HandsOver (seen : Instance × Shared) (input : RenderInput) : Prop :=
  ∀ application batch, input.batch? = some (application, batch) →
    HandedOver application batch (renderingMachine.emit seen.1 input)

/-- The delegate hears of the batch, of no render before it, and the array was not
handed out before with other views. -/
structure HeardInOrder (event : CustomEvent) (handed : List NSMutableArray) (batch : Batch) : Prop where
  announced : event.delegate.responds .nativeExpressAdSuccessToLoad = true
  later : event.delegate.responds .nativeExpressAdViewRenderSuccess = true →
    ∀ entry ∈ batch, entry.2 ≠ some .success
  unshared : ∀ array ∈ handed, event.expressAdViews.map NSMutableArray.ref = some array.ref →
    array.contents = batch.views

def InOrder (seen : Instance × Shared) (input : RenderInput) : Prop :=
  ∀ application batch, input.batch? = some (application, batch) →
    HeardInOrder seen.1.event seen.2.handed batch

namespace CustomEvent

variable {application : UIApplication} {event : CustomEvent} {batch : Batch}

/-- The result of a render that the delegate hears before the batch. -/
def early (event : CustomEvent) (entry : Nat × Option RenderResult) : Option Message :=
  if event.delegate.responds .nativeExpressAdViewRenderSuccess = true ∧ entry.2 = some .success then
    some (.nativeExpressAdViewRenderSuccess entry.1)
  else none

theorem receive_result (result : RenderResult) (view : Nat) :
    calls (event.receive application (result.callback view)).2 = [] ∧
      messages (event.receive application (result.callback view)).2 =
        (event.early (view, some result)).toList := by
  cases result with
  | success =>
      have found : (RenderResult.success.callback view).selector ∈ implementedSelectors := by
        simp [RenderResult.callback, Callback.selector, implementedSelectors]
      rw [receive_found found]
      refine ⟨Delegate.calls_notify _ _, ?_⟩
      refine (Delegate.messages_notify _ _).trans ?_
      cases responds : event.delegate.responds .nativeExpressAdViewRenderSuccess <;>
        simp [early, responds]
  | failure =>
      have missing : (RenderResult.failure.callback view).selector ∉ implementedSelectors := by
        simp [RenderResult.callback, Callback.selector, implementedSelectors]
      rw [receive_missing missing]
      exact ⟨rfl, by simp [early]⟩

theorem calls_renderView (entry : Nat × Option RenderResult) :
    calls (event.renderView application entry) =
      [.setController entry.1 application.topVC, .render entry.1] := by
  obtain ⟨view, result⟩ := entry
  cases result with
  | none => rfl
  | some result =>
      rw [renderView, calls_append, Option.elim_some, (receive_result result view).1]
      rfl

theorem messages_renderView (entry : Nat × Option RenderResult) :
    messages (event.renderView application entry) = (event.early entry).toList := by
  obtain ⟨view, result⟩ := entry
  cases result with
  | none => simp [renderView, early]
  | some result =>
      rw [renderView, messages_append, Option.elim_some, (receive_result result view).2]
      rfl

theorem calls_renders :
    calls (batch.flatMap (event.renderView application)) =
      batch.views.flatMap fun view => [.setController view application.topVC, .render view] := by
  induction batch with
  | nil => rfl
  | cons entry rest ih =>
      rw [List.flatMap_cons, calls_append, calls_renderView, ih]
      rfl

theorem messages_renders :
    messages (batch.flatMap (event.renderView application)) = batch.filterMap event.early := by
  induction batch with
  | nil => rfl
  | cons entry rest ih =>
      rw [List.flatMap_cons, messages_append, messages_renderView, ih]
      cases early : event.early entry with
      | none => rw [List.filterMap_cons_none early]; rfl
      | some message => rw [List.filterMap_cons_some early]; rfl

theorem early_eq_nil_iff :
    batch.filterMap event.early = [] ↔
      (event.delegate.responds .nativeExpressAdViewRenderSuccess = true →
        ∀ entry ∈ batch, entry.2 ≠ some .success) := by
  rw [List.filterMap_eq_nil_iff]
  unfold early
  constructor
  · intro none responds entry member success
    have here := none entry member
    rw [if_pos ⟨responds, success⟩] at here
    cases here
  · intro later entry member
    exact if_neg (fun both => later both.1 entry member both.2)

theorem mem_early {message : Message} (member : message ∈ batch.filterMap event.early) :
    ∃ view, message = .nativeExpressAdViewRenderSuccess view := by
  obtain ⟨entry, -, early⟩ := List.mem_filterMap.mp member
  unfold CustomEvent.early at early
  obtain ⟨-, sent⟩ := Option.ite_none_right_eq_some.mp early
  exact ⟨entry.1, (Option.some.inj sent).symm⟩

section Success

variable {array : NSMutableArray}

/-- The array that the batch is put into and that is then handed out. -/
def filled (array : NSMutableArray) (batch : Batch) : NSMutableArray :=
  { array with contents := batch.views }

theorem successRendering_fst (held : event.expressAdViews = some array) :
    (event.successRendering application batch).1 =
      { event with expressAdViews := some (filled array batch) } := by
  simp only [successRendering, refill, held]
  rfl

theorem messages_success (held : event.expressAdViews = some array) :
    messages (event.successRendering application batch).2 =
      batch.filterMap event.early ++
        if event.delegate.responds .nativeExpressAdSuccessToLoad then
          [.nativeExpressAdSuccessToLoad (some (filled array batch))]
        else [] := by
  have refilled : event.refill batch.views = { event with expressAdViews := some (filled array batch) } := by
    simp only [refill, held]
    rfl
  simp only [successRendering, messages_append, messages_renders, Delegate.messages_notify, refilled]
  rfl

theorem calls_success :
    calls (event.successRendering application batch).2 =
      batch.views.flatMap fun view => [.setController view application.topVC, .render view] := by
  simp only [successRendering, calls_append, calls_renders, Delegate.calls_notify, List.append_nil]

theorem handedOver_iff (held : event.expressAdViews = some array) :
    HandedOver application batch (event.successRendering application batch).2 ↔
      event.delegate.responds .nativeExpressAdSuccessToLoad = true ∧
        (event.delegate.responds .nativeExpressAdViewRenderSuccess = true →
          ∀ entry ∈ batch, entry.2 ≠ some .success) := by
  have noSuccess : (batch.filterMap event.early).filterMap Message.success? = [] := by
    rw [List.filterMap_eq_nil_iff]
    intro message member
    obtain ⟨view, rfl⟩ := mem_early member
    rfl
  rw [← early_eq_nil_iff]
  cases responds : event.delegate.responds .nativeExpressAdSuccessToLoad with
  | false =>
      refine iff_of_false ?_ (fun both => nomatch both.1)
      intro handed
      have announced := handed.announced
      simp [messages_success held, responds, noSuccess] at announced
  | true =>
      rw [and_iff_right rfl]
      constructor
      · intro handed
        have first := handed.first
        rw [messages_success held, responds, if_pos rfl] at first
        have before := (List.pairwise_append.mp first).2.2
        rw [List.eq_nil_iff_forall_not_mem]
        intro message member
        have viewEvent : message.isViewEvent = true := by
          obtain ⟨view, rfl⟩ := mem_early member
          rfl
        cases before message member _ List.mem_cons_self viewEvent
      · intro quiet
        have sent : messages (event.successRendering application batch).2 =
            [.nativeExpressAdSuccessToLoad (some (filled array batch))] := by
          rw [messages_success held, responds, if_pos rfl, quiet, List.nil_append]
        refine ⟨calls_success, ?_, ?_⟩
        · rw [sent]
          rfl
        · rw [sent]
          exact List.pairwise_singleton _ _

end Success

end CustomEvent

theorem batch_step {before : Instance} {input : RenderInput} {application : UIApplication} {batch : Batch}
    (carries : input.batch? = some (application, batch)) :
    renderingMachine.emit before input = (before.event.successRendering application batch).2 ∧
      (renderingMachine.next before input).event =
        (before.event.successRendering application batch).1 ∧
      (renderingMachine.next before input).fresh = before.fresh := by
  cases input with
  | success other ad views =>
      cases carries
      exact ⟨rfl, rfl, rfl⟩
  | plain input =>
      cases input with
      | callback other callback =>
          cases callback with
          | successToLoad ad views =>
              cases carries
              have found : (CustomEvent.Callback.successToLoad ad views).selector ∈
                  CustomEvent.implementedSelectors := by
                simp [CustomEvent.Callback.selector, CustomEvent.implementedSelectors]
              have received : before.event.receive application (.successToLoad ad views) =
                  before.event.successRendering application (views.map fun view => (view, none)) := by
                rw [CustomEvent.receive_found found]
                exact CustomEvent.nativeExpressAdSuccessToLoad_eq application views before.event
              rw [← received]
              exact ⟨rfl, rfl, rfl⟩
          | _ => cases carries
      | _ => cases carries

theorem receive_other {application : UIApplication} {event : CustomEvent}
    {callback : CustomEvent.Callback} (other : ∀ ad views, callback ≠ .successToLoad ad views) :
    (event.receive application callback).1 = event ∧
      (messages (event.receive application callback).2).filterMap Message.array? = [] := by
  constructor
  · unfold CustomEvent.receive
    split
    · cases callback with
      | successToLoad ad views => exact absurd rfl (other ad views)
      | _ => rfl
    · rfl
  · rw [List.filterMap_eq_nil_iff]
    intro message member
    have read := List.mem_map_of_mem (f := Message.read) member
    rw [CustomEvent.receive_read application event callback (.inr other)] at read
    split at read
    · have same := List.mem_singleton.mp read
      cases message with
      | nativeExpressAdSuccessToLoad views =>
          cases callback with
          | successToLoad ad views => exact absurd rfl (other ad views)
          | _ => cases same
      | _ => rfl
    · cases read

/-- A step without a batch hands out no array; it leaves the current one alone, or
is an accepted request and starts a new one. -/
theorem other_step {before : Instance} {input : RenderInput} (none : input.batch? = none) :
    (messages (renderingMachine.emit before input)).filterMap Message.array? = [] ∧
      (((renderingMachine.next before input).event.expressAdViews = before.event.expressAdViews ∧
          (renderingMachine.next before input).fresh = before.fresh) ∨
        ((renderingMachine.next before input).event.expressAdViews =
            some { ref := before.fresh, contents := [] } ∧
          (renderingMachine.next before input).fresh = before.fresh + 1)) := by
  cases input with
  | success application ad batch => cases none
  | plain input =>
      cases input with
      | request info =>
          cases adunit : info.adunit with
          | none =>
              have refused : before.step (.request info) = (before,
                  before.event.delegate.send (.nativeExpressAdFailToLoad CustomEvent.invalidPosid)) := by
                simp [Instance.step, CustomEvent.requestFeed, adunit]
              have same : renderingMachine.next before (.plain (.request info)) = before :=
                congrArg Prod.fst refused
              have sent : renderingMachine.emit before (.plain (.request info)) =
                  before.event.delegate.send (.nativeExpressAdFailToLoad CustomEvent.invalidPosid) :=
                congrArg Prod.snd refused
              rw [same, sent, Delegate.messages_send]
              refine ⟨?_, .inl ⟨rfl, rfl⟩⟩
              split <;> rfl
          | some adUnitId =>
              have made : (before.event.requestFeed before.fresh info).1.expressAdViews =
                    some { ref := before.fresh, contents := [] } ∧
                  messages (before.event.requestFeed before.fresh info).2 = [] := by
                simp [CustomEvent.requestFeed, adunit]
              have counted : (renderingMachine.next before (.plain (.request info))).fresh =
                  before.fresh + 1 := by
                simp [Machine.next, renderingMachine, Instance.stepRendering, Instance.step, adunit]
              exact ⟨congrArg (List.filterMap Message.array?) made.2, .inr ⟨made.1, counted⟩⟩
      | handleAdPlayed =>
          refine ⟨?_, .inl ⟨rfl, rfl⟩⟩
          refine (congrArg (List.filterMap Message.array?) (Delegate.messages_send _)).trans ?_
          split <;> rfl
      | callback application callback =>
          have other : ∀ ad views, callback ≠ .successToLoad ad views := by
            rintro ad views rfl
            cases none
          obtain ⟨same, quiet⟩ := @receive_other application before.event callback other
          refine ⟨quiet, .inl ⟨?_, Instance.fresh_observe _⟩⟩
          refine (congrArg CustomEvent.expressAdViews (Instance.event_observe _)).trans ?_
          exact congrArg CustomEvent.expressAdViews same
      | setDelegate delegate => exact ⟨rfl, .inl ⟨rfl, rfl⟩⟩

/-- Arrays are named in the order they are made, and the heap knows the current one. -/
structure Numbered (seen : Instance × Shared) : Prop where
  current : ∀ array, seen.1.event.expressAdViews = some array →
    array.ref < seen.1.fresh ∧ seen.2.heap array.ref = array.contents
  handed : ∀ array ∈ seen.2.handed, array.ref < seen.1.fresh
  requested : 0 < seen.1.fresh → ∃ array, seen.1.event.expressAdViews = some array

/-- The record after a step that leaves `array` as the current one. -/
theorem recordShared_eq {before : Instance} {shared : Shared} {input : RenderInput}
    {array : NSMutableArray} {sent : List NSMutableArray}
    (current : (renderingMachine.next before input).event.expressAdViews = some array)
    (handed : (messages (renderingMachine.emit before input)).filterMap Message.array? = sent) :
    recordShared before shared input =
      { heap := Function.update shared.heap array.ref array.contents, handed := sent ++ shared.handed } := by
  simp only [recordShared, current, handed, Option.elim_some]

theorem recordShared_of_unchanged {before : Instance} {shared : Shared} {input : RenderInput}
    (numbered : Numbered (before, shared))
    (same : (renderingMachine.next before input).event.expressAdViews = before.event.expressAdViews)
    (quiet : (messages (renderingMachine.emit before input)).filterMap Message.array? = []) :
    recordShared before shared input = shared := by
  cases current : before.event.expressAdViews with
  | none => simp only [recordShared, same, current, quiet, Option.elim_none, List.nil_append]
  | some array =>
      rw [recordShared_eq (same.trans current) quiet]
      have held := (numbered.current array current).2
      rw [List.nil_append, ← held, Function.update_eq_self]

theorem batch_next {before : Instance} {shared : Shared} {input : RenderInput}
    {application : UIApplication} {batch : Batch} {array : NSMutableArray}
    (carries : input.batch? = some (application, batch))
    (held : before.event.expressAdViews = some array) :
    (renderingMachine.next before input).event.expressAdViews =
        some (CustomEvent.filled array batch) ∧
      recordShared before shared input =
        { heap := Function.update shared.heap array.ref batch.views
          handed := (if before.event.delegate.responds .nativeExpressAdSuccessToLoad then
            [CustomEvent.filled array batch] else []) ++ shared.handed } := by
  obtain ⟨emitted, event, -⟩ := @batch_step before input application batch carries
  have current : (renderingMachine.next before input).event.expressAdViews =
      some (CustomEvent.filled array batch) := by
    rw [event, CustomEvent.successRendering_fst held]
  refine ⟨current, ?_⟩
  apply recordShared_eq current
  have noArray : (batch.filterMap before.event.early).filterMap Message.array? = [] := by
    rw [List.filterMap_eq_nil_iff]
    intro message member
    obtain ⟨view, rfl⟩ := CustomEvent.mem_early member
    rfl
  rw [emitted, CustomEvent.messages_success held, List.filterMap_append, noArray, List.nil_append]
  split <;> rfl

theorem batch_requested {before : Instance} {shared : Shared} {input : RenderInput}
    {application : UIApplication} {batch : Batch} (numbered : Numbered (before, shared))
    (enabled : renderingMachine.enabled before input)
    (carries : input.batch? = some (application, batch)) :
    ∃ array, before.event.expressAdViews = some array := by
  cases input with
  | success other ad views => exact numbered.requested (Nat.zero_lt_of_lt enabled)
  | plain input =>
      cases input with
      | callback other callback =>
          cases callback with
          | successToLoad ad views => exact numbered.requested (Nat.zero_lt_of_lt enabled)
          | _ => cases carries
      | _ => cases carries

theorem numbered_next (seen : Instance × Shared) (input : RenderInput) (numbered : Numbered seen)
    (enabled : sharing.enabled seen input) : Numbered (sharing.next seen input) := by
  obtain ⟨before, shared⟩ := seen
  have next : sharing.next (before, shared) input =
      (renderingMachine.next before input, recordShared before shared input) := rfl
  rw [next]
  cases carries : input.batch? with
  | some carried =>
      obtain ⟨application, batch⟩ := carried
      obtain ⟨array, held⟩ := batch_requested numbered enabled carries
      obtain ⟨current, record⟩ := @batch_next before shared input application batch array carries held
      obtain ⟨-, -, fresh⟩ := @batch_step before input application batch carries
      have bound := (numbered.current array held).1
      rw [record]
      refine ⟨?_, ?_, ?_⟩
      · intro other same
        rw [current] at same
        cases same
        rw [fresh]
        exact ⟨bound, Function.update_self _ _ _⟩
      · intro other member
        rw [fresh]
        rcases List.mem_append.mp member with new | old
        · split at new
          · cases List.mem_singleton.mp new
            exact bound
          · cases new
        · exact numbered.handed other old
      · intro _
        exact ⟨_, current⟩
  | none =>
      obtain ⟨quiet, ⟨same, fresh⟩ | ⟨made, fresh⟩⟩ := @other_step before input carries
      · rw [recordShared_of_unchanged numbered same quiet]
        refine ⟨?_, ?_, ?_⟩
        · rw [same, fresh]
          exact numbered.current
        · rw [fresh]
          exact numbered.handed
        · rw [same, fresh]
          exact numbered.requested
      · rw [recordShared_eq made quiet]
        refine ⟨?_, ?_, ?_⟩
        · intro array current
          rw [made] at current
          cases current
          rw [fresh]
          exact ⟨Nat.lt_succ_self _, Function.update_self _ _ _⟩
        · intro array member
          have bound := numbered.handed array member
          rw [fresh]
          exact Nat.lt_succ_of_lt bound
        · intro _
          exact ⟨_, made⟩

/-- Refilling an array leaves the handed-out ones alone just if those that are it
held the same views. -/
theorem kept_update_iff {before : Instance} {shared : Shared} (kept : Kept (before, shared))
    {ref : Nat} {views : List Nat} :
    (∀ array ∈ shared.handed, Function.update shared.heap ref views array.ref = array.contents) ↔
      ∀ array ∈ shared.handed, some ref = some array.ref → array.contents = views := by
  constructor
  · intro updated array member same
    have here := updated array member
    cases same
    rw [Function.update_self] at here
    exact here.symm
  · intro unshared array member
    by_cases same : array.ref = ref
    · rw [same, Function.update_self, unshared array member (congrArg some same.symm)]
    · rw [Function.update_of_ne same]
      exact kept array member

theorem kept_next_of_batch {before : Instance} {shared : Shared} {input : RenderInput}
    {application : UIApplication} {batch : Batch} {array : NSMutableArray}
    (kept : Kept (before, shared)) (carries : input.batch? = some (application, batch))
    (held : before.event.expressAdViews = some array) :
    Kept (sharing.next (before, shared) input) ↔
      ∀ other ∈ shared.handed, before.event.expressAdViews.map NSMutableArray.ref = some other.ref →
        other.contents = batch.views := by
  obtain ⟨-, record⟩ := @batch_next before shared input application batch array carries held
  rw [held, Option.map_some, ← kept_update_iff kept]
  have next : sharing.next (before, shared) input =
      (renderingMachine.next before input, recordShared before shared input) := rfl
  rw [next, record]
  constructor
  · intro later other member
    exact later other (List.mem_append_right _ member)
  · intro later other member
    rcases List.mem_append.mp member with new | old
    · split at new
      · cases List.mem_singleton.mp new
        exact Function.update_self _ _ _
      · cases new
    · exact later other old

theorem kept_next_of_other {before : Instance} {shared : Shared} {input : RenderInput}
    (numbered : Numbered (before, shared)) (kept : Kept (before, shared))
    (none : input.batch? = none) : Kept (sharing.next (before, shared) input) := by
  have next : sharing.next (before, shared) input =
      (renderingMachine.next before input, recordShared before shared input) := rfl
  rw [next]
  obtain ⟨quiet, ⟨same, -⟩ | ⟨made, -⟩⟩ := @other_step before input none
  · rw [recordShared_of_unchanged numbered same quiet]
    exact kept
  · rw [recordShared_eq made quiet]
    intro array member
    -- the new array has not been handed out
    have older : array.ref ≠ before.fresh := Nat.ne_of_lt (numbered.handed array member)
    exact (Function.update_of_ne older _ _).trans (kept array member)

theorem kept_and_handsOver_iff (seen : Instance × Shared) (input : RenderInput)
    (numbered : Numbered seen) (kept : Kept seen) (enabled : sharing.enabled seen input) :
    Kept (sharing.next seen input) ∧ HandsOver seen input ↔ InOrder seen input := by
  obtain ⟨before, shared⟩ := seen
  cases carries : input.batch? with
  | none =>
      refine iff_of_true ⟨kept_next_of_other numbered kept carries, ?_⟩ ?_
      · intro application batch carried
        rw [carries] at carried
        cases carried
      · intro application batch carried
        rw [carries] at carried
        cases carried
  | some carried =>
      obtain ⟨application, batch⟩ := carried
      obtain ⟨array, held⟩ := batch_requested numbered enabled carries
      obtain ⟨emitted, -, -⟩ := @batch_step before input application batch carries
      rw [kept_next_of_batch kept carries held]
      have handed := @CustomEvent.handedOver_iff application before.event batch array held
      rw [← emitted] at handed
      constructor
      · rintro ⟨unshared, hands⟩ other others carried
        rw [carries] at carried
        cases carried
        obtain ⟨announced, later⟩ := handed.mp (hands _ _ carries)
        exact ⟨announced, later, unshared⟩
      · intro inOrder
        have here := inOrder application batch carries
        refine ⟨here.unshared, ?_⟩
        intro other others carried
        rw [carries] at carried
        cases carried
        exact handed.mpr ⟨here.announced, here.later⟩

/-- Every batch is handed over in order, and what was handed over stays. -/
structure BatchesStand (delegate : Delegate Selector) (inputs : List RenderInput) : Prop where
  kept : sharing.Always Kept ({ event := { delegate } }, {}) inputs
  handed : sharing.Along HandsOver ({ event := { delegate } }, {}) inputs

theorem initially_numbered (delegate : Delegate Selector) :
    Numbered ({ event := { delegate } }, {}) := by
  refine ⟨?_, ?_, ?_⟩
  · intro array current
    cases current
  · intro array member
    cases member
  · intro positive
    cases positive

theorem batchesStand_iff (delegate : Delegate Selector) (inputs : List RenderInput)
    (runs : sharing.Runs ({ event := { delegate } }, {}) inputs) :
    BatchesStand delegate inputs ↔ sharing.Along InOrder ({ event := { delegate } }, {}) inputs := by
  have initially : Kept ({ event := { delegate } }, {}) := by
    intro array member
    cases member
  rw [← Machine.always_and_along_iff numbered_next kept_and_handsOver_iff
    (initially_numbered delegate) initially runs]
  constructor
  · intro stand
    exact ⟨stand.kept, stand.handed⟩
  · intro stand
    exact ⟨stand.1, stand.2⟩

def twoLoads : List RenderInput :=
  [.plain feedRequest, .success quietApplication 0 [(3, none), (4, some .failure)],
    .plain (.callback quietApplication (.renderSuccess 3)), .plain feedRequest,
    .plain (.callback quietApplication (.successToLoad 1 [5]))]

theorem twoLoads_stand :
    sharing.Runs ({ event := { delegate := some fun _ => true } }, {}) twoLoads ∧
      BatchesStand (some fun _ => true) twoLoads := by
  have runs : sharing.Runs ({ event := { delegate := some fun _ => true } }, {}) twoLoads :=
    ⟨trivial, Nat.one_pos, trivial, trivial, Nat.one_lt_two, trivial⟩
  refine ⟨runs, (batchesStand_iff _ _ runs).mpr ⟨nofun, ?_, nofun, nofun, ?_, trivial⟩⟩
  · intro application batch carries
    cases carries
    exact ⟨rfl, by simp, fun array member => nomatch member⟩
  · intro application batch carries
    cases carries
    refine ⟨rfl, by simp, ?_⟩
    intro array member same
    cases List.mem_singleton.mp member
    cases same

/-- The render of view 3 answers before the batch is announced. -/
def answersInsideRender : List RenderInput :=
  [.plain feedRequest, .success quietApplication 0 [(3, some .success)]]

def loadedTwice : List RenderInput :=
  [.plain feedRequest, .success quietApplication 0 [(3, none)],
    .success quietApplication 0 [(4, none)]]

theorem batches_do_not_stand :
    (sharing.Runs ({ event := { delegate := some fun _ => true } }, {}) answersInsideRender ∧
      ¬ BatchesStand (some fun _ => true) answersInsideRender) ∧
    sharing.Runs ({ event := { delegate := some fun _ => true } }, {}) loadedTwice ∧
      ¬ BatchesStand (some fun _ => true) loadedTwice := by
  refine ⟨⟨⟨trivial, Nat.one_pos, trivial⟩, ?_⟩, ⟨trivial, Nat.one_pos, Nat.one_pos, trivial⟩, ?_⟩
  · intro stand
    have first := (stand.handed.2.1 _ _ rfl).first
    cases List.rel_of_pairwise_cons first List.mem_cons_self rfl
  · intro stand
    have emptied := stand.kept loadedTwice [] rfl
    cases emptied { ref := 0, contents := [3] } (List.mem_cons_of_mem _ List.mem_cons_self)

end GDTAdapter.Feed
