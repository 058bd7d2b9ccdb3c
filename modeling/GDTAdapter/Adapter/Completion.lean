import GDTAdapter.Adapter.Initialization

namespace GDTAdapter.MEGDTAdapter

open Reactive

/-! # Completion of initialisation calls

The once-token couples every call of the process: only the first one runs the
block, and it runs its completion while the token is still held.
-/

variable {gdt : Nat → String → Bool}

/-- GDT would accept the id that the configuration of this call carries. -/
def Good (gdt : Nat → String → Bool) (call : Nat) (configuration : NSDictionary) : Prop :=
  ∃ appId, configuration kGDTAppID = some appId ∧ gdt call appId = true

def completion? (call : Nat) : Event → Option (Option NSError × Bool)
  | .completed other error registered => if other = call then some (error, registered) else none
  | _ => none

def completions (call : Nat) (log : List Event) : List (Option NSError × Bool) :=
  log.filterMap (completion? call)

structure Answered (gdt : Nat → String → Bool) (log : List Event) : Prop where
  once : ∀ call configuration, .entered call true configuration ∈ log →
    (completions call log).length = 1
  truthful : ∀ call error registered, .completed call error registered ∈ log →
    (error = none ↔ registered = true)
  recovers : ∀ before call complete configuration later,
    log = before ++ .entered call complete configuration :: later →
    (∃ appId, .registerAppId appId false ∈ before) → Good gdt call configuration →
      .returned call true ∈ later

def Answers (gdt : Nat → String → Bool) (program : List InitializeCall) : Prop :=
  ∃ process, runCalls gdt program {} = some process ∧ Answered gdt process.log

def registrationError (gdt : Nat → String → Bool) : Option NSError :=
  if gdt 0 kGDTAppID then none else some notReadyError

/-- The first completion makes no call of its own, the later completions are nil,
and a failed registration is not followed by a configuration GDT would accept. -/
def Settles (gdt : Nat → String → Bool) : List InitializeCall → Prop
  | [] => True
  | first :: rest =>
      (∀ block, first.complete = some block → block (registrationError gdt) = []) ∧
      (∀ call ∈ rest, call.complete = none) ∧
      (gdt 0 kGDTAppID = true ∨ ∀ entry ∈ rest.zipIdx 1, ¬ Good gdt entry.2 entry.1.configuration)

theorem initializeNetwork_running {process : Process} (call : InitializeCall)
    (busy : process.onceToken = .running) : initializeNetwork gdt call process = none := by
  cases call with
  | mk adapter configuration complete =>
      simp only [initializeNetwork]
      rw [Once.dispatch_running (by exact busy), Option.map_none]

def skippedEvents (registered : Bool) : Nat → List InitializeCall → List Event
  | _, [] => []
  | number, call :: rest =>
      .entered number call.complete.isSome call.configuration :: .returned number registered ::
        skippedEvents registered (number + 1) rest

theorem runCalls_done {calls : List InitializeCall} {process : Process}
    (used : process.onceToken = .done) :
    ∃ after, runCalls gdt calls process = some after ∧
      after.log = process.log ++ skippedEvents process.registered process.entered calls := by
  induction calls generalizing process with
  | nil => exact ⟨process, by simp [runCalls], by simp [skippedEvents]⟩
  | cons call rest ih =>
      cases call with
      | mk adapter configuration complete =>
          simp only [runCalls, initializeNetwork]
          rw [Once.dispatch_done (by exact used), Option.map_some, Option.bind_some]
          let skipped : Process := Process.record (.returned process.entered process.registered)
            (Process.record (.entered process.entered complete.isSome configuration)
              { process with entered := process.entered + 1 })
          have stillUsed : skipped.onceToken = .done := used
          obtain ⟨after, run, log⟩ := ih stillUsed
          refine ⟨after, run, log.trans ?_⟩
          simp [skipped, Process.record, skippedEvents, InitializeCall.complete,
            InitializeCall.configuration]

theorem entered_of_mem_skipped {registered complete : Bool} {start number : Nat}
    {configuration : NSDictionary} {calls : List InitializeCall}
    (member : .entered number complete configuration ∈ skippedEvents registered start calls) :
    ∃ call, (call, number) ∈ calls.zipIdx start ∧
      complete = call.complete.isSome ∧ configuration = call.configuration := by
  induction calls generalizing start with
  | nil => simp [skippedEvents] at member
  | cons call rest ih =>
      simp only [skippedEvents, List.mem_cons, Event.entered.injEq, reduceCtorEq, false_or] at member
      rcases member with here | later
      · exact ⟨call, by simp [here.1], here.2⟩
      · obtain ⟨found, inside, same⟩ := ih later
        exact ⟨found, List.mem_cons_of_mem _ inside, same⟩

theorem mem_skipped_of_call (registered : Bool) {start number : Nat} {call : InitializeCall}
    {calls : List InitializeCall} (member : (call, number) ∈ calls.zipIdx start) :
    .entered number call.complete.isSome call.configuration ∈ skippedEvents registered start calls := by
  induction calls generalizing start with
  | nil => cases member
  | cons head rest ih =>
      rcases List.mem_cons.mp member with here | later
      · obtain ⟨rfl, rfl⟩ := Prod.mk.inj here
        exact List.mem_cons_self
      · exact List.mem_cons_of_mem _ (List.mem_cons_of_mem _ (ih later))

theorem returned_of_mem_skipped {registered result : Bool} {start number : Nat}
    {calls : List InitializeCall}
    (member : .returned number result ∈ skippedEvents registered start calls) :
    result = registered := by
  induction calls generalizing start with
  | nil => simp [skippedEvents] at member
  | cons call rest ih =>
      simp only [skippedEvents, List.mem_cons, Event.returned.injEq, reduceCtorEq, false_or] at member
      rcases member with here | later
      · exact here.2
      · exact ih later

theorem completion_of_mem_skipped {registered : Bool} {start : Nat} (number : Nat) {event : Event}
    {calls : List InitializeCall} (member : event ∈ skippedEvents registered start calls) :
    completion? number event = none ∧ ∀ appId result, event ≠ .registerAppId appId result := by
  induction calls generalizing start with
  | nil => simp [skippedEvents] at member
  | cons call rest ih =>
      simp only [skippedEvents, List.mem_cons] at member
      rcases member with rfl | rfl | later
      · exact ⟨rfl, fun _ _ => by simp⟩
      · exact ⟨rfl, fun _ _ => by simp⟩
      · exact ih later

theorem completions_skipped (registered : Bool) (start number : Nat) (calls : List InitializeCall) :
    completions number (skippedEvents registered start calls) = [] :=
  List.filterMap_eq_nil_iff.mpr (fun _ member => (completion_of_mem_skipped number member).1)

def firstEvents (gdt : Nat → String → Bool) (first : InitializeCall) : List Event :=
  .entered 0 first.complete.isSome first.configuration ::
    .registerAppId kGDTAppID (gdt 0 kGDTAppID) ::
    ((if first.complete.isSome then [.completed 0 (registrationError gdt) (gdt 0 kGDTAppID)] else []) ++
      [.returned 0 (gdt 0 kGDTAppID)])

private theorem runBlock_eq (call : Nat) (complete : Option (Option NSError → List InitializeCall))
    (process : Process) :
    (if gdt 0 kGDTAppID then runComplete gdt call none complete process
      else runComplete gdt call (some notReadyError) complete process) =
      runComplete gdt call (registrationError gdt) complete process := by
  unfold registrationError
  split <;> rfl

theorem runCalls_first {first : InitializeCall} (rest : List InitializeCall)
    (quiet : ∀ block, first.complete = some block → block (registrationError gdt) = []) :
    ∃ process, runCalls gdt (first :: rest) {} = some process ∧
      process.log = firstEvents gdt first ++ skippedEvents (gdt 0 kGDTAppID) 1 rest := by
  cases first with
  | mk adapter configuration complete =>
      simp only [runCalls, initializeNetwork, runBlock_eq]
      rw [Once.dispatch_fresh (by rfl)]
      cases complete with
      | none =>
          simp only [runComplete, Option.map_some, Option.bind_some]
          let used : Process := Process.record (.returned 0 (gdt 0 kGDTAppID))
            (Process.setOnceToken .done (Process.registerAppId kGDTAppID (gdt 0 kGDTAppID)
              (Process.setOnceToken .running
                (Process.record (.entered 0 false configuration) { entered := 1 }))))
          have done : used.onceToken = .done := rfl
          obtain ⟨process, run, log⟩ := @runCalls_done gdt rest used done
          refine ⟨process, run, log.trans ?_⟩
          simp [used, Process.record, Process.setOnceToken, Process.registerAppId, firstEvents,
            InitializeCall.complete, InitializeCall.configuration]
      | some block =>
          simp only [runComplete, quiet block rfl, runCalls, Option.map_some, Option.bind_some]
          let used : Process := Process.record (.returned 0 (gdt 0 kGDTAppID))
            (Process.setOnceToken .done
              (Process.record (.completed 0 (registrationError gdt) (gdt 0 kGDTAppID))
                (Process.registerAppId kGDTAppID (gdt 0 kGDTAppID) (Process.setOnceToken .running
                  (Process.record (.entered 0 true configuration) { entered := 1 })))))
          have done : used.onceToken = .done := rfl
          obtain ⟨process, run, log⟩ := @runCalls_done gdt rest used done
          refine ⟨process, run, log.trans ?_⟩
          simp [used, Process.record, Process.setOnceToken, Process.registerAppId, firstEvents,
            InitializeCall.complete, InitializeCall.configuration]

theorem runCalls_reentrant {first : InitializeCall} {rest : List InitializeCall}
    {block : Option NSError → List InitializeCall} (given : first.complete = some block)
    (calls : block (registrationError gdt) ≠ []) : runCalls gdt (first :: rest) {} = none := by
  cases first with
  | mk adapter configuration complete =>
      have given : complete = some block := given
      subst complete
      obtain ⟨call, more, again⟩ := List.exists_cons_of_ne_nil calls
      simp only [runCalls, initializeNetwork, runBlock_eq]
      rw [Once.dispatch_fresh (by rfl)]
      simp only [runComplete, again, runCalls]
      rw [initializeNetwork_running call (by rfl)]
      rfl

theorem completions_first (number : Nat) (first : InitializeCall) :
    completions number (firstEvents gdt first) =
      if number = 0 ∧ first.complete.isSome = true then [(registrationError gdt, gdt 0 kGDTAppID)] else [] := by
  unfold completions firstEvents
  by_cases zero : number = 0
  · subst zero
    cases first.complete.isSome <;> rfl
  · cases first.complete.isSome <;> simp [completion?, zero, Ne.symm zero]

theorem completions_log (number : Nat) (first : InitializeCall) (rest : List InitializeCall) :
    completions number (firstEvents gdt first ++ skippedEvents (gdt 0 kGDTAppID) 1 rest) =
      if number = 0 ∧ first.complete.isSome = true then [(registrationError gdt, gdt 0 kGDTAppID)] else [] := by
  have split : completions number
      (firstEvents gdt first ++ skippedEvents (gdt 0 kGDTAppID) 1 rest) =
        completions number (firstEvents gdt first) ++
          completions number (skippedEvents (gdt 0 kGDTAppID) 1 rest) := List.filterMap_append
  rw [split, completions_skipped, List.append_nil, completions_first]

theorem registration_of_mem {first : InitializeCall} {rest : List InitializeCall} {appId : String}
    {result : Bool}
    (member : .registerAppId appId result ∈
      firstEvents gdt first ++ skippedEvents (gdt 0 kGDTAppID) 1 rest) : result = gdt 0 kGDTAppID := by
  rcases List.mem_append.mp member with here | later
  · cases given : first.complete.isSome <;> simp [firstEvents, given] at here <;> exact here.2
  · exact absurd rfl ((completion_of_mem_skipped 0 later).2 appId result)

theorem answered_log_iff (first : InitializeCall) (rest : List InitializeCall) :
    Answered gdt (firstEvents gdt first ++ skippedEvents (gdt 0 kGDTAppID) 1 rest) ↔
      (∀ call ∈ rest, call.complete = none) ∧
        (gdt 0 kGDTAppID = true ∨ ∀ entry ∈ rest.zipIdx 1, ¬ Good gdt entry.2 entry.1.configuration) := by
  refine ⟨fun answered => ⟨fun call member => ?_, ?_⟩, fun ⟨silent, recovered⟩ => ⟨?_, ?_, ?_⟩⟩
  · have listed : call ∈ (rest.zipIdx 1).map Prod.fst := by rwa [List.zipIdx_map_fst]
    obtain ⟨⟨other, number⟩, numbered, same⟩ := List.mem_map.mp listed
    have same : other = call := same
    subst other
    have positive := List.le_snd_of_mem_zipIdx numbered
    have entered := mem_skipped_of_call (gdt 0 kGDTAppID) numbered
    cases given : call.complete with
    | none => rfl
    | some block =>
        rw [given] at entered
        have counted := answered.once number _ (List.mem_append_right _ entered)
        have notFirst : ¬ (number = 0 ∧ first.complete.isSome = true) := by omega
        rw [completions_log, if_neg notFirst] at counted
        exact absurd counted (by simp)
  · cases result : gdt 0 kGDTAppID with
    | true => exact .inl rfl
    | false =>
        refine .inr (fun entry numbered good => ?_)
        obtain ⟨call, number⟩ := entry
        have entered := mem_skipped_of_call (gdt 0 kGDTAppID) numbered
        obtain ⟨before, later, skipped⟩ := List.append_of_mem entered
        have failed : .registerAppId kGDTAppID false ∈ firstEvents gdt first ++ before := by
          simp [firstEvents, result]
        have returned := answered.recovers (firstEvents gdt first ++ before) number _ _ later
          (by rw [skipped, List.append_assoc]) ⟨kGDTAppID, failed⟩ good
        have inside : .returned number true ∈ skippedEvents (gdt 0 kGDTAppID) 1 rest := by
          rw [skipped]
          exact List.mem_append_right _ (List.mem_cons_of_mem _ returned)
        have same := returned_of_mem_skipped inside
        rw [result] at same
        cases same
  · intro number configuration member
    rw [completions_log]
    rcases List.mem_append.mp member with here | later
    · have zero : number = 0 ∧ first.complete.isSome = true := by
        cases given : first.complete.isSome <;> simp [firstEvents, given] at here
        exact ⟨here.1, rfl⟩
      rw [if_pos zero]
      rfl
    · obtain ⟨call, numbered, given, _⟩ := entered_of_mem_skipped later
      rw [silent call (List.fst_mem_of_mem_zipIdx numbered)] at given
      cases given
  · intro number error registered member
    have found : (error, registered) ∈
        completions number (firstEvents gdt first ++ skippedEvents (gdt 0 kGDTAppID) 1 rest) :=
      List.mem_filterMap.mpr ⟨_, member, by simp [completion?]⟩
    rw [completions_log] at found
    split at found
    · obtain ⟨rfl, rfl⟩ := Prod.mk.inj (List.mem_singleton.mp found)
      unfold registrationError
      cases gdt 0 kGDTAppID <;> simp
    · cases found
  · intro before number complete configuration later cut failed good
    obtain ⟨appId, failed⟩ := failed
    rcases recovered with registered | none
    · -- a registration that succeeded leaves no failed attempt in the log
      have failed : .registerAppId appId false ∈
          firstEvents gdt first ++ skippedEvents (gdt 0 kGDTAppID) 1 rest := by
        rw [cut]
        exact List.mem_append_left _ failed
      have result := registration_of_mem failed
      rw [registered] at result
      cases result
    · cases before with
      | nil => cases failed
      | cons head before =>
          have member : .entered number complete configuration ∈
              skippedEvents (gdt 0 kGDTAppID) 1 rest := by
            have inside : .entered number complete configuration ∈
                (firstEvents gdt first ++ skippedEvents (gdt 0 kGDTAppID) 1 rest).tail := by
              rw [cut]
              exact List.mem_append_right before List.mem_cons_self
            cases given : first.complete.isSome <;> simpa [firstEvents, given] using inside
          obtain ⟨call, numbered, _, same⟩ := entered_of_mem_skipped member
          exact absurd (same ▸ good) (none (call, number) numbered)

theorem answers_cons {first : InitializeCall} {rest : List InitializeCall} :
    Answers gdt (first :: rest) ↔ Settles gdt (first :: rest) := by
  by_cases quiet : ∀ block, first.complete = some block → block (registrationError gdt) = []
  · obtain ⟨process, run, log⟩ := runCalls_first rest quiet
    have answered : Answers gdt (first :: rest) ↔ Answered gdt process.log := by
      refine ⟨fun ⟨other, ran, answered⟩ => ?_, fun answered => ⟨process, run, answered⟩⟩
      rw [run] at ran
      exact Option.some.inj ran ▸ answered
    rw [answered, log, answered_log_iff]
    exact ⟨fun rest => ⟨quiet, rest⟩, And.right⟩
  · refine iff_of_false (fun answers => ?_) (fun settles => quiet settles.1)
    obtain ⟨process, run, _⟩ := answers
    refine quiet (fun block given => ?_)
    by_contra calls
    rw [runCalls_reentrant given calls] at run
    cases run

/-- The calls of a process are answered exactly when only the first one has a
completion, that completion makes no further call, and the first registration
succeeds or no later configuration is one GDT would accept. -/
theorem answers_iff (gdt : Nat → String → Bool) (program : List InitializeCall) :
    Answers gdt program ↔ Settles gdt program := by
  cases program with
  | nil =>
      refine iff_of_true ⟨{}, by simp [runCalls], ?_⟩ trivial
      refine ⟨?_, ?_, ?_⟩
      · intro call configuration member
        cases member
      · intro call error registered member
        cases member
      · intro before call complete configuration later cut
        exact absurd cut (by simp)
  | cons first rest => exact answers_cons

/-- Two calls that any application may make, one after the other: the completion
of the second is never invoked. -/
theorem second_call_not_answered :
    ¬ Answers (fun _ _ => true)
      [.mk 0 (fun _ => some "1105344611") (some fun _ => []),
       .mk 0 (fun _ => some "1105344611") (some fun _ => [])] := by
  rw [answers_cons]
  intro settles
  have silent := settles.2.1 (.mk 0 (fun _ => some "1105344611") (some fun _ => []))
    List.mem_cons_self
  cases silent

end GDTAdapter.MEGDTAdapter
