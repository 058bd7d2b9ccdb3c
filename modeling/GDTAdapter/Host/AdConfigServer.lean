import GDTAdapter.Foundation
import GDTAdapter.MobiConfig
import GDTAdapter.Reactive.History

namespace GDTAdapter

open Reactive

/-! # MobiAdConfigServer

The communicator of a manager asks the server for configurations, one network
task at a time.  The handlers of a task run in the background and leave the
message to the delegate on the main queue.
-/

namespace NSError

def adResponsesNotFound : NSError := errorWithCode 19 (some "No ad responses")

def networkResponseContainedNoData : NSError :=
  errorWithCode 22 (some "No data found in the NSHTTPURLResponse")

def adResponseFailedToParseWithError (serializationError : NSError) : NSError :=
  errorWithCode 30 (some ("Failed to parse ad response into JSON: " ++
    serializationError.localizedDescription.getD "(null)"))

end NSError

/-- The parsed answer of the server; an absent list of ads is empty, and each of
its dictionaries has been turned into a configuration. -/
structure AdResponse (Configuration : Type) where
  code : Option Int
  ads : List Configuration
deriving DecidableEq, Repr

/-- What a network task ends with: the call of its error handler, or of its
response handler with data that parses or does not. -/
inductive Completion (Configuration : Type) where
  | failed (error : NSError)
  | data (json : Except NSError (AdResponse Configuration))

/-- The messages of `MobiAdConfigServerDelegate`. -/
inductive CommunicatorMessage (Configuration : Type) where
  | communicatorDidReceiveAdConfigurations (configurations : List Configuration)
  | communicatorDidFailWithError (error : NSError)
deriving DecidableEq, Repr

structure MobiAdConfigServer where
  loading : Bool := false
  task : Option Nat := none
deriving DecidableEq, Repr

namespace MobiAdConfigServer

variable {Configuration : Type}

def cancel (_ : MobiAdConfigServer) : MobiAdConfigServer where
  loading := false
  task := none

/-- `fresh` is the task that `startTaskWithHttpRequest` returns.  Nothing sets
`isRateLimited`. -/
def loadURL (fresh : Nat) (self : MobiAdConfigServer) : MobiAdConfigServer :=
  { self.cancel with loading := true, task := some fresh }

def didFailWithError (error : NSError) (self : MobiAdConfigServer) :
    MobiAdConfigServer × CommunicatorMessage Configuration :=
  ({ self with loading := false }, .communicatorDidFailWithError error)

def didFinishLoadingWithData (json : Except NSError (AdResponse Configuration))
    (self : MobiAdConfigServer) : MobiAdConfigServer × CommunicatorMessage Configuration :=
  let self := { self with loading := false }
  match json with
  | .error error => self.didFailWithError (.adResponseFailedToParseWithError error)
  | .ok response =>
      if intValue response.code = 0 then
        match response.ads with
        | [] => self.didFailWithError .networkResponseContainedNoData
        | first :: rest => (self, .communicatorDidReceiveAdConfigurations (first :: rest))
      else self.didFailWithError .adResponsesNotFound

/-- The handlers of a task, which hold the communicator weakly and do not ask
whether the task is still the current one. -/
def complete (completion : Completion Configuration) (self : MobiAdConfigServer) :
    MobiAdConfigServer × CommunicatorMessage Configuration :=
  match completion with
  | .failed error => self.didFailWithError error
  | .data json => self.didFinishLoadingWithData json

/-- What the delegate will hear of a completion, whatever the communicator is at. -/
def message (completion : Completion Configuration) : CommunicatorMessage Configuration :=
  (complete completion {}).2

/-- A completion of any task ends the loading, and only that. -/
theorem complete_fst (completion : Completion Configuration) (self : MobiAdConfigServer) :
    (self.complete completion).1 = { self with loading := false } := by
  cases completion with
  | failed error => rfl
  | data json =>
      cases json with
      | error error => rfl
      | ok response =>
          simp only [complete, didFinishLoadingWithData]
          split
          · split <;> rfl
          · rfl

theorem complete_snd (completion : Completion Configuration) (self : MobiAdConfigServer) :
    (self.complete completion).2 = message completion := by
  cases completion with
  | failed error => rfl
  | data json =>
      cases json with
      | error error => rfl
      | ok response =>
          simp only [message, complete, didFinishLoadingWithData]
          split
          · split <;> rfl
          · rfl

end MobiAdConfigServer

/-- The communicator together with its tasks and the main queue.  A task completes
once, a cancelled one too. -/
structure Exchange (Configuration : Type) where
  communicator : MobiAdConfigServer := {}
  fresh : Nat := 0
  inFlight : List Nat := []
  mainQueue : List (CommunicatorMessage Configuration) := []

namespace Exchange

variable {Configuration : Type}

inductive Input (Configuration : Type) where
  | loadURL
  | cancel
  | complete (task : Nat) (completion : Completion Configuration)
  /-- The main queue runs its first block. -/
  | deliver

inductive Output (Configuration : Type) where
  | start (task : Nat)
  | cancel (task : Nat)
  | delegate (message : CommunicatorMessage Configuration)
deriving DecidableEq, Repr

def cancelTask (communicator : MobiAdConfigServer) : List (Output Configuration) :=
  communicator.task.toList.map .cancel

def step (self : Exchange Configuration) :
    Input Configuration → Exchange Configuration × List (Output Configuration)
  | .loadURL =>
      ({ self with
          communicator := self.communicator.loadURL self.fresh
          fresh := self.fresh + 1
          inFlight := self.inFlight ++ [self.fresh] },
        cancelTask self.communicator ++ [.start self.fresh])
  | .cancel => ({ self with communicator := self.communicator.cancel }, cancelTask self.communicator)
  | .complete task completion =>
      let (communicator, message) := self.communicator.complete completion
      ({ self with
          communicator
          inFlight := self.inFlight.erase task
          mainQueue := self.mainQueue ++ [message] }, [])
  | .deliver =>
      match self.mainQueue with
      | [] => (self, [])
      | message :: rest => ({ self with mainQueue := rest }, [.delegate message])

def enabled (self : Exchange Configuration) : Input Configuration → Prop
  | .complete task _ => task ∈ self.inFlight
  | .deliver => self.mainQueue ≠ []
  | _ => True

def machine (Configuration : Type) :
    Machine (Exchange Configuration) (Input Configuration) (Output Configuration) where
  enabled := enabled
  step := step

def Output.delegate? : Output Configuration → Option (CommunicatorMessage Configuration)
  | .delegate message => some message
  | _ => none

def Input.completed? : Input Configuration → Option (CommunicatorMessage Configuration)
  | .complete _ completion => some (MobiAdConfigServer.message completion)
  | _ => none

def Input.isLoadURL : Input Configuration → Bool
  | .loadURL => true
  | _ => false

/-- The messages the delegate has got in the run, in their order. -/
def delivered (outputs : List (Output Configuration)) : List (CommunicatorMessage Configuration) :=
  outputs.filterMap Output.delegate?

@[simp] theorem delivered_append (first second : List (Output Configuration)) :
    delivered (first ++ second) = delivered first ++ delivered second :=
  List.filterMap_append

@[simp] theorem delivered_cancelTask (communicator : MobiAdConfigServer) :
    delivered (cancelTask communicator : List (Output Configuration)) = [] := by
  unfold cancelTask
  cases communicator.task <;> rfl

section Steps

variable {self : Exchange Configuration}

/-- Nothing overtakes on the main queue, and nothing on it is lost. -/
theorem delivered_step (self : Exchange Configuration) (input : Input Configuration) :
    delivered ((machine Configuration).emit self input) ++
        ((machine Configuration).next self input).mainQueue =
      self.mainQueue ++ input.completed?.toList := by
  cases input with
  | loadURL =>
      change delivered (cancelTask self.communicator ++ [.start self.fresh]) ++ self.mainQueue =
        self.mainQueue ++ []
      rw [delivered_append, delivered_cancelTask, List.append_nil]
      rfl
  | cancel =>
      change delivered (cancelTask self.communicator) ++ self.mainQueue = self.mainQueue ++ []
      rw [delivered_cancelTask, List.nil_append, List.append_nil]
  | complete task completion =>
      change [] ++ (self.mainQueue ++ [(self.communicator.complete completion).2]) =
        self.mainQueue ++ [MobiAdConfigServer.message completion]
      rw [MobiAdConfigServer.complete_snd, List.nil_append]
  | deliver =>
      cases queue : self.mainQueue with
      | nil => simp [machine, Machine.emit, Machine.next, step, queue, delivered, Input.completed?]
      | cons message rest =>
          simp [machine, Machine.emit, Machine.next, step, queue, delivered, Input.completed?,
            Output.delegate?]

/-- What has been asked and not been answered yet. -/
def outstanding (self : Exchange Configuration) : Nat := self.inFlight.length + self.mainQueue.length

theorem outstanding_step {input : Input Configuration} (enabled : self.enabled input) :
    (delivered ((machine Configuration).emit self input)).length +
        ((machine Configuration).next self input).outstanding =
      self.outstanding + input.isLoadURL.toNat := by
  cases input with
  | loadURL =>
      change (delivered (cancelTask self.communicator ++ [.start self.fresh])).length +
        ((self.inFlight ++ [self.fresh]).length + self.mainQueue.length) = self.outstanding + 1
      rw [delivered_append, delivered_cancelTask, List.nil_append, List.length_append]
      change 0 + (self.inFlight.length + 1 + self.mainQueue.length) = self.outstanding + 1
      unfold outstanding
      omega
  | cancel =>
      change (delivered (cancelTask self.communicator)).length + self.outstanding = self.outstanding
      rw [delivered_cancelTask]
      exact Nat.zero_add _
  | complete task completion =>
      change 0 + ((self.inFlight.erase task).length + (self.mainQueue ++ [_]).length) =
        self.outstanding
      have owed : task ∈ self.inFlight := enabled
      have positive := List.length_pos_of_mem owed
      rw [List.length_erase_of_mem owed, List.length_append, List.length_singleton]
      unfold outstanding
      omega
  | deliver =>
      cases queue : self.mainQueue with
      | nil => exact absurd queue enabled
      | cons message rest =>
          simp only [machine, Machine.emit, Machine.next, step, queue, delivered, outstanding,
            Output.delegate?, Input.isLoadURL, List.filterMap_cons, List.filterMap_nil,
            List.length_cons, List.length_nil, Bool.toNat_false]
          omega

theorem loading_step (self : Exchange Configuration) (input : Input Configuration) :
    ((machine Configuration).next self input).communicator.loading = true ↔
      input = .loadURL ∨ self.communicator.loading = true ∧ input = .deliver := by
  cases input with
  | loadURL => exact iff_of_true rfl (.inl rfl)
  | cancel => exact iff_of_false nofun (by simp)
  | complete task completion =>
      have stopped : ((machine Configuration).next self (.complete task completion)).communicator =
          { self.communicator with loading := false } :=
        MobiAdConfigServer.complete_fst completion self.communicator
      rw [stopped]
      simp
  | deliver =>
      have same : ((machine Configuration).next self .deliver).communicator = self.communicator := by
        cases queue : self.mainQueue <;> simp [machine, Machine.next, step, queue]
      rw [same]
      simp

end Steps

section Runs

variable {self : Exchange Configuration} {inputs : List (Input Configuration)}

theorem delivered_trace (self : Exchange Configuration) (inputs : List (Input Configuration)) :
    delivered ((machine Configuration).trace self inputs) ++
        ((machine Configuration).after self inputs).mainQueue =
      self.mainQueue ++ inputs.filterMap Input.completed? := by
  induction inputs generalizing self with
  | nil => simp [delivered]
  | cons input rest ih =>
      rw [Machine.trace_cons, Machine.after_cons, delivered_append, List.append_assoc, ih,
        ← List.append_assoc, delivered_step, List.append_assoc]
      cases reported : input.completed? <;> simp [reported]

theorem outstanding_trace (runs : (machine Configuration).Runs self inputs) :
    (delivered ((machine Configuration).trace self inputs)).length +
        ((machine Configuration).after self inputs).outstanding =
      self.outstanding + inputs.countP Input.isLoadURL := by
  induction inputs generalizing self with
  | nil => exact Nat.zero_add _
  | cons input rest ih =>
      have here := outstanding_step runs.1
      have later := ih runs.2
      rw [Machine.trace_cons, Machine.after_cons, delivered_append, List.length_append,
        List.countP_cons]
      cases asks : input.isLoadURL <;> rw [asks] at here <;> simp at here ⊢ <;> omega

end Runs

/-- Every request is answered once, in the order of the completions: the answers
given, those on the main queue and the tasks in flight are as many as the
requests, cancelled ones included.  `loading` is set just if a request was made
and nothing has been cancelled or completed since, whichever task it was. -/
theorem answered_once {inputs : List (Input Configuration)}
    (runs : (machine Configuration).Runs {} inputs) :
    delivered ((machine Configuration).trace {} inputs) ++
        ((machine Configuration).after {} inputs).mainQueue =
      inputs.filterMap Input.completed? ∧
    (delivered ((machine Configuration).trace {} inputs)).length +
        ((machine Configuration).after {} inputs).outstanding =
      inputs.countP Input.isLoadURL ∧
    (((machine Configuration).after {} inputs).communicator.loading = true ↔
      (machine Configuration).Since (fun _ input => input = .loadURL)
        (fun _ input => input = .deliver) {} inputs) := by
  refine ⟨delivered_trace {} inputs, ?_, ?_⟩
  · rw [outstanding_trace runs]
    exact Nat.zero_add _
  · apply @Machine.live_iff_since _ _ _ (machine Configuration) _ _ (fun _ => True)
      (fun self => self.communicator.loading = true) (fun _ _ _ _ => trivial) ?_ _ trivial
      Bool.false_ne_true _ runs
    intro self input _ _
    exact loading_step self input

/-- The first of two requests is cancelled, and its task fails. -/
def askedTwice : List (Input Unit) :=
  [.loadURL, .loadURL, .complete 0 (.failed .adResponsesNotFound), .deliver]

theorem askedTwice_runs : (machine Unit).Runs {} askedTwice :=
  ⟨trivial, trivial, List.mem_cons_self, List.cons_ne_nil _ _, trivial⟩

theorem askedTwice_answers :
    delivered ((machine Unit).trace {} askedTwice) ++ ((machine Unit).after {} askedTwice).mainQueue =
      askedTwice.filterMap Input.completed? ∧
    (delivered ((machine Unit).trace {} askedTwice)).length +
        ((machine Unit).after {} askedTwice).outstanding =
      askedTwice.countP Input.isLoadURL ∧
    (((machine Unit).after {} askedTwice).communicator.loading = true ↔
      (machine Unit).Since (fun _ input => input = .loadURL) (fun _ input => input = .deliver) {}
        askedTwice) :=
  answered_once askedTwice_runs

end Exchange

end GDTAdapter
