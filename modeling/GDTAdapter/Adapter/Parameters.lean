import GDTAdapter.Adapter.Completion

namespace GDTAdapter.MEGDTAdapter

/-! # Initialisation against the parameter cache

The comment in `updateInitializationParameters:` asks that both entry points
check the same required parameters.  GDT is taken to accept any id.
-/

def accepting : Nat → String → Bool := fun _ _ => true

def firstCall (adapter : Nat) (parameters : NSDictionary) : InitializeCall :=
  .mk adapter parameters (some fun _ => [])

def registration? : Event → Option String
  | .registerAppId appId _ => some appId
  | _ => none

def registrations (log : List Event) : List String :=
  log.filterMap registration?

def cachedParameters (appId : String) : NSDictionary :=
  fun key => if key = kGDTAppID then some appId else none

/-- A new process that makes the call registers exactly `ids`, and completes it
with the errors `errors`. -/
def Initializes (call : InitializeCall) (ids : List String) (errors : Option NSError → Prop) : Prop :=
  ∃ process, runCalls accepting [call] {} = some process ∧
    registrations process.log = ids ∧
    ∃ error registered, completions 0 process.log = [(error, registered)] ∧ errors error

structure Agree (parameters : NSDictionary) : Prop where
  present : ∀ appId, parameters kGDTAppID = some appId →
    (∀ adapter, Initializes (firstCall adapter parameters) [appId] (· = none)) ∧
    (∀ process : Process, (updateInitializationParameters parameters process) =
      { process with cachedInitializationParameters := some (cachedParameters appId) }) ∧
    (∀ (process : Process) adapter,
      ∃ cached, (updateInitializationParameters parameters process).cachedInitializationParameters =
          some cached ∧
        ∀ ids, (Initializes (firstCall adapter cached) ids (· = none) ↔
          Initializes (firstCall adapter parameters) ids (· = none)))
  absent : parameters kGDTAppID = none →
    (∀ adapter, Initializes (firstCall adapter parameters) [] (· ≠ none)) ∧
    (∀ process : Process, updateInitializationParameters parameters process = process)

theorem updateInitializationParameters_of_some {parameters : NSDictionary} {appId : String}
    (found : parameters kGDTAppID = some appId) (process : Process) :
    updateInitializationParameters parameters process =
      { process with cachedInitializationParameters := some (cachedParameters appId) } := by
  simp only [updateInitializationParameters, found]
  rfl

/-- The dictionary is read and not used: every first call registers the key. -/
theorem initializes_firstCall {adapter : Nat} {parameters : NSDictionary} {ids : List String}
    {errors : Option NSError → Prop} :
    Initializes (firstCall adapter parameters) ids errors ↔ ids = [kGDTAppID] ∧ errors none := by
  have quiet : ∀ block, (firstCall adapter parameters).complete = some block →
      block (registrationError accepting) = [] := by
    intro block given
    cases given
    rfl
  obtain ⟨process, run, log⟩ := runCalls_first [] quiet
  have registered : registrations process.log = [kGDTAppID] := by
    rw [log]
    rfl
  have completed : completions 0 process.log = [(none, true)] := by
    rw [log]
    rfl
  refine ⟨fun ⟨other, ran, same, error, result, answered, holds⟩ => ?_, fun ⟨same, holds⟩ => ?_⟩
  · rw [run] at ran
    have equal := Option.some.inj ran
    subst other
    rw [completed] at answered
    rw [registered] at same
    obtain ⟨rfl, rfl⟩ := Prod.mk.inj (List.cons.inj answered).1
    exact ⟨same.symm, holds⟩
  · exact ⟨process, run, registered.trans same.symm, none, true, completed, holds⟩

theorem Agree.appId_eq {parameters : NSDictionary} (agree : Agree parameters) :
    parameters kGDTAppID = some kGDTAppID := by
  cases found : parameters kGDTAppID with
  | none =>
      have initialized := (agree.absent found).1 0
      have refused := (initializes_firstCall.mp initialized).2
      exact absurd rfl refused
  | some appId =>
      have initialized := (agree.present appId found).1 0
      have same := (initializes_firstCall.mp initialized).1
      rw [(List.cons.inj same).1]

/-- Initialisation follows the cache only for the dictionary that names the key
itself as its app id. -/
theorem agree_iff (parameters : NSDictionary) :
    Agree parameters ↔ parameters kGDTAppID = some kGDTAppID := by
  refine ⟨Agree.appId_eq, fun found => ⟨fun appId same => ?_, fun absent => ?_⟩⟩
  · rw [found] at same
    obtain rfl := Option.some.inj same
    refine ⟨fun adapter => initializes_firstCall.mpr ⟨rfl, rfl⟩,
      updateInitializationParameters_of_some found, fun process adapter => ?_⟩
    refine ⟨cachedParameters kGDTAppID, ?_, fun ids => ?_⟩
    · rw [updateInitializationParameters_of_some found]
    · rw [initializes_firstCall, initializes_firstCall]
  · rw [found] at absent
    cases absent

theorem applicationId_not_agree : ¬ Agree (cachedParameters "1105344611") := by
  intro agree
  have same := agree.appId_eq
  exact absurd same (by decide)

end GDTAdapter.MEGDTAdapter
