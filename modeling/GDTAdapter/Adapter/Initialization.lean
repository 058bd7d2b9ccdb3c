import GDTAdapter.Foundation
import GDTAdapter.Reactive.Once

namespace GDTAdapter.MEGDTAdapter

open Reactive

/-! # Network initialisation of MEGDTAdapter -/

abbrev NSDictionary := String → Option String

def kGDTAppID : String := "appid"

/-- One call of `initializeNetworkWithConfiguration:complete:`.  A completion
block is given by the further calls it makes, which may depend on the error it is
handed; `none` is a nil block. -/
inductive InitializeCall where
  | mk (adapter : Nat) (configuration : NSDictionary)
      (complete : Option (Option NSError → List InitializeCall))

namespace InitializeCall

def configuration : InitializeCall → NSDictionary
  | mk _ configuration _ => configuration

def complete : InitializeCall → Option (Option NSError → List InitializeCall)
  | mk _ _ complete => complete

end InitializeCall

/-- What can be observed of a process: calls are numbered in the order they are
entered, and an event carries whether GDT was registered when it happened. -/
inductive Event where
  | entered (call : Nat) (complete : Bool) (configuration : NSDictionary)
  | registerAppId (appId : String) (result : Bool)
  | completed (call : Nat) (error : Option NSError) (registered : Bool)
  | returned (call : Nat) (registered : Bool)

structure Process where
  onceToken : Once := .fresh
  registered : Bool := false
  cachedInitializationParameters : Option NSDictionary := none
  entered : Nat := 0
  log : List Event := []

namespace Process

def record (event : Event) (process : Process) : Process :=
  { process with log := process.log ++ [event] }

def setOnceToken (onceToken : Once) (process : Process) : Process :=
  { process with onceToken }

def registerAppId (appId : String) (result : Bool) (process : Process) : Process :=
  { process with registered := process.registered || result }.record (.registerAppId appId result)

end Process

def notReadyError : NSError where
  domain := "MobiRewardedVideoAdsSDKDomain"
  code := -1401
  localizedDescription := some "Rewarded ad is not ready to be presented."

mutual
/-- The one-time block reads the configured id and registers the name of its key.
`gdt call appId` is the answer of the SDK if that call asks it to register `appId`. -/
def initializeNetwork (gdt : Nat → String → Bool) : InitializeCall → Process → Option Process
  | .mk _adapter configuration complete, process =>
      let call := process.entered
      let entered : Process := { process with entered := call + 1 }.record
        (.entered call complete.isSome configuration)
      (Once.dispatch Process.onceToken Process.setOnceToken (fun process =>
        let _appid := configuration kGDTAppID
        let result := gdt call kGDTAppID
        let process := process.registerAppId kGDTAppID result
        if result then runComplete gdt call none complete process
        else runComplete gdt call (some notReadyError) complete process) entered).map
          (fun process => process.record (.returned call process.registered))

def runComplete (gdt : Nat → String → Bool) (call : Nat) (error : Option NSError) :
    Option (Option NSError → List InitializeCall) → Process → Option Process
  | none, process => some process
  | some block, process =>
      runCalls gdt (block error) (process.record (.completed call error process.registered))

def runCalls (gdt : Nat → String → Bool) : List InitializeCall → Process → Option Process
  | [], process => some process
  | call :: rest, process => (initializeNetwork gdt call process).bind (runCalls gdt rest)
end

def updateInitializationParameters (parameters : NSDictionary) (process : Process) : Process :=
  match parameters kGDTAppID with
  | some appId =>
      let configuration : NSDictionary := fun key => if key = kGDTAppID then some appId else none
      { process with cachedInitializationParameters := some configuration }
  | none => process

end GDTAdapter.MEGDTAdapter
