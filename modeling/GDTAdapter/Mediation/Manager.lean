import GDTAdapter.Mediation.Assign
import GDTAdapter.Reactive.Observer

namespace GDTAdapter.Mediation

open Reactive

/-! # The managers of the formats

`MERewardedVideoManager`, `MEInterstitialAdManager`, `MEFeedAdManager` and
`MESplashAdManager` are one manager with a few differences.  It asks the networks
that `StrategyFactory` chooses and reports to the app what becomes of the load.

A call that an adapter makes while it is asked is taken as the next step.
-/

/-- What the managers do differently.  `timeoutError` is what the app hears when
the time is up, if anything. -/
structure Format where
  retries : Bool
  guardsFailure : Bool
  timesOut : Bool
  timeoutError : Option NSError
  keepsByScene : Bool
  reopens : Bool
  countsLoads : Bool

def assignFailed : NSError where
  domain := "adv assign failed"
  code := 0
  localizedDescription := some "分配失败"

def MERewardedVideoManager : Format where
  retries := true
  guardsFailure := true
  timesOut := true
  timeoutError := some {
    domain := "sceneId can not be nil"
    code := 0
    localizedDescription := some "视频弹出失败" }
  keepsByScene := false
  reopens := true
  countsLoads := false

/-- The only one whose app hears of failures after an ad has loaded. -/
def MEInterstitialAdManager : Format where
  retries := true
  guardsFailure := false
  timesOut := true
  timeoutError := some {
    domain := "request time out"
    code := 0
    localizedDescription := some "插屏弹出失败" }
  keepsByScene := false
  reopens := true
  countsLoads := false

def MEFeedAdManager : Format where
  retries := true
  guardsFailure := true
  timesOut := true
  timeoutError := none
  keepsByScene := true
  reopens := false
  countsLoads := true

def MESplashAdManager : Format where
  retries := false
  guardsFailure := true
  timesOut := false
  timeoutError := none
  keepsByScene := true
  reopens := false
  countsLoads := false

/-- An adapter as it is when it calls back. -/
structure MEBaseAdapter where
  platformType : MEAdAgentType
  posid : String
  sceneId : String
deriving DecidableEq, Repr

/-- A manager beside the configuration it reads.  `timeouts` counts the timeouts
that are scheduled, and `unanswered` lists the networks that were asked and have
not answered; a network that is told to stop may still answer. -/
structure Manager where
  configured : Configured
  requestCount : Nat := 0
  hasSuccessfullyLoaded : Bool := false
  needToStop : Bool := false
  assignResultArr : List StrategyResultModel := []
  currentAdapters : List (String × MEBaseAdapter) := []
  timeouts : Nat := 0
  unanswered : List MEAdAgentType := []

inductive Output where
  | load (model : StrategyResultModel)
  | track (sceneId : String) (platformType : MEAdAgentType)
  | stop (model : StrategyResultModel)
  | finished
  | failed (error : NSError)
  | showFinished
  | close
deriving DecidableEq, Repr

namespace Manager

/-- The network that a result reaches. -/
def linked? (model : StrategyResultModel) : Option MEAdAgentType :=
  model.targetAdapterClass.map fun _ => model.platformType

/-- The search for a network.  Three calls are enough, or none are. -/
def search (sceneId : String) (platform : MEAdAgentType) (self : Manager) : Option Assignment :=
  self.configured.assignWithin sceneId 3 platform self.assignResultArr

def ask (sceneId : String) (assignment : Assignment) (self : Manager) : Manager × List Output :=
  ({ self with
      assignResultArr := assignment.assignResultArr
      unanswered := self.unanswered ++ assignment.asked.filterMap linked? },
    assignment.asked.flatMap fun model =>
      (if (linked? model).isSome then [.load model] else []) ++ [.track sceneId model.platformType])

/-- `loadRewardedVideoWithSceneId:finished:failed:` and its like; `none` if the
search goes on for ever. -/
def load (format : Format) (sceneId : String) (self : Manager) : Option (Manager × List Output) :=
  let self := { self with requestCount := 0 }
  (self.search sceneId .none).map fun assignment =>
    let (self, outputs) := self.ask sceneId assignment
    if assignment.returned then
      if format.timesOut && decide (self.configured.adRequestTimeout ≠ 0) then
        ({ self with timeouts := self.timeouts + 1 }, outputs)
      else (self, outputs)
    else (self, outputs ++ [.failed assignFailed])

/-- `removeAssignResultArrObjectWithAdapter:` -/
def removeAssignResult (adapter : MEBaseAdapter) (self : Manager) : Manager :=
  { self with
      assignResultArr := self.assignResultArr.eraseP fun model =>
        model.targetAdapterClass = some (adapterClassName adapter.platformType) }

def stopAdapterAndRemoveFromAssignResultArr (self : Manager) : Manager × List Output :=
  ({ self with needToStop := true, assignResultArr := [] },
    (self.assignResultArr.filter fun model => (linked? model).isSome).map .stop)

/-- `adapterVideoLoadSuccess:` and its like. -/
def adapterLoadSuccess (format : Format) (adapter : MEBaseAdapter) (self : Manager) :
    Manager × List Output :=
  if self.hasSuccessfullyLoaded then (self, [])
  else
    let key := if format.keepsByScene then adapter.sceneId else adapter.posid
    let self :=
      { self with
          timeouts := 0
          hasSuccessfullyLoaded := true
          currentAdapters := (key, adapter) :: self.currentAdapters.filter fun entry => entry.1 ≠ key }
    let (self, outputs) := (self.removeAssignResult adapter).stopAdapterAndRemoveFromAssignResultArr
    let self := { self with requestCount := 0 }
    let self :=
      if format.countsLoads then
        { self with configured := self.configured.changeAdFrequencyWithSceneId adapter.sceneId }
      else self
    (self, outputs ++ [.finished])

/-- Where a failed load is tried again. -/
def retryPlatform (adapter : MEBaseAdapter) (self : Manager) : MEAdAgentType :=
  self.configured.nextAdPlatform adapter.sceneId adapter.platformType

/-- `adapter:videoShowFailure:` and its like; `none` if the search for another
network goes on for ever.  Whether that network is found is not looked at. -/
def adapterShowFailure (format : Format) (adapter : MEBaseAdapter) (error : NSError)
    (self : Manager) : Option (Manager × List Output) :=
  let self := self.removeAssignResult adapter
  if format.guardsFailure && self.hasSuccessfullyLoaded then some (self, [])
  else
    let self := if format.retries then { self with requestCount := self.requestCount + 1 } else self
    if format.retries && decide (self.requestCount < 2) && self.assignResultArr.isEmpty &&
        !self.needToStop then
      (self.search adapter.sceneId (self.retryPlatform adapter)).map fun assignment =>
        self.ask adapter.sceneId assignment
    else if self.assignResultArr.isEmpty then
      some ({ self with requestCount := 0 }, [.failed error])
    else some (self, [])

def requestTimeout (format : Format) (self : Manager) : Manager × List Output :=
  let (self, outputs) := { self with timeouts := self.timeouts - 1 }.stopAdapterAndRemoveFromAssignResultArr
  (self, (format.timeoutError.map Output.failed).toList ++ outputs)

def adapterShowSuccess (format : Format) (adapter : MEBaseAdapter) (self : Manager) :
    Manager × List Output :=
  if format.countsLoads then (self, [.showFinished])
  else
    ({ self with configured := self.configured.changeAdFrequencyWithSceneId adapter.sceneId },
      [.showFinished])

def adapterClose (format : Format) (adapter : MEBaseAdapter) (self : Manager) :
    Manager × List Output :=
  if format.reopens then
    ({ self with hasSuccessfullyLoaded := false, needToStop := false }, [.close])
  else if format.countsLoads then
    ({ self with
        currentAdapters := self.currentAdapters.filter fun entry => entry.1 ≠ adapter.sceneId },
      [.close])
  else (self, [.close])

inductive Input where
  | load (sceneId : String)
  | configure (input : Configured.Input)
  | adapterLoadSuccess (adapter : MEBaseAdapter)
  | adapterShowFailure (adapter : MEBaseAdapter) (error : NSError)
  | requestTimeout
  | adapterShowSuccess (adapter : MEBaseAdapter)
  | adapterClose (adapter : MEBaseAdapter)

def answer (adapter : MEBaseAdapter) (self : Manager) : Manager :=
  { self with unanswered := self.unanswered.erase adapter.platformType }

def step (format : Format) (self : Manager) : Input → Manager × List Output
  | .load sceneId => (self.load format sceneId).getD (self, [])
  | .configure input => ({ self with configured := (self.configured.step input).1 }, [])
  | .adapterLoadSuccess adapter => (self.answer adapter).adapterLoadSuccess format adapter
  | .adapterShowFailure adapter error =>
      ((self.answer adapter).adapterShowFailure format adapter error).getD (self, [])
  | .requestTimeout => self.requestTimeout format
  | .adapterShowSuccess adapter => self.adapterShowSuccess format adapter
  | .adapterClose adapter => self.adapterClose format adapter

/-- A network answers once for each time it is asked, and the search for a
network comes to an end. -/
def enabled (format : Format) (self : Manager) : Input → Prop
  | .load sceneId => (self.load format sceneId).isSome = true
  | .adapterLoadSuccess adapter => adapter.platformType ∈ self.unanswered
  | .adapterShowFailure adapter error =>
      adapter.platformType ∈ self.unanswered ∧
        ((self.answer adapter).adapterShowFailure format adapter error).isSome = true
  | .requestTimeout => 0 < self.timeouts
  | _ => True

def machine (format : Format) : Machine Manager Input Output where
  enabled := enabled format
  step := step format

end Manager

end GDTAdapter.Mediation
