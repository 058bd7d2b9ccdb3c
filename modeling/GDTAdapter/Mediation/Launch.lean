import GDTAdapter.Mediation.Told

namespace GDTAdapter.Mediation

open Reactive

/-! # The launch of the networks

`MEConfigManager` launches the networks once, as soon as it has heard of a
configuration: from the disk, from the server, or that there is none.
-/

/-- `finished` is the block that was handed over last, by its number, and
`requests` counts the requests that are not answered. -/
structure MEConfigManager where
  configured : Configured := {}
  isInit : Bool := false
  finished : Option Nat := none
  loads : Nat := 0
  diskCache : Option MEConfigBaseClass
  requests : Nat := 0

inductive LaunchEvent where
  | launchAdPlatform (adapterClass : AdapterClass) (appid : Option String)
  | requestPlatformConfig (appid : String)
  | finished (load : Nat)
deriving DecidableEq, Repr

def LaunchEvent.launched? : LaunchEvent → Option (AdapterClass × Option String)
  | .launchAdPlatform adapterClass appid => some (adapterClass, appid)
  | _ => none

def LaunchEvent.finished? : LaunchEvent → Option Nat
  | .finished load => some load
  | _ => none

/-- How a network is launched, if its adapter is linked in. -/
def MEAdNetworkModel.launch? (model : MEAdNetworkModel) : Option (AdapterClass × Option String) :=
  model.adapterClass.map fun adapterClass => (adapterClass, model.appid)

namespace MEConfigManager

/-- `assignPlatform` and `initPlatform`; `launchAdNetwork` always succeeds. -/
def assignPlatform (linked : List AdapterClass) (self : MEConfigManager) :
    MEConfigManager × List LaunchEvent :=
  let adNetworks :=
    configAdNetworksWithConfigInfo linked self.configured.sdkInfoArr self.configured.adNetworks
  ({ self with configured := { self.configured with adNetworks }, isInit := true },
    (adNetworks.filterMap MEAdNetworkModel.launch?).map (fun launch =>
        .launchAdPlatform launch.1 launch.2) ++
      (self.finished.map .finished).toList)

def readDiskCache (self : MEConfigManager) : MEConfigManager :=
  match self.diskCache with
  | none => self
  | some response =>
      { self with configured := self.configured.dispatchConfigDicWithResponseObj response }

def tryToLaunchPlatform (linked : List AdapterClass) (self : MEConfigManager) :
    MEConfigManager × List LaunchEvent :=
  if self.configured.configDic.isNone then (self, [])
  else
    let configured :=
      { self.configured with sdkInfoArr := self.configured.sdkInfo.getD [] }
    { self with configured }.assignPlatform linked

def called (appid : String) (self : MEConfigManager) : MEConfigManager :=
  { self with
      configured := { self.configured with platformAppid := appid }
      finished := some self.loads
      loads := self.loads + 1 }

def loadWithAppID (linked : List AdapterClass) (appid : String) (self : MEConfigManager) :
    MEConfigManager × List LaunchEvent :=
  if self.isInit then ({ self with loads := self.loads + 1 }, [])
  else
    let (self, events) := (self.called appid).readDiskCache.tryToLaunchPlatform linked
    ({ self with requests := self.requests + 1 }, events ++ [.requestPlatformConfig appid])

/-- The result of `requestPlatformConfig`; `written` says whether the file was. -/
def receive (linked : List AdapterClass) (response : Option MEConfigBaseClass) (written : Bool)
    (self : MEConfigManager) : MEConfigManager × List LaunchEvent :=
  let self := { self with requests := self.requests - 1 }
  let self :=
    match response with
    | none => self
    | some response =>
        { self with
            diskCache := if written then some response else self.diskCache
            configured := self.configured.dispatchConfigDicWithResponseObj response }
  if self.isInit then (self, []) else self.assignPlatform linked

inductive Input where
  | loadWithAppID (appid : String)
  | receive (response : Option MEConfigBaseClass) (written : Bool)

def step (linked : List AdapterClass) (self : MEConfigManager) :
    Input → MEConfigManager × List LaunchEvent
  | .loadWithAppID appid => self.loadWithAppID linked appid
  | .receive response written => self.receive linked response written

def machine (linked : List AdapterClass) : Machine MEConfigManager Input LaunchEvent where
  enabled self input :=
    match input with
    | .loadWithAppID _ => True
    | .receive _ _ => 0 < self.requests
  step := step linked

/-- A configuration, the app it is for and the call that waits for it. -/
structure Heard where
  load : Nat
  appid : String
  response : Option MEConfigBaseClass

/-- The networks that a configuration names for its app. -/
def Heard.infos (heard : Heard) : List MEConfigInfo :=
  match heard.response with
  | none => []
  | some response =>
      ((response.sdkInfo.find? fun sdkInfo => sdkInfo.mid = some heard.appid).map
        MEConfigSdkInfo.info).getD []

/-- What a run hears first, after `loads` calls of which the last one was for `appid`. -/
def firstHeard (diskCache : Option MEConfigBaseClass) (loads : Nat) (appid : String) :
    List Input → Option Heard
  | [] => none
  | .loadWithAppID appid :: rest =>
      if diskCache.isSome then some { load := loads, appid, response := diskCache }
      else firstHeard diskCache (loads + 1) appid rest
  | .receive response _ :: _ => some { load := loads - 1, appid, response }

end MEConfigManager

namespace Configured

variable {self : Configured}

/-- What a scene of a configuration leaves alone. -/
theorem dispatchScene_frame (listInfo : MEConfigList) :
    (self.dispatchScene listInfo).platformAppid = self.platformAppid ∧
      (self.dispatchScene listInfo).adNetworks = self.adNetworks ∧
      (self.dispatchScene listInfo).sdkInfo = self.sdkInfo ∧
      (self.dispatchScene listInfo).sdkInfoArr = self.sdkInfoArr ∧
      (self.configDic.isSome = true → (self.dispatchScene listInfo).configDic.isSome = true) := by
  unfold dispatchScene
  split
  · exact ⟨rfl, rfl, rfl, rfl, id⟩
  · dsimp only
    split
    · split
      · exact ⟨rfl, rfl, rfl, rfl, fun _ => rfl⟩
      · exact ⟨rfl, rfl, rfl, rfl, fun _ => rfl⟩
    · exact ⟨rfl, rfl, rfl, rfl, id⟩

theorem dispatchScenes_frame (list : List MEConfigList) :
    (list.foldl dispatchScene self).platformAppid = self.platformAppid ∧
      (list.foldl dispatchScene self).adNetworks = self.adNetworks ∧
      (list.foldl dispatchScene self).sdkInfo = self.sdkInfo ∧
      (list.foldl dispatchScene self).sdkInfoArr = self.sdkInfoArr ∧
      (self.configDic.isSome = true → (list.foldl dispatchScene self).configDic.isSome = true) := by
  induction list generalizing self with
  | nil => exact ⟨rfl, rfl, rfl, rfl, id⟩
  | cons listInfo rest ih =>
      obtain ⟨appid, networks, info, infos, dic⟩ := self.dispatchScene_frame listInfo
      obtain ⟨laterAppid, laterNetworks, laterInfo, laterInfos, laterDic⟩ :=
        @ih (self.dispatchScene listInfo)
      exact ⟨laterAppid.trans appid, laterNetworks.trans networks, laterInfo.trans info,
        laterInfos.trans infos, laterDic ∘ dic⟩

/-- The networks of a configuration are told apart by the app they are for. -/
theorem dispatchConfigDic_infos (response : MEConfigBaseClass) :
    (self.dispatchConfigDicWithResponseObj response).platformAppid = self.platformAppid ∧
      (self.dispatchConfigDicWithResponseObj response).adNetworks = self.adNetworks ∧
      (self.dispatchConfigDicWithResponseObj response).configDic.isSome = true ∧
      (self.dispatchConfigDicWithResponseObj response).sdkInfo =
        (response.sdkInfo.find? fun sdkInfo => sdkInfo.mid = some self.platformAppid).map
          MEConfigSdkInfo.info ∧
      (self.dispatchConfigDicWithResponseObj response).sdkInfoArr =
        ((response.sdkInfo.find? fun sdkInfo => sdkInfo.mid = some self.platformAppid).map
          MEConfigSdkInfo.info).getD self.sdkInfoArr := by
  obtain ⟨appid, networks, info, infos, dic⟩ :=
    @dispatchScenes_frame { self with configDic := some .empty, sdkInfo := none } response.list
  unfold dispatchConfigDicWithResponseObj
  dsimp only at appid networks info infos dic ⊢
  rw [appid]
  cases response.sdkInfo.find? fun sdkInfo => sdkInfo.mid = some self.platformAppid with
  | none => exact ⟨appid, networks, dic rfl, info, infos⟩
  | some sdkInfo => exact ⟨rfl, networks, dic rfl, rfl, rfl⟩

end Configured

namespace MEConfigManager

variable {linked : List AdapterClass} {self : MEConfigManager} {diskCache : Option MEConfigBaseClass}
variable {loads : Nat} {appid : String}

/-- The networks that are launched for what is heard first. -/
def networks (linked : List AdapterClass) (heard : Option Heard) : List MEAdNetworkModel :=
  (heard.map fun heard => configAdNetworksWithConfigInfo linked heard.infos []).getD []

/-- All that is known after the launch, or before it if nothing was heard. -/
structure Launched (linked : List AdapterClass) (heard : Option Heard) (manager : MEConfigManager)
    (events : List LaunchEvent) : Prop where
  isInit : manager.isInit = heard.isSome
  adNetworks : manager.configured.adNetworks = networks linked heard
  launched : events.filterMap LaunchEvent.launched? = (networks linked heard).filterMap MEAdNetworkModel.launch?
  finished : events.filterMap LaunchEvent.finished? = (heard.map Heard.load).toList

/-- A manager that has not heard of a configuration yet. -/
structure Fresh (diskCache : Option MEConfigBaseClass) (loads : Nat) (appid : String)
    (manager : MEConfigManager) : Prop where
  isInit : manager.isInit = false
  adNetworks : manager.configured.adNetworks = []
  sdkInfoArr : manager.configured.sdkInfoArr = []
  configDic : manager.configured.configDic = none
  platformAppid : manager.configured.platformAppid = appid
  finished : manager.finished = if loads = 0 then none else some (loads - 1)
  unasked : loads = 0 → manager.requests = 0
  counted : manager.loads = loads
  cached : manager.diskCache = diskCache

theorem launched?_launches (launches : List (AdapterClass × Option String)) :
    (launches.map fun launch => LaunchEvent.launchAdPlatform launch.1 launch.2).filterMap
      LaunchEvent.launched? = launches := by
  induction launches with
  | nil => rfl
  | cons launch rest ih => simpa [LaunchEvent.launched?] using ih

theorem finished?_launches (launches : List (AdapterClass × Option String)) :
    (launches.map fun launch => LaunchEvent.launchAdPlatform launch.1 launch.2).filterMap
      LaunchEvent.finished? = [] := by
  rw [List.filterMap_eq_nil_iff]
  intro event member
  obtain ⟨launch, -, rfl⟩ := List.mem_map.mp member
  rfl

theorem assignPlatform_launched {heard : Heard} (unlaunched : self.configured.adNetworks = [])
    (infos : self.configured.sdkInfoArr = heard.infos) (finished : self.finished = some heard.load) :
    Launched linked (some heard) (self.assignPlatform linked).1 (self.assignPlatform linked).2 := by
  unfold assignPlatform
  rw [unlaunched, infos, finished]
  constructor
  case isInit => rfl
  case adNetworks => rfl
  case launched =>
    rw [List.filterMap_append, launched?_launches]
    exact List.append_nil _
  case finished =>
    rw [List.filterMap_append, finished?_launches]
    rfl

theorem tryToLaunchPlatform_launched {heard : Heard} {dic : ConfigDic}
    (configured : self.configured.configDic = some dic)
    (unlaunched : self.configured.adNetworks = [])
    (infos : self.configured.sdkInfo.getD [] = heard.infos) (finished : self.finished = some heard.load) :
    Launched linked (some heard) (self.tryToLaunchPlatform linked).1
      (self.tryToLaunchPlatform linked).2 := by
  unfold tryToLaunchPlatform
  rw [configured, Option.isNone_some, if_neg Bool.false_ne_true]
  exact assignPlatform_launched unlaunched infos finished

theorem Launched.asked {heard : Option Heard} {events : List LaunchEvent}
    (launched : Launched linked heard self events) (requests : Nat) :
    Launched linked heard { self with requests } (events ++ [.requestPlatformConfig appid]) where
  isInit := launched.isInit
  adNetworks := launched.adNetworks
  launched := by
    rw [List.filterMap_append, launched.launched]
    exact List.append_nil _
  finished := by
    rw [List.filterMap_append, launched.finished]
    exact List.append_nil _

/-- A call for an app while a configuration is on the disk. -/
theorem Fresh.reads {response : MEConfigBaseClass} (fresh : self.Fresh (some response) loads appid)
    (newAppid : String) :
    Launched linked (some { load := loads, appid := newAppid, response := some response })
      (self.loadWithAppID linked newAppid).1 (self.loadWithAppID linked newAppid).2 := by
  obtain ⟨-, networks, dic, info, -⟩ :=
    @Configured.dispatchConfigDic_infos (self.called newAppid).configured response
  obtain ⟨configDic, isDic⟩ := Option.isSome_iff_exists.mp dic
  have read : (self.called newAppid).readDiskCache =
      { self.called newAppid with
          configured :=
            (self.called newAppid).configured.dispatchConfigDicWithResponseObj response } := by
    have isCached : (self.called newAppid).diskCache = some response := fresh.cached
    unfold readDiskCache
    split
    · next absent =>
        rw [isCached] at absent
        cases absent
    · next other found =>
        rw [isCached] at found
        cases found
        rfl
  unfold loadWithAppID
  rw [fresh.isInit, if_neg Bool.false_ne_true, read]
  refine Launched.asked (tryToLaunchPlatform_launched isDic ?_ ?_ ?_) _
  · exact networks.trans fresh.adNetworks
  · exact congrArg (fun info => info.getD []) info
  · exact congrArg some fresh.counted

/-- A call for an app while there is nothing on the disk. -/
theorem Fresh.calls (fresh : self.Fresh none loads appid) (newAppid : String) :
    (self.loadWithAppID linked newAppid).1.Fresh none (loads + 1) newAppid ∧
      (self.loadWithAppID linked newAppid).2 = [.requestPlatformConfig newAppid] := by
  have read : (self.called newAppid).readDiskCache = self.called newAppid := by
    have notCached : (self.called newAppid).diskCache = none := fresh.cached
    rw [readDiskCache, notCached]
  have notTried : (self.called newAppid).tryToLaunchPlatform linked = (self.called newAppid, []) := by
    have noDic : (self.called newAppid).configured.configDic = none := fresh.configDic
    rw [tryToLaunchPlatform, noDic, Option.isNone_none, if_pos rfl]
  unfold loadWithAppID
  rw [fresh.isInit, if_neg Bool.false_ne_true, read, notTried]
  refine ⟨?_, rfl⟩
  exact {
    isInit := fresh.isInit
    adNetworks := fresh.adNetworks
    sdkInfoArr := fresh.sdkInfoArr
    configDic := fresh.configDic
    platformAppid := rfl
    finished := congrArg some fresh.counted
    unasked := fun absurd => nomatch absurd
    counted := congrArg (· + 1) fresh.counted
    cached := fresh.cached }

theorem Fresh.hears (fresh : self.Fresh diskCache loads appid) (asked : 0 < self.requests)
    (response : Option MEConfigBaseClass) (written : Bool) :
    Launched linked (some { load := loads - 1, appid, response })
      (self.receive linked response written).1 (self.receive linked response written).2 := by
  have called : loads ≠ 0 := fun uncalled => Nat.ne_of_gt asked (fresh.unasked uncalled)
  have finished : self.finished = some (loads - 1) := by rw [fresh.finished, if_neg called]
  unfold receive
  cases response with
  | none =>
      dsimp only
      rw [fresh.isInit, if_neg Bool.false_ne_true]
      exact assignPlatform_launched fresh.adNetworks fresh.sdkInfoArr finished
  | some response =>
      obtain ⟨-, networks, -, -, infos⟩ :=
        @Configured.dispatchConfigDic_infos self.configured response
      dsimp only
      rw [fresh.isInit, if_neg Bool.false_ne_true]
      refine assignPlatform_launched (networks.trans fresh.adNetworks) (infos.trans ?_) finished
      rw [fresh.sdkInfoArr, fresh.platformAppid]
      rfl

/-- A manager that has launched its networks launches none again. -/
theorem launched_step (isInit : self.isInit = true) (input : Input) :
    (self.step linked input).1.isInit = true ∧
      (self.step linked input).1.configured.adNetworks = self.configured.adNetworks ∧
      (self.step linked input).2 = [] := by
  cases input with
  | loadWithAppID appid =>
      change (self.loadWithAppID linked appid).1.isInit = true ∧ _
      rw [step, loadWithAppID, if_pos isInit]
      exact ⟨isInit, rfl, rfl⟩
  | receive response written =>
      cases response with
      | none =>
          rw [step, receive]
          dsimp only
          rw [if_pos isInit]
          exact ⟨isInit, rfl, rfl⟩
      | some response =>
          obtain ⟨-, networks, -⟩ := @Configured.dispatchConfigDic_infos self.configured response
          rw [step, receive]
          dsimp only
          rw [if_pos isInit]
          exact ⟨isInit, networks, rfl⟩

theorem launched_run {heard : Option Heard} {events : List LaunchEvent}
    (launched : Launched linked heard self events) (isInit : self.isInit = true)
    (inputs : List Input) :
    Launched linked heard ((machine linked).after self inputs)
      (events ++ (machine linked).trace self inputs) := by
  induction inputs generalizing self with
  | nil =>
      rw [Machine.trace_nil, List.append_nil]
      exact launched
  | cons input rest ih =>
      obtain ⟨stillInit, same, silent⟩ := @launched_step linked self isInit input
      have here : Launched linked heard (self.step linked input).1 events :=
        { launched with
          isInit := by rw [stillInit, ← launched.isInit, isInit]
          adNetworks := same.trans launched.adNetworks }
      have isSilent : (machine linked).emit self input = [] := silent
      rw [Machine.trace_cons, isSilent, List.nil_append]
      exact ih here stillInit

theorem fresh_run (fresh : self.Fresh diskCache loads appid) {inputs : List Input}
    (runs : (machine linked).Runs self inputs) :
    Launched linked (firstHeard diskCache loads appid inputs) ((machine linked).after self inputs)
      ((machine linked).trace self inputs) := by
  induction inputs generalizing self loads appid with
  | nil =>
      exact {
        isInit := fresh.isInit
        adNetworks := fresh.adNetworks
        launched := rfl
        finished := rfl }
  | cons input rest ih =>
      obtain ⟨enabled, later⟩ := runs
      cases input with
      | loadWithAppID newAppid =>
          cases diskCache with
          | none =>
              obtain ⟨still, silent⟩ := @Fresh.calls linked self loads appid fresh newAppid
              have isSilent : (machine linked).emit self (.loadWithAppID newAppid) =
                  [.requestPlatformConfig newAppid] := silent
              have launched := ih still later
              rw [Machine.trace_cons, isSilent]
              exact { launched with }
          | some response =>
              have launched := @Fresh.reads linked self loads appid response fresh newAppid
              exact launched_run launched launched.isInit rest
      | receive response written =>
          have launched := @Fresh.hears linked self diskCache loads appid fresh enabled response written
          exact launched_run launched launched.isInit rest

theorem fresh_initial : Fresh diskCache 0 "" { diskCache } where
  isInit := rfl
  adNetworks := rfl
  sdkInfoArr := rfl
  configDic := rfl
  platformAppid := rfl
  finished := rfl
  unasked _ := rfl
  counted := rfl
  cached := rfl

/-- The networks are launched once, each with its own app id, as the configuration
says that is heard of first: one on the disk, or what the server answers first, if
it does.  Nothing that is heard later changes them, and of all the blocks that were
handed over the last one before that is called, once. -/
theorem launched_by_first {linked : List AdapterClass} {diskCache : Option MEConfigBaseClass}
    {inputs : List Input} (runs : (machine linked).Runs { diskCache } inputs) :
    Launched linked (firstHeard diskCache 0 "" inputs)
      ((machine linked).after { diskCache } inputs) ((machine linked).trace { diskCache } inputs) :=
  fresh_run fresh_initial runs

/-- An answer that names a network of the app. -/
def naming (sdk : String) : MEConfigBaseClass where
  list :=
    [{ posid := some "app1"
       sortType := 1
       sortParameter := []
       network := [{ sdk := some "gdt", posid := some "8" }] }]
  sdkInfo := [{ mid := some "app", info := [{ sdk := some sdk, appid := some "1" }] }]
  adAdkReqTimeout := 0

/-- Of two blocks and two answers the second block and the first answer count. -/
def answeredFirst : List Input :=
  [.loadWithAppID "app", .loadWithAppID "app", .receive (some (naming "gdt")) true,
    .receive (some (naming "tt")) true]

theorem answeredFirst_runs :
    (machine ["MEGDTAdapter", "MEBUADAdapter"]).Runs { diskCache := none } answeredFirst :=
  ⟨trivial, trivial, Nat.zero_lt_two, Nat.one_pos, trivial⟩

theorem answeredFirst_launched :
    Launched ["MEGDTAdapter", "MEBUADAdapter"] (firstHeard none 0 "" answeredFirst)
        ((machine ["MEGDTAdapter", "MEBUADAdapter"]).after { diskCache := none } answeredFirst)
        ((machine ["MEGDTAdapter", "MEBUADAdapter"]).trace { diskCache := none } answeredFirst) ∧
      firstHeard none 0 "" answeredFirst =
        some { load := 1, appid := "app", response := some (naming "gdt") } :=
  ⟨launched_by_first answeredFirst_runs, rfl⟩

end MEConfigManager

namespace Manager

variable {format : Format} {self : Manager}

/-- No network has been launched, and none is asked. -/
def AsksNobody (result : Manager × List Output) : Prop :=
  result.1.configured.adNetworks = [] ∧ ∀ model, .load model ∉ result.2

theorem ask_asksNobody {sceneId : String} {platform : MEAdAgentType} {assignment : Assignment}
    (nobody : self.configured.adNetworks = [])
    (found : self.search sceneId platform = some assignment) :
    AsksNobody (self.ask sceneId assignment) := by
  have unlinked : ∀ model ∈ assignment.asked, linked? model = none := by
    intro model member
    rcases Configured.assignWithin_cases found with ⟨-, -, -, chosen, isChosen⟩ | ⟨-, silent, -⟩
    · rw [isChosen] at member
      obtain ⟨-, -, -, isClass⟩ := Configured.mem_getPosidBySortType member
      rw [linked?, isClass, nobody]
      rfl
    · rw [silent] at member
      cases member
  refine ⟨nobody, fun other member => ?_⟩
  obtain ⟨model, asked, sent⟩ := List.mem_flatMap.mp member
  rw [unlinked model asked] at sent
  simp at sent

theorem AsksNobody.append {result : Manager × List Output} (asks : AsksNobody result)
    {outputs : List Output} (others : ∀ model, .load model ∉ outputs) :
    AsksNobody (result.1, result.2 ++ outputs) := by
  refine ⟨asks.1, fun model member => ?_⟩
  rcases List.mem_append.mp member with asked | other
  · exact asks.2 model asked
  · exact others model other

theorem stop_asks (model : StrategyResultModel) :
    .load model ∉ self.stopAdapterAndRemoveFromAssignResultArr.2 := by
  intro member
  obtain ⟨other, -, same⟩ := List.mem_map.mp member
  cases same

theorem load_asksNobody {sceneId : String} (nobody : self.configured.adNetworks = [])
    {result : Manager × List Output} (ends : self.load format sceneId = some result) :
    AsksNobody result := by
  obtain ⟨assignment, found, rfl⟩ := Option.map_eq_some_iff.mp ends
  have asks := @ask_asksNobody { self with requestCount := 0 } sceneId _ assignment nobody found
  dsimp only
  split
  · split
    · exact asks
    · exact asks
  · refine asks.append fun model member => ?_
    rw [List.mem_singleton] at member
    cases member

theorem adapterShowFailure_asksNobody {adapter : MEBaseAdapter} {error : NSError}
    (nobody : self.configured.adNetworks = []) {result : Manager × List Output}
    (ends : self.adapterShowFailure format adapter error = some result) : AsksNobody result := by
  rcases adapterShowFailure_cases ends with
    ⟨-, rfl⟩ | ⟨-, ⟨-, -, assignment, found, rfl⟩ | ⟨-, rfl⟩ | ⟨-, count, rfl⟩⟩
  · exact ⟨nobody, fun _ => List.not_mem_nil⟩
  · exact ask_asksNobody nobody found
  · refine ⟨nobody, fun model member => ?_⟩
    rw [List.mem_singleton] at member
    cases member
  · exact ⟨nobody, fun _ => List.not_mem_nil⟩

theorem step_asksNobody (nobody : self.configured.adNetworks = []) (input : Input) :
    AsksNobody (self.step format input) := by
  have silent : AsksNobody (self, []) := ⟨nobody, fun _ => List.not_mem_nil⟩
  have tells : ∀ (manager : Manager) (output : Output), manager.configured.adNetworks = [] →
      (∀ model, output ≠ .load model) → AsksNobody (manager, [output]) := by
    intro manager output still other
    refine ⟨still, fun model member => ?_⟩
    exact other model (List.mem_singleton.mp member).symm
  have shown (sceneId : String) := (self.configured.changeAdFrequency_adNetworks sceneId).trans nobody
  cases input with
  | load sceneId =>
      rw [step]
      cases ends : self.load format sceneId with
      | none => exact silent
      | some result => exact load_asksNobody nobody ends
  | configure input =>
      refine ⟨?_, fun _ => List.not_mem_nil⟩
      cases input with
      | dispatch response =>
          exact (@Configured.dispatchConfigDic_infos self.configured response).2.1.trans nobody
      | shown sceneId => exact shown sceneId
  | adapterLoadSuccess adapter =>
      rw [step]
      cases loaded : self.hasSuccessfullyLoaded with
      | true =>
          rw [adapterLoadSuccess_again (by exact loaded)]
          exact ⟨nobody, fun _ => List.not_mem_nil⟩
      | false =>
          obtain ⟨next, isNext, -, -, -, same⟩ :=
            @adapterLoadSuccess_first format (self.answer adapter) adapter loaded
          rw [isNext]
          refine ⟨same.trans nobody, fun model member => ?_⟩
          rcases List.mem_append.mp member with stop | finished
          · exact stop_asks model stop
          · cases List.mem_singleton.mp finished
  | adapterShowFailure adapter error =>
      rw [step]
      cases ends : (self.answer adapter).adapterShowFailure format adapter error with
      | none => exact silent
      | some result =>
          exact @adapterShowFailure_asksNobody format (self.answer adapter) adapter error nobody
            result ends
  | requestTimeout =>
      refine ⟨nobody, fun model member => ?_⟩
      rcases List.mem_append.mp member with told | stop
      · cases timeoutError : format.timeoutError <;> simp [timeoutError] at told
      · exact stop_asks model stop
  | adapterShowSuccess adapter =>
      unfold step adapterShowSuccess
      dsimp only
      split
      · exact tells _ _ nobody (by simp)
      · exact tells _ _ (shown adapter.sceneId) (by simp)
  | adapterClose adapter =>
      unfold step adapterClose
      dsimp only
      split
      · exact tells _ _ nobody (by simp)
      · split
        · exact tells _ _ nobody (by simp)
        · exact tells _ _ nobody (by simp)

theorem run_asksNobody (nobody : self.configured.adNetworks = []) (inputs : List Input)
    (model : StrategyResultModel) : .load model ∉ (machine format).trace self inputs := by
  induction inputs generalizing self with
  | nil => exact List.not_mem_nil
  | cons input rest ih =>
      obtain ⟨still, silent⟩ := @step_asksNobody format self nobody input
      rw [Machine.trace_cons]
      intro member
      rcases List.mem_append.mp member with here | there
      · exact silent model here
      · exact ih still there

/-- Where there is no configuration on the disk and the first answer of the server is
an error, no manager asks any network for an ad as long as the app runs, whatever
the server answers later. -/
theorem asks_nobody_after_error {linked : List AdapterClass} {appids : List String} {written : Bool}
    {later : List MEConfigManager.Input}
    (runs : (MEConfigManager.machine linked).Runs { diskCache := none }
      (appids.map .loadWithAppID ++ .receive none written :: later))
    (shared : self.configured.adNetworks =
      ((MEConfigManager.machine linked).after { diskCache := none }
        (appids.map .loadWithAppID ++ .receive none written :: later)).configured.adNetworks)
    (inputs : List Input) (model : StrategyResultModel) :
    .load model ∉ (machine format).trace self inputs := by
  have first : ∀ (appids : List String) (loads : Nat) (appid : String), ∃ heard,
      MEConfigManager.firstHeard none loads appid
        (appids.map .loadWithAppID ++ .receive none written :: later) = some heard ∧
      heard.infos = [] := by
    intro appids
    induction appids with
    | nil => exact fun loads appid => ⟨_, rfl, rfl⟩
    | cons newAppid rest ih => exact fun loads appid => ih (loads + 1) newAppid
  obtain ⟨heard, isFirst, named⟩ := first appids 0 ""
  have launched := MEConfigManager.fresh_run MEConfigManager.fresh_initial runs
  rw [isFirst] at launched
  have none : MEConfigManager.networks linked (some heard) = [] := by
    change configAdNetworksWithConfigInfo linked heard.infos [] = []
    rw [named]
    rfl
  exact run_asksNobody (shared.trans (launched.adNetworks.trans none)) inputs model

/-- The first answer is an error, the second one names GDT and a scene. -/
def errorFirst : List MEConfigManager.Input :=
  [.loadWithAppID "app", .loadWithAppID "app", .receive none true,
    .receive (some (MEConfigManager.naming "gdt")) true]

/-- GDT is asked for the scene if the order of the answers is the other one. -/
theorem errorFirst_asks_nobody :
    .load { posid := some "8", sceneId := "app1", platformType := .gdt,
            targetAdapterClass := some "MEGDTAdapter" } ∉
        (machine MERewardedVideoManager).trace
          { configured :=
              ((MEConfigManager.machine ["MEGDTAdapter"]).after { diskCache := none }
                errorFirst).configured }
          [.load "app1"] ∧
      .load { posid := some "8", sceneId := "app1", platformType := .gdt,
              targetAdapterClass := some "MEGDTAdapter" } ∈
        (machine MERewardedVideoManager).trace
          { configured :=
              ((MEConfigManager.machine ["MEGDTAdapter"]).after { diskCache := none }
                [.loadWithAppID "app", .loadWithAppID "app",
                  .receive (some (MEConfigManager.naming "gdt")) true, .receive none true]).configured }
          [.load "app1"] := by
  refine ⟨?_, ?_⟩
  · refine @asks_nobody_after_error MERewardedVideoManager _ ["MEGDTAdapter"] ["app", "app"] true
      [.receive (some (MEConfigManager.naming "gdt")) true] ?_ rfl [.load "app1"] _
    exact ⟨trivial, trivial, Nat.zero_lt_two, Nat.one_pos, trivial⟩
  · decide +kernel

end Manager

end GDTAdapter.Mediation
