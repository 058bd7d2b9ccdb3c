import GDTAdapter.Foundation
import GDTAdapter.Reactive.History
import Mathlib.Data.List.Infix

namespace GDTAdapter.Mediation

open Reactive

/-! # The configuration of the networks

`MEConfigManager` holds what the server has configured for the scenes of the app,
`MEAdNetworkManager` the networks it was told of, and `StrategyFactory` how often
the scenes have been shown.
-/

/-- `MEAdAgentTypeAll` is the same number as `MEAdAgentTypeNone`. -/
inductive MEAdAgentType where
  | none
  | gdt
  | buad
  | admob
  | facebook
  | ks
  | valpub
  | mobiSDK
deriving DecidableEq, Repr

/-- A class, by its name. -/
abbrev AdapterClass := String

/-- The networks that `configAdNetworksWithConfigInfo:` knows, by their abbreviations. -/
def knownNetworks : List (String × MEAdAgentType) :=
  [("tt", .buad), ("gdt", .gdt), ("ks", .ks), ("gdt2", .valpub), ("admob", .admob),
    ("fb", .facebook), ("mobisdk", .mobiSDK)]

def agentTypeOfSdk? (sdk : String) : Option MEAdAgentType :=
  (knownNetworks.find? fun known => known.1 = sdk).map Prod.snd

def adapterClassName : MEAdAgentType → AdapterClass
  | .none => ""
  | .gdt => "MEGDTAdapter"
  | .buad => "MEBUADAdapter"
  | .admob => "MEAdombAdapter"
  | .facebook => "MEFBAdapter"
  | .ks => "MEKSAdapter"
  | .valpub => "MEValpubAdapter"
  | .mobiSDK => "MEMobipubAdapter"

theorem mem_knownNetworks {sdk : String} {agentType : MEAdAgentType}
    (known : agentTypeOfSdk? sdk = some agentType) : (sdk, agentType) ∈ knownNetworks := by
  obtain ⟨entry, found, same⟩ := Option.map_eq_some_iff.mp known
  have member := List.mem_of_find?_eq_some found
  have isSdk := List.find?_some found
  rw [decide_eq_true_eq] at isSdk
  rwa [← isSdk, ← same]

theorem adapterClassName_inj {agentType other : MEAdAgentType}
    (same : adapterClassName agentType = adapterClassName other) : agentType = other := by
  cases agentType <;> cases other <;> simp [adapterClassName] at same ⊢

theorem agentTypeOfSdk?_ne_none {sdk : String} : agentTypeOfSdk? sdk ≠ some .none := by
  intro known
  have real : ∀ entry ∈ knownNetworks, entry.2 ≠ .none := by decide
  exact real _ (mem_knownNetworks known) rfl

/-- No two abbreviations stand for one network. -/
theorem agentTypeOfSdk?_inj {sdk other : String} {agentType : MEAdAgentType}
    (known : agentTypeOfSdk? sdk = some agentType)
    (otherKnown : agentTypeOfSdk? other = some agentType) : sdk = other := by
  have injective : ∀ entry ∈ knownNetworks, ∀ other ∈ knownNetworks, entry.2 = other.2 →
      entry.1 = other.1 := by decide
  exact injective _ (mem_knownNetworks known) _ (mem_knownNetworks otherKnown) rfl

structure MEConfigInfo where
  sdk : Option String
  appid : Option String
deriving DecidableEq, Repr

/-- `posid` is that of its `parameter`. -/
structure MEConfigNetwork where
  sdk : Option String
  posid : Option String
deriving DecidableEq, Repr

/-- `network` is sorted by `order`; `sortType` is its `intValue`. -/
structure MEConfigList where
  posid : Option String
  sortType : Int
  sortParameter : List String
  network : List MEConfigNetwork
deriving DecidableEq, Repr

structure MEAdNetworkModel where
  appid : Option String
  sdk : String
  agentType : MEAdAgentType
  adapterClass : Option AdapterClass
  known : agentTypeOfSdk? sdk = some agentType
  named : ∀ name, adapterClass = some name → name = adapterClassName agentType

/-- `linked` are the adapter classes that `NSClassFromString` finds. -/
def configAdNetworksWithConfigInfo (linked : List AdapterClass) (infoArr : List MEConfigInfo)
    (adNetworks : List MEAdNetworkModel) : List MEAdNetworkModel :=
  adNetworks ++ infoArr.filterMap fun info =>
    info.sdk.bind fun sdk =>
      match known : agentTypeOfSdk? sdk with
      | none => none
      | some agentType =>
          some {
            appid := info.appid
            sdk
            agentType
            adapterClass :=
              if adapterClassName agentType ∈ linked then some (adapterClassName agentType) else none
            known
            named := by
              intro name isName
              split at isName
              · exact (Option.some.inj isName).symm
              · cases isName }

def getNetworkNameFromAgentType (adNetworks : List MEAdNetworkModel) (agentType : MEAdAgentType) :
    Option String :=
  (adNetworks.find? fun model => model.agentType = agentType).map MEAdNetworkModel.sdk

/-- The source compares the abbreviations by pointer.  All it knows are short
enough to be tagged pointers, which are equal just if the texts are. -/
def getAgentTypeFromNetworkName (adNetworks : List MEAdNetworkModel) (sdk : Option String) :
    MEAdAgentType :=
  ((adNetworks.find? fun model => sdk = some model.sdk).map MEAdNetworkModel.agentType).getD .none

def getAdapterClassFromAgentType (adNetworks : List MEAdNetworkModel) (agentType : MEAdAgentType) :
    Option AdapterClass :=
  (adNetworks.find? fun model => model.agentType = agentType).bind MEAdNetworkModel.adapterClass

/-- `configDic`: each scene is found under its own id. -/
structure ConfigDic where
  lookup : String → Option MEConfigList
  keyed : ∀ sceneId listInfo, lookup sceneId = some listInfo → listInfo.posid = some sceneId

namespace ConfigDic

def empty : ConfigDic where
  lookup _ := none
  keyed _ _ found := nomatch found

def insert (dic : ConfigDic) (sceneId : String) (listInfo : MEConfigList)
    (same : listInfo.posid = some sceneId) : ConfigDic where
  lookup key := if key = sceneId then some listInfo else dic.lookup key
  keyed key found other := by
    split at other
    · next isKey =>
        cases other
        rw [isKey, same]
    · exact dic.keyed key found other

end ConfigDic

structure MEConfigSdkInfo where
  mid : Option String
  info : List MEConfigInfo
deriving DecidableEq, Repr

/-- What is read of a configuration; `adAdkReqTimeout` is its `doubleValue`. -/
structure MEConfigBaseClass where
  list : List MEConfigList
  sdkInfo : List MEConfigSdkInfo
  adAdkReqTimeout : ℚ
deriving DecidableEq, Repr

/-- `MEConfigManager` together with the dictionary of `StrategyFactory` and the
networks of `MEAdNetworkManager`. -/
structure Configured where
  platformAppid : String := ""
  configDic : Option ConfigDic := none
  sdkInfo : Option (List MEConfigInfo) := none
  sdkInfoArr : List MEConfigInfo := []
  adRequestTimeout : ℚ := 0
  sceneIdFrequencyDic : String → Option Nat := fun _ => none
  adNetworks : List MEAdNetworkModel := []

namespace Configured

def listInfo (self : Configured) (sceneId : String) : Option MEConfigList :=
  self.configDic.bind fun dic => dic.lookup sceneId

def setFrequency (sceneId : String) (index : Nat) (self : Configured) : Configured :=
  { self with
      sceneIdFrequencyDic key := if key = sceneId then some index else self.sceneIdFrequencyDic key }

/-- `containsString:`, which finds no empty string. -/
def containsString (text part : String) : Bool :=
  part ≠ "" && decide (part.toList <:+: text.toList)

/-- One scene of a new configuration.  A rotation without networks is left at
its start, as a division by zero gives zero on the devices. -/
def dispatchScene (self : Configured) (listInfo : MEConfigList) : Configured :=
  match same : listInfo.posid with
  | none => self
  | some sceneId =>
      if containsString sceneId self.platformAppid then
        let self :=
          { self with
              configDic := some ((self.configDic.getD .empty).insert sceneId listInfo same) }
        if listInfo.sortType = 4 then self.setFrequency sceneId (0 % listInfo.sortParameter.length)
        else self
      else self

def dispatchConfigDicWithResponseObj (response : MEConfigBaseClass) (self : Configured) : Configured :=
  let self := response.list.foldl dispatchScene { self with configDic := some .empty, sdkInfo := none }
  let self :=
    match response.sdkInfo.find? fun sdkInfo => sdkInfo.mid = some self.platformAppid with
    | none => self
    | some sdkInfo => { self with sdkInfoArr := sdkInfo.info, sdkInfo := some sdkInfo.info }
  { self with adRequestTimeout := response.adAdkReqTimeout / 1000 }

/-- `+[StrategyFactory changeAdFrequencyWithSceneId:]` -/
def changeAdFrequencyWithSceneId (sceneId : String) (self : Configured) : Configured :=
  match self.sceneIdFrequencyDic sceneId with
  | none => self
  | some index =>
      match (self.listInfo sceneId).map fun listInfo => listInfo.sortParameter.length with
      | none => self
      | some count => if count = 0 then self else self.setFrequency sceneId ((index + 1) % count)

/-- The next network to try after `agentType` has failed. -/
def nextAdPlatform (self : Configured) (sceneId : String) (agentType : MEAdAgentType) :
    MEAdAgentType :=
  match self.listInfo sceneId with
  | none => .none
  | some listInfo =>
      if listInfo.posid = some sceneId then
        let others := listInfo.network.filter fun network =>
          !(network.sdk.isSome && network.sdk = getNetworkNameFromAgentType self.adNetworks agentType)
        ((others.map fun network => getAgentTypeFromNetworkName self.adNetworks network.sdk).find?
          fun agentType => agentType ≠ .none).getD .none
      else .none

end Configured

end GDTAdapter.Mediation
