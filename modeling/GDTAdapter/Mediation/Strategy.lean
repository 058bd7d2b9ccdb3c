import GDTAdapter.Mediation.Config

namespace GDTAdapter.Mediation

open Reactive

/-! # StrategyFactory

The strategy of a scene chooses the networks to ask: one at a time, the first of
the list or the next of a fixed rotation, or all of them at once.
-/

structure StrategyResultModel where
  posid : Option String
  sceneId : String
  platformType : MEAdAgentType
  targetAdapterClass : Option AdapterClass
deriving DecidableEq, Repr

namespace Configured

def resultModel (sceneId : String) (network : MEConfigNetwork) (platformType : MEAdAgentType)
    (self : Configured) : StrategyResultModel where
  posid := network.posid
  sceneId := sceneId
  platformType := platformType
  targetAdapterClass := getAdapterClassFromAgentType self.adNetworks platformType

/-- `getExecuteAdapterModelsWithTargetPlatformType:listInfo:sceneId:`.  Nil is the
empty array here; nobody tells them apart. -/
def targetModels (platformType : MEAdAgentType) (listInfo : MEConfigList) (sceneId : String)
    (self : Configured) : List StrategyResultModel :=
  if listInfo.posid = some sceneId ∧ platformType ≠ .none then
    match getNetworkNameFromAgentType self.adNetworks platformType with
    | none => []
    | some name =>
        match listInfo.network.find? fun network => network.sdk = some name with
        | none => []
        | some network => [self.resultModel sceneId network platformType]
  else []

def assignStrategy1 (listInfo : MEConfigList) (sceneId : String) (platformType : MEAdAgentType)
    (self : Configured) : List StrategyResultModel :=
  if listInfo.posid ≠ some sceneId then []
  else if platformType ≠ .none then self.targetModels platformType listInfo sceneId
  else
    let platformType :=
      match listInfo.network with
      | [] => platformType
      | network :: _ => getAgentTypeFromNetworkName self.adNetworks network.sdk
    self.targetModels platformType listInfo sceneId

/-- An index beyond the rotation would raise an exception; there is none. -/
def assignStrategy4 (listInfo : MEConfigList) (sceneId : String) (platformType : MEAdAgentType)
    (self : Configured) : List StrategyResultModel :=
  if listInfo.posid ≠ some sceneId then []
  else if platformType ≠ .none then self.targetModels platformType listInfo sceneId
  else
    let platformType :=
      match self.sceneIdFrequencyDic sceneId with
      | none => platformType
      | some index =>
          if listInfo.sortParameter ≠ [] ∧ listInfo.sortType = 4 then
            getAgentTypeFromNetworkName self.adNetworks listInfo.sortParameter[index]?
          else platformType
    self.targetModels platformType listInfo sceneId

def assignStrategy5 (listInfo : MEConfigList) (sceneId : String) (platformType : MEAdAgentType)
    (self : Configured) : List StrategyResultModel :=
  if listInfo.posid ≠ some sceneId then []
  else if platformType ≠ .none then self.targetModels platformType listInfo sceneId
  else if listInfo.sortType = 5 then
    listInfo.network.map fun network =>
      self.resultModel sceneId network (getAgentTypeFromNetworkName self.adNetworks network.sdk)
  else []

/-- `getPosidBySortTypeWithPlatform:SceneId:` -/
def getPosidBySortType (platformType : MEAdAgentType) (sceneId : String) (self : Configured) :
    List StrategyResultModel :=
  match self.listInfo sceneId with
  | none => []
  | some listInfo =>
      if listInfo.sortType = 1 then self.assignStrategy1 listInfo sceneId platformType
      else if listInfo.sortType = 4 then self.assignStrategy4 listInfo sceneId platformType
      else if listInfo.sortType = 5 then self.assignStrategy5 listInfo sceneId platformType
      else []

theorem listInfo_posid {self : Configured} {sceneId : String} {listInfo : MEConfigList}
    (found : self.listInfo sceneId = some listInfo) : listInfo.posid = some sceneId := by
  obtain ⟨dic, -, found⟩ := Option.bind_eq_some_iff.mp found
  exact dic.keyed sceneId listInfo found

/-- It moves the index of the scene, if anything. -/
theorem changeAdFrequency_cases (self : Configured) (sceneId : String) :
    self.changeAdFrequencyWithSceneId sceneId = self ∨
      ∃ index, self.changeAdFrequencyWithSceneId sceneId = self.setFrequency sceneId index := by
  unfold changeAdFrequencyWithSceneId
  split
  · exact .inl rfl
  · split
    · exact .inl rfl
    · split
      · exact .inl rfl
      · exact .inr ⟨_, rfl⟩

theorem changeAdFrequency_adNetworks (self : Configured) (sceneId : String) :
    (self.changeAdFrequencyWithSceneId sceneId).adNetworks = self.adNetworks := by
  obtain same | ⟨index, moved⟩ := self.changeAdFrequency_cases sceneId
  · rw [same]
  · rw [moved, setFrequency]

theorem changeAdFrequency_listInfo (self : Configured) (shown sceneId : String) :
    (self.changeAdFrequencyWithSceneId shown).listInfo sceneId = self.listInfo sceneId := by
  obtain same | ⟨index, moved⟩ := self.changeAdFrequency_cases shown
  · rw [same]
  · rw [moved, setFrequency, listInfo, listInfo]

theorem changeAdFrequency_of_found {self : Configured} {sceneId : String} {index : Nat}
    {listInfo : MEConfigList} (stands : self.sceneIdFrequencyDic sceneId = some index)
    (found : self.listInfo sceneId = some listInfo) (nonempty : listInfo.sortParameter ≠ []) :
    self.changeAdFrequencyWithSceneId sceneId =
      self.setFrequency sceneId ((index + 1) % listInfo.sortParameter.length) := by
  have several : ¬ listInfo.sortParameter.length = 0 :=
    fun empty => nonempty (List.length_eq_zero_iff.mp empty)
  simp only [changeAdFrequencyWithSceneId, stands, found, Option.map_some, if_neg several]

inductive Input where
  | dispatch (response : MEConfigBaseClass)
  | shown (sceneId : String)

def step (self : Configured) : Input → Configured × List Empty
  | .dispatch response => (self.dispatchConfigDicWithResponseObj response, [])
  | .shown sceneId => (self.changeAdFrequencyWithSceneId sceneId, [])

/-- Configurations come from the disk and the server at any time. -/
def machine : Machine Configured Input Empty where
  enabled _ _ := True
  step := step

/-- How often the scene has been shown since the last configuration. -/
def shows (sceneId : String) (inputs : List Input) : Nat :=
  inputs.foldl (fun count input =>
    match input with
    | .dispatch _ => 0
    | .shown other => if other = sceneId then count + 1 else count) 0

section Rotation

variable {self : Configured} {sceneId : String} {count : Nat}

/-- A rotation of the scene stands where `count` shows have taken it. -/
def Rotated (sceneId : String) (count : Nat) (self : Configured) : Prop :=
  ∀ listInfo, self.listInfo sceneId = some listInfo → listInfo.sortType = 4 →
    listInfo.sortParameter ≠ [] →
      self.sceneIdFrequencyDic sceneId = some (count % listInfo.sortParameter.length)

theorem Rotated.dispatchScene (rotated : self.Rotated sceneId 0) (listInfo : MEConfigList) :
    (self.dispatchScene listInfo).Rotated sceneId 0 := by
  unfold Configured.dispatchScene
  split
  · exact rotated
  · next key same =>
      split
      · intro found isFound rotates nonempty
        by_cases other : sceneId = key
        · subst other
          have isNew : listInfo = found := by
            split at isFound <;> simpa [Configured.listInfo, ConfigDic.insert, setFrequency] using isFound
          subst isNew
          simp [rotates, setFrequency]
        · have wasFound : self.listInfo sceneId = some found := by
            cases dic : self.configDic with
            | none =>
                split at isFound <;>
                  simp [Configured.listInfo, ConfigDic.insert, setFrequency, other, dic,
                    ConfigDic.empty] at isFound
            | some dic' =>
                split at isFound <;>
                  simpa [Configured.listInfo, ConfigDic.insert, setFrequency, other, dic] using isFound
          have kept := rotated found wasFound rotates nonempty
          split
          · simpa [setFrequency, other] using kept
          · exact kept
      · exact rotated

theorem rotated_dispatch (response : MEConfigBaseClass) (self : Configured) :
    (self.dispatchConfigDicWithResponseObj response).Rotated sceneId 0 := by
  have start : Rotated sceneId 0 { self with configDic := some .empty, sdkInfo := none } := by
    intro listInfo found
    cases found
  have folded : ∀ (list : List MEConfigList) (self : Configured), self.Rotated sceneId 0 →
      (list.foldl Configured.dispatchScene self).Rotated sceneId 0 := by
    intro list
    induction list with
    | nil => exact fun _ rotated => rotated
    | cons listInfo rest ih => exact fun self rotated => ih _ (rotated.dispatchScene listInfo)
  have all := folded response.list _ start
  unfold dispatchConfigDicWithResponseObj
  dsimp only
  split <;> exact all

theorem Rotated.shown (rotated : self.Rotated sceneId count) (other : String) :
    (self.changeAdFrequencyWithSceneId other).Rotated sceneId
      (if other = sceneId then count + 1 else count) := by
  intro listInfo found rotates nonempty
  rw [changeAdFrequency_listInfo] at found
  have before := rotated listInfo found rotates nonempty
  by_cases same : other = sceneId
  · subst same
    rw [if_pos rfl, changeAdFrequency_of_found before found nonempty]
    simp [setFrequency, Nat.add_mod]
  · have elsewhere : ¬ sceneId = other := fun isSame => same isSame.symm
    rw [if_neg same]
    obtain unmoved | ⟨index, moved⟩ := self.changeAdFrequency_cases other
    · rw [unmoved]
      exact before
    · rw [moved]
      simpa [setFrequency, elsewhere] using before

theorem rotated_after {platformAppid : String} {adNetworks : List MEAdNetworkModel}
    (inputs : List Input) :
    (machine.after { platformAppid, adNetworks } inputs).Rotated sceneId (shows sceneId inputs) := by
  induction inputs using List.reverseRecOn with
  | nil =>
      intro listInfo found
      cases found
  | append_singleton inputs input ih =>
      rw [Machine.after_append]
      have counted : shows sceneId (inputs ++ [input]) =
          match input with
          | .dispatch _ => 0
          | .shown other =>
              if other = sceneId then shows sceneId inputs + 1 else shows sceneId inputs := by
        rw [shows, List.foldl_append]
        cases input <;> rfl
      rw [counted]
      cases input with
      | dispatch response => exact rotated_dispatch response _
      | shown other => exact ih.shown other

/-- The index of a scene that is shown in a nonempty rotation is where its shows have
taken it, however often the configuration is replaced.  So it is in range, and the
scene asks for the network that stands there. -/
theorem rotates {platformAppid : String} {adNetworks : List MEAdNetworkModel} {inputs : List Input}
    {listInfo : MEConfigList}
    (found : (machine.after { platformAppid, adNetworks } inputs).listInfo sceneId = some listInfo)
    (rotates : listInfo.sortType = 4) (nonempty : listInfo.sortParameter ≠ []) :
    ∃ index sdk,
      (machine.after { platformAppid, adNetworks } inputs).sceneIdFrequencyDic sceneId = some index ∧
      index = shows sceneId inputs % listInfo.sortParameter.length ∧
      index < listInfo.sortParameter.length ∧
      listInfo.sortParameter[index]? = some sdk ∧
      (machine.after { platformAppid, adNetworks } inputs).getPosidBySortType .none sceneId =
        (machine.after { platformAppid, adNetworks } inputs).targetModels
          (getAgentTypeFromNetworkName
            (machine.after { platformAppid, adNetworks } inputs).adNetworks (some sdk))
          listInfo sceneId := by
  have inRange : shows sceneId inputs % listInfo.sortParameter.length <
      listInfo.sortParameter.length := Nat.mod_lt _ (List.length_pos_iff.mpr nonempty)
  have element := List.getElem?_eq_getElem inRange
  have index := rotated_after inputs listInfo found rotates nonempty
  refine ⟨_, _, index, rfl, inRange, element, ?_⟩
  simp [getPosidBySortType, found, rotates, assignStrategy4, listInfo_posid found, index, nonempty,
    element]

end Rotation

/-- GDT and BUAD take turns in a scene of the app. -/
def takesTurns : MEConfigList where
  posid := some "app7"
  sortType := 4
  sortParameter := ["gdt", "tt"]
  network := [{ sdk := some "tt", posid := some "a" }, { sdk := some "gdt", posid := some "b" }]

def shownTwice : List Input :=
  [.dispatch { list := [takesTurns], sdkInfo := [], adAdkReqTimeout := 0 }, .shown "app7", .shown "app7"]

def twoNetworks : Configured where
  platformAppid := "app"
  adNetworks :=
    configAdNetworksWithConfigInfo ["MEGDTAdapter", "MEBUADAdapter"]
      [{ sdk := some "gdt", appid := some "1" }, { sdk := some "tt", appid := some "2" }] []

theorem shownTwice_rotates :
    ∃ index sdk,
      (machine.after twoNetworks shownTwice).sceneIdFrequencyDic "app7" = some index ∧
      index = shows "app7" shownTwice % 2 ∧ index < 2 ∧
      takesTurns.sortParameter[index]? = some sdk ∧
      (machine.after twoNetworks shownTwice).getPosidBySortType .none "app7" =
        (machine.after twoNetworks shownTwice).targetModels
          (getAgentTypeFromNetworkName (machine.after twoNetworks shownTwice).adNetworks (some sdk))
          takesTurns "app7" := by
  have found : (machine.after twoNetworks shownTwice).listInfo "app7" = some takesTurns := rfl
  exact rotates found rfl (List.cons_ne_nil _ _)

end Configured

end GDTAdapter.Mediation
