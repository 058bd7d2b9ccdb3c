import GDTAdapter.Mediation.Strategy
import GDTAdapter.Reactive.Walk

namespace GDTAdapter.Mediation

open Reactive

/-! # The search for a network

All managers assign networks to a load in the same way.  A network that is to be
asked alone and whose adapter is not linked in is passed over for the next one.
-/

/-- What `assignAdPlatformAndShow` leaves behind: the array of the results, the
networks it has gone through and what it has returned. -/
structure Assignment where
  assignResultArr : List StrategyResultModel
  asked : List StrategyResultModel
  returned : Bool
deriving DecidableEq, Repr

namespace Configured

/-- `assignAdPlatformAndShow:platform:`, or `assignAdPlatformAndShowLogic1…`, with
at most `fuel` calls of itself; `none` if it is still running then. -/
def assignWithin (sceneId : String) (self : Configured) :
    Nat → MEAdAgentType → List StrategyResultModel → Option Assignment
  | 0, _, _ => none
  | fuel + 1, targetPlatform, assignResultArr =>
      match self.getPosidBySortType targetPlatform sceneId with
      | [] => some { assignResultArr, asked := [], returned := false }
      | [model] =>
          if model.targetAdapterClass.isNone then
            let nextPlatform := self.nextAdPlatform sceneId model.platformType
            if nextPlatform = .none then
              some { assignResultArr := [model], asked := [], returned := false }
            else assignWithin sceneId self fuel nextPlatform [model]
          else some { assignResultArr := [model], asked := [model], returned := true }
      | models => some { assignResultArr := models, asked := models, returned := true }

/-- The network that is tried in place of a chosen one without an adapter. -/
def passedOver (sceneId : String) (self : Configured) (platform : MEAdAgentType) :
    Option MEAdAgentType :=
  match self.getPosidBySortType platform sceneId with
  | [model] =>
      if model.targetAdapterClass.isNone then
        let nextPlatform := self.nextAdPlatform sceneId model.platformType
        if nextPlatform = .none then none else some nextPlatform
      else none
  | _ => none

variable {self : Configured} {sceneId : String}

/-- The search is a walk from one network to the next. -/
theorem assignWithin_isSome (fuel : Nat) (platform : MEAdAgentType)
    (assignResultArr : List StrategyResultModel) :
    (self.assignWithin sceneId fuel platform assignResultArr).isSome =
      (walk (self.passedOver sceneId) fuel platform).isSome := by
  induction fuel generalizing platform assignResultArr with
  | zero => rfl
  | succ fuel ih =>
      rw [assignWithin, walk, passedOver]
      cases chosen : self.getPosidBySortType platform sceneId with
      | nil => rfl
      | cons model rest =>
          cases rest with
          | cons other rest => rfl
          | nil =>
              by_cases missing : model.targetAdapterClass.isNone = true
              · simp only [missing, if_true]
                by_cases last : self.nextAdPlatform sceneId model.platformType = .none
                · simp only [last, if_true, Option.isSome_some]
                · simp only [last, if_false]
                  exact ih _ _
              · simp only [missing, if_false, Bool.false_eq_true, Option.isSome_some]

/-- The networks of a scene that are known, in their order. -/
def registered (adNetworks : List MEAdNetworkModel) (listInfo : MEConfigList) : List MEAdAgentType :=
  (listInfo.network.map fun network => getAgentTypeFromNetworkName adNetworks network.sdk).filter
    fun agentType => agentType ≠ .none

theorem networkName_of_agentType {adNetworks : List MEAdNetworkModel} {sdk : Option String}
    (real : getAgentTypeFromNetworkName adNetworks sdk ≠ .none) :
    sdk.isSome = true ∧
      getNetworkNameFromAgentType adNetworks (getAgentTypeFromNetworkName adNetworks sdk) = sdk := by
  unfold getAgentTypeFromNetworkName at real ⊢
  cases found : adNetworks.find? fun model => sdk = some model.sdk with
  | none =>
      rw [found] at real
      exact absurd rfl real
  | some model =>
      have same := List.find?_some found
      rw [decide_eq_true_eq] at same
      have member := List.mem_of_find?_eq_some found
      subst same
      refine ⟨rfl, ?_⟩
      unfold getNetworkNameFromAgentType
      cases named : adNetworks.find? fun other => other.agentType = model.agentType with
      | none =>
          have unlike := List.find?_eq_none.mp named model member
          rw [decide_eq_true_eq] at unlike
          exact absurd rfl unlike
      | some other =>
          have alike := List.find?_some named
          rw [decide_eq_true_eq] at alike
          have known := other.known
          rw [alike] at known
          have same := agentTypeOfSdk?_inj known model.known
          change (adNetworks.find? fun other => other.agentType = model.agentType).map _ = some model.sdk
          rw [named, Option.map_some, same]

theorem networkName_none (adNetworks : List MEAdNetworkModel) :
    getNetworkNameFromAgentType adNetworks .none = none := by
  have nameless : adNetworks.find? (fun model => model.agentType = .none) = none := by
    rw [List.find?_eq_none]
    intro model _ same
    rw [decide_eq_true_eq] at same
    have known := model.known
    rw [same] at known
    exact agentTypeOfSdk?_ne_none known
  rw [getNetworkNameFromAgentType, nameless, Option.map_none]

/-- Known networks are of one kind just if they have one abbreviation. -/
theorem named_alike_iff {adNetworks : List MEAdNetworkModel} {sdk other : Option String}
    (real : getAgentTypeFromNetworkName adNetworks other ≠ .none) :
    (other.isSome = true ∧
        other = getNetworkNameFromAgentType adNetworks (getAgentTypeFromNetworkName adNetworks sdk)) ↔
      getAgentTypeFromNetworkName adNetworks other = getAgentTypeFromNetworkName adNetworks sdk := by
  obtain ⟨present, named⟩ := networkName_of_agentType real
  constructor
  · rintro ⟨-, same⟩
    by_cases known : getAgentTypeFromNetworkName adNetworks sdk = .none
    · rw [known, networkName_none] at same
      rw [same] at present
      cases present
    · rw [(networkName_of_agentType known).2] at same
      rw [same]
  · intro alike
    rw [← alike]
    exact ⟨present, named.symm⟩

/-- A network is passed over for the first one of another kind. -/
theorem nextAdPlatform_eq {listInfo : MEConfigList} (found : self.listInfo sceneId = some listInfo)
    (sdk : Option String) :
    self.nextAdPlatform sceneId (getAgentTypeFromNetworkName self.adNetworks sdk) =
      ((registered self.adNetworks listInfo).find? fun agentType =>
        agentType ≠ getAgentTypeFromNetworkName self.adNetworks sdk).getD .none := by
  unfold nextAdPlatform registered
  simp only [found, listInfo_posid found, if_true]
  rw [List.find?_map, List.find?_filter, List.find?_filter, List.find?_map]
  congr 2
  apply congrArg (fun test => listInfo.network.find? test)
  funext network
  by_cases real : getAgentTypeFromNetworkName self.adNetworks network.sdk = .none
  · simp [real]
  · have alike := @named_alike_iff self.adNetworks sdk network.sdk real
    grind

/-- To take the first that is unlike the last one taken is to go back and forth. -/
theorem unlike_alternates {α : Type} [DecidableEq α] {elements : List α} {start first second third : α}
    (leads : elements.find? (fun element => element ≠ start) = some first)
    (leadsOn : elements.find? (fun element => element ≠ first) = some second)
    (leadsBack : elements.find? (fun element => element ≠ second) = some third) : third = first := by
  cases elements with
  | nil => cases leads
  | cons head rest =>
      have unlike := List.find?_some leads
      have unlikeFirst := List.find?_some leadsOn
      rw [decide_eq_true_eq] at unlike unlikeFirst
      by_cases isStart : head = start
      · subst isStart
        rw [List.find?_cons_of_pos (by simpa using unlike.symm)] at leadsOn
        cases leadsOn
        rw [leads] at leadsBack
        exact (Option.some.inj leadsBack).symm
      · rw [List.find?_cons_of_pos (by simpa using isStart)] at leads
        cases leads
        rw [List.find?_cons_of_pos (by simpa using unlikeFirst.symm)] at leadsBack
        exact (Option.some.inj leadsBack).symm

theorem mem_targetModels {platform : MEAdAgentType} {listInfo : MEConfigList}
    {model : StrategyResultModel} (member : model ∈ self.targetModels platform listInfo sceneId) :
    model.platformType = platform ∧
      model.targetAdapterClass = getAdapterClassFromAgentType self.adNetworks platform ∧
      ∃ sdk, getAgentTypeFromNetworkName self.adNetworks sdk = platform := by
  unfold targetModels at member
  split at member
  · split at member
    · cases member
    · next name named =>
        split at member
        · cases member
        · rw [List.mem_singleton.mp member]
          obtain ⟨entry, found, same⟩ := Option.map_eq_some_iff.mp named
          have alike := List.find?_some found
          rw [decide_eq_true_eq] at alike
          refine ⟨rfl, rfl, some name, ?_⟩
          unfold getAgentTypeFromNetworkName
          cases again : self.adNetworks.find? fun model => some name = some model.sdk with
          | none =>
              have unlike := List.find?_eq_none.mp again entry (List.mem_of_find?_eq_some found)
              rw [decide_eq_true_eq, same] at unlike
              exact absurd rfl unlike
          | some other =>
              have sameName := List.find?_some again
              rw [decide_eq_true_eq] at sameName
              have known := entry.known
              rw [same, Option.some.inj sameName, other.known] at known
              exact (Option.some.inj known).trans alike
  · cases member

/-- A strategy chooses one network, or all of the scene. -/
theorem getPosidBySortType_cases (self : Configured) (sceneId : String) (platform : MEAdAgentType) :
    self.getPosidBySortType platform sceneId = [] ∨
      ∃ listInfo, self.listInfo sceneId = some listInfo ∧
        ((∃ target, self.getPosidBySortType platform sceneId =
            self.targetModels target listInfo sceneId ∧ (platform ≠ .none → target = platform)) ∨
          platform = .none ∧ self.getPosidBySortType platform sceneId =
            listInfo.network.map fun network => self.resultModel sceneId network
              (getAgentTypeFromNetworkName self.adNetworks network.sdk)) := by
  cases found : self.listInfo sceneId with
  | none =>
      refine .inl ?_
      rw [getPosidBySortType, found]
  | some listInfo =>
      by_cases chosen : platform = .none
      · subst chosen
        simp only [getPosidBySortType, found, assignStrategy1, assignStrategy4, assignStrategy5,
          listInfo_posid found]
        by_cases first : listInfo.sortType = 1
        · exact .inr ⟨listInfo, rfl, .inl ⟨_, by simp [first]; rfl, fun real => absurd rfl real⟩⟩
        · by_cases rotates : listInfo.sortType = 4
          · exact .inr ⟨listInfo, rfl, .inl ⟨_, by simp [rotates]; rfl, fun real => absurd rfl real⟩⟩
          · by_cases all : listInfo.sortType = 5
            · exact .inr ⟨listInfo, rfl, .inr ⟨trivial, by simp [all]⟩⟩
            · exact .inl (by simp [first, rotates, all])
      · simp only [getPosidBySortType, found, assignStrategy1, assignStrategy4, assignStrategy5,
          listInfo_posid found]
        by_cases known : listInfo.sortType = 1 ∨ listInfo.sortType = 4 ∨ listInfo.sortType = 5
        · refine .inr ⟨listInfo, rfl, .inl ⟨platform, ?_, fun _ => rfl⟩⟩
          rcases known with known | known | known <;> simp [known, chosen]
        · obtain ⟨first, rotates, all⟩ : listInfo.sortType ≠ 1 ∧ listInfo.sortType ≠ 4 ∧
              listInfo.sortType ≠ 5 := by
            simpa [not_or] using known
          exact .inl (by simp [first, rotates, all])

/-- What is chosen for a load is one of the networks of the scene. -/
theorem mem_getPosidBySortType {platform : MEAdAgentType} {model : StrategyResultModel}
    (member : model ∈ self.getPosidBySortType platform sceneId) :
    (∃ listInfo, self.listInfo sceneId = some listInfo) ∧
      (∃ sdk, model.platformType = getAgentTypeFromNetworkName self.adNetworks sdk) ∧
      (platform ≠ .none → model.platformType = platform) ∧
      model.targetAdapterClass = getAdapterClassFromAgentType self.adNetworks model.platformType := by
  rcases self.getPosidBySortType_cases sceneId platform with
    empty | ⟨listInfo, found, ⟨target, targeted, same⟩ | ⟨any, all⟩⟩
  · rw [empty] at member
    cases member
  · rw [targeted] at member
    obtain ⟨isTarget, adapterClass, sdk, known⟩ := mem_targetModels member
    rw [← isTarget] at adapterClass
    exact ⟨⟨listInfo, found⟩, ⟨sdk, isTarget.trans known.symm⟩,
      fun real => isTarget.trans (same real), adapterClass⟩
  · rw [all] at member
    obtain ⟨network, -, rfl⟩ := List.mem_map.mp member
    exact ⟨⟨listInfo, found⟩, ⟨network.sdk, rfl⟩, fun real => absurd any real, rfl⟩

theorem find_of_next {listInfo : MEConfigList} {sdk : Option String}
    (found : self.listInfo sceneId = some listInfo) {next : MEAdAgentType} (real : next ≠ .none)
    (isNext : self.nextAdPlatform sceneId (getAgentTypeFromNetworkName self.adNetworks sdk) = next) :
    (registered self.adNetworks listInfo).find? (fun agentType =>
      agentType ≠ getAgentTypeFromNetworkName self.adNetworks sdk) = some next := by
  rw [nextAdPlatform_eq found] at isNext
  cases first : (registered self.adNetworks listInfo).find? fun agentType =>
      agentType ≠ getAgentTypeFromNetworkName self.adNetworks sdk with
  | none =>
      rw [first] at isNext
      exact absurd isNext.symm real
  | some agentType =>
      rw [first, Option.getD_some] at isNext
      exact congrArg some isNext

/-- Where a strategy has chosen anything, it finds the networks it is told to take. -/
theorem chosen_of_next {platform : MEAdAgentType} {listInfo : MEConfigList} {sdk : Option String}
    (chosen : self.getPosidBySortType platform sceneId ≠ [])
    (found : self.listInfo sceneId = some listInfo) {next : MEAdAgentType} (real : next ≠ .none)
    (isNext : self.nextAdPlatform sceneId (getAgentTypeFromNetworkName self.adNetworks sdk) = next) :
    ∃ model, self.getPosidBySortType next sceneId = [model] := by
  have strategy : listInfo.sortType = 1 ∨ listInfo.sortType = 4 ∨ listInfo.sortType = 5 := by
    by_contra unknown
    obtain ⟨first, rotates, all⟩ : listInfo.sortType ≠ 1 ∧ listInfo.sortType ≠ 4 ∧
        listInfo.sortType ≠ 5 := by
      simpa [not_or] using unknown
    exact chosen (by simp [getPosidBySortType, found, first, rotates, all])
  have targeted : self.getPosidBySortType next sceneId = self.targetModels next listInfo sceneId := by
    simp only [getPosidBySortType, found, assignStrategy1, assignStrategy4, assignStrategy5,
      listInfo_posid found]
    rcases strategy with strategy | strategy | strategy <;> simp [strategy, real]
  have member := List.mem_of_find?_eq_some (find_of_next found real isNext)
  obtain ⟨network, listed, isKind⟩ := List.mem_map.mp (List.mem_filter.mp member).1
  have named := @networkName_of_agentType self.adNetworks network.sdk (by rw [isKind]; exact real)
  obtain ⟨name, isName⟩ := Option.isSome_iff_exists.mp named.1
  rw [isKind, isName] at named
  rw [targeted]
  unfold targetModels
  rw [if_pos ⟨listInfo_posid found, real⟩, named.2]
  dsimp only
  cases taken : listInfo.network.find? fun network => network.sdk = some name with
  | none =>
      have unlike := List.find?_eq_none.mp taken network listed
      rw [decide_eq_true_eq] at unlike
      exact absurd isName unlike
  | some other => exact ⟨_, rfl⟩

theorem passedOver_eq_some {platform next : MEAdAgentType}
    (passes : self.passedOver sceneId platform = some next) :
    ∃ model, self.getPosidBySortType platform sceneId = [model] ∧
      model.targetAdapterClass = none ∧ next ≠ .none ∧
        self.nextAdPlatform sceneId model.platformType = next := by
  unfold passedOver at passes
  split at passes
  · next model chosen =>
      split at passes
      · next missing =>
          simp only at passes
          split at passes
          · cases passes
          · next real =>
              cases passes
              exact ⟨model, chosen, Option.isNone_iff_eq_none.mp missing, real, rfl⟩
      · cases passes
  · cases passes

theorem passedOver_returns {platform first second third : MEAdAgentType}
    (passes : self.passedOver sceneId platform = some first)
    (passesOn : self.passedOver sceneId first = some second)
    (passesBack : self.passedOver sceneId second = some third) : third = first := by
  obtain ⟨model, chosen, -, real, leads⟩ := passedOver_eq_some passes
  obtain ⟨other, otherChosen, -, otherReal, leadsOn⟩ := passedOver_eq_some passesOn
  obtain ⟨last, lastChosen, -, lastReal, leadsBack⟩ := passedOver_eq_some passesBack
  have member : model ∈ self.getPosidBySortType platform sceneId := by simp [chosen]
  have otherMember : other ∈ self.getPosidBySortType first sceneId := by simp [otherChosen]
  have lastMember : last ∈ self.getPosidBySortType second sceneId := by simp [lastChosen]
  obtain ⟨⟨listInfo, found⟩, ⟨sdk, isSdk⟩, -⟩ := mem_getPosidBySortType member
  obtain ⟨-, ⟨otherSdk, isOtherSdk⟩, isFirst, -⟩ := mem_getPosidBySortType otherMember
  obtain ⟨-, ⟨lastSdk, isLastSdk⟩, isSecond, -⟩ := mem_getPosidBySortType lastMember
  rw [isSdk] at leads
  rw [isFirst real, ← isFirst real, isOtherSdk] at leadsOn
  rw [isSecond otherReal, ← isSecond otherReal, isLastSdk] at leadsBack
  have goes := find_of_next found real leads
  have goesOn := find_of_next found otherReal leadsOn
  have goesBack := find_of_next found lastReal leadsBack
  rw [← isOtherSdk, isFirst real] at goesOn
  rw [← isLastSdk, isSecond otherReal] at goesBack
  exact unlike_alternates goes goesOn goesBack

/-- A network to be tried whose adapter is not linked in. -/
def Missing (self : Configured) (platform : MEAdAgentType) : Prop :=
  platform ≠ .none ∧ getAdapterClassFromAgentType self.adNetworks platform = none

/-- A missing network that was itself taken for another is passed over if there
is a next one. -/
theorem passedOver_of_missing {platform : MEAdAgentType} {listInfo : MEConfigList}
    {sdk : Option String} (chosen : self.getPosidBySortType platform sceneId ≠ [])
    (found : self.listInfo sceneId = some listInfo) {next : MEAdAgentType}
    (missing : self.Missing next)
    (isNext : self.nextAdPlatform sceneId (getAgentTypeFromNetworkName self.adNetworks sdk) = next)
    (leadsOn : self.nextAdPlatform sceneId next ≠ .none) :
    self.passedOver sceneId next = some (self.nextAdPlatform sceneId next) := by
  obtain ⟨model, isModel⟩ := chosen_of_next chosen found missing.1 isNext
  have member : model ∈ self.getPosidBySortType next sceneId := by simp [isModel]
  obtain ⟨-, -, same, adapterClass⟩ := mem_getPosidBySortType member
  rw [same missing.1, missing.2] at adapterClass
  unfold passedOver
  simp only [isModel, adapterClass, Option.isNone_none, if_true, same missing.1, leadsOn, if_false]

/-- Of two networks each is followed by another. -/
theorem next_ne_none {listInfo : MEConfigList} (found : self.listInfo sceneId = some listInfo)
    {sdk firstSdk secondSdk : Option String}
    (leads : self.nextAdPlatform sceneId (getAgentTypeFromNetworkName self.adNetworks sdk) =
      getAgentTypeFromNetworkName self.adNetworks firstSdk)
    (leadsOn : self.nextAdPlatform sceneId (getAgentTypeFromNetworkName self.adNetworks firstSdk) =
      getAgentTypeFromNetworkName self.adNetworks secondSdk)
    (real : getAgentTypeFromNetworkName self.adNetworks firstSdk ≠ .none)
    (otherReal : getAgentTypeFromNetworkName self.adNetworks secondSdk ≠ .none) :
    self.nextAdPlatform sceneId (getAgentTypeFromNetworkName self.adNetworks secondSdk) ≠ .none := by
  have goes := List.mem_of_find?_eq_some (find_of_next found real leads)
  have unlike := List.find?_some (find_of_next found otherReal leadsOn)
  rw [decide_eq_true_eq] at unlike
  intro last
  rw [nextAdPlatform_eq found] at last
  cases first : (registered self.adNetworks listInfo).find? fun agentType =>
      agentType ≠ getAgentTypeFromNetworkName self.adNetworks secondSdk with
  | none =>
      have alike := List.find?_eq_none.mp first _ goes
      rw [decide_eq_true_eq, not_not] at alike
      exact unlike alike.symm
  | some agentType =>
      rw [first, Option.getD_some] at last
      have member := List.mem_of_find?_eq_some first
      rw [last] at member
      have isReal := (List.mem_filter.mp member).2
      rw [decide_eq_true_eq] at isReal
      exact isReal rfl

/-- The search for a network comes to an end within three tries or never.  It does
not end just if one network was chosen, and that one, the next one and the one
after that all lack their adapters: the search then goes back and forth between
two networks and never comes to a third. -/
theorem assign_returns_iff (self : Configured) (sceneId : String) (platform : MEAdAgentType)
    (assignResultArr : List StrategyResultModel) :
    ((∃ fuel, (self.assignWithin sceneId fuel platform assignResultArr).isSome = true) ↔
        (self.assignWithin sceneId 3 platform assignResultArr).isSome = true) ∧
      ((∃ fuel, (self.assignWithin sceneId fuel platform assignResultArr).isSome = true) ↔
        ¬ ∃ model, self.getPosidBySortType platform sceneId = [model] ∧
          model.targetAdapterClass = none ∧
          self.Missing (self.nextAdPlatform sceneId model.platformType) ∧
          self.Missing (self.nextAdPlatform sceneId
            (self.nextAdPlatform sceneId model.platformType))) := by
  simp only [assignWithin_isSome]
  have threeTries := walk_isSome_iff_of_returning
    (fun first second third => @passedOver_returns self sceneId platform first second third)
  refine ⟨threeTries, threeTries.trans (walk_three_isSome_iff.trans (not_congr ?_))⟩
  constructor
  · rintro ⟨first, second, third, passes, passesOn, passesBack⟩
    obtain ⟨model, chosen, missing, firstReal, leads⟩ := passedOver_eq_some passes
    obtain ⟨other, otherChosen, otherMissing, secondReal, leadsOn⟩ := passedOver_eq_some passesOn
    obtain ⟨last, lastChosen, lastMissing, -, -⟩ := passedOver_eq_some passesBack
    have otherMember : other ∈ self.getPosidBySortType first sceneId := by simp [otherChosen]
    have lastMember : last ∈ self.getPosidBySortType second sceneId := by simp [lastChosen]
    obtain ⟨-, -, isFirst, otherClass⟩ := mem_getPosidBySortType otherMember
    obtain ⟨-, -, isSecond, lastClass⟩ := mem_getPosidBySortType lastMember
    rw [isFirst firstReal, otherMissing] at otherClass
    rw [isSecond secondReal, lastMissing] at lastClass
    rw [isFirst firstReal] at leadsOn
    subst leads
    rw [← leadsOn] at secondReal lastClass
    exact ⟨model, chosen, missing, ⟨firstReal, otherClass.symm⟩, ⟨secondReal, lastClass.symm⟩⟩
  · rintro ⟨model, chosen, missing, first, second⟩
    have member : model ∈ self.getPosidBySortType platform sceneId := by simp [chosen]
    have nonempty := List.ne_nil_of_mem member
    obtain ⟨⟨listInfo, found⟩, ⟨sdk, isSdk⟩, -⟩ := mem_getPosidBySortType member
    have passes : self.passedOver sceneId platform =
        some (self.nextAdPlatform sceneId model.platformType) := by
      simp [passedOver, chosen, missing, first.1]
    rw [isSdk] at first second passes
    have passesOn := passedOver_of_missing nonempty found first rfl second.1
    obtain ⟨other, otherChosen⟩ := chosen_of_next nonempty found first.1 rfl
    have otherMember : other ∈ self.getPosidBySortType _ sceneId :=
      otherChosen ▸ List.mem_cons_self
    obtain ⟨-, ⟨otherSdk, isOther⟩, same, -⟩ := mem_getPosidBySortType otherMember
    rw [same first.1] at isOther
    obtain ⟨last, lastChosen⟩ := @chosen_of_next self sceneId platform listInfo otherSdk nonempty
      found _ second.1 (by rw [← isOther])
    have lastMember : last ∈ self.getPosidBySortType _ sceneId := lastChosen ▸ List.mem_cons_self
    obtain ⟨-, ⟨lastSdk, isLast⟩, sameLast, -⟩ := mem_getPosidBySortType lastMember
    rw [sameLast second.1] at isLast
    have leadsBack := @next_ne_none self sceneId listInfo found sdk otherSdk lastSdk isOther
      (by rw [← isOther, isLast]) (isOther ▸ first.1) (isLast ▸ second.1)
    rw [← isLast] at leadsBack
    have passesBack := @passedOver_of_missing self sceneId platform listInfo otherSdk nonempty found _
      second (by rw [← isOther]) leadsBack
    exact ⟨_, _, _, passes, passesOn, passesBack⟩

end Configured

end GDTAdapter.Mediation
