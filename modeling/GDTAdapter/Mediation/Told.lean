import GDTAdapter.Mediation.Manager

namespace GDTAdapter.Mediation

open Reactive

/-! # What becomes of a load

An app that loads an ad waits to be told that it has loaded or that it has
failed.  From a load to the closing of its ad the state of a manager says whether
the app has been told.
-/

/-- `finished` and `failed` are the two blocks that the app hands over with a load. -/
def Output.tells : Output → Bool
  | .finished => true
  | .failed _ => true
  | _ => false

namespace Configured

variable {self : Configured} {sceneId : String}

theorem getAdapterClassFromAgentType_named {adNetworks : List MEAdNetworkModel}
    {agentType : MEAdAgentType} {name : AdapterClass}
    (isName : getAdapterClassFromAgentType adNetworks agentType = some name) :
    name = adapterClassName agentType := by
  obtain ⟨model, found, isClass⟩ := Option.bind_eq_some_iff.mp isName
  have alike := List.find?_some found
  rw [decide_eq_true_eq] at alike
  rw [← alike]
  exact model.named name isClass

/-- A search has either asked all that it leaves in the array, or nobody. -/
theorem assignWithin_cases {fuel : Nat} {platform : MEAdAgentType}
    {assignResultArr : List StrategyResultModel} {assignment : Assignment}
    (found : self.assignWithin sceneId fuel platform assignResultArr = some assignment) :
    (assignment.returned = true ∧ assignment.assignResultArr = assignment.asked ∧
        assignment.asked ≠ [] ∧
        ∃ chosen, assignment.asked = self.getPosidBySortType chosen sceneId) ∨
      (assignment.returned = false ∧ assignment.asked = [] ∧
        (assignment.assignResultArr = assignResultArr ∨
          ∃ model, assignment.assignResultArr = [model] ∧ model.targetAdapterClass = none)) := by
  induction fuel generalizing platform assignResultArr with
  | zero => cases found
  | succ fuel ih =>
      rw [assignWithin] at found
      cases chosen : self.getPosidBySortType platform sceneId with
      | nil =>
          rw [chosen] at found
          cases found
          exact .inr ⟨rfl, rfl, .inl rfl⟩
      | cons model rest =>
          rw [chosen] at found
          cases rest with
          | cons other rest =>
              cases found
              exact .inl ⟨rfl, rfl, List.cons_ne_nil _ _, platform, chosen.symm⟩
          | nil =>
              cases missing : model.targetAdapterClass with
              | some name =>
                  simp only [missing, Option.isNone_some, Bool.false_eq_true, if_false] at found
                  cases found
                  exact .inl ⟨rfl, rfl, List.cons_ne_nil _ _, platform, chosen.symm⟩
              | none =>
                  simp only [missing, Option.isNone_none, if_true] at found
                  split at found
                  · cases found
                    exact .inr ⟨rfl, rfl, .inr ⟨model, rfl, missing⟩⟩
                  · rcases ih found with asked | ⟨refused, silent, same | alone⟩
                    · exact .inl asked
                    · exact .inr ⟨refused, silent, .inr ⟨model, same, missing⟩⟩
                    · exact .inr ⟨refused, silent, .inr alone⟩

end Configured

namespace Manager

variable {format : Format} {self : Manager} {adapter : MEBaseAdapter}

/-- Everything in the array is under its right name. -/
def Named (models : List StrategyResultModel) : Prop :=
  ∀ model ∈ models, ∀ name, model.targetAdapterClass = some name →
    name = adapterClassName model.platformType

theorem linked_iff_of_named {models : List StrategyResultModel} (named : Named models)
    {model : StrategyResultModel} (member : model ∈ models) (platformType : MEAdAgentType) :
    model.targetAdapterClass = some (adapterClassName platformType) ↔
      linked? model = some platformType := by
  unfold linked?
  cases isClass : model.targetAdapterClass with
  | none => simp
  | some name =>
      have isName := named model member name isClass
      rw [Option.map_some, Option.some.injEq, Option.some.injEq, isName]
      exact ⟨adapterClassName_inj, congrArg adapterClassName⟩

theorem filterMap_eraseP {models : List StrategyResultModel} (named : Named models)
    (platformType : MEAdAgentType) :
    (models.eraseP fun model => model.targetAdapterClass = some (adapterClassName platformType)).filterMap
        linked? =
      (models.filterMap linked?).erase platformType := by
  induction models with
  | nil => rfl
  | cons model rest ih =>
      have isLinked := linked_iff_of_named named List.mem_cons_self platformType
      have later := ih fun other member => named other (List.mem_cons_of_mem _ member)
      rw [List.eraseP_cons]
      by_cases same : linked? model = some platformType
      · rw [decide_eq_true (isLinked.mpr same), cond_true, List.filterMap_cons_some same,
          List.erase_cons_head]
      · rw [decide_eq_false (mt isLinked.mp same), cond_false]
        cases reached : linked? model with
        | none =>
            rw [List.filterMap_cons_none reached, List.filterMap_cons_none reached, later]
        | some other =>
            rw [reached, Option.some.injEq] at same
            rw [List.filterMap_cons_some reached, List.filterMap_cons_some reached,
              List.erase_cons_tail (by simpa using same), later]

/-- What a search leaves in the array it asked, or reached nobody. -/
theorem awaited_of_search {sceneId : String} {platform : MEAdAgentType} {assignment : Assignment}
    (empty : self.assignResultArr = []) (found : self.search sceneId platform = some assignment) :
    Named assignment.assignResultArr ∧
      assignment.assignResultArr.filterMap linked? = assignment.asked.filterMap linked? ∧
      (assignment.returned = true → assignment.assignResultArr ≠ []) ∧
      (assignment.returned = false → assignment.asked = []) := by
  rcases Configured.assignWithin_cases found with
    ⟨returned, same, nonempty, chosen, isChosen⟩ | ⟨refused, silent, left⟩
  · refine ⟨?_, by rw [same], fun _ => by rw [same]; exact nonempty, fun refused => ?_⟩
    · intro model member name isName
      rw [same, isChosen] at member
      obtain ⟨-, -, -, isClass⟩ := Configured.mem_getPosidBySortType member
      rw [isClass] at isName
      exact Configured.getAdapterClassFromAgentType_named isName
    · rw [returned] at refused
      cases refused
  · refine ⟨?_, ?_, fun returned => ?_, fun _ => silent⟩
    · rcases left with same | ⟨model, alone, missing⟩
      · rw [same, empty]
        exact fun model member => absurd member List.not_mem_nil
      · rw [alone]
        intro other member name isName
        rw [List.mem_singleton.mp member, missing] at isName
        cases isName
    · rw [silent]
      rcases left with same | ⟨model, alone, missing⟩
      · rw [same, empty]
      · rw [alone, List.filterMap_cons_none (by rw [linked?, missing, Option.map_none])]
    · rw [refused] at returned
      cases returned

/-- What is so as long as one load is under way.  Until the manager stops its
networks, it waits for just those of its array that it has reached. -/
structure Loading (format : Format) (manager : Manager) : Prop where
  named : Named manager.assignResultArr
  unloaded : manager.needToStop = false → manager.hasSuccessfullyLoaded = false
  awaited : manager.needToStop = false → manager.unanswered = manager.assignResultArr.filterMap linked?
  stopped : manager.needToStop = true → manager.assignResultArr = []
  untimed : manager.needToStop = true → manager.timeouts = 0
  timed : 0 < manager.timeouts → format.timesOut = true
  single : manager.timeouts ≤ 1

/-- The load has come to its end: the networks were told to stop, or they have all
failed. -/
def Settled (self : Manager) : Prop :=
  self.needToStop = true ∨ self.assignResultArr = [] ∧ self.requestCount = 0

/-- `told` says whether the app has been told.  A load that was `refused`, as no
network was found for it, leaves nothing behind that could say more. -/
def Follows (format : Format) (refused : Prop) (self : Manager) (told : Bool) : Prop :=
  self.Loading format ∧
    (¬ refused ∧ (told = true ↔ self.Settled) ∨
      refused ∧ told = true ∧ self.unanswered = [] ∧ self.timeouts = 0)

variable {refused : Prop}

theorem Follows.told_iff {told : Bool} (follows : self.Follows format refused told)
    (live : self.unanswered ≠ [] ∨ 0 < self.timeouts) :
    ¬ refused ∧ (told = true ↔ self.Settled) := by
  rcases follows.2 with found | ⟨-, -, answered, untimed⟩
  · exact found
  · rcases live with live | live
    · exact absurd answered live
    · omega

theorem countP_ask (sceneId : String) (assignment : Assignment) :
    (self.ask sceneId assignment).2.countP Output.tells = 0 := by
  rw [List.countP_eq_zero]
  intro output member
  obtain ⟨model, -, sent⟩ := List.mem_flatMap.mp member
  split at sent
  · rcases List.mem_cons.mp sent with rfl | sent
    · exact Bool.false_ne_true
    · rw [List.mem_singleton.mp sent]
      exact Bool.false_ne_true
  · rw [List.mem_singleton.mp sent]
    exact Bool.false_ne_true

theorem countP_stop : self.stopAdapterAndRemoveFromAssignResultArr.2.countP Output.tells = 0 := by
  rw [List.countP_eq_zero]
  intro output member
  obtain ⟨model, -, rfl⟩ := List.mem_map.mp member
  exact Bool.false_ne_true

/-- A result of a step that has told the app `now`, and was to do so unless it had
`told` it before. -/
def Tells (format : Format) (refused good : Prop) (told : Bool) (result : Manager × List Output) : Prop :=
  ∃ now : Bool, result.2.countP Output.tells = now.toNat ∧
    (good ↔ ¬ (told = true ∧ now = true)) ∧ result.1.Follows format refused (told || now)

theorem Loading.answered (loading : self.Loading format) (running : self.needToStop = false) :
    ((self.answer adapter).removeAssignResult adapter).Loading format ∧
      ((self.answer adapter).removeAssignResult adapter).unanswered =
        ((self.answer adapter).removeAssignResult adapter).assignResultArr.filterMap linked? := by
  have same : (self.unanswered.erase adapter.platformType) =
      (self.assignResultArr.eraseP fun model =>
        model.targetAdapterClass = some (adapterClassName adapter.platformType)).filterMap linked? := by
    rw [filterMap_eraseP loading.named, loading.awaited running]
  refine ⟨{ loading with
    named := ?_
    awaited := fun _ => same
    stopped := ?_ }, same⟩
  · intro model member
    exact loading.named model (List.mem_of_mem_eraseP member)
  · intro stopped
    have wasStopped : self.needToStop = true := stopped
    rw [running] at wasStopped
    cases wasStopped

/-- After the end of a load the app has been told. -/
theorem Follows.settle {told : Bool} (loading : self.Loading format) (found : ¬ refused)
    (isTold : told = true) (settled : self.Settled) : self.Follows format refused told :=
  ⟨loading, .inl ⟨found, iff_of_true isTold settled⟩⟩

theorem Follows.wait {told : Bool} (loading : self.Loading format) (found : ¬ refused)
    (untold : told = false) (unsettled : ¬ self.Settled) : self.Follows format refused told := by
  refine ⟨loading, .inl ⟨found, iff_of_false ?_ unsettled⟩⟩
  rw [untold]
  exact Bool.false_ne_true

/-- Whoever waits for a network that was not told to stop has not told the app. -/
theorem Follows.untold {told : Bool} (follows : self.Follows format refused told)
    (awaited : adapter.platformType ∈ self.unanswered) (running : self.needToStop = false) :
    told = false ∧ self.assignResultArr ≠ [] := by
  have waits := List.ne_nil_of_mem awaited
  have nonempty : self.assignResultArr ≠ [] := by
    intro empty
    rw [follows.1.awaited running, empty] at waits
    exact waits rfl
  refine ⟨?_, nonempty⟩
  rw [← Bool.not_eq_true, (follows.told_iff (.inl waits)).2]
  rintro (stopped | ⟨empty, -⟩)
  · rw [running] at stopped
    cases stopped
  · exact nonempty empty

theorem Loading.of_stopped (stopped : self.needToStop = true) (empty : self.assignResultArr = [])
    (untimed : self.timeouts = 0) : self.Loading format where
  named model member := by
    rw [empty] at member
    cases member
  unloaded running := by
    rw [stopped] at running
    cases running
  awaited running := by
    rw [stopped] at running
    cases running
  stopped _ := empty
  untimed _ := untimed
  timed armed := by omega
  single := by omega

theorem Loading.stopped_of_loaded (loading : self.Loading format)
    (loaded : self.hasSuccessfullyLoaded = true) : self.needToStop = true := by
  rw [← Bool.not_eq_false]
  intro running
  rw [loading.unloaded running] at loaded
  cases loaded

theorem Tells.of_silent {good : Prop} {told : Bool} {result : Manager × List Output}
    (silent : result.2.countP Output.tells = 0) (isGood : good)
    (follows : result.1.Follows format refused told) : Tells format refused good told result := by
  refine ⟨false, silent, ?_, ?_⟩
  · simp [isGood]
  · rwa [Bool.or_false]

theorem Tells.of_settled {good : Prop} {told : Bool} {result : Manager × List Output}
    (found : ¬ refused) (sent : result.2.countP Output.tells = 1) (isGood : good ↔ told = false)
    (loading : result.1.Loading format) (settled : result.1.Settled) :
    Tells format refused good told result := by
  refine ⟨true, sent, ?_, ?_⟩
  · simp [isGood]
  · rw [Bool.or_true]
    exact .settle loading found rfl settled

theorem adapterLoadSuccess_again (loaded : self.hasSuccessfullyLoaded = true) :
    self.adapterLoadSuccess format adapter = (self, []) := by
  rw [adapterLoadSuccess, if_pos loaded]

theorem adapterLoadSuccess_first (unloaded : self.hasSuccessfullyLoaded = false) :
    ∃ next, self.adapterLoadSuccess format adapter =
        (next, (self.removeAssignResult adapter).stopAdapterAndRemoveFromAssignResultArr.2 ++
          [.finished]) ∧
      next.needToStop = true ∧ next.assignResultArr = [] ∧ next.timeouts = 0 ∧
      next.configured.adNetworks = self.configured.adNetworks := by
  unfold adapterLoadSuccess
  rw [unloaded, if_neg Bool.false_ne_true]
  refine ⟨_, rfl, ?_⟩
  dsimp only
  split
  · exact ⟨rfl, rfl, rfl, self.configured.changeAdFrequency_adNetworks adapter.sceneId⟩
  · exact ⟨rfl, rfl, rfl, rfl⟩

theorem loadSuccess_tells {told : Bool} (follows : self.Follows format refused told)
    (awaited : adapter.platformType ∈ self.unanswered) :
    Tells format refused (self.hasSuccessfullyLoaded = true ∨ self.needToStop = false) told
      ((self.answer adapter).adapterLoadSuccess format adapter) := by
  have loading := follows.1
  obtain ⟨found, told_iff⟩ := follows.told_iff (.inl (List.ne_nil_of_mem awaited))
  cases loaded : self.hasSuccessfullyLoaded with
  | true =>
      have stopped := loading.stopped_of_loaded loaded
      rw [adapterLoadSuccess_again (by exact loaded)]
      refine .of_silent rfl (.inl rfl) (.settle ?_ found (told_iff.mpr (.inl stopped)) (.inl stopped))
      exact .of_stopped stopped (loading.stopped stopped) (loading.untimed stopped)
  | false =>
      obtain ⟨next, isNext, stopped, empty, untimed, -⟩ :=
        @adapterLoadSuccess_first format (self.answer adapter) adapter loaded
      rw [isNext]
      refine .of_settled found ?_ ?_ (.of_stopped stopped empty untimed) (.inl stopped)
      · rw [List.countP_append, countP_stop]
        rfl
      · cases running : self.needToStop with
        | true => simp [told_iff.mpr (.inl running)]
        | false => simp [(follows.untold awaited running).1]

theorem requestTimeout_tells {told : Bool} (heard : format.timesOut = true → format.timeoutError.isSome = true)
    (follows : self.Follows format refused told) (armed : 0 < self.timeouts) :
    Tells format refused (¬ (self.assignResultArr = [] ∧ self.requestCount = 0)) told
      (self.requestTimeout format) := by
  have loading := follows.1
  obtain ⟨found, told_iff⟩ := follows.told_iff (.inr armed)
  obtain ⟨error, isError⟩ := Option.isSome_iff_exists.mp (heard (loading.timed armed))
  have running : self.needToStop = false := by
    rw [← Bool.not_eq_true]
    intro stopped
    have untimed := loading.untimed stopped
    omega
  have untimed : (self.requestTimeout format).1.timeouts = 0 := by
    have single := loading.single
    change self.timeouts - 1 = 0
    omega
  refine .of_settled found ?_ ?_ (.of_stopped rfl rfl untimed) (.inl rfl)
  · unfold requestTimeout
    dsimp only
    rw [isError, List.countP_append, countP_stop]
    rfl
  · rw [← Bool.not_eq_true, told_iff, Settled, running]
    simp

/-- A failure is passed by, or the load is tried again, or it has failed, or it
waits for the others. -/
theorem adapterShowFailure_cases {error : NSError} {result : Manager × List Output}
    (ends : self.adapterShowFailure format adapter error = some result) :
    ((format.guardsFailure && self.hasSuccessfullyLoaded) = true ∧
        result = (self.removeAssignResult adapter, [])) ∨
      (format.guardsFailure && self.hasSuccessfullyLoaded) = false ∧
        (((self.removeAssignResult adapter).assignResultArr = [] ∧ self.needToStop = false ∧
            ∃ assignment, { self.removeAssignResult adapter with
                requestCount := self.requestCount + 1 }.search adapter.sceneId
                  (self.retryPlatform adapter) = some assignment ∧
              result = { self.removeAssignResult adapter with
                requestCount := self.requestCount + 1 }.ask adapter.sceneId assignment) ∨
          ((self.removeAssignResult adapter).assignResultArr = [] ∧
            result = ({ self.removeAssignResult adapter with requestCount := 0 }, [.failed error])) ∨
          ((self.removeAssignResult adapter).assignResultArr ≠ [] ∧ ∃ count,
            result = ({ self.removeAssignResult adapter with requestCount := count }, []))) := by
  unfold adapterShowFailure at ends
  dsimp only at ends
  split at ends
  · next guarded =>
      cases ends
      exact .inl ⟨guarded, rfl⟩
  · next unguarded =>
      refine .inr ⟨Bool.eq_false_iff.mpr unguarded, ?_⟩
      cases retries : format.retries with
      | true =>
          simp only [retries, if_true, Bool.true_and] at ends
          split at ends
          · next again =>
              obtain ⟨assignment, found, rfl⟩ := Option.map_eq_some_iff.mp ends
              simp only [Bool.and_eq_true, List.isEmpty_iff, Bool.not_eq_true'] at again
              exact .inl ⟨again.1.2, again.2, assignment, found, rfl⟩
          · split at ends
            · next empty =>
                cases ends
                exact .inr (.inl ⟨List.isEmpty_iff.mp empty, rfl⟩)
            · next others =>
                cases ends
                exact .inr (.inr ⟨fun empty => others (List.isEmpty_iff.mpr empty), _, rfl⟩)
      | false =>
          simp only [retries, if_false, Bool.false_and, Bool.false_eq_true] at ends
          split at ends
          · next empty =>
              cases ends
              exact .inr (.inl ⟨List.isEmpty_iff.mp empty, rfl⟩)
          · next others =>
              cases ends
              exact .inr (.inr ⟨fun empty => others (List.isEmpty_iff.mpr empty), _, rfl⟩)

/-- To ask other networks when nobody is waited for any more. -/
theorem Loading.ask {sceneId : String} {platform : MEAdAgentType} {assignment : Assignment}
    (loading : self.Loading format) (running : self.needToStop = false)
    (empty : self.assignResultArr = [])
    (found : self.search sceneId platform = some assignment) :
    (self.ask sceneId assignment).1.Loading format := by
  obtain ⟨named, same, -, -⟩ := awaited_of_search empty found
  have nobody : self.unanswered = [] := by rw [loading.awaited running, empty, List.filterMap_nil]
  refine { loading with
    named := named
    awaited := fun _ => ?_
    stopped := fun stopped => ?_ }
  · change self.unanswered ++ assignment.asked.filterMap linked? = _
    rw [nobody, List.nil_append]
    exact same.symm
  · have wasStopped : self.needToStop = true := stopped
    rw [running] at wasStopped
    cases wasStopped

/-- A network that fails once the others were told to stop. -/
theorem lateFailure_tells {error : NSError} {told : Bool} {result : Manager × List Output}
    (loading : self.Loading format) (found : ¬ refused) (isTold : told = true) (stopped : self.needToStop = true)
    (ends : (self.answer adapter).adapterShowFailure format adapter error = some result) :
    Tells format refused (self.needToStop = false ∨
        format.guardsFailure = true ∧ self.hasSuccessfullyLoaded = true) told result := by
  have empty : ((self.answer adapter).removeAssignResult adapter).assignResultArr = [] := by
    change self.assignResultArr.eraseP _ = []
    rw [loading.stopped stopped, List.eraseP_nil]
  rcases adapterShowFailure_cases ends with
    ⟨guarded, rfl⟩ | ⟨unguarded, ⟨-, running, -⟩ | ⟨-, rfl⟩ | ⟨others, -⟩⟩
  · rw [Bool.and_eq_true] at guarded
    exact .of_silent rfl (.inr guarded)
      (.settle (.of_stopped stopped empty (loading.untimed stopped)) found isTold (.inl stopped))
  · have wasRunning : self.needToStop = false := running
    rw [stopped] at wasRunning
    cases wasRunning
  · refine .of_settled found rfl ?_ (.of_stopped stopped empty (loading.untimed stopped)) (.inl stopped)
    have unseen : ¬ (format.guardsFailure = true ∧ self.hasSuccessfullyLoaded = true) := by
      rw [← Bool.and_eq_true]
      exact Bool.eq_false_iff.mp unguarded
    simp [stopped, unseen, isTold]
  · exact absurd empty others

theorem failure_tells {error : NSError} {told : Bool} {result : Manager × List Output}
    (follows : self.Follows format refused told) (awaited : adapter.platformType ∈ self.unanswered)
    (ends : (self.answer adapter).adapterShowFailure format adapter error = some result) :
    Tells format refused (self.needToStop = false ∨
        format.guardsFailure = true ∧ self.hasSuccessfullyLoaded = true) told result := by
  have loading := follows.1
  obtain ⟨found, told_iff⟩ := follows.told_iff (.inl (List.ne_nil_of_mem awaited))
  cases stopped : self.needToStop with
  | true =>
      have late := lateFailure_tells loading found (told_iff.mpr (.inl stopped)) stopped ends
      rwa [stopped] at late
  | false =>
      obtain ⟨untold, -⟩ := follows.untold awaited stopped
      obtain ⟨removed, waits⟩ := @Loading.answered format self adapter loading stopped
      have unloaded := loading.unloaded stopped
      rcases adapterShowFailure_cases ends with
        ⟨guarded, -⟩ | ⟨-, ⟨empty, -, assignment, isFound, rfl⟩ | ⟨empty, rfl⟩ | ⟨others, count, rfl⟩⟩
      · have loaded : self.hasSuccessfullyLoaded = true := (Bool.and_eq_true_iff.mp guarded).2
        rw [unloaded] at loaded
        cases loaded
      · refine .of_silent (countP_ask _ _) (.inl rfl) (.wait ?_ found untold ?_)
        · exact Loading.ask { removed with } stopped empty isFound
        · rintro (again | ⟨-, reset⟩)
          · have wasStopped : self.needToStop = true := again
            rw [stopped] at wasStopped
            cases wasStopped
          · exact absurd reset (Nat.succ_ne_zero self.requestCount)
      · refine .of_settled found rfl (by simp [untold]) ?_ (.inr ⟨empty, rfl⟩)
        exact { removed with }
      · refine .of_silent rfl (.inl rfl) (.wait { removed with } found untold ?_)
        rintro (again | ⟨empty, -⟩)
        · have wasStopped : self.needToStop = true := again
          rw [stopped] at wasStopped
          cases wasStopped
        · exact others empty

/-- Neither loads nor closes an ad. -/
def Input.within : Input → Prop
  | .load _ => False
  | .adapterClose _ => False
  | _ => True

/-- A network that was told to stop does not answer any more, unless the manager
closes its ears to it, and the time is not up after all networks have failed. -/
def Punctual (format : Format) (self : Manager) : Input → Prop
  | .adapterLoadSuccess _ => self.hasSuccessfullyLoaded = true ∨ self.needToStop = false
  | .adapterShowFailure _ _ =>
      self.needToStop = false ∨ format.guardsFailure = true ∧ self.hasSuccessfullyLoaded = true
  | .requestTimeout => ¬ (self.assignResultArr = [] ∧ self.requestCount = 0)
  | _ => True

/-- A manager that is at rest, as it is made or after all has been answered. -/
structure Idle (manager : Manager) : Prop where
  hasSuccessfullyLoaded : manager.hasSuccessfullyLoaded = false
  needToStop : manager.needToStop = false
  assignResultArr : manager.assignResultArr = []
  timeouts : manager.timeouts = 0
  unanswered : manager.unanswered = []

theorem step_tells (heard : format.timesOut = true → format.timeoutError.isSome = true)
    {told : Bool} (follows : self.Follows format refused told) (input : Input)
    (promise : self.enabled format input ∧ input.within) :
    Tells format refused (self.Punctual format input) told (self.step format input) := by
  obtain ⟨enabled, within⟩ := promise
  cases input with
  | load sceneId => cases within
  | adapterClose adapter => cases within
  | configure input => exact .of_silent rfl trivial ⟨{ follows.1 with }, follows.2⟩
  | adapterShowSuccess adapter =>
      unfold step adapterShowSuccess
      dsimp only
      split
      · exact .of_silent rfl trivial follows
      · exact .of_silent rfl trivial ⟨{ follows.1 with }, follows.2⟩
  | adapterLoadSuccess adapter => exact loadSuccess_tells follows enabled
  | requestTimeout => exact requestTimeout_tells heard follows enabled
  | adapterShowFailure adapter error =>
      obtain ⟨awaited, ends⟩ := enabled
      obtain ⟨result, isResult⟩ := Option.isSome_iff_exists.mp ends
      have tells := failure_tells follows awaited isResult
      rw [step, isResult, Option.getD_some]
      exact tells

theorem Idle.loading (idle : self.Idle) : self.Loading format where
  named model member := by
    rw [idle.assignResultArr] at member
    cases member
  unloaded _ := idle.hasSuccessfullyLoaded
  awaited _ := by rw [idle.unanswered, idle.assignResultArr, List.filterMap_nil]
  stopped _ := idle.assignResultArr
  untimed _ := idle.timeouts
  timed armed := by
    rw [idle.timeouts] at armed
    cases armed
  single := by
    rw [idle.timeouts]
    exact Nat.zero_le 1

/-- A load tells the app only that no network was found. -/
theorem load_tells {sceneId : String} (idle : self.Idle) {result : Manager × List Output}
    (ends : self.load format sceneId = some result) :
    ∃ told : Bool, result.2.countP Output.tells = told.toNat ∧
      (told = true ↔ .failed assignFailed ∈ result.2) ∧
      result.1.Follows format (.failed assignFailed ∈ result.2) told := by
  obtain ⟨assignment, found, rfl⟩ := Option.map_eq_some_iff.mp ends
  obtain ⟨named, awaited, chosen, refused⟩ := awaited_of_search idle.assignResultArr found
  have start : Loading format { self with requestCount := 0 } := { @Idle.loading format self idle with }
  have asked := start.ask idle.needToStop idle.assignResultArr found
  have silent := @countP_ask { self with requestCount := 0 } sceneId assignment
  have unheard : .failed assignFailed ∉ (ask sceneId assignment { self with requestCount := 0 }).2 := by
    intro member
    exact List.countP_eq_zero.mp silent _ member rfl
  dsimp only
  split
  · next returned =>
      have unsettled : ¬ (ask sceneId assignment { self with requestCount := 0 }).1.Settled := by
        rintro (stopped | ⟨empty, -⟩)
        · have wasStopped : self.needToStop = true := stopped
          rw [idle.needToStop] at wasStopped
          cases wasStopped
        · exact chosen returned empty
      split
      · next timed =>
          rw [Bool.and_eq_true] at timed
          refine ⟨false, silent, iff_of_false Bool.false_ne_true unheard,
            .wait { asked with
              untimed := fun stopped => ?_
              timed := fun _ => timed.1
              single := ?_ } unheard rfl unsettled⟩
          · have wasStopped : self.needToStop = true := stopped
            rw [idle.needToStop] at wasStopped
            cases wasStopped
          · change self.timeouts + 1 ≤ 1
            rw [idle.timeouts]
      · exact ⟨false, silent, iff_of_false Bool.false_ne_true unheard,
          .wait asked unheard rfl unsettled⟩
  · next returned =>
      have nobody := refused (Bool.eq_false_iff.mpr returned)
      have heard : .failed assignFailed ∈
          (ask sceneId assignment { self with requestCount := 0 }).2 ++ [.failed assignFailed] :=
        List.mem_append_right _ List.mem_cons_self
      refine ⟨true, ?_, iff_of_true rfl heard, asked, .inr ⟨heard, rfl, ?_, idle.timeouts⟩⟩
      · rw [List.countP_append, silent]
        rfl
      · change self.unanswered ++ assignment.asked.filterMap linked? = []
        rw [idle.unanswered, nobody, List.nil_append, List.filterMap_nil]

/-- An app that loads one ad with an idle manager, as a new one is, hears of it at
most once just if the run is punctual, and it has heard of it just if the networks
were told to stop, or all have failed and none was tried in their place, or no
network was found in the first place. -/
theorem told_once_iff (format : Format)
    (heard : format.timesOut = true → format.timeoutError.isSome = true) (self : Manager)
    (idle : self.Idle) (sceneId : String) (inputs : List Input)
    (within : ∀ input ∈ inputs, input.within)
    (runs : (machine format).Runs self (.load sceneId :: inputs)) :
    (((machine format).trace self (.load sceneId :: inputs)).countP Output.tells ≤ 1 ↔
        (machine format).Along (Punctual format) ((machine format).next self (.load sceneId)) inputs) ∧
      (0 < ((machine format).trace self (.load sceneId :: inputs)).countP Output.tells ↔
        ((machine format).after self (.load sceneId :: inputs)).Settled ∨
          .failed assignFailed ∈ (machine format).emit self (.load sceneId)) := by
  obtain ⟨ends, later⟩ := runs
  obtain ⟨result, isResult⟩ := Option.isSome_iff_exists.mp ends
  have isStep : (machine format).step self (.load sceneId) = result := by
    change (self.load format sceneId).getD (self, []) = result
    rw [isResult, Option.getD_some]
  obtain ⟨told, count, told_iff, follows⟩ := load_tells idle isResult
  have isNext : (machine format).next self (.load sceneId) = result.1 := congrArg Prod.fst isStep
  have isEmit : (machine format).emit self (.load sceneId) = result.2 := congrArg Prod.snd isStep
  rw [isNext] at later
  have promised := Machine.along_and.mpr ⟨later, Machine.along_of_forall_mem within⟩
  obtain ⟨once, finally_⟩ := @Machine.countP_trace_le_one_iff _ _ _ (machine format) Output.tells
    (Follows format (.failed assignFailed ∈ result.2))
    (fun state input => state.enabled format input ∧ input.within) (Punctual format)
    (fun state input already follows promise => step_tells heard follows input promise)
    result.1 told follows inputs promised
  rw [Machine.trace_cons, Machine.after_cons, isNext, isEmit, List.countP_append, count]
  refine ⟨once, ?_⟩
  have told_later : 0 < told.toNat + ((machine format).trace result.1 inputs).countP Output.tells ↔
      (told || decide (0 < ((machine format).trace result.1 inputs).countP Output.tells)) = true := by
    cases told with
    | true => exact iff_of_true (Nat.add_pos_left Nat.one_pos _) rfl
    | false => simp
  rw [told_later]
  rcases finally_.2 with ⟨found, settled⟩ | ⟨refused, isTold, -⟩
  · rw [settled, or_iff_left found]
  · exact iff_of_true isTold (.inr refused)

/-- Two networks that are asked at once. -/
def bothAtOnce : Manager where
  configured := {
    configDic := some (ConfigDic.empty.insert "42" {
      posid := some "42"
      sortType := 5
      sortParameter := []
      network := [{ sdk := some "gdt", posid := some "1" }, { sdk := some "tt", posid := some "2" }] } rfl)
    adRequestTimeout := 3
    adNetworks := configAdNetworksWithConfigInfo ["MEGDTAdapter", "MEBUADAdapter"]
      [{ sdk := some "gdt", appid := some "7" }, { sdk := some "tt", appid := some "8" }] [] }

/-- One of them loads, the other one fails after it was told to stop. -/
def loadsThenFails : List Input :=
  [.adapterLoadSuccess { platformType := .buad, posid := "2", sceneId := "42" },
    .adapterShowFailure { platformType := .gdt, posid := "1", sceneId := "42" } assignFailed]

theorem loadsThenFails_runs :
    (machine MERewardedVideoManager).Runs bothAtOnce (.load "42" :: loadsThenFails) := by
  exact ⟨rfl, .tail _ (.head _), ⟨.head _, rfl⟩, trivial⟩

theorem loadsThenFails_told_once :
    (((machine MERewardedVideoManager).trace bothAtOnce (.load "42" :: loadsThenFails)).countP
          Output.tells ≤ 1 ↔
        (machine MERewardedVideoManager).Along (Punctual MERewardedVideoManager)
          ((machine MERewardedVideoManager).next bothAtOnce (.load "42")) loadsThenFails) ∧
      (0 < ((machine MERewardedVideoManager).trace bothAtOnce (.load "42" :: loadsThenFails)).countP
          Output.tells ↔
        ((machine MERewardedVideoManager).after bothAtOnce (.load "42" :: loadsThenFails)).Settled ∨
          .failed assignFailed ∈ (machine MERewardedVideoManager).emit bothAtOnce (.load "42")) := by
  refine told_once_iff MERewardedVideoManager (fun _ => rfl) bothAtOnce ⟨rfl, rfl, rfl, rfl, rfl⟩ "42"
    loadsThenFails ?_ loadsThenFails_runs
  intro input member
  rcases List.mem_cons.mp member with rfl | member
  · trivial
  · rw [List.mem_singleton.mp member]
    trivial

end Manager

end GDTAdapter.Mediation
