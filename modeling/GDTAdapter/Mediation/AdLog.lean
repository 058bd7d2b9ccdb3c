import GDTAdapter.Reactive.History
import GDTAdapter.Reactive.Monitor
import Mathlib.Data.List.Nodup
import Mathlib.Data.List.Flatten

namespace GDTAdapter.Mediation

open Reactive

/-! # MEAdLogModel

What happens to an ad is logged in the Realm of the app, and the logs are uploaded
from there a few at a time.  A log is deleted once the server has taken it.
-/

inductive AdLogEventType where
  | request
  | load
  | show
  | click
  | fault
deriving DecidableEq, Repr

/-- `number` tells the objects of the Realm apart. -/
structure MEAdLogModel where
  number : Nat
  event : AdLogEventType
deriving DecidableEq, Repr

def kLimit : Nat := 5

def kLogUploadCount : Nat := 20

/-- The Realm of the app and the uploads of the running process.  `requests` are
those that are not answered; `entered` counts the requests that have entered the
dispatch group of the upload and not left it, and `notifies` says whether anybody
waits for the group. -/
structure AdLog where
  logs : List MEAdLogModel := []
  numbered : Nat := 0
  logsUploading : Bool := false
  requests : List (List MEAdLogModel) := []
  entered : Nat := 0
  notifies : Bool := false
deriving DecidableEq, Repr

/-- `finished` is the block that is called when a request has been answered. -/
inductive Report where
  | request (logs : List MEAdLogModel)
  | finished (logs : List MEAdLogModel) (success : Bool)
  | launched
deriving DecidableEq, Repr

/-- `code` is any code but "200". -/
inductive Answer where
  | error
  | success
  | code
deriving DecidableEq, Repr

namespace AdLog

def isReportUrlLog (log : MEAdLogModel) : Bool :=
  match log.event with
  | .request | .show | .load | .click => true
  | .fault => false

/-- The requests of one turn of the loop. -/
def segment (logs : List MEAdLogModel) (i : Nat) : List (List MEAdLogModel) :=
  let part := (logs.drop (i * kLimit)).take kLimit
  [part.filter isReportUrlLog, part.filter fun log => !isReportUrlLog log].filter
    fun batch => !batch.isEmpty

/-- The loop returns at its tenth turn, and then nobody waits for the group. -/
def uploadImmediatlyWithLogs (logs : List MEAdLogModel) (postCount : Nat) (self : AdLog) :
    AdLog × List Report :=
  let batches := (List.range (min (postCount + 1) 9)).flatMap (segment logs)
  ({ self with
      logsUploading := true
      requests := self.requests ++ batches
      entered := batches.length
      notifies := decide (postCount + 1 ≤ 9) },
    batches.map .request)

def saveLogModelToRealm (event : AdLogEventType) (self : AdLog) : AdLog :=
  { self with
      logs := self.logs ++ [{ number := self.numbered, event }]
      numbered := self.numbered + 1 }

def uploadImmediately (self : AdLog) : AdLog × List Report :=
  if self.logsUploading then (self, []) else self.uploadImmediatlyWithLogs self.logs 1

def checkLogsAndUploadToServer (self : AdLog) : AdLog × List Report :=
  if self.logsUploading then (self, [])
  else if kLogUploadCount ≤ self.logs.length then
    self.uploadImmediatlyWithLogs self.logs (self.logs.length / kLimit)
  else (self, [])

def deleteLogs (logs : List MEAdLogModel) (self : AdLog) : AdLog :=
  { self with logs := self.logs.filter fun log => log ∉ logs }

/-- An answer with another code is dropped: no block is called, and nobody leaves
the group. -/
def receive (batch : List MEAdLogModel) (answer : Answer) (self : AdLog) : AdLog × List Report :=
  let self := { self with requests := self.requests.erase batch }
  match answer with
  | .error => ({ self with entered := self.entered - 1 }, [.finished batch false])
  | .success =>
      ({ self.deleteLogs batch with entered := self.entered - 1 }, [.finished batch true])
  | .code => (self, [])

inductive Input where
  | save (event : AdLogEventType)
  | reorder (logs : List MEAdLogModel)
  | uploadImmediately
  | checkLogsAndUploadToServer
  | receive (batch : List MEAdLogModel) (answer : Answer)
  | notified
  | relaunch

def step (self : AdLog) : Input → AdLog × List Report
  | .save event => (self.saveLogModelToRealm event, [])
  | .reorder logs => ({ self with logs }, [])
  | .uploadImmediately => self.uploadImmediately
  | .checkLogsAndUploadToServer => self.checkLogsAndUploadToServer
  | .receive batch answer => self.receive batch answer
  | .notified => ({ self with logsUploading := false, notifies := false }, [])
  | .relaunch => ({ logs := self.logs, numbered := self.numbered }, [.launched])

/-- The Realm promises no order of its objects.  A group calls back when all have
left it. -/
def enabled (self : AdLog) : Input → Prop
  | .reorder logs => logs.Perm self.logs
  | .receive batch _ => batch ∈ self.requests
  | .notified => self.notifies = true ∧ self.entered = 0
  | _ => True

def machine : Machine AdLog Input Report where
  enabled := enabled
  step := step

theorem segment_flatten (logs : List MEAdLogModel) (i : Nat) :
    (segment logs i).flatten.Perm ((logs.drop (i * kLimit)).take kLimit) := by
  have dropped : ∀ batches : List (List MEAdLogModel),
      (batches.filter fun batch => !batch.isEmpty).flatten = batches.flatten := by
    intro batches
    induction batches with
    | nil => rfl
    | cons batch rest ih =>
        cases batch with
        | nil => simpa using ih
        | cons log batch => simpa using ih
  rw [segment, dropped]
  simpa using List.filter_append_perm isReportUrlLog _

/-- An upload sends the logs in front, each once. -/
theorem batches_flatten (logs : List MEAdLogModel) (turns : Nat) :
    ((List.range turns).flatMap (segment logs)).flatten.Perm (logs.take (turns * kLimit)) := by
  induction turns with
  | zero => simp
  | succ turns ih =>
      rw [List.range_succ, List.flatMap_append, List.flatten_append, Nat.succ_mul, List.take_add]
      refine ih.append ?_
      simpa using segment_flatten logs turns

def numbers (logs : List MEAdLogModel) : List Nat := logs.map MEAdLogModel.number

/-- Where a log is: kept in the Realm, on its way, or taken by the server. -/
inductive Phase where
  | kept
  | sent
  | gone
deriving DecidableEq, Repr

/-- A log is sent only while it is kept, and is kept again when that has failed or
the app was launched anew. -/
def life (number : Nat) : Monitor Phase Report := fun phase report =>
  match report with
  | .request logs =>
      if number ∈ numbers logs then (if phase = .kept then some .sent else none) else some phase
  | .finished logs success =>
      if number ∈ numbers logs then
        (if phase = .sent then some (if success then .gone else .kept) else none)
      else some phase
  | .launched => some (if phase = .sent then .kept else phase)

structure Sound (adLog : AdLog) : Prop where
  distinct : (numbers adLog.logs).Nodup
  below : ∀ log ∈ adLog.logs, log.number < adLog.numbered
  flight : (numbers adLog.requests.flatten).Nodup
  stored : ∀ log ∈ adLog.requests.flatten, log ∈ adLog.logs
  idle : adLog.logsUploading = false → adLog.requests = [] ∧ adLog.entered = 0
  entered : adLog.requests.length ≤ adLog.entered

/-- The phase of a log as far as the state tells it. -/
structure Follows (number : Nat) (adLog : AdLog) (phase : Phase) : Prop where
  sound : adLog.Sound
  unsaved : adLog.numbered ≤ number → phase = .kept
  saved : number < adLog.numbered → (number ∈ numbers adLog.logs ↔ phase ≠ .gone)
  awaited : number ∈ numbers adLog.requests.flatten → phase = .sent
  sent : phase = .sent →
    number ∈ numbers adLog.requests.flatten ∨ adLog.requests.length < adLog.entered

variable {self : AdLog} {number : Nat} {phase : Phase}

theorem mem_numbers {log : MEAdLogModel} {logs : List MEAdLogModel} (member : log ∈ logs) :
    log.number ∈ numbers logs := List.mem_map_of_mem member

theorem below_of_mem (sound : self.Sound) (member : number ∈ numbers self.logs) :
    number < self.numbered := by
  obtain ⟨log, stored, rfl⟩ := List.mem_map.mp member
  exact sound.below log stored

/-- Objects of the Realm with one number are one object. -/
theorem eq_of_number (sound : self.Sound) {log other : MEAdLogModel} (member : log ∈ self.logs)
    (otherMember : other ∈ self.logs) (same : log.number = other.number) : log = other :=
  List.inj_on_of_nodup_map sound.distinct member otherMember same

theorem run_requests (batches : List (List MEAdLogModel)) (distinct : (numbers batches.flatten).Nodup)
    (kept : phase = .kept ∨ number ∉ numbers batches.flatten) :
    (life number).run phase (batches.map .request) =
      some (if number ∈ numbers batches.flatten then .sent else phase) := by
  induction batches generalizing phase with
  | nil => rfl
  | cons batch rest ih =>
      rw [List.flatten_cons, numbers, List.map_append, ← numbers, ← numbers] at distinct kept ⊢
      obtain ⟨-, later, apart⟩ := List.nodup_append.mp distinct
      rw [List.map_cons, Monitor.run_cons]
      by_cases here : number ∈ numbers batch
      · have absent : number ∉ numbers rest.flatten := fun there => apart number here number there rfl
        have isKept : phase = .kept := by
          rcases kept with kept | kept
          · exact kept
          · exact absurd (List.mem_append_left _ here) kept
        have sends : life number phase (.request batch) = some .sent := by simp [life, here, isKept]
        rw [sends, Option.bind_some, ih later (.inr absent), if_neg absent,
          if_pos (List.mem_append_left _ here)]
      · have ignores : life number phase (.request batch) = some phase := by simp [life, here]
        have stillKept : phase = .kept ∨ number ∉ numbers rest.flatten := by
          rcases kept with kept | kept
          · exact .inl kept
          · exact .inr fun there => kept (List.mem_append_right _ there)
        rw [ignores, Option.bind_some, ih later stillKept]
        simp [here]

/-- A step has taken the log from one phase to the next. -/
def Lives (number : Nat) (phase : Phase) (result : AdLog × List Report) : Prop :=
  ∃ later, (life number).run phase result.2 = some later ∧ Follows number result.1 later

theorem Follows.unsent (follows : Follows number self phase) (idle : self.logsUploading = false) :
    phase ≠ .sent := by
  obtain ⟨unasked, unentered⟩ := follows.sound.idle idle
  intro sent
  rcases follows.sent sent with member | waits
  · rw [unasked] at member
    cases member
  · omega

theorem uploads_live (follows : Follows number self phase) (idle : self.logsUploading = false)
    (postCount : Nat) :
    Lives number phase (self.uploadImmediatlyWithLogs self.logs postCount) := by
  obtain ⟨unasked, -⟩ := follows.sound.idle idle
  have front := batches_flatten self.logs (min (postCount + 1) 9)
  generalize isBatches : (List.range (min (postCount + 1) 9)).flatMap (segment self.logs) = batches
    at front
  have inFront : (numbers batches.flatten).Perm
      (numbers (self.logs.take (min (postCount + 1) 9 * kLimit))) := front.map _
  have distinct : (numbers batches.flatten).Nodup := by
    refine inFront.nodup_iff.mpr (follows.sound.distinct.sublist ?_)
    exact (List.take_sublist _ _).map _
  have stored : ∀ log ∈ batches.flatten, log ∈ self.logs :=
    fun log member => List.mem_of_mem_take (front.mem_iff.mp member)
  have kept : phase = .kept ∨ number ∉ numbers batches.flatten := by
    cases isPhase : phase with
    | kept => exact .inl rfl
    | sent => exact absurd isPhase (follows.unsent idle)
    | gone =>
        refine .inr fun member => ?_
        obtain ⟨log, asked, rfl⟩ := List.mem_map.mp member
        have present := mem_numbers (stored log asked)
        exact (follows.saved (below_of_mem follows.sound present)).mp present isPhase
  have isStored : number ∈ numbers batches.flatten → number ∈ numbers self.logs := by
    intro member
    obtain ⟨log, asked, rfl⟩ := List.mem_map.mp member
    exact mem_numbers (stored log asked)
  rw [uploadImmediatlyWithLogs, isBatches, unasked, List.nil_append]
  refine ⟨_, run_requests batches distinct kept, ?_⟩
  constructor
  case sound =>
    exact { follows.sound with
      flight := distinct
      stored := stored
      idle := fun stopped => nomatch stopped
      entered := Nat.le_refl _ }
  case unsaved =>
    intro unsaved
    have absent : number ∉ numbers batches.flatten := fun member =>
      absurd (below_of_mem follows.sound (isStored member)) (Nat.not_lt.mpr unsaved)
    rw [if_neg absent]
    exact follows.unsaved unsaved
  case saved =>
    intro saved
    split
    · next member => exact iff_of_true (isStored member) (by decide)
    · exact follows.saved saved
  case awaited =>
    intro member
    exact if_pos member
  case sent =>
    intro sent
    split at sent
    · next member => exact .inl member
    · exact absurd sent (follows.unsent idle)

theorem mem_deleteLogs (sound : self.Sound) {batch : List MEAdLogModel}
    (stored : ∀ log ∈ batch, log ∈ self.logs) :
    number ∈ numbers (self.deleteLogs batch).logs ↔
      number ∈ numbers self.logs ∧ number ∉ numbers batch := by
  constructor
  · intro member
    obtain ⟨log, remains, rfl⟩ := List.mem_map.mp member
    obtain ⟨present, outside⟩ := List.mem_filter.mp remains
    refine ⟨mem_numbers present, fun deleted => ?_⟩
    obtain ⟨other, inBatch, same⟩ := List.mem_map.mp deleted
    rw [eq_of_number sound (stored other inBatch) present same] at inBatch
    simp [inBatch] at outside
  · rintro ⟨member, outside⟩
    obtain ⟨log, present, rfl⟩ := List.mem_map.mp member
    refine mem_numbers (List.mem_filter.mpr ⟨present, ?_⟩)
    have absent : log ∉ batch := fun inBatch => outside (mem_numbers inBatch)
    simp [absent]

/-- What is left when the request of a batch has been answered. -/
structure Answered (batch : List MEAdLogModel) (adLog : AdLog) : Prop where
  sound : adLog.Sound
  stored : ∀ log ∈ batch, log ∈ adLog.logs
  uploading : adLog.logsUploading = true
  split : ∀ number, number ∈ numbers adLog.requests.flatten ↔
    number ∈ numbers batch ∨ number ∈ numbers (adLog.requests.erase batch).flatten
  apart : ∀ number ∈ numbers batch, number ∉ numbers (adLog.requests.erase batch).flatten
  fewer : (adLog.requests.erase batch).length + 1 = adLog.requests.length
  flight : (numbers (adLog.requests.erase batch).flatten).Nodup
  still : ∀ log ∈ (adLog.requests.erase batch).flatten, log ∈ adLog.logs

theorem answered_of_mem (sound : self.Sound) {batch : List MEAdLogModel}
    (asked : batch ∈ self.requests) : Answered batch self := by
  have split : (numbers self.requests.flatten).Perm
      (numbers batch ++ numbers (self.requests.erase batch).flatten) := by
    rw [numbers, numbers, numbers, ← List.map_append, ← List.flatten_cons]
    exact ((List.perm_cons_erase asked).flatten).map _
  obtain ⟨-, later, apart⟩ := List.nodup_append.mp (split.nodup_iff.mp sound.flight)
  constructor
  case sound => exact sound
  case stored => exact fun log member => sound.stored log (List.mem_flatten_of_mem asked member)
  case uploading =>
    rw [← Bool.not_eq_false]
    intro idle
    rw [(sound.idle idle).1] at asked
    cases asked
  case split => exact fun number => split.mem_iff.trans List.mem_append
  case apart => exact fun number here there => apart number here number there rfl
  case fewer => exact List.length_erase_add_one asked
  case flight => exact later
  case still =>
    intro log member
    exact sound.stored log (((List.erase_sublist).flatten).subset member)

theorem receive_sound {batch : List MEAdLogModel} (answered : Answered batch self) (answer : Answer) :
    (self.receive batch answer).1.Sound := by
  have entered := answered.sound.entered
  have fewer := answered.fewer
  have idle : self.logsUploading = false → self.requests.erase batch = [] ∧ self.entered - 1 = 0 := by
    intro idle
    rw [answered.uploading] at idle
    cases idle
  cases answer with
  | error =>
      exact { answered.sound with
        flight := answered.flight
        stored := answered.still
        idle := idle
        entered := by simp only [receive]; omega }
  | code =>
      exact { answered.sound with
        flight := answered.flight
        stored := answered.still
        idle := fun stopped => absurd (answered.uploading.symm.trans stopped) (by decide)
        entered := by simp only [receive]; omega }
  | success =>
      refine {
        distinct := answered.sound.distinct.sublist (List.filter_sublist.map _)
        below := fun log member => answered.sound.below log (List.mem_of_mem_filter member)
        flight := answered.flight
        stored := fun log member => ?_
        idle := idle
        entered := by simp only [receive, deleteLogs]; omega }
      have outside : log ∉ batch := fun inBatch =>
        answered.apart log.number (mem_numbers inBatch) (mem_numbers member)
      exact List.mem_filter.mpr ⟨answered.still log member, by simp [outside]⟩

/-- The answer of a log's own request takes it to its next phase. -/
theorem own_lives (follows : Follows number self phase) {batch : List MEAdLogModel}
    (answered : Answered batch self) (own : number ∈ numbers batch) (answer : Answer) :
    Lives number phase (self.receive batch answer) := by
  have isSent : phase = .sent := follows.awaited ((answered.split number).mpr (.inl own))
  have absent := answered.apart number own
  obtain ⟨log, inBatch, isLog⟩ := List.mem_map.mp own
  have stored := mem_numbers (answered.stored log inBatch)
  rw [isLog] at stored
  have below := below_of_mem follows.sound stored
  have sound := receive_sound answered answer
  subst isSent
  cases answer with
  | error =>
      exact ⟨.kept, by simp [receive, life, own], {
        sound
        unsaved := fun _ => rfl
        saved := fun _ => iff_of_true stored (by decide)
        awaited := fun member => absurd member absent
        sent := fun sent => nomatch sent }⟩
  | success =>
      exact ⟨.gone, by simp [receive, life, own], {
        sound
        unsaved := fun unsaved => absurd below (Nat.not_lt.mpr unsaved)
        saved := fun _ => iff_of_false
          (fun member => ((mem_deleteLogs answered.sound answered.stored).mp member).2 own)
          (fun notGone => notGone rfl)
        awaited := fun member => absurd member absent
        sent := fun sent => nomatch sent }⟩
  | code =>
      have entered := answered.sound.entered
      have fewer := answered.fewer
      exact ⟨.sent, rfl, {
        sound
        unsaved := follows.unsaved
        saved := follows.saved
        awaited := fun _ => rfl
        sent := fun _ => .inr (by simp only [receive]; omega) }⟩

theorem other_lives (follows : Follows number self phase) {batch : List MEAdLogModel}
    (answered : Answered batch self) (other : number ∉ numbers batch) (answer : Answer) :
    Lives number phase (self.receive batch answer) := by
  have sound := receive_sound answered answer
  have entered := answered.sound.entered
  have fewer := answered.fewer
  have awaited : number ∈ numbers (self.requests.erase batch).flatten → phase = .sent :=
    fun member => follows.awaited ((answered.split number).mpr (.inr member))
  have sent : phase = .sent → number ∈ numbers (self.requests.erase batch).flatten ∨
      (self.requests.erase batch).length < self.entered - 1 := by
    intro sent
    rcases follows.sent sent with member | waits
    · exact .inl (((answered.split number).mp member).resolve_left other)
    · exact .inr (by omega)
  refine ⟨phase, ?_, ?_⟩
  · cases answer <;> simp [receive, life, other]
  · cases answer with
    | error =>
        exact { sound, unsaved := follows.unsaved, saved := follows.saved, awaited, sent }
    | success =>
        refine { sound, unsaved := follows.unsaved, saved := fun saved => ?_, awaited, sent }
        refine Iff.trans ?_ (follows.saved saved)
        exact (mem_deleteLogs answered.sound answered.stored).trans (and_iff_left other)
    | code =>
        refine { sound, unsaved := follows.unsaved, saved := follows.saved, awaited, sent := ?_ }
        intro isSent
        exact (sent isSent).imp_right fun waits => Nat.lt_of_lt_of_le waits (Nat.sub_le _ _)

theorem save_lives (follows : Follows number self phase) (event : AdLogEventType) :
    Lives number phase (self.saveLogModelToRealm event, []) := by
  have sound := follows.sound
  have isNew : self.numbered ∉ numbers self.logs := fun member =>
    absurd (below_of_mem sound member) (Nat.lt_irrefl _)
  have members : numbers (self.saveLogModelToRealm event).logs =
      numbers self.logs ++ [self.numbered] := by
    rw [saveLogModelToRealm, numbers, List.map_append]
    rfl
  refine ⟨phase, rfl, ?_⟩
  constructor
  case sound =>
    refine { sound with
      distinct := ?_
      below := fun log member => ?_
      stored := fun log member => List.mem_append_left _ (sound.stored log member) }
    · rw [members]
      exact List.nodup_append.mpr ⟨sound.distinct, List.nodup_singleton _, by
        rintro other member _ last rfl
        rw [List.mem_singleton.mp last] at member
        exact isNew member⟩
    · rcases List.mem_append.mp member with old | new
      · exact Nat.lt_succ_of_lt (sound.below log old)
      · rw [List.mem_singleton.mp new]
        exact Nat.lt_succ_self _
  case unsaved => exact fun unsaved => follows.unsaved (Nat.le_of_succ_le unsaved)
  case saved =>
    intro saved
    rw [members, List.mem_append, List.mem_singleton]
    rcases Nat.lt_succ_iff_lt_or_eq.mp saved with old | new
    · rw [follows.saved old, or_iff_left (Nat.ne_of_lt old)]
    · have kept : phase = .kept := follows.unsaved (Nat.le_of_eq new.symm)
      rw [kept]
      exact iff_of_true (.inr new) (by decide)
  case awaited => exact follows.awaited
  case sent => exact follows.sent

theorem step_lives (follows : Follows number self phase) (input : Input) (enabled : self.enabled input) :
    Lives number phase (self.step input) := by
  have sound := follows.sound
  cases input with
  | save event => exact save_lives follows event
  | reorder logs =>
      have members : ∀ log, log ∈ logs ↔ log ∈ self.logs := fun log => enabled.mem_iff
      refine ⟨phase, rfl, { follows with
        sound := { sound with
          distinct := (enabled.map MEAdLogModel.number).nodup_iff.mpr sound.distinct
          below := fun log member => sound.below log ((members log).mp member)
          stored := fun log member => (members log).mpr (sound.stored log member) }
        saved := fun saved => ?_ }⟩
      exact ((enabled.map MEAdLogModel.number).mem_iff).trans (follows.saved saved)
  | uploadImmediately =>
      change Lives number phase self.uploadImmediately
      unfold uploadImmediately
      split
      · exact ⟨phase, rfl, follows⟩
      · next idle => exact uploads_live follows (Bool.eq_false_iff.mpr idle) _
  | checkLogsAndUploadToServer =>
      change Lives number phase self.checkLogsAndUploadToServer
      unfold checkLogsAndUploadToServer
      split
      · exact ⟨phase, rfl, follows⟩
      · next idle =>
          split
          · exact uploads_live follows (Bool.eq_false_iff.mpr idle) _
          · exact ⟨phase, rfl, follows⟩
  | receive batch answer =>
      have answered := answered_of_mem sound enabled
      by_cases own : number ∈ numbers batch
      · exact own_lives follows answered own answer
      · exact other_lives follows answered own answer
  | notified =>
      have entered := sound.entered
      refine ⟨phase, rfl, { follows with
        sound := { sound with idle := fun _ => ⟨?_, enabled.2⟩ } }⟩
      rw [enabled.2] at entered
      exact List.length_eq_zero_iff.mp (Nat.le_zero.mp entered)
  | relaunch =>
      refine ⟨if phase = .sent then .kept else phase, rfl, ?_⟩
      constructor
      case sound =>
        exact {
          distinct := sound.distinct
          below := sound.below
          flight := List.nodup_nil
          stored := fun _ member => nomatch member
          idle := fun _ => ⟨rfl, rfl⟩
          entered := Nat.le_refl _ }
      case unsaved =>
        intro unsaved
        rw [follows.unsaved unsaved, if_neg (by decide)]
      case saved =>
        intro saved
        refine (follows.saved saved).trans ?_
        cases phase <;> simp
      case awaited => exact fun member => nomatch member
      case sent =>
        intro sent
        cases phase <;> cases sent

theorem follows_initial (number : Nat) : Follows number {} .kept where
  sound := {
    distinct := List.nodup_nil
    below := fun _ member => nomatch member
    flight := List.nodup_nil
    stored := fun _ member => nomatch member
    idle := fun _ => ⟨rfl, rfl⟩
    entered := Nat.le_refl _ }
  unsaved _ := rfl
  saved saved := nomatch saved
  awaited member := nomatch member
  sent sent := nomatch sent

/-- However the app logs and uploads, is answered and launched anew, no log is lost:
it is kept until the server has taken it, which it has when its success has been
heard of.  It is never in two requests at a time, and is not sent again once it was
taken. -/
theorem logs_live {inputs : List Input} (runs : machine.Runs {} inputs) (number : Nat) :
    ∃ phase, (life number).run .kept (machine.trace {} inputs) = some phase ∧
      (number ∈ numbers (machine.after {} inputs).requests.flatten → phase = .sent) ∧
      (number < (machine.after {} inputs).numbered →
        (number ∈ numbers (machine.after {} inputs).logs ↔ phase ≠ .gone)) := by
  obtain ⟨phase, ran, follows⟩ := @Monitor.run_trace_of_simulation _ _ (life number) _ _ machine
    (Follows number) (fun _ _ => True)
    (fun state input phase follows enabled _ => step_lives follows input enabled) _ _
    (follows_initial number) inputs runs (Machine.along_true _ _)
  exact ⟨phase, ran, follows.awaited, follows.saved⟩

/-- One log is saved, sent and taken. -/
def takenOnce : List Input :=
  [.save .request, .uploadImmediately, .receive [{ number := 0, event := .request }] .success,
    .notified]

theorem takenOnce_runs : machine.Runs {} takenOnce :=
  ⟨trivial, trivial, .head _, ⟨rfl, rfl⟩, trivial⟩

theorem takenOnce_lives :
    ∃ phase, (life 0).run .kept (machine.trace {} takenOnce) = some phase ∧
      (0 ∈ numbers (machine.after {} takenOnce).requests.flatten → phase = .sent) ∧
      (0 < (machine.after {} takenOnce).numbered →
        (0 ∈ numbers (machine.after {} takenOnce).logs ↔ phase ≠ .gone)) :=
  logs_live takenOnce_runs 0

/-- An upload that will not end: a request is answered and has not left the group,
or nobody waits for the group. -/
def Stuck (self : AdLog) : Prop :=
  self.logsUploading = true ∧ (self.requests.length < self.entered ∨ self.notifies = false)

/-- The server answers with another code, or there are too many logs to check. -/
def Obstructs (self : AdLog) : Input → Prop
  | .receive _ answer => answer = .code
  | .checkLogsAndUploadToServer => self.logsUploading = false ∧ 9 * kLimit ≤ self.logs.length
  | _ => False

theorem follows_of_sound (sound : self.Sound) : Follows self.numbered self .kept where
  sound := sound
  unsaved _ := rfl
  saved saved := absurd saved (Nat.lt_irrefl _)
  awaited member := by
    obtain ⟨log, asked, isNew⟩ := List.mem_map.mp member
    have below := sound.below log (sound.stored log asked)
    omega
  sent sent := nomatch sent

theorem step_sound (sound : self.Sound) (input : Input) (enabled : self.enabled input) :
    (self.step input).1.Sound := by
  obtain ⟨_, _, follows⟩ := step_lives (follows_of_sound sound) input enabled
  exact follows.sound

theorem not_stuck_of_idle (idle : self.logsUploading = false) : ¬ self.Stuck := by
  rintro ⟨uploading, -⟩
  rw [idle] at uploading
  cases uploading

theorem stuck_upload_iff (sound : self.Sound) (idle : self.logsUploading = false) (postCount : Nat) :
    (self.uploadImmediatlyWithLogs self.logs postCount).1.Stuck ↔ 9 ≤ postCount := by
  obtain ⟨unasked, -⟩ := sound.idle idle
  simp only [Stuck, uploadImmediatlyWithLogs, unasked, List.nil_append, Nat.lt_irrefl, false_or,
    decide_eq_false_iff_not, true_and]
  omega

theorem stuck_receive_iff (sound : self.Sound) {batch : List MEAdLogModel}
    (asked : batch ∈ self.requests) (answer : Answer) :
    (self.receive batch answer).1.Stuck ↔ answer = .code ∨ self.Stuck := by
  have answered := answered_of_mem sound asked
  have fewer := answered.fewer
  have entered := sound.entered
  have still : (self.requests.erase batch).length < self.entered - 1 ↔
      self.requests.length < self.entered := by omega
  cases answer with
  | error => simp [Stuck, receive, still]
  | success => simp [Stuck, receive, deleteLogs, still]
  | code =>
      have waits : (self.requests.erase batch).length < self.entered := by omega
      simp [Stuck, receive, waits, answered.uploading]

/-- An upload is stuck since it was obstructed, until the app is launched anew. -/
theorem stuck_step_iff (sound : self.Sound) (input : Input) (enabled : self.enabled input) :
    (self.step input).1.Stuck ↔ self.Obstructs input ∨ self.Stuck ∧ input ≠ .relaunch := by
  have same : ∀ input : Input, input ≠ .relaunch → ¬ self.Obstructs input →
      (self.Stuck ↔ self.Obstructs input ∨ self.Stuck ∧ input ≠ .relaunch) := by
    intro input other free
    rw [or_iff_right free, and_iff_left other]
  cases input with
  | save event => exact same _ (fun absurd => nomatch absurd) id
  | reorder logs => exact same _ (fun absurd => nomatch absurd) id
  | uploadImmediately =>
      change self.uploadImmediately.1.Stuck ↔ _
      unfold uploadImmediately
      split
      · exact same _ (fun absurd => nomatch absurd) id
      · next running =>
          have idle := Bool.eq_false_iff.mpr running
          rw [stuck_upload_iff sound idle]
          simp [Obstructs, not_stuck_of_idle idle]
  | checkLogsAndUploadToServer =>
      change self.checkLogsAndUploadToServer.1.Stuck ↔ _
      unfold checkLogsAndUploadToServer
      split
      · next running => simp [Obstructs, running]
      · next running =>
          have idle := Bool.eq_false_iff.mpr running
          have free := not_stuck_of_idle idle
          split
          · rw [stuck_upload_iff sound idle]
            simp only [Obstructs, idle, free, false_and, or_false, true_and, kLimit]
            omega
          · next few =>
              simp only [Obstructs, idle, free, false_and, or_false, true_and, kLimit, false_iff]
              unfold kLogUploadCount at few
              omega
  | receive batch answer =>
      refine (stuck_receive_iff sound enabled answer).trans ?_
      simp [Obstructs]
  | notified =>
      refine iff_of_false (not_stuck_of_idle rfl) ?_
      rintro (obstructs | ⟨⟨-, waits | unheard⟩, -⟩)
      · exact obstructs
      · rw [enabled.2] at waits
        omega
      · rw [enabled.1] at unheard
        cases unheard
  | relaunch =>
      refine iff_of_false (not_stuck_of_idle rfl) ?_
      rintro (obstructs | ⟨-, other⟩)
      · exact obstructs
      · exact other rfl

/-- Uploads begin one after another. -/
theorem idle_of_request {input : Input} {logs : List MEAdLogModel}
    (member : .request logs ∈ (self.step input).2) : self.logsUploading = false := by
  rw [← Bool.not_eq_true]
  intro uploading
  cases input with
  | save event => cases member
  | reorder others => cases member
  | uploadImmediately => simp [step, uploadImmediately, uploading] at member
  | checkLogsAndUploadToServer => simp [step, checkLogsAndUploadToServer, uploading] at member
  | receive batch answer => cases answer <;> simp [step, receive] at member
  | notified => cases member
  | relaunch => simp [step] at member

/-- Nothing is sent while an upload is stuck. -/
theorem stuck_run (sound : self.Sound) (stuck : self.Stuck) {inputs : List Input}
    (runs : machine.Runs self inputs) (running : ∀ input ∈ inputs, input ≠ .relaunch) :
    (machine.after self inputs).logsUploading = true ∧
      ∀ logs, .request logs ∉ machine.trace self inputs := by
  induction inputs generalizing self with
  | nil => exact ⟨stuck.1, fun _ => List.not_mem_nil⟩
  | cons input rest ih =>
      have other := running input List.mem_cons_self
      have stays := (stuck_step_iff sound input runs.1).mpr (.inr ⟨stuck, other⟩)
      have later := ih (step_sound sound input runs.1) stays runs.2
        (fun input member => running input (List.mem_cons_of_mem _ member))
      refine ⟨later.1, fun logs member => ?_⟩
      rw [Machine.trace_cons] at member
      rcases List.mem_append.mp member with here | there
      · exact not_stuck_of_idle (idle_of_request here) stuck
      · exact later.2 logs there

/-- An upload that is not stuck ends when its requests are answered. -/
theorem ends_of_not_stuck (sound : self.Sound) (free : ¬ self.Stuck) :
    ∃ later, (∀ input ∈ later, input ≠ .relaunch) ∧ machine.Runs self later ∧
      (machine.after self later).logsUploading = false := by
  generalize count : self.requests.length = requests
  induction requests generalizing self with
  | zero =>
      cases uploading : self.logsUploading with
      | false =>
          exact ⟨[], fun _ member => absurd member List.not_mem_nil, trivial, uploading⟩
      | true =>
          have waits : ¬ (self.requests.length < self.entered ∨ self.notifies = false) :=
            fun waits => free ⟨uploading, waits⟩
          obtain ⟨left, heard⟩ := not_or.mp waits
          refine ⟨[.notified], ?_, ⟨⟨Bool.not_eq_false _ ▸ heard, by omega⟩, trivial⟩, rfl⟩
          intro input member
          rw [List.mem_singleton.mp member]
          exact fun same => nomatch same
  | succ requests ih =>
      obtain ⟨batch, rest, isRequests⟩ := List.exists_cons_of_length_eq_add_one count
      have asked : batch ∈ self.requests := by simp [isRequests]
      have enabled : self.enabled (.receive batch .error) := asked
      have still : ¬ (self.step (.receive batch .error)).1.Stuck := by
        rw [stuck_step_iff sound _ enabled]
        rintro (obstructs | ⟨stuck, -⟩)
        · cases obstructs
        · exact free stuck
      have fewer := (answered_of_mem sound asked).fewer
      have left : (self.step (.receive batch .error)).1.requests.length = requests := by
        change (self.requests.erase batch).length = requests
        omega
      obtain ⟨later, running, runs, ends⟩ := ih (step_sound sound _ enabled) still left
      refine ⟨.receive batch .error :: later, ?_, ⟨enabled, runs⟩, ends⟩
      intro input member
      rcases List.mem_cons.mp member with rfl | member
      · exact fun same => nomatch same
      · exact running input member

theorem sound_initial : Sound {} := (follows_initial 0).sound

/-- The uploads of a running app can come to an end just if the app was launched
since the server last answered with another code and since the last check of
forty-five logs or more.  Otherwise nothing is uploaded until the app is launched. -/
theorem uploads_end_iff {inputs : List Input} (runs : machine.Runs {} inputs) :
    ((∃ later, (∀ input ∈ later, input ≠ .relaunch) ∧
        machine.Runs (machine.after {} inputs) later ∧
        (machine.after (machine.after {} inputs) later).logsUploading = false) ↔
      ¬ machine.Since Obstructs (fun _ input => input ≠ .relaunch) {} inputs) ∧
    (machine.Since Obstructs (fun _ input => input ≠ .relaunch) {} inputs →
      ∀ later, (∀ input ∈ later, input ≠ .relaunch) → machine.Runs (machine.after {} inputs) later →
        ∀ logs, .request logs ∉ machine.trace (machine.after {} inputs) later) := by
  have stuck_iff := @Machine.live_iff_since _ _ _ machine Obstructs (fun _ input => input ≠ .relaunch)
    Sound Stuck (fun state input sound enabled => step_sound sound input enabled)
    (fun state input sound enabled => stuck_step_iff sound input enabled) {} sound_initial
    (not_stuck_of_idle rfl) inputs runs
  have sound := @Machine.always_of_invariant _ _ _ machine Sound (fun _ _ => True)
    (fun state input sound enabled _ => step_sound sound input enabled) {} sound_initial inputs runs
    (Machine.along_true _ _) inputs [] (List.append_nil _).symm
  rw [← stuck_iff]
  refine ⟨⟨?_, ends_of_not_stuck sound⟩, fun stuck later running others => ?_⟩
  · rintro ⟨later, running, others, ends⟩ stuck
    have uploading := (stuck_run sound stuck others running).1
    rw [ends] at uploading
    cases uploading
  · exact (stuck_run sound stuck others running).2

/-- One log is saved and sent, and the server will not have it. -/
def refusedOnce : List Input :=
  [.save .request, .uploadImmediately, .receive [{ number := 0, event := .request }] .code]

theorem refusedOnce_runs : machine.Runs {} refusedOnce :=
  ⟨trivial, trivial, .head _, trivial⟩

theorem refusedOnce_ends :
    ((∃ later, (∀ input ∈ later, input ≠ .relaunch) ∧
        machine.Runs (machine.after {} refusedOnce) later ∧
        (machine.after (machine.after {} refusedOnce) later).logsUploading = false) ↔
      ¬ machine.Since Obstructs (fun _ input => input ≠ .relaunch) {} refusedOnce) ∧
    (machine.Since Obstructs (fun _ input => input ≠ .relaunch) {} refusedOnce →
      ∀ later, (∀ input ∈ later, input ≠ .relaunch) →
        machine.Runs (machine.after {} refusedOnce) later →
        ∀ logs, .request logs ∉ machine.trace (machine.after {} refusedOnce) later) :=
  uploads_end_iff refusedOnce_runs

end AdLog

end GDTAdapter.Mediation
