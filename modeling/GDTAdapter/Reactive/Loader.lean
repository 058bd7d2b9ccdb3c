import Mathlib.Data.List.Nodup

namespace Reactive

/-! # Loaders

A loader asks a server for candidates and starts their loads one after another.
It listens to one slot, which holds the load it started last; the answer to any
other load reaches nobody.  A slot may have a timer, and a slot that has timed
out is no longer listened to.
-/

/-- `heard` tells whether the answer to the load would reach the slot. -/
structure Slot where
  connected : Bool
  load : Option Nat
  heard : Bool
  timer : Bool

def Slot.failed : Slot where
  connected := true
  load := none
  heard := true
  timer := false

def Slot.started (load : Nat) (timer : Bool) : Slot where
  connected := true
  load := some load
  heard := true
  timer := timer

/-- `requested` and `unanswered` are what the server and the loads still owe. -/
structure Loader where
  loading : Bool
  requested : Bool
  slot : Option Slot
  fresh : Nat
  unanswered : List Nat

namespace Loader

def Awaits (loader : Loader) : Prop :=
  ∃ slot load, loader.slot = some slot ∧ slot.connected = true ∧ slot.load = some load ∧
    load ∈ loader.unanswered

/-- What trying the candidates one after another can leave behind: the loader
gives up with the slot it had or with a failed one, or a load is started. -/
inductive Fetched (before : Loader) : Loader → Prop where
  | refused : Fetched before { before with loading := false }
  | failed : Fetched before { before with loading := false, slot := some Slot.failed }
  | started (timer : Bool) :
      Fetched before
        { before with
            slot := some (Slot.started before.fresh timer)
            fresh := before.fresh + 1
            unanswered := before.unanswered ++ [before.fresh] }

theorem Fetched.after_failed {before after : Loader}
    (fetched : Fetched { before with slot := some Slot.failed } after) : Fetched before after := by
  cases fetched with
  | refused => exact Fetched.failed
  | failed => exact Fetched.failed
  | started timer => exact Fetched.started timer

def answer (loader : Loader) (slot : Slot) (load : Nat) : Loader :=
  { loader with slot := some { slot with timer := false }, unanswered := loader.unanswered.erase load }

def loaded (loader : Loader) (slot : Slot) (load : Nat) : Loader :=
  { loader.answer slot load with loading := if slot.connected then false else loader.loading }

def timedOut (loader : Loader) (slot : Slot) : Loader :=
  { loader with slot := some { slot with timer := false, connected := false } }

inductive Step (before : Loader) : Loader → Prop where
  | request (idle : before.loading = false) :
      Step before { before with loading := true, requested := true }
  | response {after : Loader} (requested : before.requested = true)
      (fetched : Fetched { before with requested := false } after) : Step before after
  | loaded {slot : Slot} {load : Nat} (held : before.slot = some slot)
      (same : slot.load = some load) (owed : load ∈ before.unanswered) :
      Step before (before.loaded slot load)
  | failed {slot : Slot} {load : Nat} {after : Loader} (held : before.slot = some slot)
      (same : slot.load = some load) (owed : load ∈ before.unanswered)
      (connected : slot.connected = true) (fetched : Fetched (before.answer slot load) after) :
      Step before after
  | unheard {slot : Slot} {load : Nat} (held : before.slot = some slot)
      (same : slot.load = some load) (owed : load ∈ before.unanswered)
      (disconnected : slot.connected = false) : Step before (before.answer slot load)
  | timeout {slot : Slot} {after : Loader} (held : before.slot = some slot)
      (armed : slot.timer = true) (fetched : Fetched (before.timedOut slot) after) :
      Step before after
  | stale {load : Nat} (other : ∀ slot, before.slot = some slot → slot.load ≠ some load) :
      Step before { before with unanswered := before.unanswered.erase load }

structure Wellformed (loader : Loader) : Prop where
  heard : ∀ slot, loader.slot = some slot → slot.heard = true
  distinct : loader.unanswered.Nodup
  allocated : ∀ load ∈ loader.unanswered, load < loader.fresh

/-- The loader is busy exactly while the server or the load it listens to owes it
an answer, and timers run only on such loads. -/
structure Sound (loader : Loader) : Prop extends Wellformed loader where
  busy : loader.requested = true → loader.loading = true
  waiting : loader.loading = true → loader.requested = true ∨ loader.Awaits
  exclusive : loader.Awaits → loader.loading = true ∧ loader.requested = false
  armed : ∀ slot, loader.slot = some slot → slot.timer = true → loader.Awaits

/-- A busy loader that nothing owes an answer has to try its next candidate. -/
structure Due (loader : Loader) : Prop extends Wellformed loader where
  loading : loader.loading = true
  unrequested : loader.requested = false
  unawaited : ¬ loader.Awaits
  unarmed : ∀ slot, loader.slot = some slot → slot.timer = false

theorem Sound.of_idle {loader : Loader} (wellformed : loader.Wellformed)
    (idle : loader.loading = false) (unrequested : loader.requested = false)
    (unawaited : ¬ loader.Awaits) (unarmed : ∀ slot, loader.slot = some slot → slot.timer = false) :
    loader.Sound := by
  refine ⟨wellformed, ?_, ?_, ?_, ?_⟩
  · intro requested
    rw [unrequested] at requested
    cases requested
  · intro loading
    rw [idle] at loading
    cases loading
  · intro awaits
    exact absurd awaits unawaited
  · intro slot held armed
    rw [unarmed slot held] at armed
    cases armed

theorem Due.fetched {before after : Loader} (due : before.Due) (fetched : Fetched before after) :
    after.Sound := by
  cases fetched with
  | refused =>
      exact Sound.of_idle ⟨due.heard, due.distinct, due.allocated⟩ rfl due.unrequested due.unawaited
        due.unarmed
  | failed =>
      refine Sound.of_idle ⟨?_, due.distinct, due.allocated⟩ rfl due.unrequested ?_ ?_
      · intro slot held
        cases held
        rfl
      · intro awaits
        obtain ⟨slot, load, held, _, same, _⟩ := awaits
        cases held
        cases same
      · intro slot held
        cases held
        rfl
  | started timer =>
      have new : before.fresh ∉ before.unanswered := by
        intro owed
        exact absurd (due.allocated before.fresh owed) (Nat.lt_irrefl _)
      have awaits : Awaits
          { before with
              slot := some (Slot.started before.fresh timer)
              fresh := before.fresh + 1
              unanswered := before.unanswered ++ [before.fresh] } :=
        ⟨_, before.fresh, rfl, rfl, rfl, List.mem_append_right _ List.mem_cons_self⟩
      refine ⟨⟨?_, ?_, ?_⟩, ?_, ?_, ?_, ?_⟩
      · intro slot held
        cases held
        rfl
      · refine List.nodup_append.mpr ⟨due.distinct, List.nodup_singleton _, ?_⟩
        intro load owed other last same
        rw [List.mem_singleton.mp last] at same
        exact new (same ▸ owed)
      · intro load owed
        rcases List.mem_append.mp owed with earlier | last
        · exact Nat.lt_succ_of_lt (due.allocated load earlier)
        · rw [List.mem_singleton.mp last]
          exact Nat.lt_succ_self _
      · intro _
        exact due.loading
      · intro _
        exact Or.inr awaits
      · intro _
        exact ⟨due.loading, due.unrequested⟩
      · intro slot _ _
        exact awaits

theorem Sound.unarmed_of_unawaited {loader : Loader} (sound : loader.Sound)
    (unawaited : ¬ loader.Awaits) : ∀ slot, loader.slot = some slot → slot.timer = false := by
  intro slot held
  cases armed : slot.timer with
  | false => rfl
  | true => exact absurd (sound.armed slot held armed) unawaited

theorem Sound.due_of_response {loader : Loader} (sound : loader.Sound)
    (requested : loader.requested = true) : Due { loader with requested := false } := by
  have unawaited : ¬ loader.Awaits := by
    intro awaits
    have unrequested := (sound.exclusive awaits).2
    rw [requested] at unrequested
    cases unrequested
  exact ⟨⟨sound.heard, sound.distinct, sound.allocated⟩, sound.busy requested, rfl, unawaited,
    sound.unarmed_of_unawaited unawaited⟩

theorem Sound.due_of_timeout {loader : Loader} (sound : loader.Sound) {slot : Slot}
    (held : loader.slot = some slot) (armed : slot.timer = true) : (loader.timedOut slot).Due := by
  obtain ⟨loading, unrequested⟩ := sound.exclusive (sound.armed slot held armed)
  refine ⟨⟨?_, sound.distinct, sound.allocated⟩, loading, unrequested, ?_, ?_⟩
  · intro other current
    cases current
    exact sound.heard slot held
  · intro awaits
    obtain ⟨other, load, current, connected, _⟩ := awaits
    cases current
    cases connected
  · intro other current
    cases current
    rfl

section Answers

variable {loader : Loader} {slot : Slot} {load : Nat}

theorem Sound.wellformed_answer (sound : loader.Sound) (held : loader.slot = some slot) :
    (loader.answer slot load).Wellformed := by
  refine ⟨?_, sound.distinct.erase load, ?_⟩
  · intro other current
    cases current
    exact sound.heard slot held
  · intro other owed
    exact sound.allocated other (List.mem_of_mem_erase owed)

theorem Sound.unawaited_answer (sound : loader.Sound) (same : slot.load = some load) :
    ¬ (loader.answer slot load).Awaits := by
  intro awaits
  obtain ⟨other, waited, current, _, sameLoad, owed⟩ := awaits
  cases current
  have equal : some load = some waited := same.symm.trans sameLoad
  cases equal
  exact sound.distinct.not_mem_erase owed

theorem unarmed_answer : ∀ other, (loader.answer slot load).slot = some other → other.timer = false := by
  intro other current
  cases current
  rfl

theorem Sound.due_of_failure (sound : loader.Sound) (held : loader.slot = some slot)
    (same : slot.load = some load) (owed : load ∈ loader.unanswered)
    (connected : slot.connected = true) : (loader.answer slot load).Due := by
  obtain ⟨loading, unrequested⟩ := sound.exclusive ⟨slot, load, held, connected, same, owed⟩
  exact ⟨sound.wellformed_answer held, loading, unrequested, sound.unawaited_answer same,
    unarmed_answer⟩

theorem Sound.answer_unheard (sound : loader.Sound) (held : loader.slot = some slot)
    (same : slot.load = some load) (disconnected : slot.connected = false) :
    (loader.answer slot load).Sound := by
  have unawaited : ¬ loader.Awaits := by
    intro awaits
    obtain ⟨other, waited, current, connected, _⟩ := awaits
    rw [held] at current
    cases current
    rw [disconnected] at connected
    cases connected
  refine ⟨sound.wellformed_answer held, sound.busy, ?_, ?_, ?_⟩
  · intro loading
    rcases sound.waiting loading with requested | awaits
    · exact Or.inl requested
    · exact absurd awaits unawaited
  · intro awaits
    exact absurd awaits (sound.unawaited_answer same)
  · intro other current armed
    rw [unarmed_answer other current] at armed
    cases armed

theorem Sound.loaded (sound : loader.Sound) (held : loader.slot = some slot)
    (same : slot.load = some load) (owed : load ∈ loader.unanswered) :
    (loader.loaded slot load).Sound := by
  cases connected : slot.connected with
  | true =>
      have due := sound.due_of_failure held same owed connected
      have stopped : loader.loaded slot load = { loader.answer slot load with loading := false } := by
        simp [Loader.loaded, connected]
      rw [stopped]
      exact due.fetched Fetched.refused
  | false =>
      have kept : loader.loaded slot load = loader.answer slot load := by
        simp [Loader.loaded, Loader.answer, connected]
      rw [kept]
      exact sound.answer_unheard held same connected

theorem Sound.stale (sound : loader.Sound)
    (other : ∀ slot, loader.slot = some slot → slot.load ≠ some load) :
    Sound { loader with unanswered := loader.unanswered.erase load } := by
  have awaits_iff : Awaits { loader with unanswered := loader.unanswered.erase load } ↔
      loader.Awaits := by
    refine ⟨fun awaits => ?_, fun awaits => ?_⟩
    · obtain ⟨slot, waited, held, connected, same, owed⟩ := awaits
      exact ⟨slot, waited, held, connected, same, List.mem_of_mem_erase owed⟩
    · obtain ⟨slot, waited, held, connected, same, owed⟩ := awaits
      have different : waited ≠ load := by
        intro equal
        exact other slot held (equal ▸ same)
      exact ⟨slot, waited, held, connected, same, (List.mem_erase_of_ne different).mpr owed⟩
  refine ⟨⟨sound.heard, sound.distinct.erase load, ?_⟩, sound.busy, ?_, ?_, ?_⟩
  · intro waited owed
    exact sound.allocated waited (List.mem_of_mem_erase owed)
  · intro loading
    rw [awaits_iff]
    exact sound.waiting loading
  · intro awaits
    exact sound.exclusive (awaits_iff.mp awaits)
  · intro slot held armed
    exact awaits_iff.mpr (sound.armed slot held armed)

end Answers

theorem Sound.request {loader : Loader} (sound : loader.Sound) (idle : loader.loading = false) :
    Sound { loader with loading := true, requested := true } := by
  have unawaited : ¬ loader.Awaits := by
    intro awaits
    have loading := (sound.exclusive awaits).1
    rw [idle] at loading
    cases loading
  refine ⟨⟨sound.heard, sound.distinct, sound.allocated⟩, ?_, ?_, ?_, ?_⟩
  · intro _
    rfl
  · intro _
    exact Or.inl rfl
  · intro awaits
    exact absurd awaits unawaited
  · intro slot held armed
    exact absurd (sound.armed slot held armed) unawaited

theorem Sound.step {before after : Loader} (sound : before.Sound) (step : Step before after) :
    after.Sound := by
  cases step with
  | request idle => exact sound.request idle
  | response requested fetched => exact (sound.due_of_response requested).fetched fetched
  | loaded held same owed => exact sound.loaded held same owed
  | failed held same owed connected fetched =>
      exact (sound.due_of_failure held same owed connected).fetched fetched
  | unheard held same owed disconnected => exact sound.answer_unheard held same disconnected
  | timeout held armed fetched => exact (sound.due_of_timeout held armed).fetched fetched
  | stale other => exact sound.stale other

end Loader

end Reactive
