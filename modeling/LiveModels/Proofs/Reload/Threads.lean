import LiveModels.Reload.Coordinator
import Mathlib.Logic.Function.Basic
import Mathlib.Logic.Relation

/-!
# Threads on one coordinator

Any number of threads ask one coordinator for the models, while invalidations arrive and schema and
files are edited at any time. A request takes the lock of the coordinator in three ways: shared, to
look whether the models are fresh; then upgradable, which one thread at a time may have beside those
that look; and exclusive, to build. What a request does is cut into steps between which other
threads may do theirs, and what is observed of it is written to a log.

A request without any other thread does what `Service.ensureReady` does.
-/

namespace LiveModels

/-- How a thread holds the lock of the coordinator. -/
inductive Hold
  | none
  | shared
  /-- Beside those that share, and alone in waiting to be exclusive. -/
  | upgradable
  | exclusive
  deriving DecidableEq, Repr

/-- Whether two threads may hold the lock at the same time. -/
def Hold.agrees : Hold → Hold → Bool
  | .none, _ | _, .none => true
  | .shared, .shared | .shared, .upgradable | .upgradable, .shared => true
  | _, _ => false

namespace Hold

theorem agrees_comm (h h' : Hold) :
  h.agrees h' = h'.agrees h
  := by
  cases h <;> cases h' <;> rfl

@[simp]
theorem none_agrees (h : Hold) :
  Hold.none.agrees h = true
  := by
  cases h <;> rfl

@[simp]
theorem agrees_none (h : Hold) :
  h.agrees .none = true
  := by
  cases h <;> rfl

/-- Whoever has the lock alone leaves it to nobody else. -/
theorem exclusive_agrees_iff {h : Hold} :
  Hold.exclusive.agrees h = true ↔ h = .none
  := by
  cases h <;> decide

end Hold

/-- Where a thread is in a request. -/
inductive Phase
  | idle
  | asked
  /-- Looks whether the models are fresh. -/
  | looking
  /-- Has seen that the models are ready and not stale. -/
  | seen
  | waiting
  /-- Looks once more, now that no other thread can build. -/
  | checking
  | confirmed
  | upgrading
  | begun
  /-- Has cleared the flag of staleness. -/
  | cleared
  /-- Has the lock of the models directory. -/
  | locked
  | captured (snapshot : Snapshot)
  | loaded (capture : Service.Capture)
  | made (result : Except ModelsError Generation)
  /-- Has published a generation, or kept one after a failure. -/
  | settled (g : Generation)
  | answering (g : Generation)

/-- How the lock is held in a phase. -/
def Phase.hold : Phase → Hold
  | .looking | .seen => .shared
  | .checking | .confirmed | .upgrading => .upgradable
  | .begun | .cleared | .locked | .captured _ | .loaded _ | .made _ | .settled _ => .exclusive
  | .idle | .asked | .waiting | .answering _ => .none

/-- What is observed of the threads. -/
inductive Event (T : Type)
  | invalidated (t : T)
  | asked (t : T)
  | cleared (t : T)
  | captured (t : T) (snapshot : Snapshot)
  | loaded (t : T) (files : UserFiles)
  /-- A generation has been published, or kept after a failure. -/
  | settled (t : T) (failure : Option ModelsError) (g : Generation)
  | finished (t : T)
  | answered (t : T) (g : Generation)

/-- Threads at work on one coordinator, with the log of what was observed. -/
structure Threads (T : Type) where
  service : Service
  phase : T → Phase
  log : List (Event T)

namespace Threads

variable {T : Type}

/-- Whether the models are ready and not stale. -/
def IsFresh (s : Service) : Prop :=
  s.coordinator.status = .ready ∧ s.coordinator.stale = false

instance (s : Service) : Decidable (IsFresh s) :=
  inferInstanceAs (Decidable (_ ∧ _))

theorem IsFresh.fresh?_eq {s : Service} (h : IsFresh s) :
  s.coordinator.fresh? = s.coordinator.current
  := if_pos h

theorem fresh?_eq_none {s : Service} (h : ¬ IsFresh s) :
  s.coordinator.fresh? = none
  := if_neg h

/-- The steps of a request by one thread, as far as the lock allows them. -/
inductive Move (t : T) : Phase → Service → Option (Event T) → Phase → Service → Prop
  | ask (s : Service) : Move t .idle s (some (.asked t)) .asked s
  | look (s : Service) : Move t .asked s none .looking s
  | see {s : Service} (h : IsFresh s) : Move t .looking s none .seen s
  | miss {s : Service} (h : ¬ IsFresh s) : Move t .looking s none .waiting s
  | take {s : Service} {g : Generation} (h : s.coordinator.current = some g) :
    Move t .seen s none (.answering g) s
  | lack {s : Service} (h : s.coordinator.current = none) : Move t .seen s none .waiting s
  | check (s : Service) : Move t .waiting s none .checking s
  | confirm {s : Service} (h : IsFresh s) : Move t .checking s none .confirmed s
  | refute {s : Service} (h : ¬ IsFresh s) : Move t .checking s none .upgrading s
  | retake {s : Service} {g : Generation} (h : s.coordinator.current = some g) :
    Move t .confirmed s none (.answering g) s
  | relack {s : Service} (h : s.coordinator.current = none) : Move t .confirmed s none .upgrading s
  | begin (s : Service) :
    Move t .upgrading s none .begun
      { s with coordinator := { s.coordinator with status := .building } }
  | clear (s : Service) :
    Move t .begun s (some (.cleared t)) .cleared
      { s with coordinator := { s.coordinator with stale := false } }
  | lock {s : Service} {tree : Tree} {u : Unit}
      (h : s.coordinator.cache.acquireLock s.tree s.lockHeld s.coordinator.options.lockTimeout =
        (tree, .ok u)) :
    Move t .cleared s none .locked { s with tree := tree }
  | failLock {s : Service} {tree : Tree} {e : ModelsError}
      (h : s.coordinator.cache.acquireLock s.tree s.lockHeld s.coordinator.options.lockTimeout =
        (tree, .error e)) :
    Move t .cleared s none (.made (.error e)) { s with tree := tree }
  | capture {s : Service} {snapshot : Snapshot}
      (h : Snapshot.build s.tree s.coordinator.store s.coordinator.policy = .ok snapshot) :
    Move t .locked s (some (.captured t snapshot)) (.captured snapshot) s
  | failCapture {s : Service} {e : SchemaError}
      (h : Snapshot.build s.tree s.coordinator.store s.coordinator.policy = .error e) :
    Move t .locked s none (.made (.error (.schema e))) s
  | load {s : Service} {snapshot : Snapshot} {files : UserFiles}
      (h : s.coordinator.cache.userFiles s.tree = .ok files) :
    Move t (.captured snapshot) s (some (.loaded t files))
      (.loaded ⟨snapshot, files, Fingerprint.compute files snapshot.types⟩) s
  | failLoad {s : Service} {snapshot : Snapshot} {e : ModelsError}
      (h : s.coordinator.cache.userFiles s.tree = .error e) :
    Move t (.captured snapshot) s none (.made (.error e)) s
  | make (s : Service) (capture : Service.Capture) :
    Move t (.loaded capture) s none (.made (s.generationOf capture).2) (s.generationOf capture).1
  | publish (s : Service) (g : Generation) :
    Move t (.made (.ok g)) s (some (.settled t none g)) (.settled g) (s.succeed g)
  | keep (s : Service) (e : ModelsError) :
    Move t (.made (.error e)) s (some (.settled t (some e) (s.fail e).2)) (.settled (s.fail e).2)
      (s.fail e).1
  | finish (s : Service) (g : Generation) :
    Move t (.settled g) s (some (.finished t)) (.answering g) s.endBuild
  | answer (s : Service) (g : Generation) :
    Move t (.answering g) s (some (.answered t g)) .idle s

variable [DecidableEq T]

/-- One step of the threads, or of what happens around them. -/
inductive Step : Threads T → Threads T → Prop
  /-- A thread goes on, if the others leave it the lock. -/
  | move {m : Threads T} (t : T) {event : Option (Event T)} {phase : Phase} {s : Service}
      (h : Move t (m.phase t) m.service event phase s)
      (hlock : ∀ u, u ≠ t → (m.phase u).hold.agrees phase.hold = true) :
    Step m ⟨s, Function.update m.phase t phase, m.log ++ event.toList⟩
  /-- A thread invalidates, whatever else it is doing. -/
  | invalidate (m : Threads T) (t : T) :
    Step m { m with service := m.service.invalidate, log := m.log ++ [.invalidated t] }
  /-- The schema or files are edited, the lock of the directory changes hands, or time goes on. -/
  | elsewhere (m : Threads T) (store : Store) (script : Script) (tree : Tree) (lockHeld : Bool)
      (now : String) :
    Step m { m with service :=
      ⟨{ m.service.coordinator with store, script }, tree, lockHeld, now⟩ }

/-- The states that are reached from threads which have asked for nothing yet. -/
inductive Reached : Threads T → Prop
  | start (store : Store) (policy : NamingPolicy) (options : CoordinatorOptions) (cache : Cache)
      (script : Script) (tree : Tree) (lockHeld : Bool) (now : String) :
    Reached ⟨⟨{ store, policy, options, cache, script }, tree, lockHeld, now⟩, fun _ => .idle, []⟩
  | step {m m' : Threads T} (h : Reached m) (hstep : Step m m') : Reached m'

/-! ### One thread alone -/

/-- One thread in a phase, and the others idle. -/
def lone (t : T) (phase : Phase) (s : Service) (log : List (Event T)) : Threads T :=
  ⟨s, Function.update (fun _ => .idle) t phase, log⟩

/-- What one thread does alone in any number of steps. -/
def Goes (t : T) (phase : Phase) (s : Service) (phase' : Phase) (s' : Service) : Prop :=
  ∀ log, ∃ news, Relation.ReflTransGen Step (lone t phase s log) (lone t phase' s' (log ++ news))

variable {t : T} {phase phase' phase'' : Phase} {s s' s'' : Service} {g : Generation}

theorem Goes.trans (h : Goes t phase s phase' s') (h' : Goes t phase' s' phase'' s'') :
  Goes t phase s phase'' s''
  := by
  intro log
  obtain ⟨news, hnews⟩ := h log
  obtain ⟨news', hnews'⟩ := h' (log ++ news)
  use news ++ news'
  rw [← List.append_assoc]
  apply hnews.trans hnews'

/-- No other thread keeps a lone one from going on. -/
theorem Move.step_lone {event : Option (Event T)} (h : Move t phase s event phase' s')
    (log : List (Event T)) :
  Step (lone t phase s log) (lone t phase' s' (log ++ event.toList))
  := by
  have hmove : Move t ((lone t phase s log).phase t) (lone t phase s log).service event phase' s' := by
    simpa [lone] using h
  have hstep := Step.move t hmove (by
    intro u hu
    simp [lone, hu, Phase.hold, Hold.agrees])
  simpa [lone, Function.update_idem] using hstep

theorem Move.goes {event : Option (Event T)} (h : Move t phase s event phase' s') :
  Goes t phase s phase' s'
  := by
  intro log
  use event.toList
  apply Relation.ReflTransGen.single
  apply h.step_lone

/-- A lone thread settles on what is built, published if that succeeds. -/
theorem goes_buildGeneration (t : T) (s : Service) :
  Goes t .cleared s (.settled s.buildGeneration.2) s.buildGeneration.1
  := by
  have hkeep : ∀ {s' e}, s.rebuild = (s', .error e) → Goes t .cleared s (.made (.error e)) s' →
      Goes t .cleared s (.settled s.buildGeneration.2) s.buildGeneration.1 := by
    intro s' e hrebuild h
    unfold Service.buildGeneration
    rw [hrebuild]
    apply h.trans (Move.keep s' e).goes
  have hpublish : ∀ {s' g}, s.rebuild = (s', .ok g) → Goes t .cleared s (.made (.ok g)) s' →
      Goes t .cleared s (.settled s.buildGeneration.2) s.buildGeneration.1 := by
    intro s' g hrebuild h
    unfold Service.buildGeneration
    rw [hrebuild]
    apply h.trans (Move.publish s' g).goes
  cases hlock : s.coordinator.cache.acquireLock s.tree s.lockHeld s.coordinator.options.lockTimeout with
  | mk tree result =>
    cases result with
    | error e =>
      apply hkeep _ (Move.failLock hlock).goes
      simp [Service.rebuild, hlock]
    | ok u =>
      have hlocked : Goes t .cleared s .locked { s with tree := tree } := (Move.lock hlock).goes
      cases hsnapshot : Snapshot.build tree s.coordinator.store s.coordinator.policy with
      | error e =>
        have hfailed := Move.failCapture (t := t) (s := { s with tree := tree }) hsnapshot
        apply hkeep _ (hlocked.trans hfailed.goes)
        simp [Service.rebuild, Service.capture, hlock, hsnapshot]
      | ok snapshot =>
        have hcaptured := hlocked.trans (Move.capture (t := t) (s := { s with tree := tree })
          hsnapshot).goes
        cases hfiles : s.coordinator.cache.userFiles tree with
        | error e =>
          have hfailed : Move t (.captured snapshot) { s with tree := tree } none (.made (.error e))
              { s with tree := tree } := .failLoad hfiles
          apply hkeep _ (hcaptured.trans hfailed.goes)
          simp [Service.rebuild, Service.capture, hlock, hsnapshot, hfiles]
        | ok files =>
          have hmade := (hcaptured.trans (Move.load hfiles).goes).trans (Move.make _ _).goes
          have hrebuild : s.rebuild = Service.generationOf { s with tree := tree }
              ⟨snapshot, files, Fingerprint.compute files snapshot.types⟩ := by
            simp [Service.rebuild, Service.capture, hlock, hsnapshot, hfiles]
          rw [← hrebuild] at hmade
          cases hresult : s.rebuild with
          | mk s' result =>
            rw [hresult] at hmade
            cases result with
            | error e => apply hkeep hresult hmade
            | ok g => apply hpublish hresult hmade

/-- A request without any other thread does what the coordinator does in one go. -/
theorem goes_ensureReady (t : T) (s : Service) :
  Goes t .asked s (.answering s.ensureReady.2) s.ensureReady.1
  := by
  have hlook : Goes t .asked s .looking s := (Move.look s).goes
  have hbuild : Goes t .asked s .upgrading s → s.coordinator.fresh? = none →
      Goes t .asked s (.answering s.ensureReady.2) s.ensureReady.1 := by
    intro h hfresh
    have hbegun := h.trans ((Move.begin s).goes.trans (Move.clear _).goes)
    have hsettled := hbegun.trans (goes_buildGeneration t s.beginBuild)
    unfold Service.ensureReady
    rw [hfresh]
    apply hsettled.trans (Move.finish _ _).goes
  by_cases hfresh : IsFresh s
  · cases hcurrent : s.coordinator.current with
    | some g =>
      unfold Service.ensureReady
      rw [hfresh.fresh?_eq, hcurrent]
      apply hlook.trans ((Move.see hfresh).goes.trans (Move.take hcurrent).goes)
    | none =>
      apply hbuild
      · apply (hlook.trans ((Move.see hfresh).goes.trans (Move.lack hcurrent).goes)).trans
        apply (Move.check s).goes.trans ((Move.confirm hfresh).goes.trans (Move.relack hcurrent).goes)
      · rw [hfresh.fresh?_eq, hcurrent]
  · apply hbuild
    · apply (hlook.trans (Move.miss hfresh).goes).trans
      apply (Move.check s).goes.trans (Move.refute hfresh).goes
    · apply fresh?_eq_none hfresh

end Threads

end LiveModels
