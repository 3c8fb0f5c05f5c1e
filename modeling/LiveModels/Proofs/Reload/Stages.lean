import LiveModels.Proofs.Log
import LiveModels.Proofs.Reload.Failure
import LiveModels.Proofs.Source.Bundle
import Mathlib.Logic.Relation

/-!
# Builds step by step

One coordinator builds again and again, while invalidations arrive and the schema, the files and the
lock of the models directory change at any time. A build is cut into steps at everything that it
reads or writes, and what is observed of it is written to a log.

A request that is not disturbed by others is made of such steps. The tools that a build calls may
fail at any time, which is more than their interruptions can do.
-/

namespace LiveModels

/-- Where the models of a generation come from. -/
inductive Origin
  /-- A stored module. -/
  | reused
  /-- A source that was compiled, whether emitted or stored. -/
  | compiled
  /-- Nowhere: the generation stands in for a first build that failed. -/
  | standIn
  deriving DecidableEq

/-- Where a build is. -/
inductive Stage
  | idle
  | begun
  /-- Has cleared the flag of staleness. -/
  | cleared
  /-- Has the lock of the models directory. -/
  | locked
  | viewed (snapshot : Snapshot)
  | captured (c : Service.Capture)
  /-- Has found the marker and the pointer, and is about to load the module. -/
  | pointed (c : Service.Capture) (bundle : Option String) (location : Path)
  | found (c : Service.Capture) (lookup : Lookup)
  /-- Takes no version any more up to the revision of a stored module. -/
  | skipped (c : Service.Capture) (module : Module) (source : String)
  | emitting (c : Service.Capture) (version : UInt64)
  | storing (c : Service.Capture) (version : UInt64) (j : Cache.Job) (steps : List Cache.Step)
  | committing (c : Service.Capture) (version : UInt64) (j : Cache.Job) (module : Module)
    (steps : List Cache.Step)
  | produced (c : Service.Capture) (origin : Origin) (p : Service.Product)
  | built (origin : Origin) (g : Generation)
  /-- A generation is in use. -/
  | published (g : Generation)
  /-- The noted error has been removed. -/
  | tidied (g : Generation)
  | failed (e : ModelsError)
  /-- The error of a build that failed has been noted. -/
  | noted (e : ModelsError)
  | standing (g : Generation)
  /-- A generation is in use, and all is done but to announce it. -/
  | announcing (g : Generation)
  | settled

/-- What is observed of builds and invalidations. -/
inductive Sight
  /-- An invalidation, which may find the models stale already, with what came of the out-of-date
  flag. -/
  | invalidated (wasStale : Bool) (written : Except ModelsError Unit)
  | cleared
  /-- The models directory has been looked for, and made if need be. -/
  | entered (made : Except FileFault Unit)
  /-- The schema and the files of users have been read. -/
  | read (c : Service.Capture)
  | reserved (version : UInt64)
  /-- A stored module is taken. -/
  | reused (module : Module)
  | compiled (module : Module)
  | published (origin : Origin) (g : Generation)
  /-- A build that has published a generation is through with the out-of-date flag. -/
  | succeeded (removed : Except ModelsError Unit)

/-- A coordinator with a build under way, and the log of what was observed. -/
structure Staged where
  service : Service
  stage : Stage
  log : List Sight

namespace Staged

/-- What comes of the out-of-date flag when the models are invalidated. -/
def flagging (s : Service) : Except ModelsError Unit :=
  let c := s.coordinator
  if c.stale = false ∧ c.options.flagOutOfDate = true then (c.cache.flagOutOfDate s.tree s.now).2
  else .ok ()

/-- What comes of the out-of-date flag when a generation is published. -/
def unflagging (s : Service) : Except ModelsError Unit :=
  if s.coordinator.stale = false then (s.coordinator.cache.clearOutOfDate s.tree).2 else .ok ()

/-- The generation that is made of a product. -/
def generation (c : Service.Capture) (p : Service.Product) (registry : Registry) (now : String) :
    Generation where
  version := p.version
  fingerprint := some c.fingerprint
  snapshot := some c.snapshot
  source := p.source
  module := some p.module
  registry := registry
  createdAt := now
  error := none

/-- The bundle of what is emitted for a capture. -/
def bundle (c : Service.Capture) (version : UInt64) : Bundle :=
  ⟨c.fingerprint, version, c.files, Emission.emit c.snapshot c.files⟩

/-- The bundle of what is emitted has a header with the version. -/
theorem header?_bundle {c : Service.Capture}
    (h : c.fingerprint = Fingerprint.compute c.files c.snapshot.types) (version : UInt64) :
  Bundle.header? (bundle c version).render = some ⟨c.fingerprint, version⟩
  := by
  apply Bundle.header?_render (b := bundle c version)
  · rw [bundle, h]
    apply Combiner.text_ne_empty
  · rw [bundle, h]
    apply Combiner.isLowerHex_of_mem_text

/-- The steps of a build up to its result. -/
inductive Work : Stage → Service → Option Sight → Stage → Service → Prop
  | view {s : Service} {snapshot : Snapshot}
      (h : Snapshot.build s.tree s.coordinator.store s.coordinator.policy = .ok snapshot) :
    Work .locked s none (.viewed snapshot) s
  | failView {s : Service} {e : SchemaError}
      (h : Snapshot.build s.tree s.coordinator.store s.coordinator.policy = .error e) :
    Work .locked s none (.failed (.schema e)) s
  | read {s : Service} {snapshot : Snapshot} {files : UserFiles}
      (h : s.coordinator.cache.userFiles s.tree = .ok files) :
    Work (.viewed snapshot) s
      (some (.read ⟨snapshot, files, Fingerprint.compute files snapshot.types⟩))
      (.captured ⟨snapshot, files, Fingerprint.compute files snapshot.types⟩) s
  | failRead {s : Service} {snapshot : Snapshot} {e : ModelsError}
      (h : s.coordinator.cache.userFiles s.tree = .error e) :
    Work (.viewed snapshot) s none (.failed e) s
  | lackMarker {s : Service} {c : Service.Capture}
      (h : s.coordinator.cache.isMarked s.tree c.fingerprint = false) :
    Work (.captured c) s none (.found c .miss) s
  | lackModule {s : Service} {c : Service.Capture}
      (hmarked : s.coordinator.cache.isMarked s.tree c.fingerprint = true)
      (h : s.coordinator.cache.modulePath? s.tree = none) :
    Work (.captured c) s none
      (.found c (Cache.choose none (s.coordinator.cache.bundleFor? s.tree c.fingerprint))) s
  | point {s : Service} {c : Service.Capture} {location : Path}
      (hmarked : s.coordinator.cache.isMarked s.tree c.fingerprint = true)
      (h : s.coordinator.cache.modulePath? s.tree = some location) :
    Work (.captured c) s none
      (.pointed c (s.coordinator.cache.bundleFor? s.tree c.fingerprint) location) s
  | load (s : Service) (c : Service.Capture) (bundle : Option String) (location : Path) :
    Work (.pointed c bundle location) s none
      (.found c (Cache.choose (Cache.moduleFor? s.tree c.fingerprint location) bundle)) s
  | failLoad (s : Service) (c : Service.Capture) (bundle : Option String) (location : Path) :
    Work (.pointed c bundle location) s none (.found c (Cache.choose none bundle)) s
  | skip (s : Service) (c : Service.Capture) (module : Module) (source : String) :
    Work (.found c (.module module source)) s (some (.reused module)) (.skipped c module source)
      { s with coordinator := s.coordinator.skipVersion module.revision }
  | reserveReuse (s : Service) (c : Service.Capture) (module : Module) (source : String) :
    Work (.skipped c module source) s (some (.reserved s.coordinator.nextVersion))
      (.produced c .reused ⟨module, source, s.coordinator.nextVersion⟩) s.reserveVersion.2
  | reserveSource {s : Service} {c : Service.Capture} {text : String} {j : Cache.Job}
      (h : Cache.Job.ofSource c.fingerprint (Bundle.restamp text s.coordinator.nextVersion) = .ok j) :
    Work (.found c (.source text)) s (some (.reserved s.coordinator.nextVersion))
      (.storing c s.coordinator.nextVersion j j.stage) s.reserveVersion.2
  | failSource {s : Service} {c : Service.Capture} {text : String} {e : ModelsError}
      (h : Cache.Job.ofSource c.fingerprint (Bundle.restamp text s.coordinator.nextVersion) =
        .error e) :
    Work (.found c (.source text)) s (some (.reserved s.coordinator.nextVersion)) (.failed e)
      s.reserveVersion.2
  | reserveEmission (s : Service) (c : Service.Capture) :
    Work (.found c .miss) s (some (.reserved s.coordinator.nextVersion))
      (.emitting c s.coordinator.nextVersion) s.reserveVersion.2
  | emit (s : Service) (c : Service.Capture) (version : UInt64) :
    Work (.emitting c version) s none
      (.storing c version (.ofBundle (bundle c version))
        (Cache.Job.ofBundle (bundle c version)).stage) s
  | failEmit (s : Service) (c : Service.Capture) (version : UInt64) (message : String) :
    Work (.emitting c version) s none (.failed (.emit message)) s
  | store {s : Service} {c : Service.Capture} {version : UInt64} {j : Cache.Job} {step : Cache.Step}
      {steps : List Cache.Step} {tree : Tree} {u : Unit}
      (h : step.run s.coordinator.cache s.tree = (tree, .ok u)) :
    Work (.storing c version j (step :: steps)) s none (.storing c version j steps)
      { s with tree := tree }
  | failStore {s : Service} {c : Service.Capture} {version : UInt64} {j : Cache.Job}
      {step : Cache.Step} {steps : List Cache.Step} {tree : Tree} {e : ModelsError}
      (h : step.run s.coordinator.cache s.tree = (tree, .error e)) :
    Work (.storing c version j (step :: steps)) s none (.failed e) { s with tree := tree }
  | compile {s : Service} {c : Service.Capture} {version : UInt64} {j : Cache.Job} {tree : Tree}
      {module : Module}
      (h : Manifest.compile s.tree s.coordinator.options.moduleName j.source
        (s.coordinator.cache.output j) = (tree, .ok module)) :
    Work (.storing c version j []) s (some (.compiled module))
      (.committing c version j module j.commit) { s with tree := tree }
  | reject {s : Service} {c : Service.Capture} {version : UInt64} {j : Cache.Job} {tree : Tree}
      {e : CompileError}
      (h : Manifest.compile s.tree s.coordinator.options.moduleName j.source
        (s.coordinator.cache.output j) = (tree, .error e)) :
    Work (.storing c version j []) s none (.failed (.compile e)) { s with tree := tree }
  | failCompile (s : Service) (c : Service.Capture) (version : UInt64) (j : Cache.Job)
      (message : String) :
    Work (.storing c version j []) s none
      (.failed (.compile ⟨s.coordinator.options.moduleName, message⟩)) s
  | commit {s : Service} {c : Service.Capture} {version : UInt64} {j : Cache.Job} {module : Module}
      {step : Cache.Step} {steps : List Cache.Step} {tree : Tree} {u : Unit}
      (h : step.run s.coordinator.cache s.tree = (tree, .ok u)) :
    Work (.committing c version j module (step :: steps)) s none
      (.committing c version j module steps) { s with tree := tree }
  | failCommit {s : Service} {c : Service.Capture} {version : UInt64} {j : Cache.Job}
      {module : Module} {step : Cache.Step} {steps : List Cache.Step} {tree : Tree} {e : ModelsError}
      (h : step.run s.coordinator.cache s.tree = (tree, .error e)) :
    Work (.committing c version j module (step :: steps)) s none (.failed e) { s with tree := tree }
  /-- The other modules are removed in any order, as a directory may be listed in any. -/
  | prune {s : Service} {c : Service.Capture} {version : UInt64} {j : Cache.Job} {module : Module}
      {names : List String} (horder :
        names.Perm (s.coordinator.cache.outdated s.tree (s.coordinator.cache.output j))) :
    Work (.committing c version j module []) s none
      (.produced c .compiled ⟨module, j.source, version⟩)
      { s with tree := names.foldl s.coordinator.cache.pruneEntry s.tree }
  | register {s : Service} {c : Service.Capture} {origin : Origin} {p : Service.Product}
      {registry : Registry} (h : Registry.build p.module = .ok registry) :
    Work (.produced c origin p) s none (.built origin (generation c p registry s.now)) s
  | misshape {s : Service} {c : Service.Capture} {origin : Origin} {p : Service.Product}
      {e : ShapeError} (h : Registry.build p.module = .error e) :
    Work (.produced c origin p) s none (.failed (.shape e)) s

/-- The steps of a build. -/
inductive Move : Stage → Service → Option Sight → Stage → Service → Prop
  | begin (s : Service) :
    Move .idle s none .begun { s with coordinator := { s.coordinator with status := .building } }
  | clear (s : Service) :
    Move .begun s (some .cleared) .cleared
      { s with coordinator := { s.coordinator with stale := false } }
  | lock {s : Service} {tree : Tree} {u : Unit}
      (h : s.coordinator.cache.acquireLock s.tree s.lockHeld s.coordinator.options.lockTimeout =
        (tree, .ok u)) :
    Move .cleared s (some (.entered (s.tree.makeDirectories s.coordinator.cache.directory).2)) .locked
      { s with tree := tree }
  | failLock {s : Service} {tree : Tree} {e : ModelsError}
      (h : s.coordinator.cache.acquireLock s.tree s.lockHeld s.coordinator.options.lockTimeout =
        (tree, .error e)) :
    Move .cleared s (some (.entered (s.tree.makeDirectories s.coordinator.cache.directory).2))
      (.failed e) { s with tree := tree }
  | work {stage stage' : Stage} {s s' : Service} {sight : Option Sight}
      (h : Work stage s sight stage' s') : Move stage s sight stage' s'
  /-- Calls of tools are counted, and what their interruptions find is noted. -/
  | call (stage : Stage) (s : Service) (journal : List (Tool × Response)) (compiles loads : Nat) :
    Move stage s none stage { s with coordinator := { s.coordinator with journal, compiles, loads } }
  | publish (s : Service) (origin : Origin) (g : Generation) :
    Move (.built origin g) s (some (.published origin g)) (.published g)
      { s with coordinator := { s.coordinator with current := some g } }
  | tidy (s : Service) (g : Generation) : Move (.published g) s none (.tidied g) s.clearError
  | unflag (s : Service) (g : Generation) :
    Move (.tidied g) s (some (.succeeded (unflagging s))) (.announcing g) s.clearOutOfDate
  | note (s : Service) (e : ModelsError) :
    Move (.failed e) s none (.noted e) (s.recordError e)
  | keep {s : Service} {g : Generation} (h : s.coordinator.current = some g) (e : ModelsError) :
    Move (.noted e) s none .settled s
  | degrade {s : Service} (h : s.coordinator.current = none) (e : ModelsError) :
    Move (.noted e) s (some (.reserved s.coordinator.nextVersion))
      (.standing (Generation.degraded s.coordinator.nextVersion s.now e.message))
      s.reserveVersion.2
  | standIn (s : Service) (g : Generation) :
    Move (.standing g) s (some (.published .standIn g)) (.announcing g)
      { s with coordinator := { s.coordinator with current := some g } }
  | announce (s : Service) (g : Generation) :
    Move (.announcing g) s none .settled { s with
      coordinator := { s.coordinator with announced := s.coordinator.announced ++ [g.version] } }
  | finish (s : Service) : Move .settled s none .idle s.endBuild

/-- One step of a build, or of what happens around it; `others` tells what others may do to the files
around the models directory. -/
inductive Step (others : Cache → Tree → Tree → Prop) : Staged → Staged → Prop
  | move {m : Staged} {sight : Option Sight} {stage : Stage} {s : Service}
      (h : Move m.stage m.service sight stage s) :
    Step others m ⟨s, stage, m.log ++ sight.toList⟩
  | invalidate (m : Staged) :
    Step others m { m with
      service := m.service.invalidate
      log := m.log ++ [.invalidated m.service.coordinator.stale (flagging m.service)] }
  /-- The schema or files are edited, the lock of the directory changes hands, or time goes on. -/
  | elsewhere (m : Staged) (store : Store) (script : Script) {tree : Tree} (lockHeld : Bool)
      (now : String) (h : others m.service.coordinator.cache m.service.tree tree) :
    Step others m { m with service :=
      ⟨{ m.service.coordinator with store, script }, tree, lockHeld, now⟩ }

/-- Whether the coordinator of a service is a new one. -/
def IsNew (s : Service) : Prop :=
  ∃ store policy options cache script, s.coordinator = { store, policy, options, cache, script }

/-- The states that are reached from a service whose coordinator is new. -/
inductive Reached (others : Cache → Tree → Tree → Prop) (s : Service) : Staged → Prop
  | start (h : IsNew s) : Reached others s ⟨s, .idle, []⟩
  | step {m m' : Staged} (h : Reached others s m) (hstep : Step others m m') : Reached others s m'

/-! ### Logs -/

section Logs

variable {l : List Sight} {i : Nat} {e e' : Sight}

/-- Whether something was observed at a position of a log. -/
def At (l : List Sight) (i : Nat) (e : Sight) : Prop :=
  l[i]? = some e

theorem At.lt (h : At l i e) :
  i < l.length
  := (List.getElem?_eq_some_iff.mp h).1

theorem at_append_iff :
  At (l ++ [e']) i e ↔ At l i e ∨ i = l.length ∧ e' = e
  := by
  rw [← Option.some_inj (a := e')]
  apply Log.getElem?_append_eq_some_iff (o := some e')

theorem At.append (h : At l i e) (e' : Sight) :
  At (l ++ [e']) i e
  := at_append_iff.mpr (.inl h)

theorem at_length (l : List Sight) (e : Sight) :
  At (l ++ [e]) l.length e
  := at_append_iff.mpr (.inr ⟨rfl, rfl⟩)

/-- What was observed before something else was. -/
theorem At.of_append (h : At (l ++ [e']) i e) (hne : e' ≠ e) :
  At l i e
  := (at_append_iff.mp h).resolve_right fun hnew => hne hnew.2

/-- What was observed at a position that the log had already. -/
theorem At.of_lt_length (h : At (l ++ [e']) i e) (hi : i < l.length) :
  At l i e
  := (at_append_iff.mp h).resolve_right fun hnew => Nat.ne_of_lt hi hnew.1

/-- What was observed is not forgotten. -/
theorem Step.mem_log {r : Cache → Tree → Tree → Prop} {m m' : Staged} (h : Step r m m')
    (he : e ∈ m.log) :
  e ∈ m'.log
  := by
  cases h with
  | move => apply List.mem_append_left _ he
  | invalidate => apply List.mem_append_left _ he
  | elsewhere => apply he

end Logs

/-! ### Requests -/

variable {r : Cache → Tree → Tree → Prop}

/-- What is done in any number of steps from one stage to another. -/
def Goes (r : Cache → Tree → Tree → Prop) (stage : Stage) (s : Service) (stage' : Stage)
    (s' : Service) : Prop :=
  ∀ log, ∃ news, Relation.ReflTransGen (Step r) ⟨s, stage, log⟩ ⟨s', stage', log ++ news⟩

variable {stage stage' stage'' : Stage} {s s' s'' : Service} {j : Cache.Job} {c : Service.Capture}
  {v : UInt64}

theorem Goes.refl (stage : Stage) (s : Service) :
  Goes r stage s stage s
  := by
  intro log
  use []
  rw [List.append_nil]

theorem Goes.trans (h : Goes r stage s stage' s') (h' : Goes r stage' s' stage'' s'') :
  Goes r stage s stage'' s''
  := by
  intro log
  obtain ⟨news, hnews⟩ := h log
  obtain ⟨news', hnews'⟩ := h' (log ++ news)
  use news ++ news'
  rw [← List.append_assoc]
  apply hnews.trans hnews'

theorem Move.goes {sight : Option Sight} (h : Move stage s sight stage' s') :
  Goes r stage s stage' s'
  := by
  intro log
  use sight.toList
  apply Relation.ReflTransGen.single
  apply Step.move h

theorem Work.goes {sight : Option Sight} (h : Work stage s sight stage' s') :
  Goes r stage s stage' s'
  := (Move.work h).goes

theorem goes_invalidate (stage : Stage) (s : Service) :
  Goes r stage s stage s.invalidate
  := by
  intro log
  use [.invalidated s.coordinator.stale (flagging s)]
  apply Relation.ReflTransGen.single
  apply Step.invalidate ⟨s, stage, log⟩

theorem goes_note (stage : Stage) (s : Service) (tool : Tool) (response : Response) :
  Goes r stage s stage (s.note tool response)
  := (Move.call stage s (s.coordinator.journal ++ [(tool, response)]) s.coordinator.compiles
    s.coordinator.loads).goes

/-- The interruptions of a tool are invalidations, or only noted. -/
theorem goes_interrupt (stage : Stage) (tool : Tool) (events : List Interruption) (s : Service) :
  Goes r stage s stage (Service.interrupt tool events s).1
  := by
  induction events generalizing s with
  | nil => apply Goes.refl
  | cons event rest ih =>
    cases event with
    | invalidate =>
      apply (goes_invalidate stage s).trans
      apply (goes_note stage s.invalidate tool .invalidated).trans (ih _)
    | status => apply (goes_note stage s tool _).trans (ih _)
    | current => apply (goes_note stage s tool _).trans (ih _)
    | fail message => apply Goes.refl

theorem goes_call (stage : Stage) (tool : Tool) (s : Service) :
  Goes r stage s stage (s.call tool).1
  := by
  cases tool with
  | emit => apply goes_interrupt
  | compile =>
    apply (Move.call stage s s.coordinator.journal (s.coordinator.compiles + 1)
      s.coordinator.loads).goes.trans
    apply goes_interrupt
  | load =>
    apply (Move.call stage s s.coordinator.journal s.coordinator.compiles
      (s.coordinator.loads + 1)).goes.trans
    apply goes_interrupt

theorem goes_lookUp (c : Service.Capture) (s : Service) :
  Goes r (.captured c) s (.found c (s.lookUp c.fingerprint).2) (s.lookUp c.fingerprint).1
  := by
  simp only [Service.lookUp]
  split
  case isFalse hmarked =>
    apply (Work.lackMarker (Bool.eq_false_iff.mpr hmarked)).goes
  case isTrue hmarked =>
    split
    case h_1 hnone =>
      apply (Work.lackModule hmarked hnone).goes
    case h_2 location hlocation =>
      have hcall := goes_call (r := r) (.pointed c
        (s.coordinator.cache.bundleFor? s.tree c.fingerprint) location) .load s
      have hpointed := (Work.point hmarked hlocation).goes.trans hcall
      split
      case h_1 s₁ message hs₁ =>
        rw [hs₁] at hpointed
        apply hpointed.trans (Work.failLoad _ _ _ _).goes
      case h_2 s₁ hs₁ =>
        rw [hs₁] at hpointed
        apply hpointed.trans (Work.load _ _ _ _).goes

/-- Where a build gets that has made the steps of storing, or has failed in one. -/
def stored (p : List Cache.Step → Stage) : Except ModelsError Unit → Stage
  | .ok _ => p []
  | .error e => .failed e

/-- Steps of storing are made up to the first that fails. -/
theorem goes_runSteps {p : List Cache.Step → Stage}
    (hstep : ∀ {s : Service} {step : Cache.Step} {rest : List Cache.Step} {tree : Tree} {u : Unit},
      step.run s.coordinator.cache s.tree = (tree, .ok u) →
      Work (p (step :: rest)) s none (p rest) { s with tree := tree })
    (hfail : ∀ {s : Service} {step : Cache.Step} {rest : List Cache.Step} {tree : Tree}
      {e : ModelsError}, step.run s.coordinator.cache s.tree = (tree, .error e) →
      Work (p (step :: rest)) s none (.failed e) { s with tree := tree })
    (steps : List Cache.Step) (s : Service) :
  Goes r (p steps) s (stored p (s.coordinator.cache.runSteps steps s.tree).2)
    { s with tree := (s.coordinator.cache.runSteps steps s.tree).1 }
  := by
  induction steps generalizing s with
  | nil => apply Goes.refl
  | cons step rest ih =>
    rw [Cache.runSteps]
    split
    case h_1 tree u hrun => apply (hstep hrun).goes.trans (ih { s with tree := tree })
    case h_2 tree e hrun => apply (hfail hrun).goes

/-- Where a build gets with what it has produced, or failed to produce. -/
def outcome (c : Service.Capture) (origin : Origin) : Except ModelsError Service.Product → Stage
  | .ok p => .produced c origin p
  | .error e => .failed e

theorem goes_complete (s : Service) {tree : Tree} {result : Except ModelsError Module}
    (h : s.coordinator.cache.complete s.tree j s.coordinator.options.moduleName = (tree, result)) :
  Goes r (.storing c v j []) s
    (outcome c .compiled (result.map fun module => ⟨module, j.source, v⟩))
    { s with tree := tree }
  := by
  unfold Cache.complete at h
  split at h
  case h_1 tree' e hcompile =>
    obtain ⟨rfl, rfl⟩ := Prod.mk.inj h
    apply (Work.reject hcompile).goes
  case h_2 tree' module hcompile =>
    have hcompiled : Goes r (.storing c v j []) s
        (.committing c v j module j.commit) { s with tree := tree' } :=
      (Work.compile hcompile).goes
    have hcommit := hcompiled.trans (goes_runSteps (p := .committing c v j module)
      Work.commit Work.failCommit j.commit { s with tree := tree' })
    split at h
    case h_1 tree'' e hsteps =>
      obtain ⟨rfl, rfl⟩ := Prod.mk.inj h
      simp only [hsteps] at hcommit
      apply hcommit
    case h_2 tree'' u hsteps =>
      obtain ⟨rfl, rfl⟩ := Prod.mk.inj h
      simp only [hsteps] at hcommit
      rw [Cache.prune_eq]
      apply hcommit.trans (Work.prune (.refl _)).goes

theorem goes_runJob (s : Service) :
  Goes r (.storing c v j j.stage) s
    (outcome c .compiled ((s.runJob j).2.map fun module => ⟨module, j.source, v⟩))
    (s.runJob j).1
  := by
  have hstaged := goes_runSteps (r := r) (p := .storing c v j)
    Work.store Work.failStore j.stage s
  unfold Service.runJob Cache.stage
  simp only
  split
  case h_1 tree e htree =>
    simp only [htree] at hstaged
    apply hstaged
  case h_2 tree u htree =>
    simp only [htree] at hstaged
    have hcall := goes_call (r := r) (.storing c v j []) .compile
      { s with tree := tree }
    have hbuilds := Service.builds_call .compile { s with tree := tree }
    have hoptions : (Service.call .compile { s with tree := tree }).1.coordinator.options =
        s.coordinator.options := by
      have hapart := hbuilds.apart
      apply congrArg Coordinator.options hapart
    split
    case h_1 s₁ message hs₁ =>
      rw [hs₁] at hcall hoptions
      have hfail := (Work.failCompile s₁ c v j message).goes (r := r)
      rw [hoptions] at hfail
      apply (hstaged.trans hcall).trans hfail
    case h_2 s₁ hs₁ =>
      rw [hs₁] at hcall hoptions hbuilds
      have hcomplete := goes_complete (r := r) (c := c) (v := v) (j := j) s₁ rfl
      rw [hoptions, hbuilds.cache] at hcomplete
      apply (hstaged.trans hcall).trans hcomplete

theorem goes_reuseSource (text : String) (s : Service) :
  Goes r (.found c (.source text)) s
    (outcome c .compiled (s.reuseSource c.fingerprint text).2)
    (s.reuseSource c.fingerprint text).1
  := by
  have hversion : s.reserveVersion.1 = s.coordinator.nextVersion := rfl
  simp only [Service.reuseSource, hversion]
  split
  case h_1 e he => apply (Work.failSource he).goes
  case h_2 j hj =>
    have hsource : j.source = Bundle.restamp text s.coordinator.nextVersion := by
      unfold Cache.Job.ofSource at hj
      split at hj
      · cases hj
        rfl
      · cases hj
    have hjob := goes_runJob (r := r) (c := c) (v := s.coordinator.nextVersion)
      (j := j) s.reserveVersion.2
    rw [hsource] at hjob
    apply (Work.reserveSource hj).goes.trans hjob

theorem goes_emitAndCompile (c : Service.Capture) (s : Service) :
  Goes r (.found c .miss) s
    (outcome c .compiled (s.emitAndCompile c.snapshot c.files c.fingerprint).2)
    (s.emitAndCompile c.snapshot c.files c.fingerprint).1
  := by
  have hreserved := (Work.reserveEmission s c).goes.trans (goes_call (r := r)
    (.emitting c s.coordinator.nextVersion) .emit s.reserveVersion.2)
  have hversion : s.reserveVersion.1 = s.coordinator.nextVersion := rfl
  simp only [Service.emitAndCompile, hversion]
  split
  case h_1 s₁ message hs₁ =>
    rw [hs₁] at hreserved
    apply hreserved.trans (Work.failEmit _ _ _ _).goes
  case h_2 s₁ hs₁ =>
    rw [hs₁] at hreserved
    apply (hreserved.trans (Work.emit _ _ _).goes).trans
    apply goes_runJob

theorem goes_produce (c : Service.Capture) (s : Service) :
  ∃ origin, Goes r (.captured c) s
    (outcome c origin (s.produce c.snapshot c.files c.fingerprint).2)
    (s.produce c.snapshot c.files c.fingerprint).1
  := by
  have hlookUp := goes_lookUp (r := r) c s
  unfold Service.produce
  split
  case h_1 s₁ module source hs₁ =>
    rw [hs₁] at hlookUp
    use .reused
    apply hlookUp.trans
    apply (Work.skip s₁ c module source).goes.trans (Work.reserveReuse _ c module source).goes
  case h_2 s₁ text hs₁ =>
    rw [hs₁] at hlookUp
    use .compiled
    apply hlookUp.trans (goes_reuseSource text s₁)
  case h_3 s₁ hs₁ =>
    rw [hs₁] at hlookUp
    use .compiled
    apply hlookUp.trans (goes_emitAndCompile c s₁)

/-- Where a build gets with its result. -/
def ended (origin : Origin) : Except ModelsError Generation → Stage
  | .ok g => .built origin g
  | .error e => .failed e

theorem goes_generationOf (c : Service.Capture) (s : Service) :
  ∃ origin, Goes r (.captured c) s (ended origin (s.generationOf c).2) (s.generationOf c).1
  := by
  obtain ⟨origin, hproduce⟩ := goes_produce (r := r) c s
  use origin
  unfold Service.generationOf
  split
  case h_1 s₁ e hs₁ =>
    rw [hs₁] at hproduce
    apply hproduce
  case h_2 s₁ p hs₁ =>
    rw [hs₁] at hproduce
    split
    case h_1 e he => apply hproduce.trans (Work.misshape he).goes
    case h_2 registry hregistry => apply hproduce.trans (Work.register hregistry).goes

theorem goes_rebuild (s : Service) :
  ∃ origin, Goes r .cleared s (ended origin s.rebuild.2) s.rebuild.1
  := by
  simp only [Service.rebuild]
  split
  case h_1 tree e htree =>
    use .standIn
    apply (Move.failLock htree).goes
  case h_2 tree u htree =>
    have hlock := (Move.lock htree).goes (r := r)
    cases hview : Snapshot.build tree s.coordinator.store s.coordinator.policy with
    | error e =>
      have hcapture : ({ s with tree := tree } : Service).capture = .error (.schema e) := by
        simp only [Service.capture, hview]
      rw [hcapture]
      use .standIn
      apply hlock.trans (Work.failView (s := { s with tree := tree }) hview).goes
    | ok snapshot =>
      have hviewed := hlock.trans (Work.view (s := { s with tree := tree }) hview).goes
      cases hread : s.coordinator.cache.userFiles tree with
      | error e =>
        have hcapture : ({ s with tree := tree } : Service).capture = .error e := by
          simp only [Service.capture, hview, hread]
        rw [hcapture]
        use .standIn
        apply hviewed.trans (Work.failRead (s := { s with tree := tree }) hread).goes
      | ok files =>
        have hcapture : ({ s with tree := tree } : Service).capture =
            .ok ⟨snapshot, files, Fingerprint.compute files snapshot.types⟩ := by
          simp only [Service.capture, hview, hread]
        rw [hcapture]
        obtain ⟨origin, hgeneration⟩ := goes_generationOf (r := r)
          ⟨snapshot, files, Fingerprint.compute files snapshot.types⟩ { s with tree := tree }
        use origin
        apply (hviewed.trans (Work.read (s := { s with tree := tree }) hread).goes).trans hgeneration

/-- A request that builds is made of steps. -/
theorem goes_ensureReady (h : s.coordinator.fresh? = none) :
  Goes r .idle s .idle s.ensureReady.1
  := by
  have hbegun : Goes r .idle s .cleared s.beginBuild :=
    (Move.begin s).goes.trans (Move.clear _).goes
  obtain ⟨origin, hrebuild⟩ := goes_rebuild (r := r) s.beginBuild
  have hended := hbegun.trans hrebuild
  cases hbuild : s.beginBuild.rebuild with
  | mk s₁ result =>
    rw [hbuild] at hended
    cases result with
    | ok g =>
      have hpublished := hended.trans (Move.publish s₁ origin g).goes
      have hunflagged := (hpublished.trans (Move.tidy _ g).goes).trans (Move.unflag _ g).goes
      have hfinished := (hunflagged.trans (Move.announce _ g).goes).trans (Move.finish _).goes
      rw [Service.ensureReady_of_ok h hbuild]
      apply hfinished
    | error e =>
      rw [Service.ensureReady_of_error h hbuild]
      apply hended.trans
      apply (Move.note s₁ e).goes.trans
      cases hcurrent : s₁.coordinator.current with
      | some g =>
        have hnoted : (s₁.recordError e).coordinator.current = some g := hcurrent
        rw [Service.fail_of_some hcurrent]
        apply (Move.keep hnoted e).goes.trans (Move.finish _).goes
      | none =>
        have hnoted : (s₁.recordError e).coordinator.current = none := hcurrent
        rw [Service.fail_of_none hcurrent]
        apply (Move.degrade hnoted e).goes.trans
        apply (Move.standIn _ _).goes.trans
        apply (Move.announce _ _).goes.trans (Move.finish _).goes

theorem Reached.trans {m m' : Staged} (h : Reached r s m)
    (hsteps : Relation.ReflTransGen (Step r) m m') :
  Reached r s m'
  := by
  induction hsteps with
  | refl => apply h
  | tail _ hstep ih => apply ih.step hstep

/-- Whatever a request does, it does in steps. -/
theorem Reached.ensureReady {l : List Sight} {s₀ : Service} (h : Reached r s₀ ⟨s, .idle, l⟩) :
  ∃ news, Reached r s₀ ⟨s.ensureReady.1, .idle, l ++ news⟩
  := by
  cases hfresh : s.coordinator.fresh? with
  | some g =>
    have hsame : s.ensureReady = (s, g) := by
      unfold Service.ensureReady
      rw [hfresh]
    use []
    rw [hsame, List.append_nil]
    apply h
  | none =>
    obtain ⟨news, hnews⟩ := goes_ensureReady hfresh l
    use news
    apply h.trans hnews

theorem Reached.move {sight : Option Sight} {l : List Sight} {s₀ : Service}
    (h : Reached r s₀ ⟨s, stage, l⟩) (hmove : Move stage s sight stage' s') :
  Reached r s₀ ⟨s', stage', l ++ sight.toList⟩
  := h.step (.move hmove)

theorem Reached.work {sight : Option Sight} {l : List Sight} {s₀ : Service}
    (h : Reached r s₀ ⟨s, stage, l⟩) (hwork : Work stage s sight stage' s') :
  Reached r s₀ ⟨s', stage', l ++ sight.toList⟩
  := h.move (.work hwork)

/-! ### Requests that reuse a module -/

section

variable {s₀ : Service} {l : List Sight}

/-- A request reads the schema and the files of users once it has the lock. -/
theorem Reached.capture {made : Except FileFault Unit} {tree : Tree} {snapshot : Snapshot}
    {files : UserFiles} (h : Reached r s₀ ⟨s, .idle, l⟩)
    (hmade : (s.tree.makeDirectories s.coordinator.cache.directory).2 = made)
    (hlock : s.coordinator.cache.acquireLock s.tree s.lockHeld s.coordinator.options.lockTimeout =
      (tree, .ok ()))
    (hview : Snapshot.build tree s.coordinator.store s.coordinator.policy = .ok snapshot)
    (hfiles : s.coordinator.cache.userFiles tree = .ok files)
    (hc : c = ⟨snapshot, files, Fingerprint.compute files snapshot.types⟩) :
  Reached r s₀ ⟨{ s.beginBuild with tree := tree }, .captured c,
    l ++ [.cleared, .entered made, .read c]⟩
  := by
  have hcleared : Reached r s₀ ⟨s.beginBuild, .cleared, l ++ [] ++ [.cleared]⟩ :=
    (h.move (.begin s)).move (.clear _)
  have hlocked := hcleared.move (.lock (s := s.beginBuild) hlock)
  have hviewed := hlocked.work (.view (s := { s.beginBuild with tree := tree }) hview)
  have hread := hviewed.work (.read (s := { s.beginBuild with tree := tree }) hfiles)
  have hsame : (s.beginBuild.tree.makeDirectories s.beginBuild.coordinator.cache.directory).2 = made :=
    hmade
  rw [hsame, ← hc] at hread
  simp only [Option.toList, List.append_assoc, List.append_nil] at hread
  exact hread

/-- A build that finds a module takes a version above its revision for a generation with it. -/
theorem Reached.reuse {location : Path} {m : Module} {registry : Registry} {bundle : Option String}
    (h : Reached r s₀ ⟨s, .captured c, l⟩)
    (hmarked : s.coordinator.cache.isMarked s.tree c.fingerprint = true)
    (hpath : s.coordinator.cache.modulePath? s.tree = some location)
    (hbundle : s.coordinator.cache.bundleFor? s.tree c.fingerprint = bundle)
    (hmodule : Cache.moduleFor? s.tree c.fingerprint location = some m)
    (hregistry : Registry.build m = .ok registry)
    (hv : (s.coordinator.skipVersion m.revision).nextVersion = v) :
  Reached r s₀ ⟨(s.reuseModule m (bundle.getD "")).1,
    .built .reused (generation c ⟨m, bundle.getD "", v⟩ registry s.now),
    l ++ [.reused m, .reserved v]⟩
  := by
  have hloaded := (h.work (.point hmarked hpath)).work (.load _ _ _ _)
  rw [hmodule] at hloaded
  have hproduced := (hloaded.work (.skip _ _ m _)).work (.reserveReuse _ _ _ _)
  have hbuilt := hproduced.work (.register hregistry)
  have hsame : ({ s with coordinator := s.coordinator.skipVersion m.revision } :
      Service).coordinator.nextVersion = v := hv
  rw [hsame, hbundle] at hbuilt
  simp only [Option.toList, List.append_assoc, List.append_nil] at hbuilt
  exact hbuilt

/-- A build that has made a generation publishes it. -/
theorem Reached.succeed {origin : Origin} {g : Generation} {removed : Except ModelsError Unit}
    (h : Reached r s₀ ⟨s, .built origin g, l⟩)
    (hremoved : unflagging (Service.clearError
      { s with coordinator := { s.coordinator with current := some g } }) = removed) :
  Reached r s₀ ⟨(s.succeed g).endBuild, .idle, l ++ [.published origin g, .succeeded removed]⟩
  := by
  have htidied := (h.move (.publish s origin g)).move (.tidy _ g)
  have hunflagged := htidied.move (.unflag _ g)
  rw [hremoved] at hunflagged
  have hfinished := (hunflagged.move (.announce _ g)).move (.finish _)
  simp only [Option.toList, List.append_assoc, List.append_nil] at hfinished
  exact hfinished

end

/-! ### A stored module -/

/-- The manifest of a module without models. -/
def shelf : Manifest :=
  ⟨"Generated.Models", "00001505", 6, []⟩

/-- A new service on a models directory that holds a module without models. -/
def shelved : Service where
  coordinator := { store := .memory {}, policy := .pascalAlias, options := {}, cache := ⟨⟨"models"⟩⟩ }
  tree := ⟨[
    (["models"], .directory),
    (["models", "models.hash"], .file (.text shelf.fingerprint)),
    (["models", "all.module.path"], .file (.text "old.module")),
    (["models", "old.module"], .file (.text shelf.print))]⟩
  lockHeld := false
  now := "noon"

/-- The service with the lock of the models directory, in its first build. -/
def shelvedEntered : Service :=
  { shelved.beginBuild with
    tree := (shelved.coordinator.cache.acquireLock shelved.tree false
      shelved.coordinator.options.lockTimeout).1 }

/-- What the first build captures: there are no types, and no files of users. -/
def shelvedCapture : Service.Capture :=
  ⟨⟨[]⟩, [], Fingerprint.compute [] []⟩

/-- The stored module. -/
def shelvedModule : Module :=
  shelf.toModule ⟨"models/old.module"⟩

/-- The generation that is made of the stored module. -/
def shelvedGeneration : Generation :=
  generation shelvedCapture ⟨shelvedModule, "", 7⟩ .empty "noon"

/-- The service that has published the stored module, before it looks at the out-of-date flag. -/
def shelvedTidied : Service :=
  Service.clearError { shelvedEntered with
    coordinator := { shelvedEntered.coordinator with
      nextVersion := 8, current := some shelvedGeneration } }

/-- The service after its first build. -/
def shelvedSettled : Service :=
  Service.endBuild { shelvedTidied.clearOutOfDate with
    coordinator := { shelvedTidied.clearOutOfDate.coordinator with
      announced := shelvedTidied.clearOutOfDate.coordinator.announced ++ [7] } }

/-- What is observed of the first build. -/
def shelvedLog : List Sight :=
  [.cleared, .entered (.ok ()), .read shelvedCapture, .reused shelvedModule, .reserved 7,
    .published .reused shelvedGeneration, .succeeded (.ok ())]

/-- Without types the snapshot is empty. -/
theorem build_memory_nil (tree : Tree) :
  Snapshot.build tree (.memory {}) .pascalAlias = .ok ⟨[]⟩
  := by
  simp [Snapshot.build, Store.buildView, Store.capture, Snapshot.ofView, Snapshot.entries,
    Snapshot.entriesOf, ItemKind.stored, Document.view, Document.records, Snapshot.aliasCollisions,
    Snapshot.bindingCollisions, Snapshot.shared, sortedTexts, Snapshot.mixinIds, Snapshot.markMixins]

theorem userFiles_shelvedEntered :
  shelvedEntered.coordinator.cache.userFiles shelvedEntered.tree = .ok []
  := by
  have hleads : shelvedEntered.tree.Leads ⟨"models"⟩ ["models"] := by
    constructor
    · decide +kernel
    · decide +kernel
  apply Cache.userFiles_eq hleads (by decide) (by decide)
  decide +kernel

/-- The module is found in what the service sees of the directory. -/
theorem moduleFor?_shelved {tree : Tree}
    (hread : tree.readText ⟨"models/old.module"⟩ = .ok shelf.print) :
  Cache.moduleFor? tree shelvedCapture.fingerprint ⟨"models/old.module"⟩ = some shelvedModule
  := by
  have hfingerprint : shelvedCapture.fingerprint = shelf.fingerprint := by
    decide +kernel
  rw [hfingerprint]
  exact Cache.moduleFor?_eq_of_parse hread (Manifest.parse_print shelf)

/-- The stored module is published in the first build. -/
theorem reached_shelvedSettled :
  Reached r shelved ⟨shelvedSettled, .idle, shelvedLog⟩
  := by
  have hstart : Reached r shelved ⟨shelved, .idle, []⟩ := .start ⟨_, _, _, _, _, rfl⟩
  have hlock : shelved.coordinator.cache.acquireLock shelved.tree shelved.lockHeld
      shelved.coordinator.options.lockTimeout = (shelvedEntered.tree, .ok ()) := by
    apply Prod.ext
    · rfl
    · decide +kernel
  have hread : Reached r shelved ⟨shelvedEntered, .captured shelvedCapture,
      [.cleared, .entered (.ok ()), .read shelvedCapture]⟩ :=
    hstart.capture (by decide +kernel) hlock (build_memory_nil _) userFiles_shelvedEntered rfl
  have hpath : shelvedEntered.coordinator.cache.modulePath? shelvedEntered.tree =
      some ⟨"models/old.module"⟩ := by
    decide +kernel
  have hbundle : shelvedEntered.coordinator.cache.bundleFor? shelvedEntered.tree
      shelvedCapture.fingerprint = none := by
    decide +kernel
  have hregistry : Registry.build shelvedModule = .ok .empty := rfl
  have hbuilt := hread.reuse (by decide +kernel) hpath hbundle (moduleFor?_shelved (by decide +kernel))
    hregistry rfl
  have hremoved : unflagging shelvedTidied = .ok () := by
    decide +kernel
  exact hbuilt.succeed hremoved

/-- What is observed of the first build and of an invalidation after it. -/
def renewal : List Sight :=
  shelvedLog ++ [.invalidated false (.ok ())]

theorem reached_invalidate_shelvedSettled :
  Reached r shelved ⟨shelvedSettled.invalidate, .idle, renewal⟩
  := by
  have hstale : shelvedSettled.coordinator.stale = false := by decide +kernel
  have hflagged : flagging shelvedSettled = .ok () := by decide +kernel
  have hinvalidated := (reached_shelvedSettled (r := r)).step (.invalidate _)
  rw [hstale, hflagged] at hinvalidated
  exact hinvalidated

end Staged

end LiveModels
