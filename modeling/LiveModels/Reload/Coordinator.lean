import LiveModels.Cache.Lock
import LiveModels.Cache.Store
import LiveModels.Reload.Generation
import LiveModels.Snapshot.Builder
import LiveModels.Snapshot.Fingerprint

/-!
# Coordinators

A coordinator owns the generation of models in use and rebuilds it when it is asked for the models
after something has changed. A build captures the schema and the files of users, reuses what is
stored for their fingerprint or emits and compiles anew, and publishes the result. If a build fails,
the generation before it stays in use, or one without models is published if there is none.

An invalidation may arrive while a build is running. It leaves the models stale, so that the next
request builds again.
-/

namespace LiveModels

/-- Where a coordinator is in its cycle. -/
inductive BuildStatus
  | stale
  | building
  | ready
  deriving DecidableEq, Repr, Inhabited

/-- The name of a status. -/
def BuildStatus.label : BuildStatus → String
  | .stale => "stale"
  | .building => "building"
  | .ready => "ready"

/-- The settings of a coordinator. -/
structure CoordinatorOptions where
  /-- The name that is given to compiled modules. -/
  moduleName : String := "Generated.Models"
  /-- How long to wait for the lock of the models directory, in milliseconds. -/
  lockTimeout : Nat := 120000
  /-- Whether an invalidation sets the out-of-date flag. -/
  flagOutOfDate : Bool := true
  deriving DecidableEq, Repr, Inhabited

/-- The tools that a build calls. -/
inductive Tool
  | emit
  | compile
  | load
  deriving DecidableEq, Repr

/-- The name of a tool. -/
def Tool.label : Tool → String
  | .emit => "emit"
  | .compile => "compile"
  | .load => "load"

/-- What may happen when a tool is called during a build. -/
inductive Interruption
  | invalidate
  | status
  | current
  /-- The tool fails. -/
  | fail (message : String)
  deriving DecidableEq, Repr

/-- The interruptions at the call of each tool. -/
structure Script where
  emit : List Interruption := []
  compile : List Interruption := []
  load : List Interruption := []
  deriving DecidableEq, Repr, Inhabited

/-- The interruptions at the call of one tool. -/
def Script.at (s : Script) : Tool → List Interruption
  | .emit => s.emit
  | .compile => s.compile
  | .load => s.load

/-- What a coordinator reports about itself. -/
structure StatusReport where
  state : BuildStatus
  version : Option UInt64
  fingerprint : Option String
  createdAt : Option String
  aliases : List String
  outOfDate : Bool
  lastError : Option String
  deriving DecidableEq, Repr

/-- What an interruption has found. -/
inductive Response
  | invalidated
  | status (report : StatusReport)
  | current (version : Option UInt64)
  deriving DecidableEq, Repr

/-- A coordinator. -/
structure Coordinator where
  store : Store
  policy : NamingPolicy
  options : CoordinatorOptions
  cache : Cache
  status : BuildStatus := .stale
  /-- Whether something has changed since the last build began. -/
  stale : Bool := true
  current : Option Generation := none
  lastError : Option String := none
  nextVersion : UInt64 := 1
  /-- The versions of all published generations, in the order of publication. -/
  announced : List UInt64 := []
  script : Script := {}
  /-- What the interruptions have found. -/
  journal : List (Tool × Response) := []
  compiles : Nat := 0
  loads : Nat := 0
  deriving Inhabited

namespace Coordinator

/-- The generation in use, if nothing has changed since it was built. -/
def fresh? (c : Coordinator) : Option Generation :=
  if c.status = .ready ∧ c.stale = false then c.current else none

/-- The next version, and the coordinator in which it is taken. -/
def reserveVersion (c : Coordinator) : UInt64 × Coordinator :=
  (c.nextVersion, { c with nextVersion := c.nextVersion + 1 })

/-- The successor of a revision; the largest one is its own successor. -/
def successor (revision : UInt64) : UInt64 :=
  if revision = 0xffffffffffffffff then revision else revision + 1

/-- Makes sure that no version up to a revision is taken any more. -/
def skipVersion (c : Coordinator) (revision : UInt64) : Coordinator :=
  { c with nextVersion := if c.nextVersion < successor revision then successor revision
                          else c.nextVersion }

/-- Publishes a generation. -/
def publish (c : Coordinator) (g : Generation) : Coordinator :=
  { c with current := some g, announced := c.announced ++ [g.version] }

end Coordinator

/-- A coordinator at work: the files around it, whether another holds the lock of the models
directory, and the time. -/
structure Service where
  coordinator : Coordinator
  tree : Tree
  lockHeld : Bool
  now : String
  deriving Inhabited

namespace Service

/-! ### Invalidation -/

/-- Marks the models stale, and sets the out-of-date flag if they were not. -/
def invalidate (s : Service) : Service :=
  let c := s.coordinator
  if c.stale then s
  else
    let tree :=
      if c.options.flagOutOfDate then (c.cache.flagOutOfDate s.tree s.now).1 else s.tree
    { s with coordinator := { c with stale := true }, tree := tree }

/-- Removes the out-of-date flag, unless the models have become stale again. -/
def clearOutOfDate (s : Service) : Service :=
  if s.coordinator.stale then s
  else { s with tree := (s.coordinator.cache.clearOutOfDate s.tree).1 }

/-! ### Reports -/

/-- The error of the last build, if it failed; one that another service has noted counts too. -/
def lastError? (s : Service) : Option String :=
  s.coordinator.lastError <|> s.coordinator.cache.lastError? s.tree

/-- What the coordinator reports about itself. -/
def status (s : Service) : StatusReport :=
  let c := s.coordinator
  { state :=
      if c.status = .building then .building else if c.stale then .stale else c.status
    version := c.current.map (·.version)
    fingerprint := c.current.bind (·.fingerprint)
    createdAt := c.current.map (·.createdAt)
    aliases := (c.current.map (·.registry.aliases)).getD []
    outOfDate := c.cache.isOutOfDate s.tree
    lastError := s.lastError? }

/-- Notes the error of a build. -/
def recordError (s : Service) (e : ModelsError) : Service :=
  let c := s.coordinator
  { s with
    coordinator := { c with lastError := some e.record }
    tree := (c.cache.recordError s.tree e.record).1 }

/-- Removes the noted error. -/
def clearError (s : Service) : Service :=
  let c := s.coordinator
  { s with
    coordinator := { c with lastError := none }
    tree := (c.cache.clearError s.tree).1 }

/-! ### Interruptions -/

/-- Adds a finding to the journal. -/
def note (s : Service) (tool : Tool) (r : Response) : Service :=
  { s with coordinator := { s.coordinator with journal := s.coordinator.journal ++ [(tool, r)] } }

/-- Lets interruptions happen, up to the first that makes the tool fail; its message is returned. -/
def interrupt (tool : Tool) : List Interruption → Service → Service × Option String
  | [], s => (s, none)
  | .invalidate :: rest, s => interrupt tool rest (s.invalidate.note tool .invalidated)
  | .status :: rest, s => interrupt tool rest (s.note tool (.status s.status))
  | .current :: rest, s =>
    interrupt tool rest (s.note tool (.current (s.coordinator.current.map (·.version))))
  | .fail message :: _, s => (s, some message)

/-- Calls a tool: counts the call and lets the interruptions happen. -/
def call (tool : Tool) (s : Service) : Service × Option String :=
  let c := s.coordinator
  let counted :=
    match tool with
    | .emit => c
    | .compile => { c with compiles := c.compiles + 1 }
    | .load => { c with loads := c.loads + 1 }
  interrupt tool (c.script.at tool) { s with coordinator := counted }

/-! ### Builds -/

/-- Looks for a stored generation. -/
def lookUp (s : Service) (fingerprint : String) : Service × Lookup :=
  let cache := s.coordinator.cache
  if cache.isMarked s.tree fingerprint then
    let bundle := cache.bundleFor? s.tree fingerprint
    match cache.modulePath? s.tree with
    | none => (s, Cache.choose none bundle)
    | some location =>
      match s.call .load with
      | (s, some _) => (s, Cache.choose none bundle)
      | (s, none) => (s, Cache.choose (Cache.moduleFor? s.tree fingerprint location) bundle)
  else (s, .miss)

/-- Stores a job under the name of the modules of this coordinator. -/
def runJob (s : Service) (j : Cache.Job) : Service × Except ModelsError Module :=
  let c := s.coordinator
  match c.cache.stage s.tree j with
  | (tree, .error e) => ({ s with tree := tree }, .error e)
  | (tree, .ok _) =>
    match call .compile { s with tree := tree } with
    | (s, some message) => (s, .error (.compile ⟨c.options.moduleName, message⟩))
    | (s, none) =>
      let (tree, result) := c.cache.complete s.tree j c.options.moduleName
      ({ s with tree := tree }, result)

/-- Takes the next version. -/
def reserveVersion (s : Service) : UInt64 × Service :=
  let (version, c) := s.coordinator.reserveVersion
  (version, { s with coordinator := c })

/-- A module with the bundle that it was compiled from and the version for its generation. -/
structure Product where
  module : Module
  source : String
  version : UInt64
  deriving Inhabited

/-- Reuses a stored module. Later versions are above its revision. -/
def reuseModule (s : Service) (module : Module) (source : String) : Service × Product :=
  let skipped := { s with coordinator := s.coordinator.skipVersion module.revision }
  let (version, s) := skipped.reserveVersion
  (s, ⟨module, source, version⟩)

/-- Compiles a stored bundle again, as the next revision. -/
def reuseSource (s : Service) (fingerprint text : String) : Service × Except ModelsError Product :=
  let (version, s) := s.reserveVersion
  let text := Bundle.restamp text version
  match Cache.Job.ofSource fingerprint text with
  | .error e => (s, .error e)
  | .ok j =>
    let (s, result) := s.runJob j
    (s, result.map fun module => ⟨module, text, version⟩)

/-- Emits the source of a snapshot and compiles it, as the next revision. -/
def emitAndCompile (s : Service) (snapshot : Snapshot) (files : UserFiles) (fingerprint : String) :
    Service × Except ModelsError Product :=
  let (version, s) := s.reserveVersion
  match s.call .emit with
  | (s, some message) => (s, .error (.emit message))
  | (s, none) =>
    let bundle : Bundle := ⟨fingerprint, version, files, Emission.emit snapshot files⟩
    let (s, result) := s.runJob (.ofBundle bundle)
    (s, result.map fun module => ⟨module, bundle.render, version⟩)

/-- Makes the module for a snapshot and files, from what is stored as far as possible. -/
def produce (s : Service) (snapshot : Snapshot) (files : UserFiles) (fingerprint : String) :
    Service × Except ModelsError Product :=
  match s.lookUp fingerprint with
  | (s, .module module source) =>
    let (s, product) := s.reuseModule module source
    (s, .ok product)
  | (s, .source text) => s.reuseSource fingerprint text
  | (s, .miss) => s.emitAndCompile snapshot files fingerprint

/-- What a build captures: the snapshot of the schema, the files of users and their fingerprint. -/
structure Capture where
  snapshot : Snapshot
  files : UserFiles
  fingerprint : String

/-- Captures the schema and the files of users. -/
def capture (s : Service) : Except ModelsError Capture :=
  let c := s.coordinator
  match Snapshot.build s.tree c.store c.policy with
  | .error e => .error (.schema e)
  | .ok snapshot =>
    match c.cache.userFiles s.tree with
    | .error e => .error e
    | .ok files => .ok ⟨snapshot, files, Fingerprint.compute files snapshot.types⟩

/-- Builds a generation from a capture. -/
def generationOf (s : Service) (captured : Capture) : Service × Except ModelsError Generation :=
  match s.produce captured.snapshot captured.files captured.fingerprint with
  | (s, .error e) => (s, .error e)
  | (s, .ok product) =>
    match Registry.build product.module with
    | .error e => (s, .error (.shape e))
    | .ok registry =>
      (s, .ok {
        version := product.version
        fingerprint := some captured.fingerprint
        snapshot := some captured.snapshot
        source := product.source
        module := some product.module
        registry := registry
        createdAt := s.now
        error := none })

/-- Builds a generation under the lock of the models directory. -/
def rebuild (s : Service) : Service × Except ModelsError Generation :=
  let c := s.coordinator
  match c.cache.acquireLock s.tree s.lockHeld c.options.lockTimeout with
  | (tree, .error e) => ({ s with tree := tree }, .error e)
  | (tree, .ok _) =>
    let s := { s with tree := tree }
    match s.capture with
    | .error e => (s, .error e)
    | .ok captured => s.generationOf captured

/-! ### Requests -/

/-- Begins a build: invalidations from here on call for another one. -/
def beginBuild (s : Service) : Service :=
  { s with coordinator := { s.coordinator with status := .building, stale := false } }

/-- Publishes a generation that was built. -/
def succeed (s : Service) (g : Generation) : Service :=
  let published := { s with coordinator := { s.coordinator with current := some g } }
  let cleared := published.clearError.clearOutOfDate
  { cleared with
    coordinator :=
      { cleared.coordinator with announced := cleared.coordinator.announced ++ [g.version] } }

/-- Keeps the generation in use after a build that failed, or publishes one without models. -/
def fail (s : Service) (e : ModelsError) : Service × Generation :=
  let s := s.recordError e
  match s.coordinator.current with
  | some previous => (s, previous)
  | none =>
    let (version, s) := s.reserveVersion
    let g := Generation.degraded version s.now e.message
    ({ s with coordinator := s.coordinator.publish g }, g)

/-- Ends a build. -/
def endBuild (s : Service) : Service :=
  { s with coordinator := { s.coordinator with status := .ready } }

/-- Builds and publishes. -/
def buildGeneration (s : Service) : Service × Generation :=
  match s.rebuild with
  | (s, .ok g) => (s.succeed g, g)
  | (s, .error e) => s.fail e

/-- The generation in use, built before if something has changed. There is always one. -/
def ensureReady (s : Service) : Service × Generation :=
  match s.coordinator.fresh? with
  | some g => (s, g)
  | none =>
    let (s, g) := s.beginBuild.buildGeneration
    (s.endBuild, g)

/-- The module in use, as one that is compiled against it sees it. -/
def modelsForCompilation (s : Service) : Option Module :=
  s.coordinator.current.bind (·.module)

/-- The name of the module in use, as it is reported to one that is compiled against it. -/
def compileDependent (s : Service) : Option String :=
  s.modelsForCompilation.map (·.name)

end Service

end LiveModels
