import LiveModels.Cache.Basic

/-!
# Storing and loading generations

A generation is stored in steps: the emitted source, the bundle, the compiled module, the pointer to
it, and last the marker with the fingerprint. A marker that does not match means that nothing usable
is stored, so an attempt that is cut off leaves no mixture behind that would be taken for a
generation. Afterwards the other compiled modules are removed.
-/

namespace LiveModels

/-- What is found for a fingerprint. -/
inductive Lookup
  /-- A compiled module, and the bundle from which it was compiled if that is still there. -/
  | module (module : Module) (source : String)
  /-- A bundle that has to be compiled again. -/
  | source (text : String)
  | miss
  deriving Inhabited

namespace Cache

/-! ### Steps -/

/-- One step of storing a generation, apart from writing the module. -/
structure Step where
  artifact : Artifact
  text : String
  deriving DecidableEq, Repr

/-- Makes one step. -/
def Step.run (c : Cache) (tree : Tree) (s : Step) : Tree × Except ModelsError Unit :=
  c.replace tree s.artifact s.text

/-- Makes steps up to the first that fails. -/
def runSteps (c : Cache) : List Step → Tree → Tree × Except ModelsError Unit
  | [], tree => (tree, .ok ())
  | s :: rest, tree =>
    match s.run c tree with
    | (tree, .ok _) => runSteps c rest tree
    | (tree, .error e) => (tree, .error e)

/-- A source text that is to be compiled and kept, with the fingerprint and the revision for which
its module is kept. -/
structure Job where
  fingerprint : String
  revision : UInt64
  source : String
  /-- The emitted source, if it is new. -/
  generated : Option String
  deriving DecidableEq, Repr

/-- The job of storing a bundle. -/
def Job.ofBundle (b : Bundle) : Job :=
  ⟨b.fingerprint, b.revision, b.render, some b.generated⟩

/-- The job of storing a text that was stored before; it must have a header. -/
def Job.ofSource (fingerprint text : String) : Except ModelsError Job :=
  match Bundle.header? text with
  | some header => .ok ⟨fingerprint, header.revision, text, none⟩
  | none => .error (.emit "cached source bundle has no header")

/-- The name of the module of a job. -/
def Job.moduleName (j : Job) : String :=
  "generated." ++ j.fingerprint ++ "." ++ Text.decimal j.revision.toNat ++ ".module"

/-- The path of the module of a job, as seen from the models directory. -/
def Job.relativePath (j : Job) : String :=
  compiledName ++ "/" ++ j.moduleName

/-- The path of the module of a job. -/
def output (c : Cache) (j : Job) : Path :=
  c.directory.join j.relativePath

/-- The steps before the module is compiled. -/
def Job.stage (j : Job) : List Step :=
  (j.generated.map fun text => ⟨.generated, text⟩).toList ++ [⟨.bundle, j.source⟩]

/-- The steps after the module has been compiled. -/
def Job.commit (j : Job) : List Step :=
  [⟨.pointer, j.relativePath⟩, ⟨.marker, j.fingerprint⟩]

/-! ### Removing old modules -/

/-- The ending of a file that marks another one for removal. -/
def removalEnding : String :=
  ".delete"

/-- Whether the name of a file in the directory of compiled modules marks another for removal. -/
def isRemovalMark (name : String) : Bool :=
  endsWith name removalEnding && name != removalEnding

/-- Removes one entry of the directory of compiled modules, or marks it for removal if it cannot be
removed. A mark is removed when what it marks is gone. -/
def pruneEntry (c : Cache) (tree : Tree) (name : String) : Tree :=
  let path := c.compiledPath.join name
  if isRemovalMark name then
    let marked := String.ofList (name.toList.take (name.length - removalEnding.length))
    if tree.has (c.compiledPath.join marked) then tree
    else (tree.removeFile path).toOption.getD tree
  else
    match tree.removeFile path with
    | .ok tree => tree
    | .error _ => (tree.write (path.withEnding removalEnding) (.text "")).toOption.getD tree

/-- Removes the compiled modules other than the one at a path. -/
def prune (c : Cache) (tree : Tree) (keep : Path) : Tree :=
  match tree.list c.compiledPath with
  | .error _ => tree
  | .ok entries =>
    (entries.filter fun e => (c.compiledPath.join e.1).names ≠ keep.names).foldl
      (fun tree e => c.pruneEntry tree e.1) tree

/-! ### Storing -/

/-- Writes what comes before the compilation. -/
def stage (c : Cache) (tree : Tree) (j : Job) : Tree × Except ModelsError Unit :=
  c.runSteps j.stage tree

/-- Compiles what has been staged and makes it the generation in use. -/
def complete (c : Cache) (tree : Tree) (j : Job) (moduleName : String) :
    Tree × Except ModelsError Module :=
  match Manifest.compile tree moduleName j.source (c.output j) with
  | (tree, .error e) => (tree, .error (.compile e))
  | (tree, .ok module) =>
    match c.runSteps j.commit tree with
    | (tree, .error e) => (tree, .error e)
    | (tree, .ok _) => (c.prune tree (c.output j), .ok module)

/-- Stores a job: stages it, compiles it and makes it the generation in use. -/
def run (c : Cache) (tree : Tree) (j : Job) (moduleName : String) :
    Tree × Except ModelsError Module :=
  match c.stage tree j with
  | (tree, .error e) => (tree, .error e)
  | (tree, .ok _) => c.complete tree j moduleName

/-- Stores a bundle. -/
def store (c : Cache) (tree : Tree) (b : Bundle) (moduleName : String) :
    Tree × Except ModelsError Module :=
  c.run tree (.ofBundle b) moduleName

/-- Stores a bundle text that was stored before. -/
def storeSource (c : Cache) (tree : Tree) (fingerprint text moduleName : String) :
    Tree × Except ModelsError Module :=
  match Job.ofSource fingerprint text with
  | .error e => (tree, .error e)
  | .ok j => c.run tree j moduleName

/-! ### Loading -/

/-- Whether the marker gives a fingerprint. -/
def isMarked (c : Cache) (tree : Tree) (fingerprint : String) : Bool :=
  (c.read? tree .marker).map Text.trimmed == some fingerprint

/-- The stored bundle, if its header gives a fingerprint. -/
def bundleFor? (c : Cache) (tree : Tree) (fingerprint : String) : Option String :=
  (c.read? tree .bundle).filter fun text =>
    (Bundle.header? text).map (·.fingerprint) == some fingerprint

/-- The path of the module in use, if it is a file that is not marked for removal. -/
def modulePath? (c : Cache) (tree : Tree) : Option Path :=
  match c.read? tree .pointer with
  | none => none
  | some text =>
    let location := c.directory.join (Text.trimmed text)
    if tree.hasFile location && !tree.has (location.withEnding removalEnding) then some location
    else none

/-- The module at a path, if it was compiled for a fingerprint. -/
def moduleFor? (tree : Tree) (fingerprint : String) (location : Path) : Option Module :=
  match Manifest.load tree location with
  | .ok module => if module.fingerprint = fingerprint then some module else none
  | .error _ => none

/-- What is found, given the module and the bundle of a fingerprint. -/
def choose (module : Option Module) (bundle : Option String) : Lookup :=
  match module, bundle with
  | some module, bundle => .module module (bundle.getD "")
  | none, some text => .source text
  | none, none => .miss

/-- Looks for a generation that was stored for a fingerprint. -/
def tryLoad (c : Cache) (tree : Tree) (fingerprint : String) : Lookup :=
  if c.isMarked tree fingerprint then
    choose ((c.modulePath? tree).bind (moduleFor? tree fingerprint)) (c.bundleFor? tree fingerprint)
  else .miss

end Cache

end LiveModels
