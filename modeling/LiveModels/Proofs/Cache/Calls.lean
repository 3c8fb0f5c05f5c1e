import LiveModels.Proofs.Cache.Stored
import LiveModels.Proofs.Files.Calls

/-!
# Operations call by call

The operations on a models directory as the calls to the file system of which they are made. What an
operation calls next depends on what its calls have led to so far, so that the calls are found along
with the trees. An artifact is replaced by way of a file in the models directory whose name is chosen
anew each time; here the names are given, one for each artifact.
-/

namespace LiveModels.Cache

open LiveModels.Tree

variable (c : Cache) (temporary : Artifact → String)

/-! ### Parts of operations -/

/-- The calls by which an artifact is replaced. -/
def replaceCalls (t : Tree) (a : Artifact) (text : String) : List Call :=
  t.making (c.parent a :: (c.parent a).parents) ++ match t.makeDirectories (c.parent a) with
    | (_, .ok _) => [.replace (c.directory.join (temporary a)) (c.path a) text]
    | (_, .error _) => []

/-- The calls by which artifacts are replaced one after another. -/
def stepCalls : List Step → Tree → List Call
  | [], _ => []
  | s :: rest, t => c.replaceCalls temporary t s.artifact s.text ++ match s.run c t with
    | (t, .ok _) => stepCalls rest t
    | (_, .error _) => []

/-- The calls by which the lock is taken. -/
def lockCalls (t : Tree) : List Call :=
  t.making (c.directory :: c.directory.parents) ++ match t.makeDirectories c.directory with
    | (_, .error _) => []
    | (t, .ok _) =>
      match t.node (c.path .lock) with
      | .ok _ => []
      | .error _ => [.write (c.path .lock) ""]

/-- The calls by which the manifest of a source is written. -/
def compileCalls (t : Tree) (moduleName source : String) (output : Path) : List Call :=
  match Manifest.ofSource moduleName source with
  | .error _ => []
  | .ok m =>
    match output.parent? with
    | none => [.write output m.print]
    | some directory =>
      t.making (directory :: directory.parents) ++ match t.makeDirectories directory with
        | (_, .ok _) => [.write output m.print]
        | (_, .error _) => []

/-- The calls by which one entry of the directory of compiled modules is removed. -/
def pruneEntryCalls (t : Tree) (name : String) : List Call :=
  let path := c.compiledPath.join name
  if isRemovalMark name then
    let marked := String.ofList (name.toList.take (name.length - removalEnding.length))
    if t.has (c.compiledPath.join marked) then [] else [.remove path]
  else
    .remove path :: match t.removeFile path with
      | .ok _ => []
      | .error _ => [.write (path.withEnding removalEnding) ""]

/-- The calls by which entries are removed one after another. -/
def pruneCalls : List String → Tree → List Call
  | [], _ => []
  | name :: rest, t => c.pruneEntryCalls t name ++ pruneCalls rest (c.pruneEntry t name)

/-- The calls by which what has been staged is compiled and put to use. -/
def completeCalls (t : Tree) (j : Job) (moduleName : String) : List Call :=
  compileCalls t moduleName j.source (c.output j) ++
    match Manifest.compile t moduleName j.source (c.output j) with
    | (_, .error _) => []
    | (t, .ok _) => c.stepCalls temporary j.commit t ++ match c.runSteps j.commit t with
      | (_, .error _) => []
      | (t, .ok _) => c.pruneCalls (c.outdated t (c.output j)) t

/-- The calls by which a job is stored. -/
def jobCalls (t : Tree) (j : Job) (moduleName : String) : List Call :=
  c.stepCalls temporary j.stage t ++ match c.stage t j with
    | (_, .error _) => []
    | (t, .ok _) => c.completeCalls temporary t j moduleName

variable {c temporary} {t t' : Tree} {j : Job} {call : Call}

/-! ### What the calls lead to -/

theorem runAll_replaceCalls (a : Artifact) (text : String) :
  Call.runAll t (c.replaceCalls temporary t a text) = (c.replace t a text).1
  := by
  rw [replaceCalls, Call.runAll_append, runAll_making, replace]
  change Call.runAll (t.makeDirectories (c.parent a)).1 _ = _
  cases t.makeDirectories (c.parent a) with
  | mk made result =>
    cases result with
    | error fault => rfl
    | ok done =>
      simp only [Call.runAll_cons, Call.runAll_nil, Call.run]
      cases made.write (c.path a) (.text text) <;> rfl

theorem runAll_stepCalls (steps : List Step) (t : Tree) :
  Call.runAll t (c.stepCalls temporary steps t) = (c.runSteps steps t).1
  := by
  induction steps generalizing t with
  | nil => rfl
  | cons s rest ih =>
    rw [stepCalls, Call.runAll_append, runAll_replaceCalls, runSteps]
    change Call.runAll (s.run c t).1 _ = _
    cases s.run c t with
    | mk t₁ result =>
      cases result with
      | error e => rfl
      | ok done => apply ih

theorem runAll_lockCalls (held : Bool) (timeout : Nat) :
  Call.runAll t (c.lockCalls t) = (c.acquireLock t held timeout).1
  := by
  rw [lockCalls, Call.runAll_append, runAll_making, acquireLock]
  change Call.runAll (t.makeDirectories c.directory).1 _ = _
  cases t.makeDirectories c.directory with
  | mk made result =>
    cases result with
    | error fault => rfl
    | ok done =>
      dsimp only
      cases made.node (c.path .lock) with
      | ok n => cases n <;> rfl
      | error fault =>
        simp only [Call.runAll_cons, Call.runAll_nil, Call.run]
        cases made.write (c.path .lock) (.text "") <;> rfl

theorem runAll_compileCalls (moduleName source : String) (output : Path) :
  Call.runAll t (compileCalls t moduleName source output) =
    (Manifest.compile t moduleName source output).1
  := by
  have hwrite : ∀ (t : Tree) (m : Manifest),
      Call.runAll t [.write output m.print] = (m.write t output).1 := by
    intro t m
    rw [Manifest.write, Call.runAll_cons, Call.runAll_nil, Call.run]
    cases t.write output (.text m.print) <;> rfl
  unfold compileCalls Manifest.compile
  cases Manifest.ofSource moduleName source with
  | error e => rfl
  | ok m =>
    dsimp only
    unfold Manifest.save
    cases output.parent? with
    | none => apply hwrite
    | some directory =>
      dsimp only
      rw [Call.runAll_append, runAll_making]
      change Call.runAll (t.makeDirectories directory).1 _ = _
      cases t.makeDirectories directory with
      | mk made result =>
        cases result with
        | error fault => rfl
        | ok done => apply hwrite

theorem runAll_pruneEntryCalls (name : String) :
  Call.runAll t (c.pruneEntryCalls t name) = c.pruneEntry t name
  := by
  unfold pruneEntryCalls pruneEntry
  dsimp only
  split
  · split <;> rfl
  · rw [Call.runAll_cons, Call.run]
    cases t.removeFile (c.compiledPath.join name) <;> rfl

theorem runAll_pruneCalls (names : List String) (t : Tree) :
  Call.runAll t (c.pruneCalls names t) = names.foldl c.pruneEntry t
  := by
  induction names generalizing t with
  | nil => rfl
  | cons name rest ih =>
    rw [pruneCalls, Call.runAll_append, runAll_pruneEntryCalls, ih]
    rfl

theorem runAll_completeCalls (j : Job) (moduleName : String) :
  Call.runAll t (c.completeCalls temporary t j moduleName) = (c.complete t j moduleName).1
  := by
  rw [completeCalls, Call.runAll_append, runAll_compileCalls, complete]
  cases Manifest.compile t moduleName j.source (c.output j) with
  | mk t₁ result =>
    cases result with
    | error e => rfl
    | ok module =>
      dsimp only
      rw [Call.runAll_append, runAll_stepCalls]
      cases c.runSteps j.commit t₁ with
      | mk t₂ result =>
        cases result with
        | error e => rfl
        | ok done =>
          dsimp only
          rw [runAll_pruneCalls, prune_eq]

theorem runAll_jobCalls (j : Job) (moduleName : String) :
  Call.runAll t (c.jobCalls temporary t j moduleName) = (c.run t j moduleName).1
  := by
  rw [jobCalls, Call.runAll_append, runAll_stepCalls, run]
  change Call.runAll (c.stage t j).1 _ = _
  cases c.stage t j with
  | mk t₁ result =>
    cases result with
    | error e => rfl
    | ok done => apply runAll_completeCalls

/-! ### Whole operations -/

/-- An operation on a models directory. -/
inductive Operation
  | store (b : Bundle) (moduleName : String)
  | storeSource (fingerprint text moduleName : String)
  | flagOutOfDate (now : String)
  | clearOutOfDate
  | recordError (message : String)
  | clearError
  | acquireLock (held : Bool) (timeout : Nat)

namespace Operation

/-- The tree after an operation, whether it succeeds or fails. -/
def run (c : Cache) (t : Tree) : Operation → Tree
  | .store b moduleName => (c.store t b moduleName).1
  | .storeSource fingerprint text moduleName => (c.storeSource t fingerprint text moduleName).1
  | .flagOutOfDate now => (c.flagOutOfDate t now).1
  | .clearOutOfDate => (c.clearOutOfDate t).1
  | .recordError message => (c.recordError t message).1
  | .clearError => (c.clearError t).1
  | .acquireLock held timeout => (c.acquireLock t held timeout).1

/-- The calls of which an operation is made. -/
def calls (c : Cache) (temporary : Artifact → String) (t : Tree) : Operation → List Call
  | .store b moduleName => c.jobCalls temporary t (.ofBundle b) moduleName
  | .storeSource fingerprint text moduleName =>
    match Job.ofSource fingerprint text with
    | .ok j => c.jobCalls temporary t j moduleName
    | .error _ => []
  | .flagOutOfDate now => c.replaceCalls temporary t .outOfDate now
  | .clearOutOfDate => [.remove (c.path .outOfDate)]
  | .recordError message => c.replaceCalls temporary t .error message
  | .clearError => [.remove (c.path .error)]
  | .acquireLock _ _ => c.lockCalls t

/-- An operation does to the tree what its calls do. -/
theorem runAll_calls (c : Cache) (temporary : Artifact → String) (t : Tree)
    (operation : Operation) :
  Call.runAll t (operation.calls c temporary t) = operation.run c t
  := by
  have hdiscard : ∀ a, Call.runAll t [.remove (c.path a)] = (c.discard t a).1 := by
    intro a
    unfold discard
    rw [Call.runAll_cons, Call.runAll_nil, Call.run]
    cases t.removeFile (c.path a) with
    | ok t' => rfl
    | error fault => cases fault <;> rfl
  cases operation with
  | store b moduleName => apply runAll_jobCalls
  | storeSource fingerprint text moduleName =>
    rw [calls, run, Cache.storeSource]
    cases Job.ofSource fingerprint text with
    | error e => rfl
    | ok j => apply runAll_jobCalls
  | flagOutOfDate now => apply runAll_replaceCalls
  | clearOutOfDate => apply hdiscard
  | recordError message => apply runAll_replaceCalls
  | clearError => apply hdiscard
  | acquireLock held timeout => apply runAll_lockCalls

end Operation

end LiveModels.Cache
