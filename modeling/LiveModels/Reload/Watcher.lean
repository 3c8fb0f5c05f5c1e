import LiveModels.Reload.Coordinator

/-!
# Watching for changes

A watcher turns notices about changes into invalidations of a coordinator. Changes of the files that
are kept beside those of users are ignored, since every build makes some.
-/

namespace LiveModels

/-- A watcher, which may be watching a directory. -/
structure Watcher where
  isWatching : Bool := false
  deriving DecidableEq, Repr, Inhabited

namespace Watcher

/-- Whether a change of the file with a path matters. -/
def concerns (path : String) : Bool :=
  match (Path.mk path).fileName? with
  | some name => !isArtifactName name
  | none => false

/-- Takes notice of a change of a file. -/
def fileChanged (path : String) (s : Service) : Service :=
  if concerns path then s.invalidate else s

/-- Begins to watch a directory, which is made if need be. -/
def watch (_ : Watcher) (tree : Tree) (directory : Path) : Tree × Except ModelsError Watcher :=
  match tree.makeDirectories directory with
  | (tree, .error fault) => (tree, .error (.io ("Failed to create " ++ directory.text) fault))
  | (tree, .ok _) => (tree, .ok ⟨true⟩)

/-- Stops watching. -/
def stop (_ : Watcher) : Watcher :=
  ⟨false⟩

end Watcher

end LiveModels
