import LiveModels.Cache.Basic

/-!
# The lock of the models directory

Whoever rebuilds holds the lock of the models directory, so that two services on one directory never
write at the same time. The file of the lock stays after the lock has been released.
-/

namespace LiveModels.Cache

/-- Takes the lock unless it is held by another; whoever waits in vain gives up after a time in
milliseconds. The directory and the file of the lock are made if need be. -/
def acquireLock (c : Cache) (tree : Tree) (held : Bool) (timeout : Nat) :
    Tree × Except ModelsError Unit :=
  match tree.makeDirectories c.directory with
  | (tree, .error fault) => (tree, .error (.io ("Failed to create " ++ c.directory.text) fault))
  | (tree, .ok _) =>
    match tree.node (c.path .lock) with
    | .ok (.file _) =>
      (tree, if held then .error (.lockTimeout (c.path .lock) timeout) else .ok ())
    | .ok .directory =>
      (tree, .error (.io ("Failed to open " ++ (c.path .lock).text) .isDirectory))
    | .error _ =>
      match tree.write (c.path .lock) (.text "") with
      | .ok tree => (tree, .ok ())
      | .error fault => (tree, .error (.io ("Failed to open " ++ (c.path .lock).text) fault))

end LiveModels.Cache
