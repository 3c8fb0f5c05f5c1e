import LiveModels.Compiled.Manifest

/-!
# The models directory

The directory that holds the files of users beside what is generated from them: the emitted source,
the bundle, the compiled modules with a pointer to the one in use, the fingerprint for which all
this was made, the last error, a flag that the models are out of date, and the lock. Every such file
is replaced as a whole.
-/

namespace LiveModels

/-- A file that is kept beside the files of users. -/
inductive Artifact
  /-- The fingerprint for which the other artifacts were made. -/
  | marker
  /-- The emitted source. -/
  | generated
  /-- The bundle that was compiled. -/
  | bundle
  /-- The path of the compiled module. -/
  | pointer
  /-- The last error. -/
  | error
  /-- The flag that the models are out of date. -/
  | outOfDate
  /-- The lock of the directory. -/
  | lock
  deriving DecidableEq, Repr

/-- The name of an artifact in the models directory. -/
def Artifact.fileName : Artifact → String
  | .marker => "models.hash"
  | .generated => "models.generated.rs"
  | .bundle => "all.generated.rs"
  | .pointer => "all.module.path"
  | .error => "models.err"
  | .outOfDate => "ood.flag"
  | .lock => "models.lock"

/-- The name of the directory of compiled modules in the models directory. -/
def compiledName : String :=
  "Compiled"

/-- Every artifact. -/
def Artifact.all : List Artifact :=
  [.marker, .generated, .bundle, .pointer, .error, .outOfDate, .lock]

/-- Whether one text ends with another. -/
def endsWith (text ending : String) : Bool :=
  ending.toList.isSuffixOf text.toList

/-- Whether a name in the models directory is not one of a file of users: that of an artifact, of
the directory of compiled modules, of a file being written, or of any generated source. -/
def isArtifactName (name : String) : Bool :=
  (Artifact.all.map Artifact.fileName).contains name || name == compiledName
    || ".tmp".toList.isPrefixOf name.toList || endsWith name ".generated.rs"

/-- A models directory. -/
structure Cache where
  directory : Path
  deriving DecidableEq, Repr, Inhabited

namespace Cache

/-- The path of an artifact. -/
def path (c : Cache) (a : Artifact) : Path :=
  c.directory.join a.fileName

/-- The path of the directory of compiled modules. -/
def compiledPath (c : Cache) : Path :=
  c.directory.join compiledName

/-! ### Single files -/

/-- The text of an artifact, if it can be read. -/
def read? (c : Cache) (tree : Tree) (a : Artifact) : Option String :=
  (tree.readText (c.path a)).toOption

/-- The directory in which an artifact lies, as its path names it: without the dots and the slashes
with which the path of the models directory may end. Nothing is gained by computing with the text of
a path that is not known. -/
@[irreducible]
def parent (c : Cache) (a : Artifact) : Path :=
  (c.path a).parent

/-- Replaces an artifact as a whole, in a directory that is made if need be. -/
def replace (c : Cache) (tree : Tree) (a : Artifact) (text : String) :
    Tree × Except ModelsError Unit :=
  match tree.makeDirectories (c.parent a) with
  | (tree, .error fault) => (tree, .error (.io ("Failed to create " ++ (c.parent a).text) fault))
  | (tree, .ok _) =>
    match tree.write (c.path a) (.text text) with
    | .error fault => (tree, .error (.io ("Failed to replace " ++ (c.path a).text) fault))
    | .ok tree => (tree, .ok ())

/-- Removes an artifact if it exists. -/
def discard (c : Cache) (tree : Tree) (a : Artifact) : Tree × Except ModelsError Unit :=
  match tree.removeFile (c.path a) with
  | .ok tree => (tree, .ok ())
  | .error .notFound => (tree, .ok ())
  | .error fault => (tree, .error (.io ("Failed to remove " ++ (c.path a).text) fault))

/-- Notes that the models are out of date since a time. -/
def flagOutOfDate (c : Cache) (tree : Tree) (now : String) : Tree × Except ModelsError Unit :=
  c.replace tree .outOfDate now

/-- Removes the note that the models are out of date. -/
def clearOutOfDate (c : Cache) (tree : Tree) : Tree × Except ModelsError Unit :=
  c.discard tree .outOfDate

/-- Whether the models are noted to be out of date. -/
def isOutOfDate (c : Cache) (tree : Tree) : Bool :=
  tree.has (c.path .outOfDate)

/-- Notes an error. -/
def recordError (c : Cache) (tree : Tree) (message : String) : Tree × Except ModelsError Unit :=
  c.replace tree .error message

/-- Removes the noted error. -/
def clearError (c : Cache) (tree : Tree) : Tree × Except ModelsError Unit :=
  c.discard tree .error

/-- The noted error. -/
def lastError? (c : Cache) (tree : Tree) : Option String :=
  c.read? tree .error

/-! ### Files of users -/

/-- Whether a node of the models directory is a file of users. -/
def isUserFile (name : String) (node : Node) : Bool :=
  endsWith name ".rs" && !isArtifactName name && match node with
    | .file _ => true
    | .directory => false

/-- Reads one file of users. -/
def readUserFile (c : Cache) (entry : String × Node) : Except ModelsError (String × String) :=
  match entry.2 with
  | .file (.text text) => .ok (entry.1, text)
  | _ => .error (.io ("Failed to read " ++ (c.directory.join entry.1).text) .notText)

/-- The files of users, by name in ascending order. -/
def userFiles (c : Cache) (tree : Tree) : Except ModelsError UserFiles :=
  match tree.list c.directory with
  | .error .notFound => .ok []
  | .error fault => .error (.io ("Failed to list " ++ c.directory.text) fault)
  | .ok entries => (entries.filter fun e => isUserFile e.1 e.2).mapM c.readUserFile

end Cache

end LiveModels
