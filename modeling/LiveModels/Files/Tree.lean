import LiveModels.Files.Path

/-!
# File trees

Directories and files by the names that lead to them, and the operations on them with the failures
they can have. Every operation but `set` and `erase` first walks along a path, where each step must
start from a directory. Names and paths have a greatest length, and no path holds a null character.
-/

namespace LiveModels

/-- What a file holds. Octets that are the UTF-8 of a text are held as that text. -/
inductive Content
  | text (value : String)
  | octets (values : List UInt8)
  deriving DecidableEq, Repr, Inhabited

/-- What stands at a place of a tree. -/
inductive Node
  | directory
  | file (content : Content)
  deriving DecidableEq, Repr, Inhabited

/-- Why an operation on files fails. -/
inductive FileFault
  | notFound
  | alreadyExists
  | notDirectory
  | isDirectory
  | nameTooLong
  | nullCharacter
  | notText
  | other (text : String)
  deriving DecidableEq, Repr

/-- What is reported about a failure. -/
def FileFault.message : FileFault → String
  | .notFound => "No such file or directory (os error 2)"
  | .alreadyExists => "File exists (os error 17)"
  | .notDirectory => "Not a directory (os error 20)"
  | .isDirectory => "Is a directory (os error 21)"
  | .nameTooLong => "File name too long (os error 36)"
  | .nullCharacter => "file name contained an unexpected NUL byte"
  | .notText => "stream did not contain valid UTF-8"
  | .other text => text

/-- A place in a tree: the names that lead to it from the root. -/
abbrev Place := List String

/-- The nodes of a tree by their places; the first entry of a place counts. -/
structure Tree where
  entries : List (Place × Node) := []
  deriving Repr, Inhabited

namespace Tree

/-! ### Nodes -/

/-- The node at a place; the root is a directory. -/
def get? (t : Tree) (p : Place) : Option Node :=
  if p = [] then some .directory
  else (t.entries.find? fun e => e.1 == p).map (·.2)

/-- The tree with a node set. -/
def set (t : Tree) (p : Place) (n : Node) : Tree :=
  ⟨(p, n) :: t.entries.filter fun e => e.1 != p⟩

/-- The tree without a place and all that lies below it. -/
def erase (t : Tree) (p : Place) : Tree :=
  ⟨t.entries.filter fun e => !p.isPrefixOf e.1⟩

/-- The names in a directory, in ascending order, with their nodes. -/
def children (t : Tree) (p : Place) : List (String × Node) :=
  let inside := t.entries.filterMap fun e =>
    match e.1.getLast? with
    | some name => if e.1.dropLast = p then some (name, e.2) else none
    | none => none
  inside.mergeSort fun a b => decide (a.1 ≤ b.1)

theorem get?_set_self (t : Tree) {p : Place} (h : p ≠ []) (n : Node) :
  (t.set p n).get? p = some n
  := by
  simp [get?, set, h]

theorem get?_set_of_ne (t : Tree) {p q : Place} (h : q ≠ p) (n : Node) :
  (t.set p n).get? q = t.get? q
  := by
  unfold get? set
  by_cases hq : q = []
  · simp [hq]
  · have hpq : (p == q) = false := by simpa using fun e => h e.symm
    simp only [hq, if_false, List.find?_cons, hpq, List.find?_filter]
    congr 2
    funext e
    by_cases he : e.1 = q
    · simp [he, h]
    · simp [he]

/-! ### Walking -/

/-- The most octets that a name may have. -/
def mostNameOctets : Nat := 255

/-- The most octets that a path may have. -/
def mostPathOctets : Nat := 4095

/-- Why a path leads nowhere in any tree. -/
def faultOf? (path : Path) : Option FileFault :=
  if path.text.toList.contains '\x00' then some .nullCharacter
  else if mostPathOctets < path.text.utf8ByteSize then some .nameTooLong
  else none

/-- The place to which one step leads. -/
def after (here : Place) (step : String) : Place :=
  if step = "." then here else if step = ".." then here.dropLast else here ++ [step]

/-- The place to which steps lead from another. -/
def walk (t : Tree) : Place → List String → Except FileFault Place
  | here, [] => .ok here
  | here, step :: rest =>
    match t.get? here with
    | some .directory =>
      if mostNameOctets < step.utf8ByteSize then .error .nameTooLong
      else walk t (after here step) rest
    | some (.file _) => .error .notDirectory
    | none => .error .notFound

/-- The place to which steps of a path lead from the root. -/
def place (t : Tree) (path : Path) (steps : List String) : Except FileFault Place :=
  match faultOf? path with
  | some fault => .error fault
  | none => t.walk [] steps

/-- The node at a path. -/
def node (t : Tree) (path : Path) : Except FileFault Node := do
  let place ← t.place path path.route
  match t.get? place with
  | some n => return n
  | none => throw .notFound

/-- Whether anything stands at a path. -/
def has (t : Tree) (path : Path) : Bool :=
  match t.node path with
  | .ok _ => true
  | .error _ => false

/-- Whether a file stands at a path. -/
def hasFile (t : Tree) (path : Path) : Bool :=
  match t.node path with
  | .ok (.file _) => true
  | _ => false

/-- Whether a directory stands at a path. -/
def hasDirectory (t : Tree) (path : Path) : Bool :=
  match t.node path with
  | .ok .directory => true
  | _ => false

/-- The names in a directory, in ascending order, with their nodes. -/
def list (t : Tree) (path : Path) : Except FileFault (List (String × Node)) := do
  let place ← t.place path path.route
  match t.get? place with
  | some .directory => return t.children place
  | some (.file _) => throw .notDirectory
  | none => throw .notFound

/-- The text of a file. -/
def readText (t : Tree) (path : Path) : Except FileFault String := do
  match ← t.node path with
  | .file (.text s) => return s
  | .file (.octets _) => throw .notText
  | .directory => throw .isDirectory

/-! ### Changes -/

/-- Makes one directory in another that must exist. -/
def makeDirectory (t : Tree) (path : Path) : Except FileFault Tree := do
  let place ← t.place path path.steps
  if path.endsInDots || (t.get? place).isSome then throw .alreadyExists
  return t.set place .directory

/-- Makes the first of some directories, each of which lies in the next; those around it are made if
it cannot be made without them. What has been made stays when another one fails. -/
def makeFirst (t : Tree) : List Path → Tree × Except FileFault Unit
  | [] => (t, .ok ())
  | path :: above =>
    let settle (t : Tree) (fault : FileFault) : Tree × Except FileFault Unit :=
      (t, if t.hasDirectory path then .ok () else .error fault)
    match t.makeDirectory path with
    | .ok t => (t, .ok ())
    | .error .notFound =>
      match makeFirst t above with
      | (t, .error fault) => (t, .error fault)
      | (t, .ok _) =>
        match t.makeDirectory path with
        | .ok t => (t, .ok ())
        | .error fault => settle t fault
    | .error fault => settle t fault

/-- Makes a directory with all that lead to it, as far as they do not exist. -/
def makeDirectories (t : Tree) (path : Path) : Tree × Except FileFault Unit :=
  t.makeFirst (path :: path.parents)

/-- Writes a file in place of the one at a path, in a directory that must exist. A slash at the end
is refused before the name is looked at. -/
def write (t : Tree) (path : Path) (content : Content) : Except FileFault Tree := do
  let place ← t.place path (if path.endsInSlash then path.steps.dropLast ++ ["."] else path.steps)
  if path.endsInDots || path.endsInSlash then throw .isDirectory
  match t.get? place with
  | some .directory => throw .isDirectory
  | _ => return t.set place (.file content)

/-- Removes the file at a path. -/
def removeFile (t : Tree) (path : Path) : Except FileFault Tree := do
  let place ← t.place path path.steps
  if path.endsInDots then throw .isDirectory
  match t.get? place with
  | some (.file _) => if path.endsInSlash then throw .notDirectory else return t.erase place
  | some .directory => throw .isDirectory
  | none => throw .notFound

/-- Removes what stands at a path, with all that lies below it. -/
def remove (t : Tree) (path : Path) : Except FileFault Tree := do
  let place ← t.place path path.route
  match t.get? place with
  | some _ => return t.erase place
  | none => throw .notFound

end Tree

end LiveModels
