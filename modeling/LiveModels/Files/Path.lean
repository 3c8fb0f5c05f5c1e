import LiveModels.Text.Lines

/-!
# Paths

A path is a text that is cut at its slashes into steps. Under a step's name it leads deeper, `..`
leads back, and `.` leads nowhere but asks for a directory, as does a slash at the end.
-/

namespace LiveModels

/-- A path, by the text under which it is reported. -/
structure Path where
  text : String
  deriving DecidableEq, Repr, Inhabited

namespace Path

/-! ### Steps -/

/-- The pieces of a path between its slashes. -/
def pieces (p : Path) : List (List Char) :=
  Text.pieces '/' p.text.toList

/-- Whether a piece of a path leads nowhere. -/
def isIdle (piece : List Char) : Bool :=
  piece == [] || piece == ['.']

/-- The steps of a path, with `.` among them. -/
def steps (p : Path) : List String :=
  (p.pieces.filter (· ≠ [])).map String.ofList

/-- The steps of a path that lead somewhere. -/
def names (p : Path) : List String :=
  (p.pieces.filter fun piece => !isIdle piece).map String.ofList

/-- Whether a path starts at the root. -/
def isAbsolute (p : Path) : Bool :=
  p.text.toList.head? == some '/'

/-- Whether a path ends with a slash. -/
def endsInSlash (p : Path) : Bool :=
  p.text.toList.getLast? == some '/'

/-- Whether the last step of a path is no name. -/
def endsInDots (p : Path) : Bool :=
  match p.steps.getLast? with
  | some last => last == "." || last == ".."
  | none => true

/-- The steps of a path to something that exists. A slash at the end asks for a directory. -/
def route (p : Path) : List String :=
  p.steps ++ if p.endsInSlash then ["."] else []

/-- The name of the file that a path leads to: the last one, unless that leads back. -/
def fileName? (p : Path) : Option String :=
  match p.names.getLast? with
  | some name => if name = ".." then none else some name
  | none => none

/-! ### Longer and shorter paths -/

/-- The path that a text denotes as seen from a directory: an absolute one replaces it. -/
def join (p : Path) (text : String) : Path :=
  if (Path.mk text).isAbsolute then ⟨text⟩
  else ⟨p.text ++ (if p.text.isEmpty || p.endsInSlash then "" else "/") ++ text⟩

/-- The path with an ending added to its text. -/
def withEnding (p : Path) (ending : String) : Path :=
  ⟨p.text ++ ending⟩

/-- What is left of reversed pieces as they are taken away one by one, wherever the next piece leads
somewhere. -/
def stems : List (List Char) → List (List (List Char))
  | [] => []
  | piece :: rest => if isIdle piece then stems rest else (piece :: rest) :: stems rest

/-- The directories through which a path leads, from the innermost on. -/
def parents (p : Path) : List Path :=
  match stems p.pieces.reverse with
  | [] => []
  | _ :: above =>
    above.map (fun stem => ⟨String.ofList (Text.join ['/'] stem.reverse)⟩)
      ++ if p.isAbsolute then [⟨"/"⟩] else []

/-- The directory in which a path lies, if it is named. -/
def parent? (p : Path) : Option Path :=
  p.parents.head?

/-- The directory in which a path lies. The one of a name alone has no text. -/
def parent (p : Path) : Path :=
  p.parent?.getD ⟨""⟩

end Path

end LiveModels
