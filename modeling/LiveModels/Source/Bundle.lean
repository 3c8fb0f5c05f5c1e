import LiveModels.Source.Emission

/-!
# Source bundles

The files that users write and the emitted source combined into one text. The text begins with a
header, which says for which fingerprint and in which revision it was made; inner attributes and
imports of all sections follow the header, in ascending order and each once; then come the sections.
The header can be read back from the text, and its revision can be replaced.
-/

namespace LiveModels

/-- A source bundle. -/
structure Bundle where
  fingerprint : String
  revision : UInt64
  files : UserFiles
  generated : String
  deriving DecidableEq, Inhabited

/-- The fingerprint and the revision for which a text was made. -/
structure Header where
  fingerprint : String
  revision : UInt64
  deriving DecidableEq, Repr, Inhabited

namespace Bundle

open Text

/-- The name of the section of emitted source. -/
def generatedName : String :=
  "models.generated.rs"

/-- The sections: the files of users, and the emitted source at the end. -/
def sections (b : Bundle) : List (String × String) :=
  b.files ++ [(generatedName, b.generated)]

/-! ### Hoisted lines -/

/-- Whether a line is an inner attribute. -/
def isInnerAttribute (line : List Char) : Bool :=
  match afterWord? "#![".toList line with
  | some rest => (trimEnd rest).getLast? == some ']'
  | none => false

/-- Whether a line is an import that ends on the line. -/
def isImport (line : List Char) : Bool :=
  match afterWord? "use".toList line with
  | some rest =>
    let path := rest.takeWhile (· ≠ ';')
    let after := rest.dropWhile (· ≠ ';')
    path.head?.any isBlank && decide (2 ≤ path.length) && after.head? == some ';'
      && (after.drop 1).all isBlank
  | none => false

/-- Whether a line moves to the beginning of the bundle. -/
def isHoisted (line : List Char) : Bool :=
  isInnerAttribute line || isImport line

/-- The lines of all sections. -/
def allLines (b : Bundle) : List (List Char) :=
  b.sections.flatMap fun s => lines s.2.toList

/-- Texts in ascending order, each once. -/
def sortedOnce (texts : List String) : List String :=
  (sortedTexts texts).eraseDups

/-- The inner attributes of all sections. -/
def attributes (b : Bundle) : List String :=
  sortedOnce ((b.allLines.filter isInnerAttribute).map fun line => String.ofList (trim line))

/-- The imports of all sections. -/
def imports (b : Bundle) : List String :=
  sortedOnce ((b.allLines.filter isImport).map fun line => String.ofList (trim line))

/-- The lines of a section that stay in it, after its name. -/
def sectionLines (s : String × String) : List String :=
  ["", "// FILE: " ++ s.1]
    ++ ((lines s.2.toList).filter fun line => !isHoisted line).map String.ofList

/-! ### Text -/

/-- How a header line for a fingerprint begins. -/
def fingerprintLabel : String :=
  "// fingerprint: "

/-- How a header line for a revision begins. -/
def revisionLabel : String :=
  "// revision: "

/-- The header line for a revision. -/
def revisionLine (revision : UInt64) : String :=
  revisionLabel ++ decimal revision.toNat

/-- The lines of a bundle. -/
def renderedLines (b : Bundle) : List String :=
  [fingerprintLabel ++ b.fingerprint, revisionLine b.revision]
    ++ b.attributes
    ++ (if b.attributes.isEmpty then [] else [""])
    ++ b.imports
    ++ b.sections.flatMap sectionLines
    ++ ["", "// EOF"]

/-- The text of a bundle. -/
def render (b : Bundle) : String :=
  unlines b.renderedLines

/-! ### Header -/

/-- What follows a label on a line, if it is not empty and made of the given characters. -/
def labelled? (label : String) (allowed : Char → Bool) (line : List Char) : Option (List Char) :=
  match afterWord? label.toList line with
  | some rest => if !rest.isEmpty && rest.all allowed then some rest else none
  | none => none

/-- The fingerprint on the first line that gives one. -/
def fingerprintOf? (text : List Char) : Option (List Char) :=
  (pieces '\n' text).findSome? (labelled? fingerprintLabel isLowerHex)

/-- The digits on the first line that gives a revision. -/
def revisionDigits? (text : List Char) : Option (List Char) :=
  (pieces '\n' text).findSome? (labelled? revisionLabel isDecimalDigit)

/-- The header of a text. -/
def header? (text : String) : Option Header := do
  let fingerprint ← fingerprintOf? text.toList
  let revision ← parseWord? (← revisionDigits? text.toList)
  return ⟨String.ofList fingerprint, revision⟩

/-- The lines with the first revision line replaced. -/
def restampLines (revision : UInt64) : List (List Char) → List (List Char)
  | [] => []
  | line :: rest =>
    match labelled? revisionLabel isDecimalDigit line with
    | some _ => (revisionLine revision).toList :: rest
    | none => line :: restampLines revision rest

/-- The text with the revision of its header replaced. -/
def restamp (text : String) (revision : UInt64) : String :=
  String.ofList (join ['\n'] (restampLines revision (pieces '\n' text.toList)))

end Bundle

end LiveModels
