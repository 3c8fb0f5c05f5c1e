import LiveModels.Snapshot.Basic
import LiveModels.Text.Lines
import LiveModels.Source.Declaration

/-!
# Emitted source

The source text that declares a model for every type of a snapshot, except for those that users
declare in their own files. A declaration is preceded by the display name and the description as
comments, and followed by notes about its kind, its base, its mixins and its properties.
-/

namespace LiveModels

/-- Files that users write, by name in ascending order, with their texts. -/
abbrev UserFiles := List (String × String)

namespace Emission

/-- The lower-case forms of the aliases that users declare models for. -/
def declaredAliases (files : UserFiles) : List String :=
  (files.flatMap fun f => Declaration.declared f.2).map fun d => Text.lower d.effectiveAlias

/-- The type that a reference to a model stands for in the emitted text. -/
def resolve (s : Snapshot) (aliasName : String) : RuntimeType :=
  match s.bindingName? (Text.lower aliasName) with
  | some name => .named name
  | none => .element

/-- The lines of a text as comments on the declaration that follows. -/
def commentLines (text : String) : List String :=
  (Text.lines text.toList).map fun line => "/// " ++ String.ofList line

/-- The comments on a type: its display name, and its description after an empty comment. -/
def comments (t : TypeDescriptor) : List String :=
  commentLines t.displayName ++
    match t.description with
    | some d => if d.isEmpty then [] else "///" :: commentLines d
    | none => []

/-- The attribute and the declaration of a type. -/
def declaration (t : TypeDescriptor) : List String :=
  ["#[model(alias = " ++ Text.quote t.aliasName ++ ")]", "pub struct " ++ t.bindingName ++ ";"]

/-- The note on a property. -/
def propertyNote (s : Snapshot) (p : PropertyDescriptor) : String :=
  "// property " ++ p.bindingName ++ ": " ++ (p.type.mapModels (resolve s)).text

/-- The notes on a type. -/
def notes (s : Snapshot) (t : TypeDescriptor) : List String :=
  ["// kind: " ++ t.kind.label]
    ++ ((s.baseOf? t).map fun b => "// extends: " ++ b.bindingName).toList
    ++ (match s.mixinsOf t with
      | [] => []
      | mixins => ["// mixes: " ++ ", ".intercalate (mixins.map (·.bindingName))])
    ++ t.properties.map (propertyNote s)

/-- The lines for a type, after an empty one. -/
def typeLines (s : Snapshot) (t : TypeDescriptor) : List String :=
  "" :: comments t ++ declaration t ++ notes s t

/-- The types for which a model is emitted, in the order of their aliases. -/
def emittedTypes (s : Snapshot) (files : UserFiles) : List TypeDescriptor :=
  s.byAlias.filter fun t => !(declaredAliases files).contains (Text.lower t.aliasName)

/-- The line with which emitted source begins. -/
def preamble : String :=
  "use crate::models::prelude::*;"

/-- The lines of the emitted source. -/
def emittedLines (s : Snapshot) (files : UserFiles) : List String :=
  preamble :: (emittedTypes s files).flatMap (typeLines s)

end Emission

/-- Lines as a text, each with a line feed at its end. -/
def unlines (ls : List String) : String :=
  String.join (ls.map (· ++ "\n"))

/-- The source that declares the models of a snapshot beside the files that users write. -/
def Emission.emit (s : Snapshot) (files : UserFiles) : String :=
  unlines (emittedLines s files)

end LiveModels
